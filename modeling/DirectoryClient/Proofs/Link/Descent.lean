import DirectoryClient.Proofs.Link.Drives
import DirectoryClient.Proofs.Link.Untouched

/-! A transport that is down does not come up again: neither what its users do nor what its driver does
opens a line, or ends the end of a session. -/
namespace DirectoryClient.Link

structure Sinks (l l' : Link) : Prop where
  isUp : l'.isUp = true → l.isUp = true
  isOpen : l'.line.isOpen = true → l.line.isOpen = true

namespace Sinks

variable {l l' l'' : Link}

theorem of_eq (hup : l'.isUp = l.isUp) (hopen : l'.line.isOpen = l.line.isOpen) : l.Sinks l' :=
  ⟨fun h => hup ▸ h, fun h => hopen ▸ h⟩

private theorem of_untouched (h : l.Untouched l') : l.Sinks l' := .of_eq h.isUp h.isOpen

private theorem refl (l : Link) : l.Sinks l := .of_eq rfl rfl

theorem trans (h : l.Sinks l') (h' : l'.Sinks l'') : l.Sinks l'' :=
  ⟨h.isUp ∘ h'.isUp, h.isOpen ∘ h'.isOpen⟩

theorem isConnected (h : l.Sinks l') (hup : l'.isConnected = true) : l.isConnected = true := by
  rw [Link.isConnected, Bool.and_eq_true] at hup ⊢
  exact ⟨h.isUp hup.1, h.isOpen hup.2⟩

end Sinks

variable (l : Link) (id target : MessageId)

section Users

theorem sinks_nextId : l.Sinks l.nextId.2 := by
  refine .of_eq rfl ?_
  rw [nextId, Line.nextId]
  cases l.line.ids.next <;> rfl

theorem sinks_send (s : Submission) : l.Sinks (l.send s).2 := by
  refine .of_eq rfl ?_
  simp only [send, Line.send]
  split <;> rfl

theorem sinks_sendSingle (element : Ber.Element) (controls : Option (List Control)) :
    l.Sinks (l.sendSingle id element controls).2 := by
  have hnew : l.Sinks { l with replies := l.replies ++ [({} : Reply Message)] } := .of_eq rfl rfl
  exact hnew.trans (sinks_send _ _)

theorem sinks_sendSearch (element : Ber.Element) (controls : Option (List Control)) :
    l.Sinks (l.sendSearch id element controls).2 := by
  have hnew : l.Sinks { l with streams := l.streams ++ [({} : Stream)] } := .of_eq rfl rfl
  exact hnew.trans (sinks_send _ _)

theorem sinks_abandon : l.Sinks (l.abandon target).2 := by
  refine .of_eq rfl ?_
  rw [abandon, Line.abandon, Line.nextId]
  cases l.line.ids.next with
  | error e => rfl
  | ok x =>
    dsimp only
    rw [Line.send]
    split <;> rfl

end Users

section Driver

theorem sinks_transmit {l' : Link} {s : Submission} (h : l.transmit? = some (s, l')) :
    l.Sinks l' := by
  rw [transmit?] at h
  split at h
  · cases h
  · rename_i queue _
    split at h
    · have hqueue : l.Sinks { l with line := { l.line with queue } } := .of_eq rfl rfl
      cases h
      exact hqueue.trans (.of_untouched (untouched_register _ s))
    · cases h

theorem sinks_dispatch (m : Message) : l.Sinks (l.dispatch m).2 :=
  .of_untouched (l.untouched_dispatch m)

private theorem sinks_finish : l.Sinks l.finish where
  isUp h := by cases h
  isOpen h := by cases h

variable {l} in
theorem Drives.sinks {l' : Link} (h : l.Drives l') : l.Sinks l' := by
  induction h with
  | refl => exact .refl l
  | transmit _ ht ih => exact ih.trans (sinks_transmit _ ht)
  | inbound octets _ ih => exact ih.trans (.of_eq rfl rfl)
  | dispatch m _ ih => exact ih.trans (sinks_dispatch _ m)
  | finish _ ih => exact ih.trans (sinks_finish _)

end Driver

end DirectoryClient.Link
