import DirectoryClient.Link.Driver

/-! What happens at the end of a transport while none of its users acts: the driver takes requests and
hands out messages, the server sends, and the driver may end. -/
namespace DirectoryClient.Link

inductive Drives (l : Link) : Link → Prop
  | refl : Drives l l
  | transmit {l₁ l₂ : Link} {s : Submission} : Drives l l₁ → l₁.transmit? = some (s, l₂) →
    Drives l l₂
  /-- The server sends, and the driver reads. -/
  | inbound {l₁ : Link} (octets : Octets) : Drives l l₁ → Drives l { l₁ with inbound := octets }
  | dispatch {l₁ : Link} (m : Message) : Drives l l₁ → Drives l (l₁.dispatch m).2
  | finish {l₁ : Link} : Drives l l₁ → Drives l l₁.finish

namespace Drives

variable {l l' l'' : Link}

theorem trans (h : l.Drives l') (h' : l'.Drives l'') : l.Drives l'' := by
  induction h' with
  | refl => exact h
  | transmit _ ht ih => exact ih.transmit ht
  | inbound octets _ ih => exact ih.inbound octets
  | dispatch m _ ih => exact ih.dispatch m
  | finish _ ih => exact ih.finish

theorem receive (h : l.Drives l') (hr : l'.receive? = some l'') : l.Drives l'' := by
  rw [receive?] at hr
  split at hr
  · split at hr
    · cases hr
    · rename_i m inbound _
      have hdispatch := (h.inbound inbound).dispatch m
      obtain rfl := Option.some.inj hr
      split
      · exact hdispatch
      · exact hdispatch.finish
    · obtain rfl := Option.some.inj hr
      exact (h.inbound _).finish
  · cases hr

theorem receiveFor (h : l.Drives l') (n : Nat) : l.Drives (l'.receiveFor n) := by
  induction n generalizing l' with
  | zero => exact h
  | succ n ih =>
    rw [Link.receiveFor]
    cases hr : l'.receive? with
    | none => exact h
    | some l'' => exact ih (h.receive hr)

end Drives

end DirectoryClient.Link
