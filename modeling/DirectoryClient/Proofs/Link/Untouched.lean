import DirectoryClient.Link.Driver

/-! What the driver leaves alone when it registers a request, hands out a message or lets down those who
wait: it touches slots, tables and the ids in use. -/
namespace DirectoryClient.Link

structure Untouched (l l' : Link) : Prop where
  queue : l'.line.queue = l.line.queue
  isOpen : l'.line.isOpen = l.line.isOpen
  isUp : l'.isUp = l.isUp
  inbound : l'.inbound = l.inbound

namespace Untouched

variable {l l' l'' : Link}

private theorem refl (l : Link) : l.Untouched l := ⟨rfl, rfl, rfl, rfl⟩

private theorem trans (h : l.Untouched l') (h' : l'.Untouched l'') : l.Untouched l'' :=
  ⟨h'.queue.trans h.queue, h'.isOpen.trans h.isOpen, h'.isUp.trans h.isUp,
    h'.inbound.trans h.inbound⟩

end Untouched

variable (l : Link)

theorem untouched_close (o : Operation) : l.Untouched (l.close o) := by
  cases o <;> exact ⟨rfl, rfl, rfl, rfl⟩

theorem untouched_closeAll (os : List Operation) :
    l.Untouched (os.foldl (fun l o => l.close o) l) := by
  induction os generalizing l with
  | nil => exact .refl l
  | cons o os ih => exact (l.untouched_close o).trans (ih (l.close o))

theorem untouched_register (s : Submission) : l.Untouched (l.register s) := by
  rw [register]
  cases s.operation with
  | single t =>
    simp only [awaitSingle, takeOut]
    cases l.singles.lookup s.id <;> exact ⟨rfl, rfl, rfl, rfl⟩
  | search t =>
    simp only [awaitSearch, takeOut]
    cases l.searches.lookup s.id <;> exact ⟨rfl, rfl, rfl, rfl⟩
  | abandon target =>
    simp only [giveUp, takeOut]
    cases l.singles.lookup target <;> cases l.searches.lookup target <;> exact ⟨rfl, rfl, rfl, rfl⟩
  | unbind => exact .refl l

private theorem untouched_route (m : Message) : l.Untouched (l.route m) := by
  rw [route]
  cases l.searches.lookup m.id with
  | some t =>
    simp only
    split <;> exact ⟨rfl, rfl, rfl, rfl⟩
  | none => cases l.singles.lookup m.id <;> exact ⟨rfl, rfl, rfl, rfl⟩

theorem untouched_dispatch (m : Message) : l.Untouched (l.dispatch m).2 := by
  rw [dispatch]
  split
  · exact .refl l
  · exact l.untouched_route m

end DirectoryClient.Link
