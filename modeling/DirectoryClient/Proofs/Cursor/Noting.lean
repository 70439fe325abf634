import DirectoryClient.Cursor.Access
import DirectoryClient.Proofs.Cursor.Incidents

/-! Reading a search in a world in which it is noted what becomes of it. Apart from the notes, the search
is read there in the same way. -/
namespace DirectoryClient

structure Noted (ω : Type) where
  world : ω
  incidents : List Incident := []

namespace StreamAccess

variable {ω κ α : Type}

def noting (a : StreamAccess ω) : StreamAccess (Noted ω) where
  get y := a.get y.world
  put s y := { y with world := a.put s y.world }
  abandon y := { world := a.abandon y.world, incidents := y.incidents ++ [.abandoned] }
  settle y :=
    { world := a.settle y.world
      incidents := y.incidents ++ (a.get y.world).since (a.get (a.settle y.world)) }
  pass y :=
    { world := a.pass y.world
      incidents := y.incidents ++ (a.get y.world).since (a.get (a.pass y.world)) ++
        if a.isBounded && (a.get (a.pass y.world)).isSilent then [.expired] else [] }
  isBounded := a.isBounded

section Erasure

variable (a : StreamAccess ω) (y : Noted ω)

theorem isBounded_noting : a.noting.isBounded = a.isBounded := rfl

private theorem world_settle : (a.noting.settle y).world = a.settle y.world := rfl

theorem world_pass : (a.noting.pass y).world = a.pass y.world := rfl

theorem commit_noting (m : Move κ α) : a.noting.commit m y =
    { world := a.commit m y.world
      incidents := y.incidents ++ if m.abandons then [.abandoned] else [] } := by
  rw [commit, commit]
  cases m.abandons <;> simp [noting]

theorem world_commit (m : Move κ α) : (a.noting.commit m y).world = a.commit m y.world := by
  rw [commit_noting]

def erase (x : α × κ × Noted ω) : α × κ × ω := (x.1, x.2.1, x.2.2.world)

private theorem glance_noting (move : Bool → κ → Stream → Move κ α) (late : Bool) (reader : κ) :
    erase (a.noting.glance move late reader y) = a.glance move late reader y.world :=
  congrArg (fun w => (_, _, w)) (a.world_commit y (move late reader (a.get y.world)))

variable {a y} {move : Bool → κ → Stream → Move κ α} {reader : κ}

/-- A wait that ends with notes ends in the same way without them, -/
private theorem await_of_noting {x : α × κ × Noted ω} (h : a.noting.await? move reader y = some x) :
    a.await? move reader y.world = some (erase x) := by
  refine await?.partial_correctness a.noting move
    (fun reader y x => a.await? move reader y.world = some (erase x))
    (fun await ih reader y x hx => ?_) reader y x h
  rw [await?, ← world_pass, ← glance_noting]
  rw [isBounded_noting] at hx
  generalize a.noting.glance move a.isBounded reader (a.noting.pass y) = glanced at hx ⊢
  rcases glanced with ⟨_ | r, reader', y'⟩
  · exact ih reader' y' x hx
  · cases hx
    rfl

/-- and conversely. -/
private theorem noting_of_await {w : ω} {x : α × κ × ω} (h : a.await? move reader w = some x) :
    ∀ y : Noted ω, y.world = w → ∃ y', a.noting.await? move reader y = some (x.1, x.2.1, y') := by
  refine await?.partial_correctness a move (fun reader w x => ∀ y : Noted ω, y.world = w →
    ∃ y', a.noting.await? move reader y = some (x.1, x.2.1, y'))
    (fun await ih reader w x hx => ?_) reader w x h
  rintro y rfl
  rw [await?, isBounded_noting]
  rw [← world_pass, ← glance_noting] at hx
  generalize a.noting.glance move a.isBounded reader (a.noting.pass y) = glanced at hx ⊢
  rcases glanced with ⟨_ | r, reader', y'⟩
  · exact ih reader' y'.world x hx y' rfl
  · cases hx
    exact ⟨y', rfl⟩

private theorem map_erase {o : Option (α × κ × Noted ω)} {o' : Option (α × κ × ω)}
    (h : ∀ x, o = some x → o' = some (erase x))
    (h' : ∀ x, o' = some x → ∃ y', o = some (x.1, x.2.1, y')) : o.map erase = o' := by
  cases o with
  | some x => exact (h x rfl).symm
  | none =>
    cases o' with
    | none => rfl
    | some x =>
      obtain ⟨y', hy'⟩ := h' x rfl
      cases hy'

private theorem await_noting (move : Bool → κ → Stream → Move κ α) (reader : κ) (y : Noted ω) :
    (a.noting.await? move reader y).map erase = a.await? move reader y.world :=
  map_erase (fun _ => await_of_noting) fun _ h => noting_of_await h y rfl

private theorem next_noting (c : Cursor) (y : Noted ω) :
    (a.noting.next? c y).map erase = a.next? c y.world := by
  rw [next?, next?, perform?, perform?, ← world_settle, ← glance_noting]
  rcases a.noting.glance Cursor.next false c (a.noting.settle y) with ⟨_ | r, c', y'⟩
  · exact await_noting Cursor.next c' y'
  · rfl

/-- A search that is read to its end with notes is read to the same end without them, -/
private theorem drain_of_noting {c : Cursor} {y : Noted ω} {x : Bool × Cursor × Noted ω}
    (h : a.noting.drain? c y = some x) : a.drain? c y.world = some (erase x) := by
  refine drain?.partial_correctness a.noting
    (fun c y x => a.drain? c y.world = some (erase x)) (fun drain ih c y x hx => ?_) c y x h
  rw [drain?, ← next_noting]
  split at hx
  · cases hx
  · rename_i c' y' hnext
    rw [hnext]
    exact ih c' y' x hx
  · rename_i c' y' hnext
    rw [hnext]
    cases hx
    rfl
  · rename_i e c' y' hnext
    rw [hnext]
    cases hx
    rfl

/-- and conversely. -/
private theorem noting_of_drain {c : Cursor} {w : ω} {x : Bool × Cursor × ω}
    (h : a.drain? c w = some x) : ∀ y : Noted ω, y.world = w →
      ∃ y', a.noting.drain? c y = some (x.1, x.2.1, y') := by
  refine drain?.partial_correctness a
    (fun c w x => ∀ y : Noted ω, y.world = w → ∃ y', a.noting.drain? c y = some (x.1, x.2.1, y'))
    (fun drain ih c w x hx => ?_) c w x h
  rintro y rfl
  rw [drain?]
  rw [← next_noting] at hx
  generalize a.noting.next? c y = moved at hx ⊢
  rcases moved with _ | ⟨_ | goesOn, c', y'⟩
  · cases hx
  · cases hx
    exact ⟨y', rfl⟩
  · cases goesOn with
    | false =>
      cases hx
      exact ⟨y', rfl⟩
    | true => exact ih c' y'.world x hx y' rfl

/-- Notes change nothing. -/
theorem drain_noting (c : Cursor) (y : Noted ω) :
    (a.noting.drain? c y).map erase = a.drain? c y.world :=
  map_erase (fun _ => drain_of_noting) fun _ h => noting_of_drain h y rfl

end Erasure

end StreamAccess

end DirectoryClient
