import DirectoryClient.Slot.Reply
import DirectoryClient.Slot.Stream

/-! What one section does to a slot, by the state that it finds. -/
namespace DirectoryClient

namespace Reply

variable {α : Type} (r : Reply α)

/-- Looking leaves a reply as it is. -/
@[simp]
theorem examine_slot (id : MessageId) (late : Bool) : (r.examine id late).2 = r := by
  rw [examine.eq_def]
  split <;> rfl

/-- A cancellation that counts comes while the operation goes on. -/
theorem cancel_cases (interrupt : Bool) :
    (r.phase = .pending ∧ r.cancel interrupt = (true, { r with phase := .cancelled interrupt })) ∨
      r.cancel interrupt = (false, r) := by
  by_cases h : r.phase = .pending
  · exact .inl ⟨h, if_pos h⟩
  · exact .inr (if_neg h)

/-- A reply that is completed or interrupted takes no outcome. -/
theorem complete_of_final (o : Outcome α) (h : r.phase = .completed ∨ r.phase = .cancelled true) :
    r.complete o = (false, r) := by
  rcases h with h | h <;> simp [complete, h]

/-- A slot that is forsaken fails. -/
theorem forsake_eq (id : MessageId) : r.forsake id = (r.complete (.error
    (if r.phase = .pending then .connectionClosed else .operationCancelled id))).2 := by
  rcases r with ⟨phase, outcome⟩
  cases phase with
  | pending | completed => rfl
  | cancelled interrupted => cases interrupted <;> cases outcome <;> rfl

end Reply

namespace Stream

variable {s : Stream}

/-- A caller takes the first of what is queued, or leaves the slot as it is. -/
theorem examine_cases (id : MessageId) (late : Bool) :
    (∃ m ms, s.phase ≠ .cancelled true ∧ s.queue = m :: ms ∧
      s.examine id late = (.settled (.ok m), { s with queue := ms })) ∨
    (s.examine id late).2 = s ∧ ∀ m, (s.examine id late).1 ≠ .settled (.ok m) := by
  rw [examine]
  split
  · exact .inr ⟨rfl, nofun⟩
  · rename_i hphase
    split
    · rename_i m ms hqueue
      exact .inl ⟨m, ms, hphase, hqueue, rfl⟩
    · refine .inr ?_
      split
      · exact ⟨rfl, nofun⟩
      · split
        · exact ⟨rfl, nofun⟩
        · split
          · exact ⟨rfl, nofun⟩
          · split <;> exact ⟨rfl, nofun⟩

/-- A caller who fails finds an interruption, the end, a failure, or its own time over after a
cancellation; except for the first, nothing is queued. -/
theorem examine_error {id : MessageId} {late : Bool} {e : DirectoryError}
    (h : (s.examine id late).1 = .settled (.error e)) :
    s.phase = .cancelled true ∧ e = .operationCancelled id ∨
      s.phase ≠ .cancelled true ∧ s.queue = [] ∧
        (s.phase = .completed ∧ e = .endOfStream ∨
          s.phase ≠ .completed ∧ s.failure = some e ∨
          s.phase = .cancelled false ∧ s.failure = none ∧ late = true ∧
            e = .operationCancelled id) := by
  rw [examine] at h
  split at h
  · next hi => cases h; exact .inl ⟨hi, rfl⟩
  · next hi =>
    split at h
    · cases h
    · next hqueue =>
      refine .inr ⟨hi, hqueue, ?_⟩
      split at h
      · next hc => cases h; exact .inl ⟨hc, rfl⟩
      · next hc =>
        split at h
        · next hf => cases h; exact .inr (.inl ⟨hc, hf⟩)
        · next hf =>
          split at h
          · cases h
          · next hlate =>
            split at h
            · cases h
            · next hp =>
              cases h
              refine .inr (.inr ⟨?_, hf, by simpa using hlate, rfl⟩)
              cases hphase : s.phase with
              | pending => exact absurd hphase hp
              | completed => exact absurd hphase hc
              | cancelled interrupted =>
                cases interrupted with
                | true => exact absurd hphase hi
                | false => rfl

/-- A cancellation that counts comes while the search goes on. -/
theorem cancel_cases (interrupt : Bool) :
    (s.phase = .pending ∧ s.failure = none ∧ s.cancel interrupt = (true, { s with
      phase := .cancelled interrupt
      queue := if interrupt then [] else s.queue })) ∨ s.cancel interrupt = (false, s) := by
  rw [cancel]
  split
  · rename_i hgoes
    rw [Bool.and_eq_true] at hgoes
    exact .inl ⟨by simpa using hgoes.1, by simpa using hgoes.2, rfl⟩
  · exact .inr rfl

variable (m : Message)

/-- A search that is neither completed nor interrupted takes a response. -/
theorem push_of_open (h : s.phase ≠ .completed) (hi : s.phase ≠ .cancelled true) :
    s.push m = (true, { s with
      phase := if m.kind = .done then .completed else s.phase
      queue := s.queue ++ [m] }) := by
  rw [push.eq_def]
  split
  · rfl
  · rfl
  · rename_i hp hc
    cases hphase : s.phase with
    | pending => exact absurd hphase hp
    | completed => exact absurd hphase h
    | cancelled interrupted =>
      cases interrupted with
      | true => exact absurd hphase hi
      | false => exact absurd hphase hc

/-- One that is completed or interrupted takes none. -/
theorem push_of_final (h : s.phase = .completed ∨ s.phase = .cancelled true) :
    s.push m = (false, s) := by
  rcases h with h | h <;> rw [push.eq_def, h]

/-- A failure is recorded once. -/
theorem fail_cases (e : DirectoryError) :
    s.fail e = s ∨ s.failure = none ∧ s.fail e = { s with failure := some e } := by
  rw [fail]
  split
  · next h =>
    rw [Bool.and_eq_true] at h
    exact .inr ⟨by simpa using h.2, rfl⟩
  · exact .inl rfl

/-- A search that is forsaken fails, if it has not failed yet. -/
theorem forsake_cases (id : MessageId) :
    s.forsake id = s ∨ s.failure = none ∧ ∃ e, s.forsake id = { s with failure := some e } := by
  rw [forsake.eq_def]
  split
  · next hf => exact .inr ⟨hf, _, rfl⟩
  · next hf => exact .inr ⟨hf, _, rfl⟩
  · exact .inl rfl

@[simp]
theorem fail_phase (e : DirectoryError) : (s.fail e).phase = s.phase := by
  rcases fail_cases (s := s) e with h | ⟨-, h⟩ <;> rw [h]

@[simp]
theorem forsake_phase (id : MessageId) : (s.forsake id).phase = s.phase := by
  rcases forsake_cases (s := s) id with h | ⟨-, e, h⟩ <;> rw [h]

end Stream

end DirectoryClient
