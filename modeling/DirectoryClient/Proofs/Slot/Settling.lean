import DirectoryClient.Proofs.Slot.Steps

/-! Slots at which nobody waits, and slots into which nothing has come by the time a transport closes:
whatever consumers and the driver do keeps the first for good, and the second until the driver has
ended. -/
namespace DirectoryClient

namespace Reply

variable {α : Type} {r : Reply α}

def IsSettled (r : Reply α) : Prop := ∀ id late, ∃ o, (r.examine id late).1 = .settled o

def Fails (e : DirectoryError) (r : Reply α) : Prop :=
  ∀ id late, (r.examine id late).1 = .settled (.error e)

def IsUnanswered (r : Reply α) : Prop :=
  r.phase = .completed → r.outcome = some (.error .connectionClosed)

private theorem isSettled_iff : r.IsSettled ↔
    r.phase = .completed ∨ r.phase = .cancelled true ∨
      r.phase = .cancelled false ∧ ∃ o, r.outcome = some o := by
  rcases r with ⟨phase, outcome⟩
  constructor
  · intro h
    obtain ⟨o, ho⟩ := h 0 false
    cases phase with
    | pending => cases ho
    | completed => exact .inl rfl
    | cancelled interrupted =>
      cases interrupted with
      | true => exact .inr (.inl rfl)
      | false =>
        cases outcome with
        | none => cases ho
        | some o => exact .inr (.inr ⟨rfl, o, rfl⟩)
  · rintro (h | h | ⟨h, o, ho⟩) <;> intro id late <;> cases h
    · exact ⟨_, rfl⟩
    · exact ⟨_, rfl⟩
    · cases ho
      exact ⟨_, rfl⟩

/-- Whoever delivers to a slot settles it. -/
theorem isSettled_complete (o : Outcome α) : (r.complete o).2.IsSettled := by
  rcases r with ⟨phase, outcome⟩
  rw [isSettled_iff]
  cases phase with
  | pending | completed => exact .inl rfl
  | cancelled interrupted =>
    cases interrupted with
    | true => exact .inr (.inl rfl)
    | false => cases outcome <;> exact .inr (.inr ⟨rfl, _, rfl⟩)

theorem isSettled_forsake (id : MessageId) : (r.forsake id).IsSettled := by
  rw [forsake_eq]
  exact isSettled_complete _

theorem IsSettled.cancel (h : r.IsSettled) (interrupt : Bool) : (r.cancel interrupt).2.IsSettled := by
  rcases r.cancel_cases interrupt with ⟨hp, -⟩ | hc
  · rw [isSettled_iff, hp] at h
    rcases h with h | h | ⟨h, -⟩ <;> cases h
  · rwa [hc]

theorem isUnanswered_of_pending (h : r.isDone = false) : r.IsUnanswered := by
  intro hc
  rw [isDone, hc] at h
  cases h

theorem IsUnanswered.cancel (h : r.IsUnanswered) (interrupt : Bool) :
    (r.cancel interrupt).2.IsUnanswered := by
  rcases r.cancel_cases interrupt with ⟨-, hc⟩ | hc <;> rw [hc]
  · exact nofun
  · exact h

theorem IsUnanswered.close (h : r.IsUnanswered) :
    (r.complete (.error .connectionClosed)).2.IsUnanswered := by
  rw [complete]
  split
  · exact fun _ => rfl
  · rename_i hp _
    intro hc
    cases hp.symm.trans hc
  · exact h

/-- An unanswered slot at which nobody waits is cancelled, or fails. -/
theorem IsUnanswered.settled (h : r.IsUnanswered) (hs : r.IsSettled) :
    r.isCancelled = true ∨ r.Fails .connectionClosed := by
  rcases isSettled_iff.mp hs with hc | hc | ⟨hc, -⟩
  · refine .inr fun id late => ?_
    simp [examine, hc, h hc]
  · exact .inl (by rw [isCancelled, hc]; rfl)
  · exact .inl (by rw [isCancelled, hc]; rfl)

end Reply

namespace Stream

variable {s : Stream}

def IsSettled (s : Stream) : Prop :=
  ∀ id late, ∃ o, ({ s with queue := [] }.examine id late).1 = .settled o

def Fails (e : DirectoryError) (s : Stream) : Prop :=
  ∀ id late, (s.examine id late).1 = .settled (s.queue.head?.elim (.error e) .ok)

def IsUnanswered (s : Stream) : Prop :=
  s.phase ≠ .completed ∧ ∀ e, s.failure = some e → e = .connectionClosed

private theorem isSettled_iff : s.IsSettled ↔
    s.phase = .completed ∨ s.phase = .cancelled true ∨ ∃ e, s.failure = some e := by
  rcases s with ⟨phase, queue, failure⟩
  constructor
  · intro h
    obtain ⟨o, ho⟩ := h 0 false
    cases phase with
    | completed => exact .inl rfl
    | pending =>
      cases failure with
      | none => cases ho
      | some e => exact .inr (.inr ⟨e, rfl⟩)
    | cancelled interrupted =>
      cases interrupted with
      | true => exact .inr (.inl rfl)
      | false =>
        cases failure with
        | none => cases ho
        | some e => exact .inr (.inr ⟨e, rfl⟩)
  · rintro (h | h | ⟨e, h⟩) <;> intro id late <;> cases h
    · exact ⟨_, rfl⟩
    · exact ⟨_, rfl⟩
    · cases phase with
      | pending | completed => exact ⟨_, rfl⟩
      | cancelled interrupted => cases interrupted <;> exact ⟨_, rfl⟩

/-- Whoever fails a search settles it. -/
theorem isSettled_fail (e : DirectoryError) : (s.fail e).IsSettled := by
  rcases s with ⟨phase, queue, failure⟩
  rw [isSettled_iff]
  cases phase with
  | completed => exact .inl rfl
  | pending => cases failure <;> exact .inr (.inr ⟨_, rfl⟩)
  | cancelled interrupted => cases failure <;> exact .inr (.inr ⟨_, rfl⟩)

theorem isSettled_forsake (id : MessageId) : (s.forsake id).IsSettled := by
  rcases s with ⟨phase, queue, failure⟩
  rw [isSettled_iff]
  cases phase with
  | completed => exact .inl rfl
  | pending => cases failure <;> exact .inr (.inr ⟨_, rfl⟩)
  | cancelled interrupted =>
    cases interrupted with
    | true => exact .inr (.inl rfl)
    | false => cases failure <;> exact .inr (.inr ⟨_, rfl⟩)

/-- The last response settles a search, and one that takes no response is settled. -/
theorem isSettled_push {m : Message} (h : m.kind = .done ∨ (s.push m).1 = false) :
    (s.push m).2.IsSettled := by
  rw [isSettled_iff]
  by_cases hc : s.phase = .completed
  · rw [push_of_final m (.inl hc)]
    exact .inl hc
  by_cases hi : s.phase = .cancelled true
  · rw [push_of_final m (.inr hi)]
    exact .inr (.inl hi)
  rw [push_of_open m hc hi] at h ⊢
  rcases h with h | h
  · exact .inl (if_pos h)
  · cases h

section Settled

variable (h : s.IsSettled)
include h

theorem IsSettled.push (m : Message) : (s.push m).2.IsSettled := by
  rcases isSettled_iff.mp h with hs | hs | ⟨e, hs⟩
  · rwa [push_of_final m (.inl hs)]
  · rwa [push_of_final m (.inr hs)]
  · rw [isSettled_iff]
    refine .inr (.inr ⟨e, ?_⟩)
    rw [push.eq_def]
    split <;> exact hs

theorem IsSettled.cancel (interrupt : Bool) : (s.cancel interrupt).2.IsSettled := by
  rcases s.cancel_cases interrupt with ⟨hp, hf, -⟩ | hc
  · rw [isSettled_iff, hp, hf] at h
    rcases h with h | h | ⟨e, h⟩ <;> cases h
  · rwa [hc]

/-- What is left of a settled search after a look is settled. -/
theorem IsSettled.examine (id : MessageId) (late : Bool) : (s.examine id late).2.IsSettled := by
  rcases s.examine_cases id late with ⟨m, ms, -, -, he⟩ | ⟨he, -⟩ <;> rw [he]
  · exact h
  · exact h

end Settled

theorem isUnanswered_of_pending (h : s.isDone = false) : s.IsUnanswered := by
  simp only [isDone, Bool.or_eq_false_iff, ne_eq, decide_not, Bool.not_eq_false',
    decide_eq_true_eq, Option.isSome_eq_false_iff, Option.isNone_iff_eq_none] at h
  refine ⟨?_, ?_⟩
  · rw [h.1]
    nofun
  · rw [h.2]
    nofun

section Unanswered

variable (h : s.IsUnanswered)
include h

theorem IsUnanswered.cancel (interrupt : Bool) : (s.cancel interrupt).2.IsUnanswered := by
  rcases s.cancel_cases interrupt with ⟨-, -, hc⟩ | hc <;> rw [hc]
  · exact ⟨nofun, h.2⟩
  · exact h

theorem IsUnanswered.examine (id : MessageId) (late : Bool) :
    (s.examine id late).2.IsUnanswered := by
  rcases s.examine_cases id late with ⟨m, ms, -, -, he⟩ | ⟨he, -⟩ <;> rw [he]
  · exact h
  · exact h

theorem IsUnanswered.close : (s.fail .connectionClosed).IsUnanswered := by
  rcases s.fail_cases .connectionClosed with hf | ⟨-, hf⟩ <;> rw [hf]
  · exact h
  · exact ⟨h.1, fun e he => (Option.some.inj he).symm⟩

/-- An unanswered search for which nobody waits is cancelled, or fails. -/
theorem IsUnanswered.settled (hs : s.IsSettled) :
    s.isCancelled = true ∨ s.Fails .connectionClosed := by
  rcases s with ⟨phase, queue, failure⟩
  cases phase with
  | completed => exact absurd rfl h.1
  | cancelled interrupted => exact .inl rfl
  | pending =>
    rcases isSettled_iff.mp hs with hp | hp | ⟨e, he⟩
    · cases hp
    · cases hp
    · cases he
      cases h.2 e rfl
      refine .inr fun id late => ?_
      cases queue <;> rfl

end Unanswered

end Stream

end DirectoryClient
