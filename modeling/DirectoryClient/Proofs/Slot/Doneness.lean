import DirectoryClient.Proofs.Slot.OrderedStream

/-! When a search is done: once the last response has come, or a failure, or it has been given up. -/
namespace DirectoryClient

namespace Slot

variable {σ α δ : Type} [Slot σ α] [Supply σ δ] {id : MessageId} {g g' : Gathering σ α} {i : Nat}

def Finding.position : Finding α → Position α
  | settled o => .finished o
  | blocked => .looking
  | lapsed => .cancelling

theorem Acts.of_looked {f : Finding α} (h : Acts (δ := δ) id g (.looked i f) g') :
    ∃ w late, g.waiters[i]? = some w ∧ w.position = .looking ∧ (examine id late g.slot).1 = f ∧
      g' = { g with
        slot := (examine id late g.slot).2
        waiters := g.waiters.set i { w with position := f.position } } := by
  cases h with
  | look _ w hi hw =>
    obtain ⟨hslot, hwaiter⟩ := w.step_looking id g.now g.slot hw
    refine ⟨w, _, hi, hw, rfl, ?_⟩
    rw [hslot, hwaiter]
    cases (examine id (w.deadline.any (· ≤ g.now)) g.slot).1 <;> rfl

theorem Acts.of_expired {won : Bool} (h : Acts (δ := δ) id g (.expired i won) g') :
    ∃ w, g.waiters[i]? = some w ∧ w.position = .cancelling ∧ (Slot.cancel true g.slot).1 = won ∧
      g' = { g with
        slot := (Slot.cancel true g.slot).2
        waiters := g.waiters.set i { w with
          position := if won then Position.finished (.error (.responseTimeout id)) else .looking }
        owed := g.owed + won.toNat } := by
  cases h with
  | expire _ w hi hw =>
    obtain ⟨hslot, hwon, hwaiter⟩ := w.step_cancelling id g.now g.slot hw
    exact ⟨w, hi, hw, hwon.symm, by rw [hslot, hwaiter, hwon]⟩

end Slot

namespace Stream

open Slot (Gathering Event Section)

/-- A caller that finds itself too late has found nothing queued. -/
theorem queue_of_lapsed {id : MessageId} {late : Bool} {s : Stream}
    (h : (s.examine id late).1 = .lapsed) : s.phase ≠ .cancelled true ∧ s.queue = [] := by
  rw [examine] at h
  split at h
  · cases h
  · next hp =>
    refine ⟨hp, ?_⟩
    split at h
    · cases h
    · assumption

/-- Whoever gives a search up leaves it done. -/
theorem isDone_of_cancel (interrupt : Bool) (s : Stream) :
    (s.cancel interrupt).2.isDone = true := by
  rw [cancel]
  split
  · simp [isDone]
  · next h =>
    rw [isDone]
    cases hf : s.failure <;> simp_all

theorem push_failure (m : Message) (s : Stream) : (s.push m).2.failure = s.failure := by
  rw [push]
  split <;> rfl

def answers : Event Message Delivery → Bool
  | .delivered (.push m) => m.kind = .done
  | .delivered _ => true
  | _ => false

private theorem isDone_iff {id : MessageId} {s s' : Stream} {b b' : Bool}
    {e : Event Message Delivery} (h : Section id s b e s' b') :
    s'.isDone = true ↔ s.isDone = true ∨ answers e = true ∨ e.wins = true := by
  have cancelled : ∀ interrupt, (s.cancel interrupt).2.isDone = true ↔
      s.isDone = true ∨ (s.cancel interrupt).1 = true := by
    intro interrupt
    refine iff_of_true (isDone_of_cancel interrupt s) ?_
    rcases s.cancel_cases interrupt with ⟨-, -, hwon⟩ | hlost
    · exact .inr (by rw [hwon])
    · exact .inl (by simpa [hlost] using isDone_of_cancel interrupt s)
  cases h with
  | look i late =>
    have hsame : (Slot.examine id late s).2.isDone = s.isDone := by
      rcases s.examine_cases id late with ⟨m, ms, -, -, heq⟩ | ⟨hsame, -⟩
      · exact congrArg (fun p => p.2.isDone) heq
      · exact congrArg isDone hsame
    simp [hsame, answers, Event.wins]
  | expire i => exact (cancelled true).trans (by simp [answers, Event.wins]; rfl)
  | cancel interrupt => exact (cancelled interrupt).trans (by simp [answers, Event.wins]; rfl)
  | deliver d =>
    cases d with
    | push m =>
      by_cases hfinal : s.phase = .completed ∨ s.phase = .cancelled true
      · have hdone : s.isDone = true := by rcases hfinal with h | h <;> simp [isDone, h]
        simp [push_of_final m hfinal, hdone]
      · obtain ⟨hnot, hopen⟩ := not_or.mp hfinal
        rw [deliver_push, push_of_open m hnot hopen]
        by_cases hdone : m.kind = .done <;> simp [hdone, isDone, answers, Event.wins]
    | fail e =>
      refine iff_of_true ?_ (.inr (.inl rfl))
      rw [deliver_fail, fail]
      split
      · simp [isDone]
      · next h =>
        rw [isDone]
        cases hf : s.failure <;> simp_all
    | forsake =>
      refine iff_of_true ?_ (.inr (.inl rfl))
      rw [deliver_forsake, forsake.eq_def]
      split
      · simp [isDone]
      · simp [isDone]
      · next hp hc =>
        rw [isDone]
        cases hf : s.failure <;> cases hphase : s.phase <;> simp_all
  | abandon => simp [answers, Event.wins]

theorem isDone_iff_exists {id : MessageId} {es : List Moment} {g : Gathering Stream Message}
    (h : Slot.Run id ({} : Stream) es g) : g.slot.isDone = true ↔
      (∃ x ∈ es, answers x.event = true) ∨ ∃ x ∈ es, x.event.wins = true := by
  induction h with
  | start => simp [isDone]
  | acts _ hacts ih =>
    rw [isDone_iff hacts.toSection, ih]
    simp only [List.mem_append, List.mem_singleton, or_and_right, exists_or, exists_eq_left]
    exact or_or_or_comm
  | meanwhile _ hm ih => rw [hm.keeps.1, ih]

end Stream

end DirectoryClient
