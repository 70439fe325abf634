import DirectoryClient.Proofs.Cursor.Moves
import DirectoryClient.Proofs.Cursor.Steps

/-! A cursor that goes on, and what it comes to when it is asked for the next response, by what is queued
for it. -/
namespace DirectoryClient

namespace Slot.Waiter

variable {σ α : Type} [Slot σ α] {id : MessageId} {now : Nat} {w : Waiter α} {s s' : σ}

/-- A caller who finds something is finished at once. -/
theorem run_of_settled {o : Outcome α} (hw : w.position = .looking)
    (h : examine id (w.deadline.any (· ≤ now)) s = (.settled o, s')) :
    w.run id now s =
      { waiter := { w with position := .finished o }, slot := s', sleeps := true } := by
  simp [run, run.go, step, hw, h]

theorem run_of_blocked (hw : w.position = .looking)
    (h : examine id (w.deadline.any (· ≤ now)) s = (.blocked, s')) :
    w.run id now s = { waiter := w, slot := s', sleeps := true } := by
  simp [run, run.go, step, hw, h]

/-- A caller whose time is over cancels, and is finished if that counts. -/
theorem run_of_lapsed {s'' : σ} (hw : w.position = .looking)
    (h : examine id (w.deadline.any (· ≤ now)) s = (.lapsed, s'))
    (hc : Slot.cancel (α := α) true s' = (true, s'')) :
    w.run id now s =
      { waiter := { w with position := .finished (.error (.responseTimeout id)) }, slot := s''
        sleeps := true, abandons := true } := by
  simp [run, run.go, step, hw, h, hc]

end Slot.Waiter

namespace Cursor

open Slot (Waiter)

/-- A cursor that goes on, over a search that has not been given up. If the last response has come, it
is the last that is queued. -/
structure Underway (c : Cursor) (s : Stream) : Prop where
  isOver : c.isOver = false
  done : c.done = none
  uncancelled : ∀ interrupted, s.phase ≠ .cancelled interrupted
  completed : s.phase = .completed → ∃ m ∈ s.queue, m.kind = .done
  last : ∀ front m back, s.queue = front ++ m :: back → m.kind = .done →
    back = [] ∧ s.phase = .completed

section Next

variable {c : Cursor} {s : Stream} {m : Message} {ms : List Message}

private theorem next_of_run {late : Bool} {step : Slot.Step Stream Message} {o : Outcome Message}
    (ho : c.isOver = false)
    (hrun : Waiter.run c.id 0 { deadline := if late then some 0 else none } s = step)
    (hout : step.waiter.outcome? = some o) : c.next late s =
      { c.receive step.slot o with abandons := step.abandons || (c.receive step.slot o).abandons } := by
  rw [next, ho, if_neg Bool.false_ne_true]
  simp only [hrun, hout]

private theorem any_late (late : Bool) :
    (if late then some 0 else none : Option Nat).any (· ≤ 0) = late := by
  cases late <;> rfl

/-- The cursor looks at the first response that is queued. -/
theorem next_of_queue (late : Bool) (h : c.Underway s) (hq : s.queue = m :: ms) :
    c.next late s = c.receive { s with queue := ms } (.ok m) := by
  have hexamine : Slot.examine c.id late s = (.settled (.ok m), { s with queue := ms }) := by
    show s.examine c.id late = _
    rw [Stream.examine, if_neg (h.uncancelled true), hq]
  rw [next_of_run h.isOver (Waiter.run_of_settled rfl (by rw [any_late]; exact hexamine)) rfl]
  rfl

section Empty

variable (h : c.Underway s) (hq : s.queue = [])
include h hq

theorem Underway.pending : s.phase = .pending := by
  cases hp : s.phase with
  | pending => rfl
  | completed =>
    obtain ⟨m, hm, -⟩ := h.completed hp
    rw [hq] at hm
    cases hm
  | cancelled interrupted => exact absurd hp (h.uncancelled interrupted)

theorem next_of_failure (late : Bool) {e : DirectoryError} (hf : s.failure = some e) :
    c.next late s = c.fail s e := by
  have hexamine : Slot.examine c.id late s = (.settled (.error e), s) := by
    show s.examine c.id late = _
    simp [Stream.examine, h.pending hq, hq, hf]
  rw [next_of_run h.isOver (Waiter.run_of_settled rfl (by rw [any_late]; exact hexamine)) rfl]
  rfl

theorem next_of_nothing (hf : s.failure = none) :
    c.next false s = { result := none, reader := c, stream := s } := by
  have hexamine : Slot.examine c.id false s = (.blocked, s) := by
    show s.examine c.id false = _
    simp [Stream.examine, h.pending hq, hq, hf]
  have hrun : Waiter.run c.id 0 { deadline := none } s =
      { waiter := { deadline := none }, slot := s, sleeps := true } :=
    Waiter.run_of_blocked rfl hexamine
  rw [next, h.isOver, if_neg Bool.false_ne_true]
  simp only [Bool.false_eq_true, ↓reduceIte, hrun]
  rfl

/-- A cursor whose time is over gives the search up, and fails. -/
theorem next_of_late (hf : s.failure = none) : c.next true s =
    { result := some (.error (.cursorBroken (.responseTimeout c.id)))
      reader := { c with place := .failed }, stream := { s with phase := .cancelled true }
      abandons := true } := by
  have hexamine : Slot.examine c.id true s = (.lapsed, s) := by
    show s.examine c.id true = _
    simp [Stream.examine, h.pending hq, hq, hf]
  have hcancel : Slot.cancel (α := Message) true s = (true, { s with phase := .cancelled true }) := by
    show s.cancel true = _
    simp [Stream.cancel, h.pending hq, hf, hq]
  rw [next_of_run h.isOver (Waiter.run_of_lapsed rfl hexamine hcancel) rfl]
  simp [receive, fail, Stream.cancel]

end Empty

end Next

/-- A response on which the cursor has come to stand leaves it under way. -/
theorem Underway.take {c : Cursor} {s : Stream} {m : Message} {ms : List Message} (h : c.Underway s)
    (hq : s.queue = m :: ms) (hm : m.isPosition = true) :
    Underway { c with place := .on m } { s with queue := ms } where
  isOver := rfl
  done := h.done
  uncancelled := h.uncancelled
  completed hp := by
    obtain ⟨x, hx, hdone⟩ := h.completed hp
    rw [hq] at hx
    rcases List.mem_cons.mp hx with rfl | hx
    · exact absurd hdone (Message.kind_of_isPosition hm)
    · exact ⟨x, hx, hdone⟩
  last front x back hsplit := h.last (m :: front) x back (by rw [hq, show ms = _ from hsplit]; rfl)

/-- A cursor that is under way stays so, whatever is delivered. -/
theorem Underway.deliver {c : Cursor} {s : Stream} (h : c.Underway s) (id : MessageId)
    (d : Stream.Delivery) : c.Underway (Slot.Supply.deliver id d s) := by
  have hsame : ∀ {s' : Stream}, s'.phase = s.phase → s'.queue = s.queue → c.Underway s' :=
    fun hp hq => ⟨h.isOver, h.done, by rw [hp]; exact h.uncancelled,
      by rw [hp, hq]; exact h.completed, by rw [hp, hq]; exact h.last⟩
  cases d with
  | push m =>
    by_cases hp : s.phase = .completed
    · rw [Stream.deliver_push, Stream.push_of_final m (.inl hp)]
      exact h
    · rw [Stream.deliver_push, Stream.push_of_open m hp (h.uncancelled true)]
      refine ⟨h.isOver, h.done, fun interrupted => ?_, fun hc => ?_, fun front x back hsplit hx => ?_⟩
      · by_cases hm : m.kind = .done
        · simp [hm]
        · simpa [hm] using h.uncancelled interrupted
      · by_cases hm : m.kind = .done
        · exact ⟨m, by simp, hm⟩
        · exact absurd (by simpa [hm] using hc) hp
      · have hbefore : ∀ y ∈ s.queue, y.kind ≠ .done := by
          intro y hy hdone
          obtain ⟨front, back, hsplit⟩ := List.append_of_mem hy
          exact hp (h.last front y back hsplit hdone).2
        rcases List.eq_nil_or_concat back with rfl | ⟨back, y, rfl⟩
        · obtain rfl := List.singleton_inj.mp (List.append_inj' hsplit rfl).2
          exact ⟨rfl, if_pos hx⟩
        · have hlonger : s.queue ++ [m] = (front ++ x :: back) ++ [y] := by
            rw [show s.queue ++ [m] = _ from hsplit]
            simp
          have hmem : x ∈ s.queue := by
            rw [(List.append_inj' hlonger rfl).1]
            simp
          exact absurd hx (hbefore x hmem)
  | fail e =>
    rw [Stream.deliver_fail]
    rcases Stream.fail_cases (s := s) e with hf | ⟨-, hf⟩ <;> exact hsame (by rw [hf]) (by rw [hf])
  | forsake =>
    rw [Stream.deliver_forsake]
    rcases Stream.forsake_cases (s := s) id with hf | ⟨-, e, hf⟩ <;>
      exact hsame (by rw [hf]) (by rw [hf])

theorem receive_of_isPosition {c : Cursor} {s : Stream} {m : Message} (hm : m.isPosition = true) :
    c.receive s (.ok m) =
      { result := some (.ok true), reader := { c with place := .on m }, stream := s } := by
  rw [Message.isPosition] at hm
  rw [receive]
  split at hm <;> simp_all

theorem receive_of_done {c : Cursor} {s : Stream} {m : Message} {r : OperationResult}
    (hm : m.response = .done r) : c.receive s (.ok m) =
      { result := some (.ok false), stream := s
        reader := { c with place := .exhausted, done := some r } } := by
  simp only [receive, hm]

theorem receive_of_unexpected {c : Cursor} {s : Stream} {m : Message} (hm : m.isPosition = false)
    (hd : m.kind ≠ .done) :
    c.receive s (.ok m) = c.fail s (.decoding (.unexpectedInSearch m.kind m.id)) := by
  have hreceived := c.receive_received s (.ok m)
  generalize c.receive s (.ok m) = move at hreceived
  cases hreceived with
  | position _ h => cases hm.symm.trans h
  | done _ r h => exact absurd (by rw [Message.kind, h]; rfl) hd
  | unexpected => rfl

/-- A cursor waits only if nothing is queued, nothing has failed, and there is time. -/
theorem Underway.of_waits {c : Cursor} {s : Stream} {late : Bool} (h : c.Underway s)
    (hnone : (c.next late s).result = none) :
    late = false ∧ s.phase = .pending ∧ s.queue = [] ∧ s.failure = none := by
  cases hq : s.queue with
  | cons m ms =>
    rw [next_of_queue late h hq] at hnone
    obtain ⟨result, hresult⟩ := Reading.receive_result c { s with queue := ms } (.ok m)
    cases hresult.symm.trans hnone
  | nil =>
    cases hf : s.failure with
    | some e =>
      rw [next_of_failure h hq late hf] at hnone
      cases hnone
    | none =>
      cases late with
      | true =>
        rw [next_of_late h hq hf] at hnone
        cases hnone
      | false => exact ⟨rfl, h.pending hq, rfl, rfl⟩

/-- A cursor in use that goes on is under way, and what it has not visited is queued. -/
theorem Reading.Run.underway {id : MessageId} {timeout : Option Nat} {xs : List Occurrence}
    {r : Reading} (h : Run id timeout xs r) (hnone : r.caller = none)
    (ho : r.cursor.isOver = false) : r.cursor.Underway r.gathering.slot ∧
      Stream.accepted (moments xs) = visited xs ++ r.gathering.slot.queue := by
  obtain ⟨rfl, hrun⟩ := h.slotRun
  have hflow := Stream.run_flow hrun
  have hsound := h.sound
  cases hsound.stage with
  | waiting _ _ hc | holding _ _ _ hc | failing _ _ _ hc => cases hnone.symm.trans hc
  | ended _ _ ho' => cases ho.symm.trans ho'
  | resting _ _ hd hopen he =>
    have hunread : Stream.accepted (moments xs) = visited xs ++ r.gathering.slot.queue := by
      rw [hflow.inOrder hopen, he]
    refine ⟨⟨ho, hd, fun interrupted hp => ?_, fun hc => ?_, fun front m back hsplit hdone => ?_⟩,
      hunread⟩
    · cases interrupted with
      | false => exact hsound.uncancelled hp
      | true => exact hopen hp
    · obtain ⟨m, hm, hdone⟩ := hflow.completed hc
      rw [hunread] at hm
      rcases List.mem_append.mp hm with hm | hm
      · exact absurd hdone (Message.kind_of_isPosition (hsound.positions m hm))
      · exact ⟨m, hm, hdone⟩
    · refine hflow.lastDone (visited xs ++ front) m back ?_ hdone
      rw [hunread, hsplit, List.append_assoc]

end Cursor

end DirectoryClient
