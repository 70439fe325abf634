import DirectoryClient.Proofs.Cursor.Items

/-! What becomes of a search while it is read, as it shows in its slot: responses arrive, the search may
fail, the time to wait may pass, and the server may be asked to give it up. -/
namespace DirectoryClient

inductive Incident where
  | arrived (m : Message)
  | failed (e : DirectoryError)
  /-- The time to wait for a response has passed, and there is none. -/
  | expired
  /-- It was attempted to ask the server to give the search up. -/
  | abandoned

namespace Incident

/-- A response on which a cursor can stand has arrived. -/
def isPosition : Incident → Bool
  | arrived m => m.isPosition
  | _ => false

def isAbandoned : Incident → Bool
  | abandoned => true
  | _ => false

/-- The result of the search, if its last response has arrived. -/
def final? : Incident → Option OperationResult
  | arrived m => m.final?
  | _ => none

/-- The last response of the search has arrived, with the code zero, before anything happened but that
positions arrived. -/
def Succeeds (xs : List Incident) : Prop :=
  ∃ x r, xs.find? (!·.isPosition) = some x ∧ x.final? = some r ∧ r.code = 0

variable {ms : List Message} {x : Incident} {xs : List Incident}

/-- What comes first after the positions decides. -/
theorem succeeds_iff (hms : ∀ m ∈ ms, m.isPosition = true) (hx : x.isPosition = false) :
    Succeeds (ms.map arrived ++ x :: xs) ↔ ∃ r, x.final? = some r ∧ r.code = 0 := by
  have hnone : (ms.map arrived).find? (!·.isPosition) = none := by
    refine List.find?_eq_none.mpr fun y hy => ?_
    obtain ⟨m, hm, rfl⟩ := List.mem_map.mp hy
    simp [isPosition, hms m hm]
  have hfirst : (ms.map arrived ++ x :: xs).find? (!·.isPosition) = some x := by
    rw [List.find?_append, hnone, Option.none_or, List.find?_cons_of_pos (by simp [hx])]
  rw [Succeeds, hfirst]
  constructor
  · rintro ⟨y, r, hy, hr⟩
    cases hy
    exact ⟨r, hr⟩
  · rintro ⟨r, hr⟩
    exact ⟨x, r, rfl, hr⟩

end Incident

namespace Stream

open Incident (arrived)

/-- A slot, after any deliveries. Whoever has failed a search delivers nothing more. -/
inductive Supplied (s : Stream) : Stream → Prop
  | refl : Supplied s s
  | deliver {s' : Stream} (id : MessageId) (d : Delivery) : Supplied s s' → s'.failure = none →
    Supplied s (Slot.Supply.deliver id d s')

def incidents (taken : List Message) (s : Stream) : List Incident :=
  (taken ++ s.queue).map .arrived ++ s.failure.toList.map .failed

def since (s s' : Stream) : List Incident :=
  (s'.queue.drop s.queue.length).map .arrived ++
    if s.failure.isNone then s'.failure.toList.map .failed else []

def isSilent (s : Stream) : Bool := s.queue.isEmpty && !s.isDone

/-- A search of which nothing is left: it has come to its end, or it has failed, and it was not attempted
to give it up; or that was attempted once. -/
inductive Disposed (s : Stream) (xs : List Incident) : Prop
  | completed : s.phase = .completed → xs.countP Incident.isAbandoned = 0 → Disposed s xs
  | failed (e : DirectoryError) : s.failure = some e → xs.countP Incident.isAbandoned = 0 →
    Disposed s xs
  | abandoned : s.phase = .cancelled true → xs.countP Incident.isAbandoned = 1 → Disposed s xs

section Supplied

variable {s s' s'' : Stream}

theorem Supplied.trans (h : s.Supplied s') (h' : s'.Supplied s'') : s.Supplied s'' := by
  induction h' with
  | refl => exact h
  | deliver id d _ hf ih => exact ih.deliver id d hf

theorem Supplied.push (m : Message) (hf : s.failure = none) : s.Supplied (s.push m).2 :=
  Supplied.refl.deliver 0 (.push m) hf

/-- Who fails a search that has failed changes nothing. -/
theorem Supplied.fail (e : DirectoryError) (s : Stream) : s.Supplied (s.fail e) := by
  rcases s.fail_cases e with h | ⟨hf, -⟩
  · rw [h]
    exact .refl
  · exact Supplied.refl.deliver 0 (.fail e) hf

theorem Supplied.forsake (id : MessageId) (s : Stream) : s.Supplied (s.forsake id) := by
  rcases s.forsake_cases id with h | ⟨hf, -⟩
  · rw [h]
    exact .refl
  · exact Supplied.refl.deliver id .forsake hf

private theorem Supplied.eq_of_failed {e : DirectoryError} (h : s.Supplied s')
    (hf : s.failure = some e) :
    s' = s := by
  induction h with
  | refl => rfl
  | deliver id d _ hopen ih =>
    rw [ih, hf] at hopen
    cases hopen

private theorem queue_deliver (id : MessageId) (d : Delivery) (s : Stream) :
    ∃ added, (Slot.Supply.deliver id d s).queue = s.queue ++ added := by
  have hsame : ∀ {s' : Stream}, s'.queue = s.queue → ∃ added, s'.queue = s.queue ++ added :=
    fun h => ⟨[], by rw [h, List.append_nil]⟩
  cases d with
  | push m =>
    rw [deliver_push, push]
    split
    · exact ⟨[m], rfl⟩
    · exact ⟨[m], rfl⟩
    · exact hsame rfl
  | fail e =>
    rw [deliver_fail]
    rcases fail_cases (s := s) e with h | ⟨-, h⟩ <;> exact hsame (by rw [h])
  | forsake =>
    rw [deliver_forsake]
    rcases forsake_cases (s := s) id with h | ⟨-, e, h⟩ <;> exact hsame (by rw [h])

private theorem Supplied.exists_added (h : s.Supplied s') : ∃ added, s'.queue = s.queue ++ added := by
  induction h with
  | refl => exact ⟨[], (List.append_nil _).symm⟩
  | @deliver s' id d _ _ ih =>
    obtain ⟨added, hadded⟩ := ih
    obtain ⟨more, hmore⟩ := queue_deliver id d s'
    exact ⟨added ++ more, by rw [hmore, hadded, List.append_assoc]⟩

theorem Supplied.underway {c : Cursor} (h : s.Supplied s') (hc : c.Underway s) : c.Underway s' := by
  induction h with
  | refl => exact hc
  | deliver id d _ _ ih => exact ih.deliver id d

/-- Nothing is missed between two moments. -/
theorem Supplied.incidents_since (h : s.Supplied s') (taken : List Message) :
    s.incidents taken ++ s.since s' = s'.incidents taken := by
  cases hf : s.failure with
  | some e =>
    obtain rfl := h.eq_of_failed hf
    simp [incidents, since, hf]
  | none =>
    obtain ⟨added, hadded⟩ := h.exists_added
    simp [incidents, since, hf, hadded]

end Supplied

section Incidents

variable (s : Stream) (taken : List Message)

theorem countP_incidents : (s.incidents taken).countP Incident.isAbandoned = 0 := by
  rw [List.countP_eq_zero]
  intro x hx
  simp only [incidents, List.mem_append, List.mem_map] at hx
  rcases hx with ⟨m, -, rfl⟩ | ⟨e, -, rfl⟩ <;> exact Bool.false_ne_true

theorem incidents_of_queue {m : Message} {ms : List Message} (hq : s.queue = m :: ms) :
    s.incidents taken = taken.map .arrived ++ .arrived m :: incidents [] { s with queue := ms } := by
  simp [incidents, hq]

/-- What is taken out of a slot has arrived before. -/
theorem incidents_take {m : Message} {ms : List Message} (hq : s.queue = m :: ms) :
    incidents (taken ++ [m]) { s with queue := ms } = s.incidents taken := by
  simp [incidents, hq]

end Incidents

end Stream

end DirectoryClient
