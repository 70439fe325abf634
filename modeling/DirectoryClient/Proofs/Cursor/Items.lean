import DirectoryClient.Cursor.Entries
import DirectoryClient.Proofs.Cursor.Underway

/-! The next item of an iteration over the entries of a search, by what is queued: responses are taken
until one of them makes an item, or ends the search, or nothing is left. -/
namespace DirectoryClient

namespace EntryIterator

/-- The item of a response on which a cursor can stand. An intermediate response has none. -/
def itemOf (detector : Search.BinaryDetector) (m : Message) : Item :=
  match m.response with
  | .entry e _ => some (Search.Entry.ofElement detector e)
  | .reference urls => some (.error (.referral urls))
  | _ => none

/-- The item of the end of a search: there is none if it has succeeded or was referred elsewhere. -/
def endItem (r : OperationResult) : Item :=
  if r.code = 0 ∨ r.code = 10 then none else some (.error (.operationResult r))

private theorem lastItem_eq (c : Cursor) : lastItem c = c.done.bind endItem := by
  rw [lastItem]
  cases c.done with
  | none => rfl
  | some r =>
    simp only [Option.map_some, Option.bind_some, endItem, OperationResult.nonError,
      OperationResult.isNonError]
    by_cases hr : r.code = 0 ∨ r.code = 10 <;> simp [hr]

private theorem item_of_position {c : Cursor} {m : Message} (hm : m.isPosition = true)
    (hi : m.kind ≠ .intermediate) :
    some (Cursor.entry { c with place := .on m }) = itemOf c.detector m := by
  rw [Message.isPosition] at hm
  rw [Message.kind] at hi
  simp only [itemOf, Cursor.entry, Cursor.current?]
  split at hm <;> simp_all [Response.kind]

structure Continues (it : EntryIterator) (m : Move EntryIterator Item) : Prop where
  id : m.reader.cursor.id = it.cursor.id
  detector : m.reader.cursor.detector = it.cursor.detector
  isReported : m.reader.isReported = it.isReported
  underway : m.reader.cursor.Underway m.stream

/-- How an iteration ends before the first of these responses, or after all that have come: its last
item, and the cause if it breaks off. What the search is left like keeps it so. -/
inductive Ending (late : Bool) (id : MessageId) (after : Stream) :
    List Message → Item → Option DirectoryError → Prop
  | done (x : Message) (r : OperationResult) : x.response = .done r → after.phase = .completed →
    Ending late id after [x] (endItem r) none
  | unexpected (x : Message) (more : List Message) : x.isPosition = false → x.kind ≠ .done →
    Ending late id after (x :: more)
      (some (.error (.cursorBroken (.decoding (.unexpectedInSearch x.kind x.id))))) none
  | failed (e : DirectoryError) : after.failure = some e →
    Ending late id after [] (some (.error (.cursorBroken e))) (some e)
  | late : late = true → after.phase = .cancelled true →
    Ending late id after [] (some (.error (.cursorBroken (.responseTimeout id))))
      (some (.responseTimeout id))

inductive Turn (late : Bool) (it : EntryIterator) (s : Stream) (m : Move EntryIterator Item) : Prop
  | item (taken rest : List Message) (x : Outcome Search.Entry) : s.queue = taken ++ rest →
    (∀ y ∈ taken, y.isPosition = true) → taken.filterMap (itemOf it.cursor.detector) = [x] →
    m.result = some (some x) → m.stream = { s with queue := rest } → it.Continues m →
    Turn late it s m
  | waits : late = false → (∀ y ∈ s.queue, y.kind = .intermediate) → s.phase = .pending →
    s.failure = none → m.result = none → m.stream = { s with queue := [] } → it.Continues m →
    Turn late it s m
  | ends (taken rest : List Message) (item : Item) (cause : Option DirectoryError) :
    s.queue = taken ++ rest → (∀ y ∈ taken, y.isPosition = true) →
    taken.filterMap (itemOf it.cursor.detector) = [] → m.result = some item →
    Ending late it.cursor.id m.stream rest item cause → m.stream.failure = s.failure →
    m.reader.cursor.isOver = true →
    (m.reader.isReported = true ∨ m.reader.cursor.done = none) → Turn late it s m

section Advance

variable {late : Bool} {it : EntryIterator} {s : Stream} {x : Message} {ms : List Message}

theorem isPosition_of_kind (h : x.kind = .intermediate) : x.isPosition = true := by
  rw [Message.kind] at h
  rw [Message.isPosition]
  cases hr : x.response <;> simp_all [Response.kind]

theorem itemOf_intermediate (detector : Search.BinaryDetector) (h : x.kind = .intermediate) :
    itemOf detector x = none := by
  rw [Message.kind] at h
  rw [itemOf]
  cases hr : x.response <;> simp_all [Response.kind]

private theorem Turn.pass {m : Move EntryIterator Item} (hq : s.queue = x :: ms)
    (hx : x.kind = .intermediate) (abandons : Bool)
    (h : Turn late { it with cursor := { it.cursor with place := .on x } } { s with queue := ms } m) :
    Turn late it s { m with abandons } := by
  have hposition : ∀ taken : List Message, (∀ y ∈ taken, y.isPosition = true) →
      ∀ y ∈ x :: taken, y.isPosition = true := fun taken h =>
    List.forall_mem_cons.mpr ⟨isPosition_of_kind hx, h⟩
  have hnone : ∀ taken : List Message, (x :: taken).filterMap (itemOf it.cursor.detector) =
      taken.filterMap (itemOf it.cursor.detector) := fun taken => by
    rw [List.filterMap_cons_none (itemOf_intermediate _ hx)]
  cases h with
  | item taken rest y hsplit htaken hitem hresult hstream hon =>
    exact .item (x :: taken) rest y (by rw [hq, show ms = _ from hsplit]; rfl) (hposition _ htaken)
      ((hnone taken).trans hitem) hresult hstream ⟨hon.id, hon.detector, hon.isReported, hon.underway⟩
  | waits hl hqueue hp hf hresult hstream hon =>
    refine .waits hl ?_ hp hf hresult hstream ⟨hon.id, hon.detector, hon.isReported, hon.underway⟩
    rw [hq]
    exact List.forall_mem_cons.mpr ⟨hx, hqueue⟩
  | ends taken rest item cause hsplit htaken hitem hresult hending hfailure hover hdone =>
    exact .ends (x :: taken) rest item cause (by rw [hq, show ms = _ from hsplit]; rfl)
      (hposition _ htaken) ((hnone taken).trans hitem) hresult hending hfailure hover hdone

/-- A call that finds nothing ends with the failure of the search, or with the time of its caller. -/
private theorem turn_of_nothing (steps : Nat) (h : it.cursor.Underway s) (hq : s.queue = []) :
    Turn late it s (it.advance late (steps + 1) s) := by
  have hsame : s = { s with queue := [] } := by rw [← hq]
  rw [advance]
  cases hf : s.failure with
  | some e =>
    have hlost : s.cancel true = (false, s) := by simp [Stream.cancel, hf]
    rw [Cursor.next_of_failure h hq late hf, Cursor.fail, hlost]
    exact .ends [] [] _ (some e) hq (List.forall_mem_nil _) rfl rfl (.failed e hf) rfl rfl
      (.inr h.done)
  | none =>
    cases late with
    | false =>
      rw [Cursor.next_of_nothing h hq hf]
      exact .waits rfl (by rw [hq]; exact List.forall_mem_nil _) (h.pending hq) hf rfl hsame
        ⟨rfl, rfl, rfl, h⟩
    | true =>
      rw [Cursor.next_of_late h hq hf]
      exact .ends [] [] _ (some (.responseTimeout it.cursor.id)) hq (List.forall_mem_nil _) rfl rfl
        (.late rfl rfl) rfl rfl (.inr h.done)

/-- A call that finds a response on which no cursor can stand ends with it. -/
private theorem turn_of_last (steps : Nat) (h : it.cursor.Underway s) (hr : it.isReported = false)
    (hq : s.queue = x :: ms) (hposition : x.isPosition = false) :
    Turn late it s (it.advance late (steps + 1) s) := by
  rw [advance, Cursor.next_of_queue late h hq]
  by_cases hd : x.kind = .done
  · obtain ⟨r, hresponse⟩ : ∃ r, x.response = .done r := by
      rw [Message.kind] at hd
      cases hresponse : x.response <;> simp_all [Response.kind]
    obtain ⟨rfl, hp⟩ := h.last [] x ms hq hd
    rw [Cursor.receive_of_done hresponse]
    simp only [hr, Bool.false_eq_true, ↓reduceIte, lastItem_eq, Option.bind_some]
    exact .ends [] [x] _ none hq (List.forall_mem_nil _) rfl rfl (.done x r hresponse hp) rfl rfl
      (.inl rfl)
  · rw [Cursor.receive_of_unexpected hposition hd]
    refine .ends [] (x :: ms) _ none hq (List.forall_mem_nil _) rfl rfl
      (.unexpected x ms hposition hd) ?_ rfl (.inr h.done)
    rcases Stream.cancel_cases (s := { s with queue := ms }) true with ⟨-, -, hc⟩ | hc <;>
      simp [Cursor.fail, hc]

/-- A call goes over what is queued: one step for each response is enough, and one for the end. -/
private theorem turn_advance (steps : Nat) (h : it.cursor.Underway s) (hr : it.isReported = false)
    (hsteps : s.queue.length < steps) : Turn late it s (it.advance late steps s) := by
  induction steps generalizing it s with
  | zero => exact absurd hsteps (Nat.not_lt_zero _)
  | succ steps ih =>
    cases hq : s.queue with
    | nil => exact turn_of_nothing steps h hq
    | cons x ms =>
      by_cases hposition : x.isPosition = true
      · rw [advance, Cursor.next_of_queue late h hq, Cursor.receive_of_isPosition hposition]
        have hunderway := h.take hq hposition
        by_cases hx : x.kind = .intermediate
        · have hon : Cursor.isOn { it.cursor with place := .on x } .intermediate = true := by
            simp [Cursor.isOn, Cursor.current?, hx]
          simp only [hon, ↓reduceIte, Bool.false_or]
          refine Turn.pass hq hx _ (ih hunderway hr ?_)
          rw [hq] at hsteps
          exact Nat.lt_of_succ_lt_succ hsteps
        · have hon : Cursor.isOn { it.cursor with place := .on x } .intermediate = false := by
            simp [Cursor.isOn, Cursor.current?, hx]
          simp only [hon, Bool.false_eq_true, ↓reduceIte]
          refine .item [x] ms _ hq (by simpa using hposition) ?_ rfl rfl ⟨rfl, rfl, rfl, hunderway⟩
          simp [← item_of_position (c := it.cursor) hposition hx]
      · rw [Bool.not_eq_true] at hposition
        exact turn_of_last steps h hr hq hposition

theorem turn_next (late : Bool) (h : it.cursor.Underway s) (hr : it.isReported = false) :
    Turn late it s (it.next late s) := turn_advance _ h hr (Nat.lt_succ_self _)

/-- An iteration over a cursor that goes nowhere reports its end once. -/
theorem next_of_over (late : Bool) (h : it.cursor.isOver = true) : it.next late s =
    { result := some (if it.isReported then none else it.cursor.done.bind endItem)
      reader := { it with isReported := true }, stream := s } := by
  rw [next, advance, Cursor.next, if_pos h, ← lastItem_eq]

end Advance

end EntryIterator

end DirectoryClient
