import DirectoryClient.Proofs.Cursor.Items
import DirectoryClient.Proofs.Cursor.WholeRuns
import DirectoryClient.Proofs.Search.Elements

/-! An iteration over the entries of a search, from any position of its cursor: whatever is delivered
meanwhile, it yields an item for each response that the cursor had not come to, what went wrong at the
end, and then nothing any more. -/
namespace DirectoryClient.EntryIterator

open Slot (Gathering Acts)
open Cursor (Reading Occurrence moments visited)

/-- The items of an iteration over these responses. If they do not end the search, the iteration may
break off after them for a cause. -/
def items (detector : Search.BinaryDetector) (cause : Option DirectoryError) :
    List Message → List (Outcome Search.Entry)
  | [] => cause.toList.map fun e => .error (.cursorBroken e)
  | m :: ms =>
    match m.response with
    | .entry e _ => Search.Entry.ofElement detector e :: items detector cause ms
    | .reference urls => .error (.referral urls) :: items detector cause ms
    | .intermediate .. => items detector cause ms
    | .done r => (endItem r).toList
    | _ => [.error (.cursorBroken (.decoding (.unexpectedInSearch m.kind m.id)))]

section Items

variable {detector : Search.BinaryDetector} {cause : Option DirectoryError} {m : Message}
  {ms : List Message}

private theorem items_of_isPosition (h : m.isPosition = true) : items detector cause (m :: ms) =
    (itemOf detector m).toList ++ items detector cause ms := by
  rw [Message.isPosition] at h
  rw [items, itemOf]
  split at h <;> simp_all

/-- Responses on which a cursor can stand make their items one after the other. -/
private theorem items_append {taken : List Message} (h : ∀ m ∈ taken, m.isPosition = true) :
    items detector cause (taken ++ ms) =
      taken.filterMap (itemOf detector) ++ items detector cause ms := by
  induction taken with
  | nil => rfl
  | cons m taken ih =>
    obtain ⟨hm, htaken⟩ := List.forall_mem_cons.mp h
    rw [List.cons_append, items_of_isPosition hm, ih htaken, List.filterMap_cons]
    cases itemOf detector m <;> rfl

/-- The items of what has not been taken when an iteration ends: the last one, if it is one. -/
private theorem items_of_ending {late : Bool} {id : MessageId} {s : Stream} {rest : List Message}
    {item : Item}
    (h : Ending late id s rest item cause) : items detector cause rest = item.toList := by
  cases h with
  | done x r hr => simp [items, hr]
  | unexpected x more hx hd =>
    rw [Message.isPosition] at hx
    rw [Message.kind] at hd
    rw [items]
    cases hr : x.response <;> simp_all [Response.kind]
  | failed | late => rfl

/-- After an end nothing comes any more, or what comes makes no item. -/
private theorem seals_of_ending {late : Bool} {id : MessageId} {s : Stream} {rest : List Message}
    {item : Item} (h : Ending late id s rest item cause) :
    (s.phase = .completed ∨ s.phase = .cancelled true) ∨ s.failure.isSome ∨
      ∀ more, items detector cause (rest ++ more) = items detector cause rest := by
  cases h with
  | done x r hr hp => exact .inl (.inl hp)
  | unexpected x more hx hd =>
    refine .inr (.inr fun ms => ?_)
    have hending : Ending late id s (x :: more) _ none := .unexpected x more hx hd
    have hlonger : Ending late id s (x :: more ++ ms) _ none := .unexpected x (more ++ ms) hx hd
    rw [items_of_ending hending, items_of_ending hlonger]
  | failed e he => exact .inr (.inl (he ▸ rfl))
  | late hl hp => exact .inl (.inr hp)

/-- An iteration that ends without a cause has come to a response on which no cursor can stand. -/
private theorem exists_last_of_ending {late : Bool} {id : MessageId} {s : Stream} {rest : List Message}
    {item : Item} (h : Ending late id s rest item cause) :
    cause = none → ∃ m ∈ rest, m.isPosition = false := by
  intro hnone
  cases h with
  | done x r hr => exact ⟨x, List.mem_singleton_self x, by rw [Message.isPosition, hr]⟩
  | unexpected x more hx => exact ⟨x, List.mem_cons_self, hx⟩
  | failed | late => cases hnone

/-- An iteration breaks off because of a failure, or because the time of its caller is over. -/
private theorem cause_of_ending {late : Bool} {id : MessageId} {s : Stream} {rest : List Message}
    {item : Item} (h : Ending late id s rest item cause) :
    ∀ e ∈ cause, s.failure = some e ∨ e = .responseTimeout id ∧ late = true := by
  intro e he
  cases h with
  | done | unexpected => cases he
  | failed e' he' =>
    cases he
    exact .inl he'
  | late hl =>
    cases he
    exact .inr ⟨rfl, hl⟩

end Items

inductive Sight where
  /-- Something has been delivered to the search. -/
  | delivered (before : Stream) (d : Stream.Delivery)
  /-- A caller has asked for the next item, and has got it, or goes on waiting; `late` if its time is
  over. -/
  | asked (late : Bool) (answer : Option Item)

def Sight.returns? : Sight → Option Item
  | asked _ answer => answer
  | delivered .. => none

def Sight.accepts? : Sight → Option Message
  | delivered before (.push m) => if (before.push m).1 then some m else none
  | _ => none

def returned (xs : List Sight) : List Item := xs.filterMap Sight.returns?

def accepted (xs : List Sight) : List Message := xs.filterMap Sight.accepts?

structure Iteration where
  gathering : Gathering Stream Message
  iterator : EntryIterator

namespace Iteration

def start (r : Reading) : Iteration where
  gathering := r.gathering
  iterator := { cursor := r.cursor }

def move (m : Move EntryIterator Item) (i : Iteration) : Iteration where
  gathering :=
    { i.gathering with slot := m.stream, owed := i.gathering.owed + m.abandons.toNat }
  iterator := m.reader

/-- What happens in an iteration. A caller who goes on waiting asks again, when something has come or
when its time is over. -/
inductive Step : Iteration → Sight → Iteration → Prop
  | deliver (i : Iteration) (d : Stream.Delivery) (g : Gathering Stream Message) :
    Acts i.iterator.cursor.id i.gathering (.delivered d) g →
    Step i (.delivered i.gathering.slot d) { i with gathering := g }
  | ask (i : Iteration) (late : Bool) :
    Step i (.asked late (i.iterator.next late i.gathering.slot).result)
      (i.move (i.iterator.next late i.gathering.slot))

inductive Run (i : Iteration) : List Sight → Iteration → Prop
  | start : Run i [] i
  | step {xs : List Sight} {x : Sight} {i' i'' : Iteration} : Run i xs i' → Step i' x i'' →
    Run i (xs ++ [x]) i''

end Iteration

section Traces

variable (xs : List Sight) (x : Sight)

private theorem returned_concat : returned (xs ++ [x]) = returned xs ++ x.returns?.toList := by
  rw [returned, returned, List.filterMap_append, List.filterMap_cons, List.filterMap_nil]
  cases x.returns? <;> rfl

private theorem accepted_concat : accepted (xs ++ [x]) = accepted xs ++ x.accepts?.toList := by
  rw [accepted, accepted, List.filterMap_append, List.filterMap_cons, List.filterMap_nil]
  cases x.accepts? <;> rfl

end Traces

section Deliveries

variable (id : MessageId) (d : Stream.Delivery) {s : Stream} {c : Cursor}

private theorem queue_deliver (s : Stream) : (Slot.Supply.deliver id d s).queue =
    s.queue ++ (Sight.delivered s d).accepts?.toList := by
  have hsame : ∀ {s' : Stream}, s'.queue = s.queue → s'.queue = s.queue ++ [] := fun h =>
    h.trans (List.append_nil _).symm
  cases d with
  | push m =>
    by_cases hfinal : s.phase = .completed ∨ s.phase = .cancelled true
    · simp [Stream.deliver_push, Sight.accepts?, Stream.push_of_final m hfinal]
    · obtain ⟨hnot, hopen⟩ := not_or.mp hfinal
      simp [Stream.deliver_push, Sight.accepts?, Stream.push_of_open m hnot hopen]
  | fail e =>
    rw [Stream.deliver_fail]
    rcases Stream.fail_cases (s := s) e with h | ⟨-, h⟩ <;> exact hsame (by rw [h])
  | forsake =>
    rw [Stream.deliver_forsake]
    rcases Stream.forsake_cases (s := s) id with h | ⟨-, e, h⟩ <;> exact hsame (by rw [h])

/-- Nothing is accepted by a search that is completed or has been given up. -/
private theorem accepts_of_final (h : s.phase = .completed ∨ s.phase = .cancelled true) :
    (Sight.delivered s d).accepts? = none := by
  cases d with
  | push m => simp [Sight.accepts?, Stream.push_of_final m h]
  | fail | forsake => rfl

end Deliveries

/-- Why an iteration breaks off: a failure has been delivered, or the time of a caller was over. -/
def Breaks (id : MessageId) (xs : List Sight) (i : Iteration) (cause : DirectoryError) : Prop :=
  i.gathering.slot.failure = some cause ∨
    cause = .responseTimeout id ∧ ∃ answer, .asked true answer ∈ xs

/-- Where an iteration stands that has begun before the end of its search: `unread` are the responses
that its cursor had not come to, with those that have come since. -/
inductive Stage (id : MessageId) (detector : Search.BinaryDetector) (unread : List Message)
    (xs : List Sight) (i : Iteration) : Prop
  | underway (taken : List Message) : i.iterator.cursor.Underway i.gathering.slot →
    i.iterator.isReported = false → i.iterator.cursor.id = id →
    i.iterator.cursor.detector = detector →
    (i.gathering.slot.failure.isSome → i.gathering.hasSupplier = false) →
    unread = taken ++ i.gathering.slot.queue → (∀ m ∈ taken, m.isPosition = true) →
    returned xs = (taken.filterMap (itemOf detector)).map some → Stage id detector unread xs i
  /-- Whatever comes now makes no item. -/
  | ended (cause : Option DirectoryError) (n : Nat) : i.iterator.cursor.isOver = true →
    (i.iterator.isReported = true ∨ i.iterator.cursor.done = none) →
    returned xs = (items detector cause unread).map some ++ List.replicate n none →
    (cause = none → ∃ m ∈ unread, m.isPosition = false) →
    ((i.gathering.slot.phase = .completed ∨ i.gathering.slot.phase = .cancelled true) ∨
      i.gathering.hasSupplier = false ∨
      ∀ more, items detector cause (unread ++ more) = items detector cause unread) →
    (∀ e ∈ cause, Breaks id xs i e) → Stage id detector unread xs i

section Steps

variable {id : MessageId} {detector : Search.BinaryDetector} {unread : List Message}
  {xs : List Sight} {i i' : Iteration}

private theorem Stage.deliver (h : Stage id detector unread xs i) {d : Stream.Delivery}
    {g : Gathering Stream Message}
    (hacts : Acts i.iterator.cursor.id i.gathering (.delivered d) g) :
    Stage id detector (unread ++ (Sight.delivered i.gathering.slot d).accepts?.toList)
      (xs ++ [.delivered i.gathering.slot d]) { i with gathering := g } := by
  obtain ⟨hsupplier, hslot, hlast⟩ := hacts.toSection.of_delivered
  have hreturned : returned (xs ++ [.delivered i.gathering.slot d]) = returned xs := by
    rw [returned_concat]
    exact List.append_nil _
  cases h with
  | underway taken hu hr hid hd hf hunread htaken hitems =>
    have hnone : i.gathering.slot.failure = none := by
      rw [← Option.not_isSome_iff_eq_none]
      exact fun hsome => Bool.false_ne_true ((hf hsome).symm.trans hsupplier)
    refine .underway taken ?_ hr hid hd ?_ ?_ htaken (hreturned.trans hitems)
    · rw [← hslot]
      exact hu.deliver _ d
    · intro hfailed
      rw [hlast]
      cases d with
      | push m =>
        rw [← hslot, Stream.deliver_push, Stream.push_failure, hnone] at hfailed
        cases hfailed
      | fail | forsake => rfl
    · rw [hunread, ← hslot, queue_deliver, List.append_assoc]
  | ended cause n ho hr hitems hlast hsealed hbreaks =>
    have hsame : items detector cause
        (unread ++ (Sight.delivered i.gathering.slot d).accepts?.toList) =
          items detector cause unread := by
      rcases hsealed with hfinal | hgone | hmore
      · rw [accepts_of_final d hfinal, Option.toList_none, List.append_nil]
      · cases hgone.symm.trans hsupplier
      · exact hmore _
    refine .ended cause n ho hr (by rw [hreturned, hsame, hitems])
      (fun hnone => (hlast hnone).imp fun m hm => ⟨List.mem_append_left _ hm.1, hm.2⟩) ?_
      fun e he => ?_
    · rcases hsealed with hfinal | hgone | hmore
      · refine .inl ?_
        rwa [Stream.phase_of_final hacts.toSection hfinal]
      · cases hgone.symm.trans hsupplier
      · refine .inr (.inr fun more => ?_)
        rw [List.append_assoc, hmore, hsame]
    · rcases hbreaks e he with hfailure | ⟨hlate, answer, hanswer⟩
      · refine .inl ?_
        rw [← hfailure]
        exact Stream.failure_of_failed hacts.toSection (by rw [hfailure]; rfl)
      · exact .inr ⟨hlate, answer, List.mem_append_left _ hanswer⟩

section Asking

variable {late : Bool} {taken more rest : List Message} {m : Move EntryIterator Item}
  (hid : i.iterator.cursor.id = id)
  (hf : i.gathering.slot.failure.isSome → i.gathering.hasSupplier = false)
  (hunread : unread = taken ++ i.gathering.slot.queue) (htaken : ∀ m ∈ taken, m.isPosition = true)
  (hitems : returned xs = (taken.filterMap (itemOf detector)).map some)
  (hd : i.iterator.cursor.detector = detector) (hr : i.iterator.isReported = false)

include hid hf hunread htaken hitems

/-- A call takes some responses that make no items, and the iteration ends. -/
private theorem Stage.finish (hsplit : i.gathering.slot.queue = more ++ rest)
    (hmore : ∀ m ∈ more, m.isPosition = true) (hfound : more.filterMap (itemOf detector) = [])
    {item : Item} {cause : Option DirectoryError} (hresult : m.result = some item)
    (hending : Ending late i.iterator.cursor.id m.stream rest item cause)
    (hfailure : m.stream.failure = i.gathering.slot.failure) (hover : m.reader.cursor.isOver = true)
    (hdone : m.reader.isReported = true ∨ m.reader.cursor.done = none) :
    Stage id detector unread (xs ++ [.asked late m.result]) (i.move m) := by
  have hall : ∀ ms, items detector cause (taken ++ more ++ ms) =
      taken.filterMap (itemOf detector) ++ items detector cause ms := by
    intro ms
    rw [items_append (List.forall_mem_append.mpr ⟨htaken, hmore⟩), List.filterMap_append, hfound,
      List.append_nil]
  rw [hsplit, ← List.append_assoc] at hunread
  refine .ended cause (if item.isNone then 1 else 0) hover hdone ?_ (fun hnone => ?_) ?_
    fun e he => ?_
  · rw [hunread, hall, items_of_ending hending, returned_concat, hitems, hresult]
    cases item <;> simp [Sight.returns?]
  · obtain ⟨m, hm, hposition⟩ := exists_last_of_ending hending hnone
    exact ⟨m, hunread ▸ List.mem_append_right _ hm, hposition⟩
  · rcases seals_of_ending hending with hfinal | hfailed | hseals
    · exact .inl hfinal
    · exact .inr (.inl (hf (hfailure ▸ hfailed)))
    · refine .inr (.inr fun ms => ?_)
      rw [hunread, List.append_assoc, hall, hall, hseals]
  · refine (cause_of_ending hending e he).imp_right ?_
    rintro ⟨rfl, rfl⟩
    exact ⟨by rw [hid], _, List.mem_append_right _ (List.mem_singleton_self _)⟩

include hd hr

private theorem Stage.take (hsplit : i.gathering.slot.queue = more ++ rest)
    (hmore : ∀ m ∈ more, m.isPosition = true) {found : List (Outcome Search.Entry)}
    (hfound : more.filterMap (itemOf detector) = found)
    (hresult : (Sight.asked late m.result).returns?.toList = found.map some)
    (hstream : m.stream = { i.gathering.slot with queue := rest }) (hon : i.iterator.Continues m) :
    Stage id detector unread (xs ++ [.asked late m.result]) (i.move m) := by
  refine .underway (taken ++ more) hon.underway (hon.isReported.trans hr) (hon.id.trans hid)
    (hon.detector.trans hd) ?_ ?_ (List.forall_mem_append.mpr ⟨htaken, hmore⟩) ?_
  · show m.stream.failure.isSome → _
    rw [hstream]
    exact hf
  · show unread = taken ++ more ++ m.stream.queue
    rw [hunread, hsplit, hstream, List.append_assoc]
  · rw [returned_concat, hresult, hitems, List.filterMap_append, hfound, List.map_append]

private theorem Stage.ask_underway (hturn : Turn late i.iterator i.gathering.slot m) :
    Stage id detector unread (xs ++ [.asked late m.result]) (i.move m) := by
  cases hturn with
  | item more rest x hsplit hmore hfound hresult hstream hon =>
    rw [hd] at hfound
    exact .take hid hf hunread htaken hitems hd hr hsplit hmore hfound (by rw [hresult]; rfl) hstream hon
  | waits hl hqueue hp hnone hresult hstream hon =>
    have hfound : i.gathering.slot.queue.filterMap (itemOf detector) = [] :=
      List.filterMap_eq_nil_iff.mpr fun m hm => itemOf_intermediate detector (hqueue m hm)
    exact .take hid hf hunread htaken hitems hd hr (List.append_nil _).symm
      (fun m hm => isPosition_of_kind (hqueue m hm)) hfound (by rw [hresult]; rfl) hstream hon
  | ends more rest item cause hsplit hmore hfound hresult hending hfailure hover hdone =>
    rw [hd] at hfound
    exact .finish hid hf hunread htaken hitems hsplit hmore hfound hresult hending hfailure
      hover hdone

end Asking

private theorem Stage.ask_over {late : Bool} {cause : Option DirectoryError} {n : Nat}
    (ho : i.iterator.cursor.isOver = true)
    (hr : i.iterator.isReported = true ∨ i.iterator.cursor.done = none)
    (hitems : returned xs = (items detector cause unread).map some ++ List.replicate n none)
    (hlast : cause = none → ∃ m ∈ unread, m.isPosition = false)
    (hsealed : (i.gathering.slot.phase = .completed ∨ i.gathering.slot.phase = .cancelled true) ∨
      i.gathering.hasSupplier = false ∨
      ∀ more, items detector cause (unread ++ more) = items detector cause unread)
    (hbreaks : ∀ e ∈ cause, Breaks id xs i e) :
    Stage id detector unread (xs ++ [.asked late (i.iterator.next late i.gathering.slot).result])
      (i.move (i.iterator.next late i.gathering.slot)) := by
  have hnone :
      (if i.iterator.isReported then none else i.iterator.cursor.done.bind endItem) = none := by
    rcases hr with hr | hd
    · rw [hr]
      rfl
    · rw [hd]
      split <;> rfl
  rw [next_of_over late ho, hnone]
  refine .ended cause (n + 1) ho (.inl rfl) ?_ hlast hsealed fun e he => ?_
  · rw [returned_concat, hitems, List.append_assoc, List.replicate_succ']
    rfl
  · refine (hbreaks e he).imp_right fun ⟨hlate, answer, hanswer⟩ => ?_
    exact ⟨hlate, answer, List.mem_append_left _ hanswer⟩

private theorem Stage.run {i₀ : Iteration} {unread : List Message} (h : Stage id detector unread [] i₀)
    (hrun : i₀.Run xs i) : Stage id detector (unread ++ accepted xs) xs i := by
  induction hrun with
  | start => exact (List.append_nil unread).symm ▸ h
  | step _ hs ih =>
    rw [accepted_concat, ← List.append_assoc]
    cases hs with
    | deliver d g hacts => exact ih.deliver hacts
    | ask late =>
      rw [show (Sight.asked late _).accepts? = none from rfl, Option.toList_none, List.append_nil]
      cases ih with
      | underway taken hu hr hid hd hf hunread htaken hitems =>
        exact Stage.ask_underway hid hf hunread htaken hitems hd hr (turn_next late hu hr)
      | ended cause n ho hr hitems hlast hsealed hbreaks =>
        exact Stage.ask_over ho hr hitems hlast hsealed hbreaks

/-- A caller goes on waiting only if nothing has come yet that makes an item or ends the search. -/
private theorem Stage.waits (h : Stage id detector unread xs i) {late : Bool}
    (hnone : (i.iterator.next late i.gathering.slot).result = none) : late = false ∧
      i.gathering.slot.phase = .pending ∧ i.gathering.slot.failure = none ∧
      ∀ m ∈ i.gathering.slot.queue, m.kind = .intermediate := by
  cases h with
  | underway taken hu hr =>
    cases turn_next late hu hr with
    | item _ _ _ _ _ _ hresult => cases hnone.symm.trans hresult
    | waits hl hqueue hp hf => exact ⟨hl, hp, hf, hqueue⟩
    | ends _ _ _ _ _ _ _ hresult => cases hnone.symm.trans hresult
  | ended cause n ho =>
    rw [next_of_over late ho] at hnone
    cases hnone

structure Reports (c : Cursor) (xs : List Sight) (i : Iteration) : Prop where
  cursor : i.iterator.cursor = c
  answers : i.iterator.isReported = false ∧ returned xs = [] ∨ i.iterator.isReported = true ∧
    ∃ n, returned xs = (c.done.bind endItem).toList.map some ++ List.replicate n none

private theorem reports_of_run {i₀ : Iteration} (ho : i₀.iterator.cursor.isOver = true)
    (hr : i₀.iterator.isReported = false) (hrun : i₀.Run xs i) :
    Reports i₀.iterator.cursor xs i := by
  induction hrun with
  | start => exact ⟨rfl, .inl ⟨hr, rfl⟩⟩
  | @step xs x i' i'' _ hs ih =>
    cases hs with
    | deliver d g =>
      refine ⟨ih.cursor, ?_⟩
      rw [returned_concat, show (Sight.delivered _ d).returns? = none from rfl, Option.toList_none,
        List.append_nil]
      exact ih.answers
    | ask late =>
      have ho' : i'.iterator.cursor.isOver = true := ih.cursor ▸ ho
      rw [next_of_over late ho']
      refine ⟨ih.cursor, .inr ⟨rfl, ?_⟩⟩
      rw [returned_concat, ih.cursor]
      rcases ih.answers with ⟨hfirst, hempty⟩ | ⟨hagain, n, hn⟩
      · rw [hfirst, hempty]
        cases i₀.iterator.cursor.done.bind endItem with
        | none => exact ⟨1, rfl⟩
        | some e => exact ⟨0, rfl⟩
      · rw [hagain, hn]
        refine ⟨n + 1, ?_⟩
        rw [List.append_assoc, List.replicate_succ']
        rfl

end Steps

/-- How far an iteration has come over the responses that its cursor had not come to. -/
inductive Covers (id : MessageId) (detector : Search.BinaryDetector) (unread : List Message)
    (xs : List Sight) (i : Iteration) : Prop
  /-- Its answers are the items of those that have been taken, and the others are queued. -/
  | goesOn (taken : List Message) : i.iterator.cursor.isOver = false →
    unread = taken ++ i.gathering.slot.queue → (∀ m ∈ taken, m.isPosition = true) →
    returned xs = (items detector none taken).map some → Covers id detector unread xs i
  /-- Its answers are all the items, and then none any more. It breaks off, with an item for the cause,
  unless the responses come to an end of their own. -/
  | ended (cause : Option DirectoryError) (n : Nat) : i.iterator.cursor.isOver = true →
    returned xs = (items detector cause unread).map some ++ List.replicate n none →
    (cause = none → ∃ m ∈ unread, m.isPosition = false) → (∀ e ∈ cause, Breaks id xs i e) →
    Covers id detector unread xs i

/-- What an iteration yields that begins at a cursor in use, whose search has come so far. -/
structure Yields (xs : List Occurrence) (r : Reading) (ys : List Sight) (i : Iteration) : Prop where
  /-- What a cursor that goes on has not come to is still to be found. -/
  unread : r.cursor.isOver = false →
    Stream.accepted (moments xs) = visited xs ++ r.gathering.slot.queue
  /-- The answers are the items of these responses and of all that are accepted later, in their order,
  and after them there are no more. -/
  inOrder : r.cursor.isOver = false →
    Covers r.cursor.id r.cursor.detector (r.gathering.slot.queue ++ accepted ys) ys i
  /-- An iteration that begins after the end yields at most the error that it is. -/
  afterEnd : r.cursor.isOver = true → returned ys <+:
    (r.cursor.done.bind endItem).toList.map some ++ List.replicate (returned ys).length none
  done : ∀ result, r.cursor.done = some result ↔
    ∃ m ∈ Stream.read (moments xs), m.response = .done result
  /-- An entry that is no entry is reported as malformed. -/
  malformed : ∀ e, Search.Entry.NamesPart (Search.Entry.ofElement r.cursor.detector e)
  /-- A caller goes on waiting only if nothing has come yet that makes an item or ends the search. -/
  waits : ∀ late, (i.iterator.next late i.gathering.slot).result = none → late = false ∧
    i.gathering.slot.phase = .pending ∧ i.gathering.slot.failure = none ∧
    ∀ m ∈ i.gathering.slot.queue, m.kind = .intermediate

private theorem prefix_replicate (answers : List Item) (n : Nat) :
    answers ++ List.replicate n none <+:
      answers ++ List.replicate (answers ++ List.replicate n none).length none := by
  refine List.prefix_append_right_inj answers |>.mpr ?_
  rw [List.length_append, List.length_replicate, Nat.add_comm, ← List.replicate_append_replicate]
  exact List.prefix_append _ _

private theorem Stage.covers {id : MessageId} {detector : Search.BinaryDetector} {unread : List Message}
    {xs : List Sight} {i : Iteration} (h : Stage id detector unread xs i) :
    Covers id detector unread xs i := by
  cases h with
  | underway taken hunderway _ _ _ _ hunread htaken hitems =>
    have hall : items detector none (taken ++ []) = taken.filterMap (itemOf detector) ++ [] :=
      items_append htaken
    rw [List.append_nil, List.append_nil] at hall
    exact .goesOn taken hunderway.isOver hunread htaken (by rw [hall, hitems])
  | ended cause n ho _ hitems hlast _ hbreaks => exact .ended cause n ho hitems hlast hbreaks

private theorem Reports.inOrder {c : Cursor} {xs : List Sight} {i : Iteration} (h : Reports c xs i) :
    returned xs <+: (c.done.bind endItem).toList.map some ++
      List.replicate (returned xs).length none := by
  rcases h.answers with ⟨-, hempty⟩ | ⟨-, n, hn⟩
  · rw [hempty]
    exact List.nil_prefix
  · rw [hn]
    exact prefix_replicate _ n

/-- From whatever position of its cursor an iteration begins, and whatever comes meanwhile, it yields
the items of what the cursor had not come to. -/
theorem run_yields {id : MessageId} {timeout : Option Nat} {xs : List Occurrence} {r : Reading}
    {ys : List Sight} {i : Iteration} (h : Reading.Run id timeout xs r) (hidle : r.isIdle = true)
    (hi : (Iteration.start r).Run ys i) : Yields xs r ys i := by
  have hnone := Reading.caller_of_isIdle hidle
  have hdone := h.sound.stage.done_iff h.sound.positions hnone
  cases ho : r.cursor.isOver with
  | false =>
    obtain ⟨hunderway, hunread⟩ := h.underway hnone ho
    have hstart : Stage r.cursor.id r.cursor.detector r.gathering.slot.queue [] (Iteration.start r) :=
      .underway [] hunderway rfl rfl rfl h.sound.forsaken rfl nofun rfl
    have hstage := hstart.run hi
    exact ⟨fun _ => hunread, fun _ => hstage.covers, fun ho' => absurd (ho.symm.trans ho') nofun,
      hdone, Search.Entry.namesPart_ofElement _, fun late => hstage.waits⟩
  | true =>
    have hreports := @reports_of_run ys i (Iteration.start r) ho rfl hi
    refine ⟨fun ho' => absurd (ho.symm.trans ho') nofun, fun ho' => absurd (ho.symm.trans ho') nofun,
      fun _ => hreports.inOrder, hdone, Search.Entry.namesPart_ofElement _, fun late hnone => ?_⟩
    have ho' : i.iterator.cursor.isOver = true := hreports.cursor ▸ ho
    rw [next_of_over late ho'] at hnone
    cases hnone

section Unsuccessful

/-- A cursor stands on a referral, the only response that has come. -/
def onReferral : Reading where
  gathering :=
    { slot := {}, line := none, now := 0
      waiters := [{ deadline := none, position := .finished (.ok Stream.referral) }] }
  cursor :=
    { id := 3, detector := Search.BinaryDetector.everything, place := .on Stream.referral }

private theorem run_onReferral :
    ∃ xs, Reading.Run 3 none xs onReferral ∧ visited xs = [Stream.referral] := by
  have h : Reading.Run 3 none [] _ := .start Search.BinaryDetector.everything none 0
  have h := h.step (.deliver _ (.push Stream.referral) _ (.deliver _ _ rfl))
  have h := h.step (.begin _ rfl rfl)
  have h := h.step (.look _ 0 _ _ rfl (.look _ 0 _ rfl rfl))
  exact ⟨_, h.step (.receive _ 0 _ (.ok Stream.referral) (.ok true) rfl rfl rfl rfl), rfl⟩

def noSuchObject : OperationResult := { code := 32 }

def progress : Message := { id := 3, response := .intermediate none none, controls := [] }

/-- A caller waits, then the search fails, after an intermediate response; the caller asks for the next
item until there are no more. -/
def unsuccessful : List Sight :=
  [.asked false none,
    .delivered {} (.push progress),
    .delivered { queue := [progress] }
      (.push { id := 3, response := .done noSuchObject, controls := [] }),
    .asked false (some (some (.error (.operationResult noSuchObject)))),
    .asked false (some none)]

private theorem run_unsuccessful : ∃ i, (Iteration.start onReferral).Run unsuccessful i := by
  have asked : (Iteration.start onReferral).Run (unsuccessful.take 1) _ := .step .start (.ask _ false)
  have passed : (Iteration.start onReferral).Run (unsuccessful.take 2) _ :=
    asked.step (.deliver _ (.push progress) _ (.deliver _ _ rfl))
  have failed : (Iteration.start onReferral).Run (unsuccessful.take 3) _ :=
    passed.step (.deliver _ (.push _) _ (.deliver _ _ rfl))
  have reported : (Iteration.start onReferral).Run (unsuccessful.take 4) _ :=
    failed.step (.ask _ false)
  exact ⟨_, reported.step (.ask _ false)⟩

/-- The intermediate response is passed over, the failure is reported once, and then there is nothing
any more. -/
theorem unsuccessful_yields : ∃ xs i, Reading.Run 3 none xs onReferral ∧
    (Iteration.start onReferral).Run unsuccessful i ∧ Yields xs onReferral unsuccessful i ∧
      returned unsuccessful = [some (.error (.operationResult noSuchObject)), none] := by
  obtain ⟨xs, h, -⟩ := run_onReferral
  obtain ⟨i, hi⟩ := run_unsuccessful
  exact ⟨xs, i, h, hi, run_yields h rfl hi, rfl⟩

end Unsuccessful

end DirectoryClient.EntryIterator
