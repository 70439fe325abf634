import DirectoryClient.Proofs.Cursor.Reading

/-! Where a cursor in use stands: what it has visited, what it has been handed and not looked at yet,
and what it will find in the slot. -/
namespace DirectoryClient.Cursor

open Slot (Gathering Acts Event Section Waiter Finding)

namespace Occurrence

def moment? : Occurrence → Option Stream.Moment
  | seen x => some x
  | _ => none

def visits? : Occurrence → Option Message
  | returned (.ok true) c => c.current?
  | _ => none

end Occurrence

def moments (xs : List Occurrence) : List Stream.Moment := xs.filterMap Occurrence.moment?

def visited (xs : List Occurrence) : List Message := xs.filterMap Occurrence.visits?

section Traces

variable (xs ys : List Occurrence) (x : Stream.Moment)

theorem moments_append : moments (xs ++ ys) = moments xs ++ moments ys := List.filterMap_append

theorem visited_append : visited (xs ++ ys) = visited xs ++ visited ys := List.filterMap_append

variable {xs} in
theorem moments_concat {y : Occurrence} (hy : y.moment? = none) :
    moments (xs ++ [y]) = moments xs := by
  rw [moments_append, moments, moments, List.filterMap_cons, hy]
  exact List.append_nil _

theorem visited_concat (y : Occurrence) :
    visited (xs ++ [y]) = visited xs ++ y.visits?.toList := by
  rw [visited_append, visited, visited, List.filterMap_cons]
  cases y.visits? <;> rfl

@[simp] theorem moments_nil : moments [] = [] := rfl

@[simp] theorem visited_nil : visited [] = [] := rfl

@[simp] theorem moments_seen : moments [.seen x] = [x] := rfl

@[simp] theorem visited_seen : visited [.seen x] = [] := rfl

end Traces

/-- What a move does to the slot: it gives the search up, or leaves it alone. -/
inductive Leaves {α : Type} (s : Stream) (m : Move Cursor α) : Prop
  | givesUp : m.abandons = true → s.cancel true = (true, m.stream) → Leaves s m
  | alone : m.abandons = false → m.stream = s → Leaves s m

variable (c : Cursor) (s : Stream)

private theorem fail_leaves (cause : DirectoryError) : Leaves s (c.fail s cause) := by
  rw [fail]
  rcases s.cancel_cases true with ⟨-, -, h⟩ | h
  · rw [h]
    exact .givesUp rfl h
  · rw [h]
    exact .alone rfl rfl

theorem close_leaves : Leaves s (c.close s) := by
  rw [close]
  split
  · rcases s.cancel_cases true with ⟨-, -, h⟩ | h
    · rw [h]
      exact .givesUp rfl h
    · rw [h]
      exact .alone rfl rfl
  · rcases s.cancel_cases true with ⟨-, -, h⟩ | h
    · rw [h]
      exact .givesUp rfl h
    · rw [h]
      exact .alone rfl rfl
  · exact .alone rfl rfl

inductive Received (c : Cursor) (s : Stream) :
    Outcome Message → Move Cursor (Outcome Bool) → Prop
  | position (m : Message) : m.isPosition = true → Received c s (.ok m)
    { result := some (.ok true), reader := { c with place := .on m }, stream := s }
  | done (m : Message) (r : OperationResult) : m.response = .done r → Received c s (.ok m)
    { result := some (.ok false), stream := s
      reader := { c with place := .exhausted, done := some r } }
  | unexpected (m : Message) : m.isPosition = false → m.kind ≠ .done →
    Received c s (.ok m) (c.fail s (.decoding (.unexpectedInSearch m.kind m.id)))
  | failed (e : DirectoryError) : Received c s (.error e) (c.fail s e)

theorem receive_received (o : Outcome Message) : Received c s o (c.receive s o) := by
  rcases o with e | m
  · exact .failed e
  · rw [receive]
    split
    · next h => exact .position m (by rw [Message.isPosition, h])
    · next h => exact .position m (by rw [Message.isPosition, h])
    · next h => exact .position m (by rw [Message.isPosition, h])
    · next r h => exact .done m r h
    · next hentry hreference hintermediate hdone =>
      refine .unexpected m ?_ ?_
      · rw [Message.isPosition]
        split
        · next h => exact absurd h (hentry _ _)
        · next h => exact absurd h (hreference _)
        · next h => exact absurd h (hintermediate _ _)
        · rfl
      · rw [Message.kind]
        intro h
        cases hr : m.response with
        | done r => exact hdone r hr
        | _ => simp [hr, Response.kind] at h

theorem receive_leaves (o : Outcome Message) : Leaves s (c.receive s o) := by
  have h := c.receive_received s o
  generalize c.receive s o = m at h
  cases h with
  | position | done => exact .alone rfl rfl
  | unexpected | failed => exact c.fail_leaves s _

namespace Reading

variable {id : MessageId} {timeout : Option Nat} {xs ys : List Occurrence} {r r' : Reading}

private theorem move_acts {α : Type} {m : Move Cursor α} (h : Leaves r.gathering.slot m) :
    (m.abandons = true ∧ Acts (δ := Stream.Delivery) r.cursor.id r.gathering (.cancelled true true)
      (r.move m).gathering) ∨ m.abandons = false ∧ (r.move m).gathering = r.gathering := by
  cases h with
  | givesUp ha hs =>
    refine .inl ⟨ha, ?_⟩
    have hacts : Acts (δ := Stream.Delivery) r.cursor.id r.gathering _ _ :=
      .cancel r.gathering true
    rw [show Slot.cancel true r.gathering.slot = (true, m.stream) from hs] at hacts
    rwa [move, ha]
  | alone ha hs =>
    refine .inr ⟨ha, ?_⟩
    rw [move, ha, hs]
    rfl

private theorem Step.cursor_id (h : Step timeout r ys r') : r'.cursor.id = r.cursor.id := by
  cases h with
  | receive i w o result =>
    have h := r.cursor.receive_received r.gathering.slot o
    show (r.cursor.receive r.gathering.slot o).reader.id = _
    generalize r.cursor.receive r.gathering.slot o = m at h
    cases h <;> rfl
  | close | drop =>
    show (r.cursor.close r.gathering.slot).reader.id = _
    rw [Cursor.close]
    split <;> rfl
  | _ => rfl

private theorem move_run {α : Type} {m : Move Cursor α} {es : List Stream.Moment}
    (h : Leaves r.gathering.slot m) (hr : Slot.Run r.cursor.id ({} : Stream) es r.gathering) :
    Slot.Run r.cursor.id ({} : Stream) (es ++ moments (r.sections m)) (r.move m).gathering := by
  rcases move_acts h with ⟨ha, hacts⟩ | ⟨ha, hsame⟩
  · rw [sections, if_pos ha]
    exact hr.acts hacts
  · rw [sections, ha, hsame]
    simpa using hr

/-- Whatever happens, the slot goes through one of its sections, or none. -/
private theorem Step.slotRun {es : List Stream.Moment} (h : Step timeout r ys r')
    (hr : Slot.Run r.cursor.id ({} : Stream) es r.gathering) :
    Slot.Run r.cursor.id ({} : Stream) (es ++ moments ys) r'.gathering := by
  cases h with
  | deliver d g hacts | abandon g hacts | look i f g hi hacts | expire i won g hi hacts =>
    exact hr.acts hacts
  | pass t ht =>
    rw [moments_nil, List.append_nil]
    exact hr.meanwhile (.pass _ t ht)
  | use line =>
    rw [moments_nil, List.append_nil]
    exact hr.meanwhile (.use _ line)
  | begin =>
    rw [moments_nil, List.append_nil]
    exact hr.meanwhile (.wait _ _)
  | stay | refuse => exact (List.append_nil es).symm ▸ hr
  | receive i w o result =>
    rw [moments_append]
    exact (List.append_nil (moments _)).symm ▸ move_run (r.cursor.receive_leaves _ o) hr
  | close | drop =>
    rw [moments_append]
    exact (List.append_nil (moments _)).symm ▸ move_run (r.cursor.close_leaves _) hr

theorem Run.slotRun (h : Run id timeout xs r) :
    r.cursor.id = id ∧ Slot.Run id ({} : Stream) (moments xs) r.gathering := by
  induction h with
  | start detector line now => exact ⟨rfl, .start line now⟩
  | step _ hs ih =>
    obtain ⟨rfl, ih⟩ := ih
    refine ⟨hs.cursor_id, ?_⟩
    rw [moments_append]
    exact hs.slotRun ih

def Lapsed (i : Nat) (xs : List Occurrence) : Prop :=
  ∃ es x, es ++ [x] <+: moments xs ∧ x.event = .looked i .lapsed ∧ Stream.accepted es = visited xs

inductive Spent (id : MessageId) (i : Nat) (xs : List Occurrence) (s : Stream) :
    DirectoryError → Prop
  | failed (e : DirectoryError) : s.phase ≠ .cancelled true → s.queue = [] → s.failure = some e →
    Spent id i xs s e
  | late : s.phase = .cancelled true → (∃ x ∈ moments xs, x.event = .expired i true) →
    Lapsed i xs → Spent id i xs s (.responseTimeout id)

inductive Stage (xs : List Occurrence) (r : Reading) : Prop
  | resting : r.caller = none → r.cursor.isOver = false → r.cursor.done = none →
    r.gathering.slot.phase ≠ .cancelled true → Stream.read (moments xs) = visited xs → Stage xs r
  | waiting (i : Nat) (w : Waiter Message) : r.caller = some i → r.cursor.isOver = false →
    r.cursor.done = none → r.gathering.slot.phase ≠ .cancelled true →
    Stream.read (moments xs) = visited xs → r.gathering.waiters[i]? = some w →
    (w.position = .looking ∨ w.position = .cancelling ∧ Lapsed i xs) → Stage xs r
  /-- A response has been taken out of the slot, and the cursor has not looked at it. -/
  | holding (i : Nat) (w : Waiter Message) (m : Message) : r.caller = some i →
    r.cursor.isOver = false → r.cursor.done = none → r.gathering.slot.phase ≠ .cancelled true →
    Stream.read (moments xs) = visited xs ++ [m] → r.gathering.waiters[i]? = some w →
    w.position = .finished (.ok m) → Stage xs r
  | failing (i : Nat) (w : Waiter Message) (e : DirectoryError) : r.caller = some i →
    r.cursor.isOver = false → r.cursor.done = none →
    Stream.read (moments xs) = visited xs → r.gathering.waiters[i]? = some w →
    w.position = .finished (.error e) → Spent r.cursor.id i xs r.gathering.slot e → Stage xs r
  /-- The last that has been read may have been no place to stand on. -/
  | ended (rest : Option Message) : r.caller = none → r.cursor.isOver = true →
    r.gathering.slot.isDone = true → Stream.read (moments xs) = visited xs ++ rest.toList →
    (∀ m ∈ rest, m.isPosition = false) → r.cursor.done = rest.bind Message.final? →
    (∀ m, r.cursor.place ≠ .on m) → (r.cursor.place = .exhausted → r.cursor.done.isSome) →
    Stage xs r

structure Sound (xs : List Occurrence) (r : Reading) : Prop where
  uncancelled : r.gathering.slot.phase ≠ .cancelled false
  forsaken : r.gathering.slot.failure.isSome → r.gathering.hasSupplier = false
  positions : ∀ m ∈ visited xs, m.isPosition = true
  standing : ∀ m, r.cursor.place = .on m → r.caller = none → (visited xs).getLast? = some m
  stage : Stage xs r

/-- What comes later does not change when the caller found itself too late. -/
theorem Lapsed.append {i : Nat} (h : Lapsed i xs) (hv : visited ys = []) : Lapsed i (xs ++ ys) := by
  obtain ⟨es, x, hp, hx, ha⟩ := h
  refine ⟨es, x, ?_, hx, by rw [ha, visited_append, hv, List.append_nil]⟩
  rw [moments_append]
  exact hp.trans (List.prefix_append _ _)

theorem Spent.append {i : Nat} {s : Stream} {e : DirectoryError} (h : Spent id i xs s e)
    (hv : visited ys = []) : Spent id i (xs ++ ys) s e := by
  cases h with
  | failed _ hp hq hf => exact .failed e hp hq hf
  | late hp hx hl =>
    refine .late hp (hx.imp fun x hx => ⟨?_, hx.2⟩) (hl.append hv)
    rw [moments_append]
    exact List.mem_append_left _ hx.1

structure Quiet (s s' : Stream) : Prop where
  interrupted : s'.phase = .cancelled true ↔ s.phase = .cancelled true
  uncancelled : s'.phase = .cancelled false → s.phase = .cancelled false
  isDone : s.isDone = true → s'.isDone = true
  failure : ∀ e, s.failure = some e → s.queue = [] → s'.failure = some e ∧ s'.queue = []

theorem Quiet.refl (s : Stream) : Quiet s s := ⟨Iff.rfl, fun h => h, fun h => h, fun _ hf hq => ⟨hf, hq⟩⟩

private theorem Stage.quiet (h : Stage xs r) (hq : Quiet r.gathering.slot r'.gathering.slot)
    (hcursor : r'.cursor = r.cursor) (hcaller : r'.caller = r.caller)
    (hwaiters : r'.gathering.waiters = r.gathering.waiters) (hv : visited ys = [])
    (hr : Stream.read (moments ys) = []) : Stage (xs ++ ys) r' := by
  have hread : Stream.read (moments (xs ++ ys)) = Stream.read (moments xs) := by
    rw [moments_append, Stream.read, List.filterMap_append]
    exact (congrArg _ hr).trans (List.append_nil _)
  have hvisited : visited (xs ++ ys) = visited xs := by rw [visited_append, hv, List.append_nil]
  cases h with
  | resting hc ho hd hp he =>
    exact .resting (hcaller.trans hc) (hcursor ▸ ho) (hcursor ▸ hd) (mt hq.interrupted.mp hp)
      (by rw [hread, hvisited, he])
  | waiting i w hc ho hd hp he hw hpos =>
    exact .waiting i w (hcaller.trans hc) (hcursor ▸ ho) (hcursor ▸ hd) (mt hq.interrupted.mp hp)
      (by rw [hread, hvisited, he]) (hwaiters ▸ hw)
      (hpos.imp_right fun h => ⟨h.1, h.2.append hv⟩)
  | holding i w m hc ho hd hp he hw hpos =>
    exact .holding i w m (hcaller.trans hc) (hcursor ▸ ho) (hcursor ▸ hd)
      (mt hq.interrupted.mp hp) (by rw [hread, hvisited, he]) (hwaiters ▸ hw) hpos
  | failing i w e hc ho hd he hw hpos hspent =>
    refine .failing i w e (hcaller.trans hc) (hcursor ▸ ho) (hcursor ▸ hd)
      (by rw [hread, hvisited, he]) (hwaiters ▸ hw) hpos ?_
    rw [hcursor]
    have hlater := hspent.append hv
    generalize r.cursor.id = id at hlater
    cases hlater with
    | failed _ hp hqueue hf =>
      obtain ⟨hf', hqueue'⟩ := hq.failure e hf hqueue
      exact .failed e (mt hq.interrupted.mp hp) hqueue' hf'
    | late hp hx hl => exact .late (hq.interrupted.mpr hp) hx hl
  | ended rest hc ho hdone he hrest hd hon hex =>
    exact .ended rest (hcaller.trans hc) (hcursor ▸ ho) (hq.isDone hdone)
      (by rw [hread, hvisited, he]) hrest (hcursor ▸ hd) (hcursor ▸ hon) (hcursor ▸ hex)

/-- Nothing is read or visited, and the cursor stays where it is. -/
theorem Sound.quiet (h : Sound xs r) (hq : Quiet r.gathering.slot r'.gathering.slot)
    (hf : r'.gathering.slot.failure.isSome → r'.gathering.hasSupplier = false)
    (hcursor : r'.cursor = r.cursor) (hcaller : r'.caller = r.caller)
    (hwaiters : r'.gathering.waiters = r.gathering.waiters) (hv : visited ys = [])
    (hr : Stream.read (moments ys) = []) : Sound (xs ++ ys) r' := by
  have hvisited : visited (xs ++ ys) = visited xs := by rw [visited_append, hv, List.append_nil]
  refine ⟨mt hq.uncancelled h.uncancelled, hf, hvisited ▸ h.positions, ?_,
    h.stage.quiet hq hcursor hcaller hwaiters hv hr⟩
  rw [hvisited, hcursor, hcaller]
  exact h.standing

/-- A delivery comes before any failure. -/
theorem deliver_quiet (d : Stream.Delivery) {s : Stream} (hnone : s.failure = none) :
    Quiet s (Slot.Supply.deliver id d s) := by
  have hsame : ∀ {s' : Stream}, s'.phase = s.phase → Quiet s s' := by
    intro s' hp
    refine ⟨by rw [hp], by rw [hp]; exact fun h => h, fun hd => ?_, by simp [hnone]⟩
    rw [Stream.isDone, hnone] at hd
    rw [Stream.isDone, hp]
    simpa using .inl (by simpa using hd)
  cases d with
  | push m =>
    by_cases hfinal : s.phase = .completed ∨ s.phase = .cancelled true
    · rw [Stream.deliver_push, Stream.push_of_final m hfinal]
      exact .refl s
    · obtain ⟨hnot, hopen⟩ := not_or.mp hfinal
      rw [Stream.deliver_push, Stream.push_of_open m hnot hopen]
      by_cases hdone : m.kind = .done
      · refine ⟨?_, ?_, ?_, by simp [hnone]⟩
        · simp [hdone, hopen]
        · simp [hdone]
        · simp [hdone, Stream.isDone]
      · exact hsame (if_neg hdone)
  | fail e => exact hsame (Stream.fail_phase e)
  | forsake => exact hsame (Stream.forsake_phase id)

end Reading

end DirectoryClient.Cursor
