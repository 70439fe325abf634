import DirectoryClient.Proofs.Cursor.Endings
import DirectoryClient.Proofs.Cursor.Noting

/-! Reading a search to its end: what has become of the search by then says how the reading ends, and of
the search nothing is left. -/
namespace DirectoryClient

namespace Cursor

inductive Glance (late : Bool) (c : Cursor) (s : Stream) : Move Cursor (Outcome Bool) → Prop
  | position (m : Message) (ms : List Message) : s.queue = m :: ms → m.isPosition = true →
    Glance late c s
      { result := some (.ok true), reader := { c with place := .on m }
        stream := { s with queue := ms } }
  | last (m : Message) (r : OperationResult) : s.queue = [m] → m.final? = some r →
    s.phase = .completed →
    Glance late c s
      { result := some (.ok false), reader := { c with place := .exhausted, done := some r }
        stream := { s with queue := [] } }
  | unexpected (m : Message) (ms : List Message) (cause : DirectoryError) : s.queue = m :: ms →
    m.isPosition = false → m.final? = none → Glance late c s (c.fail { s with queue := ms } cause)
  | failed (e : DirectoryError) : s.queue = [] → s.failure = some e → Glance late c s (c.fail s e)
  | expired (cause : DirectoryError) : late = true → s.queue = [] → s.failure = none →
    Glance late c s
      { result := some (.error cause), reader := { c with place := .failed }
        stream := { s with phase := .cancelled true }, abandons := true }
  | nothing : late = false → s.queue = [] → s.failure = none →
    Glance late c s { result := none, reader := c, stream := s }

private theorem Underway.glance {c : Cursor} {s : Stream} (h : c.Underway s) (late : Bool) :
    Glance late c s (c.next late s) := by
  cases hq : s.queue with
  | nil =>
    cases hf : s.failure with
    | some e =>
      rw [next_of_failure h hq late hf]
      exact .failed e hq hf
    | none =>
      cases late with
      | true =>
        rw [next_of_late h hq hf]
        exact .expired _ rfl hq hf
      | false =>
        rw [next_of_nothing h hq hf]
        exact .nothing rfl hq hf
  | cons m ms =>
    rw [next_of_queue late h hq]
    cases hposition : m.isPosition with
    | true =>
      rw [receive_of_isPosition hposition]
      exact .position m ms hq hposition
    | false =>
      cases hfinal : m.final? with
      | some r =>
        have hdone : m.response = .done r := by
          rw [Message.final?] at hfinal
          split at hfinal
          · rename_i hresponse
            rw [hresponse, Option.some.inj hfinal]
          · cases hfinal
        obtain ⟨rfl, hp⟩ := h.last [] m ms hq (by rw [Message.kind, hdone]; rfl)
        rw [receive_of_done hdone]
        exact .last m r hq hfinal hp
      | none =>
        have hnot : m.kind ≠ .done := by
          rw [Message.final?] at hfinal
          rw [Message.kind]
          cases hresponse : m.response <;> simp_all [Response.kind]
        rw [receive_of_unexpected hposition hnot]
        exact .unexpected m ms _ hq hposition hfinal

/-- Whoever is late does not wait, and only who finds nothing waits. -/
private theorem Glance.waits {late : Bool} {c : Cursor} {s : Stream} {m : Move Cursor (Outcome Bool)}
    (h : Glance late c s m) (hc : c.Underway s) (hm : m.result = none) :
    late = false ∧ s.isSilent = true ∧ m = { result := none, reader := c, stream := s } := by
  cases h with
  | nothing hlate hq hf =>
    exact ⟨hlate, by simp [Stream.isSilent, Stream.isDone, hq, hf, hc.pending hq], rfl⟩
  | position | last | unexpected | failed | expired => cases hm

end Cursor

namespace StreamAccess

variable {ω κ α : Type}

def still (a : StreamAccess ω) (w : ω) : ω := a.put (a.get w) w

def waiting (a : StreamAccess ω) (w : ω) : Nat → ω
  | 0 => a.still (a.settle w)
  | k + 1 => a.still (a.pass (a.waiting w k))

structure Hangs (a : StreamAccess ω) (w : ω) : Prop where
  unbounded : a.isBounded = false
  silent : ∀ k, (a.get (a.waiting w k)).isSilent = true

/-- A slot is reached as it should be: what is put there is found there, and while everything under way
arrives or time passes, it is only delivered to. -/
structure Faithful (a : StreamAccess ω) (fits : ω → Prop) : Prop where
  get_put : ∀ {s w}, fits w → a.get (a.put s w) = s
  get_abandon : ∀ {w}, fits w → a.get (a.abandon w) = a.get w
  put : ∀ {s w}, fits w → s.failure = (a.get w).failure → fits (a.put s w)
  abandon : ∀ {w}, fits w → fits (a.abandon w)
  settle : ∀ {w}, fits w → fits (a.settle w) ∧ (a.get w).Supplied (a.get (a.settle w))
  pass : ∀ {w}, fits w → fits (a.pass w) ∧ (a.get w).Supplied (a.get (a.pass w))

/-- A reader has taken these responses, and goes on; what has become of the search is noted. -/
structure Stands (a : StreamAccess ω) (fits : ω → Prop) (taken : List Message) (c : Cursor)
    (y : Noted ω) : Prop where
  fits : fits y.world
  underway : c.Underway (a.get y.world)
  incidents : y.incidents = (a.get y.world).incidents taken
  positions : ∀ m ∈ taken, m.isPosition = true

/-- A reader has come to an end. What has become of the search says to which one. -/
structure Finished (a : StreamAccess ω) (fits : ω → Prop) (isOver : Bool) (c : Cursor)
    (y : Noted ω) : Prop where
  fits : fits y.world
  ended : c.isOver = true
  verdict : (isOver && c.done.any OperationResult.isSuccess) = true ↔ Incident.Succeeds y.incidents
  disposed : (a.get y.world).Disposed y.incidents

/-- What comes of one movement: the reader stands on a response and goes on, or it has come to an end. -/
inductive Turned (a : StreamAccess ω) (fits : ω → Prop) (taken : List Message) :
    Outcome Bool × Cursor × Noted ω → Prop
  | on {c : Cursor} {y : Noted ω} (m : Message) : c.place = .on m →
    Stands a fits (taken ++ [m]) c y → Turned a fits taken (.ok true, c, y)
  | ended {c : Cursor} {y : Noted ω} : Finished a fits true c y →
    Turned a fits taken (.ok false, c, y)
  | broken {c : Cursor} {y : Noted ω} {e : DirectoryError} : Finished a fits false c y →
    Turned a fits taken (.error e, c, y)

/-- What comes of a look into the slot: one movement, or nothing if there is nothing and the look was not
late. -/
inductive Looked (a : StreamAccess ω) (fits : ω → Prop) (taken : List Message) (c : Cursor)
    (late : Bool) (y : Noted ω) : Option (Outcome Bool) × Cursor × Noted ω → Prop
  | moved {o : Outcome Bool} {x : Cursor × Noted ω} : Turned a fits taken (o, x) →
    Looked a fits taken c late y (some o, x)
  | nothing : late = false → (a.get y.world).isSilent = true →
    Looked a fits taken c late y (none, c, a.noting.still y)

variable {a : StreamAccess ω} {fits : ω → Prop} (ha : a.Faithful fits)
include ha

section Commit

variable {w : ω} (hw : fits w)
include hw

private theorem Faithful.commit {m : Move κ α} (hf : m.stream.failure = (a.get w).failure) :
    fits (a.commit m w) ∧ a.get (a.commit m w) = m.stream := by
  have hput : fits (a.put m.stream w) := ha.put hw hf
  rw [StreamAccess.commit]
  split
  · exact ⟨ha.abandon hput, (ha.get_abandon hput).trans (ha.get_put hw)⟩
  · exact ⟨hput, ha.get_put hw⟩

end Commit

section Turned

variable {taken : List Message} {c : Cursor} {y : Noted ω}

omit ha in
private theorem disposed_of_cancel {s : Stream} {xs : List Incident} (hc : c.Underway s)
    (hxs : xs.countP Incident.isAbandoned = 0) (ms : List Message) :
    (({ s with queue := ms } : Stream).cancel true).2.Disposed
      (xs ++ if (({ s with queue := ms } : Stream).cancel true).1 then [.abandoned] else []) := by
  rcases Stream.cancel_cases (s := { s with queue := ms }) true with ⟨-, -, hwon⟩ | hlost
  · rw [hwon]
    exact .abandoned rfl (by simp [hxs, Incident.isAbandoned])
  · rw [hlost]
    simp only [Bool.false_eq_true, ↓reduceIte, List.append_nil]
    cases hp : s.phase with
    | completed => exact .completed rfl hxs
    | cancelled interrupted => exact absurd hp (hc.uncancelled interrupted)
    | pending =>
      cases hf : s.failure with
      | some e => exact .failed e rfl hxs
      | none => simp [Stream.cancel, hp, hf] at hlost

/-- How a reader comes to an end with what comes first after the positions it has taken. -/
private theorem finished_of_first {isOver : Bool} {m : Move Cursor (Outcome Bool)} {x : Incident}
    {rest : List Incident} (hw : fits y.world) (hpos : ∀ m ∈ taken, m.isPosition = true)
    (hxs : y.incidents = taken.map .arrived ++ x :: rest) (hx : x.isPosition = false)
    (hf : m.stream.failure = (a.get y.world).failure) (hover : m.reader.isOver = true)
    (hverdict : (isOver && m.reader.done.any OperationResult.isSuccess) = true ↔
      ∃ r, x.final? = some r ∧ r.code = 0)
    (hdisposed : m.stream.Disposed (y.incidents ++ if m.abandons then [.abandoned] else [])) :
    Finished a fits isOver m.reader (a.noting.commit m y) := by
  obtain ⟨hfits, hget⟩ := ha.commit hw hf
  rw [commit_noting]
  refine ⟨hfits, hover, ?_, by rwa [hget]⟩
  rw [hverdict, hxs, List.append_assoc, List.cons_append]
  exact (Incident.succeeds_iff hpos hx).symm

/-- What comes of a look at the slot. If it was late, it has been noted. -/
private theorem turned_of_glance {late : Bool} {m : Move Cursor (Outcome Bool)} {o : Outcome Bool}
    (hw : fits y.world) (hc : c.Underway (a.get y.world)) (hpos : ∀ m ∈ taken, m.isPosition = true)
    (hxs : y.incidents = (a.get y.world).incidents taken ++
      if late && (a.get y.world).isSilent then [.expired] else [])
    (hm : Cursor.Glance late c (a.get y.world) m) (ho : m.result = some o) :
    Turned a fits taken (o, m.reader, a.noting.commit m y) := by
  have hnone : y.incidents.countP Incident.isAbandoned = 0 := by
    rw [hxs, List.countP_append, Stream.countP_incidents]
    split <;> rfl
  have hqueued : ∀ {x ms}, (a.get y.world).queue = x :: ms →
      y.incidents = (a.get y.world).incidents taken := by
    intro x ms hq
    simp [hxs, Stream.isSilent, hq]
  have hcancel : ∀ ms, (({ a.get y.world with queue := ms } : Stream).cancel true).2.failure =
      (a.get y.world).failure := by
    intro ms
    rcases Stream.cancel_cases (s := { a.get y.world with queue := ms }) true with ⟨-, -, h⟩ | h <;>
      rw [h]
  cases hm with
  | position x ms hq hposition =>
    cases ho
    have hcommit := ha.commit hw (m := ({
      result := some (.ok true), reader := { c with place := .on x }
      stream := { a.get y.world with queue := ms } } : Move Cursor (Outcome Bool))) rfl
    refine .on x rfl ⟨?_, ?_, ?_, ?_⟩
    · rw [commit_noting]
      exact hcommit.1
    · rw [commit_noting, hcommit.2]
      exact hc.take hq hposition
    · rw [commit_noting, hcommit.2, Stream.incidents_take _ _ hq, ← hqueued hq]
      exact List.append_nil _
    · exact List.forall_mem_append.mpr ⟨hpos, List.forall_mem_singleton.mpr hposition⟩
  | last x r hq hfinal hp =>
    cases ho
    have hposition : x.isPosition = false := by
      rw [Message.final?] at hfinal
      rw [Message.isPosition]
      split at hfinal <;> simp_all
    have hfirst := (hqueued hq).trans (Stream.incidents_of_queue _ taken hq)
    refine .ended (finished_of_first ha hw hpos hfirst hposition rfl rfl ?_ ?_)
    · simp [Incident.final?, hfinal, OperationResult.isSuccess]
    · exact .completed hp (by simpa using hnone)
  | unexpected x ms cause hq hposition hfinal =>
    cases ho
    have hfirst := (hqueued hq).trans (Stream.incidents_of_queue _ taken hq)
    refine .broken (finished_of_first ha hw hpos hfirst hposition (hcancel ms) rfl ?_
      (disposed_of_cancel hc hnone ms))
    simp [Incident.final?, hfinal]
  | failed e hq hf =>
    cases ho
    have hfirst : y.incidents = taken.map .arrived ++ .failed e :: [] := by
      simp [hxs, Stream.incidents, hq, hf, Stream.isSilent, Stream.isDone]
    refine .broken (finished_of_first ha hw hpos hfirst rfl (hcancel _) rfl ?_
      (disposed_of_cancel hc hnone _))
    simp [Incident.final?]
  | expired cause hlate hq hf =>
    cases ho
    have hfirst : y.incidents = taken.map .arrived ++ .expired :: [] := by
      simp [hxs, Stream.incidents, hq, hf, Stream.isSilent, Stream.isDone, hc.pending hq, hlate]
    refine .broken (finished_of_first ha hw hpos hfirst rfl rfl rfl ?_ ?_)
    · simp [Incident.final?]
    · exact .abandoned rfl (by simp [hnone, Incident.isAbandoned])
  | nothing => cases ho

private theorem looked_of_underway {late : Bool} (hw : fits y.world)
    (hc : c.Underway (a.get y.world)) (hpos : ∀ m ∈ taken, m.isPosition = true)
    (hxs : y.incidents = (a.get y.world).incidents taken ++
      if late && (a.get y.world).isSilent then [.expired] else []) :
    Looked a fits taken c late y (a.noting.glance Cursor.next late c y) := by
  have hglance := hc.glance late
  show Looked a fits taken c late y ((c.next late (a.get y.world)).result, _, _)
  cases hresult : (c.next late (a.get y.world)).result with
  | some o => exact .moved (turned_of_glance ha hw hc hpos hxs hglance hresult)
  | none =>
    obtain ⟨hlate, hsilent, hwaits⟩ := hglance.waits hc hresult
    rw [show Cursor.next late c (a.noting.get y) = _ from hwaits]
    exact .nothing hlate hsilent

omit ha in
private theorem Stands.supplied (h : Stands a fits taken c y) {w : ω}
    (hw : fits w ∧ (a.get y.world).Supplied (a.get w)) : Stands a fits taken c
      { world := w, incidents := y.incidents ++ (a.get y.world).since (a.get w) } where
  fits := hw.1
  underway := hw.2.underway h.underway
  incidents := by rw [h.incidents, hw.2.incidents_since]
  positions := h.positions

private theorem Stands.settle (h : Stands a fits taken c y) :
    Stands a fits taken c (a.noting.settle y) := h.supplied (ha.settle h.fits)

private theorem Stands.pass (h : Stands a fits taken c y) (hunbounded : a.isBounded = false) :
    Stands a fits taken c (a.noting.pass y) := by
  have hpassed := h.supplied (ha.pass h.fits)
  refine ⟨hpassed.fits, hpassed.underway, ?_, h.positions⟩
  rw [world_pass, ← hpassed.incidents]
  simp [noting, hunbounded]

private theorem get_still (hw : fits y.world) : a.get (a.noting.still y).world = a.get y.world :=
  ha.get_put hw

private theorem Stands.still (h : Stands a fits taken c y) :
    Stands a fits taken c (a.noting.still y) := by
  refine ⟨ha.put h.fits rfl, ?_, ?_, h.positions⟩ <;> rw [get_still ha h.fits]
  · exact h.underway
  · exact h.incidents

/-- What comes of the first look, -/
private theorem Stands.looked_settled (h : Stands a fits taken c y) : Looked a fits taken c false
    (a.noting.settle y) (a.noting.glance Cursor.next false c (a.noting.settle y)) := by
  have hsettled := h.settle ha
  exact looked_of_underway ha hsettled.fits hsettled.underway h.positions
    (hsettled.incidents.trans (List.append_nil _).symm)

/-- and of one after some time. -/
private theorem Stands.looked_passed (h : Stands a fits taken c y) : Looked a fits taken c a.isBounded
    (a.noting.pass y) (a.noting.glance Cursor.next a.isBounded c (a.noting.pass y)) := by
  have hpassed := h.supplied (ha.pass h.fits)
  exact looked_of_underway ha hpassed.fits hpassed.underway h.positions
    (congrArg (· ++ _) hpassed.incidents)

private theorem Stands.turned_of_await {x : Outcome Bool × Cursor × Noted ω}
    (h : Stands a fits taken c y) (hx : a.noting.await? Cursor.next c y = some x) :
    Turned a fits taken x := by
  refine await?.partial_correctness a.noting Cursor.next
    (fun c y x => Stands a fits taken c y → Turned a fits taken x)
    (fun await ih c y x hx h => ?_) c y x hx h
  -- Each turn leaves the reader where it stands, until a look finds something or is late.
  have hlooked := h.looked_passed ha
  rw [isBounded_noting] at hx
  generalize a.noting.glance Cursor.next a.isBounded c (a.noting.pass y) = looked at hx hlooked
  cases hlooked with
  | moved hturned =>
    cases hx
    exact hturned
  | nothing hunbounded => exact ih _ _ x hx ((h.pass ha hunbounded).still ha)

private theorem Stands.turned {x : Outcome Bool × Cursor × Noted ω} (h : Stands a fits taken c y)
    (hx : a.noting.next? c y = some x) : Turned a fits taken x := by
  have hlooked := h.looked_settled ha
  rw [next?, perform?] at hx
  generalize a.noting.glance Cursor.next false c (a.noting.settle y) = looked at hx hlooked
  cases hlooked with
  | moved hturned =>
    cases hx
    exact hturned
  | nothing => exact ((h.settle ha).still ha).turned_of_await ha hx

section Waiting

/-- A wait that never ends has no bound, and finds nothing after some time. -/
private theorem Stands.silent_of_await (h : Stands a fits taken c y)
    (hnone : a.noting.await? Cursor.next c y = none) :
    a.isBounded = false ∧ (a.get (a.noting.pass y).world).isSilent = true ∧
      a.noting.await? Cursor.next c (a.noting.still (a.noting.pass y)) = none := by
  have hlooked := h.looked_passed ha
  rw [await?, isBounded_noting] at hnone
  generalize a.noting.glance Cursor.next a.isBounded c (a.noting.pass y) = looked at hnone hlooked
  cases hlooked with
  | moved => cases hnone
  | nothing hunbounded hsilent => exact ⟨hunbounded, hsilent, hnone⟩

private theorem Stands.silent_of_next (h : Stands a fits taken c y)
    (hnone : a.noting.next? c y = none) : (a.get (a.noting.settle y).world).isSilent = true ∧
      a.noting.await? Cursor.next c (a.noting.still (a.noting.settle y)) = none := by
  have hlooked := h.looked_settled ha
  rw [next?, perform?] at hnone
  generalize a.noting.glance Cursor.next false c (a.noting.settle y) = looked at hnone hlooked
  cases hlooked with
  | moved => cases hnone
  | nothing _ hsilent => exact ⟨hsilent, hnone⟩

/-- Every turn of a wait that never ends is followed by another one. -/
private theorem Stands.waiting (h : Stands a fits taken c y) (hnone : a.noting.next? c y = none)
    (k : Nat) : Stands a fits taken c (a.noting.waiting y k) ∧
      (a.get (a.noting.waiting y k).world).isSilent = true ∧
      a.noting.await? Cursor.next c (a.noting.waiting y k) = none := by
  induction k with
  | zero =>
    obtain ⟨hsilent, hwaits⟩ := h.silent_of_next ha hnone
    have hsettled := h.settle ha
    exact ⟨hsettled.still ha, (get_still ha hsettled.fits).symm ▸ hsilent, hwaits⟩
  | succ k ih =>
    obtain ⟨hstands, -, hwaits⟩ := ih
    obtain ⟨hunbounded, hsilent, hwaits⟩ := hstands.silent_of_await ha hwaits
    have hpassed := hstands.pass ha hunbounded
    exact ⟨hpassed.still ha, (get_still ha hpassed.fits).symm ▸ hsilent, hwaits⟩

omit ha in
private theorem world_waiting (a : StreamAccess ω) (y : Noted ω) (k : Nat) :
    (a.noting.waiting y k).world = a.waiting y.world k := by
  induction k with
  | zero => rfl
  | succ k ih => exact congrArg (fun w => a.still (a.pass w)) ih

/-- A movement that never ends is a wait without end. -/
theorem Stands.hangs (h : Stands a fits taken c y) (hnone : a.noting.next? c y = none) :
    a.Hangs y.world := by
  obtain ⟨hstands, -, hwaits⟩ := h.waiting ha hnone 0
  refine ⟨(hstands.silent_of_await ha hwaits).1, fun k => ?_⟩
  rw [← world_waiting]
  exact (h.waiting ha hnone k).2.1

end Waiting

/-- A search that is read to its end comes to the end that has become of it. -/
theorem finished_of_drain {x : Bool × Cursor × Noted ω} (hx : a.noting.drain? c y = some x)
    (h : Stands a fits taken c y) : Finished a fits x.1 x.2.1 x.2.2 := by
  refine drain?.partial_correctness a.noting
    (fun c y x => ∀ taken, Stands a fits taken c y → Finished a fits x.1 x.2.1 x.2.2)
    (fun drain ih c y x hx taken h => ?_) c y x hx taken h
  -- What has been taken grows with every response, so the induction is over all of it.
  split at hx
  · cases hx
  · rename_i c' y' hnext
    cases h.turned ha hnext with
    | on m _ hon => exact ih c' y' x hx _ hon
  · rename_i c' y' hnext
    cases h.turned ha hnext with
    | ended hended =>
      obtain rfl := Option.some.inj hx
      exact hended
  · rename_i e c' y' hnext
    cases h.turned ha hnext with
    | broken hbroken =>
      obtain rfl := Option.some.inj hx
      exact hbroken

/-- To close a reader that has come to an end changes nothing. -/
theorem Finished.close {isOver : Bool} (h : Finished a fits isOver c y) :
    (a.noting.close c y).2.incidents = y.incidents ∧
      a.get (a.noting.close c y).2.world = a.get y.world := by
  have hclose : (a.noting.close c y).2 = { y with world := a.put (a.get y.world) y.world } := by
    show a.noting.commit (c.close (a.get y.world)) y = _
    rw [commit_noting, commit, Cursor.Reading.close_abandons _ h.ended,
      Cursor.Reading.close_over _ h.ended]
    simp
  rw [hclose]
  exact ⟨rfl, ha.get_put h.fits⟩

end Turned

inductive Goes (a : StreamAccess ω) (c : Cursor) (w : ω) : List Message → Cursor → ω → Prop
  | start : Goes a c w [] c w
  | next {ms : List Message} {m : Message} {c₁ c₂ : Cursor} {w₁ w₂ : ω} : Goes a c w ms c₁ w₁ →
    a.next? c₁ w₁ = some (.ok true, c₂, w₂) → c₂.place = .on m → Goes a c w (ms ++ [m]) c₂ w₂

/-- A search that is never read to its end gives one response after the other, or it is waited for
without end. -/
theorem exists_goes {taken : List Message} {c : Cursor} {y : Noted ω}
    (h : Stands a fits taken c y) (hnone : a.noting.drain? c y = none) (k : Nat) :
    (∃ ms c' y', ms.length = k ∧ a.noting.Goes c y ms c' y' ∧ Stands a fits (taken ++ ms) c' y' ∧
      a.noting.drain? c' y' = none) ∨
    ∃ ms c' y', a.noting.Goes c y ms c' y' ∧ Stands a fits (taken ++ ms) c' y' ∧
      a.noting.next? c' y' = none := by
  induction k with
  | zero => exact .inl ⟨[], c, y, rfl, .start, by rwa [List.append_nil], hnone⟩
  | succ k ih =>
    obtain ⟨ms, c₁, y₁, hlength, hgoes, hstands, hgoesOn⟩ | hhangs := ih
    · rw [drain?] at hgoesOn
      split at hgoesOn
      · rename_i hnext
        exact .inr ⟨ms, c₁, y₁, hgoes, hstands, hnext⟩
      · rename_i c₂ y₂ hnext
        cases hstands.turned ha hnext with
        | on m hplace hon =>
          refine .inl ⟨ms ++ [m], c₂, y₂, by rw [List.length_append, hlength]; rfl,
            hgoes.next hnext hplace, ?_, hgoesOn⟩
          rwa [← List.append_assoc]
      · cases hgoesOn
      · cases hgoesOn
    · exact .inr hhangs

end StreamAccess

end DirectoryClient
