import DirectoryClient.Proofs.Connection.Driven
import DirectoryClient.Proofs.Cursor.Draining
import DirectoryClient.Proofs.Link.Orderly
import DirectoryClient.Validator

/-! Checks by a lookup: what the server makes of the search decides how the check ends, and however it
ends, the search is disposed of. -/
namespace DirectoryClient

namespace Network

variable {ω : Type} (n : Network ω) (isThere : TransportId → ω → Prop)

structure HasSlot (p : Pending) (w : ω) : Prop where
  transport : isThere p.transport w
  orderly : (n.link p.transport w).Orderly
  ticket : p.ticket < (n.link p.transport w).streams.length

variable {n isThere} {p : Pending} {w w' : ω}

private theorem HasSlot.drives (h : n.HasSlot isThere p w) (hthere : isThere p.transport w')
    (hd : (n.link p.transport w).Drives (n.link p.transport w')) :
    n.HasSlot isThere p w' ∧ ((n.link p.transport w).stream p.ticket).Supplied
      ((n.link p.transport w').stream p.ticket) := by
  obtain ⟨horderly, hlength, hsupplied⟩ := h.orderly.drives hd
  exact ⟨⟨hthere, horderly, hlength ▸ h.ticket⟩, hsupplied p.ticket⟩

private theorem HasSlot.set (h : n.HasSlot isThere p w) (hn : n.Lawful isThere) {l : Link}
    (ho : l.Orderly) (hl : l.streams.length = (n.link p.transport w).streams.length) :
    n.HasSlot isThere p (n.setLink p.transport l w) := by
  have hlink := hn.link_set (l := l) h.transport
  exact ⟨hn.there_set h.transport, hlink.symm ▸ ho, by rw [hlink, hl]; exact h.ticket⟩

/-- The slot of a search is reached on its transport as it should be. -/
private theorem Driven.faithful (hn : n.Driven isThere) (p : Pending) :
    StreamAccess.Faithful (n.streamAccess p) (n.HasSlot isThere p) where
  get_put {s w} h := by
    show (n.link p.transport (n.setLink _ _ w)).stream p.ticket = s
    rw [hn.link_set h.transport, Link.stream_set h.ticket]
  get_abandon {w} h := by
    show (n.link p.transport (n.setLink _ _ w)).stream p.ticket = _
    rw [hn.link_set h.transport]
    rfl
  put {s w} h hs := h.set hn.toLawful (h.orderly.setStream hs) List.length_set
  abandon h := h.set hn.toLawful (h.orderly.abandon p.id) rfl
  settle h := h.drives (hn.settle h.transport).1 (hn.settle h.transport).2
  pass h := h.drives (hn.pass h.transport).1 (hn.pass h.transport).2

private theorem HasSlot.stands (h : n.HasSlot isThere p w)
    (hnew : (n.link p.transport w).stream p.ticket = {}) (detector : Search.BinaryDetector) :
    StreamAccess.Stands (n.streamAccess p) (n.HasSlot isThere p) [] { id := p.id, detector }
      { world := w } := by
  have hget : (n.streamAccess p).get w = {} := hnew
  refine ⟨h, ?_, ?_, List.forall_mem_nil _⟩
  · rw [hget]
    exact ⟨rfl, rfl, nofun, nofun, fun front m back hsplit => by simp at hsplit⟩
  · rw [hget]
    rfl

end Network

private theorem Link.eq_of_no_next {l l' : Link} {e : DirectoryError} (h : l.nextId = (.error e, l')) :
    l' = l := by
  rw [nextId, Line.nextId] at h
  cases hnext : l.line.ids.next <;> rw [hnext] at h <;> cases h
  rfl

namespace Connection

variable {ω : Type} {n : Network ω} {isThere : TransportId → ω → Prop} {c c' : Connection} {w w' : ω}
  {q : Search.Query}

section Start

variable (hn : n.Lawful isThere) (ht : isThere c.transport w)
include hn ht

/-- A search that is started takes an id and is queued. If it has no request or no id, the transport
stays as it is. -/
private theorem startSearch_cases {o : Outcome Pending} (h : c.startSearch n q w = (o, c', w')) :
    (∃ e, o = .error e ∧ n.link c.transport w' = n.link c.transport w) ∨
      ∃ id l element controls timeout, (n.link c.transport w).nextId = (.ok id, l) ∧
        o = (l.sendSearch id element controls).1.map
          (fun ticket => { transport := c.transport, id, ticket, timeout }) ∧
        isThere c.transport w' ∧ n.link c.transport w' = (l.sendSearch id element controls).2 := by
  rw [startSearch] at h
  split at h
  · cases h
    exact .inl ⟨_, rfl, rfl⟩
  · rename_i request _
    have hset : ∀ l, n.link c.transport (n.setLink c.transport l w) = l := fun _ => hn.link_set ht
    rcases hid : (n.link c.transport w).nextId with ⟨_ | id, l⟩
    · simp only [post, Network.withLink, clearModifiers, hid] at h
      cases h
      exact .inl ⟨_, rfl, (hset l).trans (Link.eq_of_no_next hid)⟩
    · simp only [post, Network.withLink, clearModifiers, hid, hset] at h
      cases h
      have hthere : isThere c.transport (n.setLink c.transport l w) := hn.there_set ht
      exact .inr ⟨id, l, request, c.controls, c.nextTimeout, rfl, rfl, hn.there_set hthere,
        hn.link_set hthere⟩

private theorem startSearch_ok {p : Pending} (ho : (n.link c.transport w).Orderly)
    (h : c.startSearch n q w = (.ok p, c', w')) :
    n.HasSlot isThere p w' ∧ (n.link p.transport w').stream p.ticket = {} := by
  rcases startSearch_cases hn ht h with ⟨e, he, -⟩ |
    ⟨id, l, element, controls, timeout, hid, hp, hthere, hlink⟩
  · cases he
  · have horderly : l.Orderly := by
      have hnext := ho.nextId
      rwa [hid] at hnext
    have hstreams : (l.sendSearch id element controls).2.streams = l.streams ++ [({} : Stream)] :=
      rfl
    have hticket : p.transport = c.transport ∧ p.ticket = l.streams.length := by
      rw [Link.sendSearch] at hp
      rcases hsend : Link.send _ _ with ⟨_ | _, l'⟩ <;> rw [hsend] at hp <;> cases hp
      exact ⟨rfl, rfl⟩
    obtain ⟨htransport, hticket⟩ := hticket
    refine ⟨⟨htransport ▸ hthere, ?_, ?_⟩, ?_⟩ <;> rw [htransport, hlink]
    · exact horderly.sendSearch id element controls
    · rw [hstreams, hticket]
      simp
    · rw [Link.stream, hstreams, hticket]
      simp

/-- On an open line, a search that does not start leaves the transport as it was. -/
private theorem startSearch_error {e : DirectoryError}
    (hopen : (n.link c.transport w).line.isOpen = true)
    (h : c.startSearch n q w = (.error e, c', w')) :
    n.link c.transport w' = n.link c.transport w := by
  rcases startSearch_cases hn ht h with ⟨_, -, hsame⟩ |
    ⟨id, l, element, controls, timeout, hid, hp, -, -⟩
  · exact hsame
  · obtain ⟨ids, -, rfl⟩ := Link.exists_next hid
    simp [Link.sendSearch, Link.send, Line.send, hopen, Except.map] at hp

end Start

end Connection

namespace Validator

open StreamAccess (Stands)

variable {ω : Type}

def noted? (n : Network ω) (p : Pending) (detector : Search.BinaryDetector) (w : ω) :
    Option (Bool × Noted ω) :=
  succeeds? (StreamAccess.noting (n.streamAccess p)) { id := p.id, detector } { world := w }

structure Positioned (n : Network ω) (p : Pending) (detector : Search.BinaryDetector) (w : ω)
    (ms : List Message) (cursor : Cursor) (y : Noted ω) : Prop where
  positions : ∀ m ∈ ms, m.isPosition = true
  arrived : ms.map .arrived <+: y.incidents
  goes : (StreamAccess.noting (n.streamAccess p)).Goes { id := p.id, detector } { world := w } ms
    cursor y

/-- A check by a lookup tells the truth, and leaves no search behind. -/
structure Honest (n : Network ω) (timeout : Option Nat) (c : Connection) (w : ω) : Prop where
  /-- Exactly those connections pass which are authenticated, and on which the last response to the
  search arrives, with the code zero, before anything else becomes of it but that positions arrive. -/
  verdict : (check n (lookup timeout) c w).1 = true ↔ c.isAuthenticated n w = true ∧
    ∃ p c' w' isValid y, startLookup n timeout c w = (.ok p, c', w') ∧
      noted? n p c'.detector w' = some (isValid, y) ∧ Incident.Succeeds y.incidents
  /-- Without authentication nothing is asked. -/
  unasked : c.isAuthenticated n w = false → check n (lookup timeout) c w = (false, c, w)
  /-- If the search cannot be started, the transport stays as it is. -/
  unstarted : ∀ e c' w', c.isAuthenticated n w = true →
    startLookup n timeout c w = (.error e, c', w') →
    check n (lookup timeout) c w = (false, c', w') ∧
      n.link c.transport w' = n.link c.transport w
  /-- When the check returns, nothing is left of the search. -/
  returns : ∀ p c' w' isValid y, c.isAuthenticated n w = true →
    startLookup n timeout c w = (.ok p, c', w') →
    noted? n p c'.detector w' = some (isValid, y) →
    check n (lookup timeout) c w = (isValid, c', y.world) ∧
      (isValid = true ↔ Incident.Succeeds y.incidents) ∧
      ((n.link p.transport y.world).stream p.ticket).Disposed y.incidents
  /-- It does not return only if positions arrive without end, or if the wait has no bound and after some
  position nothing ever arrives. -/
  endless : ∀ p c' w', c.isAuthenticated n w = true →
    startLookup n timeout c w = (.ok p, c', w') → noted? n p c'.detector w' = none →
    check n (lookup timeout) c w = (false, c', w') ∧
      ((∀ k, ∃ ms cursor y, ms.length = k ∧ Positioned n p c'.detector w' ms cursor y) ∨
        ∃ ms cursor y, Positioned n p c'.detector w' ms cursor y ∧ p.timeout = none ∧
          (n.streamAccess p).Hangs y.world)

section Noted

variable {n : Network ω} {isThere : TransportId → ω → Prop} {p : Pending}
  {detector : Search.BinaryDetector} {w : ω}

private theorem succeeds_noting (a : StreamAccess ω) (cursor : Cursor) (y : Noted ω) :
    (succeeds? a.noting cursor y).map (fun x => (x.1, x.2.world)) = succeeds? a cursor y.world := by
  rw [succeeds?, succeeds?, ← a.drain_noting, Option.map_map, Option.map_map]
  congr 1
  funext x
  exact congrArg _ (a.world_commit x.2.2 (x.2.1.close (a.get x.2.2.world)))

/-- What has become of the search when it has been read to its end. -/
private theorem noted_settled (hn : n.Driven isThere) (hp : n.HasSlot isThere p w)
    (hnew : (n.link p.transport w).stream p.ticket = {}) {isValid : Bool} {y : Noted ω}
    (h : noted? n p detector w = some (isValid, y)) :
    (isValid = true ↔ Incident.Succeeds y.incidents) ∧
      ((n.link p.transport y.world).stream p.ticket).Disposed y.incidents := by
  obtain ⟨⟨isOver, cursor, y₁⟩, hdrain, hy⟩ := Option.map_eq_some_iff.mp h
  have hfinished := StreamAccess.finished_of_drain (hn.faithful p) hdrain (hp.stands hnew detector)
  obtain ⟨hsame, hget⟩ := hfinished.close (hn.faithful p)
  obtain ⟨rfl, rfl⟩ := Prod.mk.inj hy
  rw [hsame]
  refine ⟨hfinished.verdict, ?_⟩
  rw [show (n.link p.transport _).stream p.ticket = _ from hget]
  exact hfinished.disposed

end Noted

section Check

variable {n : Network ω} {timeout : Option Nat} {c c' : Connection} {w w' : ω}

private theorem check_of_error {e : DirectoryError} (hauth : c.isAuthenticated n w = true)
    (h : startLookup n timeout c w = (.error e, c', w')) :
    check n (lookup timeout) c w = (false, c', w') := by
  simp only [check, hauth, ↓reduceIte, lookUp, h]

private theorem check_of_ok {p : Pending} (hauth : c.isAuthenticated n w = true)
    (h : startLookup n timeout c w = (.ok p, c', w')) : check n (lookup timeout) c w =
      (((noted? n p c'.detector w').map Prod.fst).getD false, c',
        ((noted? n p c'.detector w').map fun x => x.2.world).getD w') := by
  have hplain := succeeds_noting (n.streamAccess p) { id := p.id, detector := c'.detector }
    { world := w' }
  rw [check, if_pos hauth]
  simp only [lookUp, h, ← hplain, noted?]
  cases succeeds? (StreamAccess.noting (n.streamAccess p)) { id := p.id, detector := c'.detector }
    { world := w' } <;> rfl

end Check

section Honest

variable {n : Network ω} {isThere : TransportId → ω → Prop} (hn : n.Driven isThere) {c : Connection}
  {w : ω} (ht : isThere c.transport w) (ho : (n.link c.transport w).Orderly) {timeout : Option Nat}
include hn ht ho

/-- The search of a lookup has a slot of its own, of which nothing has become. -/
private theorem started {p : Pending} {c' : Connection} {w' : ω}
    (h : startLookup n timeout c w = (.ok p, c', w')) :
    n.HasSlot isThere p w' ∧ (n.link p.transport w').stream p.ticket = {} :=
  Connection.startSearch_ok (c := { c with timeout := timeout.or c.timeout }) hn.toLawful ht ho h

private theorem passes_iff : (check n (lookup timeout) c w).1 = true ↔
    c.isAuthenticated n w = true ∧
      ∃ p c' w' isValid y, startLookup n timeout c w = (.ok p, c', w') ∧
        noted? n p c'.detector w' = some (isValid, y) ∧ Incident.Succeeds y.incidents := by
  cases hauth : c.isAuthenticated n w with
  | false => simp [check, hauth]
  | true =>
    rcases hstart : startLookup n timeout c w with ⟨e | p, c', w'⟩
    · simp [check_of_error hauth hstart]
    · obtain ⟨hslot, hnew⟩ := started hn ht ho hstart
      rw [check_of_ok hauth hstart]
      constructor
      · intro hpasses
        cases hnoted : noted? n p c'.detector w' with
        | none =>
          rw [hnoted] at hpasses
          cases hpasses
        | some x =>
          rw [hnoted] at hpasses
          exact ⟨rfl, p, c', w', x.1, x.2, rfl, hnoted,
            (noted_settled hn hslot hnew hnoted).1.mp hpasses⟩
      · rintro ⟨-, p₁, c₁, w₁, isValid, y, hsame, hnoted, hsucceeds⟩
        cases hsame
        rw [hnoted]
        exact (noted_settled hn hslot hnew hnoted).1.mpr hsucceeds

/-- A search that is never read to its end gives one position after the other, or it is waited for
without end. -/
private theorem positioned_of_endless {p : Pending} {c' : Connection} {w' : ω}
    (h : startLookup n timeout c w = (.ok p, c', w')) (hnone : noted? n p c'.detector w' = none) :
    (∀ k, ∃ ms cursor y, ms.length = k ∧ Positioned n p c'.detector w' ms cursor y) ∨
      ∃ ms cursor y, Positioned n p c'.detector w' ms cursor y ∧ p.timeout = none ∧
        (n.streamAccess p).Hangs y.world := by
  obtain ⟨hslot, hnew⟩ := started hn ht ho h
  have hpositioned : ∀ {ms cursor y}, (StreamAccess.noting (n.streamAccess p)).Goes
      { id := p.id, detector := c'.detector } { world := w' } ms cursor y →
      Stands (n.streamAccess p) (n.HasSlot isThere p) ms cursor y →
      Positioned n p c'.detector w' ms cursor y := by
    intro ms cursor y hgoes hstands
    refine ⟨hstands.positions, ?_, hgoes⟩
    rw [hstands.incidents, Stream.incidents, List.map_append, List.append_assoc]
    exact List.prefix_append _ _
  -- A wait without end can come after any position; if it comes nowhere, each is followed by another.
  by_cases hhangs : ∃ ms cursor y, Positioned n p c'.detector w' ms cursor y ∧ p.timeout = none ∧
      (n.streamAccess p).Hangs y.world
  · exact .inr hhangs
  refine .inl fun k => ?_
  rcases StreamAccess.exists_goes (hn.faithful p) (hslot.stands hnew c'.detector)
    (Option.map_eq_none_iff.mp hnone) k with
    ⟨ms, cursor, y, hlength, hgoes, hstands, -⟩ | ⟨ms, cursor, y, hgoes, hstands, hnext⟩
  · exact ⟨ms, cursor, y, hlength, hpositioned hgoes hstands⟩
  · have hhangs' := hstands.hangs (hn.faithful p) hnext
    exact absurd ⟨ms, cursor, y, hpositioned hgoes hstands,
      Option.isNone_iff_eq_none.mp (Option.isSome_eq_false_iff.mp hhangs'.unbounded), hhangs'⟩ hhangs

end Honest

section Answered

open Scenario

/-- A site whose server answers a search with the root entry and a successful end. -/
def answering : Site where
  peers := [{}]
  rules := [{
    operation := some 3
    sendings := [.answer [0x64, 4, 4, 0, 0x30, 0], .answer [0x65, 7, 0x0a, 1, 0, 4, 0, 4, 0]] }]

def applicant : Connection := { id := 1, transport := 0, hasBound := true }

private def asking : Outcome Pending × Connection × Site :=
  startLookup Site.network (some 50) applicant answering

private def asked : Pending := { transport := 0, id := 1, ticket := 0, timeout := some 50 }

private def entryRead : Option (Outcome Bool × Cursor × Noted Site) :=
  (StreamAccess.noting (Site.network.streamAccess asked)).next?
    { id := asked.id, detector := applicant.detector } { world := asking.2.2 }

private def endRead : Option (Outcome Bool × Cursor × Noted Site) :=
  entryRead.bind fun (_, c, y) => (StreamAccess.noting (Site.network.streamAccess asked)).next? c y

private theorem drain_answering : ∃ c y, c.done.any OperationResult.isSuccess = true ∧
    (StreamAccess.noting (Site.network.streamAccess asked)).drain?
      { id := asked.id, detector := applicant.detector } { world := asking.2.2 } =
        some (true, c, y) := by
  have hentry : entryRead.map Prod.fst = some (.ok true) := by with_unfolding_all rfl
  have hend : endRead.map (fun x => (x.1, x.2.1.done.any OperationResult.isSuccess)) =
      some (.ok false, true) := by with_unfolding_all rfl
  obtain ⟨⟨_, c₁, y₁⟩, hentry, rfl⟩ := Option.map_eq_some_iff.mp hentry
  rw [endRead, hentry, Option.bind_some] at hend
  obtain ⟨⟨o, c₂, y₂⟩, hend, heq⟩ := Option.map_eq_some_iff.mp hend
  obtain ⟨rfl, hvalid⟩ := Prod.mk.inj heq
  refine ⟨c₂, y₂, hvalid, ?_⟩
  rw [StreamAccess.drain?, show StreamAccess.next? _ _ _ = some (.ok true, c₁, y₁) from hentry]
  show StreamAccess.drain? _ c₁ y₁ = _
  rw [StreamAccess.drain?, show StreamAccess.next? _ _ _ = some (.ok false, c₂, y₂) from hend]

end Answered

end Validator

end DirectoryClient
