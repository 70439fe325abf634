import DirectoryClient.Factory.Pooling
import DirectoryClient.Scenario.Lending
import DirectoryClient.Scenario.Site

/-! An eviction pass in the background of a session. While it waits for the response to a lookup,
everybody else goes on. -/
namespace DirectoryClient.Scenario

open DirectoryClient.Pool

/-- A lookup on a connection, which waits for the next response until a deadline, if there is one. -/
structure Lookup where
  connection : Connection
  pending : Pending
  cursor : Cursor
  deadline : Option Nat

namespace Lookup

def awaitNext (site : Site) (l : Lookup) : Lookup :=
  { l with deadline := Slot.deadline site.now l.pending.timeout }

/-- Starts a lookup, unless it fails at once. The connection has changed in any case. -/
def start (timeout : Option Nat) (c : Connection) (site : Site) :
    Option Lookup × Connection × Site :=
  match Validator.startLookup Site.network timeout c site with
  | (.error _, c, site) => (none, c, site)
  | (.ok p, c, site) =>
    let l : Lookup := {
      connection := c
      pending := p
      cursor := { id := p.id, detector := c.detector }
      deadline := none }
    (some (l.awaitNext site), c, site)

/-- Reads at most so many responses that have come: the lookup goes on, or it is over and says
whether the connection is valid. -/
def read : Nat → Lookup → Site → (Lookup ⊕ Bool) × Site
  | 0, l, site => (.inl l, site)
  | n + 1, l, site =>
    let a : StreamAccess Site := Site.network.streamAccess l.pending
    let m := l.cursor.next (l.deadline.any (· ≤ site.now)) (a.get site)
    let site := a.commit m site
    match m.result with
    | none => (.inl { l with cursor := m.reader }, site)
    | some (.ok true) => read n ({ l with cursor := m.reader }.awaitNext site) site
    | some (.ok false) => (.inr (m.reader.done.any OperationResult.isSuccess), site)
    | some (.error _) => (.inr false, site)

end Lookup

structure Sweep where
  position : Eviction Connection := .starting
  lookup : Option Lookup := none

namespace Sweep

def move (test : Option (Bool × Connection)) (e : Eviction Connection)
    (l : Lending Site Connection) : Eviction Connection × Lending Site Connection :=
  let pool := test.elim l.pool fun (isValid, c) =>
    { l.pool with manager := { l.pool.manager with validate := fun _ site => (isValid, c, site) } }
  let r := e.step pool l.accounts l.world
  (r.activity, { l with accounts := r.state, world := r.world }.heed r.wakeup)

def lookupDue? (v : Validator) (e : Eviction Connection) (l : Lending Site Connection) :
    Option (Connection × Option Nat) :=
  match v, e with
  | .lookup timeout, .testing (i :: _) _ _ _ =>
    if i.connection.isAuthenticated Site.network l.world then some (i.connection, timeout) else none
  | _, _ => none

def run (v : Validator) : Nat → Sweep → Lending Site Connection →
    Option Sweep × Lending Site Connection
  | 0, s, l => (some s, l)
  | n + 1, s, l =>
    match s.position, s.lookup with
    | .finished _, _ => (none, l)
    | e, some lookup =>
      let site := l.world.settle
      let available := ((Site.network.streamAccess lookup.pending).get site).available
      match lookup.read (available + 2) site with
      | (.inl lookup, world) => (some ⟨e, some lookup⟩, { l with world })
      | (.inr isValid, world) =>
        let (e, l) := move (some (isValid, lookup.connection)) e { l with world }
        run v n ⟨e, none⟩ l
    | e, none =>
      match lookupDue? v e l with
      | none =>
        let (e, l) := move none e l
        run v n ⟨e, none⟩ l
      | some (c, timeout) =>
        match Lookup.start timeout c l.world with
        | (some lookup, _, world) => run v n ⟨e, some lookup⟩ { l with world }
        | (none, c, world) =>
          let (e, l) := move (some (false, c)) e { l with world }
          run v n ⟨e, none⟩ l

/-- More steps than a pass makes: a few for each connection that was ever made or is missing. -/
def bound (l : Lending Site Connection) : Nat :=
  8 * (l.world.pooled + min l.pool.settings.minIdle l.pool.settings.maxIdle + 2)

/-- Lets a pass go on. Once it is over, the next one is put on the clock of an open pool. -/
def advance (v : Validator) (s : Sweep) (l : Lending Site Connection) :
    Option Sweep × Lending Site Connection :=
  match s.run v (bound l) l with
  | (none, l) => (none, (if l.accounts.isClosed then l else l.scheduleEviction).settle)
  | (some s, l) => (some s, l.settle)

def goOn (v : Validator) (s : Option Sweep) (l : Lending Site Connection) :
    Option Sweep × Lending Site Connection :=
  match s with
  | some s => s.advance v l
  | none =>
    if l.nextEviction.any (· ≤ l.now) then ({} : Sweep).advance v l.stopEvictions else (none, l)

end Sweep

end DirectoryClient.Scenario
