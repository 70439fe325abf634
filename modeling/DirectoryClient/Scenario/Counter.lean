import DirectoryClient.Scenario.Answer
import DirectoryClient.Scenario.Lending
import DirectoryClient.Scenario.Numbered

/-! Steps at the counter of a pool of numbered connections. The pool lives as long as somebody can
reach it: its owner, a pooled connection, or a borrower in the background. -/
namespace DirectoryClient.Scenario

/-- Which connection a step is about: one that is held by name, or a raw one of unknown origin. -/
inductive Presented where
  | held (name : String)
  | foreign (number : Nat)

/-- What can be done at the counter. `name` is where a new connection is held. -/
inductive CounterStep where
  | borrow (name : String)
  | release (c : Presented)
  | drop (c : Presented)
  | poolRelease (c : Presented)
  | wrap (c : Presented) (name : String)
  | intoInner (c : Presented) (name : String)
  | detach (c : Presented) (name : String)
  /-- Changes the number of a pooled connection. -/
  | renumber (c : Presented) (number : Nat)
  | describe (c : Presented)
  | evict
  | close
  | dropPool
  | sleep (span : Nat)
  | waitIdle (count : Nat)
  | change (f : Numbered → Numbered)
  | startBorrow (name : String)
  | join (borrower name : String)

structure Counter where
  lending : Lending Numbered Nat
  isOwned : Bool := true
  isAlive : Bool := true

namespace Counter

def ofSettings (settings : Settings.Pool) : Counter where
  lending := Lending.scheduleEviction {
    pool := { manager := Numbered.manager, settings }
    moveClock := fun now w => { w with now }
    abandonRaw := fun _ w => w
    world := {} }

def patience : Nat := 5000

def reaches : Pool.Activity Nat → Bool
  | .borrow _ (.finished (.error _)) => false
  | _ => true

def isReachable (c : Counter) : Bool :=
  c.isOwned || c.lending.handles.any (·.2.isPooled) || c.lending.borrowers.any (reaches ·.2)

def collect (c : Counter) : Counter :=
  if c.isAlive && !c.isReachable then { c with lending := c.lending.letGo, isAlive := false } else c

def find? (c : Counter) : Presented → Option (Handle Nat)
  | .held name => c.lending.handle? name
  | .foreign number => some (.raw number)

def findPooled? (c : Counter) (x : Presented) : Option Nat :=
  match c.find? x with
  | some (.pooled n) => some n
  | _ => none

def take (c : Counter) : Presented → Lending Numbered Nat
  | .held name => c.lending.remove name
  | .foreign _ => c.lending

/-- Takes the connection of a step for something that only a pooled connection can be used for. A raw
one is lost. -/
def takePooled (c : Counter) (x : Presented)
    (f : Nat → Lending Numbered Nat → Answer × Lending Numbered Nat) : Answer × Counter :=
  let (a, lending) := (c.findPooled? x).elim (.gone, c.take x) fun n => f n (c.take x)
  (a, { c with lending })

def holdOutcome (name : String) (o : Option (Outcome Nat)) (l : Lending Numbered Nat) :
    Answer × Lending Numbered Nat :=
  match o with
  | none => (.gone, l)
  | some (.error e) => (.number (.error e), l)
  | some (.ok n) => (.number (.ok n), l.hold name (.pooled n))

def describePooled (n : Nat) : String := "PooledConnection(Some(Conn(" ++ toString n ++ ")))"

def actFreely (c : Counter) : CounterStep → Option (Answer × Counter)
  | .release x => some <| c.takePooled x fun n l =>
    let (o, l) := l.giveBack n
    (.unit o, l)
  | .drop x => (c.find? x).map fun h =>
    (.nothing, { c with lending := (c.take x).dropHandle h })
  | .intoInner x name => some <| c.takePooled x fun n l =>
    (.number (.ok n), l.hold name (.raw n))
  | .detach x name => some <| c.takePooled x fun n l =>
    (.number (.ok n), (l.detach n).hold name (.raw n))
  | .renumber (.held name) number => (c.findPooled? (.held name)).map fun _ =>
    (.nothing, { c with lending := c.lending.update name number })
  | .describe x => (c.findPooled? x).map fun (n : Nat) =>
    let s := c.lending.accounts
    (.loan s.idle.length s.active.length (describePooled n), c)
  | .sleep span => some (.nothing, { c with lending := c.lending.sleep span })
  | .change f => some (.nothing, { c with lending := { c.lending with world := f c.lending.world } })
  | .join borrower name =>
    let (o, lending) := c.lending.join (some borrower) c.lending.joinBound
    let (a, lending) := holdOutcome name o lending
    some (a, { c with lending })
  | _ => none

def actOnPool (c : Counter) : CounterStep → Option (Answer × Counter)
  | .borrow name =>
    let (o, lending) := c.lending.borrow
    let (a, lending) := holdOutcome name o lending
    some (a, { c with lending })
  | .startBorrow name =>
    some (.nothing, { c with lending := c.lending.startBorrow (some name) })
  | .poolRelease x => (c.find? x).map fun h =>
    let (o, lending) := (c.take x).giveBack h.connection
    (.unit o, { c with lending })
  | .wrap x name => (c.find? x).map fun h =>
    let (o, lending) := match h with
      | .pooled n => (.ok n, c.take x)
      | .raw n => (c.take x).wrap n
    let (a, lending) := holdOutcome name (some o) lending
    (a, { c with lending })
  | .evict =>
    let (n, lending) := c.lending.evict
    some (.number (.ok n), { c with lending })
  | .close => some (.nothing, { c with lending := c.lending.close })
  | .dropPool => some (.nothing, { c with isOwned := false })
  | .waitIdle count =>
    let lending := c.lending.passUntil (·.accounts.idle.length == count) (c.lending.now + patience)
      (c.lending.eventBound patience)
    some (.number (.ok lending.accounts.idle.length), { c with lending })
  | _ => none

/-- A step at the counter. One that is not possible changes nothing. -/
def act (step : CounterStep) (c : Counter) : Answer × Counter :=
  match c.actFreely step, if c.isOwned then c.actOnPool step else none with
  | some (a, c), _ | none, some (a, c) => (a, c.collect)
  | none, none => (.gone, c)

def status? (c : Counter) : Option (Pool.State Nat) :=
  if c.isOwned then some c.lending.accounts else none

def takeTraces (c : Counter) : List Trace × Counter :=
  let w := c.lending.world
  (w.traces, { c with lending := { c.lending with world := { w with traces := [] } } })

def gained? : Pool.Activity Nat → Option (Handle Nat)
  | .borrow _ (.finished (.ok n)) => some (.pooled n)
  | _ => none

/-- Everything is let go: what is held, in the order of the names, what borrowers have got, and the
pool. -/
def finish (c : Counter) : Counter :=
  let l := c.lending.dropAll
  let l := (l.borrowers.filterMap fun (_, t) => gained? t).foldl (fun l h => l.dropHandle h)
    { l with borrowers := [] }
  { c with lending := l, isOwned := false }.collect

end Counter

end DirectoryClient.Scenario
