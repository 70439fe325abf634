import DirectoryClient.Pool.Activity

/-! A pool at work: the connections that are held by name, borrowers in the background, and the thread
that evicts from time to time. The clock stands still while anybody can go on. -/
namespace DirectoryClient.Scenario

open DirectoryClient.Pool

/-- What is held under a name. A pooled connection returns to its pool when it is let go. -/
inductive Handle (κ : Type) where
  | pooled (connection : κ)
  | raw (connection : κ)

namespace Handle

variable {κ : Type}

def connection : Handle κ → κ
  | pooled c | raw c => c

def isPooled : Handle κ → Bool
  | pooled _ => true
  | raw _ => false

def replace (connection : κ) : Handle κ → Handle κ
  | pooled _ => pooled connection
  | raw _ => raw connection

end Handle

/-- A pool at work. The borrower without a name is the one whose step it is. -/
structure Lending (ω κ : Type) where
  pool : Pool ω κ
  /-- The world at a later instant. -/
  moveClock : Nat → ω → ω
  /-- What becomes of a connection that no pool takes back. -/
  abandonRaw : κ → ω → ω
  world : ω
  accounts : State κ := {}
  handles : List (String × Handle κ) := []
  borrowers : List (Option String × Activity κ) := []
  /-- When the next eviction pass begins, while there are any. -/
  nextEviction : Option Nat := none

namespace Lending

variable {ω κ : Type}

def now (l : Lending ω κ) : Nat := l.pool.manager.clock l.world

/-- The time between eviction passes. A pass takes a moment at least. -/
def evictionInterval? (l : Lending ω κ) : Option Nat :=
  l.pool.settings.timeBetweenEvictionRuns.map (max 1)

def scheduleEviction (l : Lending ω κ) : Lending ω κ :=
  { l with nextEviction := l.evictionInterval?.map (l.now + ·) }

def wakeFirst : List (Option String × Activity κ) → List (Option String × Activity κ)
  | [] => []
  | (name, t) :: rest =>
    if t.isWaiting then (name, t.wake) :: rest else (name, t) :: wakeFirst rest

def heed (l : Lending ω κ) : Wakeup → Lending ω κ
  | .nobody => l
  | .one => { l with borrowers := wakeFirst l.borrowers }
  | .everyone => { l with borrowers := l.borrowers.map fun (name, t) => (name, t.wake) }

def runAlone (t : Activity κ) (l : Lending ω κ) : Activity κ × Lending ω κ :=
  let (t, accounts, world, wakeups) := t.run l.pool l.accounts l.world
  (t, wakeups.foldl heed { l with accounts, world })

def runBorrowers (l : Lending ω κ) : Lending ω κ :=
  (List.range l.borrowers.length).foldl (fun l i =>
    match l.borrowers[i]? with
    | some (name, t) =>
      if t.isFinished then l
      else
        let (t, l) := l.runAlone t
        { l with borrowers := l.borrowers.set i (name, t) }
    | none => l) l

/-- Lets borrowers go on until all of them sleep. One of them can set all others free, so one round
more than there are borrowers is enough. -/
def settle (l : Lending ω κ) : Lending ω κ :=
  (List.range (l.borrowers.length + 1)).foldl (fun l _ => l.runBorrowers) l

/-- Runs the activity whose turn it is. Those that it has woken go on afterwards. -/
def perform (t : Activity κ) (l : Lending ω κ) : Activity κ × Lending ω κ :=
  let (t, l) := l.runAlone t
  (t, l.settle)

def stopEvictions (l : Lending ω κ) : Lending ω κ := { l with nextEviction := none }

def evictIfDue (l : Lending ω κ) : Lending ω κ :=
  if l.nextEviction.any (· ≤ l.now) then
    (l.perform (.evict .starting)).2.scheduleEviction
  else l

def deadline? : Activity κ → Option Nat
  | .borrow deadline .waiting => deadline
  | _ => none

def nextEvent? (l : Lending ω κ) : Option Nat :=
  (l.nextEviction.toList ++ l.borrowers.filterMap fun (_, t) => deadline? t).min?

def moveTo (instant : Nat) (l : Lending ω κ) : Lending ω κ :=
  (settle { l with world := l.moveClock (max l.now instant) l.world }).evictIfDue

def eventBound (span : Nat) (l : Lending ω κ) : Nat :=
  l.borrowers.length + l.evictionInterval?.elim 0 (span / ·) + 2

def passUntil (stop : Lending ω κ → Bool) (instant : Nat) : Nat → Lending ω κ → Lending ω κ
  | 0, l => l.moveTo instant
  | events + 1, l =>
    if stop l then l
    else
      match l.nextEvent? with
      | some t =>
        if t ≤ instant then passUntil stop instant events (l.moveTo t) else l.moveTo instant
      | none => l.moveTo instant

def sleep (span : Nat) (l : Lending ω κ) : Lending ω κ :=
  l.passUntil (fun _ => false) (l.now + span) (l.eventBound span)

def startBorrow (name : Option String) (l : Lending ω κ) : Lending ω κ :=
  let t := Activity.startBorrow l.pool l.world
  settle { l with borrowers := l.borrowers ++ [(name, t)] }

def borrowed? : Activity κ → Option (Outcome κ)
  | .borrow _ (.finished outcome) => some outcome
  | _ => none

/-- Waits for a borrower to finish, over at most so many events, and takes its outcome. There is none
if there is no such borrower, or if it would wait forever. -/
def join (name : Option String) : Nat → Lending ω κ → Option (Outcome κ) × Lending ω κ
  | 0, l => (none, l)
  | events + 1, l =>
    match l.borrowers.lookup name with
    | none => (none, l)
    | some t =>
      match borrowed? t, l.nextEvent? with
      | some o, _ => (some o, { l with borrowers := l.borrowers.filter (·.1 != name) })
      | none, some t => join name events (l.moveTo t)
      | none, none => (none, l)

def joinBound (l : Lending ω κ) : Nat := l.eventBound (l.pool.settings.maxWait.getD 0)

def borrow (l : Lending ω κ) : Option (Outcome κ) × Lending ω κ :=
  let l := l.startBorrow none
  l.join none l.joinBound

def giveBack (c : κ) (l : Lending ω κ) : Outcome Unit × Lending ω κ :=
  match l.perform (.giveBack (.presenting c)) with
  | (.giveBack (.finished o), l) => (o, l)
  | (_, l) => (.ok (), l)

def wrap (c : κ) (l : Lending ω κ) : Outcome κ × Lending ω κ :=
  match l.perform (.wrap (.presenting c)) with
  | (.wrap (.finished o), l) => (o, l)
  | (_, l) => (.ok c, l)

def detach (c : κ) (l : Lending ω κ) : Lending ω κ :=
  (l.perform (.detach (.forgetting c))).2

def evict (l : Lending ω κ) : Nat × Lending ω κ :=
  match l.perform (.evict .starting) with
  | (.evict (.finished n), l) => (n, l)
  | (_, l) => (0, l)

def close (l : Lending ω κ) : Lending ω κ :=
  (l.perform (.close .starting)).2.stopEvictions

def letGo (l : Lending ω κ) : Lending ω κ :=
  let (accounts, world) := Pool.letGo l.pool l.accounts l.world
  { l with accounts, world }.stopEvictions

def handle? (name : String) (l : Lending ω κ) : Option (Handle κ) := l.handles.lookup name

def remove (name : String) (l : Lending ω κ) : Lending ω κ :=
  { l with handles := l.handles.filter (·.1 != name) }

def dropHandle (h : Handle κ) (l : Lending ω κ) : Lending ω κ :=
  match h with
  | .pooled c => (l.giveBack c).2
  | .raw c => { l with world := l.abandonRaw c l.world }

def hold (name : String) (h : Handle κ) (l : Lending ω κ) : Lending ω κ :=
  let old := l.handle? name
  let l := l.remove name
  let l := { l with handles := l.handles ++ [(name, h)] }
  old.elim l l.dropHandle

def update (name : String) (c : κ) (l : Lending ω κ) : Lending ω κ :=
  { l with handles := l.handles.map fun (n, h) => (n, if n = name then h.replace c else h) }

def dropAll (l : Lending ω κ) : Lending ω κ :=
  (l.handles.mergeSort fun a b => a.1 ≤ b.1).foldl (fun l (name, h) => (l.remove name).dropHandle h) l

end Lending

end DirectoryClient.Scenario
