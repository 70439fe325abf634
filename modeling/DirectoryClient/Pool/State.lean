import DirectoryClient.Error
import DirectoryClient.Settings.Pool

/-! The accounts of a pool. They are only touched under a lock; each function here is one such
section, and calls no hook. -/
namespace DirectoryClient.Pool

structure Idle (κ : Type) where
  connection : κ
  since : Nat
  deriving Repr

/-- The accounts of a pool. The connection that has been idle longest comes first. -/
structure State (κ : Type) where
  idle : List (Idle κ) := []
  /-- The ids of the connections that are out, each once. -/
  active : List Nat := []
  /-- How many borrows hold a place for a connection that is not out yet. -/
  pending : Nat := 0
  isClosed : Bool := false
  deriving Repr

inductive Candidate (κ : Type) where
  | idle (connection : κ)
  | new

inductive Reservation (κ : Type) where
  | granted (candidate : Candidate κ)
  | refused (cause : DirectoryError)
  /-- Every place is taken; the borrow goes to sleep. -/
  | blocked

namespace State

variable {κ : Type}

def occupied (s : State κ) : Nat := s.active.length + s.pending

def takeIdle (lifo : Bool) (s : State κ) : Option κ × State κ :=
  if lifo then
    (s.idle.getLast?.map Idle.connection, { s with idle := s.idle.dropLast })
  else
    (s.idle.head?.map Idle.connection, { s with idle := s.idle.tail })

/-- Holds a place, if there is one, and takes an idle connection along; `late` if the time to wait for
a place is over. -/
def reserve (settings : Settings.Pool) (late : Bool) (s : State κ) : Reservation κ × State κ :=
  if s.isClosed then (.refused .poolClosed, s)
  else if s.occupied < settings.maxActive then
    let (connection, s) := takeIdle settings.lifo { s with pending := s.pending + 1 }
    (.granted (connection.elim .new .idle), s)
  else
    match settings.whenExhausted with
    | .fail => (.refused .poolExhausted, s)
    | .block => (if late then .refused .poolExhausted else .blocked, s)

/-- Turns a held place into a connection that is out. -/
def checkOut (id : Nat) (s : State κ) : State κ :=
  { s with pending := s.pending - 1, active := s.active.insert id }

def cancelReservation (s : State κ) : State κ := { s with pending := s.pending - 1 }

def isOut (id : Nat) (s : State κ) : Bool := s.active.contains id

def forget (id : Nat) (s : State κ) : State κ := { s with active := s.active.erase id }

/-- Ends a loan. The connection becomes idle if it is to be kept and there is room for it in an open
pool; otherwise it is handed back to be destroyed. -/
def settleReturn (settings : Settings.Pool) (now id : Nat) (connection : κ) (keep : Bool)
    (s : State κ) : Option κ × State κ :=
  let s := s.forget id
  if keep && !s.isClosed && s.idle.length < settings.maxIdle then
    (none, { s with idle := s.idle ++ [{ connection, since := now }] })
  else (some connection, s)

def isExpired (settings : Settings.Pool) (now : Nat) (i : Idle κ) : Bool :=
  settings.minEvictableIdleTime.any (· ≤ now - i.since)

def takeForEviction (settings : Settings.Pool) (now : Nat) (s : State κ) :
    Option (List (Idle κ) × List (Idle κ)) × State κ :=
  if s.isClosed then (none, s)
  else (some (s.idle.partition (isExpired settings now)), { s with idle := [] })

/-- Puts idle connections back in front of those that have come since, and says how many the pool
lacks. -/
def putBack (settings : Settings.Pool) (kept : List (Idle κ)) (s : State κ) : Nat × State κ :=
  let idle := kept ++ s.idle
  (min settings.minIdle settings.maxIdle - idle.length, { s with idle })

def adopt (settings : Settings.Pool) (now : Nat) (connection : κ) (s : State κ) :
    Bool × State κ :=
  if s.isClosed || s.idle.length ≥ settings.maxIdle then (false, s)
  else (true, { s with idle := s.idle ++ [{ connection, since := now }] })

def drain (s : State κ) : List κ × State κ :=
  (s.idle.map Idle.connection, { s with idle := [] })

def close (s : State κ) : Option (List κ) × State κ :=
  if s.isClosed then (none, s)
  else
    let (idle, s) := s.drain
    (some idle, { s with isClosed := true })

end State

end DirectoryClient.Pool
