import DirectoryClient.Slot.Basic
import DirectoryClient.Text.Duration

/-! The slot of an operation with one response. Its outcome is assigned once and found by every
caller. -/
namespace DirectoryClient

open Slot (Phase Finding)

structure Reply (α : Type) where
  phase : Phase := .pending
  outcome : Option (Outcome α) := none

namespace Reply

variable {α : Type}

/-- What a caller finds. An outcome that comes after a cancellation without interruption is still
found. -/
def examine (id : MessageId) (late : Bool) (r : Reply α) : Finding α × Reply α :=
  match r.phase, r.outcome with
  | .completed, o => (.settled (o.getD (.error .connectionClosed)), r)
  | .cancelled true, _ => (.settled (.error (.operationCancelled id)), r)
  | .cancelled false, some o => (.settled o, r)
  | .cancelled false, none =>
    (if late then .settled (.error (.operationCancelled id)) else .blocked, r)
  | .pending, _ => (if late then .lapsed else .blocked, r)

def cancel (interrupt : Bool) (r : Reply α) : Bool × Reply α :=
  if r.phase = .pending then (true, { r with phase := .cancelled interrupt }) else (false, r)

instance : Slot (Reply α) α where
  examine := examine
  cancel := cancel

/-- Delivers the outcome, and says whether it was taken. An interrupted slot takes none. -/
def complete (outcome : Outcome α) (r : Reply α) : Bool × Reply α :=
  match r.phase, r.outcome with
  | .pending, _ => (true, { phase := .completed, outcome := some outcome })
  | .cancelled false, none => (true, { r with outcome := some outcome })
  | _, _ => (false, r)

/-- No outcome will be delivered: the slot fails, with the cancellation if there was one. -/
def forsake (id : MessageId) (r : Reply α) : Reply α :=
  match r.phase, r.outcome with
  | .pending, _ => { phase := .completed, outcome := some (.error .connectionClosed) }
  | .cancelled false, none => { r with outcome := some (.error (.operationCancelled id)) }
  | _, _ => r

def isDone (r : Reply α) : Bool := r.phase ≠ .pending

def isCancelled (r : Reply α) : Bool := r.phase.isCancelled

def describe (id : MessageId) (timeout : Option Nat) : String :=
  "ResponseFuture \x7b id: " ++ toString id ++ ", timeout: "
    ++ Text.optional Text.duration timeout ++ ", .. \x7d"

end Reply

end DirectoryClient
