import DirectoryClient.Cursor.Access
import DirectoryClient.Line
import DirectoryClient.Slot.Reply

/-! A desk: one slot, a line without a driver, a clock, and callers who wait in the background. The
clock stands still while anybody can go on. -/
namespace DirectoryClient.Scenario

open DirectoryClient.Slot

/-- A desk for the operation of one message id. The caller without a name is the one at the desk. -/
structure Desk (σ α : Type) where
  id : MessageId
  timeout : Option Nat
  slot : σ
  line : Line
  /-- Whether a cancellation sends an abandon request. -/
  sendsAbandon : Bool := true
  /-- Whether somebody can still deliver. -/
  hasProducer : Bool := true
  now : Nat := 0
  callers : List (Option String × Waiter α) := []

namespace Desk

variable {σ α : Type}

/-- Sends an abandon request, if the desk sends any. A line that refuses it is no failure. -/
def abandon (d : Desk σ α) : Desk σ α :=
  if d.sendsAbandon then { d with line := (d.line.abandon d.id).2 } else d

variable [Slot σ α]

def cancel (interrupt : Bool) (d : Desk σ α) : Bool × Desk σ α :=
  match Slot.cancel interrupt d.slot with
  | (true, slot) => (true, { d with slot }.abandon)
  | (false, slot) => (false, { d with slot })

def runCaller (d : Desk σ α) (name : Option String) (w : Waiter α) : Desk σ α :=
  let step := w.run d.id d.now d.slot
  let d := { d with slot := step.slot, callers := d.callers ++ [(name, step.waiter)] }
  if step.abandons then d.abandon else d

def runCallers (d : Desk σ α) : Desk σ α :=
  d.callers.foldl (fun d (name, w) => d.runCaller name w) { d with callers := [] }

/-- Lets callers go on until all of them sleep. One of them can set all others free, so one round
more than there are callers is enough. -/
def settle (d : Desk σ α) : Desk σ α :=
  (List.range (d.callers.length + 1)).foldl (fun d _ => d.runCallers) d

def nextDeadline? (d : Desk σ α) : Option Nat :=
  (d.callers.filterMap fun (_, w) => if w.outcome?.isSome then none else w.deadline).min?

def passUntil (instant : Nat) : Nat → Desk σ α → Desk σ α
  | 0, d => settle { d with now := instant }
  | stops + 1, d =>
    match d.nextDeadline? with
    | some t =>
      if t ≤ instant then passUntil instant stops (settle { d with now := max d.now t })
      else settle { d with now := instant }
    | none => settle { d with now := instant }

def sleep (span : Nat) (d : Desk σ α) : Desk σ α :=
  passUntil (d.now + span) d.callers.length d.settle

def start (name : Option String) (timeout : Option Nat) (d : Desk σ α) : Desk σ α :=
  settle { d with callers := d.callers ++ [(name, { deadline := deadline d.now timeout })] }

/-- Waits for a caller to finish, and takes its outcome. There is none if there is no such caller, or
if it would wait forever. -/
def join (name : Option String) : Nat → Desk σ α → Option (Outcome α) × Desk σ α
  | 0, d => (none, d)
  | stops + 1, d =>
    let d := d.settle
    match d.callers.lookup name with
    | none => (none, d)
    | some w =>
      match w.outcome?, d.nextDeadline? with
      | some o, _ => (some o, { d with callers := d.callers.filter (·.1 != name) })
      | none, some t => join name stops { d with now := max d.now t }
      | none, none => (none, d)

def joinBackground (name : String) (d : Desk σ α) : Option (Outcome α) × Desk σ α :=
  d.join (some name) (d.callers.length + 1)

def wait (timeout : Option Nat) (d : Desk σ α) : Option (Outcome α) × Desk σ α :=
  (d.start none timeout).join none (d.callers.length + 2)

def isQuiet (d : Desk σ α) : Bool := d.callers.isEmpty

def takeSent (d : Desk σ α) : List Submission × Desk σ α :=
  (d.line.queue, { d with line := { d.line with queue := [] } })

end Desk

def deskAccess (timeout : Option Nat) : StreamAccess (Desk Stream Message) where
  get d := d.slot
  put s d := { d with slot := s }
  abandon := Desk.abandon
  settle := Desk.settle
  pass := Desk.sleep (timeout.getD 1)
  isBounded := timeout.isSome

end DirectoryClient.Scenario
