import DirectoryClient.Scenario.Answer
import DirectoryClient.Scenario.Desk

/-! Steps of callers at a desk, and of whoever delivers the one response there. -/
namespace DirectoryClient.Scenario

inductive CallerStep where
  /-- Waits as long as the operation may take. -/
  | wait
  /-- Waits this long, or without end. -/
  | waitFor (timeout : Option Nat)
  | cancel (interrupt : Bool)
  | messageId
  | timeout
  | describe
  | sleep (span : Nat)
  /-- Begins to wait in the background, under a name. -/
  | start (name : String)
  | join (name : String)

/-- The answer to a step at a desk: what was waited for, or anything else. -/
inductive DeskAnswer (α : Type) where
  | plain (a : Answer)
  | waited (outcome : Outcome α)

namespace Desk

variable {σ α : Type}

/-- The answer of a caller who has waited. One who would wait forever has none. -/
def waited (r : Option (Outcome α) × Desk σ α) : DeskAnswer α × Desk σ α :=
  (r.1.elim (.plain .gone) .waited, r.2)

def actCaller [Slot σ α] (describe : MessageId → Option Nat → String) (step : CallerStep)
    (d : Desk σ α) : DeskAnswer α × Desk σ α :=
  match step with
  | .wait => waited (d.wait d.timeout)
  | .waitFor timeout => waited (d.wait timeout)
  | .cancel interrupt =>
    let (isFirst, d) := d.cancel interrupt
    (.plain (.flag (.ok isFirst)), d)
  | .messageId => (.plain (.number (.ok d.id)), d)
  | .timeout => (.plain (.time d.timeout), d)
  | .describe => (.plain (.text (some (describe d.id d.timeout))), d)
  | .sleep span => (.plain .nothing, d.sleep span)
  | .start name => (.plain .nothing, d.start (some name) d.timeout)
  | .join name => waited (d.joinBackground name)

end Desk

inductive ReplyStep (α : Type) where
  | complete (outcome : Outcome α)
  /-- Nobody will deliver any more. -/
  | forsake
  | caller (step : CallerStep)

/-- A step at the desk of an operation with one response. Only the first delivery is made. -/
def ReplyStep.act {α : Type} (step : ReplyStep α) (d : Desk (Reply α) α) :
    DeskAnswer α × Desk (Reply α) α :=
  let (a, d) : DeskAnswer α × Desk (Reply α) α := match step with
    | complete outcome =>
      if d.hasProducer then
        let (isTaken, slot) := d.slot.complete outcome
        (.plain (.flag (.ok isTaken)), { d with slot, hasProducer := false })
      else (.plain .gone, d)
    | forsake =>
      let slot := if d.hasProducer then d.slot.forsake d.id else d.slot
      (.plain .nothing, { d with slot, hasProducer := false })
    | caller step => d.actCaller Reply.describe step
  (a, d.settle)

end DirectoryClient.Scenario
