import DirectoryClient.Slot.Basic

/-! Waiting for a slot that is kept in a larger world, in which other things happen and time passes. -/
namespace DirectoryClient.Slot

structure Access (σ ω : Type) where
  get : ω → σ
  put : σ → ω → ω
  /-- Requests that the operation be given up. -/
  abandon : ω → ω
  /-- Everything under way arrives. -/
  settle : ω → ω
  /-- The time to wait for the slot passes. -/
  pass : ω → ω
  /-- Whether whoever waits for the slot gives up when its time has passed. Otherwise the wait goes on
  for as long as nothing comes. -/
  isBounded : Bool

namespace Access

variable {σ α ω : Type} [Slot σ α]

/-- Looks into the slot; `late` if the time to wait for it is over. -/
def look (a : Access σ ω) (id : MessageId) (late : Bool) (w : ω) : Option (Outcome α) × ω :=
  let step := Waiter.run id 0 { deadline := if late then some 0 else none } (a.get w)
  let w := a.put step.slot w
  (step.waiter.outcome?, if step.abandons then a.abandon w else w)

section Wait

variable (a : Access σ ω) (id : MessageId)

/-- Looks again after each span of time, until the outcome is there or the time is over. Without a bound,
this may never end. -/
def await? (w : ω) : Option (Outcome α × ω) :=
  let again : ω → Option (Outcome α × ω) := by apply await?
  match a.look id a.isBounded (a.pass w) with
  | (some o, w) => some (o, w)
  | (none, w) => again w
partial_fixpoint

/-- The outcome of the operation: at once if it is there, otherwise after a wait. -/
def wait? (w : ω) : Option (Outcome α × ω) :=
  match a.look id false (a.settle w) with
  | (some o, w) => some (o, w)
  | (none, w) => a.await? id w

/-- Waits for the operation. A wait that never ends counts as one that has failed. -/
def wait (w : ω) : Outcome α × ω := (a.wait? id w).getD (.error .connectionClosed, w)

end Wait

def cancel (a : Access σ ω) (interrupt : Bool) (w : ω) : Bool × ω :=
  match Slot.cancel interrupt (a.get w) with
  | (true, s) => (true, a.abandon (a.put s w))
  | (false, s) => (false, a.put s w)

end Access

end DirectoryClient.Slot
