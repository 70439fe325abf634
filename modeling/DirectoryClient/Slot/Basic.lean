import DirectoryClient.Error

/-! Slots, in which a driver leaves responses for callers who wait. A slot is only touched under a
lock; each function here is one such section. A caller who waits is a position between sections, so
that any interleaving of callers, cancellations and deliveries is a sequence of these steps. -/
namespace DirectoryClient.Slot

inductive Phase where
  | pending
  | completed
  /-- Cancelled. An interrupted slot takes and gives nothing any more. -/
  | cancelled (interrupted : Bool)
  deriving DecidableEq, Repr

def Phase.isCancelled : Phase → Bool
  | cancelled _ => true
  | _ => false

inductive Finding (α : Type) where
  /-- The caller is done. -/
  | settled (outcome : Outcome α)
  /-- There is nothing yet. -/
  | blocked
  /-- There is nothing yet, and the caller has waited long enough. -/
  | lapsed

end Slot

/-- A slot: what a caller who waits finds in it, and how it is cancelled. -/
class Slot (σ : Type) (α : outParam Type) where
  /-- Looks into the slot of an operation; `late` if the caller's deadline has passed. -/
  examine : (id : MessageId) → (late : Bool) → σ → Slot.Finding α × σ
  /-- Cancels, and says whether this was the cancellation that counts. -/
  cancel : (interrupt : Bool) → σ → Bool × σ

namespace Slot

/-- Where a caller who waits stands. -/
inductive Position (α : Type) where
  /-- About to look into the slot, for the first time or again. -/
  | looking
  /-- Has found itself too late and let go of the lock, about to cancel. -/
  | cancelling
  | finished (outcome : Outcome α)

structure Waiter (α : Type) where
  deadline : Option Nat
  position : Position α := .looking

structure Step (σ α : Type) where
  waiter : Waiter α
  slot : σ
  /-- The caller goes to sleep, until it is woken or its deadline passes. -/
  sleeps : Bool := false
  /-- An abandon request is due. -/
  abandons : Bool := false

def deadline (now : Nat) (timeout : Option Nat) : Option Nat :=
  timeout.map (now + ·)

variable {σ α : Type} [Slot σ α]

def Waiter.step (id : MessageId) (now : Nat) (w : Waiter α) (s : σ) : Step σ α :=
  match w.position with
  | .finished _ => { waiter := w, slot := s, sleeps := true }
  | .looking =>
    match examine id (w.deadline.any (· ≤ now)) s with
    | (.settled o, s) => { waiter := { w with position := .finished o }, slot := s }
    | (.blocked, s) => { waiter := w, slot := s, sleeps := true }
    | (.lapsed, s) => { waiter := { w with position := .cancelling }, slot := s }
  | .cancelling =>
    match cancel true s with
    | (true, s) =>
      { waiter := { w with position := .finished (.error (.responseTimeout id)) }
        slot := s, abandons := true }
    | (false, s) => { waiter := { w with position := .looking }, slot := s }

/-- Lets a caller go on until it is finished or sleeps. A caller that loses a cancellation finds the
slot no longer pending, so four sections are enough. -/
def Waiter.run (id : MessageId) (now : Nat) (w : Waiter α) (s : σ) : Step σ α :=
  go 4 w s false
where
  go : Nat → Waiter α → σ → Bool → Step σ α
    | 0, w, s, abandons => { waiter := w, slot := s, sleeps := true, abandons }
    | n + 1, w, s, abandons =>
      let r := w.step id now s
      let abandons := abandons || r.abandons
      if r.sleeps then { r with abandons } else go n r.waiter r.slot abandons

def Waiter.outcome? (w : Waiter α) : Option (Outcome α) :=
  match w.position with
  | .finished o => some o
  | _ => none

end Slot

end DirectoryClient
