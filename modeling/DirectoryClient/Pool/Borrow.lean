import DirectoryClient.Pool.Manager

/-! Borrowing: hold a place, make an idle connection or a new one ready, and turn the place into a
loan. A place is given back on every way to a failure. -/
namespace DirectoryClient.Pool

/-- Where a borrow stands. A cause, where there is one, is what the borrow will fail with; without one
it will try again. -/
inductive Borrow (κ : Type) where
  /-- About to look for a place. -/
  | reserving
  /-- Asleep, until woken or until it has waited long enough. -/
  | waiting
  /-- Holds a place. -/
  | making
  | activating (connection : κ) (isNew : Bool)
  | validating (connection : κ) (isNew : Bool)
  | checkingOut (connection : κ)
  | discarding (connection : κ) (cause : Option DirectoryError)
  | cancelling (cause : Option DirectoryError)
  /-- Has given its place back; somebody who sleeps is to be told. -/
  | signalling (cause : Option DirectoryError)
  | finished (outcome : Outcome κ)

namespace Borrow

variable {ω κ : Type}

/-- The cause that a failed candidate leaves. An idle one leaves none, because others may do. -/
def failure (isNew : Bool) (cause : DirectoryError) : Option DirectoryError :=
  if isNew then some (.borrowFailed cause) else none

def wake : Borrow κ → Borrow κ
  | waiting => reserving
  | b => b

def step (p : Pool ω κ) (deadline : Option Nat) (b : Borrow κ) (s : State κ) (w : ω) :
    Step (Borrow κ) ω κ :=
  let late := deadline.any (· ≤ p.manager.clock w)
  match b with
  | reserving =>
    match s.reserve p.settings late with
    | (.refused cause, s) => ⟨finished (.error cause), s, w, .nobody⟩
    | (.blocked, s) => ⟨waiting, s, w, .nobody⟩
    | (.granted (.idle connection), s) => ⟨activating connection false, s, w, .nobody⟩
    | (.granted .new, s) => ⟨making, s, w, .nobody⟩
  | waiting => ⟨if late then reserving else waiting, s, w, .nobody⟩
  | making =>
    match p.manager.make w with
    | (.ok connection, w) => ⟨activating connection true, s, w, .nobody⟩
    | (.error e, w) => ⟨cancelling (failure true e), s, w, .nobody⟩
  | activating connection isNew =>
    match p.manager.activate connection w with
    | (.ok (), connection, w) =>
      let next :=
        if p.settings.testOnBorrow then validating connection isNew else checkingOut connection
      ⟨next, s, w, .nobody⟩
    | (.error e, connection, w) => ⟨discarding connection (failure isNew e), s, w, .nobody⟩
  | validating connection isNew =>
    match p.manager.validate connection w with
    | (true, connection, w) => ⟨checkingOut connection, s, w, .nobody⟩
    | (false, connection, w) =>
      ⟨discarding connection (failure isNew .validationFailed), s, w, .nobody⟩
  | checkingOut connection =>
    ⟨finished (.ok connection), s.checkOut (p.manager.id connection), w, .nobody⟩
  | discarding connection cause =>
    ⟨cancelling cause, s, p.manager.destroy connection w, .nobody⟩
  | cancelling cause => ⟨signalling cause, s.cancelReservation, w, .nobody⟩
  | signalling cause => ⟨cause.elim reserving (finished ∘ .error), s, w, .one⟩
  | finished outcome => ⟨finished outcome, s, w, .nobody⟩

end Borrow

end DirectoryClient.Pool
