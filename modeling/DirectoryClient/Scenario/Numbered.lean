import DirectoryClient.Pool.Manager

/-! A manager whose connections are numbers and whose hooks fail as they are told. Every hook leaves a
trace. -/
namespace DirectoryClient.Scenario

inductive Trace where
  | make (n : Nat)
  | makeFailed
  | activate (n : Nat)
  | validate (n : Nat)
  | passivate (n : Nat)
  | destroy (n : Nat)
  deriving DecidableEq, Repr

def Trace.text : Trace → String
  | make n => "make " ++ toString n
  | makeFailed => "make failed"
  | activate n => "activate " ++ toString n
  | validate n => "validate " ++ toString n
  | passivate n => "passivate " ++ toString n
  | destroy n => "destroy " ++ toString n

/-- A world of numbered connections: which hooks fail, the number made last, the clock, and the traces
of the hooks that ran. -/
structure Numbered where
  failsMake : Bool := false
  failsPassivate : Bool := false
  allInvalid : Bool := false
  /-- Cannot be activated. -/
  broken : List Nat := []
  invalid : List Nat := []
  last : Nat := 0
  now : Nat := 0
  traces : List Trace := []

namespace Numbered

def leave (t : Trace) (w : Numbered) : Numbered := { w with traces := w.traces ++ [t] }

def manager : Pool.Manager Numbered Nat where
  clock w := w.now
  id n := n
  make w :=
    if w.failsMake then (.error .connectionClosed, w.leave .makeFailed)
    else
      let n := w.last + 1
      (.ok n, { w with last := n }.leave (.make n))
  activate n w :=
    let o := if w.broken.contains n then .error (.reactivationFailed .connectionClosed) else .ok ()
    (o, n, w.leave (.activate n))
  validate n w := (!(w.allInvalid || w.invalid.contains n), n, w.leave (.validate n))
  passivate n w :=
    (if w.failsPassivate then .error .connectionClosed else .ok (), n, w.leave (.passivate n))
  destroy n w := w.leave (.destroy n)

end Numbered

end DirectoryClient.Scenario
