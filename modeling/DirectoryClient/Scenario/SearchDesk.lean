import DirectoryClient.Scenario.Caller
import DirectoryClient.Scenario.Reader

/-! Steps at the desk of a search: of whoever delivers responses, and of whoever reads them. -/
namespace DirectoryClient.Scenario

inductive Holder where
  /-- Callers who take the responses as they come. -/
  | callers
  | reader (r : Reader)
  | nobody

structure SearchDesk where
  desk : Desk Stream Message
  holder : Holder

inductive SearchStep where
  | push (m : Message)
  /-- Ends the search with a failure. -/
  | fail (cause : DirectoryError)
  /-- Nobody will deliver any more. -/
  | forsake
  | sleep (span : Nat)
  /-- Lets go of the reading end. -/
  | drop
  | caller (step : CallerStep)
  | read (step : ReaderStep)

namespace SearchDesk

def deliver (keepsProducer : Bool) (f : Stream → Answer × Stream) (s : SearchDesk) :
    Answer × SearchDesk :=
  if s.desk.hasProducer then
    let (a, slot) := f s.desk.slot
    (a, { s with desk := { s.desk with slot, hasProducer := keepsProducer }.settle })
  else (.gone, s)

/-- Nobody holds the reading end any more. A reader gives the search up. -/
def letGo (s : SearchDesk) : SearchDesk where
  desk := match s.holder with
    | .reader r => r.drop (deskAccess s.desk.timeout) s.desk
    | _ => s.desk
  holder := .nobody

/-- A step of callers. Those who wait in the background can be joined even if nobody else is left. -/
def actCaller (step : CallerStep) (s : SearchDesk) : DeskAnswer Message × SearchDesk :=
  match s.holder, step with
  | .callers, _ | _, .join _ =>
    let (a, desk) := s.desk.actCaller Stream.describe step
    (a, { s with desk })
  | _, _ => (.plain .gone, s)

def act (step : SearchStep) (s : SearchDesk) : DeskAnswer Message × SearchDesk :=
  let plain (r : Answer × SearchDesk) : DeskAnswer Message × SearchDesk := (.plain r.1, r.2)
  let (a, s) := match step, s.holder with
    | .push m, _ => plain <| s.deliver true fun slot =>
      let (isTaken, slot) := slot.push m
      (.flag (.ok isTaken), slot)
    | .fail cause, _ => plain (s.deliver false fun slot => (.nothing, slot.fail cause))
    | .forsake, _ =>
      (.plain .nothing, (s.deliver false fun slot => (.nothing, slot.forsake s.desk.id)).2)
    | .sleep span, _ => (.plain .nothing, { s with desk := s.desk.sleep span })
    | .drop, .nobody => (.plain .gone, s)
    | .drop, _ => (.plain .nothing, s.letGo)
    | .caller step, _ => s.actCaller step
    | .read step, .reader r =>
      let (a, r, desk) := r.act (deskAccess s.desk.timeout) step s.desk
      (.plain a, { desk, holder := .reader r })
    | .read _, _ => (.plain .gone, s)
  (a, { s with desk := s.desk.settle })

end SearchDesk

end DirectoryClient.Scenario
