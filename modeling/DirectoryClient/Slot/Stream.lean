import DirectoryClient.Message
import DirectoryClient.Slot.Basic
import DirectoryClient.Text.Duration

/-! The slot of a search: responses in the order of their arrival, then the end or a failure. -/
namespace DirectoryClient

open Slot (Phase Finding)

/-- A slot for the responses of a search. It is completed once the last response has come; what is
queued by then can still be taken. -/
structure Stream where
  phase : Phase := .pending
  queue : List Message := []
  failure : Option DirectoryError := none

namespace Stream

/-- What a caller finds: after an interruption nothing; otherwise the next response; otherwise the
end, or the failure. -/
def examine (id : MessageId) (late : Bool) (s : Stream) : Finding Message × Stream :=
  if s.phase = .cancelled true then (.settled (.error (.operationCancelled id)), s)
  else
    match s.queue, s.failure with
    | m :: ms, _ => (.settled (.ok m), { s with queue := ms })
    | [], failure =>
      if s.phase = .completed then (.settled (.error .endOfStream), s)
      else
        match failure with
        | some e => (.settled (.error e), s)
        | none =>
          if !late then (.blocked, s)
          else if s.phase = .pending then (.lapsed, s)
          else (.settled (.error (.operationCancelled id)), s)

/-- Cancels a search that goes on. An interruption drops what is queued. -/
def cancel (interrupt : Bool) (s : Stream) : Bool × Stream :=
  if s.phase = .pending && s.failure.isNone then
    (true, { s with
      phase := .cancelled interrupt
      queue := if interrupt then [] else s.queue })
  else (false, s)

instance : Slot Stream Message where
  examine := examine
  cancel := cancel

/-- Queues a response, and says whether it was taken. The last response completes the search; a
completed or interrupted search takes none. -/
def push (m : Message) (s : Stream) : Bool × Stream :=
  match s.phase with
  | .pending | .cancelled false =>
    (true, { s with
      phase := if m.kind = .done then .completed else s.phase
      queue := s.queue ++ [m] })
  | _ => (false, s)

def fail (e : DirectoryError) (s : Stream) : Stream :=
  if s.phase ≠ .completed && s.failure.isNone then { s with failure := some e } else s

/-- No response will come any more: the search fails, with the cancellation if there was one. -/
def forsake (id : MessageId) (s : Stream) : Stream :=
  match s.phase, s.failure with
  | .pending, none => { s with failure := some .connectionClosed }
  | .cancelled false, none => { s with failure := some (.operationCancelled id) }
  | _, _ => s

def isDone (s : Stream) : Bool := s.phase ≠ .pending || s.failure.isSome

def isCancelled (s : Stream) : Bool := s.phase.isCancelled

def available (s : Stream) : Nat := s.queue.length

def describe (id : MessageId) (timeout : Option Nat) : String :=
  "SearchFuture \x7b id: " ++ toString id ++ ", timeout: "
    ++ Text.optional Text.duration timeout ++ ", .. \x7d"

end Stream

end DirectoryClient
