import DirectoryClient.MessageIds
import DirectoryClient.Message.Writer
import DirectoryClient.Request

/-! The line from a client to the driver of its transport: message ids, and a queue of requests that
wait to be sent. -/
namespace DirectoryClient

abbrev Ticket := Nat

inductive Operation where
  /-- One response goes into a slot. -/
  | single (ticket : Ticket)
  /-- Responses go into a slot until the last one. -/
  | search (ticket : Ticket)
  /-- Another operation is given up. -/
  | abandon (id : MessageId)
  /-- The session ends. -/
  | unbind
  deriving DecidableEq, Repr

def Operation.describe : Operation → String
  | single _ => "Single"
  | search _ => "Search"
  | abandon id => "Abandon(" ++ toString id ++ ")"
  | unbind => "Unbind"

structure Submission where
  id : MessageId
  operation : Operation
  element : Ber.Element
  controls : Option (List Control) := none
  deriving Repr

def Submission.octets (s : Submission) : Octets :=
  Message.encode s.id s.element s.controls

structure Line where
  ids : MessageIds := {}
  queue : List Submission := []
  isOpen : Bool := true
  deriving Repr

namespace Line

def nextId (l : Line) : Outcome MessageId × Line :=
  match l.ids.next with
  | .ok (id, ids) => (.ok id, { l with ids })
  | .error e => (.error e, l)

def release (l : Line) (id : MessageId) : Line :=
  { l with ids := l.ids.release id }

/-- Queues a request. If nobody takes requests any more, its id is given back. -/
def send (l : Line) (s : Submission) : Outcome Unit × Line :=
  if l.isOpen then (.ok (), { l with queue := l.queue ++ [s] })
  else (.error .connectionClosed, l.release s.id)

def abandon (l : Line) (target : MessageId) : Outcome Unit × Line :=
  match l.nextId with
  | (.error e, l) => (.error e, l)
  | (.ok id, l) =>
    l.send { id, operation := .abandon target, element := Request.abandon target }

/-- Nobody takes requests any more. What is queued is left to whoever closes the line. -/
def close (l : Line) : Line := { l with isOpen := false }

end Line

end DirectoryClient
