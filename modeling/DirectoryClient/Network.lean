import DirectoryClient.Cursor.Access
import DirectoryClient.Link

/-! What connections need of the world they live in: transports, and time that passes. -/
namespace DirectoryClient

abbrev TransportId := Nat

/-- A world with transports. -/
structure Network (ω : Type) where
  clock : ω → Nat
  /-- Opens a new transport. -/
  connect : ω → Outcome TransportId × ω
  /-- The client's end of a transport. -/
  link : TransportId → ω → Link
  setLink : TransportId → Link → ω → ω
  /-- Everything under way arrives. -/
  settle : ω → ω
  /-- A span of time passes. -/
  pass : Nat → ω → ω

structure Pending where
  transport : TransportId
  id : MessageId
  ticket : Ticket
  timeout : Option Nat

namespace Network

variable {ω α : Type}

def withLink (n : Network ω) (t : TransportId) (f : Link → α × Link) (w : ω) : α × ω :=
  let (a, l) := f (n.link t w)
  (a, n.setLink t l w)

/-- Requests that an operation be given up. That the line refuses it is no failure. -/
def abandon (n : Network ω) (p : Pending) (w : ω) : ω :=
  (n.withLink p.transport (Link.abandon p.id) w).2

/-- Who waits without a timeout looks again after each unit of time. -/
def replyAccess (n : Network ω) (p : Pending) : Slot.Access (Reply Message) ω where
  get w := (n.link p.transport w).reply p.ticket
  put r w := n.setLink p.transport ((n.link p.transport w).setReply p.ticket r) w
  abandon := n.abandon p
  settle := n.settle
  pass := n.pass (p.timeout.getD 1)
  isBounded := p.timeout.isSome

def streamAccess (n : Network ω) (p : Pending) : StreamAccess ω where
  get w := (n.link p.transport w).stream p.ticket
  put s w := n.setLink p.transport ((n.link p.transport w).setStream p.ticket s) w
  abandon := n.abandon p
  settle := n.settle
  pass := n.pass (p.timeout.getD 1)
  isBounded := p.timeout.isSome

def await (n : Network ω) (p : Pending) (w : ω) : Outcome Message × ω :=
  (n.replyAccess p).wait p.id w

end Network

end DirectoryClient
