import DirectoryClient.Line
import DirectoryClient.Message.Reader
import DirectoryClient.Slot.Reply
import DirectoryClient.Slot.Stream

/-! The client's end of one transport: the line on which requests are queued, the slots in which
callers wait, and which slot the responses to which message id belong to. -/
namespace DirectoryClient

/-- The client's end of a transport. The driver runs as long as the line is open. -/
structure Link where
  line : Line := {}
  /-- Neither side has ended the session. -/
  isUp : Bool := true
  /-- The requests sent that wait for one response, and their slots. -/
  singles : List (MessageId × Ticket) := []
  /-- The searches sent that go on, and their slots. -/
  searches : List (MessageId × Ticket) := []
  /-- All slots for one response, by ticket. -/
  replies : List (Reply Message) := []
  /-- All slots of searches, by ticket. -/
  streams : List Stream := []
  /-- What has come from the server and was not read yet. -/
  inbound : Octets := []

namespace Link

def isConnected (l : Link) : Bool := l.isUp && l.line.isOpen

def reply (ticket : Ticket) (l : Link) : Reply Message := l.replies[ticket]?.getD {}

def stream (ticket : Ticket) (l : Link) : Stream := l.streams[ticket]?.getD {}

def setReply (ticket : Ticket) (r : Reply Message) (l : Link) : Link :=
  { l with replies := l.replies.set ticket r }

def setStream (ticket : Ticket) (s : Stream) (l : Link) : Link :=
  { l with streams := l.streams.set ticket s }

def nextId (l : Link) : Outcome MessageId × Link :=
  let (o, line) := l.line.nextId
  (o, { l with line })

def send (s : Submission) (l : Link) : Outcome Unit × Link :=
  let (o, line) := l.line.send s
  (o, { l with line })

def sendSingle (id : MessageId) (element : Ber.Element) (controls : Option (List Control))
    (l : Link) : Outcome Ticket × Link :=
  let ticket := l.replies.length
  let (o, l) := { l with replies := l.replies ++ [({} : Reply Message)] }.send
    { id, operation := .single ticket, element, controls }
  (o.map fun _ => ticket, l)

def sendSearch (id : MessageId) (element : Ber.Element) (controls : Option (List Control))
    (l : Link) : Outcome Ticket × Link :=
  let ticket := l.streams.length
  let (o, l) := { l with streams := l.streams ++ [({} : Stream)] }.send
    { id, operation := .search ticket, element, controls }
  (o.map fun _ => ticket, l)

def abandon (target : MessageId) (l : Link) : Outcome Unit × Link :=
  let (o, line) := l.line.abandon target
  (o, { l with line })

end Link

end DirectoryClient
