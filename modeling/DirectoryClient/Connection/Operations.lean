import DirectoryClient.Connection
import DirectoryClient.Link.Driver
import DirectoryClient.Search.Request

/-! The operations on a connection, apart from binds. Each takes the modifiers that wait for it. -/
namespace DirectoryClient.Connection

variable {ω : Type}

/-- Sends a request under a new id. `send` queues it with a slot for its responses. -/
def post (n : Network ω) (send : MessageId → Option (List Control) → Link → Outcome Ticket × Link)
    (c : Connection) (w : ω) : Outcome Pending × Connection × ω :=
  let timeout := c.nextTimeout
  let controls := c.controls
  let c := c.clearModifiers
  match n.withLink c.transport Link.nextId w with
  | (.error e, w) => (.error e, c, w)
  | (.ok id, w) =>
    let (o, w) := n.withLink c.transport (send id controls) w
    (o.map fun ticket => { transport := c.transport, id, ticket, timeout },
      { c with lastId := id }, w)

def submit (n : Network ω) (request : Ber.Element) (c : Connection) (w : ω) :
    Outcome Pending × Connection × ω :=
  c.post n (fun id controls => Link.sendSingle id request controls) w

def exchange (n : Network ω) (request : Ber.Element) (c : Connection) (w : ω) :
    Outcome Message × Connection × ω :=
  match c.submit n request w with
  | (.error e, c, w) => (.error e, c, w)
  | (.ok p, c, w) =>
    let (o, w) := n.await p w
    (o, c, w)

def unexpected (expected : String) (m : Message) : DirectoryError :=
  .decoding (.unexpectedReply expected m.id m.kind)

def extendedResponse (m : Message) : Outcome (ExtendedOperation × OperationResult) :=
  match m.response with
  | .extended result op => .ok (op, result)
  | _ => .error (unexpected "Extended" m)

def startExtended (n : Network ω) (op : ExtendedOperation) (c : Connection) (w : ω) :
    Outcome Pending × Connection × ω :=
  c.submit n (Request.extended op) w

def extended (n : Network ω) (op : ExtendedOperation) (c : Connection) (w : ω) :
    Outcome (ExtendedOperation × OperationResult) × Connection × ω :=
  let (o, c, w) := c.exchange n (Request.extended op) w
  (o >>= extendedResponse, c, w)

/-- Starts a search. What is no filter takes the modifiers, too, but no id. -/
def startSearch (n : Network ω) (q : Search.Query) (c : Connection) (w : ω) :
    Outcome Pending × Connection × ω :=
  match Search.request q (c.searchOptions.getD {}) with
  | .error e => (.error e, c.clearModifiers, w)
  | .ok request => c.post n (fun id controls => Link.sendSearch id request controls) w

/-- Asks the server to give up an operation. The other modifiers go on waiting. -/
def abandon (n : Network ω) (target : MessageId) (c : Connection) (w : ω) :
    Outcome Unit × Connection × ω :=
  let (o, w) := n.withLink c.transport (Link.abandon target) w
  (o, { c with controls := none }, w)

/-- Ends the session. Nothing can be requested on the transport any more. -/
def unbind (n : Network ω) (c : Connection) (w : ω) : Outcome Unit × Connection × ω :=
  let c := c.clearIdentity
  if c.isConnected n w then
    match n.withLink c.transport Link.nextId w with
    | (.error e, w) => (.error e, c, w)
    | (.ok id, w) =>
      let (o, w) := n.withLink c.transport (fun l =>
        let (o, l) := l.send
          { id, operation := .unbind, element := Request.unbind, controls := c.controls }
        (o, { l with isUp := false })) w
      (o, { c with controls := none }, w)
  else (.error .connectionClosed, c, w)

def close (n : Network ω) (c : Connection) (w : ω) : Connection × ω :=
  if c.isConnected n w then (c.unbind n w).2 else (c, w)

def drop (n : Network ω) (c : Connection) (w : ω) : ω := (c.close n w).2

/-- Moves to a new transport, on which nobody is bound. If there is none to be had, the connection
stays without one. -/
def reconnect (n : Network ω) (c : Connection) (w : ω) : Outcome Unit × Connection × ω :=
  let (c, w) := c.close n w
  match n.connect w with
  | (.error e, w) => (.error e, c, w)
  | (.ok transport, w) => (.ok (), { c.clearIdentity with transport, lastId := 0 }, w)

end DirectoryClient.Connection
