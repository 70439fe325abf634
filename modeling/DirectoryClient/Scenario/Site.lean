import DirectoryClient.Ber.Writer
import DirectoryClient.Factory
import DirectoryClient.Text.Hex

/-! A site: clients and a server that answers by rules, the transports between them, and a clock. What
is sent arrives at once when the site settles. -/
namespace DirectoryClient.Scenario

open Ber

inductive Sending where
  /-- An operation, and controls if there are any, under the id of the request. -/
  | answer (body : Octets)
  /-- The same under an id of its own. -/
  | message (id : Int) (body : Octets)
  /-- Octets as they are. -/
  | raw (octets : Octets)

namespace Sending

/-- The content of an id. A negative one is as large as eight octets can say. -/
def idContent (id : Int) : Octets :=
  if id < 0 then List.replicate 8 0xff else integerOctets id

def frame (id : Int) (body : Octets) : Octets :=
  0x30 :: writeContent (0x02 :: writeContent (idContent id) ++ body)

/-- The octets of a sending; `id` is that of the request, if it answers one. -/
def octets (id : Int) : Sending → Octets
  | answer body => frame id body
  | message id body => frame id body
  | raw octets => octets

end Sending

/-- What the server does with a request that a rule applies to. Absent conditions hold of any. -/
structure Rule where
  /-- The low five bits of the number of the operation. -/
  operation : Option Nat := none
  transport : Option TransportId := none
  /-- A piece of the hexadecimal text of the message. -/
  piece : Option String := none
  /-- How many times the rule still applies. -/
  uses : Option Nat := none
  sendings : List Sending := []
  closes : Bool := false

inductive Sight where
  | request (octets : Octets)
  | closed

/-- A transport: the client's end of it, what the server has seen on it, and whether the server has
closed it. -/
structure Peer where
  link : Link := {}
  sights : List Sight := []
  isClosed : Bool := false

structure Site where
  now : Nat := 0
  peers : List Peer := []
  rules : List Rule := []
  isListening : Bool := true
  /-- Whether the server is on the same host. No other host can be reached. -/
  isLocal : Bool := true
  /-- The number of the last connection that was made on its own. -/
  made : Nat := 0
  /-- The number of the last connection that was made for the pool. -/
  pooled : Nat := 0

namespace Rule

def applies (t : TransportId) (s : Submission) (r : Rule) : Bool :=
  r.operation.all (· == s.element.number % 32)
    && r.transport.all (· == t)
    && r.piece.all (fun piece => (Text.toHex s.octets).contains piece)
    && r.uses != some 0

def use (r : Rule) : Rule := { r with uses := r.uses.map (· - 1) }

def choose (t : TransportId) (s : Submission) : List Rule → Option Rule × List Rule
  | [] => (none, [])
  | r :: rs =>
    if r.applies t s then (some r, r.use :: rs)
    else
      let (chosen, rs) := choose t s rs
      (chosen, r :: rs)

end Rule

namespace Peer

def see (s : Sight) (p : Peer) : Peer :=
  if p.isClosed then p else { p with sights := p.sights ++ [s] }

def finish (p : Peer) : Peer :=
  if p.link.line.isOpen then { p with link := p.link.finish }.see .closed else p

def send (id : Int) (sendings : List Sending) (p : Peer) : Peer :=
  if p.isClosed then p else { p with link := p.link.feed (sendings.flatMap (·.octets id)) }

def serve (t : TransportId) (s : Submission) (rules : List Rule) (p : Peer) : Peer × List Rule :=
  if p.isClosed then (p, rules)
  else
    let p := p.see (.request s.octets)
    match Rule.choose t s rules with
    | (none, rules) => (p, rules)
    | (some r, rules) =>
      let p := p.send s.id r.sendings
      ({ p with isClosed := r.closes }, rules)

/-- The driver takes at most so many requests off the line. One to end the session is the last. -/
def transmit (t : TransportId) : Nat → Peer → List Rule → Peer × List Rule
  | 0, p, rules => (p, rules)
  | n + 1, p, rules =>
    match p.link.transmit? with
    | none => (p, rules)
    | some (s, link) =>
      let (p, rules) := { p with link }.serve t s rules
      if s.operation = .unbind then (p.finish, rules) else transmit t n p rules

def receive (p : Peer) : Peer :=
  let link := p.link.receiveAll
  if p.link.line.isOpen && !link.line.isOpen then { p with link }.see .closed else { p with link }

def endInput (p : Peer) : Peer := if p.isClosed then p.finish else p

def settle (t : TransportId) (p : Peer) (rules : List Rule) : Peer × List Rule :=
  let (p, rules) := p.transmit t p.link.line.queue.length rules
  (p.receive.endInput, rules)

end Peer

namespace Site

def settlePeers : TransportId → List Peer → List Rule → List Peer × List Rule
  | _, [], rules => ([], rules)
  | t, p :: ps, rules =>
    let (p, rules) := p.settle t rules
    let (ps, rules) := settlePeers (t + 1) ps rules
    (p :: ps, rules)

def settle (s : Site) : Site :=
  let (peers, rules) := settlePeers 0 s.peers s.rules
  { s with peers, rules }

def connect (s : Site) : Outcome TransportId × Site :=
  if !s.isLocal then (.error (.io { kind := "NetworkUnreachable" }), s)
  else if !s.isListening then (.error (.io { kind := "ConnectionRefused" }), s)
  else (.ok s.peers.length, { s with peers := s.peers ++ [{}] })

def moveClock (instant : Nat) (s : Site) : Site := { s with now := max s.now instant }.settle

def network : Network Site where
  clock s := s.now
  connect := connect
  link t s := s.peers[t]?.elim {} Peer.link
  setLink t link s := { s with peers := s.peers.modify t fun p => { p with link } }
  settle := settle
  pass span s := s.moveClock (s.now + span)

def factory (settings : Settings.Connection) : Factory Site where
  network := network
  settings := settings
  takeNumber s := (s.made + 1, { s with made := s.made + 1 })

def pooledFactory (settings : Settings.Connection) : Factory Site where
  network := network
  settings := settings
  takeNumber s := (s.pooled + 1, { s with pooled := s.pooled + 1 })

def withPeer? (t : TransportId) (f : Peer → Peer) (s : Site) : Option Site :=
  if t < s.peers.length then some { s with peers := s.peers.modify t f }.settle else none

def takeSights (s : Site) : List (List Sight) × Site :=
  (s.peers.map Peer.sights, { s with peers := s.peers.map fun p => { p with sights := [] } })

end Site

end DirectoryClient.Scenario
