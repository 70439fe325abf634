import DirectoryClient.Link.Driver

/-! Runs of one transport: any order of requests, of the driver's steps, of arrivals and of what
consumers do with their slots, with a trace of what decides where messages go. -/
namespace DirectoryClient.Link

inductive Event where
  | allocated (id : MessageId)
  /-- The driver has taken a request off the line, and waits for its responses from then on. -/
  | registered (s : Submission)
  /-- A message was dispatched; the taker is the slot of a search that has accepted it. -/
  | dispatched (m : Message) (taker : Option Ticket)
  /-- A consumer has taken a message out of the slot of a search. -/
  | read (ticket : Ticket) (m : Message)
  /-- A consumer has cancelled a search, and wants nothing more of it. -/
  | interrupted (ticket : Ticket)
  /-- The driver has ended. -/
  | exited

structure Traffic where
  link : Link := {}
  inHand : List MessageId := []

def taker? (m : Message) (l : Link) : Option Ticket :=
  if m.id = 0 then none
  else (l.searches.lookup m.id).filter fun t => ((l.stream t).push m).1

/-- What is seen of a message that is dispatched. A notice of disconnection ends the driver. -/
def arrival (m : Message) (l : Link) : List Event :=
  .dispatched m (l.taker? m) :: if m.isNoticeOfDisconnection then [.exited] else []

def examination (ticket : Ticket) : Slot.Finding Message → List Event
  | .settled (.ok m) => [.read ticket m]
  | _ => []

/-- A step on a transport, and what is seen of it. A request is made in two steps, between which others
can be made. -/
inductive Step : Traffic → List Event → Traffic → Prop
  | allocate (s : Traffic) (id : MessageId) (l : Link) : s.link.nextId = (.ok id, l) →
    Step s [.allocated id] { link := l, inHand := id :: s.inHand }
  | sendSingle (s : Traffic) (id : MessageId) (element : Ber.Element)
    (controls : Option (List Control)) : id ∈ s.inHand →
    Step s [] { link := (s.link.sendSingle id element controls).2, inHand := s.inHand.erase id }
  | sendSearch (s : Traffic) (id : MessageId) (element : Ber.Element)
    (controls : Option (List Control)) : id ∈ s.inHand →
    Step s [] { link := (s.link.sendSearch id element controls).2, inHand := s.inHand.erase id }
  | sendAbandon (s : Traffic) (id target : MessageId) : id ∈ s.inHand →
    Step s [] {
      link := (s.link.send
        { id, operation := .abandon target, element := Request.abandon target }).2
      inHand := s.inHand.erase id }
  | sendUnbind (s : Traffic) (id : MessageId) (controls : Option (List Control)) :
    id ∈ s.inHand →
    Step s [] {
      link := { (s.link.send
        { id, operation := .unbind, element := Request.unbind, controls }).2 with isUp := false }
      inHand := s.inHand.erase id }
  | transmit (s : Traffic) (sub : Submission) (l : Link) : s.link.transmit? = some (sub, l) →
    Step s [.registered sub] { s with link := l }
  | feed (s : Traffic) (octets : Octets) : Step s [] { s with link := s.link.feed octets }
  | receive (s : Traffic) (m : Message) (rest : Octets) (l : Link) :
    Message.next? s.link.inbound = some (.ok m, rest) → s.link.receive? = some l →
    Step s (s.link.arrival m) { s with link := l }
  | garbled (s : Traffic) (e : DirectoryError) (rest : Octets) (l : Link) :
    Message.next? s.link.inbound = some (.error e, rest) → s.link.receive? = some l →
    Step s [.exited] { s with link := l }
  | exit (s : Traffic) : s.link.line.isOpen = true →
    Step s [.exited] { s with link := s.link.finish }
  | examineReply (s : Traffic) (ticket : Ticket) (id : MessageId) (late : Bool) :
    ticket < s.link.replies.length →
    Step s [] { s with link := s.link.setReply ticket ((s.link.reply ticket).examine id late).2 }
  | cancelReply (s : Traffic) (ticket : Ticket) (interrupt : Bool) :
    ticket < s.link.replies.length →
    Step s [] { s with link := s.link.setReply ticket ((s.link.reply ticket).cancel interrupt).2 }
  | examineStream (s : Traffic) (ticket : Ticket) (id : MessageId) (late : Bool) :
    ticket < s.link.streams.length →
    Step s (examination ticket ((s.link.stream ticket).examine id late).1)
      { s with link := s.link.setStream ticket ((s.link.stream ticket).examine id late).2 }
  | cancelStream (s : Traffic) (ticket : Ticket) (interrupt : Bool) :
    ticket < s.link.streams.length →
    Step s (if ((s.link.stream ticket).cancel interrupt).1 && interrupt then [.interrupted ticket]
        else [])
      { s with link := s.link.setStream ticket ((s.link.stream ticket).cancel interrupt).2 }

inductive Run (s : Traffic) : List Event → Traffic → Prop
  | start : Run s [] s
  | step {es e : List Event} {s₁ s₂ : Traffic} : Run s es s₁ → Step s₁ e s₂ → Run s (es ++ e) s₂

/-- An abandon request is queued under the next id. -/
theorem abandon_eq {l l' : Link} {id : MessageId} (h : l.nextId = (.ok id, l')) (target : MessageId) :
    (l.abandon target).2 =
      (l'.send { id, operation := .abandon target, element := Request.abandon target }).2 := by
  rcases hnext : l.line.nextId with ⟨o, line⟩
  simp only [nextId, hnext] at h
  cases h
  simp only [abandon, Line.abandon, hnext, send]

/-- An abandon request is made in two such steps. -/
theorem run_abandon {s : Traffic} {id : MessageId} {l : Link} (h : s.link.nextId = (.ok id, l))
    (target : MessageId) :
    Run s [.allocated id] { s with link := (s.link.abandon target).2 } := by
  have hrun := (Run.start.step (.allocate s id l h)).step (.sendAbandon _ id target (by simp))
  rw [List.erase_cons_head] at hrun
  rw [abandon_eq h]
  exact hrun

end DirectoryClient.Link
