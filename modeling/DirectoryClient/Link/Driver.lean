import DirectoryClient.Link

/-! The driver of a transport: it takes requests off the line one by one, reads messages one by one,
and hands each message to the slot of its id. -/
namespace DirectoryClient.Link

def release (id : MessageId) (l : Link) : Link :=
  { l with line := l.line.release id }

def deliver (ticket : Ticket) (o : Outcome Message) (l : Link) : Link :=
  l.setReply ticket ((l.reply ticket).complete o).2

def failSearch (ticket : Ticket) (e : DirectoryError) (l : Link) : Link :=
  l.setStream ticket ((l.stream ticket).fail e)

def takeOut (id : MessageId) (table : List (MessageId × Ticket)) :
    Option Ticket × List (MessageId × Ticket) :=
  (table.lookup id, table.filter (·.1 != id))

/-- Waits no more for responses to an operation; its slot fails. -/
def giveUp (target : MessageId) (l : Link) : Link :=
  let (single, singles) := takeOut target l.singles
  let (search, searches) := takeOut target l.searches
  let cause : DirectoryError := .operationCancelled target
  let l := { l with singles, searches }
  let l := single.elim l fun t => l.deliver t (.error cause)
  search.elim l fun t => l.failSearch t cause

/-- Waits for the response to a request from now on. A slot that waited under the same id before is
forsaken. -/
def awaitSingle (id : MessageId) (ticket : Ticket) (l : Link) : Link :=
  let (old, singles) := takeOut id l.singles
  let l := old.elim l fun t => l.setReply t ((l.reply t).forsake id)
  { l with singles := (id, ticket) :: singles }

/-- Waits for the responses to a search from now on. A slot that waited under the same id before is
forsaken. -/
def awaitSearch (id : MessageId) (ticket : Ticket) (l : Link) : Link :=
  let (old, searches) := takeOut id l.searches
  let l := old.elim l fun t => l.setStream t ((l.stream t).forsake id)
  { l with searches := (id, ticket) :: searches }

/-- Prepares for a request that is about to be written. An abandon request has no response: its id
and that of its target are free at once. -/
def register (s : Submission) (l : Link) : Link :=
  match s.operation with
  | .single ticket => l.awaitSingle s.id ticket
  | .search ticket => l.awaitSearch s.id ticket
  | .abandon target => ((l.giveUp target).release target).release s.id
  | .unbind => l

def transmit? (l : Link) : Option (Submission × Link) :=
  match l.line.queue with
  | [] => none
  | s :: queue =>
    if l.line.isOpen then some (s, { l with line := { l.line with queue } }.register s) else none

def close (operation : Operation) (l : Link) : Link :=
  match operation with
  | .single ticket => l.deliver ticket (.error .connectionClosed)
  | .search ticket => l.failSearch ticket .connectionClosed
  | _ => l

/-- The driver ends: nothing is sent or received any more, and every slot that still waits fails. -/
def finish (l : Link) : Link :=
  let operations := l.line.queue.map Submission.operation
    ++ l.singles.map (.single ·.2) ++ l.searches.map (.search ·.2)
  let l := operations.foldl (fun l o => l.close o) l
  { l with
    isUp := false
    line := { l.line with queue := [], isOpen := false }
    singles := []
    searches := [] }

/-- Hands a message to the slot of its id. One without a slot is ignored. A search that has come to
its end or is no longer read waits for nothing more. -/
def route (m : Message) (l : Link) : Link :=
  match l.searches.lookup m.id, l.singles.lookup m.id with
  | some ticket, _ =>
    let (isAccepted, s) := (l.stream ticket).push m
    let l := l.setStream ticket s
    if m.kind = .done || !isAccepted then
      { l with searches := (takeOut m.id l.searches).2 }.release m.id
    else l
  | none, some ticket =>
    ({ l with singles := (takeOut m.id l.singles).2 }.deliver ticket (.ok m)).release m.id
  | none, none => l

/-- Handles a message, and says whether the driver goes on. The id zero belongs to no request: a
notice of disconnection ends the driver, and any other message with it is ignored. -/
def dispatch (m : Message) (l : Link) : Bool × Link :=
  if m.id = 0 then (!m.isNoticeOfDisconnection, l) else (true, l.route m)

/-- Reads the next message, if there is a whole one. A message that cannot be read ends the driver. -/
def receive? (l : Link) : Option Link :=
  if l.line.isOpen then
    match Message.next? l.inbound with
    | none => none
    | some (.ok m, inbound) =>
      let (goesOn, l) := { l with inbound }.dispatch m
      some (if goesOn then l else l.finish)
    | some (.error _, inbound) => some { l with inbound }.finish
  else none

def feed (octets : Octets) (l : Link) : Link :=
  { l with inbound := l.inbound ++ octets }

def receiveFor : Nat → Link → Link
  | 0, l => l
  | n + 1, l =>
    match l.receive? with
    | some l => receiveFor n l
    | none => l

/-- Reads all messages that have come. Each takes at least one octet. -/
def receiveAll (l : Link) : Link := l.receiveFor l.inbound.length

end DirectoryClient.Link
