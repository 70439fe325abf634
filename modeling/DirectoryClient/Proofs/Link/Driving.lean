import DirectoryClient.Proofs.Link.Tending

/-! A transport and its driver, section by section: between any two of them others may queue requests,
look into slots and cancel, and the server may send. -/
namespace DirectoryClient

inductive Driver.Position where
  /-- At the head of its loop. -/
  | turning
  /-- About to write a request. -/
  | writing (s : Submission)
  /-- Out of its loop, for one reason or another. -/
  | leaving
  /-- It has noted that the session is over. -/
  | parting
  /-- It takes no more requests, and lets down those who wait. -/
  | draining
  | ended

structure Driver where
  link : Link := {}
  position : Driver.Position := .turning
  /-- The requests that the line has taken, in their order. -/
  sent : List Submission := []
  /-- The requests that the driver has begun to write, in their order. -/
  wire : List Submission := []

namespace Driver

def taken (s : Submission) (d : Driver) : List Submission :=
  if d.link.line.isOpen then d.sent ++ [s] else d.sent

/-- What the users of a transport and its server do. Ids may be used in any way. -/
inductive Use : Driver → Driver → Prop
  | allocate (d : Driver) : Use d { d with link := d.link.nextId.2 }
  | sendSingle (d : Driver) (id : MessageId) (element : Ber.Element)
    (controls : Option (List Control)) : Use d { d with
      link := (d.link.sendSingle id element controls).2
      sent := d.taken { id, operation := .single d.link.replies.length, element, controls } }
  | sendSearch (d : Driver) (id : MessageId) (element : Ber.Element)
    (controls : Option (List Control)) : Use d { d with
      link := (d.link.sendSearch id element controls).2
      sent := d.taken { id, operation := .search d.link.streams.length, element, controls } }
  | sendAbandon (d : Driver) (id target : MessageId) (element : Ber.Element) : Use d { d with
      link := (d.link.send { id, operation := .abandon target, element }).2
      sent := d.taken { id, operation := .abandon target, element } }
  | sendUnbind (d : Driver) (id : MessageId) (element : Ber.Element)
    (controls : Option (List Control)) : Use d { d with
      link := (d.link.send { id, operation := .unbind, element, controls }).2
      sent := d.taken { id, operation := .unbind, element, controls } }
  /-- A user who has ended the session notes it. -/
  | part (d : Driver) : Use d { d with link := { d.link with isUp := false } }
  | feed (d : Driver) (octets : Octets) : Use d { d with link := d.link.feed octets }
  | examineReply (d : Driver) (t : Ticket) (id : MessageId) (late : Bool) : Use d { d with
      link := d.link.setReply t ((d.link.reply t).examine id late).2 }
  | cancelReply (d : Driver) (t : Ticket) (interrupt : Bool) : Use d { d with
      link := d.link.setReply t ((d.link.reply t).cancel interrupt).2 }
  | examineStream (d : Driver) (t : Ticket) (id : MessageId) (late : Bool) : Use d { d with
      link := d.link.setStream t ((d.link.stream t).examine id late).2 }
  | cancelStream (d : Driver) (t : Ticket) (interrupt : Bool) : Use d { d with
      link := d.link.setStream t ((d.link.stream t).cancel interrupt).2 }

inductive Step : Driver → Driver → Prop
  | take {d : Driver} {s : Submission} {l : Link} :
    d.position = .turning → d.link.transmit? = some (s, l) →
    Step d { d with link := l, position := .writing s, wire := d.wire ++ [s] }
  /-- The loop ends with a request to end the session. -/
  | written {d : Driver} {s : Submission} : d.position = .writing s →
    Step d { d with position := if s.operation = .unbind then .leaving else .turning }
  | unwritten {d : Driver} {s : Submission} : d.position = .writing s →
    Step d { d with position := .leaving }
  /-- A notice of disconnection ends the loop. -/
  | receive {d : Driver} {m : Message} {rest : Octets} :
    d.position = .turning → Message.next? d.link.inbound = some (.ok m, rest) →
    Step d { d with
      link := ({ d.link with inbound := rest }.dispatch m).2
      position := if ({ d.link with inbound := rest }.dispatch m).1 then .turning else .leaving }
  /-- What cannot be read ends the loop. -/
  | garbled {d : Driver} {e : DirectoryError} {rest : Octets} :
    d.position = .turning → Message.next? d.link.inbound = some (.error e, rest) →
    Step d { d with link := { d.link with inbound := rest }, position := .leaving }
  /-- The server sends no more, or nobody is left to send requests. -/
  | hangUp {d : Driver} : d.position = .turning → Step d { d with position := .leaving }
  | part {d : Driver} : d.position = .leaving →
    Step d { d with link := { d.link with isUp := false }, position := .parting }
  | shut {d : Driver} : d.position = .parting →
    Step d { d with link := { d.link with line := d.link.line.close }, position := .draining }
  | letDown {d : Driver} {s : Submission} {queue : List Submission} :
    d.position = .draining → d.link.line.queue = s :: queue →
    Step d { d with
      link := { d.link with line := { d.link.line with queue } }.close s.operation }
  | letDownSingle {d : Driver} {id : MessageId} {t : Ticket} :
    d.position = .draining → d.link.line.queue = [] → (id, t) ∈ d.link.singles →
    Step d { d with link := d.link.concludeSingle id (.error .connectionClosed) }
  | letDownSearch {d : Driver} {id : MessageId} {t : Ticket} :
    d.position = .draining → d.link.line.queue = [] → d.link.singles = [] →
    (id, t) ∈ d.link.searches →
    Step d { d with link := d.link.concludeSearch id .connectionClosed }
  | finish {d : Driver} : d.position = .draining → d.link.line.queue = [] →
    d.link.singles = [] → d.link.searches = [] → Step d { d with position := .ended }

inductive Run (d : Driver) : Driver → Prop
  | start : Run d d
  | use {d₁ d₂ : Driver} : Run d d₁ → Use d₁ d₂ → Run d d₂
  | step {d₁ d₂ : Driver} : Run d d₁ → Step d₁ d₂ → Run d d₂

variable {d d' d'' : Driver}

theorem Run.trans (h : Run d d') (h' : Run d' d'') : Run d d'' := by
  induction h' with
  | start => exact h
  | use _ hu ih => exact ih.use hu
  | step _ hs ih => exact ih.step hs

/-- What a use can change: it may submit a request, cancel an operation, and read what has come. -/
structure Touches (d d' : Driver) : Prop where
  position : d'.position = d.position
  wire : d'.wire = d.wire
  isOpen : d'.link.line.isOpen = d.link.line.isOpen
  singles : d'.link.singles = d.link.singles
  searches : d'.link.searches = d.link.searches
  hasSlot : ∀ o, d.link.HasSlot o → d'.link.HasSlot o
  reply : ∀ t, d'.link.reply t = d.link.reply t ∨
    ∃ interrupt, d'.link.reply t = ((d.link.reply t).cancel interrupt).2
  stream : ∀ t, d'.link.stream t = d.link.stream t ∨
    (∃ interrupt, d'.link.stream t = ((d.link.stream t).cancel interrupt).2) ∨
    ∃ id late, d'.link.stream t = ((d.link.stream t).examine id late).2
  request : d'.link.line.queue = d.link.line.queue ∧ d'.sent = d.sent ∨
    ∃ s, d.link.line.isOpen = true ∧ d'.link.line.queue = d.link.line.queue ++ [s] ∧
      d'.sent = d.sent ++ [s] ∧ d'.link.HasSlot s.operation

private theorem touches_of_line {l : Link} (hr : l.replies = d.link.replies)
    (hs : l.streams = d.link.streams) (hsingles : l.singles = d.link.singles)
    (hsearches : l.searches = d.link.searches) (hopen : l.line.isOpen = d.link.line.isOpen)
    (hqueue : l.line.queue = d.link.line.queue) : Touches d { d with link := l } where
  position := rfl
  wire := rfl
  isOpen := hopen
  singles := hsingles
  searches := hsearches
  hasSlot o ho := by
    cases o with
    | single t => exact lt_of_lt_of_eq ho (congrArg List.length hr.symm)
    | search t => exact lt_of_lt_of_eq ho (congrArg List.length hs.symm)
    | abandon | unbind => trivial
  reply t := .inl (by rw [Link.reply, hr]; rfl)
  stream t := .inl (by rw [Link.stream, hs]; rfl)
  request := .inl ⟨hqueue, rfl⟩

private theorem touches_send {l : Link} {s : Submission} (hline : l.line = d.link.line)
    (hsingles : l.singles = d.link.singles) (hsearches : l.searches = d.link.searches)
    (hr : ∀ t, l.reply t = d.link.reply t) (hs : ∀ t, l.stream t = d.link.stream t)
    (hslots : ∀ o, d.link.HasSlot o → l.HasSlot o) (hslot : l.HasSlot s.operation) :
    Touches d { d with link := (l.send s).2, sent := d.taken s } := by
  have hsent : (l.send s).2 = { l with line := (d.link.line.send s).2 } := by rw [Link.send, hline]
  have hkept : ∀ {o}, l.HasSlot o → ({ l with line := (d.link.line.send s).2 } : Link).HasSlot o :=
    fun {o} ho => by cases o <;> exact ho
  rw [hsent]
  refine ⟨rfl, rfl, ?_, hsingles, hsearches, fun o ho => hkept (hslots o ho), fun t => .inl (hr t),
    fun t => .inl (hs t), ?_⟩
  · simp only [Line.send]
    split <;> rfl
  · cases ho : d.link.line.isOpen with
    | true => exact .inr ⟨s, rfl, by simp [Line.send, ho], by simp [taken, ho], hkept hslot⟩
    | false => exact .inl ⟨by simp [Line.send, ho, Line.release], by simp [taken, ho]⟩

private theorem touches_setReply {t : Ticket} {r : Reply Message}
    (h : r = d.link.reply t ∨ ∃ interrupt, r = ((d.link.reply t).cancel interrupt).2) :
    Touches d { d with link := d.link.setReply t r } where
  position := rfl
  wire := rfl
  isOpen := rfl
  singles := rfl
  searches := rfl
  hasSlot _ := Link.hasSlot_setReply t r
  reply u := by
    rw [Link.reply_setReply]
    split
    · rename_i hu
      rw [hu.1]
      exact h
    · exact .inl rfl
  stream _ := .inl rfl
  request := .inl ⟨rfl, rfl⟩

private theorem touches_setStream {t : Ticket} {s : Stream}
    (h : s = d.link.stream t ∨ (∃ interrupt, s = ((d.link.stream t).cancel interrupt).2) ∨
      ∃ id late, s = ((d.link.stream t).examine id late).2) :
    Touches d { d with link := d.link.setStream t s } where
  position := rfl
  wire := rfl
  isOpen := rfl
  singles := rfl
  searches := rfl
  hasSlot _ := Link.hasSlot_setStream t s
  reply _ := .inl rfl
  stream u := by
    rw [Link.stream_setStream]
    split
    · rename_i hu
      rw [hu.1]
      exact h
    · exact .inl rfl
  request := .inl ⟨rfl, rfl⟩

theorem Use.touches (h : Use d d') : Touches d d' := by
  cases h with
  | allocate =>
    refine touches_of_line rfl rfl rfl rfl ?_ ?_ <;> rw [Link.nextId, Line.nextId] <;>
      cases d.link.line.ids.next <;> rfl
  | sendSingle id element controls =>
    refine touches_send (l := { d.link with replies := d.link.replies ++ [({} : Reply Message)] }) rfl
      rfl rfl d.link.reply_new (fun _ => rfl) (fun o ho => ?_) (by simp [Link.HasSlot])
    cases o with
    | single t => simpa [Link.HasSlot] using Nat.lt_succ_of_lt ho
    | search | abandon | unbind => exact ho
  | sendSearch id element controls =>
    refine touches_send (l := { d.link with streams := d.link.streams ++ [({} : Stream)] }) rfl
      rfl rfl (fun _ => rfl) d.link.stream_new (fun o ho => ?_) (by simp [Link.HasSlot])
    cases o with
    | search t => simpa [Link.HasSlot] using Nat.lt_succ_of_lt ho
    | single | abandon | unbind => exact ho
  | sendAbandon | sendUnbind =>
    exact touches_send rfl rfl rfl (fun _ => rfl) (fun _ => rfl) (fun _ ho => ho) trivial
  | part | feed octets => exact touches_of_line rfl rfl rfl rfl rfl rfl
  | examineReply t id late => exact touches_setReply (.inl (Reply.examine_slot _ id late))
  | cancelReply t interrupt => exact touches_setReply (.inr ⟨interrupt, rfl⟩)
  | examineStream t id late => exact touches_setStream (.inr (.inr ⟨id, late, rfl⟩))
  | cancelStream t interrupt => exact touches_setStream (.inr (.inl ⟨interrupt, rfl⟩))

end Driver

end DirectoryClient
