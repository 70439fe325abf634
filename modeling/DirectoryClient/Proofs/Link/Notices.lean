import DirectoryClient.Proofs.Link.Responses
import DirectoryClient.Proofs.Link.Untouched
import DirectoryClient.Proofs.Message.Numbers
import DirectoryClient.Proofs.Message.Responses
import DirectoryClient.Proofs.Message.RoundTrip
import DirectoryClient.Proofs.Search.Elements

/-! Notices of disconnection. One is known by the name among the components of its response, and by
nothing that stands after the response. -/
namespace DirectoryClient

open Ber

private theorem Text.encode_injective {s s' : String} (h : encode s = encode s') : s = s' :=
  Option.some.inj ((decode?_encode s).symm.trans (Text.decode?_eq_some.mpr h))

namespace Response

/-- Of the components after the diagnostic text, the one that is the name of an extended response. -/
def nameComponent? (components : List Element) : Option Element :=
  (components.filter (·.number = 10)).getLast?

def IsNamed (e : Element) (name : String) : Prop :=
  ∃ first second third components named,
    e = .constructed ⟨.application, 24⟩ (first :: second :: third :: components) ∧
      nameComponent? components = some named ∧ named.octets? = some (Text.encode name)

section Name

variable {p p' : ResultParts} {e : Element} {es : List Element} {controls : List Control}
  {response : Response} {name : String}

/-- A component with the number of names sets the name, and no other component changes it. -/
private theorem name_addComponent (h : p.addComponent e = .ok p') :
    p'.operation.name.map Text.encode =
      if e.number = 10 then e.octets? else p.operation.name.map Text.encode := by
  rw [ResultParts.addComponent] at h
  split at h
  · rename_i hnumber
    obtain ⟨urls, -, heq⟩ := Outcome.bind_eq_ok.mp h
    cases heq
    rw [hnumber]
    rfl
  · rename_i hnumber
    obtain ⟨credentials, -, heq⟩ := Outcome.bind_eq_ok.mp h
    cases heq
    rw [hnumber]
    rfl
  · rename_i hnumber
    obtain ⟨octets, hoctets, h⟩ := Outcome.bind_eq_ok.mp h
    obtain ⟨name, hname, heq⟩ := Outcome.bind_eq_ok.mp h
    cases heq
    rw [if_pos hnumber, Malformed.require_eq_ok.mp hoctets,
      Text.decode?_eq_some.mp (Malformed.require_eq_ok.mp hname)]
    rfl
  · rename_i hnumber
    obtain ⟨value, -, heq⟩ := Outcome.bind_eq_ok.mp h
    cases heq
    rw [hnumber]
    rfl
  · rename_i hnot _
    cases h
    rw [if_neg hnot]

/-- Of all components the last with the number of names is the name. -/
private theorem name_addComponents (hnone : p.operation.name = none)
    (h : es.foldlM ResultParts.addComponent p = .ok p') :
    p'.operation.name.map Text.encode = (nameComponent? es).bind Element.octets? := by
  induction es using List.reverseRecOn generalizing p' with
  | nil =>
    cases h
    rw [hnone]
    rfl
  | append_singleton es e ih =>
    rw [List.foldlM_append] at h
    obtain ⟨p₁, hbefore, h⟩ := Outcome.bind_eq_ok.mp h
    obtain ⟨p₂, hlast, heq⟩ := Outcome.bind_eq_ok.mp h
    cases heq
    rw [name_addComponent hlast, ih hbefore, nameComponent?, nameComponent?, List.filter_append]
    by_cases hnumber : e.number = 10 <;> simp [hnumber]

/-- A result has three components before those that may be its name. -/
private theorem name_resultParts (h : ResultParts.ofElement e controls = .ok p) :
    ∃ t first second third components, e = .constructed t (first :: second :: third :: components) ∧
      p.operation.name.map Text.encode = (nameComponent? components).bind Element.octets? := by
  obtain ⟨members, hmembers, h⟩ := Outcome.bind_eq_ok.mp h
  obtain ⟨code, hcode, h⟩ := Outcome.bind_eq_ok.mp h
  obtain ⟨matched, hmatched, h⟩ := Outcome.bind_eq_ok.mp h
  obtain ⟨text, htext, h⟩ := Outcome.bind_eq_ok.mp h
  obtain ⟨matchedName, -, hfold⟩ := Outcome.bind_eq_ok.mp h
  obtain ⟨third, hthird, -⟩ := Option.bind_eq_some_iff.mp (Malformed.require_eq_ok.mp htext)
  cases e with
  | primitive t bs => cases Malformed.require_eq_ok.mp hmembers
  | constructed t es =>
    cases Malformed.require_eq_ok.mp hmembers
    rcases members with _ | ⟨first, _ | ⟨second, _ | ⟨third, components⟩⟩⟩
    · cases hthird
    · cases hthird
    · cases hthird
    · exact ⟨t, first, second, _, components, rfl, name_addComponents rfl hfold⟩

/-- An element with the tag of extended responses is read as one. -/
private theorem exists_resultParts (htag : e.tag = ⟨.application, 24⟩)
    (h : ofElement e controls = .ok response) :
    ∃ p, ResultParts.ofElement e controls = .ok p ∧ response = .extended p.result p.operation := by
  rw [ofElement, Element.tagClass, Element.number, htag, if_neg (not_not.mpr rfl)] at h
  obtain ⟨p, hparts, heq⟩ := Outcome.bind_eq_ok.mp h
  exact ⟨p, hparts, (Except.ok.inj heq).symm⟩

private theorem tag_of_extended {r : OperationResult} {op : ExtendedOperation}
    (h : ofElement e controls = .ok (.extended r op)) : e.tag = ⟨.application, 24⟩ := by
  rcases htag : e.tag with ⟨tagClass, number⟩
  rw [ofElement, Element.tagClass, Element.number, htag] at h
  split at h
  · cases h
  rename_i hclass
  obtain rfl : tagClass = .application := not_not.mp hclass
  split at h
  · cases h
  · obtain ⟨urls, -, heq⟩ := Outcome.bind_eq_ok.mp h
    cases heq
  · obtain ⟨parts, -, heq⟩ := Outcome.bind_eq_ok.mp h
    cases heq
  · obtain ⟨p, -, heq⟩ := Outcome.bind_eq_ok.mp h
    have heq := Except.ok.inj heq
    split at heq
    · cases heq
    · cases heq
    · rename_i hnumber
      exact congrArg (Tag.mk .application) hnumber
    · cases heq

private theorem exists_extended_iff (h : ofElement e controls = .ok response) :
    (∃ r op, response = .extended r op ∧ op.name = some name) ↔ IsNamed e name := by
  constructor
  · rintro ⟨r, op, rfl, hop⟩
    have htag := tag_of_extended h
    obtain ⟨p, hparts, heq⟩ := exists_resultParts htag h
    cases heq
    obtain ⟨t, first, second, third, components, rfl, hname⟩ := name_resultParts hparts
    cases htag
    rw [hop, Option.map_some] at hname
    obtain ⟨named, hnamed, hoctets⟩ := Option.bind_eq_some_iff.mp hname.symm
    exact ⟨first, second, third, components, named, rfl, hnamed, hoctets⟩
  · rintro ⟨_, _, _, _, named, rfl, hnamed, hoctets⟩
    obtain ⟨p, hparts, rfl⟩ := exists_resultParts rfl h
    obtain ⟨_, _, _, _, _, heq, hname⟩ := name_resultParts hparts
    cases heq
    rw [hnamed, Option.bind_some, hoctets] at hname
    obtain ⟨name', hname', hencode⟩ := Option.map_eq_some_iff.mp hname
    obtain rfl := Text.encode_injective hencode
    exact ⟨_, _, rfl, hname'⟩

/-- The tag numbers of an extended response fit into one octet each. -/
private theorem fits_extended (r : OperationResult) (op : ExtendedOperation) :
    (extended r op).element.Fits := by
  have hcomponent (n : Nat) (hn : n ≤ 30) (octets : Option Octets) :
      ∀ e ∈ component n octets, e.Fits := by
    intro e he
    obtain ⟨bs, -, rfl⟩ := List.mem_map.mp he
    exact .primitive hn
  have hreferrals : ∀ e ∈ referralComponent r.referrals, e.Fits := by
    intro e he
    rw [referralComponent] at he
    split at he
    · cases he
    · rw [List.mem_singleton.mp he]
      apply Element.Fits.constructed (by decide)
      intro u hu
      obtain ⟨url, -, rfl⟩ := List.mem_map.mp hu
      exact .primitive (by decide)
  apply Element.Fits.constructed (by decide)
  intro e he
  rcases List.mem_append.mp he with he | he
  · simp only [resultComponents, List.mem_cons] at he
    rcases he with rfl | rfl | rfl | he
    · exact .primitive (by decide)
    · exact .primitive (by decide)
    · exact .primitive (by decide)
    · exact hreferrals e he
  · rcases List.mem_append.mp he with he | he
    · exact hcomponent 10 (by decide) _ e he
    · exact hcomponent 11 (by decide) _ e he

private theorem tagClass_of_ofElement (h : ofElement e controls = .ok response) :
    e.tagClass = .application := by
  rw [ofElement] at h
  split at h
  · cases h
  · rename_i hclass
    exact not_not.mp hclass

end Name

end Response

namespace Message

/-- Octets spell the announcement of a disconnection: an envelope whose id is zero, as far as 32 bits go,
and whose operation is an extended response with the name of the notice. -/
def Announces (front : Octets) : Prop :=
  ∃ ids operation, Wraps front ids operation ∧ Octets.capacity 4 ∣ Octets.toNat ids ∧
    Response.IsNamed operation noticeOfDisconnection

section Next

variable {m : Message} {buffer front rest ids ids' : Octets} {operation operation' : Element}

private theorem exists_wraps (h : next? buffer = some (.ok m, rest)) :
    ∃ front ids operation, buffer = front ++ rest ∧ Wraps front ids operation ∧
      m.id = Int.bmod (Octets.toNat ids) (Octets.capacity 4) ∧
      Response.ofElement operation m.controls = .ok m.response := by
  obtain ⟨⟨e, rest'⟩, hread, heq⟩ := Option.map_eq_some_iff.mp h
  obtain ⟨front, hspells, hbuffer⟩ := read?_eq_some_iff.mp hread
  obtain ⟨hmessage, rfl⟩ := Prod.mk.inj heq
  obtain ⟨v, hv, hmessage⟩ := Outcome.bind_eq_ok.mp hmessage
  obtain ⟨response, hresponse, hm⟩ := Outcome.bind_eq_ok.mp hmessage
  cases hm
  obtain ⟨t, before, i, after, rfl, hnumber, hlen, hi⟩ := Envelope.exists_members hv
  obtain ⟨ids, rfl, hid⟩ := Envelope.messageId?_eq_some_iff.mp hi
  exact ⟨front, ids, v.operation, hbuffer, ⟨t, before, after, hnumber, hlen, hspells⟩, hid, hresponse⟩

private theorem Wraps.unique (h : Wraps front ids operation) (h' : Wraps front ids' operation')
    (hclass : operation.tagClass = .application) (hclass' : operation'.tagClass = .application) :
    ids = ids' ∧ operation = operation' := by
  obtain ⟨t, before, after, -, hlen, hspells⟩ := h
  obtain ⟨t', before', after', -, hlen', hspells'⟩ := h'
  have hread := hspells.read? []
  rw [hspells'.read? [], Option.some.injEq, Prod.mk.injEq, Element.constructed.injEq] at hread
  obtain ⟨⟨-, hmembers⟩, -⟩ := hread
  -- Read from the end, either operation comes first or after one more element.
  have hreversed := congrArg List.reverse hmembers
  simp only [List.reverse_append, List.reverse_cons, List.append_assoc, List.cons_append,
    List.nil_append] at hreversed
  generalize before.reverse = earlier, before'.reverse = earlier' at hreversed
  rcases after with _ | ⟨last, _ | ⟨_, _⟩⟩
  · rcases after' with _ | ⟨last', _ | ⟨_, _⟩⟩
    · cases hreversed
      exact ⟨rfl, rfl⟩
    · cases hreversed
      cases hclass'
    · simp at hlen'
  · rcases after' with _ | ⟨last', _ | ⟨_, _⟩⟩
    · cases hreversed
      cases hclass
    · cases hreversed
      exact ⟨rfl, rfl⟩
    · simp at hlen'
  · simp at hlen

/-- A notice is an extended response with the id zero and the name of the notice. -/
private theorem isNoticeOfDisconnection_iff : m.isNoticeOfDisconnection = true ↔
    m.id = 0 ∧ ∃ r op, m.response = .extended r op ∧ op.name = some noticeOfDisconnection := by
  obtain ⟨id, response, controls⟩ := m
  cases response <;> simp [isNoticeOfDisconnection]

/-- The message that octets spell is a notice exactly if they announce a disconnection. -/
private theorem exists_announces_iff (h : next? buffer = some (.ok m, rest)) :
    ∃ front, buffer = front ++ rest ∧ (m.isNoticeOfDisconnection = true ↔ Announces front) := by
  obtain ⟨front, ids, operation, hbuffer, hwraps, hid, hresponse⟩ := exists_wraps h
  have hzero : m.id = 0 ↔ Octets.capacity 4 ∣ Octets.toNat ids := by
    rw [hid, ← Int.dvd_iff_bmod_eq_zero, Int.natCast_dvd_natCast]
  refine ⟨front, hbuffer, ?_⟩
  rw [isNoticeOfDisconnection_iff, hzero, Response.exists_extended_iff hresponse]
  constructor
  · rintro ⟨hdvd, hnamed⟩
    exact ⟨ids, operation, hwraps, hdvd, hnamed⟩
  · rintro ⟨ids', operation', hwraps', hdvd, hnamed⟩
    have hclass : operation'.tagClass = .application := by
      obtain ⟨_, _, _, _, _, rfl, -⟩ := hnamed
      rfl
    obtain ⟨rfl, rfl⟩ :=
      hwraps.unique hwraps' (Response.tagClass_of_ofElement hresponse) hclass
    exact ⟨hdvd, hnamed⟩

variable {e last : Element} {v : Envelope}

/-- The message of the envelope that octets spell is the next one. -/
private theorem next?_of_spells (hspells : Spells front [e]) (hv : Envelope.ofElement e = .ok v)
    (hm : v.message = .ok m) (rest : Octets) : next? (front ++ rest) = some (.ok m, rest) := by
  have hnext : Envelope.next? (front ++ rest) = some (.ok v, rest) := by
    rw [Envelope.next?, hspells.read? rest]
    exact congrArg (fun o => some (o, rest)) hv
  rw [next?_eq, hnext]
  exact congrArg (fun o => some (o, rest)) hm

private theorem ofElement_after (hlast : last.tag = ⟨.context, 10⟩) :
    Envelope.ofElement (.sequence [.integer 0, operation, last]) =
      .ok { id := 0, operation, controls := [] } := by
  apply Outcome.bind_eq_ok.mpr
  refine ⟨[.integer 0, operation, last], rfl, ?_⟩
  dsimp only
  rw [if_neg (by simp)]
  apply Outcome.bind_eq_ok.mpr
  refine ⟨(operation, [], [.integer 0]), ?_, ?_⟩
  · simp [Envelope.splitEnd, hlast]
  · apply Outcome.bind_eq_ok.mpr
    refine ⟨0, Malformed.require_eq_ok.mpr ?_, rfl⟩
    exact Envelope.messageId?_integer (Int.le_refl 0) (by decide)

private theorem message_extended (r : OperationResult) (op : ExtendedOperation)
    (controls : List Control) :
    ({ id := 0, operation := (Response.extended r op).element, controls } : Envelope).message =
      .ok { id := 0, response := .extended { r with controls } op, controls } := by
  have hproper : (Response.extended r op).IsProper := trivial
  rw [Envelope.message, Response.ofElement_element hproper]
  rfl

end Next

end Message

namespace Link

section Heeds

variable {l : Link} {m : Message} {rest : Octets}

structure Heeds (l : Link) : Prop where
  /-- The driver ends exactly if the octets of the message announce a disconnection. Any other message
  keeps it running, and one with the id zero changes no slot and no table. -/
  decided : ∀ m rest, Message.next? l.inbound = some (.ok m, rest) → ∃ front l',
    l.inbound = front ++ rest ∧ l.receive? = some l' ∧
      (Message.Announces front → m.id = 0 ∧ l' = { l with inbound := rest }.finish) ∧
      (¬Message.Announces front → l'.line.isOpen = true ∧
        (m.id = 0 → l' = { l with inbound := rest }))
  /-- A response with the name of the notice ends it, whatever its result and its controls. -/
  named : ∀ r op controls front rest, op.name = some Message.noticeOfDisconnection →
    Spells front [Message.envelope 0 (Response.extended r op).element controls] →
    l.inbound = front ++ rest → l.receive? = some { l with inbound := rest }.finish
  /-- An element [10] after the response makes no difference. -/
  after : ∀ r op last front rest, last.tag = ⟨.context, 10⟩ →
    Spells front [.sequence [.integer 0, (Response.extended r op).element, last]] →
    l.inbound = front ++ rest → l.receive? = some
      (if op.name = some Message.noticeOfDisconnection then { l with inbound := rest }.finish
      else { l with inbound := rest })

/-- An extended response with the id zero ends the driver if it has the name of the notice. -/
private theorem receive_extended {r : OperationResult} {op : ExtendedOperation}
    {controls : List Control} (hopen : l.line.isOpen = true)
    (hnext : Message.next? l.inbound = some (.ok ⟨0, .extended r op, controls⟩, rest)) :
    l.receive? = some
      (if op.name = some Message.noticeOfDisconnection then { l with inbound := rest }.finish
      else { l with inbound := rest }) := by
  have hnotice : Message.isNoticeOfDisconnection ⟨0, .extended r op, controls⟩ = true ↔
      op.name = some Message.noticeOfDisconnection := by
    simp [Message.isNoticeOfDisconnection]
  rw [receive_unmatched hopen hnext (.inl rfl)]
  simp only [hnotice]

private theorem receive_named {r : OperationResult} {op : ExtendedOperation}
    {controls : Option (List Control)} {front : Octets} (hopen : l.line.isOpen = true)
    (hname : op.name = some Message.noticeOfDisconnection)
    (hspells : Spells front [Message.envelope 0 (Response.extended r op).element controls])
    (hinbound : l.inbound = front ++ rest) : l.receive? = some { l with inbound := rest }.finish := by
  have hread : Envelope.ofElement (Message.envelope 0 (Response.extended r op).element controls) =
      .ok { id := 0, operation := (Response.extended r op).element, controls := controls.getD [] } :=
    Envelope.ofElement_envelope (Int.le_refl 0) (by decide) rfl
  have hnext := Message.next?_of_spells hspells hread (Message.message_extended r op _) rest
  rw [receive_extended hopen (hinbound ▸ hnext), if_pos hname]

private theorem receive_after {r : OperationResult} {op : ExtendedOperation} {last : Element}
    {front : Octets} (hopen : l.line.isOpen = true) (hlast : last.tag = ⟨.context, 10⟩)
    (hspells : Spells front [.sequence [.integer 0, (Response.extended r op).element, last]])
    (hinbound : l.inbound = front ++ rest) : l.receive? = some
      (if op.name = some Message.noticeOfDisconnection then { l with inbound := rest }.finish
      else { l with inbound := rest }) := by
  apply receive_extended hopen
  rw [hinbound]
  exact Message.next?_of_spells hspells (Message.ofElement_after hlast) (Message.message_extended r op [])
    rest

/-- While the driver runs, a disconnection is announced by the name of a response and by nothing
else. -/
theorem receive_heeds (hopen : l.line.isOpen = true) : l.Heeds := by
  refine ⟨?_, ?_, ?_⟩
  · intro m rest hnext
    obtain ⟨front, hinbound, hiff⟩ := Message.exists_announces_iff hnext
    refine ⟨front, _, hinbound, receive_of_open hopen hnext, ?_, ?_⟩
    · intro hannounces
      have hnotice := hiff.mpr hannounces
      have hid := (Message.isNoticeOfDisconnection_iff.mp hnotice).1
      refine ⟨hid, ?_⟩
      rw [if_pos hnotice, dispatch_unmatched (.inl hid)]
    · intro hannounces
      have hnotice : ¬m.isNoticeOfDisconnection = true := fun h => hannounces (hiff.mp h)
      rw [if_neg hnotice]
      refine ⟨((untouched_dispatch _ m).isOpen).trans hopen, ?_⟩
      intro hid
      exact dispatch_unmatched (.inl hid)
  · intro r op controls front rest hname hspells hinbound
    exact receive_named hopen hname hspells hinbound
  · intro r op last front rest hlast hspells hinbound
    exact receive_after hopen hlast hspells hinbound

end Heeds

def unavailable : OperationResult := { code := 52 }

/-- A server says so, with a referral and a control, and one more octet has come. -/
def shutdown : Element :=
  Message.envelope 0
    (Response.extended { unavailable with referrals := ["ldap://b"] }
      { name := some Message.noticeOfDisconnection }).element
    (some [{ oid := "1.2", value := some [] }])

/-- The driver ends at the announcement. -/
theorem shutdown_heeded : ({ inbound := shutdown.write ++ [0x30] } : Link).line.isOpen = true ∧
    ({ inbound := shutdown.write ++ [0x30] } : Link).Heeds ∧
    ({ inbound := shutdown.write ++ [0x30] } : Link).receive? =
      some ({ inbound := [0x30] } : Link).finish := by
  have hheeds : ({ inbound := shutdown.write ++ [0x30] } : Link).Heeds := receive_heeds rfl
  have hfits : shutdown.Fits := Message.fits_envelope (Response.fits_extended _ _)
  have hsize : shutdown.write.length < Octets.capacity 8 := by decide +kernel
  exact ⟨rfl, hheeds, hheeds.named _ _ _ _ [0x30] rfl (hfits.spells hsize) rfl⟩

/-- The same as some servers say it, with the name after the response. -/
private def displacedShutdown : Element :=
  .sequence [.integer 0, (Response.extended unavailable {}).element,
    .contextPrimitive 10 (Text.encode Message.noticeOfDisconnection)]

/-- The driver does not end if the name stands after the response. -/
theorem notices_not_always_heeded :
    ¬∀ (l : Link) (r : OperationResult) (op : ExtendedOperation) (front rest : Octets),
      l.line.isOpen = true →
      Spells front [.sequence [.integer 0, (Response.extended r op).element,
        .contextPrimitive 10 (Text.encode Message.noticeOfDisconnection)]] →
      l.inbound = front ++ rest → ∃ l', l.receive? = some l' ∧ l'.line.isOpen = false := by
  intro h
  have hfits : displacedShutdown.Fits := by
    apply Element.Fits.constructed (by decide)
    intro e he
    simp only [List.mem_cons, List.not_mem_nil, or_false] at he
    rcases he with rfl | rfl | rfl
    · exact .primitive (by decide)
    · exact Response.fits_extended _ _
    · exact .primitive (by decide)
  have hsize : displacedShutdown.write.length < Octets.capacity 8 := by decide +kernel
  have hspells := hfits.spells hsize
  have hinbound : ({ inbound := displacedShutdown.write } : Link).inbound =
      displacedShutdown.write ++ [] := (List.append_nil _).symm
  obtain ⟨l', hl', hclosed⟩ := h { inbound := displacedShutdown.write } unavailable {} _ [] rfl hspells
    hinbound
  rw [receive_after rfl rfl hspells hinbound, if_neg (by simp)] at hl'
  cases hl'
  cases hclosed

end Link

end DirectoryClient
