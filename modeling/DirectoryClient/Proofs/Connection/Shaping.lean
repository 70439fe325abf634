import DirectoryClient.Proofs.Connection.Conversations
import DirectoryClient.Proofs.Factory.PendingModifiers

/-! What is noted of an operation: its requests, which take the modifiers that wait, and how long it has
waited for their responses. -/
namespace DirectoryClient

open Watched (Adds)
open Network (Asked Waited)

variable {ω : Type}

/-- Between two moments nothing but requests of a kind has been made, and every wait took the same
span. -/
def Watched.Only (span : Nat) (P : TransportId × Submission → Prop) (w w' : Watched ω) : Prop :=
  ∃ requests k, Adds requests (List.replicate k span) w w' ∧ ∀ x ∈ requests, P x

namespace Watched.Only

variable {span : Nat} {P Q : TransportId × Submission → Prop} {w w' w'' : Watched ω}

private theorem refl (w : Watched ω) : Only span P w w := ⟨[], 0, .refl w, nofun⟩

private theorem trans (h : Only span P w w') (h' : Only span P w' w'') : Only span P w w'' := by
  obtain ⟨requests, k, hadds, hP⟩ := h
  obtain ⟨requests', k', hadds', hP'⟩ := h'
  have hall := hadds.trans hadds'
  rw [← List.replicate_add] at hall
  exact ⟨_, _, hall, List.forall_mem_append.mpr ⟨hP, hP'⟩⟩

private theorem imp (hPQ : ∀ x, P x → Q x) (h : Only span P w w') : Only span Q w w' := by
  obtain ⟨requests, k, hadds, hP⟩ := h
  exact ⟨requests, k, hadds, fun x hx => hPQ x (hP x hx)⟩

end Watched.Only

open Watched (Only)

private def Link.Queues (P : Submission → Prop) (l l' : Link) : Prop :=
  ∃ added, l'.line.queue = l.line.queue ++ added ∧ ∀ s ∈ added, P s

private theorem Link.queues_send (s : Submission) (l : Link) : l.Queues (· = s) (l.send s).2 := by
  cases hopen : l.line.isOpen with
  | true => exact ⟨[s], queue_send hopen s, fun _ => List.mem_singleton.mp⟩
  | false =>
    have hnone : (l.send s).2.line.queue = l.line.queue ++ [] := by
      simp [send, Line.send, Line.release, hopen]
    exact ⟨[], hnone, List.forall_mem_nil _⟩

private def RequestFor (element : Ber.Element) (controls : Option (List Control))
    (x : TransportId × Submission) : Prop :=
  x.2.element = element ∧ x.2.controls = controls ∨ ∃ target id, x = abandonment x.1 target id

namespace Network

variable {n : Network ω} {span : Nat} {t : TransportId} {w w' : Watched ω}

private theorem only_withLink {α : Type} {P : TransportId × Submission → Prop} {f : Link → α × Link}
    (hf : ∀ l : Link, l.Queues (fun s => P (t, s)) (f l).2) :
    Only span P w (n.watching.withLink t f w).2 := by
  obtain ⟨added, hadded, hP⟩ := hf (n.link t w.world.world)
  exact ⟨_, 0, adds_withLink hadded, List.forall_mem_map.mpr hP⟩

private theorem only_nextId {P : TransportId × Submission → Prop} :
    Only span P w (n.watching.withLink t Link.nextId w).2 := ⟨[], 0, adds_nextId, nofun⟩

private theorem only_ask (timeout : Option Nat) (controls : Option (List Control))
    (request : Ber.Element) :
    Only (timeout.getD 1) (RequestFor request controls) w
      (n.watching.ask t timeout controls request w).2 := by
  obtain ⟨requests, spans, hasked, hadds⟩ := adds_ask (n := n) (t := t) (w := w) timeout controls
    request
  generalize (n.watching.ask t timeout controls request w).1 = o at hasked
  cases hasked with
  | refused e => exact ⟨[], 0, hadds, nofun⟩
  | made id ticket hwaited =>
    have hown : RequestFor request controls
        (t, { id, operation := .single ticket, element := request, controls }) := .inl ⟨rfl, rfl⟩
    cases hwaited with
    | answered _ _ h =>
      obtain ⟨k, rfl, -⟩ := h
      exact ⟨_, k, hadds, List.forall_mem_singleton.mpr hown⟩
    | givenUp id' _ _ h =>
      obtain ⟨k, rfl, -⟩ := h
      have hgivenUp : RequestFor request controls (abandonment t id id') := .inr ⟨id, id', rfl⟩
      exact ⟨_, k, hadds,
        List.forall_mem_cons.mpr ⟨hown, List.forall_mem_singleton.mpr hgivenUp⟩⟩

/-- Every round of a bind makes a request with the same controls. -/
private theorem Holds.only {timeout : Option Nat} {controls : Option (List Control)} {name : String}
    {xs : List Round} (h : n.watching.Holds t timeout controls name w xs w') :
    Only (timeout.getD 1)
      (fun x => ∃ credentials, RequestFor (Request.saslBind name credentials) controls x) w w' := by
  induction h with
  | start w => exact .refl w
  | round _ _ ih => exact ((only_ask timeout controls _).imp fun x hx => ⟨_, hx⟩).trans ih

end Network

namespace Connection

section Operations

variable {n : Network ω} {span : Nat} (c : Connection) (w : Watched ω)

private theorem only_post {P : TransportId × Submission → Prop}
    {send : MessageId → Option (List Control) → Link → Outcome Ticket × Link}
    (hsend : ∀ id (l : Link), l.Queues (fun s => P (c.transport, s)) (send id c.controls l).2) :
    Only span P w (c.post n.watching send w).2.2 := by
  have hnext : Only span P w (n.watching.withLink c.transport Link.nextId w).2 := Network.only_nextId
  rw [post, show c.clearModifiers.transport = c.transport from rfl]
  generalize n.watching.withLink c.transport Link.nextId w = r at hnext
  obtain ⟨e | id, w'⟩ := r
  · exact hnext
  · exact hnext.trans (Network.only_withLink (hsend id))

private theorem only_submit (request : Ber.Element) :
    Only span (RequestFor request c.controls) w (c.submit n.watching request w).2.2 := by
  refine only_post c w fun id l => ?_
  obtain ⟨added, hadded, hsame⟩ := Link.queues_send
    { id, operation := .single l.replies.length, element := request, controls := c.controls }
    { l with replies := l.replies ++ [({} : Reply Message)] }
  refine ⟨added, hadded, fun s hs => ?_⟩
  rw [hsame s hs]
  exact .inl ⟨rfl, rfl⟩

/-- A search is asked for with the options that wait, if its filter is one. -/
private theorem only_startSearch (q : Search.Query) :
    Only span (fun x => ∃ request, Search.request q (c.searchOptions.getD {}) = .ok request ∧
      RequestFor request c.controls x) w (c.startSearch n.watching q w).2.2 := by
  rw [startSearch]
  cases hrequest : Search.request q (c.searchOptions.getD {}) with
  | error e => exact .refl w
  | ok request =>
    refine only_post c w fun id l => ?_
    obtain ⟨added, hadded, hsame⟩ := Link.queues_send
      { id, operation := .search l.streams.length, element := request, controls := c.controls }
      { l with streams := l.streams ++ [({} : Stream)] }
    refine ⟨added, hadded, fun s hs => ?_⟩
    rw [hsame s hs]
    exact ⟨request, rfl, .inl ⟨rfl, rfl⟩⟩

private theorem only_exchange (request : Ber.Element) :
    Only (c.nextTimeout.getD 1) (RequestFor request c.controls) w
      (c.exchange n.watching request w).2.2 := by
  have hask := congrArg Prod.snd (exchange_eq_ask n.watching c w request)
  rw [show (c.exchange n.watching request w).2.2 = _ from hask]
  exact Network.only_ask c.nextTimeout c.controls request

private theorem only_requestBind (request : Ber.Element) (name : Option String) :
    Only (c.nextTimeout.getD 1) (RequestFor request c.controls) w
      (c.requestBind n.watching request name w).2.2 := by
  rw [(requestBind_eq_ask n.watching c w request name).2]
  exact Network.only_ask c.nextTimeout c.controls request

private theorem only_simpleBind (name password : String) :
    Only (c.nextTimeout.getD 1) (RequestFor (Request.simpleBind name password) c.controls) w
      (c.simpleBind n.watching name password w).2.2 :=
  only_requestBind { c with boundWith := none } w (Request.simpleBind name password) (some name)

private theorem only_saslBind (m : Mechanism) :
    Only (c.nextTimeout.getD 1)
      (fun x => ∃ credentials, RequestFor (Request.saslBind m.name credentials) c.controls x) w
      (c.saslBind n.watching m w).2.2 := by
  have hbinds := saslBind_binds n.watching m c w
  generalize c.saslBind n.watching m w = result at hbinds ⊢
  cases hbinds with
  | unbegun e => exact .refl w
  | ended first ending c' w' _ hrounds =>
    -- The rounds take place with the modifiers that the call has taken at its beginning.
    obtain ⟨xs, -, hholds⟩ := hrounds.converses
    exact hholds.only
  | endless first x c' w' _ _ hone =>
    have honly := only_requestBind (n := n) { c with boundWith := none } w
      (Request.saslBind m.name first) none
    rw [hone] at honly
    exact honly.imp fun x hx => ⟨first, hx⟩

private theorem only_abandon (target : MessageId) {P : TransportId × Submission → Prop}
    (hP : ∀ id, P (abandonment c.transport target id)) :
    Only span P w (c.abandon n.watching target w).2.2 := by
  obtain ⟨requests, hadds, hrequests⟩ := Network.adds_abandon (n := n) (t := c.transport) (w := w)
    target
  refine ⟨requests, 0, hadds, ?_⟩
  rcases hrequests with rfl | ⟨id, rfl⟩
  · exact nofun
  · exact List.forall_mem_singleton.mpr (hP id)

private theorem only_unbind :
    Only span (RequestFor Request.unbind c.controls) w (c.unbind n.watching w).2.2 := by
  have hnext : Only span (RequestFor Request.unbind c.controls) w
    (n.watching.withLink c.transport Link.nextId w).2 := Network.only_nextId
  rw [unbind]
  split
  · rw [show c.clearIdentity.transport = c.transport from rfl]
    generalize n.watching.withLink c.transport Link.nextId w = r at hnext
    obtain ⟨e | id, w'⟩ := r
    · exact hnext
    · refine hnext.trans ?_
      simp only
      refine Network.only_withLink fun l => ?_
      obtain ⟨added, hadded, hsame⟩ := l.queues_send
        { id, operation := .unbind, element := Request.unbind, controls := c.controls }
      refine ⟨added, hadded, fun s hs => ?_⟩
      rw [hsame s hs]
      exact .inl ⟨rfl, rfl⟩
  · exact .refl w

private theorem only_close : Only span (RequestFor Request.unbind c.controls) w
    (c.close n.watching w).2 := by
  rw [close]
  split
  · exact only_unbind c w
  · exact .refl w

private theorem only_reconnect :
    Only span (RequestFor Request.unbind c.controls) w (c.reconnect n.watching w).2.2 := by
  have hconnect : ∀ w : Watched ω, Only span (RequestFor Request.unbind c.controls) w
      (n.watching.connect w).2 := fun w =>
    ⟨[], 0, ⟨(List.append_nil _).symm, (List.append_nil _).symm⟩, nofun⟩
  have hall := (only_close c w).trans (hconnect (c.close n.watching w).2)
  rw [reconnect]
  simp only
  generalize n.watching.connect (c.close n.watching w).2 = r at hall
  obtain ⟨e | t, w'⟩ := r <;> exact hall

end Operations

theorem BindCall.opened_cases (call : BindCall) :
    (∃ name password, call.opened = .simple name password) ∨ ∃ m, call.opened = .mechanism m := by
  cases call with
  | simple name password => exact .inl ⟨name, password, rfl⟩
  | mechanism m => exact .inr ⟨m, rfl⟩
  | credentials x =>
    cases x with
    | anonymous => exact .inl ⟨"", "", rfl⟩
    | simple name password => exact .inl ⟨name, password, rfl⟩
    | sasl serial m => exact .inr ⟨m, rfl⟩

/-- Nothing but the memory of a connection is different after a bind with credentials. -/
theorem BindCall.rest_opened (n : Network ω) (call : BindCall) (c : Connection) (w : ω) :
    (call.run n c w).2.1.modifiers = (call.opened.run n c w).2.1.modifiers ∧
      (call.run n c w).2.1.defaultTimeout = (call.opened.run n c w).2.1.defaultTimeout ∧
      (call.run n c w).2.2 = (call.opened.run n c w).2.2 := by
  cases call with
  | simple | mechanism => exact ⟨rfl, rfl, rfl⟩
  | credentials x =>
    rw [BindCall.run, bind_eq]
    rcases (BindCall.credentials x).opened.run n c w with ⟨e | r, c', w'⟩
    · exact ⟨rfl, rfl, rfl⟩
    · refine ⟨?_, ?_, rfl⟩
      all_goals
        simp only
        split <;> rfl

namespace Use

def IsAbout (content : Content) : Use → Prop
  | deed (.bind call) =>
    match call.opened with
    | .simple name password => content = .fixed (Request.simpleBind name password)
    | .mechanism m => ∃ credentials, content = .fixed (Request.saslBind m.name credentials)
    | .credentials _ => False
  | deed .unbind | deed .close | deed .reconnect => content = .fixed Request.unbind
  | deed (.request element) | start element => content = .fixed element
  | deed (.search q) => content = .search q
  | _ => False

/-- The request takes the modifiers, and nothing else shapes it but what the operation is about. A
request to give an operation up takes none. -/
def Shapes (m : Modifiers) (u : Use) (x : TransportId × Submission) : Prop :=
  (∃ content, u.IsAbout content ∧ content.element m.searchOptions = .ok x.2.element ∧
    x.2.controls = m.controls) ∨ ∃ target id, x = abandonment x.1 target id

private theorem shapes_of_requestFor {m : Modifiers} {u : Use} {content : Content}
    {element : Ber.Element} {x : TransportId × Submission} (hu : u.IsAbout content)
    (helement : content.element m.searchOptions = .ok element) (h : RequestFor element m.controls x) :
    u.Shapes m x := by
  rcases h with ⟨rfl, hcontrols⟩ | habandons
  · exact .inl ⟨content, hu, helement, hcontrols⟩
  · exact .inr habandons

private theorem only_bindCall (n : Network ω) (call : BindCall) (c : Connection) (w : Watched ω) :
    Only (c.nextTimeout.getD 1) ((deed (.bind call)).Shapes c.modifiers) w
      (call.run n.watching c w).2.2 := by
  rw [(call.rest_opened n.watching c w).2.2]
  rcases call.opened_cases with ⟨name, password, hcall⟩ | ⟨m, hcall⟩
  · have habout : (deed (.bind call)).IsAbout (.fixed (Request.simpleBind name password)) := by
      rw [IsAbout, hcall]
    rw [hcall]
    exact (only_simpleBind c w name password).imp fun x hx => shapes_of_requestFor habout rfl hx
  · have habout : ∀ credentials,
        (deed (.bind call)).IsAbout (.fixed (Request.saslBind m.name credentials)) := by
      intro credentials
      rw [IsAbout, hcall]
      exact ⟨credentials, rfl⟩
    rw [hcall]
    refine (only_saslBind c w m).imp ?_
    rintro x ⟨credentials, hx⟩
    exact shapes_of_requestFor (habout credentials) rfl hx

/-- An operation asks with the modifiers that wait for it, and waits as long as they say. -/
theorem only_run (n : Network ω) (u : Use) (c : Connection) (w : Watched ω) :
    Only (c.nextTimeout.getD 1) (u.Shapes c.modifiers) w (u.run n.watching c w).2 := by
  cases u with
  | deed d =>
    cases d with
    | bind call =>
      exact only_bindCall n call c w
    | unbind => exact (only_unbind c w).imp fun x hx => shapes_of_requestFor rfl rfl hx
    | close => exact (only_close c w).imp fun x hx => shapes_of_requestFor rfl rfl hx
    | reconnect => exact (only_reconnect c w).imp fun x hx => shapes_of_requestFor rfl rfl hx
    | request element =>
      exact (only_exchange c w element).imp fun x hx => shapes_of_requestFor rfl rfl hx
    | search q =>
      refine (only_startSearch c w q).imp ?_
      rintro x ⟨request, hrequest, hx⟩
      exact shapes_of_requestFor rfl hrequest hx
    | abandon target => exact only_abandon c w target fun id => .inr ⟨target, id, rfl⟩
    | modify => exact .refl w
  | start request => exact (only_submit c w request).imp fun x hx => shapes_of_requestFor rfl rfl hx
  | withTimeout | withControls | withSearchOptions => exact .refl w

end Use

end Connection

end DirectoryClient
