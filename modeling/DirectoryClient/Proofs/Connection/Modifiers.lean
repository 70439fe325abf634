import DirectoryClient.Proofs.Connection.Logging

/-! What becomes of the modifiers that wait on a connection. An operation either comes to the same
without them, or it makes a request that takes them, and none is left. -/
namespace DirectoryClient

variable {ω : Type}

structure Modifiers where
  timeout : Option Nat := none
  controls : Option (List Control) := none
  searchOptions : Option Search.Options := none

namespace Connection

def modifiers (c : Connection) : Modifiers where
  timeout := c.timeout
  controls := c.controls
  searchOptions := c.searchOptions

def carrying (m : Modifiers) (c : Connection) : Connection :=
  { c with timeout := m.timeout, controls := m.controls, searchOptions := m.searchOptions }

theorem clearModifiers_carrying (c : Connection) (m : Modifiers) :
    (c.carrying m).clearModifiers = c.clearModifiers := rfl

end Connection

/-- What a request is about: something fixed, or a search whose options are open. -/
inductive Content where
  | fixed (element : Ber.Element)
  | search (query : Search.Query)

def Content.element : Content → Option Search.Options → Outcome Ber.Element
  | fixed element, _ => .ok element
  | search query, options => Search.request query (options.getD {})

structure Draft where
  transport : TransportId
  id : MessageId
  operation : Operation
  content : Content

structure Draft.Filled (d : Draft) (m : Modifiers) (x : TransportId × Submission) : Prop where
  transport : x.1 = d.transport
  id : x.2.id = d.id
  operation : x.2.operation = d.operation
  element : d.content.element m.searchOptions = .ok x.2.element
  controls : x.2.controls = m.controls

def Draft.Opens (d : Draft) (m : Modifiers) (w w' : Logged ω) : Prop :=
  ∃ x, d.Filled m x ∧ w.sent ++ [x] <+: w'.sent

/-- An operation makes a request that takes the modifiers. Then none waits any more, unless the session
has ended with it. -/
structure Asks (d : Draft) (m : Modifiers) (w : Logged ω) (r : Connection × Logged ω) : Prop where
  opens : d.Opens m w r.2
  spent : d.operation = .unbind ∨ r.1.modifiers = {}

structure Matches {α : Type} (r r' : α × Connection × ω) : Prop where
  outcome : r.1 = r'.1
  connection : r.2.1.clearModifiers = r'.2.1.clearModifiers
  world : r.2.2 = r'.2.2

private theorem Matches.of_eq {α : Type} {r r' : α × Connection × ω} (h : r = r') : Matches r r' := by
  subst h
  exact ⟨rfl, rfl, rfl⟩

section Families

variable {α β : Type}

/-- What comes of an operation with some modifiers or others: it is refused in the same way with all of
them, or makes a request that takes them. -/
inductive Opening (g : Modifiers → Outcome α × Connection × Logged ω) (w : Logged ω) : Prop
  | refused (e : DirectoryError) (c : Connection) (w' : Logged ω) : (∀ m, g m = (.error e, c, w')) →
    Opening g w
  | opens (d : Draft) : (∀ m, d.Opens m w (g m).2.2) → Opening g w

/-- What comes of an operation with some modifiers or others: the same with all of them, or a request
that takes them. -/
inductive Conduct (g : Modifiers → α × Connection × Logged ω) (w : Logged ω) : Prop
  | same : (∀ m m', Matches (g m) (g m')) → Conduct g w
  | asks (d : Draft) : (∀ m, Asks d m w (g m).2) → Conduct g w

private theorem Draft.Opens.trans {d : Draft} {m : Modifiers} {w w' w'' : Logged ω} (h : d.Opens m w w')
    (hgrows : w'.Grows w'') : d.Opens m w w'' := by
  obtain ⟨x, hx, hsent⟩ := h
  exact ⟨x, hx, hsent.trans hgrows⟩

namespace Opening

variable {g : Modifiers → Outcome α × Connection × Logged ω} {w : Logged ω}

/-- The operation goes on after its first request, if that was not refused. -/
private theorem andThen (h : Opening g w)
    (F : Outcome α × Connection × Logged ω → Outcome β × Connection × Logged ω)
    (hrefused : ∀ e c w, ∃ e' c' w', F (.error e, c, w) = (.error e', c', w'))
    (hgrows : ∀ r : Outcome α × Connection × Logged ω, r.2.2.Grows (F r).2.2) :
    Opening (fun m => F (g m)) w := by
  cases h with
  | refused e c w' hg =>
    obtain ⟨e', c', w'', hF⟩ := hrefused e c w'
    exact .refused e' c' w'' fun m => by rw [hg, hF]
  | opens d hd => exact .opens d fun m => (hd m).trans (hgrows (g m))

/-- The timeout is not told to anybody. -/
theorem withTimeout (h : Opening g w) (f : Option Nat → Option Nat) :
    Opening (fun m => g { m with timeout := f m.timeout }) w := by
  cases h with
  | refused e c w' hg => exact .refused e c w' fun m => hg _
  | opens d hd =>
    refine .opens d fun m => ?_
    obtain ⟨x, hx, hsent⟩ := hd { m with timeout := f m.timeout }
    exact ⟨x, ⟨hx.transport, hx.id, hx.operation, hx.element, hx.controls⟩, hsent⟩

theorem conduct (h : Opening g w) (F : Outcome α × Connection × Logged ω → β × Connection × Logged ω)
    (hgrows : ∀ r : Outcome α × Connection × Logged ω, r.2.2.Grows (F r).2.2)
    (hspent : ∀ m, (F (g m)).2.1.modifiers = {}) : Conduct (fun m => F (g m)) w := by
  cases h with
  | refused e c w' hg =>
    exact .same fun m m' => .of_eq (congrArg F ((hg m).trans (hg m').symm))
  | opens d hd =>
    exact .asks d fun m => ⟨(hd m).trans (hgrows (g m)), .inr (hspent m)⟩

end Opening

namespace Conduct

variable {g : Modifiers → α × Connection × Logged ω} {w : Logged ω}

/-- What follows makes no request and does nothing to the modifiers. -/
private theorem andThen (h : Conduct g w) (F : α × Connection × Logged ω → β × Connection × Logged ω)
    (hsame : ∀ r r', Matches r r' → Matches (F r) (F r'))
    (hquiet : ∀ r : α × Connection × Logged ω, (F r).2.2.sent = r.2.2.sent)
    (hspares : ∀ r : α × Connection × Logged ω, (F r).2.1.modifiers = r.2.1.modifiers) :
    Conduct (fun m => F (g m)) w := by
  cases h with
  | same hg => exact .same fun m m' => hsame _ _ (hg m m')
  | asks d hd =>
    refine .asks d fun m => ⟨?_, ?_⟩
    · obtain ⟨x, hx, hsent⟩ := (hd m).opens
      exact ⟨x, hx, (hquiet (g m)).symm ▸ hsent⟩
    · rw [hspares]
      exact (hd m).spent

/-- What a caller learns of the outcome does not matter. -/
theorem map (h : Conduct g w) (f : α → β) : Conduct (fun m => (f (g m).1, (g m).2)) w :=
  h.andThen (fun r => (f r.1, r.2)) (fun _ _ h => ⟨congrArg f h.outcome, h.connection, h.world⟩)
    (fun _ => rfl) fun _ => rfl

/-- Nothing has been asked for before. -/
theorem later {w₀ : Logged ω} (h : Conduct g w) (hw : w.sent = w₀.sent) : Conduct g w₀ := by
  cases h with
  | same hg => exact .same hg
  | asks d hd =>
    refine .asks d fun m => ⟨?_, (hd m).spent⟩
    obtain ⟨x, hx, hsent⟩ := (hd m).opens
    exact ⟨x, hx, hw ▸ hsent⟩

end Conduct

end Families

namespace Connection

/-! ### Nothing is left of them -/

section Spent

variable (n : Network ω) (c : Connection) (w : ω)

theorem modifiers_post (send : MessageId → Option (List Control) → Link → Outcome Ticket × Link) :
    (c.post n send w).2.1.modifiers = {} := by
  rw [post]
  split <;> rfl

theorem modifiers_exchange (request : Ber.Element) : (c.exchange n request w).2.1.modifiers = {} := by
  rw [connection_exchange]
  exact modifiers_post n c w _

private theorem modifiers_recordBind (r : OperationResult) (name : Option String) :
    (c.recordBind r name).modifiers = c.modifiers := by
  rw [recordBind]
  split
  · rfl
  · split <;> rfl

theorem modifiers_requestBind (request : Ber.Element) (name : Option String) :
    (c.requestBind n request name w).2.1.modifiers = {} := by
  rw [← modifiers_exchange n c w request]
  rcases connection_requestBind n c w request name with h | ⟨r, h⟩
  · rw [h]
    rfl
  · rw [h, modifiers_recordBind]

theorem modifiers_startSearch (q : Search.Query) : (c.startSearch n q w).2.1.modifiers = {} := by
  rw [startSearch]
  split
  · rfl
  · exact modifiers_post n c w _

end Spent

theorem Rounds.modifiers {n : Network ω} {m : Mechanism} {timeout : Option Nat}
    {controls : Option (List Control)} {answered : List Octets} {credentials : Option Octets}
    {c c' : Connection} {w w' : ω} {ending : Ending}
    (h : Rounds n m timeout controls answered credentials c w ending c' w') : c'.modifiers = {} :=
  h.keep (R := fun _ _ c' _ => c'.modifiers = {}) (fun _ h' => h')
    fun credentials c w => modifiers_requestBind n (c.withModifiers timeout controls) w
      (Request.saslBind m.name credentials) none

/-! ### The first request takes them -/

variable {n : Network ω}

inductive Queues (content : Content) (id : MessageId) (send : Modifiers → Outcome Ticket × Link)
    (l : Link) : Prop
  | refused (e : DirectoryError) (l' : Link) : (∀ m, send m = (.error e, l')) →
    Queues content id send l
  | queued (operation : Operation) (element : Modifiers → Ber.Element) :
    (∀ m, content.element m.searchOptions = .ok (element m)) →
    (∀ m, (send m).2.line.queue =
      l.line.queue ++ [{ id, operation, element := element m, controls := m.controls }]) →
    Queues content id send l

private theorem queues_sendSingle (id : MessageId) (request : Ber.Element) (l : Link) :
    Queues (.fixed request) id (fun m => l.sendSingle id request m.controls) l := by
  cases hline : l.line.isOpen with
  | true =>
    exact .queued (.single l.replies.length) (fun _ => request) (fun _ => rfl)
      fun m => Link.queue_send hline _
  | false =>
    exact .refused .connectionClosed
      { l with replies := l.replies ++ [({} : Reply Message)], line := l.line.release id }
      fun m => by simp [Link.sendSingle, Link.send, Line.send, hline]; rfl

private theorem queues_sendSearch (id : MessageId) {query : Search.Query}
    {element : Modifiers → Ber.Element}
    (helement : ∀ m, Search.request query (m.searchOptions.getD {}) = .ok (element m)) (l : Link) :
    Queues (.search query) id (fun m => l.sendSearch id (element m) m.controls) l := by
  cases hline : l.line.isOpen with
  | true =>
    exact .queued (.search l.streams.length) element helement
      fun m => Link.queue_send hline _
  | false =>
    exact .refused .connectionClosed
      { l with streams := l.streams ++ [({} : Stream)], line := l.line.release id }
      fun m => by simp [Link.sendSearch, Link.send, Line.send, hline]; rfl

private theorem Rounds.opens {d : Draft} {modifiers : Modifiers} {m : Mechanism} {timeout : Option Nat}
    {controls : Option (List Control)} {answered : List Octets} {credentials : Option Octets}
    {c c' : Connection} {w w' : Logged ω} {ending : Ending}
    (h : Rounds n.logging m timeout controls answered credentials c w ending c' w')
    (hd : d.Opens modifiers w ((c.withModifiers timeout controls).requestBind n.logging
      (Request.saslBind m.name credentials) none w).2.2) : d.Opens modifiers w w' := by
  cases h with
  | failed hreq | refused hreq | answered hreq =>
    rw [hreq] at hd
    exact hd
  | again hreq _ _ hrounds =>
    rw [hreq] at hd
    exact hd.trans (hrounds.within n.logging_within)

section Operations

variable (c : Connection) (w : Logged ω)

private theorem opening_post {content : Content}
    {send : Modifiers → MessageId → Option (List Control) → Link → Outcome Ticket × Link}
    (hsend : ∀ id l, Queues content id (fun m => send m id m.controls l) l) :
    Opening (fun m => (c.carrying m).post n.logging (send m) w) w := by
  rcases hnext : n.logging.withLink c.transport Link.nextId w with ⟨e | id, w₁⟩
  · refine .refused e c.clearModifiers w₁ fun m => ?_
    simp only [post, clearModifiers_carrying]
    rw [show (c.clearModifiers).transport = c.transport from rfl, hnext]
  · have hpost : ∀ m, (c.carrying m).post n.logging (send m) w =
        ((n.logging.withLink c.transport (send m id m.controls) w₁).1.map fun ticket =>
          { transport := c.transport, id, ticket, timeout := (c.carrying m).nextTimeout },
          { c.clearModifiers with lastId := id },
          (n.logging.withLink c.transport (send m id m.controls) w₁).2) := by
      intro m
      simp only [post, clearModifiers_carrying]
      rw [show (c.clearModifiers).transport = c.transport from rfl, hnext]
      rfl
    cases hsend id (n.link c.transport w₁.world) with
    | refused e l hrefused =>
      have hlink : ∀ m, n.logging.withLink c.transport (send m id m.controls) w₁ =
          n.logging.withLink c.transport (fun _ => (.error e, l)) w₁ := fun m =>
        Network.withLink_congr (hrefused m)
      exact .refused e _ _ fun m => by rw [hpost, hlink]; rfl
    | queued operation element helement hqueued =>
      refine .opens ⟨c.transport, id, operation, content⟩ fun m =>
        ⟨(c.transport, { id, operation, element := element m, controls := m.controls }),
          ⟨rfl, rfl, rfl, helement m, rfl⟩, ?_⟩
      rw [hpost, Network.sent_withLink (hqueued m), Network.sent_nextId hnext]
      exact List.prefix_rfl

private def finishExchange (n : Network ω) :
    Outcome Pending × Connection × ω → Outcome Message × Connection × ω
  | (.error e, c, w) => (.error e, c, w)
  | (.ok p, c, w) => ((n.await p w).1, c, (n.await p w).2)

private theorem opening_exchange (request : Ber.Element) :
    Opening (fun m => (c.carrying m).exchange n.logging request w) w := by
  have hexchange : ∀ m, (c.carrying m).exchange n.logging request w =
      finishExchange n.logging ((c.carrying m).submit n.logging request w) := by
    intro m
    rw [exchange]
    rcases (c.carrying m).submit n.logging request w with ⟨_ | p, c', w'⟩ <;> rfl
  have hpost := opening_post (n := n) c w fun id l => queues_sendSingle id request l
  simp only [hexchange]
  refine hpost.andThen (finishExchange n.logging) ?_ ?_
  · exact fun e c w => ⟨e, c, w, rfl⟩
  · rintro ⟨_ | p, c, w⟩
    · exact List.prefix_rfl
    · exact (n.logging_within.replyAccess p).wait p.id w

private def finishBind (name : Option String) (r : Outcome Message × Connection × ω) :
    Outcome (OperationResult × Option Octets) × Connection × ω :=
  match r.1 >>= bindResponse with
  | .ok (result, credentials) => (.ok (result, credentials), r.2.1.recordBind result name, r.2.2)
  | .error e => (.error e, r.2.1.clearIdentity, r.2.2)

private theorem world_finishBind (name : Option String) (r : Outcome Message × Connection × ω) :
    (finishBind name r).2.2 = r.2.2 := by
  rw [finishBind]
  cases r.1 >>= bindResponse <;> rfl

private theorem opening_requestBind (request : Ber.Element) (name : Option String) :
    Opening (fun m => (c.carrying m).requestBind n.logging request name w) w := by
  refine (opening_exchange c w request).andThen (finishBind name) ?_ ?_
  · exact fun e c w => ⟨e, c.clearIdentity, w, rfl⟩
  · intro r
    rw [world_finishBind]
    exact List.prefix_rfl

theorem opening_startSearch (q : Search.Query) :
    Opening (fun m => (c.carrying m).startSearch n.logging q w) w := by
  cases hfilter : Filter.parse? q.filter with
  | none =>
    refine .refused .filterParsing c.clearModifiers w fun m => ?_
    simp only [startSearch, Search.request, hfilter, clearModifiers_carrying]
  | some filter =>
    have hrequest : ∀ m : Modifiers, ∃ element,
        Search.request q (m.searchOptions.getD {}) = .ok element := by
      intro m
      rw [Search.request, hfilter]
      exact ⟨_, rfl⟩
    choose element helement using hrequest
    have hpost := opening_post (n := n) c w fun id l => queues_sendSearch id helement l
    have hstart : ∀ m, (c.carrying m).startSearch n.logging q w =
        (c.carrying m).post n.logging
          (fun id controls => Link.sendSearch id (element m) controls) w := by
      intro m
      rw [startSearch, show (c.carrying m).searchOptions = m.searchOptions from rfl, helement]
    simpa only [hstart] using hpost

private theorem conduct_simpleBind (name password : String) :
    Conduct (fun m => (c.carrying m).simpleBind n.logging name password w) w := by
  exact (opening_requestBind { c with boundWith := none } w (Request.simpleBind name password)
    (some name)).conduct (fun r => (r.1.map Prod.fst, r.2)) (fun _ => List.prefix_rfl)
    fun _ => modifiers_requestBind _ _ _ _ _

private theorem conduct_saslBind (mechanism : Mechanism) :
    Conduct (fun m => (c.carrying m).saslBind n.logging mechanism w) w := by
  cases hfirst : mechanism.initial with
  | error e =>
    refine .same fun m m' => ?_
    simp only [saslBind, hfirst]
    exact ⟨rfl, rfl, rfl⟩
  | ok first =>
    -- The first round is a request on the connection with all that waits for it.
    cases opening_requestBind (n := n) { c with boundWith := none } w
      (Request.saslBind mechanism.name first) none with
    | refused e c' w' hg =>
      have hfailed : ∀ m, (c.carrying m).saslBind n.logging mechanism w = (.error e, c', w') :=
        fun m => Rounds.saslBind_eq (c := c.carrying m) hfirst (.failed (hg m))
      exact .same fun m m' => .of_eq ((hfailed m).trans (hfailed m').symm)
    | opens d hd =>
      refine .asks d fun m => ?_
      have hbinds := saslBind_binds n.logging mechanism (c.carrying m) w
      generalize (c.carrying m).saslBind n.logging mechanism w = r at hbinds ⊢
      cases hbinds with
      | unbegun e herror => cases herror.symm.trans hfirst
      | ended first' ending c' w' hfirst' hrounds =>
        obtain rfl : first' = first := Except.ok.inj (hfirst'.symm.trans hfirst)
        exact ⟨hrounds.opens (hd m), .inr hrounds.modifiers⟩
      | endless first' x c' w' hfirst' _ hone =>
        obtain rfl : first' = first := Except.ok.inj (hfirst'.symm.trans hfirst)
        have hopens : d.Opens m w ({ c.carrying m with boundWith := none }.requestBind n.logging
          (Request.saslBind mechanism.name first') none w).2.2 := hd m
        have hspent := modifiers_requestBind n.logging { c.carrying m with boundWith := none } w
          (Request.saslBind mechanism.name first') none
        rw [hone] at hopens hspent
        exact ⟨hopens, .inr hspent⟩

private def rememberCredentials (x : Credentials) :
    Outcome OperationResult × Connection × Logged ω → Outcome OperationResult × Connection × Logged ω
  | (.ok r, c, w) => (.ok r, if r.isSuccess then { c with boundWith := some x } else c, w)
  | (.error e, c, w) => (.error e, c, w)

theorem conduct_bindCall (b : BindCall) :
    Conduct (fun m => b.run n.logging (c.carrying m) w) w := by
  cases b with
  | simple name password => exact conduct_simpleBind c w name password
  | mechanism m => exact conduct_saslBind c w m
  | credentials x =>
    have hopened : Conduct (fun m =>
        (BindCall.credentials x).opened.run n.logging (c.carrying m) w) w := by
      cases x with
      | anonymous => exact conduct_simpleBind c w "" ""
      | simple name password => exact conduct_simpleBind c w name password
      | sasl serial m => exact conduct_saslBind c w m
    have hbind : ∀ m, (BindCall.credentials x).run n.logging (c.carrying m) w =
        rememberCredentials x ((BindCall.credentials x).opened.run n.logging (c.carrying m) w) := by
      intro m
      rw [BindCall.run, bind_eq]
      rcases (BindCall.credentials x).opened.run n.logging (c.carrying m) w
        with ⟨_ | r, c', w'⟩ <;> rfl
    simp only [hbind]
    refine hopened.andThen (rememberCredentials x) ?_ ?_ ?_
    · rintro ⟨o, c, w⟩ ⟨o', c', w'⟩ ⟨rfl, hc, rfl⟩
      cases o with
      | error e => exact ⟨rfl, hc, rfl⟩
      | ok r =>
        refine ⟨rfl, ?_, rfl⟩
        simp only [rememberCredentials]
        cases r.isSuccess with
        | true => exact congrArg (fun c : Connection => { c with boundWith := some x }) hc
        | false => exact hc
    · rintro ⟨_ | r, c, w⟩ <;> rfl
    · rintro ⟨_ | r, c, w⟩
      · rfl
      · simp only [rememberCredentials]
        cases r.isSuccess <;> rfl

private def endSession (id : MessageId) (controls : Option (List Control)) (l : Link) :
    Outcome Unit × Link :=
  let r := l.send { id, operation := .unbind, element := Request.unbind, controls }
  (r.1, { r.2 with isUp := false })

private def unbindAs (n : Network ω) (c : Connection) :
    Outcome MessageId × ω → Outcome Unit × Connection × ω
  | (.error e, w) => (.error e, c.clearIdentity, w)
  | (.ok id, w) =>
    ((n.withLink c.transport (endSession id c.controls) w).1,
      { c.clearIdentity with controls := none },
      (n.withLink c.transport (endSession id c.controls) w).2)

private theorem unbind_of_connected {n : Network ω} {c : Connection} {w : ω}
    (hup : c.isConnected n w = true) :
    c.unbind n w = unbindAs n c (n.withLink c.transport Link.nextId w) := by
  have hup' : c.clearIdentity.isConnected n w = true := hup
  simp only [unbind, hup', ↓reduceIte]
  rw [show c.clearIdentity.transport = c.transport from rfl]
  rcases n.withLink c.transport Link.nextId w with ⟨_ | id, w'⟩ <;> rfl

/-- An unbind takes the controls, and the session ends. -/
theorem conduct_unbind : Conduct (fun m => (c.carrying m).unbind n.logging w) w := by
  cases hup : c.isConnected n.logging w with
  | false =>
    refine .same fun m m' => ?_
    have hdown : ∀ m, (c.carrying m).clearIdentity.isConnected n.logging w = false := fun _ => hup
    simp only [unbind, hdown]
    exact ⟨rfl, rfl, rfl⟩
  | true =>
    have hunbind : ∀ m, (c.carrying m).unbind n.logging w = unbindAs n.logging (c.carrying m)
        (n.logging.withLink c.transport Link.nextId w) := fun _ => unbind_of_connected hup
    rcases hnext : n.logging.withLink c.transport Link.nextId w with ⟨e | id, w₁⟩
    · refine .same fun m m' => ?_
      rw [hunbind, hunbind, hnext]
      exact ⟨rfl, rfl, rfl⟩
    · simp only [hunbind, hnext]
      cases hline : (n.link c.transport w₁.world).line.isOpen with
      | false =>
        refine .same fun m m' => ?_
        have hsame : n.logging.withLink c.transport (endSession id m.controls) w₁ =
            n.logging.withLink c.transport (endSession id m'.controls) w₁ :=
          Network.withLink_congr <| by
            simp only [Network.logging, endSession, Link.send, Line.send, hline, Bool.false_eq_true,
              ↓reduceIte]
        exact ⟨(congrArg Prod.fst hsame :), rfl, (congrArg Prod.snd hsame :)⟩
      | true =>
        refine .asks ⟨c.transport, id, .unbind, .fixed Request.unbind⟩ fun m => ⟨?_, .inl rfl⟩
        refine ⟨(c.transport,
          { id, operation := .unbind, element := Request.unbind, controls := m.controls }),
          ⟨rfl, rfl, rfl, rfl, rfl⟩, ?_⟩
        have hsent := Network.sent_withLink (n := n) (f := endSession id m.controls)
          (Link.queue_send hline _)
        rw [Network.sent_nextId hnext] at hsent
        exact ⟨[], (List.append_nil _).trans hsent.symm⟩

theorem conduct_close : Conduct (fun m => ((), (c.carrying m).close n.logging w)) w := by
  cases hup : c.isConnected n.logging w with
  | false =>
    refine .same fun m m' => ?_
    have hdown : ∀ m, (c.carrying m).isConnected n.logging w = false := fun _ => hup
    simp only [close, hdown]
    exact ⟨rfl, rfl, rfl⟩
  | true =>
    have hclose : ∀ m, (c.carrying m).close n.logging w = ((c.carrying m).unbind n.logging w).2 :=
      fun m => if_pos hup
    simp only [hclose]
    exact (conduct_unbind c w).map fun _ => ()

private def moveOn (n : Network ω) (r : Unit × Connection × ω) : Outcome Unit × Connection × ω :=
  match n.connect r.2.2 with
  | (.error e, w) => (.error e, r.2.1, w)
  | (.ok transport, w) => (.ok (), { r.2.1.clearIdentity with transport, lastId := 0 }, w)

theorem conduct_reconnect : Conduct (fun m => (c.carrying m).reconnect n.logging w) w := by
  have hreconnect : ∀ m, (c.carrying m).reconnect n.logging w =
      moveOn n.logging ((), (c.carrying m).close n.logging w) := fun m => rfl
  simp only [hreconnect]
  refine (conduct_close c w).andThen (moveOn n.logging) ?_ ?_ ?_
  · rintro ⟨_, c, w⟩ ⟨_, c', w'⟩ ⟨-, hc, rfl⟩
    simp only [moveOn]
    rcases n.logging.connect w with ⟨_ | t, w'⟩
    · exact ⟨rfl, hc, rfl⟩
    · have hmoved := congrArg
        (fun c : Connection => { c.clearIdentity with transport := t, lastId := 0 }) hc
      exact ⟨rfl, hmoved, rfl⟩
  · rintro ⟨_, c, w⟩
    simp only [moveOn, Network.logging]
    cases (n.connect w.world).1 <;> rfl
  · rintro ⟨_, c, w⟩
    simp only [moveOn]
    rcases n.logging.connect w with ⟨_ | t, w'⟩ <;> rfl

theorem conduct_submit (request : Ber.Element) :
    Conduct (fun m => (c.carrying m).submit n.logging request w) w :=
  (opening_post c w fun id l => queues_sendSingle id request l).conduct (fun r => r)
    (fun _ => List.prefix_rfl) fun _ => modifiers_post _ _ _ _

theorem conduct_exchange (request : Ber.Element) :
    Conduct (fun m => (c.carrying m).exchange n.logging request w) w :=
  (opening_exchange c w request).conduct (fun r => r) (fun _ => List.prefix_rfl)
    fun _ => modifiers_exchange _ _ _ _

theorem conduct_startSearch (q : Search.Query) :
    Conduct (fun m => (c.carrying m).startSearch n.logging q w) w :=
  (opening_startSearch c w q).conduct (fun r => r) (fun _ => List.prefix_rfl)
    fun _ => modifiers_startSearch _ _ _ _

theorem conduct_abandon (target : MessageId) :
    Conduct (fun m => (c.carrying m).abandon n.logging target w) w :=
  .same fun _ _ => ⟨rfl, rfl, rfl⟩

end Operations

end Connection

end DirectoryClient
