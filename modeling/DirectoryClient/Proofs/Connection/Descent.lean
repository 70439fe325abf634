import DirectoryClient.Proofs.Connection.Driven
import DirectoryClient.Proofs.Connection.Remembered
import DirectoryClient.Proofs.Link.Descent

/-! What is done on connections keeps to any relation between worlds that their transports keep to. One of
them is that a transport that is down does not come up again: who wants to go on has to move to a new
one. -/
namespace DirectoryClient

structure Slot.Access.Within {σ ω : Type} (a : Slot.Access σ ω) (R : ω → ω → Prop) : Prop where
  refl : ∀ w, R w w
  trans : ∀ {w w' w''}, R w w' → R w' w'' → R w w''
  put : ∀ s w, R w (a.put s w)
  abandon : ∀ w, R w (a.abandon w)
  settle : ∀ w, R w (a.settle w)
  pass : ∀ w, R w (a.pass w)

namespace Slot.Access.Within

variable {σ α ω : Type} [Slot σ α] {a : Slot.Access σ ω} {R : ω → ω → Prop}

private theorem look (h : a.Within R) (id : MessageId) (late : Bool) (w : ω) :
    R w (a.look id late w).2 := by
  cases late <;> simp only [Slot.Access.look, ↓reduceIte, Bool.false_eq_true]
  all_goals
    split
    · exact h.trans (h.put _ w) (h.abandon _)
    · exact h.put _ w

private theorem await (h : a.Within R) {id : MessageId} {w : ω} {x : Outcome α × ω}
    (hx : a.await? id w = some x) : R w x.2 := by
  refine await?.partial_correctness a id (fun w x => R w x.2) (fun await ih w x hx => ?_) w x hx
  have hlooked := h.trans (h.pass w) (h.look id a.isBounded (a.pass w))
  rcases hlook : a.look id a.isBounded (a.pass w) with ⟨_ | o, w'⟩ <;> rw [hlook] at hlooked hx
  · exact h.trans hlooked (ih w' x hx)
  · cases hx
    exact hlooked

theorem wait (h : a.Within R) (id : MessageId) (w : ω) : R w (a.wait id w).2 := by
  have hsettled := h.trans (h.settle w) (h.look id false (a.settle w))
  rw [Slot.Access.wait, wait?]
  rcases hlook : a.look id false (a.settle w) with ⟨_ | o, w'⟩ <;> rw [hlook] at hsettled
  · simp only
    rcases hx : a.await? id w' with _ | x
    · exact h.refl w
    · exact h.trans hsettled (h.await hx)
  · exact hsettled

end Slot.Access.Within

namespace StreamAccess

variable {ω κ α : Type} {a : StreamAccess ω} {R : ω → ω → Prop}

private theorem within_commit (h : a.Within R) (m : Move κ α) (w : ω) : R w (a.commit m w) := by
  rw [commit]
  split
  · exact h.trans (h.put _ w) (h.abandon _)
  · exact h.put _ w

private theorem within_glance (h : a.Within R) (move : Bool → κ → Stream → Move κ α) (late : Bool)
    (reader : κ) (w : ω) : R w (a.glance move late reader w).2.2 :=
  within_commit h (move late reader (a.get w)) w

private theorem within_await (h : a.Within R) {move : Bool → κ → Stream → Move κ α} {reader : κ} {w : ω}
    {x : α × κ × ω} (hx : a.await? move reader w = some x) : R w x.2.2 := by
  refine await?.partial_correctness a move (fun _ w x => R w x.2.2) (fun await ih reader w x hx => ?_)
    reader w x hx
  have hlooked := h.trans (h.pass w) (within_glance h move a.isBounded reader (a.pass w))
  rcases hglance : a.glance move a.isBounded reader (a.pass w) with ⟨_ | r, reader', w'⟩ <;>
    rw [hglance] at hlooked hx
  · exact h.trans hlooked (ih reader' w' x hx)
  · cases hx
    exact hlooked

private theorem within_perform (h : a.Within R) {move : Bool → κ → Stream → Move κ α}
    {reader : κ} {w : ω} {x : α × κ × ω} (hx : a.perform? move reader w = some x) : R w x.2.2 := by
  have hlooked := h.trans (h.settle w) (within_glance h move false reader (a.settle w))
  rw [perform?] at hx
  rcases hglance : a.glance move false reader (a.settle w) with ⟨_ | r, reader', w'⟩ <;>
    rw [hglance] at hlooked hx
  · exact h.trans hlooked (within_await h hx)
  · cases hx
    exact hlooked

private theorem within_drain (h : a.Within R) {c : Cursor} {w : ω} {x : Bool × Cursor × ω}
    (hx : a.drain? c w = some x) : R w x.2.2 := by
  refine drain?.partial_correctness a (fun _ w x => R w x.2.2) (fun drain ih c w x hx => ?_) c w x hx
  split at hx
  · cases hx
  · rename_i c' w' hmove
    have hmoved : R w w' := within_perform h hmove
    exact h.trans hmoved (ih c' w' x hx)
  · rename_i c' w' hmove
    have hmoved : R w w' := within_perform h hmove
    obtain rfl := Option.some.inj hx
    exact hmoved
  · rename_i e c' w' hmove
    have hmoved : R w w' := within_perform h hmove
    obtain rfl := Option.some.inj hx
    exact hmoved

end StreamAccess

namespace Network

variable {ω : Type} (n : Network ω)

def NoneRevived (w w' : ω) : Prop :=
  ∀ t, (n.link t w').isConnected = true → (n.link t w).isConnected = true

/-- A transport that is down stays down, unless its end is replaced by one that is not. A transport that
has not been opened does not count as down. -/
structure StaysDown : Prop where
  set : ∀ {t l w}, (l.isConnected = true → (n.link t w).isConnected = true) →
    n.NoneRevived w (n.setLink t l w)
  settle : ∀ w, n.NoneRevived w (n.settle w)
  pass : ∀ span w, n.NoneRevived w (n.pass span w)
  connect : ∀ w, n.NoneRevived w (n.connect w).2

structure Within (R : ω → ω → Prop) : Prop where
  refl : ∀ w, R w w
  trans : ∀ {w w' w''}, R w w' → R w' w'' → R w w''
  set : ∀ {t l w}, (n.link t w).Sinks l → R w (n.setLink t l w)
  settle : ∀ w, R w (n.settle w)
  pass : ∀ span w, R w (n.pass span w)
  connect : ∀ w, R w (n.connect w).2

variable {n} {w w' w'' : ω} {t : TransportId}

theorem NoneRevived.refl (w : ω) : n.NoneRevived w w := fun _ h => h

theorem NoneRevived.trans (h : n.NoneRevived w w') (h' : n.NoneRevived w' w'') :
    n.NoneRevived w w'' := fun t => h t ∘ h' t

theorem StaysDown.within (h : n.StaysDown) : n.Within n.NoneRevived where
  refl := .refl
  trans := .trans
  set hl := h.set hl.isConnected
  settle := h.settle
  pass := h.pass
  connect := h.connect

namespace Within

variable {R : ω → ω → Prop} (h : n.Within R)
include h

private theorem withLink {α : Type} {f : Link → α × Link} (hf : ∀ l : Link, l.Sinks (f l).2)
    (t : TransportId) (w : ω) : R w (n.withLink t f w).2 := h.set (hf _)

theorem replyAccess (p : Pending) : (n.replyAccess p).Within R where
  refl := h.refl
  trans := h.trans
  put _ _ := h.set (.of_eq rfl rfl)
  abandon w := h.withLink (fun l => l.sinks_abandon p.id) p.transport w
  settle := h.settle
  pass := h.pass _

theorem streamAccess (p : Pending) : (n.streamAccess p).Within R where
  refl := h.refl
  trans := h.trans
  put _ _ := h.set (.of_eq rfl rfl)
  abandon w := h.withLink (fun l => l.sinks_abandon p.id) p.transport w
  settle := h.settle
  pass := h.pass _

end Within

end Network

namespace Connection

variable {ω : Type} {n : Network ω} {R : ω → ω → Prop} (hn : n.Within R) (c : Connection) (w : ω)
include hn

theorem within_post {send : MessageId → Option (List Control) → Link → Outcome Ticket × Link}
    (hsend : ∀ id controls l, Link.Sinks l (send id controls l).2) : R w (c.post n send w).2.2 := by
  have hid := hn.withLink Link.sinks_nextId c.transport w
  simp only [post, clearModifiers]
  split
  · rename_i hnext
    rw [hnext] at hid
    exact hid
  · rename_i id w' hnext
    rw [hnext] at hid
    exact hn.trans hid (hn.withLink (hsend id c.controls) c.transport w')

private theorem within_exchange (request : Ber.Element) : R w (c.exchange n request w).2.2 := by
  have hpost := within_post hn c w (fun id controls l => l.sinks_sendSingle id request controls)
  rw [exchange, submit]
  split
  · rename_i h
    rw [h] at hpost
    exact hpost
  · rename_i p _ w' h
    rw [h] at hpost
    exact hn.trans hpost ((hn.replyAccess p).wait p.id w')

private theorem within_startSearch (q : Search.Query) : R w (c.startSearch n q w).2.2 := by
  rw [startSearch]
  split
  · exact hn.refl w
  · exact within_post hn c w fun id controls l => l.sinks_sendSearch id _ controls

private theorem within_abandon (target : MessageId) : R w (c.abandon n target w).2.2 :=
  hn.withLink (fun l => l.sinks_abandon target) c.transport w

private theorem within_requestBind (request : Ber.Element) (name : Option String) :
    R w (c.requestBind n request name w).2.2 := by
  have hexchange := within_exchange hn c w request
  rw [requestBind]
  rcases hx : c.exchange n request w with ⟨o, c', w'⟩
  rw [hx] at hexchange
  cases h : o >>= bindResponse <;> simp only [h] <;> exact hexchange

theorem Rounds.within {m : Mechanism} {timeout : Option Nat} {controls : Option (List Control)}
    {answered : List Octets} {credentials : Option Octets} {c c' : Connection} {w w' : ω}
    {ending : Ending} (h : Rounds n m timeout controls answered credentials c w ending c' w') :
    R w w' :=
  h.keep (R := fun _ w _ w' => R w w') hn.trans
    fun credentials c w => within_requestBind hn (c.withModifiers timeout controls) w
      (Request.saslBind m.name credentials) none

private theorem within_saslBind (m : Mechanism) : R w (c.saslBind n m w).2.2 :=
  (saslBind_binds n m c w).keep (R := fun _ w _ w' => R w w') (fun _ => hn.refl) hn.trans (fun h => h)
    fun credentials c' w => within_requestBind hn (c'.withModifiers c.timeout c.controls) w
      (Request.saslBind m.name credentials) none

theorem within_bindCall (b : BindCall) : R w (b.run n c w).2.2 := by
  have hsimple : ∀ name password, R w (c.simpleBind n name password w).2.2 :=
    fun name password => within_requestBind hn { c with boundWith := none } w _ _
  cases b with
  | simple name password => exact hsimple name password
  | mechanism m => exact within_saslBind hn c w m
  | credentials x =>
    have hopened : R w ((BindCall.credentials x).opened.run n c w).2.2 := by
      cases x with
      | anonymous => exact hsimple "" ""
      | simple name password => exact hsimple name password
      | sasl serial m => exact within_saslBind hn c w m
    rw [BindCall.run, bind_eq]
    rcases h : (BindCall.credentials x).opened.run n c w with ⟨_ | r, c', w'⟩ <;>
      rw [h] at hopened <;> exact hopened

private theorem within_unbind : R w (c.unbind n w).2.2 := by
  have hid := hn.withLink Link.sinks_nextId c.transport w
  simp only [unbind]
  split
  · split
    · rename_i hnext
      rw [show c.clearIdentity.transport = c.transport from rfl] at hnext
      rw [hnext] at hid
      exact hid
    · rename_i id w' hnext
      rw [show c.clearIdentity.transport = c.transport from rfl] at hnext
      rw [hnext] at hid
      have hsends := (n.link c.transport w').sinks_send
        { id, operation := .unbind, element := Request.unbind, controls := c.controls }
      exact hn.trans hid (hn.set ⟨fun h => (by cases h), hsends.isOpen⟩)
  · exact hn.refl w

theorem within_close : R w (c.close n w).2 := by
  rw [close]
  split
  · exact within_unbind hn c w
  · exact hn.refl w

theorem within_reconnect : R w (c.reconnect n w).2.2 := by
  have hclose := within_close hn c w
  rw [reconnect]
  rcases hx : c.close n w with ⟨c', w'⟩
  rw [hx] at hclose
  have hconnect := hn.connect w'
  rcases h : n.connect w' with ⟨_ | t, w''⟩ <;> rw [h] at hconnect <;> simp only [h] <;>
    exact hn.trans hclose hconnect

end Connection

namespace Validator

variable {ω : Type} {n : Network ω} {R : ω → ω → Prop}

theorem within_succeeds {a : StreamAccess ω} (h : a.Within R) (cursor : Cursor) (w : ω) :
    R w ((succeeds? a cursor w).getD (false, w)).2 := by
  rw [succeeds?]
  cases hx : a.drain? cursor w with
  | none => exact h.refl w
  | some x => exact h.trans (StreamAccess.within_drain h hx) (StreamAccess.within_commit h _ _)

/-- So does a check of a connection. -/
theorem within_check (hn : n.Within R) (v : Validator) (c : Connection) (w : ω) :
    R w (v.check n c w).2.2 := by
  unfold check
  split
  · cases v with
    | flag => exact hn.refl w
    | lookup timeout =>
      have hstart := Connection.within_startSearch hn
        { c with timeout := timeout.or c.timeout } w query
      simp only [lookUp, startLookup]
      rcases h : Connection.startSearch n query { c with timeout := timeout.or c.timeout } w with
        ⟨_ | p, c', w'⟩
      · rw [h] at hstart
        exact hstart
      · rw [h] at hstart
        exact hn.trans hstart (within_succeeds (hn.streamAccess p) _ w')
  · exact hn.refl w

end Validator

namespace Connection

inductive Deed where
  | bind (call : BindCall)
  | unbind
  | close
  | reconnect
  /-- Any request that has one response. -/
  | request (element : Ber.Element)
  | search (query : Search.Query)
  | abandon (target : MessageId)
  /-- Modifiers for the next operation. -/
  | modify (timeout : Option Nat) (controls : Option (List Control))
    (searchOptions : Option Search.Options)

namespace Deed

variable {ω : Type} (n : Network ω)

def run : Deed → Connection → ω → Connection × ω
  | bind call, c, w => (call.run n c w).2
  | unbind, c, w => (c.unbind n w).2
  | close, c, w => c.close n w
  | reconnect, c, w => (c.reconnect n w).2
  | request element, c, w => (c.exchange n element w).2
  | search query, c, w => (c.startSearch n query w).2
  | abandon target, c, w => (c.abandon n target w).2
  | modify timeout controls searchOptions, c, w => ({ c with timeout, controls, searchOptions }, w)

theorem id_run (d : Deed) (c : Connection) (w : ω) : (d.run n c w).1.id = c.id := by
  cases d with
  | bind call =>
    cases call with
    | simple name password => exact congrArg Prod.fst (tag_simpleBind n c w name password)
    | mechanism m => exact congrArg Prod.fst (tag_saslBind n c w m)
    | credentials x => exact id_bind n c w x
  | unbind =>
    simp only [run, Connection.unbind]
    split
    · split <;> rfl
    · rfl
  | close => exact id_close n c w
  | reconnect => exact id_reconnect n c w
  | request element => exact congrArg Prod.fst (tag_exchange n c w element)
  | search query => exact congrArg Prod.fst (tag_startSearch n c w query)
  | abandon | modify => rfl

variable {n}

/-- So does whatever the holder of a connection does. -/
theorem within_run (hn : n.Within R) (d : Deed) (c : Connection) (w : ω) :
    R w (d.run n c w).2 := by
  cases d with
  | bind call => exact within_bindCall hn c w call
  | unbind => exact within_unbind hn c w
  | close => exact within_close hn c w
  | reconnect => exact within_reconnect hn c w
  | request element => exact within_exchange hn c w element
  | search query => exact within_startSearch hn c w query
  | abandon target => exact within_abandon hn c w target
  | modify => exact hn.refl w

end Deed

end Connection

/-- The transport of a server that answers requests to bind stays down. -/
theorem Connection.answering_staysDown : Connection.answering.StaysDown where
  set hl _ := hl
  settle a t := by
    show a.settle.link.isConnected = true → a.link.isConnected = true
    rw [Answering.settle]
    split
    · rename_i hnext _
      exact ((a.link.sinks_transmit hnext).trans (Link.sinks_dispatch _ _)).isConnected
    · exact fun hup => hup
  pass _ _ := .refl _
  connect _ := .refl _

namespace Scenario.Site

private theorem noneRevived_settle (s : Site) : network.NoneRevived s s.settle :=
  fun t => (drives_settlePeers 0 t s.peers s.rules).sinks.isConnected

/-- The transports of a site stay down. -/
theorem network_staysDown : network.StaysDown where
  set {t l s} hl u hup := by
    by_cases hu : u = t
    · subst hu
      by_cases hthere : u < s.peers.length
      · rw [network_lawful.link_set hthere] at hup
        exact hl hup
      · simpa [network, List.getElem?_eq_none (Nat.le_of_not_lt hthere)] using hup
    · rwa [network_lawful.link_set_of_ne hu] at hup
  settle := noneRevived_settle
  pass span s := noneRevived_settle { s with now := max s.now (s.now + span) }
  connect s := by
    intro t hup
    rcases h : network.connect s with ⟨o, s'⟩
    rw [h] at hup
    by_cases ht : t < s.peers.length
    · rwa [(network_lawful.connect_keeps h ht).2] at hup
    · simp [network, List.getElem?_eq_none (Nat.le_of_not_lt ht)]
      rfl

end Scenario.Site

end DirectoryClient
