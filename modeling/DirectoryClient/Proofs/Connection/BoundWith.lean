import DirectoryClient.Proofs.Connection.Descent

/-! Which credentials a connection counts as bound with: those of its last bind, if that was made with
credentials and has succeeded, and if the session has not ended since. -/
namespace DirectoryClient

/-- Credentials that hold the same secrets stand for the same name. -/
private theorem Credentials.identity?_of_sameAs {x y : Credentials} (h : y.sameAs x = true) :
    y.identity? = x.identity? := by
  cases x <;> cases y <;> simp_all [sameAs, identity?]

namespace Connection

inductive Event where
  | bind (call : BindCall) (outcome : Outcome OperationResult)
  | unbind
  | reconnect
  | other

variable {ω : Type}

/-- What a deed counts as. To close a connection is to unbind it if it is connected. -/
def Deed.event (n : Network ω) (c : Connection) (w : ω) : Deed → Event
  | bind call => .bind call (call.run n c w).1
  | unbind => .unbind
  | close => if c.isConnected n w then .unbind else .other
  | reconnect => .reconnect
  | request _ | search _ | abandon _ | modify .. => .other

/-- What can become of a new connection, with what was called on it. Between the calls the world goes on:
servers answer, and drivers end. -/
inductive History (n : Network ω) : List Event → Connection → ω → Prop
  | opens (id : Nat) (transport : TransportId) (defaultTimeout : Option Nat)
    (detector : Search.BinaryDetector) (w : ω) :
    History n [] { id, transport, defaultTimeout, detector } w
  | deed {es : List Event} {c : Connection} {w : ω} (d : Deed) : History n es c w →
    History n (es ++ [d.event n c w]) (d.run n c w).1 (d.run n c w).2
  /-- A request whose response is awaited later, or never. -/
  | start {es : List Event} {c : Connection} {w : ω} (request : Ber.Element) : History n es c w →
    History n (es ++ [.other]) (c.submit n request w).2.1 (c.submit n request w).2.2
  | configure {es : List Event} {c : Connection} {w : ω} (defaultTimeout : Option Nat)
    (detector : Search.BinaryDetector) : History n es c w →
    History n (es ++ [.other]) { c with defaultTimeout, detector } w
  | meanwhile {es : List Event} {c : Connection} {w w' : ω} : History n es c w →
    n.NoneRevived w w' → History n es c w'

/-- The last bind was made with these credentials and has succeeded, and neither has the session been
ended since nor has a new one been begun. -/
def LastBound (x : Credentials) (es : List Event) : Prop :=
  ∃ earlier r later, es = earlier ++ .bind (.credentials x) (.ok r) :: later ∧ r.code = 0 ∧
    ∀ e ∈ later, e = .other

section Events

variable {x : Credentials} {es : List Event} {e : Event}

private theorem concat_cases {earlier later : List Event} {b : Event}
    (h : es ++ [e] = earlier ++ b :: later) :
    e = b ∨ ∃ later', later = later' ++ [e] ∧ es = earlier ++ b :: later' := by
  rcases List.eq_nil_or_concat later with rfl | ⟨later, e', rfl⟩
  · exact .inl (List.singleton_inj.mp (List.append_inj' h rfl).2)
  · rw [List.concat_eq_append, ← List.cons_append, ← List.append_assoc] at h
    obtain ⟨hes, he⟩ := List.append_inj' h rfl
    rw [List.singleton_inj.mp he]
    exact .inr ⟨later, List.concat_eq_append, hes⟩

private theorem lastBound_other : LastBound x (es ++ [.other]) ↔ LastBound x es := by
  constructor
  · rintro ⟨earlier, r, later, heq, hr, hlater⟩
    rcases concat_cases heq with he | ⟨later, rfl, rfl⟩
    · cases he
    · exact ⟨earlier, r, later, rfl, hr, fun e he => hlater e (List.mem_append_left _ he)⟩
  · rintro ⟨earlier, r, later, rfl, hr, hlater⟩
    refine ⟨earlier, r, later ++ [.other], by simp, hr, fun e he => ?_⟩
    rcases List.mem_append.mp he with he | he
    · exact hlater e he
    · exact List.mem_singleton.mp he

/-- An operation that matters leaves nothing of what was before it. -/
private theorem lastBound_concat (he : e ≠ .other) : LastBound x (es ++ [e]) ↔
    ∃ r, e = .bind (.credentials x) (.ok r) ∧ r.code = 0 := by
  constructor
  · rintro ⟨earlier, r, later, heq, hr, hlater⟩
    rcases concat_cases heq with he' | ⟨later, rfl, -⟩
    · exact ⟨r, he', hr⟩
    · exact absurd (hlater e (List.mem_append_right _ (List.mem_singleton_self e))) he
  · rintro ⟨r, rfl, hr⟩
    exact ⟨es, r, [], rfl, hr, by simp⟩

end Events

/-- The connection knows what was called on it: as long as it is authenticated, it remembers the
credentials of the last bind only, and who they stand for. -/
structure Knows (n : Network ω) (es : List Event) (c : Connection) (w : ω) : Prop where
  sound : c.isAuthenticated n w = true → ∀ x, c.boundWith = some x →
    LastBound x es ∧ c.boundAs = x.identity?
  complete : ∀ x, LastBound x es → c.hasBound = true ∧ c.boundWith = some x

namespace Knows

variable {n : Network ω} {es es' : List Event} {c c' : Connection} {w w' : ω}

private theorem keep (h : Knows n es c w) (hes : ∀ x, LastBound x es' ↔ LastBound x es)
    (htag : c'.tag = c.tag) (hidentity : c'.identity = c.identity)
    (htransport : c'.transport = c.transport) (hnone : n.NoneRevived w w') : Knows n es' c' w' := by
  have hwith : c'.boundWith = c.boundWith := congrArg Prod.snd htag
  obtain ⟨hhas, has⟩ := Prod.mk.inj hidentity
  constructor
  · intro hauth x hx
    rw [isAuthenticated, Bool.and_eq_true, hhas, isConnected, htransport] at hauth
    have hbefore : c.isAuthenticated n w = true := by
      rw [isAuthenticated, Bool.and_eq_true]
      exact ⟨hauth.1, hnone c.transport hauth.2⟩
    obtain ⟨hlast, hname⟩ := h.sound hbefore x (hwith ▸ hx)
    exact ⟨(hes x).mpr hlast, has.trans hname⟩
  · intro x hx
    obtain ⟨hbound, hremembered⟩ := h.complete x ((hes x).mp hx)
    exact ⟨hhas.trans hbound, hwith.trans hremembered⟩

private theorem ended (hes : ∀ x, ¬LastBound x es) (hc : c.isAuthenticated n w = false) :
    Knows n es c w where
  sound hauth := by rw [hc] at hauth; cases hauth
  complete x hx := absurd hx (hes x)

private theorem forgotten (hes : ∀ x, ¬LastBound x es) (hc : c.boundWith = none) : Knows n es c w where
  sound _ x hx := by rw [hc] at hx; cases hx
  complete x hx := absurd hx (hes x)

private theorem bound {x : Credentials} (hes : ∀ y, LastBound y es ↔ y = x) (hc : IsBound x c) :
    Knows n es c w where
  sound _ y hy := by
    rw [hc.boundWith] at hy
    cases hy
    exact ⟨(hes x).mpr rfl, (Prod.mk.inj hc.identity).2⟩
  complete y hy := by
    rw [(hes y).mp hy]
    exact ⟨(Prod.mk.inj hc.identity).1, hc.boundWith⟩

end Knows

section Operations

variable {n : Network ω} {es : List Event} {c : Connection} {w : ω}

/-- After a bind, only its own credentials are remembered, if it was made with any and has succeeded. -/
private theorem knows_bind (call : BindCall) : Knows n (es ++ [.bind call (call.run n c w).1])
    (call.run n c w).2.1 (call.run n c w).2.2 := by
  have hlast : ∀ x, LastBound x (es ++ [.bind call (call.run n c w).1]) ↔
      call = .credentials x ∧ ∃ r, (call.run n c w).1 = .ok r ∧ r.code = 0 := by
    intro x
    rw [lastBound_concat (by simp)]
    simp only [Event.bind.injEq]
    exact ⟨fun ⟨r, ⟨hcall, ho⟩, hr⟩ => ⟨hcall, r, ho, hr⟩,
      fun ⟨hcall, r, ho, hr⟩ => ⟨r, ⟨hcall, ho⟩, hr⟩⟩
  cases call with
  | simple name password =>
    refine .forgotten (fun x hx => ?_) (congrArg Prod.snd (tag_simpleBind n c w name password))
    cases ((hlast x).mp hx).1
  | mechanism m =>
    refine .forgotten (fun x hx => ?_) (congrArg Prod.snd (tag_saslBind n c w m))
    cases ((hlast x).mp hx).1
  | credentials x =>
    by_cases hok : ∃ r, (c.bind n x w).1 = .ok r ∧ r.code = 0
    · obtain ⟨r, ho, hr⟩ := hok
      have hbound : IsBound x (c.bind n x w).2.1 :=
        isBound_of_bind n c w (Prod.ext ho rfl) (beq_iff_eq.mpr hr)
      refine .bound (fun y => ?_) hbound
      rw [hlast]
      exact ⟨fun h => (BindCall.credentials.inj h.1).symm, fun h => ⟨by rw [h], r, ho, hr⟩⟩
    · refine .forgotten (fun y hy => hok ((hlast y).mp hy).2) ?_
      refine boundWith_of_failed n c w fun r ho => ?_
      rw [OperationResult.isSuccess, beq_eq_false_iff_ne]
      exact fun hr => hok ⟨r, ho, hr⟩

private theorem hasBound_unbind : (c.unbind n w).2.1.hasBound = false := by
  rw [unbind]
  dsimp only
  split
  · split <;> rfl
  · rfl

/-- Nobody is authenticated by moving to a new transport, nor if there is none to be had. -/
private theorem isAuthenticated_reconnect (hn : n.StaysDown) :
    (c.reconnect n w).2.1.isAuthenticated n (c.reconnect n w).2.2 = false := by
  rcases h : c.reconnect n w with ⟨e | u, c', w'⟩
  · by_cases hup : c.isConnected n w = true
    · -- The old session has been ended before.
      have hclosed : (c.close n w).1.hasBound = false := by
        rw [close, if_pos hup]
        exact hasBound_unbind
      have hc' : c' = (c.close n w).1 := by
        rw [reconnect] at h
        dsimp only at h
        split at h <;> cases h
        rfl
      rw [isAuthenticated, hc', hclosed, Bool.false_and]
    · have hdown : (n.link c.transport w').isConnected = false := by
        have hnone := within_reconnect hn.within c w c.transport
        rw [h] at hnone
        exact Bool.eq_false_iff.mpr (mt hnone hup)
      have hc' : c' = c := by
        simp only [reconnect, close, if_neg hup] at h
        split at h <;> cases h
        rfl
      rw [isAuthenticated, hc', isConnected, hdown, Bool.and_false]
  · rw [isAuthenticated, hasBound_of_reconnect n c w h, Bool.false_and]

private theorem transport_post (send : MessageId → Option (List Control) → Link → Outcome Ticket × Link) :
    (c.post n send w).2.1.transport = c.transport := by
  rw [post]
  split <;> rfl

private theorem Knows.deed (hn : n.StaysDown) (h : Knows n es c w) (d : Deed) :
    Knows n (es ++ [d.event n c w]) (d.run n c w).1 (d.run n c w).2 := by
  have hnone := d.within_run hn.within c w
  have hunbound : Knows n (es ++ [.unbind]) (c.unbind n w).2.1 (c.unbind n w).2.2 := by
    refine .ended (fun x hx => ?_) ?_
    · obtain ⟨r, hr, -⟩ := (lastBound_concat (by simp)).mp hx
      cases hr
    · rw [isAuthenticated, hasBound_unbind, Bool.false_and]
  cases d with
  | bind call => exact knows_bind call
  | unbind => exact hunbound
  | close =>
    by_cases hup : c.isConnected n w = true
    · simp only [Deed.event, Deed.run, close, if_pos hup]
      exact hunbound
    · simp only [Deed.event, Deed.run, close, if_neg hup]
      exact h.keep (fun _ => lastBound_other) rfl rfl rfl (.refl w)
  | reconnect =>
    refine .ended (fun x hx => ?_) (isAuthenticated_reconnect hn)
    obtain ⟨r, hr, -⟩ := (lastBound_concat (by simp [Deed.event])).mp hx
    cases hr
  | request element =>
    refine h.keep (fun _ => lastBound_other) (tag_exchange n c w element)
      (identity_exchange n c w element) ?_ hnone
    show (c.exchange n element w).2.1.transport = c.transport
    rw [connection_exchange]
    exact transport_post _
  | search query =>
    refine h.keep (fun _ => lastBound_other) (tag_startSearch n c w query)
      (identity_startSearch n c w query) ?_ hnone
    show (c.startSearch n query w).2.1.transport = c.transport
    rw [startSearch]
    split
    · rfl
    · exact transport_post _
  | abandon target => exact h.keep (fun _ => lastBound_other) rfl rfl rfl hnone
  | modify => exact h.keep (fun _ => lastBound_other) rfl rfl rfl hnone

private theorem History.knows (hn : n.StaysDown) (h : History n es c w) : Knows n es c w := by
  induction h with
  | opens =>
    refine .ended (fun x hx => ?_) rfl
    obtain ⟨earlier, r, later, heq, -⟩ := hx
    simp at heq
  | deed d _ ih => exact ih.deed hn d
  | @start es c w request _ ih =>
    exact ih.keep (fun _ => lastBound_other) (tag_post n c w _) (identity_post n c w _)
      (transport_post _) (within_post hn.within c w fun id controls l =>
        l.sinks_sendSingle id request controls)
  | configure _ _ _ ih => exact ih.keep (fun _ => lastBound_other) rfl rfl rfl (.refl _)
  | meanwhile _ hnone ih => exact ih.keep (fun _ => .rfl) rfl rfl rfl hnone

/-- Whatever is called on a connection and however it ends, it counts as bound with credentials exactly if
its transport is up and the last bind was made with the same ones and has succeeded, with no end of the
session since. It then has the name that they stand for. -/
theorem isBoundWith_iff (hn : n.StaysDown) (h : History n es c w) (x : Credentials) :
    (c.isBoundWith n w x = true ↔
      c.isConnected n w = true ∧ ∃ y, LastBound y es ∧ y.sameAs x = true) ∧
    (c.isBoundWith n w x = true → c.boundAs = x.identity?) := by
  have hknows := h.knows hn
  have hbound : c.isBoundWith n w x = true ↔
      c.isAuthenticated n w = true ∧ ∃ y, c.boundWith = some y ∧ y.sameAs x = true := by
    rw [isBoundWith, Bool.and_eq_true, Option.any_eq_true]
  refine ⟨⟨fun hx => ?_, fun ⟨hup, y, hlast, hsame⟩ => ?_⟩, fun hx => ?_⟩
  · obtain ⟨hauth, y, hy, hsame⟩ := hbound.mp hx
    have hup := hauth
    rw [isAuthenticated, Bool.and_eq_true] at hup
    exact ⟨hup.2, y, (hknows.sound hauth y hy).1, hsame⟩
  · obtain ⟨hhas, hy⟩ := hknows.complete y hlast
    refine hbound.mpr ⟨?_, y, hy, hsame⟩
    rw [isAuthenticated, hhas, hup, Bool.and_true]
  · obtain ⟨hauth, y, hy, hsame⟩ := hbound.mp hx
    exact (hknows.sound hauth y hy).2.trans (Credentials.identity?_of_sameAs hsame)

end Operations

section Examples

def administrator : Credentials := .simple "cn=admin" "secret"

/-- A connection on which an administrator has been bound, and modifiers have been set since. -/
def afterModifying : Connection × Answering :=
  (Deed.modify (some 5) none none).run answering
    (Deed.run answering (.bind (.credentials administrator)) { id := 1, transport := 0 }
      { codes := [0] }).1
    (Deed.run answering (.bind (.credentials administrator)) { id := 1, transport := 0 }
      { codes := [0] }).2

/-- The connection counts as bound with the credentials of the administrator. -/
theorem administrator_boundWith : ∃ es, answering.StaysDown ∧
    History answering es afterModifying.1 afterModifying.2 ∧
    afterModifying.1.isBoundWith answering afterModifying.2 administrator = true ∧
    afterModifying.1.boundAs = some "cn=admin" := by
  have h := History.opens (n := answering) 1 0 (some Settings.defaultTimeout) (.standard [])
    { codes := [0] }
  have h := h.deed (.bind (.credentials administrator))
  have h := h.deed (.modify (some 5) none none)
  obtain ⟨hiff, hname⟩ := isBoundWith_iff answering_staysDown h administrator
  have hbound := hiff.mpr ⟨rfl, administrator, ⟨[], { code := 0 }, [.other], rfl, rfl, by simp⟩,
    by simp [administrator, Credentials.sameAs]⟩
  exact ⟨_, answering_staysDown, h, hbound, hname hbound⟩

end Examples

end Connection

end DirectoryClient
