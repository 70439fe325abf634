import DirectoryClient.Proofs.Connection.Rounds

/-! Who a connection counts as bound after a bind that has failed: nobody, unless the server had just
asked for another round; then nothing has changed. -/
namespace DirectoryClient.Connection

variable {ω : Type}

def identity (c : Connection) : Bool × Option String := (c.hasBound, c.boundAs)

/-- The identity of a connection that is bound as nobody. -/
def nobody : Bool × Option String := (false, none)

def identityAfter (r : OperationResult) (name : Option String) (before : Bool × Option String) :
    Bool × Option String :=
  if r.code = 0 then (true, name.filter (!·.isEmpty))
  else if r.code = OperationResult.bindInProgress then before else nobody

private theorem identity_recordBind (r : OperationResult) (name : Option String) (c : Connection) :
    (c.recordBind r name).identity = identityAfter r name c.identity := by
  simp only [recordBind, identityAfter, OperationResult.isSuccess, beq_iff_eq]
  split
  · rfl
  · split <;> rfl

section Requests

variable (n : Network ω) (c : Connection) (w : ω)

theorem identity_post (send : MessageId → Option (List Control) → Link → Outcome Ticket × Link) :
    (c.post n send w).2.1.identity = c.identity := by
  rw [post]
  split <;> rfl

/-- Waiting for the response changes nothing about the connection. -/
theorem connection_exchange (request : Ber.Element) :
    (c.exchange n request w).2.1 = (c.submit n request w).2.1 := by
  rw [exchange]
  rcases c.submit n request w with ⟨_ | p, c', w'⟩ <;> rfl

theorem connection_requestBind (request : Ber.Element) (name : Option String) :
    (c.requestBind n request name w).2.1 = (c.exchange n request w).2.1.clearIdentity ∨
      ∃ r, (c.requestBind n request name w).2.1 = (c.exchange n request w).2.1.recordBind r name := by
  rw [requestBind]
  rcases c.exchange n request w with ⟨o, c', w'⟩
  dsimp only
  cases o >>= bindResponse with
  | error e => exact .inl rfl
  | ok x => exact .inr ⟨x.1, rfl⟩

theorem identity_exchange (request : Ber.Element) :
    (c.exchange n request w).2.1.identity = c.identity := by
  rw [connection_exchange]
  exact identity_post n c w _

/-- A failed request leaves nobody bound; a result that comes back is noted. -/
private theorem identity_requestBind (request : Ber.Element) (name : Option String) :
    (c.requestBind n request name w).2.1.identity =
      match (c.requestBind n request name w).1 with
      | .error _ => nobody
      | .ok (r, _) => identityAfter r name c.identity := by
  rw [← identity_exchange n c w request, requestBind]
  rcases c.exchange n request w with ⟨o, c', w'⟩
  cases h : o >>= bindResponse with
  | error e =>
    simp only [h]
    rfl
  | ok x =>
    simp only [h]
    exact identity_recordBind x.1 name c'

variable {n c w} {request : Ber.Element} {name : Option String} {c' : Connection} {w' : ω}

private theorem identity_of_error {e : DirectoryError}
    (h : c.requestBind n request name w = (.error e, c', w')) : c'.identity = nobody := by
  simpa [h] using identity_requestBind n c w request name

private theorem identity_of_ok {r : OperationResult} {challenge : Option Octets}
    (h : c.requestBind n request name w = (.ok (r, challenge), c', w')) :
    c'.identity = identityAfter r name c.identity := by
  simpa [h] using identity_requestBind n c w request name

end Requests

private theorem identityAfter_bindInProgress {r : OperationResult}
    (h : r.code = OperationResult.bindInProgress)
    (name : Option String) (before : Bool × Option String) :
    identityAfter r name before = before := by
  rw [identityAfter, if_neg (by rw [h]; decide), if_pos h]

private theorem identityAfter_failure {r : OperationResult} (h : r.code ≠ 0)
    (hp : r.code ≠ OperationResult.bindInProgress) (name : Option String)
    (before : Bool × Option String) : identityAfter r name before = nobody := by
  rw [identityAfter, if_neg h, if_neg hp]

def Ending.identityAfter (before : Bool × Option String) : Ending → Bool × Option String
  | failed _ => nobody
  | refused _ => before
  | answered r => Connection.identityAfter r none before

/-- Each round that is followed by another leaves the identity as it was, and so does the refusal of a
challenge. -/
theorem Rounds.identity {n : Network ω} {m : Mechanism} {timeout : Option Nat}
    {controls : Option (List Control)} {answered : List Octets} {credentials : Option Octets}
    {c c' : Connection} {w w' : ω} {ending : Ending}
    (h : Rounds n m timeout controls answered credentials c w ending c' w') :
    c'.identity = ending.identityAfter c.identity := by
  induction h with
  | failed hreq => exact identity_of_error hreq
  | refused hreq hcode =>
    have hsame := identity_of_ok hreq
    rw [identityAfter_bindInProgress hcode] at hsame
    exact hsame
  | answered hreq =>
    have hresult := identity_of_ok hreq
    exact hresult
  | again hreq hcode _ _ ih =>
    have hsame := identity_of_ok hreq
    rw [identityAfter_bindInProgress hcode] at hsame
    rw [ih, hsame]
    rfl

inductive BindCall where
  | simple (name password : String)
  | mechanism (m : Mechanism)
  | credentials (credentials : Credentials)

namespace BindCall

def run (n : Network ω) : BindCall → Connection → ω → Outcome OperationResult × Connection × ω
  | simple name password, c, w => c.simpleBind n name password w
  | mechanism m, c, w => c.saslBind n m w
  | credentials x, c, w => c.bind n x w

def opened : BindCall → BindCall
  | credentials .anonymous => simple "" ""
  | credentials (.simple name password) => simple name password
  | credentials (.sasl _ m) => mechanism m
  | b => b

def mechanism? (b : BindCall) : Option Mechanism :=
  match b.opened with
  | mechanism m => some m
  | _ => none

/-- The call makes a request: its mechanism, if it has one, has something to begin with. -/
def Begins (b : BindCall) : Prop := ∀ m, b.mechanism? = some m → ∃ first, m.initial = .ok first

/-- The server has asked for another round, and the call ends nevertheless: a simple bind has no other
round, and a mechanism may refuse the challenge. -/
def EndsInProgress (n : Network ω) (b : BindCall) (c : Connection) (w : ω) : Prop :=
  match b.mechanism? with
  | none => ∃ r, (b.run n c w).1 = .ok r ∧ r.code = OperationResult.bindInProgress
  | some m => ∃ first e c' w', m.initial = .ok first ∧
      Rounds n m c.timeout c.controls [] first
        { c with boundWith := none, timeout := none, controls := none } w (.refused e) c' w'

end BindCall

section Calls

variable (n : Network ω) (c : Connection) (w : ω)

private def remember (x : Credentials) (y : Outcome OperationResult × Connection × ω) :
    Outcome OperationResult × Connection × ω :=
  match y.1 with
  | .ok r => (.ok r, if r.isSuccess then { y.2.1 with boundWith := some x } else y.2.1, y.2.2)
  | .error e => (.error e, y.2.1, y.2.2)

private theorem remember_same (x : Credentials) (y : Outcome OperationResult × Connection × ω) :
    (remember x y).1 = y.1 ∧ (remember x y).2.1.identity = y.2.1.identity := by
  rcases y with ⟨e | r, c, w⟩
  · exact ⟨rfl, rfl⟩
  · by_cases h : r.isSuccess = true <;> simp [remember, h, identity]

private theorem run_opened (b : BindCall) : (b.run n c w).1 = (b.opened.run n c w).1 ∧
    (b.run n c w).2.1.identity = (b.opened.run n c w).2.1.identity := by
  cases b with
  | simple | mechanism => exact ⟨rfl, rfl⟩
  | credentials x =>
    cases x with
    | anonymous => exact remember_same .anonymous (c.simpleBind n "" "" w)
    | simple name password =>
      exact remember_same (.simple name password) (c.simpleBind n name password w)
    | sasl serial m => exact remember_same (.sasl serial m) (c.saslBind n m w)

theorem identity_simpleBind (name password : String) :
    (c.simpleBind n name password w).2.1.identity =
      match (c.simpleBind n name password w).1 with
      | .error _ => nobody
      | .ok r => identityAfter r (some name) c.identity := by
  rw [simpleBind]
  rcases h : requestBind n (Request.simpleBind name password) (some name)
    { c with boundWith := none } w with ⟨_ | ⟨r, challenge⟩, c', w'⟩
  · exact identity_of_error h
  · have hi := identity_of_ok h
    exact hi

/-- A simple bind that fails leaves the identity alone exactly if the server asked for another round. -/
private theorem simpleBind_failed (name password : String)
    (hfail : ∀ r, (c.simpleBind n name password w).1 = .ok r → r.code ≠ 0) :
    ((∃ r, (c.simpleBind n name password w).1 = .ok r ∧ r.code = OperationResult.bindInProgress) →
      (c.simpleBind n name password w).2.1.identity = c.identity) ∧
    ((¬∃ r, (c.simpleBind n name password w).1 = .ok r ∧ r.code = OperationResult.bindInProgress) →
      (c.simpleBind n name password w).2.1.identity = nobody) := by
  have hi := identity_simpleBind n c w name password
  refine ⟨fun ⟨r, ho, hcode⟩ => ?_, fun hends => ?_⟩
  · rw [ho] at hi
    exact hi.trans (identityAfter_bindInProgress hcode _ _)
  · cases ho : (c.simpleBind n name password w).1 with
    | error e =>
      rw [ho] at hi
      exact hi
    | ok r =>
      rw [ho] at hi
      exact hi.trans (identityAfter_failure (hfail r ho) (fun hcode => hends ⟨r, ho, hcode⟩) _ _)

/-- A bind by a mechanism that fails leaves the identity alone exactly if the mechanism refused. -/
private theorem saslBind_failed {m : Mechanism} {first : Option Octets}
    (hfirst : m.initial = .ok first) (hfail : ∀ r, (c.saslBind n m w).1 = .ok r → r.code ≠ 0) :
    ((∃ e c' w', Rounds n m c.timeout c.controls [] first
        { c with boundWith := none, timeout := none, controls := none } w (.refused e) c' w') →
      (c.saslBind n m w).2.1.identity = c.identity) ∧
    ((¬∃ e c' w', Rounds n m c.timeout c.controls [] first
        { c with boundWith := none, timeout := none, controls := none } w (.refused e) c' w') →
      (c.saslBind n m w).2.1.identity = nobody) := by
  have hbinds := saslBind_binds n m c w
  generalize c.saslBind n m w = result at hbinds hfail ⊢
  cases hbinds with
  | unbegun e herror => cases herror.symm.trans hfirst
  | ended first' ending c' w' hfirst' hrounds =>
    obtain rfl : first' = first := Except.ok.inj (hfirst'.symm.trans hfirst)
    have hi := hrounds.identity
    cases ending with
    | failed e =>
      refine ⟨fun ⟨e', c'', w'', hrefused⟩ => ?_, fun _ => hi⟩
      cases hrounds.ending_unique hrefused
    | refused e => exact ⟨fun _ => hi, fun hnone => (hnone ⟨e, c', w', hrounds⟩).elim⟩
    | answered r =>
      refine ⟨fun ⟨e', c'', w'', hrefused⟩ => ?_, fun _ => ?_⟩
      · cases hrounds.ending_unique hrefused
      · have hcode : r.code ≠ 0 := hfail r rfl
        exact hi.trans (identityAfter_failure hcode hrounds.code_ne_bindInProgress _ _)
  | endless first' x c' w' hfirst' hnone =>
    obtain rfl : first' = first := Except.ok.inj (hfirst'.symm.trans hfirst)
    refine ⟨fun ⟨e, c'', w'', hrounds⟩ => ?_, fun _ => rfl⟩
    cases hnone.symm.trans hrounds.saslRounds_eq

/-- What is left of the identity by a call that makes a request and does not succeed. -/
theorem identity_failed (b : BindCall) (hbegins : b.Begins)
    (hfail : ∀ r, (b.run n c w).1 = .ok r → r.code ≠ 0) :
    (b.EndsInProgress n c w → (b.run n c w).2.1.identity = c.identity) ∧
      (¬b.EndsInProgress n c w → (b.run n c w).2.1.identity = nobody) := by
  obtain ⟨hout, hid⟩ := run_opened n c w b
  rw [hout] at hfail
  rw [hid]
  cases hb : b.opened with
  | simple name password =>
    rw [hb] at hfail hout
    have hends : b.EndsInProgress n c w ↔ ∃ r, (c.simpleBind n name password w).1 = .ok r ∧
        r.code = OperationResult.bindInProgress := by
      simp only [BindCall.EndsInProgress, BindCall.mechanism?, hb, hout]
      rfl
    rw [hends]
    exact simpleBind_failed n c w name password hfail
  | mechanism m =>
    rw [hb] at hfail
    have hm : b.mechanism? = some m := by rw [BindCall.mechanism?, hb]
    obtain ⟨first, hfirst⟩ := hbegins m hm
    have hends : b.EndsInProgress n c w ↔ ∃ e c' w', Rounds n m c.timeout c.controls [] first
        { c with boundWith := none, timeout := none, controls := none } w (.refused e) c' w' := by
      simp only [BindCall.EndsInProgress, hm, hfirst, Except.ok.injEq]
      exact ⟨fun ⟨_, e, c', w', rfl, h⟩ => ⟨e, c', w', h⟩,
        fun ⟨e, c', w', h⟩ => ⟨first, e, c', w', rfl, h⟩⟩
    rw [hends]
    exact saslBind_failed n c w hfirst hfail
  | credentials x =>
    cases b with
    | simple | mechanism => cases hb
    | credentials y => cases y <;> cases hb

/-- A call that makes a request to bind and does not succeed leaves the connection unauthenticated and
without a name, except where it ends although the server has asked for another round: then the
connection counts as bound as it did before. -/
theorem failed_bind (b : BindCall) (hbegins : b.Begins)
    (hfail : ∀ r, (b.run n c w).1 = .ok r → r.code ≠ 0) :
    (b.EndsInProgress n c w →
      (b.run n c w).2.1.hasBound = c.hasBound ∧ (b.run n c w).2.1.boundAs = c.boundAs) ∧
    (((b.run n c w).2.1.isAuthenticated n (b.run n c w).2.2 = false ∧
        (b.run n c w).2.1.boundAs = none) ↔
      ¬b.EndsInProgress n c w ∨
        (c.hasBound = false ∨ (b.run n c w).2.1.isConnected n (b.run n c w).2.2 = false) ∧
          c.boundAs = none) := by
  obtain ⟨hsame, hnobody⟩ := identity_failed n c w b hbegins hfail
  refine ⟨fun hends => Prod.mk.inj (hsame hends), ?_⟩
  by_cases hends : b.EndsInProgress n c w
  · obtain ⟨hb, hn⟩ := Prod.mk.inj (hsame hends)
    simp only [isAuthenticated, hb, hn, hends, not_true_eq_false, false_or, Bool.and_eq_false_iff]
  · obtain ⟨hb, hn⟩ := Prod.mk.inj (hnobody hends)
    simp [isAuthenticated, hb, hn, hends]

end Calls

structure Answering where
  link : Link := {}
  codes : List UInt32

def Answering.settle (a : Answering) : Answering :=
  match a.link.transmit?, a.codes with
  | some (s, link), code :: codes =>
    { link := (link.dispatch { id := s.id, response := .bind { code } none, controls := [] }).2
      codes }
  | _, _ => a

def answering : Network Answering where
  clock _ := 0
  connect a := (.error .connectionClosed, a)
  link _ a := a.link
  setLink _ link a := { a with link }
  settle := Answering.settle
  pass _ a := a

/-- A connection that has been bound as an administrator, before a server that answers the next request
by a code. -/
def asAdministrator (code : UInt32) : Connection × Answering :=
  (simpleBind answering "cn=admin" "secret" { id := 1, transport := 0 } { codes := [0, code] }).2

def guestBind (code : UInt32) : Outcome OperationResult × Connection × Answering :=
  (BindCall.simple "cn=guest" "guess").run answering (asAdministrator code).1 (asAdministrator code).2

section Guest

variable {code : UInt32} (h : code = 14 ∨ code = 49)

include h

private theorem guest_outcome : (guestBind code).1 = .ok { code } := by
  rcases h with rfl | rfl <;> rfl

private theorem guest_failed : ∀ r, (guestBind code).1 = .ok r → r.code ≠ 0 := by
  intro r hr
  rw [guest_outcome h] at hr
  cases hr
  rcases h with rfl | rfl <;> decide

private theorem guest_ends_iff : (BindCall.simple "cn=guest" "guess").EndsInProgress answering
    (asAdministrator code).1 (asAdministrator code).2 ↔ code = OperationResult.bindInProgress := by
  constructor
  · rintro ⟨r, hr, hcode⟩
    cases (guest_outcome h).symm.trans hr
    exact hcode
  · exact fun hcode => ⟨{ code }, guest_outcome h, hcode⟩

end Guest

private theorem guest_begins : (BindCall.simple "cn=guest" "guess").Begins := by
  intro m hm
  cases hm

/-- A bind that does not succeed can leave a connection bound. -/
theorem failed_bind_not_always_nobody :
    ¬∀ (b : BindCall) (c : Connection) (w : Answering), b.Begins →
      (∀ r, (b.run answering c w).1 = .ok r → r.code ≠ 0) →
      (b.run answering c w).2.1.isAuthenticated answering (b.run answering c w).2.2 = false ∧
        (b.run answering c w).2.1.boundAs = none := by
  intro h
  have hguest := h (.simple "cn=guest" "guess") (asAdministrator 14).1 (asAdministrator 14).2
    guest_begins (guest_failed (.inl rfl))
  have hadmin : (guestBind 14).2.1.boundAs = some "cn=admin" := rfl
  rw [← guestBind, hadmin] at hguest
  cases hguest.2

/-- The guest's bind leaves nobody bound if it is refused; if it ends in progress, the administrator
stays bound. -/
theorem failed_bind_of_guest :
    ((guestBind 49).2.1.isAuthenticated answering (guestBind 49).2.2 = false ∧
      (guestBind 49).2.1.boundAs = none) ∧
    (BindCall.simple "cn=guest" "guess").EndsInProgress answering (asAdministrator 14).1
        (asAdministrator 14).2 ∧
      (guestBind 14).2.1.boundAs = some "cn=admin" := by
  have hrefused : ¬(BindCall.simple "cn=guest" "guess").EndsInProgress answering
      (asAdministrator 49).1 (asAdministrator 49).2 := by
    rw [guest_ends_iff (.inr rfl)]
    decide
  have hends : (BindCall.simple "cn=guest" "guess").EndsInProgress answering
      (asAdministrator 14).1 (asAdministrator 14).2 := (guest_ends_iff (.inl rfl)).mpr rfl
  have hnobody := (failed_bind answering (asAdministrator 49).1 (asAdministrator 49).2
    (.simple "cn=guest" "guess") guest_begins (guest_failed (.inr rfl))).2.mpr (.inl hrefused)
  have hsame := (failed_bind answering (asAdministrator 14).1 (asAdministrator 14).2
    (.simple "cn=guest" "guess") guest_begins (guest_failed (.inl rfl))).1 hends
  exact ⟨hnobody, hends, hsame.2⟩

end DirectoryClient.Connection
