import DirectoryClient.Proofs.Connection.FailedBind
import DirectoryClient.Validator

/-! The credentials that a connection remembers: those of its last bind, if it succeeded with them. No
operation changes the number of a connection. -/
namespace DirectoryClient.Connection

variable {ω : Type}

def tag (c : Connection) : Nat × Option Credentials := (c.id, c.boundWith)

section Requests

variable (n : Network ω) (c : Connection) (w : ω)

theorem tag_post (send : MessageId → Option (List Control) → Link → Outcome Ticket × Link) :
    (c.post n send w).2.1.tag = c.tag := by
  rw [post]
  split <;> rfl

theorem tag_exchange (request : Ber.Element) : (c.exchange n request w).2.1.tag = c.tag := by
  rw [connection_exchange]
  exact tag_post n c w _

private theorem tag_recordBind (r : OperationResult) (name : Option String) :
    (c.recordBind r name).tag = c.tag := by
  rw [recordBind]
  split
  · rfl
  · split <;> rfl

private theorem tag_requestBind (request : Ber.Element) (name : Option String) :
    (c.requestBind n request name w).2.1.tag = c.tag := by
  rw [← tag_exchange n c w request]
  rcases connection_requestBind n c w request name with h | ⟨r, h⟩
  · rw [h]
    rfl
  · rw [h, tag_recordBind]

theorem tag_startSearch (q : Search.Query) : (c.startSearch n q w).2.1.tag = c.tag := by
  rw [startSearch]
  split
  · rfl
  · exact tag_post n c w _

theorem identity_startSearch (q : Search.Query) :
    (c.startSearch n q w).2.1.identity = c.identity := by
  rw [startSearch]
  split
  · rfl
  · exact identity_post n c w _

end Requests

section Calls

variable (n : Network ω) (c : Connection) (w : ω)

theorem tag_simpleBind (name password : String) :
    (c.simpleBind n name password w).2.1.tag = (c.id, none) :=
  tag_requestBind n { c with boundWith := none } w (Request.simpleBind name password) (some name)

theorem tag_saslBind (m : Mechanism) : (c.saslBind n m w).2.1.tag = (c.id, none) :=
  (saslBind_binds n m c w).keep (R := fun c _ c' _ => c'.tag = c.tag) (fun _ _ => rfl)
    (fun h h' => h'.trans h) (fun h => h)
    fun credentials c' w => tag_requestBind n (c'.withModifiers c.timeout c.controls) w
      (Request.saslBind m.name credentials) none

/-- A bind with credentials lays them by if it succeeds. -/
theorem bind_eq (x : Credentials) : c.bind n x w =
    match (BindCall.credentials x).opened.run n c w with
    | (.ok r, c, w) => (.ok r, if r.isSuccess then { c with boundWith := some x } else c, w)
    | (.error e, c, w) => (.error e, c, w) := by
  cases x with
  | anonymous =>
    rcases h : c.simpleBind n "" "" w with ⟨_ | r, c', w'⟩ <;>
      simp only [bind, BindCall.opened, BindCall.run, h]
  | simple name password =>
    rcases h : c.simpleBind n name password w with ⟨_ | r, c', w'⟩ <;>
      simp only [bind, BindCall.opened, BindCall.run, h]
  | sasl serial m =>
    rcases h : c.saslBind n m w with ⟨_ | r, c', w'⟩ <;>
      simp only [bind, BindCall.opened, BindCall.run, h]

private theorem tag_opened (x : Credentials) :
    ((BindCall.credentials x).opened.run n c w).2.1.tag = (c.id, none) := by
  cases x with
  | anonymous => exact tag_simpleBind n c w "" ""
  | simple name password => exact tag_simpleBind n c w name password
  | sasl serial m => exact tag_saslBind n c w m

/-- Who succeeds with a name and a password is known by the name. -/
private theorem identity_of_simpleBind {name password : String} {r : OperationResult} {c' : Connection}
    {w' : ω} (h : c.simpleBind n name password w = (.ok r, c', w')) (hr : r.code = 0) :
    c'.identity = (true, (some name).filter (!·.isEmpty)) := by
  have hi := identity_simpleBind n c w name password
  rw [h] at hi
  exact hi.trans (if_pos hr)

private theorem identity_of_saslBind {m : Mechanism} {r : OperationResult} {c' : Connection} {w' : ω}
    (h : c.saslBind n m w = (.ok r, c', w')) (hr : r.code = 0) : c'.identity = (true, none) := by
  have hbinds := saslBind_binds n m c w
  rw [h] at hbinds
  generalize houtcome : Except.ok r = o at hbinds
  cases hbinds with
  | unbegun | endless => cases houtcome
  | ended first ending _ _ _ hrounds =>
    cases ending with
    | failed e | refused e => cases houtcome
    | answered r' =>
      cases houtcome
      exact hrounds.identity.trans (if_pos hr)

private theorem identity_opened {x : Credentials} {r : OperationResult} {c' : Connection} {w' : ω}
    (h : (BindCall.credentials x).opened.run n c w = (.ok r, c', w')) (hr : r.code = 0) :
    c'.identity = (true, x.identity?) := by
  cases x with
  | anonymous => exact identity_of_simpleBind n c w h hr
  | simple name password =>
    refine (identity_of_simpleBind n c w h hr).trans ?_
    rw [Credentials.identity?]
    cases hempty : name.isEmpty <;> simp [Option.filter, hempty]
  | sasl serial m => exact identity_of_saslBind n c w h hr

structure IsBound (x : Credentials) (c : Connection) : Prop where
  identity : c.identity = (true, x.identity?)
  boundWith : c.boundWith = some x

theorem id_bind (x : Credentials) : (c.bind n x w).2.1.id = c.id := by
  have htag := congrArg Prod.fst (tag_opened n c w x)
  rw [bind_eq]
  rcases hopened : (BindCall.credentials x).opened.run n c w with ⟨_ | r, c', w'⟩
  · rw [hopened] at htag
    exact htag
  · rw [hopened] at htag
    simp only
    cases r.isSuccess <;> exact htag

/-- A bind with credentials that succeeds leaves the connection bound with them. -/
theorem isBound_of_bind {x : Credentials} {r : OperationResult} {c' : Connection} {w' : ω}
    (h : c.bind n x w = (.ok r, c', w')) (hr : r.isSuccess = true) : IsBound x c' := by
  have hcode : r.code = 0 := by simpa [OperationResult.isSuccess] using hr
  rw [bind_eq] at h
  rcases hopened : (BindCall.credentials x).opened.run n c w with ⟨e | r', c₁, w₁⟩
  · rw [hopened] at h
    cases h
  · rw [hopened] at h
    obtain ⟨hout, hrest⟩ := Prod.mk.inj h
    obtain rfl : r' = r := Except.ok.inj hout
    obtain ⟨rfl, -⟩ := Prod.mk.inj hrest
    have hidentity := identity_opened n c w hopened hcode
    rw [if_pos hr]
    exact ⟨hidentity, rfl⟩

/-- One that does not succeed leaves nothing remembered. -/
theorem boundWith_of_failed {x : Credentials}
    (hfail : ∀ r, (c.bind n x w).1 = .ok r → r.isSuccess = false) :
    (c.bind n x w).2.1.boundWith = none := by
  have htag := congrArg Prod.snd (tag_opened n c w x)
  rw [bind_eq] at hfail ⊢
  rcases hopened : (BindCall.credentials x).opened.run n c w with ⟨e | r, c', w'⟩
  · rw [hopened] at htag
    exact htag
  · rw [hopened] at htag hfail
    have hr : r.isSuccess = false := hfail r rfl
    simp only [hr]
    exact htag

/-- A bind whose mechanism has nothing to begin with leaves the identity as it was. -/
theorem identity_of_not_begins {x : Credentials} (hbegins : ¬(BindCall.credentials x).Begins) :
    (∃ e, (c.bind n x w).1 = .error e) ∧ (c.bind n x w).2.1.identity = c.identity := by
  obtain ⟨m, hbegins⟩ := Classical.not_forall.mp hbegins
  obtain ⟨hm, hnone⟩ := Classical.not_imp.mp hbegins
  cases x with
  | anonymous | simple => cases hm
  | sasl serial m' =>
    obtain rfl : m' = m := Option.some.inj hm
    cases hfirst : m'.initial with
    | ok first => exact absurd ⟨first, hfirst⟩ hnone
    | error e =>
      simp only [bind, saslBind, hfirst]
      exact ⟨⟨e, rfl⟩, rfl⟩

theorem id_close : (c.close n w).1.id = c.id := by
  rw [close, unbind]
  dsimp only
  split
  · split
    · split <;> rfl
    · rfl
  · rfl

theorem id_reconnect : (c.reconnect n w).2.1.id = c.id := by
  have hid := id_close n c w
  rw [reconnect]
  rcases hclose : c.close n w with ⟨c₁, w₁⟩
  rw [hclose] at hid
  simp only
  split <;> exact hid

/-- Nobody is bound on a new transport. -/
theorem hasBound_of_reconnect {c' : Connection} {w' : ω}
    (h : c.reconnect n w = (.ok (), c', w')) : c'.hasBound = false := by
  rw [reconnect] at h
  simp only at h
  split at h
  · cases h
  · obtain ⟨-, hrest⟩ := Prod.mk.inj h
    obtain ⟨rfl, -⟩ := Prod.mk.inj hrest
    rfl

end Calls

end DirectoryClient.Connection

namespace DirectoryClient.Validator

open Connection

variable {ω : Type} (n : Network ω) (v : Validator) (c : Connection) (w : ω)

/-- A check of a connection changes neither its number nor who it is bound as. -/
theorem check_keeps :
    (v.check n c w).2.1.tag = c.tag ∧ (v.check n c w).2.1.identity = c.identity := by
  unfold check
  split
  · cases v with
    | flag => exact ⟨rfl, rfl⟩
    | lookup timeout =>
      have htag := tag_startSearch n { c with timeout := timeout.or c.timeout } w query
      have hidentity := identity_startSearch n { c with timeout := timeout.or c.timeout } w query
      simp only [lookUp, startLookup]
      rcases hs : startSearch n query { c with timeout := timeout.or c.timeout } w with
        ⟨_ | p, c', w'⟩ <;> rw [hs] at htag hidentity <;> exact ⟨htag, hidentity⟩
  · exact ⟨rfl, rfl⟩

/-- Who passes a check is authenticated. -/
theorem isAuthenticated_of_check (h : (v.check n c w).1 = true) : c.isAuthenticated n w = true := by
  unfold check at h
  split at h
  · assumption
  · cases h

end DirectoryClient.Validator
