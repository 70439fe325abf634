import DirectoryClient.Proofs.Connection.Conversations
import DirectoryClient.Proofs.Factory.CheckedPassword
import DirectoryClient.Proofs.PasswordPolicy.RoundTrip
import DirectoryClient.Proofs.Pool.Returning

/-! What a password check comes to: the verdict of the server, as far as the control of the password
policy can be read, and the return of the connection on which it was made. -/
namespace DirectoryClient.Factory

open Connection (bindResponse unexpected)
open PasswordPolicy (Carries)
open Pool (Community GoesBack Run)

variable {ω : Type} (f : Factory ω)

def response (name password : String) (c : Connection) (w : ω) : Outcome Message :=
  (f.network.ask c.transport c.nextTimeout (some [PasswordPolicy.request])
    (Request.simpleBind name password) w).1

structure Judged (response : Outcome Message) (o : Outcome (Option PasswordPolicy.Warning)) :
    Prop where
  /-- A password that the server accepts is accepted, with the warning of the policy. -/
  accepted : ∀ m r credentials policy, response = .ok m → m.response = .bind r credentials →
    r.code = 0 → Carries r.controls policy → o = .ok (policy.bind (·.warning))
  /-- A password that it rejects is rejected, with the whole result and the rejection of the policy. -/
  rejected : ∀ m r credentials policy, response = .ok m → m.response = .bind r credentials →
    r.code ≠ 0 → Carries r.controls policy →
      o = .error (.passwordRejected r (policy.bind (·.rejection)))
  /-- Of a malformed policy no verdict is reported, whatever the code. -/
  malformed : ∀ m r credentials, response = .ok m → m.response = .bind r credentials →
    (∀ policy, ¬Carries r.controls policy) → o = .error (.decoding .passwordPolicy)
  /-- No other code but zero counts as acceptance. -/
  success : ∀ warning, o = .ok warning → ∃ m r credentials, response = .ok m ∧
    m.response = .bind r credentials ∧ r.code = 0
  /-- A failure to ask is passed on. -/
  failed : ∀ e, response = .error e → o = .error e
  unexpected : ∀ m, response = .ok m → (∀ r credentials, m.response ≠ .bind r credentials) →
    o = .error (unexpected "Bind" m)

section Verdict

variable {f} {name password : String} {c : Connection} {w : ω}

private theorem checkPassword_eq_judge : (f.checkPassword name password c w).1 =
    ((f.response name password c w >>= bindResponse).map Prod.fst >>= judge) := by
  have hask := (Connection.requestBind_eq_ask f.network
    { c with controls := some [PasswordPolicy.request], boundWith := none } w
    (Request.simpleBind name password) (some name)).1
  exact congrArg (fun o => o.map Prod.fst >>= judge) hask

/-- A result is judged by its code, if the control of the policy is absent or can be read. -/
private theorem judge_of_carries {r : OperationResult} {policy : Option PasswordPolicy.Response}
    (h : Carries r.controls policy) : judge r =
      if r.code = 0 then .ok (policy.bind (·.warning))
      else .error (.passwordRejected r (policy.bind (·.rejection))) := by
  rw [judge, PasswordPolicy.Response.ofControls_eq_ok_iff.mpr h]
  simp only [OperationResult.isSuccess, beq_iff_eq]
  cases policy <;> rfl

private theorem judge_of_malformed {r : OperationResult} (h : ∀ policy, ¬Carries r.controls policy) :
    judge r = .error (.decoding .passwordPolicy) := by
  rw [judge]
  cases hpolicy : PasswordPolicy.Response.ofControls r.controls with
  | ok policy => exact absurd (PasswordPolicy.Response.ofControls_eq_ok_iff.mp hpolicy) (h policy)
  | error e => rw [PasswordPolicy.Response.ofControls_eq_error hpolicy]

private theorem code_of_judge {r : OperationResult} {warning : Option PasswordPolicy.Warning}
    (h : judge r = .ok warning) : r.code = 0 := by
  by_contra hcode
  by_cases hpolicy : ∃ policy, Carries r.controls policy
  · obtain ⟨policy, hpolicy⟩ := hpolicy
    rw [judge_of_carries hpolicy, if_neg hcode] at h
    cases h
  · rw [judge_of_malformed (not_exists.mp hpolicy)] at h
    cases h

variable (f name password c w) in
private theorem judged_checkPassword :
    Judged (f.response name password c w) (f.checkPassword name password c w).1 := by
  rw [checkPassword_eq_judge]
  have hbind : ∀ m r credentials, m.response = .bind r credentials →
      ((Except.ok m >>= bindResponse).map Prod.fst >>= judge) = judge r := by
    intro m r credentials hm
    simp only [bindResponse, bind, Except.bind, hm]
    rfl
  have hother : ∀ m, (∀ r credentials, m.response ≠ .bind r credentials) →
      (Except.ok m >>= bindResponse) = .error (unexpected "Bind" m) := by
    intro m hm
    show bindResponse m = _
    rw [bindResponse]
    split
    · rename_i r credentials hresponse
      exact absurd hresponse (hm r credentials)
    · rfl
  refine ⟨?_, ?_, ?_, ?_, ?_, ?_⟩
  · intro m r credentials policy hresponse hm hcode hpolicy
    rw [hresponse, hbind m r credentials hm, judge_of_carries hpolicy, if_pos hcode]
  · intro m r credentials policy hresponse hm hcode hpolicy
    rw [hresponse, hbind m r credentials hm, judge_of_carries hpolicy, if_neg hcode]
  · intro m r credentials hresponse hm hmalformed
    rw [hresponse, hbind m r credentials hm, judge_of_malformed hmalformed]
  · intro warning hok
    cases hresponse : f.response name password c w with
    | error e =>
      rw [hresponse] at hok
      cases hok
    | ok m =>
      rw [hresponse] at hok
      by_cases hm : ∃ r credentials, m.response = .bind r credentials
      · obtain ⟨r, credentials, hm⟩ := hm
        rw [hbind m r credentials hm] at hok
        exact ⟨m, r, credentials, rfl, hm, code_of_judge hok⟩
      · simp only [not_exists] at hm
        rw [hother m hm] at hok
        cases hok
  · intro e hresponse
    rw [hresponse]
    rfl
  · intro m hresponse hm
    rw [hresponse, hother m hm]
    rfl

end Verdict

section Returned

variable {f} {name password : String} {lent checked : Connection} {w w₀ w' : ω}
  {o : Outcome (Option PasswordPolicy.Warning)} {as : List (Pool.Activity Connection)}
  {c : Community ω Connection} {rest : Multiset Connection}

/-- A password check on a lent connection reports what the server has decided, unless the policy is
malformed; and whatever it reports, the connection goes back to its pool. -/
theorem checkPassword_settled (v : Validator) (restores : Bool) (settings : Settings.Pool)
    (hcheck : f.checkPassword name password lent w = (o, checked, w'))
    (hrun : Run { manager := f.manager v restores, settings } w₀ as c)
    (hwrapped : c.wrapped = checked ::ₘ rest) :
    Judged (f.response name password lent w) o ∧ checked.id = lent.id ∧
      GoesBack { manager := f.manager v restores, settings } checked { c with wrapped := rest } := by
  refine ⟨?_, id_checkPassword hcheck, ?_⟩
  · have hjudged := judged_checkPassword f name password lent w
    rwa [hcheck] at hjudged
  · exact Pool.goesBack_of_release (f.manager_keepsIds v restores)
      (hrun.turn (.release c checked rest hwrapped))

end Returned

section Examples

structure Deciding where
  link : Link := {}
  results : List OperationResult

def Deciding.settle (a : Deciding) : Deciding :=
  match a.link.transmit?, a.results with
  | some (s, link), r :: results =>
    { link := (link.dispatch { id := s.id, response := .bind r none, controls := r.controls }).2
      results }
  | _, _ => a

def deciding : Factory Deciding where
  network :=
    { clock _ := 0
      connect a := (.ok 0, a)
      link _ a := a.link
      setLink _ link a := { a with link }
      settle := Deciding.settle
      pass _ a := a }
  settings := { bindName := some "cn=svc", bindPassword := some "secret" }
  takeNumber a := (1, a)

def decided (r : OperationResult) : Deciding := { results := [r, { code := 0 }] }

/-- The account is locked, as the control of the policy says. -/
def lockedOut : OperationResult where
  code := 49
  controls := [{ oid := PasswordPolicy.oid
                 value := some ({ rejection := some .accountLocked } : PasswordPolicy.Response).encode }]

/-- The same code, with a control that has an empty value. -/
private def garbled : OperationResult where
  code := 49
  controls := [{ oid := PasswordPolicy.oid, value := some [] }]

private theorem response_deciding (r : OperationResult) :
    deciding.response "uid=user" "pw" bound (decided r) =
      .ok { id := 1, response := .bind r none, controls := r.controls } := rfl

/-- A rejection is not always reported as one. -/
theorem verdict_not_always_reported : ¬∀ (f : Factory Deciding) (name password : String)
    (c : Connection) (w : Deciding) (m : Message) (r : OperationResult) (credentials : Option Octets),
      f.response name password c w = .ok m → m.response = .bind r credentials → r.code ≠ 0 →
      ∃ rejection, (f.checkPassword name password c w).1 = .error (.passwordRejected r rejection) := by
  intro h
  have hmalformed : ∀ policy, ¬Carries garbled.controls policy := by
    intro policy hpolicy
    have hread := PasswordPolicy.Response.ofControls_eq_ok_iff.mpr hpolicy
    cases hread
  have hjudged := judged_checkPassword deciding "uid=user" "pw" bound (decided garbled)
  obtain ⟨rejection, hrejected⟩ := h deciding "uid=user" "pw" bound (decided garbled) _ garbled
    none (response_deciding garbled) rfl (by decide)
  rw [hjudged.malformed _ garbled none (response_deciding garbled) rfl hmalformed] at hrejected
  cases hrejected

/-- The first connection of a pool has been lent, and a password has been checked on it. -/
private theorem exists_run_checked {r : OperationResult} {checked : Connection} {w' : Deciding}
    {o : Outcome (Option PasswordPolicy.Warning)}
    (hcheck : deciding.checkPassword "uid=user" "pw" bound (decided r) = (o, checked, w')) :
    ∃ as c, Run { manager := deciding.manager .flag false, settings := {} }
        { results := [{ code := 0 }] } as c ∧ c.wrapped = checked ::ₘ 0 := by
  obtain ⟨w₁, hmake, hactivate⟩ : ∃ w₁,
      (deciding.manager .flag false).make { results := [{ code := 0 }] } = (.ok bound, w₁) ∧
      (deciding.manager .flag false).activate bound w₁ = (.ok (), bound, w₁) := ⟨_, rfl, rfl⟩
  obtain ⟨as, hrun⟩ := Pool.exists_run_lent _ hmake hactivate
  have hid : ({checked} : Multiset Connection).map (deciding.manager .flag false).id =
      ({bound} : Multiset Connection).map (deciding.manager .flag false).id :=
    congrArg (fun i => ({i} : Multiset Nat)) (id_checkPassword hcheck)
  exact ⟨as, _, hrun.turn (.use _ {checked} 0 0 w' hid rfl rfl), rfl⟩

/-- The holder of a locked account is told so, and the connection goes back. -/
theorem lockedOut_settled : ∃ as c checked w',
    deciding.checkPassword "uid=user" "pw" bound (decided lockedOut) =
      (.error (.passwordRejected lockedOut (some .accountLocked)), checked, w') ∧
    Run { manager := deciding.manager .flag false, settings := {} }
      { results := [{ code := 0 }] } as c ∧
    c.wrapped = checked ::ₘ 0 ∧ checked.id = 1 ∧
    GoesBack { manager := deciding.manager .flag false, settings := {} } checked
      { c with wrapped := 0 } := by
  have hcarries : Carries lockedOut.controls (some { rejection := some .accountLocked }) := by
    have hread := PasswordPolicy.Response.parse?_encode_append { rejection := some .accountLocked } []
    rw [List.append_nil] at hread
    have hnone : ∀ c ∈ ([] : List Control), c.oid ≠ PasswordPolicy.oid := List.forall_mem_nil _
    exact .present hnone (Malformed.require_eq_ok.mpr hread)
  rcases hcheck : deciding.checkPassword "uid=user" "pw" bound (decided lockedOut) with
    ⟨o, checked, w'⟩
  obtain ⟨as, c, hrun, hwrapped⟩ := exists_run_checked hcheck
  obtain ⟨hjudged, hid, hback⟩ := checkPassword_settled .flag false {} hcheck hrun hwrapped
  have hrejected := hjudged.rejected _ lockedOut none _ (response_deciding lockedOut) rfl (by decide)
    hcarries
  rw [hrejected]
  exact ⟨as, c, checked, w', rfl, hrun, hwrapped, hid, hback⟩

end Examples

end DirectoryClient.Factory
