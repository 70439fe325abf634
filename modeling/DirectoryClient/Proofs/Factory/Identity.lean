import DirectoryClient.Factory.Pooling
import DirectoryClient.Proofs.Connection.Remembered
import DirectoryClient.Proofs.Pool.Standing

/-! Who the connections of a factory are bound as while a pool keeps them and lends them again: the
credentials of the factory, or an identity that has been left on them. -/
namespace DirectoryClient

/-- Between two moments, the transport of a connection may have gone, but it has not come back. -/
def Connection.NotRevived {ω : Type} (n : Network ω) (w w' : ω) (c : Connection) : Prop :=
  c.isConnected n w' = true → c.isConnected n w = true

namespace Factory

open Connection (BindCall IsBound NotRevived nobody)

variable {ω : Type} (f : Factory ω)

/-- A bind with the credentials of the factory makes no request here, or ends although the server has
asked for another round. -/
def Stalls (c : Connection) (w : ω) : Prop :=
  (BindCall.credentials f.credentials).Begins →
    (BindCall.credentials f.credentials).EndsInProgress f.network c w

section Binding

variable {f} {c c' : Connection} {w w' : ω}

theorem isBound_of_authenticate (h : f.authenticate c w = (.ok (), c', w')) :
    IsBound f.credentials c' := by
  rw [authenticate] at h
  rcases hbind : c.bind f.network f.credentials w with ⟨e | r, c₁, w₁⟩
  · simp only [hbind] at h
    cases h
  · simp only [hbind] at h
    obtain ⟨hout, hrest⟩ := Prod.mk.inj h
    obtain ⟨rfl, -⟩ := Prod.mk.inj hrest
    by_cases hr : r.isSuccess = true
    · exact Connection.isBound_of_bind _ _ _ hbind hr
    · rw [if_neg hr] at hout
      cases hout

/-- A bind with the credentials of the factory that fails leaves nothing remembered, and nobody bound
unless it stalls. -/
theorem identity_of_authenticate {e : DirectoryError} (h : f.authenticate c w = (.error e, c', w')) :
    c'.boundWith = none ∧ (f.Stalls c w → c'.identity = c.identity) ∧
      (¬f.Stalls c w → c'.identity = nobody) := by
  have hconnection : (c.bind f.network f.credentials w).2.1 = c' := by
    rw [authenticate] at h
    rcases hbind : c.bind f.network f.credentials w with ⟨e' | r, c₁, w₁⟩ <;>
      simp only [hbind, Prod.mk.injEq] at h <;> exact h.2.1
  have hfail : ∀ r, (c.bind f.network f.credentials w).1 = .ok r → r.isSuccess = false := by
    intro r hr
    refine Bool.eq_false_iff.mpr fun hsuccess => ?_
    rcases hbind : c.bind f.network f.credentials w with ⟨e' | r', c₁, w₁⟩
    · rw [hbind] at hr
      cases hr
    · rw [hbind] at hr
      obtain rfl : r' = r := Except.ok.inj hr
      simp [authenticate, hbind, hsuccess] at h
  have hcode : ∀ r, ((BindCall.credentials f.credentials).run f.network c w).1 = .ok r →
      r.code ≠ 0 := by
    intro r hr
    simpa [OperationResult.isSuccess] using hfail r hr
  rw [← hconnection]
  refine ⟨Connection.boundWith_of_failed _ _ _ hfail, fun hstalls => ?_, fun hstalls => ?_⟩
  · by_cases hbegins : (BindCall.credentials f.credentials).Begins
    · exact (Connection.identity_failed _ _ _ _ hbegins hcode).1 (hstalls hbegins)
    · exact (Connection.identity_of_not_begins _ _ _ hbegins).2
  · obtain ⟨hbegins, hends⟩ := Classical.not_imp.mp hstalls
    exact (Connection.identity_failed _ _ _ _ hbegins hcode).2 hends

variable (f c w) in
private theorem id_authenticate : (f.authenticate c w).2.1.id = c.id := by
  have hid := Connection.id_bind f.network c w f.credentials
  rw [authenticate]
  rcases hbind : c.bind f.network f.credentials w with ⟨e | r, c₁, w₁⟩ <;>
    rw [hbind] at hid <;> exact hid

/-- A connection whose identity is restored is left alone, or bound again. -/
theorem restoreIdentity_cases {o : Outcome Unit} (h : f.restoreIdentity c w = (o, c', w')) :
    (c' = c ∧ w' = w ∧
      (c.isConnected f.network w = false ∨ c.isBoundWith f.network w f.credentials = true)) ∨
      f.authenticate c w = (o, c', w') := by
  rw [restoreIdentity] at h
  split at h
  · rename_i hcond
    obtain ⟨-, hrest⟩ := Prod.mk.inj h
    obtain ⟨rfl, rfl⟩ := Prod.mk.inj hrest
    exact .inl ⟨rfl, rfl, by simpa using hcond⟩
  · exact .inr h

variable (f c w) in
theorem id_restoreIdentity : (f.restoreIdentity c w).2.1.id = c.id := by
  rw [restoreIdentity]
  split
  · rfl
  · exact id_authenticate f c w

theorem reactivate_of_connected (hup : c.isConnected f.network w = true) :
    f.reactivate c w =
      if c.isAuthenticated f.network w then (.ok (), c, w) else f.authenticate c w := by
  simp only [reactivate, hup, ↓reduceIte]

theorem reactivate_of_refused (hup : c.isConnected f.network w = false) {e : DirectoryError}
    (hmove : c.reconnect f.network w = (.error e, c', w')) :
    f.reactivate c w = (.error e, c', w') := by
  simp only [reactivate, hup, hmove, Bool.false_eq_true, ↓reduceIte]

theorem reactivate_of_moved (hup : c.isConnected f.network w = false)
    (hmove : c.reconnect f.network w = (.ok (), c', w')) :
    f.reactivate c w = f.authenticate c' w' := by
  have hnobody : c'.isAuthenticated f.network w' = false := by
    rw [Connection.isAuthenticated, Connection.hasBound_of_reconnect _ _ _ hmove, Bool.false_and]
  simp only [reactivate, hup, hmove, hnobody, Bool.false_eq_true, ↓reduceIte]

/-- A connection that is reactivated stays as it is, or is bound again. -/
theorem reactivate_cases (h : f.reactivate c w = (.ok (), c', w')) :
    c.isAuthenticated f.network w = true ∧ c' = c ∨ IsBound f.credentials c' := by
  by_cases hup : c.isConnected f.network w = true
  · rw [reactivate_of_connected hup] at h
    split at h
    · rename_i hauthenticated
      obtain ⟨-, hrest⟩ := Prod.mk.inj h
      exact .inl ⟨hauthenticated, (Prod.mk.inj hrest).1.symm⟩
    · exact .inr (isBound_of_authenticate h)
  · have hdown := Bool.eq_false_iff.mpr hup
    rcases hmove : c.reconnect f.network w with ⟨_ | u, c₁, w₁⟩
    · rw [reactivate_of_refused hdown hmove] at h
      cases h
    · rw [reactivate_of_moved hdown hmove] at h
      exact .inr (isBound_of_authenticate h)

variable (f c w) in
theorem id_reactivate : (f.reactivate c w).2.1.id = c.id := by
  by_cases hup : c.isConnected f.network w = true
  · rw [reactivate_of_connected hup]
    split
    · rfl
    · exact id_authenticate f c w
  · have hdown := Bool.eq_false_iff.mpr hup
    have hid := Connection.id_reconnect f.network c w
    rcases hmove : c.reconnect f.network w with ⟨_ | u, c₁, w₁⟩
    · rw [hmove] at hid
      rw [reactivate_of_refused hdown hmove]
      exact hid
    · rw [hmove] at hid
      rw [reactivate_of_moved hdown hmove]
      exact (id_authenticate f c₁ w₁).trans hid

theorem isBound_of_newConnection (h : f.newConnection w = (.ok c, w')) :
    IsBound f.credentials c := by
  rw [newConnection] at h
  rcases hnew : f.newUnbound w with ⟨_ | c₀, w₀⟩
  · simp only [hnew] at h
    cases h
  · simp only [hnew, bindConnection] at h
    split at h
    · rename_i hauthenticate
      cases h
      exact isBound_of_authenticate hauthenticate
    · cases h

end Binding

section Pooling

variable (v : Validator) (restores : Bool)

theorem manager_keepsIds : (f.manager v restores).KeepsIds where
  activate c w := id_reactivate f c w
  validate c w := congrArg Prod.fst (v.check_keeps f.network c w).1
  passivate c w := by
    cases restores with
    | true => exact id_restoreIdentity f c w
    | false => rfl

/-- The connection is bound with the credentials of the factory, or has been left with an identity of
this kind. -/
def IsLent (left : Bool × Option String → Prop) (c : Connection) : Prop :=
  IsBound f.credentials c ∨ c.boundWith = none ∧ left c.identity

/-- A connection that comes back authenticated is fit to be lent, or remembers nothing and is bound
again before it is kept. -/
def standing (left : Bool × Option String → Prop) : Pool.Standing ω Connection where
  arrives w c := (c.isAuthenticated f.network w = true → f.IsLent left c) ∨
    restores = true ∧ c.boundWith = none
  stays w c := c.isAuthenticated f.network w = true → f.IsLent left c
  leaves := f.IsLent left

theorem standing_endures (left : Bool × Option String → Prop) :
    (f.standing restores left).Endures (NotRevived f.network) := by
  intro w w' c hdown
  have hauth : c.isAuthenticated f.network w' = true → c.isAuthenticated f.network w = true := by
    simp only [Connection.isAuthenticated, Bool.and_eq_true]
    exact fun h => ⟨h.1, hdown h.2⟩
  exact ⟨fun h => h.imp_left fun h hw' => h (hauth hw'), fun h hw' => h (hauth hw')⟩

private theorem IsLent.check {left : Bool × Option String → Prop} {c : Connection} (h : f.IsLent left c)
    (w : ω) : f.IsLent left (v.check f.network c w).2.1 := by
  obtain ⟨htag, hidentity⟩ := v.check_keeps f.network c w
  have hbound : (v.check f.network c w).2.1.boundWith = c.boundWith := congrArg Prod.snd htag
  rcases h with h | ⟨hnone, hleft⟩
  · exact .inl ⟨hidentity.trans h.identity, hbound.trans h.boundWith⟩
  · exact .inr ⟨hbound.trans hnone, by rwa [hidentity]⟩

/-- The hooks of a factory see to it that the connections which they keep are fit to be lent. -/
theorem standing_upheld (left : Bool × Option String → Prop) :
    (f.standing restores left).Upheld (f.manager v restores) where
  make h _ := .inl (isBound_of_newConnection h)
  activate {w c c' w'} h hstays := by
    rcases hre : f.reactivate c w with ⟨o, c₁, w₁⟩
    simp only [manager, hre] at h
    obtain ⟨hout, hrest⟩ := Prod.mk.inj h
    obtain ⟨rfl, -⟩ := Prod.mk.inj hrest
    cases o with
    | error e => cases hout
    | ok u =>
      rcases reactivate_cases hre with ⟨hauth, rfl⟩ | hbound
      · exact hstays hauth
      · exact .inl hbound
  validate_stays {w c c' w'} h hstays _ := by
    -- Only an authenticated connection passes, so it was fit before the check.
    have hauth := v.isAuthenticated_of_check f.network c w (congrArg Prod.fst h)
    have hlent := (hstays hauth).check f v w
    rwa [show v.check f.network c w = _ from h] at hlent
  validate_leaves {w c c' w'} h hleaves := by
    have hlent := IsLent.check f v hleaves w
    rwa [show v.check f.network c w = _ from h] at hlent
  passivate {w c c' w'} h harrives := by
    cases restores with
    | false =>
      obtain ⟨-, hrest⟩ := Prod.mk.inj h
      obtain ⟨rfl, rfl⟩ := Prod.mk.inj hrest
      exact harrives.resolve_right fun hrestores => by cases hrestores.1
    | true =>
      rcases restoreIdentity_cases (f := f) h with ⟨rfl, rfl, hwhy⟩ | hauth
      · rcases harrives with hstays | ⟨-, hnone⟩
        · exact hstays
        · rcases hwhy with hdown | hbound
          · intro hauth
            simp [Connection.isAuthenticated, hdown] at hauth
          · simp [Connection.isBoundWith, hnone] at hbound
      · exact fun _ => .inl (isBound_of_authenticate hauth)

end Pooling

end Factory

end DirectoryClient
