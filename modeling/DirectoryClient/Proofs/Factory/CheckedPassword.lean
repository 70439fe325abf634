import DirectoryClient.Proofs.Factory.Identity

/-! What is left of a password check when its connection is lent again. The connection is bound with
the credentials of the factory, unless the bind that was to restore them has stalled and nobody has
tried again. -/
namespace DirectoryClient.Factory

open Connection (BindCall IsBound NotRevived nobody Answering answering)
open Pool (Community Run Undisturbed)

variable {ω : Type} (f : Factory ω)

def afterCheck (name password : String) (c : Connection) (w : ω) : Connection × ω :=
  ({ c with controls := some [PasswordPolicy.request] }.simpleBind f.network name password w).2

/-- The bind of a password check leaves somebody bound, and the one that is to restore the identity of
the factory stalls. -/
structure LeavesBound (name password : String) (c : Connection) (w : ω) : Prop where
  stalls : f.Stalls (f.afterCheck name password c w).1 (f.afterCheck name password c w).2
  hasBound : (f.afterCheck name password c w).1.hasBound = true

variable {f} {name password : String} {c c' : Connection} {w w' : ω}
  {o : Outcome (Option PasswordPolicy.Warning)}

private theorem checkPassword_restores (h : f.checkPassword name password c w = (o, c', w')) :
    ∃ o', f.restoreIdentity (f.afterCheck name password c w).1 (f.afterCheck name password c w).2 =
      (o', c', w') := by
  rw [checkPassword] at h
  exact ⟨_, Prod.ext rfl (Prod.mk.inj h).2⟩

private theorem tag_afterCheck : (f.afterCheck name password c w).1.tag = (c.id, none) :=
  Connection.tag_simpleBind f.network { c with controls := some [PasswordPolicy.request] } w name
    password

theorem id_checkPassword (h : f.checkPassword name password c w = (o, c', w')) : c'.id = c.id := by
  obtain ⟨o', hrestore⟩ := checkPassword_restores h
  have hid := id_restoreIdentity f (f.afterCheck name password c w).1
    (f.afterCheck name password c w).2
  rw [hrestore] at hid
  exact hid.trans (congrArg Prod.fst tag_afterCheck)

/-- After a password check a connection is bound with the credentials of the factory; or it remembers
nothing, and has no transport, or nobody is bound on it, or the identity of the check is left. -/
private theorem checkPassword_cases (h : f.checkPassword name password c w = (o, c', w')) :
    IsBound f.credentials c' ∨ c'.boundWith = none ∧
      (c'.isConnected f.network w' = false ∨ c'.identity = nobody ∨
        f.Stalls (f.afterCheck name password c w).1 (f.afterCheck name password c w).2 ∧
          c'.identity = (f.afterCheck name password c w).1.identity) := by
  have hnone : (f.afterCheck name password c w).1.boundWith = none :=
    congrArg Prod.snd tag_afterCheck
  obtain ⟨o', hrestore⟩ := checkPassword_restores h
  rcases restoreIdentity_cases hrestore with ⟨rfl, rfl, hdown | hbound⟩ | hauthenticate
  · exact .inr ⟨hnone, .inl hdown⟩
  · simp [Connection.isBoundWith, hnone] at hbound
  · cases o' with
    | ok u => exact .inl (isBound_of_authenticate hauthenticate)
    | error e =>
      obtain ⟨hforgotten, hstalls, hnobody⟩ := identity_of_authenticate hauthenticate
      refine .inr ⟨hforgotten, .inr ?_⟩
      by_cases hs : f.Stalls (f.afterCheck name password c w).1 (f.afterCheck name password c w).2
      · exact .inr ⟨hs, hstalls hs⟩
      · exact .inl (hnobody hs)

/-- A password is checked on a connection. What comes of it is released into its pool, and left alone
until it is lent again; if its transport goes meanwhile, it does not come back. All along, anything may
happen to the other connections. -/
inductive Relent (f : Factory ω) (p : Pool ω Connection) (name password : String) (lent : Connection)
    (w : ω) : Connection → Prop
  | again {w₀ w' : ω} {as : List (Pool.Activity Connection)} {c c' : Community ω Connection}
    {checked again : Connection} {rest : Multiset Connection} {t : Pool.Task Connection}
    {deadline : Option Nat} {o : Outcome (Option PasswordPolicy.Warning)} :
    Run p w₀ as c → (c.world.idsOf .make).Nodup → c.wrapped = checked ::ₘ rest →
    f.checkPassword name password lent w = (o, checked, w') →
    checked.NotRevived f.network w' c.world.world →
    Undisturbed p (p.manager.id checked) (NotRevived f.network)
      (Community.enter ⟨.giveBack (.presenting checked), none⟩ { c with wrapped := rest }) c' →
    t ∈ c'.tasks → t.activity = .borrow deadline (.finished (.ok again)) →
    p.manager.id again = p.manager.id checked → Relent f p name password lent w again

/-- A connection on which a password has been checked comes back fit to be lent, or bound as nobody, or
with the identity that the check has left. -/
private theorem arrives_of_checkPassword (h : f.checkPassword name password c w = (o, c', w'))
    (restores : Bool) {w'' : ω} (hdown : c'.NotRevived f.network w' w'') :
    (f.standing restores fun i => restores = false ∧ f.LeavesBound name password c w ∧
      i = (f.afterCheck name password c w).1.identity).arrives w'' c' := by
  rcases checkPassword_cases h with hbound | ⟨hnone, hwhy⟩
  · exact .inl fun _ => .inl hbound
  · cases restores with
    | true => exact .inr ⟨rfl, hnone⟩
    | false =>
      -- Nothing is restored on return, so whoever comes back authenticated has to be fit already.
      refine .inl fun hauth => .inr ⟨hnone, rfl, ?_⟩
      simp only [Connection.isAuthenticated, Bool.and_eq_true] at hauth
      rcases hwhy with hgone | hnobody | ⟨hstalls, hleft⟩
      · rw [hdown hauth.2] at hgone
        cases hgone
      · rw [(Prod.mk.inj hnobody).1] at hauth
        cases hauth.1
      · exact ⟨⟨hstalls, (Prod.mk.inj hleft).1.symm.trans hauth.1⟩, hleft⟩

/-- A connection on which a password has been checked is bound with the credentials of the factory when
it is lent again. Only a factory that restores no identity on return can lend it with the one that the
check has left, and only if the bind after the check stalls. -/
theorem relent_bound (v : Validator) (restores : Bool) (settings : Settings.Pool)
    (hname : f.credentials.identity? ≠ some name)
    (h : f.Relent { manager := f.manager v restores, settings } name password c w c') :
    IsBound f.credentials c' ∧ c'.boundAs ≠ some name ∨
      restores = false ∧ f.LeavesBound name password c w ∧
        c'.identity = (f.afterCheck name password c w).1.identity := by
  obtain ⟨hrun, hmakes, hwrapped, hcheck, hdown, hleft, ht, hlent, hid⟩ := h
  rcases Pool.leaves_of_release (f.standing_upheld v restores _) (f.manager_keepsIds v restores)
      (f.standing_endures restores _) hrun hmakes hwrapped
      (arrives_of_checkPassword hcheck restores hdown) hleft ht hlent hid with hbound | ⟨-, hcase⟩
  · refine .inl ⟨hbound, ?_⟩
    rw [(Prod.mk.inj hbound.identity).2]
    exact hname
  · exact .inr hcase

section Examples

/-- A password is checked on the first connection of a pool, which is lent again if it can be
activated. -/
private theorem exists_relent (v : Validator) {w₀ w₁ w₂ : ω} {made lent checked again : Connection}
    (hmake : f.newConnection w = (.ok made, w₀)) (hready : f.reactivate made w₀ = (.ok (), lent, w₁))
    (hcheck : f.checkPassword name password lent w₁ = (o, checked, w₂))
    (hagain : f.reactivate checked w₂ = (.ok (), again, w'))
    (hdown : checked.NotRevived f.network w₂ w') :
    f.Relent { manager := f.manager v false, settings := {} } name password lent w₁ again := by
  have hchecked := id_checkPassword hcheck
  have hagain' : again.id = checked.id := by simpa [hagain] using id_reactivate f checked w₂
  have activate : ∀ {c c' : Connection} {w w' : ω}, f.reactivate c w = (.ok (), c', w') →
      (f.manager v false).activate c w = (.ok (), c', w') := by
    intro c c' w w' h
    simp only [manager, h]
    rfl
  obtain ⟨as, hrun⟩ := Pool.exists_run_lent (f.manager v false) hmake (activate hready)
  have hid : (f.manager v false).id lent = checked.id := hchecked.symm
  rw [hid] at hrun
  have hrun := hrun.turn (.use _ {checked} 0 0 w₂ (by simpa [manager] using hchecked) rfl rfl)
  have same : ∀ w (k : Connection), k.NotRevived f.network w w := fun _ _ h => h
  obtain ⟨c', t, d, hleft, ht, hend⟩ := Pool.exists_undisturbed (f.manager v false)
    (r := { world := w₂, calls := [⟨.make, made.id⟩, ⟨.activate, made.id⟩] })
    same rfl rfl hagain' rfl (same w₂ checked) (activate hagain) hdown
  have hone : ({checked} : Multiset Connection) = checked ::ₘ 0 := rfl
  refine .again hrun ?_ hone hcheck (same w₂ checked) hleft ht hend hagain'
  simp [Pool.Recorded.idsOf]

/-- A factory whose connections share one transport, before a server that answers requests to bind. -/
def directory : Factory Answering where
  network := { answering with connect a := (.ok 0, a) }
  settings := { bindName := some "cn=svc", bindPassword := some "secret" }
  takeNumber a := (1, a)

/-- The first connection of the factory, when it has been bound. -/
def bound : Connection :=
  { id := 1, transport := 0, hasBound := true, boundAs := some "cn=svc"
    boundWith := some (.simple "cn=svc" "secret"), lastId := 1 }

/-- The world in which the first connection has been bound, where the server goes on answering with
these codes. -/
def serving (codes : List UInt32) : Answering := (directory.newConnection { codes := 0 :: codes }).2

private theorem relent_directory {codes : List UInt32} {o : Outcome (Option PasswordPolicy.Warning)}
    {checked again : Connection} {w w' : Answering}
    (hcheck : directory.checkPassword "uid=user" "pw" bound (serving codes) = (o, checked, w))
    (hagain : directory.reactivate checked w = (.ok (), again, w'))
    (hdown : checked.NotRevived directory.network w w') :
    directory.Relent { manager := directory.manager .flag false, settings := {} } "uid=user" "pw" bound
      (serving codes) again :=
  exists_relent .flag (w := { codes := 0 :: codes }) rfl rfl hcheck hagain hdown

/-- A server accepts the password, and asks for another round when the factory binds again. -/
private def stalled : Connection × Answering :=
  (directory.checkPassword "uid=user" "pw" bound (serving [0, 14])).2

/-- A connection can be lent with the identity of somebody whose password has been checked on it. -/
theorem relent_not_always_bound : ¬∀ (f : Factory Answering) (v : Validator) (restores : Bool)
    (settings : Settings.Pool) (name password : String) (c : Connection) (w : Answering)
    (c' : Connection), f.credentials.identity? ≠ some name →
      f.Relent { manager := f.manager v restores, settings } name password c w c' →
      c'.boundAs ≠ some name := by
  intro h
  have hcheck : (directory.checkPassword "uid=user" "pw" bound (serving [0, 14])).2 =
      (stalled.1, stalled.2) := rfl
  have hagain : directory.reactivate stalled.1 stalled.2 = (.ok (), stalled.1, stalled.2) := rfl
  have hrelent := relent_directory (Prod.ext rfl hcheck) hagain fun h => h
  exact h directory .flag false {} "uid=user" "pw" bound (serving [0, 14]) stalled.1 (by decide)
    hrelent rfl

private theorem refused_not_stalls : ¬directory.Stalls
    (directory.afterCheck "uid=user" "pw" bound (serving [0, 49, 0])).1
    (directory.afterCheck "uid=user" "pw" bound (serving [0, 49, 0])).2 := by
  intro hstalls
  obtain ⟨r, hout, hcode⟩ := hstalls fun m hm => by cases hm
  obtain rfl : { code := 49 } = r := Except.ok.inj hout
  cases hcode

/-- A server refuses to bind the factory again after a password check, and accepts it when the
connection is activated. -/
theorem refused_bound : ∃ c', directory.credentials.identity? ≠ some "uid=user" ∧
    directory.Relent { manager := directory.manager .flag false, settings := {} } "uid=user" "pw" bound
      (serving [0, 49, 0]) c' ∧
    IsBound directory.credentials c' ∧ c'.boundAs ≠ some "uid=user" := by
  have hname : directory.credentials.identity? ≠ some "uid=user" := by decide
  have hrelent : directory.Relent { manager := directory.manager .flag false, settings := {} }
      "uid=user" "pw" bound (serving [0, 49, 0]) (directory.reactivate
        (directory.checkPassword "uid=user" "pw" bound (serving [0, 49, 0])).2.1
        (directory.checkPassword "uid=user" "pw" bound (serving [0, 49, 0])).2.2).2.1 :=
    relent_directory rfl rfl fun _ => rfl
  exact ⟨_, hname, hrelent, (relent_bound .flag false {} hname hrelent).resolve_right
    fun hleft => refused_not_stalls hleft.2.1.stalls⟩

end Examples

end DirectoryClient.Factory
