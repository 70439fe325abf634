import DirectoryClient.Proofs.Connection.Descent
import DirectoryClient.Proofs.Factory.CheckedPassword
import DirectoryClient.Proofs.Pool.Steady

/-! A pool that restores the identity of its factory lends no connection with another one, whatever its
borrowers do: who comes back is bound again, unless its transport is down, and then it gets a new one. -/
namespace DirectoryClient

private theorem Credentials.sameAs_refl (x : Credentials) : x.sameAs x = true := by
  cases x <;> simp [sameAs]

namespace Factory

open Connection (IsBound Deed)
open Pool (Community Steady Activity)

variable {ω : Type}

abbrev Check (ω : Type) := Connection → ω → Bool × Connection × ω

/-- A check that performs no bind: who the connection is bound as stays, and where, and nothing that is
down comes up. -/
structure Check.Sparing (n : Network ω) (check : Check ω) : Prop where
  tag : ∀ c w, (check c w).2.1.tag = c.tag
  identity : ∀ c w, (check c w).2.1.identity = c.identity
  transport : ∀ c w, (check c w).2.1.transport = c.transport
  noneRevived : ∀ c w, n.NoneRevived w (check c w).2.2

def restoringManager (f : Factory ω) (check : Check ω) : Pool.Manager ω Connection :=
  { f.manager .flag true with validate := check }

theorem restoringManager_check (f : Factory ω) (v : Validator) :
    f.restoringManager (v.check f.network) = f.manager v true := rfl

section Checks

variable (n : Network ω) (v : Validator)

private theorem transport_startSearch (q : Search.Query) (c : Connection) (w : ω) :
    (c.startSearch n q w).2.1.transport = c.transport := by
  rw [Connection.startSearch]
  split
  · rfl
  · rw [Connection.post]
    split <;> rfl

private theorem check_sparing (hn : n.StaysDown) : Check.Sparing n (v.check n) where
  tag c w := (v.check_keeps n c w).1
  identity c w := (v.check_keeps n c w).2
  transport c w := by
    unfold Validator.check
    split
    · cases v with
      | flag => rfl
      | lookup timeout =>
        have hstart := transport_startSearch n Validator.query
          { c with timeout := timeout.or c.timeout } w
        simp only [Validator.lookUp, Validator.startLookup]
        rcases h : Connection.startSearch n Validator.query
          { c with timeout := timeout.or c.timeout } w with ⟨_ | p, c', w'⟩ <;>
          rw [h] at hstart <;> exact hstart
    · rfl
  noneRevived := v.within_check hn.within

end Checks

section Hooks

variable {f : Factory ω} (hn : f.network.StaysDown)
  (htake : ∀ w, f.network.NoneRevived w (f.takeNumber w).2) (c : Connection) (w : ω)

include hn

private theorem noneRevived_authenticate : f.network.NoneRevived w (f.authenticate c w).2.2 := by
  have hbind := Connection.within_bindCall hn.within c w (.credentials f.credentials)
  rw [Connection.BindCall.run] at hbind
  rw [authenticate]
  rcases h : c.bind f.network f.credentials w with ⟨_ | r, c', w'⟩ <;> rw [h] at hbind <;>
    exact hbind

private theorem noneRevived_restoreIdentity : f.network.NoneRevived w (f.restoreIdentity c w).2.2 := by
  rw [restoreIdentity]
  split
  · exact .refl w
  · exact noneRevived_authenticate hn c w

private theorem noneRevived_reactivate : f.network.NoneRevived w (f.reactivate c w).2.2 := by
  by_cases hup : c.isConnected f.network w = true
  · rw [reactivate_of_connected hup]
    split
    · exact .refl w
    · exact noneRevived_authenticate hn c w
  · have hdown := Bool.eq_false_iff.mpr hup
    have hmoved := Connection.within_reconnect hn.within c w
    rcases hmove : c.reconnect f.network w with ⟨_ | u, c', w'⟩
    · rw [hmove] at hmoved
      rw [reactivate_of_refused hdown hmove]
      exact hmoved
    · rw [hmove] at hmoved
      rw [reactivate_of_moved hdown hmove]
      exact hmoved.trans (noneRevived_authenticate hn c' w')

include htake in
private theorem noneRevived_newConnection : f.network.NoneRevived w (f.newConnection w).2 := by
  have hnew : f.network.NoneRevived w (f.newUnbound w).2 := (htake w).trans (hn.connect _)
  rw [newConnection]
  rcases h : f.newUnbound w with ⟨_ | c, w'⟩
  · rw [h] at hnew
    exact hnew
  · rw [h] at hnew
    have hbound := noneRevived_authenticate hn c w'
    simp only [bindConnection]
    rcases hauth : f.authenticate c w' with ⟨_ | u, c', w''⟩
    · rw [hauth] at hbound
      exact hnew.trans (hbound.trans (Connection.within_close hn.within c' w''))
    · rw [hauth] at hbound
      exact hnew.trans hbound

include htake in
private theorem restoringManager_within {check : Check ω} (hcheck : check.Sparing f.network) :
    (f.restoringManager check).Within f.network.NoneRevived where
  refl := .refl
  trans := .trans
  make := noneRevived_newConnection hn htake
  activate := noneRevived_reactivate hn
  validate := hcheck.noneRevived
  passivate := noneRevived_restoreIdentity hn
  destroy := Connection.within_close hn.within

end Hooks

section Standing

variable (f : Factory ω)

private def Remembered (c : Connection) : Prop := c.boundWith.any (·.sameAs f.credentials) = true

/-- However a connection comes back, it is kept bound with the credentials of the factory, if it is bound
and has its transport, and lent so. -/
private def ownStanding : Pool.Standing ω Connection where
  arrives _ _ := True
  stays w c := c.isAuthenticated f.network w = true → f.Remembered c
  leaves c := c.hasBound = true ∧ f.Remembered c

variable {f}

private theorem remembered_of_isBound {c : Connection} (h : IsBound f.credentials c) :
    f.Remembered c := by
  rw [Remembered, h.boundWith]
  exact f.credentials.sameAs_refl

private theorem ownStanding_endures :
    f.ownStanding.Endures fun w w' _ => f.network.NoneRevived w w' := by
  intro w w' c hnone
  refine ⟨fun h => h, fun hstays hauth => hstays ?_⟩
  simp only [Connection.isAuthenticated, Bool.and_eq_true] at hauth ⊢
  exact ⟨hauth.1, hnone c.transport hauth.2⟩

/-- After a check, the connection remembers what it did before, and is authenticated only if it was. -/
private theorem sparing_check {check : Check ω} (hcheck : check.Sparing f.network) {c c' : Connection}
    {w w' : ω} {isValid : Bool} (h : check c w = (isValid, c', w')) :
    (f.Remembered c → f.Remembered c') ∧ c'.hasBound = c.hasBound ∧
      (c'.isAuthenticated f.network w' = true → c.isAuthenticated f.network w = true) := by
  have htag := hcheck.tag c w
  have hidentity := hcheck.identity c w
  have htransport := hcheck.transport c w
  have hnone := hcheck.noneRevived c w c.transport
  rw [h] at htag hidentity htransport hnone
  have hbound : c'.boundWith = c.boundWith := congrArg Prod.snd htag
  have hhas : c'.hasBound = c.hasBound := congrArg Prod.fst hidentity
  refine ⟨fun hc => ?_, hhas, fun hauth => ?_⟩
  · rwa [Remembered, hbound]
  · rw [Connection.isAuthenticated, Bool.and_eq_true] at hauth ⊢
    rw [Connection.isConnected, htransport] at hauth
    exact ⟨hhas.symm.trans hauth.1, hnone hauth.2⟩

private theorem ownStanding_upheld {check : Check ω} (hcheck : check.Sparing f.network) :
    f.ownStanding.Upheld (f.restoringManager check) where
  make h _ := remembered_of_isBound (isBound_of_newConnection h)
  activate {w c c' w'} h hstays := by
    rcases hre : f.reactivate c w with ⟨o, c₁, w₁⟩
    simp only [restoringManager, manager, hre] at h
    obtain ⟨hout, hrest⟩ := Prod.mk.inj h
    obtain ⟨rfl, -⟩ := Prod.mk.inj hrest
    cases o with
    | error e => cases hout
    | ok u =>
      rcases reactivate_cases hre with ⟨hauth, rfl⟩ | hbound
      · have hhas := hauth
        rw [Connection.isAuthenticated, Bool.and_eq_true] at hhas
        exact ⟨hhas.1, hstays hauth⟩
      · exact ⟨(Prod.mk.inj hbound.identity).1, remembered_of_isBound hbound⟩
  validate_stays h hstays hauth := by
    obtain ⟨hremembered, -, hbefore⟩ := sparing_check hcheck h
    exact hremembered (hstays (hbefore hauth))
  validate_leaves h hleaves := by
    obtain ⟨hremembered, hhas, -⟩ := sparing_check hcheck h
    exact ⟨hhas.trans hleaves.1, hremembered hleaves.2⟩
  passivate {w c c' w'} h _ hauth := by
    rcases restoreIdentity_cases (f := f) h with ⟨rfl, rfl, hdown | hbound⟩ | hauthenticate
    · simp [Connection.isAuthenticated, hdown] at hauth
    · rw [Connection.isBoundWith, Bool.and_eq_true] at hbound
      exact hbound.2
    · exact remembered_of_isBound (isBound_of_authenticate hauthenticate)

private theorem restoringManager_keepsIds {check : Check ω} (hcheck : check.Sparing f.network) :
    (f.restoringManager check).KeepsIds where
  activate := (f.manager_keepsIds .flag true).activate
  validate c w := congrArg Prod.fst (hcheck.tag c w)
  passivate := (f.manager_keepsIds .flag true).passivate

end Standing

def restoringPool (f : Factory ω) (check : Check ω) (settings : Settings.Pool) :
    Pool ω Connection where
  manager := f.restoringManager check
  settings := settings

structure LendsOwn (f : Factory ω) (c : Community ω Connection) : Prop where
  /-- Whoever is idle is bound with the credentials of the factory, or not authenticated at all. -/
  idle : ∀ i ∈ c.accounts.idle, i.connection.isAuthenticated f.network c.world.world = true →
    i.connection.isBoundWith f.network c.world.world f.credentials = true
  /-- Whoever is lent is bound with them, as long as the transport is there. -/
  lent : ∀ t ∈ c.tasks, ∀ deadline k, t.activity = .borrow deadline (.finished (.ok k)) →
    k.isConnected f.network c.world.world = true →
    k.isBoundWith f.network c.world.world f.credentials = true

section Runs

variable {f : Factory ω} {check : Check ω} {settings : Settings.Pool} {w : ω}
  {as : List (Activity Connection)} {c : Community ω Connection}

/-- Whatever the holder of a connection does with it, the run stays steady. -/
private theorem steady_deed (hn : f.network.StaysDown)
    (h : Steady (f.restoringPool check settings) f.network.NoneRevived w as c) (d : Deed)
    {k : Connection} {rest : Multiset Connection} (hk : c.wrapped = k ::ₘ rest) :
    Steady (f.restoringPool check settings) f.network.NoneRevived w as
      { c with
        wrapped := (d.run f.network k c.world.world).1 ::ₘ rest
        world := { c.world with world := (d.run f.network k c.world.world).2 } } := by
  refine h.turn (.use c _ c.raw c.outside _ ?_ rfl rfl) fun _ => d.within_run hn.within k _
  rw [hk, Multiset.map_cons, Multiset.map_cons]
  exact congrArg (· ::ₘ _) (d.id_run f.network k c.world.world)

/-- A pool that restores identities lends its own one: whatever borrowers do with their connections, and
whatever the server answers and the hooks come to, who is idle and authenticated is bound with the
credentials of the factory, and so is who is lent with a transport that is there. -/
theorem lends_own (hn : f.network.StaysDown)
    (htake : ∀ w, f.network.NoneRevived w (f.takeNumber w).2) (hcheck : check.Sparing f.network)
    (h : Steady (f.restoringPool check settings) f.network.NoneRevived w as c) : f.LendsOwn c := by
  have hstands := h.stands (ownStanding_upheld hcheck) (restoringManager_keepsIds hcheck)
    (restoringManager_within hn htake hcheck) ownStanding_endures fun _ _ => trivial
  constructor
  · intro i hi hauth
    have hmem : i.connection ∈ Pool.connectionsOf c.accounts.idle := by
      exact List.mem_map_of_mem hi
    rw [Connection.isBoundWith, Bool.and_eq_true]
    exact ⟨hauth, (hstands i.connection.id).idle i.connection hmem rfl hauth⟩
  · intro t ht deadline k hlent hup
    have hleaves := ((hstands k.id).tasks t ht).leaving k (by simp [hlent, Activity.leaving]) rfl
    rw [Connection.isBoundWith, Connection.isAuthenticated, Bool.and_eq_true, Bool.and_eq_true]
    exact ⟨⟨hleaves.1, hup⟩, hleaves.2⟩

end Runs

section Examples

open Connection (Answering answering)

/-- The factory of one transport, in a pool that restores its identity. -/
def restored : Pool Answering Connection :=
  directory.restoringPool (Validator.flag.check directory.network) {}

private theorem directory_staysDown : directory.network.StaysDown :=
  { Connection.answering_staysDown with connect := fun _ => .refl _ }

/-- The first connection, after its borrower has bound it as a user. -/
def asUser : Connection × Answering :=
  (Deed.bind (.simple "uid=user" "pw")).run directory.network bound (serving [0, 0])

def asService : Connection :=
  (directory.restoreIdentity asUser.1 asUser.2).2.1

private theorem steady_restored : ∃ as c t,
    Steady restored directory.network.NoneRevived { codes := [0, 0, 0] } as c ∧ t ∈ c.tasks ∧
      t.activity = .borrow (some 30000) (.finished (.ok asService)) ∧
      asService.isConnected directory.network c.world.world = true := by
  have same : ∀ w, directory.network.NoneRevived w w := .refl
  have h := Steady.start (p := restored) (R := directory.network.NoneRevived)
    (w := { codes := [0, 0, 0] })
  have h := h.turn (.borrow _ rfl) fun _ => same _
  have h := h.acts (.step _ ⟨.borrow (some 30000) .reserving, none⟩ 0 0 rfl (.nobody 0))
  have h := h.acts (.step _ ⟨.borrow (some 30000) .making, none⟩ 0 0 rfl (.nobody 0))
  have h := h.acts (.step _ ⟨.borrow (some 30000) (.activating bound true), none⟩ 0 0 rfl (.nobody 0))
  have h := h.acts (.step _ ⟨.borrow (some 30000) (.checkingOut bound), none⟩ 0 0 rfl (.nobody 0))
  have h := h.turn (.finish _ ⟨.borrow (some 30000) (.finished (.ok bound)), none⟩ 0 rfl rfl)
    fun _ => same _
  have hheld : _ = bound ::ₘ 0 := rfl
  have h := steady_deed directory_staysDown h (.bind (.simple "uid=user" "pw")) hheld
  have h := h.turn (.release _ asUser.1 0 rfl) fun _ => same _
  have h := h.acts (.step _ ⟨.giveBack (.presenting asUser.1), none⟩ 0 0 rfl (.nobody 0))
  have h := h.acts (.step _ ⟨.giveBack (.passivating 1 asUser.1), none⟩ 0 0 rfl (.nobody 0))
  have h := h.acts (.step _ ⟨.giveBack (.settling 1 asService true), none⟩ 0 0 rfl (.nobody 0))
  have h := h.acts (.step _ ⟨.giveBack (.signalling none), none⟩ 0 0 rfl (.none 0 (by simp)))
  have h := h.turn (.finish _ ⟨.giveBack (.finished (.ok ())), none⟩ 0 rfl rfl) fun _ => same _
  have h := h.turn (.borrow _ rfl) fun _ => same _
  have h := h.acts (.step _ ⟨.borrow (some 30000) .reserving, none⟩ 0 0 rfl (.nobody 0))
  have h := h.acts
    (.step _ ⟨.borrow (some 30000) (.activating asService false), none⟩ 0 0 rfl (.nobody 0))
  have h := h.acts
    (.step _ ⟨.borrow (some 30000) (.checkingOut asService), none⟩ 0 0 rfl (.nobody 0))
  exact ⟨_, _, _, h, Multiset.mem_singleton_self _, rfl, rfl⟩

/-- A borrower binds the first connection of a pool as a user and gives it back; who borrows it next gets
it bound with the credentials of the factory. -/
theorem asService_own : ∃ as c, directory.network.StaysDown ∧
    (∀ w, directory.network.NoneRevived w (directory.takeNumber w).2) ∧
    Check.Sparing directory.network (Validator.flag.check directory.network) ∧
    Steady restored directory.network.NoneRevived { codes := [0, 0, 0] } as c ∧
    asUser.1.boundAs = some "uid=user" ∧ asService.boundAs = some "cn=svc" ∧
    asService.isBoundWith directory.network c.world.world directory.credentials = true ∧
    directory.LendsOwn c := by
  obtain ⟨as, c, t, h, ht, hlent, hup⟩ := steady_restored
  have hcheck := check_sparing directory.network .flag directory_staysDown
  have hown := lends_own directory_staysDown (fun _ => .refl _) hcheck h
  exact ⟨as, c, directory_staysDown, fun _ => .refl _, hcheck, h, rfl, rfl,
    hown.lent t ht _ _ hlent hup, hown⟩

end Examples

end Factory

end DirectoryClient
