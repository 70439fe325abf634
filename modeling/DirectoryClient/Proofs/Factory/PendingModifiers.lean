import DirectoryClient.Proofs.Connection.Modifiers
import DirectoryClient.Proofs.Factory.CheckedPassword
import DirectoryClient.Proofs.Pool.Variants

/-! What becomes of the modifiers that wait on a connection when it is given back. They stay with the
connection, and the first operation on it that makes a request takes them, whoever calls it: a hook of
the pool, or the next borrower. -/
namespace DirectoryClient

variable {ω : Type}

namespace Validator

private def finishLookup (n : Network ω) : Outcome Pending × Connection × ω → Bool × Connection × ω
  | (.error _, c, w) => (false, c, w)
  | (.ok p, c, w) =>
    let (isValid, w) :=
      (succeeds? (n.streamAccess p) { id := p.id, detector := c.detector } w).getD (false, w)
    (isValid, c, w)

private theorem lookUp_eq (n : Network ω) (timeout : Option Nat) (c : Connection) (w : ω) :
    lookUp n timeout c w = finishLookup n (startLookup n timeout c w) := by
  rw [lookUp]
  rcases startLookup n timeout c w with ⟨_ | p, c', w'⟩ <;> rfl

private theorem connection_finishLookup (n : Network ω) (r : Outcome Pending × Connection × ω) :
    (finishLookup n r).2.1 = r.2.1 := by
  rcases r with ⟨_ | p, c, w⟩ <;> rfl

private theorem grows_finishLookup {n : Network ω} (r : Outcome Pending × Connection × Logged ω) :
    r.2.2.Grows (finishLookup n.logging r).2.2 := by
  rcases r with ⟨_ | p, c, w⟩
  · exact List.prefix_rfl
  · exact within_succeeds (n.logging_within.streamAccess p) _ w

variable (n : Network ω) (v : Validator) (c : Connection) (w : Logged ω)

private theorem conduct_lookUp (timeout : Option Nat) :
    Conduct (fun m => lookUp n.logging timeout (c.carrying m) w) w := by
  simp only [lookUp_eq]
  refine ((Connection.opening_startSearch c w query).withTimeout (timeout.or ·)).conduct
    (finishLookup n.logging) grows_finishLookup fun m => ?_
  rw [connection_finishLookup]
  exact Connection.modifiers_startSearch _ _ _ _

private theorem conduct_check : Conduct (fun m => v.check n.logging (c.carrying m) w) w := by
  have hauth : ∀ m, (c.carrying m).isAuthenticated n.logging w = c.isAuthenticated n.logging w :=
    fun _ => rfl
  simp only [check, hauth]
  split
  · cases v with
    | flag => exact .same fun _ _ => ⟨rfl, rfl, rfl⟩
    | lookup timeout => exact conduct_lookUp n c w timeout
  · exact .same fun _ _ => ⟨rfl, rfl, rfl⟩

end Validator

namespace Factory

variable (f : Factory ω)

/-- The same factory, in a world in which the requests are noted. -/
def logging : Factory (Logged ω) where
  network := f.network.logging
  settings := f.settings
  takeNumber w := ((f.takeNumber w.world).1, { w with world := (f.takeNumber w.world).2 })

section Hooks

variable (c : Connection) (w : Logged ω)

private def verdict : Outcome OperationResult → Outcome Unit
  | .error e => .error e
  | .ok r => if r.isSuccess then .ok () else .error (.authenticationFailed r)

private theorem conduct_authenticate :
    Conduct (fun m => f.logging.authenticate (c.carrying m) w) w := by
  have hauthenticate : ∀ m, f.logging.authenticate (c.carrying m) w =
      (verdict ((c.carrying m).bind f.network.logging f.credentials w).1,
        ((c.carrying m).bind f.network.logging f.credentials w).2) := by
    intro m
    simp only [authenticate, credentials, logging]
    rcases (c.carrying m).bind f.network.logging f.settings.credentials w with ⟨_ | r, c', w'⟩ <;> rfl
  simp only [hauthenticate]
  exact (Connection.conduct_bindCall c w (.credentials f.credentials)).map verdict

private theorem conduct_restoreIdentity :
    Conduct (fun m => f.logging.restoreIdentity (c.carrying m) w) w := by
  have hstays : ∀ m, (!(c.carrying m).isConnected f.logging.network w ||
      (c.carrying m).isBoundWith f.logging.network w f.logging.credentials) =
        (!c.isConnected f.logging.network w ||
          c.isBoundWith f.logging.network w f.logging.credentials) := fun _ => rfl
  simp only [restoreIdentity, hstays]
  split
  · exact .same fun _ _ => ⟨rfl, rfl, rfl⟩
  · exact conduct_authenticate f c w

private theorem conduct_reactivate : Conduct (fun m => f.logging.reactivate (c.carrying m) w) w := by
  have hauth : ∀ m, (c.carrying m).isAuthenticated f.logging.network w =
      c.isAuthenticated f.logging.network w := fun _ => rfl
  cases hup : c.isConnected f.logging.network w with
  | true =>
    have hreactivate : ∀ m, f.logging.reactivate (c.carrying m) w =
        if (c.carrying m).isAuthenticated f.logging.network w then (.ok (), c.carrying m, w)
        else f.logging.authenticate (c.carrying m) w := fun _ => reactivate_of_connected hup
    simp only [hreactivate, hauth]
    split
    · exact .same fun _ _ => ⟨rfl, rfl, rfl⟩
    · exact conduct_authenticate f c w
  | false =>
    have hdown : ∀ m, (c.carrying m).isConnected f.logging.network w = false := fun _ => hup
    -- Nobody is told that a session which is over has ended.
    have hclose : ∀ m, (c.carrying m).close f.logging.network w = (c.carrying m, w) := fun _ =>
      if_neg (ne_true_of_eq_false hup)
    rcases hconnect : f.logging.network.connect w with ⟨e | t, w'⟩
    · have hreactivate : ∀ m,
          f.logging.reactivate (c.carrying m) w = (.error e, c.carrying m, w') := by
        intro m
        refine reactivate_of_refused (hdown m) ?_
        simp only [Connection.reconnect, hclose, hconnect]
      simp only [hreactivate]
      exact .same fun _ _ => ⟨rfl, rfl, rfl⟩
    · have hreactivate : ∀ m, f.logging.reactivate (c.carrying m) w = f.logging.authenticate
          ({ c.clearIdentity with transport := t, lastId := 0 }.carrying m) w' := by
        intro m
        refine reactivate_of_moved (hdown m) ?_
        simp only [Connection.reconnect, hclose, hconnect]
        rfl
      have hsent : w'.sent = w.sent := congrArg (Logged.sent ∘ Prod.snd) hconnect.symm
      simp only [hreactivate]
      exact (conduct_authenticate f _ w').later hsent

variable (v : Validator) (restores : Bool)

private theorem conduct_activate :
    Conduct (fun m => (f.logging.manager v restores).activate (c.carrying m) w) w :=
  (conduct_reactivate f c w).map (Except.mapError DirectoryError.reactivationFailed)

private theorem conduct_passivate :
    Conduct (fun m => (f.logging.manager v restores).passivate (c.carrying m) w) w := by
  cases restores with
  | true => exact conduct_restoreIdentity f c w
  | false => exact .same fun _ _ => ⟨rfl, rfl, rfl⟩

end Hooks

end Factory

namespace Connection

inductive Use where
  | deed (d : Deed)
  /-- A request whose response is awaited later, or never. -/
  | start (request : Ber.Element)
  | withTimeout (span : Nat)
  | withControls (controls : List Control)
  | withSearchOptions (options : Search.Options)

namespace Use

def run (n : Network ω) : Use → Connection → ω → Connection × ω
  | deed d, c, w => d.run n c w
  | start request, c, w => (c.submit n request w).2
  | withTimeout span, c, w => ({ c with timeout := some span }, w)
  | withControls controls, c, w => ({ c with controls := some controls }, w)
  | withSearchOptions options, c, w => ({ c with searchOptions := some options }, w)

def IsModifier : Use → Prop
  | withTimeout _ | withControls _ | withSearchOptions _ => True
  | _ => False

private theorem run_of_isModifier {n : Network ω} {u : Use} (hu : u.IsModifier)
    (c : Connection) (w : ω) :
    (u.run n c w).1.clearModifiers = c.clearModifiers ∧ (u.run n c w).2 = w := by
  cases u with
  | deed | start => cases hu
  | withTimeout | withControls | withSearchOptions => exact ⟨rfl, rfl⟩

private theorem conduct_run (n : Network ω) (u : Use) (c : Connection) (w : Logged ω) :
    Conduct (fun m => ((), u.run n.logging (c.carrying m) w)) w := by
  cases u with
  | deed d =>
    cases d with
    | bind call => exact (conduct_bindCall c w call).map fun _ => ()
    | unbind => exact (conduct_unbind c w).map fun _ => ()
    | close => exact conduct_close c w
    | reconnect => exact (conduct_reconnect c w).map fun _ => ()
    | request element => exact (conduct_exchange c w element).map fun _ => ()
    | search query => exact (conduct_startSearch c w query).map fun _ => ()
    | abandon target => exact (conduct_abandon c w target).map fun _ => ()
    | modify => exact .same fun _ _ => ⟨rfl, rfl, rfl⟩
  | start request => exact (conduct_submit c w request).map fun _ => ()
  | withTimeout | withControls | withSearchOptions => exact .same fun _ _ => ⟨rfl, rfl, rfl⟩

end Use

end Connection

section Comparison

variable {α : Type} {w : Logged ω} {k k' : Connection}

/-- A request is made first which takes the modifiers of a connection. Then none is left of them, unless
the session has ended or the connection is gone. -/
structure Takes (d : Draft) (k : Connection) (w : Logged ω) (r : Option Connection × Logged ω) :
    Prop where
  opens : d.Opens k.modifiers w r.2
  spent : d.operation = .unbind ∨ ∀ c ∈ r.1, c.modifiers = {}

private theorem Takes.of_asks {d : Draft} {r : Connection × Logged ω} (h : Asks d k.modifiers w r) :
    Takes d k w (some r.1, r.2) where
  opens := h.opens
  spent := h.spent.imp_right fun hspent c hc => by
    obtain rfl := Option.some.inj hc
    exact hspent

private theorem Takes.of_gone {d : Draft} {c : Option Connection} {w' : Logged ω}
    (h : Takes d k w (c, w')) :
    Takes d k w (none, w') where
  opens := h.opens
  spent := h.spent.imp_right fun _ c hc => by cases hc

/-- An operation on two connections that differ in nothing but modifiers. -/
private theorem matches_or_takes (g : Connection → α × Connection × Logged ω)
    (hg : ∀ c : Connection, Conduct (fun m => g (c.carrying m)) w)
    (hkk : k.clearModifiers = k'.clearModifiers) :
    Matches (g k) (g k') ∨
      ∃ d, Takes d k w (some (g k).2.1, (g k).2.2) ∧ Takes d k' w (some (g k').2.1, (g k').2.2) := by
  have hk' : k.clearModifiers.carrying k'.modifiers = k' := hkk ▸ rfl
  cases hg k.clearModifiers with
  | same hsame =>
    have hmatches := hsame k.modifiers k'.modifiers
    rw [hk'] at hmatches
    exact .inl hmatches
  | asks d hasks =>
    have hasks' := hasks k'.modifiers
    rw [hk'] at hasks'
    exact .inr ⟨d, .of_asks (hasks k.modifiers), .of_asks hasks'⟩

end Comparison

namespace Factory

open Pool (Hook)

variable (f : Factory ω) (v : Validator) (restores : Bool) {w : Logged ω} {k k' : Connection}

private theorem replacing_of_matches {α : Type} {r r' : α × Connection × Logged ω} (h : Matches r r') :
    Pool.replacing Connection.clearModifiers r = Pool.replacing Connection.clearModifiers r' := by
  rw [Pool.replacing, Pool.replacing, h.outcome, h.connection, h.world]

/-- A hook comes to the same, or makes a request that takes the modifiers. -/
private theorem agrees_or_takes_hook (hook : Hook) (hkk : k.clearModifiers = k'.clearModifiers) :
    (f.logging.manager v restores).Agrees Connection.clearModifiers w hook k k' ∨
      ∃ d, Takes d k w ((f.logging.manager v restores).call hook k w) ∧
        Takes d k' w ((f.logging.manager v restores).call hook k' w) := by
  cases hook with
  | make => exact .inl trivial
  | activate =>
    exact (matches_or_takes ((f.logging.manager v restores).activate · w)
      (conduct_activate f · w v restores) hkk).imp_left replacing_of_matches
  | validate =>
    exact (matches_or_takes (v.check f.network.logging · w) (v.conduct_check f.network · w)
      hkk).imp_left replacing_of_matches
  | passivate =>
    exact (matches_or_takes ((f.logging.manager v restores).passivate · w)
      (conduct_passivate f · w v restores) hkk).imp_left replacing_of_matches
  | destroy =>
    rcases matches_or_takes (fun k => ((), k.close f.network.logging w))
      (Connection.conduct_close · w) hkk with hsame | ⟨d, hk, hk'⟩
    · exact .inl hsame.world
    · exact .inr ⟨d, hk.of_gone, hk'.of_gone⟩

def loggingPool (settings : Settings.Pool) : Pool (Logged ω) Connection where
  manager := f.logging.manager v restores
  settings := settings

def use : Connection.Use → Connection → Logged ω → Connection × Logged ω :=
  Connection.Use.run f.network.logging

abbrev Doing := Pool.Doing Connection.Use Connection

variable (settings : Settings.Pool) {e e' : Doing}

/-- What is done on two connections comes to the same, or makes a request that takes the modifiers. -/
private theorem agrees_or_takes
    (hee : e.map Connection.clearModifiers = e'.map Connection.clearModifiers) :
    e.Agrees Connection.clearModifiers (f.loggingPool v restores settings) f.use w e' ∨
      ∃ d k k', e.target? = some k ∧ e'.target? = some k' ∧ k.clearModifiers = k'.clearModifiers ∧
        Takes d k w (e.effect (f.loggingPool v restores settings) f.use w) ∧
        Takes d k' w (e'.effect (f.loggingPool v restores settings) f.use w) := by
  cases e with
  | step a =>
    cases e' with
    | deed => cases hee
    | step b =>
      have hab : a.map Connection.clearModifiers = b.map Connection.clearModifiers :=
        Pool.Doing.step.inj hee
      cases ha : a.call? with
      | none => exact .inl fun hook k k' hcall => by cases ha.symm.trans hcall
      | some x =>
        obtain ⟨hook, k⟩ := x
        obtain ⟨k', hb, hkk⟩ := Pool.Activity.exists_call_of_map hab ha
        rcases agrees_or_takes_hook f v restores (w := w) hook hkk with hagrees | ⟨d, hk, hk'⟩
        · refine .inl fun hook₁ k₁ k₁' ha₁ hb₁ => ?_
          cases ha.symm.trans ha₁
          cases hb.symm.trans hb₁
          exact hagrees
        · refine .inr ⟨d, k, k', by rw [Pool.Doing.target?, ha]; rfl,
            by rw [Pool.Doing.target?, hb]; rfl, hkk, ?_, ?_⟩
          · rw [Pool.Doing.effect, ha]
            exact hk
          · rw [Pool.Doing.effect, hb]
            exact hk'
  | deed u k =>
    cases e' with
    | step => cases hee
    | deed u' k' =>
      obtain ⟨rfl, hkk⟩ := Pool.Doing.deed.inj hee
      rcases matches_or_takes (fun k => ((), u.run f.network.logging k w))
        (u.conduct_run f.network · w) hkk with hsame | ⟨d, hk, hk'⟩
      · exact .inl (Prod.ext hsame.connection hsame.world)
      · exact .inr ⟨d, k, k', rfl, rfl, hkk, hk, hk'⟩

/-! ### Two variants of what a borrower has left -/

abbrev Scene (ω : Type) := Pool.Scene (Logged ω) Connection

def Modifies (x x' : Scene ω) : Prop :=
  ∃ u k, u.IsModifier ∧ Pool.Does (f.loggingPool v restores settings) f.use (.deed u k) x x'

/-- Two variants of a run part. Up to then they are alike, with all their requests. Then the same is done
next in both, on the same connection, and the request that is made first takes what waits there. -/
structure Parting (goes : Logged ω → Logged ω → Prop) (x₀ y₀ : Scene ω) (es : List Doing)
    (m m' : Pool.Moment Connection.Use (Logged ω) Connection) (d : Draft) (k k' : Connection) :
    Prop where
  reached : m.IsReached (f.loggingPool v restores settings) f.use goes x₀
  reached' : m'.IsReached (f.loggingPool v restores settings) f.use goes y₀
  done : m.done ++ [m.next] <+: es
  alike : m.Alike Connection.clearModifiers m'
  target : m.next.target? = some k
  target' : m'.next.target? = some k'
  same : k.clearModifiers = k'.clearModifiers
  takes : Takes d k m.scene.world
    ((m.next.effect (f.loggingPool v restores settings) f.use m.scene.world).1, m.result.world)
  takes' : Takes d k' m'.scene.world
    ((m'.next.effect (f.loggingPool v restores settings) f.use m'.scene.world).1, m'.result.world)

variable {f v restores settings} {goes : Logged ω → Logged ω → Prop} {z x₀ y₀ x : Scene ω}

private theorem Modifies.alike (h : f.Modifies v restores settings z x) :
    z.Alike Connection.clearModifiers x := by
  obtain ⟨u, k, hu, hdoes⟩ := h
  cases hdoes with
  | deed _ _ _ rest hk =>
    obtain ⟨hsame, hworld⟩ := Connection.Use.run_of_isModifier hu k z.world
    refine .intro rfl rfl ?_ rfl hworld.symm
    rw [hk, Multiset.map_cons, Multiset.map_cons]
    exact congrArg (· ::ₘ rest.map Connection.clearModifiers) hsame.symm

private theorem alike_of_modifies (h : Relation.ReflTransGen (f.Modifies v restores settings) z x) :
    z.Alike Connection.clearModifiers x := by
  induction h with
  | refl => exact ⟨rfl, rfl⟩
  | tail _ h ih => exact ih.trans h.alike

section Examples

open Connection (Answering)

/-- The pool of one transport, whose requests are noted, and in which a borrower waits without limit. -/
def notedPool : Pool (Logged Answering) Connection :=
  directory.loggingPool .flag false { maxWait := none }

/-- The world in which the first connection has been bound. -/
def noted : Logged Answering := (directory.logging.newConnection { world := { codes := [0] } }).2

def Idles (w w' : Logged Answering) : Prop := w = w'

def inHand (k : Connection) (w : Logged Answering) : Scene Answering where
  party := { accounts := { active := [1] }, wrapped := {k} }
  world := w

private def inStock (k : Connection) : Scene Answering where
  party := { accounts := { idle := [⟨k, 0⟩] } }
  world := noted

def asked (m : Modifiers) : Connection × Logged Answering :=
  directory.use (.start (Request.extended .whoAmI)) (bound.carrying m) noted

private theorem goes_inHand : ∃ es, Pool.Goes notedPool directory.use Idles
    { party := {}, world := { world := { codes := [0] } } } es (inHand bound noted) := by
  have h : Pool.Goes notedPool directory.use Idles
    { party := {}, world := { world := { codes := [0] } } } [] _ := .start
  have h := h.passes (.borrow _ rfl)
  have h := h.does (.step _ ⟨.borrow none .reserving, none⟩ 0 0 rfl (.nobody 0))
  have h := h.does (.step _ ⟨.borrow none .making, none⟩ 0 0 rfl (.nobody 0))
  have h := h.does (.step _ ⟨.borrow none (.activating bound true), none⟩ 0 0 rfl (.nobody 0))
  have h := h.does (.step _ ⟨.borrow none (.checkingOut bound), none⟩ 0 0 rfl (.nobody 0))
  have h := h.passes (.finish _ ⟨.borrow none (.finished (.ok bound)), none⟩ 0 rfl rfl)
  exact ⟨_, h⟩

def returning (k : Connection) : List Doing :=
  [.step (.giveBack (.presenting k)), .step (.giveBack (.passivating 1 k)),
    .step (.giveBack (.settling 1 k true)), .step (.giveBack (.signalling none))]

private theorem goes_inStock (m : Modifiers) : Pool.Goes notedPool directory.use Idles
    (inHand (bound.carrying m) noted) (returning (bound.carrying m))
    (inStock (bound.carrying m)) := by
  have h : Pool.Goes notedPool directory.use Idles (inHand (bound.carrying m) noted) [] _ := .start
  have h := h.passes (.giveBack _ (bound.carrying m) 0 rfl)
  have h := h.does (.step _ ⟨.giveBack (.presenting (bound.carrying m)), none⟩ 0 0 rfl (.nobody 0))
  have h := h.does (.step _ ⟨.giveBack (.passivating 1 (bound.carrying m)), none⟩ 0 0 rfl (.nobody 0))
  have h := h.does
    (.step _ ⟨.giveBack (.settling 1 (bound.carrying m) true), none⟩ 0 0 rfl (.nobody 0))
  have h := h.does (.step _ ⟨.giveBack (.signalling none), none⟩ 0 0 rfl (.none 0 (by simp)))
  have h := h.passes (.finish _ ⟨.giveBack (.finished (.ok ())), none⟩ 0 rfl rfl)
  exact h

def borrowing (k : Connection) : List Doing :=
  [.step (.borrow none .reserving), .step (.borrow none (.activating k false)),
    .step (.borrow none (.checkingOut k))]

private theorem goes_inHand_again (m : Modifiers) : Pool.Goes notedPool directory.use Idles
    (inStock (bound.carrying m)) (borrowing (bound.carrying m))
    (inHand (bound.carrying m) noted) := by
  have h : Pool.Goes notedPool directory.use Idles (inStock (bound.carrying m)) [] _ := .start
  have h := h.passes (.borrow _ rfl)
  have h := h.does (.step _ ⟨.borrow none .reserving, none⟩ 0 0 rfl (.nobody 0))
  have h := h.does
    (.step _ ⟨.borrow none (.activating (bound.carrying m) false), none⟩ 0 0 rfl (.nobody 0))
  have h := h.does
    (.step _ ⟨.borrow none (.checkingOut (bound.carrying m)), none⟩ 0 0 rfl (.nobody 0))
  have h := h.passes
    (.finish _ ⟨.borrow none (.finished (.ok (bound.carrying m))), none⟩ 0 rfl rfl)
  exact h

def askingAgain (k : Connection) : List Doing :=
  returning k ++ borrowing k ++ [.deed (.start (Request.extended .whoAmI)) k]

private theorem goes_asked (m : Modifiers) : Pool.Goes notedPool directory.use Idles
    (inHand (bound.carrying m) noted) (askingAgain (bound.carrying m))
    (inHand (asked m).1 (asked m).2) :=
  ((goes_inStock m).trans (goes_inHand_again m)).trans (.does .start (.deed _ _ _ 0 rfl))

def leftBehind : Modifiers := { controls := some [PasswordPolicy.request] }

private theorem modifies_leftBehind : directory.Modifies .flag false { maxWait := none }
    (inHand bound noted) (inHand (bound.carrying leftBehind) noted) :=
  ⟨.withControls [PasswordPolicy.request], bound, trivial, .deed _ _ _ 0 rfl⟩

def question (controls : Option (List Control)) : TransportId × Submission :=
  (0, { id := 2, operation := .single 1, element := Request.extended .whoAmI, controls })

private theorem sent_asked (m : Modifiers) :
    (asked m).2.sent = noted.sent ++ [question m.controls] := rfl

end Examples

end Factory

end DirectoryClient
