import DirectoryClient.Proofs.Pool.Neighbours
import Mathlib.Logic.Function.Basic

/-! What pools keep apart. A connection that comes to a pool of another maker is refused, unless its id
is out there; as long as that does not happen, a pool keeps and lends its own connections only. -/
namespace DirectoryClient.Pool

variable {ι ω κ : Type}

private def Standing.own (i : ι) : Standing ω (ι × κ) where
  arrives _ k := k.1 = i
  stays _ k := k.1 = i
  leaves k := k.1 = i

/-- A manager makes connections of its own, and no hook makes a connection another's. -/
private theorem own_upheld (i : ι) (m : Manager ω κ) : (Standing.own i).Upheld (m.tagged i) where
  make {w k w'} h := by
    rcases hm : m.make w with ⟨_ | k₀, w₀⟩ <;> simp only [Manager.tagged, hm] at h <;> cases h
    rfl
  activate {w k k' w'} h hk := by
    have hmaker : ((m.tagged i).activate k w).2.1.1 = k.1 := rfl
    rw [h] at hmaker
    exact hmaker.trans hk
  validate_stays {w k k' w'} h hk := by
    have hmaker : ((m.tagged i).validate k w).2.1.1 = k.1 := rfl
    rw [h] at hmaker
    exact hmaker.trans hk
  validate_leaves {w k k' w'} h hk := by
    have hmaker : ((m.tagged i).validate k w).2.1.1 = k.1 := rfl
    rw [h] at hmaker
    exact hmaker.trans hk
  passivate {w k k' w'} h hk := by
    have hmaker : ((m.tagged i).passivate k w).2.1.1 = k.1 := rfl
    rw [h] at hmaker
    exact hmaker.trans hk

private theorem keepsIds_tagged {m : Manager ω κ} (i : ι) (h : m.KeepsIds) : (m.tagged i).KeepsIds where
  activate k w := h.activate k.2 w
  validate k w := h.validate k.2 w
  passivate k w := h.passivate k.2 w

namespace Activity

/-- The connections that an activity keeps or lends are of this maker. One that is being presented may
be another's. -/
structure Owns (i : ι) (a : Activity (ι × κ)) : Prop where
  arriving : a.presented? = none → ∀ k ∈ a.arriving, k.1 = i
  staying : ∀ k ∈ a.staying, k.1 = i
  leaving : ∀ k ∈ a.leaving, k.1 = i
  wrapped : ∀ k, a = wrap (.finished (.ok k)) → k.1 = i

variable {i : ι} {a : Activity (ι × κ)}

private theorem Owns.wake (h : a.Owns i) : a.wake.Owns i := by
  rcases a with ⟨d, _ | _⟩ | _ <;>
    exact ⟨h.arriving, h.staying, h.leaving, fun k hk => h.wrapped k (by cases hk <;> rfl)⟩

private theorem Owns.of_none (ha : a.presented? = none → a.arriving = 0) (hs : a.staying = 0)
    (hl : a.leaving = 0) (hw : ∀ k, a ≠ wrap (.finished (.ok k))) : a.Owns i :=
  ⟨fun h => by simp [ha h], by simp [hs], by simp [hl], fun k hk => absurd hk (hw k)⟩

private theorem Owns.lent (h : a.Owns i) (hf : a.isFinished = true) : ∀ k ∈ a.lent, k.1 = i := by
  intro k hk
  rcases a with ⟨d, b⟩ | g | g | g | e | c
  · cases b with
    | finished o =>
      cases o with
      | error e => cases hk
      | ok k' => exact h.leaving k hk
    | _ => cases hf
  · cases g with
    | finished o => cases hk
    | _ => cases hf
  · cases g with
    | finished o =>
      cases o with
      | error e => cases hk
      | ok k' =>
        obtain rfl := Multiset.mem_singleton.mp hk
        exact h.wrapped k rfl
    | _ => cases hf
  · cases g with
    | finished k' => cases hk
    | _ => cases hf
  · cases hk
  · cases hk

variable {p : Pool ω κ} (s : State (ι × κ)) (r : Recorded ω)

/-- A connection that is presented goes on into the pool if its id is out there. -/
private theorem Owns.step_presented {k : ι × κ} (hk : a.presented? = some k)
    (hout : s.isOut ((p.tagged i).manager.id k) = true → k.1 = i) :
    (a.step (p.tagged i).recording s r).state = s ∧
      (a.step (p.tagged i).recording s r).activity.Owns i := by
  have none : ∀ x ∈ (0 : Multiset (ι × κ)), x.1 = i := by simp
  rcases a with _ | g | g | _ | _ | _ <;> first | cases hk | skip
  · obtain rfl : g = .presenting k := by cases g <;> cases hk; rfl
    refine ⟨rfl, ?_⟩
    rw [step_giveBack]
    simp only [GiveBack.step]
    split
    · next h =>
      refine ⟨fun _ x hx => ?_, none, none, fun x hx => by cases hx⟩
      rw [Multiset.mem_singleton.mp hx]
      exact hout h
    · exact .of_none (fun _ => rfl) rfl rfl fun k hk => by cases hk
  · obtain rfl : g = .presenting k := by cases g <;> cases hk; rfl
    refine ⟨rfl, ?_⟩
    rw [step_wrap]
    simp only [Wrap.step]
    split
    · next h =>
      refine ⟨fun _ => none, none, none, fun x hx => ?_⟩
      cases hx
      exact hout h
    · exact .of_none (fun _ => rfl) rfl rfl fun k hk => by cases hk

/-- A step keeps what is a pool's own in the pool, unless it takes in a connection that is presented. -/
private theorem Owns.step (hid : p.manager.KeepsIds) (h : a.Owns i)
    (hidle : ∀ k ∈ connectionsOf s.idle, k.1 = i)
    (hout : ∀ k, a.presented? = some k → s.isOut ((p.tagged i).manager.id k) = true → k.1 = i) :
    (∀ k ∈ connectionsOf (a.step (p.tagged i).recording s r).state.idle, k.1 = i) ∧
      (a.step (p.tagged i).recording s r).activity.Owns i := by
  cases hp : a.presented? with
  | some k =>
    obtain ⟨hs, ha⟩ := step_presented s r hp (hout k hp)
    rw [hs]
    exact ⟨hidle, ha⟩
  | none =>
    have hstands : ∀ (n : Nat) (w : ω), a.Stands (Standing.own i) (p.tagged i).manager n w :=
      fun n w => ⟨fun k hk _ => h.arriving hp k hk, fun k hk _ => h.staying k hk,
        fun k hk _ => h.leaving k hk⟩
    have hled := fun n => step_led (own_upheld i p.manager) (keepsIds_tagged i hid) s r a
      (hstands n _) (fun k hk _ => hidle k hk) (hstands n _)
    refine ⟨fun k hk => (hled _).idle k hk rfl, fun _ k hk => (hled _).activity.arriving k hk rfl,
      fun k hk => (hled _).activity.staying k hk rfl, fun k hk => (hled _).activity.leaving k hk rfl,
      fun k hk => ?_⟩
    rcases a with _ | _ | g | _ | _ | _ <;> first | cases hk | skip
    cases g with
    | presenting => cases hp
    | rejecting => cases hk
    | finished o => exact h.wrapped k hk

end Activity

structure Party.Own (i : ι) (q : Party (ι × κ)) : Prop where
  idle : ∀ k ∈ connectionsOf q.accounts.idle, k.1 = i
  tasks : ∀ t ∈ q.tasks, t.activity.Owns i
  wrapped : ∀ k ∈ q.wrapped, k.1 = i

private theorem Party.Own.enter {i : ι} {q : Party (ι × κ)} (h : q.Own i) {a : Activity (ι × κ)}
    (ha : a.Owns i) : (q.enter a).Own i := by
  refine ⟨h.idle, fun t ht => ?_, h.wrapped⟩
  rcases Multiset.mem_cons.mp ht with rfl | ht
  · exact ha
  · exact h.tasks t ht

variable [DecidableEq ι] {p : ι → Pool ω κ} {w : ω} {xs : List (Taken ι κ)} {x : Taken ι κ}
  {n n' : Neighbours ι ω κ}

def Taken.Clashes (p : ι → Pool ω κ) (x : Taken ι κ) : Prop :=
  ∃ k, x.activity.presented? = some k ∧ k.1 ≠ x.pool ∧
    x.accounts.isOut ((p x.pool).manager.id k.2) = true

namespace Neighbours

/-- What holds of all pools holds of all, when it holds of the one that has changed. -/
private theorem forall_set {P : ι → Party (ι × κ) → Prop} (h : ∀ i, P i (n.party i)) {i : ι}
    {q : Party (ι × κ)} (hi : P i q) : ∀ j, P j ((n.set i q).party j) := by
  intro j
  show P j (Function.update n.party i q j)
  by_cases hj : j = i
  · subst hj
    rw [Function.update_self]
    exact hi
  · rw [Function.update_of_ne hj]
    exact h j

private theorem Acts.own (hid : ∀ i, (p i).manager.KeepsIds) (h : ∀ i, (n.party i).Own i)
    (hs : Acts p n x n') (hno : ¬x.Clashes p) : ∀ i, (n'.party i).Own i := by
  obtain ⟨i, t, ts, ts', ht, hwoken⟩ := hs
  have hmem : t ∈ (n.party i).tasks := by simp [ht]
  obtain ⟨hidle, howns⟩ := Activity.Owns.step (n.party i).accounts n.world (hid i)
    ((h i).tasks t hmem) (h i).idle fun k hk hout =>
      not_not.mp fun hne => hno ⟨k, hk, hne, hout⟩
  refine forall_set h ⟨hidle, fun u hu => ?_, (h i).wrapped⟩
  rcases Multiset.mem_cons.mp hu with rfl | hu
  · exact howns
  · rcases hwoken.exists_of_mem hu with hold | ⟨v, hv, rfl⟩
    · exact (h i).tasks u (by simp [ht, hold])
    · exact ((h i).tasks v (by simp [ht, hv])).wake

private theorem Turn.own (h : ∀ i, (n.party i).Own i) (hs : Turn p n n') :
    ∀ i, (n'.party i).Own i := by
  have ofMaker : ∀ {i : ι} {ks ks' : Multiset (ι × κ)}, ks'.map Prod.fst = ks.map Prod.fst →
      (∀ k ∈ ks, k.1 = i) → ∀ k ∈ ks', k.1 = i := by
    intro i ks ks' hmap hks k hk
    have hmem : k.1 ∈ ks'.map Prod.fst := Multiset.mem_map_of_mem _ hk
    rw [hmap] at hmem
    obtain ⟨k', hk', heq⟩ := Multiset.mem_map.mp hmem
    exact heq.symm.trans (hks k' hk')
  have rest : ∀ {i : ι} {k : ι × κ} {ks : Multiset (ι × κ)}, (n.party i).wrapped = k ::ₘ ks →
      ({ n.party i with wrapped := ks } : Party (ι × κ)).Own i := fun {i k ks} hk =>
    ⟨(h i).idle, (h i).tasks, fun x hx => (h i).wrapped x (by simp [hk, hx])⟩
  cases hs with
  | borrow i | evict i | close i =>
    exact forall_set h ((h i).enter (.of_none (fun _ => rfl) rfl rfl nofun))
  | giveBack i k ks hk =>
    exact forall_set h ((rest hk).enter (.of_none nofun rfl rfl nofun))
  | detach i k ks hk =>
    exact forall_set h ((rest hk).enter (.of_none (fun _ => rfl) rfl rfl nofun))
  | unwrap i k ks hk => exact forall_set h (rest hk)
  | release i | wrap i =>
    exact forall_set h ((h i).enter (.of_none nofun rfl rfl nofun))
  | finish i t ts ht hf =>
    refine forall_set h ⟨(h i).idle, fun u hu => (h i).tasks u (by simp [ht, show u ∈ ts from hu]),
      fun k hk => ?_⟩
    rcases Multiset.mem_add.mp hk with hk | hk
    · exact ((h i).tasks t (by simp [ht])).lent hf k hk
    · exact (h i).wrapped k hk
  | make => exact h
  | use i wrapped raw w hwrapped =>
    exact forall_set h ⟨(h i).idle, (h i).tasks, ofMaker hwrapped (h i).wrapped⟩
  | stir i t ts ht =>
    refine forall_set h ⟨(h i).idle, fun u hu => ?_, (h i).wrapped⟩
    rcases Multiset.mem_cons.mp hu with rfl | hu
    · exact ((h i).tasks t (by simp [ht])).wake
    · exact (h i).tasks u (by simp [ht, hu])
  | letGo i => exact forall_set h ⟨by simp [Pool.letGo, State.drain], (h i).tasks, (h i).wrapped⟩

/-- As long as no connection is presented to a pool of another maker where its id is out, every pool
keeps its own connections only. -/
private theorem Run.own (hid : ∀ i, (p i).manager.KeepsIds) (h : Run p w xs n)
    (hno : ∀ x ∈ xs, ¬x.Clashes p) : ∀ i, (n.party i).Own i := by
  induction h with
  | start =>
    exact fun i => ⟨by simp, fun t ht => absurd ht (Multiset.notMem_zero t),
      fun k hk => absurd hk (Multiset.notMem_zero k)⟩
  | acts _ hs ih =>
    exact hs.own hid (ih fun x hx => hno x (List.mem_append_left _ hx))
      (hno _ (List.mem_append_right _ (List.mem_singleton_self _)))
  | turn _ hs ih => exact hs.own (ih hno)

end Neighbours

/-- A refusal leaves the accounts alone; if it has begun, whatever is out by then. -/
private theorem Activity.Refuses.step_of_presented {m : Pool ω κ} {s : State κ}
    {r : Recorded ω} {id : Nat} {a : Activity κ} (h : a.Refuses m.manager id)
    (hs : ∀ k, a.presented? = some k → id ∉ s.active) :
    (a.step m.recording s r).state = s ∧ (a.step m.recording s r).activity.Refuses m.manager id ∧
      (a.step m.recording s r).activity.stepsToRefuse = a.stepsToRefuse - 1 ∧
      (a.stepsToRefuse = 1 → id ∈ (a.step m.recording s r).world.idsOf .destroy) := by
  cases h with
  | presented k hk => exact (Refuses.presented k hk).step (hs k rfl)
  | presentedToWrap k hk => exact (Refuses.presentedToWrap k hk).step (hs k rfl)
  | rejected k hk =>
    exact ⟨rfl, .finished, rfl, fun _ => by simp [step_giveBack, GiveBack.step, hk]⟩
  | rejectedToWrap k hk =>
    exact ⟨rfl, .finishedWrap, rfl, fun _ => by simp [step_wrap, Wrap.step, hk]⟩
  | finished => exact ⟨rfl, .finished, rfl, fun h => by cases h⟩
  | finishedWrap => exact ⟨rfl, .finishedWrap, rfl, fun h => by cases h⟩

namespace Neighbours

structure Separated (p : ι → Pool ω κ) (xs : List (Taken ι κ)) (n : Neighbours ι ω κ) : Prop where
  /-- As long as no connection is presented to a pool of another maker where its id is out, the idle
  connections of a pool, and those that it hands out, are its own. -/
  own : (∀ x ∈ xs, ¬x.Clashes p) → ∀ i,
    (∀ k ∈ connectionsOf (n.party i).accounts.idle, k.1 = i) ∧
      (∀ t ∈ (n.party i).tasks, ∀ d k, t.activity = .borrow d (.finished (.ok k)) → k.1 = i) ∧
      ∀ k ∈ (n.party i).wrapped, k.1 = i
  /-- A connection that is presented to a pool where its id is not out is refused in two steps, which
  leave the accounts as they are: it is destroyed, and the answer names its id. -/
  refuses : ∀ {x : Taken ι κ} {n' : Neighbours ι ω κ} {id : Nat}, Acts p n x n' →
    x.activity.Refuses ((p x.pool).tagged x.pool).manager id →
    (∀ k, x.activity.presented? = some k → id ∉ x.accounts.active) →
    (n'.party x.pool).accounts = (n.party x.pool).accounts ∧ ∃ t ∈ (n'.party x.pool).tasks,
      t.activity.Refuses ((p x.pool).tagged x.pool).manager id ∧
        t.activity.stepsToRefuse = x.activity.stepsToRefuse - 1 ∧
        (x.activity.stepsToRefuse = 1 → id ∈ n'.world.idsOf .destroy)
  answers : ∀ (m : Manager ω (ι × κ)) (a : Activity (ι × κ)) (id : Nat), a.Refuses m id →
    a.stepsToRefuse = 0 → a = .giveBack (.finished (.error (notBorrowed id))) ∨
      a = .wrap (.finished (.error (notBorrowed id)))
  /-- What one pool does is nothing to the others. -/
  others : ∀ {x : Taken ι κ} {n' : Neighbours ι ω κ}, Acts p n x n' → ∀ j, j ≠ x.pool →
    n'.party j = n.party j

/-- Pools keep their connections apart, however they are used, until a connection is presented to a
pool of another maker where its id is out. -/
theorem run_separated (hid : ∀ i, (p i).manager.KeepsIds) (h : Run p w xs n) :
    Separated p xs n where
  own hno i := by
    have hown := h.own hid hno i
    exact ⟨hown.idle, fun t ht d k hk => (hown.tasks t ht).leaving k (by simp [hk, Activity.leaving]),
      hown.wrapped⟩
  refuses hs hrefuses hout := by
    obtain ⟨i, t, ts, ts', ht, -⟩ := hs
    obtain ⟨hstate, hnext, hsteps, hdestroyed⟩ := hrefuses.step_of_presented (r := n.world) hout
    refine ⟨?_, ⟨_, t.stranger⟩, ?_, hnext, hsteps, hdestroyed⟩
    · show (Function.update n.party i _ i).accounts = _
      rw [Function.update_self]
      exact hstate
    · show _ ∈ (Function.update n.party i _ i).tasks
      rw [Function.update_self]
      exact Multiset.mem_cons_self _ _
  answers _ _ _ hrefuses hz := hrefuses.eq_of_ended hz
  others hs j hj := by
    obtain ⟨i, t, ts, ts', ht, -⟩ := hs
    exact Function.update_of_ne hj _ _

section Twins

/-- Two pools alike. Each manager counts its connections from one. -/
def twin (i : Bool) : Pool (Bool → Nat) Nat where
  manager :=
    { clock _ := 0
      id n := n
      make w := (.ok (w i + 1), Function.update w i (w i + 1))
      activate n w := (.ok (), n, w)
      validate n w := (true, n, w)
      passivate n w := (.ok (), n, w)
      destroy _ w := w }
  settings := {}

private theorem twin_keepsIds (i : Bool) : (twin i).manager.KeepsIds where
  activate _ _ := rfl
  validate _ _ := rfl
  passivate _ _ := rfl

private theorem Run.sole {xs : List (Taken Bool Nat)} {n : Neighbours Bool (Bool → Nat) Nat}
    (h : Run twin (fun _ => 0) xs n) (i : Bool) (a : Activity (Bool × Nat))
    (ht : (n.party i).tasks = {⟨a, none⟩}) : ∃ xs, Run twin (fun _ => 0) xs
      { n.set i { n.party i with
          accounts := (a.step ((twin i).tagged i).recording (n.party i).accounts n.world).state
          tasks := {⟨(a.step ((twin i).tagged i).recording (n.party i).accounts n.world).activity,
            none⟩} } with
        world := (a.step ((twin i).tagged i).recording (n.party i).accounts n.world).world } :=
  ⟨_, h.acts (.step n i ⟨a, none⟩ 0 0 ht (.alone _))⟩

/-- Each pool has lent its first connection, and the one of the first pool is raw. -/
private theorem run_bothLent : ∃ xs n, Run twin (fun _ => 0) xs n ∧ n.raw = {(true, 1)} ∧
    n.party false = { accounts := { active := [1] }, wrapped := {(false, 1)} } := by
  have h := (Run.start (p := twin) (w := fun _ => 0)).turn (.borrow _ true rfl)
  obtain ⟨_, h⟩ := h.sole true (.borrow (some 30000) .reserving) rfl
  obtain ⟨_, h⟩ := h.sole true (.borrow (some 30000) .making) rfl
  obtain ⟨_, h⟩ := h.sole true (.borrow (some 30000) (.activating (true, 1) true)) rfl
  obtain ⟨_, h⟩ := h.sole true (.borrow (some 30000) (.checkingOut (true, 1))) rfl
  have h := h.turn (.finish _ true ⟨.borrow (some 30000) (.finished (.ok (true, 1))), none⟩ 0 rfl rfl)
  have h := h.turn (.unwrap _ true (true, 1) 0 rfl)
  have h := h.turn (.borrow _ false rfl)
  obtain ⟨_, h⟩ := h.sole false (.borrow (some 30000) .reserving) rfl
  obtain ⟨_, h⟩ := h.sole false (.borrow (some 30000) .making) rfl
  obtain ⟨_, h⟩ := h.sole false (.borrow (some 30000) (.activating (false, 1) true)) rfl
  obtain ⟨_, h⟩ := h.sole false (.borrow (some 30000) (.checkingOut (false, 1))) rfl
  have h := h.turn (.finish _ false ⟨.borrow (some 30000) (.finished (.ok (false, 1))), none⟩ 0 rfl rfl)
  exact ⟨_, _, h, rfl, rfl⟩

theorem bothLent_separated : ∃ xs n, (∀ i, (twin i).manager.KeepsIds) ∧
    Run twin (fun _ => 0) xs n ∧ n.raw = {(true, 1)} ∧ (n.party false).accounts.active = [1] ∧
      Separated twin xs n := by
  obtain ⟨xs, n, h, hraw, hfalse⟩ := run_bothLent
  exact ⟨xs, n, twin_keepsIds, h, hraw, by rw [hfalse], run_separated twin_keepsIds h⟩

/-- A step of the only activity on a pool, whatever the others have done to the world. -/
private theorem Run.exists_sole {n : Neighbours Bool (Bool → Nat) Nat} {i : Bool}
    {q : Party (Bool × Nat)} (h : ∃ xs, Run twin (fun _ => 0) xs n) (hq : n.party i = q)
    (a : Activity (Bool × Nat)) (ht : q.tasks = {⟨a, none⟩}) (q' : Party (Bool × Nat))
    (hq' : ∀ r, { q with
      accounts := (a.step ((twin i).tagged i).recording q.accounts r).state
      tasks := {⟨(a.step ((twin i).tagged i).recording q.accounts r).activity, none⟩} } = q') :
    ∃ n', (∃ xs, Run twin (fun _ => 0) xs n') ∧ n'.party i = q' := by
  subst hq
  obtain ⟨xs, h⟩ := h
  refine ⟨_, h.sole i a ht, ?_⟩
  rw [← hq' n.world]
  exact Function.update_self _ _ _

/-- The raw connection is released to the second pool, which has its own first connection out. It
answers that all is well, takes the connection in, and its own loan counts no more. -/
private theorem run_exchanged : ∃ n, (∃ xs, Run twin (fun _ => 0) xs n) ∧ n.party false =
    { accounts := { idle := [⟨(true, 1), 0⟩] }
      tasks := {⟨.giveBack (.finished (.ok ())), none⟩}
      wrapped := {(false, 1)} } := by
  obtain ⟨xs, n, h, hraw, hfalse⟩ := run_bothLent
  have h := h.turn (.release n false (true, 1) 0 (by rw [hfalse]) hraw)
  rw [hfalse] at h
  obtain ⟨n₁, h, hparty⟩ := Run.exists_sole ⟨xs, h⟩ (Function.update_self _ _ _) _ rfl
    { accounts := { active := [1] }, tasks := {⟨.giveBack (.passivating 1 (true, 1)), none⟩}
      wrapped := {(false, 1)} } fun _ => rfl
  obtain ⟨n₂, h, hparty⟩ := Run.exists_sole h hparty _ rfl
    { accounts := { active := [1] }, tasks := {⟨.giveBack (.settling 1 (true, 1) true), none⟩}
      wrapped := {(false, 1)} } fun _ => rfl
  obtain ⟨n₃, h, hparty⟩ := Run.exists_sole h hparty _ rfl
    { accounts := { idle := [⟨(true, 1), 0⟩] }, tasks := {⟨.giveBack (.signalling none), none⟩}
      wrapped := {(false, 1)} } fun _ => rfl
  exact Run.exists_sole h hparty _ rfl _ fun _ => rfl

/-- A pool can come to keep a connection of another maker. -/
theorem not_always_own : ¬∀ xs n, Run twin (fun _ => 0) xs n →
    ∀ i, ∀ k ∈ connectionsOf (n.party i).accounts.idle, k.1 = i := by
  intro h
  obtain ⟨n, ⟨xs, hrun⟩, hparty⟩ := run_exchanged
  have hown := h xs n hrun false (true, 1) (by rw [hparty]; exact Multiset.mem_singleton_self _)
  cases hown

end Twins

end Neighbours

end DirectoryClient.Pool
