import DirectoryClient.Proofs.Pool.Loans

/-! What can be said of a connection from its return to a pool to its next loan, if every hook leads it
from one standing to the next. -/
namespace DirectoryClient.Pool

variable {ω κ : Type}

structure Standing (ω κ : Type) where
  /-- When it is given back, before it is passivated. -/
  arrives : ω → κ → Prop
  /-- While it is kept in the pool, or is to be. -/
  stays : ω → κ → Prop
  /-- Once it has been activated. -/
  leaves : κ → Prop

structure Standing.Upheld (S : Standing ω κ) (m : Manager ω κ) : Prop where
  make : ∀ {w k w'}, m.make w = (.ok k, w') → S.stays w' k
  activate : ∀ {w k k' w'}, m.activate k w = (.ok (), k', w') → S.stays w k → S.leaves k'
  validate_stays : ∀ {w k k' w'}, m.validate k w = (true, k', w') → S.stays w k → S.stays w' k'
  validate_leaves : ∀ {w k k' w'}, m.validate k w = (true, k', w') → S.leaves k → S.leaves k'
  passivate : ∀ {w k k' w'}, m.passivate k w = (.ok (), k', w') → S.arrives w k → S.stays w' k'

/-- The idle connections that an eviction pass is going to put back, as far as it knows. -/
private def Eviction.staying : Eviction κ → Multiset κ
  | expiring _ kept _ => connectionsOf kept
  | testing untested valid _ _ => connectionsOf untested + connectionsOf valid
  | discarding _ valid _ => connectionsOf valid
  | puttingBack kept _ => connectionsOf kept
  | adopting k _ _ => {k}
  | _ => 0

namespace Activity

/-- The connection that has come back and not been passivated. -/
def arriving : Activity κ → Multiset κ
  | giveBack (.presenting k) | giveBack (.passivating _ k) => {k}
  | _ => 0

/-- The connections that are to be kept in the pool, or have been until now. -/
def staying : Activity κ → Multiset κ
  | borrow _ (.activating k _) => {k}
  | giveBack (.validating _ k) | giveBack (.settling _ k true) => {k}
  | evict e => e.staying
  | _ => 0

/-- The connection that is to be lent, or has just been. -/
def leaving : Activity κ → Multiset κ
  | borrow _ (.validating k _) | borrow _ (.checkingOut k) | borrow _ (.finished (.ok k)) => {k}
  | _ => 0

structure Stands (S : Standing ω κ) (m : Manager ω κ) (i : Nat) (w : ω) (a : Activity κ) : Prop where
  arriving : ∀ k ∈ a.arriving, m.id k = i → S.arrives w k
  staying : ∀ k ∈ a.staying, m.id k = i → S.stays w k
  leaving : ∀ k ∈ a.leaving, m.id k = i → S.leaves k

private theorem arriving_le (a : Activity κ) : a.arriving ≤ a.own + a.lent := by
  cases a with
  | giveBack g =>
    cases g with
    | presenting | passivating => exact Multiset.le_add_left _ _
    | _ => exact Multiset.zero_le _
  | borrow | wrap | detach | evict | close => exact Multiset.zero_le _

private theorem staying_le (a : Activity κ) : a.staying ≤ a.own + a.lent := by
  cases a with
  | borrow d b =>
    cases b with
    | activating => exact Multiset.le_add_right _ _
    | _ => exact Multiset.zero_le _
  | giveBack g =>
    cases g with
    | validating => exact Multiset.le_add_left _ _
    | settling id k keep =>
      cases keep with
      | true => exact Multiset.le_add_left _ _
      | false => exact Multiset.zero_le _
    | _ => exact Multiset.zero_le _
  | evict e =>
    cases e with
    | expiring | discarding => exact (Multiset.le_add_left _ _).trans (Multiset.le_add_right _ _)
    | testing => exact (Multiset.le_add_right _ _).trans (Multiset.le_add_right _ _)
    | puttingBack | adopting => exact Multiset.le_add_right _ _
    | _ => exact Multiset.zero_le _
  | wrap | detach | close => exact Multiset.zero_le _

private theorem leaving_le (a : Activity κ) : a.leaving ≤ a.own + a.lent := by
  cases a with
  | borrow d b =>
    cases b with
    | validating | checkingOut => exact Multiset.le_add_right _ _
    | finished o =>
      cases o with
      | ok k => exact Multiset.le_add_left _ _
      | error e => exact Multiset.zero_le _
    | _ => exact Multiset.zero_le _
  | giveBack | wrap | detach | evict | close => exact Multiset.zero_le _

variable {S : Standing ω κ} {m : Manager ω κ} {i : Nat} {w : ω} {a : Activity κ}

private theorem stands_wake : a.wake.Stands S m i w ↔ a.Stands S m i w := by
  rcases a with ⟨d, _ | _⟩ | _ <;> exact ⟨fun h => ⟨h.1, h.2, h.3⟩, fun h => ⟨h.1, h.2, h.3⟩⟩

private theorem Stands.of_none (ha : a.arriving = 0) (hs : a.staying = 0) (hl : a.leaving = 0) :
    a.Stands S m i w :=
  ⟨by simp [ha], by simp [hs], by simp [hl]⟩

private theorem Stands.of_arriving {k : κ} (ha : a.arriving = {k}) (hs : a.staying = 0)
    (hl : a.leaving = 0) (h : m.id k = i → S.arrives w k) : a.Stands S m i w := by
  refine ⟨fun x hx => ?_, by simp [hs], by simp [hl]⟩
  obtain rfl := Multiset.mem_singleton.mp (ha ▸ hx)
  exact h

private theorem Stands.of_staying (ha : a.arriving = 0) (hl : a.leaving = 0)
    (h : ∀ k ∈ a.staying, m.id k = i → S.stays w k) : a.Stands S m i w :=
  ⟨by simp [ha], h, by simp [hl]⟩

private theorem Stands.of_stays {k : κ} (ha : a.arriving = 0) (hs : a.staying = {k})
    (hl : a.leaving = 0) (h : m.id k = i → S.stays w k) : a.Stands S m i w := by
  refine .of_staying ha hl fun x hx => ?_
  obtain rfl := Multiset.mem_singleton.mp (hs ▸ hx)
  exact h

private theorem Stands.of_leaving {k : κ} (ha : a.arriving = 0) (hs : a.staying = 0)
    (hl : a.leaving = {k}) (h : m.id k = i → S.leaves k) : a.Stands S m i w := by
  refine ⟨by simp [ha], by simp [hs], fun x hx => ?_⟩
  obtain rfl := Multiset.mem_singleton.mp (hl ▸ hx)
  exact h

end Activity

section Steps

open Activity

/-- The idle connections of this id, and those of an activity, have the standing of their stations
after a step. -/
structure Led (S : Standing ω κ) (m : Manager ω κ) (i : Nat)
    (t : Pool.Step (Activity κ) (Recorded ω) κ) : Prop where
  idle : ∀ k ∈ connectionsOf t.state.idle, m.id k = i → S.stays t.world.world k
  activity : t.activity.Stands S m i t.world.world

variable {p : Pool ω κ} {S : Standing ω κ} {i : Nat} (hup : S.Upheld p.manager)
variable (hid : p.manager.KeepsIds) (s : State κ) (r : Recorded ω)

include hup hid in
private theorem borrow_led (d : Option Nat) (b : Borrow κ)
    (h : (borrow d b).Stands S p.manager i r.world)
    (hidle : ∀ k ∈ connectionsOf s.idle, p.manager.id k = i →
      S.stays ((borrow d b).step p.recording s r).world.world k)
    (h' : (borrow d b).Stands S p.manager i ((borrow d b).step p.recording s r).world.world) :
    Led S p.manager i ((borrow d b).step p.recording s r) := by
  cases b with
  | reserving =>
    rw [step_borrow] at hidle ⊢
    simp only [Borrow.step, settings_recording] at hidle ⊢
    rcases s.reserve_cases p.settings (d.any (· ≤ p.recording.manager.clock r)) with
      ⟨cause, hs⟩ | hs | ⟨k, s', hs, -, -, -, -, -, hi⟩
    · rw [hs] at hidle ⊢
      exact ⟨hidle, .of_none rfl rfl rfl⟩
    · rw [hs] at hidle ⊢
      exact ⟨hidle, .of_none rfl rfl rfl⟩
    · cases k with
      | none =>
        rw [hs] at hidle ⊢
        rw [← hi] at hidle
        exact ⟨fun k hk => hidle k (Multiset.mem_add.mpr (.inr hk)), .of_none rfl rfl rfl⟩
      | some k =>
        rw [hs] at hidle ⊢
        rw [← hi] at hidle
        exact ⟨fun k hk => hidle k (Multiset.mem_add.mpr (.inr hk)),
          .of_staying rfl rfl fun k hk => hidle k (Multiset.mem_add.mpr (.inl hk))⟩
  | making =>
    rw [step_borrow] at hidle ⊢
    rcases hm : p.manager.make r.world with ⟨_ | k, w⟩
    · simp only [Borrow.step, manager_recording, Manager.recording, hm] at hidle ⊢
      exact ⟨hidle, .of_none rfl rfl rfl⟩
    · simp only [Borrow.step, manager_recording, Manager.recording, hm] at hidle ⊢
      exact ⟨hidle, .of_stays rfl rfl rfl fun _ => hup.make hm⟩
  | activating k isNew =>
    rw [step_borrow] at hidle ⊢
    rcases hm : p.manager.activate k r.world with ⟨_ | u, k', w⟩
    · simp only [Borrow.step, manager_recording, Manager.recording, hm] at hidle ⊢
      exact ⟨hidle, .of_none rfl rfl rfl⟩
    · simp only [Borrow.step, manager_recording, Manager.recording, settings_recording, hm]
        at hidle ⊢
      have hk : p.manager.id k' = p.manager.id k := by simpa [hm] using hid.activate k r.world
      have hleaves : p.manager.id k' = i → S.leaves k' := fun hi =>
        hup.activate hm (h.staying k (Multiset.mem_singleton_self k) (hk.symm.trans hi))
      refine ⟨hidle, ?_⟩
      by_cases ht : p.settings.testOnBorrow = true
      · simp only [ht, ↓reduceIte]
        exact .of_leaving rfl rfl rfl hleaves
      · simp only [ht, Bool.false_eq_true, ↓reduceIte]
        exact .of_leaving rfl rfl rfl hleaves
  | validating k isNew =>
    rw [step_borrow] at hidle ⊢
    rcases hm : p.manager.validate k r.world with ⟨_ | _, k', w⟩
    · simp only [Borrow.step, manager_recording, Manager.recording, hm] at hidle ⊢
      exact ⟨hidle, .of_none rfl rfl rfl⟩
    · simp only [Borrow.step, manager_recording, Manager.recording, hm] at hidle ⊢
      have hk : p.manager.id k' = p.manager.id k := by simpa [hm] using hid.validate k r.world
      exact ⟨hidle, .of_leaving rfl rfl rfl fun hi => hup.validate_leaves hm
        (h.leaving k (Multiset.mem_singleton_self k) (hk.symm.trans hi))⟩
  | checkingOut k =>
    exact ⟨hidle, .of_leaving rfl rfl rfl (h'.leaving k (Multiset.mem_singleton_self k))⟩
  | waiting =>
    rw [step_borrow] at hidle ⊢
    simp only [Borrow.step] at hidle ⊢
    split <;> exact ⟨hidle, .of_none rfl rfl rfl⟩
  | discarding k cause => exact ⟨hidle, .of_none rfl rfl rfl⟩
  | cancelling cause => exact ⟨hidle, .of_none rfl rfl rfl⟩
  | signalling cause => cases cause <;> exact ⟨hidle, .of_none rfl rfl rfl⟩
  | finished o => exact ⟨hidle, h'⟩

include hup hid in
private theorem giveBack_led (g : GiveBack κ) (h : (giveBack g).Stands S p.manager i r.world)
    (hidle : ∀ k ∈ connectionsOf s.idle, p.manager.id k = i →
      S.stays ((giveBack g).step p.recording s r).world.world k)
    (h' : (giveBack g).Stands S p.manager i ((giveBack g).step p.recording s r).world.world) :
    Led S p.manager i ((giveBack g).step p.recording s r) := by
  cases g with
  | presenting k =>
    rw [step_giveBack] at hidle h' ⊢
    simp only [GiveBack.step] at hidle h' ⊢
    refine ⟨hidle, ?_⟩
    split
    · exact .of_arriving rfl rfl rfl (h'.arriving k (Multiset.mem_singleton_self k))
    · exact .of_none rfl rfl rfl
  | passivating id k =>
    rw [step_giveBack] at hidle ⊢
    rcases hm : p.manager.passivate k r.world with ⟨_ | u, k', w⟩
    · simp only [GiveBack.step, manager_recording, Manager.recording, hm] at hidle ⊢
      exact ⟨hidle, .of_none rfl rfl rfl⟩
    · simp only [GiveBack.step, manager_recording, Manager.recording, settings_recording, hm]
        at hidle ⊢
      have hk : p.manager.id k' = p.manager.id k := by simpa [hm] using hid.passivate k r.world
      have hstays : p.manager.id k' = i → S.stays w k' := fun hi =>
        hup.passivate hm (h.arriving k (Multiset.mem_singleton_self k) (hk.symm.trans hi))
      refine ⟨hidle, ?_⟩
      by_cases ht : p.settings.testOnReturn = true
      · simp only [ht, ↓reduceIte]
        exact .of_stays rfl rfl rfl hstays
      · simp only [ht, Bool.false_eq_true, ↓reduceIte]
        exact .of_stays rfl rfl rfl hstays
  | validating id k =>
    rw [step_giveBack] at hidle ⊢
    rcases hm : p.manager.validate k r.world with ⟨_ | _, k', w⟩
    · simp only [GiveBack.step, manager_recording, Manager.recording, hm] at hidle ⊢
      exact ⟨hidle, .of_none rfl rfl rfl⟩
    · simp only [GiveBack.step, manager_recording, Manager.recording, hm] at hidle ⊢
      have hk : p.manager.id k' = p.manager.id k := by simpa [hm] using hid.validate k r.world
      exact ⟨hidle, .of_stays rfl rfl rfl fun hi => hup.validate_stays hm
        (h.staying k (Multiset.mem_singleton_self k) (hk.symm.trans hi))⟩
  | settling id k keep =>
    rw [step_giveBack] at hidle h' ⊢
    simp only [GiveBack.step, settings_recording] at hidle h' ⊢
    cases keep with
    | false =>
      have hs : s.settleReturn p.settings (p.recording.manager.clock r) id k false =
          (some k, s.forget id) := by simp [State.settleReturn]
      rw [hs]
      exact ⟨hidle, .of_none rfl rfl rfl⟩
    | true =>
      rcases s.settleReturn_cases p.settings (p.recording.manager.clock r) id k true with
        hs | ⟨-, -, hs⟩
      · rw [hs]
        exact ⟨hidle, .of_none rfl rfl rfl⟩
      · rw [hs]
        refine ⟨fun x hx => ?_, .of_none rfl rfl rfl⟩
        rw [connectionsOf_append] at hx
        rcases Multiset.mem_add.mp hx with hx | hx
        · exact hidle x hx
        · exact h'.staying x hx
  | signalling k => cases k <;> exact ⟨hidle, .of_none rfl rfl rfl⟩
  | rejecting | discarding | finished => exact ⟨hidle, .of_none rfl rfl rfl⟩

include hup hid in
private theorem evict_led (e : Eviction κ) (h : (evict e).Stands S p.manager i r.world)
    (hidle : ∀ k ∈ connectionsOf s.idle, p.manager.id k = i →
      S.stays ((evict e).step p.recording s r).world.world k)
    (h' : (evict e).Stands S p.manager i ((evict e).step p.recording s r).world.world) :
    Led S p.manager i ((evict e).step p.recording s r) := by
  cases e with
  | starting =>
    rw [step_evict] at hidle ⊢
    simp only [Eviction.step, settings_recording] at hidle ⊢
    rcases s.takeForEviction_cases p.settings (p.recording.manager.clock r) with
      ⟨-, hs⟩ | ⟨-, expired, kept, hs, hi⟩
    · rw [hs] at hidle ⊢
      exact ⟨hidle, .of_none rfl rfl rfl⟩
    · rw [hs] at hidle ⊢
      rw [← hi] at hidle
      exact ⟨by simp, .of_staying rfl rfl fun k hk => hidle k (Multiset.mem_add.mpr (.inr hk))⟩
  | expiring expired kept n =>
    cases expired with
    | nil =>
      rw [step_evict] at hidle h' ⊢
      simp only [Eviction.step, settings_recording] at hidle h' ⊢
      refine ⟨hidle, ?_⟩
      by_cases ht : p.settings.testWhileIdle = true
      · simp only [ht, ↓reduceIte]
        refine .of_staying rfl rfl fun k hk => h'.staying k ?_
        simpa [staying, Eviction.staying] using hk
      · simp only [ht, Bool.false_eq_true, ↓reduceIte]
        exact .of_staying rfl rfl h'.staying
    | cons x expired => exact ⟨hidle, .of_staying rfl rfl h'.staying⟩
  | testing untested valid invalid n =>
    cases untested with
    | nil =>
      refine ⟨hidle, .of_staying rfl rfl fun k hk => h'.staying k ?_⟩
      exact Multiset.mem_add.mpr (.inr hk)
    | cons x untested =>
      rw [step_evict] at hidle h' ⊢
      have older : ∀ k ∈ connectionsOf untested + connectionsOf valid,
          k ∈ (evict (.testing (x :: untested) valid invalid n)).staying := by
        intro k hk
        rw [staying, Eviction.staying, connectionsOf_cons, add_assoc]
        exact Multiset.mem_add.mpr (.inr hk)
      rcases hm : p.manager.validate x.connection r.world with ⟨_ | _, k', w⟩
      · simp only [Eviction.step, manager_recording, Manager.recording, hm] at hidle h' ⊢
        exact ⟨hidle, .of_staying rfl rfl fun k hk => h'.staying k (older k hk)⟩
      · simp only [Eviction.step, manager_recording, Manager.recording, hm] at hidle h' ⊢
        have hk : p.manager.id k' = p.manager.id x.connection := by
          simpa [hm] using hid.validate x.connection r.world
        refine ⟨hidle, .of_staying rfl rfl fun k hmem hi => ?_⟩
        have hcases : k ∈ connectionsOf untested + connectionsOf valid ∨ k = k' := by
          simpa [staying, Eviction.staying, or_assoc] using hmem
        rcases hcases with hold | rfl
        · exact h'.staying k (older k hold) hi
        · refine hup.validate_stays hm (h.staying x.connection ?_ (hk.symm.trans hi))
          simp [staying, Eviction.staying]
  | discarding invalid valid n =>
    cases invalid with
    | nil => exact ⟨hidle, .of_staying rfl rfl h'.staying⟩
    | cons x invalid => exact ⟨hidle, .of_staying rfl rfl h'.staying⟩
  | puttingBack kept n =>
    refine ⟨fun k hk => ?_, .of_none rfl rfl rfl⟩
    have hmem : k ∈ connectionsOf (kept ++ s.idle) := hk
    rw [connectionsOf_append] at hmem
    rcases Multiset.mem_add.mp hmem with hk | hk
    · exact h'.staying k hk
    · exact hidle k hk
  | making missing n =>
    cases missing with
    | zero => exact ⟨hidle, .of_none rfl rfl rfl⟩
    | succ missing =>
      rw [step_evict] at hidle ⊢
      rcases hm : p.manager.make r.world with ⟨_ | k, w⟩
      · simp only [Eviction.step, manager_recording, Manager.recording, hm] at hidle ⊢
        exact ⟨hidle, .of_none rfl rfl rfl⟩
      · simp only [Eviction.step, manager_recording, Manager.recording, hm] at hidle ⊢
        exact ⟨hidle, .of_stays rfl rfl rfl fun _ => hup.make hm⟩
  | adopting k missing n =>
    rw [step_evict] at hidle h' ⊢
    simp only [Eviction.step, settings_recording] at hidle h' ⊢
    rcases s.adopt_cases p.settings (p.recording.manager.clock r) k with hs | ⟨-, -, hs⟩
    · rw [hs] at hidle ⊢
      exact ⟨hidle, .of_none rfl rfl rfl⟩
    · rw [hs] at hidle h' ⊢
      refine ⟨fun x hx => ?_, .of_none rfl rfl rfl⟩
      rw [connectionsOf_append] at hx
      rcases Multiset.mem_add.mp hx with hx | hx
      · exact hidle x hx
      · exact h'.staying x hx
  | refusing | signalling | finished => exact ⟨hidle, .of_none rfl rfl rfl⟩

private theorem close_led (c : Closing κ)
    (hidle : ∀ k ∈ connectionsOf s.idle, p.manager.id k = i →
      S.stays ((close c).step p.recording s r).world.world k) :
    Led S p.manager i ((close c).step p.recording s r) := by
  cases c with
  | starting =>
    rw [step_close] at hidle ⊢
    simp only [Closing.step] at hidle ⊢
    rcases s.close_cases with ⟨-, hs⟩ | ⟨-, hs⟩
    · rw [hs] at hidle ⊢
      exact ⟨hidle, .of_none rfl rfl rfl⟩
    · rw [hs] at hidle ⊢
      exact ⟨by simp, .of_none rfl rfl rfl⟩
  | destroying ks => cases ks <;> exact ⟨hidle, .of_none rfl rfl rfl⟩
  | signalling | finished => exact ⟨hidle, .of_none rfl rfl rfl⟩

include hup hid in
/-- A step leads every connection from the standing of one station to that of the next, as long as
those that it does not touch keep theirs. -/
theorem step_led (a : Activity κ) (h : a.Stands S p.manager i r.world)
    (hidle : ∀ k ∈ connectionsOf s.idle, p.manager.id k = i →
      S.stays (a.step p.recording s r).world.world k)
    (h' : a.Stands S p.manager i (a.step p.recording s r).world.world) :
    Led S p.manager i (a.step p.recording s r) := by
  cases a with
  | borrow d b => exact borrow_led hup hid s r d b h hidle h'
  | giveBack g => exact giveBack_led hup hid s r g h hidle h'
  | wrap g => cases g <;> exact ⟨hidle, .of_none rfl rfl rfl⟩
  | detach d => cases d <;> exact ⟨hidle, .of_none rfl rfl rfl⟩
  | evict e => exact evict_led hup hid s r e h hidle h'
  | close c => exact close_led s r c hidle

end Steps

/-- Turns after the release of a connection until it is lent again: no caller has it in hand, and the
world does no more to it than it may. -/
inductive Undisturbed (p : Pool ω κ) (i : Nat) (may : ω → ω → κ → Prop) (c : Community ω κ) :
    Community ω κ → Prop
  | refl : Undisturbed p i may c c
  | turn {c' c'' : Community ω κ} : Undisturbed p i may c c' →
    (∃ a, Acts p a c' c'') ∨ Turn p c' c'' →
    (∀ k ∈ c'.wrapped + c'.raw + c'.outside, p.manager.id k ≠ i) →
    (∀ k ∈ c'.holdings, p.manager.id k = i → may c'.world.world c''.world.world k) →
    Undisturbed p i may c c''

structure Community.Stands (S : Standing ω κ) (m : Manager ω κ) (i : Nat) (c : Community ω κ) :
    Prop where
  idle : ∀ k ∈ connectionsOf c.accounts.idle, m.id k = i → S.stays c.world.world k
  tasks : ∀ t ∈ c.tasks, t.activity.Stands S m i c.world.world

section Runs

variable {p : Pool ω κ} {S : Standing ω κ} {i : Nat} {may : ω → ω → κ → Prop}
  {c c' : Community ω κ}

private theorem Community.idle_le (c : Community ω κ) : connectionsOf c.accounts.idle ≤ c.holdings := by
  rw [holdings, add_assoc, add_assoc]
  exact Multiset.le_add_right _ _

private theorem Community.holdings_le {t : Task κ} (ht : t ∈ c.tasks) : t.holdings ≤ c.holdings :=
  (Multiset.le_add_left _ _).trans (idle_add_holdings_le ht)

def Standing.Endures (S : Standing ω κ) (may : ω → ω → κ → Prop) : Prop :=
  ∀ {w w' k}, may w w' k → (S.arrives w k → S.arrives w' k) ∧ (S.stays w k → S.stays w' k)

/-- A connection in the pool is as it was before, in a world that has gone on. -/
private theorem Community.Stands.endure (h : c.Stands S p.manager i) (hend : S.Endures may) {w' : ω}
    (hmay : ∀ k ∈ c.holdings, p.manager.id k = i → may c.world.world w' k) :
    (∀ k ∈ connectionsOf c.accounts.idle, p.manager.id k = i → S.stays w' k) ∧
      ∀ t ∈ c.tasks, t.activity.Stands S p.manager i w' := by
  refine ⟨fun k hk hi => (hend (hmay k (Multiset.mem_of_le c.idle_le hk) hi)).2 (h.idle k hk hi),
    fun t ht => ⟨fun k hk hi => ?_, fun k hk hi => ?_, (h.tasks t ht).leaving⟩⟩
  · have hmem := Multiset.mem_of_le (t.activity.arriving_le.trans (holdings_le ht)) hk
    exact (hend (hmay k hmem hi)).1 ((h.tasks t ht).arriving k hk hi)
  · have hmem := Multiset.mem_of_le (t.activity.staying_le.trans (holdings_le ht)) hk
    exact (hend (hmay k hmem hi)).2 ((h.tasks t ht).staying k hk hi)

theorem Community.Stands.acts (h : c.Stands S p.manager i) (hup : S.Upheld p.manager)
    (hid : p.manager.KeepsIds) (hend : S.Endures may) {a : Activity κ} (hs : Acts p a c c')
    (hmay : ∀ k ∈ c.holdings, p.manager.id k = i → may c.world.world c'.world.world k) :
    c'.Stands S p.manager i := by
  obtain ⟨hidle, htasks⟩ := h.endure hend hmay
  obtain ⟨_, t, ts, ts', ht, hw⟩ := hs
  have hmem : t ∈ c.tasks := by simp [ht]
  have hled := step_led hup hid c.accounts c.world t.activity (h.tasks t hmem) hidle (htasks t hmem)
  refine ⟨hled.idle, fun u hu => ?_⟩
  rcases Multiset.mem_cons.mp hu with rfl | hu
  · exact hled.activity
  · rcases hw.exists_of_mem hu with hold | ⟨v, hv, rfl⟩
    · exact htasks u (by simp [ht, hold])
    · exact Activity.stands_wake.mpr (htasks v (by simp [ht, hv]))

/-- Who comes back has to have the standing of a connection that does. -/
theorem Community.Stands.turn (h : c.Stands S p.manager i) (hend : S.Endures may)
    (hs : Turn p c c') (harrives : ∀ k ∈ c.wrapped + c.raw + c.outside, p.manager.id k = i →
      S.arrives c'.world.world k)
    (hmay : ∀ k ∈ c.holdings, p.manager.id k = i → may c.world.world c'.world.world k) :
    c'.Stands S p.manager i := by
  obtain ⟨hidle, htasks⟩ := h.endure hend hmay
  have entered : ∀ {t : Task κ}, t.activity.Stands S p.manager i c'.world.world →
      ∀ u ∈ t ::ₘ c.tasks, u.activity.Stands S p.manager i c'.world.world := by
    intro t ht u hu
    rcases Multiset.mem_cons.mp hu with rfl | hu
    · exact ht
    · exact htasks u hu
  have given : ∀ {k : κ} {rest : Multiset κ}, c.wrapped = k ::ₘ rest ∨ c.raw = k ::ₘ rest ∨
      c.outside = k ::ₘ rest → p.manager.id k = i → S.arrives c'.world.world k := by
    intro k rest hk
    refine harrives k ?_
    rcases hk with hk | hk | hk <;> simp [hk]
  cases hs with
  | borrow | evict | close | detach =>
    exact ⟨hidle, entered (.of_none rfl rfl rfl)⟩
  | release k rest hk =>
    exact ⟨hidle, entered (.of_arriving rfl rfl rfl (given (.inl hk)))⟩
  | releaseRaw k rest _ hk =>
    exact ⟨hidle, entered (.of_arriving rfl rfl rfl (given (.inr (.inl hk))))⟩
  | releaseStranger k rest _ hk =>
    exact ⟨hidle, entered (.of_arriving rfl rfl rfl (given (.inr (.inr hk))))⟩
  | wrapRaw | wrapStranger => exact ⟨hidle, entered (.of_none rfl rfl rfl)⟩
  | finish t ts ht _ => exact ⟨hidle, fun u hu => htasks u (by simp [ht, show u ∈ ts from hu])⟩
  | stir t ts ht =>
    refine ⟨hidle, fun u hu => ?_⟩
    rcases Multiset.mem_cons.mp hu with rfl | hu
    · exact Activity.stands_wake.mpr (htasks t (by simp [ht]))
    · exact htasks u (by simp [ht, hu])
  | unwrap | make | use => exact ⟨hidle, htasks⟩
  | letGo => exact ⟨by simp [letGo, State.drain], htasks⟩

private theorem stands_of_release (hid : p.manager.KeepsIds) {w : ω} {as : List (Activity κ)}
    (h : Run p w as c) (hn : (c.world.idsOf .make).Nodup) {k : κ} {rest : Multiset κ}
    (hk : c.wrapped = k ::ₘ rest) (harrives : S.arrives c.world.world k) :
    (Community.enter ⟨.giveBack (.presenting k), none⟩ { c with wrapped := rest }).Stands S
      p.manager (p.manager.id k) := by
  have hnodup := (run_sound hid h hn).holdings_nodup hn
  -- whoever else holds a connection of the same id holds it twice
  have elsewhere : ∀ {ks : Multiset κ}, ks + c.wrapped ≤ c.holdings →
      ∀ x ∈ ks, p.manager.id x ≠ p.manager.id k := by
    intro ks hle x hx hi
    have hpair := Multiset.nodup_of_le (Multiset.map_le_map hle) hnodup
    rw [Multiset.map_add, Multiset.nodup_add] at hpair
    refine Multiset.disjoint_left.mp hpair.2.2 (Multiset.mem_map_of_mem p.manager.id hx) ?_
    rw [hi, hk]
    exact Multiset.mem_map_of_mem p.manager.id (Multiset.mem_cons_self k rest)
  have hidle : ∀ x ∈ connectionsOf c.accounts.idle, p.manager.id x ≠ p.manager.id k := by
    refine elsewhere (Multiset.le_iff_exists_add.mpr
      ⟨(c.tasks.map Task.holdings).sum + c.raw + c.outside, ?_⟩)
    simp only [Community.holdings]
    abel
  have htask : ∀ t ∈ c.tasks, ∀ x ∈ t.holdings, p.manager.id x ≠ p.manager.id k := by
    intro t ht
    obtain ⟨ts, hts⟩ := Multiset.exists_cons_of_mem ht
    refine elsewhere (Multiset.le_iff_exists_add.mpr
      ⟨connectionsOf c.accounts.idle + (ts.map Task.holdings).sum + c.raw + c.outside, ?_⟩)
    simp only [Community.holdings, hts, Multiset.map_cons, Multiset.sum_cons]
    abel
  refine ⟨fun x hx hi => absurd hi (hidle x hx), fun t ht => ?_⟩
  rcases Multiset.mem_cons.mp ht with rfl | ht
  · exact .of_arriving rfl rfl rfl fun _ => harrives
  · exact ⟨fun x hx hi => absurd hi (htask t ht x (Multiset.mem_of_le t.activity.arriving_le hx)),
      fun x hx hi => absurd hi (htask t ht x (Multiset.mem_of_le t.activity.staying_le hx)),
      fun x hx hi => absurd hi (htask t ht x (Multiset.mem_of_le t.activity.leaving_le hx))⟩

private theorem Undisturbed.stands (hs : Undisturbed p i may c c') (hup : S.Upheld p.manager)
    (hid : p.manager.KeepsIds) (hend : S.Endures may) (h : c.Stands S p.manager i) :
    c'.Stands S p.manager i := by
  induction hs with
  | refl => exact h
  | turn _ hstep hout hmay ih =>
    rcases hstep with ⟨a, hstep⟩ | hstep
    · exact ih.acts hup hid hend hstep hmay
    · exact ih.turn hend hstep (fun k hk hi => absurd hi (hout k hk)) hmay

/-- A connection that is released and not disturbed is ready when it is lent again. -/
theorem leaves_of_release (hup : S.Upheld p.manager) (hid : p.manager.KeepsIds)
    (hend : S.Endures may) {w : ω} {as : List (Activity κ)} (h : Run p w as c)
    (hn : (c.world.idsOf .make).Nodup) {k : κ} {rest : Multiset κ} (hk : c.wrapped = k ::ₘ rest)
    (harrives : S.arrives c.world.world k)
    (hs : Undisturbed p (p.manager.id k) may
      (Community.enter ⟨.giveBack (.presenting k), none⟩ { c with wrapped := rest }) c')
    {t : Task κ} (ht : t ∈ c'.tasks) {d : Option Nat} {k' : κ}
    (hlent : t.activity = .borrow d (.finished (.ok k'))) (hi : p.manager.id k' = p.manager.id k) :
    S.leaves k' := by
  have hstands := hs.stands hup hid hend (stands_of_release hid h hn hk harrives)
  exact (hstands.tasks t ht).leaving k' (by simp [hlent, Activity.leaving]) hi

end Runs

/-- A wakeup finds nobody asleep where nobody else is. -/
theorem Woken.alone (x : Wakeup) : Woken (κ := κ) x 0 0 := by
  cases x with
  | nobody => exact .nobody 0
  | one => exact .none 0 fun t ht => absurd ht (Multiset.notMem_zero t)
  | everyone => exact .everyone 0

def Community.sole (s : State κ) (r : Recorded ω) (a : Activity κ) : Community ω κ where
  accounts := s
  world := r
  tasks := {⟨a, none⟩}

section Sole

variable {p : Pool ω κ} {c : Community ω κ} {s : State κ} {r : Recorded ω} {a : Activity κ}
  {i : Nat} {may : ω → ω → κ → Prop}

private theorem Acts.sole (x : Step (Activity κ) (Recorded ω) κ) (hx : a.step p.recording s r = x) :
    Acts p a (.sole s r a) (.sole x.state x.world x.activity) := by
  subst hx
  exact .step (.sole s r a) ⟨a, none⟩ 0 0 rfl (.alone _)

private theorem Undisturbed.sole (h : Undisturbed p i may c (.sole s r a))
    (x : Step (Activity κ) (Recorded ω) κ) (hx : a.step p.recording s r = x)
    (hmay : ∀ k ∈ connectionsOf s.idle + (a.own + a.lent), may r.world x.world.world k) :
    Undisturbed p i may c (.sole x.state x.world x.activity) := by
  refine h.turn (.inl ⟨a, .sole x hx⟩) (by simp [Community.sole]) fun k hk _ => hmay k ?_
  simpa [Community.holdings, Task.holdings, Community.sole] using hk

private theorem Undisturbed.borrow (hsame : ∀ w k, may w w k) {o : Outcome Unit}
    (h : Undisturbed p i may c (.sole s r (.giveBack (.finished o)))) :
    Undisturbed p i may c (.sole s r (.startBorrow p.recording r)) := by
  have hfinished := h.turn (.inr (.finish _ ⟨.giveBack (.finished o), none⟩ 0 rfl rfl))
    (by simp [Community.sole]) fun k _ _ => hsame _ k
  exact hfinished.turn (.inr (.borrow _ rfl))
    (by simp [Community.sole, Activity.lent, Activity.own, GiveBack.lent, GiveBack.own])
    fun k _ _ => hsame _ k

end Sole

section OneConnection

variable (m : Manager ω κ)

/-- The first connection is lent if it can be made and activated. -/
theorem exists_run_lent {w w₁ w₂ : ω} {k k' : κ} (hmake : m.make w = (.ok k, w₁))
    (hactivate : m.activate k w₁ = (.ok (), k', w₂)) :
    ∃ as, Run ⟨m, {}⟩ w as {
      accounts := { active := [m.id k'] }
      world := { world := w₂, calls := [⟨.make, m.id k⟩, ⟨.activate, m.id k⟩] }
      wrapped := {k'} } := by
  have h := (Run.start (p := ⟨m, {}⟩) (w := w)).turn (.borrow _ rfl)
  have h := h.acts (.sole ⟨.borrow (some (m.clock w + 30000)) .making, { pending := 1 },
    { world := w }, .nobody⟩ rfl)
  have h := h.acts (.sole ⟨.borrow (some (m.clock w + 30000)) (.activating k true),
    { pending := 1 }, { world := w₁, calls := [⟨.make, m.id k⟩] }, .nobody⟩
    (by simp [step_borrow, Borrow.step, Manager.recording, hmake, Recorded.note]))
  have h := h.acts (.sole ⟨.borrow (some (m.clock w + 30000)) (.checkingOut k'), { pending := 1 },
    { world := w₂, calls := [⟨.make, m.id k⟩, ⟨.activate, m.id k⟩] }, .nobody⟩
    (by simp [step_borrow, Borrow.step, Manager.recording, hactivate, Recorded.note]))
  have h := h.acts (.sole ⟨.borrow (some (m.clock w + 30000)) (.finished (.ok k')),
    { active := [m.id k'] }, { world := w₂, calls := [⟨.make, m.id k⟩, ⟨.activate, m.id k⟩] },
    .nobody⟩ rfl)
  exact ⟨_, h.turn (.finish _ ⟨.borrow _ (.finished (.ok k')), none⟩ 0 rfl rfl)⟩

/-- The only connection that is out is lent again, undisturbed, if it can be passivated and
activated. -/
theorem exists_undisturbed {may : ω → ω → κ → Prop} (hsame : ∀ w k, may w w k) {r : Recorded ω}
    {k k₁ k₂ : κ} {i : Nat} {w₁ w₂ : ω} (hk : m.id k = i) (hk₁ : m.id k₁ = i) (hk₂ : m.id k₂ = i)
    (hpassivate : m.passivate k r.world = (.ok (), k₁, w₁)) (hmay : may r.world w₁ k)
    (hactivate : m.activate k₁ w₁ = (.ok (), k₂, w₂)) (hmay₁ : may w₁ w₂ k₁) :
    ∃ c' t d, Undisturbed ⟨m, {}⟩ i may
        (.sole { active := [i] } r (.giveBack (.presenting k))) c' ∧
      t ∈ c'.tasks ∧ t.activity = .borrow d (.finished (.ok k₂)) := by
  have h : Undisturbed ⟨m, {}⟩ i may (.sole { active := [i] } r (.giveBack (.presenting k)))
      (.sole { active := [i] } r (.giveBack (.presenting k))) := .refl
  have h := h.sole ⟨.giveBack (.passivating i k), { active := [i] }, r, .nobody⟩
    (by simp [step_giveBack, GiveBack.step, Manager.recording, hk, State.isOut])
    fun k _ => hsame _ k
  have h := h.sole ⟨.giveBack (.settling i k₁ true), { active := [i] }, r.note .passivate i w₁,
    .nobody⟩ (by simp [step_giveBack, GiveBack.step, Manager.recording, hk, hpassivate])
    (by simpa [Activity.own, Activity.lent, GiveBack.own, GiveBack.lent, Recorded.note] using hmay)
  have h := h.sole ⟨.giveBack (.signalling none), { idle := [⟨k₁, m.clock w₁⟩] },
    r.note .passivate i w₁, .nobody⟩
    (by simp [step_giveBack, GiveBack.step, Manager.recording, State.settleReturn, State.forget,
      Recorded.note]) fun k _ => hsame _ k
  have h := h.sole ⟨.giveBack (.finished (.ok ())), { idle := [⟨k₁, m.clock w₁⟩] },
    r.note .passivate i w₁, .one⟩ rfl fun k _ => hsame _ k
  have h := (h.borrow hsame).sole ⟨.borrow (some (m.clock w₁ + 30000)) (.activating k₁ false),
    { pending := 1 }, r.note .passivate i w₁, .nobody⟩ rfl fun k _ => hsame _ k
  have h := h.sole ⟨.borrow (some (m.clock w₁ + 30000)) (.checkingOut k₂), { pending := 1 },
    (r.note .passivate i w₁).note .activate i w₂, .nobody⟩
    (by simp [step_borrow, Borrow.step, Manager.recording, hk₁, hactivate, Recorded.note])
    (by simpa [Activity.own, Activity.lent, Borrow.own, Borrow.lent, Recorded.note] using hmay₁)
  have h := h.sole ⟨.borrow (some (m.clock w₁ + 30000)) (.finished (.ok k₂)), { active := [i] },
    (r.note .passivate i w₁).note .activate i w₂, .nobody⟩
    (by simp [step_borrow, Borrow.step, Manager.recording, hk₂, State.checkOut])
    fun k _ => hsame _ k
  exact ⟨_, _, _, h, Multiset.mem_singleton_self _, rfl⟩

end OneConnection

end DirectoryClient.Pool
