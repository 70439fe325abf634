import DirectoryClient.Proofs.Pool.Holdings

/-! What one step of an activity on a pool does to the books: no connection gets lost, a loan and its
id begin and end together, and so do a place and its count. -/
namespace DirectoryClient.Pool

variable {ω κ : Type}

structure Balanced (m : Manager ω κ) (s : State κ) (r : Recorded ω) (a : Activity κ)
    (t : Pool.Step (Activity κ) (Recorded ω) κ) : Prop where
  /-- What was idle, in the activity or destroyed still is, apart from what was made. -/
  located : (connectionsOf t.state.idle + t.activity.own + t.activity.lent).map m.id +
      t.world.idsOf .destroy + r.idsOf .make =
    (connectionsOf s.idle + a.own + a.lent).map m.id + r.idsOf .destroy + t.world.idsOf .make
  /-- A hook is called on a connection of the activity only. -/
  called : t.world.calls = r.calls ∨ ∃ hook id, t.world.calls = r.calls ++ [⟨hook, id⟩] ∧
    (hook = .make ∨ id ∈ (a.own + a.lent).map m.id)
  loans : a.Coherent m → (∀ k ∈ a.lent, m.id k ∈ s.active) →
    (∀ k ∈ a.own, m.id k ∉ s.active) → Multiset.ofList t.state.active + a.lent.map m.id =
      Multiset.ofList s.active + t.activity.lent.map m.id
  places : a.held ≤ s.pending → t.state.pending + a.held = s.pending + t.activity.held
  coherent : a.Coherent m → t.activity.Coherent m

namespace Balanced

variable {m : Manager ω κ} {s : State κ} {r : Recorded ω} {a a' : Activity κ}

/-- A step that calls no hook and leaves the accounts as they are. -/
private theorem quiet {wakeup : Wakeup} (ho : a'.own = a.own) (hl : a'.lent = a.lent)
    (hh : a'.held = a.held) (hc : a.Coherent m → a'.Coherent m) :
    Balanced m s r a ⟨a', s, r, wakeup⟩ where
  located := by rw [ho, hl]
  called := .inl rfl
  loans _ _ _ := by rw [hl]
  places _ := by rw [hh]
  coherent := hc

/-- A hook was called on a connection of the activity, which keeps its id. -/
private theorem hooked {hook : Hook} {id : Nat} {w : ω} (hm : hook ≠ .make) (hd : hook ≠ .destroy)
    (hi : id ∈ (a.own + a.lent).map m.id) (ho : a'.own.map m.id = a.own.map m.id)
    (hl : a'.lent.map m.id = a.lent.map m.id) (hh : a'.held = a.held)
    (hc : a.Coherent m → a'.Coherent m) :
    Balanced m s r a ⟨a', s, r.note hook id w, .nobody⟩ where
  located := by simp [hm, hd, ho, hl]
  called := .inr ⟨hook, id, rfl, .inr hi⟩
  loans _ _ _ := by rw [hl]
  places _ := by rw [hh]
  coherent := hc

private theorem destroyed {k : κ} {w : ω} (ho : a.own = {k} + a'.own) (hl : a'.lent = a.lent)
    (hh : a'.held = a.held) (hc : a.Coherent m → a'.Coherent m) :
    Balanced m s r a ⟨a', s, r.note .destroy (m.id k) w, .nobody⟩ where
  located := by
    simp only [ho, hl, Multiset.map_add, Multiset.map_singleton, Recorded.idsOf_note,
      reduceCtorEq, ↓reduceIte, add_zero]
    abel
  called := .inr ⟨.destroy, m.id k, rfl, .inr (by simp [ho])⟩
  loans _ _ _ := by rw [hl]
  places _ := by rw [hh]
  coherent := hc

private theorem made {k : κ} {w : ω} (ho : a'.own = {k} + a.own) (hl : a'.lent = a.lent)
    (hh : a'.held = a.held) (hc : a.Coherent m → a'.Coherent m) :
    Balanced m s r a ⟨a', s, r.note .make (m.id k) w, .nobody⟩ where
  located := by
    simp only [ho, hl, Multiset.map_add, Multiset.map_singleton, Recorded.idsOf_note,
      reduceCtorEq, ↓reduceIte, add_zero]
    abel
  called := .inr ⟨.make, m.id k, rfl, .inl rfl⟩
  loans _ _ _ := by rw [hl]
  places _ := by rw [hh]
  coherent := hc

private theorem notMade {w : ω} (ho : a'.own = a.own) (hl : a'.lent = a.lent) (hh : a'.held = a.held)
    (hc : a.Coherent m → a'.Coherent m) :
    Balanced m s r a ⟨a', s, { r with world := w }, .nobody⟩ where
  located := by rw [ho, hl]; rfl
  called := .inl rfl
  loans _ _ _ := by rw [hl]
  places _ := by rw [hh]
  coherent := hc

/-- A section of an activity that moves connections between the idle ones and its own. -/
private theorem moved {s' : State κ} {wakeup : Wakeup}
    (ho : connectionsOf s'.idle + a'.own = connectionsOf s.idle + a.own) (hl : a'.lent = a.lent)
    (hs : s'.active = s.active) (hh : a.held ≤ s.pending → s'.pending + a.held = s.pending + a'.held)
    (hc : a.Coherent m → a'.Coherent m) : Balanced m s r a ⟨a', s', r, wakeup⟩ where
  located := by rw [ho, hl]
  called := .inl rfl
  loans _ _ _ := by rw [hl, hs]
  places := hh
  coherent := hc

/-- A section that ends the loan of a connection of the activity. -/
private theorem ended {k : κ} {s' : State κ} (hl : a.lent = {k}) (hl' : a'.lent = 0)
    (ho : connectionsOf s'.idle + a'.own = connectionsOf s.idle + (a.own + {k}))
    (hs : a.Coherent m → s'.active = (s.forget (m.id k)).active) (hp : s'.pending = s.pending)
    (hh : a'.held = a.held) (hc : a'.Coherent m) :
    Balanced m s r a ⟨a', s', r, .nobody⟩ where
  located := by simp only [hl, hl', add_zero, ho, add_assoc]
  called := .inl rfl
  loans hco hlent _ := by
    have hk : m.id k ∈ s.active := hlent k (by simp [hl])
    rw [hs hco, hl, hl', Multiset.map_singleton, State.coe_forget hk, Multiset.map_zero, add_zero]
  places _ := by rw [hp, hh]
  coherent _ := hc

/-- A connection that was presented is not out, and about to be destroyed. -/
private theorem refused {k : κ} (hl : a.lent = {k}) (hl' : a'.lent = 0) (ho : a'.own = a.own + {k})
    (hk : m.id k ∉ s.active) (hh : a'.held = a.held) (hc : a.Coherent m → a'.Coherent m) :
    Balanced m s r a ⟨a', s, r, .nobody⟩ where
  located := by simp only [hl, hl', ho, add_zero, add_assoc]
  called := .inl rfl
  loans _ hlent _ := absurd (hlent k (by simp [hl])) hk
  places _ := by rw [hh]
  coherent := hc

end Balanced

section Steps

variable (p : Pool ω κ) (s : State κ) (r : Recorded ω)

theorem step_borrow (d : Option Nat) (b : Borrow κ) :
    (Activity.borrow d b).step p.recording s r =
      let t := b.step p.recording d s r
      ⟨.borrow d t.activity, t.state, t.world, t.wakeup⟩ := rfl

theorem step_giveBack (g : GiveBack κ) :
    (Activity.giveBack g).step p.recording s r =
      let t := g.step p.recording s r
      ⟨.giveBack t.activity, t.state, t.world, t.wakeup⟩ := rfl

theorem step_wrap (g : Wrap κ) :
    (Activity.wrap g).step p.recording s r =
      let t := g.step p.recording s r
      ⟨.wrap t.activity, t.state, t.world, t.wakeup⟩ := rfl

theorem step_evict (e : Eviction κ) :
    (Activity.evict e).step p.recording s r =
      let t := e.step p.recording s r
      ⟨.evict t.activity, t.state, t.world, t.wakeup⟩ := rfl

theorem step_close (c : Closing κ) :
    (Activity.close c).step p.recording s r =
      let t := c.step p.recording s r
      ⟨.close t.activity, t.state, t.world, t.wakeup⟩ := rfl

variable {p} (hid : p.manager.KeepsIds)

include hid

omit hid in
/-- A borrow that looks for a place holds one exactly if it is granted one. -/
private theorem reserving_balanced (d : Option Nat) :
    Balanced p.manager s r (.borrow d .reserving)
      ((Activity.borrow d .reserving).step p.recording s r) := by
  rw [step_borrow]
  simp only [Borrow.step, settings_recording]
  rcases s.reserve_cases p.settings (d.any (· ≤ p.recording.manager.clock r)) with
    ⟨cause, h⟩ | h | ⟨k, s', h, -, -, -, ha, hp, hi⟩
  · simp only [h]
    exact .quiet rfl rfl rfl id
  · simp only [h]
    exact .quiet rfl rfl rfl id
  · have hheld : s'.pending + 0 = s.pending + 1 := hp
    rw [add_comm, ← add_zero (connectionsOf s.idle)] at hi
    cases k with
    | none =>
      simp only [h, Option.elim_none]
      exact .moved hi rfl ha (fun _ => hheld) id
    | some k =>
      simp only [h, Option.elim_some]
      exact .moved hi rfl ha (fun _ => hheld) id

private theorem borrow_balanced (d : Option Nat) (b : Borrow κ) :
    Balanced p.manager s r (.borrow d b) ((Activity.borrow d b).step p.recording s r) := by
  cases b with
  | reserving => exact reserving_balanced s r d
  | waiting =>
    rw [step_borrow]
    simp only [Borrow.step]
    split <;> exact .quiet rfl rfl rfl id
  | making =>
    rw [step_borrow]
    rcases p.manager.make_recorded r with ⟨k, w, h⟩ | ⟨e, w, h⟩
    · simp only [Borrow.step, manager_recording, h]
      exact .made rfl rfl rfl id
    · simp only [Borrow.step, manager_recording, h]
      exact .notMade rfl rfl rfl id
  | activating k isNew =>
    obtain ⟨o, k', w, h, hk⟩ := hid.activate_recorded k r
    have hi : p.manager.id k ∈ Multiset.map p.manager.id ({k} + 0) := by simp
    have ho : Multiset.map p.manager.id {k'} = Multiset.map p.manager.id {k} := by simp [hk]
    rw [step_borrow]
    simp only [Borrow.step, manager_recording, settings_recording, h]
    cases o with
    | error e => exact .hooked (by decide) (by decide) hi ho rfl rfl id
    | ok u =>
      by_cases ht : p.settings.testOnBorrow = true
      · simp only [ht, ↓reduceIte]
        exact .hooked (by decide) (by decide) hi ho rfl rfl id
      · simp only [ht, Bool.false_eq_true, ↓reduceIte]
        exact .hooked (by decide) (by decide) hi ho rfl rfl id
  | validating k isNew =>
    obtain ⟨isValid, k', w, h, hk⟩ := hid.validate_recorded k r
    have hi : p.manager.id k ∈ Multiset.map p.manager.id ({k} + 0) := by simp
    have ho : Multiset.map p.manager.id {k'} = Multiset.map p.manager.id {k} := by simp [hk]
    rw [step_borrow]
    simp only [Borrow.step, manager_recording, h]
    cases isValid with
    | false => exact .hooked (by decide) (by decide) hi ho rfl rfl id
    | true => exact .hooked (by decide) (by decide) hi ho rfl rfl id
  | checkingOut k =>
    rw [step_borrow]
    refine ⟨by simp [Activity.own, Activity.lent, Borrow.own, Borrow.lent, Borrow.step,
      State.checkOut], .inl rfl, fun _ _ hown => ?_, fun hp => ?_, id⟩
    · have hk : p.manager.id k ∉ s.active := hown k (by simp [Activity.own, Borrow.own])
      simp only [Borrow.step, manager_recording, Manager.recording_id, State.coe_checkOut hk,
        Activity.lent, Borrow.lent, Multiset.map_zero, Multiset.map_singleton]
      abel
    · have hplace : 1 ≤ s.pending := hp
      exact Nat.sub_add_cancel hplace
  | discarding k cause => exact .destroyed rfl rfl rfl id
  | cancelling cause =>
    refine .moved rfl rfl rfl (fun hp => ?_) id
    have hplace : 1 ≤ s.pending := hp
    exact Nat.sub_add_cancel hplace
  | signalling cause => cases cause <;> exact .quiet rfl rfl rfl id
  | finished o => exact .quiet rfl rfl rfl id

omit hid in
/-- A loan ends, and its connection becomes idle or is about to be destroyed. -/
private theorem settling_balanced (i : Nat) (k : κ) (keep : Bool) :
    Balanced p.manager s r (.giveBack (.settling i k keep))
      ((Activity.giveBack (.settling i k keep)).step p.recording s r) := by
  have hforget : i = p.manager.id k → (s.forget i).active = (s.forget (p.manager.id k)).active :=
    fun hi => by rw [hi]
  rw [step_giveBack]
  simp only [GiveBack.step, settings_recording]
  rcases s.settleReturn_cases p.settings (p.recording.manager.clock r) i k keep with
    h | ⟨-, -, h⟩
  · simp only [h]
    exact .ended rfl rfl (by simp [Activity.own, GiveBack.own, State.forget]) hforget rfl rfl trivial
  · simp only [h]
    exact .ended rfl rfl (by simp [Activity.own, GiveBack.own]) hforget rfl rfl trivial

private theorem giveBack_balanced (g : GiveBack κ) :
    Balanced p.manager s r (.giveBack g) ((Activity.giveBack g).step p.recording s r) := by
  cases g with
  | presenting k =>
    rw [step_giveBack]
    simp only [GiveBack.step, manager_recording, Manager.recording_id]
    by_cases ho : s.isOut (p.manager.id k) = true
    · simp only [ho, ↓reduceIte]
      exact .quiet rfl rfl rfl (fun _ => rfl)
    · simp only [ho, Bool.false_eq_true, ↓reduceIte]
      exact .refused rfl rfl rfl (by simpa [State.isOut] using ho) rfl (fun _ => rfl)
  | rejecting i k => exact .destroyed rfl rfl rfl (fun _ => trivial)
  | passivating i k =>
    obtain ⟨o, k', w, h, hk⟩ := hid.passivate_recorded k r
    have hi : p.manager.id k ∈ Multiset.map p.manager.id (0 + {k}) := by simp
    have hl : Multiset.map p.manager.id {k'} = Multiset.map p.manager.id {k} := by simp [hk]
    have hc : i = p.manager.id k → i = p.manager.id k' := fun hi => hi.trans hk.symm
    rw [step_giveBack]
    simp only [GiveBack.step, manager_recording, settings_recording, h]
    cases o with
    | error e => exact .hooked (by decide) (by decide) hi rfl hl rfl hc
    | ok u =>
      by_cases ht : p.settings.testOnReturn = true
      · simp only [ht, ↓reduceIte]
        exact .hooked (by decide) (by decide) hi rfl hl rfl hc
      · simp only [ht, Bool.false_eq_true, ↓reduceIte]
        exact .hooked (by decide) (by decide) hi rfl hl rfl hc
  | validating i k =>
    obtain ⟨isValid, k', w, h, hk⟩ := hid.validate_recorded k r
    have hi : p.manager.id k ∈ Multiset.map p.manager.id (0 + {k}) := by simp
    have hl : Multiset.map p.manager.id {k'} = Multiset.map p.manager.id {k} := by simp [hk]
    have hc : i = p.manager.id k → i = p.manager.id k' := fun hi => hi.trans hk.symm
    rw [step_giveBack]
    simp only [GiveBack.step, manager_recording, h]
    exact .hooked (by decide) (by decide) hi rfl hl rfl hc
  | settling i k keep => exact settling_balanced s r i k keep
  | signalling k => cases k <;> exact .quiet rfl rfl rfl (fun _ => trivial)
  | discarding k => exact .destroyed rfl rfl rfl id
  | finished o => exact .quiet rfl rfl rfl id

omit hid in
private theorem wrap_balanced (g : Wrap κ) :
    Balanced p.manager s r (.wrap g) ((Activity.wrap g).step p.recording s r) := by
  cases g with
  | presenting k =>
    rw [step_wrap]
    simp only [Wrap.step, manager_recording, Manager.recording_id]
    by_cases ho : s.isOut (p.manager.id k) = true
    · simp only [ho, ↓reduceIte]
      exact .quiet rfl rfl rfl (fun _ => trivial)
    · simp only [ho, Bool.false_eq_true, ↓reduceIte]
      exact .refused rfl rfl rfl (by simpa [State.isOut] using ho) rfl (fun _ => rfl)
  | rejecting i k => exact .destroyed rfl rfl rfl (fun _ => trivial)
  | finished o => exact .quiet rfl rfl rfl id

omit hid in
private theorem detach_balanced (d : Detach κ) :
    Balanced p.manager s r (.detach d) ((Activity.detach d).step p.recording s r) := by
  cases d with
  | forgetting k =>
    exact .ended rfl rfl (by simp [Detach.step, State.forget, Activity.own, Detach.own])
      (fun _ => rfl) rfl rfl trivial
  | signalling k => exact .quiet rfl rfl rfl id
  | finished k => exact .quiet rfl rfl rfl id

private theorem evict_balanced (e : Eviction κ) :
    Balanced p.manager s r (.evict e) ((Activity.evict e).step p.recording s r) := by
  cases e with
  | starting =>
    rw [step_evict]
    simp only [Eviction.step, settings_recording]
    rcases s.takeForEviction_cases p.settings (p.recording.manager.clock r) with
      ⟨-, h⟩ | ⟨-, expired, kept, h, hi⟩
    · simp only [h]
      exact .quiet rfl rfl rfl id
    · simp only [h]
      exact .moved (by simpa [Activity.own, Eviction.own] using hi) rfl rfl (fun _ => rfl) id
  | expiring expired kept n =>
    cases expired with
    | nil =>
      rw [step_evict]
      simp only [Eviction.step, settings_recording]
      by_cases ht : p.settings.testWhileIdle = true
      · simp only [ht, ↓reduceIte]
        exact .quiet (by simp [Activity.own, Eviction.own]) rfl rfl id
      · simp only [ht, Bool.false_eq_true, ↓reduceIte]
        exact .quiet (by simp [Activity.own, Eviction.own]) rfl rfl id
    | cons i expired =>
      refine .destroyed ?_ rfl rfl id
      simp only [Eviction.step, Activity.own, Eviction.own, connectionsOf_cons, add_assoc]
  | testing untested valid invalid n =>
    cases untested with
    | nil =>
      refine .quiet ?_ rfl rfl id
      simp [Eviction.step, Activity.own, Eviction.own, add_comm]
    | cons i untested =>
      obtain ⟨isValid, k', w, h, hk⟩ := hid.validate_recorded i.connection r
      have hi : p.manager.id i.connection ∈
          ((Activity.evict (.testing (i :: untested) valid invalid n)).own + 0).map p.manager.id :=
        Multiset.mem_map_of_mem _ (by simp [Activity.own, Eviction.own])
      rw [step_evict]
      simp only [Eviction.step, manager_recording, h]
      cases isValid with
      | true =>
        refine .hooked (by decide) (by decide) hi ?_ rfl rfl id
        simp [Activity.own, Eviction.own, hk, -Multiset.singleton_add]
        abel
      | false =>
        refine .hooked (by decide) (by decide) hi ?_ rfl rfl id
        simp [Activity.own, Eviction.own, hk, -Multiset.singleton_add]
        abel
  | discarding invalid valid n =>
    cases invalid with
    | nil =>
      refine .quiet ?_ rfl rfl id
      simp [Eviction.step, Activity.own, Eviction.own]
    | cons i invalid =>
      refine .destroyed ?_ rfl rfl id
      simp only [Eviction.step, Activity.own, Eviction.own, connectionsOf_cons, add_assoc]
  | puttingBack kept n =>
    refine .moved ?_ rfl rfl (fun _ => rfl) id
    simp [Eviction.step, State.putBack, Activity.own, Eviction.own, add_comm]
  | making missing n =>
    cases missing with
    | zero => exact .quiet rfl rfl rfl id
    | succ missing =>
      rw [step_evict]
      rcases p.manager.make_recorded r with ⟨k, w, h⟩ | ⟨e, w, h⟩
      · simp only [Eviction.step, manager_recording, h]
        exact .made rfl rfl rfl id
      · simp only [Eviction.step, manager_recording, h]
        exact .notMade rfl rfl rfl id
  | adopting k missing n =>
    rw [step_evict]
    simp only [Eviction.step, settings_recording]
    rcases s.adopt_cases p.settings (p.recording.manager.clock r) k with h | ⟨-, -, h⟩
    · simp only [h]
      exact .quiet rfl rfl rfl id
    · simp only [h]
      exact .moved (by simp [Activity.own, Eviction.own]) rfl rfl (fun _ => rfl) id
  | refusing k n => exact .destroyed rfl rfl rfl id
  | signalling missing n => exact .quiet rfl rfl rfl id
  | finished n => exact .quiet rfl rfl rfl id

omit hid in
private theorem close_balanced (c : Closing κ) :
    Balanced p.manager s r (.close c) ((Activity.close c).step p.recording s r) := by
  cases c with
  | starting =>
    rw [step_close]
    simp only [Closing.step]
    rcases s.close_cases with ⟨-, h⟩ | ⟨-, h⟩
    · simp only [h]
      exact .quiet rfl rfl rfl id
    · simp only [h]
      exact .moved (by simp [Activity.own, Closing.own, connectionsOf]) rfl rfl (fun _ => rfl) id
  | signalling ks => exact .quiet rfl rfl rfl id
  | destroying ks =>
    cases ks with
    | nil => exact .quiet rfl rfl rfl id
    | cons k ks => exact .destroyed rfl rfl rfl id
  | finished => exact .quiet rfl rfl rfl id

/-- No step of any activity loses a connection, a loan or a place. -/
theorem step_balanced (a : Activity κ) :
    Balanced p.manager s r a (a.step p.recording s r) := by
  cases a with
  | borrow d b => exact borrow_balanced s r hid d b
  | giveBack g => exact giveBack_balanced s r hid g
  | wrap g => exact wrap_balanced s r g
  | detach d => exact detach_balanced s r d
  | evict e => exact evict_balanced s r hid e
  | close c => exact close_balanced s r c

end Steps

end DirectoryClient.Pool
