import DirectoryClient.Proofs.Pool.Ledger
import Mathlib.Algebra.Order.BigOperators.Group.Multiset

/-! What the books of a pool mean at every moment of every run: the active ids are those of the loans
that go on, the pending places those of borrows under way, and no hook follows a destruction. -/
namespace DirectoryClient.Pool

variable {ω κ : Type}

namespace Activity

inductive Refuses (m : Manager ω κ) (id : Nat) : Activity κ → Prop
  | presented (k : κ) : m.id k = id → Refuses m id (giveBack (.presenting k))
  | rejected (k : κ) : m.id k = id → Refuses m id (giveBack (.rejecting id k))
  | finished : Refuses m id (giveBack (.finished (.error (notBorrowed id))))
  | presentedToWrap (k : κ) : m.id k = id → Refuses m id (wrap (.presenting k))
  | rejectedToWrap (k : κ) : m.id k = id → Refuses m id (wrap (.rejecting id k))
  | finishedWrap : Refuses m id (wrap (.finished (.error (notBorrowed id))))

def stepsToRefuse : Activity κ → Nat
  | giveBack (.presenting _) | wrap (.presenting _) => 2
  | giveBack (.rejecting ..) | wrap (.rejecting ..) => 1
  | _ => 0

private theorem isFinished_wake (a : Activity κ) : a.wake.isFinished = a.isFinished := by
  rcases a with ⟨d, _ | _⟩ | _ <;> rfl

namespace Refuses

variable {m : Manager ω κ} {p : Pool ω κ} {s : State κ} {r : Recorded ω} {id : Nat}
  {a : Activity κ}

private theorem wake (h : a.Refuses m id) : a.wake.Refuses m id := by
  cases h <;> constructor <;> assumption

/-- A refusal leaves the accounts alone, and ends with the connection destroyed. -/
theorem step (h : a.Refuses p.manager id) (hs : id ∉ s.active) :
    (a.step p.recording s r).state = s ∧ (a.step p.recording s r).activity.Refuses p.manager id ∧
      (a.step p.recording s r).activity.stepsToRefuse = a.stepsToRefuse - 1 ∧
      (a.stepsToRefuse = 1 → id ∈ (a.step p.recording s r).world.idsOf .destroy) := by
  have hout : s.isOut id = false := by simpa [State.isOut] using hs
  cases h with
  | presented k hk =>
    simp only [step_giveBack, GiveBack.step, manager_recording, Manager.recording_id, hk, hout]
    exact ⟨trivial, .rejected k hk, rfl, fun h => by simp [stepsToRefuse] at h⟩
  | presentedToWrap k hk =>
    simp only [step_wrap, Wrap.step, manager_recording, Manager.recording_id, hk, hout]
    exact ⟨trivial, .rejectedToWrap k hk, rfl, fun h => by simp [stepsToRefuse] at h⟩
  | rejected k hk =>
    exact ⟨rfl, .finished, rfl, fun _ => by simp [step_giveBack, GiveBack.step, hk]⟩
  | rejectedToWrap k hk =>
    exact ⟨rfl, .finishedWrap, rfl, fun _ => by simp [step_wrap, Wrap.step, hk]⟩
  | finished => exact ⟨rfl, .finished, rfl, fun h => by simp [stepsToRefuse] at h⟩
  | finishedWrap => exact ⟨rfl, .finishedWrap, rfl, fun h => by simp [stepsToRefuse] at h⟩

/-- A refusal that has not ended has the connection in its hands. -/
private theorem holds (h : a.Refuses m id) (hs : a.stepsToRefuse ≠ 0) :
    ∃ k ∈ a.own + a.lent, m.id k = id := by
  cases h with
  | presented k hk | rejected k hk => exact ⟨k, by simp [own, lent, GiveBack.own, GiveBack.lent], hk⟩
  | presentedToWrap k hk | rejectedToWrap k hk =>
    exact ⟨k, by simp [own, lent, Wrap.own, Wrap.lent], hk⟩
  | finished | finishedWrap => exact absurd rfl hs

private theorem isFinished_iff (h : a.Refuses m id) : a.isFinished = true ↔ a.stepsToRefuse = 0 := by
  cases h <;> simp [isFinished, stepsToRefuse]

private theorem stepsToRefuse_wake (h : a.Refuses m id) :
    a.wake.stepsToRefuse = 0 ↔ a.stepsToRefuse = 0 := by
  rw [← h.wake.isFinished_iff, isFinished_wake, h.isFinished_iff]

private theorem lent_eq_zero (h : a.Refuses m id) (hf : a.isFinished = true) : a.lent = 0 := by
  cases h with
  | finished | finishedWrap => rfl
  | presented | rejected | presentedToWrap | rejectedToWrap => simp [isFinished] at hf

end Refuses

end Activity

private def Task.unlent (t : Task κ) : Multiset κ :=
  t.activity.own + if t.stranger.isSome then t.activity.lent else 0

private theorem Task.unlent_add_loan (t : Task κ) : t.unlent + t.loan = t.holdings := by
  cases h : t.stranger <;> simp [unlent, loan, holdings, h]

private theorem Task.loan_le_holdings (t : Task κ) : t.loan ≤ t.holdings := by
  rw [← t.unlent_add_loan]
  exact Multiset.le_add_left _ _

namespace Community

def loans (c : Community ω κ) : Multiset κ := (c.tasks.map Task.loan).sum + c.wrapped + c.raw

variable {m : Manager ω κ} {c : Community ω κ}

private theorem idle_add_loans_le (c : Community ω κ) :
    connectionsOf c.accounts.idle + c.loans ≤ c.holdings := by
  have hle : (c.tasks.map Task.loan).sum ≤ (c.tasks.map Task.holdings).sum :=
    Multiset.sum_map_le_sum_map _ _ fun t _ => t.loan_le_holdings
  calc connectionsOf c.accounts.idle + c.loans
      = connectionsOf c.accounts.idle + (c.tasks.map Task.loan).sum + (c.wrapped + c.raw) := by
        rw [loans]
        abel
    _ ≤ connectionsOf c.accounts.idle + (c.tasks.map Task.holdings).sum + (c.wrapped + c.raw) := by
        gcongr
    _ ≤ c.holdings := Multiset.le_add_right _ _

theorem loans_le (c : Community ω κ) : c.loans ≤ c.holdings :=
  (Multiset.le_add_left _ _).trans c.idle_add_loans_le

theorem idle_add_holdings_le {t : Task κ} (ht : t ∈ c.tasks) :
    connectionsOf c.accounts.idle + t.holdings ≤ c.holdings := by
  obtain ⟨ts, hts⟩ := Multiset.exists_cons_of_mem ht
  have hsum : c.holdings = connectionsOf c.accounts.idle + t.holdings +
      ((ts.map Task.holdings).sum + (c.wrapped + c.raw) + c.outside) := by
    rw [holdings, hts, Multiset.map_cons, Multiset.sum_cons]
    abel
  rw [hsum]
  exact Multiset.le_add_right _ _

private theorem loans_add_unlent_le {t : Task κ} (ht : t ∈ c.tasks) :
    c.loans + t.unlent ≤ c.holdings := by
  obtain ⟨ts, hts⟩ := Multiset.exists_cons_of_mem ht
  have hle : (ts.map Task.loan).sum ≤ (ts.map Task.holdings).sum :=
    Multiset.sum_map_le_sum_map _ _ fun u _ => u.loan_le_holdings
  have hsum : c.loans + t.unlent = t.holdings + (ts.map Task.loan).sum + (c.wrapped + c.raw) := by
    simp only [loans, hts, Multiset.map_cons, Multiset.sum_cons, ← t.unlent_add_loan]
    abel
  rw [hsum, holdings, hts, Multiset.map_cons, Multiset.sum_cons]
  calc t.holdings + (ts.map Task.loan).sum + (c.wrapped + c.raw)
      ≤ t.holdings + (ts.map Task.holdings).sum + (c.wrapped + c.raw) := by gcongr
    _ ≤ t.holdings + (ts.map Task.holdings).sum + (c.wrapped + c.raw) +
          (connectionsOf c.accounts.idle + c.outside) := Multiset.le_add_right _ _
    _ = _ := by abel

structure Sound (m : Manager ω κ) (c : Community ω κ) : Prop where
  located : c.Located m
  loans : Multiset.ofList c.accounts.active = c.loans.map m.id
  places : c.accounts.pending = (c.tasks.map fun t => t.activity.held).sum
  /-- No hook is called on a connection that has been destroyed. -/
  ordered : c.world.calls.Pairwise fun a b => a.hook = .destroy → b.id ≠ a.id
  coherent : ∀ t ∈ c.tasks, t.activity.Coherent m
  strangers : ∀ t ∈ c.tasks, ∀ i, t.stranger = some i → t.activity.Refuses m i ∧
    (t.activity.stepsToRefuse = 0 → i ∈ c.world.idsOf .destroy)

namespace Sound

/-- A connection is held by one, and once. -/
theorem holdings_nodup (h : c.Sound m) (hn : (c.world.idsOf .make).Nodup) :
    (c.holdings.map m.id).Nodup := by
  rw [← h.located, Multiset.nodup_add] at hn
  exact hn.1

/-- What is held by a task and not out is not among the active ids. -/
theorem not_active (h : c.Sound m) (hn : (c.world.idsOf .make).Nodup) {t : Task κ}
    (ht : t ∈ c.tasks) {k : κ} (hk : k ∈ t.unlent) : m.id k ∉ c.accounts.active := by
  intro hactive
  have hnodup : ((c.loans + t.unlent).map m.id).Nodup :=
    Multiset.nodup_of_le (Multiset.map_le_map (loans_add_unlent_le ht)) (h.holdings_nodup hn)
  rw [Multiset.map_add, Multiset.nodup_add] at hnodup
  rw [← Multiset.mem_coe, h.loans] at hactive
  exact Multiset.disjoint_left.mp hnodup.2.2 hactive (Multiset.mem_map_of_mem m.id hk)

theorem lent_active (h : c.Sound m) {t : Task κ} (ht : t ∈ c.tasks) {k : κ} (hk : k ∈ t.loan) :
    m.id k ∈ c.accounts.active := by
  obtain ⟨ts, hts⟩ := Multiset.exists_cons_of_mem ht
  rw [← Multiset.mem_coe, h.loans]
  refine Multiset.mem_map_of_mem m.id ?_
  simp [Community.loans, hts, hk]

private theorem not_destroyed (h : c.Sound m) (hn : (c.world.idsOf .make).Nodup) {k : κ}
    (hk : k ∈ c.holdings) : m.id k ∉ c.world.idsOf .destroy := by
  rw [← h.located, Multiset.nodup_add] at hn
  exact Multiset.disjoint_left.mp hn.2.2 (Multiset.mem_map_of_mem m.id hk)

/-- What is idle is held by nobody else. -/
theorem idle_ne (h : c.Sound m) (hn : (c.world.idsOf .make).Nodup) {ks : Multiset κ}
    (hks : connectionsOf c.accounts.idle + ks ≤ c.holdings) {i : Idle κ}
    (hi : i ∈ c.accounts.idle) {k : κ} (hk : k ∈ ks) : m.id i.connection ≠ m.id k := by
  have hnodup : ((connectionsOf c.accounts.idle + ks).map m.id).Nodup :=
    Multiset.nodup_of_le (Multiset.map_le_map hks) (h.holdings_nodup hn)
  rw [Multiset.map_add, Multiset.nodup_add] at hnodup
  intro heq
  refine Multiset.disjoint_left.mp hnodup.2.2 ?_ (heq ▸ Multiset.mem_map_of_mem m.id hk)
  exact Multiset.mem_map_of_mem m.id (Multiset.mem_coe.mpr (List.mem_map_of_mem hi))

/-- What is idle is not out. -/
theorem idle_not_active (h : c.Sound m) (hn : (c.world.idsOf .make).Nodup) {i : Idle κ}
    (hi : i ∈ c.accounts.idle) : m.id i.connection ∉ c.accounts.active := by
  intro hactive
  rw [← Multiset.mem_coe, h.loans] at hactive
  obtain ⟨k, hk, heq⟩ := Multiset.mem_map.mp hactive
  exact h.idle_ne hn c.idle_add_loans_le hi hk heq.symm

/-- What is out has been made. -/
theorem active_made (h : c.Sound m) {id : Nat} (hid : id ∈ c.accounts.active) :
    id ∈ c.world.idsOf .make := by
  rw [← Multiset.mem_coe, h.loans] at hid
  rw [← h.located]
  exact Multiset.mem_add.mpr (.inl (Multiset.mem_of_le (Multiset.map_le_map c.loans_le) hid))

/-- What a stranger has presented is not out, before it is destroyed and afterwards. -/
theorem stranger_not_active (h : c.Sound m) (hn : (c.world.idsOf .make).Nodup) {t : Task κ}
    (ht : t ∈ c.tasks) {i : Nat} (hi : t.stranger = some i) : i ∉ c.accounts.active := by
  obtain ⟨hr, hd⟩ := h.strangers t ht i hi
  by_cases hends : t.activity.stepsToRefuse = 0
  · intro hactive
    rw [← Multiset.mem_coe, h.loans] at hactive
    obtain ⟨k, hk, rfl⟩ := Multiset.mem_map.mp hactive
    exact h.not_destroyed hn (Multiset.mem_of_le c.loans_le hk) (hd hends)
  · obtain ⟨k, hk, rfl⟩ := hr.holds hends
    exact h.not_active hn ht (by simpa [Task.unlent, hi] using hk)

end Sound

end Community

section Acts

open Community

variable {p : Pool ω κ} {c c' : Community ω κ} {a : Activity κ}

/-- A step calls one hook at most, and an old connection on which it does is held by somebody. -/
theorem Acts.calls (hid : p.manager.KeepsIds) (hs : Acts p a c c') :
    ∃ cs, c'.world.calls = c.world.calls ++ cs ∧ cs.length ≤ 1 ∧
      ∀ b ∈ cs, b.hook = .make ∨ b.id ∈ c.holdings.map p.manager.id := by
  obtain ⟨_, t, ts, ts', ht, -⟩ := hs
  rcases (step_balanced c.accounts c.world hid t.activity).called with h | ⟨hook, id, h, hk⟩
  · exact ⟨[], by simpa using h, by simp, by simp⟩
  · refine ⟨[⟨hook, id⟩], h, by simp, fun b hb => ?_⟩
    obtain rfl := List.mem_singleton.mp hb
    refine hk.imp_right fun hk => Multiset.mem_of_le (Multiset.map_le_map ?_) hk
    exact (Multiset.le_add_left _ _).trans (idle_add_holdings_le (by simp [ht]))

private theorem idsOf_mono {r r' : Recorded ω} {cs : List Call} (hr : r'.calls = r.calls ++ cs)
    (hook : Hook) : r.idsOf hook ≤ r'.idsOf hook := by
  rw [Recorded.idsOf_append hr]
  exact Multiset.le_add_right _ _

private theorem ordered_append {r r' : Recorded ω} {cs : List Call}
    (h : r.calls.Pairwise fun a b => a.hook = .destroy → b.id ≠ a.id)
    (hr : r'.calls = r.calls ++ cs) (hcs : cs.Pairwise fun a b => a.hook = .destroy → b.id ≠ a.id)
    (hnew : ∀ b ∈ cs, b.id ∉ r.idsOf .destroy) :
    r'.calls.Pairwise fun a b => a.hook = .destroy → b.id ≠ a.id := by
  rw [hr, List.pairwise_append]
  refine ⟨h, hcs, fun a ha b hb hd hab => hnew b hb ?_⟩
  rw [hab]
  simpa [Recorded.idsOf] using ⟨a, ⟨ha, hd⟩, rfl⟩

/-- The id of a connection that was made later is not that of one that was destroyed before. -/
private theorem made_not_destroyed {m : Manager ω κ} (h : c.Located m) {r : Recorded ω}
    {cs : List Call} (hr : r.calls = c.world.calls ++ cs) (hn : (r.idsOf .make).Nodup) {b : Call}
    (hb : b ∈ cs) (hmake : b.hook = .make) : b.id ∉ c.world.idsOf .destroy := by
  rw [Recorded.idsOf_append hr, Multiset.nodup_add] at hn
  intro hd
  have hmade : b.id ∈ c.world.idsOf .make := by
    rw [← h]
    exact Multiset.mem_add.mpr (.inr hd)
  refine Multiset.disjoint_left.mp hn.2.2 hmade ?_
  simpa using ⟨b, ⟨hb, hmake⟩, rfl⟩

private theorem loans_cons (c : Community ω κ) (s : State κ) (r : Recorded ω) (t : Task κ)
    (ts : Multiset (Task κ)) :
    ({ c with accounts := s, world := r, tasks := t ::ₘ ts } : Community ω κ).loans =
      t.loan + ((ts.map Task.loan).sum + c.wrapped + c.raw) := by
  simp only [Community.loans, Multiset.map_cons, Multiset.sum_cons]
  abel

/-- The active ids stay those of the loans: a loan that a step begins or ends, its id does too. -/
private theorem Acts.loans (hid : p.manager.KeepsIds) (h : c.Sound p.manager)
    (hn : (c.world.idsOf .make).Nodup) (hs : Acts p a c c') :
    Multiset.ofList c'.accounts.active = c'.loans.map p.manager.id := by
  obtain ⟨_, t, ts, ts', ht, hw⟩ := hs
  have hmem : t ∈ c.tasks := by simp [ht]
  have hc : c.loans = t.loan + ((ts.map Task.loan).sum + c.wrapped + c.raw) := by
    rw [← loans_cons c c.accounts c.world, ← ht]
  have hactive := h.loans
  rw [hc, Multiset.map_add] at hactive
  rw [loans_cons, hw.sum_map Task.loan Task.loan_wake, Multiset.map_add]
  cases hstranger : t.stranger with
  | none =>
    have hloan : t.loan = t.activity.lent := by simp [Task.loan, hstranger]
    have hb := (step_balanced c.accounts c.world hid t.activity).loans (h.coherent t hmem)
      (fun k hk => h.lent_active hmem (hloan ▸ hk))
      (fun k hk => h.not_active hn hmem (by simpa [Task.unlent, hstranger] using hk))
    rw [hactive, hloan] at hb
    apply add_right_cancel (b := t.activity.lent.map p.manager.id)
    rw [hb]
    simp only [Task.loan, Option.isSome_none, Bool.false_eq_true, ↓reduceIte]
    abel
  | some i =>
    have hstate := ((h.strangers t hmem i hstranger).1.step (r := c.world)
      (h.stranger_not_active hn hmem hstranger)).1
    rw [hstate, hactive]
    simp only [Task.loan, hstranger, Option.isSome_some, ↓reduceIte]

private theorem Acts.places (hid : p.manager.KeepsIds) (h : c.Sound p.manager) (hs : Acts p a c c') :
    c'.accounts.pending = (c'.tasks.map fun t => t.activity.held).sum := by
  obtain ⟨_, t, ts, ts', ht, hw⟩ := hs
  have hplaces := h.places
  rw [ht, Multiset.map_cons, Multiset.sum_cons] at hplaces
  have hb := (step_balanced c.accounts c.world hid t.activity).places (by omega)
  have hrest := hw.sum_map (fun t => t.activity.held) (fun t => t.activity.held_wake)
  rw [Multiset.map_cons, Multiset.sum_cons, hrest]
  dsimp only
  omega

/-- Once a connection has been destroyed, no step calls a hook on it. -/
private theorem Acts.ordered (hid : p.manager.KeepsIds) (h : c.Sound p.manager)
    (hn : (c'.world.idsOf .make).Nodup) (hs : Acts p a c c') :
    c'.world.calls.Pairwise fun a b => a.hook = .destroy → b.id ≠ a.id := by
  obtain ⟨cs, hcalls, hlength, hcs⟩ := hs.calls hid
  have hmade := Multiset.nodup_of_le (idsOf_mono hcalls .make) hn
  refine ordered_append h.ordered hcalls ?_ fun b hb => ?_
  · cases cs with
    | nil => exact .nil
    | cons b cs =>
      obtain rfl : cs = [] := by simpa using hlength
      exact List.pairwise_singleton _ b
  · rcases hcs b hb with hmake | hold
    · exact made_not_destroyed h.located hcalls hn hb hmake
    · obtain ⟨k, hk, hbk⟩ := Multiset.mem_map.mp hold
      rw [← hbk]
      exact h.not_destroyed hmade hk

private theorem Acts.sound (hid : p.manager.KeepsIds) (h : c.Sound p.manager)
    (hn : (c'.world.idsOf .make).Nodup) (hs : Acts p a c c') : c'.Sound p.manager := by
  obtain ⟨cs, hcalls, -⟩ := hs.calls hid
  have hmade := Multiset.nodup_of_le (idsOf_mono hcalls .make) hn
  have hdestroyed := idsOf_mono hcalls .destroy
  refine ⟨h.located.acts hid hs, hs.loans hid h hmade, hs.places hid h, hs.ordered hid h hn, ?_, ?_⟩
  · obtain ⟨_, t, ts, ts', ht, hw⟩ := hs
    intro u hu
    rcases Multiset.mem_cons.mp hu with rfl | hu
    · exact (step_balanced c.accounts c.world hid t.activity).coherent (h.coherent t (by simp [ht]))
    · rcases hw.exists_of_mem hu with hu | ⟨v, hv, rfl⟩
      · exact h.coherent u (by simp [ht, hu])
      · exact Activity.coherent_wake.mpr (h.coherent v (by simp [ht, hv]))
  · obtain ⟨_, t, ts, ts', ht, hw⟩ := hs
    intro u hu i hi
    rcases Multiset.mem_cons.mp hu with rfl | hu
    · have hmem : t ∈ c.tasks := by simp [ht]
      obtain ⟨hr, hd⟩ := h.strangers t hmem i hi
      obtain ⟨-, hr', hsteps, hd'⟩ := hr.step (r := c.world) (h.stranger_not_active hmade hmem hi)
      refine ⟨hr', fun hends => ?_⟩
      by_cases hlast : t.activity.stepsToRefuse = 1
      · exact hd' hlast
      · refine Multiset.mem_of_le hdestroyed (hd ?_)
        dsimp only at hends
        omega
    · rcases hw.exists_of_mem hu with hu | ⟨v, hv, rfl⟩
      · obtain ⟨hr, hd⟩ := h.strangers u (by simp [ht, hu]) i hi
        exact ⟨hr, fun hends => Multiset.mem_of_le hdestroyed (hd hends)⟩
      · obtain ⟨hr, hd⟩ := h.strangers v (by simp [ht, hv]) i hi
        exact ⟨hr.wake,
          fun hends => Multiset.mem_of_le hdestroyed (hd (hr.stepsToRefuse_wake.mp hends))⟩

end Acts

section Turns

open Community

variable {m : Manager ω κ} {p : Pool ω κ} {c d : Community ω κ}

private theorem Activity.held_of_isFinished {a : Activity κ} (h : a.isFinished = true) :
    a.held = 0 := by
  cases a with
  | borrow d b => cases b <;> simp_all [isFinished, held, Borrow.holdsPlace]
  | giveBack | wrap | detach | evict | close => rfl

/-- The books mean the same after a turn that touches neither the accounts nor any connection. -/
private theorem Community.Sound.calm (h : c.Sound m) (hloc : d.Located m)
    (hw : d.world.calls = c.world.calls) (ha : d.accounts = c.accounts)
    (hl : d.loans.map m.id = c.loans.map m.id)
    (hheld : (d.tasks.map fun t => t.activity.held).sum = (c.tasks.map fun t => t.activity.held).sum)
    (ht : ∀ t ∈ d.tasks, t ∈ c.tasks ∨ t.activity.Coherent m ∧ ∀ i, t.stranger = some i →
      t.activity.Refuses m i ∧ (t.activity.stepsToRefuse = 0 → i ∈ c.world.idsOf .destroy)) :
    d.Sound m where
  located := hloc
  loans := by rw [ha, hl, h.loans]
  places := by rw [ha, hheld, h.places]
  ordered := by rw [hw]; exact h.ordered
  coherent t hmem := (ht t hmem).elim (h.coherent t) And.left
  strangers t hmem i hi := by
    have hd : d.world.idsOf .destroy = c.world.idsOf .destroy := by rw [Recorded.idsOf, hw]; rfl
    rw [hd]
    exact (ht t hmem).elim (fun hc => h.strangers t hc i hi) (fun hnew => hnew.2 i hi)

/-- An activity begins, about a connection that was out or about none. -/
private theorem sound_enter {t : Task κ} (h : c.Sound m) (hloc : (d.enter t).Located m)
    (hw : d.world = c.world) (ha : d.accounts = c.accounts) (htasks : d.tasks = c.tasks)
    (hl : t.loan + d.loans = c.loans) (hheld : t.activity.held = 0) (hc : t.activity.Coherent m)
    (hs : ∀ i, t.stranger = some i → t.activity.Refuses m i ∧ t.activity.stepsToRefuse ≠ 0) :
    (d.enter t).Sound m := by
  refine h.calm hloc (by rw [← hw]; rfl) ha ?_ ?_ ?_
  · rw [← hl]
    simp only [enter, Community.loans, Multiset.map_cons, Multiset.sum_cons]
    congr 1
    abel
  · simp [enter, htasks, hheld]
  · intro u hu
    rcases Multiset.mem_cons.mp hu with rfl | hu
    · exact .inr ⟨hc, fun i hi => ⟨(hs i hi).1, fun hends => absurd hends (hs i hi).2⟩⟩
    · exact .inl (htasks ▸ hu)

/-- What has been recorded stays recorded. -/
theorem Turn.calls (hs : Turn p c d) : ∃ cs, d.world.calls = c.world.calls ++ cs := by
  cases hs with
  | make k r hk =>
    rcases p.manager.make_recorded c.world with ⟨k', w, hm⟩ | ⟨e, w, hm⟩
    · obtain ⟨rfl, rfl⟩ : k' = k ∧ c.world.note .make (p.manager.id k') w = r := by
        simpa [hm] using hk
      exact ⟨_, Recorded.calls_note _ _ _ _⟩
    · simp [hm] at hk
  | letGo => exact ⟨_, letGo_calls p c.accounts c.world⟩
  | _ => exact ⟨[], (List.append_nil _).symm⟩

private theorem Turn.sound (h : c.Sound p.manager) (hn : (d.world.idsOf .make).Nodup)
    (hs : Turn p c d) :
    d.Sound p.manager := by
  have hloc := h.located.turn hs
  have hnone : ∀ i, (none : Option Nat) = some i → False := fun _ hi => by cases hi
  cases hs with
  | borrow | evict | close =>
    exact sound_enter h hloc rfl rfl rfl (zero_add _) rfl trivial (fun i hi => (hnone i hi).elim)
  | release k rest hk | detach k rest hk =>
    refine sound_enter h hloc rfl rfl rfl ?_ rfl trivial (fun i hi => (hnone i hi).elim)
    simp only [Community.loans, hk, Task.loan, Activity.lent, GiveBack.lent, Detach.lent,
      Option.isSome_none, Bool.false_eq_true, ↓reduceIte, ← Multiset.singleton_add]
    abel
  | releaseRaw k rest _ hk | wrapRaw k rest _ hk =>
    refine sound_enter h hloc rfl rfl rfl ?_ rfl trivial (fun i hi => (hnone i hi).elim)
    simp only [Community.loans, hk, Task.loan, Activity.lent, GiveBack.lent, Wrap.lent,
      Option.isSome_none, Bool.false_eq_true, ↓reduceIte, ← Multiset.singleton_add]
    abel
  | releaseStranger k rest _ hk =>
    exact sound_enter h hloc rfl rfl rfl (zero_add _) rfl trivial
      (fun i hi => ⟨.presented k (Option.some.inj hi), Nat.succ_ne_zero 1⟩)
  | wrapStranger k rest _ hk =>
    exact sound_enter h hloc rfl rfl rfl (zero_add _) rfl trivial
      (fun i hi => ⟨.presentedToWrap k (Option.some.inj hi), Nat.succ_ne_zero 1⟩)
  | unwrap k rest hk =>
    refine h.calm hloc rfl rfl ?_ rfl (fun t ht => .inl ht)
    simp only [Community.loans, hk, ← Multiset.singleton_add]
    congr 1
    abel
  | finish t ts ht hf =>
    have hloan : t.loan = t.activity.lent := by
      cases hi : t.stranger with
      | none => simp [Task.loan, hi]
      | some i =>
        have hr := (h.strangers t (by simp [ht]) i hi).1
        simp [Task.loan, hi, hr.lent_eq_zero hf]
    refine h.calm hloc rfl rfl ?_ ?_ (fun u hu => .inl (by simp [ht, show u ∈ ts from hu]))
    · simp only [Community.loans, ht, Multiset.map_cons, Multiset.sum_cons, hloan]
      congr 1
      abel
    · simp [ht, Activity.held_of_isFinished hf]
  | stir t ts ht =>
    refine h.calm hloc rfl rfl ?_ ?_ fun u hu => ?_
    · simp only [Community.loans, ht, Multiset.map_cons, Multiset.sum_cons, Task.loan_wake]
    · simp [ht, Task.wake]
    · rcases Multiset.mem_cons.mp hu with rfl | hu
      · have hmem : t ∈ c.tasks := by simp [ht]
        refine .inr ⟨Activity.coherent_wake.mpr (h.coherent t hmem), fun i hi => ?_⟩
        obtain ⟨hr, hd⟩ := h.strangers t hmem i hi
        exact ⟨hr.wake, fun hends => hd (hr.stepsToRefuse_wake.mp hends)⟩
      · exact .inl (by simp [ht, hu])
  | use wrapped raw outside w hw hr ho =>
    refine h.calm hloc rfl rfl ?_ rfl (fun t ht => .inl ht)
    simp only [Community.loans, Multiset.map_add, hw, hr]
  | make k r hk =>
    rcases p.manager.make_recorded c.world with ⟨k', w, hm⟩ | ⟨e, w, hm⟩
    · obtain ⟨rfl, rfl⟩ : k' = k ∧ c.world.note .make (p.manager.id k') w = r := by
        simpa [hm] using hk
      refine ⟨hloc, h.loans, h.places, ?_, h.coherent, fun t ht i hi => ?_⟩
      · refine ordered_append h.ordered (Recorded.calls_note _ _ _ _) (List.pairwise_singleton _ _)
          fun b hb => ?_
        obtain rfl := List.mem_singleton.mp hb
        exact made_not_destroyed h.located (Recorded.calls_note _ _ _ _) hn hb rfl
      · simpa using h.strangers t ht i hi
    · simp [hm] at hk
  | letGo ht hw _ =>
    have hcalls := letGo_calls p c.accounts c.world
    have hmade : (c.world.idsOf .make).Nodup := Multiset.nodup_of_le (idsOf_mono hcalls .make) hn
    have hidle : connectionsOf c.accounts.idle ≤ c.holdings := by
      rw [holdings, add_assoc, add_assoc]
      exact Multiset.le_add_right _ _
    refine ⟨hloc, h.loans, h.places, ordered_append h.ordered hcalls ?_ ?_, h.coherent, ?_⟩
    · have hnodup : ((connectionsOf c.accounts.idle).map p.manager.id).Nodup :=
        Multiset.nodup_of_le (Multiset.map_le_map hidle) (h.holdings_nodup hmade)
      rw [connectionsOf, Multiset.map_coe, Multiset.coe_nodup] at hnodup
      exact List.pairwise_map.mpr ((List.pairwise_map.mp hnodup).imp fun hab _ => hab.symm)
    · intro b hb
      obtain ⟨k, hk, rfl⟩ := List.mem_map.mp hb
      exact h.not_destroyed hmade (Multiset.mem_of_le hidle (Multiset.mem_coe.mpr hk))
    · intro t hmem
      simp [ht] at hmem

/-- However the turns are taken, the books mean what they say. -/
theorem run_sound (hid : p.manager.KeepsIds) {w : ω} {as : List (Activity κ)} (h : Run p w as c)
    (hn : (c.world.idsOf .make).Nodup) : c.Sound p.manager := by
  induction h with
  | start =>
    exact ⟨located_start w, rfl, rfl, .nil, by simp [Community.start], by simp [Community.start]⟩
  | acts _ hs ih =>
    obtain ⟨cs, hcalls, -⟩ := hs.calls hid
    exact hs.sound hid (ih (Multiset.nodup_of_le (idsOf_mono hcalls .make) hn)) hn
  | turn _ hs ih =>
    obtain ⟨cs, hcalls⟩ := hs.calls
    exact hs.sound (ih (Multiset.nodup_of_le (idsOf_mono hcalls .make) hn)) hn

end Turns

end DirectoryClient.Pool
