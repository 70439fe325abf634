import DirectoryClient.Proofs.Pool.Accounting
import DirectoryClient.Proofs.Pool.Community

/-! Where every connection of a pool is, at every moment of every run. -/
namespace DirectoryClient.Pool

variable {ω κ : Type}

/-- The ids with which a hook was called, in their order. -/
theorem Recorded.idsOf_append {r r' : Recorded ω} {cs : List Call} (h : r'.calls = r.calls ++ cs)
    (hook : Hook) : r'.idsOf hook =
      r.idsOf hook + Multiset.ofList ((cs.filter (·.hook = hook)).map Call.id) := by
  rw [idsOf, h, List.filter_append, List.map_append, ← Multiset.coe_add]
  rfl

section LetGo

def Manager.destroyAll (m : Manager ω κ) (ks : List κ) (w : ω) : ω :=
  ks.foldl (fun w k => m.destroy k w) w

theorem Manager.destroyAll_calls (m : Manager ω κ) (ks : List κ) (r : Recorded ω) :
    (m.recording.destroyAll ks r).calls = r.calls ++ ks.map fun k => ⟨.destroy, m.id k⟩ := by
  induction ks generalizing r with
  | nil => simp [destroyAll]
  | cons k ks ih =>
    rw [destroyAll, List.foldl_cons, ← destroyAll, ih, recording_destroy, Recorded.calls_note]
    simp

variable (p : Pool ω κ) (s : State κ) (r : Recorded ω)

/-- Who lets go of a pool destroys its idle connections. -/
theorem letGo_calls : (letGo p.recording s r).2.calls =
    r.calls ++ (s.idle.map Idle.connection).map fun k => ⟨.destroy, p.manager.id k⟩ :=
  p.manager.destroyAll_calls (s.idle.map Idle.connection) r

private theorem letGo_made : (letGo p.recording s r).2.idsOf .make = r.idsOf .make := by
  rw [Recorded.idsOf_append (letGo_calls p s r)]
  simp [List.filter_map, Function.comp_def]

private theorem letGo_destroyed : (letGo p.recording s r).2.idsOf .destroy =
    (connectionsOf s.idle).map p.manager.id + r.idsOf .destroy := by
  rw [Recorded.idsOf_append (letGo_calls p s r), add_comm]
  simp [List.filter_map, Function.comp_def, connectionsOf]

end LetGo

namespace Community

def holdings (c : Community ω κ) : Multiset κ :=
  connectionsOf c.accounts.idle + (c.tasks.map Task.holdings).sum + (c.wrapped + c.raw) + c.outside

def Located (m : Manager ω κ) (c : Community ω κ) : Prop :=
  c.holdings.map m.id + c.world.idsOf .destroy = c.world.idsOf .make

variable {m : Manager ω κ} {p : Pool ω κ} {c c' : Community ω κ}

private theorem holdings_enter (t : Task κ) (c : Community ω κ) :
    (c.enter t).holdings = t.activity.own + t.activity.lent + c.holdings := by
  simp only [holdings, enter, Multiset.map_cons, Multiset.sum_cons, Task.holdings]
  abel

theorem located_start (w : ω) : (start w : Community ω κ).Located m := rfl

private theorem Located.of_eq (h : c.Located m) (hw : c'.world.calls = c.world.calls)
    (hh : c'.holdings.map m.id = c.holdings.map m.id) : c'.Located m := by
  have hd : c'.world.idsOf .destroy = c.world.idsOf .destroy := by rw [Recorded.idsOf, hw]; rfl
  have hm : c'.world.idsOf .make = c.world.idsOf .make := by rw [Recorded.idsOf, hw]; rfl
  rw [Located, hh, hd, hm]
  exact h

private theorem carry_over {H H' R D M D' M' : Multiset Nat} (h : H + R + D = M)
    (hb : H' + D' + M = H + D + M') : H' + R + D' = M' := by
  apply add_right_cancel (b := M)
  calc H' + R + D' + M
      = H' + D' + M + R := by abel
    _ = H + D + M' + R := by rw [hb]
    _ = H + R + D + M' := by abel
    _ = M' + M := by rw [h, add_comm]

theorem Located.acts (hid : p.manager.KeepsIds) {a : Activity κ} (h : c.Located p.manager)
    (hs : Acts p a c c') : c'.Located p.manager := by
  obtain ⟨_, t, ts, ts', ht, hwoken⟩ := hs
  have hb := (step_balanced c.accounts c.world hid t.activity).located
  have hrest := hwoken.sum_map Task.holdings Task.holdings_wake
  have hc : c.holdings = connectionsOf c.accounts.idle + t.activity.own + t.activity.lent +
      ((ts.map Task.holdings).sum + (c.wrapped + c.raw) + c.outside) := by
    simp only [holdings, ht, Multiset.map_cons, Multiset.sum_cons, Task.holdings]
    abel
  rw [Located, hc, Multiset.map_add] at h
  rw [Located]
  convert carry_over h hb using 2
  rw [← Multiset.map_add, ← hrest]
  simp only [holdings, Multiset.map_cons, Multiset.sum_cons, Task.holdings]
  congr 1
  abel

theorem Located.turn (h : c.Located p.manager) (hs : Turn p c c') : c'.Located p.manager := by
  have hof : c'.world.calls = c.world.calls → c'.holdings = c.holdings → c'.Located p.manager :=
    fun hw hh => h.of_eq hw (by rw [hh])
  cases hs with
  | borrow | evict | close =>
    refine hof rfl ?_
    rw [holdings_enter]
    exact zero_add _
  | release k rest hk | detach k rest hk =>
    refine hof rfl ?_
    rw [holdings_enter]
    simp only [holdings, hk, Activity.own, Activity.lent, GiveBack.own, GiveBack.lent, Detach.own,
      Detach.lent, ← Multiset.singleton_add]
    abel
  | releaseRaw k rest _ hk | wrapRaw k rest _ hk | releaseStranger k rest _ hk
  | wrapStranger k rest _ hk =>
    refine hof rfl ?_
    rw [holdings_enter]
    simp only [holdings, hk, Activity.own, Activity.lent, GiveBack.own, GiveBack.lent, Wrap.own,
      Wrap.lent, ← Multiset.singleton_add]
    abel
  | unwrap k rest hk =>
    refine hof rfl ?_
    simp only [holdings, hk, ← Multiset.singleton_add]
    abel
  | finish t ts ht _ =>
    refine hof rfl ?_
    simp only [holdings, ht, Multiset.map_cons, Multiset.sum_cons, Task.holdings]
    abel
  | stir t ts ht =>
    refine hof rfl ?_
    simp only [holdings, ht, Multiset.map_cons, Multiset.sum_cons, Task.holdings_wake]
  | use wrapped raw outside w hw hr ho =>
    refine h.of_eq rfl ?_
    simp only [holdings, Multiset.map_add, hw, hr, ho]
  | make k r hk =>
    rcases p.manager.make_recorded c.world with ⟨k', w, hm⟩ | ⟨e, w, hm⟩
    · obtain ⟨rfl, rfl⟩ : k' = k ∧ c.world.note .make (p.manager.id k') w = r := by
        simpa [hm] using hk
      simp only [Located, holdings, Multiset.map_add, Multiset.map_cons, Recorded.idsOf_note] at h ⊢
      simp only [reduceCtorEq, ↓reduceIte, ← h, ← Multiset.singleton_add]
      abel
    · simp [hm] at hk
  | letGo ht hw _ =>
    simp only [Located, holdings, letGo_made, letGo_destroyed] at h ⊢
    simp only [letGo, State.drain, connectionsOf_nil, ← h, Multiset.map_add, Multiset.map_zero]
    abel

/-- However the turns are taken, no connection gets lost or comes from nowhere. -/
theorem run_located (hid : p.manager.KeepsIds) {w : ω} {as : List (Activity κ)}
    (h : Run p w as c) : c.Located p.manager := by
  induction h with
  | start => exact located_start w
  | acts _ hs ih => exact ih.acts hid hs
  | turn _ hs ih => exact ih.turn hs

end Community

end DirectoryClient.Pool
