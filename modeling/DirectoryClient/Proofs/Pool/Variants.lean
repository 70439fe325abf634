import DirectoryClient.Proofs.Pool.Image
import DirectoryClient.Proofs.Pool.Neighbours

/-! Two variants of what has happened to a pool, whose connections differ in something that no id tells.
They go on in the same way until a hook, or something that a caller does, comes to different things. -/
namespace DirectoryClient.Pool

variable {ω κ κ' δ : Type}

def Task.map (h : κ → κ') (t : Task κ) : Task κ' where
  activity := t.activity.map h
  stranger := t.stranger

def Party.map (h : κ → κ') (q : Party κ) : Party κ' where
  accounts := q.accounts.map h
  tasks := q.tasks.map (Task.map h)
  wrapped := q.wrapped.map h
  isGone := q.isGone

/-- A pool, those who use it, and the world. How callers hold their connections makes no difference
here. -/
structure Scene (ω κ : Type) where
  party : Party κ
  world : ω

/-- Something that is done: a step of an activity, or a deed of a caller on a connection. -/
inductive Doing (δ κ : Type) where
  | step (a : Activity κ)
  | deed (d : δ) (k : κ)

namespace Doing

def map (h : κ → κ') : Doing δ κ → Doing δ κ'
  | step a => step (a.map h)
  | deed d k => deed d (h k)

end Doing

section Moves

variable (p : Pool ω κ) (use : δ → κ → ω → κ × ω) (goes : ω → ω → Prop)

inductive Does : Doing δ κ → Scene ω κ → Scene ω κ → Prop
  | step (x : Scene ω κ) (t : Task κ) (ts ts' : Multiset (Task κ)) : x.party.tasks = t ::ₘ ts →
    Woken (t.activity.step p x.party.accounts x.world).wakeup ts ts' →
    Does (.step t.activity) x
      { party := { x.party with
          accounts := (t.activity.step p x.party.accounts x.world).state
          tasks := { t with
            activity := (t.activity.step p x.party.accounts x.world).activity } ::ₘ ts' }
        world := (t.activity.step p x.party.accounts x.world).world }
  | deed (x : Scene ω κ) (d : δ) (k : κ) (rest : Multiset κ) : x.party.wrapped = k ::ₘ rest →
    Does (.deed d k) x
      { party := { x.party with wrapped := (use d k x.world).1 ::ₘ rest }
        world := (use d k x.world).2 }

/-- What happens in between: callers begin activities and take their results, sleepers wake for no
reason, and the world goes on by itself. -/
inductive Passes : Scene ω κ → Scene ω κ → Prop
  | borrow (x : Scene ω κ) : x.party.isGone = false →
    Passes x { x with party := x.party.enter (.startBorrow p x.world) }
  | evict (x : Scene ω κ) : x.party.isGone = false →
    Passes x { x with party := x.party.enter (.evict .starting) }
  | close (x : Scene ω κ) : x.party.isGone = false →
    Passes x { x with party := x.party.enter (.close .starting) }
  | giveBack (x : Scene ω κ) (k : κ) (rest : Multiset κ) : x.party.wrapped = k ::ₘ rest →
    Passes x { x with
      party := Party.enter (.giveBack (.presenting k)) { x.party with wrapped := rest } }
  | wrap (x : Scene ω κ) (k : κ) (rest : Multiset κ) : x.party.wrapped = k ::ₘ rest →
    Passes x { x with
      party := Party.enter (.wrap (.presenting k)) { x.party with wrapped := rest } }
  | detach (x : Scene ω κ) (k : κ) (rest : Multiset κ) : x.party.wrapped = k ::ₘ rest →
    Passes x { x with
      party := Party.enter (.detach (.forgetting k)) { x.party with wrapped := rest } }
  /-- A finished activity hands over what it has in its hands. -/
  | finish (x : Scene ω κ) (t : Task κ) (ts : Multiset (Task κ)) : x.party.tasks = t ::ₘ ts →
    t.activity.isFinished = true →
    Passes x { x with party := { x.party with
      tasks := ts
      wrapped := t.activity.lent + t.activity.own + x.party.wrapped } }
  /-- The manager is asked for a connection that is not for the pool. -/
  | make (x : Scene ω κ) (k : κ) (w : ω) : p.manager.make x.world = (.ok k, w) →
    Passes x { party := { x.party with wrapped := k ::ₘ x.party.wrapped }, world := w }
  | stir (x : Scene ω κ) (t : Task κ) (ts : Multiset (Task κ)) : x.party.tasks = t ::ₘ ts →
    Passes x { x with party := { x.party with tasks := t.wake ::ₘ ts } }
  | goOn (x : Scene ω κ) (w : ω) : goes x.world w → Passes x { x with world := w }
  /-- The last handle on the pool goes away: its idle connections are destroyed, one after the other. -/
  | letGo (x : Scene ω κ) : x.party.tasks = 0 → x.party.isGone = false →
    Passes x { x with party := { x.party with
      accounts := x.party.accounts.drain.2
      tasks := {⟨.close (.destroying x.party.accounts.drain.1), none⟩}
      isGone := true } }

inductive Goes (x₀ : Scene ω κ) : List (Doing δ κ) → Scene ω κ → Prop
  | start : Goes x₀ [] x₀
  | does {xs : List (Doing δ κ)} {e : Doing δ κ} {x x' : Scene ω κ} : Goes x₀ xs x →
    Does p use e x x' → Goes x₀ (xs ++ [e]) x'
  | passes {xs : List (Doing δ κ)} {x x' : Scene ω κ} : Goes x₀ xs x → Passes p goes x x' →
    Goes x₀ xs x'

variable {p use goes} in
theorem Goes.trans {x₀ x y : Scene ω κ} {es fs : List (Doing δ κ)} (h : Goes p use goes x₀ es x)
    (h' : Goes p use goes x fs y) : Goes p use goes x₀ (es ++ fs) y := by
  induction h' with
  | start => rwa [List.append_nil]
  | does _ hd ih =>
    rw [← List.append_assoc]
    exact ih.does hd
  | passes _ hp ih => exact ih.passes hp

end Moves

structure Scene.Alike (h : κ → κ) (x y : Scene ω κ) : Prop where
  party : x.party.map h = y.party.map h
  world : x.world = y.world

private theorem exists_cons_of_map {α β : Type} {f : α → β} {s t : Multiset α} {a : α}
    (h : (a ::ₘ s).map f = t.map f) : ∃ b u, t = b ::ₘ u ∧ f b = f a ∧ u.map f = s.map f := by
  classical
  rw [Multiset.map_cons] at h
  obtain ⟨b, hb, hfb, hrest⟩ := (Multiset.map_eq_cons f t (s.map f) (f a)).mpr h.symm
  exact ⟨b, t.erase b, (Multiset.cons_erase hb).symm, hfb, hrest⟩

section Images

variable (h : κ → κ')

private theorem Activity.isWaiting_map (a : Activity κ) : (a.map h).isWaiting = a.isWaiting := by
  rcases a with ⟨d, b⟩ | _ | _ | _ | _ | _
  · cases b <;> rfl
  all_goals rfl

private theorem Activity.isFinished_map (a : Activity κ) : (a.map h).isFinished = a.isFinished := by
  rcases a with ⟨d, x⟩ | x | x | x | x | x <;> cases x <;> rfl

private theorem Activity.wake_map (a : Activity κ) : (a.map h).wake = a.wake.map h := by
  rcases a with ⟨d, b⟩ | _ | _ | _ | _ | _
  · cases b <;> rfl
  all_goals rfl

private theorem Task.wake_map (t : Task κ) : (t.map h).wake = t.wake.map h := by
  simp [wake, map, Activity.wake_map]

private theorem Activity.lent_map (a : Activity κ) (hf : a.isFinished = true) :
    (a.map h).lent = a.lent.map h := by
  rcases a with ⟨d, x⟩ | x | x | x | x | x <;> cases x <;> cases hf
  case borrow.finished o => cases o <;> rfl
  case wrap.finished o => cases o <;> rfl
  all_goals rfl

private theorem Activity.own_map (a : Activity κ) (hf : a.isFinished = true) :
    (a.map h).own = a.own.map h := by
  rcases a with ⟨d, x⟩ | x | x | x | x | x <;> cases x <;> cases hf
  case detach.finished k => exact (Multiset.map_singleton h k).symm
  all_goals rfl

private theorem Party.map_enter (a : Activity κ) (q : Party κ) :
    (q.enter a).map h = (q.map h).enter (a.map h) := by
  simp [enter, map, Task.map]

end Images

section Sleepers

variable {h : κ → κ'} {ts ts' us : Multiset (Task κ)} {wakeup : Wakeup}

private theorem Task.isWaiting_of_map {t u : Task κ} (htu : u.map h = t.map h) :
    u.activity.isWaiting = t.activity.isWaiting := by
  rw [← Activity.isWaiting_map h, ← Activity.isWaiting_map h]
  exact congrArg (fun t => t.activity.isWaiting) htu

private theorem Task.map_wake_of_map {t u : Task κ} (htu : u.map h = t.map h) :
    u.wake.map h = t.wake.map h := by
  rw [← Task.wake_map, ← Task.wake_map, htu]

/-- Those who can be woken in one variant can be woken in another. -/
private theorem Woken.exists_of_map (hw : Woken wakeup ts ts')
    (hmap : ts.map (Task.map h) = us.map (Task.map h)) :
    ∃ us', Woken wakeup us us' ∧ us'.map (Task.map h) = ts'.map (Task.map h) := by
  cases hw with
  | nobody => exact ⟨us, .nobody us, hmap.symm⟩
  | one t ts hwaiting =>
    obtain ⟨u, us, rfl, hu, hrest⟩ := exists_cons_of_map hmap
    refine ⟨u.wake ::ₘ us, .one u us (by rwa [Task.isWaiting_of_map hu]), ?_⟩
    rw [Multiset.map_cons, Multiset.map_cons, Task.map_wake_of_map hu, hrest]
  | none ts hnone =>
    refine ⟨us, .none us fun u hu => ?_, hmap.symm⟩
    obtain ⟨t, ht, htu⟩ : ∃ t ∈ ts, t.map h = u.map h := by
      rw [← Multiset.mem_map, hmap]
      exact Multiset.mem_map_of_mem _ hu
    rw [← hnone t ht, Task.isWaiting_of_map htu]
  | everyone =>
    refine ⟨us.map Task.wake, .everyone us, ?_⟩
    have hcomm : ∀ vs : Multiset (Task κ),
        (vs.map Task.wake).map (Task.map h) = (vs.map (Task.map h)).map Task.wake := by
      intro vs
      simp only [Multiset.map_map]
      exact Multiset.map_congr rfl fun v _ => (Task.wake_map h v).symm
    rw [hcomm, hcomm, hmap]

end Sleepers

section Pairs

variable (h : κ → κ) (p : Pool ω κ) (use : δ → κ → ω → κ × ω)

def Doing.Agrees (w : ω) : Doing δ κ → Doing δ κ → Prop
  | step a, step b => ∀ hook k k', a.call? = some (hook, k) → b.call? = some (hook, k') →
    p.manager.Agrees h w hook k k'
  | deed d k, deed _ k' =>
    (h (use d k w).1, (use d k w).2) = (h (use d k' w).1, (use d k' w).2)
  | _, _ => True

variable {h p use} {goes : ω → ω → Prop} {x x' y : Scene ω κ} {e : Doing δ κ}

namespace Scene.Alike

theorem symm (hxy : x.Alike h y) : y.Alike h x := ⟨hxy.party.symm, hxy.world.symm⟩

theorem trans {z : Scene ω κ} (hxy : x.Alike h y) (hyz : y.Alike h z) : x.Alike h z :=
  ⟨hxy.party.trans hyz.party, hxy.world.trans hyz.world⟩

private theorem accounts (hxy : x.Alike h y) : x.party.accounts.map h = y.party.accounts.map h :=
  congrArg Party.accounts hxy.party

private theorem tasks (hxy : x.Alike h y) :
    x.party.tasks.map (Task.map h) = y.party.tasks.map (Task.map h) :=
  congrArg Party.tasks hxy.party

private theorem wrapped (hxy : x.Alike h y) : x.party.wrapped.map h = y.party.wrapped.map h :=
  congrArg Party.wrapped hxy.party

private theorem isGone (hxy : x.Alike h y) : x.party.isGone = y.party.isGone :=
  (congrArg Party.isGone hxy.party :)

theorem intro {q r : Party κ} {w w' : ω} (haccounts : q.accounts.map h = r.accounts.map h)
    (htasks : q.tasks.map (Task.map h) = r.tasks.map (Task.map h))
    (hwrapped : q.wrapped.map h = r.wrapped.map h) (hgone : q.isGone = r.isGone) (hworld : w = w') :
    Scene.Alike h ⟨q, w⟩ ⟨r, w'⟩ where
  party := by simp only [Party.map, haccounts, htasks, hwrapped, hgone]
  world := hworld

/-- Somebody has begun an activity, which is the same in both variants. -/
private theorem enter {a b : Activity κ} {q r : Party κ} {w : ω} (hab : a.map h = b.map h)
    (hqr : Scene.Alike h ⟨q, w⟩ ⟨r, w⟩) : Scene.Alike h ⟨q.enter a, w⟩ ⟨r.enter b, w⟩ where
  party := by
    rw [Party.map_enter, Party.map_enter, hab, hqr.party]
  world := rfl

/-- Who holds a connection in one variant holds one with the same image in the other. -/
private theorem exists_wrapped (hxy : x.Alike h y) {k : κ} {rest : Multiset κ}
    (hk : x.party.wrapped = k ::ₘ rest) : ∃ k' rest', y.party.wrapped = k' ::ₘ rest' ∧ h k' = h k ∧
      rest.map h = rest'.map h := by
  obtain ⟨k', rest', hk', hsame, hrest⟩ := exists_cons_of_map (hk ▸ hxy.wrapped)
  exact ⟨k', rest', hk', hsame, hrest.symm⟩

private theorem exists_task (hxy : x.Alike h y) {t : Task κ} {ts : Multiset (Task κ)}
    (ht : x.party.tasks = t ::ₘ ts) : ∃ u us, y.party.tasks = u ::ₘ us ∧ u.map h = t.map h ∧
      ts.map (Task.map h) = us.map (Task.map h) := by
  obtain ⟨u, us, hu, hsame, hrest⟩ := exists_cons_of_map (ht ▸ hxy.tasks)
  exact ⟨u, us, hu, hsame, hrest.symm⟩

end Scene.Alike

private theorem Passes.exists_alike (hp : Passes p goes x x') (hxy : x.Alike h y) :
    ∃ y', Passes p goes y y' ∧ x'.Alike h y' := by
  obtain ⟨q, w⟩ := x
  obtain ⟨r, w'⟩ := y
  obtain rfl : w = w' := hxy.world
  -- Whoever comes back is held no more.
  have released : ∀ {rest rest' : Multiset κ}, rest.map h = rest'.map h →
      Scene.Alike h ⟨{ q with wrapped := rest }, w⟩ ⟨{ r with wrapped := rest' }, w⟩ :=
    fun hrest => .intro hxy.accounts hxy.tasks hrest hxy.isGone rfl
  cases hp with
  | borrow hgone => exact ⟨_, .borrow _ (hxy.isGone ▸ hgone), .enter rfl hxy⟩
  | evict hgone => exact ⟨_, .evict _ (hxy.isGone ▸ hgone), .enter rfl hxy⟩
  | close hgone => exact ⟨_, .close _ (hxy.isGone ▸ hgone), .enter rfl hxy⟩
  | giveBack k rest hk =>
    obtain ⟨k', rest', hk', hsame, hrest⟩ := hxy.exists_wrapped hk
    exact ⟨_, .giveBack _ k' rest' hk',
      .enter (congrArg (Activity.giveBack ∘ GiveBack.presenting) hsame.symm) (released hrest)⟩
  | wrap k rest hk =>
    obtain ⟨k', rest', hk', hsame, hrest⟩ := hxy.exists_wrapped hk
    exact ⟨_, .wrap _ k' rest' hk',
      .enter (congrArg (Activity.wrap ∘ Wrap.presenting) hsame.symm) (released hrest)⟩
  | detach k rest hk =>
    obtain ⟨k', rest', hk', hsame, hrest⟩ := hxy.exists_wrapped hk
    exact ⟨_, .detach _ k' rest' hk',
      .enter (congrArg (Activity.detach ∘ Detach.forgetting) hsame.symm) (released hrest)⟩
  | finish t ts ht hf =>
    obtain ⟨u, us, hu, hsame, hrest⟩ := hxy.exists_task ht
    have hactivity : u.activity.map h = t.activity.map h := congrArg Task.activity hsame
    have hfu : u.activity.isFinished = true := by
      rw [← hf, ← Activity.isFinished_map h, hactivity, Activity.isFinished_map]
    refine ⟨_, .finish _ u us hu hfu, .intro hxy.accounts hrest ?_ hxy.isGone rfl⟩
    simp only [Multiset.map_add]
    rw [← Activity.lent_map h _ hf, ← Activity.own_map h _ hf, ← Activity.lent_map h _ hfu,
      ← Activity.own_map h _ hfu, hactivity, hxy.wrapped]
  | make k w' hmake =>
    refine ⟨_, .make _ k w' hmake, .intro hxy.accounts hxy.tasks ?_ hxy.isGone rfl⟩
    rw [Multiset.map_cons, Multiset.map_cons, hxy.wrapped]
  | stir t ts ht =>
    obtain ⟨u, us, hu, hsame, hrest⟩ := hxy.exists_task ht
    refine ⟨_, .stir _ u us hu, .intro hxy.accounts ?_ hxy.wrapped hxy.isGone rfl⟩
    rw [Multiset.map_cons, Multiset.map_cons, Task.map_wake_of_map hsame, hrest]
  | goOn w' hgoes => exact ⟨_, .goOn _ w' hgoes, ⟨hxy.party, rfl⟩⟩
  | letGo htasks hgone =>
    have hnone : r.tasks = 0 := by
      have hmap := hxy.tasks
      rw [htasks, Multiset.map_zero] at hmap
      exact Multiset.map_eq_zero.mp hmap.symm
    have hdrain := State.drain_map h q.accounts
    rw [hxy.accounts, State.drain_map, Prod.mk.injEq] at hdrain
    refine ⟨_, .letGo _ hnone (hxy.isGone ▸ hgone),
      .intro hdrain.2.symm ?_ hxy.wrapped rfl rfl⟩
    simp [Task.map, Activity.map, Closing.map, hdrain.1]

/-- What is done in one variant can be done in the other. If it comes to the same, the variants remain
alike. -/
private theorem Does.exists_alike (hid : ∀ k, p.manager.id (h k) = p.manager.id k)
    (hd : Does p use e x x') (hxy : x.Alike h y) : ∃ f y', Does p use f y y' ∧ f.map h = e.map h ∧
      (e.Agrees h p use x.world f → x'.Alike h y') := by
  obtain ⟨q, w⟩ := x
  obtain ⟨r, w'⟩ := y
  obtain rfl : w = w' := hxy.world
  cases hd with
  | deed _ d k rest hk =>
    obtain ⟨k', rest', hk', hsame, hrest⟩ := hxy.exists_wrapped hk
    refine ⟨_, _, .deed _ d k' rest' hk', congrArg (Doing.deed d) hsame, fun hagrees => ?_⟩
    obtain ⟨himage, hworld⟩ := Prod.mk.inj hagrees
    refine .intro hxy.accounts hxy.tasks ?_ hxy.isGone hworld
    rw [Multiset.map_cons, Multiset.map_cons, himage, hrest]
  | step _ t ts ts' ht hw =>
    obtain ⟨u, us, hu, hsame, hrest⟩ := hxy.exists_task ht
    have hactivity : u.activity.map h = t.activity.map h := congrArg Task.activity hsame
    by_cases hagrees : (Doing.step t.activity : Doing δ κ).Agrees h p use w (.step u.activity)
    · have hstep := step_congr (p := p) hid hactivity.symm hxy.accounts hagrees
      obtain ⟨us', hwoken, hus'⟩ := hw.exists_of_map hrest
      have hwakeup : (t.activity.step p q.accounts w).wakeup =
          (u.activity.step p r.accounts w).wakeup := (congrArg Step.wakeup hstep :)
      rw [hwakeup] at hwoken
      refine ⟨_, _, .step _ u us us' hu hwoken, congrArg Doing.step hactivity, fun _ =>
        .intro (congrArg Step.state hstep :) ?_ hxy.wrapped hxy.isGone (congrArg Step.world hstep :)⟩
      have hnext : (t.activity.step p q.accounts w).activity.map h =
          (u.activity.step p r.accounts w).activity.map h := congrArg Step.activity hstep
      have hstranger : u.stranger = t.stranger := (congrArg Task.stranger hsame :)
      simp only [Multiset.map_cons, Task.map, hnext, hstranger, hus']
    · obtain ⟨us', hwoken⟩ := Woken.exists_woken (u.activity.step p r.accounts w).wakeup us
      exact ⟨_, _, .step _ u us us' hu hwoken, congrArg Doing.step hactivity,
        fun h => absurd h hagrees⟩

structure Moment (δ ω κ : Type) where
  /-- What has been done until then. -/
  done : List (Doing δ κ)
  scene : Scene ω κ
  /-- What is done next. -/
  next : Doing δ κ
  /-- What comes of it. -/
  result : Scene ω κ

variable (p use goes) in
structure Moment.IsReached (x₀ : Scene ω κ) (m : Moment δ ω κ) : Prop where
  goes : Goes p use goes x₀ m.done m.scene
  does : Does p use m.next m.scene m.result

variable (h) in
structure Moment.Alike (m m' : Moment δ ω κ) : Prop where
  done : m.done.map (Doing.map h) = m'.done.map (Doing.map h)
  scene : m.scene.Alike h m'.scene
  next : m.next.map h = m'.next.map h

variable {x₀ y₀ : Scene ω κ} {es : List (Doing δ κ)}

/-- A run in one variant is a run in the other, unless there is a first moment at which what is done does
not come to the same in both. -/
theorem Goes.alike_or_parts (hid : ∀ k, p.manager.id (h k) = p.manager.id k)
    (hg : Goes p use goes x₀ es x) (hstart : x₀.Alike h y₀) :
    (∃ fs y, Goes p use goes y₀ fs y ∧ es.map (Doing.map h) = fs.map (Doing.map h) ∧ x.Alike h y) ∨
      ∃ m m' : Moment δ ω κ, m.IsReached p use goes x₀ ∧ m'.IsReached p use goes y₀ ∧
        m.done ++ [m.next] <+: es ∧ m.Alike h m' ∧
        ¬m.next.Agrees h p use m.scene.world m'.next := by
  induction hg with
  | start => exact .inl ⟨[], y₀, .start, rfl, hstart⟩
  | passes hg hp ih =>
    rcases ih with ⟨fs, y, hy, hlabels, hxy⟩ | hparts
    · obtain ⟨y', hy', hxy'⟩ := hp.exists_alike hxy
      exact .inl ⟨fs, y', hy.passes hy', hlabels, hxy'⟩
    · exact .inr hparts
  | @does es e x x' hg hd ih =>
    rcases ih with ⟨fs, y, hy, hlabels, hxy⟩ | ⟨m, m', hm, hm', hprefix, hparts⟩
    · obtain ⟨f, y', hy', hlabel, hgoeson⟩ := hd.exists_alike hid hxy
      by_cases hagrees : e.Agrees h p use x.world f
      · refine .inl ⟨fs ++ [f], y', hy.does hy', ?_, hgoeson hagrees⟩
        simp [hlabels, hlabel]
      · exact .inr ⟨⟨es, x, e, x'⟩, ⟨fs, y, f, y'⟩, ⟨hg, hd⟩, ⟨hy, hy'⟩, List.prefix_rfl,
          ⟨hlabels, hxy, hlabel.symm⟩, hagrees⟩
    · exact .inr ⟨m, m', hm, hm', hprefix.trans (List.prefix_append es [e]), hparts⟩

end Pairs

section Calls

variable {p : Pool ω κ} {use : δ → κ → ω → κ × ω}

def Manager.call (m : Manager ω κ) : Hook → κ → ω → Option κ × ω
  | .make, k, w => (some k, w)
  | .activate, k, w => (some (m.activate k w).2.1, (m.activate k w).2.2)
  | .validate, k, w => (some (m.validate k w).2.1, (m.validate k w).2.2)
  | .passivate, k, w => (some (m.passivate k w).2.1, (m.passivate k w).2.2)
  | .destroy, k, w => (none, m.destroy k w)

private theorem Activity.world_step {a : Activity κ} {hook : Hook} {k : κ} (s : State κ) (w : ω)
    (ha : a.call? = some (hook, k)) : (a.step p s w).world = (p.manager.call hook k w).2 := by
  rcases a with ⟨d, b⟩ | g | g | d | e | c
  · cases b <;> cases ha
    case borrow.activating.refl isNew =>
      simp only [step, Borrow.step, Manager.call]
      rcases p.manager.activate k w with ⟨_ | _, k', w'⟩ <;> rfl
    case borrow.validating.refl isNew =>
      simp only [step, Borrow.step, Manager.call]
      rcases p.manager.validate k w with ⟨_ | _, k', w'⟩ <;> rfl
    case borrow.discarding.refl => rfl
  · cases g <;> cases ha
    case giveBack.passivating.refl id =>
      simp only [step, GiveBack.step, Manager.call]
      rcases p.manager.passivate k w with ⟨_ | _, k', w'⟩ <;> rfl
    all_goals rfl
  · cases g <;> cases ha
    rfl
  · cases d <;> cases ha
  · rcases e with _ | ⟨_ | _, _, _⟩ | ⟨_ | _, _, _, _⟩ | ⟨_ | _, _, _⟩ | _ | _ | _ | _ | _ | _ <;>
      cases ha <;> rfl
  · rcases c with _ | _ | ⟨_ | _⟩ | _ <;> cases ha
    rfl

/-- The connection to which something is done, if it is done to one. -/
def Doing.target? : Doing δ κ → Option κ
  | step a => a.call?.map Prod.snd
  | deed _ k => some k

variable (p use) in
def Doing.effect (w : ω) : Doing δ κ → Option κ × ω
  | step a => a.call?.elim (none, w) fun x => p.manager.call x.1 x.2 w
  | deed d k => (some (use d k w).1, (use d k w).2)

/-- The world goes on as what is done to a connection says. -/
theorem Does.world_eq {e : Doing δ κ} {x x' : Scene ω κ} {k : κ} (hd : Does p use e x x')
    (he : e.target? = some k) : x'.world = (e.effect p use x.world).2 := by
  cases hd with
  | deed => rfl
  | step _ t ts ts' ht hw =>
    obtain ⟨⟨hook, k⟩, hcall, -⟩ := Option.map_eq_some_iff.mp he
    rw [Activity.world_step _ _ hcall, Doing.effect, hcall]
    rfl

end Calls

end DirectoryClient.Pool
