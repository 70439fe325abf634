import DirectoryClient.Proofs.Pool.Borrowing
import DirectoryClient.Proofs.Pool.Choosing
import DirectoryClient.Proofs.Pool.Steady

/-! A pool that is used by one caller at a time: its idle connections lie in the order in which they came
back, and a borrow takes the one that came back last, or first. -/
namespace DirectoryClient.Pool

variable {ω κ : Type}

namespace Activity

/-- The idle connections that an eviction pass has taken and may put back, in their order. -/
def shelf : Activity κ → List (Idle κ)
  | evict (.expiring _ kept _) => kept
  | evict (.testing untested valid _ _) => valid ++ untested
  | evict (.discarding _ valid _) => valid
  | evict (.puttingBack kept _) => kept
  | _ => []

/-- The connection that comes back to the pool with the next step, or that an eviction pass has made for
it, and the instant. -/
def arrival (m : Manager ω κ) (now : Nat) : Activity κ → List (Nat × Nat)
  | giveBack (.settling id _ _) => [(id, now)]
  | evict (.adopting k _ _) => [(m.id k, now)]
  | _ => []

@[simp]
theorem shelf_wake (a : Activity κ) : a.wake.shelf = a.shelf := by
  cases a <;> rfl

private theorem arrival_cases {m : Manager ω κ} {a : Activity κ} (hc : a.Coherent m) (now : Nat) :
    a.arrival m now = [] ∨
      a.shelf = [] ∧ ∃ k ∈ a.own + a.lent, a.arrival m now = [(m.id k, now)] := by
  cases a with
  | giveBack g =>
    cases g with
    | settling id k keep =>
      have hk : id = m.id k := hc
      exact .inr ⟨rfl, k, by simp [own, lent, GiveBack.lent], by rw [← hk]; rfl⟩
    | _ => exact .inl rfl
  | evict e =>
    cases e with
    | adopting k missing n => exact .inr ⟨rfl, k, by simp [own, Eviction.own], rfl⟩
    | _ => exact .inl rfl
  | borrow | wrap | detach | close => exact .inl rfl

private theorem time_of_arrival {m : Manager ω κ} {a : Activity κ} (hc : a.Coherent m) (now : Nat) :
    ∀ x ∈ a.arrival m now, x.2 = now := by
  rcases arrival_cases hc now with h | ⟨-, k, -, h⟩ <;> simp [h]

end Activity

/-- What lies idle or on a shelf after a step lay there before, in the same order and for the same time,
or has just arrived. -/
private def Shelved (m : Manager ω κ) (now : Nat) (s s' : State κ) (a a' : Activity κ) : Prop :=
  ((a'.shelf ++ s'.idle).map (Idle.stamp m)).Sublist
    ((a.shelf ++ s.idle).map (Idle.stamp m) ++ a.arrival m now)

namespace Shelved

variable {m : Manager ω κ} {now : Nat} {s s' : State κ} {a a' : Activity κ}

private theorem of_sublist (h : ((a'.shelf ++ s'.idle).map (Idle.stamp m)).Sublist
    ((a.shelf ++ s.idle).map (Idle.stamp m))) : Shelved m now s s' a a' :=
  h.trans (List.sublist_append_left _ _)

private theorem still (hs : a'.shelf = a.shelf) (hi : s'.idle = s.idle) : Shelved m now s s' a a' :=
  of_sublist (by rw [hs, hi])

end Shelved

section Steps

variable {p : Pool ω κ} (hid : p.manager.KeepsIds) (s : State κ) (w : ω)

private theorem borrow_shelved (d : Option Nat) (b : Borrow κ) :
    Shelved p.manager (p.manager.clock w) s (b.step p d s w).state (.borrow d b)
      (.borrow d (b.step p d s w).activity) := by
  cases b with
  | reserving =>
    have hidle := s.reserve_sublist p.settings (d.any (· ≤ p.manager.clock w))
    simp only [Borrow.step]
    split <;> rename_i h <;> rw [h] at hidle <;> exact .of_sublist (hidle.map _)
  | making =>
    simp only [Borrow.step]
    split <;> exact .still rfl rfl
  | activating k isNew =>
    simp only [Borrow.step]
    split <;> exact .still rfl rfl
  | validating k isNew =>
    simp only [Borrow.step]
    split <;> exact .still rfl rfl
  | waiting | checkingOut | discarding | cancelling | signalling | finished => exact .still rfl rfl

private theorem giveBack_shelved (g : GiveBack κ) (hc : g.Coherent p.manager) :
    Shelved p.manager (p.manager.clock w) s (g.step p s w).state (.giveBack g)
      (.giveBack (g.step p s w).activity) := by
  cases g with
  | passivating id k =>
    simp only [GiveBack.step]
    split <;> exact .still rfl rfl
  | settling id k keep =>
    rcases s.settleReturn_cases p.settings (p.manager.clock w) id k keep with h | ⟨-, -, h⟩
    · simp only [GiveBack.step, h]
      exact .still rfl rfl
    · have hk : id = p.manager.id k := hc
      simp only [GiveBack.step, h]
      simp [Shelved, Activity.shelf, Activity.arrival, Idle.stamp, hk]
  | presenting | rejecting | validating | signalling | discarding | finished => exact .still rfl rfl

include hid

private theorem evict_shelved (e : Eviction κ) :
    Shelved p.manager (p.manager.clock w) s (e.step p s w).state (.evict e)
      (.evict (e.step p s w).activity) := by
  cases e with
  | starting =>
    cases hclosed : s.isClosed with
    | true =>
      simp only [Eviction.step, State.takeForEviction, hclosed, ↓reduceIte]
      exact .still rfl rfl
    | false =>
      simp only [Eviction.step, State.takeForEviction, hclosed, Bool.false_eq_true, ↓reduceIte,
        List.partition_eq_filter_filter]
      refine .of_sublist (List.Sublist.map _ ?_)
      simp [Activity.shelf]
  | expiring expired kept n =>
    cases expired with
    | nil =>
      simp only [Eviction.step]
      split <;> exact .still (by simp [Activity.shelf]) rfl
    | cons i expired => exact .still rfl rfl
  | testing untested valid invalid n =>
    cases untested with
    | nil => exact .still (by simp [Activity.shelf, Eviction.step]) rfl
    | cons i untested =>
      have hk := hid.validate i.connection w
      rcases hv : p.manager.validate i.connection w with ⟨isValid, k, w'⟩
      rw [hv] at hk
      refine .of_sublist ?_
      cases isValid <;> simp [Eviction.step, hv, Activity.shelf, Idle.stamp, hk]
  | discarding invalid valid n => cases invalid <;> exact .still rfl rfl
  | puttingBack kept n => exact .of_sublist (.refl _)
  | making missing n =>
    cases missing with
    | zero => exact .still rfl rfl
    | succ missing =>
      simp only [Eviction.step]
      split <;> exact .still rfl rfl
  | adopting k missing n =>
    rcases s.adopt_cases p.settings (p.manager.clock w) k with h | ⟨-, -, h⟩
    · simp only [Eviction.step, h]
      exact .still rfl rfl
    · simp only [Eviction.step, h]
      simp [Shelved, Activity.shelf, Activity.arrival, Idle.stamp]
  | refusing | signalling | finished => exact .still rfl rfl

private theorem step_shelved (a : Activity κ) (hc : a.Coherent p.manager) :
    Shelved p.manager (p.manager.clock w) s (a.step p s w).state a (a.step p s w).activity := by
  cases a with
  | borrow d b => exact borrow_shelved s w d b
  | giveBack g => exact giveBack_shelved s w g hc
  | wrap g => cases g <;> exact .still rfl rfl
  | detach d => cases d <;> exact .still rfl rfl
  | evict e => exact evict_shelved hid s w e
  | close c =>
    cases c with
    | starting =>
      rcases s.close_cases with ⟨-, h⟩ | ⟨-, h⟩
      · simp only [Activity.step, Closing.step, h]
        exact .still rfl rfl
      · simp only [Activity.step, Closing.step, h]
        exact .of_sublist (List.nil_sublist _)
    | destroying ks => cases ks <;> exact .still rfl rfl
    | signalling | finished => exact .still rfl rfl

end Steps

structure Filed (log xs : List (Nat × Nat)) : Prop where
  order : xs.Sublist log
  latest : ∀ x ∈ xs, (log.filter (·.1 = x.1)).getLast? = some x

namespace Filed

variable {log xs ys : List (Nat × Nat)}

private theorem sublist (h : Filed log xs) (hys : ys.Sublist xs) : Filed log ys where
  order := hys.trans h.order
  latest x hx := h.latest x (hys.subset hx)

private theorem concat (h : Filed log xs) {e : Nat × Nat} (he : ∀ x ∈ xs, x.1 ≠ e.1) :
    Filed (log ++ [e]) (xs ++ [e]) where
  order := h.order.append (.refl _)
  latest x hx := by
    rw [List.filter_append, List.getLast?_append]
    rcases List.mem_append.mp hx with hx | hx
    · simp [h.latest x hx, (he x hx).symm]
    · obtain rfl := List.mem_singleton.mp hx
      simp

end Filed

structure Chronological (now : Nat) (log : List (Nat × Nat)) : Prop where
  sorted : log.Pairwise fun x y => x.2 ≤ y.2
  past : ∀ x ∈ log, x.2 ≤ now

namespace Chronological

variable {now : Nat} {log : List (Nat × Nat)}

private theorem later (h : Chronological now log) {now' : Nat} (hle : now ≤ now') :
    Chronological now' log where
  sorted := h.sorted
  past x hx := (h.past x hx).trans hle

private theorem append (h : Chronological now log) {xs : List (Nat × Nat)} (hxs : ∀ x ∈ xs, x.2 = now) :
    Chronological now (log ++ xs) where
  sorted := by
    refine List.pairwise_append.mpr ⟨h.sorted, ?_, fun x hx y hy => ?_⟩
    · exact List.pairwise_of_forall_mem_list fun x hx y hy => by rw [hxs x hx, hxs y hy]
    · exact (h.past x hx).trans_eq (hxs y hy).symm
  past x hx := (List.mem_append.mp hx).elim (h.past x) fun hx => (hxs x hx).le

end Chronological

/-- A history in which one activity is under way at a time, with a log of what has come back to the pool
or was made for it, whether it stayed or not, and when. The clock does not go back. -/
inductive Sequential (p : Pool ω κ) (w : ω) : List (Nat × Nat) → Community ω κ → Prop
  | start : Sequential p w [] (Community.start w)
  | acts {log : List (Nat × Nat)} {a : Activity κ} {c c' : Community ω κ} : Sequential p w log c →
    Acts p a c c' → Sequential p w (log ++ a.arrival p.manager (p.manager.clock c.world.world)) c'
  | turn {log : List (Nat × Nat)} {c c' : Community ω κ} : Sequential p w log c → Turn p c c' →
    c'.tasks.card ≤ 1 →
    (c'.world.calls = c.world.calls →
      p.manager.clock c.world.world ≤ p.manager.clock c'.world.world) →
    Sequential p w log c'

abbrev Manager.GoesOn (m : Manager ω κ) : Prop := m.Within fun w w' => m.clock w ≤ m.clock w'

structure InOrder (m : Manager ω κ) (log : List (Nat × Nat)) (c : Community ω κ) : Prop where
  single : c.tasks.card ≤ 1
  idle : Filed log (c.accounts.idle.map (Idle.stamp m))
  shelf : ∀ t ∈ c.tasks, Filed log ((t.activity.shelf ++ c.accounts.idle).map (Idle.stamp m))
  chronological : Chronological (m.clock c.world.world) log

section Histories

variable {p : Pool ω κ} {w : ω} {log : List (Nat × Nat)} {c c' : Community ω κ}

private theorem Sequential.run (h : Sequential p w log c) : ∃ as, Run p w as c := by
  induction h with
  | start => exact ⟨_, .start⟩
  | acts _ hs ih => exact ih.elim fun _ h => ⟨_, h.acts hs⟩
  | turn _ hs _ _ ih => exact ih.elim fun _ h => ⟨_, h.turn hs⟩

private theorem InOrder.acts (hid : p.manager.KeepsIds) (hclock : p.manager.GoesOn) {a : Activity κ}
    (hsound : c.Sound p.manager) (hn : (c.world.idsOf .make).Nodup) (h : InOrder p.manager log c)
    (hs : Acts p a c c') :
    InOrder p.manager (log ++ a.arrival p.manager (p.manager.clock c.world.world)) c' := by
  have hgoes := hs.within hclock
  obtain ⟨_, t, ts, ts', ht, hw⟩ := hs
  have hmem : t ∈ c.tasks := by simp [ht]
  have hcoherent := hsound.coherent t hmem
  obtain ⟨rfl, rfl⟩ : ts = 0 ∧ ts' = 0 := by
    have hsingle := h.single
    rw [ht, Multiset.card_cons] at hsingle
    exact ⟨Multiset.card_eq_zero.mp (by omega), Multiset.card_eq_zero.mp (by rw [hw.card]; omega)⟩
  have hfiled : Filed (log ++ t.activity.arrival p.manager (p.manager.clock c.world.world))
      ((t.activity.shelf ++ c.accounts.idle).map (Idle.stamp p.manager) ++
        t.activity.arrival p.manager (p.manager.clock c.world.world)) := by
    rcases Activity.arrival_cases hcoherent (p.manager.clock c.world.world) with
      hnone | ⟨hshelf, k, hk, hone⟩
    · rw [hnone, List.append_nil, List.append_nil]
      exact h.shelf t hmem
    · rw [hone]
      refine (h.shelf t hmem).concat fun x hx => ?_
      rw [hshelf, List.nil_append] at hx
      obtain ⟨i, hi, rfl⟩ := List.mem_map.mp hx
      exact hsound.idle_ne hn (Community.idle_add_holdings_le hmem) hi hk
  have hshelf := hfiled.sublist (step_shelved (p := p.recording) hid.recording c.accounts c.world
    t.activity hcoherent)
  refine ⟨by simp, hshelf.sublist ?_, fun u hu => ?_,
    (h.chronological.append (Activity.time_of_arrival hcoherent _)).later hgoes⟩
  · exact (List.sublist_append_right _ _).map _
  · obtain rfl := Multiset.mem_singleton.mp hu
    exact hshelf

private theorem InOrder.turn (hclock : p.manager.GoesOn) (h : InOrder p.manager log c)
    (hs : Turn p c c') (hsingle : c'.tasks.card ≤ 1) (hquiet : c'.world.calls = c.world.calls →
      p.manager.clock c.world.world ≤ p.manager.clock c'.world.world) :
    InOrder p.manager log c' := by
  have hlog := h.chronological.later (hs.within hclock hquiet)
  have entered : ∀ {u : Task κ}, u.activity.shelf = [] → ∀ t ∈ u ::ₘ c.tasks,
      Filed log ((t.activity.shelf ++ c.accounts.idle).map (Idle.stamp p.manager)) := by
    intro u hu t ht
    rcases Multiset.mem_cons.mp ht with rfl | ht
    · rw [hu]
      exact h.idle
    · exact h.shelf t ht
  cases hs with
  | borrow | evict | close | release | detach | releaseRaw | wrapRaw | releaseStranger
  | wrapStranger => exact ⟨hsingle, h.idle, entered rfl, hlog⟩
  | finish t ts ht =>
    exact ⟨hsingle, h.idle, fun u hu => h.shelf u (by simp [ht, show u ∈ ts from hu]), hlog⟩
  | stir t ts ht =>
    refine ⟨hsingle, h.idle, fun u hu => ?_, hlog⟩
    rcases Multiset.mem_cons.mp hu with rfl | hu
    · rw [Task.wake, Activity.shelf_wake]
      exact h.shelf t (by simp [ht])
    · exact h.shelf u (by simp [ht, hu])
  | unwrap | make | use => exact ⟨hsingle, h.idle, h.shelf, hlog⟩
  | letGo ht =>
    refine ⟨hsingle, h.idle.sublist (List.nil_sublist _), fun u hu => ?_, hlog⟩
    rw [ht] at hu
    exact absurd hu (Multiset.notMem_zero u)

private theorem Sequential.inOrder (hid : p.manager.KeepsIds) (hclock : p.manager.GoesOn)
    (h : Sequential p w log c) (hn : (c.world.idsOf .make).Nodup) : InOrder p.manager log c := by
  induction h with
  | start =>
    exact ⟨Nat.zero_le 1, ⟨.refl [], by simp [Community.start]⟩, by simp [Community.start],
      .nil, by simp⟩
  | acts h hs ih =>
    have hn' := Multiset.nodup_of_le (makes_le hid (.inl ⟨_, hs⟩)) hn
    obtain ⟨as, hrun⟩ := h.run
    exact (ih hn').acts hid hclock (run_sound hid hrun hn') hn' hs
  | turn h hs hsingle hquiet ih =>
    exact (ih (Multiset.nodup_of_le (makes_le hid (.inr hs)) hn)).turn hclock hs hsingle hquiet

/-- An activity that runs alone goes through a history of its steps. -/
private theorem Sequential.runFor (c : Community ω κ) (n : Nat) (us : List Wakeup) {a : Activity κ}
    {s : State κ} {r : Recorded ω} (h : Sequential p w log
      { c with accounts := s, world := r, tasks := {⟨a, none⟩} }) :
    ∃ log', Sequential p w log'
      { c with
        accounts := (Activity.runFor p.recording n a s r us).2.1
        world := (Activity.runFor p.recording n a s r us).2.2.1
        tasks := {⟨(Activity.runFor p.recording n a s r us).1, none⟩} } := by
  induction n generalizing log a s r us with
  | zero => exact ⟨log, h⟩
  | succ n ih =>
    have hstep := h.acts (.step _ ⟨a, none⟩ 0 0 rfl (.alone _))
    rw [Activity.runFor]
    split
    · exact ⟨_, hstep⟩
    · exact ih _ hstep

structure Served (p : Pool ω κ) (w : ω) (c : Community ω κ) (failed rest : List (Idle κ))
    (made : Option κ) (o : Outcome κ) (r' : Recorded ω) : Prop where
  /-- It has looked at the idle connections in the order of the settings, and destroyed those before the
  one that it has chosen; if it has chosen none, it has made one. -/
  chooses : Chooses p.recording (arranged p.settings.lifo c.accounts.idle) c.world failed rest made o r'
  /-- What it has not looked at is idle as before. -/
  runs : (Activity.startBorrow p.recording c.world).run p.recording c.accounts c.world =
    (.borrow (p.settings.maxWait.map (p.manager.clock c.world.world + ·)) (.finished o),
      c.accounts.afterBorrow p.manager (arranged p.settings.lifo rest) o, r',
      List.replicate failed.length .one ++ if o.isOk then [] else [.one])
  makes : r'.idsOf .make = c.world.idsOf .make + made.elim 0 fun k => {p.manager.id k}
  destroys : r'.idsOf .destroy =
    c.world.idsOf .destroy + (connectionsOf failed).map p.manager.id +
      if o.isOk then 0 else made.elim 0 fun k => {p.manager.id k}
  /-- What is lent was not out before. -/
  fresh : (r'.idsOf .make).Nodup → ∀ k, o = .ok k → p.manager.id k ∉ c.accounts.active
  goesOn : c.isGone = false → ∃ log, Sequential p w log
    { c with
      accounts := c.accounts.afterBorrow p.manager (arranged p.settings.lifo rest) o
      world := r'
      tasks := {⟨.borrow (p.settings.maxWait.map (p.manager.clock c.world.world + ·)) (.finished o),
        none⟩} }

private theorem Sequential.served (hid : p.manager.KeepsIds) (h : Sequential p w log c)
    (hn : (c.world.idsOf .make).Nodup) (hidle : c.tasks = 0) (hopen : c.accounts.isClosed = false)
    (hfree : c.accounts.occupied < p.settings.maxActive) :
    ∃ failed rest made o r', Served p w c failed rest made o r' := by
  obtain ⟨failed, rest, made, o, r', hx⟩ := exists_chooses p.recording
    (arranged p.settings.lifo c.accounts.idle) c.world
  have hlength := hx.failed_length_le
  rw [length_arranged] at hlength
  obtain ⟨hmade, hdestroyed⟩ := hx.recorded hid
  have hruns := (Activity.Ends.choosing (p := p.recording)
    (d := p.settings.maxWait.map (p.manager.clock c.world.world + ·)) hopen hfree hx).run
    (by simp only [Activity.bound]; omega)
  obtain ⟨as, hrun⟩ := h.run
  have hsound := run_sound hid hrun hn
  refine ⟨failed, rest, made, o, r', hx, hruns, hmade, hdestroyed, ?_, fun hgone => ?_⟩
  · rintro hn' k rfl
    rcases hx.lent_cases hid with ⟨i, hi, hk⟩ | ⟨k', rfl, hk⟩
    · rw [hk]
      exact hsound.idle_not_active hn (mem_arranged.mp hi)
    · rw [hmade, Multiset.nodup_add] at hn'
      intro hactive
      rw [hk] at hactive
      exact Multiset.disjoint_left.mp hn'.2.2 (hsound.active_made hactive) (by simp)
  · have hbegun := h.turn (.borrow c hgone) (by simp [Community.enter, hidle]) fun _ => Nat.le_refl _
    rw [Community.enter, hidle] at hbegun
    have hends := hbegun.runFor c (Activity.bound p.recording c.accounts) []
    have hran : Activity.runFor p.recording (Activity.bound p.recording c.accounts)
      (.startBorrow p.recording c.world) c.accounts c.world [] = _ := hruns
    rwa [hran] at hends

/-- In a pool that is used by one caller at a time, the idle connections lie in the order in which they
came back. A borrow that finds a place destroys those that it cannot make ready, from the end that the
settings say, and lends the first one that it can; if there is none, it makes one, and fails if that
cannot be lent. The rest stays idle, no place is held any more, and only what is lent is out besides. -/
theorem borrow_in_sequence (hid : p.manager.KeepsIds) (hclock : p.manager.GoesOn)
    (h : Sequential p w log c) (hn : (c.world.idsOf .make).Nodup) :
    InOrder p.manager log c ∧
      (c.tasks = 0 → c.accounts.isClosed = false → c.accounts.occupied < p.settings.maxActive →
        ∃ failed rest made o r', Served p w c failed rest made o r') :=
  ⟨h.inOrder hid hclock hn, h.served hid hn⟩

end Histories

section Broken

private theorem numbered_goesOn : numbered.manager.GoesOn where
  refl _ := Nat.le_refl _
  trans := Nat.le_trans
  make w := by
    show w.now ≤ (Scenario.Numbered.manager.make w).2.now
    rw [Scenario.Numbered.manager]
    dsimp only
    split <;> exact Nat.le_refl _
  activate _ _ := Nat.le_refl _
  validate _ _ := Nat.le_refl _
  passivate _ _ := Nat.le_refl _
  destroy _ _ := Nat.le_refl _

/-- A connection has come back to its pool, and then broken. -/
def brokenOne : Community Scenario.Numbered Nat where
  accounts := { idle := [⟨1, 5⟩] }
  world :=
    { world :=
        { last := 1, now := 7, broken := [1], traces := [.make 1, .activate 1, .passivate 1] }
      calls := [⟨.make, 1⟩, ⟨.activate, 1⟩, ⟨.passivate, 1⟩] }

private theorem sequential_brokenOne : Sequential numbered {} [(1, 5)] brokenOne := by
  have h := (Sequential.start (p := numbered) (w := {})).turn (.borrow _ rfl) (by decide)
    fun _ => Nat.le_refl _
  have h := h.acts (.step _ ⟨.borrow (some 30000) .reserving, none⟩ 0 0 rfl (.nobody 0))
  have h := h.acts (.step _ ⟨.borrow (some 30000) .making, none⟩ 0 0 rfl (.nobody 0))
  have h := h.acts (.step _ ⟨.borrow (some 30000) (.activating 1 true), none⟩ 0 0 rfl (.nobody 0))
  have h := h.acts (.step _ ⟨.borrow (some 30000) (.checkingOut 1), none⟩ 0 0 rfl (.nobody 0))
  have h := h.turn (.finish _ ⟨.borrow (some 30000) (.finished (.ok 1)), none⟩ 0 rfl rfl)
    (by decide) fun _ => Nat.le_refl _
  have h := h.turn (.use _ {1} 0 0 { last := 1, now := 5, traces := [.make 1, .activate 1] }
    rfl rfl rfl) (by decide) fun _ => Nat.zero_le _
  have h := h.turn (.release _ 1 0 rfl) (by decide) fun _ => Nat.le_refl _
  have h := h.acts (.step _ ⟨.giveBack (.presenting 1), none⟩ 0 0 rfl (.nobody 0))
  have h := h.acts (.step _ ⟨.giveBack (.passivating 1 1), none⟩ 0 0 rfl (.nobody 0))
  have h := h.acts (.step _ ⟨.giveBack (.settling 1 1 true), none⟩ 0 0 rfl (.nobody 0))
  have h := h.acts (.step _ ⟨.giveBack (.signalling none), none⟩ 0 0 rfl (.none 0 (by simp)))
  have h := h.turn (.finish _ ⟨.giveBack (.finished (.ok ())), none⟩ 0 rfl rfl) (by decide)
    fun _ => Nat.le_refl _
  exact h.turn (.use _ 0 0 0 brokenOne.world.world rfl rfl rfl) (by decide) fun _ => by decide

/-- A borrow destroys it, and lends a new one. -/
theorem brokenOne_served : Sequential numbered {} [(1, 5)] brokenOne ∧
    (brokenOne.world.idsOf .make).Nodup ∧ InOrder numbered.manager [(1, 5)] brokenOne ∧
    ∃ failed rest made o r', Served numbered {} brokenOne failed rest made o r' ∧
      r'.idsOf .destroy = {1} ∧ (brokenOne.accounts.afterBorrow numbered.manager
        (arranged numbered.settings.lifo rest) o).active = [2] := by
  have hn : (brokenOne.world.idsOf .make).Nodup := Multiset.nodup_singleton 1
  obtain ⟨horder, hserved⟩ :=
    borrow_in_sequence numbered_keepsIds numbered_goesOn sequential_brokenOne hn
  obtain ⟨failed, rest, made, o, r', hs⟩ := hserved rfl rfl (by decide)
  have hdestroyed : ((Activity.startBorrow numbered.recording brokenOne.world).run numbered.recording
      brokenOne.accounts brokenOne.world).2.2.1.idsOf .destroy = {1} := by
    decide +kernel
  have hactive : ((Activity.startBorrow numbered.recording brokenOne.world).run numbered.recording
      brokenOne.accounts brokenOne.world).2.1.active = [2] := by
    decide +kernel
  rw [hs.runs] at hdestroyed hactive
  exact ⟨sequential_brokenOne, hn, horder, failed, rest, made, o, r', hs, hdestroyed, hactive⟩

end Broken

end DirectoryClient.Pool
