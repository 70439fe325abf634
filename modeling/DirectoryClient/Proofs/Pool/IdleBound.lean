import DirectoryClient.Proofs.Pool.ClosedPool

/-! How many connections a pool keeps idle. A return looks whether there is room, and so does an eviction
pass with what it has made; but what a pass has taken before, it puts back without a look. -/
namespace DirectoryClient.Pool

variable {ω κ : Type}

/-- How many idle connections an eviction pass holds to put them back, as far as it knows. -/
def Eviction.shelved : Eviction κ → Nat
  | expiring _ kept _ => kept.length
  | testing untested valid _ _ => untested.length + valid.length
  | discarding _ valid _ => valid.length
  | puttingBack kept _ => kept.length
  | _ => 0

namespace Activity

/-- How many idle connections an activity holds to put them back. -/
def shelved : Activity κ → Nat
  | evict e => e.shelved
  | _ => 0

@[simp]
theorem shelved_wake (a : Activity κ) : a.wake.shelved = a.shelved := by
  cases a <;> rfl

end Activity

/-- What a step does to the number of idle connections: one joins them where there is room, what an
eviction pass holds is put back, or none joins. -/
inductive Shifts (limit : Nat) (s s' : State κ) (a a' : Activity κ) : Prop
  | joins : a.survivors = [] → s.idle.length < limit → s'.idle.length = s.idle.length + 1 →
    a'.shelved = a.shelved → Shifts limit s s' a a'
  | returns : s'.idle = a.survivors ++ s.idle → a.shelved = a.survivors.length →
    a'.shelved = 0 → Shifts limit s s' a a'
  | leaves : a.survivors = [] → s'.idle.length ≤ s.idle.length →
    s'.idle.length + a'.shelved ≤ s.idle.length + a.shelved → Shifts limit s s' a a'

namespace Shifts

variable {limit : Nat} {s s' : State κ} {a a' : Activity κ}

/-- A step that leaves the idle connections alone, and puts no more aside. -/
private theorem still (hs : a.survivors = []) (hi : s'.idle = s.idle) (ha : a'.shelved ≤ a.shelved) :
    Shifts limit s s' a a' :=
  .leaves hs (by rw [hi]) (by rw [hi]; exact Nat.add_le_add_left ha _)

/-- A step brings no surplus, unless it puts back more than there is room for. -/
private theorem idle_le (h : Shifts limit s s' a a') (hs : s.idle.length ≤ limit)
    (hroom : a.survivors = [] ∨ a.survivors.length + s.idle.length ≤ limit) :
    s'.idle.length ≤ limit := by
  cases h with
  | joins _ hlt hone => omega
  | returns hi _ _ =>
    rw [hi, List.length_append]
    rcases hroom with hnone | hroom
    · simpa [hnone] using hs
    · exact hroom
  | leaves _ hle _ => exact hle.trans hs

end Shifts

section Steps

variable (p : Pool ω κ) (s : State κ) (w : ω)

private theorem length_of_connectionsOf {k : Option κ} {is js : List (Idle κ)}
    (h : (k.elim 0 fun k => ({k} : Multiset κ)) + connectionsOf is = connectionsOf js) :
    is.length ≤ js.length := by
  have hcard := congrArg Multiset.card h
  simp only [connectionsOf, Multiset.card_add, Multiset.coe_card, List.length_map] at hcard
  omega

private theorem borrow_shifts (d : Option Nat) (b : Borrow κ) :
    Shifts p.settings.maxIdle s (b.step p d s w).state (.borrow d b)
      (.borrow d (b.step p d s w).activity) := by
  cases b with
  | reserving =>
    rcases s.reserve_cases p.settings (d.any (· ≤ p.manager.clock w)) with
      ⟨cause, h⟩ | h | ⟨k, s', h, -, -, -, -, -, hi⟩
    · simp only [Borrow.step, h]
      exact .still rfl rfl (Nat.le_refl 0)
    · simp only [Borrow.step, h]
      exact .still rfl rfl (Nat.le_refl 0)
    · have hle := length_of_connectionsOf hi
      cases k <;> simp only [Borrow.step, h] <;> exact .leaves rfl hle (Nat.add_le_add_right hle 0)
  | making =>
    simp only [Borrow.step]
    split <;> exact .still rfl rfl (Nat.le_refl 0)
  | activating k isNew =>
    simp only [Borrow.step]
    split <;> exact .still rfl rfl (Nat.le_refl 0)
  | validating k isNew =>
    simp only [Borrow.step]
    split <;> exact .still rfl rfl (Nat.le_refl 0)
  | waiting | checkingOut | discarding | cancelling | signalling | finished =>
    exact .still rfl rfl (Nat.le_refl 0)

private theorem giveBack_shifts (g : GiveBack κ) :
    Shifts p.settings.maxIdle s (g.step p s w).state (.giveBack g)
      (.giveBack (g.step p s w).activity) := by
  cases g with
  | passivating id k =>
    simp only [GiveBack.step]
    split <;> exact .still rfl rfl (Nat.le_refl 0)
  | settling id k keep =>
    rcases s.settleReturn_cases p.settings (p.manager.clock w) id k keep with h | ⟨-, hroom, h⟩
    · simp only [GiveBack.step, h]
      exact .still rfl rfl (Nat.le_refl 0)
    · simp only [GiveBack.step, h]
      exact .joins rfl hroom List.length_append rfl
  | presenting | rejecting | validating | signalling | discarding | finished =>
    exact .still rfl rfl (Nat.le_refl 0)

private theorem evict_shifts (e : Eviction κ) :
    Shifts p.settings.maxIdle s (e.step p s w).state (.evict e) (.evict (e.step p s w).activity) := by
  cases e with
  | starting =>
    rcases s.takeForEviction_cases p.settings (p.manager.clock w) with
      ⟨-, h⟩ | ⟨-, expired, kept, h, hi⟩
    · simp only [Eviction.step, h]
      exact .still rfl rfl (Nat.le_refl 0)
    · have hcard := congrArg Multiset.card hi
      simp only [connectionsOf, Multiset.card_add, Multiset.coe_card, List.length_map] at hcard
      simp only [Eviction.step, h]
      refine .leaves rfl (Nat.zero_le _) ?_
      simp only [Activity.shelved, Eviction.shelved, List.length_nil]
      omega
  | expiring expired kept n =>
    cases expired with
    | nil =>
      refine .still rfl rfl ?_
      simp only [Eviction.step]
      split <;> exact Nat.le_refl _
    | cons i expired => exact .still rfl rfl (Nat.le_refl _)
  | testing untested valid invalid n =>
    cases untested with
    | nil => exact .still rfl rfl (Nat.le_add_left _ _)
    | cons i untested =>
      refine .still rfl rfl ?_
      rcases h : p.manager.validate i.connection w with ⟨isValid, k, w'⟩
      cases isValid <;>
        simp only [Eviction.step, h, Activity.shelved, Eviction.shelved, List.length_append,
          List.length_cons, List.length_nil, ↓reduceIte, Bool.false_eq_true] <;> omega
  | discarding invalid valid n => cases invalid <;> exact .still rfl rfl (Nat.le_refl _)
  | puttingBack kept n => exact .returns rfl rfl rfl
  | making missing n =>
    cases missing with
    | zero => exact .still rfl rfl (Nat.le_refl 0)
    | succ missing =>
      simp only [Eviction.step]
      split <;> exact .still rfl rfl (Nat.le_refl 0)
  | adopting k missing n =>
    rcases s.adopt_cases p.settings (p.manager.clock w) k with h | ⟨-, hroom, h⟩
    · simp only [Eviction.step, h]
      exact .still rfl rfl (Nat.le_refl 0)
    · simp only [Eviction.step, h]
      exact .joins rfl hroom List.length_append rfl
  | refusing | signalling | finished => exact .still rfl rfl (Nat.le_refl 0)

private theorem close_shifts (c : Closing κ) :
    Shifts p.settings.maxIdle s (c.step p s w).state (.close c) (.close (c.step p s w).activity) := by
  cases c with
  | starting =>
    rcases s.close_cases with ⟨-, h⟩ | ⟨-, h⟩
    · simp only [Closing.step, h]
      exact .still rfl rfl (Nat.le_refl 0)
    · simp only [Closing.step, h]
      exact .leaves rfl (Nat.zero_le _) (Nat.add_le_add_right (Nat.zero_le _) 0)
  | destroying ks => cases ks <;> exact .still rfl rfl (Nat.le_refl 0)
  | signalling | finished => exact .still rfl rfl (Nat.le_refl 0)

private theorem step_shifts (a : Activity κ) :
    Shifts p.settings.maxIdle s (a.step p s w).state a (a.step p s w).activity := by
  cases a with
  | borrow d b => exact borrow_shifts p s w d b
  | giveBack g => exact giveBack_shifts p s w g
  | wrap r => cases r <;> exact .still rfl rfl (Nat.le_refl 0)
  | detach d => cases d <;> exact .still rfl rfl (Nat.le_refl 0)
  | evict e => exact evict_shifts p s w e
  | close c => exact close_shifts p s w c

end Steps

def Community.shelved (c : Community ω κ) : Nat := (c.tasks.map fun t => t.activity.shelved).sum

/-- A step in a run: the pool before it, the activity that took it, and the pool after it. -/
structure Stride (ω κ : Type) where
  before : Community ω κ
  activity : Activity κ
  after : Community ω κ

namespace Stride

def FindsRoom (settings : Settings.Pool) (x : Stride ω κ) : Prop :=
  x.activity.survivors = [] ∨
    x.activity.survivors.length + x.before.accounts.idle.length ≤ settings.maxIdle

def joinsLate (x : Stride ω κ) : Bool :=
  x.activity.survivors.isEmpty && x.before.accounts.idle.length < x.after.accounts.idle.length &&
    0 < x.before.shelved

end Stride

inductive Course (p : Pool ω κ) (w : ω) : List (Stride ω κ) → Community ω κ → Prop
  | start : Course p w [] (Community.start w)
  | acts {xs : List (Stride ω κ)} {a : Activity κ} {c c' : Community ω κ} : Course p w xs c →
    Acts p a c c' → Course p w (xs ++ [⟨c, a, c'⟩]) c'
  | turn {xs : List (Stride ω κ)} {c c' : Community ω κ} : Course p w xs c → Turn p c c' →
    Course p w xs c'

section Courses

variable {p : Pool ω κ} {w : ω} {c c' : Community ω κ} {xs : List (Stride ω κ)}

theorem run_iff_course {as : List (Activity κ)} :
    Run p w as c ↔ ∃ xs, Course p w xs c ∧ xs.map Stride.activity = as := by
  constructor
  · intro h
    induction h with
    | start => exact ⟨[], .start, rfl⟩
    | acts _ hs ih =>
      obtain ⟨xs, hxs, rfl⟩ := ih
      exact ⟨_, hxs.acts hs, List.map_append⟩
    | turn _ hs ih =>
      obtain ⟨xs, hxs, rfl⟩ := ih
      exact ⟨xs, hxs.turn hs, rfl⟩
  · rintro ⟨xs, h, rfl⟩
    induction h with
    | start => exact .start
    | acts _ hs ih =>
      rw [List.map_append]
      exact ih.acts hs
    | turn _ hs ih => exact ih.turn hs

/-- A step of one activity shifts the idle connections of the pool, and those that passes hold with
them. -/
private theorem Acts.shifts {a : Activity κ} (h : Acts p a c c') :
    ∃ a', Shifts p.settings.maxIdle c.accounts c'.accounts a a' ∧
      c'.shelved + a.shelved = c.shelved + a'.shelved := by
  obtain ⟨_, t, ts, ts', ht, hw⟩ := h
  refine ⟨_, step_shifts p.recording c.accounts c.world t.activity, ?_⟩
  have hrest := hw.sum_map (fun t => t.activity.shelved) fun t => t.activity.shelved_wake
  simp only [Community.shelved, ht, Multiset.map_cons, Multiset.sum_cons, hrest]
  omega

/-- Between two steps, no connection joins the idle ones, and no pass takes any. -/
private theorem Turn.shifts (h : Turn p c c') :
    c'.accounts.idle.length ≤ c.accounts.idle.length ∧ c'.shelved ≤ c.shelved := by
  have entered : ∀ {a : Activity κ} {n : Option Nat}, a.shelved = 0 →
      ((⟨a, n⟩ ::ₘ c.tasks).map fun t => t.activity.shelved).sum ≤ c.shelved := by
    intro a n ha
    rw [Multiset.map_cons, Multiset.sum_cons, ha, Nat.zero_add]
    exact Nat.le_refl _
  cases h with
  | borrow | evict | close | release | detach | releaseRaw | wrapRaw | releaseStranger
  | wrapStranger => exact ⟨Nat.le_refl _, entered rfl⟩
  | finish t ts ht =>
    refine ⟨Nat.le_refl _, ?_⟩
    simp only [Community.shelved, ht, Multiset.map_cons, Multiset.sum_cons]
    omega
  | stir t ts ht =>
    refine ⟨Nat.le_refl _, ?_⟩
    simp only [Community.shelved, ht, Multiset.map_cons, Multiset.sum_cons]
    exact Nat.le_of_eq (congrArg (· + _) t.activity.shelved_wake)
  | unwrap | make | use => exact ⟨Nat.le_refl _, Nat.le_refl _⟩
  | letGo => exact ⟨Nat.zero_le _, Nat.le_refl _⟩

/-- Idle connections and those that passes hold are too many only by those that have joined while a pass
held others. -/
private theorem idle_add_shelved_le (h : Course p w xs c) :
    c.accounts.idle.length + c.shelved ≤ p.settings.maxIdle + xs.countP Stride.joinsLate := by
  induction h with
  | start => exact Nat.zero_le _
  | @acts xs a c c' _ hs ih =>
    obtain ⟨a', hshifts, hshelved⟩ := hs.shifts
    rw [List.countP_append]
    cases hshifts with
    | joins hnone hlt hone ha =>
      by_cases hheld : 0 < c.shelved
      · have hlate : Stride.joinsLate ⟨c, a, c'⟩ = true := by
          simp [Stride.joinsLate, hnone, hone, hheld]
        rw [List.countP_singleton, if_pos hlate]
        omega
      · omega
    | returns hi ha ha' =>
      have hlength := congrArg List.length hi
      rw [List.length_append] at hlength
      omega
    | leaves _ _ hle => omega
  | turn _ hs ih =>
    obtain ⟨hidle, hshelved⟩ := hs.shifts
    omega

private theorem idle_le_of_findsRoom (h : Course p w xs c)
    (hroom : ∀ x ∈ xs, x.FindsRoom p.settings) :
    (∀ x ∈ xs, x.after.accounts.idle.length ≤ p.settings.maxIdle) ∧
      c.accounts.idle.length ≤ p.settings.maxIdle := by
  induction h with
  | start => exact ⟨by simp, Nat.zero_le _⟩
  | acts _ hs ih =>
    obtain ⟨hall, hle⟩ := ih fun x hx => hroom x (List.mem_append_left _ hx)
    obtain ⟨a', hshifts, -⟩ := hs.shifts
    have hafter := hshifts.idle_le hle (hroom _ (List.mem_append_right _ (List.mem_singleton_self _)))
    refine ⟨fun x hx => ?_, hafter⟩
    rcases List.mem_append.mp hx with hx | hx
    · exact hall x hx
    · rw [List.mem_singleton.mp hx]
      exact hafter
  | turn _ hs ih =>
    obtain ⟨hall, hle⟩ := ih hroom
    exact ⟨hall, hs.shifts.1.trans hle⟩

private theorem findsRoom_of_idle_le (h : Course p w xs c)
    (hle : ∀ x ∈ xs, x.after.accounts.idle.length ≤ p.settings.maxIdle) :
    ∀ x ∈ xs, x.FindsRoom p.settings := by
  induction h with
  | start => simp
  | acts _ hs ih =>
    intro x hx
    rcases List.mem_append.mp hx with hx | hx
    · exact ih (fun x hx => hle x (List.mem_append_left _ hx)) x hx
    · have hafter := hle x (List.mem_append_right _ hx)
      rw [List.mem_singleton.mp hx] at hafter ⊢
      obtain ⟨a', hshifts, -⟩ := hs.shifts
      cases hshifts with
      | joins hnone | leaves hnone => exact .inl hnone
      | returns hi _ _ =>
        rw [hi, List.length_append] at hafter
        exact .inr hafter
  | turn _ _ ih => exact ih hle

structure IdleBounded (p : Pool ω κ) (xs : List (Stride ω κ)) (c : Community ω κ) : Prop where
  /-- They are never more than the settings allow exactly if there was room whenever an eviction pass
  has put connections back. -/
  always : (∀ x ∈ xs, x.after.accounts.idle.length ≤ p.settings.maxIdle) ↔
    ∀ x ∈ xs, x.FindsRoom p.settings
  bound : (∀ x ∈ xs, x.FindsRoom p.settings) → c.accounts.idle.length ≤ p.settings.maxIdle
  /-- They are too many only by those that have joined while a pass held others. -/
  surplus : c.accounts.idle.length ≤ p.settings.maxIdle + xs.countP Stride.joinsLate
  /-- When nothing is under way any more, whatever was made and is not idle is with a caller, outside or
  destroyed. -/
  destroyed : c.tasks = 0 →
    (connectionsOf c.accounts.idle + c.wrapped + c.raw + c.outside).map p.manager.id +
      c.world.idsOf .destroy = c.world.idsOf .make

/-- A pool keeps no more connections idle than it may, as long as none joins them while an eviction pass
holds others; it keeps more exactly if a pass puts back more than there is room for. -/
theorem idle_bounded (hid : p.manager.KeepsIds) (h : Course p w xs c) : IdleBounded p xs c where
  always := ⟨findsRoom_of_idle_le h, fun hroom => (idle_le_of_findsRoom h hroom).1⟩
  bound hroom := (idle_le_of_findsRoom h hroom).2
  surplus := (Nat.le_add_right _ _).trans (idle_add_shelved_le h)
  destroyed ht := by
    have hloc := Community.run_located hid (run_iff_course.mpr ⟨xs, h, rfl⟩)
    rw [Community.Located, Community.holdings, ht] at hloc
    rw [← hloc]
    simp [add_assoc]

end Courses

section Overfull

/-- A pool of numbered connections that keeps one of them idle. -/
def narrow : Pool Scenario.Numbered Nat where
  manager := Scenario.Numbered.manager
  settings := { maxIdle := 1 }

/-- Two connections are lent. One comes back, and an eviction pass takes it; the other comes back, and
the pass puts the first one beside it. -/
private theorem course_overfull : ∃ xs c, Course narrow {} xs c ∧
    c.accounts.idle = [⟨2, 0⟩, ⟨1, 0⟩] ∧ xs.countP Stride.joinsLate = 1 := by
  have h := (Course.start (p := narrow) (w := {})).turn (.borrow _ rfl)
  have h := h.acts (.step _ ⟨.borrow (some 30000) .reserving, none⟩ 0 0 rfl (.nobody 0))
  have h := h.acts (.step _ ⟨.borrow (some 30000) .making, none⟩ 0 0 rfl (.nobody 0))
  have h := h.acts (.step _ ⟨.borrow (some 30000) (.activating 1 true), none⟩ 0 0 rfl (.nobody 0))
  have h := h.acts (.step _ ⟨.borrow (some 30000) (.checkingOut 1), none⟩ 0 0 rfl (.nobody 0))
  have h := h.turn (.finish _ ⟨.borrow (some 30000) (.finished (.ok 1)), none⟩ 0 rfl rfl)
  have h := h.turn (.borrow _ rfl)
  have h := h.acts (.step _ ⟨.borrow (some 30000) .reserving, none⟩ 0 0 rfl (.nobody 0))
  have h := h.acts (.step _ ⟨.borrow (some 30000) .making, none⟩ 0 0 rfl (.nobody 0))
  have h := h.acts (.step _ ⟨.borrow (some 30000) (.activating 2 true), none⟩ 0 0 rfl (.nobody 0))
  have h := h.acts (.step _ ⟨.borrow (some 30000) (.checkingOut 2), none⟩ 0 0 rfl (.nobody 0))
  have h := h.turn (.finish _ ⟨.borrow (some 30000) (.finished (.ok 2)), none⟩ 0 rfl rfl)
  have h := h.turn (.release _ 2 {1} rfl)
  have h := h.acts (.step _ ⟨.giveBack (.presenting 2), none⟩ 0 0 rfl (.nobody 0))
  have h := h.acts (.step _ ⟨.giveBack (.passivating 2 2), none⟩ 0 0 rfl (.nobody 0))
  have h := h.acts (.step _ ⟨.giveBack (.settling 2 2 true), none⟩ 0 0 rfl (.nobody 0))
  have h := h.acts (.step _ ⟨.giveBack (.signalling none), none⟩ 0 0 rfl (.none 0 (by simp)))
  have h := h.turn (.finish _ ⟨.giveBack (.finished (.ok ())), none⟩ 0 rfl rfl)
  have h := h.turn (.evict _ rfl)
  have h := h.acts (.step _ ⟨.evict .starting, none⟩ 0 0 rfl (.nobody 0))
  have h := h.turn (.release _ 1 0 rfl)
  have h := h.acts (.step _ ⟨.giveBack (.presenting 1), none⟩
    {⟨.evict (.expiring [] [⟨2, 0⟩] 0), none⟩} _ rfl (.nobody _))
  have h := h.acts (.step _ ⟨.giveBack (.passivating 1 1), none⟩
    {⟨.evict (.expiring [] [⟨2, 0⟩] 0), none⟩} _ rfl (.nobody _))
  have h := h.acts (.step _ ⟨.giveBack (.settling 1 1 true), none⟩
    {⟨.evict (.expiring [] [⟨2, 0⟩] 0), none⟩} _ rfl (.nobody _))
  have h := h.acts (.step _ ⟨.giveBack (.signalling none), none⟩
    {⟨.evict (.expiring [] [⟨2, 0⟩] 0), none⟩} _ rfl (.none _ (by decide)))
  have h := h.turn (.finish _ ⟨.giveBack (.finished (.ok ())), none⟩
    {⟨.evict (.expiring [] [⟨2, 0⟩] 0), none⟩} rfl rfl)
  have h := h.acts (.step _ ⟨.evict (.expiring [] [⟨2, 0⟩] 0), none⟩ 0 0 rfl (.nobody 0))
  have h := h.acts (.step _ ⟨.evict (.puttingBack [⟨2, 0⟩] 0), none⟩ 0 0 rfl (.nobody 0))
  exact ⟨_, _, h, rfl, rfl⟩

/-- A pool can keep more connections idle than its settings allow. -/
theorem idle_not_always_bounded : ¬∀ as c, Run narrow {} as c →
    c.accounts.idle.length ≤ narrow.settings.maxIdle := by
  intro hbound
  obtain ⟨xs, c, h, hidle, -⟩ := course_overfull
  have hle : c.accounts.idle.length ≤ 1 := hbound _ c (run_iff_course.mpr ⟨xs, h, rfl⟩)
  rw [hidle] at hle
  exact absurd hle (by decide)

/-- The surplus is the connection that has joined while the pass held the other. -/
theorem overfull_bounded : ∃ xs c, narrow.manager.KeepsIds ∧ Course narrow {} xs c ∧
    c.accounts.idle.length = narrow.settings.maxIdle + xs.countP Stride.joinsLate ∧
    IdleBounded narrow xs c := by
  obtain ⟨xs, c, h, hidle, hlate⟩ := course_overfull
  refine ⟨xs, c, numbered_keepsIds, h, ?_, idle_bounded numbered_keepsIds h⟩
  rw [hidle, hlate]
  rfl

end Overfull

end DirectoryClient.Pool
