import DirectoryClient.Proofs.Pool.Duties

/-! Who is on the way to the borrowers that sleep. While one sleeps, each free place of an open pool has
somebody to see to it: a borrower that has been woken and has not looked yet, or an activity that still
has to wake one. In a closed pool somebody still has to wake them all. -/
namespace DirectoryClient.Pool

variable {ω κ : Type}

inductive Tells : Wakeup → Multiset (Task κ) → Multiset (Task κ) → Multiset (Task κ) → Prop
  | nobody (ts : Multiset (Task κ)) : Tells .nobody ts ts 0
  | one (t : Task κ) (ts : Multiset (Task κ)) : t.activity.isWaiting = true →
    Tells .one (t ::ₘ ts) (t.wake ::ₘ ts) {t.wake}
  | none (ts : Multiset (Task κ)) : (∀ t ∈ ts, t.activity.isWaiting = false) → Tells .one ts ts 0
  | everyone (ts : Multiset (Task κ)) : Tells .everyone ts (ts.map Task.wake)
      ((ts.filter fun t => t.activity.isWaiting = true).map Task.wake)

private theorem woken_iff_tells {wakeup : Wakeup} {ts ts' : Multiset (Task κ)} :
    Woken wakeup ts ts' ↔ ∃ told, Tells wakeup ts ts' told := by
  constructor
  · intro h
    cases h with
    | nobody => exact ⟨_, .nobody ts⟩
    | one t ts ht => exact ⟨_, .one t ts ht⟩
    | none _ hall => exact ⟨_, .none ts hall⟩
    | everyone => exact ⟨_, .everyone ts⟩
  · rintro ⟨told, h⟩
    cases h with
    | nobody => exact .nobody ts
    | one t ts ht => exact .one t ts ht
    | none _ hall => exact .none ts hall
    | everyone => exact .everyone ts

namespace Tells

variable {wakeup : Wakeup} {ts ts' told : Multiset (Task κ)}

private theorem reserving (h : Tells wakeup ts ts' told) :
    ∀ t ∈ told, t.activity.isReserving = true := by
  cases h with
  | nobody | none => simp
  | one t ts ht =>
    intro u hu
    rw [Multiset.mem_singleton.mp hu]
    exact Activity.isReserving_wake ht
  | everyone =>
    intro u hu
    obtain ⟨t, ht, rfl⟩ := Multiset.mem_map.mp hu
    exact Activity.isReserving_wake (Multiset.mem_filter.mp ht).2

/-- Who is awake already is still there, beside those who are woken. -/
private theorem add_le (h : Tells wakeup ts ts' told) {awake : Multiset (Task κ)} (hle : awake ≤ ts)
    (hawake : ∀ t ∈ awake, t.activity.isWaiting = false) : told + awake ≤ ts' := by
  cases h with
  | nobody | none => rwa [zero_add]
  | one t ts ht =>
    have hnot : t ∉ awake := fun hmem => by simpa [ht] using hawake t hmem
    rw [Multiset.singleton_add]
    exact Multiset.cons_le_cons _ ((Multiset.le_cons_of_notMem hnot).mp hle)
  | everyone =>
    have hsame : awake.map Task.wake = awake := by
      conv_rhs => rw [← Multiset.map_id awake]
      exact Multiset.map_congr rfl fun t ht => by
        simp only [Task.wake, Activity.wake_of_awake (hawake t ht), id]
    have hrest : awake ≤ ts.filter fun t => ¬t.activity.isWaiting = true :=
      Multiset.le_filter.mpr ⟨hle, fun t ht => by simp [hawake t ht]⟩
    rw [← hsame, ← Multiset.map_add]
    refine Multiset.map_le_map ?_
    conv_rhs => rw [← Multiset.filter_add_not (fun t => t.activity.isWaiting = true) ts]
    exact add_le_add_right hrest _

private theorem asleep (h : Tells wakeup ts ts' told) {t : Task κ} (ht : t ∈ ts')
    (hw : t.activity.isWaiting = true) : t ∈ ts := by
  rcases (woken_iff_tells.mpr ⟨told, h⟩).exists_of_mem ht with hmem | ⟨u, -, rfl⟩
  · exact hmem
  · simp [Task.wake, Activity.isWaiting_wake] at hw

/-- If somebody still sleeps after a wakeup, it was for one borrower, who is awake now. -/
private theorem one_of_asleep (h : Tells wakeup ts ts' told) (hne : wakeup ≠ .nobody) {t : Task κ}
    (ht : t ∈ ts') (hw : t.activity.isWaiting = true) : wakeup = .one ∧ told.card = 1 := by
  cases h with
  | nobody => exact absurd rfl hne
  | one u ts hu => exact ⟨rfl, Multiset.card_singleton _⟩
  | none _ hall => simp [hall t ht] at hw
  | everyone =>
    obtain ⟨u, -, rfl⟩ := Multiset.mem_map.mp ht
    simp [Task.wake, Activity.isWaiting_wake] at hw

private theorem exists_mem (h : Tells wakeup ts ts' told) {t : Task κ} (ht : t ∈ ts) :
    t ∈ ts' ∨ t.wake ∈ ts' := by
  cases h with
  | nobody | none => exact .inl ht
  | one u ts =>
    rcases Multiset.mem_cons.mp ht with rfl | ht
    · exact .inr (Multiset.mem_cons_self _ _)
    · exact .inl (Multiset.mem_cons_of_mem ht)
  | everyone => exact .inr (Multiset.mem_map_of_mem _ ht)

end Tells

/-- A turn changes no account, and one task at most: one enters, one that is finished leaves, or one
looks again. -/
private theorem Turn.tasks_cases {p : Pool ω κ} {c c' : Community ω κ} (h : Turn p c c') :
    c'.accounts.isClosed = c.accounts.isClosed ∧
      (c'.tasks = c.tasks ∨
        (∃ t : Task κ, t.activity.isWaiting = false ∧ t.activity.owes = .nobody ∧
          c'.tasks = t ::ₘ c.tasks) ∨
        (∃ t : Task κ, t.activity.isFinished = true ∧ c.tasks = t ::ₘ c'.tasks) ∨
        ∃ (t : Task κ) (ts : Multiset (Task κ)), c.tasks = t ::ₘ ts ∧ c'.tasks = t.wake ::ₘ ts) := by
  cases h with
  | borrow | evict | close | release | detach | releaseRaw | wrapRaw | releaseStranger
  | wrapStranger => exact ⟨rfl, .inr (.inl ⟨_, rfl, rfl, rfl⟩)⟩
  | unwrap | make | use | letGo => exact ⟨rfl, .inl rfl⟩
  | finish t ts ht hf => exact ⟨rfl, .inr (.inr (.inl ⟨t, hf, ht⟩))⟩
  | stir t ts ht => exact ⟨rfl, .inr (.inr (.inr ⟨t, ts, ht, rfl⟩))⟩

def Stride.lendsTwice (m : Manager ω κ) (x : Stride ω κ) : Bool :=
  x.activity.lendsTwice m x.before.accounts

/-- A run, with those who have been woken and have not looked yet. Who acts may be one of them, and is
none of them any more. -/
inductive Vigil (p : Pool ω κ) (w : ω) :
    List (Stride ω κ) → Multiset (Task κ) → Community ω κ → Prop
  | start : Vigil p w [] 0 (Community.start w)
  | acts {xs : List (Stride ω κ)} {woken others ts ts' told : Multiset (Task κ)} {t : Task κ}
    {c : Community ω κ} : Vigil p w xs woken c → c.tasks = t ::ₘ ts → others ≤ ts →
    woken = others ∨ woken = t ::ₘ others →
    Tells (t.activity.step p.recording c.accounts c.world).wakeup ts ts' told →
    Vigil p w (xs ++ [⟨c, t.activity, c.after p t ts'⟩]) (told + others) (c.after p t ts')
  | turn {xs : List (Stride ω κ)} {woken : Multiset (Task κ)} {c c' : Community ω κ} :
    Vigil p w xs woken c → Turn p c c' → Vigil p w xs woken c'

namespace Community

def HasSleeper (c : Community ω κ) : Prop := ∃ t ∈ c.tasks, t.activity.isWaiting = true

def owed (c : Community ω κ) : Nat := (c.tasks.map fun t => t.activity.owed).sum

def OwesAll (c : Community ω κ) : Prop := ∃ t ∈ c.tasks, t.activity.owes = .everyone

end Community

structure Guarded (limit replaced : Nat) (woken : Multiset (Task κ)) (c : Community ω κ) :
    Prop where
  here : woken ≤ c.tasks
  reserving : ∀ t ∈ woken, t.activity.isReserving = true
  free : c.HasSleeper → c.accounts.isClosed = false →
    c.accounts.free limit ≤ woken.card + c.owed + replaced
  closed : c.HasSleeper → c.accounts.isClosed = true → c.OwesAll

namespace Guarded

variable {p : Pool ω κ} {c c' : Community ω κ} {woken : Multiset (Task κ)} {limit replaced : Nat}

private theorem awake (h : Guarded limit replaced woken c) :
    ∀ t ∈ woken, t.activity.isWaiting = false :=
  fun t ht => Activity.awake_of_reserving (h.reserving t ht)

/-- Nobody goes to sleep between two steps, and no place is freed. -/
private theorem turn (h : Guarded limit replaced woken c) (hs : Turn p c c') :
    Guarded limit replaced woken c' := by
  obtain ⟨hclosed, htasks⟩ := hs.tasks_cases
  have hfree : c'.accounts.free limit = c.accounts.free limit := by
    rw [State.free, hs.occupied, State.free]
  obtain ⟨hhere, hsleeps, howed, hall⟩ : woken ≤ c'.tasks ∧ (c'.HasSleeper → c.HasSleeper) ∧
      c'.owed = c.owed ∧ (c.OwesAll → c'.OwesAll) := by
    rcases htasks with htasks | ⟨t, ht, howes, htasks⟩ | ⟨t, ht, htasks⟩ | ⟨t, ts, htasks, htasks'⟩
    · simp only [Community.HasSleeper, Community.owed, Community.OwesAll, htasks]
      exact ⟨h.here, id, trivial, id⟩
    · refine ⟨htasks ▸ h.here.trans (Multiset.le_cons_self _ _), ?_, ?_, ?_⟩
      · simp [Community.HasSleeper, htasks, ht]
      · simp [Community.owed, htasks, Activity.owed, howes]
      · simp [Community.OwesAll, htasks, howes]
    · have hnot : t ∉ woken := fun hmem => by
        simp [Activity.unfinished_of_reserving (h.reserving t hmem)] at ht
      have howes := Activity.owes_of_finished ht
      refine ⟨(Multiset.le_cons_of_notMem hnot).mp (htasks ▸ h.here), ?_, ?_, ?_⟩
      · rintro ⟨u, hu, hw⟩
        exact ⟨u, by simp [htasks, hu], hw⟩
      · simp [Community.owed, htasks, Activity.owed, howes]
      · simp [Community.OwesAll, htasks, howes]
    · refine ⟨?_, ?_, ?_, ?_⟩
      · rw [htasks']
        cases hw : t.activity.isWaiting with
        | true =>
          exact (Multiset.le_add_left _ _).trans ((Tells.one t ts hw).add_le (htasks ▸ h.here) h.awake)
        | false =>
          rw [Task.wake, Activity.wake_of_awake hw]
          exact htasks ▸ h.here
      · rintro ⟨u, hu, hw⟩
        rw [htasks'] at hu
        rcases Multiset.mem_cons.mp hu with rfl | hu
        · simp [Task.wake, Activity.isWaiting_wake] at hw
        · exact ⟨u, by simp [htasks, hu], hw⟩
      · simp [Community.owed, htasks, htasks', Task.wake, Activity.owed_wake]
      · simp [Community.OwesAll, htasks, htasks', Task.wake]
  exact ⟨hhere, h.reserving, fun hs ho => by
    rw [hfree, howed]; exact h.free (hsleeps hs) (hclosed ▸ ho),
    fun hs hc => hall (h.closed (hsleeps hs) (hclosed ▸ hc))⟩

end Guarded

section After

variable {p : Pool ω κ} {c : Community ω κ} {t : Task κ} {ts ts' others woken told : Multiset (Task κ)}
  {replaced : Nat} (ht : c.tasks = t ::ₘ ts)
  (htells : Tells (t.activity.step p.recording c.accounts c.world).wakeup ts ts' told)
include ht htells

private theorem owed_after :
    (c.after p t ts').owed + t.activity.owed = c.owed + (t.next p c).activity.owed := by
  have hrest : (ts'.map fun u => u.activity.owed).sum = (ts.map fun u => u.activity.owed).sum :=
    (woken_iff_tells.mpr ⟨told, htells⟩).sum_map _ fun u => u.activity.owed_wake
  simp only [Community.owed, Community.after, ht, Multiset.map_cons, Multiset.sum_cons, hrest]
  omega

/-- Who sleeps after a step is the one who has made it, or slept before. -/
private theorem sleeper_after (hs : (c.after p t ts').HasSleeper) :
    (t.next p c).activity.isWaiting = true ∨
      c.HasSleeper ∧ ∃ u ∈ ts', u.activity.isWaiting = true := by
  obtain ⟨u, hu, hw⟩ := hs
  rcases Multiset.mem_cons.mp hu with rfl | hu
  · exact .inl hw
  · exact .inr ⟨⟨u, by simp [ht, htells.asleep hu hw], hw⟩, u, hu, hw⟩

private theorem owesAll_after (hne : t.activity.owes ≠ .everyone) (h : c.OwesAll) :
    (c.after p t ts').OwesAll := by
  obtain ⟨u, hu, howes⟩ := h
  rw [ht] at hu
  rcases Multiset.mem_cons.mp hu with rfl | hu
  · exact absurd howes hne
  · rcases htells.exists_mem hu with hu' | hu'
    · exact ⟨u, Multiset.mem_cons_of_mem hu', howes⟩
    · exact ⟨u.wake, Multiset.mem_cons_of_mem hu', (Activity.owes_wake _).trans howes⟩

variable (h : Guarded p.settings.maxActive replaced woken c)
include h

private theorem free_after (hwoken : woken = others ∨ woken = t ::ₘ others)
    (hs : (c.after p t ts').HasSleeper) (hopen : (c.after p t ts').accounts.isClosed = false) :
    (c.after p t ts').accounts.free p.settings.maxActive ≤ (told + others).card +
      (c.after p t ts').owed + (replaced + (t.activity.lendsTwice p.manager c.accounts).toNat) := by
  have howed := owed_after ht htells
  have hsleeper := sleeper_after ht htells hs
  have hcard : woken.card = others.card ∨
      t.activity.isReserving = true ∧ woken.card = others.card + 1 := by
    rcases hwoken with rfl | rfl
    · exact .inl rfl
    · exact .inr ⟨h.reserving t (Multiset.mem_cons_self _ _), Multiset.card_cons _ _⟩
  rw [Multiset.card_add]
  cases step_minds p.recording c.accounts c.world t.activity with
  | looks ha ha' hsame hfree hblocked =>
    have hopen' : c.accounts.isClosed = false := hsame.symm.trans hopen
    have hfree : (c.after p t ts').accounts.free p.settings.maxActive ≤
      c.accounts.free p.settings.maxActive - 1 := hfree hopen'
    have hzero : t.activity.owed = 0 := by simp [Activity.owed, ha]
    rcases hsleeper with hw | ⟨hslept, -⟩
    · have hnone : c.accounts.free p.settings.maxActive = 0 := (hblocked hw).2
      omega
    · have hbefore := h.free hslept hopen'
      omega
  | frees hr ha hne hsame hfree hback =>
    have hcard : woken.card = others.card := hcard.resolve_right fun hc => by simp [hr] at hc
    have hfree : (c.after p t ts').accounts.free p.settings.maxActive ≤
      c.accounts.free p.settings.maxActive + (t.next p c).activity.owed +
        (t.activity.lendsTwice p.manager c.accounts).toNat := hfree
    have hzero : t.activity.owed = 0 := by simp [Activity.owed, ha]
    have hslept : c.HasSleeper :=
      hsleeper.elim (fun hw => ⟨t, by simp [ht], hback hw⟩) fun hs => hs.1
    have hbefore := h.free hslept (hsame.symm.trans hopen)
    omega
  | closes hr ha ha' hclosed => cases hclosed.symm.trans hopen
  | tells hr hne ha' hsame hawake =>
    have hcard : woken.card = others.card := hcard.resolve_right fun hc => by simp [hr] at hc
    have hsame : (c.after p t ts').accounts = c.accounts := hsame
    obtain ⟨hslept, u, hu, hw⟩ := hsleeper.resolve_left fun hw => by cases hawake.symm.trans hw
    rw [step_wakeup] at htells
    obtain ⟨hone, htold⟩ := htells.one_of_asleep hne hu hw
    have howes : t.activity.owed = 1 := by simp [Activity.owed, hone]
    have hbefore := h.free hslept (hsame ▸ hopen)
    rw [hsame]
    omega

private theorem closed_after (hs : (c.after p t ts').HasSleeper)
    (hclosed : (c.after p t ts').accounts.isClosed = true) : (c.after p t ts').OwesAll := by
  have hall := owesAll_after ht htells
  have hsleeper := sleeper_after ht htells hs
  cases step_minds p.recording c.accounts c.world t.activity with
  | looks ha ha' hsame hfree hblocked =>
    have hclosed' : c.accounts.isClosed = true := hsame.symm.trans hclosed
    obtain ⟨hslept, -⟩ := hsleeper.resolve_left fun hw => by
      cases hclosed'.symm.trans (hblocked hw).1
    exact hall (by simp [ha]) (h.closed hslept hclosed')
  | frees hr ha hne hsame hfree hback =>
    have hslept : c.HasSleeper :=
      hsleeper.elim (fun hw => ⟨t, by simp [ht], hback hw⟩) fun hs => hs.1
    exact hall (by simp [ha]) (h.closed hslept (hsame.symm.trans hclosed))
  | closes hr ha ha' => exact ⟨t.next p c, Multiset.mem_cons_self _ _, ha'⟩
  | tells hr hne ha' hsame hawake =>
    have hsame : (c.after p t ts').accounts = c.accounts := hsame
    obtain ⟨hslept, u, hu, hw⟩ := hsleeper.resolve_left fun hw => by cases hawake.symm.trans hw
    rw [step_wakeup] at htells
    obtain ⟨hone, -⟩ := htells.one_of_asleep hne hu hw
    exact hall (by simp [hone]) (h.closed hslept (hsame ▸ hclosed))

/-- Whoever acts, somebody goes on to see to the borrowers that sleep. -/
private theorem Guarded.acts (hle : others ≤ ts) (hwoken : woken = others ∨ woken = t ::ₘ others) :
    Guarded p.settings.maxActive (replaced + (t.activity.lendsTwice p.manager c.accounts).toNat)
      (told + others) (c.after p t ts') := by
  have hothers : ∀ u ∈ others, u ∈ woken := by
    rcases hwoken with rfl | rfl
    · exact fun u hu => hu
    · exact fun u hu => Multiset.mem_cons_of_mem hu
  refine ⟨?_, fun u hu => ?_, free_after ht htells h hwoken, closed_after ht htells h⟩
  · exact (htells.add_le hle fun u hu => h.awake u (hothers u hu)).trans (Multiset.le_cons_self _ _)
  · rcases Multiset.mem_add.mp hu with hu | hu
    · exact htells.reserving u hu
    · exact h.reserving u (hothers u hu)

end After

section Runs

variable {p : Pool ω κ} {w : ω} {xs : List (Stride ω κ)} {woken : Multiset (Task κ)}
  {c : Community ω κ}

private theorem Vigil.course (h : Vigil p w xs woken c) : Course p w xs c := by
  induction h with
  | start => exact .start
  | acts _ ht _ _ htells ih =>
    exact ih.acts (Community.after_acts ht (woken_iff_tells.mpr ⟨_, htells⟩))
  | turn _ hs ih => exact ih.turn hs

private theorem Vigil.guarded (h : Vigil p w xs woken c) :
    Guarded p.settings.maxActive (xs.countP (Stride.lendsTwice p.manager)) woken c := by
  induction h with
  | start =>
    refine ⟨Multiset.zero_le _, by simp, ?_, ?_⟩ <;>
      exact fun ⟨t, ht, _⟩ => absurd ht (Multiset.notMem_zero t)
  | acts _ ht hle hwoken htells ih =>
    rw [List.countP_append, List.countP_singleton, ← Bool.cond_eq_ite]
    exact ih.acts ht htells hle hwoken
  | turn _ hs ih => exact ih.turn hs

/-- Whoever takes turns on a pool, it can be told who has been woken and has not looked yet. -/
private theorem Course.exists_vigil (h : Course p w xs c) : ∃ woken, Vigil p w xs woken c := by
  induction h with
  | start => exact ⟨0, .start⟩
  | @acts xs a c c' _ hs ih =>
    obtain ⟨woken, hv⟩ := ih
    obtain ⟨_, t, ts, ts', ht, hw⟩ := hs
    obtain ⟨told, htells⟩ := woken_iff_tells.mp hw
    have hhere := hv.guarded.here
    rw [ht] at hhere
    by_cases hmem : t ∈ woken
    · obtain ⟨others, rfl⟩ := Multiset.exists_cons_of_mem hmem
      exact ⟨_, hv.acts ht ((Multiset.cons_le_cons_iff t).mp hhere) (.inr rfl) htells⟩
    · exact ⟨_, hv.acts ht ((Multiset.le_cons_of_notMem hmem).mp hhere) (.inl rfl) htells⟩
  | turn _ hs ih =>
    obtain ⟨woken, hv⟩ := ih
    exact ⟨woken, hv.turn hs⟩

private theorem Course.lendsOnce (hid : p.manager.KeepsIds) (h : Course p w xs c)
    (hn : (c.world.idsOf .make).Nodup) : xs.countP (Stride.lendsTwice p.manager) = 0 := by
  induction h with
  | start => rfl
  | @acts xs a c c' h hs ih =>
    have hn' := Multiset.nodup_of_le (makes_le hid (.inl ⟨_, hs⟩)) hn
    have hsound := run_sound hid (run_iff_course.mpr ⟨xs, h, rfl⟩) hn'
    rw [List.countP_append, ih hn', List.countP_singleton, Nat.zero_add]
    obtain ⟨_, t, ts, ts', ht, -⟩ := hs
    refine if_neg fun htwice => ?_
    obtain ⟨k, hk, hout⟩ := Activity.own_of_lendsTwice htwice
    exact hsound.not_active hn' (t := t) (by simp [ht]) (Multiset.mem_add.mpr (.inl hk)) hout
  | turn h hs ih => exact ih (Multiset.nodup_of_le (makes_le hid (.inr hs)) hn)

/-- The borrowers that sleep, those who have been woken, and those who are about to wake somebody. -/
structure Watched (p : Pool ω κ) (xs : List (Stride ω κ)) (woken : Multiset (Task κ))
    (c : Community ω κ) : Prop where
  /-- Who has been woken is about to look for a place. -/
  looking : woken ≤ c.tasks ∧ ∀ t ∈ woken, ∃ d, t.activity = .borrow d .reserving
  /-- Each free place of an open pool has somebody to see to it, unless a loan has replaced another of
  the same id. -/
  free : c.HasSleeper → c.accounts.isClosed = false →
    p.settings.maxActive - (c.accounts.active.length + c.accounts.pending) ≤
      woken.card + c.owed + xs.countP (Stride.lendsTwice p.manager)
  closed : c.HasSleeper → c.accounts.isClosed = true → c.OwesAll
  /-- With ids of their own, no loan ever replaces another; so nobody sleeps beside a free place, or in
  a closed pool, without somebody on the way. -/
  distinct : p.manager.KeepsIds → (c.world.idsOf .make).Nodup →
    xs.countP (Stride.lendsTwice p.manager) = 0 ∧ (c.HasSleeper →
      c.accounts.isClosed = true ∨ c.accounts.occupied < p.settings.maxActive →
      woken ≠ 0 ∨ ∃ t ∈ c.tasks, t.activity.owes ≠ .nobody)

private theorem Community.exists_owes (h : c.owed ≠ 0) : ∃ t ∈ c.tasks, t.activity.owes ≠ .nobody := by
  by_contra hnone
  refine h (Multiset.sum_eq_zero fun n hn => ?_)
  obtain ⟨t, ht, rfl⟩ := Multiset.mem_map.mp hn
  have howes : t.activity.owes = .nobody := not_not.mp fun hne => hnone ⟨t, ht, hne⟩
  simp [Activity.owed, howes]

private theorem Vigil.watched (h : Vigil p w xs woken c) : Watched p xs woken c := by
  have hguarded := h.guarded
  refine ⟨⟨hguarded.here, fun t ht => Activity.eq_of_reserving (hguarded.reserving t ht)⟩,
    hguarded.free, hguarded.closed, fun hid hn => ?_⟩
  have hnone := h.course.lendsOnce hid hn
  refine ⟨hnone, fun hsleeps hwhy => ?_⟩
  cases hclosed : c.accounts.isClosed with
  | true =>
    obtain ⟨t, ht, howes⟩ := hguarded.closed hsleeps hclosed
    exact .inr ⟨t, ht, by simp [howes]⟩
  | false =>
    have hfree := hguarded.free hsleeps hclosed
    rw [hnone, State.free] at hfree
    have hroom : c.accounts.occupied < p.settings.maxActive :=
      hwhy.resolve_left (by simp [hclosed])
    by_cases howed : c.owed = 0
    · exact .inl fun hz => by simp [hz, howed] at hfree; omega
    · exact .inr (Community.exists_owes howed)

/-- No wakeup gets lost, however borrows, returns, evictions and closings take turns, whichever sleeper
a wakeup reaches, and whenever a borrower that sleeps looks again. -/
theorem wakeups_watched (h : Course p w xs c) :
    (∃ woken, Vigil p w xs woken c) ∧ ∀ woken, Vigil p w xs woken c → Watched p xs woken c :=
  ⟨h.exists_vigil, fun _ hv => hv.watched⟩

end Runs

section OneAsleep

/-- A pool of numbered connections that lends one at a time. -/
def single : Pool Scenario.Numbered Nat where
  manager := Scenario.Numbered.manager
  settings := { maxActive := 1 }

/-- A step that wakes nobody, while nobody is awake who has slept. -/
private theorem Vigil.quiet {p : Pool ω κ} {w : ω} {c : Community ω κ}
    (h : ∃ xs, Vigil p w xs 0 c) (t : Task κ) (ts : Multiset (Task κ)) (ht : c.tasks = t ::ₘ ts)
    (howes : t.activity.owes = .nobody) : ∃ xs, Vigil p w xs 0 (c.after p t ts) := by
  obtain ⟨xs, h⟩ := h
  have htells : Tells (t.activity.step p.recording c.accounts c.world).wakeup ts ts 0 := by
    rw [step_wakeup, howes]
    exact .nobody ts
  exact ⟨_, h.acts ht (Multiset.zero_le _) (.inl rfl) htells⟩

/-- One connection is lent while somebody sleeps; it has come back, and its borrower has not told
anybody yet. -/
private theorem vigil_settled : ∃ xs c, Vigil single {} xs 0 c ∧ c.HasSleeper ∧
    c.accounts.free 1 = 1 ∧ c.owed = 1 := by
  have h : ∃ xs, Vigil single {} xs 0 _ := ⟨_, Vigil.start.turn (.borrow _ rfl)⟩
  have h := Vigil.quiet h ⟨.borrow (some 30000) .reserving, none⟩ 0 rfl rfl
  have h := Vigil.quiet h ⟨.borrow (some 30000) .making, none⟩ 0 rfl rfl
  have h := Vigil.quiet h ⟨.borrow (some 30000) (.activating 1 true), none⟩ 0 rfl rfl
  have h := Vigil.quiet h ⟨.borrow (some 30000) (.checkingOut 1), none⟩ 0 rfl rfl
  have h := h.imp fun _ h =>
    h.turn (.finish _ ⟨.borrow (some 30000) (.finished (.ok 1)), none⟩ 0 rfl rfl)
  have h := h.imp fun _ h => h.turn (.borrow _ rfl)
  have h := Vigil.quiet h ⟨.borrow (some 30000) .reserving, none⟩ 0 rfl rfl
  have h := h.imp fun _ h => h.turn (.release _ 1 0 rfl)
  have h := Vigil.quiet h ⟨.giveBack (.presenting 1), none⟩
    {⟨.borrow (some 30000) .waiting, none⟩} rfl rfl
  have h := Vigil.quiet h ⟨.giveBack (.passivating 1 1), none⟩
    {⟨.borrow (some 30000) .waiting, none⟩} rfl rfl
  have h := Vigil.quiet h ⟨.giveBack (.settling 1 1 true), none⟩
    {⟨.borrow (some 30000) .waiting, none⟩} rfl rfl
  obtain ⟨xs, h⟩ := h
  exact ⟨xs, _, h, ⟨⟨.borrow (some 30000) .waiting, none⟩, by simp [Community.after], rfl⟩, rfl, rfl⟩

/-- Whoever has given the place back is the one who is still to wake the sleeper. -/
theorem settled_watched : ∃ xs c, Course single {} xs c ∧ c.HasSleeper ∧
    c.accounts.occupied < single.settings.maxActive ∧ c.owed = 1 ∧ Watched single xs 0 c := by
  obtain ⟨xs, c, h, hsleeps, hfree, howed⟩ := vigil_settled
  refine ⟨xs, c, h.course, hsleeps, ?_, howed, (wakeups_watched h.course).2 0 h⟩
  exact Nat.lt_of_sub_eq_succ hfree

end OneAsleep

end DirectoryClient.Pool
