import DirectoryClient.Proofs.Pool.Holdings
import DirectoryClient.Scenario.Numbered
import Mathlib.Algebra.BigOperators.Group.Multiset.Basic

/-! A pool in use: any number of activities that take turns, step by step, and the callers who hold
what has been handed out. Nothing is assumed about whose turn it is. -/
namespace DirectoryClient.Pool

variable {ω κ : Type}

/-- An activity under way. A stranger's activity is about a connection that was not out when it was
presented, and remembers its id. -/
structure Task (κ : Type) where
  activity : Activity κ
  stranger : Option Nat := none

namespace Task

def wake (t : Task κ) : Task κ := { t with activity := t.activity.wake }

/-- The connection that is out. What a stranger presents is not. -/
def loan (t : Task κ) : Multiset κ := if t.stranger.isSome then 0 else t.activity.lent

def holdings (t : Task κ) : Multiset κ := t.activity.own + t.activity.lent

@[simp]
theorem loan_wake (t : Task κ) : t.wake.loan = t.loan := by
  simp [loan, wake]

@[simp]
theorem holdings_wake (t : Task κ) : t.wake.holdings = t.holdings := by
  simp [holdings, wake]

end Task

/-- A pool, the world with a record of the hooks, the activities under way, and what callers hold. -/
structure Community (ω κ : Type) where
  accounts : State κ := {}
  world : Recorded ω
  tasks : Multiset (Task κ) := 0
  /-- Connections that are out, and go back to the pool when their holders let go of them. -/
  wrapped : Multiset κ := 0
  /-- Connections that are out, and do not go back by themselves. -/
  raw : Multiset κ := 0
  /-- Connections that have left the pool, or were made for somebody else. -/
  outside : Multiset κ := 0
  /-- Nobody can reach the pool any more. -/
  isGone : Bool := false

namespace Community

def start (w : ω) : Community ω κ where
  world := { world := w }

def enter (t : Task κ) (c : Community ω κ) : Community ω κ := { c with tasks := t ::ₘ c.tasks }

end Community

inductive Woken : Wakeup → Multiset (Task κ) → Multiset (Task κ) → Prop
  | nobody (ts : Multiset (Task κ)) : Woken .nobody ts ts
  | one (t : Task κ) (ts : Multiset (Task κ)) : t.activity.isWaiting = true →
    Woken .one (t ::ₘ ts) (t.wake ::ₘ ts)
  | none (ts : Multiset (Task κ)) : (∀ t ∈ ts, t.activity.isWaiting = false) → Woken .one ts ts
  | everyone (ts : Multiset (Task κ)) : Woken .everyone ts (ts.map Task.wake)

inductive Acts (p : Pool ω κ) : Activity κ → Community ω κ → Community ω κ → Prop
  | step (c : Community ω κ) (t : Task κ) (ts ts' : Multiset (Task κ)) : c.tasks = t ::ₘ ts →
    Woken (t.activity.step p.recording c.accounts c.world).wakeup ts ts' →
    Acts p t.activity c
      { c with
        accounts := (t.activity.step p.recording c.accounts c.world).state
        world := (t.activity.step p.recording c.accounts c.world).world
        tasks :=
          { t with activity := (t.activity.step p.recording c.accounts c.world).activity } ::ₘ ts' }

/-- What happens between two steps of activities: callers begin activities, take their results and
use what they hold, sleepers wake for no reason, and the world goes on. -/
inductive Turn (p : Pool ω κ) : Community ω κ → Community ω κ → Prop
  | borrow (c : Community ω κ) : c.isGone = false →
    Turn p c (c.enter ⟨.startBorrow p.recording c.world, none⟩)
  | evict (c : Community ω κ) : c.isGone = false → Turn p c (c.enter ⟨.evict .starting, none⟩)
  | close (c : Community ω κ) : c.isGone = false → Turn p c (c.enter ⟨.close .starting, none⟩)
  /-- Also what letting go of a wrapped connection comes to. -/
  | release (c : Community ω κ) (k : κ) (rest : Multiset κ) : c.wrapped = k ::ₘ rest →
    Turn p c (Community.enter ⟨.giveBack (.presenting k), none⟩ { c with wrapped := rest })
  | detach (c : Community ω κ) (k : κ) (rest : Multiset κ) : c.wrapped = k ::ₘ rest →
    Turn p c (Community.enter ⟨.detach (.forgetting k), none⟩ { c with wrapped := rest })
  | unwrap (c : Community ω κ) (k : κ) (rest : Multiset κ) : c.wrapped = k ::ₘ rest →
    Turn p c { c with wrapped := rest, raw := k ::ₘ c.raw }
  | releaseRaw (c : Community ω κ) (k : κ) (rest : Multiset κ) : c.isGone = false →
    c.raw = k ::ₘ rest →
    Turn p c (Community.enter ⟨.giveBack (.presenting k), none⟩ { c with raw := rest })
  | wrapRaw (c : Community ω κ) (k : κ) (rest : Multiset κ) : c.isGone = false →
    c.raw = k ::ₘ rest →
    Turn p c (Community.enter ⟨.wrap (.presenting k), none⟩ { c with raw := rest })
  | releaseStranger (c : Community ω κ) (k : κ) (rest : Multiset κ) : c.isGone = false →
    c.outside = k ::ₘ rest →
    Turn p c (Community.enter ⟨.giveBack (.presenting k), some (p.manager.id k)⟩
      { c with outside := rest })
  | wrapStranger (c : Community ω κ) (k : κ) (rest : Multiset κ) : c.isGone = false →
    c.outside = k ::ₘ rest →
    Turn p c (Community.enter ⟨.wrap (.presenting k), some (p.manager.id k)⟩
      { c with outside := rest })
  /-- A finished activity hands over its result. -/
  | finish (c : Community ω κ) (t : Task κ) (ts : Multiset (Task κ)) : c.tasks = t ::ₘ ts →
    t.activity.isFinished = true →
    Turn p c { c with
      tasks := ts, wrapped := t.activity.lent + c.wrapped, outside := t.activity.own + c.outside }
  /-- The manager is asked for a connection that is not for the pool. -/
  | make (c : Community ω κ) (k : κ) (r : Recorded ω) :
    p.recording.manager.make c.world = (.ok k, r) →
    Turn p c { c with world := r, outside := k ::ₘ c.outside }
  /-- A holder uses a connection, which may change it and the world, but not its id. -/
  | use (c : Community ω κ) (wrapped raw outside : Multiset κ) (w : ω) :
    wrapped.map p.manager.id = c.wrapped.map p.manager.id →
    raw.map p.manager.id = c.raw.map p.manager.id →
    outside.map p.manager.id = c.outside.map p.manager.id →
    Turn p c { c with world := { c.world with world := w }, wrapped, raw, outside }
  | stir (c : Community ω κ) (t : Task κ) (ts : Multiset (Task κ)) : c.tasks = t ::ₘ ts →
    Turn p c { c with tasks := t.wake ::ₘ ts }
  /-- The last handle on the pool goes away. Activities and wrapped connections hold one each. -/
  | letGo (c : Community ω κ) : c.tasks = 0 → c.wrapped = 0 → c.isGone = false →
    Turn p c { c with
      accounts := (Pool.letGo p.recording c.accounts c.world).1
      world := (Pool.letGo p.recording c.accounts c.world).2
      isGone := true }

inductive Run (p : Pool ω κ) (w : ω) : List (Activity κ) → Community ω κ → Prop
  | start : Run p w [] (Community.start w)
  | acts {as : List (Activity κ)} {a : Activity κ} {c c' : Community ω κ} : Run p w as c →
    Acts p a c c' → Run p w (as ++ [a]) c'
  | turn {as : List (Activity κ)} {c c' : Community ω κ} : Run p w as c → Turn p c c' →
    Run p w as c'

def numbered : Pool Scenario.Numbered Nat where
  manager := Scenario.Numbered.manager
  settings := {}

theorem numbered_keepsIds : numbered.manager.KeepsIds where
  activate _ _ := rfl
  validate _ _ := rfl
  passivate _ _ := rfl

/-- The first connection of a pool of numbered connections has been lent. -/
private def lentOne : Community Scenario.Numbered Nat where
  accounts := { active := [1] }
  world :=
    { world := { last := 1, traces := [.make 1, .activate 1] }
      calls := [⟨.make, 1⟩, ⟨.activate, 1⟩] }
  wrapped := {1}

private theorem run_lentOne : ∃ as, Run numbered {} as lentOne := by
  have h := Run.start (p := numbered) (w := {})
  have h := h.turn (.borrow _ rfl)
  have h := h.acts (.step _ ⟨.borrow (some 30000) .reserving, none⟩ 0 0 rfl (.nobody 0))
  have h := h.acts (.step _ ⟨.borrow (some 30000) .making, none⟩ 0 0 rfl (.nobody 0))
  have h := h.acts (.step _ ⟨.borrow (some 30000) (.activating 1 true), none⟩ 0 0 rfl (.nobody 0))
  have h := h.acts (.step _ ⟨.borrow (some 30000) (.checkingOut 1), none⟩ 0 0 rfl (.nobody 0))
  exact ⟨_, h.turn (.finish _ ⟨.borrow (some 30000) (.finished (.ok 1)), none⟩ 0 rfl rfl)⟩

def idleOne : Community Scenario.Numbered Nat where
  accounts := { idle := [⟨1, 0⟩] }
  world :=
    { world := { last := 1, traces := [.make 1, .activate 1, .passivate 1] }
      calls := [⟨.make, 1⟩, ⟨.activate, 1⟩, ⟨.passivate, 1⟩] }

theorem run_idleOne : ∃ as, Run numbered {} as idleOne := by
  obtain ⟨as, h⟩ := run_lentOne
  have h := h.turn (.release _ 1 0 rfl)
  have h := h.acts (.step _ ⟨.giveBack (.presenting 1), none⟩ 0 0 rfl (.nobody 0))
  have h := h.acts (.step _ ⟨.giveBack (.passivating 1 1), none⟩ 0 0 rfl (.nobody 0))
  have h := h.acts (.step _ ⟨.giveBack (.settling 1 1 true), none⟩ 0 0 rfl (.nobody 0))
  have h := h.acts (.step _ ⟨.giveBack (.signalling none), none⟩ 0 0 rfl (.none 0 (by simp)))
  exact ⟨_, h.turn (.finish _ ⟨.giveBack (.finished (.ok ())), none⟩ 0 rfl rfl)⟩

/-- That connection has been evicted after half an hour. -/
def evictedOne : Community Scenario.Numbered Nat where
  world :=
    { world :=
        { last := 1, now := 1800000, broken := [3]
          traces := [.make 1, .activate 1, .passivate 1, .destroy 1] }
      calls := [⟨.make, 1⟩, ⟨.activate, 1⟩, ⟨.passivate, 1⟩, ⟨.destroy, 1⟩] }

private theorem run_evictedOne : ∃ as, Run numbered {} as evictedOne := by
  obtain ⟨as, h⟩ := run_idleOne
  have h := h.turn (.use _ 0 0 0 { idleOne.world.world with now := 1800000, broken := [3] }
    rfl rfl rfl)
  have h := h.turn (.evict _ rfl)
  have h := h.acts (.step _ ⟨.evict .starting, none⟩ 0 0 rfl (.nobody 0))
  have h := h.acts (.step _ ⟨.evict (.expiring [⟨1, 0⟩] [] 1), none⟩ 0 0 rfl (.nobody 0))
  have h := h.acts (.step _ ⟨.evict (.expiring [] [] 1), none⟩ 0 0 rfl (.nobody 0))
  have h := h.acts (.step _ ⟨.evict (.puttingBack [] 1), none⟩ 0 0 rfl (.nobody 0))
  have h := h.acts (.step _ ⟨.evict (.making 0 1), none⟩ 0 0 rfl (.nobody 0))
  exact ⟨_, h.turn (.finish _ ⟨.evict (.finished 1), none⟩ 0 rfl rfl)⟩

/-- The borrow of a connection that cannot be activated has failed, with nothing else to borrow. -/
def refusal : Activity Nat :=
  .borrow (some 1830000) (.finished (.error (.borrowFailed (.reactivationFailed .connectionClosed))))

/-- After the eviction one connection has been lent, and the borrow of another has failed. -/
def refusedOne : Community Scenario.Numbered Nat where
  accounts := { active := [2] }
  world :=
    { world :=
        { evictedOne.world.world with
          last := 3
          traces := evictedOne.world.world.traces ++
            [.make 2, .activate 2, .make 3, .activate 3, .destroy 3] }
      calls := evictedOne.world.calls ++
        [⟨.make, 2⟩, ⟨.activate, 2⟩, ⟨.make, 3⟩, ⟨.activate, 3⟩, ⟨.destroy, 3⟩] }
  tasks := {⟨refusal, none⟩}
  wrapped := {2}

theorem run_refusedOne : ∃ as, Run numbered {} as refusedOne := by
  obtain ⟨as, h⟩ := run_evictedOne
  have h := h.turn (.borrow _ rfl)
  have h := h.acts (.step _ ⟨.borrow (some 1830000) .reserving, none⟩ 0 0 rfl (.nobody 0))
  have h := h.acts (.step _ ⟨.borrow (some 1830000) .making, none⟩ 0 0 rfl (.nobody 0))
  have h := h.acts (.step _ ⟨.borrow (some 1830000) (.activating 2 true), none⟩ 0 0 rfl (.nobody 0))
  have h := h.acts (.step _ ⟨.borrow (some 1830000) (.checkingOut 2), none⟩ 0 0 rfl (.nobody 0))
  have h := h.turn (.finish _ ⟨.borrow (some 1830000) (.finished (.ok 2)), none⟩ 0 rfl rfl)
  have h := h.turn (.borrow _ rfl)
  have h := h.acts (.step _ ⟨.borrow (some 1830000) .reserving, none⟩ 0 0 rfl (.nobody 0))
  have h := h.acts (.step _ ⟨.borrow (some 1830000) .making, none⟩ 0 0 rfl (.nobody 0))
  have h := h.acts (.step _ ⟨.borrow (some 1830000) (.activating 3 true), none⟩ 0 0 rfl (.nobody 0))
  let cause : DirectoryError := .borrowFailed (.reactivationFailed .connectionClosed)
  have h := h.acts (.step _ ⟨.borrow (some 1830000) (.discarding 3 (some cause)), none⟩ 0 0 rfl
    (.nobody 0))
  have h := h.acts (.step _ ⟨.borrow (some 1830000) (.cancelling (some cause)), none⟩ 0 0 rfl
    (.nobody 0))
  exact ⟨_, h.acts (.step _ ⟨.borrow (some 1830000) (.signalling (some cause)), none⟩ 0 0 rfl
    (.none 0 (by simp)))⟩

namespace Woken

variable {wakeup : Wakeup} {ts ts' : Multiset (Task κ)}

/-- Waking changes nothing that does not change for each task. -/
theorem sum_map {M : Type} [AddCommMonoid M] (h : Woken wakeup ts ts') (f : Task κ → M)
    (hf : ∀ t, f t.wake = f t) : (ts'.map f).sum = (ts.map f).sum := by
  cases h with
  | nobody => rfl
  | one t ts => simp [hf]
  | none => rfl
  | everyone => simp [Multiset.map_map, hf]

theorem card (h : Woken wakeup ts ts') : ts'.card = ts.card := by
  cases h <;> simp

theorem exists_of_mem (h : Woken wakeup ts ts') {t : Task κ} (ht : t ∈ ts') :
    t ∈ ts ∨ ∃ u ∈ ts, t = u.wake := by
  cases h with
  | nobody => exact .inl ht
  | one u ts =>
    rcases Multiset.mem_cons.mp ht with rfl | ht
    · exact .inr ⟨u, Multiset.mem_cons_self u ts, rfl⟩
    · exact .inl (Multiset.mem_cons_of_mem ht)
  | none => exact .inl ht
  | everyone =>
    obtain ⟨u, hu, rfl⟩ := Multiset.mem_map.mp ht
    exact .inr ⟨u, hu, rfl⟩

/-- Every wakeup can be heeded. -/
theorem exists_woken (wakeup : Wakeup) (ts : Multiset (Task κ)) : ∃ ts', Woken wakeup ts ts' := by
  cases wakeup with
  | nobody => exact ⟨ts, .nobody ts⟩
  | everyone => exact ⟨ts.map Task.wake, .everyone ts⟩
  | one =>
    by_cases hnone : ∀ t ∈ ts, t.activity.isWaiting = false
    · exact ⟨ts, .none ts hnone⟩
    · simp only [not_forall, Bool.not_eq_false] at hnone
      obtain ⟨t, ht, hwaiting⟩ := hnone
      obtain ⟨rest, rfl⟩ := Multiset.exists_cons_of_mem ht
      exact ⟨t.wake ::ₘ rest, .one t rest hwaiting⟩

end Woken

end DirectoryClient.Pool
