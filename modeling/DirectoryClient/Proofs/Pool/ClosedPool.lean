import DirectoryClient.Proofs.Pool.Ledger
import Mathlib.Data.List.TakeWhile

/-! What a closed pool keeps. A return finds the pool closed and discards, and so does an eviction pass
with what it has made; but what a pass has taken before, it puts back without a look. -/
namespace DirectoryClient.Pool

variable {ω κ : Type}

namespace Activity

def isClosing : Activity κ → Bool
  | close .starting => true
  | _ => false

/-- What the next step puts back of what an eviction pass has taken. -/
def survivors : Activity κ → List (Idle κ)
  | evict (.puttingBack kept _) => kept
  | _ => []

end Activity

def latePutBacks (as : List (Activity κ)) : List (Idle κ) :=
  ((as.dropWhile fun a => !a.isClosing).map Activity.survivors).reverse.flatten

/-- What a step can do to a pool that is closed, or closes: what is put back joins the idle ones, and
nothing else does. -/
structure KeepsClosed (a : Activity κ) (s s' : State κ) : Prop where
  isClosed : s'.isClosed = (s.isClosed || a.isClosing)
  idle : s.isClosed = true → s'.idle = a.survivors ++ s.idle
  closing : s.isClosed = false → a.isClosing = true → s'.idle = []

namespace KeepsClosed

variable {a : Activity κ} {s s' : State κ}

private theorem same (hc : a.isClosing = false) (hs : a.survivors = [])
    (hclosed : s'.isClosed = s.isClosed)
    (hidle : s.isClosed = true → s'.idle = s.idle) : KeepsClosed a s s' where
  isClosed := by rw [hclosed, hc, Bool.or_false]
  idle h := by rw [hs, hidle h, List.nil_append]
  closing _ h := by simp [hc] at h

/-- A section that does nothing to the idle connections of a closed pool, since it looks first. -/
private theorem looked (hc : a.isClosing = false) (hs : a.survivors = []) (h : s.isClosed = false)
    (h' : s'.isClosed = false) : KeepsClosed a s s' :=
  same hc hs (h'.trans h.symm) (fun hclosed => by simp [h] at hclosed)

end KeepsClosed

section Steps

variable (p : Pool ω κ) (s : State κ) (w : ω)

private theorem borrow_keepsClosed (d : Option Nat) (b : Borrow κ) :
    KeepsClosed (.borrow d b) s (b.step p d s w).state := by
  cases b with
  | reserving =>
    rcases s.reserve_cases p.settings (d.any (· ≤ p.manager.clock w)) with
      ⟨cause, h⟩ | h | ⟨k, s', h, hopen, hopen', -⟩
    · simp only [Borrow.step, h]
      exact .same rfl rfl rfl (fun _ => rfl)
    · simp only [Borrow.step, h]
      exact .same rfl rfl rfl (fun _ => rfl)
    · cases k <;> simp only [Borrow.step, h] <;> exact .looked rfl rfl hopen hopen'
  | making =>
    simp only [Borrow.step]
    split <;> exact .same rfl rfl rfl (fun _ => rfl)
  | activating k isNew =>
    simp only [Borrow.step]
    split <;> exact .same rfl rfl rfl (fun _ => rfl)
  | validating k isNew =>
    simp only [Borrow.step]
    split <;> exact .same rfl rfl rfl (fun _ => rfl)
  | waiting | checkingOut | discarding | cancelling | signalling | finished =>
    exact .same rfl rfl rfl (fun _ => rfl)

private theorem giveBack_keepsClosed (g : GiveBack κ) :
    KeepsClosed (.giveBack g) s (g.step p s w).state := by
  cases g with
  | passivating id k =>
    simp only [GiveBack.step]
    split <;> exact .same rfl rfl rfl (fun _ => rfl)
  | settling id k keep =>
    rcases s.settleReturn_cases p.settings (p.manager.clock w) id k keep with h | ⟨hopen, -, h⟩
    · simp only [GiveBack.step, h]
      exact .same rfl rfl rfl (fun _ => rfl)
    · simp only [GiveBack.step, h]
      exact .looked rfl rfl hopen hopen
  | presenting | rejecting | validating | signalling | discarding | finished =>
    exact .same rfl rfl rfl (fun _ => rfl)

private theorem evict_keepsClosed (e : Eviction κ) :
    KeepsClosed (.evict e) s (e.step p s w).state := by
  cases e with
  | starting =>
    rcases s.takeForEviction_cases p.settings (p.manager.clock w) with
      ⟨-, h⟩ | ⟨hopen, expired, kept, h, -⟩
    · simp only [Eviction.step, h]
      exact .same rfl rfl rfl (fun _ => rfl)
    · simp only [Eviction.step, h]
      exact .looked rfl rfl hopen hopen
  | expiring expired kept n => cases expired <;> exact .same rfl rfl rfl (fun _ => rfl)
  | testing untested valid invalid n => cases untested <;> exact .same rfl rfl rfl (fun _ => rfl)
  | discarding invalid valid n => cases invalid <;> exact .same rfl rfl rfl (fun _ => rfl)
  | puttingBack kept n =>
    exact ⟨(Bool.or_false _).symm, fun _ => rfl, fun _ h => by cases h⟩
  | making missing n =>
    cases missing with
    | zero => exact .same rfl rfl rfl (fun _ => rfl)
    | succ missing =>
      simp only [Eviction.step]
      split <;> exact .same rfl rfl rfl (fun _ => rfl)
  | adopting k missing n =>
    rcases s.adopt_cases p.settings (p.manager.clock w) k with h | ⟨hopen, -, h⟩
    · simp only [Eviction.step, h]
      exact .same rfl rfl rfl (fun _ => rfl)
    · simp only [Eviction.step, h]
      exact .looked rfl rfl hopen hopen
  | refusing | signalling | finished => exact .same rfl rfl rfl (fun _ => rfl)

private theorem close_keepsClosed (c : Closing κ) :
    KeepsClosed (.close c) s (c.step p s w).state := by
  cases c with
  | starting =>
    rcases s.close_cases with ⟨hclosed, h⟩ | ⟨hopen, h⟩
    · simp only [Closing.step, h]
      exact ⟨by simp [hclosed], fun _ => rfl, fun hopen => by simp [hclosed] at hopen⟩
    · simp only [Closing.step, h]
      exact ⟨(Bool.or_true _).symm, fun hclosed => by simp [hopen] at hclosed, fun _ _ => rfl⟩
  | destroying ks => cases ks <;> exact .same rfl rfl rfl (fun _ => rfl)
  | signalling | finished => exact .same rfl rfl rfl (fun _ => rfl)

private theorem step_keepsClosed (a : Activity κ) : KeepsClosed a s (a.step p s w).state := by
  cases a with
  | borrow d b => exact borrow_keepsClosed p s w d b
  | giveBack g => exact giveBack_keepsClosed p s w g
  | wrap g => cases g <;> exact .same rfl rfl rfl (fun _ => rfl)
  | detach d => cases d <;> exact .same rfl rfl rfl (fun _ => rfl)
  | evict e => exact evict_keepsClosed p s w e
  | close c => exact close_keepsClosed p s w c

end Steps

private theorem dropWhile_eq_nil {as : List (Activity κ)} :
    (as.dropWhile fun a => !a.isClosing) = [] ↔ as.any Activity.isClosing = false := by
  simp [List.dropWhile_eq_nil_iff]

private theorem latePutBacks_concat (as : List (Activity κ)) (a : Activity κ) :
    latePutBacks (as ++ [a]) =
      if as.any Activity.isClosing then a.survivors ++ latePutBacks as else [] := by
  cases h : as.any Activity.isClosing with
  | true =>
    have hsome : (as.dropWhile fun a => !a.isClosing).isEmpty = false := by
      rw [Bool.eq_false_iff, Ne, List.isEmpty_iff, dropWhile_eq_nil, h]
      decide
    simp [latePutBacks, List.dropWhile_append, hsome]
  | false =>
    simp only [latePutBacks, List.dropWhile_append, dropWhile_eq_nil.mpr h]
    cases a with
    | close c => cases c <;> rfl
    | borrow | giveBack | wrap | detach | evict => rfl

private structure Settled (as : List (Activity κ)) (c : Community ω κ) : Prop where
  isClosed : c.accounts.isClosed = as.any Activity.isClosing
  idle : c.accounts.isClosed = true →
    c.accounts.idle = if c.isGone then [] else latePutBacks as
  tasks : c.isGone = true → c.tasks = 0
  wrapped : c.isGone = true → c.wrapped = 0

variable {p : Pool ω κ} {w : ω} {as : List (Activity κ)} {c d : Community ω κ}

private theorem settled_acts {a : Activity κ} (h : Settled as c) (hs : Acts p a c d) :
    Settled (as ++ [a]) d := by
  obtain ⟨_, t, ts, ts', ht, -⟩ := hs
  have hstep := step_keepsClosed p.recording c.accounts c.world t.activity
  have hgone : c.isGone = false := by
    refine Bool.eq_false_iff.mpr fun hg => ?_
    simp [h.tasks hg] at ht
  refine ⟨?_, fun hclosed => ?_, fun hg => ?_, fun hg => ?_⟩
  · rw [hstep.isClosed, h.isClosed]
    simp
  · rw [latePutBacks_concat]
    cases hc : c.accounts.isClosed with
    | true =>
      have hidle := h.idle hc
      rw [hgone] at hidle
      simpa [hstep.idle hc, hgone, ← h.isClosed, hc] using hidle
    | false =>
      have hclosing : t.activity.isClosing = true := by
        simpa [hstep.isClosed, hc] using hclosed
      simpa [hgone, ← h.isClosed, hc] using hstep.closing hc hclosing
  · simp [hgone] at hg
  · simp [hgone] at hg

private theorem settled_turn (h : Settled as c) (hs : Turn p c d) : Settled as d := by
  -- A pool that is gone has nobody to take a turn on it.
  have hgone : ∀ {k : κ} {rest : Multiset κ}, c.wrapped = k ::ₘ rest → c.isGone = true → False :=
    fun hk hg => by simp [h.wrapped hg] at hk
  have htasks : ∀ {t : Task κ} {ts : Multiset (Task κ)}, c.tasks = t ::ₘ ts → c.isGone = true →
      False := fun ht hg => by simp [h.tasks hg] at ht
  cases hs with
  | borrow hg | evict hg | close hg =>
    exact ⟨h.isClosed, h.idle, fun hg' => by simp [Community.enter, hg] at hg',
      fun hg' => by simp [Community.enter, hg] at hg'⟩
  | releaseRaw k rest hg _ | wrapRaw k rest hg _ | releaseStranger k rest hg _
  | wrapStranger k rest hg _ =>
    exact ⟨h.isClosed, h.idle, fun hg' => by simp [Community.enter, hg] at hg',
      fun hg' => by simp [Community.enter, hg] at hg'⟩
  | release k rest hk | detach k rest hk | unwrap k rest hk =>
    exact ⟨h.isClosed, h.idle, fun hg => (hgone hk hg).elim, fun hg => (hgone hk hg).elim⟩
  | finish t ts ht | stir t ts ht =>
    exact ⟨h.isClosed, h.idle, fun hg => (htasks ht hg).elim, fun hg => (htasks ht hg).elim⟩
  | make => exact ⟨h.isClosed, h.idle, h.tasks, h.wrapped⟩
  | use wrapped raw outside w hw =>
    refine ⟨h.isClosed, h.idle, h.tasks, fun hg => ?_⟩
    rw [h.wrapped hg, Multiset.map_zero] at hw
    exact Multiset.map_eq_zero.mp hw
  | letGo ht hw => exact ⟨h.isClosed, fun _ => rfl, fun _ => ht, fun _ => hw⟩

private theorem run_settled (h : Run p w as c) : Settled as c := by
  induction h with
  | start =>
    refine ⟨rfl, fun hclosed => ?_, fun _ => rfl, fun _ => rfl⟩
    cases hclosed
  | acts _ hs ih => exact settled_acts ih hs
  | turn _ hs ih => exact settled_turn ih hs

/-- A closed pool keeps idle exactly what eviction passes have put back since it was closed. So it
keeps nothing if, and only if, no pass that was under way has put anything back; and when nothing is
under way any more, everything else that was made is with a caller, outside or destroyed. -/
theorem closed_idle (hid : p.manager.KeepsIds) (h : Run p w as c)
    (hclosed : c.accounts.isClosed = true) :
    c.accounts.idle = (if c.isGone then [] else latePutBacks as) ∧
      (c.accounts.idle = [] ↔ c.isGone = true ∨ latePutBacks as = []) ∧
      (c.tasks = 0 →
        (connectionsOf c.accounts.idle + c.wrapped + c.raw + c.outside).map p.manager.id +
          c.world.idsOf .destroy = c.world.idsOf .make) := by
  have hidle := (run_settled h).idle hclosed
  refine ⟨hidle, ?_, fun ht => ?_⟩
  · rw [hidle]
    cases c.isGone <;> simp
  · have hloc := Community.run_located hid h
    rw [Community.Located, Community.holdings, ht] at hloc
    rw [← hloc]
    simp [add_assoc]

/-- An eviction pass takes the idle connection, the pool is closed from beginning to end, and the pass
puts the connection back. -/
def keptOne : Community Scenario.Numbered Nat where
  accounts := { idle := [⟨1, 0⟩], isClosed := true }
  world := idleOne.world

private theorem run_keptOne : ∃ as, Run numbered {} as keptOne := by
  obtain ⟨as, h⟩ := run_idleOne
  have h := h.turn (.evict _ rfl)
  have h := h.acts (.step _ ⟨.evict .starting, none⟩ 0 0 rfl (.nobody 0))
  have h := h.turn (.close _ rfl)
  have h := h.acts (.step _ ⟨.close .starting, none⟩ {⟨.evict (.expiring [] [⟨1, 0⟩] 0), none⟩} _ rfl
    (.nobody _))
  have h := h.acts (.step _ ⟨.close (.signalling []), none⟩
    {⟨.evict (.expiring [] [⟨1, 0⟩] 0), none⟩} _ rfl (.everyone _))
  have h := h.acts (.step _ ⟨.close (.destroying []), none⟩
    {⟨.evict (.expiring [] [⟨1, 0⟩] 0), none⟩} _ rfl (.nobody _))
  have h := h.turn (.finish _ ⟨.close .finished, none⟩
    {⟨.evict (.expiring [] [⟨1, 0⟩] 0), none⟩} rfl rfl)
  have h := h.acts (.step _ ⟨.evict (.expiring [] [⟨1, 0⟩] 0), none⟩ 0 0 rfl (.nobody 0))
  have h := h.acts (.step _ ⟨.evict (.puttingBack [⟨1, 0⟩] 0), none⟩ 0 0 rfl (.nobody 0))
  have h := h.acts (.step _ ⟨.evict (.making 0 0), none⟩ 0 0 rfl (.nobody 0))
  exact ⟨_, h.turn (.finish _ ⟨.evict (.finished 0), none⟩ 0 rfl rfl)⟩

/-- A closed pool can keep an idle connection. -/
theorem closed_not_always_empty : ¬∀ as c, Run numbered {} as c → c.accounts.isClosed = true →
    c.accounts.idle = [] := by
  intro hempty
  obtain ⟨as, h⟩ := run_keptOne
  have hidle : keptOne.accounts.idle = [] := hempty as keptOne h rfl
  cases hidle

theorem keptOne_idle : ∃ as, Run numbered {} as keptOne ∧ keptOne.accounts.isClosed = true ∧
    latePutBacks as = [⟨1, 0⟩] := by
  obtain ⟨as, h⟩ := run_keptOne
  have hidle := (closed_idle numbered_keepsIds h rfl).1
  exact ⟨as, h, rfl, hidle.symm⟩

end DirectoryClient.Pool
