import DirectoryClient.Proofs.Pool.Bound
import DirectoryClient.Proofs.Pool.IdleBound

/-! What a step owes to the borrowers that sleep. Whoever frees a place, or closes the pool, goes on to
wake somebody; and nobody goes to sleep beside a free place. -/
namespace DirectoryClient.Pool

variable {ω κ : Type}

def State.free (limit : Nat) (s : State κ) : Nat := limit - s.occupied

namespace Activity

def owes : Activity κ → Wakeup
  | borrow _ (.signalling _) | giveBack (.signalling _) | detach (.signalling _)
  | evict (.signalling ..) => .one
  | close (.signalling _) => .everyone
  | _ => .nobody

def isReserving : Activity κ → Bool
  | borrow _ .reserving => true
  | _ => false

def lendsTwice (m : Manager ω κ) (s : State κ) : Activity κ → Bool
  | borrow _ (.checkingOut k) => s.isOut (m.id k)
  | _ => false

def owed (a : Activity κ) : Nat := if a.owes = .one then 1 else 0

@[simp]
theorem owes_wake (a : Activity κ) : a.wake.owes = a.owes := by
  rcases a with ⟨d, _ | _⟩ | _ <;> rfl

theorem owed_wake (a : Activity κ) : a.wake.owed = a.owed := by
  rw [owed, owes_wake]
  rfl

theorem isWaiting_wake (a : Activity κ) : a.wake.isWaiting = false := by
  rcases a with ⟨d, _ | _⟩ | _ <;> rfl

theorem wake_of_awake {a : Activity κ} (h : a.isWaiting = false) : a.wake = a := by
  rcases a with ⟨d, _ | _⟩ | _ <;> first | rfl | cases h

/-- What is about to be lent is not out yet. -/
theorem own_of_lendsTwice {m : Manager ω κ} {s : State κ} {a : Activity κ}
    (h : a.lendsTwice m s = true) : ∃ k ∈ a.own, m.id k ∈ s.active := by
  rcases a with ⟨d, _ | _ | _ | _ | _ | k | _ | _ | _ | _⟩ | _ | _ | _ | _ | _
  all_goals
    first
    | cases h
    | exact ⟨k, Multiset.mem_singleton_self k, by simpa [lendsTwice, State.isOut] using h⟩

theorem isReserving_wake {a : Activity κ} (h : a.isWaiting = true) : a.wake.isReserving = true := by
  rcases a with ⟨d, _ | _⟩ | _ <;> first | rfl | cases h

theorem awake_of_reserving {a : Activity κ} (h : a.isReserving = true) : a.isWaiting = false := by
  rcases a with ⟨d, _ | _⟩ | _ <;> first | rfl | cases h

theorem owes_of_finished {a : Activity κ} (h : a.isFinished = true) : a.owes = .nobody := by
  rcases a with ⟨d, _⟩ | _ | _ | _ | _ | _ <;> rename_i x <;> cases x <;> first | rfl | cases h

theorem eq_of_reserving {a : Activity κ} (h : a.isReserving = true) :
    ∃ d, a = .borrow d .reserving := by
  rcases a with ⟨d, _ | _⟩ | _ <;> first | exact ⟨_, rfl⟩ | cases h

theorem unfinished_of_reserving {a : Activity κ} (h : a.isReserving = true) :
    a.isFinished = false := by
  rcases a with ⟨d, _ | _⟩ | _ <;> first | rfl | cases h

end Activity

section Places

variable {limit : Nat} {s s' : State κ}

private theorem State.free_forget_le (limit id : Nat) :
    (s.forget id).free limit ≤ s.free limit + 1 := by
  have hlength : s.active.length ≤ (s.active.erase id).length + 1 := by
    rw [List.length_erase]
    split <;> omega
  simp only [free, occupied, forget]
  omega

private theorem State.free_cancelReservation_le :
    s.cancelReservation.free limit ≤ s.free limit + 1 := by
  simp only [free, occupied, cancelReservation]
  omega

/-- A place that is turned into a loan is free only if the id is out already. -/
private theorem State.free_checkOut_le (id : Nat) :
    (s.checkOut id).free limit ≤ s.free limit + (s.isOut id).toNat := by
  by_cases h : id ∈ s.active
  · have hout : (s.isOut id).toNat = 1 := by simp [isOut, h]
    simp only [free, occupied, checkOut, List.length_insert, h, ↓reduceIte, hout]
    omega
  · simp only [free, occupied, checkOut, List.length_insert, h, ↓reduceIte]
    omega

/-- A borrow that looks for a place in an open pool takes one, if there is one. -/
private theorem State.free_reserve_le (settings : Settings.Pool) (late : Bool)
    (h : s.isClosed = false) :
    (s.reserve settings late).2.free settings.maxActive ≤ s.free settings.maxActive - 1 := by
  have hfull (hr : (s.reserve settings late).2 = s) (hlt : ¬s.occupied < settings.maxActive) :
      (s.reserve settings late).2.free settings.maxActive ≤ s.free settings.maxActive - 1 := by
    rw [hr]
    simp only [free]
    omega
  rcases s.reserve_cases settings late with ⟨cause, hr⟩ | hr | ⟨k, s', hr, -, -, hfree, ha, hp, -⟩
  · exact hfull (by rw [hr]) fun hlt => by simp [reserve, h, hlt] at hr
  · exact hfull (by rw [hr]) fun hlt => by simp [reserve, h, hlt] at hr
  · rw [hr]
    simp only [free, occupied, ha, hp]
    omega

private theorem State.full_of_blocked {settings : Settings.Pool} {late : Bool}
    (h : s.reserve settings late = (.blocked, s')) :
    s.isClosed = false ∧ s.free settings.maxActive = 0 := by
  rw [reserve] at h
  split at h
  · cases h
  · next hopen =>
    split at h
    · cases h
    · next hfull => exact ⟨Bool.eq_false_iff.mpr hopen, by simp only [free]; omega⟩

end Places

inductive Minds (m : Manager ω κ) (limit : Nat) (s s' : State κ) (a a' : Activity κ) : Prop
  /-- A borrow that looks finds the pool closed, takes a place, or finds none; then it may go to
  sleep. -/
  | looks : a.owes = .nobody → a'.owes = .nobody → s'.isClosed = s.isClosed →
    (s.isClosed = false → s'.free limit ≤ s.free limit - 1) →
    (a'.isWaiting = true → s.isClosed = false ∧ s.free limit = 0) → Minds m limit s s' a a'
  /-- Whoever frees a place goes on to wake somebody, unless a loan has replaced another. -/
  | frees : a.isReserving = false → a.owes = .nobody → a'.owes ≠ .everyone →
    s'.isClosed = s.isClosed →
    s'.free limit ≤ s.free limit + a'.owed + (a.lendsTwice m s).toNat →
    (a'.isWaiting = true → a.isWaiting = true) → Minds m limit s s' a a'
  | closes : a.isReserving = false → a.owes = .nobody → a'.owes = .everyone → s'.isClosed = true →
    a'.isWaiting = false → Minds m limit s s' a a'
  | tells : a.isReserving = false → a.owes ≠ .nobody → a'.owes = .nobody → s' = s →
    a'.isWaiting = false → Minds m limit s s' a a'

section Steps

variable (p : Pool ω κ) (s : State κ) (w : ω)

private theorem Minds.still {m : Manager ω κ} {limit : Nat} {s : State κ} {a a' : Activity κ}
    (hr : a.isReserving = false) (ha : a.owes = .nobody) (ha' : a'.owes = .nobody)
    (hw : a'.isWaiting = false) : Minds m limit s s a a' :=
  .frees hr ha (by simp [ha']) rfl (by omega) (by simp [hw])

private theorem borrow_minds (d : Option Nat) (b : Borrow κ) :
    Minds p.manager p.settings.maxActive s (b.step p d s w).state (.borrow d b)
      (.borrow d (b.step p d s w).activity) := by
  cases b with
  | reserving =>
    have hfree := s.free_reserve_le p.settings (d.any (· ≤ p.manager.clock w))
    simp only [Borrow.step]
    rcases h : s.reserve p.settings (d.any (· ≤ p.manager.clock w)) with ⟨_ | cause | _, s'⟩
    · rename_i candidate
      rcases s.reserve_cases p.settings (d.any (· ≤ p.manager.clock w)) with
        ⟨cause, hr⟩ | hr | ⟨k, s'', hr, hopen, hopen', -⟩
      · rw [h] at hr; cases hr
      · rw [h] at hr; cases hr
      · obtain ⟨-, rfl⟩ := Prod.mk.inj (h.symm.trans hr)
        rw [h] at hfree
        cases candidate <;>
          exact .looks rfl rfl (hopen'.trans hopen.symm) hfree (by rintro ⟨⟩)
    · rw [h] at hfree
      obtain rfl : s' = s := by
        rcases s.reserve_cases p.settings (d.any (· ≤ p.manager.clock w)) with
          ⟨cause, hr⟩ | hr | ⟨k, s'', hr, -⟩ <;> rw [h] at hr <;> cases hr
        rfl
      exact .looks rfl rfl rfl hfree (by rintro ⟨⟩)
    · rw [h] at hfree
      obtain rfl : s' = s := by
        rcases s.reserve_cases p.settings (d.any (· ≤ p.manager.clock w)) with
          ⟨cause, hr⟩ | hr | ⟨k, s'', hr, -⟩ <;> rw [h] at hr <;> cases hr
        rfl
      exact .looks rfl rfl rfl hfree fun _ => State.full_of_blocked h
  | waiting =>
    simp only [Borrow.step]
    split
    · exact .still rfl rfl rfl rfl
    · exact .frees rfl rfl (by rintro ⟨⟩) rfl (Nat.le_add_right _ _) fun _ => rfl
  | making =>
    simp only [Borrow.step]
    split <;> exact .still rfl rfl rfl rfl
  | activating k isNew =>
    simp only [Borrow.step]
    split
    · split <;> exact .still rfl rfl rfl rfl
    · exact .still rfl rfl rfl rfl
  | validating k isNew =>
    simp only [Borrow.step]
    split <;> exact .still rfl rfl rfl rfl
  | checkingOut k =>
    exact .frees rfl rfl (by rintro ⟨⟩) rfl (State.free_checkOut_le _) (by rintro ⟨⟩)
  | discarding k cause => exact .still rfl rfl rfl rfl
  | cancelling cause =>
    exact .frees rfl rfl (by rintro ⟨⟩) rfl State.free_cancelReservation_le (by rintro ⟨⟩)
  | signalling cause => cases cause <;> exact .tells rfl (by rintro ⟨⟩) rfl rfl rfl
  | finished o => exact .still rfl rfl rfl rfl

private theorem giveBack_minds (g : GiveBack κ) :
    Minds p.manager p.settings.maxActive s (g.step p s w).state (.giveBack g)
      (.giveBack (g.step p s w).activity) := by
  cases g with
  | presenting k =>
    simp only [GiveBack.step]
    split <;> exact .still rfl rfl rfl rfl
  | passivating id k =>
    simp only [GiveBack.step]
    split
    · split <;> exact .still rfl rfl rfl rfl
    · exact .still rfl rfl rfl rfl
  | settling id k keep =>
    have hfree := s.free_forget_le p.settings.maxActive id
    rcases s.settleReturn_cases p.settings (p.manager.clock w) id k keep with h | ⟨-, -, h⟩
    · simp only [GiveBack.step, h]
      exact .frees rfl rfl (by rintro ⟨⟩) rfl hfree (by rintro ⟨⟩)
    · simp only [GiveBack.step, h]
      exact .frees rfl rfl (by rintro ⟨⟩) rfl hfree (by rintro ⟨⟩)
  | signalling discarded => cases discarded <;> exact .tells rfl (by rintro ⟨⟩) rfl rfl rfl
  | rejecting | validating | discarding | finished => exact .still rfl rfl rfl rfl

private theorem evict_minds (e : Eviction κ) :
    Minds p.manager p.settings.maxActive s (e.step p s w).state (.evict e)
      (.evict (e.step p s w).activity) := by
  cases e with
  | starting =>
    rcases s.takeForEviction_cases p.settings (p.manager.clock w) with
      ⟨-, h⟩ | ⟨-, expired, kept, h, -⟩
    · simp only [Eviction.step, h]
      exact .still rfl rfl rfl rfl
    · simp only [Eviction.step, h]
      exact .frees rfl rfl (by rintro ⟨⟩) rfl (Nat.le_refl _) (by rintro ⟨⟩)
  | expiring expired kept n =>
    cases expired with
    | nil =>
      simp only [Eviction.step]
      split <;> exact .still rfl rfl rfl rfl
    | cons i expired => exact .still rfl rfl rfl rfl
  | testing untested valid invalid n =>
    cases untested with
    | nil => exact .still rfl rfl rfl rfl
    | cons i untested =>
      simp only [Eviction.step]
      split <;> exact .still rfl rfl rfl rfl
  | discarding invalid valid n => cases invalid <;> exact .still rfl rfl rfl rfl
  | puttingBack kept n => exact .frees rfl rfl (by rintro ⟨⟩) rfl (Nat.le_refl _) (by rintro ⟨⟩)
  | making missing n =>
    cases missing with
    | zero => exact .still rfl rfl rfl rfl
    | succ missing =>
      simp only [Eviction.step]
      split <;> exact .still rfl rfl rfl rfl
  | adopting k missing n =>
    rcases s.adopt_cases p.settings (p.manager.clock w) k with h | ⟨-, -, h⟩
    · simp only [Eviction.step, h]
      exact .still rfl rfl rfl rfl
    · simp only [Eviction.step, h]
      exact .frees rfl rfl (by rintro ⟨⟩) rfl (Nat.le_add_right _ 1) (by rintro ⟨⟩)
  | signalling missing n => exact .tells rfl (by rintro ⟨⟩) rfl rfl rfl
  | refusing | finished => exact .still rfl rfl rfl rfl

private theorem close_minds (c : Closing κ) :
    Minds p.manager p.settings.maxActive s (c.step p s w).state (.close c)
      (.close (c.step p s w).activity) := by
  cases c with
  | starting =>
    rcases s.close_cases with ⟨-, h⟩ | ⟨-, h⟩
    · simp only [Closing.step, h]
      exact .still rfl rfl rfl rfl
    · simp only [Closing.step, h]
      exact .closes rfl rfl rfl rfl rfl
  | signalling ks => exact .tells rfl (by rintro ⟨⟩) rfl rfl rfl
  | destroying ks => cases ks <;> exact .still rfl rfl rfl rfl
  | finished => exact .still rfl rfl rfl rfl

theorem step_minds (a : Activity κ) :
    Minds p.manager p.settings.maxActive s (a.step p s w).state a (a.step p s w).activity := by
  cases a with
  | borrow d b => exact borrow_minds p s w d b
  | giveBack g => exact giveBack_minds p s w g
  | wrap g =>
    cases g with
    | presenting k =>
      show Minds _ _ s (Wrap.step p (.presenting k) s w).state _
        (.wrap (Wrap.step p (.presenting k) s w).activity)
      simp only [Wrap.step]
      split <;> exact .still rfl rfl rfl rfl
    | rejecting | finished => exact .still rfl rfl rfl rfl
  | detach d =>
    cases d with
    | forgetting k =>
      exact .frees rfl rfl (by rintro ⟨⟩) rfl (State.free_forget_le _ _) (by rintro ⟨⟩)
    | signalling k => exact .tells rfl (by rintro ⟨⟩) rfl rfl rfl
    | finished k => exact .still rfl rfl rfl rfl
  | evict e => exact evict_minds p s w e
  | close c => exact close_minds p s w c

/-- A step wakes whom it owes that, and nobody else. -/
theorem step_wakeup (a : Activity κ) : (a.step p s w).wakeup = a.owes := by
  cases a with
  | borrow d b =>
    show (b.step p d s w).wakeup = _
    cases b <;> simp only [Borrow.step] <;> (try split) <;> rfl
  | giveBack g =>
    show (g.step p s w).wakeup = _
    cases g <;> simp only [GiveBack.step] <;> (try split) <;> rfl
  | wrap g => cases g <;> rfl
  | detach d => cases d <;> rfl
  | evict e =>
    show (e.step p s w).wakeup = _
    rcases e with _ | ⟨_ | _⟩ | ⟨_ | _⟩ | ⟨_ | _⟩ | _ | ⟨_ | _⟩ | _ | _ | _ | _ <;>
      simp only [Eviction.step] <;> (try split) <;> rfl
  | close c =>
    show (c.step p s w).wakeup = _
    rcases c with _ | _ | ⟨_ | _⟩ | _ <;> simp only [Closing.step] <;> (try split) <;> rfl

end Steps

end DirectoryClient.Pool
