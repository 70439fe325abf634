import DirectoryClient.Proofs.Slot.Gathering

/-! What holds at every slot: one cancellation counts at most, the server is asked once for each that
does, and a caller who waits returns once, with the timeout only if it has won after its deadline. -/
namespace DirectoryClient.Slot

class Phased (σ : Type) where
  phase : σ → Phase

open Phased (phase)

class Lawful (σ : Type) (α δ : outParam Type) [Slot σ α] [Supply σ δ] [Phased σ] : Prop where
  phase_examine : ∀ id late (s : σ), phase (examine id late s).2 = phase s
  late_of_lapsed : ∀ {id late} {s : σ}, (examine id late s).1 = .lapsed → late = true
  cancel_cases : ∀ interrupt (s : σ),
    (phase s = .pending ∧ (Slot.cancel interrupt s).1 = true ∧
      phase (Slot.cancel interrupt s).2 = .cancelled interrupt) ∨
    Slot.cancel interrupt s = (false, s)
  pending_of_deliver : ∀ {id} {d : δ} {s : σ},
    phase (Supply.deliver id d s) = .pending → phase s = .pending

namespace Event

variable {α δ : Type}

def wins : Event α δ → Bool
  | expired _ won | cancelled _ won => won
  | _ => false

def interrupts : Event α δ → Bool
  | expired _ won => won
  | cancelled interrupt won => interrupt && won
  | _ => false

def isAbandon : Event α δ → Bool
  | abandoned => true
  | _ => false

def returns? (id : MessageId) (caller : Nat) : Event α δ → Option (Outcome α)
  | looked i (.settled o) => if i = caller then some o else none
  | expired i true => if i = caller then some (.error (.responseTimeout id)) else none
  | _ => none

theorem returns_cases {id : MessageId} {caller : Nat} {e : Event α δ} {o : Outcome α}
    (h : e.returns? id caller = some o) : e = .looked caller (.settled o) ∨
      e = .expired caller true ∧ o = .error (.responseTimeout id) := by
  unfold returns? at h
  split at h
  · split at h
    · subst caller; cases h; exact .inl rfl
    · cases h
  · split at h
    · subst caller; cases h; exact .inr ⟨rfl, rfl⟩
    · cases h
  · cases h

end Event

variable {σ α δ : Type}

def returned (id : MessageId) (caller : Nat) (es : List (Moment σ α δ)) : List (Outcome α) :=
  es.filterMap fun x => x.event.returns? id caller

private theorem returned_concat (id : MessageId) (caller : Nat) (es : List (Moment σ α δ))
    (x : Moment σ α δ) : returned id caller (es ++ [x]) =
      returned id caller es ++ (x.event.returns? id caller).toList := by
  rw [returned, List.filterMap_append, List.filterMap_cons, List.filterMap_nil]
  cases x.event.returns? id caller <;> rfl

section Phases

variable {id : MessageId} {s s' : σ} {b b' : Bool} {e : Event α δ}
variable [Slot σ α] [Supply σ δ] [Phased σ] [Lawful σ α δ]

/-- Only a slot that is pending can be cancelled, and it is cancelled then. -/
theorem Section.phase_of_wins (h : Section id s b e s' b') (hw : e.wins = true) :
    phase s = .pending ∧ phase s' ≠ .pending := by
  have won : ∀ interrupt, (Slot.cancel interrupt s).1 = true →
      phase s = .pending ∧ phase (Slot.cancel interrupt s).2 ≠ .pending := by
    intro interrupt hwon
    rcases Lawful.cancel_cases interrupt s with ⟨hs, -, hs'⟩ | hsame
    · exact ⟨hs, by simp [hs']⟩
    · rw [hsame] at hwon
      cases hwon
  cases h with
  | expire i => exact won true hw
  | cancel interrupt => exact won interrupt hw
  | look | deliver | abandon => cases hw

/-- A slot that is not pending never is again. -/
theorem Section.pending_of_pending (h : Section id s b e s' b') (hs : phase s' = .pending) :
    phase s = .pending := by
  have kept : ∀ interrupt, phase (Slot.cancel interrupt s).2 = .pending → phase s = .pending := by
    intro interrupt hs'
    rcases Lawful.cancel_cases interrupt s with ⟨hp, -⟩ | hsame
    · exact hp
    · rwa [hsame] at hs'
  cases h with
  | look i late => rwa [Lawful.phase_examine] at hs
  | expire i => exact kept true hs
  | cancel interrupt => exact kept interrupt hs
  | deliver d => exact Lawful.pending_of_deliver hs
  | abandon => exact hs

/-- A cancellation that counts, and interrupts, leaves the slot interrupted. -/
theorem Section.phase_of_interrupts (h : Section id s b e s' b') (hi : e.interrupts = true) :
    phase s' = .cancelled true := by
  have won : (Slot.cancel true s).1 = true → phase (Slot.cancel true s).2 = .cancelled true := by
    intro hwon
    rcases Lawful.cancel_cases true s with ⟨-, -, hs'⟩ | hsame
    · exact hs'
    · rw [hsame] at hwon
      cases hwon
  cases h with
  | expire i => exact won hi
  | cancel interrupt =>
    obtain ⟨rfl, hwon⟩ := Bool.and_eq_true_iff.mp hi
    exact won hwon
  | look | deliver | abandon => cases hi

end Phases

section Callers

variable {id : MessageId} {g g' : Gathering σ α} {e : Event α δ}
variable [Slot σ α] [Supply σ δ]

/-- A caller has returned with an outcome if it is finished with it, and no section makes it return
again. -/
private theorem Acts.returns (h : Acts id g e g') (i : Nat) :
    (g'.waiters[i]?.bind Waiter.outcome?).toList =
      (g.waiters[i]?.bind Waiter.outcome?).toList ++ (e.returns? id i).toList := by
  cases h with
  | look j w hj hw =>
    have hnone : w.outcome? = none := by rw [Waiter.outcome?, hw]
    rw [(w.step_looking id g.now g.slot hw).2, List.getElem?_set]
    by_cases hij : j = i
    · obtain rfl := hij
      rw [if_pos rfl, if_pos (List.getElem?_eq_some_iff.mp hj).1, hj, Option.bind_some,
        Option.bind_some, hnone]
      rcases (examine id (w.deadline.any (· ≤ g.now)) g.slot).1 with o | _ | _ <;>
        simp [Waiter.outcome?, Event.returns?]
    · rcases (examine id (w.deadline.any (· ≤ g.now)) g.slot).1 with o | _ | _ <;>
        simp [hij, Event.returns?]
  | expire j w hj hw =>
    have hnone : w.outcome? = none := by rw [Waiter.outcome?, hw]
    obtain ⟨-, hwon, hafter⟩ := w.step_cancelling id g.now g.slot hw
    rw [hafter, hwon, List.getElem?_set]
    by_cases hij : j = i
    · obtain rfl := hij
      rw [if_pos rfl, if_pos (List.getElem?_eq_some_iff.mp hj).1, hj, Option.bind_some,
        Option.bind_some, hnone]
      cases (Slot.cancel true g.slot).1 <;> simp [Waiter.outcome?, Event.returns?]
    · cases (Slot.cancel true g.slot).1 <;> simp [hij, Event.returns?]
  | cancel | deliver | abandon => simp [Event.returns?]

private theorem Acts.now (h : Acts id g e g') : g'.now = g.now := by
  cases h <;> rfl

private theorem Acts.deadlines (h : Acts id g e g') :
    g'.waiters.map (·.deadline) = g.waiters.map (·.deadline) := by
  have kept : ∀ (i : Nat) (w w' : Waiter α), g.waiters[i]? = some w → w'.deadline = w.deadline →
      (g.waiters.set i w').map (·.deadline) = g.waiters.map (·.deadline) := by
    intro i w w' hi hw
    obtain ⟨hlt, rfl⟩ := List.getElem?_eq_some_iff.mp hi
    rw [List.map_set, hw, ← List.getElem_map Waiter.deadline (h := by simpa using hlt),
      List.set_getElem_self]
  cases h with
  | look i w hi hw => exact kept i w _ hi (by rw [(w.step_looking id g.now g.slot hw).2])
  | expire i w hi hw => exact kept i w _ hi (by rw [(w.step_cancelling id g.now g.slot hw).2.2])
  | cancel | deliver | abandon => rfl

omit [Slot σ α] in
private theorem Meanwhile.returns (h : Meanwhile g g') (i : Nat) :
    g'.waiters[i]?.bind Waiter.outcome? = g.waiters[i]?.bind Waiter.outcome? := by
  cases h with
  | wait deadline =>
    rcases Nat.lt_trichotomy i g.waiters.length with hi | rfl | hi
    · rw [List.getElem?_append_left hi]
    · simp [Waiter.outcome?]
    · rw [List.getElem?_eq_none (Nat.le_of_lt hi),
        List.getElem?_eq_none (by simpa using Nat.succ_le_of_lt hi)]
  | pass | use => rfl

omit [Slot σ α] in
private theorem Meanwhile.deadlines (h : Meanwhile g g') :
    g.waiters.map (·.deadline) <+: g'.waiters.map (·.deadline) := by
  cases h with
  | wait deadline =>
    rw [List.map_append]
    exact List.prefix_append _ _
  | pass | use => exact List.prefix_refl _

variable [Phased σ] [Lawful σ α δ]

/-- A caller is about to cancel only once it has looked after its deadline. -/
private theorem Acts.late_of_cancelling (h : Acts id g e g') {i : Nat} {w : Waiter α}
    (hi : g'.waiters[i]? = some w) (hw : w.position = .cancelling) :
    g.waiters[i]? = some w ∨ ∃ d, w.deadline = some d ∧ d ≤ g.now := by
  have replaced : ∀ {j : Nat} {w' : Waiter α}, (g.waiters.set j w')[i]? = some w →
      w = w' ∨ g.waiters[i]? = some w := by
    intro j w' hi
    rw [List.getElem?_set] at hi
    split at hi
    · split at hi
      · exact .inl (Option.some_inj.mp hi).symm
      · cases hi
    · exact .inr hi
  cases h with
  | look j w₀ hj hw₀ =>
    rw [(w₀.step_looking id g.now g.slot hw₀).2] at hi
    rcases replaced hi with rfl | hi
    · rcases hf : (examine id (w₀.deadline.any (· ≤ g.now)) g.slot).1 with o | _ | _
      · simp [hf] at hw
      · simp [hf] at hw
      · exact .inr (by simpa [Option.any_eq_true] using Lawful.late_of_lapsed hf)
    · exact .inl hi
  | expire j w₀ hj hw₀ =>
    rw [(w₀.step_cancelling id g.now g.slot hw₀).2.2] at hi
    rcases replaced hi with rfl | hi
    · cases hwon : (Slot.cancel true g.slot).1 <;> simp [hwon] at hw
    · exact .inl hi
  | cancel | deliver | abandon => exact .inl hi

end Callers

structure Orderly (id : MessageId) (es : List (Moment σ α δ)) (g : Gathering σ α) : Prop where
  wonOnce : es.countP (·.event.wins) ≤ 1
  /-- The server is asked once for each cancellation that counts, by whoever has won. -/
  abandoned : es.countP (·.event.isAbandon) + g.owed = es.countP (·.event.wins)
  /-- A caller returns once, and has returned if it is finished. -/
  returned : ∀ i, Slot.returned id i es = (g.waiters[i]?.bind Waiter.outcome?).toList
  /-- Nobody's time is over before its deadline. -/
  expired : ∀ x ∈ es, ∀ i won, x.event = .expired i won →
    ∃ d, (g.waiters.map (·.deadline))[i]? = some (some d) ∧ d ≤ x.time

namespace Run

variable {id : MessageId} {s₀ : σ} {es : List (Moment σ α δ)} {g : Gathering σ α}
variable [Slot σ α] [Supply σ δ]

theorem abandoned (h : Run id s₀ es g) :
    es.countP (·.event.isAbandon) + g.owed = es.countP (·.event.wins) := by
  induction h with
  | start => rfl
  | acts _ hacts ih =>
    rw [List.countP_append, List.countP_append, ← ih]
    cases hacts with
    | look | deliver => rfl
    | expire i w =>
      rcases (w.step id _ _).abandons <;> simp [Event.wins, Event.isAbandon]; omega
    | cancel interrupt =>
      rcases (Slot.cancel interrupt _).1 <;> simp [Event.wins, Event.isAbandon]; omega
    | abandon n hn =>
      simp [Event.wins, Event.isAbandon, hn]; omega
  | meanwhile _ hm ih => rwa [hm.keeps.2.2.1]

theorem returned (h : Run id s₀ es g) (i : Nat) :
    Slot.returned id i es = (g.waiters[i]?.bind Waiter.outcome?).toList := by
  induction h with
  | start => rfl
  | acts _ hacts ih => rw [returned_concat, ih, hacts.returns i]
  | meanwhile _ hm ih => rw [ih, hm.returns i]

variable [Phased σ] [Lawful σ α δ]

/-- Nobody wins while the slot is pending, and one at most afterwards. -/
private theorem won_le (h : Run id s₀ es g) :
    es.countP (·.event.wins) ≤ if phase g.slot = .pending then 0 else 1 := by
  induction h with
  | start => exact Nat.zero_le _
  | @acts es e g g' _ hacts ih =>
    have hsec := hacts.toSection
    rw [List.countP_append, List.countP_singleton]
    by_cases hw : e.wins = true
    · obtain ⟨hp, hp'⟩ := hsec.phase_of_wins hw
      rw [if_pos hp] at ih
      rw [if_pos hw, if_neg hp']
      omega
    · rw [if_neg hw]
      split
      · next hp =>
        rwa [if_pos (hsec.pending_of_pending hp)] at ih
      · exact Nat.le_trans ih (by split <;> omega)
  | meanwhile _ hm ih => rwa [hm.keeps.1]

/-- A caller who has found itself too late has a deadline that is over. -/
private theorem deadline_of_cancelling (h : Run id s₀ es g) {i : Nat} {w : Waiter α}
    (hi : g.waiters[i]? = some w) (hw : w.position = .cancelling) :
    ∃ d, w.deadline = some d ∧ d ≤ g.now := by
  induction h generalizing i w with
  | start => simp at hi
  | acts _ hacts ih =>
    rw [hacts.now]
    exact (hacts.late_of_cancelling hi hw).elim (ih · hw) (fun h => h)
  | meanwhile _ hm ih =>
    cases hm with
    | wait deadline =>
      rcases List.mem_append.mp (List.mem_of_getElem? hi) with hmem | hmem
      · obtain ⟨j, hj⟩ := List.getElem?_of_mem hmem
        exact ih hj hw
      · obtain rfl := List.mem_singleton.mp hmem
        cases hw
    | pass t ht =>
      obtain ⟨d, hd, hle⟩ := ih hi hw
      exact ⟨d, hd, Nat.le_trans hle ht⟩
    | use => exact ih hi hw

theorem expired (h : Run id s₀ es g) {x : Moment σ α δ} (hx : x ∈ es) {i : Nat} {won : Bool}
    (he : x.event = .expired i won) :
    ∃ d, (g.waiters.map (·.deadline))[i]? = some (some d) ∧ d ≤ x.time := by
  induction h with
  | start => cases hx
  | acts h hacts ih =>
    rw [hacts.deadlines]
    rcases List.mem_append.mp hx with hx | hx
    · exact ih hx
    · obtain rfl := List.mem_singleton.mp hx
      cases hacts with
      | expire j w hj hw =>
        cases he
        obtain ⟨d, hd, hle⟩ := h.deadline_of_cancelling hj hw
        exact ⟨d, by simp [hj, hd], hle⟩
      | look | cancel | deliver | abandon => cases he
  | meanwhile _ hm ih =>
    obtain ⟨d, hd, hle⟩ := ih hx
    obtain ⟨_, h⟩ := hm.deadlines
    have hlength := (List.getElem?_eq_some_iff.mp hd).1
    refine ⟨d, ?_, hle⟩
    rw [← h]
    exact (List.getElem?_append_left hlength).trans hd

theorem orderly (h : Run id s₀ es g) : Orderly id es g where
  wonOnce := Nat.le_trans h.won_le (by split <;> omega)
  abandoned := h.abandoned
  returned := h.returned
  expired _ hx _ _ he := h.expired hx he

end Run

private theorem eq_of_countP_le_one {β : Type} {p : β → Bool} {l : List β}
    (h : l.countP p ≤ 1) {x y : β}
    (hx : x ∈ l) (hy : y ∈ l) (hpx : p x = true) (hpy : p y = true) : x = y := by
  refine Classical.byContradiction fun hne => ?_
  obtain ⟨l₁, l₂, rfl⟩ := List.append_of_mem hx
  have hpos : 0 < l₁.countP p + l₂.countP p := by
    rcases List.mem_append.mp hy with hy | hy
    · exact Nat.add_pos_left (List.countP_pos_iff.mpr ⟨y, hy, hpy⟩) _
    · exact Nat.add_pos_right _ (List.countP_pos_iff.mpr
        ⟨y, (List.mem_cons.mp hy).resolve_left (Ne.symm hne), hpy⟩)
  rw [List.countP_append, List.countP_cons_of_pos hpx] at h
  omega

namespace Orderly

variable {id : MessageId} {es : List (Moment σ α δ)} {g : Gathering σ α}

private theorem eq_of_returns (h : Orderly id es g) {i : Nat} {x y : Moment σ α δ} (hx : x ∈ es)
    (hy : y ∈ es) (hrx : (x.event.returns? id i).isSome) (hry : (y.event.returns? id i).isSome) :
    x = y := by
  refine eq_of_countP_le_one (p := fun x => (x.event.returns? id i).isSome) ?_ hx hy hrx hry
  rw [← List.length_filterMap_eq_countP]
  change (Slot.returned id i es).length ≤ 1
  rw [h.returned i]
  cases g.waiters[i]?.bind Waiter.outcome? <;> simp

/-- A caller who has returned with the timeout has found nothing whenever it looked. -/
theorem nothing_found (h : Orderly id es g) {x y : Moment σ α δ} {i : Nat} {f : Finding α}
    (hx : x ∈ es) (hwon : x.event = .expired i true) (hy : y ∈ es) (hlook : y.event = .looked i f)
    (o : Outcome α) : f ≠ .settled o := by
  rintro rfl
  obtain rfl := h.eq_of_returns (i := i) hx hy (by simp [hwon, Event.returns?])
    (by simp [hlook, Event.returns?])
  rw [hwon] at hlook
  cases hlook

/-- Only one caller's time is over. -/
theorem expired_once (h : Orderly id es g) {x y : Moment σ α δ} {i j : Nat} (hx : x ∈ es)
    (hy : y ∈ es) (hi : x.event = .expired i true) (hj : y.event = .expired j true) : i = j := by
  obtain rfl := eq_of_countP_le_one h.wonOnce hx hy (by rw [hi]; rfl) (by rw [hj]; rfl)
  rw [hi] at hj
  exact (Event.expired.inj hj).1

end Orderly

end DirectoryClient.Slot
