import DirectoryClient.Line
import DirectoryClient.Slot.Basic

/-! One slot, and all who meet at it: callers who wait, callers who cancel, and one who delivers. Each
makes one section at a time, and nothing is assumed about whose turn it is. -/
namespace DirectoryClient.Slot

class Supply (σ : Type) (δ : outParam Type) where
  deliver : (id : MessageId) → δ → σ → σ
  /-- Whoever makes this delivery makes no other. -/
  isLast : δ → Bool

inductive Event (α δ : Type) where
  /-- A caller who waits has looked into the slot. -/
  | looked (caller : Nat) (found : Finding α)
  /-- A caller whose time is over has cancelled; it has won if this was the cancellation that
  counts. -/
  | expired (caller : Nat) (won : Bool)
  /-- Somebody who does not wait has cancelled. -/
  | cancelled (interrupt won : Bool)
  | delivered (delivery : δ)
  /-- Whoever has won asks the server to give the operation up. -/
  | abandoned

/-- A section: its time, what is seen of it, and the slot before and after it. -/
structure Moment (σ α δ : Type) where
  time : Nat
  before : σ
  event : Event α δ
  after : σ

/-- All who meet at one slot. A caller who waits is known by its place in the list, and stays there
when it is finished. -/
structure Gathering (σ α : Type) where
  slot : σ
  /-- Where abandon requests go, if any are sent. -/
  line : Option Line
  now : Nat
  waiters : List (Waiter α) := []
  /-- The last delivery is still to come. -/
  hasSupplier : Bool := true
  /-- How many have won and not yet asked the server to give the operation up. -/
  owed : Nat := 0

variable {σ α δ : Type} [Slot σ α] [Supply σ δ]

/-- A section of one of those at the slot. A caller that found nothing may look again at any time:
because it was woken, because its deadline has passed, or for no reason. -/
inductive Acts (id : MessageId) : Gathering σ α → Event α δ → Gathering σ α → Prop
  | look (g : Gathering σ α) (i : Nat) (w : Waiter α) : g.waiters[i]? = some w →
    w.position = .looking →
    Acts id g (.looked i (examine id (w.deadline.any (· ≤ g.now)) g.slot).1)
      { g with
        slot := (w.step id g.now g.slot).slot
        waiters := g.waiters.set i (w.step id g.now g.slot).waiter }
  | expire (g : Gathering σ α) (i : Nat) (w : Waiter α) : g.waiters[i]? = some w →
    w.position = .cancelling →
    Acts id g (.expired i (w.step id g.now g.slot).abandons)
      { g with
        slot := (w.step id g.now g.slot).slot
        waiters := g.waiters.set i (w.step id g.now g.slot).waiter
        owed := g.owed + (w.step id g.now g.slot).abandons.toNat }
  | cancel (g : Gathering σ α) (interrupt : Bool) :
    Acts id g (.cancelled interrupt (Slot.cancel interrupt g.slot).1)
      { g with
        slot := (Slot.cancel interrupt g.slot).2
        owed := g.owed + (Slot.cancel interrupt g.slot).1.toNat }
  | deliver (g : Gathering σ α) (d : δ) : g.hasSupplier = true →
    Acts id g (.delivered d)
      { g with slot := Supply.deliver id d g.slot, hasSupplier := !Supply.isLast σ d }
  | abandon (g : Gathering σ α) (n : Nat) : g.owed = n + 1 →
    Acts id g .abandoned { g with owed := n, line := g.line.map fun l => (l.abandon id).2 }

/-- What happens between sections: callers begin to wait, time passes, and others use the line. -/
inductive Meanwhile : Gathering σ α → Gathering σ α → Prop
  | wait (g : Gathering σ α) (deadline : Option Nat) :
    Meanwhile g { g with waiters := g.waiters ++ [{ deadline }] }
  | pass (g : Gathering σ α) (t : Nat) : g.now ≤ t → Meanwhile g { g with now := t }
  | use (g : Gathering σ α) (line : Option Line) : Meanwhile g { g with line }

inductive Run (id : MessageId) (s : σ) : List (Moment σ α δ) → Gathering σ α → Prop
  | start (line : Option Line) (now : Nat) : Run id s [] { slot := s, line, now }
  | acts {es : List (Moment σ α δ)} {e : Event α δ} {g g' : Gathering σ α} : Run id s es g →
    Acts id g e g' → Run id s (es ++ [⟨g.now, g.slot, e, g'.slot⟩]) g'
  | meanwhile {es : List (Moment σ α δ)} {g g' : Gathering σ α} : Run id s es g →
    Meanwhile g g' → Run id s es g'

inductive Section (id : MessageId) : σ → Bool → Event α δ → σ → Bool → Prop
  | look (i : Nat) (late : Bool) (s : σ) (b : Bool) :
    Section id s b (.looked i (examine id late s).1) (examine id late s).2 b
  | expire (i : Nat) (s : σ) (b : Bool) :
    Section id s b (.expired i (Slot.cancel true s).1) (Slot.cancel true s).2 b
  | cancel (interrupt : Bool) (s : σ) (b : Bool) :
    Section id s b (.cancelled interrupt (Slot.cancel interrupt s).1) (Slot.cancel interrupt s).2 b
  | deliver (d : δ) (s : σ) :
    Section id s true (.delivered d) (Supply.deliver id d s) (!Supply.isLast σ d)
  | abandon (s : σ) (b : Bool) : Section id s b .abandoned s b

namespace Waiter

variable (id : MessageId) (now : Nat) (w : Waiter α) (s : σ)

/-- A caller who looks returns with what is settled, goes on to cancel if its time is over, and looks
again otherwise. -/
theorem step_looking (h : w.position = .looking) :
    (w.step id now s).slot = (examine id (w.deadline.any (· ≤ now)) s).2 ∧
      (w.step id now s).waiter = { w with position :=
        match (examine id (w.deadline.any (· ≤ now)) s).1 with
        | .settled o => .finished o
        | .blocked => .looking
        | .lapsed => .cancelling } := by
  rcases hx : examine id (w.deadline.any (· ≤ now)) s with ⟨_ | _ | _, s'⟩
  · simp only [step, h, hx, and_self]
  · refine ⟨by simp only [step, h, hx], ?_⟩
    simp only [step, h, hx]
    rw [← h]
  · simp only [step, h, hx, and_self]

/-- A caller who cancels returns with the timeout if it wins, and looks again otherwise. -/
theorem step_cancelling (h : w.position = .cancelling) :
    (w.step id now s).slot = (Slot.cancel true s).2 ∧
      (w.step id now s).abandons = (Slot.cancel true s).1 ∧
      (w.step id now s).waiter = { w with position :=
        if (Slot.cancel true s).1 then .finished (.error (.responseTimeout id)) else .looking } := by
  rcases hx : Slot.cancel true s with ⟨_ | _, s'⟩ <;> simp [step, h, hx]

end Waiter

/-- Whoever acts makes a section on the slot. -/
theorem Acts.toSection {id : MessageId} {g g' : Gathering σ α} {e : Event α δ}
    (h : Acts id g e g') : Section id g.slot g.hasSupplier e g'.slot g'.hasSupplier := by
  cases h with
  | look i w hi hw =>
    rw [(w.step_looking id g.now g.slot hw).1]
    exact .look i _ g.slot g.hasSupplier
  | expire i w hi hw =>
    obtain ⟨hslot, hwon, -⟩ := w.step_cancelling id g.now g.slot hw
    rw [hslot, hwon]
    exact .expire i g.slot g.hasSupplier
  | cancel interrupt => exact .cancel interrupt g.slot g.hasSupplier
  | deliver d hd =>
    rw [hd]
    exact .deliver d g.slot
  | abandon n hn => exact .abandon g.slot g.hasSupplier

theorem Section.of_looked {id : MessageId} {s s' : σ} {b b' : Bool} {i : Nat} {f : Finding α}
    (h : Section id s b (.looked i f) s' b') :
    ∃ late, (examine id late s).1 = f ∧ (examine id late s).2 = s' ∧ b' = b := by
  cases h with
  | look i late => exact ⟨late, rfl, rfl, rfl⟩

theorem Section.of_delivered {id : MessageId} {s s' : σ} {b b' : Bool} {d : δ}
    (h : Section id s b (.delivered d) s' b') :
    b = true ∧ Supply.deliver id d s = s' ∧ b' = !Supply.isLast σ d := by
  cases h with
  | deliver => exact ⟨rfl, rfl, rfl⟩

omit [Slot σ α] in
theorem Meanwhile.keeps {g g' : Gathering σ α} (h : Meanwhile g g') :
    g'.slot = g.slot ∧ g'.hasSupplier = g.hasSupplier ∧ g'.owed = g.owed ∧ g.now ≤ g'.now := by
  cases h with
  | wait | use => exact ⟨rfl, rfl, rfl, Nat.le_refl _⟩
  | pass t ht => exact ⟨rfl, rfl, rfl, ht⟩

namespace Run

variable {id : MessageId} {s₀ : σ} {es : List (Moment σ α δ)} {g : Gathering σ α}

/-- What every section keeps holds all along. -/
theorem invariant {I : σ → Bool → Prop} (h : Run id s₀ es g) (hstart : I s₀ true)
    (hkeeps : ∀ {s b} {e : Event α δ} {s' b'}, Section id s b e s' b' → I s b → I s' b') :
    I g.slot g.hasSupplier := by
  induction h with
  | start => exact hstart
  | acts _ hacts ih => exact hkeeps hacts.toSection ih
  | meanwhile _ hm ih =>
    obtain ⟨hslot, hsupplier, -⟩ := hm.keeps
    rw [hslot, hsupplier]
    exact ih

/-- What holds of a section after what came before it holds of every section in its place. -/
theorem forall_prefix {P : List (Moment σ α δ) → Moment σ α δ → Prop} (h : Run id s₀ es g)
    (hall : ∀ {es : List (Moment σ α δ)} {g : Gathering σ α} {x : Moment σ α δ} {b b' : Bool},
      Run id s₀ es g → g.slot = x.before → g.hasSupplier = b →
      Section id x.before b x.event x.after b' → P es x) :
    ∀ {es₁ : List (Moment σ α δ)} {x : Moment σ α δ}, es₁ ++ [x] <+: es → P es₁ x := by
  induction h with
  | start => exact fun hp => absurd (List.prefix_nil.mp hp) (by simp)
  | acts h hacts ih =>
    intro es₁ x hp
    rcases List.prefix_concat_iff.mp hp with heq | hp
    · obtain ⟨rfl, hx⟩ := List.append_inj' heq rfl
      obtain rfl := List.singleton_inj.mp hx
      exact hall h rfl rfl hacts.toSection
    · exact ih hp
  | meanwhile _ _ ih => exact ih

/-- What holds of a section by what every section keeps holds of all. -/
theorem forall_mem {I : σ → Bool → Prop} {P : Moment σ α δ → Prop} (h : Run id s₀ es g)
    (hstart : I s₀ true)
    (hkeeps : ∀ {s b} {e : Event α δ} {s' b'}, Section id s b e s' b' → I s b → I s' b')
    (hall : ∀ {x : Moment σ α δ} {b b'}, Section id x.before b x.event x.after b' →
      I x.before b → P x) : ∀ x ∈ es, P x := by
  intro x hx
  obtain ⟨es₁, es₂, rfl⟩ := List.append_of_mem hx
  have hp : es₁ ++ [x] <+: es₁ ++ x :: es₂ := ⟨es₂, by simp⟩
  refine h.forall_prefix (P := fun _ x => P x) ?_ hp
  intro es g x b b' h hslot hsupplier hs
  exact hall hs (hslot ▸ hsupplier ▸ h.invariant hstart hkeeps)

/-- How one section bears on all later ones: it leaves a mark on the slot, which no section removes,
and on which the later one depends. -/
theorem pairwise {I : σ → Bool → Prop} {M : Moment σ α δ → σ → Bool → Prop}
    {R : Moment σ α δ → Moment σ α δ → Prop} (h : Run id s₀ es g) (hstart : I s₀ true)
    (hkeeps : ∀ {s b} {e : Event α δ} {s' b'}, Section id s b e s' b' → I s b → I s' b')
    (leaves : ∀ {x : Moment σ α δ} {b b'}, Section id x.before b x.event x.after b' →
      I x.before b → M x x.after b')
    (stays : ∀ {x : Moment σ α δ} {s b} {e : Event α δ} {s' b'}, Section id s b e s' b' → I s b →
      M x s b → M x s' b')
    (bears : ∀ {x y : Moment σ α δ} {b b'}, Section id y.before b y.event y.after b' →
      I y.before b → M x y.before b → R x y) : es.Pairwise R := by
  suffices hall : es.Pairwise R ∧ ∀ x ∈ es, M x g.slot g.hasSupplier from hall.1
  induction h with
  | start => exact ⟨.nil, by simp⟩
  | @acts es e g g' h hacts ih =>
    have hI := h.invariant hstart hkeeps
    have hsec := hacts.toSection
    refine ⟨List.pairwise_append.mpr ⟨ih.1, List.pairwise_singleton _ _, ?_⟩, ?_⟩
    · intro x hx y hy
      obtain rfl := List.mem_singleton.mp hy
      exact bears hsec hI (ih.2 x hx)
    · intro x hx
      rcases List.mem_append.mp hx with hx | hx
      · exact stays hsec hI (ih.2 x hx)
      · obtain rfl := List.mem_singleton.mp hx
        exact leaves (x := ⟨g.now, g.slot, e, g'.slot⟩) hsec hI
  | meanwhile _ hm ih =>
    obtain ⟨hslot, hsupplier, -⟩ := hm.keeps
    rw [hslot, hsupplier]
    exact ih

end Run

end DirectoryClient.Slot
