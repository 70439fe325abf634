import DirectoryClient.Proofs.Slot.Cancellation
import DirectoryClient.Proofs.Slot.Steps

/-! A reply is assigned once. Whoever delivers, waits and cancels, and in whatever order, every caller
finds what was delivered, or that the operation was given up before. -/
namespace DirectoryClient.Reply

open Slot (Gathering Moment Event Section Run Phased Finding)

/-- What is delivered: an outcome, or that there will be none. -/
inductive Delivery (α : Type) where
  | complete (outcome : Outcome α)
  | forsake

instance {α : Type} : Slot.Supply (Reply α) (Delivery α) where
  deliver id
    | .complete o, r => (r.complete o).2
    | .forsake, r => r.forsake id
  isLast _ := true

instance {α : Type} : Phased (Reply α) where
  phase := phase

variable {α : Type} {id : MessageId} {r r' : Reply α} {b b' : Bool}

def Delivery.found (id : MessageId) (r : Reply α) : Delivery α → Outcome α
  | complete o => if (r.complete o).1 then o else .error (.operationCancelled id)
  | forsake => .error (if r.phase = .pending then .connectionClosed else .operationCancelled id)

inductive Coherent : Reply α → Bool → Prop
  | pending : Coherent {} true
  | cancelled (interrupted : Bool) : Coherent { phase := .cancelled interrupted } true
  | completed (o : Outcome α) : Coherent { phase := .completed, outcome := some o } false
  /-- Delivered after a cancellation without interruption. -/
  | late (o : Outcome α) : Coherent { phase := .cancelled false, outcome := some o } false
  | interrupted : Coherent { phase := .cancelled true } false

@[simp] theorem slot_examine (id : MessageId) (late : Bool) (r : Reply α) :
    Slot.examine id late r = r.examine id late := rfl

@[simp] theorem slot_cancel (interrupt : Bool) (r : Reply α) :
    Slot.cancel interrupt r = r.cancel interrupt := rfl

@[simp] theorem slot_phase (r : Reply α) : Phased.phase r = r.phase := rfl

@[simp] theorem deliver_complete (id : MessageId) (o : Outcome α) (r : Reply α) :
    Slot.Supply.deliver id (Delivery.complete o) r = (r.complete o).2 := rfl

@[simp] theorem deliver_forsake (id : MessageId) (r : Reply α) :
    Slot.Supply.deliver id (Delivery.forsake (α := α)) r = r.forsake id := rfl

/-- A reply that is completed or interrupted is delivered nothing. -/
private theorem deliver_of_final (h : r.phase = .completed ∨ r.phase = .cancelled true)
    (d : Delivery α) :
    Slot.Supply.deliver id d r = r := by
  cases d with
  | complete o => rw [deliver_complete, r.complete_of_final o h]
  | forsake => rw [deliver_forsake, r.forsake_eq, r.complete_of_final _ h]

instance : Slot.Lawful (Reply α) α (Delivery α) where
  phase_examine id late r := by simp
  late_of_lapsed {id late r} h := by
    change (r.examine id late).1 = .lapsed at h
    cases late with
    | true => rfl
    | false => unfold examine at h; split at h <;> cases h
  cancel_cases interrupt r := by
    rcases r.cancel_cases interrupt with ⟨hp, hc⟩ | hc
    · exact .inl ⟨hp, by simp [hc], by simp [hc]⟩
    · exact .inr hc
  pending_of_deliver {id d r} h := by
    change (Slot.Supply.deliver id d r).phase = .pending at h
    change r.phase = .pending
    cases hp : r.phase with
    | pending => rfl
    | completed => rw [deliver_of_final (.inl hp), hp] at h; cases h
    | cancelled interrupted =>
      cases d <;> cases interrupted <;> cases ho : r.outcome <;>
        simp [complete, forsake, hp, ho] at h

variable {e : Event α (Delivery α)}

private theorem Coherent.toSection (hc : Coherent r b) (h : Section id r b e r' b') :
    Coherent r' b' := by
  have cancelled : ∀ interrupt, Coherent (r.cancel interrupt).2 b := by
    intro interrupt
    cases hc with
    | pending => exact .cancelled interrupt
    | cancelled i => exact .cancelled i
    | completed o => exact .completed o
    | late o => exact .late o
    | interrupted => exact .interrupted
  cases h with
  | look i late => rwa [slot_examine, examine_slot]
  | expire => exact cancelled true
  | cancel interrupt => exact cancelled interrupt
  | abandon => exact hc
  | deliver d =>
    cases hc with
    | pending => cases d <;> exact .completed _
    | cancelled i =>
      cases i
      · cases d <;> exact .late _
      · cases d <;> exact .interrupted

private theorem section_of_final (h : Section id r b e r' b')
    (hf : r.phase = .completed ∨ r.phase = .cancelled true) : r' = r := by
  have cancelled : ∀ interrupt, (r.cancel interrupt).2 = r := by
    intro interrupt
    rcases r.cancel_cases interrupt with ⟨hp, -⟩ | hc
    · simp [hp] at hf
    · rw [hc]
  cases h with
  | look => exact examine_slot _ _ _
  | expire => exact cancelled true
  | cancel interrupt => exact cancelled interrupt
  | abandon => rfl
  | deliver d => exact deliver_of_final hf d

private theorem section_cases (h : Section id r b e r' b') :
    (r'.outcome = r.outcome ∧ b' = b) ∨
      ∃ d, e = .delivered d ∧ b = true ∧ r' = Slot.Supply.deliver id d r ∧ b' = false := by
  have cancelled : ∀ interrupt, (r.cancel interrupt).2.outcome = r.outcome := by
    intro interrupt
    rcases r.cancel_cases interrupt with ⟨-, hc⟩ | hc <;> rw [hc]
  cases h with
  | look => exact .inl ⟨by rw [slot_examine, examine_slot], rfl⟩
  | expire => exact .inl ⟨cancelled true, rfl⟩
  | cancel interrupt => exact .inl ⟨cancelled interrupt, rfl⟩
  | abandon => exact .inl ⟨rfl, rfl⟩
  | deliver d => exact .inr ⟨d, rfl, rfl, rfl, rfl⟩

private theorem section_of_assigned (h : Section id r b e r' b') (hc : Coherent r b)
    (ho : r.outcome.isSome) : r'.outcome = r.outcome := by
  rcases section_cases h with ⟨hkept, -⟩ | ⟨d, -, rfl, -⟩
  · exact hkept
  · cases hc <;> cases ho

private theorem found_of_delivered (hc : Coherent r false) (late : Bool) :
    (r.examine id late).1 = .settled (r.outcome.getD (.error (.operationCancelled id))) := by
  cases hc <;> rfl

private theorem found_of_interrupted (h : r.phase = .cancelled true) (late : Bool) :
    (r.examine id late).1 = .settled (.error (.operationCancelled id)) := by
  unfold examine
  rw [h]

/-- What is delivered is assigned, unless the reply is interrupted. -/
private theorem deliver_coherent (hc : Coherent r true) (d : Delivery α) :
    (Slot.Supply.deliver id d r).outcome.getD (.error (.operationCancelled id)) = d.found id r := by
  cases hc with
  | pending => cases d <;> rfl
  | cancelled i => cases i <;> cases d <;> rfl

private theorem complete_coherent (hc : Coherent r true) (o : Outcome α) :
    (r.complete o).1 = true ↔ (r.complete o).2.outcome = some o := by
  cases hc with
  | pending => exact ⟨fun _ => rfl, fun _ => rfl⟩
  | cancelled i => cases i <;> simp [complete]

private theorem assigned_cases (h : Section id r b e r' b') {o : Outcome α} (ho : r'.outcome = some o) :
    r.outcome = some o ∨ e = .delivered (.complete o) ∨ o = .error .connectionClosed ∨
      o = .error (.operationCancelled id) := by
  rcases section_cases h with ⟨hkept, -⟩ | ⟨d, rfl, -, rfl, -⟩
  · exact .inl (hkept ▸ ho)
  · cases d with
    | complete o' =>
      rw [deliver_complete, complete] at ho
      split at ho
      · exact .inr (.inl (by rw [Option.some_inj.mp ho]))
      · exact .inr (.inl (by rw [Option.some_inj.mp ho]))
      · exact .inl ho
    | forsake =>
      rw [deliver_forsake, forsake] at ho
      split at ho
      · exact .inr (.inr (.inl (Option.some_inj.mp ho).symm))
      · exact .inr (.inr (.inr (Option.some_inj.mp ho).symm))
      · exact .inl ho

private theorem settled_cases (hc : Coherent r b) {late : Bool} {o : Outcome α}
    (h : (r.examine id late).1 = .settled o) :
    r.outcome = some o ∨ o = .error (.operationCancelled id) := by
  cases hc with
  | pending => cases late <;> cases h
  | cancelled i => cases i <;> cases late <;> cases h <;> exact .inr rfl
  | completed o' => cases h; exact .inl rfl
  | late o' => cases h; exact .inl rfl
  | interrupted => cases h; exact .inr rfl

variable {es : List (Moment (Reply α) α (Delivery α))} {g : Gathering (Reply α) α}

structure SingleAssignment (id : MessageId) (es : List (Moment (Reply α) α (Delivery α)))
    (g : Gathering (Reply α) α) : Prop extends Slot.Orderly id es g where
  /-- A reply that is not pending never is again. -/
  leftOnce : es.Pairwise fun x y => x.after.phase ≠ .pending → y.before.phase ≠ .pending
  /-- An outcome that has been assigned stays. -/
  assignedOnce : es.Pairwise fun x y => x.after.outcome ≠ x.before.outcome →
    y.before.outcome = x.after.outcome ∧ y.after.outcome = x.after.outcome
  /-- An outcome is taken if, and only if, it is the one that is assigned. -/
  taken : ∀ x ∈ es, ∀ o, x.event = .delivered (.complete o) →
    ((x.before.complete o).1 = true ↔ x.after.outcome = some o)
  /-- Who looks after the delivery finds what was delivered, or the cancellation if it was not
  taken. -/
  delivered : es.Pairwise fun x y => ∀ d, x.event = .delivered d →
    ∀ i f, y.event = .looked i f → f = .settled (d.found id x.before)
  /-- After an interruption nothing is taken, and all that is found is the cancellation. -/
  interrupted : es.Pairwise fun x y => x.event.interrupts = true →
    (∀ i f, y.event = .looked i f → f = .settled (.error (.operationCancelled id))) ∧
      ∀ o, y.event = .delivered (.complete o) → (y.before.complete o).1 = false
  notWonAfterwards : es.Pairwise fun x y => x.after.phase = .completed → y.event.wins = false
  /-- The timeout is returned to one caller only, whose time is over, unless it has been delivered
  as the outcome. -/
  timeout : (∀ x ∈ es, x.event ≠ .delivered (.complete (.error (.responseTimeout id)))) →
    ∀ x ∈ es, ∀ i, x.event.returns? id i = some (.error (.responseTimeout id)) →
      x.event = .expired i true ∧
        ∀ y ∈ es, ∀ j, y.event.returns? id j = some (.error (.responseTimeout id)) → j = i
  /-- A caller whose time is over has not found an outcome that was there. -/
  notFound : ∀ x ∈ es, ∀ i, x.event = .expired i true →
    ∀ y ∈ es, ∀ f, y.event = .looked i f → y.before.outcome = none

section Runs

variable (h : Run id ({} : Reply α) es g)
include h

private theorem run_coherent : Coherent g.slot g.hasSupplier :=
  h.invariant (I := Coherent) .pending fun hs hc => hc.toSection hs

private theorem run_outcome {o : Outcome α} (ho : g.slot.outcome = some o) :
    (∃ x ∈ es, x.event = .delivered (.complete o)) ∨ o = .error .connectionClosed ∨
      o = .error (.operationCancelled id) := by
  induction h with
  | start => cases ho
  | @acts es e g g' _ hacts ih =>
    rcases assigned_cases hacts.toSection ho with ho | rfl | hclosed
    · exact (ih ho).imp_left fun ⟨x, hx, hd⟩ => ⟨x, List.mem_append_left _ hx, hd⟩
    · exact .inl ⟨_, List.mem_append_right _ (List.mem_singleton.mpr rfl), rfl⟩
    · exact .inr hclosed
  | meanwhile _ hm ih => exact ih (hm.keeps.1 ▸ ho)

private theorem run_forall {P : Moment (Reply α) α (Delivery α) → Prop}
    (hall : ∀ {x : Moment (Reply α) α (Delivery α)} {b b'},
      Section id x.before b x.event x.after b' → Coherent x.before b → P x) : ∀ x ∈ es, P x :=
  h.forall_mem (I := Coherent) .pending (fun hs hc => hc.toSection hs) hall

/-- A section that has left its mark bears on all later ones, for marks that no section removes. -/
private theorem run_pairwise {M : Moment (Reply α) α (Delivery α) → Reply α → Bool → Prop}
    {R : Moment (Reply α) α (Delivery α) → Moment (Reply α) α (Delivery α) → Prop}
    (leaves : ∀ {x : Moment (Reply α) α (Delivery α)} {b b'},
      Section id x.before b x.event x.after b' → Coherent x.before b → M x x.after b')
    (stays : ∀ {x : Moment (Reply α) α (Delivery α)} {r b} {e : Event α (Delivery α)} {r' b'},
      Section id r b e r' b' → Coherent r b → M x r b → M x r' b')
    (bears : ∀ {x y : Moment (Reply α) α (Delivery α)} {b b'},
      Section id y.before b y.event y.after b' → Coherent y.before b → M x y.before b → R x y) :
    es.Pairwise R :=
  h.pairwise (I := Coherent) .pending (fun hs hc => hc.toSection hs) leaves stays bears

private theorem run_leftOnce :
    es.Pairwise fun x y => x.after.phase ≠ .pending → y.before.phase ≠ .pending :=
  run_pairwise h (M := fun x r _ => x.after.phase ≠ .pending → r.phase ≠ .pending)
    (fun _ _ hp => hp)
    (fun hs _ hmark hp hp' => hmark hp (hs.pending_of_pending hp'))
    (fun _ _ hmark => hmark)

private theorem run_assignedOnce : es.Pairwise fun x y => x.after.outcome ≠ x.before.outcome →
    y.before.outcome = x.after.outcome ∧ y.after.outcome = x.after.outcome := by
  refine run_pairwise h (M := fun x r _ => x.after.outcome ≠ x.before.outcome →
    r.outcome = x.after.outcome ∧ r.outcome.isSome) ?_ ?_ ?_
  · intro x b b' hs hc hne
    refine ⟨rfl, Option.isSome_iff_ne_none.mpr fun hnone => hne ?_⟩
    rcases section_cases hs with ⟨hkept, -⟩ | ⟨d, -, rfl, hd, -⟩
    · exact hkept
    · rw [hnone]
      generalize x.before = r at hc
      cases hc <;> rfl
  · intro x r b e r' b' hs hc hmark hne
    obtain ⟨heq, hsome⟩ := hmark hne
    have hkept := section_of_assigned hs hc hsome
    exact ⟨hkept.trans heq, hkept ▸ hsome⟩
  · intro x y b b' hs hc hmark hne
    obtain ⟨heq, hsome⟩ := hmark hne
    exact ⟨heq, (section_of_assigned hs hc hsome).trans heq⟩

private theorem run_taken : ∀ x ∈ es, ∀ o, x.event = .delivered (.complete o) →
    ((x.before.complete o).1 = true ↔ x.after.outcome = some o) := by
  refine run_forall h fun {x b b'} hs hc o he => ?_
  rw [he] at hs
  obtain ⟨rfl, hd, -⟩ := hs.of_delivered
  rw [← hd]
  exact complete_coherent hc o

private theorem run_delivered : es.Pairwise fun x y => ∀ d, x.event = .delivered d →
    ∀ i f, y.event = .looked i f → f = .settled (d.found id x.before) := by
  refine run_pairwise h (M := fun x r b => ∀ d, x.event = .delivered d →
    b = false ∧ r.outcome.getD (.error (.operationCancelled id)) = d.found id x.before) ?_ ?_ ?_
  · intro x b b' hs hc d he
    rw [he] at hs
    obtain ⟨rfl, hd, rfl⟩ := hs.of_delivered
    rw [← hd]
    exact ⟨rfl, deliver_coherent hc d⟩
  · intro x r b e r' b' hs hc hmark d he
    obtain ⟨rfl, hfound⟩ := hmark d he
    rcases section_cases hs with ⟨hkept, rfl⟩ | ⟨-, -, hsupplier, -⟩
    · exact ⟨rfl, hkept ▸ hfound⟩
    · cases hsupplier
  · intro x y b b' hs hc hmark d he i f hf
    obtain ⟨rfl, hfound⟩ := hmark d he
    rw [hf] at hs
    obtain ⟨late, rfl, -⟩ := hs.of_looked
    rw [← hfound]
    exact found_of_delivered hc late

private theorem run_interrupted : es.Pairwise fun x y => x.event.interrupts = true →
    (∀ i f, y.event = .looked i f → f = .settled (.error (.operationCancelled id))) ∧
      ∀ o, y.event = .delivered (.complete o) → (y.before.complete o).1 = false := by
  refine run_pairwise h
    (M := fun x r _ => x.event.interrupts = true → r.phase = .cancelled true) ?_ ?_ ?_
  · exact fun hs _ => hs.phase_of_interrupts
  · intro x r b e r' b' hs _ hmark hx
    rw [section_of_final hs (.inr (hmark hx))]
    exact hmark hx
  · intro x y b b' hs _ hmark hx
    constructor
    · intro i f hf
      rw [hf] at hs
      obtain ⟨late, rfl, -⟩ := hs.of_looked
      exact found_of_interrupted (hmark hx) late
    · intro o _
      simp [complete, hmark hx]

private theorem run_notWon :
    es.Pairwise fun x y => x.after.phase = .completed → y.event.wins = false := by
  refine run_pairwise h
    (M := fun x r _ => x.after.phase = .completed → r.phase = .completed) ?_ ?_ ?_
  · exact fun _ _ hp => hp
  · intro x r b e r' b' hs _ hmark hx
    rw [section_of_final hs (.inl (hmark hx))]
    exact hmark hx
  · intro x y b b' hs _ hmark hx
    refine Bool.eq_false_iff.mpr fun hw => ?_
    have hp := (hs.phase_of_wins hw).1
    rw [slot_phase, hmark hx] at hp
    cases hp

/-- Who finds the timeout without its own time being over finds what has been delivered. -/
private theorem run_timeout : ∀ x ∈ es, ∀ i,
    x.event.returns? id i = some (.error (.responseTimeout id)) →
      x.event = .expired i true ∨
        ∃ y ∈ es, y.event = .delivered (.complete (.error (.responseTimeout id))) := by
  intro x hx i hr
  rcases Event.returns_cases hr with he | ⟨he, -⟩
  · obtain ⟨es₁, es₂, rfl⟩ := List.append_of_mem hx
    have hassigned : ∃ y ∈ es₁,
        y.event = .delivered (.complete (.error (.responseTimeout id))) := by
      have hp : es₁ ++ [x] <+: es₁ ++ x :: es₂ := ⟨es₂, by simp⟩
      refine h.forall_prefix (P := fun es₁ x => x.event = .looked i
        (.settled (.error (.responseTimeout id))) → ∃ y ∈ es₁, y.event = .delivered
          (.complete (.error (.responseTimeout id)))) ?_ hp he
      intro es g x b b' h hslot hsupplier hs he
      rw [he, ← hslot, ← hsupplier] at hs
      obtain ⟨late, hf, -⟩ := hs.of_looked
      rcases settled_cases (run_coherent h) hf with ho | ho
      · rcases run_outcome h ho with hd | ho | ho
        · exact hd
        · cases ho
        · cases ho
      · cases ho
    obtain ⟨y, hy, hd⟩ := hassigned
    exact .inr ⟨y, List.mem_append_left _ hy, hd⟩
  · exact .inl he

private theorem run_found : ∀ x ∈ es, ∀ i f, x.event = .looked i f →
    x.before.outcome = none ∨ ∃ o, f = .settled o := by
  refine run_forall h fun {x b b'} hs hc i f he => ?_
  rw [he] at hs
  obtain ⟨late, rfl, -⟩ := hs.of_looked
  generalize x.before = r at hc
  cases hc with
  | pending | cancelled | interrupted => exact .inl rfl
  | completed o | late o => exact .inr ⟨o, rfl⟩

end Runs

/-- Whatever those at a reply do, and in whatever order, it is assigned once. -/
theorem run_assigned (h : Run id ({} : Reply α) es g) : SingleAssignment id es g where
  toOrderly := h.orderly
  leftOnce := run_leftOnce h
  assignedOnce := run_assignedOnce h
  taken := run_taken h
  delivered := run_delivered h
  interrupted := run_interrupted h
  notWonAfterwards := run_notWon h
  timeout hnone x hx i hi := by
    have own : ∀ y ∈ es, ∀ j, y.event.returns? id j = some (.error (.responseTimeout id)) →
        y.event = .expired j true := by
      intro y hy j hj
      rcases run_timeout h y hy j hj with he | ⟨z, hz, hd⟩
      · exact he
      · exact absurd hd (hnone z hz)
    exact ⟨own x hx i hi,
      fun y hy j hj => h.orderly.expired_once hy hx (own y hy j hj) (own x hx i hi)⟩
  notFound x hx i hi y hy f hf := by
    rcases run_found h y hy i f hf with hnone | ⟨o, ho⟩
    · exact hnone
    · exact absurd ho (h.orderly.nothing_found hx hi hy hf o)

/-- A caller's time is over before the outcome comes, which is not taken then; another caller, who
has all the time, is told that the operation was given up. -/
def timedOut : List (Moment (Reply Unit) Unit (Delivery Unit)) :=
  [⟨5, {}, .looked 0 .lapsed, {}⟩,
    ⟨5, {}, .expired 0 true, { phase := .cancelled true }⟩,
    ⟨5, { phase := .cancelled true }, .abandoned, { phase := .cancelled true }⟩,
    ⟨5, { phase := .cancelled true }, .delivered (.complete (.ok ())), { phase := .cancelled true }⟩,
    ⟨5, { phase := .cancelled true }, .looked 1 (.settled (.error (.operationCancelled 7))),
      { phase := .cancelled true }⟩]

def atDeadline (slot : Reply Unit) (first second : Slot.Position Unit) (owed : Nat)
    (hasSupplier : Bool) : Gathering (Reply Unit) Unit where
  slot := slot
  line := none
  now := 5
  waiters := [{ deadline := some 5, position := first }, { deadline := none, position := second }]
  hasSupplier := hasSupplier
  owed := owed

def bothTold : Gathering (Reply Unit) Unit :=
  atDeadline { phase := .cancelled true } (.finished (.error (.responseTimeout 7)))
    (.finished (.error (.operationCancelled 7))) 0 false

private theorem run_timedOut : Run 7 ({} : Reply Unit) timedOut bothTold := by
  let told : Slot.Position Unit := .finished (.error (.responseTimeout 7))
  have waiting : Run 7 {} [] (atDeadline {} .looking .looking 0 true) :=
    (((Run.start none 0).meanwhile (.wait _ (some 5))).meanwhile (.wait _ none)).meanwhile
      (.pass _ 5 (by decide))
  have lapsed : Run 7 {} (timedOut.take 1) (atDeadline {} .cancelling .looking 0 true) :=
    waiting.acts (.look _ 0 _ rfl rfl)
  have expired : Run 7 {} (timedOut.take 2)
      (atDeadline { phase := .cancelled true } told .looking 1 true) :=
    lapsed.acts (.expire _ 0 _ rfl rfl)
  have abandoned : Run 7 {} (timedOut.take 3)
      (atDeadline { phase := .cancelled true } told .looking 0 true) :=
    expired.acts (.abandon _ 0 rfl)
  have delivered : Run 7 {} (timedOut.take 4)
      (atDeadline { phase := .cancelled true } told .looking 0 false) :=
    abandoned.acts (.deliver _ (Delivery.complete (.ok ())) rfl)
  exact delivered.acts (.look _ 1 _ rfl rfl)

theorem timedOut_assigned :
    Run 7 ({} : Reply Unit) timedOut bothTold ∧ SingleAssignment 7 timedOut bothTold :=
  ⟨run_timedOut, run_assigned run_timedOut⟩

end DirectoryClient.Reply
