import DirectoryClient.Proofs.Slot.Cancellation
import DirectoryClient.Proofs.Slot.Steps

/-! A search hands on what it accepts, in order and without loss, until it is interrupted. -/
namespace DirectoryClient.Stream

open Slot (Gathering Event Section Run Phased Finding)

/-- What comes from whoever receives the responses: one more of them, a failure, or the news that no
more will come. -/
inductive Delivery where
  | push (m : Message)
  | fail (e : DirectoryError)
  | forsake

instance : Slot.Supply Stream Delivery where
  deliver id
    | .push m, s => (s.push m).2
    | .fail e, s => s.fail e
    | .forsake, s => s.forsake id
  isLast
    | .push _ => false
    | .fail _ | .forsake => true

instance : Phased Stream where
  phase := phase

@[simp] theorem deliver_push (id : MessageId) (m : Message) (s : Stream) :
    Slot.Supply.deliver id (Delivery.push m) s = (s.push m).2 := rfl

@[simp] theorem deliver_fail (id : MessageId) (e : DirectoryError) (s : Stream) :
    Slot.Supply.deliver id (Delivery.fail e) s = s.fail e := rfl

@[simp] theorem deliver_forsake (id : MessageId) (s : Stream) :
    Slot.Supply.deliver id Delivery.forsake s = s.forsake id := rfl

abbrev Moment := Slot.Moment Stream Message Delivery

def accepts? (x : Moment) : Option Message :=
  match x.event with
  | .delivered (.push m) => if (x.before.push m).1 then some m else none
  | _ => none

def reads? (x : Moment) : Option Message :=
  match x.event with
  | .looked _ (.settled (.ok m)) => some m
  | _ => none

def accepted (es : List Moment) : List Message := es.filterMap accepts?

def read (es : List Moment) : List Message := es.filterMap reads?

private theorem accepted_concat (es : List Moment) (x : Moment) :
    accepted (es ++ [x]) = accepted es ++ (accepts? x).toList := by
  rw [accepted, List.filterMap_append, List.filterMap_cons, List.filterMap_nil]
  cases accepts? x <;> rfl

theorem read_concat (es : List Moment) (x : Moment) :
    read (es ++ [x]) = read es ++ (reads? x).toList := by
  rw [read, List.filterMap_append, List.filterMap_cons, List.filterMap_nil]
  cases reads? x <;> rfl

inductive Failing (id : MessageId) (es : List Moment) : DirectoryError → Prop
  | interrupted : (∃ x ∈ es, x.event.interrupts = true) → Failing id es (.operationCancelled id)
  /-- All has been read, the last response included. -/
  | ended : read es = accepted es → (∃ m ∈ read es, m.kind = .done) → Failing id es .endOfStream
  /-- All has been read, and then there is the failure that was delivered. -/
  | failed (e : DirectoryError) : read es = accepted es →
    (∃ x ∈ es, ∃ d, x.event = .delivered d ∧ x.before.failure = none ∧ x.after.failure = some e) →
    Failing id es e
  /-- All has been read, and no more has come in time after a cancellation. -/
  | late : read es = accepted es → (∃ x ∈ es, x.event = .cancelled false true) →
    Failing id es (.operationCancelled id)

structure Flow (es : List Moment) (s : Stream) : Prop where
  inOrder : s.phase ≠ .cancelled true → accepted es = read es ++ s.queue
  readFirst : read es <+: accepted es
  /-- The last response that is accepted completes the search. -/
  lastDone : ∀ ms₁ m ms₂, accepted es = ms₁ ++ m :: ms₂ → m.kind = .done →
    ms₂ = [] ∧ s.phase = .completed
  completed : s.phase = .completed → ∃ m ∈ accepted es, m.kind = .done
  failed : ∀ e, s.failure = some e → ∃ x ∈ es, ∃ d, x.event = .delivered d ∧
    x.before.failure = none ∧ x.after.failure = some e
  interrupted : s.phase = .cancelled true → ∃ x ∈ es, x.event.interrupts = true
  cancelled : s.phase = .cancelled false → ∃ x ∈ es, x.event = .cancelled false true

private theorem earlier {es : List Moment} {x : Moment} {p : Moment → Prop} (h : ∃ y ∈ es, p y) :
    ∃ y ∈ es ++ [x], p y :=
  h.imp fun _ hy => ⟨List.mem_append_left _ hy.1, hy.2⟩

namespace Flow

variable {es : List Moment} {x : Moment}

private theorem nil : Flow [] {} where
  inOrder _ := rfl
  readFirst := List.prefix_refl _
  lastDone ms₁ m ms₂ h := by simp [accepted] at h
  completed := nofun
  failed := nofun
  interrupted := nofun
  cancelled := nofun

/-- A section that neither accepts nor reads and leaves queue and phase. -/
private theorem quiet (h : Flow es x.before) (ha : accepts? x = none) (hr : reads? x = none)
    (hq : x.after.queue = x.before.queue) (hp : x.after.phase = x.before.phase)
    (hf : ∀ e, x.after.failure = some e → x.before.failure = some e ∨
      x.before.failure = none ∧ ∃ d, x.event = .delivered d) :
    Flow (es ++ [x]) x.after := by
  have hacc : accepted (es ++ [x]) = accepted es := by simp [accepted_concat, ha]
  have hread : read (es ++ [x]) = read es := by simp [read_concat, hr]
  refine ⟨?_, ?_, ?_, ?_, ?_, ?_, ?_⟩
  · rw [hacc, hread, hq, hp]; exact h.inOrder
  · rw [hacc, hread]; exact h.readFirst
  · rw [hacc, hp]; exact h.lastDone
  · rw [hacc, hp]; exact h.completed
  · intro e he
    rcases hf e he with hbefore | ⟨hnone, d, hd⟩
    · exact earlier (h.failed e hbefore)
    · exact ⟨x, by simp, d, hd, hnone, he⟩
  · rw [hp]
    exact fun hi => earlier (h.interrupted hi)
  · rw [hp]
    exact fun hc => earlier (h.cancelled hc)

/-- A caller who looks returns with the first of what is queued, or with nothing. -/
private theorem look (h : Flow es x.before) {id : MessageId} {late : Bool} {i : Nat}
    (he : x.event = .looked i (x.before.examine id late).1)
    (hx : x.after = (x.before.examine id late).2) : Flow (es ++ [x]) x.after := by
  have ha : accepts? x = none := by simp [accepts?, he]
  rcases x.before.examine_cases id late with ⟨m, ms, hphase, hqueue, heq⟩ | ⟨hsame, hnone⟩
  · rw [heq] at he hx
    have hacc : accepted (es ++ [x]) = accepted es := by simp [accepted_concat, ha]
    have hread : read (es ++ [x]) = read es ++ [m] := by simp [read_concat, reads?, he]
    have hnext : accepted es = read es ++ [m] ++ ms := by
      rw [h.inOrder hphase, hqueue, List.append_assoc]
      rfl
    rw [hx]
    refine ⟨?_, ?_, ?_, ?_, fun e hf => earlier (h.failed e hf), fun hi => earlier (h.interrupted hi),
      fun hc => earlier (h.cancelled hc)⟩
    · exact fun _ => by rw [hacc, hread, hnext]
    · rw [hacc, hread, hnext]; exact List.prefix_append _ _
    · rw [hacc]; exact h.lastDone
    · rw [hacc]; exact h.completed
  · refine h.quiet ha ?_ (by rw [hx, hsame]) (by rw [hx, hsame])
      fun e he => .inl (by rwa [hx, hsame] at he)
    rw [reads?, he]
    split
    · next heq => exact absurd (Event.looked.inj heq).2 (hnone _)
    · rfl

private theorem cancel (h : Flow es x.before) (interrupt : Bool) (ha : accepts? x = none)
    (hr : reads? x = none) (hx : x.after = (x.before.cancel interrupt).2)
    (hi : (x.before.cancel interrupt).1 = true → x.event.interrupts = interrupt)
    (hc : (x.before.cancel interrupt).1 = true → interrupt = false →
      x.event = .cancelled false true) :
    Flow (es ++ [x]) x.after := by
  rcases cancel_cases (s := x.before) interrupt with ⟨hphase, -, heq⟩ | hsame
  · rw [heq] at hx hi hc
    have hacc : accepted (es ++ [x]) = accepted es := by simp [accepted_concat, ha]
    have hread : read (es ++ [x]) = read es := by simp [read_concat, hr]
    have hopen : ∀ m ∈ accepted es, m.kind ≠ .done := by
      intro m hm hdone
      obtain ⟨ms₁, ms₂, hsplit⟩ := List.append_of_mem hm
      have hcompleted := (h.lastDone ms₁ m ms₂ hsplit hdone).2
      rw [hphase] at hcompleted
      cases hcompleted
    rw [hx]
    refine ⟨?_, ?_, ?_, nofun, ?_, ?_, ?_⟩
    · intro hne
      rw [hacc, hread, h.inOrder (by simp [hphase])]
      cases interrupt with
      | true => exact absurd rfl hne
      | false => rfl
    · rw [hacc, hread]; exact h.readFirst
    · intro ms₁ m ms₂ hsplit hdone
      rw [hacc] at hsplit
      exact absurd hdone (hopen m (by simp [hsplit]))
    · exact fun e hf => earlier (h.failed e hf)
    · intro hp
      cases hp
      exact ⟨x, by simp, hi rfl⟩
    · intro hp
      cases hp
      exact ⟨x, by simp, hc rfl rfl⟩
  · rw [hsame] at hx
    exact h.quiet ha hr (by rw [hx]) (by rw [hx]) fun e he => .inl (by rwa [hx] at he)

/-- A response is queued after all others, or not accepted. -/
theorem push (h : Flow es x.before) {m : Message} (he : x.event = .delivered (.push m))
    (hx : x.after = (x.before.push m).2) : Flow (es ++ [x]) x.after := by
  have hr : reads? x = none := by simp [reads?, he]
  by_cases hfinal : x.before.phase = .completed ∨ x.before.phase = .cancelled true
  · have hsame := push_of_final m hfinal
    rw [hsame] at hx
    exact h.quiet (by simp [accepts?, he, hsame]) hr (by rw [hx]) (by rw [hx])
      fun e he => .inl (by rwa [hx] at he)
  · obtain ⟨hnot, hopen⟩ := not_or.mp hfinal
    have hpush := push_of_open m hnot hopen
    have hacc : accepted (es ++ [x]) = accepted es ++ [m] := by
      simp [accepted_concat, accepts?, he, hpush]
    have hread : read (es ++ [x]) = read es := by simp [read_concat, hr]
    rw [hpush] at hx
    have hphase : ∀ i, x.after.phase = .cancelled i → x.before.phase = .cancelled i := by
      intro i hi
      rw [hx] at hi
      by_cases hdone : m.kind = .done
      · simp [hdone] at hi
      · simpa [hdone] using hi
    refine ⟨?_, ?_, ?_, ?_, ?_, fun hi => earlier (h.interrupted (hphase _ hi)),
      fun hc => earlier (h.cancelled (hphase _ hc))⟩
    · rw [hacc, hread, hx, h.inOrder hopen, List.append_assoc]
      exact fun _ => rfl
    · rw [hacc, hread]
      exact h.readFirst.trans (List.prefix_append _ _)
    · intro ms₁ m' ms₂ hsplit hdone
      rw [hacc] at hsplit
      rcases List.eq_nil_or_concat ms₂ with rfl | ⟨ms₃, m'', rfl⟩
      · obtain ⟨-, hm⟩ := List.append_inj' hsplit rfl
        obtain rfl := List.singleton_inj.mp hm
        exact ⟨rfl, by rw [hx]; exact if_pos hdone⟩
      · have hlonger : accepted es ++ [m] = ms₁ ++ m' :: ms₃ ++ [m''] := hsplit.trans (by simp)
        have hbefore := (List.append_inj' hlonger rfl).1
        exact absurd (h.lastDone ms₁ m' ms₃ hbefore hdone).2 hnot
    · intro hcompleted
      rw [hx] at hcompleted
      refine ⟨m, by simp [hacc], ?_⟩
      by_cases hdone : m.kind = .done
      · exact hdone
      · exact absurd (by simpa [hdone] using hcompleted) hnot
    · rw [hx]
      exact fun e hf => earlier (h.failed e hf)

private theorem fails (h : Flow es x.before) {d : Delivery} (he : x.event = .delivered d)
    (ha : accepts? x = none) (hx : x.after = x.before ∨
      x.before.failure = none ∧ ∃ e, x.after = { x.before with failure := some e }) :
    Flow (es ++ [x]) x.after := by
  have hr : reads? x = none := by simp [reads?, he]
  rcases hx with hx | ⟨hnone, e, hx⟩
  · exact h.quiet ha hr (by rw [hx]) (by rw [hx]) fun e he => .inl (by rwa [hx] at he)
  · exact h.quiet ha hr (by rw [hx]) (by rw [hx]) fun _ _ => .inr ⟨hnone, d, he⟩

end Flow

/-- Whoever makes a section, what is in the slot goes by what has happened at it. -/
private theorem Flow.concat {id : MessageId} {es : List Moment} {x : Moment} {b b' : Bool}
    (h : Flow es x.before) (hs : Section id x.before b x.event x.after b') :
    Flow (es ++ [x]) x.after := by
  obtain ⟨t, s, e, s'⟩ := x
  change Section id s b e s' b' at hs
  cases hs with
  | look i late => exact h.look rfl rfl
  | expire i => exact h.cancel true rfl rfl rfl (fun hwon => hwon) nofun
  | cancel interrupt =>
    refine h.cancel interrupt rfl rfl rfl (fun hwon => ?_) fun hwon hi => ?_
    · exact (congrArg (interrupt && ·) hwon).trans (Bool.and_true _)
    · rw [hi] at hwon
      rw [hi, ← hwon]
      rfl
  | deliver d =>
    cases d with
    | push m => exact h.push rfl rfl
    | fail e => exact h.fails rfl rfl ((fail_cases e).imp_right fun h => ⟨h.1, e, h.2⟩)
    | forsake => exact h.fails rfl rfl (forsake_cases id)
  | abandon => exact h.quiet rfl rfl rfl rfl fun e he => .inl he

instance : Slot.Lawful Stream Message Delivery where
  phase_examine id late s := by
    rcases examine_cases (s := s) id late with ⟨m, ms, -, -, heq⟩ | ⟨hsame, -⟩
    · exact congrArg (fun p => p.2.phase) heq
    · exact congrArg phase hsame
  late_of_lapsed {id late s} h := by
    change (s.examine id late).1 = .lapsed at h
    cases late with
    | true => rfl
    | false =>
      unfold examine at h
      split at h
      · cases h
      · split at h
        · cases h
        · split at h
          · cases h
          · split at h <;> cases h
  cancel_cases interrupt s := by
    rcases cancel_cases (s := s) interrupt with ⟨hp, -, heq⟩ | hsame
    · exact .inl ⟨hp, congrArg Prod.fst heq, congrArg (fun p => p.2.phase) heq⟩
    · exact .inr hsame
  pending_of_deliver {id d s} h := by
    change s.phase = .pending
    change (Slot.Supply.deliver id d s).phase = .pending at h
    cases d with
    | push m =>
      by_cases hf : s.phase = .completed ∨ s.phase = .cancelled true
      · rwa [deliver_push, push_of_final m hf] at h
      · obtain ⟨hnot, hopen⟩ := not_or.mp hf
        rw [deliver_push, push_of_open m hnot hopen] at h
        by_cases hdone : m.kind = .done
        · simp [hdone] at h
        · simpa [hdone] using h
    | fail e => rwa [deliver_fail, fail_phase] at h
    | forsake => rwa [deliver_forsake, forsake_phase] at h

section Sections

variable {id : MessageId} {s s' : Stream} {b b' : Bool} {e : Event Message Delivery}

/-- A search that is completed or interrupted stays so. -/
theorem phase_of_final (h : Section id s b e s' b')
    (hf : s.phase = .completed ∨ s.phase = .cancelled true) : s'.phase = s.phase := by
  have cancelled : ∀ interrupt, (s.cancel interrupt).2.phase = s.phase := by
    intro interrupt
    rcases cancel_cases (s := s) interrupt with ⟨hp, -, -⟩ | hsame
    · simp [hp] at hf
    · rw [hsame]
  cases h with
  | look i late => exact Slot.Lawful.phase_examine id late s
  | expire => exact cancelled true
  | cancel interrupt => exact cancelled interrupt
  | deliver d =>
    cases d with
    | push m => rw [deliver_push, push_of_final m hf]
    | fail e => rw [deliver_fail, fail_phase]
    | forsake => rw [deliver_forsake, forsake_phase]
  | abandon => rfl

/-- A failure stays. -/
theorem failure_of_failed (h : Section id s b e s' b') (hf : s.failure.isSome) :
    s'.failure = s.failure := by
  have cancelled : ∀ interrupt, (s.cancel interrupt).2.failure = s.failure := by
    intro interrupt
    rcases cancel_cases (s := s) interrupt with ⟨-, -, h⟩ | h <;> rw [h]
  have hsome : s.failure ≠ none := Option.isSome_iff_ne_none.mp hf
  cases h with
  | look i late =>
    rcases examine_cases (s := s) id late with ⟨m, ms, -, -, h⟩ | ⟨h, -⟩
    · exact congrArg (fun p => p.2.failure) h
    · exact congrArg failure h
  | expire => exact cancelled true
  | cancel interrupt => exact cancelled interrupt
  | deliver d =>
    cases d with
    | push m =>
      by_cases hfinal : s.phase = .completed ∨ s.phase = .cancelled true
      · rw [deliver_push, push_of_final m hfinal]
      · obtain ⟨hnot, hopen⟩ := not_or.mp hfinal
        rw [deliver_push, push_of_open m hnot hopen]
    | fail e => rw [deliver_fail, (fail_cases e).resolve_right fun h => hsome h.1]
    | forsake => rw [deliver_forsake, (forsake_cases id).resolve_right fun h => hsome h.1]
  | abandon => rfl

private theorem goes_of_wins (h : Section id s b e s' b') (hw : e.wins = true) :
    s.phase = .pending ∧ s.failure = none := by
  have won : ∀ interrupt, (s.cancel interrupt).1 = true →
      s.phase = .pending ∧ s.failure = none := by
    intro interrupt hwon
    rcases cancel_cases (s := s) interrupt with ⟨hp, hf, -⟩ | h
    · exact ⟨hp, hf⟩
    · rw [h] at hwon
      cases hwon
  cases h with
  | expire => exact won true hw
  | cancel interrupt => exact won interrupt hw
  | look | deliver | abandon => cases hw

/-- The last response, once it is accepted, completes the search. -/
private theorem completed_of_accepts {x : Moment} (h : Section id x.before b x.event x.after b')
    {m : Message} (ha : accepts? x = some m) (hdone : m.kind = .done) :
    x.after.phase = .completed := by
  rw [accepts?] at ha
  split at ha
  · next m' he =>
    rw [he] at h
    obtain ⟨-, hafter, -⟩ := h.of_delivered
    split at ha
    · next htaken =>
      obtain rfl := Option.some_inj.mp ha
      by_cases hf : x.before.phase = .completed ∨ x.before.phase = .cancelled true
      · rw [push_of_final m' hf] at htaken
        cases htaken
      · obtain ⟨hnot, hopen⟩ := not_or.mp hf
        rw [← hafter, deliver_push, push_of_open m' hnot hopen]
        exact if_pos hdone
    · cases ha
  · cases ha

end Sections

structure Ordered (id : MessageId) (es : List Moment) (g : Gathering Stream Message) : Prop extends
    Slot.Orderly id es g where
  /-- Without an interruption, what is accepted has been read in its order, or is queued. -/
  inOrder : (∀ x ∈ es, x.event.interrupts = false) → accepted es = read es ++ g.slot.queue
  readFirst : read es <+: accepted es
  /-- Nothing is accepted after the last response. -/
  doneLast : ∀ ms₁ m ms₂, accepted es = ms₁ ++ m :: ms₂ → m.kind = .done → ms₂ = []
  failing : ∀ {es₁ : List Moment} {x : Moment}, es₁ ++ [x] <+: es →
    ∀ i e, x.event = .looked i (.settled (.error e)) → Failing id es₁ e
  /-- After an interruption nothing is accepted, and all that is found is the cancellation. -/
  interrupted : es.Pairwise fun x y => x.event.interrupts = true →
    (∀ i f, y.event = .looked i f → f = .settled (.error (.operationCancelled id))) ∧
      accepts? y = none
  notWonAfterwards : es.Pairwise fun x y =>
    (∃ m, accepts? x = some m ∧ m.kind = .done) ∨ x.after.failure.isSome → y.event.wins = false

section Runs

variable {id : MessageId} {es : List Moment} {g : Gathering Stream Message}
variable (h : Run id ({} : Stream) es g)
include h

theorem run_flow : Flow es g.slot := by
  induction h with
  | start => exact .nil
  | @acts es e g g' _ hacts ih => exact ih.concat (x := ⟨g.now, g.slot, e, g'.slot⟩) hacts.toSection
  | meanwhile _ hm ih => exact hm.keeps.1 ▸ ih

private theorem run_failing {es₁ : List Moment} {x : Moment} (hp : es₁ ++ [x] <+: es) (i : Nat)
    (e : DirectoryError) : x.event = .looked i (.settled (.error e)) → Failing id es₁ e := by
  refine h.forall_prefix
    (P := fun es₁ x => x.event = .looked i (.settled (.error e)) → Failing id es₁ e) ?_ hp
  intro es g x b b' h hslot _ hs he
  have hflow := run_flow h
  rw [he, ← hslot] at hs
  obtain ⟨late, hf, -⟩ := hs.of_looked
  rcases examine_error hf with ⟨hi, rfl⟩ | ⟨hopen, hqueue, hrest⟩
  · exact .interrupted (hflow.interrupted hi)
  · have hall : read es = accepted es := by rw [hflow.inOrder hopen, hqueue, List.append_nil]
    rcases hrest with ⟨hc, rfl⟩ | ⟨-, hfail⟩ | ⟨hcancelled, -, -, rfl⟩
    · exact .ended hall (hall ▸ hflow.completed hc)
    · exact .failed e hall (hflow.failed e hfail)
    · exact .late hall (hflow.cancelled hcancelled)

private theorem run_interrupted : es.Pairwise fun x y => x.event.interrupts = true →
    (∀ i f, y.event = .looked i f → f = .settled (.error (.operationCancelled id))) ∧
      accepts? y = none := by
  refine h.pairwise (I := fun _ _ => True)
    (M := fun x s _ => x.event.interrupts = true → s.phase = .cancelled true)
    trivial (fun _ _ => trivial) ?_ ?_ ?_
  · exact fun hs _ => hs.phase_of_interrupts
  · intro x s b e s' b' hs _ hmark hx
    rw [phase_of_final hs (.inr (hmark hx)), hmark hx]
  · intro x y b b' hs _ hmark hx
    constructor
    · intro i f hf
      rw [hf] at hs
      obtain ⟨late, rfl, -⟩ := hs.of_looked
      exact congrArg Prod.fst (if_pos (hmark hx))
    · rw [accepts?]
      split
      · rw [push_of_final _ (.inr (hmark hx))]
        rfl
      · rfl

private theorem run_notWon : es.Pairwise fun x y =>
    (∃ m, accepts? x = some m ∧ m.kind = .done) ∨ x.after.failure.isSome →
      y.event.wins = false := by
  refine h.pairwise (I := fun _ _ => True)
    (M := fun x s _ => (∃ m, accepts? x = some m ∧ m.kind = .done) ∨ x.after.failure.isSome →
      s.phase = .completed ∨ s.failure.isSome)
    trivial (fun _ _ => trivial) ?_ ?_ ?_
  · intro x b b' hs _ hx
    exact hx.imp_left fun ⟨m, ha, hdone⟩ => completed_of_accepts hs ha hdone
  · intro x s b e s' b' hs _ hmark hx
    rcases hmark hx with hc | hf
    · exact .inl ((phase_of_final hs (.inl hc)).trans hc)
    · exact .inr (by rwa [failure_of_failed hs hf])
  · intro x y b b' hs _ hmark hx
    refine Bool.eq_false_iff.mpr fun hw => ?_
    obtain ⟨hp, hnone⟩ := goes_of_wins hs hw
    rcases hmark hx with hc | hf
    · rw [hp] at hc
      cases hc
    · rw [hnone] at hf
      cases hf

/-- Whatever those at a search do, and in whatever order, it hands on what it accepts. -/
theorem run_ordered : Ordered id es g where
  toOrderly := h.orderly
  inOrder hnone := (run_flow h).inOrder fun hi => by
    obtain ⟨x, hx, hinterrupts⟩ := (run_flow h).interrupted hi
    rw [hnone x hx] at hinterrupts
    cases hinterrupts
  readFirst := (run_flow h).readFirst
  doneLast ms₁ m ms₂ hsplit hdone := ((run_flow h).lastDone ms₁ m ms₂ hsplit hdone).1
  failing hp i e := run_failing h hp i e
  interrupted := run_interrupted h
  notWonAfterwards := run_notWon h

end Runs

def referral : Message := { id := 3, response := .reference [], controls := [] }

def lastResponse : Message := { id := 3, response := .done { code := 0 }, controls := [] }

/-- Two responses come, a caller who has waited for the first of them and another take one each, and
a third finds the end. -/
def wholeSearch : List Moment :=
  [⟨0, {}, .looked 0 .blocked, {}⟩,
    ⟨0, {}, .delivered (.push referral), { queue := [referral] }⟩,
    ⟨0, { queue := [referral] }, .delivered (.push lastResponse),
      { phase := .completed, queue := [referral, lastResponse] }⟩,
    ⟨0, { phase := .completed, queue := [referral, lastResponse] },
      .looked 0 (.settled (.ok referral)), { phase := .completed, queue := [lastResponse] }⟩,
    ⟨0, { phase := .completed, queue := [lastResponse] },
      .looked 1 (.settled (.ok lastResponse)), { phase := .completed }⟩,
    ⟨0, { phase := .completed }, .looked 2 (.settled (.error .endOfStream)), { phase := .completed }⟩]

def threeCallers (slot : Stream) (first second third : Slot.Position Message) :
    Gathering Stream Message where
  slot := slot
  line := none
  now := 0
  waiters := [{ deadline := none, position := first }, { deadline := none, position := second },
    { deadline := none, position := third }]

def searchRead : Gathering Stream Message :=
  threeCallers { phase := .completed } (.finished (.ok referral)) (.finished (.ok lastResponse))
    (.finished (.error .endOfStream))

private theorem run_wholeSearch : Run 3 ({} : Stream) wholeSearch searchRead := by
  have waiting : Run 3 {} [] (threeCallers {} .looking .looking .looking) :=
    (((Run.start none 0).meanwhile (.wait _ none)).meanwhile (.wait _ none)).meanwhile
      (.wait _ none)
  have blocked : Run 3 {} (wholeSearch.take 1) (threeCallers {} .looking .looking .looking) :=
    waiting.acts (.look _ 0 _ rfl rfl)
  have queued : Run 3 {} (wholeSearch.take 2)
      (threeCallers { queue := [referral] } .looking .looking .looking) :=
    blocked.acts (.deliver _ (Delivery.push referral) rfl)
  have completed : Run 3 {} (wholeSearch.take 3)
      (threeCallers { phase := .completed, queue := [referral, lastResponse] }
        .looking .looking .looking) :=
    queued.acts (.deliver _ (Delivery.push lastResponse) rfl)
  have first : Run 3 {} (wholeSearch.take 4)
      (threeCallers { phase := .completed, queue := [lastResponse] }
        (.finished (.ok referral)) .looking .looking) :=
    completed.acts (.look _ 0 _ rfl rfl)
  have second : Run 3 {} (wholeSearch.take 5)
      (threeCallers { phase := .completed } (.finished (.ok referral))
        (.finished (.ok lastResponse)) .looking) :=
    first.acts (.look _ 1 _ rfl rfl)
  exact second.acts (.look _ 2 _ rfl rfl)

theorem wholeSearch_ordered :
    Run 3 ({} : Stream) wholeSearch searchRead ∧ Ordered 3 wholeSearch searchRead :=
  ⟨run_wholeSearch, run_ordered run_wholeSearch⟩

end DirectoryClient.Stream
