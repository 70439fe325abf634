import DirectoryClient.Proofs.Cursor.Steps

/-! Why a cursor is over: it has come to the last response, or has failed, or has been closed or dropped.
After that it goes on to nothing. -/
namespace DirectoryClient.Cursor

open Slot (Gathering Acts Event Section Waiter Finding)

namespace Occurrence

def isBroken : Occurrence → Bool
  | returned (.error _) _ => true
  | _ => false

def isEnd : Occurrence → Bool
  | returned (.ok false) _ | returned (.error _) _ | closed | dropped => true
  | _ => false

def isClose : Occurrence → Bool
  | closed | dropped => true
  | _ => false

inductive IsStill : Occurrence → Prop
  | delivered (x : Stream.Moment) (d : Stream.Delivery) : x.event = .delivered d → IsStill (seen x)
  | abandoned (x : Stream.Moment) : x.event = .abandoned → IsStill (seen x)
  | returned (c : Cursor) : IsStill (returned (.ok false) c)
  | refused (cause : DirectoryError) : IsStill (refused cause)
  | closed : IsStill closed
  | dropped : IsStill dropped

private theorem isEnd_of_isClose {x : Occurrence} (h : x.isClose = true) : x.isEnd = true := by
  cases x with
  | closed | dropped => rfl
  | seen | returned | refused => cases h

private theorem isEnd_of_isBroken {x : Occurrence} (h : x.isBroken = true) : x.isEnd = true := by
  cases x with
  | returned result c =>
    cases result with
    | error e => rfl
    | ok b => cases h
  | seen | refused | closed | dropped => cases h

end Occurrence

namespace Reading

variable {id : MessageId} {timeout : Option Nat} {xs ys : List Occurrence} {r r' : Reading}

theorem mem_sections {α : Type} {m : Move Cursor α} {y : Occurrence} (h : y ∈ r.sections m) :
    m.abandons = true ∧
      y = .seen ⟨r.gathering.now, r.gathering.slot, .cancelled true true, m.stream⟩ := by
  rw [sections] at h
  split at h
  · exact ⟨‹_›, List.mem_singleton.mp h⟩
  · cases h

/-- Nothing is seen of a move before its last, apart from a section. -/
theorem eq_of_prefix_move {α : Type} {m : Move Cursor α} {zs : List Occurrence} {x y : Occurrence}
    (hp : zs ++ [x] <+: r.sections m ++ [y]) (hx : ∀ u, x ≠ .seen u) : zs = r.sections m ∧ x = y := by
  rcases List.prefix_concat_iff.mp hp with heq | hp
  · obtain ⟨hzs, hlast⟩ := List.append_inj' heq rfl
    exact ⟨hzs, List.singleton_inj.mp hlast⟩
  · obtain ⟨-, hseen⟩ :=
      mem_sections (hp.subset (List.mem_append_right _ (List.mem_singleton_self x)))
    exact absurd hseen (hx _)

private theorem Stage.of_caller (h : Stage xs r) {i : Nat} (hi : r.caller = some i) :
    r.cursor.isOver = false := by
  cases h with
  | waiting _ _ _ ho | holding _ _ _ _ ho | failing _ _ _ _ ho => exact ho
  | resting hc | ended _ hc => cases hi.symm.trans hc

theorem close_isOver (c : Cursor) (s : Stream) : (c.close s).reader.isOver = true := by
  rw [close_reader]
  rfl

theorem close_abandons {c : Cursor} (s : Stream) (ho : c.isOver = true) :
    (c.close s).abandons = false := by
  rw [Cursor.close]
  split
  · next h => simp [isOver, h] at ho
  · next h => simp [isOver, h] at ho
  · rfl

/-- What a cursor reports is its end, unless it stands on a response. -/
theorem receive_isOver {c : Cursor} {s : Stream} {o : Outcome Message} {result : Outcome Bool}
    (h : (c.receive s o).result = some result) :
    result = .ok true ∨ (c.receive s o).reader.isOver = true := by
  have hreceived := c.receive_received s o
  generalize c.receive s o = m at *
  cases hreceived with
  | position => exact .inl (Option.some_inj.mp h).symm
  | done | unexpected | failed => exact .inr rfl

structure Stops (r : Reading) (ys : List Occurrence) (r' : Reading) : Prop where
  stays : r.cursor.isOver = true → r'.cursor.isOver = true ∧ ∀ y ∈ ys, y.IsStill
  ends : ∀ y ∈ ys, y.isEnd = true → r'.cursor.isOver = true
  once : ys.countP Occurrence.isBroken ≤ 1

private theorem Stops.of_still (hcursor : r'.cursor = r.cursor)
    (h : ∀ y ∈ ys, y.IsStill ∧ y.isEnd = false) : Stops r ys r' where
  stays ho := ⟨hcursor ▸ ho, fun y hy => (h y hy).1⟩
  ends y hy hend := by cases (h y hy).2.symm.trans hend
  once := by
    rw [List.countP_eq_zero.mpr]
    · exact Nat.zero_le _
    · intro y hy hb
      have hstill := (h y hy).1
      cases hstill <;> cases hb

private theorem Stops.of_open {ys : List Occurrence} {y : Occurrence} (ho : r.cursor.isOver = false)
    (hys : ∀ y ∈ ys, ∃ x, y = .seen x) (hend : y.isEnd = true → r'.cursor.isOver = true) :
    Stops r (ys ++ [y]) r' := by
  refine ⟨fun ho' => (by cases ho.symm.trans ho'), fun z hz hzend => ?_, ?_⟩
  · rcases List.mem_append.mp hz with hz | hz
    · obtain ⟨x, rfl⟩ := hys z hz
      cases hzend
    · exact hend (List.mem_singleton.mp hz ▸ hzend)
  · rw [List.countP_append, List.countP_eq_zero.mpr, Nat.zero_add]
    · exact List.countP_le_length
    · intro z hz
      obtain ⟨x, rfl⟩ := hys z hz
      exact Bool.false_ne_true

private theorem Stops.of_close {y : Occurrence} (hstill : y.IsStill)
    (ho' : r'.cursor = (r.cursor.close r.gathering.slot).reader) :
    Stops r (r.sections (r.cursor.close r.gathering.slot) ++ [y]) r' := by
  have hover : r'.cursor.isOver = true := by rw [ho', close_isOver]
  cases ho : r.cursor.isOver with
  | false =>
    exact .of_open ho (fun z hz => ⟨_, (mem_sections hz).2⟩) fun _ => hover
  | true =>
    rw [sections, close_abandons _ ho]
    refine ⟨fun _ => ⟨hover, fun z hz => ?_⟩, fun _ _ _ => hover, List.countP_le_length⟩
    exact List.mem_singleton.mp hz ▸ hstill

private theorem Step.stops (hs : Step timeout r ys r') (h : Sound xs r) : Stops r ys r' := by
  cases hs with
  | deliver d g =>
    exact .of_still rfl (List.forall_mem_singleton.mpr ⟨.delivered _ d rfl, rfl⟩)
  | abandon g => exact .of_still rfl (List.forall_mem_singleton.mpr ⟨.abandoned _ rfl, rfl⟩)
  | refuse operation => exact .of_still rfl (List.forall_mem_singleton.mpr ⟨.refused _, rfl⟩)
  | pass | use => exact .of_still rfl (List.forall_mem_nil _)
  | begin _ ho =>
    exact ⟨fun ho' => (by cases ho.symm.trans ho'), List.forall_mem_nil _, Nat.zero_le _⟩
  | stay _ ho =>
    exact ⟨fun _ => ⟨ho, List.forall_mem_singleton.mpr (.returned _)⟩, fun _ _ _ => ho,
      List.countP_le_length⟩
  | look i f g hi hacts =>
    obtain ⟨w, late, hw, hlooking, -⟩ := hacts.of_looked
    have hopen := (h.stage.of_unfinished hi hw (by simp [Waiter.outcome?, hlooking])).1
    exact Stops.of_open hopen (List.forall_mem_nil _) fun h => by cases h
  | expire i won g hi hacts =>
    obtain ⟨w, hw, hcancelling, -⟩ := hacts.of_expired
    have hopen := (h.stage.of_unfinished hi hw (by simp [Waiter.outcome?, hcancelling])).1
    exact Stops.of_open hopen (List.forall_mem_nil _) fun h => by cases h
  | receive i w o result hi hw ho hresult =>
    refine .of_open (h.stage.of_caller hi) (fun z hz => ⟨_, (mem_sections hz).2⟩) fun hend => ?_
    rcases receive_isOver hresult with rfl | hover
    · cases hend
    · exact hover
  | close => exact .of_close .closed rfl
  | drop => exact .of_close .dropped rfl

private theorem Step.pairwise (hs : Step timeout r ys r') :
    ys.Pairwise fun x y => x.isEnd = true → y.IsStill := by
  have moved : ∀ {α : Type} (m : Move Cursor α) (y : Occurrence),
      (r.sections m ++ [y]).Pairwise fun x y => x.isEnd = true → y.IsStill := by
    intro α m y
    rw [sections]
    split
    · exact List.pairwise_pair.mpr fun h => by cases h
    · exact List.pairwise_singleton _ _
  cases hs with
  | deliver | abandon | look | expire | stay | refuse => exact List.pairwise_singleton _ _
  | pass | use | begin => exact .nil
  | receive | close | drop => exact moved _ _

/-- What holds of an occurrence after what came before it holds of every occurrence in its place. -/
theorem Run.forall_prefix {P : List Occurrence → Occurrence → Prop} (h : Run id timeout xs r)
    (hall : ∀ {xs ys : List Occurrence} {r r' : Reading}, Run id timeout xs r →
      Step timeout r ys r' → ∀ {zs : List Occurrence} {x : Occurrence}, zs ++ [x] <+: ys →
        P (xs ++ zs) x) :
    ∀ {xs₁ : List Occurrence} {x : Occurrence}, xs₁ ++ [x] <+: xs → P xs₁ x := by
  induction h with
  | start => exact fun hp => absurd (List.prefix_nil.mp hp) (by simp)
  | @step xs ys r r' h hs ih =>
    intro xs₁ x hp
    rcases List.prefix_or_prefix_of_prefix hp (List.prefix_append xs ys) with hbefore | hafter
    · exact ih hbefore
    · rcases List.prefix_concat_iff.mp hafter with heq | ⟨zs, rfl⟩
      · exact ih (heq ▸ List.prefix_refl _)
      · rw [List.append_assoc] at hp
        exact hall h hs ((List.prefix_append_right_inj xs).mp hp)

theorem Run.broken_le (h : Run id timeout xs r) :
    xs.countP Occurrence.isBroken ≤ if r.cursor.isOver then 1 else 0 := by
  induction h with
  | start => exact Nat.zero_le _
  | @step xs ys r r' h hs ih =>
    have hstops := hs.stops h.sound
    rw [List.countP_append]
    cases ho : r.cursor.isOver with
    | true =>
      obtain ⟨ho', hstill⟩ := hstops.stays ho
      have hnone : ys.countP Occurrence.isBroken = 0 := by
        refine List.countP_eq_zero.mpr fun y hy hb => ?_
        have hy := hstill y hy
        cases hy <;> cases hb
      rw [ho] at ih
      rw [ho', hnone]
      exact ih
    | false =>
      have hnone : xs.countP Occurrence.isBroken = 0 := by simpa [ho] using ih
      rw [hnone, Nat.zero_add]
      by_cases hbroken : ys.countP Occurrence.isBroken = 0
      · rw [hbroken]
        exact Nat.zero_le _
      · obtain ⟨y, hy, hb⟩ := List.countP_pos_iff.mp (Nat.pos_of_ne_zero hbroken)
        rw [hstops.ends y hy (Occurrence.isEnd_of_isBroken hb)]
        exact hstops.once

/-- After its end a cursor goes on to nothing. -/
theorem Run.still (h : Run id timeout xs r) :
    xs.Pairwise (fun x y => x.isEnd = true → y.IsStill) ∧
      ∀ x ∈ xs, x.isEnd = true → r.cursor.isOver = true := by
  induction h with
  | start => exact ⟨.nil, List.forall_mem_nil _⟩
  | @step xs ys r r' h hs ih =>
    have hstops := hs.stops h.sound
    refine ⟨List.pairwise_append.mpr ⟨ih.1, hs.pairwise, ?_⟩, ?_⟩
    · exact fun x hx y hy hend => (hstops.stays (ih.2 x hx hend)).2 y hy
    · intro x hx hend
      rcases List.mem_append.mp hx with hx | hx
      · exact (hstops.stays (ih.2 x hx hend)).1
      · exact hstops.ends x hx hend

theorem final?_iff {m : Message} {result : OperationResult} :
    m.final? = some result ↔ m.response = .done result := by
  rw [Message.final?]
  split
  · next h => rw [h, Option.some_inj, Response.done.injEq]
  · next h => exact iff_of_false (by simp) (h result)

theorem Stage.exhausted (h : Stage xs r) (hflow : Stream.Flow (moments xs) r.gathering.slot)
    (hp : r.cursor.place = .exhausted) : ∃ m result,
      Stream.accepted (moments xs) = visited xs ++ [m] ∧ m.response = .done result ∧
        r.cursor.done = some result := by
  have hover : r.cursor.isOver = true := by rw [isOver, hp]
  cases h with
  | ended rest hc ho hdone he hrest hd hon hex =>
    obtain ⟨result, hresult⟩ := Option.isSome_iff_exists.mp (hex hp)
    obtain ⟨m, rfl, hfinal⟩ := Option.bind_eq_some_iff.mp (hd ▸ hresult)
    have hresponse := final?_iff.mp hfinal
    obtain ⟨ms, hms⟩ := hflow.readFirst
    rw [he, Option.toList_some, List.append_assoc] at hms
    obtain ⟨rfl, -⟩ := hflow.lastDone _ m ms hms.symm (by rw [Message.kind, hresponse]; rfl)
    exact ⟨m, result, hms.symm, hresponse, hresult⟩
  | resting _ ho | waiting _ _ _ ho | holding _ _ _ _ ho | failing _ _ _ _ ho =>
    cases ho.symm.trans hover

structure Places (r : Reading) (ys : List Occurrence) (r' : Reading) : Prop where
  isOver : r'.cursor.isOver = true ↔ r.cursor.isOver = true ∨ ∃ y ∈ ys, y.isEnd = true
  closed : r'.cursor.place = .closed ↔ r.cursor.place = .closed ∨ ∃ y ∈ ys, y.isClose = true
  failed : r'.cursor.place = .failed ↔
    (r.cursor.place = .failed ∨ ∃ y ∈ ys, y.isBroken = true) ∧ ∀ y ∈ ys, y.isClose = false

/-- Apart from the section in which it gives the search up, one thing is seen of a move. -/
private theorem exists_mem_move {α : Type} {m : Move Cursor α} {y : Occurrence} {P : Occurrence → Bool}
    (hseen : ∀ x, P (.seen x) = false) : (∃ z ∈ r.sections m ++ [y], P z = true) ↔ P y = true := by
  constructor
  · rintro ⟨z, hz, hP⟩
    rcases List.mem_append.mp hz with hz | hz
    · obtain ⟨-, rfl⟩ := mem_sections hz
      cases (hseen _).symm.trans hP
    · rwa [← List.mem_singleton.mp hz]
  · exact fun hP => ⟨y, List.mem_append_right _ (List.mem_singleton_self y), hP⟩

private theorem forall_mem_move {α : Type} {m : Move Cursor α} {y : Occurrence} :
    (∀ z ∈ r.sections m ++ [y], z.isClose = false) ↔ y.isClose = false := by
  have hmem := exists_mem_move (r := r) (m := m) (y := y) (P := Occurrence.isClose) fun _ => rfl
  simp only [← Bool.not_eq_true]
  exact ⟨fun h hy => (hmem.mpr hy).elim fun z hz => h z hz.1 hz.2,
    fun h z hz hclose => h (hmem.mp ⟨z, hz, hclose⟩)⟩

/-- What is seen is neither an end nor a close, or the cursor was over before, and it stays. -/
private theorem Places.of_still (hcursor : r'.cursor = r.cursor)
    (h : ∀ y ∈ ys, y.isClose = false ∧ y.isBroken = false ∧
      (y.isEnd = true → r.cursor.isOver = true)) : Places r ys r' where
  isOver := by
    rw [hcursor]
    exact (or_iff_left_of_imp fun ⟨y, hy, hend⟩ => (h y hy).2.2 hend).symm
  closed := by
    rw [hcursor]
    exact (or_iff_left fun ⟨y, hy, hclose⟩ => by cases (h y hy).1.symm.trans hclose).symm
  failed := by
    have hbroken : ¬∃ y ∈ ys, y.isBroken = true := fun ⟨y, hy, hb⟩ => by
      cases (h y hy).2.1.symm.trans hb
    rw [hcursor, or_iff_left hbroken]
    exact (and_iff_left fun y hy => (h y hy).1).symm

private theorem Places.of_move {α : Type} {m : Move Cursor α} {y : Occurrence}
    (ho : r.cursor.isOver = false) (hover : r'.cursor.isOver = y.isEnd)
    (hclosed : r'.cursor.place = .closed ↔ y.isClose = true)
    (hfailed : r'.cursor.place = .failed ↔ y.isBroken = true ∧ y.isClose = false) :
    Places r (r.sections m ++ [y]) r' where
  isOver := by rw [exists_mem_move fun _ => rfl, hover, ho, or_iff_right Bool.false_ne_true]
  closed := by
    rw [exists_mem_move fun _ => rfl, hclosed]
    exact (or_iff_right fun hp => by simp [Cursor.isOver, hp] at ho).symm
  failed := by
    rw [exists_mem_move fun _ => rfl, forall_mem_move, hfailed]
    exact and_congr_left' (or_iff_right fun hp => by simp [Cursor.isOver, hp] at ho).symm

private theorem Places.of_close {y : Occurrence} (hclose : y.isClose = true)
    (hcursor : r'.cursor = (r.cursor.close r.gathering.slot).reader) :
    Places r (r.sections (r.cursor.close r.gathering.slot) ++ [y]) r' := by
  rw [close_reader] at hcursor
  refine ⟨?_, ?_, ?_⟩
  · rw [exists_mem_move fun _ => rfl, hcursor]
    exact iff_of_true rfl (.inr (Occurrence.isEnd_of_isClose hclose))
  · rw [exists_mem_move fun _ => rfl, hcursor]
    exact iff_of_true rfl (.inr hclose)
  · rw [forall_mem_move, hcursor, hclose]
    exact iff_of_false nofun fun h => Bool.noConfusion h.2

private theorem Step.places (hs : Step timeout r ys r') (h : Sound xs r) : Places r ys r' := by
  cases hs with
  | deliver | abandon | look | expire | refuse =>
    exact .of_still rfl (List.forall_mem_singleton.mpr ⟨rfl, rfl, nofun⟩)
  | pass | use | begin => exact .of_still rfl (List.forall_mem_nil _)
  | stay _ ho => exact .of_still rfl (List.forall_mem_singleton.mpr ⟨rfl, rfl, fun _ => ho⟩)
  | receive i w o result hi hw hout hresult =>
    have ho := h.stage.of_caller hi
    have hreceived := r.cursor.receive_received r.gathering.slot o
    generalize hm : r.cursor.receive r.gathering.slot o = m at *
    cases hreceived with
    | position | done =>
      cases hresult
      exact .of_move ho rfl (iff_of_false nofun nofun) (iff_of_false nofun nofun)
    | unexpected | failed =>
      cases hresult
      exact .of_move ho rfl (iff_of_false nofun nofun) (iff_of_true rfl ⟨rfl, rfl⟩)
  | close => exact .of_close rfl rfl
  | drop => exact .of_close rfl rfl

structure Ends (xs : List Occurrence) (c : Cursor) : Prop where
  isOver : c.isOver = true ↔ ∃ x ∈ xs, x.isEnd = true
  closed : c.place = .closed ↔ ∃ x ∈ xs, x.isClose = true
  failed : c.place = .failed ↔
    (∃ x ∈ xs, x.isBroken = true) ∧ ∀ x ∈ xs, x.isClose = false

theorem Run.ends (h : Run id timeout xs r) : Ends xs r.cursor := by
  induction h with
  | start =>
    exact ⟨iff_of_false nofun (by simp), iff_of_false nofun (by simp), iff_of_false nofun (by simp)⟩
  | @step xs ys r r' h hs ih =>
    have hplaces := hs.places h.sound
    have hor : ∀ {P : Occurrence → Prop},
        (∃ x ∈ xs ++ ys, P x) ↔ (∃ x ∈ xs, P x) ∨ ∃ x ∈ ys, P x := by
      simp only [List.mem_append, or_and_right, exists_or, implies_true]
    refine ⟨?_, ?_, ?_⟩
    · rw [hor, hplaces.isOver, ih.isOver]
    · rw [hor, hplaces.closed, ih.closed]
    · rw [hor, hplaces.failed, ih.failed, List.forall_mem_append, ← and_assoc]
      refine and_congr_left' ⟨?_, ?_⟩
      · rintro (⟨hb, hx⟩ | hb)
        · exact ⟨.inl hb, hx⟩
        · -- a cursor that fails has not been closed before
          refine ⟨.inr hb, fun x hx => Bool.eq_false_iff.mpr fun hclose => ?_⟩
          obtain ⟨y, hy, hb⟩ := hb
          have hstill := ((hs.stops h.sound).stays
            (ih.isOver.mpr ⟨x, hx, Occurrence.isEnd_of_isClose hclose⟩)).2 y hy
          cases hstill <;> cases hb
      · rintro ⟨hb | hb, hx⟩
        · exact .inl ⟨hb, hx⟩
        · exact .inr hb

/-- Whoever is told, before the cursor has come to any end, that there is no next response has come to
the last one. -/
theorem Run.denied (h : Run id timeout xs r) {xs₁ : List Occurrence} {c : Cursor}
    (hp : xs₁ ++ [.returned (.ok false) c] <+: xs) (hopen : ∀ x ∈ xs₁, x.isEnd = false) :
    ∃ m result, Stream.accepted (moments xs₁) = visited xs₁ ++ [m] ∧ m.response = .done result ∧
      c.place = .exhausted ∧ c.done = some result := by
  refine h.forall_prefix (P := fun xs₁ x => ∀ c, x = .returned (.ok false) c →
    (∀ x ∈ xs₁, x.isEnd = false) → ∃ m result, Stream.accepted (moments xs₁) = visited xs₁ ++ [m] ∧
      m.response = .done result ∧ c.place = .exhausted ∧ c.done = some result) ?_ hp c rfl hopen
  rintro xs ys r r' h hs zs x hp c rfl hopen
  have hmem : Occurrence.returned (.ok false) c ∈ ys :=
    hp.subset (List.mem_append_right _ (List.mem_singleton_self _))
  cases hs with
  | deliver | abandon | look | expire | refuse => cases List.mem_singleton.mp hmem
  | pass | use | begin => cases hmem
  | close | drop =>
    rcases List.mem_append.mp hmem with hmem | hmem
    · cases (mem_sections hmem).2
    · cases List.mem_singleton.mp hmem
  | stay _ ho =>
    obtain ⟨x, hx, hend⟩ := h.ends.isOver.mp ho
    cases (hopen x (List.mem_append_left _ hx)).symm.trans hend
  | receive i w o result hi hw hout hresult =>
    obtain ⟨rfl, hrun⟩ := h.slotRun
    have hflow := Stream.run_flow hrun
    have hreceived := r.cursor.receive_received r.gathering.slot o
    generalize r.cursor.receive r.gathering.slot o = m at *
    obtain ⟨-, -, -, hreturning⟩ := h.sound.stage.of_finished hi hw hout
    obtain ⟨rfl, hlast⟩ := eq_of_prefix_move hp fun _ h => by cases h
    obtain ⟨rfl, rfl⟩ := Occurrence.returned.inj hlast
    cases hreceived with
    | position | unexpected | failed => cases hresult
    | done m' final hfinal =>
      cases hreturning with
      | response _ he =>
        obtain ⟨ms, hms⟩ := hflow.readFirst
        rw [he, List.append_assoc] at hms
        obtain ⟨rfl, -⟩ := hflow.lastDone _ m' ms hms.symm (by rw [Message.kind, hfinal]; rfl)
        refine ⟨m', final, ?_, hfinal, rfl, rfl⟩
        change Stream.accepted (moments (xs ++ [])) = visited (xs ++ []) ++ [m']
        rw [List.append_nil]
        exact hms.symm

end Reading

end DirectoryClient.Cursor
