import DirectoryClient.Proofs.Cursor.Endings
import DirectoryClient.Proofs.Cursor.Underway

/-! What a cursor makes of a search, from its first response to its end: what it visits, why it stops,
and when it gives the search up. -/
namespace DirectoryClient.Cursor

open Slot (Gathering Acts Event Section Waiter Finding)

namespace Occurrence

/-- The cursor has found itself too late, has failed, or has been closed or dropped. -/
def givesUp : Occurrence → Bool
  | seen x =>
    match x.event with
    | .expired .. => true
    | _ => false
  | returned (.error _) _ | closed | dropped => true
  | _ => false

end Occurrence

inductive Failing (id : MessageId) (xs : List Occurrence) : DirectoryError → Prop
  /-- The next response was neither a place to stand on nor the last. -/
  | unexpected (m : Message) : m.isPosition = false → m.kind ≠ .done →
    visited xs ++ [m] <+: Stream.accepted (moments xs) →
    Failing id xs (.decoding (.unexpectedInSearch m.kind m.id))
  /-- All that has come has been visited, and then there is the failure that was delivered. -/
  | failed (e : DirectoryError) : Stream.accepted (moments xs) = visited xs →
    (∃ x ∈ moments xs, ∃ d, x.event = .delivered d ∧ x.before.failure = none ∧
      x.after.failure = some e) → Failing id xs e
  /-- The time was over when all that had come had been visited. -/
  | late (i : Nat) : (∃ x ∈ moments xs, x.event = .expired i true) → Reading.Lapsed i xs →
    Failing id xs (.responseTimeout id)

namespace Reading

variable {id : MessageId} {timeout : Option Nat} {xs ys : List Occurrence} {r r' : Reading}

/-- Whoever has come to a stage at which the cursor is over finds the search done. -/
private theorem Stage.isDone_of_over (h : Stage xs r) (ho : r.cursor.isOver = true) :
    r.gathering.slot.isDone = true := by
  cases h with
  | ended _ _ _ hdone => exact hdone
  | resting _ ho' | waiting _ _ _ ho' | holding _ _ _ _ ho' | failing _ _ _ _ ho' =>
    cases ho'.symm.trans ho

/-- A cursor gives the search up with the last thing that is seen of a step. -/
private theorem Step.of_givesUp (hs : Step timeout r ys r') (h' : Sound (xs ++ ys) r')
    {zs : List Occurrence} {x : Occurrence} (hp : zs ++ [x] <+: ys) (hx : x.givesUp = true) :
    ys = zs ++ [x] ∧ r'.gathering.slot.isDone = true ∧
      ∀ y ∈ moments ys, Stream.answers y.event = false := by
  -- after a move of the cursor, it is the last thing that is seen
  have moved : ∀ {α : Type} {m : Move Cursor α} {y : Occurrence}, y.moment? = none →
      (y.givesUp = true → m.reader.isOver = true) → r'.cursor = m.reader →
      ys = r.sections m ++ [y] → ys = zs ++ [x] ∧ r'.gathering.slot.isDone = true ∧
        ∀ y ∈ moments ys, Stream.answers y.event = false := by
    intro α m y hy hover hcursor hys
    subst hys
    rcases List.prefix_concat_iff.mp hp with heq | hp
    · obtain ⟨-, hlast⟩ := List.append_inj' heq rfl
      obtain rfl := List.singleton_inj.mp hlast
      refine ⟨heq.symm, h'.stage.isDone_of_over (hcursor ▸ hover hx), fun z hz => ?_⟩
      rw [moments_concat hy] at hz
      obtain ⟨u, hu, huz⟩ := List.mem_filterMap.mp hz
      obtain ⟨-, rfl⟩ := mem_sections hu
      cases huz
      rfl
    · obtain ⟨-, rfl⟩ := mem_sections (hp.subset (List.mem_append_right _ (List.mem_singleton_self x)))
      cases hx
  have single : ∀ {y : Occurrence}, ys = [y] → zs = [] ∧ x = y := by
    intro y hys
    subst hys
    change zs ++ [x] <+: [] ++ [y] at hp
    rcases List.prefix_concat_iff.mp hp with heq | hp
    · obtain ⟨hzs, hlast⟩ := List.append_inj' heq rfl
      exact ⟨hzs, List.singleton_inj.mp hlast⟩
    · exact absurd (List.prefix_nil.mp hp) (by simp)
  cases hs with
  | deliver | abandon | look | stay | refuse =>
    obtain ⟨-, rfl⟩ := single rfl
    cases hx
  | pass | use | begin => exact absurd (List.prefix_nil.mp hp) (by simp)
  | expire i won g hi hacts =>
    obtain ⟨rfl, rfl⟩ := single rfl
    obtain ⟨w, hw, hcancelling, hwon, rfl⟩ := hacts.of_expired
    refine ⟨rfl, Stream.isDone_of_cancel true _, fun y hy => ?_⟩
    obtain rfl := List.mem_singleton.mp hy
    rfl
  | receive i w o result hi hw ho hresult =>
    refine moved rfl (fun hup => ?_) rfl rfl
    rcases receive_isOver hresult with rfl | hover
    · cases hup
    · exact hover
  | close => exact moved rfl (fun _ => close_isOver _ _) rfl rfl
  | drop => exact moved rfl (fun _ => close_isOver _ _) rfl rfl

/-- A cursor that gives up a search that has not been answered has, by then, won a cancellation. -/
private theorem Run.wins_of_givesUp (h : Run id timeout xs r) {xs₁ : List Occurrence} {x : Occurrence}
    (hp : xs₁ ++ [x] <+: xs) (hx : x.givesUp = true)
    (hopen : ∀ y ∈ moments xs₁, Stream.answers y.event = false) :
    ∃ y ∈ moments xs, y.event.wins = true := by
  have hwon : ∃ y ∈ moments (xs₁ ++ [x]), y.event.wins = true := by
    refine h.forall_prefix (P := fun xs₁ x => x.givesUp = true →
      (∀ y ∈ moments xs₁, Stream.answers y.event = false) →
        ∃ y ∈ moments (xs₁ ++ [x]), y.event.wins = true) ?_ hp hx hopen
    intro xs ys r r' h hs zs x hp hx hopen
    obtain ⟨rfl, hdone, hquiet⟩ := hs.of_givesUp (h.step hs).sound hp hx
    rw [List.append_assoc]
    refine ((Stream.isDone_iff_exists (h.step hs).slotRun.2).mp hdone).resolve_left ?_
    rintro ⟨y, hy, ha⟩
    rw [moments_append] at hy
    rcases List.mem_append.mp hy with hy | hy
    · have hnot := hopen y (by rw [moments_append]; exact List.mem_append_left _ hy)
      cases hnot.symm.trans ha
    · cases (hquiet y hy).symm.trans ha
  obtain ⟨y, hy, hw⟩ := hwon
  obtain ⟨xs₂, rfl⟩ := hp
  exact ⟨y, by rw [moments_append]; exact List.mem_append_left _ hy, hw⟩

private theorem Step.givesUp_of_wins (hs : Step timeout r ys r') {y : Stream.Moment}
    (hy : y ∈ moments ys) (hw : y.event.wins = true) :
    r.gathering.slot.isDone = false ∧ ∃ zs x, ys = zs ++ [x] ∧ x.givesUp = true ∧
      ∀ z ∈ moments zs, Stream.answers z.event = false := by
  have open_of_won : (r.gathering.slot.cancel true).1 = true → r.gathering.slot.isDone = false := by
    intro hwon
    rcases r.gathering.slot.cancel_cases true with ⟨hp, hf, -⟩ | hlost
    · simp [Stream.isDone, hp, hf]
    · rw [hlost] at hwon
      cases hwon
  have moved : ∀ {α : Type} {m : Move Cursor α} {x : Occurrence}, x.moment? = none →
      Leaves r.gathering.slot m → (m.abandons = true → x.givesUp = true) →
      ys = r.sections m ++ [x] → r.gathering.slot.isDone = false ∧ ∃ zs x, ys = zs ++ [x] ∧
        x.givesUp = true ∧ ∀ z ∈ moments zs, Stream.answers z.event = false := by
    intro α m x hx hleaves hup hys
    subst hys
    rw [moments_concat hx] at hy
    obtain ⟨u, hu, -⟩ := List.mem_filterMap.mp hy
    obtain ⟨ha, -⟩ := mem_sections hu
    refine ⟨?_, r.sections m, x, rfl, hup ha, fun z hz => ?_⟩
    · cases hleaves with
      | givesUp _ hwon => exact open_of_won (by rw [hwon])
      | alone hnot => cases ha.symm.trans hnot
    · obtain ⟨u, hu, huz⟩ := List.mem_filterMap.mp hz
      obtain ⟨-, rfl⟩ := mem_sections hu
      cases huz
      rfl
  cases hs with
  | deliver | abandon | look =>
    obtain rfl := List.mem_singleton.mp hy
    cases hw
  | pass | use | begin | stay | refuse => cases hy
  | expire i won g hi hacts =>
    obtain rfl := List.mem_singleton.mp hy
    obtain ⟨w, -, -, hwon, -⟩ := hacts.of_expired
    exact ⟨open_of_won (hwon.trans hw), [], _, rfl, rfl, List.forall_mem_nil _⟩
  | receive i w o result hi hw ho hresult =>
    refine moved rfl (r.cursor.receive_leaves _ o) (fun ha => ?_) rfl
    have hreceived := r.cursor.receive_received r.gathering.slot o
    generalize r.cursor.receive r.gathering.slot o = m at *
    cases hreceived with
    | position | done => cases ha
    | unexpected | failed => cases hresult; rfl
  | close => exact moved rfl (r.cursor.close_leaves _) (fun _ => rfl) rfl
  | drop => exact moved rfl (r.cursor.close_leaves _) (fun _ => rfl) rfl

private theorem Run.givesUp_of_wins (h : Run id timeout xs r)
    (hw : ∃ y ∈ moments xs, y.event.wins = true) :
    ∃ xs₁ x, xs₁ ++ [x] <+: xs ∧ x.givesUp = true ∧
      ∀ y ∈ moments xs₁, Stream.answers y.event = false := by
  induction h with
  | start => obtain ⟨y, hy, -⟩ := hw; cases hy
  | @step xs ys r r' h hs ih =>
    obtain ⟨y, hy, hw⟩ := hw
    rw [moments_append] at hy
    rcases List.mem_append.mp hy with hy | hy
    · obtain ⟨xs₁, x, hp, hrest⟩ := ih ⟨y, hy, hw⟩
      exact ⟨xs₁, x, hp.trans (List.prefix_append _ _), hrest⟩
    · obtain ⟨hopen, zs, x, rfl, hx, hzs⟩ := hs.givesUp_of_wins hy hw
      refine ⟨xs ++ zs, x, by simp, hx, fun z hz => ?_⟩
      rw [moments_append] at hz
      rcases List.mem_append.mp hz with hz | hz
      · refine Bool.eq_false_iff.mpr fun ha => ?_
        cases hopen.symm.trans ((Stream.isDone_iff_exists h.slotRun.2).mpr (.inl ⟨z, hz, ha⟩))
      · exact hzs z hz

private theorem Run.givenUp_iff (h : Run id timeout xs r)
    (honce : (moments xs).countP (·.event.wins) ≤ 1) :
    (moments xs).countP (·.event.wins) = 1 ↔ ∃ xs₁ x, xs₁ ++ [x] <+: xs ∧ x.givesUp = true ∧
      ∀ y ∈ moments xs₁, Stream.answers y.event = false := by
  constructor
  · intro hone
    exact h.givesUp_of_wins (List.countP_pos_iff.mp (by rw [hone]; exact Nat.one_pos))
  · rintro ⟨xs₁, x, hp, hx, hopen⟩
    exact Nat.le_antisymm honce (List.countP_pos_iff.mpr (h.wins_of_givesUp hp hx hopen))

private theorem accepted_sections {α : Type} (m : Move Cursor α) :
    Stream.accepted (moments (r.sections m)) = [] := by
  rw [sections]
  split <;> rfl

private theorem Step.failing {cause : DirectoryError} {c : Cursor} (hs : Step timeout r ys r')
    (h : Sound xs r) (hrun : Slot.Run r.cursor.id ({} : Stream) (moments xs) r.gathering)
    {zs : List Occurrence} (hp : zs ++ [.returned (.error cause) c] <+: ys) :
    ∃ e, cause = .cursorBroken e ∧ Failing r.cursor.id (xs ++ zs) e := by
  have hmem : Occurrence.returned (.error cause) c ∈ ys :=
    hp.subset (List.mem_append_right _ (List.mem_singleton_self _))
  have hflow := Stream.run_flow hrun
  cases hs with
  | deliver | abandon | look | expire | stay | refuse => cases List.mem_singleton.mp hmem
  | pass | use | begin => cases hmem
  | close | drop =>
    rcases List.mem_append.mp hmem with hmem | hmem
    · cases (mem_sections hmem).2
    · cases List.mem_singleton.mp hmem
  | receive i w o result hi hw hout hresult =>
    have hreceived := r.cursor.receive_received r.gathering.slot o
    generalize r.cursor.receive r.gathering.slot o = m at *
    obtain ⟨rfl, hlast⟩ := eq_of_prefix_move hp fun _ h => by cases h
    obtain ⟨rfl, -⟩ := Occurrence.returned.inj hlast
    have hvisited : visited (xs ++ r.sections m) = visited xs := by
      rw [visited_append, visited_sections, List.append_nil]
    have haccepted : Stream.accepted (moments (xs ++ r.sections m)) =
        Stream.accepted (moments xs) := by
      rw [moments_append, Stream.accepted, List.filterMap_append]
      exact (congrArg _ (accepted_sections m)).trans (List.append_nil _)
    have hlater : ∀ {p : Stream.Moment → Prop}, (∃ x ∈ moments xs, p x) →
        ∃ x ∈ moments (xs ++ r.sections m), p x := by
      rintro p ⟨x, hx, hpx⟩
      exact ⟨x, by rw [moments_append]; exact List.mem_append_left _ hx, hpx⟩
    obtain ⟨-, -, -, hreturning⟩ := h.stage.of_finished hi hw hout
    cases hreturning with
    | response m' he =>
      cases hreceived with
      | position | done => cases hresult
      | unexpected m' hposition hkind =>
        cases hresult
        refine ⟨_, rfl, .unexpected m' hposition hkind ?_⟩
        rw [hvisited, haccepted, ← he]
        exact hflow.readFirst
    | failure e he hspent =>
      cases hreceived with
      | failed e =>
        cases hresult
        refine ⟨_, rfl, ?_⟩
        cases hspent with
        | failed _ hp hqueue hf =>
          refine .failed e ?_ (hlater (hflow.failed e hf))
          rw [hvisited, haccepted, hflow.inOrder hp, hqueue, List.append_nil, he]
        | late _ hx hl => exact .late i (hlater hx) (hl.append visited_sections)

private theorem Run.failing (h : Run id timeout xs r) {xs₁ : List Occurrence} {cause : DirectoryError}
    {c : Cursor} (hp : xs₁ ++ [.returned (.error cause) c] <+: xs) :
    ∃ e, cause = .cursorBroken e ∧ Failing id xs₁ e := by
  refine h.forall_prefix (P := fun xs₁ x => ∀ cause c, x = .returned (.error cause) c →
    ∃ e, cause = .cursorBroken e ∧ Failing id xs₁ e) ?_ hp cause c rfl
  rintro xs ys r r' h hs zs x hp cause c rfl
  obtain ⟨rfl, hrun⟩ := h.slotRun
  exact hs.failing h.sound hrun hp

private theorem Step.of_refused {cause : DirectoryError} (hs : Step timeout r ys r')
    (hmem : .refused cause ∈ ys) : r' = r ∧ ∃ operation, cause = unsupported operation := by
  cases hs with
  | refuse operation =>
    cases List.mem_singleton.mp hmem
    exact ⟨rfl, operation, rfl⟩
  | deliver | abandon | look | expire | stay => cases List.mem_singleton.mp hmem
  | pass | use | begin => cases hmem
  | receive | close | drop =>
    rcases List.mem_append.mp hmem with hmem | hmem
    · cases (mem_sections hmem).2
    · cases List.mem_singleton.mp hmem

/-- What a cursor is to whoever reads a search with it. -/
structure Faithful (id : MessageId) (timeout : Option Nat) (xs : List Occurrence) (r : Reading) :
    Prop where
  /-- The cursor is available while it stands on a response, which it holds, and which is the last that
  it has visited. -/
  available : r.cursor.isAvailable = true ↔ ∃ m, r.cursor.place = .on m
  current : ∀ m, r.cursor.current? = some m ↔ r.cursor.place = .on m
  standing : r.caller = none → ∀ m, r.cursor.current? = some m → (visited xs).getLast? = some m
  positions : ∀ m ∈ visited xs, m.isPosition = true
  inOrder : visited xs <+: Stream.accepted (moments xs)
  /-- What a cursor that goes on has not visited is still to be found. -/
  unread : r.caller = none → r.cursor.isOver = false →
    Stream.accepted (moments xs) = visited xs ++ r.gathering.slot.queue
  /-- A cursor that has come to the end has visited all but the last response. -/
  exhausted : r.cursor.place = .exhausted → ∃ m result,
    Stream.accepted (moments xs) = visited xs ++ [m] ∧ m.response = .done result ∧
      r.cursor.done = some result
  failing : ∀ {xs₁ : List Occurrence} {cause : DirectoryError} {c : Cursor},
    xs₁ ++ [.returned (.error cause) c] <+: xs → ∃ e, cause = .cursorBroken e ∧ Failing id xs₁ e
  failsOnce : xs.countP Occurrence.isBroken ≤ 1
  /-- A cursor is over exactly if it has come to an end: it has been told so, has failed, or has been
  closed or dropped. -/
  isOver : r.cursor.isOver = true ↔ ∃ x ∈ xs, x.isEnd = true
  closed : r.cursor.place = .closed ↔ ∃ x ∈ xs, x.isClose = true
  failed : r.cursor.place = .failed ↔
    (∃ x ∈ xs, x.isBroken = true) ∧ ∀ x ∈ xs, x.isClose = false
  /-- If the first end is that there is no next response, the cursor has visited all but the last one,
  which it has read. -/
  denied : ∀ {xs₁ : List Occurrence} {c : Cursor}, xs₁ ++ [.returned (.ok false) c] <+: xs →
    (∀ x ∈ xs₁, x.isEnd = false) → ∃ m result,
      Stream.accepted (moments xs₁) = visited xs₁ ++ [m] ∧ m.response = .done result ∧
        c.place = .exhausted ∧ c.done = some result
  /-- To ask an idle cursor for the next response, all at once, is to take some of these steps. It has to
  wait only if nothing is queued, nothing has failed, and there is time. -/
  asked : r.isIdle = true → ∀ late, ∃ ys r', Steps (if late then some 0 else none) r ys r' ∧
    Comes r (r.cursor.next late r.gathering.slot) ys r'
  waits : r.isIdle = true → ∀ late, (r.cursor.next late r.gathering.slot).result = none →
    late = false ∧ r.gathering.slot.phase = .pending ∧ r.gathering.slot.queue = [] ∧
      r.gathering.slot.failure = none
  /-- After its end a cursor says so whenever it is asked, and takes nothing out of the slot. -/
  still : xs.Pairwise fun x y => x.isEnd = true → y.IsStill
  refused : ∀ {ys : List Occurrence} {r' : Reading} {cause : DirectoryError},
    Step timeout r ys r' → .refused cause ∈ ys → r' = r ∧ ∃ operation, cause = unsupported operation
  done : r.caller = none → ∀ result, r.cursor.done = some result ↔
    ∃ m ∈ Stream.read (moments xs), m.response = .done result
  /-- The server is asked once for each cancellation that counts. -/
  abandoned : (moments xs).countP (·.event.isAbandon) + r.gathering.owed =
    (moments xs).countP (·.event.wins)
  givenUpOnce : (moments xs).countP (·.event.wins) ≤ 1
  /-- The search is given up exactly if the cursor has come to an end of its own before the search has
  been answered. -/
  givenUp : (moments xs).countP (·.event.wins) = 1 ↔ ∃ xs₁ x, xs₁ ++ [x] <+: xs ∧
    x.givesUp = true ∧ ∀ y ∈ moments xs₁, Stream.answers y.event = false

theorem Stage.done_iff (h : Stage xs r) (hpositions : ∀ m ∈ visited xs, m.isPosition = true)
    (hnone : r.caller = none) (result : OperationResult) : r.cursor.done = some result ↔
      ∃ m ∈ Stream.read (moments xs), m.response = .done result := by
  have hvisited : ∀ m ∈ visited xs, m.response ≠ .done result := fun m hm hdone =>
    Message.kind_of_isPosition (hpositions m hm) (by rw [Message.kind, hdone]; rfl)
  cases h with
  | resting hc ho hd hp he =>
    rw [hd, he]
    refine iff_of_false (by simp) ?_
    rintro ⟨m, hm, hdone⟩
    exact hvisited m hm hdone
  | ended rest hc ho hdone he hrest hd =>
    rw [hd, he, Option.bind_eq_some_iff]
    constructor
    · rintro ⟨m, rfl, hfinal⟩
      exact ⟨m, by simp, final?_iff.mp hfinal⟩
    · rintro ⟨m, hm, hresponse⟩
      rcases List.mem_append.mp hm with hm | hm
      · exact absurd hresponse (hvisited m hm)
      · exact ⟨m, Option.mem_toList.mp hm, final?_iff.mpr hresponse⟩
  | waiting i w hc | holding i w m hc | failing i w e hc => cases hnone.symm.trans hc

private theorem Stage.read_prefix (h : Stage xs r) : visited xs <+: Stream.read (moments xs) := by
  cases h with
  | resting _ _ _ _ he | waiting _ _ _ _ _ _ he | failing _ _ _ _ _ _ he =>
    exact he ▸ List.prefix_refl _
  | holding _ _ m _ _ _ _ he => exact he ▸ List.prefix_append _ _
  | ended rest _ _ _ he => exact he ▸ List.prefix_append _ _

/-- Whatever is delivered, however long it takes, and whatever the cursor is asked, it goes over the
search as it should. -/
theorem run_faithful (h : Run id timeout xs r) : Faithful id timeout xs r := by
  obtain ⟨rfl, hrun⟩ := h.slotRun
  have hsound := h.sound
  have hflow := Stream.run_flow hrun
  have horderly := hrun.orderly
  have hcurrent : ∀ m, r.cursor.current? = some m ↔ r.cursor.place = .on m := by
    intro m
    rw [current?]
    split
    · next h => rw [h, Option.some_inj, Place.on.injEq]
    · next h => exact iff_of_false nofun (h m)
  have hends := h.ends
  refine ⟨?_, hcurrent, fun hc m hm => hsound.standing m ((hcurrent m).mp hm) hc, hsound.positions,
    hsound.stage.read_prefix.trans hflow.readFirst, fun hc ho => (h.underway hc ho).2,
    hsound.stage.exhausted hflow, h.failing, Nat.le_trans h.broken_le (by split <;> omega),
    hends.isOver, hends.closed, hends.failed, h.denied, fun hidle late => next_steps late r hidle,
    fun hidle late hnone => ?_, h.still.1, fun hs hmem => hs.of_refused hmem,
    hsound.stage.done_iff hsound.positions, horderly.abandoned, horderly.wonOnce,
    h.givenUp_iff horderly.wonOnce⟩
  · rw [isAvailable, Option.isSome_iff_exists]
    exact exists_congr hcurrent
  · cases ho : r.cursor.isOver with
    | false => exact (h.underway (caller_of_isIdle hidle) ho).1.of_waits hnone
    | true =>
      rw [Cursor.next, if_pos ho] at hnone
      cases hnone
section ReferralAndClose

/-- A referral comes and is visited; then the cursor is closed. -/
def referralAndClose : List Occurrence :=
  [.seen ⟨0, {}, .delivered (.push Stream.referral), { queue := [Stream.referral] }⟩,
    .seen ⟨0, { queue := [Stream.referral] }, .looked 0 (.settled (.ok Stream.referral)), {}⟩,
    .returned (.ok true)
      { id := 3, detector := Search.BinaryDetector.everything, place := .on Stream.referral },
    .seen ⟨0, {}, .cancelled true true, { phase := .cancelled true }⟩,
    .closed]

private theorem run_referralAndClose : ∃ r, Run 3 none referralAndClose r := by
  have h : Run 3 none [] _ := .start Search.BinaryDetector.everything none 0
  have h := h.step (.deliver _ (.push Stream.referral) _ (.deliver _ _ rfl))
  have h := h.step (.begin _ rfl rfl)
  have h := h.step (.look _ 0 _ _ rfl (.look _ 0 _ rfl rfl))
  have h := h.step (.receive _ 0 _ (.ok Stream.referral) (.ok true) rfl rfl rfl rfl)
  exact ⟨_, h.step (.close _ rfl)⟩

/-- The search was given up, because it had not been answered when the cursor was closed. -/
theorem referralAndClose_faithful : ∃ r, Run 3 none referralAndClose r ∧
    Faithful 3 none referralAndClose r ∧ visited referralAndClose = [Stream.referral] ∧
      (moments referralAndClose).countP (·.event.wins) = 1 := by
  obtain ⟨r, h⟩ := run_referralAndClose
  exact ⟨r, h, run_faithful h, rfl, rfl⟩

end ReferralAndClose

end Reading

end DirectoryClient.Cursor
