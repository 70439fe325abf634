import DirectoryClient.Proofs.Cursor.Stages

/-! Asking a cursor for the next response, all at once, is one way for the steps of a reading to follow
each other. -/
namespace DirectoryClient

namespace Slot.Waiter

variable {σ α : Type} [Slot σ α] {now now' : Nat} {w w' : Waiter α}

/-- Of its deadline, a caller only asks whether it is over. -/
theorem step_congr (id : MessageId) (s : σ) (hp : w.position = w'.position)
    (hlate : w.deadline.any (· ≤ now) = w'.deadline.any (· ≤ now')) :
    (w.step id now s).slot = (w'.step id now' s).slot ∧
      (w.step id now s).sleeps = (w'.step id now' s).sleeps ∧
      (w.step id now s).abandons = (w'.step id now' s).abandons ∧
      (w.step id now s).waiter.position = (w'.step id now' s).waiter.position := by
  rw [step, step, hlate, ← hp]
  split
  · exact ⟨rfl, rfl, rfl, hp⟩
  · split
    · exact ⟨rfl, rfl, rfl, rfl⟩
    · exact ⟨rfl, rfl, rfl, hp⟩
    · exact ⟨rfl, rfl, rfl, rfl⟩
  · split <;> exact ⟨rfl, rfl, rfl, rfl⟩

theorem step_deadline (id : MessageId) (now : Nat) (w : Waiter α) (s : σ) :
    (w.step id now s).waiter.deadline = w.deadline := by
  rw [step]
  split
  · rfl
  · split <;> rfl
  · split <;> rfl

end Slot.Waiter

namespace Cursor

private theorem Leaves.once {α : Type} {s : Stream} {m : Move Cursor α} (h : Leaves s m)
    {abandons : Bool} (hdone : abandons = true → s.isDone = true) :
    abandons.toNat + m.abandons.toNat = (abandons || m.abandons).toNat := by
  cases h with
  | alone ha => simp [ha]
  | givesUp ha hwon =>
    rcases s.cancel_cases true with ⟨hp, hf, -⟩ | hlost
    · have hopen : abandons = false :=
        Bool.eq_false_iff.mpr fun h => by simpa [Stream.isDone, hp, hf] using hdone h
      simp [hopen]
    · rw [hlost] at hwon
      cases hwon

namespace Reading

open Slot (Waiter)

variable {timeout : Option Nat} {r r' : Reading} {xs ys : List Occurrence}

inductive Steps (timeout : Option Nat) : Reading → List Occurrence → Reading → Prop
  | refl (r : Reading) : Steps timeout r [] r
  | step {r r' r'' : Reading} {xs ys : List Occurrence} : Step timeout r xs r' →
    Steps timeout r' ys r'' → Steps timeout r (xs ++ ys) r''

private theorem Steps.trans {r'' : Reading} (h : Steps timeout r xs r') (h' : Steps timeout r' ys r'') :
    Steps timeout r (xs ++ ys) r'' := by
  induction h with
  | refl => exact h'
  | step hs _ ih =>
    rw [List.append_assoc]
    exact .step hs (ih h')

theorem Run.steps {id : MessageId} (h : Run id timeout xs r) (hs : Steps timeout r ys r') :
    Run id timeout (xs ++ ys) r' := by
  induction hs generalizing xs with
  | refl => rwa [List.append_nil]
  | step hs _ ih =>
    rw [← List.append_assoc]
    exact ih (h.step hs)

private def advance (i : Nat) (w : Waiter Message) (r : Reading) : Reading :=
  let step := w.step r.cursor.id r.gathering.now r.gathering.slot
  { r with gathering := { r.gathering with
    slot := step.slot
    waiters := r.gathering.waiters.set i step.waiter
    owed := r.gathering.owed + step.abandons.toNat } }

section Caller

variable {i : Nat} {w : Waiter Message} (hi : r.caller = some i)
  (hw : r.gathering.waiters[i]? = some w)
include hi hw

private theorem exists_step_advance (hopen : ∀ o, w.position ≠ .finished o) :
    ∃ ys, Step timeout r ys (r.advance i w) := by
  cases hp : w.position with
  | looking =>
    have hacts : Slot.Acts (δ := Stream.Delivery) r.cursor.id r.gathering _ _ :=
      .look r.gathering i w hw hp
    have hnot : (w.step r.cursor.id r.gathering.now r.gathering.slot).abandons = false := by
      rw [Waiter.step, hp]
      dsimp only
      split <;> rfl
    rw [advance, hnot]
    exact ⟨_, .look r i _ _ hi hacts⟩
  | cancelling =>
    exact ⟨_, .expire r i _ _ hi (.expire (δ := Stream.Delivery) r.gathering i w hw hp)⟩
  | finished o => exact absurd hp (hopen o)

omit hi in
private theorem advance_here : (r.advance i w).gathering.waiters[i]? =
    some (w.step r.cursor.id r.gathering.now r.gathering.slot).waiter := by
  simp [advance, (List.getElem?_eq_some_iff.mp hw).1]

end Caller

/-- Whoever wins is finished at once, with a search that is done. -/
private theorem step_of_abandons {id : MessageId} {now : Nat} {w : Waiter Message} {s : Stream}
    (h : (w.step id now s).abandons = true) : (∃ o, (w.step id now s).waiter.position = .finished o) ∧
      (w.step id now s).slot.isDone = true ∧ (w.step id now s).sleeps = false := by
  rw [Waiter.step] at h ⊢
  split at h
  · cases h
  · split at h <;> cases h
  · next hp =>
    split at h
    · next heq =>
      have hdone := (congrArg (fun p => p.2.isDone) heq).symm.trans (Stream.isDone_of_cancel true s)
      exact ⟨⟨_, rfl⟩, hdone, rfl⟩
    · cases h

structure Waits (i : Nat) (r : Reading) (abandons : Bool) (step : Slot.Step Stream Message)
    (r' : Reading) : Prop where
  cursor : r'.cursor = r.cursor
  caller : r'.caller = r.caller
  isGone : r'.isGone = r.isGone
  slot : r'.gathering.slot = step.slot
  here : ∃ w, r'.gathering.waiters[i]? = some w ∧ w.position = step.waiter.position
  owed : r'.gathering.owed + abandons.toNat = r.gathering.owed + step.abandons.toNat
  isDone : step.abandons = true → step.slot.isDone = true

variable (timeout) in
/-- A caller that goes on until it is finished or sleeps makes one section after the other. -/
private theorem go_steps {i : Nat} (n : Nat) (w₀ : Waiter Message) (abandons : Bool) {r : Reading}
    {w : Waiter Message} (hi : r.caller = some i) (hw : r.gathering.waiters[i]? = some w)
    (hp : w₀.position = w.position)
    (hlate : w₀.deadline.any (· ≤ 0) = w.deadline.any (· ≤ r.gathering.now))
    (hwon : abandons = true → (∃ o, w.position = .finished o) ∧ r.gathering.slot.isDone = true) :
    ∃ ys r', Steps timeout r ys r' ∧
      Waits i r abandons (Waiter.run.go r.cursor.id 0 n w₀ r.gathering.slot abandons) r' := by
  induction n generalizing r w w₀ abandons with
  | zero =>
    exact ⟨[], r, .refl r, ⟨rfl, rfl, rfl, rfl, ⟨w, hw, hp.symm⟩, rfl, fun h => (hwon h).2⟩⟩
  | succ n ih =>
    obtain ⟨hslot, hsleeps, habandons, hposition⟩ :=
      Waiter.step_congr r.cursor.id r.gathering.slot hp hlate
    by_cases hfinished : ∃ o, w.position = .finished o
    · obtain ⟨o, ho⟩ := hfinished
      have hstep : w₀.step r.cursor.id 0 r.gathering.slot =
          { waiter := w₀, slot := r.gathering.slot, sleeps := true } := by
        rw [Waiter.step, hp, ho]
      rw [Waiter.run.go, hstep]
      exact ⟨[], r, .refl r, ⟨rfl, rfl, rfl, rfl, ⟨w, hw, hp.symm⟩, by simp, by simpa using
        fun h => (hwon h).2⟩⟩
    · have hopen : ∀ o, w.position ≠ .finished o := fun o ho => hfinished ⟨o, ho⟩
      obtain rfl : abandons = false := Bool.eq_false_iff.mpr fun h => hfinished (hwon h).1
      obtain ⟨ys, hstep⟩ : ∃ ys, Step timeout r ys (r.advance i w) :=
        exists_step_advance hi hw hopen
      have hdeadline := Waiter.step_deadline r.cursor.id 0 w₀ r.gathering.slot
      have hdeadline' := Waiter.step_deadline r.cursor.id r.gathering.now w r.gathering.slot
      rw [Waiter.run.go, Bool.false_or]
      generalize hst : w₀.step r.cursor.id 0 r.gathering.slot = st at *
      have howed : (r.advance i w).gathering.owed = r.gathering.owed + st.abandons.toNat := by
        rw [advance, ← habandons]
      split
      · next hsleep =>
        refine ⟨ys ++ [], _, .step hstep (.refl _), rfl, rfl, rfl, hslot.symm,
          ⟨_, advance_here hw, hposition.symm⟩, howed, fun h => ?_⟩
        rw [← hst] at h hsleep
        cases hsleep.symm.trans (step_of_abandons h).2.2
      · have hwon' : st.abandons = true →
            (∃ o, (w.step r.cursor.id r.gathering.now r.gathering.slot).waiter.position =
              .finished o) ∧ (r.advance i w).gathering.slot.isDone = true := fun h =>
          have hw := step_of_abandons (habandons.symm.trans h)
          ⟨hw.1, hw.2.1⟩
        obtain ⟨zs, r', hsteps, hwaits⟩ := ih st.waiter st.abandons (r := r.advance i w) hi
          (advance_here hw) hposition (by rw [hdeadline, hdeadline']; exact hlate) hwon'
        rw [show (r.advance i w).gathering.slot = st.slot from hslot.symm] at hwaits
        change Waits i (r.advance i w) st.abandons
          (Waiter.run.go r.cursor.id 0 n st.waiter st.slot st.abandons) r' at hwaits
        have hboth := hwaits.owed
        rw [howed] at hboth
        exact ⟨ys ++ zs, r', .step hstep hsteps, hwaits.cursor, hwaits.caller, hwaits.isGone,
          hwaits.slot, hwaits.here, by rw [Bool.toNat_false]; omega, hwaits.isDone⟩

theorem receive_result (c : Cursor) (s : Stream) (o : Outcome Message) :
    ∃ result, (c.receive s o).result = some result := by
  have h := c.receive_received s o
  generalize c.receive s o = m at h
  cases h <;> exact ⟨_, rfl⟩

/-- What a move of the cursor comes to: it waits, or it is idle again and has returned. -/
structure Comes (r : Reading) (m : Move Cursor (Outcome Bool)) (ys : List Occurrence)
    (r' : Reading) : Prop where
  slot : r'.gathering.slot = m.stream
  owed : r'.gathering.owed = r.gathering.owed + m.abandons.toNat
  cursor : r'.cursor = m.reader
  waits : m.result = none → r'.caller = some r.gathering.waiters.length
  returns : ∀ result, m.result = some result →
    r'.isIdle = true ∧ ∃ zs, ys = zs ++ [.returned result m.reader]

/-- Asking a cursor for the next response is a sequence of steps: it waits if there is none, and returns
with what it has made of the response otherwise. -/
theorem next_steps (late : Bool) (r : Reading) (hidle : r.isIdle = true) :
    ∃ ys r', Steps (if late then some 0 else none) r ys r' ∧
      Comes r (r.cursor.next late r.gathering.slot) ys r' := by
  generalize hd : (if late then some 0 else none : Option Nat) = timeout
  by_cases hover : r.cursor.isOver = true
  · refine ⟨_, r, .step (.stay r hidle hover) (.refl r), ?_⟩
    rw [Cursor.next, if_pos hover]
    exact ⟨rfl, rfl, rfl, nofun, fun result h => ⟨hidle, [], by cases h; rfl⟩⟩
  · have hbegin : Step timeout r _ _ := .begin r hidle (Bool.eq_false_iff.mpr hover)
    have hlate : timeout.any (· ≤ 0) =
        (Slot.deadline r.gathering.now timeout).any (· ≤ r.gathering.now) := by
      cases late <;> simp [← hd, Slot.deadline]
    obtain ⟨ys, r', hsteps, hwaits⟩ := go_steps timeout 4 { deadline := timeout } false
      (r := r.await timeout) (w := { deadline := Slot.deadline r.gathering.now timeout }) rfl
      (by simp [await]) rfl hlate nofun
    change Waits _ _ _ (Waiter.run r.cursor.id 0 { deadline := timeout } r.gathering.slot) r'
      at hwaits
    rw [Cursor.next, if_neg hover, hd]
    dsimp only
    generalize Waiter.run r.cursor.id 0 { deadline := timeout } r.gathering.slot = st at hwaits ⊢
    obtain ⟨w, hw, hposition⟩ := hwaits.here
    have hout : st.waiter.outcome? = w.outcome? := by
      rw [Waiter.outcome?, Waiter.outcome?, hposition]
    have howed : r'.gathering.owed = r.gathering.owed + st.abandons.toNat := hwaits.owed
    split
    · exact ⟨_, r', .step hbegin hsteps, hwaits.slot, howed, hwaits.cursor, fun _ => hwaits.caller,
        fun _ h => by cases h⟩
    · next o ho =>
      obtain ⟨result, hresult⟩ := receive_result r.cursor st.slot o
      have hcursor : r'.cursor = r.cursor := hwaits.cursor
      have hreceive : Step timeout r' _ _ := .receive r' _ w o result hwaits.caller hw
        (hout.symm.trans ho) (by rw [hcursor, hwaits.slot]; exact hresult)
      have honce := (receive_leaves r.cursor st.slot o).once hwaits.isDone
      rw [hcursor, hwaits.slot] at hreceive
      refine ⟨_, _, .step hbegin (hsteps.trans (.step hreceive (.refl _))), rfl, ?_, rfl, ?_, ?_⟩
      · change r'.gathering.owed + _ = _
        rw [howed, ← honce, Nat.add_assoc]
      · exact fun hnone => by cases hresult.symm.trans hnone
      · intro result' h
        obtain rfl := Option.some_inj.mp (hresult.symm.trans h)
        refine ⟨?_, ys ++ r'.sections (r.cursor.receive st.slot o), by simp⟩
        have hgone : r'.isGone = r.isGone := hwaits.isGone
        rw [isIdle, Bool.and_eq_true] at hidle
        simpa [isIdle, move, hgone] using hidle.2

end Reading

end Cursor

end DirectoryClient
