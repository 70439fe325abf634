import DirectoryClient.Proofs.Cursor.Stages

/-! One step of a reading after the other leads the cursor from stage to stage. -/
namespace DirectoryClient

namespace Cursor

open Slot (Gathering Acts Event Section Waiter Finding)

namespace Reading

variable {timeout : Option Nat} {xs ys : List Occurrence} {r r' : Reading}

section Caller

variable {i : Nat} {w : Waiter Message}

/-- A cursor for which a caller is about to look, or to give up, waits. -/
theorem Stage.of_unfinished (h : Stage xs r) (hi : r.caller = some i)
    (hw : r.gathering.waiters[i]? = some w) (hnone : w.outcome? = none) :
    r.cursor.isOver = false ∧ r.cursor.done = none ∧ r.gathering.slot.phase ≠ .cancelled true ∧
      Stream.read (moments xs) = visited xs ∧
      (w.position = .looking ∨ w.position = .cancelling ∧ Lapsed i xs) := by
  cases h with
  | waiting j w' hc ho hd hp he hw' hpos =>
    obtain rfl := Option.some_inj.mp (hi.symm.trans hc)
    obtain rfl := Option.some_inj.mp (hw.symm.trans hw')
    exact ⟨ho, hd, hp, he, hpos⟩
  | holding j w' m hc ho hd hp he hw' hpos =>
    obtain rfl := Option.some_inj.mp (hi.symm.trans hc)
    obtain rfl := Option.some_inj.mp (hw.symm.trans hw')
    simp [Waiter.outcome?, hpos] at hnone
  | failing j w' e hc ho hd he hw' hpos =>
    obtain rfl := Option.some_inj.mp (hi.symm.trans hc)
    obtain rfl := Option.some_inj.mp (hw.symm.trans hw')
    simp [Waiter.outcome?, hpos] at hnone
  | resting hc | ended rest hc => cases hi.symm.trans hc

/-- What a caller who is about to return has got: a response that nobody has looked at, or a failure. -/
inductive Returning (xs : List Occurrence) (r : Reading) (i : Nat) : Outcome Message → Prop
  | response (m : Message) : Stream.read (moments xs) = visited xs ++ [m] → Returning xs r i (.ok m)
  | failure (e : DirectoryError) : Stream.read (moments xs) = visited xs →
    Spent r.cursor.id i xs r.gathering.slot e → Returning xs r i (.error e)

/-- A cursor for which a caller is about to return is on its way. -/
theorem Stage.of_finished (h : Stage xs r) (hi : r.caller = some i)
    (hw : r.gathering.waiters[i]? = some w) {o : Outcome Message} (hout : w.outcome? = some o) :
    r.cursor.isOver = false ∧ r.cursor.done = none ∧
      ((∃ m, o = .ok m) → r.gathering.slot.phase ≠ .cancelled true) ∧ Returning xs r i o := by
  cases h with
  | holding j w' m hc ho hd hp he hw' hpos =>
    obtain rfl := Option.some_inj.mp (hi.symm.trans hc)
    obtain rfl := Option.some_inj.mp (hw.symm.trans hw')
    obtain rfl : Except.ok m = o := by simpa [Waiter.outcome?, hpos] using hout
    exact ⟨ho, hd, fun _ => hp, .response m he⟩
  | failing j w' e hc ho hd he hw' hpos hspent =>
    obtain rfl := Option.some_inj.mp (hi.symm.trans hc)
    obtain rfl := Option.some_inj.mp (hw.symm.trans hw')
    obtain rfl : Except.error e = o := by simpa [Waiter.outcome?, hpos] using hout
    exact ⟨ho, hd, by rintro ⟨m, ⟨⟩⟩, .failure e he hspent⟩
  | waiting j w' hc ho hd hp he hw' hpos =>
    obtain rfl := Option.some_inj.mp (hi.symm.trans hc)
    obtain rfl := Option.some_inj.mp (hw.symm.trans hw')
    rcases hpos with hpos | ⟨hpos, -⟩ <;> simp [Waiter.outcome?, hpos] at hout
  | resting hc | ended rest hc => cases hi.symm.trans hc

end Caller

theorem caller_of_isIdle (hidle : r.isIdle = true) : r.caller = none := by
  rw [isIdle, Bool.and_eq_true] at hidle
  simpa using hidle.1

private theorem visited_concat_seen (x : Stream.Moment) : visited (xs ++ [.seen x]) = visited xs := by
  rw [visited_append, visited_seen, List.append_nil]

private theorem begin_sound (h : Sound xs r) (hidle : r.isIdle = true) (ho : r.cursor.isOver = false) :
    Sound (xs ++ []) (r.await timeout) := by
  rw [List.append_nil]
  refine ⟨h.uncancelled, h.forsaken, h.positions, nofun, ?_⟩
  have hnone := caller_of_isIdle hidle
  cases h.stage with
  | resting hc _ hd hp he =>
    exact .waiting _ { deadline := Slot.deadline r.gathering.now timeout } rfl ho hd hp he
      (by simp [await]) (.inl rfl)
  | waiting i w hc | holding i w m hc | failing i w e hc => cases hnone.symm.trans hc
  | ended rest hc ho' => cases ho.symm.trans ho'

/-- The caller returns with a failure, unless the search has come to its last response. -/
private theorem Stage.of_error (h : Sound xs r) (hflow : Stream.Flow (moments xs) r.gathering.slot)
    (hp : r.gathering.slot.phase ≠ .cancelled true) (he : Stream.read (moments xs) = visited xs)
    {late : Bool} {e : DirectoryError} {i : Nat}
    (hfound : (r.gathering.slot.examine r.cursor.id late).1 = .settled (.error e)) :
    Spent r.cursor.id i xs r.gathering.slot e := by
  rcases Stream.examine_error hfound with ⟨hi, -⟩ | ⟨-, hqueue, hrest⟩
  · exact absurd hi hp
  · rcases hrest with ⟨hc, -⟩ | ⟨-, hf⟩ | ⟨hc, -⟩
    · -- the last response would have been visited
      obtain ⟨m, hm, hdone⟩ := hflow.completed hc
      rw [hflow.inOrder hp, hqueue, List.append_nil, he] at hm
      exact absurd hdone (Message.kind_of_isPosition (h.positions m hm))
    · exact .failed e hp hqueue hf
    · exact absurd hc h.uncancelled

private theorem look_sound (h : Sound xs r)
    (hrun : Slot.Run r.cursor.id ({} : Stream) (moments xs) r.gathering) {i : Nat}
    {f : Finding Message} {g : Gathering Stream Message} (hi : r.caller = some i)
    (hacts : Acts (δ := Stream.Delivery) r.cursor.id r.gathering (.looked i f) g) :
    Sound (xs ++ [.seen ⟨r.gathering.now, r.gathering.slot, .looked i f, g.slot⟩])
      { r with gathering := g } := by
  have hflow := Stream.run_flow hrun
  obtain ⟨w, late, hw, hlooking, hfound, rfl⟩ := hacts.of_looked
  obtain ⟨ho, hd, hp, he, -⟩ := h.stage.of_unfinished hi hw (by simp [Waiter.outcome?, hlooking])
  have hlt := (List.getElem?_eq_some_iff.mp hw).1
  have hhere : ∀ w' : Waiter Message, (r.gathering.waiters.set i w')[i]? = some w' := by simp [hlt]
  change (r.gathering.slot.examine r.cursor.id late).1 = f at hfound
  change Sound (xs ++ [.seen ⟨_, _, _, (r.gathering.slot.examine r.cursor.id late).2⟩])
    { r with gathering := { r.gathering with
      slot := (r.gathering.slot.examine r.cursor.id late).2, waiters := _ } }
  generalize hx : (⟨r.gathering.now, r.gathering.slot, .looked i f,
    (r.gathering.slot.examine r.cursor.id late).2⟩ : Stream.Moment) = x
  have hread : Stream.read (moments (xs ++ [.seen x])) =
      Stream.read (moments xs) ++ (Stream.reads? x).toList := by
    rw [moments_append, moments_seen, Stream.read_concat]
  have hvisited : visited (xs ++ [.seen x]) = visited xs := visited_concat_seen x
  rcases r.gathering.slot.examine_cases r.cursor.id late with
    ⟨m, ms, -, hqueue, heq⟩ | ⟨hsame, hnot⟩
  · -- a response is taken out of the slot
    obtain rfl : f = .settled (.ok m) := by rw [← hfound, heq]
    rw [heq]
    refine ⟨h.uncancelled, h.forsaken, hvisited ▸ h.positions, ?_, ?_⟩
    · exact fun m' _ hc => by cases hi.symm.trans hc
    · refine .holding i _ m hi ho hd hp ?_ (hhere _) rfl
      rw [hread, hvisited, he, ← hx]
      rfl
  · -- the slot stays as it is
    have hnone : Stream.reads? x = none := by
      rw [← hx, Stream.reads?]
      split
      · next m heq => exact absurd (hfound.trans (Event.looked.inj heq).2) (hnot m)
      · rfl
    have hread' : Stream.read (moments (xs ++ [.seen x])) = visited (xs ++ [.seen x]) := by
      rw [hread, hvisited, he, hnone]
      simp
    rw [hsame]
    refine ⟨h.uncancelled, h.forsaken, hvisited ▸ h.positions, ?_, ?_⟩
    · exact fun m' _ hc => by cases hi.symm.trans hc
    · cases f with
      | settled o =>
        cases o with
        | ok m => exact absurd hfound (hnot m)
        | error e =>
          exact .failing i _ e hi ho hd hread' (hhere _) rfl
            ((Stage.of_error h hflow hp he hfound).append (visited_seen x))
      | blocked => exact .waiting i _ hi ho hd hp hread' (hhere _) (.inl rfl)
      | lapsed =>
        refine .waiting i _ hi ho hd hp hread' (hhere _) (.inr ⟨rfl, moments xs, x, ?_, ?_, ?_⟩)
        · simp only [moments_append, moments_seen, List.prefix_refl]
        · rw [← hx]
        · rw [hvisited, hflow.inOrder hp, (Stream.queue_of_lapsed hfound).2, List.append_nil, he]

private theorem expire_sound (h : Sound xs r) {i : Nat} {won : Bool} {g : Gathering Stream Message}
    (hi : r.caller = some i)
    (hacts : Acts (δ := Stream.Delivery) r.cursor.id r.gathering (.expired i won) g) :
    Sound (xs ++ [.seen ⟨r.gathering.now, r.gathering.slot, .expired i won, g.slot⟩])
      { r with gathering := g } := by
  obtain ⟨w, hw, hcancelling, hwon, rfl⟩ := hacts.of_expired
  obtain ⟨ho, hd, hp, he, hlate⟩ :=
    h.stage.of_unfinished hi hw (by simp [Waiter.outcome?, hcancelling])
  have hlapsed : Lapsed i xs := by
    rcases hlate with hlooking | ⟨-, hl⟩
    · cases hcancelling.symm.trans hlooking
    · exact hl
  have hlt := (List.getElem?_eq_some_iff.mp hw).1
  have hhere : ∀ w' : Waiter Message, (r.gathering.waiters.set i w')[i]? = some w' := by simp [hlt]
  change (r.gathering.slot.cancel true).1 = won at hwon
  change Sound (xs ++ [.seen ⟨_, _, _, (r.gathering.slot.cancel true).2⟩])
    { r with gathering := { r.gathering with
      slot := (r.gathering.slot.cancel true).2, waiters := _, owed := _ } }
  generalize hx : (⟨r.gathering.now, r.gathering.slot, .expired i won,
    (r.gathering.slot.cancel true).2⟩ : Stream.Moment) = x
  have hread : Stream.read (moments (xs ++ [.seen x])) = visited (xs ++ [.seen x]) := by
    rw [moments_append, moments_seen, Stream.read_concat, visited_concat_seen, he, ← hx]
    exact List.append_nil _
  have hvisited : visited (xs ++ [.seen x]) = visited xs := visited_concat_seen x
  have hstanding : ∀ m, r.cursor.place = .on m → r.caller = none →
      (visited (xs ++ [.seen x])).getLast? = some m := fun m' _ hc => by cases hi.symm.trans hc
  rcases r.gathering.slot.cancel_cases true with ⟨hpending, hnone, heq⟩ | hlost
  · rw [heq] at hwon
    subst hwon
    rw [heq]
    refine ⟨by simp, h.forsaken, hvisited ▸ h.positions, hstanding, ?_⟩
    refine .failing i _ _ hi ho hd hread (hhere _) rfl (.late rfl ⟨x, ?_, ?_⟩ (hlapsed.append rfl))
    · simp [moments_append]
    · rw [← hx]
  · rw [hlost] at hwon
    subst hwon
    rw [hlost]
    exact ⟨h.uncancelled, h.forsaken, hvisited ▸ h.positions, hstanding,
      .waiting i _ hi ho hd hp hread (hhere _) (.inl rfl)⟩

section Moves

variable {α : Type} {m : Move Cursor α}

private theorem read_sections : Stream.read (moments (r.sections m)) = [] := by
  rw [sections]
  split <;> rfl

@[simp]
theorem visited_sections : visited (r.sections m) = [] := by
  rw [sections]
  split <;> rfl

private theorem read_move {y : Occurrence} (hy : y.moment? = none) :
    Stream.read (moments (xs ++ (r.sections m ++ [y]))) = Stream.read (moments xs) := by
  rw [← List.append_assoc, moments_concat hy, moments_append, Stream.read, List.filterMap_append]
  exact (congrArg _ read_sections).trans (List.append_nil _)

/-- A move leaves the slot not half given up, and the supplier to itself. -/
private theorem move_slot (h : Sound xs r) (hm : Leaves r.gathering.slot m) :
    (r.move m).gathering.slot.phase ≠ .cancelled false ∧
      ((r.move m).gathering.slot.failure.isSome → (r.move m).gathering.hasSupplier = false) := by
  cases hm with
  | givesUp _ hs =>
    rcases r.gathering.slot.cancel_cases true with ⟨-, hnone, heq⟩ | hlost
    · obtain ⟨-, hslot⟩ := Prod.mk.inj (heq.symm.trans hs)
      rw [move, ← hslot]
      exact ⟨by simp, by simp [hnone]⟩
    · cases (Prod.mk.inj (hlost.symm.trans hs)).1
  | alone _ hs =>
    rw [move, hs]
    exact ⟨h.uncancelled, h.forsaken⟩

/-- A cursor that is over has come to its end with what has been read for it. -/
private theorem Sound.ended (h : Sound xs r) (hm : Leaves r.gathering.slot m) {y : Occurrence}
    (hy : y.moment? = none) (hvisits : y.visits? = none) (rest : Option Message)
    (he : Stream.read (moments xs) = visited xs ++ rest.toList)
    (hrest : ∀ m ∈ rest, m.isPosition = false) (ho : m.reader.isOver = true)
    (hd : m.reader.done = rest.bind Message.final?)
    (hex : m.reader.place = .exhausted → m.reader.done.isSome) (hdone : m.stream.isDone = true) :
    Sound (xs ++ (r.sections m ++ [y])) (r.move m) := by
  obtain ⟨huncancelled, hforsaken⟩ := move_slot h hm
  have hv : visited (xs ++ (r.sections m ++ [y])) = visited xs := by
    rw [← List.append_assoc, visited_concat, hvisits, visited_append, visited_sections]
    simp
  have hon : ∀ m', m.reader.place ≠ .on m' := fun m' hm' => by simp [isOver, hm'] at ho
  refine ⟨huncancelled, hforsaken, hv ▸ h.positions, fun m' hm' => absurd hm' (hon m'), ?_⟩
  exact .ended rest rfl ho hdone (by rw [read_move hy, hv, he]) hrest hd hon hex

end Moves

private theorem fail_isDone (c : Cursor) (s : Stream) (cause : DirectoryError) :
    (c.fail s cause).stream.isDone = true :=
  Stream.isDone_of_cancel true s

private theorem close_isDone {c : Cursor} (s : Stream) (ho : c.isOver = false) :
    (c.close s).stream.isDone = true := by
  rw [Cursor.close]
  split
  · exact Stream.isDone_of_cancel true s
  · exact Stream.isDone_of_cancel true s
  · next hstart hon =>
    rw [isOver] at ho
    split at ho
    · cases ho
    · cases ho
    · cases ho
    · next h1 h2 h3 =>
      cases hp : c.place with
      | start => exact absurd hp hstart
      | on m => exact absurd hp (hon m)
      | exhausted => exact absurd hp h1
      | closed => exact absurd hp h2
      | failed => exact absurd hp h3

theorem close_over {c : Cursor} (s : Stream) (ho : c.isOver = true) : (c.close s).stream = s := by
  rw [Cursor.close]
  split
  · next h => simp [isOver, h] at ho
  · next h => simp [isOver, h] at ho
  · rfl

theorem close_reader (c : Cursor) (s : Stream) :
    (c.close s).reader = { c with place := .closed } := by
  rw [Cursor.close]
  split <;> rfl

private theorem receive_sound (h : Sound xs r)
    (hrun : Slot.Run r.cursor.id ({} : Stream) (moments xs) r.gathering) {i : Nat}
    {w : Waiter Message} {o : Outcome Message} {result : Outcome Bool} (hi : r.caller = some i)
    (hw : r.gathering.waiters[i]? = some w) (hout : w.outcome? = some o)
    (hresult : (r.cursor.receive r.gathering.slot o).result = some result) :
    Sound (xs ++ (r.sections (r.cursor.receive r.gathering.slot o) ++
        [.returned result (r.cursor.receive r.gathering.slot o).reader]))
      (r.move (r.cursor.receive r.gathering.slot o)) := by
  have hleaves := r.cursor.receive_leaves r.gathering.slot o
  have hreceived := r.cursor.receive_received r.gathering.slot o
  have hflow := Stream.run_flow hrun
  generalize r.cursor.receive r.gathering.slot o = m at *
  obtain ⟨-, hd, hp, hreturning⟩ := h.stage.of_finished hi hw hout
  cases hreturning with
  | response m' he =>
    cases hreceived with
    | position m' hposition =>
      cases hresult
      have hv : visited (xs ++ [.returned (.ok true) { r.cursor with place := .on m' }]) =
          visited xs ++ [m'] := visited_concat _ _
      change Sound (xs ++ [_]) _
      refine ⟨h.uncancelled, h.forsaken, ?_, ?_, ?_⟩
      · rw [hv]
        intro x hx
        rcases List.mem_append.mp hx with hx | hx
        · exact h.positions x hx
        · exact (List.mem_singleton.mp hx) ▸ hposition
      · intro x hx _
        rw [hv]
        cases hx
        simp
      · refine .resting rfl rfl hd (hp ⟨m', rfl⟩) ?_
        rw [hv, ← he]
        exact congrArg Stream.read (moments_concat rfl)
    | done m' final hfinal =>
      cases hresult
      refine h.ended hleaves rfl rfl (some m') he ?_ rfl ?_ (fun _ => rfl) ?_
      · simp [Message.isPosition, hfinal]
      · simp [Message.final?, hfinal]
      · obtain ⟨ms, hms⟩ := hflow.readFirst
        rw [he] at hms
        have hc := (hflow.lastDone (visited xs) m' ms (by rw [← hms]; simp)
          (by simp [Message.kind, hfinal, Response.kind])).2
        simp [Stream.isDone, hc]
    | unexpected m' hposition hkind =>
      cases hresult
      refine h.ended hleaves rfl rfl (some m') he (by simpa using hposition) rfl ?_
        (fun h => by cases h) (fail_isDone _ _ _)
      have hnone : m'.final? = none := by
        rw [Message.final?]
        split
        · next r hr => simp [Message.kind, hr, Response.kind] at hkind
        · rfl
      simpa [fail, hnone] using hd
  | failure e he =>
    cases hreceived with
    | failed e =>
      cases hresult
      exact h.ended hleaves rfl rfl none (by simpa using he) (by simp) rfl hd (fun h => by cases h)
        (fail_isDone _ _ _)

private theorem close_sound (h : Sound xs r) (hidle : r.isIdle = true) {y : Occurrence}
    (hy : y.moment? = none) (hvisits : y.visits? = none) :
    Sound (xs ++ (r.sections (r.cursor.close r.gathering.slot) ++ [y]))
      (r.move (r.cursor.close r.gathering.slot)) := by
  have hnone := caller_of_isIdle hidle
  have hleaves := r.cursor.close_leaves r.gathering.slot
  have hreader := close_reader r.cursor r.gathering.slot
  have ends := fun rest he hrest hd hdone => h.ended hleaves hy hvisits rest he hrest
    (by rw [hreader]; rfl) (by rw [hreader]; exact hd) (by rw [hreader]; exact nofun) hdone
  cases h.stage with
  | resting hc ho hd hp he => exact ends none (by simpa using he) nofun hd (close_isDone _ ho)
  | ended rest hc ho hdone he hrest hd =>
    exact ends rest he hrest hd (by rw [close_over _ ho]; exact hdone)
  | waiting i w hc | holding i w m hc | failing i w e hc => cases hnone.symm.trans hc

private theorem Step.sound (hs : Step timeout r ys r') (h : Sound xs r)
    (hrun : Slot.Run r.cursor.id ({} : Stream) (moments xs) r.gathering) :
    Sound (xs ++ ys) r' := by
  cases hs with
  | deliver d g hacts =>
    cases hacts with
    | deliver _ hd =>
      have hnone : r.gathering.slot.failure = none := by
        cases hf : r.gathering.slot.failure with
        | none => rfl
        | some e => cases hd.symm.trans (h.forsaken (by simp [hf]))
      refine h.quiet (deliver_quiet d hnone) (fun hf => ?_) rfl rfl rfl rfl rfl
      cases d with
      | push m => cases (Stream.push_failure m _).trans hnone ▸ hf
      | fail | forsake => rfl
  | abandon g hacts =>
    cases hacts with
    | abandon n hn => exact h.quiet (.refl _) h.forsaken rfl rfl rfl rfl rfl
  | pass | use | stay | refuse => exact h.quiet (.refl _) h.forsaken rfl rfl rfl rfl rfl
  | begin hidle ho => exact begin_sound h hidle ho
  | look i f g hi hacts => exact look_sound h hrun hi hacts
  | expire i won g hi hacts => exact expire_sound h hi hacts
  | receive i w o result hi hw ho hresult => exact receive_sound h hrun hi hw ho hresult
  | close hidle => exact close_sound h hidle rfl rfl
  | drop hidle =>
    have hclosed := close_sound (y := .dropped) h hidle rfl rfl
    rw [← List.append_nil (xs ++ _)]
    exact hclosed.quiet (.refl _) hclosed.forsaken rfl rfl rfl rfl rfl

theorem Run.sound {id : MessageId} (h : Run id timeout xs r) : Sound xs r := by
  induction h with
  | start => exact ⟨nofun, nofun, nofun, nofun, .resting rfl rfl rfl nofun rfl⟩
  | step h hs ih =>
    obtain ⟨rfl, hrun⟩ := h.slotRun
    exact hs.sound ih hrun

end Reading

end Cursor

end DirectoryClient
