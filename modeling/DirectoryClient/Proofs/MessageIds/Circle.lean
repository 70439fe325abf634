import DirectoryClient.Line
import Mathlib.Data.List.Nodup
import Mathlib.Data.List.Perm.Subperm
import Mathlib.Order.WellFounded

/-! Message ids run in a circle. The search for a free id, one candidate after the other and with nothing
to bound it, comes to an end, and finds the first free id after the last one. -/
namespace DirectoryClient

namespace MessageIds

structure IsFree (ids : MessageIds) (id : MessageId) : Prop where
  pos : 1 ≤ id
  le : id ≤ largest
  unused : id ∉ ids.used

/-- How many ids of the circle 1, 2, …, largest, 1, … come after the last one and before this one. -/
def ahead (ids : MessageIds) (id : MessageId) : Int := (id - ids.last - 1) % largest

/-- The search for a free id, from a candidate on: the ids that are passed over, and what is found,
unless the search comes back to the last id. -/
inductive Seeks (ids : MessageIds) : MessageId → List MessageId → Option MessageId → Prop
  | free {id : MessageId} : id ∉ ids.used → Seeks ids id [] (some id)
  | round {id : MessageId} : id ∈ ids.used → id = ids.last → Seeks ids id [] none
  | on {id : MessageId} {passed : List MessageId} {found : Option MessageId} : id ∈ ids.used →
    id ≠ ids.last → Seeks ids (successor id) passed found → Seeks ids id (id :: passed) found

section Circle

variable {ids : MessageIds} {id id' : MessageId}

private theorem successor_mem (hpos : 0 ≤ id) (hle : id ≤ largest) :
    1 ≤ successor id ∧ successor id ≤ largest := by
  rw [successor]
  split
  · exact ⟨Int.le_refl 1, by decide⟩
  · simp only [MessageId, largest] at *
    omega

private theorem ahead_nonneg (ids : MessageIds) (id : MessageId) : 0 ≤ ids.ahead id :=
  Int.emod_nonneg _ (by decide)

private theorem ahead_lt (ids : MessageIds) (id : MessageId) : ids.ahead id < largest :=
  Int.emod_lt_of_pos _ (by decide)

private theorem ahead_successor_last : ids.ahead (successor ids.last) = 0 := by
  rw [ahead, successor]
  split
  · rename_i hlast
    rw [hlast]
    decide
  · rw [show ids.last + 1 - ids.last - 1 = 0 by simp only [MessageId] at *; omega]
    rfl

private theorem ahead_last : ids.ahead ids.last = largest - 1 := by
  simp only [ahead, largest]
  omega

private theorem ahead_successor (h : ids.ahead id + 1 < largest) :
    ids.ahead (successor id) = ids.ahead id + 1 := by
  simp only [ahead, largest] at h ⊢
  rw [successor]
  split
  · rename_i hid
    rw [hid] at h ⊢
    simp only [largest] at h ⊢
    omega
  · omega

private theorem eq_of_ahead_eq (hid : 1 ≤ id ∧ id ≤ largest) (hid' : 1 ≤ id' ∧ id' ≤ largest)
    (h : ids.ahead id = ids.ahead id') : id = id' := by
  simp only [ahead, largest, MessageId] at *
  omega

end Circle

section Search

variable {ids : MessageIds} {id stop : MessageId} {passed : List MessageId}
  {found : Option MessageId}

/-- A search goes through the circle up to the first place where it ends, and passes no id twice. -/
private theorem seeks_of_stop (hstop : Seeks ids stop [] found) (hrange : 1 ≤ stop ∧ stop ≤ largest)
    (hbefore : ∀ i, 1 ≤ i → i ≤ largest → ids.ahead i < ids.ahead stop → i ∈ ids.used)
    (hid : 1 ≤ id ∧ id ≤ largest) (hle : ids.ahead id ≤ ids.ahead stop) :
    ∃ passed, Seeks ids id passed found ∧ passed.Nodup ∧
      ∀ i ∈ passed, i ∈ ids.used ∧ i ≤ largest ∧ ids.ahead id ≤ ids.ahead i := by
  -- the induction is on the number of ids between the candidate and the end
  generalize hn : (ids.ahead stop - ids.ahead id).toNat = n
  induction n generalizing id with
  | zero =>
    have hsame : ids.ahead id = ids.ahead stop := by omega
    obtain rfl := eq_of_ahead_eq hid hrange hsame
    exact ⟨[], hstop, .nil, by simp⟩
  | succ n ih =>
    have hlt : ids.ahead id < ids.ahead stop := by omega
    have hused : id ∈ ids.used := hbefore id hid.1 hid.2 hlt
    have hstop_lt := ids.ahead_lt stop
    have hne : id ≠ ids.last := by
      rintro rfl
      rw [ahead_last] at hlt
      omega
    have hnext : ids.ahead (successor id) = ids.ahead id + 1 := ahead_successor (by omega)
    obtain ⟨passed, hseeks, hnodup, hpassed⟩ :=
      ih (successor_mem (Int.le_trans (by decide) hid.1) hid.2) (by omega) (by omega)
    refine ⟨id :: passed, .on hused hne hseeks, List.nodup_cons.mpr ⟨fun hmem => ?_, hnodup⟩, ?_⟩
    · have hahead := (hpassed id hmem).2.2
      omega
    · refine List.forall_mem_cons.mpr ⟨⟨hused, hid.2, Int.le_refl _⟩, fun i hi => ?_⟩
      obtain ⟨hi_used, hi_le, hahead⟩ := hpassed i hi
      exact ⟨hi_used, hi_le, by omega⟩

private theorem exists_first (h : ids.IsFree id) :
    ∃ first, ids.IsFree first ∧ ∀ i, ids.IsFree i → ids.ahead first ≤ ids.ahead i := by
  obtain ⟨first, hfirst, hmin⟩ :=
    (measure fun i => (ids.ahead i).toNat).wf.has_min {i | ids.IsFree i} ⟨id, h⟩
  refine ⟨first, hfirst, fun i hi => ?_⟩
  have hnot : ¬(ids.ahead i).toNat < (ids.ahead first).toNat := hmin i hi
  have hfirst_pos := ids.ahead_nonneg first
  have hi_pos := ids.ahead_nonneg i
  omega

/-- With one try for each id that is passed over, and one more, the search is not cut short. -/
private theorem firstFree_of_seeks {tries : Nat} (h : Seeks ids id passed found)
    (htries : passed.length < tries) : ids.firstFree? tries id = found := by
  induction h generalizing tries with
  | free hfree =>
    obtain ⟨tries, rfl⟩ := Nat.exists_eq_succ_of_ne_zero (Nat.ne_of_gt htries)
    rw [firstFree?, if_pos hfree]
  | round hused hlast =>
    obtain ⟨tries, rfl⟩ := Nat.exists_eq_succ_of_ne_zero (Nat.ne_of_gt htries)
    rw [firstFree?, if_neg (not_not_intro hused), if_pos hlast]
  | on hused hne _ ih =>
    obtain ⟨tries, rfl⟩ := Nat.exists_eq_succ_of_ne_zero (Nat.ne_zero_of_lt htries)
    rw [firstFree?, if_neg (not_not_intro hused), if_neg hne]
    exact ih (Nat.lt_of_succ_lt_succ htries)

/-- A search that passes over ids in use, and over none twice, needs no more tries than there are. -/
private theorem firstFree_of_nodup (h : Seeks ids id passed found) (hnodup : passed.Nodup)
    (hused : ∀ i ∈ passed, i ∈ ids.used) : ids.firstFree? (ids.used.length + 1) id = found :=
  firstFree_of_seeks h (Nat.lt_succ_of_le (hnodup.subperm hused).length_le)

/-- Before any id was taken the circle has no last id to come back to: if all ids are in use, there is
no end to the search. -/
theorem not_seeks_of_full (hlast : ids.last = 0) (hfull : ∀ i, ¬ids.IsFree i)
    (hid : 1 ≤ id ∧ id ≤ largest) : ¬Seeks ids id passed found := by
  intro h
  induction h with
  | free hfree => exact hfull _ ⟨hid.1, hid.2, hfree⟩
  | round _ hround =>
    rw [hround, hlast] at hid
    exact absurd hid.1 (by decide)
  | on _ _ _ ih => exact ih (successor_mem (Int.le_trans (by decide) hid.1) hid.2)

end Search

end MessageIds

namespace Line

open MessageIds (Seeks successor largest)

structure Advances (l : Line) : Prop where
  /-- The search comes to an end, which is the answer, and makes no number that is too large. -/
  ends : ∃ passed found, l.ids.Seeks (successor l.ids.last) passed found ∧
    l.nextId.1 = found.elim (.error (.accounting .noFreeMessageId)) .ok ∧
    ∀ id ∈ l.ids.last :: passed, id ≠ largest → id + 1 ≤ largest
  /-- If there is a free id, the first one after the last is taken, and becomes the last. -/
  takes : ∀ i, l.ids.IsFree i → ∃ id ids, l.nextId = (.ok id, { l with ids }) ∧ l.ids.IsFree id ∧
    (∀ j, l.ids.IsFree j → l.ids.ahead id ≤ l.ids.ahead j) ∧ ids.last = id ∧
    ∀ j, j ∈ ids.used ↔ j = id ∨ j ∈ l.ids.used
  /-- Otherwise there is none to be had, and everything stays as it is. -/
  exhausted : (∀ i, ¬l.ids.IsFree i) →
    l.nextId = (.error (.accounting .noFreeMessageId), l)

section Advances

variable {l : Line} {id : MessageId} {passed : List MessageId}

private theorem nextId_of_found
    (h : l.ids.firstFree? (l.ids.used.length + 1) (successor l.ids.last) = some id) :
    l.nextId = (.ok id, { l with ids :=
      { last := id, used := MessageIds.insertInto id l.ids.used } }) := by
  rw [nextId, MessageIds.next, h]

private theorem nextId_of_nothing
    (h : l.ids.firstFree? (l.ids.used.length + 1) (successor l.ids.last) = none) :
    l.nextId = (.error (.accounting .noFreeMessageId), l) := by
  rw [nextId, MessageIds.next, h]

variable (hpos : 0 ≤ l.ids.last) (hle : l.ids.last ≤ largest)
include hpos hle

private theorem seeks_first (hid : l.ids.IsFree id)
    (hfirst : ∀ i, l.ids.IsFree i → l.ids.ahead id ≤ l.ids.ahead i) :
    ∃ passed, l.ids.Seeks (successor l.ids.last) passed (some id) ∧ passed.Nodup ∧
      ∀ i ∈ passed, i ∈ l.ids.used ∧ i ≤ largest := by
  have hbefore : ∀ i, 1 ≤ i → i ≤ largest → l.ids.ahead i < l.ids.ahead id → i ∈ l.ids.used := by
    intro i hi hi' hlt
    by_contra hfree
    exact absurd (hfirst i ⟨hi, hi', hfree⟩) (Int.not_le.mpr hlt)
  obtain ⟨passed, hseeks, hnodup, hpassed⟩ := MessageIds.seeks_of_stop (.free hid.unused)
    ⟨hid.pos, hid.le⟩ hbefore (MessageIds.successor_mem hpos hle)
    (MessageIds.ahead_successor_last ▸ l.ids.ahead_nonneg id)
  exact ⟨passed, hseeks, hnodup, fun i hi => ⟨(hpassed i hi).1, (hpassed i hi).2.1⟩⟩

/-- If there is none, it goes once round the circle, back to the last id. -/
private theorem seeks_round (hlast : l.ids.last ≠ 0) (hfull : ∀ i, ¬l.ids.IsFree i) :
    ∃ passed, l.ids.Seeks (successor l.ids.last) passed none ∧ passed.Nodup ∧
      ∀ i ∈ passed, i ∈ l.ids.used ∧ i ≤ largest := by
  have hused : ∀ i, 1 ≤ i → i ≤ largest → i ∈ l.ids.used := by
    intro i hi hi'
    by_contra hfree
    exact hfull i ⟨hi, hi', hfree⟩
  have hrange : 1 ≤ l.ids.last ∧ l.ids.last ≤ largest :=
    ⟨Int.add_one_le_of_lt (lt_of_le_of_ne hpos (Ne.symm hlast)), hle⟩
  obtain ⟨passed, hseeks, hnodup, hpassed⟩ := MessageIds.seeks_of_stop
    (.round (hused l.ids.last hrange.1 hle) rfl) hrange (fun i hi hi' _ => hused i hi hi')
    (MessageIds.successor_mem hpos hle)
    (MessageIds.ahead_successor_last ▸ l.ids.ahead_nonneg l.ids.last)
  exact ⟨passed, hseeks, hnodup, fun i hi => ⟨(hpassed i hi).1, (hpassed i hi).2.1⟩⟩

omit hpos in
private theorem succ_le (hpassed : ∀ i ∈ passed, i ∈ l.ids.used ∧ i ≤ largest) :
    ∀ i ∈ l.ids.last :: passed, i ≠ largest → i + 1 ≤ largest :=
  List.forall_mem_cons.mpr
    ⟨fun hne => Int.add_one_le_of_lt (lt_of_le_of_ne hle hne),
      fun i hi hne => Int.add_one_le_of_lt (lt_of_le_of_ne (hpassed i hi).2 hne)⟩

/-- The next id is the first free one after the last, in the circle of all ids. Only if no id was taken
before and yet all are in use, there is none and the search has no end. -/
theorem nextId_advances (hstart : l.ids.last ≠ 0 ∨ ∃ i, l.ids.IsFree i) : l.Advances := by
  by_cases hfree : ∃ i, l.ids.IsFree i
  · obtain ⟨i, hi⟩ := hfree
    obtain ⟨id, hid, hfirst⟩ := MessageIds.exists_first hi
    obtain ⟨passed, hseeks, hnodup, hpassed⟩ := seeks_first hpos hle hid hfirst
    have hnext := nextId_of_found
      (MessageIds.firstFree_of_nodup hseeks hnodup fun i hi => (hpassed i hi).1)
    refine ⟨⟨passed, _, hseeks, by rw [hnext]; rfl, succ_le hle hpassed⟩, fun _ _ => ?_,
      fun hnone => absurd hi (hnone i)⟩
    exact ⟨id, _, hnext, hid, hfirst, rfl, fun j => MessageIds.mem_insertInto⟩
  · have hfull : ∀ i, ¬l.ids.IsFree i := not_exists.mp hfree
    obtain ⟨passed, hseeks, hnodup, hpassed⟩ :=
      seeks_round hpos hle (hstart.resolve_right hfree) hfull
    have hnext := nextId_of_nothing
      (MessageIds.firstFree_of_nodup hseeks hnodup fun i hi => (hpassed i hi).1)
    exact ⟨⟨passed, _, hseeks, by rw [hnext]; rfl, succ_le hle hpassed⟩,
      fun i hi => absurd hi (hfull i), fun _ => hnext⟩

end Advances

/-- The last id is the largest one, and the id after it is in use. -/
def wrapping : Line := { ids := { last := largest, used := [1, 3, largest] } }

theorem wrapping_advances : (0 ≤ wrapping.ids.last ∧ wrapping.ids.last ≤ largest) ∧
    (wrapping.ids.last ≠ 0 ∨ ∃ i, wrapping.ids.IsFree i) ∧ wrapping.Advances ∧
    wrapping.nextId =
      (.ok 2, { wrapping with ids := { last := 2, used := [1, 2, 3, largest] } }) := by
  have hstart : wrapping.ids.last ≠ 0 ∨ ∃ i, wrapping.ids.IsFree i := .inl (by decide)
  exact ⟨by decide, hstart, nextId_advances (by decide) (by decide) hstart, rfl⟩

end Line

end DirectoryClient
