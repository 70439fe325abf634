import DirectoryClient.Search.BinaryAttributes
import Mathlib.Data.String.Basic

/-! The parts of an attribute description, and the descriptions that say of their values that they are
binary. -/
namespace DirectoryClient

namespace Text

open String

private theorem atEnd_ofList (cs : List Char) (n : Nat) :
    Pos.Raw.atEnd (ofList cs) ⟨n⟩ = true ↔ utf8Len cs ≤ n := by
  rw [atEnd_iff, rawEndPos_ofList, Pos.Raw.mk_le_mk]

/-- The pieces of a text from some position on: `m` has been passed since the last separator. -/
private theorem splitOnAux_of_valid (d : Char) (l m r : List Char) (found : List String) :
    splitOnAux (ofList (l ++ m ++ r)) (ofList [d]) ⟨utf8Len l⟩ ⟨utf8Len l + utf8Len m⟩ 0 found =
      found.reverse ++ (List.splitOnPPrepend (· == d) r m.reverse).map ofList := by
  have hseparator : Pos.Raw.get (ofList [d]) 0 = d := by simpa using get_of_valid [] [d]
  have hend : Pos.Raw.next (ofList [d]) 0 = ⟨d.utf8Size⟩ := by simpa using next_of_valid [] d []
  induction r generalizing l m found with
  | nil =>
    have hpiece := extract_of_valid l m []
    rw [splitOnAux, if_pos]
    · simpa using hpiece
    · rw [atEnd_ofList, List.append_nil, utf8Len_append]
  | cons c r ih =>
    have hpiece := extract_of_valid l m (c :: r)
    have hget := get_of_valid (l ++ m) (c :: r)
    have hnext := next_of_valid (l ++ m) c r
    rw [utf8Len_append, List.headD_cons] at hget
    rw [utf8Len_append] at hnext
    have hback : ∀ i j : Nat, Pos.Raw.unoffsetBy ⟨i + j⟩ ⟨j⟩ = ⟨i⟩ := fun i j => by
      simp [Pos.Raw.unoffsetBy]
    rw [splitOnAux, if_neg, hget, hseparator, hnext, hend, List.splitOnPPrepend_cons_eq_if]
    · by_cases h : c = d
      · subst h
        have hrest := ih (l ++ m ++ [c]) [] (ofList m :: found)
        rw [if_pos (beq_self_eq_true c), if_pos (beq_self_eq_true c), if_pos, hback, hpiece]
        · simpa [Nat.add_assoc] using hrest
        · rw [atEnd_ofList, utf8Len_cons, utf8Len_nil, Nat.zero_add]
      · have hrest := ih l (m ++ [c]) found
        have hsame : Pos.Raw.unoffsetBy ⟨utf8Len l + utf8Len m⟩ 0 = ⟨utf8Len l + utf8Len m⟩ := hback _ 0
        rw [if_neg (by simpa using h), if_neg (by simpa using h), hsame, hnext]
        simpa [Nat.add_assoc] using hrest
    · have hsize := c.utf8Size_pos
      rw [atEnd_ofList, utf8Len_append, utf8Len_append, utf8Len_cons]
      omega

private theorem splitOn_singleton (s : String) (d : Char) :
    s.splitOn (ofList [d]) = (s.toList.splitOn d).map ofList := by
  have h := splitOnAux_of_valid d [] [] s.toList []
  rw [splitOn, if_neg]
  · simpa [List.splitOn_eq_splitOnP] using h
  · simp

private theorem notMem_of_mem_splitOn {d : Char} {cs piece : List Char} (h : piece ∈ cs.splitOn d) :
    d ∉ piece := by
  induction cs generalizing piece with
  | nil =>
    obtain rfl := List.mem_singleton.mp h
    exact List.not_mem_nil
  | cons c cs ih =>
    rw [List.splitOn_cons_eq_if_modifyHead] at h
    obtain ⟨first, rest, hsplit⟩ := List.exists_cons_of_ne_nil (List.splitOn_ne_nil d cs)
    have hfirst : d ∉ first := ih (by rw [hsplit]; exact List.mem_cons_self)
    split at h
    · rcases List.mem_cons.mp h with rfl | h
      · exact List.not_mem_nil
      · exact ih h
    · rename_i hc
      rw [hsplit, List.modifyHead_cons] at h
      rcases List.mem_cons.mp h with rfl | h
      · rw [List.mem_cons, not_or]
        exact ⟨fun hd => hc (by rw [hd]; exact beq_self_eq_true c), hfirst⟩
      · exact ih (by rw [hsplit]; exact List.mem_cons_of_mem first h)

private theorem splitOn_map {d : Char} {f : Char → Char} (hf : ∀ c, f c = d ↔ c = d) (cs : List Char) :
    (cs.map f).splitOn d = (cs.splitOn d).map (List.map f) := by
  induction cs with
  | nil => rfl
  | cons c cs ih =>
    rw [List.map_cons, List.splitOn_cons_eq_if_modifyHead, List.splitOn_cons_eq_if_modifyHead, ih]
    obtain ⟨first, rest, hsplit⟩ := List.exists_cons_of_ne_nil (List.splitOn_ne_nil d cs)
    simp only [beq_iff_eq, hf c, hsplit]
    split <;> rfl

end Text

namespace Search

structure IsDescription (description type : String) (options : List String) : Prop where
  joined : description = ";".intercalate (type :: options)
  whole : ∀ part ∈ type :: options, ';' ∉ part.toList

theorem splitOn_eq_cons {description type : String} {options : List String} :
    description.splitOn ";" = type :: options ↔ IsDescription description type options := by
  have hsplit : description.splitOn ";" = (description.toList.splitOn ';').map String.ofList :=
    Text.splitOn_singleton description ';'
  have hlists : ∀ parts : List String, (parts.map String.toList).map String.ofList = parts := by
    intro parts
    simp [Function.comp_def]
  rw [hsplit]
  constructor
  · intro h
    have hparts : description.toList.splitOn ';' = (type :: options).map String.toList := by
      rw [← h]
      simp [Function.comp_def]
    refine ⟨?_, fun part hpart => ?_⟩
    · rw [← String.toList_inj, String.toList_intercalate, ← hparts]
      exact (List.intercalate_splitOn ';').symm
    · have hpiece : part.toList ∈ description.toList.splitOn ';' := by
        rw [hparts]
        exact List.mem_map_of_mem hpart
      exact Text.notMem_of_mem_splitOn hpiece
  · rintro ⟨rfl, hwhole⟩
    rw [String.toList_intercalate, show ";".toList = [';'] from rfl, List.splitOn_intercalate, hlists]
    · exact List.forall_mem_map.mpr hwhole
    · exact List.cons_ne_nil _ _

private theorem toLower_eq_semicolon (c : Char) : c.toLower = ';' ↔ c = ';' := by
  change dite _ _ _ = ';' ↔ c = ';'
  split
  · rename_i h
    constructor
    · intro hc
      have hval := congrArg (·.val.toNat) hc
      obtain ⟨hlow, hhigh⟩ := h
      simp [UInt32.le_iff_toNat_le] at hval hlow hhigh
      omega
    · rintro rfl
      simp [UInt32.le_iff_toNat_le] at h
  · rfl

private theorem splitOn_toLower (description : String) :
    description.toLower.splitOn ";" = (description.splitOn ";").map String.toLower := by
  have hsplit : ∀ s : String, s.splitOn ";" = (s.toList.splitOn ';').map String.ofList :=
    fun s => Text.splitOn_singleton s ';'
  have hlower : ∀ s : String, s.toLower = s.map Char.toLower := fun _ => rfl
  rw [hsplit, hsplit, hlower, String.toList_map, Text.splitOn_map toLower_eq_semicolon, List.map_map,
    List.map_map]
  refine List.map_congr_left fun piece _ => ?_
  rw [← String.toList_inj]
  simp [hlower]

/-- The description of an attribute says that its values are binary: by its type, or by an option. The
case of ASCII letters does not matter. -/
def NamesBinary (added : List String) (description : String) : Prop :=
  ∃ type options, IsDescription description type options ∧
    ((∃ known ∈ BinaryDetector.wellKnown ++ added, known.toLower = type.toLower) ∨
      ∃ option ∈ options, option.toLower = "binary")

theorem standard_iff (added : List String) (description : String) :
    BinaryDetector.standard added description = true ↔ NamesBinary added description := by
  have hknown : BinaryDetector.wellKnown.map String.toLower = BinaryDetector.wellKnown := by
    decide +kernel
  obtain ⟨type, options, hparts⟩ : ∃ type options, description.splitOn ";" = type :: options := by
    refine List.exists_cons_of_ne_nil ?_
    rw [show ";" = String.ofList [';'] from rfl, Text.splitOn_singleton]
    exact mt List.map_eq_nil_iff.mp (List.splitOn_ne_nil _ _)
  have hstandard : BinaryDetector.standard added description = true ↔
      (∃ known ∈ BinaryDetector.wellKnown ++ added, known.toLower = type.toLower) ∨
        ∃ option ∈ options, option.toLower = "binary" := by
    rw [BinaryDetector.standard, splitOn_toLower, hparts, List.map_cons]
    rw [← List.mem_map, List.map_append, hknown, ← List.mem_map, List.mem_append]
    simp only [Bool.or_eq_true, List.contains_iff_mem]
    exact or_assoc.trans or_comm
  rw [hstandard]
  constructor
  · exact fun h => ⟨type, options, splitOn_eq_cons.mp hparts, h⟩
  · rintro ⟨type', options', hdescription, h⟩
    have hsame := (splitOn_eq_cons.mpr hdescription).symm.trans hparts
    cases hsame
    exact h

end Search

end DirectoryClient
