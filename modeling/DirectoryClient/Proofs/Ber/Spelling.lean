import DirectoryClient.Proofs.Ber.Nesting

/-! Which elements octets spell: a grammar of headers and contents beside the elements they stand for,
and the reader as what decides it. -/
namespace DirectoryClient.Ber

def Tag.ofOctet (b : UInt8) : Tag := ⟨.ofBits (b.toNat / 64), b.toNat % 32⟩

/-- Elements one after another, each a header and as many content octets as it declares. Of a length
only the low 64 bits count. -/
inductive Spells : Octets → List Element → Prop
  | nil : Spells [] []
  | primitive {b : UInt8} {ls content rest : Octets} {n : Nat} {es : List Element} :
    Header (b :: ls) false n → content.length = n % Octets.capacity 8 → Spells rest es →
    Spells (b :: ls ++ (content ++ rest)) (.primitive (.ofOctet b) content :: es)
  | constructed {b : UInt8} {ls content rest : Octets} {n : Nat} {members es : List Element} :
    Header (b :: ls) true n → content.length = n % Octets.capacity 8 → Spells content members →
    Spells rest es →
    Spells (b :: ls ++ (content ++ rest)) (.constructed (.ofOctet b) members :: es)

theorem Spells.append {bs bs' : Octets} {es es' : List Element} (h : Spells bs es)
    (h' : Spells bs' es') : Spells (bs ++ bs') (es ++ es') := by
  induction h with
  | nil => exact h'
  | primitive hheader hlen _ ih =>
    rw [List.append_assoc, List.append_assoc]
    exact .primitive hheader hlen ih
  | constructed hheader hlen hcontent _ _ ih =>
    rw [List.append_assoc, List.append_assoc]
    exact .constructed hheader hlen hcontent ih

section Split

variable {b : UInt8} {bs ls content rest : Octets} {c : Bool} {n : Nat} {f : Frame} {e : Element}

private theorem Frame.tag_of_split? (h : split? (b :: bs) = some f) : f.tag = .ofOctet b := by
  simp only [split?] at h
  split at h
  · cases h
  · split at h
    · cases h
      rfl
    · cases h

/-- A header and its contents are split off under the tag of the identifier octet. -/
private theorem Header.split?_eq (h : Header (b :: ls) c n)
    (hlen : content.length = n % Octets.capacity 8) (rest : Octets) :
    Frame.split? (b :: ls ++ (content ++ rest)) = some ⟨.ofOctet b, c, content, rest⟩ := by
  obtain ⟨tag, hsplit⟩ := h.split? hlen rest
  have htag : tag = .ofOctet b := Frame.tag_of_split? hsplit
  rw [hsplit, htag]

/-- The element in a frame is spelled by what was split off, if its contents are spelled. -/
private theorem Frame.exists_spells (h : split? bs = some f) (he : f.element? = some e)
    (hcontent : ∀ es, readAll? f.content = some es → Spells f.content es) :
    ∃ front, Spells front [e] ∧ bs = front ++ f.rest := by
  obtain ⟨header, n, hheader, hlen, rfl⟩ := exists_header h
  cases header with
  | nil => cases hheader
  | cons b ls =>
    have htag : f.tag = .ofOctet b := tag_of_split? h
    refine ⟨b :: ls ++ (f.content ++ []), ?_, by simp⟩
    rw [element?, htag] at he
    cases hc : f.isConstructed with
    | false =>
      rw [hc] at he hheader
      cases he
      exact .primitive hheader hlen .nil
    | true =>
      rw [hc] at he hheader
      obtain ⟨members, hmembers, rfl⟩ := Option.map_eq_some_iff.mp he
      exact .constructed hheader hlen (hcontent members hmembers) .nil

private theorem readAll?_of_split? (h : Frame.split? bs = some f) :
    readAll? bs = f.element?.bind fun e => (readAll? f.rest).map (e :: ·) := by
  have hne : bs ≠ [] := by
    rintro rfl
    cases h
  rw [readAll?, if_neg hne]
  split
  · rename_i hnone
    rw [h] at hnone
    cases hnone
  · rename_i f' hf'
    rw [h] at hf'
    cases hf'
    rw [Frame.element?]
    dsimp only
    split <;> rename_i he <;> rw [he] <;> rfl

end Split

private theorem readAll?_eq_some_iff {bs : Octets} {es : List Element} :
    readAll? bs = some es ↔ Spells bs es := by
  constructor
  · intro h
    -- Contents and rest are shorter than what they were split off.
    induction hlen : bs.length using Nat.strongRecOn generalizing bs es with
    | ind n ih =>
      by_cases hne : bs = []
      · rw [hne, readAll?, if_pos rfl] at h
        cases h
        rw [hne]
        exact .nil
      cases hsplit : Frame.split? bs with
      | none =>
        rw [readAll?, if_neg hne] at h
        split at h <;> simp_all
      | some f =>
        have hshorter := Frame.length_lt hsplit
        rw [readAll?_of_split? hsplit, Option.bind_eq_some_iff] at h
        obtain ⟨e, he, h⟩ := h
        obtain ⟨es, hrest, rfl⟩ := Option.map_eq_some_iff.mp h
        obtain ⟨front, hfront, rfl⟩ := Frame.exists_spells hsplit he fun members hmembers =>
          ih f.content.length (by omega) hmembers rfl
        exact hfront.append (ih f.rest.length (by omega) hrest rfl)
  · intro h
    induction h with
    | nil => rw [readAll?, if_pos rfl]
    | primitive hheader hlen _ ih =>
      rw [readAll?_of_split? (hheader.split?_eq hlen _), Frame.element?]
      simp [ih]
    | constructed hheader hlen _ _ ihcontent ihrest =>
      rw [readAll?_of_split? (hheader.split?_eq hlen _), Frame.element?]
      simp [ihcontent, ihrest]

/-- Octets that are nested as headers and contents must be spell elements, and no others do. -/
theorem nests_iff_spells {bs : Octets} : Nests bs ↔ ∃ es, Spells bs es := by
  rw [← readAll?_isSome, Option.isSome_iff_exists]
  exact exists_congr fun _ => readAll?_eq_some_iff

section First

variable {bs rest : Octets} {e : Element}

/-- What the octets before the rest spell is read off. -/
theorem Spells.read? {front : Octets} (h : Spells front [e]) (rest : Octets) :
    Ber.read? (front ++ rest) = some (e, rest) := by
  cases h with
  | primitive hheader hlen hnil =>
    cases hnil
    rw [List.append_nil, List.append_assoc, Ber.read?, hheader.split?_eq hlen]
    rfl
  | constructed hheader hlen hcontent hnil =>
    cases hnil
    rw [List.append_nil, List.append_assoc, Ber.read?, hheader.split?_eq hlen]
    simp [Frame.element?, readAll?_eq_some_iff.mpr hcontent]

/-- The first element is read exactly if the octets before the rest spell it. -/
theorem read?_eq_some_iff :
    read? bs = some (e, rest) ↔ ∃ front, Spells front [e] ∧ bs = front ++ rest := by
  constructor
  · intro h
    rw [read?] at h
    cases hsplit : Frame.split? bs with
    | none =>
      rw [hsplit] at h
      cases h
    | some f =>
      rw [hsplit] at h
      obtain ⟨e', he, heq⟩ := Option.map_eq_some_iff.mp h
      cases heq
      exact Frame.exists_spells hsplit he fun _ => readAll?_eq_some_iff.mp
  · rintro ⟨front, h, rfl⟩
    exact h.read? rest

/-- Octets that are added leave what was read as it is. -/
theorem read?_append (h : read? bs = some (e, rest)) (more : Octets) :
    read? (bs ++ more) = some (e, rest ++ more) := by
  obtain ⟨front, hfront, rfl⟩ := read?_eq_some_iff.mp h
  rw [List.append_assoc]
  exact hfront.read? (rest ++ more)

end First

end DirectoryClient.Ber
