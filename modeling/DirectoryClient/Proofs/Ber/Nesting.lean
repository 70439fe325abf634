import DirectoryClient.Ber.Reader

/-! Which octets the reader takes for elements: a grammar of headers and contents, and the reader as what
decides it. -/
namespace DirectoryClient.Ber

/-- An identifier octet with length octets: whether the contents are elements, and the number of content
octets that the length octets write, however large. -/
inductive Header : Octets → Bool → Nat → Prop
  | short (b l : UInt8) : l < 128 → Header [b, l] (b.toNat.testBit 5) l.toNat
  | long (b l : UInt8) (ls : Octets) : ¬l < 128 → ls.length = l.toNat - 128 →
    Header (b :: l :: ls) (b.toNat.testBit 5) (Octets.toNat ls)

/-- Elements one after another, none of which runs past what it lies in, at any depth. Of a length only
the low 64 bits count. -/
inductive Nests : Octets → Prop
  | nil : Nests []
  | primitive {header content rest : Octets} {n : Nat} : Header header false n →
    content.length = n % Octets.capacity 8 → Nests rest → Nests (header ++ (content ++ rest))
  | constructed {header content rest : Octets} {n : Nat} : Header header true n →
    content.length = n % Octets.capacity 8 → Nests content → Nests rest →
    Nests (header ++ (content ++ rest))

private theorem octet_mod_capacity (l : UInt8) : l.toNat % Octets.capacity 8 = l.toNat :=
  Nat.mod_eq_of_lt (Nat.lt_trans (UInt8.toNat_lt l) (by decide))

namespace Header

variable {header : Octets} {c : Bool} {n : Nat}

theorem two_le (h : Header header c n) : 2 ≤ header.length := by
  cases h <;> simp

private theorem readLength?_eq (h : Header header c n) (more : Octets) :
    ∃ b ls, header = b :: ls ∧ b.toNat.testBit 5 = c ∧
      readLength? (ls ++ more) = some (n % Octets.capacity 8, more) := by
  cases h with
  | short b l hl =>
    refine ⟨b, [l], rfl, rfl, ?_⟩
    simp [readLength?, hl, octet_mod_capacity]
  | long b l ls hl hlen =>
    refine ⟨b, l :: ls, rfl, rfl, ?_⟩
    simp [readLength?, hl, ← hlen]

/-- A header and its contents are split off as a frame. -/
theorem split? (h : Header header c n) {content : Octets}
    (hlen : content.length = n % Octets.capacity 8) (rest : Octets) :
    ∃ tag, Frame.split? (header ++ (content ++ rest)) = some ⟨tag, c, content, rest⟩ := by
  obtain ⟨b, ls, rfl, hc, hread⟩ := h.readLength?_eq (content ++ rest)
  rw [Nat.testBit_eq_decide_div_mod_eq] at hc
  simp [Frame.split?, hread, ← hlen, ← hc]

end Header

private theorem header_of_readLength? {bs more : Octets} {k : Nat} (b : UInt8)
    (h : readLength? bs = some (k, more)) :
    ∃ ls n, Header (b :: ls) (b.toNat.testBit 5) n ∧ bs = ls ++ more ∧ k = n % Octets.capacity 8 := by
  cases bs with
  | nil => cases h
  | cons l bs =>
    simp only [readLength?] at h
    split at h
    · rename_i hl
      simp only [Option.some.injEq, Prod.mk.injEq] at h
      obtain ⟨rfl, rfl⟩ := h
      exact ⟨[l], l.toNat, .short b l hl, rfl, (octet_mod_capacity l).symm⟩
    · rename_i hl
      split at h
      · rename_i hcount
        simp only [Option.some.injEq, Prod.mk.injEq] at h
        obtain ⟨rfl, rfl⟩ := h
        refine ⟨l :: bs.take (l.toNat - 128), _, .long b l _ hl ?_, ?_, rfl⟩
        · rw [List.length_take, Nat.min_eq_left hcount]
        · rw [List.cons_append, List.take_append_drop]
      · cases h

/-- What is split off is a header and its contents. -/
theorem Frame.exists_header {bs : Octets} {f : Frame} (h : split? bs = some f) :
    ∃ header n, Header header f.isConstructed n ∧ f.content.length = n % Octets.capacity 8 ∧
      bs = header ++ (f.content ++ f.rest) := by
  cases bs with
  | nil => cases h
  | cons b bs =>
    simp only [split?] at h
    split at h
    · cases h
    · rename_i k more hread
      obtain ⟨ls, n, hheader, rfl, rfl⟩ := header_of_readLength? b hread
      split at h
      · rename_i hle
        cases h
        rw [Nat.testBit_eq_decide_div_mod_eq] at hheader
        refine ⟨b :: ls, n, hheader, ?_, ?_⟩
        · rw [List.length_take, Nat.min_eq_left hle]
        · rw [List.take_append_drop, List.cons_append]
      · cases h

section

variable {bs : Octets} {f : Frame}

private theorem readAll?_isSome_of_split? (h : Frame.split? bs = some f) :
    (readAll? bs).isSome ↔
      (f.isConstructed = true → (readAll? f.content).isSome) ∧ (readAll? f.rest).isSome := by
  have hne : bs ≠ [] := by
    rintro rfl
    cases h
  rw [readAll?, if_neg hne]
  split
  · simp_all
  · rename_i f' hf'
    rw [h] at hf'
    cases hf'
    cases f.isConstructed <;> cases readAll? f.content <;> simp

private theorem readAll?_eq_none (hne : bs ≠ []) (h : Frame.split? bs = none) : readAll? bs = none := by
  rw [readAll?, if_neg hne]
  split <;> simp_all

end

/-- The reader reads exactly what nests. -/
theorem readAll?_isSome (bs : Octets) : (readAll? bs).isSome ↔ Nests bs := by
  constructor
  · intro h
    induction hlen : bs.length using Nat.strongRecOn generalizing bs with
    | ind n ih =>
      by_cases hne : bs = []
      · rw [hne]
        exact .nil
      cases hsplit : Frame.split? bs with
      | none => simp [readAll?_eq_none hne hsplit] at h
      | some f =>
        have hlt := Frame.length_lt hsplit
        obtain ⟨hcontent, hrest⟩ := (readAll?_isSome_of_split? hsplit).mp h
        have hnests := ih _ (by omega) f.rest hrest rfl
        obtain ⟨header, n, hheader, hn, rfl⟩ := Frame.exists_header hsplit
        cases hc : f.isConstructed with
        | false =>
          rw [hc] at hheader
          exact .primitive hheader hn hnests
        | true =>
          rw [hc] at hheader
          exact .constructed hheader hn (ih _ (by omega) _ (hcontent hc) rfl) hnests
  · intro h
    induction h with
    | nil => rw [readAll?, if_pos rfl]; rfl
    | primitive hheader hn _ ih =>
      obtain ⟨tag, hsplit⟩ := hheader.split? hn _
      exact (readAll?_isSome_of_split? hsplit).mpr ⟨nofun, ih⟩
    | constructed hheader hn _ _ ihcontent ihrest =>
      obtain ⟨tag, hsplit⟩ := hheader.split? hn _
      exact (readAll?_isSome_of_split? hsplit).mpr ⟨fun _ => ihcontent, ihrest⟩

private theorem Frame.element?_isSome (f : Frame) :
    f.element?.isSome ↔ (f.isConstructed = true → Nests f.content) := by
  rw [← readAll?_isSome, element?]
  cases f.isConstructed <;> cases readAll? f.content <;> simp

section

variable {header content rest : Octets} {c : Bool} {n : Nat}

theorem Header.nests_iff (h : Header header c n) (hlen : content.length = n % Octets.capacity 8) :
    Nests (header ++ (content ++ rest)) ↔ (c = true → Nests content) ∧ Nests rest := by
  obtain ⟨tag, hsplit⟩ := h.split? hlen rest
  rw [← readAll?_isSome, readAll?_isSome_of_split? hsplit, readAll?_isSome, readAll?_isSome]

/-- A header, its contents and what follows them are read exactly if the contents nest, or are not
looked into. -/
theorem Header.read? (h : Header header c n) (hlen : content.length = n % Octets.capacity 8) :
    (∃ e, Ber.read? (header ++ (content ++ rest)) = some (e, rest)) ↔
      (c = true → Nests content) := by
  obtain ⟨tag, hsplit⟩ := h.split? hlen rest
  have helement := Frame.element?_isSome ⟨tag, c, content, rest⟩
  rw [Option.isSome_iff_exists] at helement
  simp [Ber.read?, hsplit, ← helement]

theorem Header.read?_eq_none (h : Header header true n)
    (hlen : content.length = n % Octets.capacity 8) (hnot : ¬Nests content) :
    Ber.read? (header ++ (content ++ rest)) = none := by
  obtain ⟨tag, hsplit⟩ := h.split? hlen rest
  have helement := Frame.element?_isSome ⟨tag, true, content, rest⟩
  simp_all [Ber.read?]

/-- What is read is a header and its contents, which nest if they are looked into. -/
theorem exists_header_of_read? {bs : Octets} {e : Element} (h : read? bs = some (e, rest)) :
    ∃ header content c n, Header header c n ∧ content.length = n % Octets.capacity 8 ∧
      (c = true → Nests content) ∧ bs = header ++ (content ++ rest) := by
  rw [read?] at h
  cases hsplit : Frame.split? bs with
  | none => simp [hsplit] at h
  | some f =>
    simp only [hsplit, Option.map_eq_some_iff, Prod.mk.injEq] at h
    obtain ⟨e', he, rfl, rfl⟩ := h
    obtain ⟨header, n, hheader, hn, hbs⟩ := Frame.exists_header hsplit
    exact ⟨header, f.content, _, n, hheader, hn,
      f.element?_isSome.mp (Option.isSome_of_eq_some he), hbs⟩

end

end DirectoryClient.Ber
