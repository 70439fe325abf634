import DirectoryClient.Text.Utf8

/-! Lenient reading of text: what is written is read back, without a replacement character. -/
namespace DirectoryClient.Text

private theorem encode_eq_flatMap (s : String) : encode s = s.toList.flatMap String.utf8EncodeChar := by
  have hs : s.toByteArray = s.toList.utf8Encode := by
    rw [← String.toByteArray_ofList, String.ofList_toList]
  rw [encode, String.toUTF8, hs, List.utf8Encode]
  simp

private theorem toNat_ofNat {n : Nat} (h : n < 256) : (UInt8.ofNat n).toNat = n := by
  rw [UInt8.toNat_ofNat', Nat.mod_eq_of_lt h]

/-- The octets after a lead: numbers of six bits, with the mark of a continuation. -/
private def marked (ns : List Nat) : Octets := ns.map fun n => UInt8.ofNat (n + 128)

/-- Marked octets are taken as they are, if the first of them is in the range of their lead. -/
private theorem continuation_marked {low high : UInt8} {n : Nat} {ns : List Nat} (rest : Octets)
    (hlow : low.toNat ≤ n + 128) (hhigh : n + 128 ≤ high.toNat) (hns : ∀ m ∈ ns, m < 64) :
    continuation low high (ns.length + 1) (marked (n :: ns) ++ rest) = marked (n :: ns) := by
  induction ns generalizing n low high with
  | nil =>
    have hn : (UInt8.ofNat (n + 128)).toNat = n + 128 :=
      toNat_ofNat (Nat.lt_of_le_of_lt hhigh high.toNat_lt)
    simp only [marked, List.map_cons, List.map_nil, List.cons_append, continuation,
      UInt8.le_iff_toNat_le, hn, hlow, hhigh, and_self, ↓reduceIte]
    cases rest <;> rfl
  | cons m ns ih =>
    have hn : (UInt8.ofNat (n + 128)).toNat = n + 128 :=
      toNat_ofNat (Nat.lt_of_le_of_lt hhigh high.toNat_lt)
    have hm : m < 64 := hns m List.mem_cons_self
    have hrest : continuation 0x80 0xBF (ns.length + 1) (marked (m :: ns) ++ rest) = marked (m :: ns) :=
      ih (Nat.le_add_left 128 m) (by show m + 128 ≤ 191; omega)
        fun k hk => hns k (List.mem_cons_of_mem m hk)
    rw [marked, List.map_cons, List.cons_append, List.length_cons, continuation, if_pos]
    · exact congrArg (UInt8.ofNat (n + 128) :: ·) hrest
    · simp only [UInt8.le_iff_toNat_le, hn]
      exact ⟨hlow, hhigh⟩

private theorem foldl_marked {ns : List Nat} (hns : ∀ m ∈ ns, m < 64) (bits : Nat) :
    (marked ns).foldl (fun n b => n * 64 + (b.toNat - 0x80)) bits =
      ns.foldl (fun n m => n * 64 + m) bits := by
  induction ns generalizing bits with
  | nil => rfl
  | cons m ns ih =>
    have hm : m < 64 := hns m List.mem_cons_self
    have hb : (UInt8.ofNat (m + 128)).toNat = m + 128 := toNat_ofNat (by omega)
    rw [marked, List.map_cons, List.foldl_cons, List.foldl_cons, hb, Nat.add_sub_cancel]
    exact ih (fun k hk => hns k (List.mem_cons_of_mem m hk)) _

private theorem lossyChars_lead {b low high : UInt8} {bits n : Nat} {c : Char} (ns : List Nat)
    (rest : Octets) (hb : ¬b < 0x80) (hlead : Lead.ofOctet? b = some ⟨bits, low, high, ns.length + 1⟩)
    (hlow : low.toNat ≤ n + 128) (hhigh : n + 128 ≤ high.toNat) (hns : ∀ m ∈ n :: ns, m < 64)
    (hc : (n :: ns).foldl (fun n m => n * 64 + m) bits = c.toNat) :
    lossyChars (b :: marked (n :: ns) ++ rest) = c :: lossyChars rest := by
  have htaken := continuation_marked rest hlow hhigh fun m hm => hns m (List.mem_cons_of_mem n hm)
  have hlength : (marked (n :: ns)).length = ns.length + 1 := by simp [marked]
  rw [List.cons_append, lossyChars, if_neg hb, hlead]
  dsimp only
  rw [htaken, if_pos hlength, foldl_marked hns, hc, Char.ofNat_toNat, List.drop_left]

private theorem ofOctet?_two {n : Nat} (hlow : 2 ≤ n) (hhigh : n < 32) :
    Lead.ofOctet? (UInt8.ofNat (n + 192)) = some ⟨n, 0x80, 0xBF, 1⟩ := by
  have hb : (UInt8.ofNat (n + 192)).toNat = n + 192 := toNat_ofNat (by omega)
  rw [Lead.ofOctet?, if_pos, hb]
  · simp
  · simp only [UInt8.le_iff_toNat_le, hb]
    simp
    omega

/-- The lead octet of a character of three octets. Its range leaves out overlong forms and
surrogates. -/
private theorem ofOctet?_three {n m : Nat} (hn : n < 16) (hm : m < 64) (hlong : n = 0 → 32 ≤ m)
    (hvalid : n = 13 → m < 32) : ∃ low high,
      Lead.ofOctet? (UInt8.ofNat (n + 224)) = some ⟨n, low, high, 2⟩ ∧
        low.toNat ≤ m + 128 ∧ m + 128 ≤ high.toNat := by
  have hb : (UInt8.ofNat (n + 224)).toNat = n + 224 := toNat_ofNat (by omega)
  simp only [Lead.ofOctet?, UInt8.le_iff_toNat_le, ← UInt8.toNat_inj, hb]
  simp
  grind

/-- The lead octet of a character of four octets. Its range ends with the last code point. -/
private theorem ofOctet?_four {n m : Nat} (hn : n < 5) (hm : m < 64) (hlong : n = 0 → 16 ≤ m)
    (hvalid : n = 4 → m < 16) : ∃ low high,
      Lead.ofOctet? (UInt8.ofNat (n + 240)) = some ⟨n, low, high, 3⟩ ∧
        low.toNat ≤ m + 128 ∧ m + 128 ≤ high.toNat := by
  have hb : (UInt8.ofNat (n + 240)).toNat = n + 240 := toNat_ofNat (by omega)
  simp only [Lead.ofOctet?, UInt8.le_iff_toNat_le, ← UInt8.toNat_inj, hb]
  simp
  grind

private theorem not_lt_of_toNat {n : Nat} (h : 128 ≤ n) (h' : n < 256) : ¬UInt8.ofNat n < 0x80 := by
  rw [UInt8.lt_iff_toNat_lt, toNat_ofNat h']
  exact Nat.not_lt.mpr h

private theorem lossyChars_utf8EncodeChar (c : Char) (rest : Octets) :
    lossyChars (String.utf8EncodeChar c ++ rest) = c :: lossyChars rest := by
  have hvalid : c.toNat < 0xD800 ∨ 0xDFFF < c.toNat ∧ c.toNat < 0x110000 := c.valid
  have hval : c.val.toNat = c.toNat := rfl
  simp only [String.utf8EncodeChar, hval]
  split
  · rename_i hone
    have hb : (UInt8.ofNat c.toNat).toNat = c.toNat := toNat_ofNat (by omega)
    have hlt : UInt8.ofNat c.toNat < 0x80 := by
      rw [UInt8.lt_iff_toNat_lt, hb]
      exact Nat.lt_succ_of_le hone
    rw [List.singleton_append, lossyChars, if_pos hlt, hb, Char.ofNat_toNat]
  · split
    · exact lossyChars_lead [] rest (not_lt_of_toNat (by omega) (by omega))
        (ofOctet?_two (by omega) (by omega)) (Nat.le_add_left 128 _)
        (by show c.toNat % 64 + 128 ≤ 191; omega) (by simp; omega) (by simp; omega)
    · split
      · obtain ⟨low, high, hlead, hlow, hhigh⟩ := ofOctet?_three (n := c.toNat / 4096 % 16)
          (m := c.toNat / 64 % 64) (by omega) (by omega) (by omega) (by omega)
        exact lossyChars_lead [c.toNat % 64] rest (not_lt_of_toNat (by omega) (by omega))
          hlead hlow hhigh (by simp; omega) (by simp; omega)
      · obtain ⟨low, high, hlead, hlow, hhigh⟩ := ofOctet?_four (n := c.toNat / 262144 % 8)
          (m := c.toNat / 4096 % 64) (by omega) (by omega) (by omega) (by omega)
        exact lossyChars_lead [c.toNat / 64 % 64, c.toNat % 64] rest
          (not_lt_of_toNat (by omega) (by omega)) hlead hlow hhigh (by simp; omega) (by simp; omega)

/-- Lenient reading gives back what was written. -/
theorem decodeLossy_encode (s : String) : decodeLossy (encode s) = s := by
  have hchars (cs : List Char) : lossyChars (cs.flatMap String.utf8EncodeChar) = cs := by
    induction cs with
    | nil => rw [List.flatMap_nil, lossyChars]
    | cons c cs ih => rw [List.flatMap_cons, lossyChars_utf8EncodeChar, ih]
  rw [decodeLossy, encode_eq_flatMap, hchars, String.ofList_toList]

end DirectoryClient.Text
