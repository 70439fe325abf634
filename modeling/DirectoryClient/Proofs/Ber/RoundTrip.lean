import DirectoryClient.Ber.Writer
import DirectoryClient.Proofs.Ber.Spelling

/-! What is written is read back: elements whose tag numbers fit into an identifier octet are spelled by
the octets that the writer makes of them. -/
namespace DirectoryClient

namespace Octets

/-- A number below a capacity needs no more octets than that. -/
theorem width_le {n count : Nat} (h : n < capacity (count + 1)) : width n ≤ count + 1 := by
  induction count generalizing n with
  | zero =>
    rw [capacity, capacity, Nat.mul_one] at h
    have hwidth : width n = 1 := by rw [width, if_pos h]
    exact Nat.le_of_eq hwidth
  | succ count ih =>
    rw [width]
    split
    · omega
    · rw [capacity] at h
      have := ih (n := n / 256) (by omega)
      omega

theorem capacity_mono {count count' : Nat} (h : count ≤ count') : capacity count ≤ capacity count' := by
  induction h with
  | refl => exact Nat.le_refl _
  | step _ ih =>
    rw [capacity]
    omega

end Octets

namespace Ber

/-- A number that is not negative is read back from its contents. -/
theorem toNat_integerOctets {n : Int} (h : 0 ≤ n) : Octets.toNat (integerOctets n) = n.toNat := by
  have hwidth := Octets.lt_capacity_width n.natAbs
  rw [integerOctets, Octets.toNat_bigEndian]
  -- The octet that keeps the sign bit clear adds nothing.
  have hlt : n.natAbs < Octets.capacity
      (if Octets.capacity (Octets.width n.natAbs) ≤ 2 * n then Octets.width n.natAbs + 1
        else Octets.width n.natAbs) := by
    apply Nat.lt_of_lt_of_le hwidth
    apply Octets.capacity_mono
    split <;> omega
  rw [Int.emod_eq_of_lt h (by omega)]
  exact Nat.mod_eq_of_lt (by omega)

/-- The contents of a number are one octet longer than its magnitude at most. -/
theorem length_integerOctets_le (n : Int) : (integerOctets n).length ≤ Octets.width n.natAbs + 1 := by
  rw [integerOctets, Octets.length_bigEndian]
  split <;> omega

/-- A tag that fits into one octet and a length below 128 are two octets before the contents. -/
theorem length_write_of_short {t : Tag} {content : Octets} (ht : t.number ≤ 30)
    (h : content.length < 128) (c : Bool) :
    (t.write c ++ writeContent content).length = content.length + 2 := by
  rw [Tag.write, writeContent, writeLength, if_pos ht, if_pos h]
  simp only [List.length_append, List.length_cons, List.length_nil]
  omega

inductive Element.Fits : Element → Prop
  | primitive {t : Tag} {bs : Octets} : t.number ≤ 30 → Fits (.primitive t bs)
  | constructed {t : Tag} {es : List Element} : t.number ≤ 30 → (∀ e ∈ es, Fits e) →
    Fits (.constructed t es)

section Header

variable {t : Tag} {c : Bool} {n : Nat}

private theorem toNat_identifier (ht : t.number ≤ 30) :
    (UInt8.ofNat (t.tagClass.bits * 64 + (if c then 32 else 0) + t.number)).toNat =
      t.tagClass.bits * 64 + (if c then 32 else 0) + t.number := by
  have hclass : t.tagClass.bits ≤ 3 := by cases t.tagClass <;> decide
  apply UInt8.toNat_ofNat_of_lt'
  change _ < 256
  split <;> omega

private theorem ofOctet_write (ht : t.number ≤ 30) :
    ∃ b, t.write c = [b] ∧ Tag.ofOctet b = t ∧ b.toNat.testBit 5 = c := by
  have htoNat := toNat_identifier (c := c) ht
  refine ⟨_, if_pos ht, ?_, ?_⟩
  · rw [Tag.ofOctet, htoNat]
    have hclass : (t.tagClass.bits * 64 + (if c then 32 else 0) + t.number) / 64 =
        t.tagClass.bits := by split <;> omega
    have hnumber : (t.tagClass.bits * 64 + (if c then 32 else 0) + t.number) % 32 = t.number := by
      split <;> omega
    rw [hclass, hnumber, TagClass.ofBits_bits]
  · rw [htoNat, Nat.testBit_eq_decide_div_mod_eq]
    cases c <;> simp <;> omega

private theorem header_writeLength {b : UInt8} (hn : n < Octets.capacity 8) :
    Header (b :: writeLength n) (b.toNat.testBit 5) n := by
  rw [writeLength]
  split
  · rename_i hshort
    have htoNat : (UInt8.ofNat n).toNat = n := UInt8.toNat_ofNat_of_lt' (by change n < 256; omega)
    have h := Header.short b (UInt8.ofNat n) (UInt8.lt_iff_toNat_lt.mpr (by rw [htoNat]; exact hshort))
    rwa [htoNat] at h
  · have hwidth : (Octets.ofNat n).length ≤ 8 := by
      rw [Octets.ofNat, Octets.length_bigEndian]
      exact Octets.width_le hn
    have htoNat : (UInt8.ofNat (128 + (Octets.ofNat n).length)).toNat =
        128 + (Octets.ofNat n).length := UInt8.toNat_ofNat_of_lt' (by change _ < 256; omega)
    have h := Header.long b (UInt8.ofNat (128 + (Octets.ofNat n).length)) (Octets.ofNat n)
      (by rw [UInt8.lt_iff_toNat_lt, htoNat]; exact Nat.not_lt.mpr (Nat.le_add_right 128 _))
      (by rw [htoNat]; omega)
    rwa [Octets.toNat_ofNat] at h

private theorem exists_header_write {content : Octets} (ht : t.number ≤ 30)
    (hsize : (t.write c ++ writeContent content).length < Octets.capacity 8) :
    ∃ b ls, t.write c ++ writeContent content = b :: ls ++ (content ++ []) ∧
      Header (b :: ls) c content.length ∧ content.length = content.length % Octets.capacity 8 ∧
      Tag.ofOctet b = t := by
  rw [writeContent, List.length_append, List.length_append] at hsize
  have hlen : content.length < Octets.capacity 8 := by omega
  obtain ⟨b, hb, htag, hc⟩ := ofOctet_write (c := c) ht
  have hheader := header_writeLength (b := b) hlen
  rw [hc] at hheader
  exact ⟨b, writeLength content.length, by simp [hb, writeContent], hheader,
    (Nat.mod_eq_of_lt hlen).symm, htag⟩

end Header

theorem writeAll_append (es es' : List Element) :
    writeAll (es ++ es') = writeAll es ++ writeAll es' := by
  induction es with
  | nil => rfl
  | cons e es ih => rw [List.cons_append, writeAll, writeAll, ih, List.append_assoc]

private theorem spells_writeAll {es : List Element}
    (h : ∀ e ∈ es, e.write.length < Octets.capacity 8 → Spells e.write [e])
    (hsize : (writeAll es).length < Octets.capacity 8) : Spells (writeAll es) es := by
  induction es with
  | nil => exact .nil
  | cons e es ih =>
    rw [writeAll, List.length_append] at hsize
    have hfirst := h e List.mem_cons_self (by omega)
    have hrest := ih (fun e he => h e (List.mem_cons_of_mem _ he)) (by omega)
    rw [writeAll]
    exact hfirst.append hrest

/-- An element that fits is spelled by what is written of it. -/
theorem Element.Fits.spells {e : Element} (h : e.Fits) (hsize : e.write.length < Octets.capacity 8) :
    Spells e.write [e] := by
  induction h with
  | primitive ht =>
    rw [Element.write] at hsize ⊢
    obtain ⟨b, ls, hwrite, hheader, hlen, rfl⟩ := exists_header_write ht hsize
    rw [hwrite]
    exact .primitive hheader hlen .nil
  | constructed ht _ ih =>
    rw [Element.write] at hsize ⊢
    obtain ⟨b, ls, hwrite, hheader, hlen, rfl⟩ := exists_header_write ht hsize
    rw [hwrite] at hsize ⊢
    simp only [List.length_append] at hsize
    exact .constructed hheader hlen (spells_writeAll ih (by omega)) .nil

end Ber

end DirectoryClient
