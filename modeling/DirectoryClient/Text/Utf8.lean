import DirectoryClient.Octets

/-! Text as UTF-8 octets: writing, strict reading, and reading that replaces what is malformed. -/
namespace DirectoryClient.Text

def encode (s : String) : Octets :=
  s.toUTF8.data.toList

def decode? (octets : Octets) : Option String :=
  String.fromUTF8? ⟨octets.toArray⟩

/-- Strict reading accepts what writing produces. -/
theorem decode?_encode (s : String) : decode? (encode s) = some s := by
  have h : (⟨(encode s).toArray⟩ : ByteArray) = s.toByteArray := rfl
  rw [decode?, h, String.fromUTF8?, dif_pos s.isValidUTF8]
  rfl

/-- What a lead octet promises: the bits it contributes, the range of the octet after it, and how
many octets follow in all. -/
structure Lead where
  bits : Nat
  low : UInt8
  high : UInt8
  count : Nat

/-- The lead octets of characters of two to four octets. The ranges leave out overlong forms,
surrogates and numbers above the last code point. -/
def Lead.ofOctet? (b : UInt8) : Option Lead :=
  if 0xC2 ≤ b ∧ b ≤ 0xDF then some ⟨b.toNat - 0xC0, 0x80, 0xBF, 1⟩
  else if b = 0xE0 then some ⟨0, 0xA0, 0xBF, 2⟩
  else if b = 0xED then some ⟨0xD, 0x80, 0x9F, 2⟩
  else if 0xE1 ≤ b ∧ b ≤ 0xEF then some ⟨b.toNat - 0xE0, 0x80, 0xBF, 2⟩
  else if b = 0xF0 then some ⟨0, 0x90, 0xBF, 3⟩
  else if 0xF1 ≤ b ∧ b ≤ 0xF3 then some ⟨b.toNat - 0xF0, 0x80, 0xBF, 3⟩
  else if b = 0xF4 then some ⟨4, 0x80, 0x8F, 3⟩
  else none

/-- The longest run of octets that continues a character, the first of them from `low` to `high`. -/
def continuation (low high : UInt8) : Nat → Octets → Octets
  | 0, _ => []
  | _, [] => []
  | count + 1, b :: bs =>
    if low ≤ b ∧ b ≤ high then b :: continuation 0x80 0xBF count bs else []

/-- The characters of the octets, with one replacement character for each longest start of a
character that is broken off, and for each octet that starts none. -/
def lossyChars : Octets → List Char
  | [] => []
  | b :: bs =>
    if b < 0x80 then
      Char.ofNat b.toNat :: lossyChars bs
    else
      match Lead.ofOctet? b with
      | none => '\uFFFD' :: lossyChars bs
      | some lead =>
        let taken := continuation lead.low lead.high lead.count bs
        let c :=
          if taken.length = lead.count then
            Char.ofNat (taken.foldl (fun n b => n * 64 + (b.toNat - 0x80)) lead.bits)
          else '\uFFFD'
        c :: lossyChars (bs.drop taken.length)
termination_by bs => bs.length
decreasing_by
  · simp
  · simp
  · simp only [List.length_drop, List.length_cons]; omega

def decodeLossy (octets : Octets) : String :=
  String.ofList (lossyChars octets)

end DirectoryClient.Text
