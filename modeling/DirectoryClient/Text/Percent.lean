import DirectoryClient.Text.Hex
import DirectoryClient.Text.Utf8

/-! Percent escapes: a percent sign and two hexadecimal digits stand for an octet. -/
namespace DirectoryClient.Text

private def percentEscape? (sign : UInt8) (after : Octets) : Option UInt8 :=
  match after with
  | a :: b :: _ => do
    if sign ≠ UInt8.ofNat '%'.toNat then none
    let high ← hexValue? (Char.ofNat a.toNat)
    let low ← hexValue? (Char.ofNat b.toNat)
    return UInt8.ofNat (high * 16 + low)
  | _ => none

/-- Replaces every escape by its octet. A percent sign without two digits stands for itself. -/
def percentDecode : Octets → Octets
  | [] => []
  | c :: rest =>
    match percentEscape? c rest with
    | some b => b :: percentDecode (rest.drop 2)
    | none => c :: percentDecode rest
termination_by bs => bs.length
decreasing_by
  · simp only [List.length_drop, List.length_cons]; omega
  · simp

end DirectoryClient.Text
