import DirectoryClient.Octets

/-! Octets as lower-case hexadecimal digits, two for each octet. -/
namespace DirectoryClient.Text

def hexValue? (c : Char) : Option Nat :=
  if '0' ≤ c ∧ c ≤ '9' then some (c.toNat - '0'.toNat)
  else if 'a' ≤ c ∧ c ≤ 'f' then some (c.toNat - 'a'.toNat + 10)
  else if 'A' ≤ c ∧ c ≤ 'F' then some (c.toNat - 'A'.toNat + 10)
  else none

private def hexDigits (b : UInt8) : List Char :=
  [Nat.digitChar (b.toNat / 16), Nat.digitChar (b.toNat % 16)]

def toHex (octets : Octets) : String :=
  String.ofList (octets.flatMap hexDigits)

private def ofHexChars? : List Char → Option Octets
  | [] => some []
  | [_] => none
  | a :: b :: rest => do
    let high ← hexValue? a
    let low ← hexValue? b
    return UInt8.ofNat (high * 16 + low) :: (← ofHexChars? rest)

def ofHex? (s : String) : Option Octets :=
  ofHexChars? s.toList

end DirectoryClient.Text
