import DirectoryClient.Ber.Element

/-! Writing elements, with the shortest definite length. -/
namespace DirectoryClient.Ber

/-- A number in base 128, most significant digit first, the high bit set on every octet but the
last. -/
def base128 (n : Nat) : Octets :=
  continued (n / 128) ++ [UInt8.ofNat (n % 128)]
where
  continued (n : Nat) : Octets :=
    if n = 0 then [] else continued (n / 128) ++ [UInt8.ofNat (n % 128 + 128)]
  termination_by n

/-- The identifier octets. Numbers above 30 follow the first octet. -/
def Tag.write (t : Tag) (isConstructed : Bool) : Octets :=
  let high := t.tagClass.bits * 64 + (if isConstructed then 32 else 0)
  if t.number ≤ 30 then [UInt8.ofNat (high + t.number)]
  else UInt8.ofNat (high + 31) :: base128 t.number

def writeLength (n : Nat) : Octets :=
  if n < 128 then [UInt8.ofNat n]
  else UInt8.ofNat (128 + (Octets.ofNat n).length) :: Octets.ofNat n

def writeContent (bs : Octets) : Octets :=
  writeLength bs.length ++ bs

mutual

def Element.write : Element → Octets
  | .primitive t bs => t.write false ++ writeContent bs
  | .constructed t es => t.write true ++ writeContent (writeAll es)

def writeAll : List Element → Octets
  | [] => []
  | e :: es => e.write ++ writeAll es

end

end DirectoryClient.Ber
