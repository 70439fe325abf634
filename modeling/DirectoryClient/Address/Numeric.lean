import DirectoryClient.Text.Hex

/-! Internet addresses written as numbers, of four octets or of eight pieces of two. -/
namespace DirectoryClient.Address

/-- A decimal number of an IPv4 address inside an IPv6 address: at most 255, no leading zero. -/
private def isDecimalOctet (s : String) : Bool :=
  s.length ≤ 3 && s.toList.all Char.isDigit && (s == "0" || !s.startsWith "0")
    && s.toNat?.any (· ≤ 255)

private def ipv6Pieces? (allowIpv4 : Bool) (run : String) : Option Nat :=
  if run.isEmpty then some 0
  else
    let pieces := run.splitOn ":"
    let isHex (s : String) :=
      !s.isEmpty && s.length ≤ 4 && s.toList.all fun c => (Text.hexValue? c).isSome
    let last := pieces.getLast?.getD ""
    let decimals := last.splitOn "."
    if allowIpv4 && decimals.length == 4 && decimals.all isDecimalOctet then
      if pieces.dropLast.all isHex then some (pieces.length + 1) else none
    else if pieces.all isHex then some pieces.length
    else none

/-- The text between brackets is an IPv6 address: eight pieces, or fewer around one gap. -/
def isIpv6 (s : String) : Bool :=
  match s.splitOn "::" with
  | [whole] => ipv6Pieces? true whole == some 8
  | [before, after] =>
    match ipv6Pieces? false before, ipv6Pieces? true after with
    | some n, some m => n + m ≤ 7
    | _, _ => false
  | _ => false

private def ipv4Number? (s : String) : Option Nat :=
  let digits (base : Nat) (cs : List Char) : Option Nat :=
    cs.foldlM (fun n c => do
      let d ← Text.hexValue? c
      if d < base then some (n * base + d) else none) 0
  match s.toList with
  | [] => none
  | '0' :: 'x' :: cs => digits 16 cs
  | '0' :: 'X' :: cs => digits 16 cs
  | '0' :: c :: cs => digits 8 (c :: cs)
  | cs => digits 10 cs

/-- The labels of a name, without an empty one at its end. -/
private def labels (s : String) : List String :=
  let labels := s.splitOn "."
  if labels.length > 1 && labels.getLast? == some "" then labels.dropLast else labels

def isMeantAsIpv4 (s : String) : Bool :=
  match (labels s).getLast? with
  | none => false
  | some last => (!last.isEmpty && last.toList.all Char.isDigit) || (ipv4Number? last).isSome

def isIpv4 (s : String) : Bool :=
  let parts := labels s
  match parts.mapM ipv4Number? with
  | none => false
  | some numbers =>
    numbers.length ≤ 4 && numbers.dropLast.all (· ≤ 255)
      && numbers.getLast?.any (· < Octets.capacity (5 - numbers.length))

end DirectoryClient.Address
