/-! Names of any script written in plain letters, digits and hyphens: the plain characters of the name
come first, and numbers say where the others are inserted. -/
namespace DirectoryClient.Text.Punycode

/-- The value of a digit. Letters come before digits. -/
private def digit? (c : Char) : Option Nat :=
  if 'a' ≤ c ∧ c ≤ 'z' then some (c.toNat - 'a'.toNat)
  else if 'A' ≤ c ∧ c ≤ 'Z' then some (c.toNat - 'A'.toNat)
  else if '0' ≤ c ∧ c ≤ '9' then some (c.toNat - '0'.toNat + 26)
  else none

private def largest : Nat := 0xffffffff

private def threshold (place bias : Nat) : Nat := min 26 (max 1 (place - bias))

private def scaleDown (n place : Nat) : Nat × Nat :=
  if 455 < n then scaleDown (n / 35) (place + 36) else (n, place)
termination_by n
decreasing_by omega

private def nextBias (number size : Nat) (isFirst : Bool) : Nat :=
  let n := if isFirst then number / 700 else number / 2
  let (n, place) := scaleDown (n + n / size) 0
  place + 36 * n / (n + 38)

/-- A text into which characters are being inserted, and the part of a number that has been read. -/
structure Insertion where
  text : List Char
  /-- The code point inserted last. -/
  point : Nat := 0x80
  /-- The place after the character inserted last. -/
  index : Nat := 0
  bias : Nat := 72
  number : Nat := 0
  weight : Nat := 1
  place : Nat := 36

namespace Insertion

private def isWhole (s : Insertion) : Bool := s.place == 36

/-- Reads one digit. The last one of a number inserts a character. Numbers that do not fit are no
numbers of a name. -/
def read? (s : Insertion) (c : Char) : Option Insertion := do
  let d ← digit? c
  let number := s.number + d * s.weight
  let t := threshold s.place s.bias
  let weight := s.weight * (36 - t)
  if largest < s.index + number then none
  else if t ≤ d then
    if largest < weight then none else some { s with number, weight, place := s.place + 36 }
  else
    let size := s.text.length + 1
    let point := s.point + (s.index + number) / size
    let index := (s.index + number) % size
    if point.isValidChar then
      some {
        text := s.text.insertIdx index (Char.ofNat point)
        point
        index := index + 1
        bias := nextBias number size (s.index == 0) }
    else none

end Insertion

private def split (written : List Char) : List Char × List Char :=
  let (numbers, plain) := written.reverse.span (· != '-')
  match plain with
  | _ :: first :: plain => ((first :: plain).reverse, numbers.reverse)
  | _ => ([], written)

def decode? (written : List Char) : Option (List Char) := do
  let (plain, numbers) := split written
  let s ← numbers.foldlM Insertion.read? { text := plain }
  if s.isWhole then some s.text else none

end DirectoryClient.Text.Punycode
