import DirectoryClient.Ber.Element
import DirectoryClient.Text.Utf8

/-! Controls, which travel beside an operation in the envelope of a message. -/
namespace DirectoryClient

/-- A control in its general form. An absent value differs from an empty one. -/
structure Control where
  oid : String
  critical : Bool := false
  value : Option Octets := none
  deriving DecidableEq, Repr

namespace Control

open Ber

/-- A control as an element. The criticality is written only if it holds. -/
def element (c : Control) : Element :=
  .sequence <|
    .octetString (Text.encode c.oid)
      :: (if c.critical then [.boolean true] else [])
      ++ c.value.toList.map .octetString

/-- Reads the components after the OID: an optional BOOLEAN and an optional value, told apart by
their tag numbers. Further components are passed over. -/
def readComponents? : List Element → Option (Bool × Option Octets)
  | [] => some (false, none)
  | c :: rest =>
    if c.number = booleanNumber then do
      let bs ← c.octets?
      let critical := bs.head?.any (· ≠ 0)
      match rest with
      | [] => some (critical, none)
      | v :: _ => v.octets?.map (critical, some ·)
    else if c.number = octetStringNumber then
      c.octets?.map (false, some ·)
    else
      none

def ofElement? (e : Element) : Option Control := do
  match ← e.members? with
  | [] => none
  | oid :: rest =>
    let oid ← oid.octets? >>= Text.decode?
    let (critical, value) ← readComponents? rest
    return { oid, critical, value }

def listOfElement? (e : Element) : Option (List Control) := do
  (← e.members?).mapM ofElement?

end Control

end DirectoryClient
