import DirectoryClient.Error
import DirectoryClient.Ber.Element
import DirectoryClient.Search.BinaryAttributes

/-! Search entries: the values of each attribute, as texts or as octets. -/
namespace DirectoryClient.Search

open Ber

def putKey {α : Type} (key : String) (value : α) : List (String × α) → List (String × α)
  | [] => [(key, value)]
  | p :: ps => if p.1 = key then (key, value) :: ps else p :: putKey key value ps

/-- An entry of a search. Attributes with text values and attributes with binary values are kept
apart, each in the order in which they first came. -/
structure Entry where
  name : String
  texts : List (String × List String) := []
  binaries : List (String × List Octets) := []
  deriving DecidableEq, Repr

namespace Entry

/-- Files the values of an attribute: as octets if the detector says so or if one of them is no
text, otherwise as texts. -/
def put (binary : BinaryDetector) (e : Entry) (description : String) (values : List Octets) :
    Entry :=
  match if binary description then none else values.mapM Text.decode? with
  | some texts => { e with texts := putKey description texts e.texts }
  | none => { e with binaries := putKey description values e.binaries }

def attributeOf (a : Element) : Outcome (String × List Octets) := do
  let members ← (Malformed.entry .partialAttribute).require a.members?
  let description ← (Malformed.entry .attributeType).require
    (members[0]? >>= Element.octets? >>= Text.decode?)
  let values ← (Malformed.entry .attributeValues).require (members[1]? >>= Element.members?)
  let values ← values.mapM fun v => (Malformed.entry .value).require v.octets?
  return (description, values)

def ofElement (binary : BinaryDetector) (e : Element) : Outcome Entry := do
  let members ← (Malformed.entry .entry).require (e.ofNumber? 4 >>= Element.members?)
  let name ← (Malformed.entry .name).require (members[0]? >>= Element.octets? >>= Text.decode?)
  let attributes ← (Malformed.entry .attributes).require (members[1]? >>= Element.members?)
  attributes.foldlM (fun entry a => do
      let (description, values) ← attributeOf a
      return entry.put binary description values)
    { name }

end Entry

def isReference (e : Element) : Bool := e.number == 19

def isIntermediate (e : Element) : Bool := e.number == 25

end DirectoryClient.Search
