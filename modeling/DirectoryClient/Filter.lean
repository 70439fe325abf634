import DirectoryClient.Ber.Element

/-! Search filters as trees, and their elements in a search request. -/
namespace DirectoryClient

inductive Comparison where
  | equal
  | atLeast
  | atMost
  | approximate
  deriving DecidableEq, Repr

/-- A search filter. Attribute descriptions and values are octets, as the filter text gives them. -/
inductive Filter where
  | all (members : List Filter)
  | any (members : List Filter)
  | not (member : Filter)
  | compare (comparison : Comparison) (description value : Octets)
  /-- The parts of a value in order. An absent first or last part allows anything there. -/
  | substrings (description : Octets) (first : Option Octets) (middle : List Octets)
      (last : Option Octets)
  | present (description : Octets)
  | extensible (rule description : Option Octets) (value : Octets) (withNameAttributes : Bool)
  deriving Repr

namespace Filter

open Ber

private def comparisonNumber : Comparison → Nat
  | .equal => 3
  | .atLeast => 5
  | .atMost => 6
  | .approximate => 8

mutual

def element : Filter → Element
  | .all members => .contextConstructed 0 (elements members)
  | .any members => .contextConstructed 1 (elements members)
  | .not member => .contextConstructed 2 [element member]
  | .compare comparison description value =>
    .contextConstructed (comparisonNumber comparison) [.octetString description, .octetString value]
  | .substrings description first middle last =>
    .contextConstructed 4 [
      .octetString description,
      .sequence <|
        first.toList.map (.contextPrimitive 0)
          ++ middle.map (.contextPrimitive 1)
          ++ last.toList.map (.contextPrimitive 2)]
  | .present description => .contextPrimitive 7 description
  | .extensible rule description value withNameAttributes =>
    .contextConstructed 9 <|
      rule.toList.map (.contextPrimitive 1)
        ++ description.toList.map (.contextPrimitive 2)
        ++ [.contextPrimitive 3 value]
        ++ if withNameAttributes then [.contextPrimitive 4 (booleanOctets true)] else []

private def elements : List Filter → List Element
  | [] => []
  | f :: fs => element f :: elements fs

end

end Filter

end DirectoryClient
