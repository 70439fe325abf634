import DirectoryClient.Error
import DirectoryClient.Filter.Text

/-! The request that starts a search. -/
namespace DirectoryClient.Search

open Ber

inductive Scope where
  | base
  | oneLevel
  | subtree
  deriving DecidableEq, Repr

def Scope.code : Scope → Nat
  | base => 0
  | oneLevel => 1
  | subtree => 2

inductive Dereference where
  | never
  | searching
  | finding
  | always
  deriving DecidableEq, Repr

def Dereference.code : Dereference → Nat
  | never => 0
  | searching => 1
  | finding => 2
  | always => 3

/-- Further settings of a search. A limit of zero is none. -/
structure Options where
  dereference : Dereference := .never
  typesOnly : Bool := false
  timeLimit : Int := 0
  sizeLimit : Int := 0
  deriving DecidableEq, Repr

structure Query where
  base : String
  scope : Scope
  filter : String
  attributes : List String
  deriving DecidableEq, Repr

def request (q : Query) (o : Options) : Outcome Element :=
  match Filter.parse? q.filter with
  | none => .error .filterParsing
  | some filter =>
    .ok <| .constructed ⟨.application, 3⟩ [
      .octetString (Text.encode q.base),
      .enumerated q.scope.code,
      .enumerated o.dereference.code,
      .integer o.sizeLimit,
      .integer o.timeLimit,
      .boolean o.typesOnly,
      filter.element,
      .sequence (q.attributes.map fun a => .octetString (Text.encode a))]

end DirectoryClient.Search
