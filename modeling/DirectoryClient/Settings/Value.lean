/-! Values of a configuration and how fields are read from them. Reading is strict: nothing is
converted, and a field is absent only if it is not there. -/
namespace DirectoryClient.Settings

abbrev Millis := Nat

inductive Value where
  | null
  | bool (b : Bool)
  | integer (n : Int)
  /-- A number with a fraction. No setting is one. -/
  | fraction
  | text (s : String)
  | list (vs : List Value)
  | table (fields : List (String × Value))
  deriving Inhabited

namespace Value

def bool? : Value → Option Bool
  | bool b => some b
  | _ => none

def text? : Value → Option String
  | text s => some s
  | _ => none

private def largest : Int := 0xFFFFFFFFFFFFFFFF

def nat? : Value → Option Nat
  | integer n => if 0 ≤ n ∧ n ≤ largest then some n.toNat else none
  | _ => none

def texts? : Value → Option (List String)
  | list vs => vs.mapM text?
  | _ => none

/-- The fields of a record, whose names are given in their order: a table, or a list of the first
ones. -/
def fields? (names : List String) : Value → Option (List (String × Value))
  | table fields => some fields
  | list vs => if vs.length ≤ names.length then some (names.zip vs) else none
  | _ => none

def choice? : Value → Option String
  | text name => some name
  | table [(name, null)] => some name
  | _ => none

def optional? {α : Type} (read : Value → Option α) : Value → Option (Option α)
  | null => some none
  | v => (read v).map some

end Value

/-- Reads a field of a table. An absent field has its default. -/
def field? {α : Type} (fields : List (String × Value)) (name : String)
    (read : Value → Option α) (absent : α) : Option α :=
  match fields.lookup name with
  | none => some absent
  | some v => read v

end DirectoryClient.Settings
