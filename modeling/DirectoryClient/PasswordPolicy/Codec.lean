import DirectoryClient.PasswordPolicy
import DirectoryClient.Error
import DirectoryClient.Ber.Reader
import DirectoryClient.Ber.Writer

/-! Reading and writing the value of the password policy control, and finding the control. -/
namespace DirectoryClient.PasswordPolicy

open Ber

/-- The number in a primitive element, of which only the low 64 bits count. -/
def number? (e : Element) : Option Nat :=
  e.octets?.map (Octets.toNat · % Octets.capacity 8)

/-- Reads the chosen warning; its number must fit in 32 bits. -/
def Warning.ofElement? (e : Element) : Option Warning := do
  let n ← number? e
  if n < Octets.capacity 4 then
    match e.number with
    | 0 => some (.timeBeforeExpiration (.ofNat n))
    | 1 => some (.graceLogins (.ofNat n))
    | _ => none
  else
    none

namespace Response

/-- Adds one component of the value. A later component of the same kind replaces an earlier one, and
of the members of a warning the last is the chosen one. -/
def addComponent? (r : Response) (e : Element) : Option Response :=
  if e.tagClass = .context then
    match e.number with
    | 0 => do
      let chosen ← e.members? >>= List.getLast?
      return { r with warning := some (← Warning.ofElement? chosen) }
    | 1 => do
      return { r with rejection := some (← number? e >>= Rejection.ofCode?) }
    | _ => none
  else
    none

/-- Reads the value of the control. Octets after its element are passed over. -/
def parse? (value : Octets) : Option Response := do
  let (e, _) ← read? value
  (← e.members?).foldlM addComponent? {}

def warningElement : Warning → Element
  | .timeBeforeExpiration n => .contextPrimitive 0 (integerOctets n.toNat)
  | .graceLogins n => .contextPrimitive 1 (integerOctets n.toNat)

def encode (r : Response) : Octets :=
  Element.write <| .sequence <|
    r.warning.toList.map (fun w => .contextConstructed 0 [warningElement w])
      ++ r.rejection.toList.map (fun e => .contextPrimitive 1 (integerOctets e.code))

def parse (value : Octets) : Outcome Response :=
  Malformed.passwordPolicy.require (parse? value)

/-- Finds the first control with the policy's OID and reads it. A control without a value is
malformed; no control is no response. -/
def ofControls (controls : List Control) : Outcome (Option Response) :=
  match controls.find? (·.oid == oid) with
  | none => .ok none
  | some { value := some value, .. } => (parse value).map some
  | some _ => .error (.decoding .passwordPolicy)

end Response

end DirectoryClient.PasswordPolicy
