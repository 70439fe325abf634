import DirectoryClient.Octets

/-! Elements of the basic encoding rules as trees: a tag, and either contents or members. -/
namespace DirectoryClient.Ber

inductive TagClass where
  | universal
  | application
  | context
  | privateUse
  deriving DecidableEq, Repr, Inhabited

def TagClass.bits : TagClass → Nat
  | .universal => 0
  | .application => 1
  | .context => 2
  | .privateUse => 3

def TagClass.ofBits : Nat → TagClass
  | 0 => .universal
  | 1 => .application
  | 2 => .context
  | _ => .privateUse

theorem TagClass.ofBits_bits (c : TagClass) : ofBits c.bits = c := by
  cases c <;> rfl

structure Tag where
  tagClass : TagClass
  number : Nat
  deriving DecidableEq, Repr, Inhabited

/-- An element with its contents: a string of octets, or further elements. -/
inductive Element where
  | primitive (tag : Tag) (octets : Octets)
  | constructed (tag : Tag) (members : List Element)
  deriving Repr, Inhabited

namespace Element

def tag : Element → Tag
  | primitive t _ => t
  | constructed t _ => t

/-- The tag number alone; most readers of a component look at nothing else. -/
def number (e : Element) : Nat := e.tag.number

def tagClass (e : Element) : TagClass := e.tag.tagClass

def octets? : Element → Option Octets
  | primitive _ bs => some bs
  | constructed _ _ => none

def members? : Element → Option (List Element)
  | primitive _ _ => none
  | constructed _ es => some es

def ofNumber? (n : Nat) (e : Element) : Option Element :=
  if e.number = n then some e else none

def ofUniversal? (n : Nat) (e : Element) : Option Element :=
  if e.tag = ⟨.universal, n⟩ then some e else none

end Element

/-! Universal tag numbers. -/

def booleanNumber : Nat := 1
def integerNumber : Nat := 2
def octetStringNumber : Nat := 4
def nullNumber : Nat := 5
def enumeratedNumber : Nat := 10
def sequenceNumber : Nat := 16

def booleanOctets (b : Bool) : Octets :=
  [if b then 0xff else 0x00]

/-- The contents written for a whole number: as many octets as its magnitude needs, one more when a
positive number would otherwise begin with a set bit. A negative number keeps only the low octets,
so its sign may be lost. -/
def integerOctets (n : Int) : Octets :=
  let count := Octets.width n.natAbs
  let count := if Octets.capacity count ≤ 2 * n then count + 1 else count
  Octets.bigEndian count (n % Octets.capacity count).toNat

namespace Element

def octetString (bs : Octets) : Element := primitive ⟨.universal, octetStringNumber⟩ bs

def integer (n : Int) : Element := primitive ⟨.universal, integerNumber⟩ (integerOctets n)

def enumerated (n : Int) : Element := primitive ⟨.universal, enumeratedNumber⟩ (integerOctets n)

def boolean (b : Bool) : Element := primitive ⟨.universal, booleanNumber⟩ (booleanOctets b)

def sequence (es : List Element) : Element := constructed ⟨.universal, sequenceNumber⟩ es

def contextPrimitive (n : Nat) (bs : Octets) : Element := primitive ⟨.context, n⟩ bs

def contextConstructed (n : Nat) (es : List Element) : Element := constructed ⟨.context, n⟩ es

end Element

end DirectoryClient.Ber
