import DirectoryClient.Filter
import DirectoryClient.Text.Hex
import DirectoryClient.Text.Utf8

/-! Reading the text of a filter. Every choice of the grammar is settled by the octets at hand and is
never taken back; the whole text has to be used up. -/
namespace DirectoryClient.Filter

private def ascii (c : Char) : UInt8 := UInt8.ofNat c.toNat

private def isAlpha (b : UInt8) : Bool :=
  (ascii 'a' ≤ b && b ≤ ascii 'z') || (ascii 'A' ≤ b && b ≤ ascii 'Z')

def isDigit (b : UInt8) : Bool := ascii '0' ≤ b && b ≤ ascii '9'

/-- The octets of a name: letters, digits and hyphens. -/
private def isNameOctet (b : UInt8) : Bool := isAlpha b || isDigit b || b == ascii '-'

/-- Cuts octets at every occurrence of one of them. There is always a first piece. -/
private def pieces (separator : UInt8) : Octets → Octets × List Octets
  | [] => ([], [])
  | b :: bs =>
    let (first, more) := pieces separator bs
    if b = separator then ([], first :: more) else (b :: first, more)

/-- A number: digits without a leading zero, or zero itself. -/
private def isNumber (bs : Octets) : Bool :=
  bs.all isDigit && match bs with
    | [] => false
    | [_] => true
    | b :: _ => b != ascii '0'

/-- An attribute type or a matching rule: numbers between dots, or a name that starts with a
letter. -/
private def isAttributeType (bs : Octets) : Bool :=
  match bs with
  | [] => false
  | b :: _ =>
    if isAlpha b then bs.all isNameOctet
    else
      let (first, more) := pieces (ascii '.') bs
      (first :: more).all isNumber

private def isDescription (bs : Octets) : Bool :=
  let (type, options) := pieces (ascii ';') bs
  isAttributeType type && options.all fun o => !o.isEmpty && o.all isNameOctet

private def isTypeOctet (b : UInt8) : Bool := isNameOctet b || b == ascii '.'

private def isDescriptionOctet (b : UInt8) : Bool := isTypeOctet b || b == ascii ';'

private def endsItem (b : UInt8) : Bool := b == 0 || b == ascii '(' || b == ascii ')'

private def escaped? (a b : UInt8) : Option UInt8 := do
  let high ← Text.hexValue? (Char.ofNat a.toNat)
  let low ← Text.hexValue? (Char.ofNat b.toNat)
  return UInt8.ofNat (high * 16 + low)

/-- A value without asterisks. A backslash and the two digits after it stand for one octet. -/
private def value? : Octets → Option Octets
  | [] => some []
  | c :: rest =>
    if c = ascii '*' then none
    else if c = ascii '\\' then
      match rest with
      | a :: b :: rest => do return (← escaped? a b) :: (← value? rest)
      | _ => none
    else (value? rest).map (c :: ·)

private def nonempty? (bs : Octets) : Option Octets :=
  if bs.isEmpty then none else some bs

/-- What an equals sign says: equality, presence, or parts of a value between asterisks. -/
private def ofPattern? (description pattern : Octets) : Option Filter := do
  let (first, more) := pieces (ascii '*') pattern
  let first ← value? first
  let more ← more.mapM value?
  match more.getLast? with
  | none => some (.compare .equal description first)
  | some last =>
    let middle := more.dropLast
    if middle.any List.isEmpty then none
    else if first.isEmpty && middle.isEmpty && last.isEmpty then some (.present description)
    else some (.substrings description (nonempty? first) middle (nonempty? last))

private def takeRule (bs : Octets) : Option Octets × Octets :=
  match bs with
  | [] => (none, [])
  | c :: rest =>
    let (rule, after) := rest.span isTypeOctet
    if c = ascii ':' && isAttributeType rule then (some rule, after) else (none, bs)

/-- Takes the mark that asks for the attributes of the name, too. It is taken even where a longer
word begins with it. -/
private def takeNameMark (bs : Octets) : Bool × Octets :=
  let mark := Text.encode ":dn"
  if mark.isPrefixOf bs then (true, bs.drop mark.length) else (false, bs)

/-- An extensible match: what stands after the attribute, if there is one. Without an attribute
there is a rule. -/
private def ofExtensible? (description : Option Octets) (bs : Octets) : Option Filter :=
  let (withNameAttributes, bs) := takeNameMark bs
  let (rule, bs) := takeRule bs
  if description.isNone && rule.isNone then none
  else
    match bs with
    | a :: b :: rest =>
      if a = ascii ':' && b = ascii '=' then
        (value? rest).map fun value => .extensible rule description value withNameAttributes
      else none
    | _ => none

/-- Reads an item. What follows the attribute description selects its kind. -/
private def ofItem? (item : Octets) : Option Filter :=
  let (description, rest) := item.span isDescriptionOctet
  if description.isEmpty then ofExtensible? none rest
  else if !isDescription description then none
  else
    let compare? (comparison : Comparison) (value : Octets) :=
      (value? value).map (.compare comparison description)
    match rest with
    | [] => none
    | a :: after =>
      if a = ascii '=' then ofPattern? description after
      else if a = ascii ':' then ofExtensible? (some description) rest
      else
        match after with
        | [] => none
        | b :: after =>
          if b ≠ ascii '=' then none
          else if a = ascii '>' then compare? .atLeast after
          else if a = ascii '<' then compare? .atMost after
          else if a = ascii '~' then compare? .approximate after
          else none

private def takeItem? (bs : Octets) : Option (Filter × Octets) :=
  let (item, rest) := bs.span (!endsItem ·)
  (ofItem? item).map (·, rest)

mutual

/-- Takes a filter in parentheses. The depth bounds the steps down to the innermost item. -/
private def takeFilter? : Nat → Octets → Option (Filter × Octets)
  | 0, _ => none
  | depth + 1, bs =>
    match bs with
    | [] => none
    | c :: bs =>
      if c ≠ ascii '(' then none
      else
        match takeComponent? depth bs with
        | some (f, d :: rest) => if d = ascii ')' then some (f, rest) else none
        | _ => none

private def takeComponent? : Nat → Octets → Option (Filter × Octets)
  | 0, _ => none
  | depth + 1, bs =>
    match bs with
    | [] => none
    | c :: rest =>
      if c = ascii '&' then
        let (members, rest) := takeFilters depth rest
        some (.all members, rest)
      else if c = ascii '|' then
        let (members, rest) := takeFilters depth rest
        some (.any members, rest)
      else if c = ascii '!' then (takeFilter? depth rest).map fun (f, rest) => (.not f, rest)
      else takeItem? bs

private def takeFilters : Nat → Octets → List Filter × Octets
  | 0, bs => ([], bs)
  | depth + 1, bs =>
    match takeFilter? depth bs with
    | none => ([], bs)
    | some (f, rest) =>
      let (fs, rest) := takeFilters depth rest
      (f :: fs, rest)

end

/-- Reads the text of a filter, which is one in parentheses or a bare item. Every parenthesis on the
way to an item takes at most three steps down, so three for each octet suffice. -/
def parse? (text : String) : Option Filter :=
  let bs := Text.encode text
  let first :=
    match takeFilter? (3 * bs.length + 3) bs with
    | some p => some p
    | none => takeItem? bs
  match first with
  | some (f, []) => some f
  | _ => none

end DirectoryClient.Filter
