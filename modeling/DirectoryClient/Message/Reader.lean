import DirectoryClient.Message
import DirectoryClient.Ber.Reader

/-! Reading messages. An envelope is split off the buffer first; only then is it looked into, so a
malformed message is consumed like a good one. -/
namespace DirectoryClient

open Ber

namespace Response

def referralsOf (e : Element) : Outcome (List String) := do
  (← Malformed.referrals.require e.members?).mapM fun u =>
    Malformed.referralUri.require (u.octets? >>= Text.decode?)

structure ResultParts where
  result : OperationResult
  saslCredentials : Option Octets := none
  operation : ExtendedOperation := {}
  deriving Repr

/-- Adds one of the components after the diagnostic text, which are told apart by tag number alone.
Referrals gather; of other components the last one counts. -/
def ResultParts.addComponent (p : ResultParts) (e : Element) : Outcome ResultParts :=
  match e.number with
  | 3 => do
    let urls ← referralsOf e
    return { p with result.referrals := p.result.referrals ++ urls }
  | 7 => do
    return { p with saslCredentials := some (← Malformed.saslCredentials.require e.octets?) }
  | 10 => do
    let name ← Malformed.extendedName.require e.octets?
    return { p with operation.name := some (← Malformed.extendedName.require (Text.decode? name)) }
  | 11 => do
    return { p with operation.value := some (← Malformed.extendedValue.require e.octets?) }
  | _ => return p

/-- Reads the result code: an ENUMERATED, of whose number the low 32 bits count. -/
def resultCode? (e : Element) : Option UInt32 := do
  let bs ← (← e.ofUniversal? enumeratedNumber).octets?
  return UInt32.ofNat (Octets.toNat bs % Octets.capacity 8)

/-- Reads a result: code, matched name, diagnostic text, and any components after them. The matched
name must be UTF-8 and the text need not. -/
def ResultParts.ofElement (e : Element) (controls : List Control) : Outcome ResultParts := do
  let members ← Malformed.resultSequence.require e.members?
  let code ← Malformed.resultCode.require (members[0]? >>= resultCode?)
  let matched ← Malformed.matchedName.require (members[1]? >>= Element.octets?)
  let text ← Malformed.diagnostic.require (members[2]? >>= Element.octets?)
  let matchedName ← Malformed.matchedName.require (Text.decode? matched)
  let diagnostic := Text.decodeLossy text
  (members.drop 3).foldlM addComponent { result := { code, matchedName, diagnostic, controls } }

def intermediateParts (e : Element) : Outcome (Option String × Option Octets) := do
  let members ← Malformed.intermediateResponse.require e.members?
  members.foldlM (fun (name, value) c => do
      match c.number with
      | 0 =>
        let octets ← Malformed.responseName.require c.octets?
        return (some (← Malformed.responseName.require (Text.decode? octets)), value)
      | 1 => return (name, some (← Malformed.responseValue.require c.octets?))
      | _ => return (name, value))
    (none, none)

/-- Reads a protocol operation. The controls of its message go into its result, or stay beside its
entry. -/
def ofElement (e : Element) (controls : List Control) : Outcome Response :=
  if e.tagClass ≠ .application then
    .error (.decoding .operationClass)
  else
    match e.number with
    | 4 => return entry e controls
    | 19 => return reference (← referralsOf e)
    | 25 => do
      let (name, value) ← intermediateParts e
      return intermediate name value
    | n => do
      let p ← ResultParts.ofElement e controls
      return match n with
        | 1 => bind p.result p.saslCredentials
        | 5 => done p.result
        | 24 => extended p.result p.operation
        | _ => other n p.result

end Response

structure Envelope where
  id : MessageId
  operation : Element
  controls : List Control
  deriving Repr

namespace Envelope

/-- Reads a message id: an INTEGER, whose low 32 bits are taken as a signed number. -/
def messageId? (e : Element) : Option MessageId := do
  let bs ← (← e.ofUniversal? integerNumber).octets?
  return Int.bmod (Octets.toNat bs % Octets.capacity 8) (Octets.capacity 4)

/-- Takes the operation and the controls from the end of an envelope, whose members come last one
first, and leaves the rest. An element [0] at the end holds the controls. An element [10] after an
operation, as some servers put it there, is passed over. -/
def splitEnd : List Element → Outcome (Element × List Control × List Element)
  | [] => .error (.decoding .operation)
  | last :: before =>
    if last.tag = ⟨.context, 0⟩ then
      match last, before with
      | .primitive .., _ => .error (.decoding .primitiveControls)
      | _, [] => .error (.decoding .operation)
      | _, operation :: rest => do
        return (operation, ← Malformed.control.require (Control.listOfElement? last), rest)
    else if last.tag = ⟨.context, 10⟩ then
      match before with
      | operation :: rest@(_ :: _) => .ok (operation, [], rest)
      | _ => .ok (last, [], before)
    else
      .ok (last, [], before)

/-- Reads an envelope. The id is the element right before the operation. -/
def ofElement (e : Element) : Outcome Envelope := do
  let members ← Malformed.envelopeSequence.require <|
    e.ofNumber? sequenceNumber >>= Element.members?
  if members.length < 2 then
    throw (.decoding .shortEnvelope)
  let (operation, controls, before) ← splitEnd members.reverse
  let id ← Malformed.messageId.require (before.head? >>= messageId?)
  return { id, operation, controls }

end Envelope

namespace Message

def ofElement (e : Element) : Outcome Message := do
  let envelope ← Envelope.ofElement e
  let response ← Response.ofElement envelope.operation envelope.controls
  return { id := envelope.id, response, controls := envelope.controls }

/-- Takes the first message off a buffer: the message, or what is wrong with it, and the octets after
it. There is none as long as the buffer does not begin with a whole element. -/
def next? (buffer : Octets) : Option (Outcome Message × Octets) :=
  (read? buffer).map fun (e, rest) => (ofElement e, rest)

/-- What the end of the transport makes of a buffer: nothing of an empty one, a message of a whole
element, and a failure of a rest that will never be whole. -/
def atEnd (buffer : Octets) : Outcome (Option Message) :=
  match next? buffer with
  | some (m, _) => m.map some
  | none =>
    if buffer.isEmpty then .ok none
    else .error (.io { kind := "Other", text := some "bytes remaining on stream" })

end Message

end DirectoryClient
