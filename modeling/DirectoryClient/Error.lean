import DirectoryClient.OperationResult
import DirectoryClient.PasswordPolicy
import DirectoryClient.Text.Quoted

/-! Everything that can go wrong, as causes, and the one wording of each cause. -/
namespace DirectoryClient

abbrev MessageId := Int

inductive ResponseKind where
  | entry
  | reference
  | intermediate
  | done
  | extended
  /-- Any other response that carries a result. -/
  | result
  deriving DecidableEq, Repr

def ResponseKind.name : ResponseKind → String
  | entry => "Entry"
  | reference => "Reference"
  | intermediate => "Intermediate"
  | done => "Done"
  | extended => "Extended"
  | result => "Result"

inductive EntryPart where
  | entry
  | name
  | attributes
  | partialAttribute
  | attributeType
  | attributeValues
  | value
  deriving DecidableEq, Repr

def EntryPart.text : EntryPart → String
  | entry => "entry"
  | name => "dn"
  | attributes => "attributes"
  | partialAttribute => "partial attribute"
  | attributeType => "attribute type"
  | attributeValues => "attribute values"
  | value => "value"

inductive Malformed where
  | envelopeSequence
  | shortEnvelope
  | primitiveControls
  | operationClass
  | operation
  | messageId
  | control
  | resultSequence
  | resultCode
  | matchedName
  | diagnostic
  | saslCredentials
  | extendedName
  | extendedValue
  | intermediateResponse
  | responseName
  | responseValue
  | referrals
  | referralUri
  | entry (part : EntryPart)
  | passwordPolicy
  /-- A response of another kind than the operation waits for. -/
  | unexpectedReply (expected : String) (id : MessageId) (kind : ResponseKind)
  /-- A response that has no place in a search. -/
  | unexpectedInSearch (kind : ResponseKind) (id : MessageId)
  /-- Any other complaint, such as that of a bind mechanism about a challenge. -/
  | other (text : String)
  deriving DecidableEq, Repr

def Malformed.text : Malformed → String
  | envelopeSequence => "envelope sequence"
  | shortEnvelope => "short envelope"
  | primitiveControls => "primitive controls"
  | operationClass => "protocol op is not application-tagged"
  | operation => "protocol op"
  | messageId => "message id"
  | control => "malformed control"
  | resultSequence => "result sequence"
  | resultCode => "result code"
  | matchedName => "matched dn"
  | diagnostic => "diagnostic message"
  | saslCredentials => "sasl creds"
  | extendedName => "exop name"
  | extendedValue => "exop value"
  | intermediateResponse => "intermediate response"
  | responseName => "response name"
  | responseValue => "response value"
  | referrals => "referrals"
  | referralUri => "referral uri"
  | entry part => "malformed search entry: " ++ part.text
  | passwordPolicy => "malformed password policy control"
  | unexpectedReply expected id kind =>
    "expected " ++ expected ++ " response to operation " ++ toString id ++ ", got " ++ kind.name
  | unexpectedInSearch kind id =>
    "unexpected " ++ kind.name ++ " response in search " ++ toString id
  | other text => text

inductive AddressFault where
  | noScheme
  | invalidPort
  | invalidIpv4
  | invalidIpv6
  | emptyHost
  | invalidDomainCharacter
  | invalidInternationalName
  deriving DecidableEq, Repr

def AddressFault.text : AddressFault → String
  | noScheme => "relative URL without a base"
  | invalidPort => "invalid port number"
  | invalidIpv4 => "invalid IPv4 address"
  | invalidIpv6 => "invalid IPv6 address"
  | emptyHost => "empty host"
  | invalidDomainCharacter => "invalid domain character"
  | invalidInternationalName => "invalid international domain name"

inductive AccountingFault where
  /-- The connection is not one that the pool has handed out. -/
  | notBorrowed (connection : Nat)
  /-- Every message id is in use. -/
  | noFreeMessageId
  | other (text : String)
  deriving DecidableEq, Repr

def AccountingFault.text : AccountingFault → String
  | notBorrowed connection =>
    "connection " ++ toString connection ++ " was not borrowed from this pool"
  | noFreeMessageId => "message id wraparound with no free slots"
  | other text => text

/-- A failure of input or output. Its text is absent when the wording is the operating system's. -/
structure IoFailure where
  kind : String
  text : Option String := none
  deriving DecidableEq, Repr

inductive DirectoryError where
  /-- The address names no socket path. -/
  | emptySocketPath
  /-- The address of a socket path has a port, which it cannot have. -/
  | portInSocketPath
  | io (failure : IoFailure)
  | address (fault : AddressFault)
  | unknownScheme (scheme : String)
  | connectTimeout
  | filterParsing
  | decoding (fault : Malformed)
  /-- The transport is gone. -/
  | connectionClosed
  /-- The stream of a search was read past its end. -/
  | endOfStream
  | operationResult (result : OperationResult)
  /-- A bind with the credentials of a factory was rejected. -/
  | authenticationFailed (result : OperationResult)
  /-- An idle connection could not be made usable again. -/
  | reactivationFailed (source : DirectoryError)
  | validationFailed
  | poolExhausted
  /-- A new connection could not be made or made usable. -/
  | borrowFailed (source : DirectoryError)
  | accounting (fault : AccountingFault)
  | poolClosed
  /-- No response came in time; the operation has been abandoned. -/
  | responseTimeout (id : MessageId)
  | operationCancelled (id : MessageId)
  /-- A cursor failed while it advanced, and is closed. -/
  | cursorBroken (source : DirectoryError)
  /-- The cursor stands on no response. -/
  | invalidPosition
  /-- The current response is a referral and no entry. -/
  | referral (urls : List String)
  | notAnEntry
  | unsupportedOperation (operation : String)
  | passwordRejected (result : OperationResult) (rejection : Option PasswordPolicy.Rejection)
  deriving DecidableEq, Repr, Inhabited

abbrev Outcome := Except DirectoryError

namespace DirectoryError

def message : DirectoryError → String
  | emptySocketPath => "empty Unix domain socket path"
  | portInSocketPath => "the port must be empty in the ldapi scheme"
  | io failure => "I/O error: " ++ failure.text.getD ""
  | address fault => "url parse error: " ++ fault.text
  | unknownScheme scheme => "unknown LDAP URL scheme: " ++ scheme
  | connectTimeout => "connection timeout"
  | filterParsing => "filter parse error"
  | decoding fault => "decoding error: " ++ fault.text
  | connectionClosed => "connection closed"
  | endOfStream => "premature end of search stream"
  | operationResult result => "LDAP operation result: " ++ result.summary
  | authenticationFailed result => "authentication failed: " ++ result.summary
  | reactivationFailed source => "connection reactivation failed: " ++ source.message
  | validationFailed => "connection failed validation"
  | poolExhausted => "connection pool exhausted"
  | borrowFailed source => "unable to borrow a connection: " ++ source.message
  | accounting fault => "pool internal error: " ++ fault.text
  | poolClosed => "connection pool closed"
  | responseTimeout id => "timeout waiting for response to operation " ++ toString id
  | operationCancelled id => "operation " ++ toString id ++ " cancelled"
  | cursorBroken source => "search cursor failed: " ++ source.message
  | invalidPosition => "cursor is not positioned on a response"
  | referral urls => "referral: " ++ Text.quotedList urls
  | notAnEntry => "current response is not an entry"
  | unsupportedOperation operation => "unsupported operation: " ++ operation
  | passwordRejected result _ => "password rejected: " ++ result.summary

def hasSystemText : DirectoryError → Bool
  | io failure => failure.text.isNone
  | reactivationFailed source | borrowFailed source | cursorBroken source => source.hasSystemText
  | _ => false

def isTimeout : DirectoryError → Bool
  | responseTimeout _ | connectTimeout => true
  | cursorBroken source | borrowFailed source | reactivationFailed source => source.isTimeout
  | _ => false

def isCancelled : DirectoryError → Bool
  | operationCancelled _ => true
  | cursorBroken source => source.isCancelled
  | _ => false

def isRetryable : DirectoryError → Bool
  | io _ | connectionClosed | connectTimeout | responseTimeout _ | poolExhausted => true
  | cursorBroken source | borrowFailed source | reactivationFailed source => source.isRetryable
  | _ => false

/-- The failure as one of input and output: such a failure keeps its kind and text, any other is
of the kind `Other` with its wording as text. -/
def toIoFailure : DirectoryError → IoFailure
  | io failure => failure
  | e => { kind := "Other", text := some e.message }

end DirectoryError

def Malformed.require {α : Type} (fault : Malformed) (part : Option α) : Outcome α :=
  part.elim (.error (.decoding fault)) .ok

def OperationResult.success (r : OperationResult) : Outcome OperationResult :=
  if r.isSuccess then .ok r else .error (.operationResult r)

/-- A result that is no error: the code is zero or that of a referral. -/
def OperationResult.nonError (r : OperationResult) : Outcome OperationResult :=
  if r.isNonError then .ok r else .error (.operationResult r)

end DirectoryClient
