import DirectoryClient.Control

/-! The result that ends every operation: a code, names and texts, referrals and controls. -/
namespace DirectoryClient

structure OperationResult where
  code : UInt32
  matchedName : String := ""
  diagnostic : String := ""
  referrals : List String := []
  controls : List Control := []
  deriving DecidableEq, Repr

namespace OperationResult

def bindInProgress : UInt32 := 14

private def codeName (code : UInt32) : String :=
  match code.toNat with
  | 0 => "success"
  | 1 => "operationsError"
  | 2 => "protocolError"
  | 3 => "timeLimitExceeded"
  | 4 => "sizeLimitExceeded"
  | 5 => "compareFalse"
  | 6 => "compareTrue"
  | 7 => "authMethodNotSupported"
  | 8 => "strongerAuthRequired"
  | 10 => "referral"
  | 11 => "adminLimitExceeded"
  | 12 => "unavailableCriticalExtension"
  | 13 => "confidentialityRequired"
  | 14 => "saslBindInProgress"
  | 16 => "noSuchAttribute"
  | 17 => "undefinedAttributeType"
  | 18 => "inappropriateMatching"
  | 19 => "constraintViolation"
  | 20 => "attributeOrValueExists"
  | 21 => "invalidAttributeSyntax"
  | 32 => "noSuchObject"
  | 33 => "aliasProblem"
  | 34 => "invalidDNSyntax"
  | 36 => "aliasDereferencingProblem"
  | 48 => "inappropriateAuthentication"
  | 49 => "invalidCredentials"
  | 50 => "insufficientAccessRights"
  | 51 => "busy"
  | 52 => "unavailable"
  | 53 => "unwillingToPerform"
  | 54 => "loopDetect"
  | 64 => "namingViolation"
  | 65 => "objectClassViolation"
  | 66 => "notAllowedOnNonLeaf"
  | 67 => "notAllowedOnRDN"
  | 68 => "entryAlreadyExists"
  | 69 => "objectClassModsProhibited"
  | 71 => "affectsMultipleDSAs"
  | 80 => "other"
  | 88 => "abandoned"
  | 122 => "assertionFailed"
  | _ => "unknown"

/-- One line that sums a result up. Names and texts stand in it as they are. -/
def summary (r : OperationResult) : String :=
  "rc=" ++ toString r.code.toNat ++ " (" ++ codeName r.code ++ "), dn: \"" ++ r.matchedName
    ++ "\", text: \"" ++ r.diagnostic ++ "\""

def isSuccess (r : OperationResult) : Bool := r.code == 0

def isNonError (r : OperationResult) : Bool := r.code == 0 || r.code == 10

end OperationResult

end DirectoryClient
