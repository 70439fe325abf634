import DirectoryClient.Error

/-! Who a client says it is: nobody, a name with a password, or a bind mechanism. -/
namespace DirectoryClient

structure Mechanism where
  name : String
  /-- What the first request carries, if anything. -/
  initial : Outcome (Option Octets)
  /-- The answer to a challenge of the server, if any. -/
  answer : Octets → Outcome (Option Octets)
  /-- The same, after the challenges that have been answered before, for a mechanism that minds them. -/
  answerAfter : List Octets → Octets → Outcome (Option Octets) := fun _ => answer

namespace Mechanism

/-- The transport has established the identity; the client adds nothing to it. -/
def external : Mechanism where
  name := "EXTERNAL"
  initial := .ok (some [])
  answer _ := .error (.unsupportedOperation "EXTERNAL challenge")

def plain (authorization authentication password : String) : Mechanism where
  name := "PLAIN"
  initial := .ok <| some <|
    Text.encode authorization ++ 0 :: Text.encode authentication ++ 0 :: Text.encode password
  answer _ := .error (.unsupportedOperation "PLAIN challenge")

def describeExternal : String := "External"

def describePlain (authorization authentication : String) : String :=
  "Plain \x7b authzid: " ++ Text.quoted authorization ++ ", authcid: "
    ++ Text.quoted authentication ++ ", .. \x7d"

end Mechanism

/-- What a connection authenticates with. A mechanism is told from others by its serial number. -/
inductive Credentials where
  | anonymous
  | simple (name password : String)
  | sasl (serial : Nat) (mechanism : Mechanism)

namespace Credentials

def identity? : Credentials → Option String
  | simple name _ => if name.isEmpty then none else some name
  | _ => none

/-- Both hold the same secrets. Mechanisms are compared by their serial numbers alone. -/
def sameAs : Credentials → Credentials → Bool
  | anonymous, anonymous => true
  | simple n p, simple n' p' => n == n' && p == p'
  | sasl s _, sasl s' _ => s == s'
  | _, _ => false

def password? : Credentials → Option String
  | simple _ password => some password
  | _ => none

/-- The diagnostic form, which keeps the password out. -/
def describe : Credentials → String
  | anonymous => "Anonymous"
  | simple name _ => "Simple \x7b dn: " ++ Text.quoted name ++ ", .. \x7d"
  | sasl _ mechanism => "Sasl(" ++ Text.quoted mechanism.name ++ ")"

end Credentials

end DirectoryClient
