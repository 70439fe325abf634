import DirectoryClient.Connection.Operations

/-! Binding a connection to an identity. -/
namespace DirectoryClient.Connection

variable {ω : Type}

def bindResponse (m : Message) : Outcome (OperationResult × Option Octets) :=
  match m.response with
  | .bind result credentials => .ok (result, credentials)
  | _ => .error (unexpected "Bind" m)

/-- One request to bind. A failure of the request leaves the connection bound as nobody. -/
def requestBind (n : Network ω) (request : Ber.Element) (name : Option String) (c : Connection)
    (w : ω) : Outcome (OperationResult × Option Octets) × Connection × ω :=
  let (o, c, w) := c.exchange n request w
  match o >>= bindResponse with
  | .ok (r, credentials) => (.ok (r, credentials), c.recordBind r name, w)
  | .error e => (.error e, c.clearIdentity, w)

def simpleBind (n : Network ω) (name password : String) (c : Connection) (w : ω) :
    Outcome OperationResult × Connection × ω :=
  let (o, c, w) := { c with boundWith := none }.requestBind n
    (Request.simpleBind name password) (some name) w
  (o.map Prod.fst, c, w)

section Rounds

variable (n : Network ω) (m : Mechanism) (timeout : Option Nat) (controls : Option (List Control))

/-- The rounds of a bind by a mechanism, as many as the server asks for. Every round carries the same
modifiers. A bind that never ends has no outcome. -/
def saslRounds? (answered : List Octets) (credentials : Option Octets) (c : Connection) (w : ω) :
    Option (Outcome OperationResult × Connection × ω) :=
  let again : List Octets → Option Octets → Connection → ω →
    Option (Outcome OperationResult × Connection × ω) := by apply saslRounds?
  match { c with timeout, controls }.requestBind n (Request.saslBind m.name credentials) none w with
  | (.error e, c, w) => some (.error e, c, w)
  | (.ok (r, challenge), c, w) =>
    if r.code = OperationResult.bindInProgress then
      let challenge := challenge.getD []
      match m.answerAfter answered challenge with
      | .error e => some (.error e, c, w)
      | .ok credentials => again (answered ++ [challenge]) credentials c w
    else some (.ok r, c, w)
partial_fixpoint

end Rounds

/-- Binds by a mechanism. A bind that never ends counts as one that has failed after its first round. -/
def saslBind (n : Network ω) (m : Mechanism) (c : Connection) (w : ω) :
    Outcome OperationResult × Connection × ω :=
  let timeout := c.timeout
  let controls := c.controls
  let c := { c with boundWith := none, timeout := none, controls := none }
  match m.initial with
  | .error e => (.error e, c, w)
  | .ok credentials =>
    (saslRounds? n m timeout controls [] credentials c w).getD <|
      let (_, c, w) := { c with timeout, controls }.requestBind n
        (Request.saslBind m.name credentials) none w
      (.error .connectionClosed, c.clearIdentity, w)

def bind (n : Network ω) (credentials : Credentials) (c : Connection) (w : ω) :
    Outcome OperationResult × Connection × ω :=
  let (o, c, w) := match credentials with
    | .anonymous => c.simpleBind n "" "" w
    | .simple name password => c.simpleBind n name password w
    | .sasl _ m => c.saslBind n m w
  match o with
  | .ok r => (.ok r, if r.isSuccess then { c with boundWith := some credentials } else c, w)
  | .error e => (.error e, c, w)

end DirectoryClient.Connection
