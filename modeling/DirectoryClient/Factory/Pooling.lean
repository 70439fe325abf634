import DirectoryClient.Factory
import DirectoryClient.PasswordPolicy.Codec
import DirectoryClient.Pool.Manager
import DirectoryClient.Validator

/-! Connections in a pool: how they are made ready to be lent and to be idle, and how a password is
checked on one of them. -/
namespace DirectoryClient.Factory

variable {ω : Type}

/-- The manager of pooled connections. If it restores, a connection goes back to the identity of the
factory before it becomes idle. -/
def manager (f : Factory ω) (validator : Validator) (restores : Bool) :
    Pool.Manager ω Connection where
  clock := f.network.clock
  id c := c.id
  make := f.newConnection
  activate c w :=
    let (o, c, w) := f.reactivate c w
    (o.mapError .reactivationFailed, c, w)
  validate := validator.check f.network
  passivate c w := if restores then f.restoreIdentity c w else (.ok (), c, w)
  destroy c w := c.drop f.network w

/-- What a bind that checks a password comes to. -/
def judge (r : OperationResult) : Outcome (Option PasswordPolicy.Warning) :=
  match PasswordPolicy.Response.ofControls r.controls with
  | .error e => .error e
  | .ok policy =>
    let policy := policy.getD {}
    if r.isSuccess then .ok policy.warning
    else .error (.passwordRejected r policy.rejection)

/-- Checks a password by a bind on a borrowed connection, which then goes back to the identity of the
factory. That it does not is no failure of the check. -/
def checkPassword (f : Factory ω) (name password : String) (c : Connection) (w : ω) :
    Outcome (Option PasswordPolicy.Warning) × Connection × ω :=
  let (o, c, w) := { c with controls := some [PasswordPolicy.request] }.simpleBind f.network
    name password w
  let (_, c, w) := f.restoreIdentity c w
  (o >>= judge, c, w)

end DirectoryClient.Factory
