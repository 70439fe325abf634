import DirectoryClient.Connection.Bind

/-! A factory of connections to one server, all of which authenticate with the same credentials. -/
namespace DirectoryClient

/-- A factory. Its connections are numbered in a world that remembers the last number. -/
structure Factory (ω : Type) where
  network : Network ω
  settings : Settings.Connection
  takeNumber : ω → Nat × ω

namespace Factory

variable {ω : Type} (f : Factory ω)

def credentials : Credentials := f.settings.credentials

def configure (c : Connection) : Connection :=
  { c with defaultTimeout := f.settings.timeout, detector := f.settings.detector }

/-- Makes a connection on which nobody is bound. A number is taken even if none comes about. -/
def newUnbound (w : ω) : Outcome Connection × ω :=
  let (id, w) := f.takeNumber w
  let (o, w) := f.network.connect w
  (o.map fun transport => f.configure { id, transport }, w)

def authenticate (c : Connection) (w : ω) : Outcome Unit × Connection × ω :=
  let (o, c, w) := c.bind f.network f.credentials w
  match o with
  | .error e => (.error e, c, w)
  | .ok r => (if r.isSuccess then .ok () else .error (.authenticationFailed r), c, w)

def bindConnection (c : Connection) (w : ω) : Outcome Connection × ω :=
  match f.authenticate c w with
  | (.ok (), c, w) => (.ok c, w)
  | (.error e, c, w) => (.error e, c.drop f.network w)

def newConnection (w : ω) : Outcome Connection × ω :=
  match f.newUnbound w with
  | (.ok c, w) => f.bindConnection c w
  | (.error e, w) => (.error e, w)

/-- Binds a connection with the credentials of the factory again, unless it is bound with them or has
no transport. -/
def restoreIdentity (c : Connection) (w : ω) : Outcome Unit × Connection × ω :=
  if !c.isConnected f.network w || c.isBoundWith f.network w f.credentials then (.ok (), c, w)
  else f.authenticate c w

/-- Makes an idle connection usable again, with a new transport if it has lost its own. A connection
that somebody is bound on stays as it is. -/
def reactivate (c : Connection) (w : ω) : Outcome Unit × Connection × ω :=
  let (o, c, w) :=
    if c.isConnected f.network w then (.ok (), c, w) else c.reconnect f.network w
  match o with
  | .error e => (.error e, c, w)
  | .ok () => if c.isAuthenticated f.network w then (.ok (), c, w) else f.authenticate c w

end Factory

end DirectoryClient
