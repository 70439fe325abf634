import DirectoryClient.Network
import DirectoryClient.Search.BinaryAttributes
import DirectoryClient.Search.Request
import DirectoryClient.Settings.Connection

/-! A connection as its owner holds it: who it is bound as, and the modifiers that wait for the next
operation. -/
namespace DirectoryClient

/-- A connection. It keeps its number when it moves to a new transport. -/
structure Connection where
  id : Nat
  transport : TransportId
  /-- The last bind on this transport succeeded. -/
  hasBound : Bool := false
  /-- The name of the last simple bind that succeeded, unless it was empty. -/
  boundAs : Option String := none
  /-- The credentials of the last bind, if it was made with credentials and succeeded. -/
  boundWith : Option Credentials := none
  defaultTimeout : Option Nat := some Settings.defaultTimeout
  detector : Search.BinaryDetector := .standard []
  /-- For the next operation only. -/
  timeout : Option Nat := none
  /-- For the next operation only. -/
  controls : Option (List Control) := none
  /-- For the next operation only. -/
  searchOptions : Option Search.Options := none
  /-- The id of the last request that was made under one. -/
  lastId : MessageId := 0

namespace Connection

variable {ω : Type}

def isConnected (n : Network ω) (w : ω) (c : Connection) : Bool := (n.link c.transport w).isConnected

def isAuthenticated (n : Network ω) (w : ω) (c : Connection) : Bool :=
  c.hasBound && c.isConnected n w

def isBoundWith (n : Network ω) (w : ω) (credentials : Credentials) (c : Connection) : Bool :=
  c.isAuthenticated n w && c.boundWith.any (·.sameAs credentials)

/-- Nothing here protects a transport. -/
def isSecured (_ : Connection) : Bool := false

def nextTimeout (c : Connection) : Option Nat := c.timeout.or c.defaultTimeout

def clearModifiers (c : Connection) : Connection :=
  { c with timeout := none, controls := none, searchOptions := none }

def clearIdentity (c : Connection) : Connection := { c with hasBound := false, boundAs := none }

/-- Notes the result of a bind under a name, if there is one. A bind in progress changes nothing. -/
def recordBind (r : OperationResult) (name : Option String) (c : Connection) : Connection :=
  if r.isSuccess then { c with hasBound := true, boundAs := name.filter (!·.isEmpty) }
  else if r.code = OperationResult.bindInProgress then c
  else c.clearIdentity

end Connection

end DirectoryClient
