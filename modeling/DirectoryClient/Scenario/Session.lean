import DirectoryClient.Scenario.Reader
import DirectoryClient.Scenario.Sweep

/-! Steps of a session: connections on their own and from a pool, readers of their responses, and the
server at the other end. -/
namespace DirectoryClient.Scenario

inductive Responses where
  | search (reader : Reader) (p : Pending)
  | stream (p : Pending)
  | extended (p : Pending)

/-- What can be done with a connection. `reader` is the name of a new reader. -/
inductive ConnectionStep where
  | simpleBind (name password : String)
  | saslBind (m : Mechanism)
  | bind (credentials : Credentials)
  | isBoundWith (credentials : Credentials)
  | extended (op : ExtendedOperation)
  | startExtended (op : ExtendedOperation) (reader : String)
  | search (q : Search.Query) (reader : String)
  | startSearch (q : Search.Query) (reader : String)
  | abandon (id : MessageId)
  | unbind
  | close
  | reconnect
  | withTimeout (span : Nat)
  | withControls (controls : List Control)
  | withSearchOptions (options : Search.Options)
  | setTimeout (span : Option Nat)
  | timeout
  | isBinary (attributes : List String)
  | scheme
  | validate
  | authenticate
  | restoreIdentity

inductive ResponsesStep where
  | read (step : ReaderStep)
  /-- Cancels the operation. -/
  | cancel (interrupt : Bool)
  | state
  | drop

inductive ServerStep where
  | send (t : TransportId) (sendings : List Sending)
  | close (t : TransportId)
  | changeRules (rules : List Rule)
  /-- No new transport can be opened. -/
  | stop

/-- A step of a session. `name` is where a new connection is held. -/
inductive SessionStep where
  | connect (id : Nat) (name : String)
  | newUnbound (name : String)
  | newConnection (name : String)
  | bindConnection (c name : String)
  | configure (c name : String)
  | borrow (name : String)
  | release (c : String)
  | detach (c name : String)
  | drop (c : String)
  | checkPassword (name password : String)
  | evict
  | closePool
  | poolSettings
  | factoryIdentity
  | connection (c : String) (step : ConnectionStep)
  | reader (name : String) (step : ResponsesStep)
  | server (step : ServerStep)

/-- A session. Without a pool, the steps that need one are not possible. -/
structure Session where
  lending : Lending Site Connection
  hasPool : Bool
  settings : Settings.Connection
  validator : Validator
  readers : List (String × Responses) := []
  /-- The eviction pass in the background, if there is one under way. -/
  sweep : Option Sweep := none

namespace Session

/-- A new session; `pool` says how the pool is bounded and whether it restores identities. -/
def start (site : Site) (settings : Settings.Connection) (validator : Validator)
    (pool : Option (Settings.Pool × Bool)) : Session where
  lending := Lending.scheduleEviction {
    pool := {
      manager := (Site.pooledFactory settings).manager validator (pool.any Prod.snd)
      settings := pool.elim {} Prod.fst }
    moveClock := Site.moveClock
    abandonRaw := Connection.drop Site.network
    world := site }
  hasPool := pool.isSome
  settings := settings
  validator := validator

def site (s : Session) : Site := s.lending.world

def setSite (site : Site) (s : Session) : Session :=
  { s with lending := { s.lending with world := site } }

def factory (s : Session) : Factory Site := Site.factory s.settings

/-- Lets go of a reader. Only one that goes over a search gives it up. -/
def dropResponses (r : Responses) (site : Site) : Site :=
  match r with
  | .search reader p => reader.drop (Site.network.streamAccess p) site
  | _ => site

def holdReader (name : String) (r : Responses) (s : Session) : Session :=
  let old := s.readers.lookup name
  let s := { s with readers := s.readers.filter (·.1 != name) ++ [(name, r)] }
  old.elim s fun r => s.setSite (dropResponses r s.site)

def holdRaw (name : String) (r : Outcome Connection × Site) (s : Session) : Answer × Session :=
  let s := s.setSite r.2
  match r.1 with
  | .ok c => (.number (.ok c.id), { s with lending := s.lending.hold name (.raw c) })
  | .error e => (.number (.error e), s)

def connect (id : Nat) (site : Site) : Outcome Connection × Site :=
  let (o, site) := Site.network.connect site
  (o.map fun transport => { id, transport }, site)

/-- Takes a connection that was made on its own out of its name. What else is held there is let go. -/
def takeRaw (name : String) (f : Connection → Session → Answer × Session) (s : Session) :
    Answer × Session :=
  match s.lending.handle? name with
  | none => (.gone, s)
  | some h =>
    let lending := s.lending.remove name
    match h with
    | .raw c => f c { s with lending }
    | .pooled _ => (.gone, { s with lending := lending.dropHandle h })

/-- Takes a pooled connection out of its name. What else is held there is let go. -/
def takePooled (name : String)
    (f : Connection → Lending Site Connection → Answer × Lending Site Connection) (s : Session) :
    Answer × Session :=
  match s.lending.handle? name with
  | none => (.gone, s)
  | some h =>
    let lending := s.lending.remove name
    let (a, lending) := match h with
      | .pooled c => f c lending
      | .raw _ => (.gone, lending.dropHandle h)
    (a, { s with lending })

def onConnection (name : String) (f : Connection → Site → Answer × Connection × Site)
    (s : Session) : Answer × Session :=
  match s.lending.handle? name with
  | none => (.gone, s)
  | some h =>
    let (a, c, site) := f h.connection s.site
    (a, { s with lending := { s.lending with world := site }.update name c })

def starting (name reader : String) (f : Connection → Site → Outcome Pending × Connection × Site)
    (read : Connection → Pending → Responses) (s : Session) : Answer × Session :=
  match s.lending.handle? name with
  | none => (.gone, s)
  | some h =>
    let (o, c, site) := f h.connection s.site
    let s := { s with lending := { s.lending with world := site }.update name c }
    match o with
    | .error e => (.number (.error e), s)
    | .ok p => (.number (.ok p.id), s.holdReader reader (read c p))

def resultAnswer (r : Outcome OperationResult × Connection × Site) : Answer × Connection × Site :=
  (.result (r.1.map some), r.2)

def unitAnswer (r : Outcome Unit × Connection × Site) : Answer × Connection × Site :=
  (.unit r.1, r.2)

def scheme (site : Site) : String := if site.isLocal then "ldapi" else "ldap"

def actOnConnection (name : String) (step : ConnectionStep) (s : Session) : Answer × Session :=
  let n := Site.network
  match step with
  | .simpleBind dn password =>
    s.onConnection name fun c w => resultAnswer (c.simpleBind n dn password w)
  | .saslBind m => s.onConnection name fun c w => resultAnswer (c.saslBind n m w)
  | .bind credentials => s.onConnection name fun c w => resultAnswer (c.bind n credentials w)
  | .isBoundWith credentials =>
    s.onConnection name fun c w => (.flag (.ok (c.isBoundWith n w credentials)), c, w)
  | .extended op => s.onConnection name fun c w =>
    let (o, c, w) := c.extended n op w
    (.extended o, c, w)
  | .startExtended op reader =>
    s.starting name reader (Connection.startExtended n op) fun _ p => .extended p
  | .search q reader =>
    s.starting name reader (Connection.startSearch n q) fun c p =>
      .search (.cursor { id := p.id, detector := c.detector }) p
  | .startSearch q reader =>
    s.starting name reader (Connection.startSearch n q) fun _ p => .stream p
  | .abandon id => s.onConnection name fun c w => unitAnswer (c.abandon n id w)
  | .unbind => s.onConnection name fun c w => unitAnswer (c.unbind n w)
  | .close => s.onConnection name fun c w => (.nothing, c.close n w)
  | .reconnect => s.onConnection name fun c w => unitAnswer (c.reconnect n w)
  | .withTimeout span =>
    s.onConnection name fun c w => (.nothing, { c with timeout := some span }, w)
  | .withControls controls =>
    s.onConnection name fun c w => (.nothing, { c with controls := some controls }, w)
  | .withSearchOptions options =>
    s.onConnection name fun c w => (.nothing, { c with searchOptions := some options }, w)
  | .setTimeout span =>
    s.onConnection name fun c w => (.nothing, { c with defaultTimeout := span }, w)
  | .timeout => s.onConnection name fun c w => (.time c.defaultTimeout, c, w)
  | .isBinary attributes =>
    s.onConnection name fun c w => (.flags (attributes.map c.detector), c, w)
  | .scheme => s.onConnection name fun c w => (.text (some (scheme w)), c, w)
  | .validate => s.onConnection name fun c w =>
    let (isValid, c, w) := s.validator.check n c w
    (.flag (.ok isValid), c, w)
  | .authenticate => s.onConnection name fun c w => unitAnswer (s.factory.authenticate c w)
  | .restoreIdentity =>
    if s.hasPool then
      s.onConnection name fun c w => unitAnswer ((Site.pooledFactory s.settings).restoreIdentity c w)
    else (.gone, s)

/-- A step on a reader. A turn to iteration shows nothing of the reader. -/
def actOnResponses (step : ResponsesStep) (r : Responses) (site : Site) :
    Answer × Responses × Site :=
  let n := Site.network
  match r, step with
  | .search reader p, .read step =>
    let (a, reader, site) := reader.act (n.streamAccess p) step site
    let a := match a, step with
      | .gone, _ => .gone
      | a, .entries => a
      | a, _ => .read a reader.state
    (a, .search reader p, site)
  | .stream p, .read .next =>
    let (o, site) := (n.streamAccess p).wait p.id site
    (.message (o.map some), r, site)
  | .extended p, .read .get =>
    let (o, site) := n.await p site
    (.extended (o >>= Connection.extendedResponse), r, site)
  | .stream p, .cancel interrupt =>
    let (isFirst, site) := (n.streamAccess p).cancel interrupt site
    (.flag (.ok isFirst), r, site)
  | .extended p, .cancel interrupt =>
    let (isFirst, site) := (n.replyAccess p).cancel interrupt site
    (.flag (.ok isFirst), r, site)
  | .stream p, .state =>
    let slot := (n.streamAccess p).get site
    (.slot slot.isDone slot.isCancelled (some slot.available), r, site)
  | .extended p, .state =>
    let slot := (n.replyAccess p).get site
    (.slot slot.isDone slot.isCancelled none, r, site)
  | _, _ => (.gone, r, site)

def actOnReader (name : String) (step : ResponsesStep) (s : Session) : Answer × Session :=
  match s.readers.lookup name, step with
  | none, .drop => (.nothing, s)
  | none, _ => (.gone, s)
  | some r, .drop =>
    (.nothing, { s with readers := s.readers.filter (·.1 != name) }.setSite
      (dropResponses r s.site))
  | some r, step =>
    let (a, r, site) := actOnResponses step r s.site
    let readers := s.readers.map fun (n, old) => (n, if n = name then r else old)
    (a, { s with readers }.setSite site)

/-- A step of the server. There is none if it names no transport. -/
def actOnServer? (step : ServerStep) (site : Site) : Option Site :=
  match step with
  | .send t sendings => site.withPeer? t (·.send 0 sendings)
  | .close t => site.withPeer? t fun p => { p with isClosed := true }
  | .changeRules rules => some { site with rules }
  | .stop => some { site with isListening := false }

def onPool (f : Lending Site Connection → Answer × Lending Site Connection) (s : Session) :
    Answer × Session :=
  if s.hasPool then
    let (a, lending) := f s.lending
    (a, { s with lending })
  else (.gone, s)

def borrow (name : String) (l : Lending Site Connection) : Answer × Lending Site Connection :=
  match l.borrow with
  | (none, l) => (.gone, l)
  | (some (.error e), l) => (.number (.error e), l)
  | (some (.ok c), l) => (.number (.ok c.id), l.hold name (.pooled c))

def checkPassword (settings : Settings.Connection) (name password : String)
    (l : Lending Site Connection) : Answer × Lending Site Connection :=
  match l.borrow with
  | (none, l) => (.gone, l)
  | (some (.error e), l) => (.warning (.error e), l)
  | (some (.ok c), l) =>
    let (o, c, world) := (Site.pooledFactory settings).checkPassword name password c l.world
    (.warning o, ({ l with world }.giveBack c).2)

def settle (s : Session) : Session :=
  let s := s.setSite s.site.settle
  let (sweep, lending) := Sweep.goOn s.validator s.sweep s.lending
  { s with sweep, lending }.setSite lending.world.settle

/-- A step of a session. One that is not possible changes nothing; there is no answer at all if the
server is to use a transport that does not exist. -/
def act? (step : SessionStep) (s : Session) : Option (Answer × Session) :=
  match step with
  | .server step => (actOnServer? step s.site).map fun site => (.nothing, s.setSite site)
  | .connect id name => some (s.holdRaw name (connect id s.site))
  | .newUnbound name => some (s.holdRaw name (s.factory.newUnbound s.site))
  | .newConnection name => some (s.holdRaw name (s.factory.newConnection s.site))
  | .bindConnection c name => some <| s.takeRaw c fun c s =>
    s.holdRaw name (s.factory.bindConnection c s.site)
  | .configure c name => some <| s.takeRaw c fun c s =>
    s.holdRaw name (.ok (s.factory.configure c), s.site)
  | .borrow name => some (s.onPool (borrow name))
  | .release c => some <| s.takePooled c fun c l =>
    let (o, l) := l.giveBack c
    (.unit o, l)
  | .detach c name => some <| s.takePooled c fun c l =>
    (.number (.ok c.id), (l.detach c).hold name (.raw c))
  | .drop c => some <| match s.lending.handle? c with
    | none => (.nothing, s)
    | some h => (.nothing, { s with lending := (s.lending.remove c).dropHandle h })
  | .checkPassword name password => some (s.onPool (checkPassword s.settings name password))
  | .evict => some <| s.onPool fun l =>
    let (n, l) := l.evict
    (.number (.ok n), l)
  | .closePool => some (s.onPool fun l => (.nothing, l.close))
  | .poolSettings => some (s.onPool fun l => (.settings l.pool.settings, l))
  | .factoryIdentity => some (s.onPool fun l => (.text s.settings.credentials.identity?, l))
  | .connection c step => some (s.actOnConnection c step)
  | .reader name step => some (s.actOnReader name step)

def perform? (step : SessionStep) (s : Session) : Option (Answer × Session) :=
  (s.act? step).map fun (a, s) => (a, s.settle)

structure ConnectionState where
  id : Nat
  isConnected : Bool
  isAuthenticated : Bool
  boundAs : Option String
  lastId : MessageId
  isSecured : Bool

def connections (s : Session) : List (String × ConnectionState) :=
  s.lending.handles.map fun (name, h) =>
    let c := h.connection
    (name, {
      id := c.id
      isConnected := c.isConnected Site.network s.site
      isAuthenticated := c.isAuthenticated Site.network s.site
      boundAs := c.boundAs
      lastId := c.lastId
      isSecured := c.isSecured })

def status? (s : Session) : Option (Pool.State Connection) :=
  if s.hasPool then some s.lending.accounts else none

def takeSights (s : Session) : List (List Sight) × Session :=
  let (sights, site) := s.site.takeSights
  (sights, s.setSite site)

def sorted (names : List String) : List String := names.mergeSort fun a b => a ≤ b

/-- Everything is let go, one after another: readers and connections in the order of their names, and
the pool. -/
def finish (s : Session) : Session :=
  let steps : List SessionStep :=
    (sorted (s.readers.map Prod.fst)).map (.reader · .drop)
      ++ (sorted (s.lending.handles.map Prod.fst)).map .drop
  let s := steps.foldl (fun s step => ((s.perform? step).map Prod.snd).getD s) s
  let s := { s with lending := s.lending.letGo }
  s.setSite s.site.settle

end Session

end DirectoryClient.Scenario
