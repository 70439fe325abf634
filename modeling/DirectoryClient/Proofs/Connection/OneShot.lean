import DirectoryClient.Proofs.Connection.Shaping

/-! For which operations modifiers count: for the next one only, unless that is one of those that leave
some of them waiting. -/
namespace DirectoryClient

open Watched (Only)

variable {ω : Type}

namespace Connection

/-- The end of the session can be announced: somebody is there, and there is an id for the request. -/
def announces (n : Network ω) (c : Connection) (w : ω) : Bool :=
  c.isConnected n w && (n.link c.transport w).nextId.1.isOk

/-! ### What a call makes of the modifiers -/

namespace Use

def once (m : Modifiers) : Use → Modifiers
  | withTimeout span => { m with timeout := some span }
  | withControls controls => { m with controls := some controls }
  | withSearchOptions options => { m with searchOptions := some options }
  | deed (.modify timeout controls searchOptions) => { timeout, controls, searchOptions }
  | _ => {}

/-- What really waits after a call. The announcement that a session ends takes the controls only, and
so does an abandon request; a bind whose mechanism has nothing to begin with makes no request, which
leaves the options of a search. -/
def leaves (announces : Bool) (m : Modifiers) : Use → Modifiers
  | deed (.abandon _) => { m with controls := none }
  | deed .unbind | deed .close | deed .reconnect => if announces then { m with controls := none } else m
  | deed (.bind call) =>
    match call.mechanism?.map Mechanism.initial with
    | some (.error _) => { searchOptions := m.searchOptions }
    | _ => {}
  | u => u.once m

/-- The call is no operation, or one that takes the controls that wait, whatever comes of it. -/
def TakesControls : Use → Prop
  | deed .unbind | deed .close | deed .reconnect => False
  | _ => True

/-- The call is no operation, or one that takes the timeout that waits, whatever comes of it. -/
def TakesTimeout : Use → Prop
  | deed (.abandon _) => False
  | u => u.TakesControls

/-- The call is no operation, or one that takes the options of a search that wait, whatever comes of
it. -/
def TakesOptions : Use → Prop
  | deed (.bind call) => call.Begins
  | u => u.TakesTimeout

/-- The call comes to an end, which a bind by a mechanism does if the server asks for no more rounds
some time. -/
def Ends (n : Network ω) (c : Connection) (w : ω) : Use → Prop
  | deed (.bind call) => ∀ m first, call.mechanism? = some m → m.initial = .ok first →
    ∃ ending c' w', Rounds n m c.timeout c.controls [] first
      { c with boundWith := none, timeout := none, controls := none } w ending c' w'
  | _ => True

def pending? (n : Network ω) (c : Connection) (w : ω) : Use → Option Pending
  | deed (.search q) => (c.startSearch n q w).1.toOption
  | start request => (c.submit n request w).1.toOption
  | _ => none

variable {u : Use} (announces : Bool) {m m' : Modifiers}

private theorem leaves_controls (hu : u.TakesControls) (h : m.controls = m'.controls) :
    (u.leaves announces m).controls = (u.once m').controls := by
  cases u with
  | deed d =>
    cases d with
    | bind call =>
      rw [leaves]
      split <;> rfl
    | unbind | close | reconnect => cases hu
    | request | search | abandon | modify => rfl
  | start | withControls => rfl
  | withTimeout | withSearchOptions => exact h

private theorem leaves_timeout (hu : u.TakesTimeout) (h : m.timeout = m'.timeout) :
    (u.leaves announces m).timeout = (u.once m').timeout := by
  cases u with
  | deed d =>
    cases d with
    | bind call =>
      rw [leaves]
      split <;> rfl
    | unbind | close | reconnect | abandon => cases hu
    | request | search | modify => rfl
  | start | withTimeout => rfl
  | withControls | withSearchOptions => exact h

private theorem leaves_options (hu : u.TakesOptions) (h : m.searchOptions = m'.searchOptions) :
    (u.leaves announces m).searchOptions = (u.once m').searchOptions := by
  cases u with
  | deed d =>
    cases d with
    | bind call =>
      rw [leaves]
      cases hm : call.mechanism? with
      | none => rfl
      | some mechanism =>
        obtain ⟨first, hfirst⟩ := hu mechanism hm
        rw [Option.map_some, hfirst]
        rfl
    | unbind | close | reconnect | abandon => cases hu
    | request | search | modify => rfl
  | start | withSearchOptions => rfl
  | withTimeout | withControls => exact h

end Use

section Calls

variable (n : Network ω) (c : Connection) (w : ω)

private theorem modifiers_unbind : (c.unbind n w).2.1.modifiers =
    if c.announces n w then { c.modifiers with controls := none } else c.modifiers := by
  have hid : (n.withLink c.transport Link.nextId w).1 = (n.link c.transport w).nextId.1 := rfl
  have hup : c.clearIdentity.isConnected n w = c.isConnected n w := rfl
  rw [announces, ← hid, unbind]
  simp only [hup]
  rw [show c.clearIdentity.transport = c.transport from rfl]
  cases c.isConnected n w with
  | false => rfl
  | true => rcases n.withLink c.transport Link.nextId w with ⟨e | id, w'⟩ <;> rfl

private theorem modifiers_close : (c.close n w).1.modifiers =
    if c.announces n w then { c.modifiers with controls := none } else c.modifiers := by
  rw [close]
  split
  · exact modifiers_unbind n c w
  · rename_i hdown
    rw [announces, Bool.eq_false_of_not_eq_true hdown]
    rfl

private theorem modifiers_reconnect : (c.reconnect n w).2.1.modifiers = (c.close n w).1.modifiers := by
  rw [reconnect]
  simp only
  rcases n.connect (c.close n w).2 with ⟨e | t, w'⟩ <;> rfl

private theorem modifiers_simpleBind (name password : String) :
    (c.simpleBind n name password w).2.1.modifiers = {} :=
  modifiers_requestBind n { c with boundWith := none } w _ _

/-- A bind that has begun and comes to an end leaves no modifier. -/
private theorem modifiers_saslBind_of_ends {m : Mechanism} {first : Option Octets}
    (hfirst : m.initial = .ok first)
    (hends : ∃ ending c' w', Rounds n m c.timeout c.controls [] first
      { c with boundWith := none, timeout := none, controls := none } w ending c' w') :
    (c.saslBind n m w).2.1.modifiers = {} := by
  obtain ⟨ending, c', w', hrounds⟩ := hends
  rw [hrounds.saslBind_eq hfirst]
  exact hrounds.modifiers

private theorem modifiers_bindCall (call : BindCall) (hends : (Use.deed (.bind call)).Ends n c w)
    (announces : Bool) : (call.run n c w).2.1.modifiers =
      (Use.deed (.bind call)).leaves announces c.modifiers := by
  rw [(call.rest_opened n c w).1]
  rcases call.opened_cases with ⟨name, password, hcall⟩ | ⟨m, hcall⟩
  · rw [hcall, Use.leaves, BindCall.mechanism?, hcall]
    exact modifiers_simpleBind n c w name password
  · have hsome : call.mechanism? = some m := by rw [BindCall.mechanism?, hcall]
    rw [hcall, Use.leaves, hsome, Option.map_some]
    cases hfirst : m.initial with
    | error e =>
      rw [BindCall.run, saslBind, hfirst]
      rfl
    | ok first => exact modifiers_saslBind_of_ends n c w hfirst (hends m first hsome hfirst)

/-- Every call that comes to an end leaves what it is said to leave. -/
private theorem Use.modifiers_run (u : Use) (hends : u.Ends n c w) :
    (u.run n c w).1.modifiers = u.leaves (c.announces n w) c.modifiers := by
  cases u with
  | deed d =>
    cases d with
    | bind call => exact modifiers_bindCall n c w call hends _
    | unbind => exact modifiers_unbind n c w
    | close => exact modifiers_close n c w
    | reconnect => exact (modifiers_reconnect n c w).trans (modifiers_close n c w)
    | request element => exact modifiers_exchange n c w element
    | search q => exact modifiers_startSearch n c w q
    | abandon | modify => rfl
  | start request => exact modifiers_post n c w _
  | withTimeout | withControls | withSearchOptions => rfl

/-! ### What a call makes of the default -/

private theorem default_post (send : MessageId → Option (List Control) → Link → Outcome Ticket × Link) :
    (c.post n send w).2.1.defaultTimeout = c.defaultTimeout := by
  rw [post]
  split <;> rfl

private theorem default_startSearch (q : Search.Query) :
    (c.startSearch n q w).2.1.defaultTimeout = c.defaultTimeout := by
  rw [startSearch]
  split
  · rfl
  · exact default_post n c w _

private theorem default_requestBind (request : Ber.Element) (name : Option String) :
    (c.requestBind n request name w).2.1.defaultTimeout = c.defaultTimeout :=
  congrArg Prod.snd (route_requestBind n c w request name)

-- Every round sets the timeout of the call again, but never the default.
private theorem default_saslBind (m : Mechanism) :
    (c.saslBind n m w).2.1.defaultTimeout = c.defaultTimeout :=
  (saslBind_binds n m c w).keep (R := fun c _ c' _ => c'.defaultTimeout = c.defaultTimeout)
    (fun _ _ => rfl) (fun h h' => h'.trans h) (fun h => h)
    fun credentials c' w => default_requestBind n (c'.withModifiers c.timeout c.controls) w
      (Request.saslBind m.name credentials) none

private theorem default_bindCall (call : BindCall) :
    (call.run n c w).2.1.defaultTimeout = c.defaultTimeout := by
  rw [(call.rest_opened n c w).2.1]
  rcases call.opened_cases with ⟨name, password, hcall⟩ | ⟨m, hcall⟩
  · rw [hcall]
    exact default_requestBind n { c with boundWith := none } w _ _
  · rw [hcall]
    exact default_saslBind n c w m

private theorem default_unbind : (c.unbind n w).2.1.defaultTimeout = c.defaultTimeout := by
  rw [unbind]
  split
  · split <;> rfl
  · rfl

private theorem default_close : (c.close n w).1.defaultTimeout = c.defaultTimeout := by
  rw [close]
  split
  · exact default_unbind n c w
  · rfl

private theorem default_reconnect : (c.reconnect n w).2.1.defaultTimeout = c.defaultTimeout := by
  rw [← default_close n c w, reconnect]
  simp only
  rcases n.connect (c.close n w).2 with ⟨e | t, w'⟩ <;> rfl

/-- No call changes how long a connection waits for an operation that sets no timeout. -/
private theorem Use.default_run (u : Use) : (u.run n c w).1.defaultTimeout = c.defaultTimeout := by
  cases u with
  | deed d =>
    cases d with
    | bind call => exact default_bindCall n c w call
    | unbind => exact default_unbind n c w
    | close => exact default_close n c w
    | reconnect => exact default_reconnect n c w
    | request element => exact congrArg Prod.snd (route_exchange n c w element)
    | search q => exact default_startSearch n c w q
    | abandon | modify => rfl
  | start request => exact default_post n c w _
  | withTimeout | withControls | withSearchOptions => rfl

/-! ### What is awaited later -/

private theorem timeout_post {send : MessageId → Option (List Control) → Link → Outcome Ticket × Link}
    {p : Pending} (hp : (c.post n send w).1.toOption = some p) : p.timeout = c.nextTimeout := by
  rw [post] at hp
  split at hp
  · cases hp
  · rename_i id w₁ _
    simp only at hp
    generalize n.withLink c.clearModifiers.transport (send id c.controls) w₁ = r at hp
    obtain ⟨e | ticket, w₂⟩ := r
    · cases hp
    · cases hp
      rfl

private theorem Use.timeout_pending {u : Use} {p : Pending} (hp : u.pending? n c w = some p) :
    p.timeout = c.nextTimeout := by
  cases u with
  | deed d =>
    cases d with
    | search q =>
      rw [pending?, startSearch] at hp
      split at hp
      · cases hp
      · exact timeout_post n c w hp
    | bind | unbind | close | reconnect | request | abandon | modify => cases hp
  | start request => exact timeout_post n c w hp
  | withTimeout | withControls | withSearchOptions => cases hp

end Calls

/-! ### One call after the other -/

/-- What somebody does with a connection, one call after the other, each of which comes to an end. -/
inductive Session (n : Network ω) : List Use → Connection → ω → Connection → ω → Prop
  | start (c : Connection) (w : ω) : Session n [] c w c w
  | call {u : Use} {us : List Use} {c c' : Connection} {w w' : ω} : u.Ends n c w →
    Session n us (u.run n c w).1 (u.run n c w).2 c' w' → Session n (u :: us) c w c' w'

def tally (n : Network ω) : List Use → Connection → ω → Modifiers → Modifiers
  | [], _, _, m => m
  | u :: us, c, w, m =>
    tally n us (u.run n c w).1 (u.run n c w).2 (u.leaves (c.announces n w) m)

namespace Session

variable {n : Network ω} {us : List Use} {c c' : Connection} {w w' : ω}

private theorem modifiers_eq_tally (h : Session n us c w c' w') :
    c'.modifiers = tally n us c w c.modifiers := by
  induction h with
  | start c w => rfl
  | call hends _ ih => rw [ih, tally, Use.modifiers_run _ _ _ _ hends]

private theorem default_eq (h : Session n us c w c' w') : c'.defaultTimeout = c.defaultTimeout := by
  induction h with
  | start c w => rfl
  | call hends _ ih => rw [ih, Use.default_run]

end Session

/-- What every call takes is, after a session, what has been set since the last operation. -/
private theorem tally_eq_once {α : Type} (n : Network ω) (field : Modifiers → α) {us : List Use}
    (hus : ∀ u ∈ us, ∀ announces m m', field m = field m' →
      field (u.leaves announces m) = field (u.once m'))
    {m m' : Modifiers} (h : field m = field m') (c : Connection) (w : ω) :
    field (tally n us c w m) = field (us.foldl Use.once m') := by
  -- The two accounts may differ in other fields, so the induction carries the agreement in this one.
  induction us generalizing c w m m' with
  | nil => exact h
  | cons u us ih =>
    obtain ⟨hu, hus⟩ := List.forall_mem_cons.mp hus
    rw [tally, List.foldl_cons]
    exact ih hus (hu _ _ _ h) _ _

/-- What modifiers count for the next call after a session. Those that all operations take are, at each
call, the ones that have been set since the operation before. -/
structure OneShot (n : Network ω) (us : List Use) (c : Connection) (w : Watched ω) (c' : Connection)
    (w' : Watched ω) (next : Use) : Prop where
  /-- What waits is what the calls have left, and not more. -/
  account : c'.modifiers = tally n.watching us c w c.modifiers
  /-- A modifier that every operation has taken has been set since the last one. -/
  timeout : (∀ u ∈ us, u.TakesTimeout) → c'.timeout = (us.foldl Use.once c.modifiers).timeout
  controls : (∀ u ∈ us, u.TakesControls) → c'.controls = (us.foldl Use.once c.modifiers).controls
  searchOptions : (∀ u ∈ us, u.TakesOptions) →
    c'.searchOptions = (us.foldl Use.once c.modifiers).searchOptions
  /-- The next operation asks with what waits, and waits so long for each response, or unit by unit if
  there is no timeout. -/
  asks : Only ((c'.modifiers.timeout.or c.defaultTimeout).getD 1) (next.Shapes c'.modifiers) w'
    (next.run n.watching c' w').2
  /-- Whoever waits for its responses later waits so long. -/
  later : ∀ p, next.pending? n.watching c' w' = some p →
    p.timeout = c'.modifiers.timeout.or c.defaultTimeout

/-- Modifiers count for one operation: the next one. -/
theorem Session.oneShot (n : Network ω) {us : List Use} {c c' : Connection} {w w' : Watched ω}
    (h : Session n.watching us c w c' w') (next : Use) : OneShot n us c w c' w' next where
  account := h.modifiers_eq_tally
  timeout hus := (congrArg Modifiers.timeout h.modifiers_eq_tally).trans <|
    tally_eq_once n.watching Modifiers.timeout
      (fun u hu announces _ _ => Use.leaves_timeout announces (hus u hu)) rfl c w
  controls hus := (congrArg Modifiers.controls h.modifiers_eq_tally).trans <|
    tally_eq_once n.watching Modifiers.controls
      (fun u hu announces _ _ => Use.leaves_controls announces (hus u hu)) rfl c w
  searchOptions hus := (congrArg Modifiers.searchOptions h.modifiers_eq_tally).trans <|
    tally_eq_once n.watching Modifiers.searchOptions
      (fun u hu announces _ _ => Use.leaves_options announces (hus u hu)) rfl c w
  asks := by
    rw [← h.default_eq]
    exact next.only_run n c' w'
  later p hp := by
    rw [← h.default_eq]
    exact next.timeout_pending n.watching c' w' hp

section Examples

def untouched : Connection := { id := 1, transport := 0 }

def silent : Watched Answering := { world := { world := { codes := [] } } }

def children : Search.Query where
  base := "dc=x"
  scope := .oneLevel
  filter := "(objectClass=*)"
  attributes := []

/-- A timeout is taken by a question, and controls are set after it. -/
def question : List Use :=
  [.withTimeout 5, .start (Request.extended .whoAmI), .withControls [PasswordPolicy.request]]

theorem search_after_question : ∃ c' w',
    Session answering.watching question untouched silent c' w' ∧
      c'.modifiers = { controls := some [PasswordPolicy.request] } ∧
      OneShot answering question untouched silent c' w' (.deed (.search children)) := by
  have hsession : Session answering.watching question untouched silent _ _ :=
    .call trivial (.call trivial (.call trivial (.start _ _)))
  exact ⟨_, _, hsession, rfl, hsession.oneShot answering (.deed (.search children))⟩

/-- Options are set for a search, but something is given up next. -/
def abandoning : List Use :=
  [.withTimeout 5, .withSearchOptions { typesOnly := true }, .deed (.abandon 99)]

/-- A timeout and the options of a search outlast an abandon request, and the search after it takes
them. -/
theorem options_outlast_abandon :
    (∃ c' w' p x, Session answering.watching abandoning untouched silent c' w' ∧
      (Use.deed (.search children)).pending? answering.watching c' w' = some p ∧ p.timeout = some 5 ∧
      x ∈ ((Use.deed (.search children)).run answering.watching c' w').2.sent ∧
      Search.request children { typesOnly := true } = .ok x.2.element) ∧
    ¬∀ us c' w', Session answering.watching us untouched silent c' w' →
      c'.modifiers = us.foldl Use.once untouched.modifiers := by
  have hsession : Session answering.watching abandoning untouched silent _ _ :=
    .call trivial (.call trivial (.call trivial (.start _ _)))
  refine ⟨⟨_, _, _, _, hsession, rfl, rfl, List.mem_of_getElem? (i := 1) rfl, rfl⟩, fun h => ?_⟩
  cases congrArg Modifiers.timeout (h abandoning _ _ hsession)

end Examples

end Connection

end DirectoryClient
