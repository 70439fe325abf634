import DirectoryClient.Proofs.Connection.Modifiers
import DirectoryClient.Proofs.Connection.Watching

/-! A bind by a mechanism as a conversation: one request for each round, with what the mechanism has to
say to the challenge of the round before. -/
namespace DirectoryClient

open Watched (Adds)
open Network (Asked)

variable {ω : Type}

/-- A round of a bind by a mechanism: the credentials that are sent, and what comes of the request. -/
structure Round where
  credentials : Option Octets
  answer : Outcome Message

def Round.result (x : Round) : Outcome (OperationResult × Option Octets) :=
  x.answer >>= Connection.bindResponse

/-- The server asks for another round, and the mechanism has this to say to its challenge. An absent
challenge counts as an empty one. -/
def Round.Continues (m : Mechanism) (answered : List Octets) (x : Round) (challenge : Octets)
    (next : Option Octets) : Prop :=
  ∃ r credentials, x.result = .ok (r, credentials) ∧ r.code = OperationResult.bindInProgress ∧
    challenge = credentials.getD [] ∧ m.answerAfter answered challenge = .ok next

/-- The rounds of a bind that has not come to its end, after challenges that have been answered, with
the credentials for the next request. -/
inductive Mechanism.InProgress (m : Mechanism) : List Octets → Option Octets → List Round → Prop
  | start (answered : List Octets) (credentials : Option Octets) : InProgress m answered credentials []
  | again {answered : List Octets} {challenge : Octets} {next : Option Octets} {x : Round}
    {xs : List Round} : x.Continues m answered challenge next →
    InProgress m (answered ++ [challenge]) next xs → InProgress m answered x.credentials (x :: xs)

inductive Mechanism.Converses (m : Mechanism) :
    List Octets → Option Octets → List Round → Outcome OperationResult → Prop
  | failed {answered : List Octets} {x : Round} {e : DirectoryError} : x.result = .error e →
    Converses m answered x.credentials [x] (.error e)
  | refused {answered : List Octets} {x : Round} {r : OperationResult} {challenge : Option Octets}
    {e : DirectoryError} : x.result = .ok (r, challenge) → r.code = OperationResult.bindInProgress →
    m.answerAfter answered (challenge.getD []) = .error e →
    Converses m answered x.credentials [x] (.error e)
  | answered {answered : List Octets} {x : Round} {r : OperationResult} {challenge : Option Octets} :
    x.result = .ok (r, challenge) → r.code ≠ OperationResult.bindInProgress →
    Converses m answered x.credentials [x] (.ok r)
  | again {answered : List Octets} {challenge : Octets} {next : Option Octets} {x : Round}
    {xs : List Round} {o : Outcome OperationResult} : x.Continues m answered challenge next →
    Converses m (answered ++ [challenge]) next xs o → Converses m answered x.credentials (x :: xs) o

/-- The element asks for a bind by a mechanism, in version 3 and without a name, with the name of the
mechanism, and with the credentials if there are any. -/
inductive Ber.Element.BindsBy (name : String) : Option Octets → Ber.Element → Prop
  | bare : BindsBy name none <|
    .constructed ⟨.application, 0⟩ [.primitive ⟨.universal, 2⟩ [3], .primitive ⟨.universal, 4⟩ [],
      .constructed ⟨.context, 3⟩ [.primitive ⟨.universal, 4⟩ (Text.encode name)]]
  | carrying (credentials : Octets) : BindsBy name (some credentials) <|
    .constructed ⟨.application, 0⟩ [.primitive ⟨.universal, 2⟩ [3], .primitive ⟨.universal, 4⟩ [],
      .constructed ⟨.context, 3⟩ [.primitive ⟨.universal, 4⟩ (Text.encode name),
        .primitive ⟨.universal, 4⟩ credentials]]

private theorem Request.saslBind_bindsBy (name : String) (credentials : Option Octets) :
    (Request.saslBind name credentials).BindsBy name credentials := by
  have hversion : Ber.integerOctets Request.version = [3] := by decide +kernel
  rw [Request.saslBind, Ber.Element.integer, hversion]
  cases credentials with
  | none => exact .bare
  | some credentials => exact .carrying credentials

private theorem Ber.Element.BindsBy.credentials_unique {name : String}
    {credentials credentials' : Option Octets}
    {element : Ber.Element} (h : element.BindsBy name credentials)
    (h' : element.BindsBy name credentials') : credentials = credentials' := by
  cases h <;> cases h' <;> rfl

namespace Network

variable (n : Network ω) (t : TransportId) (timeout : Option Nat) (controls : Option (List Control))
  (name : String)

inductive Holds : ω → List Round → ω → Prop
  | start (w : ω) : Holds w [] w
  | round {w w' : ω} {x : Round} {xs : List Round} :
    x.answer = (n.ask t timeout controls (Request.saslBind name x.credentials) w).1 →
    Holds (n.ask t timeout controls (Request.saslBind name x.credentials) w).2 xs w' →
    Holds w (x :: xs) w'

/-- What is noted of rounds: every round asks for a bind with its credentials. -/
inductive Accounts : List Round → List (TransportId × Submission) → List Nat → Prop
  | start : Accounts [] [] []
  | round {x : Round} {xs : List Round} {element : Ber.Element}
    {requests requests' : List (TransportId × Submission)} {spans spans' : List Nat} :
    element.BindsBy name x.credentials → Asked t timeout controls element x.answer requests spans →
    Accounts xs requests' spans' → Accounts (x :: xs) (requests ++ requests') (spans ++ spans')

variable {n t timeout controls name}

private theorem Holds.accounts {xs : List Round} {w w' : Watched ω}
    (h : n.watching.Holds t timeout controls name w xs w') :
    ∃ requests spans, Accounts t timeout controls name xs requests spans ∧
      Adds requests spans w w' := by
  induction h with
  | start w => exact ⟨[], [], .start, .refl w⟩
  | round hanswer _ ih =>
    obtain ⟨requests, spans, hasked, hadds⟩ := adds_ask timeout controls _
    obtain ⟨requests', spans', haccounts, hadds'⟩ := ih
    rw [← hanswer] at hasked
    exact ⟨_, _, .round (Request.saslBind_bindsBy name _) hasked haccounts, hadds.trans hadds'⟩

end Network

namespace Connection

variable {n : Network ω}

def route (c : Connection) : TransportId × Option Nat := (c.transport, c.defaultTimeout)

section Asking

variable (n) (c : Connection) (w : ω) (request : Ber.Element)

theorem route_exchange : (c.exchange n request w).2.1.route = c.route := by
  rw [connection_exchange, submit, post]
  split <;> rfl

theorem route_requestBind (name : Option String) :
    (c.requestBind n request name w).2.1.route = c.route := by
  rw [← route_exchange n c w request]
  rcases connection_requestBind n c w request name with h | ⟨r, h⟩
  · rw [h]
    rfl
  · rw [h, recordBind]
    split
    · rfl
    · split <;> rfl

/-- A request is made with all that waits for it. -/
theorem exchange_eq_ask : ((c.exchange n request w).1, (c.exchange n request w).2.2) =
    n.ask c.transport c.nextTimeout c.controls request w := by
  rw [Network.ask, exchange, submit, post]
  rw [show c.clearModifiers.transport = c.transport from rfl]
  rcases n.withLink c.transport Link.nextId w with ⟨_ | id, w₁⟩
  · rfl
  · simp only
    rcases n.withLink c.transport (Link.sendSingle id request c.controls) w₁ with ⟨_ | ticket, w₂⟩ <;>
      rfl

theorem requestBind_eq_ask (name : Option String) :
    (c.requestBind n request name w).1 =
        ((n.ask c.transport c.nextTimeout c.controls request w).1 >>= bindResponse) ∧
      (c.requestBind n request name w).2.2 =
        (n.ask c.transport c.nextTimeout c.controls request w).2 := by
  have hask := exchange_eq_ask n c w request
  rw [← hask, requestBind]
  rcases c.exchange n request w with ⟨o, c', w'⟩
  dsimp only
  cases o >>= bindResponse <;> exact ⟨rfl, rfl⟩

end Asking

section Rounds

variable {m : Mechanism} {timeout : Option Nat} {controls : Option (List Control)}
  {answered : List Octets} {credentials : Option Octets} {c c' : Connection} {w w' : ω}
  {xs : List Round} {o : Outcome OperationResult} {ending : Ending}

private theorem requestBind_round {x : Round} (h : x.answer = (n.ask c.transport
      (timeout.or c.defaultTimeout) controls (Request.saslBind m.name x.credentials) w).1) :
    ∃ c', c'.route = c.route ∧ (c.withModifiers timeout controls).requestBind n
        (Request.saslBind m.name x.credentials) none w =
      (x.result, c', (n.ask c.transport (timeout.or c.defaultTimeout) controls
        (Request.saslBind m.name x.credentials) w).2) := by
  obtain ⟨hresult, hworld⟩ := requestBind_eq_ask n (c.withModifiers timeout controls) w
    (Request.saslBind m.name x.credentials) none
  have hroute := route_requestBind n (c.withModifiers timeout controls) w
    (Request.saslBind m.name x.credentials) none
  refine ⟨_, hroute, Prod.ext ?_ (Prod.ext rfl hworld)⟩
  rw [Round.result, h]
  exact hresult

/-- The same rounds on the connection that is left of the round before. -/
private theorem holds_of_route (hroute : c'.route = c.route) :
    n.Holds c'.transport (timeout.or c'.defaultTimeout) controls m.name w xs w' ↔
      n.Holds c.transport (timeout.or c.defaultTimeout) controls m.name w xs w' := by
  obtain ⟨htransport, hdefault⟩ := Prod.mk.inj hroute
  rw [htransport, hdefault]

/-- What a mechanism makes of rounds that take place, a bind makes of them. -/
private theorem rounds_of_converses (h : m.Converses answered credentials xs o)
    (hxs : n.Holds c.transport (timeout.or c.defaultTimeout) controls m.name w xs w') :
    ∃ ending c', Rounds n m timeout controls answered credentials c w ending c' w' ∧
      ending.outcome = o := by
  induction h generalizing c w with
  | failed hresult =>
    cases hxs with
    | round hanswer hrest =>
      cases hrest
      obtain ⟨c', -, hreq⟩ := requestBind_round hanswer
      rw [hresult] at hreq
      exact ⟨_, c', .failed hreq, rfl⟩
  | refused hresult hcode hstep =>
    cases hxs with
    | round hanswer hrest =>
      cases hrest
      obtain ⟨c', -, hreq⟩ := requestBind_round hanswer
      rw [hresult] at hreq
      exact ⟨_, c', .refused hreq hcode hstep, rfl⟩
  | answered hresult hcode =>
    cases hxs with
    | round hanswer hrest =>
      cases hrest
      obtain ⟨c', -, hreq⟩ := requestBind_round hanswer
      rw [hresult] at hreq
      exact ⟨_, c', .answered hreq hcode, rfl⟩
  | again hcontinues _ ih =>
    cases hxs with
    | round hanswer hrest =>
      obtain ⟨c₁, hroute, hreq⟩ := requestBind_round hanswer
      obtain ⟨r, challenge, hresult, hcode, rfl, hstep⟩ := hcontinues
      obtain ⟨ending, c', hrounds, ho⟩ := ih ((holds_of_route hroute).mpr hrest)
      rw [hresult] at hreq
      exact ⟨ending, c', .again hreq hcode hstep hrounds, ho⟩

private theorem exists_round {result : Outcome (OperationResult × Option Octets)}
    (h : (c.withModifiers timeout controls).requestBind n (Request.saslBind m.name credentials) none w =
      (result, c', w')) : ∃ x : Round, x.credentials = credentials ∧ x.result = result ∧
        c'.route = c.route ∧ ∀ {xs w''},
          n.Holds c.transport (timeout.or c.defaultTimeout) controls m.name w' xs w'' →
          n.Holds c.transport (timeout.or c.defaultTimeout) controls m.name w (x :: xs) w'' := by
  have hroute := route_requestBind n (c.withModifiers timeout controls) w
    (Request.saslBind m.name credentials) none
  obtain ⟨hresult, hworld⟩ := requestBind_eq_ask n (c.withModifiers timeout controls) w
    (Request.saslBind m.name credentials) none
  rw [h] at hroute hresult hworld
  exact ⟨⟨credentials, _⟩, rfl, hresult.symm, hroute, fun hrest => .round rfl (hworld ▸ hrest)⟩

/-- The rounds of a bind that ends take place, and the mechanism makes of them what the bind does. -/
theorem Rounds.converses (h : Rounds n m timeout controls answered credentials c w ending c' w') :
    ∃ xs, m.Converses answered credentials xs ending.outcome ∧
      n.Holds c.transport (timeout.or c.defaultTimeout) controls m.name w xs w' := by
  induction h with
  | failed hreq =>
    obtain ⟨x, rfl, hresult, -, hround⟩ := exists_round hreq
    exact ⟨[x], .failed hresult, hround (.start _)⟩
  | refused hreq hcode hstep =>
    obtain ⟨x, rfl, hresult, -, hround⟩ := exists_round hreq
    exact ⟨[x], .refused hresult hcode hstep, hround (.start _)⟩
  | answered hreq hcode =>
    obtain ⟨x, rfl, hresult, -, hround⟩ := exists_round hreq
    exact ⟨[x], .answered hresult hcode, hround (.start _)⟩
  | again hreq hcode hstep _ ih =>
    obtain ⟨x, rfl, hresult, hroute, hround⟩ := exists_round hreq
    obtain ⟨xs, hconverses, hholds⟩ := ih
    exact ⟨x :: xs, .again ⟨_, _, hresult, hcode, rfl, hstep⟩ hconverses,
      hround ((holds_of_route hroute).mp hholds)⟩

private theorem endless_of_saslRounds
    (h : saslRounds? n m timeout controls answered credentials c w = none) (k : Nat) :
    ∃ xs w', xs.length = k ∧ m.InProgress answered credentials xs ∧
      n.Holds c.transport (timeout.or c.defaultTimeout) controls m.name w xs w' := by
  induction k generalizing answered credentials c w with
  | zero => exact ⟨[], w, rfl, .start _ _, .start w⟩
  | succ k ih =>
    rcases hreq : (c.withModifiers timeout controls).requestBind n
      (Request.saslBind m.name credentials) none w with ⟨e | ⟨r, challenge⟩, c₁, w₁⟩
    · have hends : Rounds n m timeout controls answered credentials c w (.failed e) c₁ w₁ :=
        .failed hreq
      cases h.symm.trans hends.saslRounds_eq
    · by_cases hcode : r.code = OperationResult.bindInProgress
      · cases hstep : m.answerAfter answered (challenge.getD []) with
        | error e =>
          have hends : Rounds n m timeout controls answered credentials c w (.refused e) c₁ w₁ :=
            .refused hreq hcode hstep
          cases h.symm.trans hends.saslRounds_eq
        | ok next =>
          have hnone : saslRounds? n m timeout controls (answered ++ [challenge.getD []]) next c₁ w₁ =
              none := by
            rw [saslRounds?] at h
            rw [withModifiers] at hreq
            simpa only [hreq, hcode, hstep, ↓reduceIte] using h
          obtain ⟨xs, w', hlength, hxs, hholds⟩ := ih hnone
          obtain ⟨x, rfl, hresult, hroute, hround⟩ := exists_round hreq
          exact ⟨x :: xs, w', by rw [List.length_cons, hlength],
            .again ⟨_, _, hresult, hcode, rfl, hstep⟩ hxs,
            hround ((holds_of_route hroute).mp hholds)⟩
      · have hends : Rounds n m timeout controls answered credentials c w (.answered r) c₁ w₁ :=
          .answered hreq hcode
        cases h.symm.trans hends.saslRounds_eq

end Rounds

/-- A bind by a mechanism follows its conversation with the server. -/
structure Follows (n : Network ω) (m : Mechanism) (c : Connection) (w : Watched ω) : Prop where
  /-- A mechanism that has nothing to begin with asks for nothing. -/
  unbegun : ∀ e, m.initial = .error e →
    (c.saslBind n.watching m w).1 = .error e ∧ (c.saslBind n.watching m w).2.2 = w
  /-- Rounds that take place, up to an end, have the outcome that the mechanism gives them. -/
  outcome : ∀ first xs o w', m.initial = .ok first → m.Converses [] first xs o →
    n.watching.Holds c.transport (c.timeout.or c.defaultTimeout) c.controls m.name w xs w' →
    (c.saslBind n.watching m w).1 = o ∧ (c.saslBind n.watching m w).2.2 = w'
  /-- There are such rounds, unless the server always asks for another one. -/
  ends : ∀ first, m.initial = .ok first →
    (∃ xs o w', m.Converses [] first xs o ∧
      n.watching.Holds c.transport (c.timeout.or c.defaultTimeout) c.controls m.name w xs w') ∨
    ∀ k, ∃ xs w', xs.length = k ∧ m.InProgress [] first xs ∧
      n.watching.Holds c.transport (c.timeout.or c.defaultTimeout) c.controls m.name w xs w'
  /-- Every round makes one request, for a bind with its credentials, with the same controls, and waits
  for the same time. -/
  noted : ∀ xs w',
    n.watching.Holds c.transport (c.timeout.or c.defaultTimeout) c.controls m.name w xs w' →
    ∃ requests spans, Network.Accounts c.transport (c.timeout.or c.defaultTimeout) c.controls m.name
      xs requests spans ∧ Adds requests spans w w'
  /-- It is the name of the mechanism that is sent, and absent credentials are not sent as empty ones. -/
  requested : ∀ credentials, (Request.saslBind m.name credentials).BindsBy m.name credentials
  told : ∀ credentials credentials', Request.saslBind m.name credentials =
    Request.saslBind m.name credentials' → credentials = credentials'
  timeout : (c.saslBind n.watching m w).2.1.timeout = none
  controls : (c.saslBind n.watching m w).2.1.controls = none

/-- After a bind by a mechanism, neither a timeout nor controls wait for the next operation. -/
private theorem modifiers_saslBind (n : Network ω) (m : Mechanism) (c : Connection) (w : ω) :
    (c.saslBind n m w).2.1.timeout = none ∧ (c.saslBind n m w).2.1.controls = none := by
  have hbinds := saslBind_binds n m c w
  generalize c.saslBind n m w = result at hbinds ⊢
  cases hbinds with
  | unbegun => exact ⟨rfl, rfl⟩
  | ended first ending c' w' _ hrounds =>
    exact ⟨congrArg Modifiers.timeout hrounds.modifiers, congrArg Modifiers.controls hrounds.modifiers⟩
  | endless first x c' w' _ _ hone =>
    have hnone := modifiers_requestBind n { c with boundWith := none } w
      (Request.saslBind m.name first) none
    rw [hone] at hnone
    exact ⟨congrArg Modifiers.timeout hnone, congrArg Modifiers.controls hnone⟩

section TwoRounds

/-- A mechanism that says nothing at first, and then says the challenge again. -/
def echo : Mechanism where
  name := "X-ECHO"
  initial := .ok none
  answer challenge := .ok (some challenge)

def askingAgain : Watched Answering := { world := { world := { codes := [14, 0] } } }

def response (id : MessageId) (code : UInt32) : Message :=
  { id, response := .bind { code } none, controls := [] }

def firstRound : Round := ⟨none, .ok (response 1 14)⟩

def lastRound : Round := ⟨some [], .ok (response 2 0)⟩

end TwoRounds

end Connection

end DirectoryClient
