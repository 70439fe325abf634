import DirectoryClient.Connection.Bind

/-! The rounds of a bind by a mechanism as derivations: each ends in one of three ways, and they are the
binds that end at all. -/
namespace DirectoryClient.Connection

variable {ω : Type}

inductive Ending where
  /-- A request failed, or its response was none to a bind. -/
  | failed (cause : DirectoryError)
  /-- The server asked for another round, but the mechanism refused the challenge. -/
  | refused (cause : DirectoryError)
  /-- The server asked for no other round. -/
  | answered (result : OperationResult)

def Ending.outcome : Ending → Outcome OperationResult
  | failed e | refused e => .error e
  | answered r => .ok r

def withModifiers (timeout : Option Nat) (controls : Option (List Control)) (c : Connection) :
    Connection :=
  { c with timeout, controls }

/-- The rounds of a bind that ends: after challenges that have been answered, with the credentials for
the next request, and with the connection and the world that are left. -/
inductive Rounds (n : Network ω) (m : Mechanism) (timeout : Option Nat)
    (controls : Option (List Control)) :
    List Octets → Option Octets → Connection → ω → Ending → Connection → ω → Prop
  | failed {answered : List Octets} {credentials : Option Octets} {c c' : Connection} {w w' : ω}
    {e : DirectoryError} : (c.withModifiers timeout controls).requestBind n
      (Request.saslBind m.name credentials) none w = (.error e, c', w') →
    Rounds n m timeout controls answered credentials c w (.failed e) c' w'
  | refused {answered : List Octets} {credentials challenge : Option Octets} {c c' : Connection}
    {w w' : ω} {r : OperationResult} {e : DirectoryError} :
    (c.withModifiers timeout controls).requestBind n
      (Request.saslBind m.name credentials) none w = (.ok (r, challenge), c', w') →
    r.code = OperationResult.bindInProgress →
    m.answerAfter answered (challenge.getD []) = .error e →
    Rounds n m timeout controls answered credentials c w (.refused e) c' w'
  | answered {answered : List Octets} {credentials challenge : Option Octets} {c c' : Connection}
    {w w' : ω} {r : OperationResult} : (c.withModifiers timeout controls).requestBind n
      (Request.saslBind m.name credentials) none w = (.ok (r, challenge), c', w') →
    r.code ≠ OperationResult.bindInProgress →
    Rounds n m timeout controls answered credentials c w (.answered r) c' w'
  | again {answered : List Octets} {credentials challenge next : Option Octets}
    {c c₁ c' : Connection} {w w₁ w' : ω} {r : OperationResult} {ending : Ending} :
    (c.withModifiers timeout controls).requestBind n
      (Request.saslBind m.name credentials) none w = (.ok (r, challenge), c₁, w₁) →
    r.code = OperationResult.bindInProgress →
    m.answerAfter answered (challenge.getD []) = .ok next →
    Rounds n m timeout controls (answered ++ [challenge.getD []]) next c₁ w₁ ending c' w' →
    Rounds n m timeout controls answered credentials c w ending c' w'

namespace Rounds

variable {n : Network ω} {m : Mechanism} {timeout : Option Nat} {controls : Option (List Control)}
  {answered : List Octets} {credentials : Option Octets} {c c' : Connection} {w w' : ω}
  {o : Outcome OperationResult} {ending : Ending}

/-- A bind that ends is made of rounds. -/
theorem of_saslRounds (h : saslRounds? n m timeout controls answered credentials c w = some (o, c', w')) :
    ∃ ending, Rounds n m timeout controls answered credentials c w ending c' w' ∧
      o = ending.outcome := by
  refine saslRounds?.partial_correctness n m timeout controls
    (fun answered credentials c w x => ∃ ending,
      Rounds n m timeout controls answered credentials c w ending x.2.1 x.2.2 ∧
        x.1 = ending.outcome)
    (fun rounds ih answered credentials c w x hx => ?_) answered credentials c w (o, c', w') h
  split at hx
  · rename_i e c₁ w₁ hreq
    obtain rfl := Option.some.inj hx
    exact ⟨.failed e, .failed hreq, rfl⟩
  · rename_i r challenge c₁ w₁ hreq
    by_cases hcode : r.code = OperationResult.bindInProgress
    · simp only [hcode, ↓reduceIte] at hx
      cases hanswer : m.answerAfter answered (challenge.getD []) with
      | error e =>
        simp only [hanswer] at hx
        obtain rfl := Option.some.inj hx
        exact ⟨.refused e, .refused hreq hcode hanswer, rfl⟩
      | ok next =>
        simp only [hanswer] at hx
        obtain ⟨ending, hrounds, ho⟩ := ih _ _ _ _ _ hx
        exact ⟨ending, .again hreq hcode hanswer hrounds, ho⟩
    · simp only [hcode, ↓reduceIte] at hx
      obtain rfl := Option.some.inj hx
      exact ⟨.answered r, .answered hreq hcode, rfl⟩

/-- Rounds that end are what a bind makes. -/
theorem saslRounds_eq (h : Rounds n m timeout controls answered credentials c w ending c' w') :
    saslRounds? n m timeout controls answered credentials c w = some (ending.outcome, c', w') := by
  induction h with
  | failed hreq =>
    rw [saslRounds?]
    rw [withModifiers] at hreq
    simp only [hreq, Ending.outcome]
  | refused hreq hcode hanswer =>
    rw [saslRounds?]
    rw [withModifiers] at hreq
    simp only [hreq, hcode, hanswer, ↓reduceIte, Ending.outcome]
  | answered hreq hcode =>
    rw [saslRounds?]
    rw [withModifiers] at hreq
    simp only [hreq, hcode, ↓reduceIte, Ending.outcome]
  | again hreq hcode hanswer _ ih =>
    rw [saslRounds?]
    rw [withModifiers] at hreq
    simp only [hreq, hcode, hanswer, ↓reduceIte, ih]

/-- What each request of a bind keeps to, all of its rounds keep to. -/
theorem keep {R : Connection → ω → Connection → ω → Prop}
    (htrans : ∀ {c w c' w' c'' w''}, R c w c' w' → R c' w' c'' w'' → R c w c'' w'')
    (hround : ∀ credentials c w,
      R c w ((c.withModifiers timeout controls).requestBind n (Request.saslBind m.name credentials)
          none w).2.1
        ((c.withModifiers timeout controls).requestBind n (Request.saslBind m.name credentials)
          none w).2.2)
    (h : Rounds n m timeout controls answered credentials c w ending c' w') : R c w c' w' := by
  have of_request : ∀ {credentials : Option Octets} {c : Connection} {w : ω} {x c' w'},
      (c.withModifiers timeout controls).requestBind n (Request.saslBind m.name credentials) none w =
        (x, c', w') → R c w c' w' := by
    intro credentials c w x c' w' hreq
    have hone := hround credentials c w
    rw [hreq] at hone
    exact hone
  induction h with
  | failed hreq | refused hreq | answered hreq => exact of_request hreq
  | again hreq _ _ _ ih => exact htrans (of_request hreq) ih

/-- The last answer asks for no other round. -/
theorem code_ne_bindInProgress {r : OperationResult}
    (h : Rounds n m timeout controls answered credentials c w (.answered r) c' w') :
    r.code ≠ OperationResult.bindInProgress := by
  generalize hending : Ending.answered r = ending at h
  induction h with
  | failed | refused => cases hending
  | answered _ hcode =>
    cases hending
    exact hcode
  | again _ _ _ _ ih => exact ih hending

/-- There is one way to end. -/
theorem ending_unique {ending' : Ending} {c'' : Connection} {w'' : ω}
    (h : Rounds n m timeout controls answered credentials c w ending c' w')
    (h' : Rounds n m timeout controls answered credentials c w ending' c'' w'') :
    ending = ending' := by
  induction h with
  | failed hreq =>
    cases h' with
    | failed hreq' =>
      cases hreq.symm.trans hreq'
      rfl
    | refused hreq' | answered hreq' | again hreq' => cases hreq.symm.trans hreq'
  | refused hreq hcode hanswer =>
    cases h' with
    | failed hreq' => cases hreq.symm.trans hreq'
    | refused hreq' _ hanswer' =>
      cases hreq.symm.trans hreq'
      cases hanswer.symm.trans hanswer'
      rfl
    | answered hreq' hcode' =>
      cases hreq.symm.trans hreq'
      exact absurd hcode hcode'
    | again hreq' _ hanswer' =>
      cases hreq.symm.trans hreq'
      cases hanswer.symm.trans hanswer'
  | answered hreq hcode =>
    cases h' with
    | failed hreq' => cases hreq.symm.trans hreq'
    | refused hreq' hcode' | again hreq' hcode' =>
      cases hreq.symm.trans hreq'
      exact absurd hcode' hcode
    | answered hreq' =>
      cases hreq.symm.trans hreq'
      rfl
  | again hreq hcode hanswer _ ih =>
    cases h' with
    | failed hreq' => cases hreq.symm.trans hreq'
    | refused hreq' _ hanswer' =>
      cases hreq.symm.trans hreq'
      cases hanswer.symm.trans hanswer'
    | answered hreq' hcode' =>
      cases hreq.symm.trans hreq'
      exact absurd hcode hcode'
    | again hreq' _ hanswer' hrounds =>
      cases hreq.symm.trans hreq'
      cases hanswer.symm.trans hanswer'
      exact ih hrounds

end Rounds

/-- What comes of a bind by a mechanism: it is not begun, or it ends after some rounds, or it never ends,
which counts as a failure after the first of them. -/
inductive Binds (n : Network ω) (m : Mechanism) (c : Connection) (w : ω) :
    Outcome OperationResult × Connection × ω → Prop
  | unbegun (e : DirectoryError) : m.initial = .error e →
    Binds n m c w (.error e, { c with boundWith := none, timeout := none, controls := none }, w)
  | ended (first : Option Octets) (ending : Ending) (c' : Connection) (w' : ω) :
    m.initial = .ok first → Rounds n m c.timeout c.controls [] first
      { c with boundWith := none, timeout := none, controls := none } w ending c' w' →
    Binds n m c w (ending.outcome, c', w')
  | endless (first : Option Octets) (x : Outcome (OperationResult × Option Octets)) (c' : Connection)
    (w' : ω) : m.initial = .ok first → saslRounds? n m c.timeout c.controls [] first
      { c with boundWith := none, timeout := none, controls := none } w = none →
    { c with boundWith := none }.requestBind n (Request.saslBind m.name first) none w =
      (x, c', w') → Binds n m c w (.error .connectionClosed, c'.clearIdentity, w')

theorem saslBind_binds (n : Network ω) (m : Mechanism) (c : Connection) (w : ω) :
    Binds n m c w (c.saslBind n m w) := by
  rw [saslBind]
  cases hfirst : m.initial with
  | error e => exact .unbegun e hfirst
  | ok first =>
    simp only
    rcases h : saslRounds? n m c.timeout c.controls [] first
      { c with boundWith := none, timeout := none, controls := none } w with _ | ⟨o, c', w'⟩
    · exact .endless first _ _ _ hfirst h rfl
    · obtain ⟨ending, hrounds, rfl⟩ := Rounds.of_saslRounds h
      exact .ended first ending c' w' hfirst hrounds

theorem Rounds.saslBind_eq {n : Network ω} {m : Mechanism} {first : Option Octets} {c c' : Connection}
    {w w' : ω} {ending : Ending} (hfirst : m.initial = .ok first)
    (h : Rounds n m c.timeout c.controls [] first
      { c with boundWith := none, timeout := none, controls := none } w ending c' w') :
    c.saslBind n m w = (ending.outcome, c', w') := by
  rw [saslBind, hfirst]
  simp only [h.saslRounds_eq, Option.getD_some]

/-- What each request of a bind keeps to, whoever is bound at its end, the bind keeps to. -/
theorem Binds.keep {n : Network ω} {m : Mechanism} {c : Connection} {w : ω}
    {r : Outcome OperationResult × Connection × ω} (h : Binds n m c w r)
    {R : Connection → ω → Connection → ω → Prop} (hrefl : ∀ c w, R c w c w)
    (htrans : ∀ {c w c' w' c'' w''}, R c w c' w' → R c' w' c'' w'' → R c w c'' w'')
    (hclear : ∀ {c w c' w'}, R c w c' w' → R c w c'.clearIdentity w')
    (hround : ∀ credentials c' w,
      R c' w ((c'.withModifiers c.timeout c.controls).requestBind n
          (Request.saslBind m.name credentials) none w).2.1
        ((c'.withModifiers c.timeout c.controls).requestBind n
          (Request.saslBind m.name credentials) none w).2.2) :
    R { c with boundWith := none, timeout := none, controls := none } w r.2.1 r.2.2 := by
  cases h with
  | unbegun e => exact hrefl _ w
  | ended first ending c' w' _ hrounds => exact hrounds.keep htrans hround
  | endless first x c' w' _ _ hfirst =>
    have hone := hround first { c with boundWith := none, timeout := none, controls := none } w
    rw [withModifiers, hfirst] at hone
    exact hclear hone

end DirectoryClient.Connection
