import DirectoryClient.Proofs.Pool.Alone
import DirectoryClient.Proofs.Pool.Ledger

/-! Which connection a borrow chooses that nobody disturbs: the first idle one that can be made ready, in
the order of the settings, or else a new one. -/
namespace DirectoryClient.Pool

variable {ω κ : Type}

/-- Idle connections in the order in which a borrow looks at them. Twice, and they are as they were. -/
def arranged (lifo : Bool) (is : List (Idle κ)) : List (Idle κ) := if lifo then is.reverse else is

@[simp]
theorem arranged_arranged (lifo : Bool) (is : List (Idle κ)) :
    arranged lifo (arranged lifo is) = is := by
  cases lifo <;> simp [arranged]

@[simp]
theorem length_arranged (lifo : Bool) (is : List (Idle κ)) : (arranged lifo is).length = is.length := by
  cases lifo <;> simp [arranged]

@[simp]
theorem mem_arranged {lifo : Bool} {is : List (Idle κ)} {i : Idle κ} :
    i ∈ arranged lifo is ↔ i ∈ is := by
  cases lifo <;> simp [arranged]

/-- Makes a connection ready to be lent: activates it, and tests it if the settings say so. -/
def prepare (p : Pool ω κ) (k : κ) (w : ω) : Outcome Unit × κ × ω :=
  match p.manager.activate k w with
  | (.error e, k, w) => (.error e, k, w)
  | (.ok (), k, w) =>
    if p.settings.testOnBorrow then
      let (isValid, k, w) := p.manager.validate k w
      (if isValid then .ok () else .error .validationFailed, k, w)
    else (.ok (), k, w)

inductive Discards (p : Pool ω κ) : List (Idle κ) → ω → ω → Prop
  | nil (w : ω) : Discards p [] w w
  | cons {i : Idle κ} {is : List (Idle κ)} {w w₁ w₂ : ω} {k : κ} {e : DirectoryError} :
    prepare p i.connection w = (.error e, k, w₁) → Discards p is (p.manager.destroy k w₁) w₂ →
    Discards p (i :: is) w w₂

/-- What a borrow comes to that looks at idle connections in this order: those that it discards, those
that it does not look at, what it makes, and its outcome. -/
inductive Chooses (p : Pool ω κ) : List (Idle κ) → ω → (failed rest : List (Idle κ)) →
    (made : Option κ) → Outcome κ → ω → Prop
  /-- The first one that can be made ready is lent. -/
  | idle {failed rest : List (Idle κ)} {i : Idle κ} {w w₁ w₂ : ω} {k : κ} :
    Discards p failed w w₁ → prepare p i.connection w₁ = (.ok (), k, w₂) →
    Chooses p (failed ++ i :: rest) w failed rest none (.ok k) w₂
  | notMade {failed : List (Idle κ)} {w w₁ w₂ : ω} {e : DirectoryError} :
    Discards p failed w w₁ → p.manager.make w₁ = (.error e, w₂) →
    Chooses p failed w failed [] none (.error (.borrowFailed e)) w₂
  | notReady {failed : List (Idle κ)} {w w₁ w₂ w₃ : ω} {k k' : κ} {e : DirectoryError} :
    Discards p failed w w₁ → p.manager.make w₁ = (.ok k, w₂) → prepare p k w₂ = (.error e, k', w₃) →
    Chooses p failed w failed [] (some k) (.error (.borrowFailed e)) (p.manager.destroy k' w₃)
  /-- None can be made ready, and a new one is lent. -/
  | made {failed : List (Idle κ)} {w w₁ w₂ w₃ : ω} {k k' : κ} :
    Discards p failed w w₁ → p.manager.make w₁ = (.ok k, w₂) → prepare p k w₂ = (.ok (), k', w₃) →
    Chooses p failed w failed [] (some k) (.ok k') w₃

def State.afterBorrow (m : Manager ω κ) (s : State κ) (rest : List (Idle κ)) : Outcome κ → State κ
  | .ok k => { s with idle := rest, active := s.active.insert (m.id k) }
  | .error _ => { s with idle := rest }

/-- Of idle connections, none can be made ready, or there is a first one that can. -/
private theorem discards_or_ready (p : Pool ω κ) (is : List (Idle κ)) (w : ω) :
    (∃ w', Discards p is w w') ∨ ∃ failed i rest w₁ k w₂, is = failed ++ i :: rest ∧
      Discards p failed w w₁ ∧ prepare p i.connection w₁ = (.ok (), k, w₂) := by
  induction is generalizing w with
  | nil => exact .inl ⟨w, .nil w⟩
  | cons i is ih =>
    rcases hi : prepare p i.connection w with ⟨e | _, k, w₁⟩
    · rcases ih (p.manager.destroy k w₁) with ⟨w', h⟩ | ⟨failed, j, rest, w₂, k', w₃, rfl, h, hj⟩
      · exact .inl ⟨w', .cons hi h⟩
      · exact .inr ⟨i :: failed, j, rest, w₂, k', w₃, rfl, .cons hi h, hj⟩
    · exact .inr ⟨[], i, is, w, k, w₁, rfl, .nil w, hi⟩

/-- A borrow comes to something, whatever the hooks do. -/
theorem exists_chooses (p : Pool ω κ) (is : List (Idle κ)) (w : ω) :
    ∃ failed rest made o w', Chooses p is w failed rest made o w' := by
  rcases discards_or_ready p is w with ⟨w₁, h⟩ | ⟨failed, i, rest, w₁, k, w₂, rfl, h, hi⟩
  · rcases hm : p.manager.make w₁ with ⟨e | k, w₂⟩
    · exact ⟨_, _, _, _, _, .notMade h hm⟩
    · rcases hk : prepare p k w₂ with ⟨e | _, k', w₃⟩
      · exact ⟨_, _, _, _, _, .notReady h hm hk⟩
      · exact ⟨_, _, _, _, _, .made h hm hk⟩
  · exact ⟨_, _, _, _, _, .idle h hi⟩

namespace State

variable {settings : Settings.Pool} {s : State κ}

/-- A borrow that finds a place takes the idle connection along that it is to look at first. -/
private theorem reserve_arranged (late : Bool) (hopen : s.isClosed = false)
    (hfree : s.occupied < settings.maxActive) : s.reserve settings late =
      (.granted ((arranged settings.lifo s.idle).head?.elim .new fun i => .idle i.connection),
        { s with
          pending := s.pending + 1
          idle := arranged settings.lifo (arranged settings.lifo s.idle).tail }) := by
  cases hlifo : settings.lifo <;>
    simp [reserve, hopen, hfree, takeIdle, hlifo, arranged, Function.comp_def]

end State

namespace Activity.Ends

open Borrow (failure)

variable {p : Pool ω κ} {d : Option Nat} {n : Nat} {us : List Wakeup}
  {y : Activity κ × State κ × ω} {s : State κ} {w w' : ω}

private def prepared (isNew : Bool) (k : κ) : Outcome Unit → Borrow κ
  | .ok () => .checkingOut k
  | .error e => .discarding k (failure isNew e)

private theorem preparing (isNew : Bool) {k k' : κ} {o : Outcome Unit}
    (hk : prepare p k w = (o, k', w')) (h : Ends p n us (borrow d (prepared isNew k' o), s, w') y) :
    Ends p (n + 2) us (borrow d (.activating k isNew), s, w) y := by
  rcases ha : p.manager.activate k w with ⟨e | _, k₁, w₁⟩
  · obtain ⟨rfl, rfl, rfl⟩ : .error e = o ∧ k₁ = k' ∧ w₁ = w' := by simpa [prepare, ha] using hk
    have hstep : (borrow d (.activating k isNew)).step p s w =
        ⟨borrow d (prepared isNew k₁ (.error e)), s, w₁, .nobody⟩ := by
      simp only [Activity.step, Borrow.step, ha]
      rfl
    exact (h.cons hstep rfl).mono (Nat.le_succ _)
  · cases htest : p.settings.testOnBorrow with
    | false =>
      obtain ⟨rfl, rfl, rfl⟩ : .ok () = o ∧ k₁ = k' ∧ w₁ = w' := by
        simpa [prepare, ha, htest] using hk
      have hstep : (borrow d (.activating k isNew)).step p s w =
          ⟨borrow d (prepared isNew k₁ (.ok ())), s, w₁, .nobody⟩ := by
        simp only [Activity.step, Borrow.step, ha, htest]
        rfl
      exact (h.cons hstep rfl).mono (Nat.le_succ _)
    | true =>
      have hactivate : (borrow d (.activating k isNew)).step p s w =
          ⟨borrow d (.validating k₁ isNew), s, w₁, .nobody⟩ := by
        simp only [Activity.step, Borrow.step, ha, htest]
        rfl
      rcases hv : p.manager.validate k₁ w₁ with ⟨isValid, k₂, w₂⟩
      obtain ⟨rfl, rfl, rfl⟩ : (if isValid then .ok () else .error .validationFailed) = o ∧ k₂ = k' ∧
          w₂ = w' := by
        simpa [prepare, ha, htest, hv] using hk
      have hvalidate : (borrow d (.validating k₁ isNew)).step p s w₁ =
          ⟨borrow d (prepared isNew k₂ (if isValid then .ok () else .error .validationFailed)), s, w₂,
            .nobody⟩ := by
        cases isValid <;> simp only [Activity.step, Borrow.step, hv] <;> rfl
      have hgoes : (borrow d (prepared isNew k₂
          (if isValid then .ok () else .error .validationFailed))).stops = false := by
        cases isValid <;> rfl
      exact (h.cons hvalidate hgoes).cons hactivate rfl

private theorem reserve_step {is : List (Idle κ)} (hopen : s.isClosed = false)
    (hfree : s.occupied < p.settings.maxActive) (hidle : arranged p.settings.lifo s.idle = is) :
    (borrow d .reserving).step p s w =
      ⟨borrow d (is.head?.elim .making fun i => .activating i.connection false),
        { s with pending := s.pending + 1, idle := arranged p.settings.lifo is.tail }, w, .nobody⟩ := by
  simp only [Activity.step, Borrow.step, State.reserve_arranged _ hopen hfree, hidle]
  cases is <;> rfl

/-- A borrow discards an idle connection that cannot be made ready, gives its place back, and looks for
one again. -/
private theorem discarding {failed rest : List (Idle κ)} (hopen : s.isClosed = false)
    (hfree : s.occupied < p.settings.maxActive) (hfailed : Discards p failed w w')
    (hidle : arranged p.settings.lifo s.idle = failed ++ rest)
    (h : Ends p n us
      (borrow d .reserving, { s with idle := arranged p.settings.lifo rest }, w') y) :
    Ends p (n + 6 * failed.length) (List.replicate failed.length .one ++ us)
      (borrow d .reserving, s, w) y := by
  induction hfailed generalizing s with
  | nil w =>
    rw [List.nil_append] at hidle
    rwa [← hidle, arranged_arranged] at h
  | @cons i is w w₁ w₂ k e hk hrest ih =>
    have hagain := ih (s := { s with idle := arranged p.settings.lifo (is ++ rest) }) hopen hfree
      (arranged_arranged _ _) h
    have hsignal := hagain.cons (a := borrow d (.signalling none)) (u := .one) rfl rfl
    have hcancel := hsignal.cons (a := borrow d (.cancelling none)) (u := .nobody)
      (s := { s with pending := s.pending + 1, idle := arranged p.settings.lifo (is ++ rest) }) rfl rfl
    have hdestroy := hcancel.cons (a := borrow d (.discarding k none)) (u := .nobody) (w := w₁) rfl rfl
    have hprepare := preparing false hk hdestroy
    exact (hprepare.cons (reserve_step hopen hfree hidle) rfl).mono
      (by simp only [List.length_cons]; omega)

/-- Where a borrow stands after it has tried to make a connection. -/
private def tried : Outcome κ → Borrow κ
  | .ok k => .activating k true
  | .error e => .cancelling (failure true e)

/-- A borrow that has discarded all idle connections makes a new one. -/
private theorem making {failed : List (Idle κ)} {o : Outcome κ} {w₁ : ω} (hopen : s.isClosed = false)
    (hfree : s.occupied < p.settings.maxActive) (hfailed : Discards p failed w w₁)
    (hidle : arranged p.settings.lifo s.idle = failed) (hmake : p.manager.make w₁ = (o, w'))
    (h : Ends p n us (borrow d (tried o),
      { s with pending := s.pending + 1, idle := arranged p.settings.lifo [] }, w') y) :
    Ends p (n + 2 + 6 * failed.length) (List.replicate failed.length .one ++ us)
      (borrow d .reserving, s, w) y := by
  have hstep : (borrow d .making).step p
      { s with pending := s.pending + 1, idle := arranged p.settings.lifo [] } w₁ =
        ⟨borrow d (tried o),
          { s with pending := s.pending + 1, idle := arranged p.settings.lifo [] }, w', .nobody⟩ := by
    cases o <;> simp only [Activity.step, Borrow.step, hmake] <;> rfl
  have hmade := (h.cons hstep (by cases o <;> rfl)).cons
    (reserve_step (s := { s with idle := arranged p.settings.lifo [] }) hopen hfree
      (arranged_arranged _ _)) rfl
  exact discarding hopen hfree hfailed (by rw [hidle, List.append_nil]) hmade

private theorem failing {e : DirectoryError} (is : List (Idle κ)) :
    Ends p 2 [.one]
      (borrow d (.cancelling (some e)), { s with pending := s.pending + 1, idle := is }, w)
      (borrow d (.finished (.error e)), { s with idle := is }, w) :=
  (last (a := borrow d (.signalling (some e))) (u := .one) rfl rfl).cons (u := .nobody) rfl rfl

private theorem lending {k : κ} (is : List (Idle κ)) :
    Ends p 1 []
      (borrow d (.checkingOut k), { s with pending := s.pending + 1, idle := is }, w)
      (borrow d (.finished (.ok k)),
        { s with idle := is, active := s.active.insert (p.manager.id k) }, w) :=
  last (u := .nobody) rfl rfl

/-- A borrow that nobody disturbs, from its start to its end. -/
theorem choosing {failed rest : List (Idle κ)} {made : Option κ} {o : Outcome κ}
    (hopen : s.isClosed = false) (hfree : s.occupied < p.settings.maxActive)
    (h : Chooses p (arranged p.settings.lifo s.idle) w failed rest made o w') :
    Ends p (6 * failed.length + 8)
      (List.replicate failed.length .one ++ if o.isOk then [] else [.one])
      (borrow d .reserving, s, w)
      (borrow d (.finished o), s.afterBorrow p.manager (arranged p.settings.lifo rest) o, w') := by
  generalize hidle : arranged p.settings.lifo s.idle = is at h
  cases h with
  | @idle failed rest i w w₁ w₂ k hfailed hk =>
    have hchosen := (preparing (d := d) false hk (lending _)).cons
      (reserve_step (s := { s with idle := arranged p.settings.lifo (i :: rest) }) hopen hfree
        (arranged_arranged _ _)) rfl
    exact (discarding hopen hfree hfailed hidle hchosen).mono (by omega)
  | notMade hfailed hmake =>
    exact (making hopen hfree hfailed hidle hmake (failing _)).mono (by omega)
  | @notReady failed w w₁ w₂ w₃ k k' e hfailed hmake hk =>
    have hdestroy := (failing (p := p) (d := d) (s := s) (arranged p.settings.lifo [])).cons
      (a := borrow d (.discarding k' (some (.borrowFailed e)))) (u := .nobody) (w := w₃) rfl rfl
    have hready := preparing true hk hdestroy
    exact (making hopen hfree hfailed hidle hmake hready).mono (by omega)
  | @made failed w w₁ w₂ _ k k' hfailed hmake hk =>
    have hlend := lending (p := p) (d := d) (s := s) (w := w') (k := k')
      (arranged p.settings.lifo [])
    have hready := preparing true hk hlend
    exact (making hopen hfree hfailed hidle hmake hready).mono (by omega)

end Activity.Ends

section Hooks

variable {p : Pool ω κ} {r r' : Recorded ω}

/-- Making a connection ready neither makes nor destroys one, and leaves its id as it is. -/
private theorem prepare_recorded (hid : p.manager.KeepsIds) {k k' : κ} {o : Outcome Unit}
    (h : prepare p.recording k r = (o, k', r')) : p.manager.id k' = p.manager.id k ∧
      r'.idsOf .make = r.idsOf .make ∧ r'.idsOf .destroy = r.idsOf .destroy := by
  obtain ⟨o₁, k₁, w₁, ha, hk₁⟩ := hid.activate_recorded k r
  obtain ⟨isValid, k₂, w₂, hv, hk₂⟩ :=
    hid.validate_recorded k₁ (r.note .activate (p.manager.id k) w₁)
  rw [prepare, manager_recording, ha, settings_recording] at h
  cases o₁ with
  | error e =>
    obtain ⟨-, rfl, rfl⟩ : .error e = o ∧ k₁ = k' ∧ r.note .activate (p.manager.id k) w₁ = r' := by
      simpa using h
    exact ⟨hk₁, by simp, by simp⟩
  | ok =>
    simp only [hv] at h
    split at h
    · obtain ⟨-, rfl, rfl⟩ := h
      exact ⟨hk₂.trans hk₁, by simp, by simp⟩
    · obtain ⟨-, rfl, rfl⟩ := h
      exact ⟨hk₁, by simp, by simp⟩

private theorem made_recorded {o : Outcome κ} (h : p.recording.manager.make r = (o, r')) :
    r'.idsOf .make = r.idsOf .make + (o.toOption.elim 0 fun k => {p.manager.id k}) ∧
      r'.idsOf .destroy = r.idsOf .destroy := by
  rcases p.manager.make_recorded r with ⟨k, w, hm⟩ | ⟨e, w, hm⟩ <;>
    rw [manager_recording, hm] at h <;> cases h
  · exact ⟨by simp [Except.toOption], by simp⟩
  · exact ⟨by simp [Except.toOption, Recorded.idsOf], by simp [Recorded.idsOf]⟩

/-- The idle connections that a borrow discards are destroyed, each once, and nothing else is. -/
private theorem Discards.recorded (hid : p.manager.KeepsIds) {is : List (Idle κ)}
    (h : Discards p.recording is r r') : r'.idsOf .make = r.idsOf .make ∧
      r'.idsOf .destroy = r.idsOf .destroy + (connectionsOf is).map p.manager.id := by
  induction h with
  | nil => simp
  | @cons i is r r₁ r₂ k e hk _ ih =>
    obtain ⟨hi, hmake, hdestroy⟩ := prepare_recorded hid hk
    rw [ih.1, ih.2]
    simp [hmake, hdestroy, hi, add_assoc]

/-- What a borrow makes and destroys. A new connection is destroyed only if it is not lent. -/
theorem Chooses.recorded (hid : p.manager.KeepsIds) {is failed rest : List (Idle κ)}
    {made : Option κ} {o : Outcome κ} (h : Chooses p.recording is r failed rest made o r') :
    r'.idsOf .make = r.idsOf .make + (made.elim 0 fun k => {p.manager.id k}) ∧
      r'.idsOf .destroy = r.idsOf .destroy + (connectionsOf failed).map p.manager.id +
        if o.isOk then 0 else made.elim 0 fun k => {p.manager.id k} := by
  cases h with
  | idle hfailed hk =>
    obtain ⟨hmade, hdestroyed⟩ := hfailed.recorded hid
    obtain ⟨-, hmade', hdestroyed'⟩ := prepare_recorded hid hk
    rw [hmade', hmade, hdestroyed', hdestroyed]
    exact ⟨(add_zero _).symm, (add_zero _).symm⟩
  | notMade hfailed hmake =>
    obtain ⟨hmade, hdestroyed⟩ := hfailed.recorded hid
    obtain ⟨hmade', hdestroyed'⟩ := made_recorded hmake
    rw [hmade', hmade, hdestroyed', hdestroyed]
    exact ⟨rfl, (add_zero _).symm⟩
  | notReady hfailed hmake hk =>
    obtain ⟨hmade, hdestroyed⟩ := hfailed.recorded hid
    obtain ⟨hmade', hdestroyed'⟩ := made_recorded hmake
    obtain ⟨hi, hmade'', hdestroyed''⟩ := prepare_recorded hid hk
    rw [manager_recording, Manager.recording_destroy, Recorded.idsOf_note, Recorded.idsOf_note, hmade'',
      hmade', hmade, hdestroyed'', hdestroyed', hdestroyed, hi]
    exact ⟨add_zero _, rfl⟩
  | made hfailed hmake hk =>
    obtain ⟨hmade, hdestroyed⟩ := hfailed.recorded hid
    obtain ⟨hmade', hdestroyed'⟩ := made_recorded hmake
    obtain ⟨-, hmade'', hdestroyed''⟩ := prepare_recorded hid hk
    rw [hmade'', hmade', hmade, hdestroyed'', hdestroyed', hdestroyed]
    exact ⟨rfl, (add_zero _).symm⟩

theorem Chooses.failed_length_le {is failed rest : List (Idle κ)} {w w' : ω} {made : Option κ}
    {o : Outcome κ} (h : Chooses p is w failed rest made o w') : failed.length ≤ is.length := by
  cases h <;> simp

/-- What a borrow lends was idle, or has been made for it. -/
theorem Chooses.lent_cases (hid : p.manager.KeepsIds) {is failed rest : List (Idle κ)}
    {made : Option κ} {k : κ} (h : Chooses p.recording is r failed rest made (.ok k) r') :
    (∃ i ∈ is, p.manager.id k = p.manager.id i.connection) ∨
      ∃ k', made = some k' ∧ p.manager.id k = p.manager.id k' := by
  cases h with
  | @idle failed rest i _ _ _ _ hfailed hk =>
    exact .inl ⟨i, by simp, (prepare_recorded hid hk).1⟩
  | made hfailed hmake hk => exact .inr ⟨_, rfl, (prepare_recorded hid hk).1⟩

end Hooks

end DirectoryClient.Pool
