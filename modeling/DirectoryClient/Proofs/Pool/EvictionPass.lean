import DirectoryClient.Proofs.Pool.Alone
import DirectoryClient.Proofs.Pool.Ledger

/-! An eviction pass that nobody disturbs: which idle connections it destroys, which it puts back and in
what order, and how many it makes. -/
namespace DirectoryClient.Pool

variable {ω κ : Type}

namespace Manager

/-- Tests idle connections one after the other. A test may change a connection, but not since when it
has been idle. -/
def testAll (m : Manager ω κ) : List (Idle κ) → ω → List (Bool × Idle κ) × ω
  | [], w => ([], w)
  | i :: is, w =>
    let (isValid, connection, w) := m.validate i.connection w
    let (tested, w) := testAll m is w
    ((isValid, { i with connection }) :: tested, w)

/-- Makes connections to be idle: so many, or until one does not come about. -/
def makeUpTo (m : Manager ω κ) : Nat → ω → List (Idle κ) × ω
  | 0, w => ([], w)
  | n + 1, w =>
    match m.make w with
    | (.ok connection, w) =>
      let (made, w') := makeUpTo m n w
      ({ connection, since := m.clock w } :: made, w')
    | (.error _, w) => ([], w)

end Manager

/-- The verdicts of a pass on idle connections that have not expired. Without tests, all of them stay. -/
def verdicts (p : Pool ω κ) (is : List (Idle κ)) (w : ω) : List (Bool × Idle κ) × ω :=
  if p.settings.testWhileIdle then p.manager.testAll is w else (is.map (true, ·), w)

structure Pass (κ : Type) where
  expired : List (Idle κ)
  kept : List (Idle κ)
  /-- Those that have not expired, after their tests. -/
  tested : List (Bool × Idle κ)
  made : List (Idle κ)

namespace Pass

def invalid (x : Pass κ) : List (Idle κ) := (x.tested.filter fun t => !t.1).map Prod.snd

def survivors (x : Pass κ) : List (Idle κ) := (x.tested.filter Prod.fst).map Prod.snd

def destroyed (x : Pass κ) : List (Idle κ) := x.expired ++ x.invalid

def missing (settings : Settings.Pool) (x : Pass κ) : Nat :=
  min settings.minIdle settings.maxIdle - x.survivors.length

/-- What the hooks come to in a pass over these accounts, from one world to another: the expired
connections are destroyed, the others tested, the invalid ones destroyed, and the missing ones made. -/
structure Follows (p : Pool ω κ) (s : State κ) (w w' : ω) (x : Pass κ) : Prop where
  expired : x.expired = s.idle.filter fun i =>
    p.settings.minEvictableIdleTime.any (· ≤ p.manager.clock w - i.since)
  kept : x.kept = s.idle.filter fun i =>
    !p.settings.minEvictableIdleTime.any (· ≤ p.manager.clock w - i.since)
  hooks : ∃ w₁,
    verdicts p x.kept (p.manager.destroyAll (x.expired.map Idle.connection) w) = (x.tested, w₁) ∧
      p.manager.makeUpTo (x.missing p.settings)
        (p.manager.destroyAll (x.invalid.map Idle.connection) w₁) = (x.made, w')

end Pass

namespace Activity.Ends

variable {p : Pool ω κ} {n : Nat} {us : List Wakeup} {y : Activity κ × State κ × ω}

/-- A pass that destroys connections one after the other destroys all of them. -/
private theorem destroying_all {f : List (Idle κ) → Eviction κ} {is : List (Idle κ)}
    {s : State κ} {w : ω} (hstep : ∀ i is w, (f (i :: is)).step p s w =
      ⟨f is, s, p.manager.destroy i.connection w, .nobody⟩)
    (hgoes : ∀ is, (evict (f is)).stops = false)
    (h : Ends p n us (evict (f []), s, p.manager.destroyAll (is.map Idle.connection) w) y) :
    Ends p (n + is.length) us (evict (f is), s, w) y := by
  induction is generalizing w with
  | nil => exact h
  | cons i is ih =>
    have hfirst : (evict (f (i :: is))).step p s w =
        ⟨evict (f is), s, p.manager.destroy i.connection w, .nobody⟩ := by
      rw [Activity.step, hstep]
      rfl
    exact (ih h).cons hfirst (hgoes is)

/-- A pass tests all connections that it keeps before it destroys any. -/
private theorem testing_all {untested : List (Idle κ)} (valid invalid : List (Idle κ)) (d : Nat)
    {tested : List (Bool × Idle κ)} {s : State κ} {w w' : ω}
    (htested : p.manager.testAll untested w = (tested, w'))
    (h : Ends p n us
      (evict (.testing [] (valid ++ (tested.filter Prod.fst).map Prod.snd)
        (invalid ++ (tested.filter fun t => !t.1).map Prod.snd)
        (d + ((tested.filter fun t => !t.1).map Prod.snd).length)), s, w') y) :
    Ends p (n + untested.length) us (evict (.testing untested valid invalid d), s, w) y := by
  induction untested generalizing valid invalid tested d w with
  | nil =>
    obtain ⟨rfl, rfl⟩ : [] = tested ∧ w = w' := by simpa [Manager.testAll] using htested
    simpa using h
  | cons i untested ih =>
    rcases hv : p.manager.validate i.connection w with ⟨isValid, k, w₁⟩
    rcases hrest : p.manager.testAll untested w₁ with ⟨rest, w₂⟩
    obtain ⟨rfl, rfl⟩ : (isValid, { i with connection := k }) :: rest = tested ∧ w₂ = w' := by
      simpa [Manager.testAll, hv, hrest] using htested
    cases isValid with
    | true =>
      have hfirst : (evict (.testing (i :: untested) valid invalid d)).step p s w =
          ⟨evict (.testing untested (valid ++ [{ i with connection := k }]) invalid d), s, w₁,
            .nobody⟩ := by
        simp only [Activity.step, Eviction.step, hv]
        rfl
      exact (ih _ _ _ hrest (by simpa using h)).cons hfirst rfl
    | false =>
      have hfirst : (evict (.testing (i :: untested) valid invalid d)).step p s w =
          ⟨evict (.testing untested valid (invalid ++ [{ i with connection := k }]) (d + 1)), s, w₁,
            .nobody⟩ := by
        simp only [Activity.step, Eviction.step, hv]
        rfl
      exact (ih _ _ _ hrest (by simpa [Nat.add_assoc, Nat.add_comm 1] using h)).cons hfirst rfl

/-- A pass takes in what it makes, and wakes somebody each time, as long as there is room for all that
are missing. -/
private theorem making_missing (missing : Nat) {d : Nat} {s : State κ} {w : ω}
    (hopen : s.isClosed = false) (hroom : 0 < missing → s.idle.length + missing ≤ p.settings.maxIdle) :
    Ends p (3 * missing + 1) (List.replicate (p.manager.makeUpTo missing w).1.length .one)
      (evict (.making missing d), s, w)
      (evict (.finished d), { s with idle := s.idle ++ (p.manager.makeUpTo missing w).1 },
        (p.manager.makeUpTo missing w).2) := by
  induction missing generalizing s w with
  | zero =>
    simp only [Manager.makeUpTo, List.append_nil]
    exact last (u := .nobody) rfl rfl
  | succ missing ih =>
    rcases hm : p.manager.make w with ⟨e | k, w'⟩
    · simp only [Manager.makeUpTo, hm, List.append_nil]
      refine (last (u := .nobody) ?_ rfl).mono (Nat.le_add_left 1 _)
      simp only [Activity.step, Eviction.step, hm]
      rfl
    · have hadopt : s.adopt p.settings (p.manager.clock w') k =
          (true, { s with idle := s.idle ++ [⟨k, p.manager.clock w'⟩] }) := by
        rcases s.adopt_cases p.settings (p.manager.clock w') k with h | ⟨-, -, h⟩
        · have hfree : ¬p.settings.maxIdle ≤ s.idle.length := by omega
          simp [State.adopt, hopen, hfree] at h
        · exact h
      have hmake : (evict (.making (missing + 1) d)).step p s w =
          ⟨evict (.adopting k missing d), s, w', .nobody⟩ := by
        simp only [Activity.step, Eviction.step, hm]
        rfl
      have htake : (evict (.adopting k missing d)).step p s w' =
          ⟨evict (.signalling missing d),
            { s with idle := s.idle ++ [⟨k, p.manager.clock w'⟩] }, w', .nobody⟩ := by
        simp only [Activity.step, Eviction.step, hadopt]
        rfl
      have hrest := ih (s := { s with idle := s.idle ++ [⟨k, p.manager.clock w'⟩] }) (w := w') hopen
        (by simp only [List.length_append, List.length_singleton]; omega)
      have hsignal := hrest.cons (a := evict (.signalling missing d)) (u := .one) rfl rfl
      have hall := (hsignal.cons htake rfl).cons hmake rfl
      simp only [Manager.makeUpTo, hm, List.length_cons, List.replicate_succ]
      refine Ends.mono ?_ (show 3 * missing + 1 + 1 + 1 + 1 ≤ 3 * (missing + 1) + 1 by omega)
      simpa [Wakeup.heard] using hall

end Activity.Ends

section Hooks

variable {p : Pool ω κ} {m : Manager ω κ} {r r' : Recorded ω}

/-- Tests leave the idle connections in their order, and the ids and the times as they are. -/
private theorem testAll_recorded (hid : m.KeepsIds) {is : List (Idle κ)}
    {tested : List (Bool × Idle κ)} (h : m.recording.testAll is r = (tested, r')) :
    r'.calls = r.calls ++ is.map (fun i => ⟨.validate, m.id i.connection⟩) ∧
      tested.map (fun t => t.2.stamp m) = is.map (Idle.stamp m) := by
  induction is generalizing r tested with
  | nil =>
    obtain ⟨rfl, rfl⟩ : [] = tested ∧ r = r' := by simpa [Manager.testAll] using h
    exact ⟨(List.append_nil _).symm, rfl⟩
  | cons i is ih =>
    obtain ⟨isValid, k, w, hv, hk⟩ := hid.validate_recorded i.connection r
    rcases hrest : m.recording.testAll is (r.note .validate (m.id i.connection) w) with ⟨rest, r₁⟩
    obtain ⟨rfl, rfl⟩ : (isValid, { i with connection := k }) :: rest = tested ∧ r₁ = r' := by
      simpa [Manager.testAll, hv, hrest] using h
    obtain ⟨hcalls, hstamps⟩ := ih hrest
    refine ⟨by rw [hcalls]; simp, ?_⟩
    rw [List.map_cons, List.map_cons, hstamps]
    simp [Idle.stamp, hk]

private theorem verdicts_recorded (hid : p.manager.KeepsIds) {is : List (Idle κ)}
    {tested : List (Bool × Idle κ)} (h : verdicts p.recording is r = (tested, r')) :
    r'.calls = r.calls ++ (if p.settings.testWhileIdle then
        is.map fun i => ⟨.validate, p.manager.id i.connection⟩ else []) ∧
      tested.map (fun t => t.2.stamp p.manager) = is.map (Idle.stamp p.manager) := by
  cases htest : p.settings.testWhileIdle with
  | true => exact testAll_recorded hid (by simpa [verdicts, htest] using h)
  | false =>
    obtain ⟨rfl, rfl⟩ : is.map (true, ·) = tested ∧ r = r' := by simpa [verdicts, htest] using h
    exact ⟨(List.append_nil _).symm, by simp [Function.comp_def]⟩

/-- Connections are made until there are enough, or until one does not come about. -/
private theorem makeUpTo_recorded {n : Nat} {made : List (Idle κ)}
    (h : m.recording.makeUpTo n r = (made, r')) :
    r'.calls = r.calls ++ made.map (fun i => ⟨.make, m.id i.connection⟩) ∧
      (made.length = n ∨ made.length < n ∧ ∃ r₁ e, m.recording.make r₁ = (.error e, r')) := by
  induction n generalizing r made with
  | zero =>
    obtain ⟨rfl, rfl⟩ : [] = made ∧ r = r' := by simpa [Manager.makeUpTo] using h
    exact ⟨(List.append_nil _).symm, .inl rfl⟩
  | succ n ih =>
    rcases m.make_recorded r with ⟨k, w, hm⟩ | ⟨e, w, hm⟩
    · rcases hrest : m.recording.makeUpTo n (r.note .make (m.id k) w) with ⟨rest, r₁⟩
      obtain ⟨rfl, rfl⟩ : ⟨k, m.recording.clock (r.note .make (m.id k) w)⟩ :: rest = made ∧
          r₁ = r' := by
        simpa [Manager.makeUpTo, hm, hrest] using h
      obtain ⟨hcalls, hlength⟩ := ih hrest
      refine ⟨by rw [hcalls]; simp, ?_⟩
      exact hlength.imp (congrArg (· + 1)) (And.imp_left Nat.succ_lt_succ)
    · obtain ⟨rfl, rfl⟩ : [] = made ∧ { r with world := w } = r' := by
        simpa [Manager.makeUpTo, hm] using h
      exact ⟨(List.append_nil _).symm, .inr ⟨Nat.succ_pos n, r, e, hm⟩⟩

end Hooks

namespace Pass

variable {p : Pool ω κ} {s : State κ}

private theorem verdicts_length {is : List (Idle κ)} {tested : List (Bool × Idle κ)} {w w' : ω}
    (h : verdicts p is w = (tested, w')) : tested.length = is.length := by
  have hall : ∀ (is : List (Idle κ)) w, (p.manager.testAll is w).1.length = is.length := by
    intro is
    induction is with
    | nil => exact fun _ => rfl
    | cons i is ih => simp [Manager.testAll, ih]
  rw [verdicts] at h
  split at h
  · rw [← hall is w, h]
  · rw [← (Prod.mk.inj h).1, List.length_map]

private theorem exists_follows (p : Pool ω κ) (s : State κ) (w : ω) :
    ∃ (x : Pass κ) (w' : ω), x.Follows p s w w' := by
  let expires (i : Idle κ) : Bool :=
    p.settings.minEvictableIdleTime.any (· ≤ p.manager.clock w - i.since)
  let expired := s.idle.filter expires
  let kept := s.idle.filter fun i => !expires i
  rcases htested : verdicts p kept (p.manager.destroyAll (expired.map Idle.connection) w) with
    ⟨tested, w₁⟩
  let x : Pass κ := { expired, kept, tested, made := [] }
  rcases hmade : p.manager.makeUpTo (x.missing p.settings)
    (p.manager.destroyAll (x.invalid.map Idle.connection) w₁) with ⟨made, w'⟩
  exact ⟨{ x with made }, w', rfl, rfl, w₁, htested, hmade⟩

/-- The steps in which a pass comes to its verdicts and destroys what is invalid. -/
private theorem ends_of_verdicts {n : Nat} {us : List Wakeup} {y : Activity κ × State κ × ω}
    {x : Pass κ} {w w₁ : ω} {d : Nat} (htested : verdicts p x.kept w = (x.tested, w₁))
    (h : Activity.Ends p n us (.evict (.puttingBack x.survivors (d + x.invalid.length)), s,
      p.manager.destroyAll (x.invalid.map Idle.connection) w₁) y) :
    Activity.Ends p (n + x.kept.length + x.invalid.length + 3) us
      (.evict (.expiring [] x.kept d), s, w) y := by
  cases htest : p.settings.testWhileIdle with
  | false =>
    obtain ⟨hall, rfl⟩ : x.kept.map (true, ·) = x.tested ∧ w = w₁ := by
      simpa [verdicts, htest] using htested
    have hkeep : (Activity.evict (.expiring [] x.kept d)).step p s w =
        ⟨.evict (.puttingBack x.kept d), s, w, .nobody⟩ := by
      simp only [Activity.step, Eviction.step, htest]
      rfl
    have hvalid : x.survivors = x.kept := by
      simp [survivors, ← hall, List.filter_map, Function.comp_def]
    have hnone : x.invalid = [] := by
      simp [invalid, ← hall, List.filter_map, Function.comp_def]
    rw [hvalid, hnone] at h
    exact (h.cons hkeep rfl).mono (by omega)
  | true =>
    have hall : p.manager.testAll x.kept w = (x.tested, w₁) := by
      simpa [verdicts, htest] using htested
    have htesting : (Activity.evict (.expiring [] x.kept d)).step p s w =
        ⟨.evict (.testing x.kept [] [] d), s, w, .nobody⟩ := by
      simp only [Activity.step, Eviction.step, htest]
      rfl
    have hput := h.cons (a := .evict (.discarding [] x.survivors (d + x.invalid.length)))
      (u := .nobody) rfl rfl
    have hdiscard := Activity.Ends.destroying_all
      (f := fun is => .discarding is x.survivors (d + x.invalid.length)) (fun _ _ _ => rfl)
      (fun _ => rfl) hput
    have hjudged := hdiscard.cons
      (a := .evict (.testing [] x.survivors x.invalid (d + x.invalid.length))) (u := .nobody) rfl rfl
    have hwhole := Activity.Ends.testing_all [] [] d hall hjudged
    exact (hwhole.cons htesting rfl).mono (by omega)

private theorem Follows.ends {x : Pass κ} {w w' : ω} (hopen : s.isClosed = false)
    (h : x.Follows p s w w') :
    Activity.Ends p (2 * s.idle.length + 3 * x.missing p.settings + 8)
      (List.replicate x.made.length .one) (.evict .starting, s, w)
      (.evict (.finished x.destroyed.length), { s with idle := x.survivors ++ x.made }, w') := by
  obtain ⟨hexpired, hkept, w₁, htested, hmade⟩ := h
  have hlength : x.expired.length + x.kept.length = s.idle.length := by
    rw [hexpired, hkept, ← List.length_append]
    exact (List.filter_append_perm _ s.idle).length_eq
  have hinvalid : x.invalid.length ≤ x.kept.length := by
    rw [← verdicts_length htested, invalid, List.length_map]
    exact List.length_filter_le _ _
  have hstart : s.takeForEviction p.settings (p.manager.clock w) =
      (some (x.expired, x.kept), { s with idle := [] }) := by
    rw [State.takeForEviction, if_neg (by simp [hopen]), List.partition_eq_filter_filter, hexpired,
      hkept]
    rfl
  have hmaking := Activity.Ends.making_missing (p := p) (x.missing p.settings)
    (d := x.expired.length + x.invalid.length) (s := { s with idle := x.survivors })
    (w := p.manager.destroyAll (x.invalid.map Idle.connection) w₁) hopen
    (by simp only [missing]; omega)
  rw [hmade] at hmaking
  have hback : (Activity.evict (.puttingBack x.survivors (x.expired.length + x.invalid.length))).step
      p { s with idle := [] } (p.manager.destroyAll (x.invalid.map Idle.connection) w₁) =
      ⟨.evict (.making (x.missing p.settings) (x.expired.length + x.invalid.length)),
        { s with idle := x.survivors },
        p.manager.destroyAll (x.invalid.map Idle.connection) w₁, .nobody⟩ := by
    simp only [Activity.step, Eviction.step, State.putBack, List.append_nil]
    rfl
  have hjudged := ends_of_verdicts htested (hmaking.cons hback rfl)
  have hexpire := Activity.Ends.destroying_all (f := fun is => .expiring is x.kept x.expired.length)
    (fun _ _ _ => rfl) (fun _ => rfl) hjudged
  have hbegin : (Activity.evict .starting).step p s w =
      ⟨.evict (.expiring x.expired x.kept x.expired.length), { s with idle := [] }, w, .nobody⟩ := by
    simp only [Activity.step, Eviction.step, hstart]
    rfl
  rw [destroyed, List.length_append]
  exact (hexpire.cons hbegin rfl).mono (by omega)

structure Exact (p : Pool ω κ) (s : State κ) (r r' : Recorded ω) (x : Pass κ) : Prop where
  follows : x.Follows p.recording s r r'
  /-- All that was idle is destroyed, once, or survives. -/
  parts : ((x.destroyed ++ x.survivors).map (Idle.stamp p.manager)).Perm
    (s.idle.map (Idle.stamp p.manager))
  /-- The survivors keep their order, and have been idle since the same time. -/
  order : (x.survivors.map (Idle.stamp p.manager)).Sublist (s.idle.map (Idle.stamp p.manager))
  calls : r'.calls = r.calls ++ x.expired.map (fun i => ⟨.destroy, p.manager.id i.connection⟩) ++
    (if p.settings.testWhileIdle then
      x.kept.map fun i => ⟨.validate, p.manager.id i.connection⟩ else []) ++
    x.invalid.map (fun i => ⟨.destroy, p.manager.id i.connection⟩) ++
    x.made.map (fun i => ⟨.make, p.manager.id i.connection⟩)
  /-- All that are missing are made, unless one does not come about; nothing happens after that. -/
  filled : x.made.length = x.missing p.settings ∨ x.made.length < x.missing p.settings ∧
    ∃ r₁ e, p.recording.manager.make r₁ = (.error e, r')

private theorem Follows.exact {x : Pass κ} {r r' : Recorded ω}
    (h : x.Follows p.recording s r r') (hid : p.manager.KeepsIds) : x.Exact p s r r' := by
  obtain ⟨hexpired, hkept, r₁, htested, hmade⟩ := id h
  obtain ⟨hmakes, hfilled⟩ := makeUpTo_recorded hmade
  obtain ⟨htests, hstamps⟩ := verdicts_recorded hid htested
  have hverdicts : ((x.invalid ++ x.survivors).map (Idle.stamp p.manager)).Perm
      (x.kept.map (Idle.stamp p.manager)) := by
    rw [← hstamps, invalid, survivors, ← List.map_append, List.map_map]
    refine List.Perm.map _ (List.perm_append_comm.trans ?_)
    exact List.filter_append_perm Prod.fst x.tested
  have hparts : (x.expired ++ x.kept).Perm s.idle := by
    rw [hexpired, hkept]
    exact List.filter_append_perm _ s.idle
  refine ⟨h, ?_, ?_, ?_, hfilled⟩
  · rw [destroyed, List.append_assoc, List.map_append]
    refine (hverdicts.append_left _).trans ?_
    rw [← List.map_append]
    exact hparts.map _
  · have hkeeps : (x.survivors.map (Idle.stamp p.manager)).Sublist
        (x.kept.map (Idle.stamp p.manager)) := by
      rw [← hstamps, survivors, List.map_map]
      exact List.filter_sublist.map _
    refine hkeeps.trans (List.Sublist.map _ ?_)
    rw [hkept]
    exact List.filter_sublist
  · rw [hmakes, manager_recording, Manager.destroyAll_calls, htests, manager_recording,
      Manager.destroyAll_calls, List.map_map, List.map_map]
    rfl

end Pass

/-- An eviction pass that nobody disturbs destroys the idle connections that have expired or fail a test,
each once, puts the others back as they were, and makes new ones behind them until enough are idle or one
does not come about. The other accounts stay as they are, and so does all of a closed pool. -/
theorem evict_undisturbed (p : Pool ω κ) (hid : p.manager.KeepsIds) (s : State κ) (r : Recorded ω) :
    (s.isClosed = true →
      (Activity.evict .starting).run p.recording s r = (.evict (.finished 0), s, r, [])) ∧
    (s.isClosed = false → ∃ (x : Pass κ) (r' : Recorded ω), x.Exact p s r r' ∧
      (Activity.evict .starting).run p.recording s r =
        (.evict (.finished x.destroyed.length), { s with idle := x.survivors ++ x.made }, r',
          List.replicate x.made.length .one)) := by
  constructor
  · intro hclosed
    have hstep : (Activity.evict .starting).step p.recording s r =
        ⟨.evict (.finished 0), s, r, .nobody⟩ := by
      simp only [Activity.step, Eviction.step, State.takeForEviction, hclosed, ↓reduceIte]
      rfl
    exact (Activity.Ends.last hstep rfl).run (by simp only [Activity.bound]; omega)
  · intro hopen
    obtain ⟨x, r', hx⟩ := Pass.exists_follows p.recording s r
    refine ⟨x, r', hx.exact hid, (hx.ends hopen).run ?_⟩
    simp only [Activity.bound, Pass.missing]
    omega

/-- A pool of numbered connections that keeps three of them idle, each for a short time. -/
def sweeping : Pool Scenario.Numbered Nat where
  manager := Scenario.Numbered.manager
  settings := { minIdle := 3, testWhileIdle := true, minEvictableIdleTime := some 100 }

/-- Of three idle connections, one has expired and one fails its test; two are made for them. -/
theorem sweeping_undisturbed : sweeping.manager.KeepsIds ∧
    ∃ (x : Pass Nat) (r' : Recorded Scenario.Numbered),
      x.Exact sweeping { idle := [⟨1, 0⟩, ⟨2, 50⟩, ⟨3, 60⟩] }
        { world := { invalid := [2], last := 3, now := 100 } } r' ∧
      r'.idsOf .destroy = {1, 2} ∧
      (x.survivors ++ x.made).map (Idle.stamp sweeping.manager) = [(3, 60), (4, 100), (5, 100)] := by
  let s : State Nat := { idle := [⟨1, 0⟩, ⟨2, 50⟩, ⟨3, 60⟩] }
  let r : Recorded Scenario.Numbered := { world := { invalid := [2], last := 3, now := 100 } }
  obtain ⟨x, r', hx, hrun⟩ := (evict_undisturbed sweeping numbered_keepsIds s r).2 rfl
  have hdestroyed : ((Activity.evict .starting).run sweeping.recording s r).2.2.1.idsOf .destroy =
      {1, 2} := by
    decide +kernel
  have hidle : (((Activity.evict .starting).run sweeping.recording s r).2.1.idle).map
      (Idle.stamp sweeping.manager) = [(3, 60), (4, 100), (5, 100)] := by
    decide +kernel
  rw [hrun] at hdestroyed hidle
  exact ⟨numbered_keepsIds, x, r', hx, hdestroyed, hidle⟩

end DirectoryClient.Pool
