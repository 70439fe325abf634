import DirectoryClient.Proofs.Pool.Borrowing
import Mathlib.Logic.Relation

/-! The return of a loan: what the sections of a release do to the accounts, whoever takes turns in
between. One of them ends the loan, and the others leave all loans as they are. -/
namespace DirectoryClient.Pool

variable {ω κ : Type}

namespace Entry

def EndsLoan (id : Nat) (x : Entry κ) : Prop := id ∈ x.1.active ∧ x.2.active = x.1.active.erase id

def TakesIn (m : Manager ω κ) (id : Nat) (x : Entry κ) : Prop :=
  ∃ k now, m.id k = id ∧ x.2.idle = x.1.idle ++ [{ connection := k, since := now }]

end Entry

/-- One of the sections ends the loan of this connection, and the others leave all loans as they are. -/
def EndsOnce (id : Nat) (log : List (Entry κ)) : Prop :=
  ∃ before x after, log = before ++ x :: after ∧ x.EndsLoan id ∧ ∀ y ∈ before ++ after, y.LeavesLoans

abbrev Later (p : Pool ω κ) : Community ω κ → Community ω κ → Prop :=
  Relation.ReflTransGen fun c c' => (∃ a, Acts p a c c') ∨ Turn p c c'

def GiveBack.task (g : GiveBack κ) : Task κ := ⟨.giveBack g, none⟩

/-- A release has begun in one community, has made steps, which are logged, and is there in another one
while others have taken turns. -/
inductive Release (p : Pool ω κ) (k : κ) (c₀ : Community ω κ) :
    Community ω κ → GiveBack κ → List (Entry κ) → Prop
  | begins : Release p k c₀ (c₀.enter (GiveBack.presenting k).task) (.presenting k) []
  | own {c : Community ω κ} {g : GiveBack κ} {ts ts' : Multiset (Task κ)} {log : List (Entry κ)} :
    Release p k c₀ c g log → g.task.activity.isFinished = false → c.tasks = g.task ::ₘ ts →
    Woken (g.step p.recording c.accounts c.world).wakeup ts ts' →
    Release p k c₀ (c.after p g.task ts') (g.step p.recording c.accounts c.world).activity
      (log ++ [(c.accounts, (g.step p.recording c.accounts c.world).state)])
  | others {c c' : Community ω κ} {g : GiveBack κ} {log : List (Entry κ)} : Release p k c₀ c g log →
    (∃ a, Acts p a c c') ∨ Turn p c c' → g.task ∈ c'.tasks → Release p k c₀ c' g log

inductive GiveBack.Stage (m : Manager ω κ) (id : Nat) (destroyed : Multiset Nat) (log : List (Entry κ)) :
    GiveBack κ → Prop
  /-- The loan goes on. -/
  | lent {g : GiveBack κ} {k : κ} : g.lent = {k} → m.id k = id → (∀ x ∈ log, x.LeavesLoans) →
    Stage m id destroyed log g
  | idle {g : GiveBack κ} : g = .signalling none ∨ g = .finished (.ok ()) → EndsOnce id log →
    (∃ x ∈ log, x.TakesIn m id) → Stage m id destroyed log g
  | discarded {g : GiveBack κ} {k : κ} : g = .signalling (some k) ∨ g = .discarding k → m.id k = id →
    EndsOnce id log → Stage m id destroyed log g
  | destroyed : id ∈ destroyed → EndsOnce id log → Stage m id destroyed log (.finished (.ok ()))

private def GiveBack.stepsLeft : GiveBack κ → Nat
  | presenting _ => 6
  | passivating .. => 5
  | validating .. => 4
  | settling .. => 3
  | signalling _ => 2
  | discarding _ | rejecting .. => 1
  | finished _ => 0

section Steps

variable {p : Pool ω κ} {m : Manager ω κ} {id : Nat} {log : List (Entry κ)} {g : GiveBack κ}
  {s : State κ} {r : Recorded ω}

private theorem EndsOnce.quiet (h : EndsOnce id log) {x : Entry κ} (hx : x.LeavesLoans) :
    EndsOnce id (log ++ [x]) := by
  obtain ⟨before, y, after, rfl, hy, hrest⟩ := h
  refine ⟨before, y, after ++ [x], by simp, hy, ?_⟩
  intro z hz
  rw [← List.append_assoc] at hz
  rcases List.mem_append.mp hz with hz | hz
  · exact hrest z hz
  · rw [List.mem_singleton.mp hz]
    exact hx

private theorem EndsOnce.ends (h : ∀ x ∈ log, x.LeavesLoans) {x : Entry κ} (hx : x.EndsLoan id) :
    EndsOnce id (log ++ [x]) := by
  refine ⟨log, x, [], rfl, hx, ?_⟩
  rw [List.append_nil]
  exact h

private theorem leavesLoans_append (h : ∀ x ∈ log, x.LeavesLoans) {x : Entry κ} (hx : x.LeavesLoans) :
    ∀ y ∈ log ++ [x], y.LeavesLoans := by
  intro y hy
  rcases List.mem_append.mp hy with hy | hy
  · exact h y hy
  · rw [List.mem_singleton.mp hy]
    exact hx

namespace GiveBack

variable {destroyed destroyed' : Multiset Nat}

private theorem Stage.mono (h : g.Stage m id destroyed log) (hle : destroyed ≤ destroyed') :
    g.Stage m id destroyed' log := by
  cases h with
  | lent hl hk hlog => exact .lent hl hk hlog
  | idle hg hends hin => exact .idle hg hends hin
  | discarded hg hk hends => exact .discarded hg hk hends
  | destroyed hmem hends => exact .destroyed (Multiset.mem_of_le hle hmem) hends

private theorem stepsLeft_step (hgoes : g.task.activity.isFinished = false) :
    (g.step p.recording s r).activity.stepsLeft < g.stepsLeft := by
  cases g with
  | presenting k =>
    simp only [step]
    split <;> simp [stepsLeft]
  | rejecting i k => exact Nat.lt_succ_self 0
  | passivating i k =>
    simp only [step]
    split
    · split <;> simp [stepsLeft]
    · simp [stepsLeft]
  | validating i k => exact Nat.lt_succ_self 3
  | settling i k keep => exact Nat.lt_succ_self 2
  | signalling discarded => cases discarded <;> simp [step, stepsLeft]
  | discarding k => exact Nat.lt_succ_self 0
  | finished o => cases hgoes

/-- A release whose connection is out leads from one stage to the next. -/
private theorem Stage.step (hid : p.manager.KeepsIds) (h : g.Stage p.manager id (r.idsOf .destroy) log)
    (hco : g.Coherent p.manager) (hactive : ∀ k ∈ g.lent, p.manager.id k ∈ s.active) :
    (g.step p.recording s r).activity.Stage p.manager id
      ((g.step p.recording s r).world.idsOf .destroy)
      (log ++ [(s, (g.step p.recording s r).state)]) := by
  cases h with
  | lent hl hk hlog =>
    rename_i k
    have hquiet : ∀ x ∈ log ++ [(s, s)], x.LeavesLoans := leavesLoans_append hlog rfl
    have hout : id ∈ s.active := by
      rw [← hk]
      exact hactive k (by simp [hl])
    cases g with
    | presenting k' =>
      obtain rfl := Multiset.singleton_inj.mp hl
      have hisOut : s.isOut (p.manager.id k') = true := by
        rw [hk]
        simpa [State.isOut] using hout
      simp only [GiveBack.step, manager_recording, Manager.recording_id, hisOut, ↓reduceIte]
      exact .lent rfl hk hquiet
    | passivating i k' =>
      obtain rfl := Multiset.singleton_inj.mp hl
      obtain ⟨o, k₁, w, hhook, hk₁⟩ := hid.passivate_recorded k' r
      simp only [GiveBack.step, manager_recording, settings_recording, hhook]
      cases o with
      | error e => exact .lent rfl (hk₁.trans hk) hquiet
      | ok u =>
        by_cases ht : p.settings.testOnReturn = true
        · simp only [ht, ↓reduceIte]
          exact .lent rfl (hk₁.trans hk) hquiet
        · simp only [ht, Bool.false_eq_true, ↓reduceIte]
          exact .lent rfl (hk₁.trans hk) hquiet
    | validating i k' =>
      obtain rfl := Multiset.singleton_inj.mp hl
      obtain ⟨keep, k₁, w, hhook, hk₁⟩ := hid.validate_recorded k' r
      simp only [GiveBack.step, manager_recording, hhook]
      exact .lent rfl (hk₁.trans hk) hquiet
    | settling i k' keep =>
      obtain rfl := Multiset.singleton_inj.mp hl
      obtain rfl : i = id := (show i = p.manager.id k' from hco).trans hk
      simp only [GiveBack.step, settings_recording]
      rcases s.settleReturn_cases p.settings (p.recording.manager.clock r) i k' keep with
        hs | ⟨-, -, hs⟩
      · rw [hs]
        exact .discarded (.inl rfl) hk (.ends hlog ⟨hout, rfl⟩)
      · rw [hs]
        refine .idle (.inl rfl) (.ends hlog ⟨hout, rfl⟩) ⟨_, List.mem_concat_self, k', _, hk, rfl⟩
    | rejecting | signalling | discarding | finished => cases Multiset.zero_ne_singleton _ hl
  | idle hg hends hin =>
    have hin' : ∃ x ∈ log ++ [(s, s)], x.TakesIn p.manager id :=
      hin.imp fun x hx => ⟨List.mem_append_left _ hx.1, hx.2⟩
    rcases hg with rfl | rfl <;> exact .idle (.inr rfl) (hends.quiet rfl) hin'
  | discarded hg hk hends =>
    rcases hg with rfl | rfl
    · exact .discarded (.inr rfl) hk (hends.quiet rfl)
    · refine .destroyed ?_ (hends.quiet rfl)
      simp [GiveBack.step, hk]
  | destroyed hmem hends => exact .destroyed hmem (hends.quiet rfl)

private theorem isFinished_task : g.task.activity.isFinished = true ↔ ∃ o, g = .finished o := by
  cases g <;> simp [task, Activity.isFinished]

private theorem made_step (hid : p.manager.KeepsIds) :
    (g.step p.recording s r).world.idsOf .make = r.idsOf .make := by
  cases g with
  | passivating i k =>
    obtain ⟨o, k', w, hhook, -⟩ := hid.passivate_recorded k r
    simp only [step, manager_recording, hhook]
    cases o <;> simp
  | validating i k =>
    obtain ⟨keep, k', w, hhook, -⟩ := hid.validate_recorded k r
    simp [step, hhook]
  | rejecting | discarding => simp [step]
  | presenting | settling | signalling | finished => rfl

end GiveBack

end Steps

section Runs

variable {p : Pool ω κ} {k : κ} {w : ω} {as : List (Activity κ)} {c₀ c c' : Community ω κ}
  {g : GiveBack κ} {log : List (Entry κ)}

namespace Release

private theorem mem (h : Release p k c₀ c g log) : g.task ∈ c.tasks := by
  cases h with
  | begins => exact Multiset.mem_cons_self _ _
  | own => exact Multiset.mem_cons_self _ _
  | others _ _ hmem => exact hmem

private theorem run (h : Release p k c₀ c g log)
    (hrun : Run p w as (c₀.enter (GiveBack.presenting k).task)) : ∃ as, Run p w as c := by
  induction h with
  | begins => exact ⟨as, hrun⟩
  | own _ _ ht hw ih =>
    obtain ⟨as', h⟩ := ih
    exact ⟨_, h.acts (Community.after_acts ht hw)⟩
  | others _ hs _ ih =>
    obtain ⟨as', h⟩ := ih
    rcases hs with ⟨a, hs⟩ | hs
    · exact ⟨_, h.acts hs⟩
    · exact ⟨_, h.turn hs⟩

private theorem length_le (h : Release p k c₀ c g log) : log.length + g.stepsLeft ≤ 6 := by
  induction h with
  | begins => exact Nat.le_refl 6
  | @own c g ts ts' log h hgoes ht hw ih =>
    have hless := GiveBack.stepsLeft_step (p := p) (s := c.accounts) (r := c.world) hgoes
    rw [List.length_append, List.length_singleton]
    omega
  | others _ _ _ ih => exact ih

/-- A release goes from stage to stage, and stays at its stage while others take turns. -/
private theorem stage (hid : p.manager.KeepsIds) (h : Release p k c₀ c g log)
    (hrun : Run p w as (c₀.enter (GiveBack.presenting k).task))
    (hn : (c.world.idsOf .make).Nodup) :
    g.Stage p.manager (p.manager.id k) (c.world.idsOf .destroy) log := by
  induction h with
  | begins => exact .lent rfl rfl (by simp)
  | @own c g ts ts' log h hgoes ht hw ih =>
    have hn' := Multiset.nodup_of_le (makes_le hid (.inl ⟨_, Community.after_acts ht hw⟩)) hn
    obtain ⟨as', hrun'⟩ := h.run hrun
    have hsound := run_sound hid hrun' hn'
    exact (ih hn').step hid (hsound.coherent g.task h.mem)
      fun k' hk' => hsound.lent_active h.mem hk'
  | others _ hs _ ih =>
    exact (ih (Multiset.nodup_of_le (makes_le hid hs) hn)).mono (idsOf_le hid hs .destroy)

/-- Whoever else takes turns, a release can make its own steps to its end. -/
private theorem exists_finished (hid : p.manager.KeepsIds) (h : Release p k c₀ c g log) :
    ∃ c' o log', Release p k c₀ c' (.finished o) log' ∧
      c'.world.idsOf .make = c.world.idsOf .make := by
  induction hleft : g.stepsLeft using Nat.strongRecOn generalizing c g log with
  | ind n ih =>
    by_cases hgoes : g.task.activity.isFinished = true
    · obtain ⟨o, rfl⟩ := GiveBack.isFinished_task.mp hgoes
      exact ⟨c, o, log, h, rfl⟩
    · have hgoes := Bool.eq_false_iff.mpr hgoes
      obtain ⟨ts, ht⟩ := Multiset.exists_cons_of_mem h.mem
      obtain ⟨ts', hw⟩ := Woken.exists_woken (g.step p.recording c.accounts c.world).wakeup ts
      have hless := GiveBack.stepsLeft_step (p := p) (s := c.accounts) (r := c.world) hgoes
      obtain ⟨c', o, log', hend, hmade⟩ := ih _ (hleft ▸ hless) (h.own hgoes ht hw) rfl
      exact ⟨c', o, log', hend, hmade.trans (GiveBack.made_step hid)⟩

end Release

private theorem Woken.mem_task {wakeup : Wakeup} {ts ts' : Multiset (Task κ)} (h : Woken wakeup ts ts')
    (hg : g.task ∈ ts) : g.task ∈ ts' := by
  cases h with
  | nobody => exact hg
  | one t ts hwaiting =>
    rcases Multiset.mem_cons.mp hg with rfl | hg
    · cases hwaiting
    · exact Multiset.mem_cons_of_mem hg
  | none => exact hg
  | everyone => exact Multiset.mem_map.mpr ⟨g.task, hg, rfl⟩

/-- Nothing that happens between two steps takes a release away that has not come to its end. -/
private theorem Turn.mem_task (h : Turn p c c') (hg : g.task ∈ c.tasks)
    (hgoes : g.task.activity.isFinished = false) : g.task ∈ c'.tasks := by
  cases h with
  | borrow | evict | close | release | detach | releaseRaw | wrapRaw | releaseStranger
  | wrapStranger => exact Multiset.mem_cons_of_mem hg
  | unwrap | make | use => exact hg
  | finish t ts ht hfinished =>
    rw [ht] at hg
    rcases Multiset.mem_cons.mp hg with rfl | hg
    · rw [hgoes] at hfinished
      cases hfinished
    · exact hg
  | stir t ts ht =>
    rw [ht] at hg
    rcases Multiset.mem_cons.mp hg with rfl | hg
    · exact Multiset.mem_cons_self _ _
    · exact Multiset.mem_cons_of_mem hg
  | letGo ht =>
    rw [ht] at hg
    exact absurd hg (Multiset.notMem_zero _)

/-- Whatever happens after a release has begun, it is under way, or has come to its end. -/
private theorem Release.of_later (h : Later p (c₀.enter (GiveBack.presenting k).task) c) :
    (∃ g log, Release p k c₀ c g log) ∨
      ∃ c₁ o log, Release p k c₀ c₁ (.finished o) log ∧ Later p c₁ c := by
  induction h with
  | refl => exact .inl ⟨_, _, .begins⟩
  | @tail c c' _ hs ih =>
    rcases ih with ⟨g, log, hrel⟩ | ⟨c₁, o, log, hend, hlater⟩
    · by_cases hgoes : g.task.activity.isFinished = true
      · obtain ⟨o, rfl⟩ := GiveBack.isFinished_task.mp hgoes
        exact .inr ⟨c, o, log, hrel, .single hs⟩
      · have hgoes := Bool.eq_false_iff.mpr hgoes
        rcases hs with ⟨a, hs⟩ | hs
        · have hacts := hs
          obtain ⟨_, t, ts, ts', ht, hw⟩ := hs
          have hmem := hrel.mem
          rw [ht] at hmem
          rcases Multiset.mem_cons.mp hmem with rfl | hmem
          · exact .inl ⟨_, _, hrel.own hgoes ht hw⟩
          · exact .inl ⟨g, log, hrel.others (.inl ⟨_, hacts⟩)
              (Multiset.mem_cons_of_mem (hw.mem_task hmem))⟩
        · exact .inl ⟨g, log, hrel.others (.inr hs) (hs.mem_task hrel.mem hgoes)⟩
    · exact .inr ⟨c₁, o, log, hend, hlater.tail hs⟩

structure GoesBack (p : Pool ω κ) (k : κ) (c₀ : Community ω κ) : Prop where
  /-- Whatever happens, the release is under way, or has come to its end. -/
  goesOn : ∀ c, Later p (c₀.enter (GiveBack.presenting k).task) c →
    (∃ g log, Release p k c₀ c g log) ∨
      ∃ c₁ o log, Release p k c₀ c₁ (.finished o) log ∧ Later p c₁ c
  /-- It comes to its end by a few steps of its own. -/
  ends : ∀ c g log, Release p k c₀ c g log → log.length ≤ 6 ∧
    ∃ c' o log', Release p k c₀ c' (.finished o) log' ∧
      c'.world.idsOf .make = c.world.idsOf .make
  /-- Then it has succeeded: one section has ended the loan, and no other has touched any; the connection
  has become an idle one, or has been destroyed. -/
  returned : ∀ c o log, Release p k c₀ c (.finished o) log → (c.world.idsOf .make).Nodup →
    o = .ok () ∧ EndsOnce (p.manager.id k) log ∧
      ((∃ x ∈ log, x.TakesIn p.manager (p.manager.id k)) ∨
        p.manager.id k ∈ c.world.idsOf .destroy)

/-- A connection that is released goes back, whoever takes turns. -/
theorem goesBack_of_release (hid : p.manager.KeepsIds)
    (hrun : Run p w as (c₀.enter (GiveBack.presenting k).task)) : GoesBack p k c₀ := by
  refine ⟨fun c => Release.of_later, ?_, ?_⟩
  · intro c g log h
    exact ⟨Nat.le_trans (Nat.le_add_right _ _) h.length_le, h.exists_finished hid⟩
  · intro c o log h hn
    have hstage := h.stage hid hrun hn
    cases hstage with
    | lent hl => cases Multiset.zero_ne_singleton _ hl
    | idle hg hends hin =>
      obtain hg | hg := hg
      · cases hg
      · cases hg
        exact ⟨rfl, hends, .inl hin⟩
    | discarded hg => obtain hg | hg := hg <;> cases hg
    | destroyed hmem hends => exact ⟨rfl, hends, .inr hmem⟩

end Runs

end DirectoryClient.Pool
