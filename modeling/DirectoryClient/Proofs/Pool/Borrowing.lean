import DirectoryClient.Proofs.Pool.Loans

/-! The life of a borrow: what its own sections have found and left, whoever takes turns in between.
It holds the places that it has taken and not ended. -/
namespace DirectoryClient.Pool

variable {ω κ : Type}

/-- A place is refused by a closed pool, or when all places are taken. -/
private theorem State.cause_of_refused {settings : Settings.Pool} {late : Bool} {s s' : State κ}
    {cause : DirectoryError} (h : s.reserve settings late = (.refused cause, s')) :
    cause = .poolClosed ∨ cause = .poolExhausted ∧ settings.maxActive ≤ s.occupied := by
  rw [reserve] at h
  split at h
  · cases h; exact .inl rfl
  · split at h
    · cases h
    · next hfull =>
      have hcause : cause = .poolExhausted := by
        split at h
        · cases h; rfl
        · cases late <;> cases h; rfl
      exact .inr ⟨hcause, Nat.not_lt.mp hfull⟩

namespace Borrow

def cause? : Borrow κ → Option DirectoryError
  | discarding _ cause | cancelling cause | signalling cause => cause
  | _ => none

/-- The sections of a borrow that touch the accounts: a place is taken while there is one, turned into
a loan, or given back. All others leave the accounts as they are. -/
inductive Touches (limit : Nat) (s s' : State κ) : Borrow κ → Borrow κ → Prop
  | takes (b : Borrow κ) : s.occupied < limit → s'.active = s.active →
    s'.pending = s.pending + 1 → b.holdsPlace = true → b.lent = 0 → b.cause? = none →
    Touches limit s s' .reserving b
  | lends (k : κ) (id : Nat) : s' = s.checkOut id →
    Touches limit s s' (.checkingOut k) (.finished (.ok k))
  | givesBack (cause : Option DirectoryError) : s' = s.cancelReservation →
    Touches limit s s' (.cancelling cause) (.signalling cause)
  | leaves (b b' : Borrow κ) : s' = s → b'.holdsPlace = b.holdsPlace → b'.lent = b.lent →
    (∀ e, b'.cause? = some e → b.cause? = some e ∨ ∃ cause, e = .borrowFailed cause) →
    (∀ e, b' = .finished (.error e) → b = .finished (.error e) ∨ b.cause? = some e ∨
      e = .poolClosed ∨ e = .poolExhausted ∧ limit ≤ s.occupied) →
    Touches limit s s' b b'

private def error? : Borrow κ → Option DirectoryError
  | finished (.error e) => some e
  | _ => none

namespace Touches

variable {limit : Nat} {s : State κ} {b b' : Borrow κ}

/-- A section that leaves the accounts alone and does not end the borrow with a failure. -/
private theorem goesOn (hholds : b'.holdsPlace = b.holdsPlace) (hl : b'.lent = b.lent)
    (hc : ∀ e, b'.cause? = some e → b.cause? = some e ∨ ∃ cause, e = .borrowFailed cause)
    (hf : b'.error? = none) : Touches limit s s b b' := by
  refine .leaves b b' rfl hholds hl hc fun e he => ?_
  rw [he] at hf
  cases hf

private theorem quiet (hholds : b'.holdsPlace = b.holdsPlace) (hl : b'.lent = b.lent)
    (hc : b'.cause? = none) (hf : b'.error? = none) : Touches limit s s b b' := by
  refine goesOn hholds hl (fun e he => ?_) hf
  rw [hc] at he
  cases he

end Touches

private theorem failure_cause {isNew : Bool} {cause e : DirectoryError}
    (h : failure isNew cause = some e) : ∃ cause, e = .borrowFailed cause := by
  cases isNew with
  | true => exact ⟨cause, (Option.some_inj.mp h).symm⟩
  | false => cases h

variable (p : Pool ω κ) (d : Option Nat) (s : State κ) (w : ω)

theorem step_touches (b : Borrow κ) :
    Touches p.settings.maxActive s (b.step p d s w).state b (b.step p d s w).activity := by
  cases b with
  | reserving =>
    simp only [step]
    rcases s.reserve_cases p.settings (d.any (· ≤ p.manager.clock w)) with
      ⟨cause, h⟩ | h | ⟨k, s', h, -, -, hfree, ha, hp, -⟩
    · rw [h]
      refine .leaves _ _ rfl rfl rfl (fun e he => by cases he) fun e he => ?_
      cases he
      exact .inr (.inr (State.cause_of_refused h))
    · rw [h]
      exact .quiet rfl rfl rfl rfl
    · rw [h]
      cases k with
      | none => exact .takes _ hfree ha hp rfl rfl rfl
      | some k => exact .takes _ hfree ha hp rfl rfl rfl
  | waiting =>
    rw [step]
    split <;> exact .quiet rfl rfl rfl rfl
  | making =>
    rw [step]
    rcases p.manager.make w with ⟨_ | _, _⟩
    · exact .goesOn rfl rfl (fun e he => .inr (failure_cause he)) rfl
    · exact .quiet rfl rfl rfl rfl
  | activating k isNew =>
    rw [step]
    rcases p.manager.activate k w with ⟨_ | _, k', _⟩
    · exact .goesOn rfl rfl (fun e he => .inr (failure_cause he)) rfl
    · cases p.settings.testOnBorrow <;> exact .quiet rfl rfl rfl rfl
  | validating k isNew =>
    rw [step]
    rcases p.manager.validate k w with ⟨_ | _, k', _⟩
    · exact .goesOn rfl rfl (fun e he => .inr (failure_cause he)) rfl
    · exact .quiet rfl rfl rfl rfl
  | checkingOut k => exact .lends k _ rfl
  | discarding k cause => exact .goesOn rfl rfl (fun e he => .inl he) rfl
  | cancelling cause => exact .givesBack cause rfl
  | signalling cause =>
    cases cause with
    | none => exact .quiet rfl rfl rfl rfl
    | some e =>
      refine .leaves _ _ rfl rfl rfl (fun e he => by cases he) fun e he => .inr (.inl ?_)
      cases he
      rfl
  | finished o => exact .leaves _ _ rfl rfl rfl (fun e he => by cases he) fun e he => .inl he

end Borrow

abbrev Entry (κ : Type) := State κ × State κ

namespace Entry

def takes (x : Entry κ) : Bool := x.2.pending = x.1.pending + 1

/-- A place was ended: given back, or turned into a loan. -/
def ends (x : Entry κ) : Bool := x.2.pending + 1 = x.1.pending

def LeavesLoans (x : Entry κ) : Prop := x.2.active = x.1.active

end Entry

structure Borrow.Accounted (limit : Nat) (b : Borrow κ) (log : List (Entry κ)) : Prop where
  /-- The place that it holds is the one that it has taken and not ended. -/
  balance : log.countP Entry.takes = log.countP Entry.ends + b.holdsPlace.toNat
  unlent : b.lent = 0 → ∀ x ∈ log, Entry.LeavesLoans x
  cause : ∀ e, b.cause? = some e → ∃ cause, e = .borrowFailed cause
  exhausted : b = .finished (.error .poolExhausted) →
    ∃ s : State κ, (s, s) ∈ log ∧ limit ≤ s.occupied

namespace Borrow.Accounted

variable {limit : Nat} {b : Borrow κ} {log : List (Entry κ)}

private theorem reserving : Accounted limit .reserving ([] : List (Entry κ)) where
  balance := rfl
  unlent _ := by simp
  cause := nofun
  exhausted := nofun

private theorem wake (h : b.Accounted limit log) : b.wake.Accounted limit log := by
  cases b with
  | waiting => exact ⟨h.balance, fun _ => h.unlent rfl, nofun, nofun⟩
  | _ => exact h

private theorem touch {s s' : State κ} {b' : Borrow κ} (h : b.Accounted limit log)
    (ht : Touches limit s s' b b') (hheld : b.holdsPlace = true → 1 ≤ s.pending) :
    b'.Accounted limit (log ++ [(s, s')]) := by
  obtain ⟨hbalance, hunlent, hcause, hexhausted⟩ := h
  cases ht with
  | takes b' hfree ha hp hholds hl hnone =>
    refine ⟨?_, fun _ x hx => ?_, fun e he => ?_, ?_⟩
    · rw [List.countP_append, List.countP_append, hbalance, hholds]
      simp [Entry.takes, Entry.ends, hp, holdsPlace]
      omega
    · rcases List.mem_append.mp hx with hx | hx
      · exact hunlent rfl x hx
      · rw [List.mem_singleton.mp hx]; exact ha
    · rw [hnone] at he; cases he
    · rintro rfl; cases hholds
  | lends k id hs =>
    have hpos := hheld rfl
    refine ⟨?_, fun hl => ?_, fun e he => ?_, fun he => ?_⟩
    · rw [List.countP_append, List.countP_append, hbalance]
      simp [Entry.takes, Entry.ends, hs, holdsPlace, State.checkOut]
      omega
    · simp [lent] at hl
    · cases he
    · cases he
  | givesBack cause hs =>
    have hpos := hheld rfl
    refine ⟨?_, fun _ x hx => ?_, hcause, fun he => ?_⟩
    · rw [List.countP_append, List.countP_append, hbalance]
      simp [Entry.takes, Entry.ends, hs, holdsPlace, State.cancelReservation]
      omega
    · rcases List.mem_append.mp hx with hx | hx
      · exact hunlent rfl x hx
      · rw [List.mem_singleton.mp hx, hs]; rfl
    · cases he
  | leaves b b' hs hholds hl hc hf =>
    refine ⟨?_, fun hl' x hx => ?_, fun e he => ?_, fun he => ?_⟩
    · rw [List.countP_append, List.countP_append, hbalance, hholds, hs]
      simp [Entry.takes, Entry.ends]
    · rcases List.mem_append.mp hx with hx | hx
      · exact hunlent (hl ▸ hl') x hx
      · rw [List.mem_singleton.mp hx, hs]; rfl
    · exact (hc e he).elim (hcause e) id
    · rcases hf _ he with hb | hb | hb | ⟨-, hfull⟩
      · obtain ⟨s₀, hmem, hfull⟩ := hexhausted hb
        exact ⟨s₀, List.mem_append_left _ hmem, hfull⟩
      · obtain ⟨cause, hcause⟩ := hcause _ hb
        cases hcause
      · cases hb
      · exact ⟨s, by simp [hs], hfull⟩

end Borrow.Accounted

namespace Task

def next (p : Pool ω κ) (c : Community ω κ) (t : Task κ) : Task κ :=
  { t with activity := (t.activity.step p.recording c.accounts c.world).activity }

def IsBorrow (t : Task κ) : Prop := ∃ d b, t.activity = .borrow d b

private theorem isBorrow_wake {t : Task κ} : t.wake.IsBorrow ↔ t.IsBorrow := by
  obtain ⟨activity, stranger⟩ := t
  cases activity <;> simp [IsBorrow, wake, Activity.wake]

private theorem isBorrow_of_next {p : Pool ω κ} {c : Community ω κ} {t : Task κ}
    (h : (t.next p c).IsBorrow) : t.IsBorrow := by
  obtain ⟨d, b, h⟩ := h
  obtain ⟨activity, stranger⟩ := t
  cases activity with
  | borrow d b => exact ⟨d, b, rfl⟩
  | giveBack | wrap | detach | evict | close => cases h

end Task

/-- A borrow that is there after a turn was there before, sleeping perhaps, or has just begun. -/
private theorem Turn.task_cases {p : Pool ω κ} {c c' : Community ω κ} (h : Turn p c c') {t : Task κ}
    (ht : t ∈ c'.tasks) (hb : t.IsBorrow) : t ∈ c.tasks ∨ (∃ u ∈ c.tasks, t = u.wake) ∨
      c.isGone = false ∧ t = ⟨.startBorrow p.recording c.world, none⟩ ∧
        c' = c.enter ⟨.startBorrow p.recording c.world, none⟩ := by
  have entered : ∀ {u : Task κ}, ¬u.IsBorrow → t ∈ u ::ₘ c.tasks → t ∈ c.tasks := by
    intro u hu ht
    rcases Multiset.mem_cons.mp ht with rfl | ht
    · exact absurd hb hu
    · exact ht
  cases h with
  | borrow hgone =>
    rcases Multiset.mem_cons.mp ht with rfl | ht
    · exact .inr (.inr ⟨hgone, rfl, rfl⟩)
    · exact .inl ht
  | evict | close | release | detach | releaseRaw | wrapRaw | releaseStranger | wrapStranger =>
    exact .inl (entered (by rintro ⟨d, b, hb⟩; cases hb) ht)
  | finish u ts hu => exact .inl (by simp [hu, show t ∈ ts from ht])
  | stir u ts hu =>
    rcases Multiset.mem_cons.mp ht with rfl | ht
    · exact .inr (.inl ⟨u, by simp [hu], rfl⟩)
    · exact .inl (by simp [hu, ht])
  | unwrap | make | use | letGo => exact .inl ht

def Community.after (p : Pool ω κ) (c : Community ω κ) (t : Task κ) (others : Multiset (Task κ)) :
    Community ω κ :=
  { c with
    accounts := (t.activity.step p.recording c.accounts c.world).state
    world := (t.activity.step p.recording c.accounts c.world).world
    tasks := t.next p c ::ₘ others }

/-- A borrow begins, makes steps, which are logged, and is there while others take turns and wake
it. -/
inductive Life (p : Pool ω κ) (w : ω) : Community ω κ → Task κ → List (Entry κ) → Prop
  | begins {as : List (Activity κ)} {c : Community ω κ} : Run p w as c → c.isGone = false →
    Life p w (c.enter ⟨.startBorrow p.recording c.world, none⟩)
      ⟨.startBorrow p.recording c.world, none⟩ []
  | own {c : Community ω κ} {t : Task κ} {ts ts' : Multiset (Task κ)} {log : List (Entry κ)} :
    Life p w c t log → c.tasks = t ::ₘ ts →
    Woken (t.activity.step p.recording c.accounts c.world).wakeup ts ts' →
    Life p w (c.after p t ts') (t.next p c) (log ++ [(c.accounts, (c.after p t ts').accounts)])
  | others {c c' : Community ω κ} {t t' : Task κ} {log : List (Entry κ)} : Life p w c t log →
    (∃ a, Acts p a c c') ∨ Turn p c c' → t' = t ∨ t' = t.wake → t' ∈ c'.tasks →
    Life p w c' t' log

section Lives

variable {p : Pool ω κ} {w : ω} {c c' : Community ω κ} {t : Task κ} {log : List (Entry κ)}

theorem Community.after_acts {ts ts' : Multiset (Task κ)} (ht : c.tasks = t ::ₘ ts)
    (hw : Woken (t.activity.step p.recording c.accounts c.world).wakeup ts ts') :
    Acts p t.activity c (c.after p t ts') :=
  .step c t ts ts' ht hw

private theorem Life.run (h : Life p w c t log) : ∃ as, Run p w as c := by
  induction h with
  | begins h hgone => exact ⟨_, h.turn (.borrow _ hgone)⟩
  | own _ ht hw ih =>
    obtain ⟨as, h⟩ := ih
    exact ⟨_, h.acts (Community.after_acts ht hw)⟩
  | others _ hs _ _ ih =>
    obtain ⟨as, h⟩ := ih
    rcases hs with ⟨a, hs⟩ | hs
    · exact ⟨_, h.acts hs⟩
    · exact ⟨_, h.turn hs⟩

private theorem Life.mem (h : Life p w c t log) : t ∈ c.tasks := by
  cases h with
  | begins => exact Multiset.mem_cons_self _ _
  | own => exact Multiset.mem_cons_self _ _
  | others _ _ _ hmem => exact hmem

/-- Every borrow has a life. -/
theorem exists_life {as : List (Activity κ)} (h : Run p w as c) (ht : t ∈ c.tasks)
    (hb : t.IsBorrow) : ∃ log, Life p w c t log := by
  induction h generalizing t with
  | start => simp [Community.start] at ht
  | @acts as a c c' h hs ih =>
    have hs' := hs
    obtain ⟨_, u, ts, ts', hu, hw⟩ := hs
    rcases Multiset.mem_cons.mp ht with rfl | hmem
    · obtain ⟨log, hlife⟩ := ih (t := u) (by simp [hu]) (Task.isBorrow_of_next hb)
      exact ⟨_, hlife.own hu hw⟩
    · rcases hw.exists_of_mem hmem with hold | ⟨v, hv, rfl⟩
      · obtain ⟨log, hlife⟩ := ih (t := t) (by simp [hu, hold]) hb
        exact ⟨log, hlife.others (.inl ⟨_, hs'⟩) (.inl rfl) ht⟩
      · obtain ⟨log, hlife⟩ := ih (t := v) (by simp [hu, hv]) (Task.isBorrow_wake.mp hb)
        exact ⟨log, hlife.others (.inl ⟨_, hs'⟩) (.inr rfl) ht⟩
  | @turn as c c' h hs ih =>
    rcases hs.task_cases ht hb with hold | ⟨u, hu, rfl⟩ | ⟨hgone, rfl, rfl⟩
    · obtain ⟨log, hlife⟩ := ih hold hb
      exact ⟨log, hlife.others (.inr hs) (.inl rfl) ht⟩
    · obtain ⟨log, hlife⟩ := ih hu (Task.isBorrow_wake.mp hb)
      exact ⟨log, hlife.others (.inr hs) (.inr rfl) ht⟩
    · exact ⟨[], .begins h hgone⟩

/-- A call that has been recorded stays in the record. -/
theorem idsOf_le (hid : p.manager.KeepsIds) (h : (∃ a, Acts p a c c') ∨ Turn p c c') (hook : Hook) :
    c.world.idsOf hook ≤ c'.world.idsOf hook := by
  have hcalls : ∃ cs, c'.world.calls = c.world.calls ++ cs := by
    rcases h with ⟨a, h⟩ | h
    · exact (h.calls hid).imp fun _ h => h.1
    · exact h.calls
  obtain ⟨cs, hcalls⟩ := hcalls
  rw [Recorded.idsOf_append hcalls]
  exact Multiset.le_add_right _ _

/-- What has been made stays made. -/
theorem makes_le (hid : p.manager.KeepsIds) (h : (∃ a, Acts p a c c') ∨ Turn p c c') :
    c.world.idsOf .make ≤ c'.world.idsOf .make :=
  idsOf_le hid h .make

/-- A place that a borrow holds is counted. -/
theorem Community.Sound.held_le (h : c.Sound p.manager) (ht : t ∈ c.tasks) :
    t.activity.held ≤ c.accounts.pending := by
  obtain ⟨ts, hts⟩ := Multiset.exists_cons_of_mem ht
  rw [h.places, hts, Multiset.map_cons, Multiset.sum_cons]
  exact Nat.le_add_right _ _

/-- Whatever happens to a borrow, its own sections account for what it holds. -/
theorem Life.accounted (hid : p.manager.KeepsIds) (h : Life p w c t log)
    (hn : (c.world.idsOf .make).Nodup) :
    ∃ d b, t.activity = .borrow d b ∧ b.Accounted p.settings.maxActive log := by
  induction h with
  | begins => exact ⟨_, _, rfl, .reserving⟩
  | @own c t ts ts' log h ht hw ih =>
    have hmakes := makes_le hid (.inl ⟨_, Community.after_acts ht hw⟩)
    have hn' := Multiset.nodup_of_le hmakes hn
    obtain ⟨d, b, hb, hacc⟩ := ih hn'
    obtain ⟨as, hrun⟩ := h.run
    have hheld := (run_sound hid hrun hn').held_le h.mem
    rw [hb] at hheld
    refine ⟨d, (b.step p.recording d c.accounts c.world).activity, ?_, ?_⟩
    · rw [Task.next, hb, step_borrow]
    · have hstate : (c.after p t ts').accounts =
          (b.step p.recording d c.accounts c.world).state := by
        rw [Community.after, hb, step_borrow]
      rw [hstate]
      refine hacc.touch (b.step_touches p.recording d c.accounts c.world) fun hholds => ?_
      simpa [Activity.held, hholds] using hheld
  | others _ hs hwake _ ih =>
    obtain ⟨d, b, hb, hacc⟩ := ih (Multiset.nodup_of_le (makes_le hid hs) hn)
    rcases hwake with rfl | rfl
    · exact ⟨d, b, hb, hacc⟩
    · exact ⟨d, b.wake, by rw [Task.wake, hb]; rfl, hacc.wake⟩

end Lives

end DirectoryClient.Pool
