import DirectoryClient.Proofs.Pool.Loans

/-! Conservation: a connection is in one place at a time, the books say which ones are out, and what was
never out is refused. -/
namespace DirectoryClient.Pool

variable {ω κ : Type}

inductive Place where
  | idle
  /-- In the hands of one activity under way. -/
  | underway
  /-- In the hands of a caller, wrapped or raw. -/
  | out
  /-- Detached, or made for somebody else. -/
  | outside
  | destroyed
  deriving DecidableEq, Repr

def Community.idsAt (m : Manager ω κ) (c : Community ω κ) : Place → Multiset Nat
  | .idle => (connectionsOf c.accounts.idle).map m.id
  | .underway => (c.tasks.map Task.holdings).sum.map m.id
  | .out => (c.wrapped + c.raw).map m.id
  | .outside => c.outside.map m.id
  | .destroyed => c.world.idsOf .destroy

/-- The connection that is being presented to the pool. -/
def Activity.presented? : Activity κ → Option κ
  | giveBack (.presenting k) | wrap (.presenting k) => some k
  | _ => none

namespace Activity

private theorem lent_of_presented {a : Activity κ} {k : κ} (h : a.presented? = some k) :
    a.lent = {k} := by
  cases a with
  | giveBack g => cases g <;> simp_all [presented?, lent, GiveBack.lent]
  | wrap g => cases g <;> simp_all [presented?, lent, Wrap.lent]
  | borrow | detach | evict | close => cases h

private theorem Refuses.id_of_presented {m : Manager ω κ} {id : Nat} {a : Activity κ} {k : κ}
    (h : a.Refuses m id) (hk : a.presented? = some k) : m.id k = id := by
  cases h <;> cases hk <;> assumption

theorem Refuses.eq_of_ended {m : Manager ω κ} {id : Nat} {a : Activity κ} (h : a.Refuses m id)
    (hs : a.stepsToRefuse = 0) : a = .giveBack (.finished (.error (notBorrowed id))) ∨
      a = .wrap (.finished (.error (notBorrowed id))) := by
  cases h with
  | finished => exact .inl rfl
  | finishedWrap => exact .inr rfl
  | presented | rejected | presentedToWrap | rejectedToWrap => cases hs

end Activity

/-- A refusal of a connection that is not out: it leaves the accounts as they are, comes to its end
in two steps, and then has destroyed the connection and answers with its id. -/
structure Refused (p : Pool ω κ) (c : Community ω κ) (a : Activity κ) (id : Nat) : Prop where
  refuses : a.Refuses p.manager id
  notOut : id ∉ c.accounts.active
  accounts : (a.step p.recording c.accounts c.world).state = c.accounts
  steps : (a.step p.recording c.accounts c.world).activity.stepsToRefuse = a.stepsToRefuse - 1
  ends : a.stepsToRefuse = 0 → (c.world.idsOf .destroy).count id = 1 ∧
    (a = .giveBack (.finished (.error (notBorrowed id))) ∨
      a = .wrap (.finished (.error (notBorrowed id))))

/-- The books of a pool are in order. -/
structure Conserved (p : Pool ω κ) (c : Community ω κ) : Prop where
  /-- A connection that was made is in one place, and once. -/
  place : ∀ id ∈ c.world.idsOf .make, ∃ place, ∀ other,
    (c.idsAt p.manager other).count id = if other = place then 1 else 0
  made : ∀ place, ∀ id ∈ c.idsAt p.manager place, id ∈ c.world.idsOf .make
  /-- No hook follows a destruction, and so no second destruction does. -/
  destroyed : c.world.calls.Pairwise fun a b => a.hook = .destroy → b.id ≠ a.id
  /-- The active ids are those of the loans that have not ended, each once. -/
  active : c.accounts.active.Nodup ∧ ∀ id, id ∈ c.accounts.active ↔ ∃ k ∈ c.loans, p.manager.id k = id
  /-- The pending places are those of the borrows that hold one. -/
  pending : c.accounts.pending = (c.tasks.filter fun t => t.activity.held = 1).card
  /-- A place that a step gives up is counted. -/
  places : ∀ t ∈ c.tasks, t.activity.held = 1 → 0 < c.accounts.pending
  /-- What is presented and not out is a stranger's. -/
  strangers : ∀ t ∈ c.tasks, ∀ k, t.activity.presented? = some k →
    p.manager.id k ∉ c.accounts.active → t.stranger = some (p.manager.id k)
  refused : ∀ t ∈ c.tasks, ∀ id, t.stranger = some id → Refused p c t.activity id

section Conservation

variable {m : Manager ω κ} {p : Pool ω κ} {c : Community ω κ}

private theorem sum_idsAt (h : c.Located m) :
    c.idsAt m .idle + c.idsAt m .underway + c.idsAt m .out + c.idsAt m .outside +
      c.idsAt m .destroyed = c.world.idsOf .make := by
  rw [← h]
  simp only [Community.idsAt, Community.holdings, Multiset.map_add]

private theorem idsAt_le (h : c.Located m) (place : Place) :
    c.idsAt m place ≤ c.world.idsOf .make := by
  rw [← sum_idsAt h]
  refine Multiset.le_iff_count.mpr fun id => ?_
  simp only [Multiset.count_add]
  cases place <;> omega

private theorem one_place (h : c.Located m) (hn : (c.world.idsOf .make).Nodup) {id : Nat}
    (hi : id ∈ c.world.idsOf .make) : ∃ place, ∀ other,
      (c.idsAt m other).count id = if other = place then 1 else 0 := by
  have hcount : (c.world.idsOf .make).count id = 1 := Multiset.count_eq_one_of_mem hn hi
  rw [← sum_idsAt h] at hcount
  simp only [Multiset.count_add] at hcount
  have hplace : ∃ place, 0 < (c.idsAt m place).count id := by
    by_contra hnone
    simp only [not_exists, Nat.not_lt, Nat.le_zero] at hnone
    simp [hnone] at hcount
  obtain ⟨place, hp⟩ := hplace
  refine ⟨place, fun other => ?_⟩
  cases place <;> cases other <;> simp only [reduceCtorEq, ↓reduceIte] <;> omega

private theorem sum_held (ts : Multiset (Task κ)) :
    (ts.map fun t => t.activity.held).sum = (ts.filter fun t => t.activity.held = 1).card := by
  induction ts using Multiset.induction_on with
  | empty => rfl
  | cons t ts ih =>
    rw [Multiset.map_cons, Multiset.sum_cons, ih, Multiset.filter_cons, Multiset.card_add, add_left_inj]
    rcases t.activity.held_eq_zero_or_one with h | h <;> simp [h]

private theorem stranger_of_presented (h : c.Sound m) {t : Task κ} (ht : t ∈ c.tasks) {k : κ}
    (hk : t.activity.presented? = some k) (hout : m.id k ∉ c.accounts.active) :
    t.stranger = some (m.id k) := by
  cases hi : t.stranger with
  | none =>
    have hlent : k ∈ t.loan := by simp [Task.loan, hi, Activity.lent_of_presented hk]
    exact absurd (h.lent_active ht hlent) hout
  | some i =>
    have hr := (h.strangers t ht i hi).1
    rw [hr.id_of_presented hk]

private theorem stranger_refused (h : c.Sound p.manager) (hn : (c.world.idsOf .make).Nodup)
    {t : Task κ} (ht : t ∈ c.tasks) {id : Nat} (hi : t.stranger = some id) :
    Refused p c t.activity id := by
  obtain ⟨hr, hd⟩ := h.strangers t ht id hi
  have hout := h.stranger_not_active hn ht hi
  obtain ⟨hstate, -, hsteps, -⟩ := hr.step (r := c.world) hout
  refine ⟨hr, hout, hstate, hsteps, fun hends => ⟨?_, hr.eq_of_ended hends⟩⟩
  refine Multiset.count_eq_one_of_mem (Multiset.nodup_of_le ?_ hn) (hd hends)
  exact idsAt_le h.located .destroyed

/-- The books of a pool are in order at every moment of every run, whatever the hooks do, as long as
the connections that are made have ids of their own and keep them. -/
theorem run_conserved (hid : p.manager.KeepsIds) {w : ω} {as : List (Activity κ)}
    (h : Run p w as c) (hn : (c.world.idsOf .make).Nodup) : Conserved p c := by
  have hs := run_sound hid h hn
  have hactive : c.accounts.active.Nodup := by
    rw [← Multiset.coe_nodup, hs.loans]
    exact Multiset.nodup_of_le (Multiset.map_le_map c.loans_le) (hs.holdings_nodup hn)
  refine ⟨fun id => one_place hs.located hn, ?_, hs.ordered, ⟨hactive, fun id => ?_⟩, ?_, ?_,
    fun t ht k => stranger_of_presented hs ht, fun t ht id => stranger_refused hs hn ht⟩
  · exact fun place id hmem => Multiset.mem_of_le (idsAt_le hs.located place) hmem
  · rw [← Multiset.mem_coe, hs.loans, Multiset.mem_map]
  · rw [hs.places, sum_held]
  · intro t ht hheld
    rw [hs.places, sum_held]
    exact Multiset.card_pos_iff_exists_mem.mpr ⟨t, Multiset.mem_filter.mpr ⟨ht, hheld⟩⟩

/-- After a release, an eviction and a borrow that fails, with one connection lent, the books are in
order. -/
theorem refusedOne_conserved : (refusedOne.world.idsOf .make).Nodup ∧ Conserved numbered refusedOne := by
  obtain ⟨as, h⟩ := run_refusedOne
  have hn : (refusedOne.world.idsOf .make).Nodup := by decide
  exact ⟨hn, run_conserved numbered_keepsIds h hn⟩

end Conservation

end DirectoryClient.Pool
