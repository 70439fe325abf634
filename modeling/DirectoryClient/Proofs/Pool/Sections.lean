import DirectoryClient.Pool.Activity
import Mathlib.Algebra.Order.Group.Multiset
import Mathlib.Tactic.Abel

/-! What the sections of a pool can do to its accounts, with the idle connections seen as a bag. -/
namespace DirectoryClient.Pool

variable {κ : Type}

def connectionsOf (is : List (Idle κ)) : Multiset κ :=
  Multiset.ofList (is.map Idle.connection)

@[simp]
theorem connectionsOf_nil : connectionsOf ([] : List (Idle κ)) = 0 := rfl

@[simp]
theorem connectionsOf_cons (i : Idle κ) (is : List (Idle κ)) :
    connectionsOf (i :: is) = {i.connection} + connectionsOf is := rfl

@[simp]
theorem connectionsOf_append (is js : List (Idle κ)) :
    connectionsOf (is ++ js) = connectionsOf is + connectionsOf js := by
  simp [connectionsOf, ← Multiset.coe_add]

private theorem connectionsOf_partition (f : Idle κ → Bool) (is : List (Idle κ)) :
    connectionsOf (is.partition f).1 + connectionsOf (is.partition f).2 = connectionsOf is := by
  have h : (is.filter f ++ is.filter (fun i => !f i)).Perm is := List.filter_append_perm f is
  rw [← connectionsOf_append, List.partition_eq_filter_filter]
  exact Multiset.coe_eq_coe.mpr (h.map Idle.connection)

def Idle.stamp {ω : Type} (m : Manager ω κ) (i : Idle κ) : Nat × Nat := (m.id i.connection, i.since)

namespace State

variable (settings : Settings.Pool) (s : State κ)

private theorem takeIdle_connections (lifo : Bool) :
    ((s.takeIdle lifo).1.elim 0 fun k => ({k} : Multiset κ)) +
      connectionsOf (s.takeIdle lifo).2.idle = connectionsOf s.idle := by
  cases lifo with
  | false => cases h : s.idle <;> simp [takeIdle, h, -Multiset.singleton_add]
  | true =>
    rcases List.eq_nil_or_concat s.idle with h | ⟨is, i, h⟩
    · simp [takeIdle, h]
    · simp only [takeIdle, h, ↓reduceIte, List.concat_eq_append, List.getLast?_concat,
        List.dropLast_concat, Option.map_some, Option.elim_some, connectionsOf_append,
        connectionsOf_cons, connectionsOf_nil]
      abel

private theorem takeIdle_others (lifo : Bool) :
    (s.takeIdle lifo).2.active = s.active ∧ (s.takeIdle lifo).2.pending = s.pending ∧
      (s.takeIdle lifo).2.isClosed = s.isClosed := by
  cases lifo <;> exact ⟨rfl, rfl, rfl⟩

/-- A borrow that looks for a place leaves the idle connections in their order. -/
theorem reserve_sublist (late : Bool) : (s.reserve settings late).2.idle.Sublist s.idle := by
  rw [reserve]
  split
  · exact .refl _
  · split
    · cases hlifo : settings.lifo
      · exact List.tail_sublist _
      · exact List.dropLast_sublist _
    · split <;> exact .refl _

/-- A borrow that looks for a place is refused, goes to sleep, or holds a place of an open pool from
then on, and has taken an idle connection along if there was one. -/
theorem reserve_cases (late : Bool) :
    (∃ cause, s.reserve settings late = (.refused cause, s)) ∨
    s.reserve settings late = (.blocked, s) ∨
    ∃ (k : Option κ) (s' : State κ), s.reserve settings late = (.granted (k.elim .new .idle), s') ∧
      s.isClosed = false ∧ s'.isClosed = false ∧ s.occupied < settings.maxActive ∧
      s'.active = s.active ∧ s'.pending = s.pending + 1 ∧
      (k.elim 0 fun k => ({k} : Multiset κ)) + connectionsOf s'.idle = connectionsOf s.idle := by
  cases hc : s.isClosed with
  | true => exact .inl ⟨.poolClosed, by simp [reserve, hc]⟩
  | false =>
    by_cases hr : s.occupied < settings.maxActive
    · obtain ⟨ha, hp, ho⟩ := takeIdle_others { s with pending := s.pending + 1 } settings.lifo
      exact .inr (.inr ⟨_, _, by simp only [reserve, hc, hr, Bool.false_eq_true, ↓reduceIte], rfl,
        ho.trans hc, hr, ha, hp, takeIdle_connections { s with pending := s.pending + 1 } _⟩)
    · cases he : settings.whenExhausted with
      | fail => exact .inl ⟨.poolExhausted, by simp [reserve, hc, hr, he]⟩
      | block =>
        cases late with
        | true => exact .inl ⟨.poolExhausted, by simp [reserve, hc, hr, he]⟩
        | false => exact .inr (.inl (by simp [reserve, hc, hr, he]))

/-- A loan ends: the connection becomes the last idle one of an open pool with room for it, or is
handed back. -/
theorem settleReturn_cases (now id : Nat) (k : κ) (keep : Bool) :
    s.settleReturn settings now id k keep = (some k, s.forget id) ∨
    s.isClosed = false ∧ s.idle.length < settings.maxIdle ∧
      s.settleReturn settings now id k keep =
        (none, { s.forget id with idle := s.idle ++ [{ connection := k, since := now }] }) := by
  by_cases h : (keep && !(s.forget id).isClosed && (s.forget id).idle.length < settings.maxIdle) = true
  · have hs := h
    simp only [Bool.and_eq_true, Bool.not_eq_true', decide_eq_true_eq] at hs
    exact .inr ⟨hs.1.2, hs.2, by simp only [settleReturn, h, ↓reduceIte]; rfl⟩
  · exact .inl (by simp only [settleReturn, h, Bool.false_eq_true, ↓reduceIte])

/-- An eviction pass does not begin in a closed pool; in an open one it takes all idle connections. -/
theorem takeForEviction_cases (now : Nat) :
    s.isClosed = true ∧ s.takeForEviction settings now = (none, s) ∨
    s.isClosed = false ∧ ∃ expired kept,
      s.takeForEviction settings now = (some (expired, kept), { s with idle := [] }) ∧
      connectionsOf expired + connectionsOf kept = connectionsOf s.idle := by
  cases hc : s.isClosed with
  | true => exact .inl ⟨rfl, by simp only [takeForEviction, hc, ↓reduceIte]⟩
  | false =>
    refine .inr ⟨rfl, (s.idle.partition (isExpired settings now)).1,
      (s.idle.partition (isExpired settings now)).2, ?_, connectionsOf_partition _ _⟩
    rw [takeForEviction, if_neg (by simp [hc]), hc]

/-- A new connection becomes the last idle one of an open pool with room for it, or is refused. -/
theorem adopt_cases (now : Nat) (k : κ) :
    s.adopt settings now k = (false, s) ∨
    s.isClosed = false ∧ s.idle.length < settings.maxIdle ∧ s.adopt settings now k =
      (true, { s with idle := s.idle ++ [{ connection := k, since := now }] }) := by
  by_cases h : (s.isClosed || s.idle.length ≥ settings.maxIdle) = true
  · exact .inl (by simp only [adopt, h, ↓reduceIte])
  · have hs := h
    simp only [Bool.or_eq_true, decide_eq_true_eq, not_or, not_le, Bool.not_eq_true] at hs
    exact .inr ⟨hs.1, hs.2, by simp only [adopt, h, Bool.false_eq_true, ↓reduceIte]⟩

/-- A pool is closed once, and all its idle connections are taken out then. -/
theorem close_cases :
    s.isClosed = true ∧ s.close = (none, s) ∨
    s.isClosed = false ∧ s.close =
      (some (s.idle.map Idle.connection), { s with idle := [], isClosed := true }) := by
  cases hc : s.isClosed with
  | true => exact .inl ⟨rfl, by simp only [close, hc, ↓reduceIte]⟩
  | false => exact .inr ⟨rfl, by simp [close, drain, hc]⟩

theorem coe_checkOut {id : Nat} {s : State κ} (h : id ∉ s.active) :
    Multiset.ofList (s.checkOut id).active = {id} + Multiset.ofList s.active := by
  simp [checkOut, h]

theorem coe_forget {id : Nat} {s : State κ} (h : id ∈ s.active) :
    Multiset.ofList (s.forget id).active + {id} = Multiset.ofList s.active := by
  rw [forget, ← Multiset.coe_erase, add_comm, Multiset.singleton_add]
  exact Multiset.cons_erase (Multiset.mem_coe.mpr h)

end State

end DirectoryClient.Pool
