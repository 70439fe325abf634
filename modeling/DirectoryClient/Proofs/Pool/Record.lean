import DirectoryClient.Pool.Activity
import Mathlib.Data.Multiset.AddSub
import Mathlib.Data.Multiset.MapFold

/-! The hooks that a pool has called, recorded beside the world in which its connections live. -/
namespace DirectoryClient.Pool

variable {ω κ : Type}

inductive Hook where
  | make
  | activate
  | validate
  | passivate
  | destroy
  deriving DecidableEq, Repr

/-- A hook that was called, and the id of the connection that it was called on or that it made. -/
structure Call where
  hook : Hook
  id : Nat
  deriving DecidableEq, Repr

/-- A world, and the calls in it so far. A connection that did not come about leaves no call. -/
structure Recorded (ω : Type) where
  world : ω
  calls : List Call := []

namespace Recorded

def note (hook : Hook) (id : Nat) (world : ω) (r : Recorded ω) : Recorded ω where
  world := world
  calls := r.calls ++ [⟨hook, id⟩]

def idsOf (hook : Hook) (r : Recorded ω) : Multiset Nat :=
  Multiset.ofList ((r.calls.filter (·.hook = hook)).map Call.id)

@[simp]
theorem calls_note (hook : Hook) (id : Nat) (world : ω) (r : Recorded ω) :
    (r.note hook id world).calls = r.calls ++ [⟨hook, id⟩] := rfl

@[simp]
theorem idsOf_note (hook other : Hook) (id : Nat) (world : ω) (r : Recorded ω) :
    (r.note hook id world).idsOf other = r.idsOf other + if hook = other then {id} else 0 := by
  by_cases h : hook = other
  · simp [idsOf, h, ← Multiset.coe_add]
  · simp [idsOf, h]

end Recorded

namespace Manager

def recording (m : Manager ω κ) : Manager (Recorded ω) κ where
  clock r := m.clock r.world
  id := m.id
  make r :=
    match m.make r.world with
    | (.ok k, w) => (.ok k, r.note .make (m.id k) w)
    | (.error e, w) => (.error e, { r with world := w })
  activate k r :=
    let (o, k', w) := m.activate k r.world
    (o, k', r.note .activate (m.id k) w)
  validate k r :=
    let (isValid, k', w) := m.validate k r.world
    (isValid, k', r.note .validate (m.id k) w)
  passivate k r :=
    let (o, k', w) := m.passivate k r.world
    (o, k', r.note .passivate (m.id k) w)
  destroy k r := r.note .destroy (m.id k) (m.destroy k r.world)

structure KeepsIds (m : Manager ω κ) : Prop where
  activate : ∀ k w, m.id (m.activate k w).2.1 = m.id k
  validate : ∀ k w, m.id (m.validate k w).2.1 = m.id k
  passivate : ∀ k w, m.id (m.passivate k w).2.1 = m.id k

variable {m : Manager ω κ}

theorem make_recorded (m : Manager ω κ) (r : Recorded ω) :
    (∃ k w, m.recording.make r = (.ok k, r.note .make (m.id k) w)) ∨
      ∃ e w, m.recording.make r = (.error e, { r with world := w }) := by
  rcases h : m.make r.world with ⟨e | k, w⟩
  · exact .inr ⟨e, w, by simp only [recording, h]⟩
  · exact .inl ⟨k, w, by simp only [recording, h]⟩

theorem KeepsIds.activate_recorded (h : m.KeepsIds) (k : κ) (r : Recorded ω) :
    ∃ o k' w, m.recording.activate k r = (o, k', r.note .activate (m.id k) w) ∧ m.id k' = m.id k :=
  ⟨_, _, _, rfl, h.activate k r.world⟩

theorem KeepsIds.validate_recorded (h : m.KeepsIds) (k : κ) (r : Recorded ω) :
    ∃ o k' w, m.recording.validate k r = (o, k', r.note .validate (m.id k) w) ∧ m.id k' = m.id k :=
  ⟨_, _, _, rfl, h.validate k r.world⟩

theorem KeepsIds.passivate_recorded (h : m.KeepsIds) (k : κ) (r : Recorded ω) :
    ∃ o k' w,
      m.recording.passivate k r = (o, k', r.note .passivate (m.id k) w) ∧ m.id k' = m.id k :=
  ⟨_, _, _, rfl, h.passivate k r.world⟩

/-- Hooks that leave a record keep the ids as well. -/
theorem KeepsIds.recording (h : m.KeepsIds) : m.recording.KeepsIds where
  activate k r := h.activate k r.world
  validate k r := h.validate k r.world
  passivate k r := h.passivate k r.world

@[simp]
theorem recording_destroy (m : Manager ω κ) (k : κ) (r : Recorded ω) :
    m.recording.destroy k r = r.note .destroy (m.id k) (m.destroy k r.world) := rfl

@[simp]
theorem recording_id (m : Manager ω κ) : m.recording.id = m.id := rfl

end Manager

end Pool

namespace Pool

def recording {ω κ : Type} (p : Pool ω κ) : Pool (Pool.Recorded ω) κ where
  manager := p.manager.recording
  settings := p.settings

@[simp]
theorem manager_recording {ω κ : Type} (p : Pool ω κ) :
    p.recording.manager = p.manager.recording := rfl

@[simp]
theorem settings_recording {ω κ : Type} (p : Pool ω κ) : p.recording.settings = p.settings := rfl

end Pool

end DirectoryClient
