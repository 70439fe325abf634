import DirectoryClient.Pool.State

/-! What a pool needs of the world in which its connections live, and what one step of an activity in that
world does. -/
namespace DirectoryClient.Pool

/-- The hooks of a pool on its connections, in a world that they may change and that has a clock. -/
structure Manager (ω κ : Type) where
  clock : ω → Nat
  /-- Tells the connections of one manager apart. -/
  id : κ → Nat
  make : ω → Outcome κ × ω
  /-- Makes a connection ready to be lent. -/
  activate : κ → ω → Outcome Unit × κ × ω
  validate : κ → ω → Bool × κ × ω
  /-- Makes a connection ready to be idle. -/
  passivate : κ → ω → Outcome Unit × κ × ω
  destroy : κ → ω → ω

inductive Wakeup where
  | nobody
  | one
  | everyone
  deriving DecidableEq, Repr

/-- What one step of an activity did: either a section on the accounts, or a hook, or a wakeup. -/
structure Step (τ ω κ : Type) where
  activity : τ
  state : State κ
  world : ω
  wakeup : Wakeup := .nobody

end Pool

structure Pool (ω κ : Type) where
  manager : Pool.Manager ω κ
  settings : Settings.Pool

end DirectoryClient
