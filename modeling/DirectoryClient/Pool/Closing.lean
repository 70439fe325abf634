import DirectoryClient.Pool.Manager

/-! Closing a pool, and letting go of it. -/
namespace DirectoryClient.Pool

inductive Closing (κ : Type) where
  | starting
  /-- The pool is closed; everybody who sleeps is to be told. -/
  | signalling (idle : List κ)
  | destroying (idle : List κ)
  | finished

/-- One step of closing a pool. A pool that is closed already stays as it is. -/
def Closing.step {ω κ : Type} (p : Pool ω κ) (c : Closing κ) (s : State κ) (w : ω) :
    Step (Closing κ) ω κ :=
  match c with
  | starting =>
    match s.close with
    | (none, s) => ⟨finished, s, w, .nobody⟩
    | (some idle, s) => ⟨signalling idle, s, w, .nobody⟩
  | signalling idle => ⟨destroying idle, s, w, .everyone⟩
  | destroying (c :: idle) => ⟨destroying idle, s, p.manager.destroy c w, .nobody⟩
  | destroying [] => ⟨finished, s, w, .nobody⟩
  | finished => ⟨finished, s, w, .nobody⟩

/-- Lets go of a pool that nobody can reach any more: its idle connections are destroyed. -/
def letGo {ω κ : Type} (p : Pool ω κ) (s : State κ) (w : ω) : State κ × ω :=
  let (idle, s) := s.drain
  (s, idle.foldl (fun w c => p.manager.destroy c w) w)

end DirectoryClient.Pool
