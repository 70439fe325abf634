import DirectoryClient.Proofs.Pool.Record
import DirectoryClient.Proofs.Pool.Sections

/-! What the activities on a pool hold between their steps: connections that no account names, loans
that have not ended yet, and places for connections that are not out yet. -/
namespace DirectoryClient.Pool

variable {ω κ : Type}

namespace Borrow

def own : Borrow κ → Multiset κ
  | activating k _ | validating k _ | checkingOut k | discarding k _ => {k}
  | _ => 0

def lent : Borrow κ → Multiset κ
  | finished (.ok k) => {k}
  | _ => 0

/-- The borrow holds a place: it has reserved one, and neither turned it into a loan nor given it
back. -/
def holdsPlace : Borrow κ → Bool
  | making | activating .. | validating .. | checkingOut _ | discarding .. | cancelling _ => true
  | _ => false

end Borrow

namespace GiveBack

def own : GiveBack κ → Multiset κ
  | rejecting _ k | signalling (some k) | discarding k => {k}
  | _ => 0

/-- The connection whose loan goes on until it is settled. -/
def lent : GiveBack κ → Multiset κ
  | presenting k | passivating _ k | validating _ k | settling _ k _ => {k}
  | _ => 0

def Coherent (m : Manager ω κ) : GiveBack κ → Prop
  | rejecting id k | passivating id k | validating id k | settling id k _ => id = m.id k
  | _ => True

end GiveBack

namespace Wrap

def own : Wrap κ → Multiset κ
  | rejecting _ k => {k}
  | _ => 0

def lent : Wrap κ → Multiset κ
  | presenting k | finished (.ok k) => {k}
  | _ => 0

def Coherent (m : Manager ω κ) : Wrap κ → Prop
  | rejecting id k => id = m.id k
  | _ => True

end Wrap

namespace Detach

def own : Detach κ → Multiset κ
  | signalling k | finished k => {k}
  | forgetting _ => 0

def lent : Detach κ → Multiset κ
  | forgetting k => {k}
  | _ => 0

end Detach

/-- The connections that an eviction pass has taken or made. -/
def Eviction.own : Eviction κ → Multiset κ
  | expiring expired kept _ => connectionsOf expired + connectionsOf kept
  | testing untested valid invalid _ =>
    connectionsOf untested + connectionsOf valid + connectionsOf invalid
  | discarding invalid valid _ => connectionsOf invalid + connectionsOf valid
  | puttingBack kept _ => connectionsOf kept
  | adopting k _ _ | refusing k _ => {k}
  | _ => 0

/-- The connections that were idle when the pool was closed. -/
def Closing.own : Closing κ → Multiset κ
  | signalling ks | destroying ks => Multiset.ofList ks
  | _ => 0

namespace Activity

def own : Activity κ → Multiset κ
  | borrow _ b => b.own
  | giveBack g => g.own
  | wrap r => r.own
  | detach d => d.own
  | evict e => e.own
  | close c => c.own

def lent : Activity κ → Multiset κ
  | borrow _ b => b.lent
  | giveBack g => g.lent
  | wrap r => r.lent
  | detach d => d.lent
  | _ => 0

def held : Activity κ → Nat
  | borrow _ b => if b.holdsPlace then 1 else 0
  | _ => 0

def Coherent (m : Manager ω κ) : Activity κ → Prop
  | giveBack g => g.Coherent m
  | wrap r => r.Coherent m
  | _ => True

@[simp]
theorem own_wake (a : Activity κ) : a.wake.own = a.own := by
  rcases a with ⟨d, _ | _⟩ | _ <;> rfl

@[simp]
theorem lent_wake (a : Activity κ) : a.wake.lent = a.lent := by
  rcases a with ⟨d, _ | _⟩ | _ <;> rfl

@[simp]
theorem held_wake (a : Activity κ) : a.wake.held = a.held := by
  rcases a with ⟨d, _ | _⟩ | _ <;> rfl

theorem held_eq_zero_or_one (a : Activity κ) : a.held = 0 ∨ a.held = 1 := by
  cases a with
  | borrow d b => cases h : b.holdsPlace <;> simp [held, h]
  | giveBack | wrap | detach | evict | close => exact .inl rfl

theorem coherent_wake {m : Manager ω κ} {a : Activity κ} :
    a.wake.Coherent m ↔ a.Coherent m := by
  rcases a with ⟨d, _ | _⟩ | _ <;> rfl

end Activity

end DirectoryClient.Pool
