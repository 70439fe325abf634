import DirectoryClient.Pool.Activity

/-! An activity that nobody disturbs: its steps, one after the other, and how many of them are enough. -/
namespace DirectoryClient.Pool

variable {ω κ : Type}

def Wakeup.heard (u : Wakeup) : List Wakeup := if u = .nobody then [] else [u]

namespace Activity

def stops (a : Activity κ) : Bool := a.isFinished || a.isWaiting

/-- Alone, an activity comes from one position to another, where it stops. So many steps are enough,
and more change nothing. -/
def Ends (p : Pool ω κ) (n : Nat) (us : List Wakeup) (x y : Activity κ × State κ × ω) : Prop :=
  ∀ m ≥ n, ∀ heard, runFor p m x.1 x.2.1 x.2.2 heard = (y.1, y.2.1, y.2.2, heard ++ us)

namespace Ends

variable {p : Pool ω κ} {n : Nat} {us : List Wakeup} {y : Activity κ × State κ × ω}
  {a b : Activity κ} {s s' : State κ} {w w' : ω} {u : Wakeup}

/-- The step with which an activity stops. -/
theorem last (hstep : a.step p s w = ⟨b, s', w', u⟩) (hstops : b.stops = true) :
    Ends p 1 u.heard (a, s, w) (b, s', w') := by
  intro m hm heard
  obtain ⟨m, rfl⟩ : ∃ k, m = k + 1 := ⟨m - 1, by omega⟩
  rw [stops] at hstops
  simp only [runFor, hstep, hstops, ↓reduceIte]
  cases u <;> simp [Wakeup.heard]

/-- A step after which an activity goes on. -/
theorem cons (hstep : a.step p s w = ⟨b, s', w', u⟩) (hgoes : b.stops = false)
    (h : Ends p n us (b, s', w') y) : Ends p (n + 1) (u.heard ++ us) (a, s, w) y := by
  intro m hm heard
  obtain ⟨m, rfl⟩ : ∃ k, m = k + 1 := ⟨m - 1, by omega⟩
  rw [stops] at hgoes
  simp only [runFor, hstep, hgoes, Bool.false_eq_true, ↓reduceIte]
  rw [h m (by omega)]
  cases u <;> simp [Wakeup.heard]

theorem mono {n' : Nat} {x : Activity κ × State κ × ω} (h : Ends p n us x y) (hn : n ≤ n') :
    Ends p n' us x y :=
  fun m hm => h m (Nat.le_trans hn hm)

/-- What an activity comes to that runs alone. -/
theorem run (h : Ends p n us (a, s, w) (b, s', w')) (hn : n ≤ bound p s) :
    a.run p s w = (b, s', w', us) :=
  h _ hn []

end Ends

end Activity

end DirectoryClient.Pool
