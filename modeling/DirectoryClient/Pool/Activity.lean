import DirectoryClient.Pool.Borrow
import DirectoryClient.Pool.Closing
import DirectoryClient.Pool.Eviction
import DirectoryClient.Pool.GiveBack

/-! Activities on a pool. Any interleaving of them is a sequence of their steps; one that runs alone
makes its own steps one after the other. -/
namespace DirectoryClient.Pool

inductive Activity (κ : Type) where
  | borrow (deadline : Option Nat) (position : Borrow κ)
  | giveBack (position : GiveBack κ)
  | wrap (position : Wrap κ)
  | detach (position : Detach κ)
  | evict (position : Eviction κ)
  | close (position : Closing κ)

namespace Activity

variable {ω κ : Type}

private def lift {τ : Type} (f : τ → Activity κ) (r : Step τ ω κ) : Step (Activity κ) ω κ :=
  { activity := f r.activity, state := r.state, world := r.world, wakeup := r.wakeup }

def step (p : Pool ω κ) (t : Activity κ) (s : State κ) (w : ω) : Step (Activity κ) ω κ :=
  match t with
  | borrow deadline position => lift (borrow deadline) (position.step p deadline s w)
  | giveBack position => lift giveBack (position.step p s w)
  | wrap position => lift wrap (position.step p s w)
  | detach position => lift detach (position.step p s w)
  | evict position => lift evict (position.step p s w)
  | close position => lift close (position.step p s w)

def isFinished : Activity κ → Bool
  | borrow _ (.finished _) | giveBack (.finished _) | wrap (.finished _) | detach (.finished _)
  | evict (.finished _) | close .finished => true
  | _ => false

def isWaiting : Activity κ → Bool
  | borrow _ .waiting => true
  | _ => false

def wake : Activity κ → Activity κ
  | borrow deadline position => borrow deadline position.wake
  | t => t

def startBorrow (p : Pool ω κ) (w : ω) : Activity κ :=
  borrow (p.settings.maxWait.map (p.manager.clock w + ·)) .reserving

/-- Makes at most so many steps, until it is finished or sleeps. The wakeups are collected in
their order. -/
def runFor (p : Pool ω κ) : Nat → Activity κ → State κ → ω → List Wakeup →
    Activity κ × State κ × ω × List Wakeup
  | 0, t, s, w, wakeups => (t, s, w, wakeups)
  | n + 1, t, s, w, wakeups =>
    let r := t.step p s w
    let wakeups := if r.wakeup = .nobody then wakeups else wakeups ++ [r.wakeup]
    if r.activity.isFinished || r.activity.isWaiting then (r.activity, r.state, r.world, wakeups)
    else runFor p n r.activity r.state r.world wakeups

/-- More steps than any activity makes alone: a few for each connection that is idle or missing. -/
def bound (p : Pool ω κ) (s : State κ) : Nat :=
  8 * (s.idle.length + min p.settings.minIdle p.settings.maxIdle + 2)

def run (p : Pool ω κ) (t : Activity κ) (s : State κ) (w : ω) : Activity κ × State κ × ω × List Wakeup :=
  runFor p (bound p s) t s w []

end Activity

end DirectoryClient.Pool
