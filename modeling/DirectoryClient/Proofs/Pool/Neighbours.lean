import DirectoryClient.Proofs.Pool.Conservation
import DirectoryClient.Proofs.Pool.Standing

/-! Pools side by side: each has a manager of its own, whose ids tell only its own connections apart,
and a raw connection can be handed to any of them. -/
namespace DirectoryClient.Pool

variable {ι ω κ : Type}

def Manager.tagged (i : ι) (m : Manager ω κ) : Manager ω (ι × κ) where
  clock := m.clock
  id k := m.id k.2
  make w :=
    match m.make w with
    | (.ok k, w) => (.ok (i, k), w)
    | (.error e, w) => (.error e, w)
  activate k w :=
    let (o, k', w) := m.activate k.2 w
    (o, (k.1, k'), w)
  validate k w :=
    let (isValid, k', w) := m.validate k.2 w
    (isValid, (k.1, k'), w)
  passivate k w :=
    let (o, k', w) := m.passivate k.2 w
    (o, (k.1, k'), w)
  destroy k w := m.destroy k.2 w

def tagged (i : ι) (p : Pool ω κ) : Pool ω (ι × κ) where
  manager := p.manager.tagged i
  settings := p.settings

structure Party (κ : Type) where
  accounts : State κ := {}
  tasks : Multiset (Task κ) := 0
  wrapped : Multiset κ := 0
  isGone : Bool := false

namespace Party

def enter (a : Activity κ) (q : Party κ) : Party κ := { q with tasks := ⟨a, none⟩ ::ₘ q.tasks }

end Party

structure Neighbours (ι ω κ : Type) where
  world : Recorded ω
  party : ι → Party (ι × κ) := fun _ => {}
  raw : Multiset (ι × κ) := 0

structure Taken (ι κ : Type) where
  pool : ι
  activity : Activity (ι × κ)
  accounts : State (ι × κ)

variable [DecidableEq ι] (p : ι → Pool ω κ)

namespace Neighbours

def set (i : ι) (q : Party (ι × κ)) (n : Neighbours ι ω κ) : Neighbours ι ω κ :=
  { n with party := Function.update n.party i q }

inductive Acts : Neighbours ι ω κ → Taken ι κ → Neighbours ι ω κ → Prop
  | step (n : Neighbours ι ω κ) (i : ι) (t : Task (ι × κ)) (ts ts' : Multiset (Task (ι × κ))) :
    (n.party i).tasks = t ::ₘ ts →
    Woken (t.activity.step ((p i).tagged i).recording (n.party i).accounts n.world).wakeup ts ts' →
    Acts n ⟨i, t.activity, (n.party i).accounts⟩
      { n.set i { n.party i with
          accounts :=
            (t.activity.step ((p i).tagged i).recording (n.party i).accounts n.world).state
          tasks := { t with activity := (t.activity.step ((p i).tagged i).recording
            (n.party i).accounts n.world).activity } ::ₘ ts' } with
        world := (t.activity.step ((p i).tagged i).recording (n.party i).accounts n.world).world }

/-- What happens between two steps of activities. A raw connection can be handed to any pool. -/
inductive Turn : Neighbours ι ω κ → Neighbours ι ω κ → Prop
  | borrow (n : Neighbours ι ω κ) (i : ι) : (n.party i).isGone = false →
    Turn n (n.set i ((n.party i).enter (.startBorrow ((p i).tagged i).recording n.world)))
  | evict (n : Neighbours ι ω κ) (i : ι) : (n.party i).isGone = false →
    Turn n (n.set i ((n.party i).enter (.evict .starting)))
  | close (n : Neighbours ι ω κ) (i : ι) : (n.party i).isGone = false →
    Turn n (n.set i ((n.party i).enter (.close .starting)))
  /-- Also what letting go of a wrapped connection comes to. -/
  | giveBack (n : Neighbours ι ω κ) (i : ι) (k : ι × κ) (rest : Multiset (ι × κ)) :
    (n.party i).wrapped = k ::ₘ rest →
    Turn n (n.set i (Party.enter (.giveBack (.presenting k)) { n.party i with wrapped := rest }))
  | detach (n : Neighbours ι ω κ) (i : ι) (k : ι × κ) (rest : Multiset (ι × κ)) :
    (n.party i).wrapped = k ::ₘ rest →
    Turn n (n.set i (Party.enter (.detach (.forgetting k)) { n.party i with wrapped := rest }))
  | unwrap (n : Neighbours ι ω κ) (i : ι) (k : ι × κ) (rest : Multiset (ι × κ)) :
    (n.party i).wrapped = k ::ₘ rest →
    Turn n { n.set i { n.party i with wrapped := rest } with raw := k ::ₘ n.raw }
  | release (n : Neighbours ι ω κ) (i : ι) (k : ι × κ) (rest : Multiset (ι × κ)) :
    (n.party i).isGone = false → n.raw = k ::ₘ rest →
    Turn n { n.set i ((n.party i).enter (.giveBack (.presenting k))) with raw := rest }
  | wrap (n : Neighbours ι ω κ) (i : ι) (k : ι × κ) (rest : Multiset (ι × κ)) :
    (n.party i).isGone = false → n.raw = k ::ₘ rest →
    Turn n { n.set i ((n.party i).enter (.wrap (.presenting k))) with raw := rest }
  /-- A finished activity hands over its result. -/
  | finish (n : Neighbours ι ω κ) (i : ι) (t : Task (ι × κ)) (ts : Multiset (Task (ι × κ))) :
    (n.party i).tasks = t ::ₘ ts → t.activity.isFinished = true →
    Turn n { n.set i { n.party i with
        tasks := ts, wrapped := t.activity.lent + (n.party i).wrapped } with
      raw := t.activity.own + n.raw }
  /-- A manager is asked for a connection that is not for its pool. -/
  | make (n : Neighbours ι ω κ) (i : ι) (k : ι × κ) (r : Recorded ω) :
    ((p i).tagged i).recording.manager.make n.world = (.ok k, r) →
    Turn n { n with world := r, raw := k ::ₘ n.raw }
  /-- A holder uses a connection, which may change it and the world, but not who has made it. -/
  | use (n : Neighbours ι ω κ) (i : ι) (wrapped raw : Multiset (ι × κ)) (w : ω) :
    wrapped.map Prod.fst = (n.party i).wrapped.map Prod.fst →
    raw.map Prod.fst = n.raw.map Prod.fst →
    Turn n { n.set i { n.party i with wrapped } with world := { n.world with world := w }, raw }
  | stir (n : Neighbours ι ω κ) (i : ι) (t : Task (ι × κ)) (ts : Multiset (Task (ι × κ))) :
    (n.party i).tasks = t ::ₘ ts →
    Turn n (n.set i { n.party i with tasks := t.wake ::ₘ ts })
  /-- The last handle on a pool goes away. -/
  | letGo (n : Neighbours ι ω κ) (i : ι) : (n.party i).tasks = 0 → (n.party i).wrapped = 0 →
    (n.party i).isGone = false →
    Turn n { n.set i { n.party i with
        accounts := (Pool.letGo ((p i).tagged i).recording (n.party i).accounts n.world).1
        isGone := true } with
      world := (Pool.letGo ((p i).tagged i).recording (n.party i).accounts n.world).2 }

inductive Run (w : ω) : List (Taken ι κ) → Neighbours ι ω κ → Prop
  | start : Run w [] { world := { world := w } }
  | acts {xs : List (Taken ι κ)} {x : Taken ι κ} {n n' : Neighbours ι ω κ} : Run w xs n →
    Acts p n x n' → Run w (xs ++ [x]) n'
  | turn {xs : List (Taken ι κ)} {n n' : Neighbours ι ω κ} : Run w xs n → Turn p n n' →
    Run w xs n'

end Neighbours

end DirectoryClient.Pool
