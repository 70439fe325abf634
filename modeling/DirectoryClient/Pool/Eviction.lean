import DirectoryClient.Pool.Manager

/-! An eviction pass: idle connections that have expired or fail a test are destroyed, and new ones
are made until enough are idle. Between its sections the pass holds connections that no account
names. -/
namespace DirectoryClient.Pool

/-- Where an eviction pass stands; `destroyed` counts what it has destroyed or is about to. -/
inductive Eviction (κ : Type) where
  | starting
  /-- Destroys the expired connections. -/
  | expiring (expired kept : List (Idle κ)) (destroyed : Nat)
  /-- Tests the connections that are kept, all of them before any is destroyed. -/
  | testing (untested valid invalid : List (Idle κ)) (destroyed : Nat)
  | discarding (invalid valid : List (Idle κ)) (destroyed : Nat)
  | puttingBack (kept : List (Idle κ)) (destroyed : Nat)
  /-- This many connections are still missing. -/
  | making (missing destroyed : Nat)
  | adopting (connection : κ) (missing destroyed : Nat)
  /-- There is no room for a connection that was made. -/
  | refusing (connection : κ) (destroyed : Nat)
  | signalling (missing destroyed : Nat)
  | finished (destroyed : Nat)

namespace Eviction

variable {ω κ : Type}

def step (p : Pool ω κ) (e : Eviction κ) (s : State κ) (w : ω) : Step (Eviction κ) ω κ :=
  match e with
  | starting =>
    match s.takeForEviction p.settings (p.manager.clock w) with
    | (none, s) => ⟨finished 0, s, w, .nobody⟩
    | (some (expired, kept), s) => ⟨expiring expired kept expired.length, s, w, .nobody⟩
  | expiring (i :: expired) kept destroyed =>
    ⟨expiring expired kept destroyed, s, p.manager.destroy i.connection w, .nobody⟩
  | expiring [] kept destroyed =>
    let next :=
      if p.settings.testWhileIdle then testing kept [] [] destroyed
      else puttingBack kept destroyed
    ⟨next, s, w, .nobody⟩
  | testing (i :: untested) valid invalid destroyed =>
    let (isValid, connection, w) := p.manager.validate i.connection w
    let i := { i with connection }
    let next :=
      if isValid then testing untested (valid ++ [i]) invalid destroyed
      else testing untested valid (invalid ++ [i]) (destroyed + 1)
    ⟨next, s, w, .nobody⟩
  | testing [] valid invalid destroyed => ⟨discarding invalid valid destroyed, s, w, .nobody⟩
  | discarding (i :: invalid) valid destroyed =>
    ⟨discarding invalid valid destroyed, s, p.manager.destroy i.connection w, .nobody⟩
  | discarding [] valid destroyed => ⟨puttingBack valid destroyed, s, w, .nobody⟩
  | puttingBack kept destroyed =>
    let (missing, s) := s.putBack p.settings kept
    ⟨making missing destroyed, s, w, .nobody⟩
  | making 0 destroyed => ⟨finished destroyed, s, w, .nobody⟩
  | making (missing + 1) destroyed =>
    match p.manager.make w with
    | (.ok connection, w) => ⟨adopting connection missing destroyed, s, w, .nobody⟩
    | (.error _, w) => ⟨finished destroyed, s, w, .nobody⟩
  | adopting connection missing destroyed =>
    match s.adopt p.settings (p.manager.clock w) connection with
    | (true, s) => ⟨signalling missing destroyed, s, w, .nobody⟩
    | (false, s) => ⟨refusing connection destroyed, s, w, .nobody⟩
  | refusing connection destroyed =>
    ⟨finished destroyed, s, p.manager.destroy connection w, .nobody⟩
  | signalling missing destroyed => ⟨making missing destroyed, s, w, .one⟩
  | finished destroyed => ⟨finished destroyed, s, w, .nobody⟩

end Eviction

end DirectoryClient.Pool
