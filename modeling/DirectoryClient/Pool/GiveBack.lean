import DirectoryClient.Pool.Manager

/-! The ends of a loan: a connection is given back, wrapped again, or taken away for good. A connection
that is not out is destroyed, and the accounts stay as they are. -/
namespace DirectoryClient.Pool

def notBorrowed (id : Nat) : DirectoryError := .accounting (.notBorrowed id)

/-- Where a connection on its way back stands. Its id is taken once, when it is presented. -/
inductive GiveBack (κ : Type) where
  | presenting (connection : κ)
  /-- Not out; about to be destroyed. -/
  | rejecting (id : Nat) (connection : κ)
  | passivating (id : Nat) (connection : κ)
  | validating (id : Nat) (connection : κ)
  | settling (id : Nat) (connection : κ) (keep : Bool)
  /-- The loan has ended; somebody who sleeps is to be told. -/
  | signalling (discarded : Option κ)
  | discarding (connection : κ)
  | finished (outcome : Outcome Unit)

namespace GiveBack

variable {ω κ : Type}

def step (p : Pool ω κ) (g : GiveBack κ) (s : State κ) (w : ω) : Step (GiveBack κ) ω κ :=
  match g with
  | presenting connection =>
    let id := p.manager.id connection
    ⟨if s.isOut id then passivating id connection else rejecting id connection, s, w, .nobody⟩
  | rejecting id connection =>
    ⟨finished (.error (notBorrowed id)), s, p.manager.destroy connection w, .nobody⟩
  | passivating id connection =>
    match p.manager.passivate connection w with
    | (.ok (), connection, w) =>
      let next :=
        if p.settings.testOnReturn then validating id connection
        else settling id connection true
      ⟨next, s, w, .nobody⟩
    | (.error _, connection, w) => ⟨settling id connection false, s, w, .nobody⟩
  | validating id connection =>
    let (keep, connection, w) := p.manager.validate connection w
    ⟨settling id connection keep, s, w, .nobody⟩
  | settling id connection keep =>
    let (discarded, s) := s.settleReturn p.settings (p.manager.clock w) id connection keep
    ⟨signalling discarded, s, w, .nobody⟩
  | signalling discarded => ⟨discarded.elim (finished (.ok ())) discarding, s, w, .one⟩
  | discarding connection => ⟨finished (.ok ()), s, p.manager.destroy connection w, .nobody⟩
  | finished outcome => ⟨finished outcome, s, w, .nobody⟩

end GiveBack

inductive Wrap (κ : Type) where
  | presenting (connection : κ)
  | rejecting (id : Nat) (connection : κ)
  | finished (outcome : Outcome κ)

def Wrap.step {ω κ : Type} (p : Pool ω κ) (r : Wrap κ) (s : State κ) (w : ω) :
    Step (Wrap κ) ω κ :=
  match r with
  | presenting connection =>
    let id := p.manager.id connection
    ⟨if s.isOut id then finished (.ok connection) else rejecting id connection, s, w, .nobody⟩
  | rejecting id connection =>
    ⟨finished (.error (notBorrowed id)), s, p.manager.destroy connection w, .nobody⟩
  | finished outcome => ⟨finished outcome, s, w, .nobody⟩

inductive Detach (κ : Type) where
  | forgetting (connection : κ)
  | signalling (connection : κ)
  | finished (connection : κ)

def Detach.step {ω κ : Type} (p : Pool ω κ) (d : Detach κ) (s : State κ) (w : ω) :
    Step (Detach κ) ω κ :=
  match d with
  | forgetting connection =>
    ⟨signalling connection, s.forget (p.manager.id connection), w, .nobody⟩
  | signalling connection => ⟨finished connection, s, w, .one⟩
  | finished connection => ⟨finished connection, s, w, .nobody⟩

end DirectoryClient.Pool
