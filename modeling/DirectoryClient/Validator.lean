import DirectoryClient.Connection.Operations
import DirectoryClient.Cursor.Access

/-! Checks that a connection can be used. -/
namespace DirectoryClient

inductive Validator where
  /-- By what is known of it. -/
  | flag
  /-- By a search for the root entry, which may take this long. -/
  | lookup (timeout : Option Nat)

namespace Validator

variable {ω : Type}

def query : Search.Query where
  base := ""
  scope := .base
  filter := "(objectClass=*)"
  attributes := ["1.1"]

def startLookup (n : Network ω) (timeout : Option Nat) (c : Connection) (w : ω) :
    Outcome Pending × Connection × ω :=
  { c with timeout := timeout.or c.timeout }.startSearch n query w

/-- Reads a search to its end, and says whether it came to a successful one. Whatever is left of it is
given up. -/
def succeeds? (a : StreamAccess ω) (cursor : Cursor) (w : ω) : Option (Bool × ω) :=
  (a.drain? cursor w).map fun (isOver, cursor, w) =>
    (isOver && cursor.done.any OperationResult.isSuccess, (a.close cursor w).2)

/-- Searches for the root entry, and says whether the search came to a successful end. One that never
ends counts as one that has failed. -/
def lookUp (n : Network ω) (timeout : Option Nat) (c : Connection) (w : ω) :
    Bool × Connection × ω :=
  match startLookup n timeout c w with
  | (.error _, c, w) => (false, c, w)
  | (.ok p, c, w) =>
    let (isValid, w) :=
      (succeeds? (n.streamAccess p) { id := p.id, detector := c.detector } w).getD (false, w)
    (isValid, c, w)

/-- Checks a connection. One that is not authenticated fails without a request. -/
def check (n : Network ω) (v : Validator) (c : Connection) (w : ω) : Bool × Connection × ω :=
  if c.isAuthenticated n w then
    match v with
    | flag => (true, c, w)
    | lookup timeout => lookUp n timeout c w
  else (false, c, w)

end Validator

end DirectoryClient
