import DirectoryClient.Settings.Value

/-! How a pool of connections is bounded, checked and cleaned. -/
namespace DirectoryClient.Settings

inductive WhenExhausted where
  | block
  | fail
  deriving DecidableEq, Repr

def WhenExhausted.name : WhenExhausted → String
  | block => "block"
  | fail => "fail"

private def WhenExhausted.ofName? : String → Option WhenExhausted
  | "block" => some block
  | "fail" => some fail
  | _ => none

/-- The configuration of a pool. An absent time is unlimited. -/
structure Pool where
  /-- How many connections may be out at a time. -/
  maxActive : Nat := 8
  /-- How many may be idle; more are destroyed on return. -/
  maxIdle : Nat := 8
  /-- How many an eviction pass tries to keep idle. -/
  minIdle : Nat := 0
  testOnBorrow : Bool := false
  testOnReturn : Bool := false
  testWhileIdle : Bool := false
  timeBetweenEvictionRuns : Option Millis := none
  minEvictableIdleTime : Option Millis := some 1800000
  maxWait : Option Millis := some 30000
  whenExhausted : WhenExhausted := .block
  /-- Whether the connection that came back last is lent first. -/
  lifo : Bool := true
  deriving DecidableEq, Repr

namespace Pool

/-- Replaces one setting by name. An unknown name, or a value that cannot be read, is refused. -/
def set? (c : Pool) (name : String) (v : Value) : Option Pool :=
  match name with
  | "max_active" => v.nat?.map fun n => { c with maxActive := n }
  | "max_idle" => v.nat?.map fun n => { c with maxIdle := n }
  | "min_idle" => v.nat?.map fun n => { c with minIdle := n }
  | "test_on_borrow" => v.bool?.map fun b => { c with testOnBorrow := b }
  | "test_on_return" => v.bool?.map fun b => { c with testOnReturn := b }
  | "test_while_idle" => v.bool?.map fun b => { c with testWhileIdle := b }
  | "time_between_eviction_runs_ms" =>
    (v.optional? Value.nat?).map fun t => { c with timeBetweenEvictionRuns := t }
  | "min_evictable_idle_time_ms" =>
    (v.optional? Value.nat?).map fun t => { c with minEvictableIdleTime := t }
  | "max_wait_ms" => (v.optional? Value.nat?).map fun t => { c with maxWait := t }
  | "when_exhausted" =>
    (v.choice? >>= WhenExhausted.ofName?).map fun w => { c with whenExhausted := w }
  | "lifo" => v.bool?.map fun b => { c with lifo := b }
  | _ => none

private def names : List String :=
  ["max_active", "max_idle", "min_idle", "test_on_borrow", "test_on_return", "test_while_idle",
    "time_between_eviction_runs_ms", "min_evictable_idle_time_ms", "max_wait_ms",
    "when_exhausted", "lifo"]

/-- Reads settings over the defaults. Fields of other names are passed over. -/
def ofValue? (v : Value) : Option Pool := do
  let fields ← v.fields? names
  names.foldlM (fun c name => field? fields name (c.set? name) c) {}

end Pool

end DirectoryClient.Settings
