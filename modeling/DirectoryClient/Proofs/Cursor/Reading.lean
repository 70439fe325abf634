import DirectoryClient.Cursor
import DirectoryClient.Proofs.Slot.Doneness

/-! A cursor in use: whoever delivers responses and whoever reads them take turns, section by section,
and time passes. -/
namespace DirectoryClient

open Slot (Gathering Acts Event)

def Message.isPosition (m : Message) : Bool :=
  match m.response with
  | .entry .. | .reference _ | .intermediate .. => true
  | _ => false

theorem Message.kind_of_isPosition {m : Message} (h : m.isPosition = true) : m.kind ≠ .done := by
  rw [isPosition] at h
  rw [kind]
  split at h <;> simp_all [Response.kind]

def Message.final? (m : Message) : Option OperationResult :=
  match m.response with
  | .done r => some r
  | _ => none

namespace Cursor

inductive Occurrence where
  /-- Somebody has made a section on the slot. -/
  | seen (x : Stream.Moment)
  /-- The cursor has been asked for the next response; how it stands afterwards. -/
  | returned (result : Outcome Bool) (after : Cursor)
  /-- A movement other than forward has been refused. -/
  | refused (cause : DirectoryError)
  | closed
  | dropped

structure Reading where
  gathering : Gathering Stream Message
  cursor : Cursor
  /-- The caller at the slot who waits for the cursor. -/
  caller : Option Nat := none
  /-- The cursor has been dropped. -/
  isGone : Bool := false

namespace Reading

def move {α : Type} (m : Move Cursor α) (r : Reading) : Reading :=
  { r with
    gathering :=
      { r.gathering with slot := m.stream, owed := r.gathering.owed + m.abandons.toNat }
    cursor := m.reader
    caller := none }

def sections {α : Type} (m : Move Cursor α) (r : Reading) : List Occurrence :=
  if m.abandons then [.seen ⟨r.gathering.now, r.gathering.slot, .cancelled true true, m.stream⟩]
  else []

def await (timeout : Option Nat) (r : Reading) : Reading :=
  { r with
    gathering := { r.gathering with waiters := r.gathering.waiters ++
      [{ deadline := Slot.deadline r.gathering.now timeout }] }
    caller := some r.gathering.waiters.length }

def isIdle (r : Reading) : Bool := r.caller.isNone && !r.isGone

/-- The next thing that happens, and what is seen of it. The time to wait for a response is the same
for every response. -/
inductive Step (timeout : Option Nat) : Reading → List Occurrence → Reading → Prop
  | deliver (r : Reading) (d : Stream.Delivery) (g : Gathering Stream Message) :
    Acts r.cursor.id r.gathering (.delivered d) g →
    Step timeout r [.seen ⟨r.gathering.now, r.gathering.slot, .delivered d, g.slot⟩]
      { r with gathering := g }
  | abandon (r : Reading) (g : Gathering Stream Message) :
    Acts (δ := Stream.Delivery) r.cursor.id r.gathering .abandoned g →
    Step timeout r [.seen ⟨r.gathering.now, r.gathering.slot, .abandoned, g.slot⟩]
      { r with gathering := g }
  | pass (r : Reading) (t : Nat) : r.gathering.now ≤ t →
    Step timeout r [] { r with gathering := { r.gathering with now := t } }
  | use (r : Reading) (line : Option Line) :
    Step timeout r [] { r with gathering := { r.gathering with line } }
  /-- The cursor is asked for the next response, and begins to wait for it. -/
  | begin (r : Reading) : r.isIdle = true → r.cursor.isOver = false →
    Step timeout r [] (r.await timeout)
  /-- A cursor that goes nowhere any more says so at once. -/
  | stay (r : Reading) : r.isIdle = true → r.cursor.isOver = true →
    Step timeout r [.returned (.ok false) r.cursor] r
  | look (r : Reading) (i : Nat) (f : Slot.Finding Message) (g : Gathering Stream Message) :
    r.caller = some i → Acts (δ := Stream.Delivery) r.cursor.id r.gathering (.looked i f) g →
    Step timeout r [.seen ⟨r.gathering.now, r.gathering.slot, .looked i f, g.slot⟩]
      { r with gathering := g }
  | expire (r : Reading) (i : Nat) (won : Bool) (g : Gathering Stream Message) :
    r.caller = some i → Acts (δ := Stream.Delivery) r.cursor.id r.gathering (.expired i won) g →
    Step timeout r [.seen ⟨r.gathering.now, r.gathering.slot, .expired i won, g.slot⟩]
      { r with gathering := g }
  /-- The cursor makes something of the outcome of its waiting. -/
  | receive (r : Reading) (i : Nat) (w : Slot.Waiter Message) (o : Outcome Message)
    (result : Outcome Bool) : r.caller = some i → r.gathering.waiters[i]? = some w →
    w.outcome? = some o → (r.cursor.receive r.gathering.slot o).result = some result →
    Step timeout r (r.sections (r.cursor.receive r.gathering.slot o) ++
        [.returned result (r.cursor.receive r.gathering.slot o).reader])
      (r.move (r.cursor.receive r.gathering.slot o))
  | refuse (r : Reading) (operation : String) : r.isIdle = true →
    Step timeout r [.refused (unsupported operation)] r
  | close (r : Reading) : r.isIdle = true →
    Step timeout r (r.sections (r.cursor.close r.gathering.slot) ++ [.closed])
      (r.move (r.cursor.close r.gathering.slot))
  /-- Dropping a cursor closes it. -/
  | drop (r : Reading) : r.isIdle = true →
    Step timeout r (r.sections (r.cursor.close r.gathering.slot) ++ [.dropped])
      { r.move (r.cursor.close r.gathering.slot) with isGone := true }

def start (id : MessageId) (detector : Search.BinaryDetector) (line : Option Line) (now : Nat) :
    Reading where
  gathering := { slot := {}, line, now }
  cursor := { id, detector }

inductive Run (id : MessageId) (timeout : Option Nat) : List Occurrence → Reading → Prop
  | start (detector : Search.BinaryDetector) (line : Option Line) (now : Nat) :
    Run id timeout [] (start id detector line now)
  | step {xs ys : List Occurrence} {r r' : Reading} : Run id timeout xs r → Step timeout r ys r' →
    Run id timeout (xs ++ ys) r'

end Reading

end Cursor

end DirectoryClient
