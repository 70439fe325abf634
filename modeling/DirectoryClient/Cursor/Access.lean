import DirectoryClient.Cursor.Entries
import DirectoryClient.Slot.Access

/-! Reading a search whose slot is kept in a larger world, in which other things happen and time
passes. -/
namespace DirectoryClient

/-- How to reach the slot of one search in a world. -/
abbrev StreamAccess (ω : Type) := Slot.Access Stream ω

namespace StreamAccess

variable {ω κ α : Type}

def commit (a : StreamAccess ω) (m : Move κ α) (w : ω) : ω :=
  let w := a.put m.stream w
  if m.abandons then a.abandon w else w

section Perform

variable (a : StreamAccess ω) (move : Bool → κ → Stream → Move κ α)

/-- Looks into the slot, and moves a reader if there is something to read; `late` if the time to wait for
it is over. -/
def glance (late : Bool) (reader : κ) (w : ω) : Option α × κ × ω :=
  let m := move late reader (a.get w)
  (m.result, m.reader, a.commit m w)

/-- Waits with a reader until there is something to read, or the time is over. Without a bound, the wait
may never end. -/
def await? (reader : κ) (w : ω) : Option (α × κ × ω) :=
  let again : κ → ω → Option (α × κ × ω) := by apply await?
  match a.glance move a.isBounded reader (a.pass w) with
  | (some r, reader, w) => some (r, reader, w)
  | (none, reader, w) => again reader w
partial_fixpoint

/-- Moves a reader: at once if there is something to read, otherwise after a wait. -/
def perform? (reader : κ) (w : ω) : Option (α × κ × ω) :=
  match a.glance move false reader (a.settle w) with
  | (some r, reader, w) => some (r, reader, w)
  | (none, reader, w) => a.await? move reader w

end Perform

def next? (a : StreamAccess ω) (c : Cursor) (w : ω) : Option (Outcome Bool × Cursor × ω) :=
  a.perform? Cursor.next c w

def close (a : StreamAccess ω) (c : Cursor) (w : ω) : Cursor × ω :=
  let m := c.close (a.get w)
  (m.reader, a.commit m w)

def nextItem? (a : StreamAccess ω) (it : EntryIterator) (w : ω) :
    Option (EntryIterator.Item × EntryIterator × ω) :=
  a.perform? EntryIterator.next it w

/-- How many items an iteration can still have: one for each queued response, and two for its end. -/
def itemBound (a : StreamAccess ω) (w : ω) : Nat := (a.get (a.settle w)).queue.length + 2

def items (a : StreamAccess ω) : Nat → EntryIterator → ω →
    List (Outcome Search.Entry) × EntryIterator × ω
  | 0, it, w => ([], it, w)
  | n + 1, it, w =>
    match a.nextItem? it w with
    | none => ([], it, w)
    | some (none, it, w) => ([], it, w)
    | some (some item, it, w) =>
      let (items, it, w) := a.items n it w
      (item :: items, it, w)

section Drain

variable (a : StreamAccess ω)

/-- Goes over the responses to the end of a search, and says whether no failure came before it. A search
that never ends has no outcome. -/
def drain? (c : Cursor) (w : ω) : Option (Bool × Cursor × ω) :=
  let again : Cursor → ω → Option (Bool × Cursor × ω) := by apply drain?
  match a.next? c w with
  | none => none
  | some (.ok true, c, w) => again c w
  | some (.ok false, c, w) => some (true, c, w)
  | some (.error _, c, w) => some (false, c, w)
partial_fixpoint

end Drain

end StreamAccess

end DirectoryClient
