import DirectoryClient.Cursor.Access
import DirectoryClient.Scenario.Answer

/-! Steps on a reader of a search: a cursor, or an iteration over entries. -/
namespace DirectoryClient.Scenario

inductive Reader where
  | cursor (c : Cursor)
  | entries (it : EntryIterator)

inductive ReaderStep where
  | next
  | get
  | current
  | referrals
  | intermediate
  | result
  | close
  | messageId
  /-- A movement other than forward. -/
  | move (operation : String)
  /-- Turns a cursor into an iteration. -/
  | entries
  | nextItem
  | collect
  | finalResult

namespace Reader

def inner : Reader → Cursor
  | cursor c => c
  | entries it => it.cursor

def state (r : Reader) : ReaderState where
  isAvailable := r.inner.isAvailable
  isOnEntry := r.inner.isOn .entry
  isOnReference := r.inner.isOn .reference
  isOnIntermediate := r.inner.isOn .intermediate
  isClosed := r.inner.isClosed
  code := r.inner.done.map OperationResult.code

variable {ω : Type}

def actCursor (a : StreamAccess ω) (step : ReaderStep) (c : Cursor) (w : ω) :
    Answer × Reader × ω :=
  match step with
  | .next =>
    match a.next? c w with
    | none => (.gone, cursor c, w)
    | some (r, c, w) => (.flag r, cursor c, w)
  | .get => (.entry c.entry, cursor c, w)
  | .current => (.message (.ok c.current?), cursor c, w)
  | .referrals => (.urls c.referrals, cursor c, w)
  | .intermediate => (.intermediate c.intermediate, cursor c, w)
  | .result => (.result (.ok c.done), cursor c, w)
  | .close =>
    let (c, w) := a.close c w
    (.nothing, cursor c, w)
  | .messageId => (.number (.ok c.id), cursor c, w)
  | .move operation => (.unit (.error (Cursor.unsupported operation)), cursor c, w)
  | .entries => (.nothing, entries { cursor := c }, w)
  | .nextItem | .collect | .finalResult => (.gone, cursor c, w)

def actEntries (a : StreamAccess ω) (step : ReaderStep) (it : EntryIterator) (w : ω) :
    Answer × Reader × ω :=
  match step with
  | .nextItem =>
    match a.nextItem? it w with
    | none => (.gone, entries it, w)
    | some (r, it, w) => (.item r, entries it, w)
  | .collect =>
    let (items, it, w) := a.items (a.itemBound w) it w
    (.items items, entries it, w)
  | .finalResult => (.result (.ok it.cursor.done), entries it, w)
  | _ => (.gone, entries it, w)

def act (a : StreamAccess ω) (step : ReaderStep) (r : Reader) (w : ω) : Answer × Reader × ω :=
  match r with
  | cursor c => actCursor a step c w
  | entries it => actEntries a step it w

def drop (a : StreamAccess ω) (r : Reader) (w : ω) : ω :=
  (a.close r.inner w).2

end Reader

end DirectoryClient.Scenario
