import DirectoryClient.Cursor

/-! Iteration over the entries of a search: references become errors, intermediate responses are
passed over, and an unsuccessful end becomes the last item. -/
namespace DirectoryClient

structure EntryIterator where
  cursor : Cursor
  isReported : Bool := false

namespace EntryIterator

abbrev Item := Option (Outcome Search.Entry)

/-- The last item: an error if the search has ended with one. -/
def lastItem (c : Cursor) : Item :=
  match c.done.map OperationResult.nonError with
  | some (.error e) => some (.error e)
  | _ => none

def advance (late : Bool) : Nat → EntryIterator → Stream → Move EntryIterator Item
  | 0, it, s => { result := none, reader := it, stream := s }
  | steps + 1, it, s =>
    let m := it.cursor.next late s
    let it := { it with cursor := m.reader }
    match m.result with
    | none => { result := none, reader := it, stream := m.stream, abandons := m.abandons }
    | some (.error e) =>
      { result := some (some (.error e)), reader := it, stream := m.stream
        abandons := m.abandons }
    | some (.ok false) =>
      let item := if it.isReported then none else lastItem it.cursor
      { result := some item, reader := { it with isReported := true }, stream := m.stream
        abandons := m.abandons }
    | some (.ok true) =>
      if it.cursor.isOn .intermediate then
        let rest := advance late steps it m.stream
        { rest with abandons := m.abandons || rest.abandons }
      else
        { result := some (some it.cursor.entry), reader := it, stream := m.stream
          abandons := m.abandons }

/-- Goes to the next item. Every response passed over has been queued, so one move more than there
are queued responses comes to an item or has to wait. -/
def next (late : Bool) (it : EntryIterator) (s : Stream) : Move EntryIterator Item :=
  it.advance late (s.queue.length + 1) s

end EntryIterator

end DirectoryClient
