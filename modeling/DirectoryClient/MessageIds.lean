import DirectoryClient.Error

/-! Message ids: a counter that runs in a circle, and the set of ids in use. -/
namespace DirectoryClient

/-- The ids of one transport. The ids in use are kept in ascending order. -/
structure MessageIds where
  last : MessageId := 0
  used : List MessageId := []
  deriving DecidableEq, Repr

namespace MessageIds

def largest : MessageId := 2147483647

/-- The id after this one; one follows the largest. -/
def successor (id : MessageId) : MessageId :=
  if id = largest then 1 else id + 1

def insertInto (id : MessageId) : List MessageId → List MessageId
  | [] => [id]
  | i :: is =>
    if id < i then id :: i :: is
    else if id = i then i :: is
    else i :: insertInto id is

/-- The first of the candidate and its successors that is not in use, among `tries` of them and up to
the last id itself. -/
def firstFree? (ids : MessageIds) : Nat → MessageId → Option MessageId
  | 0, _ => none
  | tries + 1, candidate =>
    if candidate ∉ ids.used then some candidate
    else if candidate = ids.last then none
    else firstFree? ids tries (successor candidate)

/-- Takes the first free id after the last one. One try more than ids are in use is enough. -/
def next (ids : MessageIds) : Outcome (MessageId × MessageIds) :=
  match ids.firstFree? (ids.used.length + 1) (successor ids.last) with
  | some id => .ok (id, { last := id, used := insertInto id ids.used })
  | none => .error (.accounting .noFreeMessageId)

/-- Gives an id back. One that is not in use changes nothing. -/
def release (ids : MessageIds) (id : MessageId) : MessageIds :=
  { ids with used := ids.used.filter (· ≠ id) }

def ofUsed (last : MessageId) (used : List MessageId) : MessageIds :=
  { last, used := used.foldr insertInto [] }

@[simp]
theorem mem_insertInto {id i : MessageId} {is : List MessageId} :
    i ∈ insertInto id is ↔ i = id ∨ i ∈ is := by
  induction is with
  | nil => simp [insertInto]
  | cons j js ih =>
    rw [insertInto]
    split
    · simp
    · split
      · rename_i h
        subst h
        simp
      · simp only [List.mem_cons, ih]
        constructor
        · rintro (h | h | h) <;> simp [h]
        · rintro (h | h | h) <;> simp [h]

@[simp]
theorem mem_release {ids : MessageIds} {id i : MessageId} :
    i ∈ (ids.release id).used ↔ i ∈ ids.used ∧ i ≠ id := by
  simp [release]

end MessageIds

end DirectoryClient
