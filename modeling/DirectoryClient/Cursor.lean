import DirectoryClient.Search.Entry
import DirectoryClient.Slot.Stream

/-! A cursor that goes forward over the responses of a search. It looks at the slot of the search in
single moves, so that whoever holds the slot decides when time passes. -/
namespace DirectoryClient

/-- Where a cursor stands. It holds a response exactly while it stands on one. -/
inductive Cursor.Place where
  | start
  | on (response : Message)
  | exhausted
  | closed
  | failed

/-- A cursor over a search: its message id, how it reads entries, where it stands, and the final
result once it has been read. -/
structure Cursor where
  id : MessageId
  detector : Search.BinaryDetector
  place : Cursor.Place := .start
  done : Option OperationResult := none

/-- One move of a reader: its result unless it has to wait, the reader and the slot after it, and
whether an abandon request is due. -/
structure Move (κ α : Type) where
  result : Option α
  reader : κ
  stream : Stream
  abandons : Bool := false

namespace Cursor

def isOver (c : Cursor) : Bool :=
  match c.place with
  | .exhausted | .closed | .failed => true
  | _ => false

def current? (c : Cursor) : Option Message :=
  match c.place with
  | .on m => some m
  | _ => none

def isAvailable (c : Cursor) : Bool := c.current?.isSome

def isOn (c : Cursor) (kind : ResponseKind) : Bool := c.current?.any (·.kind == kind)

def isClosed (c : Cursor) : Bool :=
  match c.place with
  | .closed => true
  | _ => false

/-- The cursor fails: it gives the search up and reports the cause. -/
def fail (c : Cursor) (s : Stream) (cause : DirectoryError) : Move Cursor (Outcome Bool) :=
  let (abandons, stream) := s.cancel true
  { result := some (.error (.cursorBroken cause))
    reader := { c with place := .failed }, stream, abandons }

/-- What the cursor makes of the next response: a place to stand on, the end, or a failure. -/
def receive (c : Cursor) (s : Stream) : Outcome Message → Move Cursor (Outcome Bool)
  | .error e => c.fail s e
  | .ok m =>
    match m.response with
    | .entry .. | .reference _ | .intermediate .. =>
      { result := some (.ok true), reader := { c with place := .on m }, stream := s }
    | .done r =>
      { result := some (.ok false), stream := s
        reader := { c with place := .exhausted, done := some r } }
    | _ => c.fail s (.decoding (.unexpectedInSearch m.kind m.id))

/-- Goes to the next response; `late` if the time to wait for it is over. -/
def next (late : Bool) (c : Cursor) (s : Stream) : Move Cursor (Outcome Bool) :=
  if c.isOver then { result := some (.ok false), reader := c, stream := s }
  else
    let step := Slot.Waiter.run c.id 0 { deadline := if late then some 0 else none } s
    match step.waiter.outcome? with
    | none => { result := none, reader := c, stream := step.slot, abandons := step.abandons }
    | some o =>
      let m := c.receive step.slot o
      { m with abandons := step.abandons || m.abandons }

def entry (c : Cursor) : Outcome Search.Entry :=
  match c.current? with
  | none => .error .invalidPosition
  | some m =>
    match m.response with
    | .entry e _ => Search.Entry.ofElement c.detector e
    | .reference urls => .error (.referral urls)
    | _ => .error .notAnEntry

def referrals (c : Cursor) : Outcome (List String) :=
  match c.current?.map Message.response with
  | some (.reference urls) => .ok urls
  | _ => .error .invalidPosition

def intermediate (c : Cursor) : Outcome (Option String × Option Octets) :=
  match c.current?.map Message.response with
  | some (.intermediate name value) => .ok (name, value)
  | _ => .error .invalidPosition

def close (c : Cursor) (s : Stream) : Move Cursor Unit :=
  let closed := { c with place := .closed }
  match c.place with
  | .start | .on _ =>
    let (abandons, stream) := s.cancel true
    { result := some (), reader := closed, stream, abandons }
  | _ => { result := some (), reader := closed, stream := s }

/-- A cursor goes forward only; any other movement is refused and changes nothing. -/
def unsupported (operation : String) : DirectoryError := .unsupportedOperation operation

end Cursor

end DirectoryClient
