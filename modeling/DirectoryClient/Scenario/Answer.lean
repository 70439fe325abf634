import DirectoryClient.Cursor.Entries
import DirectoryClient.Settings.Pool

/-! What a step of a scenario answers. -/
namespace DirectoryClient.Scenario

structure ReaderState where
  isAvailable : Bool
  isOnEntry : Bool
  isOnReference : Bool
  isOnIntermediate : Bool
  isClosed : Bool
  code : Option UInt32

/-- The answer to a step. Each kind of answer has the shape of what was asked for. -/
inductive Answer where
  /-- The step returns nothing. -/
  | nothing
  /-- The step names what is not there. -/
  | gone
  | unit (outcome : Outcome Unit)
  | flag (outcome : Outcome Bool)
  | flags (values : List Bool)
  | number (outcome : Outcome Int)
  | text (value : Option String)
  | time (value : Option Nat)
  | entry (outcome : Outcome Search.Entry)
  | message (outcome : Outcome (Option Message))
  | urls (outcome : Outcome (List String))
  | intermediate (outcome : Outcome (Option String × Option Octets))
  | result (outcome : Outcome (Option OperationResult))
  | extended (outcome : Outcome (ExtendedOperation × OperationResult))
  | warning (outcome : Outcome (Option PasswordPolicy.Warning))
  | item (item : EntryIterator.Item)
  | items (items : List (Outcome Search.Entry))
  /-- Whether a slot is done, whether it is cancelled, and what a stream has available. -/
  | slot (isDone isCancelled : Bool) (available : Option Nat)
  /-- How many connections of a pool are idle and how many are out, and the form of one of them. -/
  | loan (idle active : Nat) (description : String)
  | settings (settings : Settings.Pool)
  /-- The answer of a reader, and what can be seen of it afterwards. -/
  | read (answer : Answer) (state : ReaderState)

end DirectoryClient.Scenario
