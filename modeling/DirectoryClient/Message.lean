import DirectoryClient.Error
import DirectoryClient.ExtendedOperation

/-! Messages from the server: an id, a response and the controls beside it. -/
namespace DirectoryClient

inductive Response where
  | bind (result : OperationResult) (saslCredentials : Option Octets)
  /-- A search entry as it came; reading its attributes is left to whoever wants them. -/
  | entry (element : Ber.Element) (controls : List Control)
  | reference (urls : List String)
  | intermediate (name : Option String) (value : Option Octets)
  | done (result : OperationResult)
  | extended (result : OperationResult) (operation : ExtendedOperation)
  /-- Any other response, with the number of its tag. -/
  | other (operation : Nat) (result : OperationResult)
  deriving Repr

namespace Response

def kind : Response → ResponseKind
  | bind .. | other .. => .result
  | entry .. => .entry
  | reference _ => .reference
  | intermediate .. => .intermediate
  | done _ => .done
  | extended .. => .extended

def result? : Response → Option OperationResult
  | bind r _ | done r | extended r _ | other _ r => some r
  | _ => none

end Response

structure Message where
  id : MessageId
  response : Response
  controls : List Control
  deriving Repr

namespace Message

def kind (m : Message) : ResponseKind := m.response.kind

def noticeOfDisconnection : String := "1.3.6.1.4.1.1466.20036"

/-- The message announces a disconnection: it has the id zero and the name of the notice. -/
def isNoticeOfDisconnection (m : Message) : Bool :=
  match m.response with
  | .extended _ op => m.id == 0 && op.name == some noticeOfDisconnection
  | _ => false

end Message

end DirectoryClient
