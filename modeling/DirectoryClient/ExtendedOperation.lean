import DirectoryClient.Ber.Element
import DirectoryClient.Text.Utf8

/-! Extended operations: a name and a value, in requests and in responses. -/
namespace DirectoryClient

/-- An extended operation in its general form. A response may lack both parts; a request has a
name. -/
structure ExtendedOperation where
  name : Option String := none
  value : Option Octets := none
  deriving DecidableEq, Repr

namespace ExtendedOperation

open Ber

def whoAmI : ExtendedOperation := { name := some "1.3.6.1.4.1.4203.1.11.3" }

def startTls : ExtendedOperation := { name := some "1.3.6.1.4.1.1466.20037" }

/-- The components of a request. A missing name is written as an empty one. -/
def components (op : ExtendedOperation) : List Element :=
  .contextPrimitive 0 (op.name.elim [] Text.encode) :: op.value.toList.map (.contextPrimitive 1)

/-- The identity in the response to `whoAmI`; an absent value reads as the empty identity. -/
def authorizationIdentity (op : ExtendedOperation) : String :=
  Text.decodeLossy (op.value.getD [])

end ExtendedOperation

end DirectoryClient
