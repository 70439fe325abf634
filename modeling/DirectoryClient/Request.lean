import DirectoryClient.Error
import DirectoryClient.ExtendedOperation

/-! The operations a client asks for, apart from searches, as elements of the application class. -/
namespace DirectoryClient.Request

open Ber

def version : Int := 3

def simpleBind (name password : String) : Element :=
  .constructed ⟨.application, 0⟩ [
    .integer version,
    .octetString (Text.encode name),
    .contextPrimitive 0 (Text.encode password)]

/-- One round of an authentication by a mechanism. Absent and empty credentials differ. -/
def saslBind (mechanism : String) (credentials : Option Octets) : Element :=
  .constructed ⟨.application, 0⟩ [
    .integer version,
    .octetString [],
    .contextConstructed 3 <|
      .octetString (Text.encode mechanism) :: credentials.toList.map .octetString]

def unbind : Element := .primitive ⟨.application, 2⟩ []

def abandon (id : MessageId) : Element := .primitive ⟨.application, 16⟩ (integerOctets id)

def extended (op : ExtendedOperation) : Element :=
  .constructed ⟨.application, 23⟩ op.components

end DirectoryClient.Request
