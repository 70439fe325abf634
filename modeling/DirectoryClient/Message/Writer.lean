import DirectoryClient.Control
import DirectoryClient.Error
import DirectoryClient.Ber.Writer

/-! Writing messages to the server. -/
namespace DirectoryClient.Message

open Ber

/-- The envelope of a request. No controls and an empty list of controls are written differently. -/
def envelope (id : MessageId) (operation : Element) (controls : Option (List Control)) : Element :=
  .sequence <|
    [.integer id, operation]
      ++ controls.toList.map fun cs => .contextConstructed 0 (cs.map Control.element)

def encode (id : MessageId) (operation : Element) (controls : Option (List Control)) : Octets :=
  (envelope id operation controls).write

end DirectoryClient.Message
