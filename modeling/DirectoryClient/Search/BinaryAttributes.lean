/-! Deciding which attributes hold binary values. -/
namespace DirectoryClient.Search

/-- A decision for each attribute description: are its values binary? -/
abbrev BinaryDetector := String → Bool

namespace BinaryDetector

def wellKnown : List String :=
  ["photo", "personalsignature", "audio", "jpegphoto", "javaserializeddata", "thumbnailphoto",
    "thumbnaillogo", "userpassword", "usercertificate", "cacertificate",
    "authorityrevocationlist", "certificaterevocationlist", "crosscertificatepair",
    "x500uniqueidentifier", "objectguid", "objectsid", "msexchmailboxguid",
    "msexchmailboxsecuritydescriptor", "ntsecuritydescriptor"]

/-- Binary are the well-known types, the added ones, and whatever has the option `binary`. The case
of ASCII letters does not matter. -/
def standard (added : List String) : BinaryDetector := fun description =>
  match description.toLower.splitOn ";" with
  | [] => false
  | type :: options =>
    options.contains "binary" || wellKnown.contains type
      || (added.map String.toLower).contains type

def everything : BinaryDetector := fun _ => true

end BinaryDetector

end DirectoryClient.Search
