import DirectoryClient.Address.InternetLabel

/-! Names of hosts on the internet, in any script. Names with the same plain form, which differ only in
case, in ornament or in characters that are left out, are the same name. -/
namespace DirectoryClient.Address

open Text

private def plainText? (written : List Char) : Option (List Char) :=
  (written.mapM plainForm?).map fun forms => composed forms.flatten

private def areLabels (labels : List (List Char)) : Bool :=
  match labels.mapM labelText? with
  | none => false
  | some texts => texts.all isLabelText && directionsAgree (texts.map (·.map direction))

def internetName? (written : String) : Option String :=
  ((plainText? written.toList).map String.ofList).filter fun name =>
    areLabels ((name.splitOn ".").map String.toList)

end DirectoryClient.Address
