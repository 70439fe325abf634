import DirectoryClient.Ber.Frame

/-! Reading elements. The only way to fail is to want more octets: an inner element that runs past
its parent wants more, too. -/
namespace DirectoryClient.Ber

def readAll? (bs : Octets) : Option (List Element) :=
  if bs = [] then
    some []
  else
    match _h : Frame.split? bs with
    | none => none
    | some f =>
      let first :=
        if f.isConstructed then (readAll? f.content).map (.constructed f.tag)
        else some (.primitive f.tag f.content)
      match first with
      | none => none
      | some e => (readAll? f.rest).map (e :: ·)
termination_by bs.length
decreasing_by all_goals have := Frame.length_lt _h; omega

def Frame.element? (f : Frame) : Option Element :=
  if f.isConstructed then (readAll? f.content).map (.constructed f.tag)
  else some (.primitive f.tag f.content)

def read? (bs : Octets) : Option (Element × Octets) :=
  match Frame.split? bs with
  | none => none
  | some f => f.element?.map (·, f.rest)

end DirectoryClient.Ber
