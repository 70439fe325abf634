import DirectoryClient.Proofs.Ber.RoundTrip
import DirectoryClient.Proofs.Message.RoundTrip
import DirectoryClient.Proofs.Text.Lenient

/-! Responses as a server puts them into elements: what is read from these is what was put into them,
and what was left out is told from what is empty. -/
namespace DirectoryClient

open Ber

namespace Response

def component (n : Nat) (octets : Option Octets) : List Element :=
  octets.toList.map (.contextPrimitive n)

def urlElements (urls : List String) : List Element :=
  urls.map fun url => .octetString (Text.encode url)

def referralComponent (urls : List String) : List Element :=
  if urls = [] then [] else [.contextConstructed 3 (urlElements urls)]

def resultComponents (r : OperationResult) : List Element :=
  .enumerated r.code.toNat :: .octetString (Text.encode r.matchedName)
    :: .octetString (Text.encode r.diagnostic) :: referralComponent r.referrals

def element : Response → Element
  | bind r credentials =>
    .constructed ⟨.application, 1⟩ (resultComponents r ++ component 7 credentials)
  | entry e _ => e
  | done r => .constructed ⟨.application, 5⟩ (resultComponents r)
  | reference urls => .constructed ⟨.application, 19⟩ (urlElements urls)
  | extended r op =>
    .constructed ⟨.application, 24⟩
      (resultComponents r ++ (component 10 (op.name.map Text.encode) ++ component 11 op.value))
  | intermediate name value =>
    .constructed ⟨.application, 25⟩ (component 0 (name.map Text.encode) ++ component 1 value)
  | other n r => .constructed ⟨.application, n⟩ (resultComponents r)

/-- An entry has its own tag, and any other response none of the tags that mean something else. -/
def IsProper : Response → Prop
  | entry e _ => e.tag = ⟨.application, 4⟩
  | other n _ => n ∉ [1, 4, 5, 19, 24, 25]
  | _ => True

def withControls (controls : List Control) : Response → Response
  | bind r credentials => bind { r with controls } credentials
  | entry e _ => entry e controls
  | done r => done { r with controls }
  | extended r op => extended { r with controls } op
  | other n r => other n { r with controls }
  | r => r

/-- What the tag number of a response says about its kind. -/
def kindOfNumber : Nat → ResponseKind
  | 4 => .entry
  | 5 => .done
  | 19 => .reference
  | 24 => .extended
  | 25 => .intermediate
  | _ => .result

private theorem referralsOf_urlElements (t : Tag) (urls : List String) :
    referralsOf (.constructed t (urlElements urls)) = .ok urls := by
  show (urlElements urls).mapM (fun u =>
    Malformed.referralUri.require (u.octets? >>= Text.decode?)) = .ok urls
  induction urls with
  | nil => rfl
  | cons url urls ih =>
    rw [urlElements, List.map_cons, List.mapM_cons]
    apply Outcome.bind_eq_ok.mpr
    refine ⟨url, Malformed.require_eq_ok.mpr (Text.decode?_encode url), ?_⟩
    exact Outcome.bind_eq_ok.mpr ⟨urls, ih, rfl⟩

private theorem resultCode?_enumerated (code : UInt32) :
    resultCode? (.enumerated code.toNat) = some code := by
  have hcapacity : Octets.capacity 8 = 2 ^ 64 := by decide
  have hlt : code.toNat < 2 ^ 32 := code.toNat_lt
  have hread : Octets.toNat (integerOctets code.toNat) = code.toNat := by
    rw [toNat_integerOctets (Int.natCast_nonneg _), Int.toNat_natCast]
  show some (UInt32.ofNat (Octets.toNat (integerOctets code.toNat) % Octets.capacity 8)) = _
  rw [hread, Nat.mod_eq_of_lt (by omega), UInt32.ofNat_toNat]

namespace ResultParts

variable (r : OperationResult) (controls : List Control)

private theorem foldlM_referralComponent (urls : List String) :
    (referralComponent urls).foldlM addComponent { result := r } =
      .ok { result := { r with referrals := r.referrals ++ urls } } := by
  rw [referralComponent]
  split
  · rename_i hnone
    rw [hnone, List.append_nil]
    rfl
  · rw [List.foldlM_cons]
    refine Outcome.bind_eq_ok.mpr ⟨_, ?_, rfl⟩
    exact Outcome.bind_eq_ok.mpr ⟨urls, referralsOf_urlElements _ urls, rfl⟩

private theorem foldlM_saslCredentials (credentials : Option Octets) :
    (component 7 credentials).foldlM addComponent { result := r } =
      .ok { result := r, saslCredentials := credentials } := by
  cases credentials <;> rfl

private theorem foldlM_operation (op : ExtendedOperation) :
    (component 10 (op.name.map Text.encode) ++ component 11 op.value).foldlM addComponent
      { result := r } = .ok { result := r, operation := op } := by
  obtain ⟨name, value⟩ := op
  rw [List.foldlM_append]
  refine Outcome.bind_eq_ok.mpr ⟨{ result := r, operation := { name } }, ?_, ?_⟩
  · cases name with
    | none => rfl
    | some name =>
      refine Outcome.bind_eq_ok.mpr ⟨_, ?_, rfl⟩
      refine Outcome.bind_eq_ok.mpr ⟨_, rfl, ?_⟩
      exact Outcome.bind_eq_ok.mpr ⟨name, Malformed.require_eq_ok.mpr (Text.decode?_encode name), rfl⟩
  · cases value <;> rfl

/-- The components of a result are read as the result, and those after them one after the other. -/
private theorem ofElement_resultComponents (t : Tag) (more : List Element) :
    ofElement (.constructed t (resultComponents r ++ more)) controls =
      more.foldlM addComponent { result := { r with controls } } := by
  have hcode : Malformed.resultCode.require (resultCode? (.enumerated r.code.toNat)) = .ok r.code :=
    Malformed.require_eq_ok.mpr (resultCode?_enumerated r.code)
  have hname : Malformed.matchedName.require (Text.decode? (Text.encode r.matchedName)) =
      .ok r.matchedName := Malformed.require_eq_ok.mpr (Text.decode?_encode r.matchedName)
  calc ofElement (.constructed t (resultComponents r ++ more)) controls
      = (do
          let code ← Malformed.resultCode.require (resultCode? (.enumerated r.code.toNat))
          let matchedName ← Malformed.matchedName.require (Text.decode? (Text.encode r.matchedName))
          let diagnostic := Text.decodeLossy (Text.encode r.diagnostic)
          (referralComponent r.referrals ++ more).foldlM addComponent
            { result := { code, matchedName, diagnostic, controls } }) := rfl
    _ = (do
          let p ← (referralComponent r.referrals).foldlM addComponent
            { result := { r with referrals := [], controls } }
          more.foldlM addComponent p) := by
      rw [hcode, hname, Text.decodeLossy_encode, ← List.foldlM_append]
      rfl
    _ = more.foldlM addComponent { result := { r with controls } } := by
      rw [foldlM_referralComponent]
      rfl

end ResultParts

private theorem intermediateParts_components (t : Tag) (name : Option String) (value : Option Octets) :
    intermediateParts (.constructed t (component 0 (name.map Text.encode) ++ component 1 value)) =
      .ok (name, value) := by
  rw [intermediateParts]
  refine Outcome.bind_eq_ok.mpr ⟨_, rfl, ?_⟩
  rw [List.foldlM_append]
  refine Outcome.bind_eq_ok.mpr ⟨(name, none), ?_, ?_⟩
  · cases name with
    | none => rfl
    | some name =>
      refine Outcome.bind_eq_ok.mpr ⟨_, ?_, rfl⟩
      refine Outcome.bind_eq_ok.mpr ⟨_, rfl, ?_⟩
      exact Outcome.bind_eq_ok.mpr ⟨name, Malformed.require_eq_ok.mpr (Text.decode?_encode name), rfl⟩
  · cases value <;> rfl

/-- A response is read from its element, with the controls of its message. -/
theorem ofElement_element {r : Response} (hr : r.IsProper) (controls : List Control) :
    ofElement r.element controls = .ok (r.withControls controls) := by
  cases r with
  | bind r credentials =>
    apply Outcome.bind_eq_ok.mpr
    refine ⟨{ result := { r with controls }, saslCredentials := credentials }, ?_, rfl⟩
    rw [element, ResultParts.ofElement_resultComponents, ResultParts.foldlM_saslCredentials]
  | entry e cs =>
    have htag : e.tag = ⟨.application, 4⟩ := hr
    simp only [element, ofElement, Element.tagClass, Element.number, htag]
    rfl
  | reference urls =>
    exact Outcome.bind_eq_ok.mpr ⟨urls, referralsOf_urlElements _ urls, rfl⟩
  | intermediate name value =>
    exact Outcome.bind_eq_ok.mpr ⟨(name, value), intermediateParts_components _ name value, rfl⟩
  | done r =>
    apply Outcome.bind_eq_ok.mpr
    refine ⟨{ result := { r with controls } }, ?_, rfl⟩
    have hread := ResultParts.ofElement_resultComponents r controls ⟨.application, 5⟩ []
    rwa [List.append_nil] at hread
  | extended r op =>
    apply Outcome.bind_eq_ok.mpr
    refine ⟨{ result := { r with controls }, operation := op }, ?_, rfl⟩
    rw [element, ResultParts.ofElement_resultComponents, ResultParts.foldlM_operation]
  | other n r =>
    have hread := ResultParts.ofElement_resultComponents r controls ⟨.application, n⟩ []
    rw [List.append_nil] at hread
    simp only [IsProper, List.mem_cons, List.not_mem_nil, or_false, not_or] at hr
    obtain ⟨h1, h4, h5, h19, h24, h25⟩ := hr
    simp only [element, ofElement, Element.tagClass, Element.number, Element.tag, ne_eq,
      not_true_eq_false, ↓reduceIte]
    exact Outcome.bind_eq_ok.mpr ⟨_, hread, rfl⟩

private theorem tagClass_element {r : Response} (hr : r.IsProper) :
    r.element.tagClass = .application := by
  cases r with
  | entry e cs =>
    have htag : e.tag = ⟨.application, 4⟩ := hr
    rw [element, Element.tagClass, htag]
  | bind | reference | intermediate | done | extended | other => rfl

/-- A response is read back from what is written for its message. -/
theorem next?_encode {r : Response} (hr : r.IsProper) {id : MessageId} (hid : 0 ≤ id)
    (hle : id ≤ MessageIds.largest) (hfits : r.element.Fits) {controls : Option (List Control)}
    (hsize : (Message.encode id r.element controls).length < Octets.capacity 8) :
    Message.next? (Message.encode id r.element controls) =
      some (.ok { id, response := r.withControls (controls.getD []), controls := controls.getD [] },
        []) := by
  rw [Message.next?_eq, Message.next?_encode hid hle (tagClass_element hr) hfits hsize, Option.map_some]
  refine congrArg (fun o => some (o, [])) (Outcome.bind_eq_ok.mpr ⟨_, rfl, ?_⟩)
  rw [Envelope.message, ofElement_element hr]
  rfl

private theorem kind_eq_kindOfNumber {r : Response} (hr : r.IsProper) :
    r.kind = kindOfNumber r.element.number := by
  cases r with
  | entry e cs =>
    have htag : e.tag = ⟨.application, 4⟩ := hr
    rw [element, Element.number, htag]
    rfl
  | other n r =>
    simp only [IsProper, List.mem_cons, List.not_mem_nil, or_false, not_or] at hr
    obtain ⟨h1, h4, h5, h19, h24, h25⟩ := hr
    simp only [element, Element.number, Element.tag, kindOfNumber]
    rfl
  | bind | reference | intermediate | done | extended => rfl

/-- A response that refers elsewhere, with the largest code and with texts beyond ASCII. -/
def referredAddition : Response :=
  .other 9
    { code := 4294967295
      matchedName := "cn=ü"
      diagnostic := "é\n"
      referrals := ["ldap://a/ö", ""] }

end Response

end DirectoryClient
