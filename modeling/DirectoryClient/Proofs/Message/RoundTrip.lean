import DirectoryClient.Message.Writer
import DirectoryClient.Proofs.Ber.RoundTrip
import DirectoryClient.Proofs.Message.Envelope

/-! Envelopes as they are written and read: what is put into one comes out of it, and nothing comes out
as long as an octet is missing. -/
namespace DirectoryClient

open Ber

namespace Control

private theorem readComponents?_element (c : Control) :
    readComponents? ((if c.critical then [.boolean true] else []) ++ c.value.toList.map .octetString) =
      some (c.critical, c.value) := by
  -- Each component is there or not; a value alone is told from a criticality by its tag number.
  cases hcritical : c.critical <;> cases hvalue : c.value <;> rfl

private theorem ofElement?_element (c : Control) : ofElement? c.element = some c := by
  have hmembers : c.element.members? = some (.octetString (Text.encode c.oid)
      :: ((if c.critical then [.boolean true] else []) ++ c.value.toList.map .octetString)) := rfl
  have hoid : (Element.octetString (Text.encode c.oid)).octets?.bind Text.decode? = some c.oid :=
    Text.decode?_encode c.oid
  rw [ofElement?, hmembers]
  simp only [Option.bind_eq_bind, Option.bind_some, hoid, readComponents?_element]
  rfl

private theorem mapM_ofElement?_element (cs : List Control) :
    (cs.map element).mapM ofElement? = some cs := by
  induction cs with
  | nil => rfl
  | cons c cs ih =>
    rw [List.map_cons, List.mapM_cons, ofElement?_element, ih]
    rfl

private theorem fits_element (c : Control) : c.element.Fits := by
  apply Element.Fits.constructed (by decide)
  intro e he
  simp only [List.cons_append, List.mem_cons, List.mem_append, List.mem_map, Option.mem_toList] at he
  rcases he with rfl | he | ⟨v, -, rfl⟩
  · exact .primitive (by decide)
  · split at he
    · rw [List.mem_singleton.mp he]
      exact .primitive (by decide)
    · cases he
  · exact .primitive (by decide)

end Control

section Written

variable {id : MessageId} {operation : Element} {controls : Option (List Control)}

namespace Envelope

/-- An id is read back from its element. -/
theorem messageId?_integer (hid : 0 ≤ id) (hle : id ≤ MessageIds.largest) :
    messageId? (.integer id) = some id := by
  apply messageId?_eq_some_iff.mpr
  refine ⟨integerOctets id, rfl, ?_⟩
  have hcast : (id.toNat : Int) = id := Int.toNat_of_nonneg hid
  rw [toNat_integerOctets hid, (Octets.bmod_eq_iff id.toNat).mpr (hcast ▸ hle), hcast]

/-- An operation is not taken for controls, and controls are not taken for the operation. -/
private theorem splitEnd_written (hclass : operation.tagClass = .application) (i : Element) :
    splitEnd ([i, operation] ++ controls.toList.map fun cs =>
      Element.contextConstructed 0 (cs.map Control.element)).reverse =
        .ok (operation, controls.getD [], [i]) := by
  cases controls with
  | none => exact splitEnd_of_application hclass [i]
  | some cs =>
    have hlist : Control.listOfElement? (.contextConstructed 0 (cs.map Control.element)) = some cs :=
      Control.mapM_ofElement?_element cs
    change splitEnd [.contextConstructed 0 (cs.map Control.element), operation, i] = _
    simp only [Element.contextConstructed] at hlist ⊢
    simp only [splitEnd, Element.tag, ↓reduceIte, hlist]
    rfl

/-- What an envelope is made of is what is read from it. -/
theorem ofElement_envelope (hid : 0 ≤ id) (hle : id ≤ MessageIds.largest)
    (hclass : operation.tagClass = .application) :
    ofElement (Message.envelope id operation controls) =
      .ok { id, operation, controls := controls.getD [] } := by
  apply Outcome.bind_eq_ok.mpr
  refine ⟨[.integer id, operation] ++ controls.toList.map fun cs =>
    .contextConstructed 0 (cs.map Control.element), rfl, ?_⟩
  dsimp only
  rw [if_neg (by simp)]
  apply Outcome.bind_eq_ok.mpr
  refine ⟨_, splitEnd_written hclass (.integer id), ?_⟩
  apply Outcome.bind_eq_ok.mpr
  exact ⟨id, Malformed.require_eq_ok.mpr (messageId?_integer hid hle), rfl⟩

end Envelope

namespace Message

theorem fits_envelope (hoperation : operation.Fits) : (envelope id operation controls).Fits := by
  apply Element.Fits.constructed (by decide)
  intro e he
  simp only [List.cons_append, List.nil_append, List.mem_cons, List.mem_map, Option.mem_toList] at he
  rcases he with rfl | rfl | ⟨cs, -, rfl⟩
  · exact .primitive (by decide)
  · exact hoperation
  · apply Element.Fits.constructed (by decide)
    intro e he
    obtain ⟨c, -, rfl⟩ := List.mem_map.mp he
    exact c.fits_element

/-- Octets hold an envelope: it is taken off with nothing but these, whatever comes after them, and
nothing is taken off as long as they are not all there. -/
structure Holds (octets : Octets) (v : Envelope) : Prop where
  envelope : ∀ rest, Envelope.next? (octets ++ rest) = some (.ok v, rest)
  message : ∀ rest, next? (octets ++ rest) = some (v.message, rest)
  incomplete : ∀ front, front <+: octets → front ≠ octets → Envelope.next? front = none
  incompleteMessage : ∀ front, front <+: octets → front ≠ octets → next? front = none

/-- An envelope that is taken off with nothing left over is held. -/
private theorem Holds.intro {octets : Octets} {v : Envelope}
    (h : Envelope.next? octets = some (.ok v, [])) : Holds octets v := by
  have htaken (rest : Octets) : Envelope.next? (octets ++ rest) = some (.ok v, rest) :=
    Envelope.next?_append h rest
  have hwaits (front : Octets) (hfront : front <+: octets) (hne : front ≠ octets) :
      Envelope.next? front = none := by
    obtain ⟨back, rfl⟩ := hfront
    cases hearly : Envelope.next? front with
    | none => rfl
    | some x =>
      -- What is taken off already would leave the octets that are missing.
      obtain ⟨o, rest⟩ := x
      rw [Envelope.next?_append hearly] at h
      simp only [Option.some.injEq, Prod.mk.injEq, List.append_eq_nil_iff] at h
      obtain ⟨-, -, rfl⟩ := h
      exact absurd (List.append_nil front).symm hne
  refine ⟨htaken, ?_, hwaits, ?_⟩
  · intro rest
    rw [next?_eq, htaken]
    rfl
  · intro front hfront hne
    rw [next?_eq, hwaits front hfront hne]
    rfl

/-- The envelope is read from what is written for it. -/
theorem next?_encode (hid : 0 ≤ id) (hle : id ≤ MessageIds.largest)
    (hclass : operation.tagClass = .application) (hfits : operation.Fits)
    (hsize : (encode id operation controls).length < Octets.capacity 8) :
    Envelope.next? (encode id operation controls) =
      some (.ok { id, operation, controls := controls.getD [] }, []) := by
  have hspells := (fits_envelope hfits).spells hsize
  have hread := hspells.read? []
  rw [List.append_nil] at hread
  rw [Envelope.next?, encode, hread]
  exact congrArg (fun o => some (o, [])) (Envelope.ofElement_envelope hid hle hclass)

/-- What is written for a message holds its id, its operation and its controls. -/
theorem encode_roundTrip (hid : 0 ≤ id) (hle : id ≤ MessageIds.largest)
    (hclass : operation.tagClass = .application) (hfits : operation.Fits)
    (hsize : (encode id operation controls).length < Octets.capacity 8) :
    Holds (encode id operation controls) { id, operation, controls := controls.getD [] } :=
  .intro (next?_encode hid hle hclass hfits hsize)

end Message

end Written

namespace Message

def nestedRequest : Element :=
  .constructed ⟨.application, 30⟩
    [.constructed ⟨.privateUse, 0⟩ [.octetString [0x30, 0x80]], .integer 128]

/-- Three controls, one without a value, one with an empty one and one that is critical. -/
def variousControls : List Control :=
  [{ oid := "1.2" }, { oid := "é", value := some [] },
    { oid := "", critical := true, value := some [0] }]

/-- The largest id, a request of several levels and controls of all forms come out as they went in. -/
theorem nestedRequest_holds : 0 ≤ MessageIds.largest ∧ MessageIds.largest ≤ MessageIds.largest ∧
    nestedRequest.tagClass = .application ∧ nestedRequest.Fits ∧
    (encode MessageIds.largest nestedRequest (some variousControls)).length < Octets.capacity 8 ∧
    Holds (encode MessageIds.largest nestedRequest (some variousControls))
      { id := MessageIds.largest, operation := nestedRequest, controls := variousControls } := by
  have hid : 0 ≤ MessageIds.largest := by decide
  have hfits : nestedRequest.Fits := by
    apply Element.Fits.constructed (by decide)
    intro e he
    simp only [List.mem_cons, List.not_mem_nil, or_false] at he
    rcases he with rfl | rfl
    · apply Element.Fits.constructed (by decide)
      intro e he
      rw [List.mem_singleton.mp he]
      exact .primitive (by decide)
    · exact .primitive (by decide)
  have hsize : (encode MessageIds.largest nestedRequest (some variousControls)).length <
      Octets.capacity 8 := by
    decide +kernel
  exact ⟨hid, Int.le_refl _, rfl, hfits, hsize, encode_roundTrip hid (Int.le_refl _) rfl hfits hsize⟩

end Message

end DirectoryClient
