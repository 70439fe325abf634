import DirectoryClient.Proofs.Link.Responses
import DirectoryClient.Proofs.Message.Envelope

/-! The numbers of a message. An id and a result code are read from as many octets as there are, and
only the low 32 bits of them are kept. -/
namespace DirectoryClient

open Ber

namespace Response

def HasCode (operation : Element) (codes : Octets) : Prop :=
  ∃ t more, operation = .constructed t (.primitive ⟨.universal, enumeratedNumber⟩ codes :: more)

/-- A result code is the content of an ENUMERATED, as an unsigned number of 32 bits. -/
private theorem exists_resultCode? {e : Element} {code : UInt32} (h : resultCode? e = some code) :
    ∃ bs, e = .primitive ⟨.universal, enumeratedNumber⟩ bs ∧
      code.toNat = Octets.toNat bs % Octets.capacity 4 := by
  obtain ⟨e', he', h⟩ := Option.bind_eq_some_iff.mp h
  obtain ⟨bs, hbs, hcode⟩ := Option.bind_eq_some_iff.mp h
  have hdvd : Octets.capacity 4 ∣ Octets.capacity 8 := by decide
  refine ⟨bs, Element.eq_of_ofUniversal? he' hbs, ?_⟩
  rw [Option.pure_def, Option.some.injEq] at hcode
  rw [← hcode, ← Nat.mod_mod_of_dvd _ hdvd]
  exact UInt32.toNat_ofNat'

section Parts

variable {p p' : ResultParts} {e : Element} {controls : List Control}

private theorem code_addComponent (h : p.addComponent e = .ok p') : p'.result.code = p.result.code := by
  rw [ResultParts.addComponent] at h
  split at h
  · obtain ⟨urls, -, heq⟩ := Outcome.bind_eq_ok.mp h
    cases heq
    rfl
  · obtain ⟨credentials, -, heq⟩ := Outcome.bind_eq_ok.mp h
    cases heq
    rfl
  · obtain ⟨octets, -, h⟩ := Outcome.bind_eq_ok.mp h
    obtain ⟨name, -, heq⟩ := Outcome.bind_eq_ok.mp h
    cases heq
    rfl
  · obtain ⟨value, -, heq⟩ := Outcome.bind_eq_ok.mp h
    cases heq
    rfl
  · cases h
    rfl

private theorem code_addComponents {es : List Element}
    (h : es.foldlM ResultParts.addComponent p = .ok p') :
    p'.result.code = p.result.code := by
  induction es generalizing p with
  | nil =>
    cases h
    rfl
  | cons e es ih =>
    rw [List.foldlM_cons] at h
    obtain ⟨p₁, hfirst, hrest⟩ := Outcome.bind_eq_ok.mp h
    exact (ih hrest).trans (code_addComponent hfirst)

private theorem hasCode_of_resultParts (h : ResultParts.ofElement e controls = .ok p) :
    ∃ codes, HasCode e codes ∧ p.result.code.toNat = Octets.toNat codes % Octets.capacity 4 := by
  obtain ⟨members, hmembers, h⟩ := Outcome.bind_eq_ok.mp h
  obtain ⟨code, hcode, h⟩ := Outcome.bind_eq_ok.mp h
  obtain ⟨matched, -, h⟩ := Outcome.bind_eq_ok.mp h
  obtain ⟨text, -, h⟩ := Outcome.bind_eq_ok.mp h
  obtain ⟨matchedName, -, h⟩ := Outcome.bind_eq_ok.mp h
  obtain ⟨first, hfirst, hread⟩ := Option.bind_eq_some_iff.mp (Malformed.require_eq_ok.mp hcode)
  obtain ⟨codes, rfl, hnumber⟩ := exists_resultCode? hread
  refine ⟨codes, ?_, by rw [code_addComponents h, hnumber]⟩
  cases e with
  | primitive t bs => cases Malformed.require_eq_ok.mp hmembers
  | constructed t es =>
    cases Malformed.require_eq_ok.mp hmembers
    cases members with
    | nil => cases hfirst
    | cons e more =>
      cases hfirst
      exact ⟨t, more, rfl⟩

/-- A response with a result has the code that its operation begins with. -/
private theorem hasCode_of_result? {response : Response} {r : OperationResult}
    (h : ofElement e controls = .ok response) (hr : response.result? = some r) :
    ∃ codes, HasCode e codes ∧ r.code.toNat = Octets.toNat codes % Octets.capacity 4 := by
  rw [ofElement] at h
  split at h
  · cases h
  · split at h
    · cases h
      cases hr
    · obtain ⟨urls, -, heq⟩ := Outcome.bind_eq_ok.mp h
      cases heq
      cases hr
    · obtain ⟨parts, -, heq⟩ := Outcome.bind_eq_ok.mp h
      cases heq
      cases hr
    · obtain ⟨p, hparts, heq⟩ := Outcome.bind_eq_ok.mp h
      have hresult : r = p.result := by
        cases heq
        split at hr <;> cases hr <;> rfl
      rw [hresult]
      exact hasCode_of_resultParts hparts

end Parts

end Response

namespace Message

def Wraps (front ids : Octets) (operation : Element) : Prop :=
  ∃ t before after, t.number = sequenceNumber ∧ after.length ≤ 1 ∧
    Spells front [.constructed t
      (before ++ .primitive ⟨.universal, integerNumber⟩ ids :: operation :: after)]

structure ReportsCode (r : OperationResult) (codes : Octets) : Prop where
  code : r.code.toNat = Octets.toNat codes % Octets.capacity 4
  code_eq_iff : r.code.toNat = Octets.toNat codes ↔ Octets.toNat codes < Octets.capacity 4
  success : r.isSuccess = true ↔ Octets.capacity 4 ∣ Octets.toNat codes

structure HasNumbers (m : Message) (ids : Octets) (operation : Element) : Prop where
  id : m.id = Int.bmod (Octets.toNat ids) (Octets.capacity 4)
  id_eq_iff : m.id = Octets.toNat ids ↔ (Octets.toNat ids : Int) ≤ MessageIds.largest
  result : ∀ r, m.response.result? = some r →
    ∃ codes, Response.HasCode operation codes ∧ ReportsCode r codes
  /-- Only an operation whose id is the one on the wire is handed the message. -/
  routed : (Octets.toNat ids : Int) ≤ MessageIds.largest → ∀ l : Link, (l.dispatch m).2 ≠ l →
    ∃ ticket, ((Octets.toNat ids : MessageId), ticket) ∈ l.singles ++ l.searches

section Numbers

variable {m : Message} {buffer rest : Octets}

private theorem reportsCode_of_code {r : OperationResult} {codes : Octets}
    (h : r.code.toNat = Octets.toNat codes % Octets.capacity 4) : ReportsCode r codes := by
  refine ⟨h, ?_, ?_⟩
  · rw [h]
    exact Nat.mod_eq_iff_lt (by decide)
  · rw [OperationResult.isSuccess, beq_iff_eq, ← UInt32.toNat_inj, h, Nat.dvd_iff_mod_eq_zero]
    rfl

private theorem exists_slot_of_dispatch {l : Link} (h : (l.dispatch m).2 ≠ l) :
    ∃ ticket, (m.id, ticket) ∈ l.singles ++ l.searches := by
  by_contra hnone
  apply h
  apply Link.dispatch_unmatched
  refine .inr ⟨?_, ?_⟩
  · intro ticket hmem
    exact hnone ⟨ticket, List.mem_append_left _ hmem⟩
  · intro ticket hmem
    exact hnone ⟨ticket, List.mem_append_right _ hmem⟩

/-- Every message that is taken off a buffer has the numbers of its octets, as far as 32 bits go. -/
theorem decoded_numbers (h : next? buffer = some (.ok m, rest)) :
    ∃ front ids operation, buffer = front ++ rest ∧ Wraps front ids operation ∧
      HasNumbers m ids operation := by
  obtain ⟨⟨e, rest'⟩, hread, heq⟩ := Option.map_eq_some_iff.mp h
  obtain ⟨front, hspells, hbuffer⟩ := read?_eq_some_iff.mp hread
  obtain ⟨hmessage, rfl⟩ := Prod.mk.inj heq
  obtain ⟨v, hv, hmessage⟩ := Outcome.bind_eq_ok.mp hmessage
  obtain ⟨response, hresponse, hm⟩ := Outcome.bind_eq_ok.mp hmessage
  cases hm
  obtain ⟨t, before, i, after, rfl, hnumber, hlen, hi⟩ := Envelope.exists_members hv
  obtain ⟨ids, rfl, hid⟩ := Envelope.messageId?_eq_some_iff.mp hi
  refine ⟨front, ids, v.operation, hbuffer, ⟨t, before, after, hnumber, hlen, hspells⟩, ?_⟩
  have hiff : v.id = Octets.toNat ids ↔ (Octets.toNat ids : Int) ≤ MessageIds.largest := by
    rw [hid]
    exact Octets.bmod_eq_iff _
  refine ⟨hid, hiff, ?_, ?_⟩
  · intro r hr
    obtain ⟨codes, hcodes, hcode⟩ := Response.hasCode_of_result? hresponse hr
    exact ⟨codes, hcodes, reportsCode_of_code hcode⟩
  · intro hsmall l hchanged
    rw [← hiff.mpr hsmall]
    exact exists_slot_of_dispatch hchanged

end Numbers

/-- The end of a bind, with an id of five octets whose lowest is one. -/
def wideId : Octets :=
  [0x30, 0x10, 0x02, 0x05, 0x01, 0x00, 0x00, 0x00, 0x01, 0x61, 0x07, 0x0a, 0x01, 0x00, 0x04, 0x00,
    0x04, 0x00]

/-- The end of a bind, with a code of five octets whose lowest four are zero. -/
private def wideCode : Octets :=
  [0x30, 0x10, 0x02, 0x01, 0x01, 0x61, 0x0b, 0x0a, 0x05, 0x01, 0x00, 0x00, 0x00, 0x00, 0x04, 0x00,
    0x04, 0x00]

def firstBound : Message := { id := 1, response := .bind { code := 0 } none, controls := [] }

private def bindResponse (codes : Octets) : Element :=
  .constructed ⟨.application, 1⟩
    [.primitive ⟨.universal, enumeratedNumber⟩ codes, .octetString [], .octetString []]

private def bindEnvelope (ids codes : Octets) : Element :=
  .constructed ⟨.universal, sequenceNumber⟩
    [.primitive ⟨.universal, integerNumber⟩ ids, bindResponse codes]

private theorem read?_wideId : read? wideId = some (bindEnvelope [1, 0, 0, 0, 1] [0], []) := by
  simp [wideId, bindEnvelope, bindResponse, read?, Frame.split?, readLength?, Frame.element?, readAll?,
    TagClass.ofBits, sequenceNumber, integerNumber, enumeratedNumber, Element.octetString,
    octetStringNumber]

private theorem read?_wideCode : read? wideCode = some (bindEnvelope [1] [1, 0, 0, 0, 0], []) := by
  simp [wideCode, bindEnvelope, bindResponse, read?, Frame.split?, readLength?, Frame.element?, readAll?,
    TagClass.ofBits, sequenceNumber, integerNumber, enumeratedNumber, Element.octetString,
    octetStringNumber]

private theorem ofElement_bindResponse {codes : Octets}
    (h : UInt32.ofNat (Octets.toNat codes % Octets.capacity 8) = 0) :
    Response.ofElement (bindResponse codes) [] = .ok (.bind { code := 0 } none) := by
  have hcode : Response.resultCode? (.primitive ⟨.universal, enumeratedNumber⟩ codes) = some 0 :=
    congrArg some h
  have hname : Text.decode? [] = some "" := Text.decode?_encode ""
  have htext : Text.decodeLossy [] = "" := by simp [Text.decodeLossy, Text.lossyChars]
  apply Outcome.bind_eq_ok.mpr
  refine ⟨{ result := { code := 0 } }, ?_, rfl⟩
  apply Outcome.bind_eq_ok.mpr
  refine ⟨_, rfl, ?_⟩
  apply Outcome.bind_eq_ok.mpr
  refine ⟨0, Malformed.require_eq_ok.mpr hcode, ?_⟩
  apply Outcome.bind_eq_ok.mpr
  refine ⟨[], rfl, ?_⟩
  apply Outcome.bind_eq_ok.mpr
  refine ⟨[], rfl, ?_⟩
  apply Outcome.bind_eq_ok.mpr
  refine ⟨"", Malformed.require_eq_ok.mpr hname, ?_⟩
  rw [htext]
  rfl

private theorem ofElement_bindEnvelope {ids codes : Octets}
    (hid : Int.bmod (Octets.toNat ids) (Octets.capacity 4) = 1)
    (hcode : UInt32.ofNat (Octets.toNat codes % Octets.capacity 8) = 0) :
    ofElement (bindEnvelope ids codes) = .ok firstBound := by
  have hread : Envelope.messageId? (.primitive ⟨.universal, integerNumber⟩ ids) = some 1 :=
    Envelope.messageId?_eq_some_iff.mpr ⟨ids, rfl, hid.symm⟩
  have henvelope : Envelope.ofElement (bindEnvelope ids codes) =
      .ok { id := 1, operation := bindResponse codes, controls := [] } := by
    apply Outcome.bind_eq_ok.mpr
    refine ⟨_, rfl, ?_⟩
    dsimp only
    rw [if_neg (by simp)]
    apply Outcome.bind_eq_ok.mpr
    refine ⟨_, Envelope.splitEnd_of_application rfl _, ?_⟩
    apply Outcome.bind_eq_ok.mpr
    exact ⟨1, Malformed.require_eq_ok.mpr hread, rfl⟩
  apply Outcome.bind_eq_ok.mpr
  refine ⟨_, henvelope, ?_⟩
  apply Outcome.bind_eq_ok.mpr
  exact ⟨_, ofElement_bindResponse hcode, rfl⟩

private theorem next?_wideId : next? wideId = some (.ok firstBound, []) := by
  have hmessage : ofElement (bindEnvelope [1, 0, 0, 0, 1] [0]) = .ok firstBound :=
    ofElement_bindEnvelope (by decide) (by decide)
  simp only [next?, read?_wideId, Option.map_some, hmessage]

private theorem next?_wideCode : next? wideCode = some (.ok firstBound, []) := by
  have hmessage : ofElement (bindEnvelope [1] [1, 0, 0, 0, 0]) = .ok firstBound :=
    ofElement_bindEnvelope (by decide) (by decide)
  simp only [next?, read?_wideCode, Option.map_some, hmessage]

/-- Nothing but the two members is in the envelope of the end of a bind. -/
private theorem eq_of_wraps {front ids ids' codes : Octets} {operation : Element}
    (hread : read? front = some (bindEnvelope ids codes, [])) (h : Wraps front ids' operation) :
    ids' = ids ∧ operation = bindResponse codes := by
  obtain ⟨t, before, after, -, -, hspells⟩ := h
  have hread' := hspells.read? []
  rw [List.append_nil, hread] at hread'
  simp only [bindEnvelope, Option.some.injEq, Prod.mk.injEq, Element.constructed.injEq,
    and_true] at hread'
  obtain ⟨-, hmembers⟩ := hread'
  cases before with
  | nil =>
    cases hmembers
    exact ⟨rfl, rfl⟩
  | cons b before =>
    have hlen := congrArg List.length hmembers
    simp only [List.length_cons, List.length_append, List.length_nil] at hlen
    omega

/-- An id above the largest may be taken for another one, and a code beyond 32 bits for success. -/
theorem numbers_not_always_whole :
    (¬∀ buffer m rest, next? buffer = some (.ok m, rest) → ∃ front ids operation,
      buffer = front ++ rest ∧ Wraps front ids operation ∧
        (Octets.toNat ids : Int) ≤ MessageIds.largest ∧ m.id = Octets.toNat ids) ∧
    ¬∀ buffer m rest, next? buffer = some (.ok m, rest) → ∃ front ids operation,
      buffer = front ++ rest ∧ Wraps front ids operation ∧
        ∀ r, m.response.result? = some r → ∃ codes, Response.HasCode operation codes ∧
          Octets.toNat codes < Octets.capacity 4 ∧ r.code.toNat = Octets.toNat codes := by
  constructor
  · intro h
    obtain ⟨front, ids, operation, hbuffer, hwraps, hsmall, -⟩ := h wideId firstBound [] next?_wideId
    rw [List.append_nil] at hbuffer
    obtain ⟨rfl, -⟩ := eq_of_wraps read?_wideId (hbuffer ▸ hwraps)
    exact absurd hsmall (by decide)
  · intro h
    obtain ⟨front, ids, operation, hbuffer, hwraps, hresult⟩ :=
      h wideCode firstBound [] next?_wideCode
    rw [List.append_nil] at hbuffer
    obtain ⟨-, rfl⟩ := eq_of_wraps read?_wideCode (hbuffer ▸ hwraps)
    obtain ⟨codes, ⟨t, more, hcodes⟩, hsmall, -⟩ := hresult { code := 0 } rfl
    cases hcodes
    exact absurd hsmall (by decide)

/-- The id of five octets is read as the number that its lowest four write. -/
theorem wideId_numbers : next? wideId = some (.ok firstBound, []) ∧
    ∃ front ids operation, wideId = front ++ [] ∧ Wraps front ids operation ∧
      HasNumbers firstBound ids operation :=
  ⟨next?_wideId, decoded_numbers next?_wideId⟩

end Message

end DirectoryClient
