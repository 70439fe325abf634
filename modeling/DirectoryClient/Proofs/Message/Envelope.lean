import DirectoryClient.Message.Reader
import DirectoryClient.MessageIds
import DirectoryClient.Proofs.Ber.Spelling

/-! What an envelope is made of, and how envelopes and messages come off a buffer. -/
namespace DirectoryClient

open Ber

/-- What a chain of readers returns, each of them has returned its part of. -/
theorem Outcome.bind_eq_ok {α β : Type} {o : Outcome α} {f : α → Outcome β} {b : β} :
    (o >>= f) = .ok b ↔ ∃ a, o = .ok a ∧ f a = .ok b := by
  cases o with
  | error e =>
    constructor
    · intro h
      cases h
    · rintro ⟨a, h, -⟩
      cases h
  | ok a =>
    constructor
    · intro h
      exact ⟨a, rfl, h⟩
    · rintro ⟨a', h, hf⟩
      cases h
      exact hf

theorem Malformed.require_eq_ok {α : Type} {fault : Malformed} {part : Option α} {a : α} :
    fault.require part = .ok a ↔ part = some a := by
  cases part with
  | none =>
    constructor <;> intro h <;> cases h
  | some a' =>
    constructor <;> intro h <;> cases h <;> rfl

namespace Octets

/-- Of a number cut to 64 bits the low 32 bits are those of the number. -/
private theorem bmod_emod_capacity (n : Nat) :
    Int.bmod ((n : Int) % capacity 8) (capacity 4) = Int.bmod n (capacity 4) := by
  have hdvd : (capacity 4 : Int) ∣ (capacity 8 : Int) := by decide
  rw [Int.bmod_def, Int.bmod_def, Int.emod_emod_of_dvd _ hdvd]

/-- A signed number of 32 bits is the number itself exactly if that is no larger than an id. -/
theorem bmod_eq_iff (n : Nat) : Int.bmod n (capacity 4) = n ↔ (n : Int) ≤ MessageIds.largest := by
  have hcapacity : capacity 4 = 4294967296 := by decide
  have hlargest : (n : Int) ≤ MessageIds.largest ↔ (n : Int) ≤ 2147483647 := Iff.rfl
  rw [hlargest, hcapacity, Int.bmod_def]
  constructor
  · intro h
    split at h <;> omega
  · intro h
    rw [if_pos] <;> omega

end Octets

/-- The contents of an element that must be of a universal type are those of a primitive one. -/
theorem Ber.Element.eq_of_ofUniversal? {e e' : Element} {n : Nat} {bs : Octets}
    (h : e.ofUniversal? n = some e') (hbs : e'.octets? = some bs) :
    e = .primitive ⟨.universal, n⟩ bs := by
  rw [ofUniversal?] at h
  split at h
  · rename_i htag
    cases h
    cases e with
    | primitive t bs' =>
      cases hbs
      cases htag
      rfl
    | constructed t es => cases hbs
  · cases h

namespace Envelope

def next? (buffer : Octets) : Option (Outcome Envelope × Octets) :=
  (read? buffer).map fun (e, rest) => (ofElement e, rest)

def message (v : Envelope) : Outcome Message :=
  (Response.ofElement v.operation v.controls).map fun response => ⟨v.id, response, v.controls⟩

/-- A message id is the content of an INTEGER, as a signed number of 32 bits. -/
theorem messageId?_eq_some_iff {e : Element} {id : MessageId} : messageId? e = some id ↔
    ∃ bs, e = .primitive ⟨.universal, integerNumber⟩ bs ∧
      id = Int.bmod (Octets.toNat bs) (Octets.capacity 4) := by
  constructor
  · intro h
    rw [messageId?] at h
    obtain ⟨e', he', h⟩ := Option.bind_eq_some_iff.mp h
    obtain ⟨bs, hbs, hid⟩ := Option.bind_eq_some_iff.mp h
    rw [Octets.bmod_emod_capacity, Option.pure_def, Option.some.injEq] at hid
    exact ⟨bs, Element.eq_of_ofUniversal? he' hbs, hid.symm⟩
  · rintro ⟨bs, rfl, hid⟩
    rw [hid, ← Octets.bmod_emod_capacity]
    rfl

/-- The operation and what is before it are all of an envelope but one element at most. -/
private theorem exists_splitEnd {reversed before : List Element} {operation : Element}
    {controls : List Control} (h : splitEnd reversed = .ok (operation, controls, before)) :
    ∃ after, reversed = after ++ operation :: before ∧ after.length ≤ 1 := by
  revert h
  fun_cases splitEnd reversed
  case case1 | case2 | case3 =>
    intro h
    cases h
  case case4 last _ operation' rest _ =>
    intro h
    obtain ⟨cs, -, heq⟩ := Outcome.bind_eq_ok.mp h
    cases heq
    exact ⟨[last], rfl, Nat.le_refl 1⟩
  case case5 last _ _ operation' first rest =>
    intro h
    cases h
    exact ⟨[last], rfl, Nat.le_refl 1⟩
  case case6 | case7 =>
    intro h
    cases h
    exact ⟨[], rfl, Nat.zero_le 1⟩

/-- An operation at the end of an envelope is not taken for controls. -/
theorem splitEnd_of_application {operation : Element} (h : operation.tagClass = .application)
    (before : List Element) : splitEnd (operation :: before) = .ok (operation, [], before) := by
  have hnot (n : Nat) : operation.tag ≠ ⟨.context, n⟩ := by
    intro htag
    rw [Element.tagClass, htag] at h
    cases h
  simp [splitEnd, hnot]

/-- In an envelope that is read the id stands before the operation, and after it one element at most. -/
theorem exists_members {e : Element} {v : Envelope} (h : ofElement e = .ok v) :
    ∃ t before i after, e = .constructed t (before ++ i :: v.operation :: after) ∧
      t.number = sequenceNumber ∧ after.length ≤ 1 ∧ messageId? i = some v.id := by
  obtain ⟨members, hmembers, h⟩ := Outcome.bind_eq_ok.mp h
  obtain ⟨e', he', hmembers⟩ := Option.bind_eq_some_iff.mp (Malformed.require_eq_ok.mp hmembers)
  dsimp only at h
  split at h
  · cases h
  obtain ⟨⟨operation, controls, earlier⟩, hsplit, h⟩ := Outcome.bind_eq_ok.mp h
  obtain ⟨id, hid, h⟩ := Outcome.bind_eq_ok.mp h
  cases h
  obtain ⟨i, hi, hread⟩ := Option.bind_eq_some_iff.mp (Malformed.require_eq_ok.mp hid)
  obtain ⟨before, rfl⟩ := List.head?_eq_some_iff.mp hi
  obtain ⟨after, hreversed, hlen⟩ := exists_splitEnd hsplit
  have heq : members = before.reverse ++ i :: operation :: after.reverse := by
    rw [← List.reverse_reverse members, hreversed]
    simp
  rw [Element.ofNumber?] at he'
  split at he'
  · rename_i hsequence
    cases he'
    cases e with
    | primitive t bs => cases hmembers
    | constructed t es =>
      cases hmembers
      exact ⟨t, before.reverse, i, after.reverse, by rw [heq], hsequence, by simpa using hlen, hread⟩
  · cases he'

/-- Octets that are added leave the envelope that was taken off as it is. -/
theorem next?_append {buffer rest : Octets} {o : Outcome Envelope}
    (h : next? buffer = some (o, rest)) (more : Octets) :
    next? (buffer ++ more) = some (o, rest ++ more) := by
  obtain ⟨⟨e, rest'⟩, hread, heq⟩ := Option.map_eq_some_iff.mp h
  cases heq
  rw [next?, read?_append hread]
  rfl

end Envelope

namespace Message

/-- A message is what is made of the first envelope. -/
theorem next?_eq (buffer : Octets) : next? buffer =
    (Envelope.next? buffer).map fun (o, rest) => (o.bind Envelope.message, rest) := by
  rw [next?, Envelope.next?, Option.map_map]
  apply congrFun (congrArg Option.map _)
  funext ⟨e, rest⟩
  simp only [Function.comp_apply, ofElement]
  cases Envelope.ofElement e with
  | error e => rfl
  | ok v =>
    simp only [Except.bind, Envelope.message, Bind.bind]
    cases Response.ofElement v.operation v.controls <;> rfl

/-- Octets that are added leave the message that was taken off as it is. -/
theorem next?_append {buffer rest : Octets} {o : Outcome Message}
    (h : next? buffer = some (o, rest)) (more : Octets) :
    next? (buffer ++ more) = some (o, rest ++ more) := by
  rw [next?_eq] at h
  obtain ⟨⟨v, rest'⟩, hnext, heq⟩ := Option.map_eq_some_iff.mp h
  cases heq
  rw [next?_eq, Envelope.next?_append hnext]
  rfl

end Message

end DirectoryClient
