import DirectoryClient.Proofs.Ber.Nesting
import DirectoryClient.Proofs.Link.Untouched
import Mathlib.Logic.ExistsUnique

/-! Messages in a buffer: what is taken off it, and what is never got past. The reader wants more octets
both of a message that is not all there and of one whose members run past it. -/
namespace DirectoryClient

namespace Message

open Ber

/-- A whole element: a header, and as many content octets as it declares. -/
inductive Whole : Octets → Prop
  | intro {header content : Octets} {c : Bool} {n : Nat} : Header header c n → content.length = n →
    Whole (header ++ content)

def LengthFits (buffer : Octets) : Prop :=
  ∀ header c n more, Header header c n → buffer = header ++ more → n < Octets.capacity 8

/-- A whole element at the front of a buffer is taken off, whatever lies in it, and nothing is as long as
there is none. -/
structure Framed (buffer : Octets) : Prop where
  whole : ∀ element rest, Whole element → buffer = element ++ rest →
    ∃ o, next? buffer = some (o, rest)
  incomplete : (∀ element rest, buffer = element ++ rest → ¬Whole element) → next? buffer = none

inductive Drains : Octets → List (Outcome Message) → Octets → Prop
  | stop {buffer : Octets} : next? buffer = none → Drains buffer [] buffer
  | take {buffer rest left : Octets} {o : Outcome Message} {os : List (Outcome Message)} :
    next? buffer = some (o, rest) → Drains rest os left → Drains buffer (o :: os) left

section Next

variable {buffer rest : Octets}

private theorem exists_next?_iff_read? :
    (∃ o, next? buffer = some (o, rest)) ↔ ∃ e, read? buffer = some (e, rest) := by
  constructor
  · rintro ⟨o, h⟩
    simp only [next?, Option.map_eq_some_iff, Prod.mk.injEq] at h
    obtain ⟨⟨e, rest'⟩, he, -, rfl⟩ := h
    exact ⟨e, he⟩
  · rintro ⟨e, h⟩
    exact ⟨ofElement e, by rw [next?, h]; rfl⟩

/-- What is taken off is a header and its contents, which nest if they are looked into. -/
private theorem exists_next?_iff : (∃ o, next? buffer = some (o, rest)) ↔
    ∃ header content c n, Header header c n ∧ content.length = n % Octets.capacity 8 ∧
      (c = true → Nests content) ∧ buffer = header ++ (content ++ rest) := by
  rw [exists_next?_iff_read?]
  constructor
  · rintro ⟨e, he⟩
    exact exists_header_of_read? he
  · rintro ⟨header, content, c, n, hheader, hlen, hnests, rfl⟩
    exact (hheader.read? hlen).mpr hnests

private theorem length_of_next? {o : Outcome Message} (h : next? buffer = some (o, rest)) :
    rest.length + 2 ≤ buffer.length := by
  obtain ⟨header, content, c, n, hheader, -, -, rfl⟩ := exists_next?_iff.mp ⟨o, h⟩
  have htwo := hheader.two_le
  simp only [List.length_append]
  omega

end Next

section Framed

variable {element rest buffer : Octets}

private theorem LengthFits.of_append (h : LengthFits (element ++ rest)) : LengthFits element := by
  rintro header c n more hheader rfl
  exact h header c n (more ++ rest) hheader (List.append_assoc ..)

/-- The contents of a whole element are as many as the reader takes. -/
private theorem Whole.split (h : Whole element) (hfits : LengthFits element) :
    ∃ header content c n, Header header c n ∧ content.length = n % Octets.capacity 8 ∧
      element = header ++ content ∧ (Nests element ↔ (c = true → Nests content)) := by
  obtain ⟨hheader, hlen⟩ := h
  rename_i header content c n
  rw [← Nat.mod_eq_of_lt (hfits _ _ _ _ hheader rfl)] at hlen
  have hnests : Nests (header ++ (content ++ [])) ↔ (c = true → Nests content) ∧ Nests [] :=
    hheader.nests_iff hlen
  rw [List.append_nil] at hnests
  exact ⟨header, content, c, n, hheader, hlen, rfl, hnests.trans (and_iff_left .nil)⟩

private theorem Whole.exists_next?_iff (h : Whole element) (hfits : LengthFits element)
    (rest : Octets) :
    (∃ o, next? (element ++ rest) = some (o, rest)) ↔ Nests element := by
  obtain ⟨header, content, c, n, hheader, hlen, rfl, hnests⟩ := h.split hfits
  rw [exists_next?_iff_read?, List.append_assoc, hheader.read? hlen, hnests]

private theorem Whole.next?_eq_none (h : Whole element) (hfits : LengthFits element)
    (hnot : ¬Nests element) (rest : Octets) : next? (element ++ rest) = none := by
  obtain ⟨header, content, c, n, hheader, hlen, rfl, hnests⟩ := h.split hfits
  rw [hnests] at hnot
  obtain ⟨rfl, hcontent⟩ := Classical.not_imp.mp hnot
  rw [next?, List.append_assoc, hheader.read?_eq_none hlen hcontent]
  rfl

/-- Nothing is taken off a buffer without a whole element at its front. -/
private theorem next?_eq_none_of_incomplete (hfits : LengthFits buffer)
    (hnot : ∀ element rest, buffer = element ++ rest → ¬Whole element) : next? buffer = none := by
  cases h : next? buffer with
  | none => rfl
  | some x =>
    obtain ⟨o, rest⟩ := x
    obtain ⟨header, content, c, n, hheader, hlen, -, rfl⟩ := Message.exists_next?_iff.mp ⟨o, h⟩
    rw [Nat.mod_eq_of_lt (hfits _ _ _ _ hheader rfl)] at hlen
    exact absurd (.intro hheader hlen) (hnot (header ++ content) rest (List.append_assoc ..).symm)

/-- A buffer is framed exactly if the whole element at its front, if there is one, nests. -/
private theorem framed_iff (hfits : LengthFits buffer) :
    Framed buffer ↔ ∀ element rest, Whole element → buffer = element ++ rest → Nests element := by
  constructor
  · rintro h element rest hwhole rfl
    exact (hwhole.exists_next?_iff hfits.of_append rest).mp (h.whole element rest hwhole rfl)
  · intro h
    refine ⟨?_, next?_eq_none_of_incomplete hfits⟩
    rintro element rest hwhole rfl
    exact (hwhole.exists_next?_iff hfits.of_append rest).mpr (h element rest hwhole rfl)

end Framed

namespace Drains

variable {buffer left : Octets} {os : List (Outcome Message)}

theorem exists_drains (buffer : Octets) : ∃ os left, Drains buffer os left := by
  induction hn : buffer.length using Nat.strongRecOn generalizing buffer with
  | ind n ih =>
    cases hnext : next? buffer with
    | none => exact ⟨[], buffer, .stop hnext⟩
    | some x =>
      obtain ⟨o, rest⟩ := x
      have hlt := length_of_next? hnext
      obtain ⟨os, left, hrest⟩ := ih rest.length (by omega) rest rfl
      exact ⟨o :: os, left, .take hnext hrest⟩

theorem unique {os' : List (Outcome Message)} {left' : Octets} (h : Drains buffer os left)
    (h' : Drains buffer os' left') : os' = os ∧ left' = left := by
  induction h generalizing os' with
  | stop hnone =>
    cases h' with
    | stop => exact ⟨rfl, rfl⟩
    | take hnext => rw [hnone] at hnext; cases hnext
  | take hnext _ ih =>
    cases h' with
    | stop hnone => rw [hnone] at hnext; cases hnext
    | take hnext' hrest =>
      rw [hnext] at hnext'
      cases hnext'
      obtain ⟨rfl, rfl⟩ := ih hrest
      exact ⟨rfl, rfl⟩

private theorem length_le (h : Drains buffer os left) :
    2 * os.length + left.length ≤ buffer.length := by
  induction h with
  | stop _ => simp
  | take hnext _ ih =>
    have hshorter := length_of_next? hnext
    rw [List.length_cons]
    omega

end Drains

end Message

namespace Link

variable {l l' : Link}

private theorem inbound_finish : l.finish.inbound = l.inbound := (l.untouched_closeAll _).inbound

/-- A driver that reads takes octets off. -/
theorem inbound_of_receive? (h : l.receive? = some l') :
    l'.inbound.length < l.inbound.length := by
  have hin : ∃ o rest, Message.next? l.inbound = some (o, rest) ∧ l'.inbound = rest := by
    rw [receive?] at h
    split at h
    · split at h
      · cases h
      · rename_i m rest hnext
        refine ⟨_, rest, hnext, ?_⟩
        cases h
        have hdispatch := (untouched_dispatch { l with inbound := rest } m).inbound
        split
        · exact hdispatch
        · exact inbound_finish.trans hdispatch
      · rename_i e rest hnext
        cases h
        exact ⟨_, rest, hnext, inbound_finish⟩
    · cases h
  obtain ⟨o, rest, hnext, rfl⟩ := hin
  have hshorter := Message.length_of_next? hnext
  omega

private theorem receive?_receiveAll (l : Link) : l.receiveAll.receive? = none := by
  have hfor : ∀ n (l : Link), l.inbound.length ≤ n → (l.receiveFor n).receive? = none := by
    intro n
    induction n with
    | zero =>
      intro l hn
      rw [receiveFor]
      cases h : l.receive? with
      | none => rfl
      | some l' =>
        have hshorter := inbound_of_receive? h
        omega
    | succ n ih =>
      intro l hn
      rw [receiveFor]
      cases h : l.receive? with
      | none => exact h
      | some l' =>
        have hshorter := inbound_of_receive? h
        exact ih l' (by omega)
  exact hfor _ l (Nat.le_refl _)

end Link

namespace Message

open Ber

structure Framing (buffer : Octets) : Prop where
  /-- What is taken off is a header and its contents, which nest if they are looked into. -/
  taken : ∀ rest, (∃ o, next? buffer = some (o, rest)) ↔
    ∃ header content c n, Header header c n ∧ content.length = n % Octets.capacity 8 ∧
      (c = true → Nests content) ∧ buffer = header ++ (content ++ rest)
  /-- A whole element at the front is taken off, and nothing without one, exactly if it nests. -/
  framed : LengthFits buffer →
    (Framed buffer ↔ ∀ element rest, Whole element → buffer = element ++ rest → Nests element)
  incomplete : LengthFits buffer → (∀ element rest, buffer = element ++ rest → ¬Whole element) →
    next? buffer = none
  /-- A whole element that does not nest keeps a driver waiting, whatever comes after it. -/
  stuck : LengthFits buffer → Whole buffer → ¬Nests buffer → ∀ (l : Link) (rest octets : Octets),
    l.inbound = buffer ++ rest → (l.feed octets).receive? = none
  /-- Taking messages off comes to an end. -/
  drained : ∃! x : List (Outcome Message) × Octets, Drains buffer x.1 x.2
  drainedLength : ∀ os left, Drains buffer os left → 2 * os.length + left.length ≤ buffer.length
  received : ∀ l : Link, l.inbound = buffer → l.receiveAll.receive? = none

/-- A message is taken off a buffer as soon as its element is whole, unless something in it runs past what
it lies in; and no buffer is without end. -/
theorem next_framing (buffer : Octets) : Framing buffer where
  taken _ := exists_next?_iff
  framed := framed_iff
  incomplete := next?_eq_none_of_incomplete
  stuck hfits hwhole hnot l rest octets hin := by
    have hnone := hwhole.next?_eq_none hfits hnot (rest ++ octets)
    rw [← List.append_assoc, ← hin] at hnone
    rw [Link.receive?, show (l.feed octets).inbound = l.inbound ++ octets from rfl, hnone]
    split <;> rfl
  drained := by
    obtain ⟨os, left, h⟩ := Drains.exists_drains buffer
    refine ⟨(os, left), h, ?_⟩
    rintro ⟨os', left'⟩ h'
    obtain ⟨rfl, rfl⟩ := h.unique h'
    rfl
  drainedLength _ _ := Drains.length_le
  received l _ := l.receive?_receiveAll

private theorem header_of_short {header more tail : Octets} {b l : UInt8} {c : Bool} {n : Nat}
    (h : Header header c n) (hl : l < 128) (heq : b :: l :: tail = header ++ more) :
    n = l.toNat ∧ header = [b, l] ∧ more = tail := by
  cases h with
  | short b' l' _ =>
    simp only [List.cons_append, List.nil_append, List.cons.injEq] at heq
    obtain ⟨rfl, rfl, rfl⟩ := heq
    exact ⟨rfl, rfl, rfl⟩
  | long b' l' ls hl' _ =>
    simp only [List.cons_append, List.cons.injEq] at heq
    obtain ⟨rfl, rfl, -⟩ := heq
    exact absurd hl hl'

/-- The seventh request is answered: a sequence of its id and of a result with three members. -/
def bindAnswer : Octets :=
  [0x30, 0x0c, 0x02, 0x01, 0x07, 0x61, 0x07, 0x0a, 0x01, 0x00, 0x04, 0x00, 0x04, 0x00]

private theorem nests_bindAnswer : Nests bindAnswer := by
  have hempty : Nests ([0x04, 0x00] ++ ([] ++ [])) := .primitive (.short 0x04 0x00 (by decide)) rfl .nil
  have htwo : Nests ([0x04, 0x00] ++ ([] ++ [0x04, 0x00])) :=
    .primitive (.short 0x04 0x00 (by decide)) rfl hempty
  have hresult : Nests ([0x0a, 0x01] ++ ([0x00] ++ [0x04, 0x00, 0x04, 0x00])) :=
    .primitive (.short 0x0a 0x01 (by decide)) rfl htwo
  have hanswer : Nests ([0x61, 0x07] ++ ([0x0a, 0x01, 0x00, 0x04, 0x00, 0x04, 0x00] ++ [])) :=
    .constructed (.short 0x61 0x07 (by decide)) rfl hresult .nil
  have hid : Nests ([0x02, 0x01] ++ ([0x07] ++ _)) :=
    .primitive (.short 0x02 0x01 (by decide)) rfl hanswer
  have hall : Nests ([0x30, 0x0c] ++ (_ ++ [])) :=
    .constructed (.short 0x30 0x0c (by decide)) rfl hid .nil
  exact hall

/-- The answer is taken off although the next message, after it, has only begun. -/
theorem bindAnswer_framed : LengthFits (bindAnswer ++ [0x30, 0x0c, 0x02]) ∧ Whole bindAnswer ∧
    Nests bindAnswer ∧ Framed (bindAnswer ++ [0x30, 0x0c, 0x02]) ∧
    ∃ o, next? (bindAnswer ++ [0x30, 0x0c, 0x02]) = some (o, [0x30, 0x0c, 0x02]) := by
  have hfits : LengthFits (bindAnswer ++ [0x30, 0x0c, 0x02]) := by
    intro header c n more hheader heq
    rw [(header_of_short hheader (by decide) heq).1]
    decide
  have hheader : Header [0x30, 0x0c] true 12 := .short 0x30 0x0c (by decide)
  have hwhole : Whole bindAnswer := .intro hheader rfl
  have hframed : Framed (bindAnswer ++ [0x30, 0x0c, 0x02]) := by
    refine ((next_framing _).framed hfits).mpr ?_
    intro element rest helement heq
    obtain ⟨hfront, hlen⟩ := helement
    rw [List.append_assoc] at heq
    obtain ⟨rfl, rfl, htail⟩ := header_of_short hfront (by decide) heq
    obtain ⟨rfl, -⟩ := List.append_inj htail hlen
    exact nests_bindAnswer
  exact ⟨hfits, hwhole, nests_bindAnswer, hframed, hframed.whole _ _ hwhole rfl⟩

/-- A sequence of three octets, with a number in it that declares five. -/
private def overrun : Octets := [0x30, 0x03, 0x02, 0x05, 0x00]

/-- A message with a member that runs past it is whole, and is not taken off. -/
theorem not_always_framed : ¬∀ buffer, Framed buffer := by
  intro h
  have hheader : Header [0x30, 0x03] true 3 := .short 0x30 0x03 (by decide)
  have hwhole : Whole overrun := .intro hheader rfl
  obtain ⟨o, ho⟩ := (h overrun).whole overrun [] hwhole rfl
  have hread : read? overrun = none := by
    simp [overrun, read?, Frame.split?, readLength?, Frame.element?, readAll?]
  rw [next?, hread] at ho
  cases ho

end Message

end DirectoryClient
