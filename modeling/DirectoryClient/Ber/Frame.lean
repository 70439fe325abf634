import DirectoryClient.Ber.Element

/-! Splitting one framed element off the front of a string of octets. A frame is there exactly when
the identifier, the length octets and as many content octets as the length declares are there. -/
namespace DirectoryClient.Ber

/-- The first element of a string of octets, its contents not looked into, and what follows it. -/
structure Frame where
  tag : Tag
  isConstructed : Bool
  content : Octets
  rest : Octets
  deriving Repr

/-- Reads the length octets. Below 128 one octet is the length itself; otherwise its low seven bits
say how many octets write it, and only the low 64 bits of those count. -/
def readLength? : Octets → Option (Nat × Octets)
  | [] => none
  | b :: bs =>
    if b < 128 then
      some (b.toNat, bs)
    else
      let count := b.toNat - 128
      if count ≤ bs.length then
        some (Octets.toNat (bs.take count) % Octets.capacity 8, bs.drop count)
      else
        none

/-- Splits the first frame off. The tag number is always the low five bits: there is no form for
larger numbers. -/
def Frame.split? : Octets → Option Frame
  | [] => none
  | b :: bs =>
    match readLength? bs with
    | none => none
    | some (length, bs) =>
      if length ≤ bs.length then
        some {
          tag := ⟨.ofBits (b.toNat / 64), b.toNat % 32⟩
          isConstructed := b.toNat / 32 % 2 = 1
          content := bs.take length
          rest := bs.drop length }
      else
        none

private theorem readLength?_length {bs rest : Octets} {n : Nat} (h : readLength? bs = some (n, rest)) :
    rest.length < bs.length := by
  cases bs with
  | nil => simp [readLength?] at h
  | cons b bs =>
    simp only [readLength?] at h
    split at h
    · simp only [Option.some.injEq, Prod.mk.injEq] at h
      simp [← h.2]
    · split at h
      · simp only [Option.some.injEq, Prod.mk.injEq] at h
        simp only [← h.2, List.length_drop, List.length_cons]
        omega
      · simp at h

/-- Contents and rest together are shorter than what was split. -/
theorem Frame.length_lt {bs : Octets} {f : Frame} (h : Frame.split? bs = some f) :
    f.content.length + f.rest.length < bs.length := by
  cases bs with
  | nil => simp [Frame.split?] at h
  | cons b bs =>
    simp only [Frame.split?] at h
    split at h
    · simp at h
    · rename_i n rest hl
      have := readLength?_length hl
      split at h
      · simp only [Option.some.injEq] at h
        subst h
        simp only [List.length_take, List.length_drop, List.length_cons]
        omega
      · simp at h

end DirectoryClient.Ber
