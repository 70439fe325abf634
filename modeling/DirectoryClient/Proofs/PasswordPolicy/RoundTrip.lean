import DirectoryClient.PasswordPolicy.Codec
import DirectoryClient.Proofs.Ber.RoundTrip
import DirectoryClient.Proofs.Message.Envelope

/-! The control of the password policy, as a server writes it and a client finds it: what was put into
the value comes out of it, and the first control of its kind is the one that is read. -/
namespace DirectoryClient.PasswordPolicy

open Ber

section Numbers

private theorem number?_integerOctets {n : Nat} (h : n < Octets.capacity 8) (t : Tag) :
    number? (.primitive t (integerOctets n)) = some n := by
  show some (Octets.toNat (integerOctets n) % Octets.capacity 8) = some n
  rw [toNat_integerOctets (Int.natCast_nonneg n), Int.toNat_natCast, Nat.mod_eq_of_lt h]

/-- A number of 32 bits takes five octets at most, with the one that keeps the sign bit clear. -/
private theorem length_integerOctets_of_lt {n : Nat} (h : n < Octets.capacity 4) :
    (integerOctets n).length ≤ 5 := by
  have hwidth : Octets.width (n : Int).natAbs ≤ 4 := Octets.width_le h
  have hlen := length_integerOctets_le n
  omega

private theorem length_write_le {n : Nat} (h : n < Octets.capacity 4) {t : Tag} (ht : t.number ≤ 30) :
    (Element.primitive t (integerOctets n)).write.length ≤ 7 := by
  have hlen := length_integerOctets_of_lt h
  rw [Element.write, length_write_of_short ht (by omega)]
  omega

theorem Rejection.code_le (e : Rejection) : e.code ≤ 8 := by
  cases e <;> decide

end Numbers

namespace Response

private def components (r : Response) : List Element :=
  r.warning.toList.map (fun w => .contextConstructed 0 [warningElement w])
    ++ r.rejection.toList.map (fun e => .contextPrimitive 1 (integerOctets e.code))

variable (r : Response)

private theorem ofElement?_warningElement (w : Warning) :
    Warning.ofElement? (warningElement w) = some w := by
  have hlt (n : UInt32) : n.toNat < Octets.capacity 4 := n.toNat_lt
  have hread (n : UInt32) (t : Tag) : number? (.primitive t (integerOctets n.toNat)) = some n.toNat :=
    number?_integerOctets (Nat.lt_of_lt_of_le (hlt n) (Octets.capacity_mono (by decide))) t
  cases w with
  | timeBeforeExpiration n | graceLogins n =>
    rw [Warning.ofElement?, warningElement, Element.contextPrimitive, hread]
    simp only [Option.bind_eq_bind, Option.bind_some, if_pos (hlt n), Element.number, Element.tag,
      UInt32.ofNat_toNat]

/-- What is written for a response is read as that response, one component after the other. -/
private theorem foldlM_components : r.components.foldlM addComponent? {} = some r := by
  obtain ⟨warning, rejection⟩ := r
  rw [components, List.foldlM_append]
  refine Option.bind_eq_some_iff.mpr ⟨{ warning }, ?_, ?_⟩
  · cases warning with
    | none => rfl
    | some w =>
      refine Option.bind_eq_some_iff.mpr ⟨{ warning := some w }, ?_, rfl⟩
      exact Option.bind_eq_some_iff.mpr ⟨w, ofElement?_warningElement w, rfl⟩
  · cases rejection with
    | none => rfl
    | some e =>
      have hlt : e.code < Octets.capacity 8 :=
        Nat.lt_of_le_of_lt e.code_le (by decide)
      refine Option.bind_eq_some_iff.mpr ⟨_, ?_, rfl⟩
      refine Option.bind_eq_some_iff.mpr ⟨e, ?_, rfl⟩
      exact Option.bind_eq_some_iff.mpr ⟨e.code, number?_integerOctets hlt _, e.ofCode?_code⟩

private theorem fits_warningElement (w : Warning) : (warningElement w).Fits := by
  cases w <;> exact .primitive (by decide)

private theorem fits_components : (Element.sequence r.components).Fits := by
  apply Element.Fits.constructed (by decide)
  intro e he
  rcases List.mem_append.mp he with he | he
  · obtain ⟨w, -, rfl⟩ := List.mem_map.mp he
    apply Element.Fits.constructed (Nat.zero_le 30)
    intro e he
    rw [List.mem_singleton.mp he]
    exact fits_warningElement w
  · obtain ⟨e, -, rfl⟩ := List.mem_map.mp he
    exact .primitive (by decide)

private theorem length_warningElement_le (w : Warning) : (warningElement w).write.length ≤ 7 := by
  cases w with
  | timeBeforeExpiration n | graceLogins n => exact length_write_le n.toNat_lt (by decide)

private theorem length_writeAll_toList_le {α : Type} {f : α → Element} {n : Nat}
    (h : ∀ a, (f a).write.length ≤ n) (o : Option α) : (writeAll (o.toList.map f)).length ≤ n := by
  cases o with
  | none => exact Nat.zero_le n
  | some a =>
    rw [Option.toList_some, List.map_singleton, writeAll, writeAll, List.append_nil]
    exact h a

/-- What is written is short: the parts of a response are two numbers of 32 bits. -/
private theorem length_encode_le : r.encode.length ≤ 18 := by
  have hwarning (w : Warning) :
      (Element.contextConstructed 0 [warningElement w]).write.length ≤ 9 := by
    have hlen : (writeAll [warningElement w]).length ≤ 7 := by
      rw [writeAll, writeAll, List.append_nil]
      exact length_warningElement_le w
    rw [Element.contextConstructed, Element.write,
      length_write_of_short (Nat.zero_le 30) (by omega)]
    omega
  have hrejection (e : Rejection) :
      (Element.contextPrimitive 1 (integerOctets e.code)).write.length ≤ 7 :=
    length_write_le (Nat.lt_of_le_of_lt e.code_le (by decide)) (by decide)
  have hall : (writeAll r.components).length ≤ 9 + 7 := by
    rw [components, writeAll_append, List.length_append]
    exact Nat.add_le_add (length_writeAll_toList_le hwarning _) (length_writeAll_toList_le hrejection _)
  show (Element.sequence r.components).write.length ≤ 18
  rw [Element.sequence, Element.write, length_write_of_short (by decide) (by omega)]
  omega

/-- A value that is written is read back, whatever octets come after it. -/
theorem parse?_encode_append (more : Octets) : parse? (r.encode ++ more) = some r := by
  have hsize : r.encode.length < Octets.capacity 8 :=
    Nat.lt_of_le_of_lt (length_encode_le r) (by decide)
  have hread : read? (r.encode ++ more) = some (.sequence r.components, more) :=
    ((fits_components r).spells hsize).read? more
  rw [parse?, hread]
  exact foldlM_components r

end Response

section Controls

variable {before after controls : List Control}

/-- What the controls beside a result say of a password: nothing, or what the first control of the
policy holds, if that is a value and can be read. -/
inductive Carries : List Control → Option Response → Prop
  | absent {controls : List Control} : (∀ c ∈ controls, c.oid ≠ oid) → Carries controls none
  | present {before after : List Control} {critical : Bool} {value : Octets} {r : Response} :
    (∀ c ∈ before, c.oid ≠ oid) → Response.parse value = .ok r →
    Carries (before ++ { oid, critical, value := some value } :: after) (some r)

namespace Response

private theorem ofControls_of_absent (h : ∀ c ∈ controls, c.oid ≠ oid) :
    ofControls controls = .ok none := by
  have hfind : controls.find? (·.oid == oid) = none := by
    apply List.find?_eq_none.mpr
    intro c hc
    rw [beq_iff_eq]
    exact h c hc
  rw [ofControls, hfind]

/-- The first control of the policy decides, whatever stands before and after it. -/
private theorem ofControls_append_cons (hbefore : ∀ c ∈ before, c.oid ≠ oid) (critical : Bool)
    (value : Octets) (after : List Control) :
    ofControls (before ++ { oid, critical, value := some value } :: after) =
      (parse value).map some := by
  have hfind : (before ++ { oid, critical, value := some value } :: after).find? (·.oid == oid) =
      some { oid, critical, value := some value } := by
    apply List.find?_eq_some_iff_append.mpr
    refine ⟨beq_self_eq_true oid, before, after, rfl, ?_⟩
    intro c hc
    rw [Bool.not_eq_true', beq_eq_false_iff_ne]
    exact hbefore c hc
  rw [ofControls, hfind]

/-- A value that cannot be read is malformed, and nothing else is wrong with it. -/
theorem parse_eq_error {value : Octets} {e : DirectoryError} (h : parse value = .error e) :
    e = .decoding .passwordPolicy := by
  rw [parse] at h
  cases hvalue : parse? value with
  | none =>
    rw [hvalue] at h
    cases h
    rfl
  | some r =>
    rw [hvalue] at h
    cases h

/-- The control is looked for and read as it is carried. -/
theorem ofControls_eq_ok_iff {policy : Option Response} :
    ofControls controls = .ok policy ↔ Carries controls policy := by
  constructor
  · intro h
    rw [ofControls] at h
    split at h
    · rename_i hfind
      cases h
      apply Carries.absent
      intro c hc
      rw [List.find?_eq_none] at hfind
      simpa using hfind c hc
    · rename_i name critical value hfind
      obtain ⟨hoid, before, after, rfl, hbefore⟩ := List.find?_eq_some_iff_append.mp hfind
      obtain rfl : name = oid := beq_iff_eq.mp hoid
      cases hparse : parse value with
      | error e =>
        rw [hparse] at h
        cases h
      | ok r =>
        rw [hparse] at h
        cases h
        refine .present ?_ hparse
        intro c hc
        simpa using hbefore c hc
    · cases h
  · intro h
    cases h with
    | absent hnone => exact ofControls_of_absent hnone
    | present hbefore hparse =>
      rw [ofControls_append_cons hbefore, hparse]
      rfl

/-- Controls that cannot be read are malformed, and nothing else is wrong with them. -/
theorem ofControls_eq_error {e : DirectoryError} (h : ofControls controls = .error e) :
    e = .decoding .passwordPolicy := by
  rw [ofControls] at h
  split at h
  · cases h
  · rename_i value _
    cases hparse : parse value with
    | error e' =>
      rw [hparse] at h
      cases h
      exact parse_eq_error hparse
    | ok r =>
      rw [hparse] at h
      cases h
  · cases h
    rfl

/-- What a server says of a password is read back from the value that it writes, and from the first
control of the policy if that has this value. -/
theorem encode_readBack (r : Response) : parse r.encode = .ok r ∧
    ∀ before after critical, (∀ c ∈ before, c.oid ≠ oid) →
      ofControls (before ++ { oid, critical, value := some r.encode } :: after) = .ok (some r) := by
  have hparse : parse r.encode = .ok r := by
    have hread := parse?_encode_append r []
    rw [List.append_nil] at hread
    exact Malformed.require_eq_ok.mpr hread
  refine ⟨hparse, ?_⟩
  intro before after critical hbefore
  exact ofControls_eq_ok_iff.mpr (.present hbefore hparse)

def lastLogins : Response :=
  { warning := some (.graceLogins 4294967295), rejection := some .passwordInHistory }

/-- It is read although a control of another kind comes first and one of the policy without a value
comes last. -/
theorem lastLogins_readBack : (∀ c ∈ [({ oid := "1.2", value := some [0] } : Control)], c.oid ≠ oid) ∧
    parse lastLogins.encode = .ok lastLogins ∧
    ofControls ([{ oid := "1.2", value := some [0] }] ++
      { oid, critical := true, value := some lastLogins.encode } :: [{ oid := oid }]) =
        .ok (some lastLogins) := by
  have hbefore : ∀ c ∈ [({ oid := "1.2", value := some [0] } : Control)], c.oid ≠ oid := by
    intro c hc
    rw [List.mem_singleton.mp hc]
    decide
  obtain ⟨hparse, hfound⟩ := encode_readBack lastLogins
  exact ⟨hbefore, hparse, hfound _ [{ oid := oid }] true hbefore⟩

end Response

end Controls

end DirectoryClient.PasswordPolicy
