import Mathlib.Data.List.Forall2
import Mathlib.Data.List.Induction
import DirectoryClient.Proofs.PasswordPolicy.RoundTrip

/-! The numbers of a password policy value. Each is written by as many octets as there are, and only
its low 64 bits are compared with what it may be at most. -/
namespace DirectoryClient.PasswordPolicy

open Ber

def Warning.choice : Warning → Nat
  | timeBeforeExpiration _ => 0
  | graceLogins _ => 1

def Warning.number : Warning → Nat
  | timeBeforeExpiration n => n.toNat
  | graceLogins n => n.toNat

inductive Component where
  | warning (choice number : Nat)
  | rejection (number : Nat)

namespace Component

def number : Component → Nat
  | warning _ n => n
  | rejection n => n

def limit : Component → Nat
  | warning .. => Octets.capacity 4 - 1
  | rejection _ => 8

/-- The component is that of this element. Of the members of a warning the last is the chosen one. -/
def Stands (e : Element) : Component → Prop
  | warning choice n => ∃ before c octets, n = Octets.toNat octets ∧
      e = .constructed ⟨.context, 0⟩ (before ++ [.primitive ⟨c, choice⟩ octets])
  | rejection n => ∃ octets, n = Octets.toNat octets ∧ e = .primitive ⟨.context, 1⟩ octets

def IsKnown : Component → Prop
  | warning choice _ => choice ≤ 1
  | rejection _ => True

def IsRead (c : Component) : Prop := c.IsKnown ∧ c.number % Octets.capacity 8 ≤ c.limit

private def Adds (r r' : Response) : Component → Prop
  | warning choice n => ∃ w : Warning, w.choice = choice ∧ w.number = n % Octets.capacity 8 ∧
      r' = { r with warning := some w }
  | rejection n => ∃ e : Rejection, e.code = n % Octets.capacity 8 ∧
      r' = { r with rejection := some e }

def warning? : Component → Option (Nat × Nat)
  | warning choice n => some (choice, n)
  | rejection _ => none

def rejection? : Component → Option Nat
  | warning .. => none
  | rejection n => some n

def lastWarning? (cs : List Component) : Option (Nat × Nat) := (cs.filterMap warning?).getLast?

def lastRejection? (cs : List Component) : Option Nat := (cs.filterMap rejection?).getLast?

private theorem lastWarning?_concat (cs : List Component) (c : Component) :
    lastWarning? (cs ++ [c]) = c.warning?.or (lastWarning? cs) := by
  rw [lastWarning?, lastWarning?, List.filterMap_append, List.getLast?_append]
  cases c <;> rfl

private theorem lastRejection?_concat (cs : List Component) (c : Component) :
    lastRejection? (cs ++ [c]) = c.rejection?.or (lastRejection? cs) := by
  rw [lastRejection?, lastRejection?, List.filterMap_append, List.getLast?_append]
  cases c <;> rfl

end Component

/-- A response says what the last components of either kind do, with so much kept of their numbers. -/
structure Sums (keep : Nat → Nat) (cs : List Component) (r : Response) : Prop where
  warning : r.warning.map (fun w => (w.choice, w.number)) =
    (Component.lastWarning? cs).map fun (choice, n) => (choice, keep n)
  rejection : r.rejection.map Rejection.code = (Component.lastRejection? cs).map keep

def Lists (value : Octets) (cs : List Component) : Prop :=
  ∃ front rest t es, value = front ++ rest ∧ Spells front [.constructed t es] ∧
    List.Forall₂ (fun c e => c.Stands e) cs es

section Step

variable {r r' : Response} {e : Element} {c : Component} {cs : List Component}

private theorem number?_eq_some_iff {n : Nat} : number? e = some n ↔
    ∃ t octets, e = .primitive t octets ∧ n = Octets.toNat octets % Octets.capacity 8 := by
  constructor
  · intro h
    obtain ⟨octets, hoctets, hn⟩ := Option.map_eq_some_iff.mp h
    cases e with
    | primitive t bs =>
      cases hoctets
      exact ⟨t, octets, rfl, hn.symm⟩
    | constructed t es => cases hoctets
  · rintro ⟨t, octets, rfl, rfl⟩
    rfl

private theorem Warning.ext_number {w w' : Warning} (hchoice : w.choice = w'.choice)
    (hnumber : w.number = w'.number) : w = w' := by
  cases w <;> cases w' <;> simp_all [choice, number, UInt32.toNat_inj]

private theorem Warning.choice_le (w : Warning) : w.choice ≤ 1 := by
  cases w with
  | timeBeforeExpiration n => exact Nat.zero_le 1
  | graceLogins n => exact Nat.le_refl 1

private theorem Warning.number_lt (w : Warning) : w.number < Octets.capacity 4 := by
  cases w with
  | timeBeforeExpiration n | graceLogins n => exact n.toNat_lt

/-- There is a warning for each of the two choices and each number of 32 bits. -/
private theorem Warning.exists_of_choice {choice n : Nat} (hchoice : choice ≤ 1)
    (hn : n < Octets.capacity 4) : ∃ w : Warning, w.choice = choice ∧ w.number = n := by
  have htoNat : (UInt32.ofNat n).toNat = n := UInt32.toNat_ofNat_of_lt' hn
  obtain rfl | rfl : choice = 0 ∨ choice = 1 := by omega
  · exact ⟨.timeBeforeExpiration (.ofNat n), rfl, htoNat⟩
  · exact ⟨.graceLogins (.ofNat n), rfl, htoNat⟩

private theorem Warning.ofElement?_eq_some_iff {w : Warning} : ofElement? e = some w ↔
    ∃ c octets, e = .primitive ⟨c, w.choice⟩ octets ∧
      w.number = Octets.toNat octets % Octets.capacity 8 := by
  constructor
  · intro h
    obtain ⟨n, hn, h⟩ := Option.bind_eq_some_iff.mp h
    obtain ⟨⟨c, number⟩, octets, rfl, rfl⟩ := number?_eq_some_iff.mp hn
    split at h
    · rename_i hlt
      have htoNat := UInt32.toNat_ofNat_of_lt' hlt
      -- The tag number tells which of the two warnings it is.
      split at h
      · rename_i hchoice
        cases h
        obtain rfl : number = 0 := hchoice
        exact ⟨c, octets, rfl, htoNat⟩
      · rename_i hchoice
        cases h
        obtain rfl : number = 1 := hchoice
        exact ⟨c, octets, rfl, htoNat⟩
      · cases h
    · cases h
  · rintro ⟨c, octets, rfl, hnumber⟩
    have hread : number? (.primitive ⟨c, w.choice⟩ octets) = some w.number :=
      number?_eq_some_iff.mpr ⟨_, octets, rfl, hnumber⟩
    rw [ofElement?, hread]
    refine (if_pos w.number_lt).trans ?_
    cases w with
    | timeBeforeExpiration n | graceLogins n => exact congrArg some (congrArg _ UInt32.ofNat_toNat)

private theorem Rejection.ofCode?_eq_some_iff {n : Nat} {e : Rejection} :
    ofCode? n = some e ↔ e.code = n := by
  constructor
  · intro h
    have hnodup : all.Nodup := by decide
    have hlt : e.code < all.length := Nat.lt_succ_of_le e.code_le
    exact (List.getElem?_inj hlt hnodup).mp (e.ofCode?_code.trans h.symm)
  · rintro rfl
    exact e.ofCode?_code

private theorem Rejection.code_injective {e e' : Rejection} (h : e.code = e'.code) : e = e' := by
  have h' := e'.ofCode?_code
  rw [← h, e.ofCode?_code, Option.some.injEq] at h'
  exact h'

private theorem Response.exists_adds (h : r.addComponent? e = some r') :
    ∃ c : Component, c.Stands e ∧ c.Adds r r' := by
  rw [addComponent?] at h
  split at h
  · rename_i hclass
    split at h
    · rename_i hzero
      obtain ⟨chosen, hchosen, h⟩ := Option.bind_eq_some_iff.mp h
      obtain ⟨members, hmembers, hlast⟩ := Option.bind_eq_some_iff.mp hchosen
      obtain ⟨w, hw, heq⟩ := Option.bind_eq_some_iff.mp h
      obtain ⟨before, rfl⟩ := List.getLast?_eq_some_iff.mp hlast
      obtain ⟨c, octets, rfl, hnumber⟩ := Warning.ofElement?_eq_some_iff.mp hw
      cases heq
      cases e with
      | primitive t bs => cases hmembers
      | constructed t es =>
        cases hmembers
        obtain ⟨tagClass, number⟩ := t
        cases hclass
        cases hzero
        exact ⟨.warning w.choice _, ⟨before, c, octets, rfl, rfl⟩, w, rfl, hnumber, rfl⟩
    · rename_i hone
      obtain ⟨e', he', heq⟩ := Option.bind_eq_some_iff.mp h
      obtain ⟨n, hn, hcode⟩ := Option.bind_eq_some_iff.mp he'
      obtain ⟨⟨tagClass, number⟩, octets, rfl, rfl⟩ := number?_eq_some_iff.mp hn
      cases heq
      cases hclass
      cases hone
      exact ⟨.rejection _, ⟨octets, rfl, rfl⟩, e', Rejection.ofCode?_eq_some_iff.mp hcode, rfl⟩
    · cases h
  · cases h

/-- An element is read exactly if it is a component that adds what comes out. -/
private theorem Response.addComponent?_eq_some_iff :
    r.addComponent? e = some r' ↔ ∃ c : Component, c.Stands e ∧ c.Adds r r' := by
  refine ⟨exists_adds, ?_⟩
  rintro ⟨c, hstands, hadds⟩
  cases c with
  | warning choice n =>
    obtain ⟨before, c, octets, rfl, rfl⟩ := hstands
    obtain ⟨w, rfl, hnumber, rfl⟩ := hadds
    refine Option.bind_eq_some_iff.mpr ⟨_, List.getLast?_concat, ?_⟩
    refine Option.bind_eq_some_iff.mpr ⟨w, ?_, rfl⟩
    exact Warning.ofElement?_eq_some_iff.mpr ⟨c, octets, rfl, hnumber⟩
  | rejection n =>
    obtain ⟨octets, rfl, rfl⟩ := hstands
    obtain ⟨e, hcode, rfl⟩ := hadds
    refine Option.bind_eq_some_iff.mpr ⟨e, ?_, rfl⟩
    exact Option.bind_eq_some_iff.mpr ⟨_, rfl, Rejection.ofCode?_eq_some_iff.mpr hcode⟩

end Step

section Run

variable {r r' : Response} {e : Element} {c c' : Component} {cs cs' : List Component}
  {es : List Element} {keep : Nat → Nat} {value : Octets}

private theorem Component.Stands.unique (h : c.Stands e) (h' : c'.Stands e) : c = c' := by
  cases c with
  | warning choice n =>
    obtain ⟨before, c, octets, rfl, rfl⟩ := h
    cases c' with
    | warning choice' n' =>
      obtain ⟨before', c', octets', rfl, heq⟩ := h'
      obtain ⟨-, hlast⟩ := List.append_inj' (Element.constructed.inj heq).2 rfl
      cases hlast
      rfl
    | rejection n' =>
      obtain ⟨octets', -, heq⟩ := h'
      cases heq
  | rejection n =>
    obtain ⟨octets, rfl, rfl⟩ := h
    cases c' with
    | warning choice' n' =>
      obtain ⟨before', c', octets', -, heq⟩ := h'
      cases heq
    | rejection n' =>
      obtain ⟨octets', rfl, heq⟩ := h'
      cases heq
      rfl

/-- A component that adds something passes the check, and one that passes it adds something. -/
private theorem Component.isRead_iff_exists_adds : c.IsRead ↔ ∃ r', c.Adds r r' := by
  cases c with
  | warning choice n =>
    constructor
    · rintro ⟨hchoice, hn⟩
      have hlimit : Octets.capacity 4 - 1 < Octets.capacity 4 := by decide
      obtain ⟨w, hw, hnumber⟩ := Warning.exists_of_choice hchoice (Nat.lt_of_le_of_lt hn hlimit)
      exact ⟨_, w, hw, hnumber, rfl⟩
    · rintro ⟨r', w, rfl, hnumber, -⟩
      exact ⟨w.choice_le, hnumber ▸ Nat.le_sub_one_of_lt w.number_lt⟩
  | rejection n =>
    constructor
    · rintro ⟨-, hn⟩
      have hlt : n % Octets.capacity 8 < Rejection.all.length := Nat.lt_succ_of_le hn
      exact ⟨_, Rejection.all[n % Octets.capacity 8],
        Rejection.ofCode?_eq_some_iff.mp (List.getElem?_eq_getElem hlt), rfl⟩
    · rintro ⟨r', e, hcode, -⟩
      exact ⟨trivial, hcode ▸ e.code_le⟩

private theorem Sums.nil : Sums keep [] {} := ⟨rfl, rfl⟩

private theorem Sums.add (h : Sums (· % Octets.capacity 8) cs r) (hadds : c.Adds r r') :
    Sums (· % Octets.capacity 8) (cs ++ [c]) r' := by
  cases c with
  | warning choice n =>
    obtain ⟨w, rfl, hnumber, rfl⟩ := hadds
    refine ⟨?_, ?_⟩
    · rw [Component.lastWarning?_concat]
      exact congrArg (fun n => some (w.choice, n)) hnumber
    · rw [Component.lastRejection?_concat]
      exact h.rejection
  | rejection n =>
    obtain ⟨e, hcode, rfl⟩ := hadds
    refine ⟨?_, ?_⟩
    · rw [Component.lastWarning?_concat]
      exact h.warning
    · rw [Component.lastRejection?_concat]
      exact congrArg some hcode

private theorem Sums.unique (h : Sums keep cs r) (h' : Sums keep cs r') : r = r' := by
  have hwarning : r.warning = r'.warning := by
    apply Option.map_injective _ (h.warning.trans h'.warning.symm)
    intro w w' heq
    obtain ⟨hchoice, hnumber⟩ := Prod.mk.inj heq
    exact Warning.ext_number hchoice hnumber
  have hrejection : r.rejection = r'.rejection :=
    Option.map_injective (fun _ _ => Rejection.code_injective) (h.rejection.trans h'.rejection.symm)
  cases r
  cases r'
  cases hwarning
  cases hrejection
  rfl

private theorem exists_sums (h : ∀ c ∈ cs, c.IsRead) : ∃ r, Sums (· % Octets.capacity 8) cs r := by
  induction cs using List.reverseRecOn with
  | nil => exact ⟨{}, .nil⟩
  | append_singleton cs c ih =>
    obtain ⟨r, hr⟩ := ih fun c hc => h c (List.mem_append_left _ hc)
    obtain ⟨r', hadds⟩ := Component.isRead_iff_exists_adds.mp (h c List.mem_concat_self)
    exact ⟨r', hr.add hadds⟩

private theorem forall₂_concat_iff {α β : Type} {R : α → β → Prop} {xs : List α} {ys : List β} {y : β} :
    List.Forall₂ R xs (ys ++ [y]) ↔ ∃ xs' x, xs = xs' ++ [x] ∧ List.Forall₂ R xs' ys ∧ R x y := by
  constructor
  · intro h
    have hreversed := List.forall₂_reverse_iff.mpr h
    rw [List.reverse_append, List.reverse_singleton, List.singleton_append,
      List.forall₂_cons_right_iff] at hreversed
    obtain ⟨x, xs', hx, hxs', heq⟩ := hreversed
    refine ⟨xs'.reverse, x, ?_, ?_, hx⟩
    · rw [← List.reverse_cons, ← heq, List.reverse_reverse]
    · rw [← List.forall₂_reverse_iff, List.reverse_reverse]
      exact hxs'
  · rintro ⟨xs', x, rfl, hxs', hx⟩
    exact List.rel_append hxs' (.cons hx .nil)

/-- Elements are read one after the other exactly if they are components that pass the check, and what
comes out is what the last ones say. -/
private theorem foldlM_addComponent?_eq_some_iff : es.foldlM Response.addComponent? {} = some r ↔
    ∃ cs, List.Forall₂ (fun c e => c.Stands e) cs es ∧ (∀ c ∈ cs, c.IsRead) ∧
      Sums (· % Octets.capacity 8) cs r := by
  -- The last component is taken off, for it is the one that counts.
  induction es using List.reverseRecOn generalizing r with
  | nil =>
    constructor
    · intro h
      cases h
      exact ⟨[], .nil, by simp, .nil⟩
    · rintro ⟨cs, hstands, -, hsums⟩
      cases hstands
      exact congrArg some (Sums.nil.unique hsums)
  | append_singleton es e ih =>
    rw [List.foldlM_append]
    constructor
    · intro h
      obtain ⟨r₁, hbefore, hlast⟩ := Option.bind_eq_some_iff.mp h
      obtain ⟨cs, hcs, hread, hsums⟩ := ih.mp hbefore
      obtain ⟨r₂, hlast, heq⟩ := Option.bind_eq_some_iff.mp hlast
      cases heq
      obtain ⟨c, hc, hadds⟩ := Response.addComponent?_eq_some_iff.mp hlast
      refine ⟨cs ++ [c], forall₂_concat_iff.mpr ⟨cs, c, rfl, hcs, hc⟩, ?_, hsums.add hadds⟩
      intro c' hc'
      rcases List.mem_append.mp hc' with hc' | hc'
      · exact hread c' hc'
      · rw [List.mem_singleton.mp hc']
        exact Component.isRead_iff_exists_adds.mpr ⟨r, hadds⟩
    · rintro ⟨cs', hstands, hread, hsums⟩
      obtain ⟨cs, c, rfl, hcs, hc⟩ := forall₂_concat_iff.mp hstands
      have hbefore : ∀ c ∈ cs, c.IsRead := fun c hc => hread c (List.mem_append_left _ hc)
      obtain ⟨r₁, hr₁⟩ := exists_sums hbefore
      obtain ⟨r₂, hadds⟩ := Component.isRead_iff_exists_adds.mp (hread c List.mem_concat_self)
      obtain rfl : r₂ = r := (hr₁.add hadds).unique hsums
      refine Option.bind_eq_some_iff.mpr ⟨r₁, ih.mpr ⟨cs, hcs, hbefore, hr₁⟩, ?_⟩
      exact Option.bind_eq_some_iff.mpr
        ⟨r₂, Response.addComponent?_eq_some_iff.mpr ⟨c, hc, hadds⟩, rfl⟩

/-- A value is accepted exactly if it lists components that pass the check. -/
private theorem Response.parse_eq_ok_iff : Response.parse value = .ok r ↔
    ∃ cs, Lists value cs ∧ (∀ c ∈ cs, c.IsRead) ∧ Sums (· % Octets.capacity 8) cs r := by
  rw [parse, Malformed.require_eq_ok, parse?]
  constructor
  · intro h
    obtain ⟨⟨e, rest⟩, hread, h⟩ := Option.bind_eq_some_iff.mp h
    obtain ⟨es, hmembers, hfold⟩ := Option.bind_eq_some_iff.mp h
    obtain ⟨cs, hcs, hcheck, hsums⟩ := foldlM_addComponent?_eq_some_iff.mp hfold
    obtain ⟨front, hspells, hvalue⟩ := read?_eq_some_iff.mp hread
    cases e with
    | primitive t bs => cases hmembers
    | constructed t es' =>
      cases hmembers
      exact ⟨cs, ⟨front, rest, t, es, hvalue, hspells, hcs⟩, hcheck, hsums⟩
  · rintro ⟨cs, ⟨front, rest, t, es, rfl, hspells, hcs⟩, hcheck, hsums⟩
    refine Option.bind_eq_some_iff.mpr ⟨_, hspells.read? rest, ?_⟩
    exact Option.bind_eq_some_iff.mpr
      ⟨es, rfl, foldlM_addComponent?_eq_some_iff.mpr ⟨cs, hcs, hcheck, hsums⟩⟩

private theorem Lists.unique (h : Lists value cs) (h' : Lists value cs') : cs = cs' := by
  obtain ⟨front, rest, t, es, rfl, hspells, hcs⟩ := h
  obtain ⟨front', rest', t', es', heq, hspells', hcs'⟩ := h'
  have hread := hspells.read? rest
  rw [heq, hspells'.read? rest', Option.some.injEq, Prod.mk.injEq, Element.constructed.injEq] at hread
  obtain ⟨⟨-, rfl⟩, -⟩ := hread
  have hunique : Relator.LeftUnique fun (c : Component) (e : Element) => c.Stands e :=
    fun _ _ _ hc hc' => hc.unique hc'
  exact List.left_unique_forall₂' hunique hcs hcs'

/-- With the low bits kept, a response says the numbers themselves exactly if they have no others. -/
private theorem Sums.id_iff (h : Sums (· % Octets.capacity 8) cs r) : Sums id cs r ↔
    (∀ w ∈ Component.lastWarning? cs, w.2 < Octets.capacity 8) ∧
      ∀ n ∈ Component.lastRejection? cs, n < Octets.capacity 8 := by
  have hwarning := h.warning
  have hrejection := h.rejection
  have hiff (n : Nat) : n % Octets.capacity 8 = n ↔ n < Octets.capacity 8 :=
    Nat.mod_eq_iff_lt (by decide)
  have hsums : Sums id cs r ↔ r.warning.map (fun w => (w.choice, w.number)) =
      (Component.lastWarning? cs).map (fun (choice, n) => (choice, id n)) ∧
        r.rejection.map Rejection.code = (Component.lastRejection? cs).map id :=
    ⟨fun h => ⟨h.warning, h.rejection⟩, fun h => ⟨h.1, h.2⟩⟩
  rw [hsums, hwarning, hrejection]
  apply and_congr
  · cases Component.lastWarning? cs with
    | none => simp
    | some w =>
      obtain ⟨choice, n⟩ := w
      simpa using hiff n
  · cases Component.lastRejection? cs with
    | none => simp
    | some n => simpa using hiff n

structure ReadsNumbers (value : Octets) : Prop where
  /-- A value is accepted if the low 64 bits of every number are in range, and it says what these are
  in the last warning and the last rejection. -/
  accepted : ∀ r, Response.parse value = .ok r ↔
    ∃ cs, Lists value cs ∧ (∀ c ∈ cs, c.IsRead) ∧ Sums (· % Octets.capacity 8) cs r
  /-- What it says are the numbers themselves exactly if these have no more than 64 bits. -/
  whole_iff : ∀ r cs, Response.parse value = .ok r → Lists value cs →
    (Sums id cs r ↔ (∀ w ∈ Component.lastWarning? cs, w.2 < Octets.capacity 8) ∧
      ∀ n ∈ Component.lastRejection? cs, n < Octets.capacity 8)
  /-- A number of 64 bits that is out of range is malformed, wherever it stands. -/
  beyond : ∀ cs, Lists value cs → ∀ c ∈ cs, c.limit < c.number → c.number < Octets.capacity 8 →
    Response.parse value = .error (.decoding .passwordPolicy)
  refused : ∀ e, Response.parse value = .error e → e = .decoding .passwordPolicy

/-- Every value is read with the low 64 bits of its numbers. -/
theorem parse_numbers (value : Octets) : ReadsNumbers value := by
  refine ⟨fun r => Response.parse_eq_ok_iff, ?_, ?_, fun e => Response.parse_eq_error⟩
  · intro r cs hparse hcs
    obtain ⟨cs', hcs', -, hsums⟩ := Response.parse_eq_ok_iff.mp hparse
    rw [hcs.unique hcs']
    exact hsums.id_iff
  · intro cs hcs c hc hlimit hlt
    cases hparse : Response.parse value with
    | error e => rw [Response.parse_eq_error hparse]
    | ok r =>
      obtain ⟨cs', hcs', hread, -⟩ := Response.parse_eq_ok_iff.mp hparse
      have hle := (hread c (hcs.unique hcs' ▸ hc)).2
      rw [Nat.mod_eq_of_lt hlt] at hle
      omega

end Run

/-- A warning with a number of nine octets, whose lowest is five. -/
private def wideLogins : Octets :=
  [0x30, 0x0d, 0xa0, 0x0b, 0x81, 0x09, 0x01, 0x00, 0x00, 0x00, 0x00, 0x00, 0x00, 0x00, 0x05]

private def wideElement : Element :=
  .constructed ⟨.universal, sequenceNumber⟩
    [.constructed ⟨.context, 0⟩ [.primitive ⟨.context, 1⟩ [1, 0, 0, 0, 0, 0, 0, 0, 5]]]

private theorem read?_wideLogins : read? wideLogins = some (wideElement, []) := by
  simp [wideLogins, wideElement, read?, Frame.split?, readLength?, Frame.element?, readAll?,
    TagClass.ofBits, sequenceNumber]

/-- It is accepted as five logins, although what it writes is far beyond 32 bits. -/
theorem numbers_not_always_in_range :
    ¬∀ value, (∀ r, Response.parse value = .ok r → ∃ cs, Lists value cs ∧ Sums id cs r) ∧
      ∀ cs, Lists value cs → ∀ c ∈ cs, c.limit < c.number →
        Response.parse value = .error (.decoding .passwordPolicy) := by
  intro h
  obtain ⟨front, hspells, hfront⟩ := read?_eq_some_iff.mp read?_wideLogins
  have hlists : Lists wideLogins [.warning 1 (Octets.toNat [1, 0, 0, 0, 0, 0, 0, 0, 5])] :=
    ⟨front, [], _, _, hfront, hspells, .cons ⟨[], .context, _, rfl, rfl⟩ .nil⟩
  have hparse : Response.parse wideLogins = .ok { warning := some (.graceLogins 5) } := by
    apply Malformed.require_eq_ok.mpr
    rw [Response.parse?, read?_wideLogins]
    decide
  have herror := (h wideLogins).2 _ hlists _ List.mem_cons_self (by decide)
  rw [hparse] at herror
  cases herror

end DirectoryClient.PasswordPolicy
