import Mathlib.Data.List.Forall2
import DirectoryClient.Search.Entry
import DirectoryClient.Proofs.Message.Envelope

/-! Which elements are search entries, and what is said of an element that is none. -/
namespace DirectoryClient

open Ber

/-- Strict reading accepts nothing but what writing produces. -/
theorem Text.decode?_eq_some {octets : Octets} {s : String} :
    decode? octets = some s ↔ octets = encode s := by
  constructor
  · intro h
    rw [decode?, String.fromUTF8?] at h
    split at h
    · cases h
      rfl
    · cases h
  · rintro rfl
    exact decode?_encode s

theorem Text.decode?_eq_none {octets : Octets} :
    decode? octets = none ↔ ∀ s, octets ≠ encode s := by
  rw [Option.eq_none_iff_forall_ne_some]
  exact forall_congr' fun s => not_congr decode?_eq_some

/-- Each reading of a list succeeds, and together they return what is read. -/
private theorem Outcome.mapM_eq_ok {α β : Type} {f : α → Outcome β} {xs : List α} {ys : List β} :
    xs.mapM f = .ok ys ↔ List.Forall₂ (fun x y => f x = .ok y) xs ys := by
  induction xs generalizing ys with
  | nil =>
    rw [List.mapM_nil, List.forall₂_nil_left_iff]
    exact ⟨fun h => by cases h; rfl, fun h => by rw [h]; rfl⟩
  | cons x xs ih =>
    simp only [List.mapM_cons, Outcome.bind_eq_ok, ih, List.forall₂_cons_left_iff]
    constructor
    · rintro ⟨y, hy, ys', hys, h⟩
      cases h
      exact ⟨y, ys', hy, hys, rfl⟩
    · rintro ⟨y, ys', hy, hys, rfl⟩
      exact ⟨y, hy, ys', hys, rfl⟩

namespace Search.Entry

/-- An attribute as an element: its description as a text, then a list of primitive values. The tags,
and what comes after the values, do not matter. -/
inductive IsAttribute : Element → String × List Octets → Prop
  | intro (t₀ t₁ t₂ : Tag) (description : String) {values : List Element} {octets : List Octets}
    (more : List Element) :
    List.Forall₂ (fun v bs => v.octets? = some bs) values octets →
    IsAttribute
      (.constructed t₀
        (.primitive t₁ (Text.encode description) :: .constructed t₂ values :: more))
      (description, octets)

/-- An entry as an element: its number is 4, and it has a name and a list of attributes. -/
inductive IsEntry : Element → String → List (String × List Octets) → Prop
  | intro (c : TagClass) (t₁ t₂ : Tag) (name : String) {members : List Element}
    {attributes : List (String × List Octets)} (more : List Element) :
    List.Forall₂ IsAttribute members attributes →
    IsEntry
      (.constructed ⟨c, 4⟩ (.primitive t₁ (Text.encode name) :: .constructed t₂ members :: more))
      name attributes

def fileAll (binary : BinaryDetector) (e : Entry) (attributes : List (String × List Octets)) :
    Entry :=
  attributes.foldl (fun e a => e.put binary a.1 a.2) e

private theorem octets?_eq_some {e : Element} {bs : Octets} :
    e.octets? = some bs ↔ ∃ t, e = .primitive t bs := by
  cases e <;> simp [Element.octets?]

private theorem members?_eq_some {e : Element} {es : List Element} :
    e.members? = some es ↔ ∃ t, e = .constructed t es := by
  cases e <;> simp [Element.members?]

private theorem head_eq_some {members es : List Element} {s : String} :
    (members[0]? >>= Element.octets? >>= Text.decode?) = some s ∧
        (members[1]? >>= Element.members?) = some es ↔
      ∃ t₁ t₂ more,
        members = .primitive t₁ (Text.encode s) :: .constructed t₂ es :: more := by
  rcases members with _ | ⟨first, _ | ⟨second, more⟩⟩
  · simp
  · simp
  · simp only [List.getElem?_cons_zero, List.getElem?_cons_succ, Option.bind_eq_bind,
      Option.bind_some, Option.bind_eq_some_iff, Text.decode?_eq_some, octets?_eq_some,
      members?_eq_some, List.cons.injEq]
    grind

private theorem attributeOf_eq_ok {a : Element} {x : String × List Octets} :
    attributeOf a = .ok x ↔ IsAttribute a x := by
  simp only [attributeOf, Outcome.bind_eq_ok, Malformed.require_eq_ok, Outcome.mapM_eq_ok]
  constructor
  · rintro ⟨members, hmembers, description, hdescription, values, hvalues, octets, hoctets, h⟩
    cases h
    obtain ⟨t₀, rfl⟩ := members?_eq_some.mp hmembers
    obtain ⟨t₁, t₂, more, rfl⟩ := head_eq_some.mp ⟨hdescription, hvalues⟩
    exact .intro t₀ t₁ t₂ description more hoctets
  · rintro ⟨t₀, t₁, t₂, description, more, hoctets⟩
    obtain ⟨hdescription, hvalues⟩ := head_eq_some.mpr ⟨t₁, t₂, more, rfl⟩
    exact ⟨_, rfl, description, hdescription, _, hvalues, _, hoctets, rfl⟩

/-- Members are filed one after the other, as the attributes that they are. -/
private theorem foldlM_put_eq_ok {binary : BinaryDetector} {members : List Element} {e e' : Entry} :
    members.foldlM (fun e a => do
        let (description, values) ← attributeOf a
        return e.put binary description values) e = .ok e' ↔
      ∃ attributes, List.Forall₂ IsAttribute members attributes ∧
        e' = e.fileAll binary attributes := by
  induction members generalizing e with
  | nil =>
    simp only [List.foldlM_nil, List.forall₂_nil_left_iff, exists_eq_left]
    exact ⟨fun h => by cases h; rfl, fun h => by rw [h]; rfl⟩
  | cons a members ih =>
    simp only [List.foldlM_cons, Outcome.bind_eq_ok, ih, attributeOf_eq_ok,
      List.forall₂_cons_left_iff]
    constructor
    · rintro ⟨_, ⟨x, hx, h⟩, attributes, hmembers, rfl⟩
      cases h
      exact ⟨x :: attributes, ⟨x, attributes, hx, hmembers, rfl⟩, rfl⟩
    · rintro ⟨_, ⟨x, attributes, hx, hmembers, rfl⟩, rfl⟩
      exact ⟨_, ⟨x, hx, rfl⟩, attributes, hmembers, rfl⟩

theorem ofElement_eq_ok {binary : BinaryDetector} {e : Element} {entry : Entry} :
    ofElement binary e = .ok entry ↔
      ∃ name attributes, IsEntry e name attributes ∧
        entry = fileAll binary { name } attributes := by
  simp only [ofElement, Outcome.bind_eq_ok, Malformed.require_eq_ok, foldlM_put_eq_ok]
  constructor
  · rintro ⟨members, hmembers, name, hname, list, hlist, attributes, hattributes, rfl⟩
    obtain ⟨t₁, t₂, more, rfl⟩ := head_eq_some.mp ⟨hname, hlist⟩
    obtain ⟨e', he', hconstructed⟩ := Option.bind_eq_some_iff.mp hmembers
    rw [Element.ofNumber?] at he'
    split at he'
    · rename_i hnumber
      cases he'
      obtain ⟨⟨c, n⟩, rfl⟩ := members?_eq_some.mp hconstructed
      cases hnumber
      exact ⟨name, attributes, .intro c t₁ t₂ name more hattributes, rfl⟩
    · cases he'
  · rintro ⟨name, attributes, ⟨c, t₁, t₂, _, more, hattributes⟩, rfl⟩
    obtain ⟨hname, hlist⟩ := head_eq_some.mpr ⟨t₁, t₂, more, rfl⟩
    exact ⟨_, rfl, name, hname, _, hlist, attributes, hattributes, rfl⟩

private theorem IsAttribute.unique {a : Element} {x y : String × List Octets} (hx : IsAttribute a x)
    (hy : IsAttribute a y) : x = y :=
  Except.ok.inj ((attributeOf_eq_ok.mpr hx).symm.trans (attributeOf_eq_ok.mpr hy))

/-- An element is an entry in one way only. -/
theorem IsEntry.unique {e : Element} {name name' : String}
    {attributes attributes' : List (String × List Octets)} (h : IsEntry e name attributes)
    (h' : IsEntry e name' attributes') : name = name' ∧ attributes = attributes' := by
  have hright : Relator.RightUnique IsAttribute := fun _ _ _ => IsAttribute.unique
  obtain ⟨c, t₁, t₂, _, more, hmembers⟩ := h
  generalize hsame : Element.constructed _ _ = e at h'
  obtain ⟨c', t₁', t₂', _, more', hmembers'⟩ := h'
  simp only [Element.constructed.injEq, List.cons.injEq, Element.primitive.injEq] at hsame
  obtain ⟨-, ⟨-, hname⟩, ⟨-, rfl⟩, -⟩ := hsame
  refine ⟨?_, hright.forall₂ hmembers hmembers'⟩
  rw [← Option.some_inj, ← Text.decode?_encode, hname, Text.decode?_encode]

def NamesPart {α : Type} (o : Outcome α) : Prop :=
  ∀ cause, o = .error cause → ∃ part, cause = .decoding (.entry part)

section NamesPart

variable {α β : Type}

private theorem NamesPart.ok (a : α) : NamesPart (.ok a : Outcome α) := nofun

private theorem NamesPart.require (part : EntryPart) (found : Option α) :
    NamesPart ((Malformed.entry part).require found) := by
  intro cause h
  cases found with
  | none =>
    cases h
    exact ⟨part, rfl⟩
  | some a => cases h

private theorem NamesPart.bind {o : Outcome α} {f : α → Outcome β} (ho : NamesPart o)
    (hf : ∀ a, NamesPart (f a)) : NamesPart (o >>= f) := by
  intro cause h
  cases o with
  | error e =>
    cases h
    exact ho cause rfl
  | ok a => exact hf a cause h

private theorem NamesPart.mapM {f : α → Outcome β} (hf : ∀ a, NamesPart (f a)) (xs : List α) :
    NamesPart (xs.mapM f) := by
  induction xs with
  | nil => exact .ok _
  | cons x xs ih =>
    rw [List.mapM_cons]
    exact .bind (hf x) fun y => .bind ih fun ys => .ok _

private theorem NamesPart.foldlM {f : β → α → Outcome β} (hf : ∀ b a, NamesPart (f b a)) (xs : List α)
    (b : β) : NamesPart (xs.foldlM f b) := by
  induction xs generalizing b with
  | nil => exact .ok _
  | cons x xs ih =>
    rw [List.foldlM_cons]
    exact .bind (hf b x) ih

private theorem namesPart_attributeOf (a : Element) : NamesPart (attributeOf a) := by
  refine .bind (.require _ _) fun members => .bind (.require _ _) fun description => ?_
  refine .bind (.require _ _) fun values => .bind (.mapM (fun v => .require _ _) values) fun bs => ?_
  exact .ok _

/-- An element that is no entry is malformed in one of its parts. -/
theorem namesPart_ofElement (binary : BinaryDetector) (e : Element) :
    NamesPart (ofElement binary e) := by
  refine .bind (.require _ _) fun members => .bind (.require _ _) fun name => ?_
  refine .bind (.require _ _) fun attributes => .foldlM (fun entry a => ?_) attributes _
  exact .bind (namesPart_attributeOf a) fun x => .ok _

end NamesPart

end Search.Entry

end DirectoryClient
