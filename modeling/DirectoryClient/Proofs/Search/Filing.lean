import Mathlib.Data.List.Induction
import Mathlib.Data.List.Nodup
import DirectoryClient.Proofs.Search.Descriptions
import DirectoryClient.Proofs.Search.Elements

/-! Where the values of an entry are filed. Of the attributes with one description only the last is
kept, once among the texts and once among the octets; so nothing is lost or stands in two places unless
a description comes again. -/
namespace DirectoryClient.Search

section Keys

variable {α : Type} (key : String) (value : α) (ps : List (String × α))

private theorem lookup_cons_eq_if (p : String × α) (k : String) :
    (p :: ps).lookup k = if k = p.1 then some p.2 else ps.lookup k := by
  rw [List.lookup_cons]
  by_cases hk : k = p.1
  · rw [if_pos hk, beq_iff_eq.mpr hk]
  · rw [if_neg hk, beq_eq_false_iff_ne.mpr hk]

private theorem lookup_putKey (k : String) :
    (putKey key value ps).lookup k = if k = key then some value else ps.lookup k := by
  induction ps with
  | nil => exact lookup_cons_eq_if [] (key, value) k
  | cons p ps ih =>
    rw [putKey, lookup_cons_eq_if]
    by_cases hp : p.1 = key
    · rw [if_pos hp, lookup_cons_eq_if, hp]
      split <;> rfl
    · rw [if_neg hp, lookup_cons_eq_if, ih]
      by_cases hk : k = p.1
      · rw [if_pos hk, if_neg (hk ▸ hp), if_pos hk]
      · rw [if_neg hk, if_neg hk]

private theorem keys_putKey : (putKey key value ps).map Prod.fst =
    if key ∈ ps.map Prod.fst then ps.map Prod.fst else ps.map Prod.fst ++ [key] := by
  induction ps with
  | nil => rfl
  | cons p ps ih =>
    by_cases hp : p.1 = key
    · simp [putKey, hp]
    · rw [putKey, if_neg hp, List.map_cons, ih, List.map_cons]
      have hkey : key ∈ p.1 :: ps.map Prod.fst ↔ key ∈ ps.map Prod.fst := by
        simp [Ne.symm hp]
      simp only [hkey]
      split <;> rfl

private theorem nodup_putKey {ps : List (String × α)} (h : (ps.map Prod.fst).Nodup) :
    ((putKey key value ps).map Prod.fst).Nodup := by
  rw [keys_putKey]
  split
  · exact h
  · rename_i hkey
    refine List.nodup_append.mpr ⟨h, List.nodup_singleton key, fun k hk k' hk' heq => ?_⟩
    exact hkey (List.mem_singleton.mp hk' ▸ heq ▸ hk)

end Keys

/-- The attributes of an entry as they come: descriptions with their values. -/
abbrev Attributes := List (String × List Octets)

def LastOf (P : List Octets → Prop) (attributes : Attributes) (description : String)
    (values : List Octets) : Prop :=
  ∃ before after, attributes = before ++ (description, values) :: after ∧ P values ∧
    ∀ vs, (description, vs) ∈ after → ¬P vs

def carried (attributes : Attributes) (description : String) : List Octets :=
  (attributes.filter (·.1 == description)).flatMap Prod.snd

section Carried

variable (attributes more : Attributes) (description : String) {values : List Octets}

private theorem carried_append : carried (attributes ++ more) description =
    carried attributes description ++ carried more description := by
  rw [carried, List.filter_append, List.flatMap_append, carried, carried]

private theorem carried_cons_self : carried ((description, values) :: attributes) description =
    values ++ carried attributes description := by
  rw [carried, List.filter_cons_of_pos, List.flatMap_cons, carried]
  exact beq_self_eq_true description

variable {attributes description}

private theorem mem_carried {v : Octets} : v ∈ carried attributes description ↔
    ∃ values, (description, values) ∈ attributes ∧ v ∈ values := by
  simp [carried, and_assoc]

private theorem carried_eq_nil : carried attributes description = [] ↔
    ∀ values, (description, values) ∈ attributes → values = [] := by
  simp only [List.eq_nil_iff_forall_not_mem, mem_carried]
  grind

end Carried

section LastOf

variable {P : List Octets → Prop} {attributes : Attributes} {description : String}
  {values : List Octets}

private theorem LastOf.mem (h : LastOf P attributes description values) :
    (description, values) ∈ attributes ∧ P values := by
  obtain ⟨before, after, rfl, hp, -⟩ := h
  exact ⟨List.mem_append_right before List.mem_cons_self, hp⟩

variable {a : String × List Octets}

private theorem lastOf_concat_self (ha : a.1 = description) (hp : P a.2) :
    LastOf P (attributes ++ [a]) description values ↔ values = a.2 := by
  constructor
  · rintro ⟨before, after, hsplit, hvalues, hafter⟩
    rcases List.eq_nil_or_concat' after with rfl | ⟨after, b, rfl⟩
    · have hlast := List.singleton_inj.mp (List.append_inj' hsplit rfl).2
      rw [hlast]
    · rw [← List.cons_append, ← List.append_assoc] at hsplit
      have hlast := List.singleton_inj.mp (List.append_inj' hsplit rfl).2
      refine absurd hp (hafter a.2 (List.mem_append_right _ (List.mem_singleton.mpr ?_)))
      rw [← ha, ← hlast]
  · rintro rfl
    exact ⟨attributes, [], by rw [← ha], hp, fun _ h => absurd h List.not_mem_nil⟩

private theorem lastOf_concat_other (ha : a.1 = description → ¬P a.2) :
    LastOf P (attributes ++ [a]) description values ↔ LastOf P attributes description values := by
  constructor
  · rintro ⟨before, after, hsplit, hvalues, hafter⟩
    rcases List.eq_nil_or_concat' after with rfl | ⟨after, b, rfl⟩
    · obtain rfl := List.singleton_inj.mp (List.append_inj' hsplit rfl).2
      exact absurd hvalues (ha rfl)
    · rw [← List.cons_append, ← List.append_assoc] at hsplit
      obtain ⟨rfl, -⟩ := List.append_inj' hsplit rfl
      exact ⟨before, after, rfl, hvalues, fun vs h => hafter vs (List.mem_append_left _ h)⟩
  · rintro ⟨before, after, rfl, hvalues, hafter⟩
    refine ⟨before, after ++ [a], by simp, hvalues, fun vs h => ?_⟩
    rcases List.mem_append.mp h with h | h
    · exact hafter vs h
    · obtain rfl := List.mem_singleton.mp h
      exact ha rfl

/-- The last of all attributes with a description is the last of those that are like it. -/
private theorem LastOf.of_all (h : LastOf (fun _ => True) attributes description values)
    (hp : P values) :
    LastOf P attributes description values := by
  obtain ⟨before, after, hsplit, -, hafter⟩ := h
  exact ⟨before, after, hsplit, hp, fun vs hvs => absurd trivial (hafter vs hvs)⟩

private theorem exists_lastOf (h : (description, values) ∈ attributes) (hp : P values) :
    ∃ last, LastOf P attributes description last := by
  induction attributes using List.reverseRecOn with
  | nil => cases h
  | append_singleton attributes a ih =>
    by_cases ha : a.1 = description ∧ P a.2
    · exact ⟨a.2, (lastOf_concat_self ha.1 ha.2).mpr rfl⟩
    · simp only [lastOf_concat_other (not_and.mp ha)]
      rcases List.mem_append.mp h with h | h
      · exact ih h
      · obtain rfl := List.mem_singleton.mp h
        exact absurd ⟨rfl, hp⟩ ha

def Represents {α : Type} (f : α → List Octets) (P : String → List Octets → Prop)
    (attributes : Attributes) (ps : List (String × α)) : Prop :=
  ∀ d values, (ps.lookup d).map f = some values ↔ LastOf (P d) attributes d values

section Represents

variable {α : Type} {f : α → List Octets} {P : String → List Octets → Prop} {ps : List (String × α)}

private theorem Represents.nil : Represents f P [] [] := by
  intro d values
  constructor
  · intro h
    cases h
  · intro h
    cases h.mem.1

private theorem Represents.put (h : Represents f P attributes ps) (hp : P a.1 a.2) {value : α}
    (hvalue : f value = a.2) : Represents f P (attributes ++ [a]) (putKey a.1 value ps) := by
  intro d values
  rw [lookup_putKey]
  by_cases hd : a.1 = d
  · subst hd
    rw [if_pos rfl, lastOf_concat_self rfl hp, Option.map_some, hvalue, Option.some_inj]
    exact eq_comm
  · rw [if_neg (Ne.symm hd), lastOf_concat_other fun ha => absurd ha hd]
    exact h d values

private theorem Represents.skip (h : Represents f P attributes ps) (hp : ¬P a.1 a.2) :
    Represents f P (attributes ++ [a]) ps := by
  intro d values
  rw [lastOf_concat_other]
  · exact h d values
  · rintro rfl
    exact hp

private theorem Represents.lookup_eq_none (h : Represents f P attributes ps) {d : String} :
    ps.lookup d = none ↔ ∀ values, (d, values) ∈ attributes → ¬P d values := by
  constructor
  · intro hnone values hmem hp
    obtain ⟨last, hlast⟩ := exists_lastOf hmem hp
    rw [← h d last, hnone] at hlast
    cases hlast
  · intro hall
    cases hlookup : ps.lookup d with
    | none => rfl
    | some value =>
      obtain ⟨hmem, hp⟩ := ((h d (f value)).mp (by rw [hlookup]; rfl)).mem
      exact absurd hp (hall _ hmem)

end Represents

end LastOf

namespace Entry

/-- The values are octets: the description names binary values, or one of them is no text. -/
def IsBinary (named : String → Prop) (description : String) (values : List Octets) : Prop :=
  named description ∨ ∃ v ∈ values, ∀ s, v ≠ Text.encode s

inductive Puts (binary : BinaryDetector) (e : Entry) (d : String) (values : List Octets) :
    Entry → Prop
  | octets : IsBinary (binary · = true) d values →
    Puts binary e d values { e with binaries := putKey d values e.binaries }
  | texts (texts : List String) : ¬IsBinary (binary · = true) d values →
    texts.map Text.encode = values →
    Puts binary e d values { e with texts := putKey d texts e.texts }

private theorem mapM_decode? (values : List Octets) :
    (∃ texts, values.mapM Text.decode? = some texts ∧ texts.map Text.encode = values) ∨
      values.mapM Text.decode? = none ∧ ∃ v ∈ values, ∀ s, v ≠ Text.encode s := by
  induction values with
  | nil => exact .inl ⟨[], rfl, rfl⟩
  | cons v values ih =>
    rw [List.mapM_cons]
    cases hv : Text.decode? v with
    | none => exact .inr ⟨rfl, v, List.mem_cons_self, Text.decode?_eq_none.mp hv⟩
    | some s =>
      rcases ih with ⟨texts, htexts, rfl⟩ | ⟨hnone, w, hw, hnot⟩
      · refine .inl ⟨s :: texts, by rw [htexts]; rfl, ?_⟩
        rw [List.map_cons, Text.decode?_eq_some.mp hv]
      · exact .inr ⟨by rw [hnone]; rfl, w, List.mem_cons_of_mem v hw, hnot⟩

private theorem put_puts (binary : BinaryDetector) (e : Entry) (d : String) (values : List Octets) :
    Puts binary e d values (e.put binary d values) := by
  rw [put]
  cases hd : binary d with
  | true => exact .octets (.inl hd)
  | false =>
    rcases mapM_decode? values with ⟨texts, htexts, rfl⟩ | ⟨hnone, hnot⟩
    · rw [if_neg Bool.false_ne_true, htexts]
      refine .texts texts ?_ rfl
      rintro (hbinary | ⟨v, hv, hnot⟩)
      · cases hd.symm.trans hbinary
      · obtain ⟨s, -, rfl⟩ := List.mem_map.mp hv
        exact hnot s rfl
    · rw [if_neg Bool.false_ne_true, hnone]
      exact .octets (.inr hnot)

structure Filed (named : String → Prop) (attributes : Attributes) (e : Entry) : Prop where
  distinctTexts : (e.texts.map Prod.fst).Nodup
  distinctBinaries : (e.binaries.map Prod.fst).Nodup
  texts : Represents (List.map Text.encode) (¬IsBinary named · ·) attributes e.texts
  binaries : Represents id (IsBinary named) attributes e.binaries

private theorem filed_fileAll (binary : BinaryDetector) (name : String) (attributes : Attributes) :
    Filed (binary · = true) attributes (fileAll binary { name } attributes) := by
  induction attributes using List.reverseRecOn with
  | nil => exact ⟨List.nodup_nil, List.nodup_nil, .nil, .nil⟩
  | append_singleton attributes a ih =>
    have hlast : fileAll binary { name } (attributes ++ [a]) =
        (fileAll binary { name } attributes).put binary a.1 a.2 := by
      rw [fileAll, List.foldl_append]
      rfl
    rw [hlast]
    have hputs := put_puts binary (fileAll binary { name } attributes) a.1 a.2
    generalize put binary _ a.1 a.2 = e at hputs
    cases hputs with
    | octets hbinary =>
      exact ⟨ih.distinctTexts, nodup_putKey a.1 a.2 ih.distinctBinaries,
        ih.texts.skip (not_not.mpr hbinary), ih.binaries.put hbinary rfl⟩
    | texts texts htext hvalues =>
      exact ⟨nodup_putKey a.1 texts ih.distinctTexts, ih.distinctBinaries,
        ih.texts.put htext hvalues, ih.binaries.skip htext⟩

structure Keeps (named : String → Prop) (attributes : Attributes) (e : Entry) : Prop where
  binary : ∀ d ∈ attributes.map Prod.fst, IsBinary named d (carried attributes d) →
    e.binaries.lookup d = some (carried attributes d) ∧ e.texts.lookup d = none
  text : ∀ d ∈ attributes.map Prod.fst, ¬IsBinary named d (carried attributes d) →
    (e.texts.lookup d).map (List.map Text.encode) = some (carried attributes d) ∧
      e.binaries.lookup d = none
  only : ∀ d, d ∉ attributes.map Prod.fst → e.texts.lookup d = none ∧ e.binaries.lookup d = none

/-- An attribute whose description comes again has no values; and later values are no octets unless the
description names binary values. -/
def Separate (named : String → Prop) (attributes : Attributes) : Prop :=
  ∀ before d values after later, attributes = before ++ (d, values) :: after →
    (d, later) ∈ after → values = [] ∧ (IsBinary named d later → named d)

section Keeps

variable {named : String → Prop} {attributes before after : Attributes} {e : Entry} {d : String}
  {values later : List Octets}

private theorem isBinary_nil : IsBinary named d [] ↔ named d := by simp [IsBinary]

private theorem mem_descriptions :
    d ∈ attributes.map Prod.fst ↔ ∃ values, (d, values) ∈ attributes := by
  simp

/-- If the last attribute with a description has all the values, then the others have none. -/
private theorem eq_nil_of_last {P : List Octets → Prop} (hall : ∀ vs, (d, vs) ∈ attributes → P vs)
    (hlast : LastOf P attributes d (carried attributes d))
    (hsplit : attributes = before ++ (d, values) :: after) (hlater : (d, later) ∈ after) :
    values = [] := by
  obtain ⟨front, back, hsplit', -, hback⟩ := hlast
  have hnone : ∀ vs, (d, vs) ∉ back := fun vs hvs =>
    hback vs hvs (hall vs (by rw [hsplit']; simp [hvs]))
  have hfront : carried front d = [] := by
    have hlength := congrArg (List.length ∘ (carried · d)) hsplit'
    simp only [Function.comp_apply, carried_append, carried_cons_self, List.length_append] at hlength
    exact List.length_eq_zero_iff.mp (by omega)
  -- the attribute stands before the last one, which cannot have `later` behind it
  refine carried_eq_nil.mp hfront values ?_
  rcases List.append_eq_append_iff.mp (hsplit.symm.trans hsplit') with
    ⟨_ | ⟨a, between⟩, rfl, hbetween⟩ | ⟨_ | ⟨a, between⟩, rfl, hbetween⟩
  · cases hbetween
    exact absurd hlater (hnone later)
  · cases hbetween
    exact List.mem_append_right before List.mem_cons_self
  · cases hbetween
    exact absurd hlater (hnone later)
  · cases hbetween
    exact absurd (List.mem_append_right between (List.mem_cons_of_mem _ hlater)) (hnone later)

private theorem Filed.separate (h : Filed named attributes e) (hkeeps : Keeps named attributes e) :
    Separate named attributes := by
  intro before d values after later hsplit hlater
  have hmem : (d, values) ∈ attributes := by
    rw [hsplit]
    exact List.mem_append_right before List.mem_cons_self
  have hmem' : (d, later) ∈ attributes := by
    rw [hsplit]
    exact List.mem_append_right before (List.mem_cons_of_mem _ hlater)
  by_cases hbinary : IsBinary named d (carried attributes d)
  · obtain ⟨hkept, hnone⟩ := hkeeps.binary d (mem_descriptions.mpr ⟨values, hmem⟩) hbinary
    have hall : ∀ vs, (d, vs) ∈ attributes → IsBinary named d vs := fun vs hvs =>
      not_not.mp (h.texts.lookup_eq_none.mp hnone vs hvs)
    obtain rfl := eq_nil_of_last hall ((h.binaries d _).mp (by rw [hkept]; rfl)) hsplit hlater
    exact ⟨rfl, fun _ => isBinary_nil.mp (hall [] hmem)⟩
  · obtain ⟨hkept, hnone⟩ := hkeeps.text d (mem_descriptions.mpr ⟨values, hmem⟩) hbinary
    have hall := h.binaries.lookup_eq_none.mp hnone
    exact ⟨eq_nil_of_last hall ((h.texts d _).mp hkept) hsplit hlater,
      fun hlater' => absurd hlater' (hall later hmem')⟩

section Separate

variable (h : Separate named attributes) (hsplit : attributes = before ++ (d, values) :: after)
include h hsplit

/-- The attributes with a description but for the last have no values. -/
private theorem Separate.of_before (hmem : (d, later) ∈ before) :
    later = [] ∧ (IsBinary named d values → named d) := by
  obtain ⟨front, back, rfl⟩ := List.append_of_mem hmem
  refine h front d later (back ++ (d, values) :: after) values ?_ (by simp)
  rw [hsplit, List.append_assoc, List.cons_append]

variable (hlast : ∀ vs, (d, vs) ∉ after)
include hlast

private theorem Separate.carried_eq : carried attributes d = values := by
  have hbefore : carried before d = [] := carried_eq_nil.mpr fun vs hvs => (h.of_before hsplit hvs).1
  have hafter : carried after d = [] := carried_eq_nil.mpr fun vs hvs => absurd hvs (hlast vs)
  rw [hsplit, carried_append, carried_cons_self, hbefore, hafter, List.nil_append, List.append_nil]

private theorem Separate.alike (hmem : (d, later) ∈ attributes) :
    IsBinary named d later ↔ IsBinary named d values := by
  rw [hsplit] at hmem
  rcases List.mem_append.mp hmem with hbefore | hmem
  · obtain ⟨rfl, hnamed⟩ := h.of_before hsplit hbefore
    exact isBinary_nil.trans ⟨.inl, hnamed⟩
  · rcases List.mem_cons.mp hmem with heq | hafter
    · cases heq
      rfl
    · exact absurd hafter (hlast later)

end Separate

private theorem Separate.lastOf (h : Separate named attributes) (hd : d ∈ attributes.map Prod.fst) :
    LastOf (fun _ => True) attributes d (carried attributes d) ∧ ∀ vs, (d, vs) ∈ attributes →
      (IsBinary named d vs ↔ IsBinary named d (carried attributes d)) := by
  obtain ⟨values, hvalues⟩ := mem_descriptions.mp hd
  obtain ⟨last, before, after, hsplit, -, hafter⟩ :=
    exists_lastOf (P := fun _ => True) hvalues trivial
  have hlast : ∀ vs, (d, vs) ∉ after := fun vs hvs => hafter vs hvs trivial
  rw [h.carried_eq hsplit hlast]
  exact ⟨⟨before, after, hsplit, trivial, hafter⟩, fun vs => h.alike hsplit hlast⟩

private theorem Filed.keeps (h : Filed named attributes e) (hseparate : Separate named attributes) :
    Keeps named attributes e where
  binary d hd hbinary := by
    obtain ⟨hlast, halike⟩ := hseparate.lastOf hd
    refine ⟨?_, h.texts.lookup_eq_none.mpr fun vs hvs => ?_⟩
    · rw [← (h.binaries d _).mpr (hlast.of_all hbinary), Option.map_id, id]
    · exact not_not.mpr ((halike vs hvs).mpr hbinary)
  text d hd htext := by
    obtain ⟨hlast, halike⟩ := hseparate.lastOf hd
    refine ⟨(h.texts d _).mpr (hlast.of_all htext), h.binaries.lookup_eq_none.mpr fun vs hvs => ?_⟩
    exact mt (halike vs hvs).mp htext
  only d hd := by
    have hnone : ∀ vs, (d, vs) ∉ attributes := fun vs hvs => hd (mem_descriptions.mpr ⟨vs, hvs⟩)
    exact ⟨h.texts.lookup_eq_none.mpr fun vs hvs => absurd hvs (hnone vs),
      h.binaries.lookup_eq_none.mpr fun vs hvs => absurd hvs (hnone vs)⟩

end Keeps

private theorem put_name (binary : BinaryDetector) (e : Entry) (d : String) (values : List Octets) :
    (e.put binary d values).name = e.name := by
  have hputs := put_puts binary e d values
  generalize e.put binary d values = e' at hputs
  cases hputs <;> rfl

private theorem fileAll_name (binary : BinaryDetector) (e : Entry) (attributes : Attributes) :
    (fileAll binary e attributes).name = e.name := by
  induction attributes generalizing e with
  | nil => rfl
  | cons a attributes ih => exact (ih _).trans (put_name binary e a.1 a.2)

private theorem separate_of_nodup {named : String → Prop} {attributes : Attributes}
    (h : (attributes.map Prod.fst).Nodup) : Separate named attributes := by
  rintro before d values after later rfl hlater
  rw [List.map_append, List.map_cons] at h
  have hnew := (List.nodup_cons.mp (List.nodup_append.mp h).2.1).1
  exact absurd (mem_descriptions.mpr ⟨later, hlater⟩) hnew

private theorem filed_standard (added : List String) (name : String) (attributes : Attributes) :
    Filed (NamesBinary added) attributes
      (fileAll (BinaryDetector.standard added) { name } attributes) := by
  rw [← show (BinaryDetector.standard added · = true) = NamesBinary added from
    funext fun d => propext (standard_iff added d)]
  exact filed_fileAll _ name attributes

structure MadeOf (added : List String) (element : Ber.Element) (attributes : Attributes)
    (e : Entry) : Prop where
  isEntry : ∀ name attributes', IsEntry element name attributes' ↔
    name = e.name ∧ attributes' = attributes
  filed : Filed (NamesBinary added) attributes e
  keeps_iff : Keeps (NamesBinary added) attributes e ↔ Separate (NamesBinary added) attributes
  keeps : (attributes.map Prod.fst).Nodup → Keeps (NamesBinary added) attributes e

/-- Of the attributes with one description, the last with texts and the last with octets are filed. An
entry keeps all values in their places unless a description comes again that has had values before, or
that has octets now. -/
theorem ofElement_files {added : List String} {element : Ber.Element} {e : Entry}
    (h : ofElement (BinaryDetector.standard added) element = .ok e) :
    ∃ attributes, MadeOf added element attributes e := by
  obtain ⟨name, attributes, hentry, rfl⟩ := ofElement_eq_ok.mp h
  have hfiled := filed_standard added name attributes
  refine ⟨attributes, fun name' attributes' => ?_, hfiled, ⟨hfiled.separate, hfiled.keeps⟩,
    fun hnew => ?_⟩
  · rw [fileAll_name]
    exact ⟨fun h' => h'.unique hentry, fun ⟨hname, hattributes⟩ => hname ▸ hattributes ▸ hentry⟩
  · exact hfiled.keeps (separate_of_nodup hnew)

section Elements

open Ber

def element (name : String) (attributes : Attributes) : Element :=
  .constructed ⟨.application, 4⟩
    [.octetString (Text.encode name),
      .sequence (attributes.map fun a =>
        .sequence [.octetString (Text.encode a.1),
          .constructed ⟨.universal, 17⟩ (a.2.map .octetString)])]

private theorem isEntry_element (name : String) (attributes : Attributes) :
    IsEntry (element name attributes) name attributes := by
  refine .intro _ _ _ name [] (List.forall₂_map_left_iff.mpr (List.forall₂_same.mpr fun a _ => ?_))
  exact .intro _ _ _ a.1 [] (List.forall₂_map_left_iff.mpr (List.forall₂_same.mpr fun v _ => rfl))

private theorem ofElement_element (binary : BinaryDetector) (name : String) (attributes : Attributes) :
    ofElement binary (element name attributes) = .ok (fileAll binary { name } attributes) :=
  ofElement_eq_ok.mpr ⟨name, attributes, isEntry_element name attributes, rfl⟩

def portrait : Attributes := [("jpegPhoto;lang-de", [[0xff, 0xd8]]), ("cn", [Text.encode "x"])]

theorem portrait_kept : ∃ e,
    ofElement (BinaryDetector.standard []) (element "cn=x" portrait) = .ok e ∧
      MadeOf [] (element "cn=x" portrait) portrait e ∧ Keeps (NamesBinary []) portrait e := by
  have h := ofElement_element (BinaryDetector.standard []) "cn=x" portrait
  obtain ⟨attributes, hmade⟩ := ofElement_files h
  obtain ⟨-, rfl⟩ := (hmade.isEntry "cn=x" portrait).mp (isEntry_element _ _)
  exact ⟨_, h, hmade, hmade.keeps (by decide)⟩

/-- The same description with a text, and then with octets. -/
def twice : Attributes := [("cn", [Text.encode "x"]), ("cn", [[0xff]])]

/-- A description that comes twice can stand on both sides, with a part of its values on each. -/
theorem twice_not_kept : ∃ e,
    ofElement (BinaryDetector.standard []) (element "cn=x" twice) = .ok e ∧
      e.texts.lookup "cn" = some ["x"] ∧ e.binaries.lookup "cn" = some [[0xff]] ∧
        ¬Keeps (NamesBinary []) twice e := by
  have hfiled := filed_standard [] "cn=x" twice
  have hlower : "cn".toLower = "cn" := by decide +kernel
  have hsplit : "cn".splitOn ";" = ["cn"] := splitOn_eq_cons.mpr ⟨rfl, by simp⟩
  have hname : BinaryDetector.standard [] "cn" = false := by
    rw [BinaryDetector.standard, hlower, hsplit]
    decide
  have hbinary : Text.decode? [0xff] = none := by decide
  refine ⟨_, ofElement_element _ "cn=x" twice, ?_, ?_, fun hkeeps => ?_⟩
  · simp [fileAll, twice, put, hname, hbinary, Text.decode?_encode, putKey]
  · simp [fileAll, twice, put, hname, hbinary, Text.decode?_encode, putKey]
  · have hempty := hfiled.separate hkeeps [] "cn" [Text.encode "x"] [("cn", [[0xff]])] [[0xff]] rfl
      List.mem_cons_self
    cases hempty.1

end Elements

end Entry

end DirectoryClient.Search
