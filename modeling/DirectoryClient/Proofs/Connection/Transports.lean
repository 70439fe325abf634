import DirectoryClient.Connection.Operations
import DirectoryClient.Proofs.Link.Responses
import DirectoryClient.Scenario.Site
import Mathlib.Logic.Function.Basic

/-! Many transports in one world: what happens on one of them is a run of its own, and leaves the
slots of all others as they are. -/
namespace DirectoryClient

open Link (Event Traffic Run Routed)

/-- The ends of transports in a network are kept apart, and a new transport is none of those that are
there. -/
structure Network.Lawful {ω : Type} (n : Network ω) (isThere : TransportId → ω → Prop) : Prop where
  link_set : ∀ {t l w}, isThere t w → n.link t (n.setLink t l w) = l
  link_set_of_ne : ∀ {t u l w}, u ≠ t → n.link u (n.setLink t l w) = n.link u w
  there_set : ∀ {t u l w}, isThere u w → isThere u (n.setLink t l w)
  connected : ∀ {t w w'}, n.connect w = (.ok t, w') →
    ¬isThere t w ∧ isThere t w' ∧ n.link t w' = {}
  connect_keeps : ∀ {o w w' u}, n.connect w = (o, w') → isThere u w →
    isThere u w' ∧ n.link u w' = n.link u w

structure Fleet (ω : Type) where
  world : ω
  inHand : TransportId → List MessageId := fun _ => []

namespace Network

variable {ω : Type} (n : Network ω) (isThere : TransportId → ω → Prop)

def traffic (t : TransportId) (f : Fleet ω) : Traffic := { link := n.link t f.world, inHand := f.inHand t }

/-- Steps on any transports, in any order, with the transport of each and what is seen of it. New
transports are opened in between. -/
inductive Voyage (f : Fleet ω) : List (TransportId × List Event) → Fleet ω → Prop
  | start : Voyage f [] f
  | on {es : List (TransportId × List Event)} {f₁ : Fleet ω} {t : TransportId} {e : List Event}
    {s : Traffic} : Voyage f es f₁ → isThere t f₁.world → Link.Step (n.traffic t f₁) e s →
    Voyage f (es ++ [(t, e)]) {
      world := n.setLink t s.link f₁.world
      inHand := Function.update f₁.inHand t s.inHand }
  | connect {es : List (TransportId × List Event)} {f₁ : Fleet ω} {t : TransportId} {w : ω} :
    Voyage f es f₁ → n.connect f₁.world = (.ok t, w) →
    Voyage f es { world := w, inHand := Function.update f₁.inHand t [] }
  | refused {es : List (TransportId × List Event)} {f₁ : Fleet ω} {e : DirectoryError} {w : ω} :
    Voyage f es f₁ → n.connect f₁.world = (.error e, w) → Voyage f es { f₁ with world := w }

end Network

def seenOn (t : TransportId) (es : List (TransportId × List Event)) : List Event :=
  es.flatMap fun e => if e.1 = t then e.2 else []

namespace Network

variable {ω : Type} {n : Network ω} {isThere : TransportId → ω → Prop} {f f' : Fleet ω}
  {es : List (TransportId × List Event)} {t : TransportId}

/-- On a transport that is there, there is a run of its own. -/
theorem Voyage.on_transport (h : n.Voyage isThere f es f') (hn : n.Lawful isThere)
    (ht : isThere t f.world) :
    isThere t f'.world ∧ Run (n.traffic t f) (seenOn t es) (n.traffic t f') := by
  induction h with
  | start => exact ⟨ht, .start⟩
  | @on es f₁ u e s _ hthere hstep ih =>
    obtain ⟨hold, hrun⟩ := ih
    have hseen : seenOn t (es ++ [(u, e)]) = seenOn t es ++ if u = t then e else [] := by
      simp [seenOn]
    refine ⟨hn.there_set hold, ?_⟩
    rw [hseen]
    by_cases hut : u = t
    · subst hut
      have hs : n.traffic u { world := n.setLink u s.link f₁.world
                              inHand := Function.update f₁.inHand u s.inHand } = s := by
        simp only [traffic, hn.link_set hthere, Function.update_self]
      rw [if_pos rfl, hs]
      exact hrun.step hstep
    · have hs : n.traffic t { world := n.setLink u s.link f₁.world
                              inHand := Function.update f₁.inHand u s.inHand } =
          n.traffic t f₁ := by
        simp only [traffic, hn.link_set_of_ne (Ne.symm hut),
          Function.update_of_ne (Ne.symm hut)]
      rw [if_neg hut, List.append_nil, hs]
      exact hrun
  | @connect es f₁ u w _ hconnect ih =>
    obtain ⟨hold, hrun⟩ := ih
    have hne : t ≠ u := by
      rintro rfl
      exact (hn.connected hconnect).1 hold
    obtain ⟨hthere, hlink⟩ := hn.connect_keeps hconnect hold
    refine ⟨hthere, ?_⟩
    have hs : n.traffic t { world := w, inHand := Function.update f₁.inHand u [] } =
        n.traffic t f₁ := by
      simp only [traffic, hlink, Function.update_of_ne hne]
    rw [hs]
    exact hrun
  | @refused es f₁ e w _ hconnect ih =>
    obtain ⟨hold, hrun⟩ := ih
    obtain ⟨hthere, hlink⟩ := hn.connect_keeps hconnect hold
    refine ⟨hthere, ?_⟩
    have hs : n.traffic t { f₁ with world := w } = n.traffic t f₁ := by
      simp only [traffic, hlink]
    rw [hs]
    exact hrun

/-- Steps on other transports leave a transport as it is. -/
theorem Voyage.elsewhere (h : n.Voyage isThere f es f') (hn : n.Lawful isThere)
    (ht : isThere t f.world) (helse : ∀ e ∈ es, e.1 ≠ t) :
    isThere t f'.world ∧ n.link t f'.world = n.link t f.world := by
  induction h with
  | start => exact ⟨ht, rfl⟩
  | on _ _ _ ih =>
    obtain ⟨hold, hlink⟩ := ih fun e he => helse e (List.mem_append_left _ he)
    have hne := helse _ (List.mem_append_right _ (List.mem_singleton_self _))
    exact ⟨hn.there_set hold, (hn.link_set_of_ne (Ne.symm hne)).trans hlink⟩
  | connect _ hconnect ih =>
    obtain ⟨hold, hlink⟩ := ih helse
    obtain ⟨hthere, hsame⟩ := hn.connect_keeps hconnect hold
    exact ⟨hthere, hsame.trans hlink⟩
  | refused _ hconnect ih =>
    obtain ⟨hold, hlink⟩ := ih helse
    obtain ⟨hthere, hsame⟩ := hn.connect_keeps hconnect hold
    exact ⟨hthere, hsame.trans hlink⟩

end Network

namespace Scenario.Site

def isThere (t : TransportId) (s : Site) : Prop := t < s.peers.length

/-- The transports of a site are kept apart. -/
theorem network_lawful : network.Lawful isThere where
  link_set {t l s} ht := by
    have hget : s.peers[t]? = some s.peers[t] := List.getElem?_eq_getElem ht
    simp [network, hget]
  link_set_of_ne {t u l s} hne := by
    simp [network, Ne.symm hne]
  there_set {t u l s} hu := by
    simpa [network, isThere] using hu
  connected {t s s'} h := by
    simp only [network, connect] at h
    split at h
    · cases h
    · split at h
      · cases h
      · cases h
        simp [network, isThere]
  connect_keeps {o s s' u} h hu := by
    simp only [network, connect] at h
    split at h
    · cases h
      exact ⟨hu, rfl⟩
    · split at h
      · cases h
        exact ⟨hu, rfl⟩
      · cases h
        refine ⟨?_, ?_⟩
        · exact Nat.lt_of_lt_of_le hu (by simp)
        · simp [network, List.getElem?_append_left hu]

end Scenario.Site

end DirectoryClient
