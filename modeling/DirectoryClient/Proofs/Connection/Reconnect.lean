import DirectoryClient.Proofs.Connection.Transports
import DirectoryClient.Proofs.Message.Responses

/-! Responses go where they belong on every transport of a world, whatever happens on the others; after
a reconnection the ids start over, but the old slots are out of reach. -/
namespace DirectoryClient

open Link (Event Run Routed allocations)

namespace Connection

variable {ω : Type} {n : Network ω} {isThere : TransportId → ω → Prop} {t : TransportId}
  {c c' : Connection} {w w' : ω}

private theorem there_withLink {α : Type} (hn : n.Lawful isThere) (h : isThere t w)
    {u : TransportId} {g : Link → α × Link} {a : α} (heq : n.withLink u g w = (a, w')) :
    isThere t w' := by
  rw [Network.withLink] at heq
  cases heq
  exact hn.there_set h

/-- A transport is still there after a connection is closed. -/
theorem there_close (hn : n.Lawful isThere) (h : isThere t w) : isThere t (c.close n w).2 := by
  rw [close, unbind]
  dsimp only
  split
  · split
    · split
      · rename_i hnext
        exact there_withLink hn h hnext
      · rename_i hnext
        exact hn.there_set (there_withLink hn h hnext)
    · exact h
  · exact h

/-- A connection moves to a transport that was not there, and on which nothing has happened. -/
private theorem reconnect_new (hn : n.Lawful isThere) (ht : isThere t w)
    (h : c.reconnect n w = (.ok (), c', w')) :
    c'.transport ≠ t ∧ isThere t w' ∧ isThere c'.transport w' ∧ n.link c'.transport w' = {} := by
  rcases hclose : c.close n w with ⟨c₁, w₁⟩
  have hold : isThere t w₁ := by
    have hthere := there_close (c := c) hn ht
    rwa [hclose] at hthere
  rw [reconnect, hclose] at h
  dsimp only at h
  split at h
  · cases h
  · rename_i u w₂ hconnect
    cases h
    obtain ⟨hnot, hnew, hlink⟩ := hn.connected hconnect
    refine ⟨?_, (hn.connect_keeps hconnect hold).1, hnew, hlink⟩
    rintro rfl
    exact hnot hold

/-- Whatever happens elsewhere after a connection has moved, on its new transport or on others, the
slots of a transport stay as they are, although the ids start over. -/
structure Apart (n : Network ω) (isThere : TransportId → ω → Prop) (t : TransportId)
    (c' : Connection) (w' : ω) : Prop where
  other : c'.transport ≠ t
  there : isThere c'.transport w'
  startsOver : n.link c'.transport w' = {}
  elsewhere : ∀ f es f', f.world = w' → n.Voyage isThere f es f' → (∀ e ∈ es, e.1 ≠ t) →
    n.link t f'.world = n.link t w'
  abandoned : ∀ p w₁, p.transport ≠ t → n.link t (n.abandon p w₁) = n.link t w₁

/-- On every transport, responses go where they belong, and a connection that moves away from it leaves
its slots alone. -/
theorem responses_routed {f f' : Fleet ω} {es : List (TransportId × List Event)}
    (hn : n.Lawful isThere) (hrun : n.Voyage isThere f es f') (ht : isThere t f.world)
    (hfresh : n.traffic t f = {}) (hfew : (allocations (seenOn t es) : Int) < MessageIds.largest) :
    Routed (seenOn t es) (n.traffic t f') ∧
      ∀ (c c' : Connection) (w' : ω), c.reconnect n f'.world = (.ok (), c', w') →
        Apart n isThere t c' w' := by
  obtain ⟨hthere, hown⟩ := hrun.on_transport hn ht
  rw [hfresh] at hown
  refine ⟨Link.routed_of_run hown (Int.le_of_lt hfew), fun c c' w' hmove => ?_⟩
  obtain ⟨hother, hstill, hnew, hover⟩ := reconnect_new hn hthere hmove
  refine ⟨hother, hnew, hover, fun f₁ es₁ f₂ hworld hrun₁ helse => ?_, fun p w₁ hp => ?_⟩
  · subst hworld
    exact (hrun₁.elsewhere hn hstill helse).2
  · exact hn.link_set_of_ne (Ne.symm hp)

section Witness

open Scenario (Site)

def oneTransport : Fleet Site := { world := { peers := [{}] } }

private def rootSearch : Ber.Element :=
  .constructed ⟨.application, 3⟩
    [.octetString [], .enumerated 0, .enumerated 0, .integer 0, .integer 0, .boolean false,
      .contextPrimitive 7 (Text.encode "objectClass"), .sequence []]

/-- An entry without a name and attributes, as a response to the first search. -/
def firstEntry : Message :=
  { id := 1, response := .entry (.constructed ⟨.application, 4⟩ []) [], controls := [] }

private theorem next_firstEntry :
    Message.next? (Message.encode 1 firstEntry.response.element none) = some (.ok firstEntry, []) :=
  Response.next?_encode (r := firstEntry.response) rfl (by decide) (by decide)
    (.constructed (by decide) nofun) (by decide +kernel)

def anonymous (id : MessageId) : Message :=
  { id, response := .extended { code := 0 } { value := some [] }, controls := [] }

private theorem next_anonymous {id : MessageId} (hid : id = 1 ∨ id = 2) :
    Message.next? (Message.encode id (anonymous id).response.element none) =
      some (.ok (anonymous id), []) := by
  have hfits : (anonymous id).response.element.Fits := by
    refine .constructed (by decide) fun e he => ?_
    simp only [Response.resultComponents, Response.referralComponent, Response.component, ↓reduceIte,
      Option.map_none, Option.toList_none, Option.toList_some, List.map_nil, List.map_cons,
      List.nil_append, List.cons_append, List.mem_cons, List.not_mem_nil,
      or_false] at he
    rcases he with rfl | rfl | rfl | rfl <;> exact .primitive (by decide)
  rcases hid with rfl | rfl <;>
    exact Response.next?_encode (r := (anonymous _).response) trivial (by decide) (by decide) hfits
      (by decide +kernel)

private theorem asked_again (p : Scenario.Peer) : ∃ es f',
    Site.network.Voyage Site.isThere { world := { peers := [p, {}] } } es f' ∧ (∀ e ∈ es, e.1 ≠ 0) ∧
    seenOn 1 es = [.allocated 1,
      .registered { id := 1, operation := .single 0, element := Request.extended .whoAmI },
      .dispatched (anonymous 1) none] := by
  let f : Fleet Site := { world := { peers := [p, {}] } }
  have hthere : Site.isThere 1 f.world := Nat.one_lt_two
  have h := Network.Voyage.start.on (n := Site.network) hthere (.allocate _ 1 _ rfl)
  have h := h.on (t := 1) Nat.one_lt_two
    (.sendSingle _ 1 (Request.extended .whoAmI) none List.mem_cons_self)
  have h := h.on (t := 1) Nat.one_lt_two (.transmit _ _ _ rfl)
  have h := h.on (t := 1) Nat.one_lt_two
    (.feed _ (Message.encode 1 (anonymous 1).response.element none))
  have hanswer := next_anonymous (.inl rfl)
  have h := h.on (t := 1) Nat.one_lt_two
    (.receive _ _ _ _ hanswer (Link.receive_of_open rfl hanswer))
  exact ⟨_, _, h, by simp, rfl⟩

/-- An entry comes, and then somebody asks who is bound, and the answer comes. -/
private theorem asked_twice : ∃ es f',
    Site.network.Voyage Site.isThere oneTransport es f' ∧
    seenOn 0 es = [.allocated 1,
      .registered { id := 1, operation := .search 0, element := rootSearch },
      .dispatched firstEntry (some 0), .read 0 firstEntry, .allocated 2,
      .registered { id := 2, operation := .single 0, element := Request.extended .whoAmI },
      .dispatched (anonymous 2) none] ∧
    ((Site.network.link 0 f'.world).reply 0).outcome = some (.ok (anonymous 2)) ∧
    ∃ c' w', ({ id := 1, transport := 0 } : Connection).reconnect Site.network f'.world =
      (.ok (), c', w') ∧
    ∃ es₁ f₁, Site.network.Voyage Site.isThere { world := w' } es₁ f₁ ∧ (∀ e ∈ es₁, e.1 ≠ 0) ∧
      seenOn 1 es₁ = [.allocated 1,
        .registered { id := 1, operation := .single 0, element := Request.extended .whoAmI },
        .dispatched (anonymous 1) none] := by
  have hthere : Site.isThere 0 oneTransport.world := Nat.zero_lt_one
  have h := Network.Voyage.start.on (n := Site.network) hthere (.allocate _ 1 _ rfl)
  have h := h.on (t := 0) Nat.zero_lt_one (.sendSearch _ 1 rootSearch none List.mem_cons_self)
  have h := h.on (t := 0) Nat.zero_lt_one (.transmit _ _ _ rfl)
  have h := h.on (t := 0) Nat.zero_lt_one
    (.feed _ (Message.encode 1 firstEntry.response.element none))
  have h := h.on (t := 0) Nat.zero_lt_one
    (.receive _ _ _ _ next_firstEntry (Link.receive_of_open rfl next_firstEntry))
  have h := h.on (t := 0) Nat.zero_lt_one (.examineStream _ 0 1 false Nat.zero_lt_one)
  have h := h.on (t := 0) Nat.zero_lt_one (.allocate _ 2 _ rfl)
  have h := h.on (t := 0) Nat.zero_lt_one
    (.sendSingle _ 2 (Request.extended .whoAmI) none List.mem_cons_self)
  have h := h.on (t := 0) Nat.zero_lt_one (.transmit _ _ _ rfl)
  have h := h.on (t := 0) Nat.zero_lt_one
    (.feed _ (Message.encode 2 (anonymous 2).response.element none))
  have hanswer := next_anonymous (.inr rfl)
  have h := h.on (t := 0) Nat.zero_lt_one
    (.receive _ _ _ _ hanswer (Link.receive_of_open rfl hanswer))
  exact ⟨_, _, h, rfl, rfl, _, _, rfl, asked_again _⟩

/-- An entry and a response have gone where they belong, and stay there when the connection moves and
the ids come again. -/
theorem moved_routed : ∃ es f', Site.network.Lawful Site.isThere ∧
    Site.network.Voyage Site.isThere oneTransport es f' ∧ Site.isThere 0 oneTransport.world ∧
    Site.network.traffic 0 oneTransport = {} ∧
    (allocations (seenOn 0 es) : Int) < MessageIds.largest ∧
    (Link.hearing 0 (seenOn 0 es)).heard = [firstEntry] ∧
    ((Site.network.link 0 f'.world).reply 0).outcome = some (.ok (anonymous 2)) ∧
    Routed (seenOn 0 es) (Site.network.traffic 0 f') ∧
    ∃ c' w', ({ id := 1, transport := 0 } : Connection).reconnect Site.network f'.world =
      (.ok (), c', w') ∧ Apart Site.network Site.isThere 0 c' w' ∧
      ∃ es₁ f₁, Site.network.Voyage Site.isThere { world := w' } es₁ f₁ ∧
        Event.dispatched (anonymous 1) none ∈ seenOn 1 es₁ ∧
        Site.network.link 0 f₁.world = Site.network.link 0 w' := by
  obtain ⟨es, f', hrun, hseen, hreply, c', w', hmove, es₁, f₁, hrun₁, helse, hseen₁⟩ := asked_twice
  have hfew : (allocations (seenOn 0 es) : Int) < MessageIds.largest := by
    rw [hseen]
    decide
  have hheard : (Link.hearing 0 (seenOn 0 es)).heard = [firstEntry] := by
    rw [hseen]
    rfl
  obtain ⟨hrouted, hapart⟩ := responses_routed Site.network_lawful hrun Nat.zero_lt_one rfl hfew
  have hall := hapart _ c' w' hmove
  have hagain : Event.dispatched (anonymous 1) none ∈ seenOn 1 es₁ := by
    rw [hseen₁]
    simp
  exact ⟨es, f', Site.network_lawful, hrun, Nat.zero_lt_one, rfl, hfew, hheard, hreply, hrouted, c', w',
    hmove, hall, es₁, f₁, hrun₁, hagain, hall.elsewhere _ es₁ f₁ rfl hrun₁ helse⟩

end Witness

end Connection

end DirectoryClient
