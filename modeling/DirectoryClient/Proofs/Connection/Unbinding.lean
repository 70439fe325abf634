import DirectoryClient.Proofs.Connection.Reconnect
import DirectoryClient.Proofs.Link.Ending

/-! The end of a driver leaves nobody waiting, and nothing is written after a request to end the session,
whoever has sent it. -/
namespace DirectoryClient

open Scenario (Site)

namespace Connection

variable {ω : Type} {n : Network ω} {isThere : TransportId → ω → Prop} {c : Connection} {w : ω}
  {d : Driver}

/-- The worlds in which a connection has ended its session, or would have if there had been one. A pool
destroys a connection by dropping it. -/
def endings (n : Network ω) (c : Connection) (w : ω) : List ω :=
  [(c.unbind n w).2.2, (c.close n w).2, c.drop n w, (c.reconnect n w).2.2]

/-- A run to what a transport is in a world, in which at most one request is sent, to end the session. -/
structure Ends (c : Connection) (n : Network ω) (w : ω) (d d' : Driver) : Prop where
  run : Driver.Run d d'
  link : d'.link = n.link c.transport w
  wire : d'.wire = d.wire
  sent : d'.sent = d.sent ∨ ∃ u, u.operation = .unbind ∧ d'.sent = d.sent ++ [u]

section Ends

variable (hn : n.Lawful isThere) (ht : isThere c.transport w) (hd : d.link = n.link c.transport w)
include hn ht hd

/-- A connection that has ended its session has sent a request to end it. -/
private theorem ends_unbind : ∃ d', c.Ends n (c.unbind n w).2.2 d d' ∧
    ((c.unbind n w).1 = .ok () → ∃ u, u.operation = .unbind ∧ d'.sent = d.sent ++ [u]) := by
  have hallocated := Driver.Run.start.use (.allocate d)
  have hset : ∀ l, n.link c.transport (n.setLink c.transport l w) = l := fun _ => hn.link_set ht
  rw [unbind]
  dsimp only
  split
  · rename_i hconnected
    split
    · rename_i hnext
      obtain rfl := congrArg Prod.snd hnext
      refine ⟨_, ⟨hallocated, ?_, rfl, .inl rfl⟩, fun hok => ?_⟩
      · rw [hd]
        exact (hset _).symm
      · cases hok
    · rename_i id _ hnext
      obtain rfl := congrArg Prod.snd hnext
      have hopen : d.link.nextId.2.line.isOpen = true := by
        have hsame := (Driver.Use.allocate d).touches.isOpen
        rw [isConnected, show c.clearIdentity.transport = c.transport from rfl, ← hd,
          Link.isConnected, Bool.and_eq_true] at hconnected
        exact hsame.trans hconnected.2
      have hsent : ∃ u : Submission, u.operation = .unbind ∧ Driver.taken
          { id, operation := .unbind, element := Request.unbind, controls := c.controls }
          { d with link := d.link.nextId.2 } = d.sent ++ [u] := ⟨_, rfl, if_pos hopen⟩
      refine ⟨_, ⟨(hallocated.use (.sendUnbind _ id Request.unbind c.controls)).use (.part _), ?_, rfl,
        .inr hsent⟩, fun _ => hsent⟩
      rw [hd]
      refine Eq.trans ?_ (hn.link_set (hn.there_set ht)).symm
      change _ = { ((n.link c.transport (n.setLink c.transport _ w)).send _).2 with isUp := false }
      rw [hset]
      rfl
  · refine ⟨d, ⟨.start, hd, rfl, .inl rfl⟩, fun hok => ?_⟩
    cases hok

private theorem ends_close : ∃ d', c.Ends n (c.close n w).2 d d' := by
  rw [close]
  split
  · obtain ⟨d', hends, -⟩ := ends_unbind hn ht hd
    exact ⟨d', hends⟩
  · exact ⟨d, .start, hd, rfl, .inl rfl⟩

private theorem ends_reconnect : ∃ d', c.Ends n (c.reconnect n w).2.2 d d' := by
  have hthere := there_close (c := c) hn ht
  obtain ⟨d', hends⟩ := ends_close hn ht hd
  rw [reconnect]
  rcases hclose : c.close n w with ⟨c', w'⟩
  rw [hclose] at hthere hends
  rcases hconnect : n.connect w' with ⟨_ | t, w''⟩ <;> simp only [hconnect]
  · exact ⟨d', { hends with link := hends.link.trans (hn.connect_keeps hconnect hthere).2.symm }⟩
  · exact ⟨d', { hends with link := hends.link.trans (hn.connect_keeps hconnect hthere).2.symm }⟩

private theorem ends_endings : ∀ w' ∈ c.endings n w, ∃ d', c.Ends n w' d d' := by
  intro w' hw'
  simp only [endings, List.mem_cons, List.not_mem_nil, or_false] at hw'
  rcases hw' with rfl | rfl | rfl | rfl
  · obtain ⟨d', hends, -⟩ := ends_unbind hn ht hd
    exact ⟨d', hends⟩
  · exact ends_close hn ht hd
  · exact ends_close hn ht hd
  · exact ends_reconnect hn ht hd

end Ends

end Connection

namespace Driver

open Connection (oneTransport)

variable {d d' : Driver}

private theorem Run.ended (h : Run d d') (hd : d.position = .ended) : d'.position = .ended := by
  induction h with
  | start => exact hd
  | use _ hu ih => exact hu.touches.position.trans ih
  | step _ hs ih =>
    cases hs with
    | take hp | written hp | unwritten hp | receive hp | garbled hp | hangUp hp | part hp | shut hp
    | letDown hp | letDownSingle hp | letDownSearch hp | finish hp => cases hp.symm.trans ih

private theorem Run.sent (h : Run d d') : d.sent <+: d'.sent := by
  induction h with
  | start => exact List.prefix_refl _
  | use _ hu ih =>
    refine ih.trans ?_
    rcases hu.touches.request with ⟨-, hsent⟩ | ⟨s, -, -, hsent, -⟩
    · exact ⟨[], (List.append_nil _).trans hsent.symm⟩
    · exact ⟨[s], hsent.symm⟩
  | step _ hs ih => cases hs <;> exact ih

/-- How the driver of a transport ends. -/
structure Exits (d : Driver) : Prop where
  /-- When it has ended, nobody who has sent a request waits, -/
  reply : d.position = .ended → ∀ s ∈ d.sent, ∀ t, s.operation = .single t →
    (d.link.reply t).IsSettled
  search : d.position = .ended → ∀ s ∈ d.sent, ∀ t, s.operation = .search t →
    (d.link.stream t).IsSettled
  /-- and who has got no outcome before the driver left its loop has cancelled, or fails. -/
  replyFails : d.position = .leaving → ∀ d', Run d d' → d'.position = .ended →
    ∀ s ∈ d'.sent, ∀ t, s.operation = .single t → (d.link.reply t).isDone = false →
      (d'.link.reply t).isCancelled = true ∨ (d'.link.reply t).Fails .connectionClosed
  searchFails : d.position = .leaving → ∀ d', Run d d' → d'.position = .ended →
    ∀ s ∈ d'.sent, ∀ t, s.operation = .search t → (d.link.stream t).isDone = false →
      (d'.link.stream t).isCancelled = true ∨ (d'.link.stream t).Fails .connectionClosed
  /-- The transport is down for good, -/
  down : d.position = .ended → ∀ d', Run d d' → d'.position = .ended ∧ d'.link.isConnected = false
  /-- and refuses whatever is submitted. -/
  refuses : d.position = .ended → d.link.Refuses
  /-- Nothing is written after a request to end the session, -/
  last : ∀ front u back, d.wire = front ++ u :: back → u.operation = .unbind → back = []
  /-- no second one either, -/
  once : d.wire.countP (·.operation = .unbind) ≤ 1
  /-- and nothing that was sent after it. -/
  beyond : ∀ front u back, d.sent = front ++ u :: back → u.operation = .unbind →
    d.wire <+: front ++ [u]
  /-- Left to itself, a driver that has left its loop comes to its end, as one that ends at once. -/
  finishes : d.position = .leaving →
    ∃ d', Run d d' ∧ d'.position = .ended ∧ d'.link = d.link.finish
  /-- However a connection ends its session, the run just goes on; -/
  endings : ∀ {ω : Type} {n : Network ω} {isThere : TransportId → ω → Prop} (c : Connection) (w : ω),
    n.Lawful isThere → isThere c.transport w → d.link = n.link c.transport w →
    ∀ w' ∈ c.endings n w, ∃ d', c.Ends n w' d d'
  /-- and once it has, nothing is written that is sent from then on. -/
  unbound : ∀ {ω : Type} {n : Network ω} {isThere : TransportId → ω → Prop} (c : Connection) (w : ω),
    n.Lawful isThere → isThere c.transport w → d.link = n.link c.transport w →
    (c.unbind n w).1 = .ok () → ∃ d', c.Ends n (c.unbind n w).2.2 d d' ∧
      ∀ d'', Run d' d'' → d''.wire <+: d'.sent

/-- Whatever ends a driver, at whatever point of any run, nobody is left waiting, and nothing follows a
request to end the session. -/
theorem exits_of_run (h : Run {} d) : Exits d := by
  have hflow : ∀ {d'}, Run d d' → Flow d' := fun h' => Flow.start.run (h.trans h')
  have hattended : ∀ {d'}, Run d d' → Attended d' := fun h' => Attended.start.run (h.trans h')
  have hsettled : ∀ {d'}, Run d d' → d'.position = .ended →
      ∀ s ∈ d'.sent, d'.link.IsSettled s.operation := fun h' => (hattended h').settled (hflow h')
  have hclosed : ∀ {d'}, Run d d' → d'.position = .ended → d'.link.line.isOpen = false :=
    fun h' hd' => (hflow h').isOpen.trans (by rw [hd']; rfl)
  refine {
    reply := fun hd s hs t ht => ?_
    search := fun hd s hs t ht => ?_
    replyFails := fun hd d' h' hd' s hs t ht hdone => ?_
    searchFails := fun hd d' h' hd' s hs t ht hdone => ?_
    down := fun hd d' h' => ⟨h'.ended hd, ?_⟩
    refuses := fun hd => Link.refuses_of_closed (hclosed .start hd)
    last := fun front u back hwire hu => (hflow .start).last_unbind hwire hu
    once := (hflow .start).once
    beyond := fun front u back hsent hu => (hflow .start).beyond hsent hu
    finishes := fun hd => run_finish hd (hattended .start).keyed
    endings := fun c w hn ht hd => Connection.ends_endings hn ht hd
    unbound := fun c w hn ht hd hok => ?_ }
  · have hs := hsettled .start hd s hs
    rwa [ht] at hs
  · have hs := hsettled .start hd s hs
    rwa [ht] at hs
  · have hs := hsettled h' hd' s hs
    have hunanswered : d'.link.IsUnanswered (.single t) :=
      h'.isUnanswered (by rw [hd]; rfl) (Reply.isUnanswered_of_pending hdone)
    rw [ht] at hs
    exact Reply.IsUnanswered.settled hunanswered hs
  · have hs := hsettled h' hd' s hs
    have hunanswered : d'.link.IsUnanswered (.search t) :=
      h'.isUnanswered (by rw [hd]; rfl) (Stream.isUnanswered_of_pending hdone)
    rw [ht] at hs
    exact Stream.IsUnanswered.settled hunanswered hs
  · rw [Link.isConnected, hclosed h' (h'.ended hd), Bool.and_false]
  · obtain ⟨d', hends, hsent⟩ := Connection.ends_unbind hn ht hd
    obtain ⟨u, hu, hsent⟩ := hsent hok
    refine ⟨d', hends, fun d'' h'' => ?_⟩
    obtain ⟨more, hmore⟩ := h''.sent
    rw [hsent, List.append_assoc, List.singleton_append] at hmore
    rw [hsent]
    exact (hflow (hends.run.trans h'')).beyond hmore.symm hu

private def request (id : MessageId) (t : Ticket) : Submission :=
  { id, operation := .single t, element := Request.extended .whoAmI }

private def unbinding : Submission := { id := 2, operation := .unbind, element := Request.unbind }

/-- Where a driver stands that has written a request and the end of the session, while one more request
has come too late to be written. -/
def justUnbound : Driver where
  link := {
    line := { queue := [request 3 1] }
    singles := [(1, 0)]
    replies := [{}, {}] }
  position := .leaving
  sent := [request 1 0, unbinding, request 3 1]
  wire := [request 1 0, unbinding]

private theorem run_justUnbound : Run {} justUnbound := by
  have hsent := Run.start.use (.sendSingle {} 1 (Request.extended .whoAmI) none)
  have htaken := hsent.step (.take (s := request 1 0) rfl rfl)
  have hwritten := htaken.step (.written rfl)
  have hunbound := hwritten.use (.sendUnbind _ 2 Request.unbind none)
  have hlast := (hunbound.step (.take (s := unbinding) rfl rfl)).step (.written rfl)
  exact hlast.use (.sendSingle _ 3 (Request.extended .whoAmI) none)

def unboundEnded : Driver where
  link := {
    line := { isOpen := false }
    isUp := false
    replies := List.replicate 2 { phase := .completed, outcome := some (.error .connectionClosed) } }
  position := .ended
  sent := justUnbound.sent
  wire := justUnbound.wire

private theorem run_unboundEnded : Run justUnbound unboundEnded := by
  have hshut := (Run.start.step (.part (d := justUnbound) rfl)).step (.shut rfl)
  have hqueued := hshut.step (.letDown (s := request 3 1) rfl rfl)
  have hwaiting := hqueued.step (.letDownSingle (t := 0) rfl rfl List.mem_cons_self)
  exact hwaiting.step (.finish rfl rfl rfl rfl)

def opened : Connection := { id := 1, transport := 0 }

/-- Both requests fail, the one that was written and the one that was not; and a connection on a new
transport ends its session. -/
theorem exits_unbound : Run {} justUnbound ∧ Exits justUnbound ∧ justUnbound.position = .leaving ∧
    Run justUnbound unboundEnded ∧ Exits unboundEnded ∧ unboundEnded.position = .ended ∧
    unboundEnded.wire.map Submission.operation = [.single 0, .unbind] ∧
    unboundEnded.sent.map Submission.operation = [.single 0, .unbind, .single 1] ∧
    (unboundEnded.link.reply 0).Fails .connectionClosed ∧
    (unboundEnded.link.reply 1).Fails .connectionClosed ∧
    ∃ d', opened.Ends Site.network (opened.unbind Site.network oneTransport.world).2.2 {} d' ∧
      ∀ d'', Run d' d'' → d''.wire <+: d'.sent :=
  ⟨run_justUnbound, exits_of_run run_justUnbound, rfl, run_unboundEnded,
    exits_of_run (run_justUnbound.trans run_unboundEnded), rfl, rfl, rfl, fun _ _ => rfl,
    fun _ _ => rfl, (exits_of_run .start).unbound opened oneTransport.world Site.network_lawful
      Nat.one_pos rfl rfl⟩

end Driver

end DirectoryClient
