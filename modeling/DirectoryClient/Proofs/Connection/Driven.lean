import DirectoryClient.Proofs.Connection.Transports
import DirectoryClient.Proofs.Link.Drives

/-! What a network does by itself: on every transport its driver and its server act, and nobody else. -/
namespace DirectoryClient

namespace Network

variable {ω : Type} (n : Network ω) (isThere : TransportId → ω → Prop)

/-- Whatever is under way and however time passes, on a transport that is there only its driver and its
server act. -/
structure Driven : Prop extends n.Lawful isThere where
  settle : ∀ {t w}, isThere t w →
    isThere t (n.settle w) ∧ (n.link t w).Drives (n.link t (n.settle w))
  pass : ∀ {span t w}, isThere t w →
    isThere t (n.pass span w) ∧ (n.link t w).Drives (n.link t (n.pass span w))

end Network

namespace Scenario

open Link (Drives)

namespace Peer

variable (p : Peer) (t : TransportId)

private theorem link_see (x : Sight) : (p.see x).link = p.link := by
  rw [see]
  split <;> rfl

private theorem drives_finish : p.link.Drives p.finish.link := by
  rw [finish]
  split
  · rw [link_see]
    exact .finish .refl
  · exact .refl

private theorem drives_send (id : Int) (sendings : List Sending) :
    p.link.Drives (p.send id sendings).link := by
  rw [send]
  split
  · exact .refl
  · exact .inbound _ .refl

private theorem drives_serve (s : Submission) (rules : List Rule) :
    p.link.Drives (p.serve t s rules).1.link := by
  rw [serve]
  split
  · exact .refl
  · dsimp only
    split
    · rw [link_see]
      exact .refl
    · have hsend := (p.see (.request s.octets)).drives_send
      rw [link_see] at hsend
      exact hsend _ _

private theorem drives_transmit (n : Nat) (rules : List Rule) :
    p.link.Drives (p.transmit t n rules).1.link := by
  induction n generalizing p rules with
  | zero => exact .refl
  | succ n ih =>
    rw [transmit]
    split
    · exact .refl
    · rename_i s link hnext
      have hserve := (Drives.refl.transmit hnext).trans (drives_serve { p with link } t s rules)
      dsimp only
      split
      · exact hserve.trans (drives_finish _)
      · exact hserve.trans (ih _ _)

private theorem drives_receive : p.link.Drives p.receive.link := by
  have hall := (Drives.refl (l := p.link)).receiveFor p.link.inbound.length
  simp only [receive]
  split
  · rw [link_see]
    exact hall
  · exact hall

private theorem drives_settle (rules : List Rule) : p.link.Drives (p.settle t rules).1.link := by
  have hreceive := (p.drives_transmit t p.link.line.queue.length rules).trans (drives_receive _)
  simp only [settle, endInput]
  split
  · exact hreceive.trans (drives_finish _)
  · exact hreceive

end Peer

namespace Site

private theorem length_settlePeers (t : TransportId) (ps : List Peer) (rules : List Rule) :
    (settlePeers t ps rules).1.length = ps.length := by
  induction ps generalizing t rules with
  | nil => rfl
  | cons p ps ih => exact congrArg (· + 1) (ih (t + 1) (p.settle t rules).2)

theorem drives_settlePeers (t u : TransportId) (ps : List Peer) (rules : List Rule) :
    (ps[u]?.elim {} Peer.link).Drives ((settlePeers t ps rules).1[u]?.elim {} Peer.link) := by
  induction ps generalizing t u rules with
  | nil => exact .refl
  | cons p ps ih =>
    cases u with
    | zero => exact p.drives_settle t rules
    | succ u => exact ih (t + 1) u (p.settle t rules).2

private theorem driven_settle {t : TransportId} {s : Site} (ht : isThere t s) :
    isThere t s.settle ∧ (network.link t s).Drives (network.link t s.settle) :=
  ⟨Nat.lt_of_lt_of_eq ht (length_settlePeers 0 s.peers s.rules).symm,
    drives_settlePeers 0 t s.peers s.rules⟩

/-- On the transports of a site, only drivers and the server act by themselves. -/
theorem network_driven : network.Driven isThere where
  toLawful := network_lawful
  settle ht := driven_settle ht
  pass {span} {_} {s} ht := driven_settle (s := { s with now := max s.now (s.now + span) }) ht

end Site

end Scenario

end DirectoryClient
