import DirectoryClient.Proofs.Connection.Descent

/-! A world in which it is noted what is asked for: every request that is queued on a transport, in their
order. Apart from that, the network there is the same. -/
namespace DirectoryClient

variable {ω : Type}

structure Logged (ω : Type) where
  world : ω
  sent : List (TransportId × Submission) := []

def Logged.Grows (w w' : Logged ω) : Prop := w.sent <+: w'.sent

namespace Link

theorem queue_nextId (l : Link) : l.nextId.2.line.queue = l.line.queue := by
  rw [nextId, Line.nextId]
  cases l.line.ids.next <;> rfl

theorem queue_send {l : Link} (hopen : l.line.isOpen = true) (s : Submission) :
    (l.send s).2.line.queue = l.line.queue ++ [s] := by
  simp [send, Line.send, hopen]

end Link

namespace Network

variable (n : Network ω)

/-- The same network, in a world in which the requests are noted. -/
def logging : Network (Logged ω) where
  clock w := n.clock w.world
  connect w := ((n.connect w.world).1, { w with world := (n.connect w.world).2 })
  link t w := n.link t w.world
  setLink t l w :=
    { world := n.setLink t l w.world
      sent := w.sent ++ (l.line.queue.drop (n.link t w.world).line.queue.length).map (t, ·) }
  settle w := { w with world := n.settle w.world }
  pass span w := { w with world := n.pass span w.world }

theorem logging_within : n.logging.Within Logged.Grows where
  refl _ := List.prefix_rfl
  trans := List.IsPrefix.trans
  set _ := List.prefix_append _ _
  settle _ := List.prefix_rfl
  pass _ _ := List.prefix_rfl
  connect _ := List.prefix_rfl

variable {n}

theorem withLink_congr {α : Type} {f g : Link → α × Link} {t : TransportId} {w : ω}
    (h : f (n.link t w) = g (n.link t w)) : n.withLink t f w = n.withLink t g w := by
  rw [withLink, withLink, h]

/-- What is added to the queue of a transport is noted. -/
theorem sent_withLink {α : Type} {t : TransportId} {f : Link → α × Link} {w : Logged ω}
    {added : List Submission}
    (hadded : (f (n.link t w.world)).2.line.queue = (n.link t w.world).line.queue ++ added) :
    (n.logging.withLink t f w).2.sent = w.sent ++ added.map (t, ·) := by
  have hdrop : ((n.link t w.world).line.queue ++ added).drop (n.link t w.world).line.queue.length =
      added := List.drop_left
  simp only [withLink, logging]
  rw [hadded, hdrop]

theorem sent_nextId {t : TransportId} {w w' : Logged ω} {o : Outcome MessageId}
    (h : n.logging.withLink t Link.nextId w = (o, w')) : w'.sent = w.sent := by
  have hnone : (Link.nextId (n.link t w.world)).2.line.queue = (n.link t w.world).line.queue ++ [] :=
    (Link.queue_nextId _).trans (List.append_nil _).symm
  have hsent := sent_withLink hnone
  rw [h] at hsent
  exact hsent.trans (List.append_nil _)

end Network

end DirectoryClient
