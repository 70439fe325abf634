import DirectoryClient.Proofs.Link.Responses
import DirectoryClient.Proofs.Message.Chunks

/-! A driver before which octets come in chunks. -/
namespace DirectoryClient

namespace Link

variable {l l' : Link}

/-! What comes later is behind what a driver handles now. -/

section Feed

variable (l : Link) (octets : Octets)

@[simp] theorem line_feed : (l.feed octets).line = l.line := rfl

@[simp] theorem singles_feed : (l.feed octets).singles = l.singles := rfl

@[simp] theorem searches_feed : (l.feed octets).searches = l.searches := rfl

@[simp] theorem stream_feed (t : Ticket) : (l.feed octets).stream t = l.stream t := rfl

@[simp] theorem inbound_feed : (l.feed octets).inbound = l.inbound ++ octets := rfl

@[simp] theorem feed_nil : l.feed [] = l := by
  simp [feed]

end Feed

private theorem feed_feed (l : Link) (octets octets' : Octets) :
    (l.feed octets).feed octets' = l.feed (octets ++ octets') := by
  simp [feed]

private theorem route_feed (m : Message) (l : Link) (octets : Octets) :
    (l.feed octets).route m = (l.route m).feed octets := by
  rw [route, route, searches_feed, singles_feed]
  cases l.searches.lookup m.id with
  | some ticket =>
    dsimp only
    rw [stream_feed]
    split <;> rfl
  | none => cases l.singles.lookup m.id <;> rfl

private theorem close_feed (operation : Operation) (l : Link) (octets : Octets) :
    (l.feed octets).close operation = (l.close operation).feed octets := by
  cases operation <;> rfl

private theorem finish_feed (l : Link) (octets : Octets) :
    (l.feed octets).finish = l.finish.feed octets := by
  have hclose (operations : List Operation) (l : Link) :
      operations.foldl (fun l o => l.close o) (l.feed octets) =
        (operations.foldl (fun l o => l.close o) l).feed octets := by
    induction operations generalizing l with
    | nil => rfl
    | cons operation operations ih =>
      rw [List.foldl_cons, List.foldl_cons, close_feed, ih]
  rw [finish, finish]
  dsimp only
  rw [line_feed, singles_feed, searches_feed, hclose]
  rfl

private theorem dispatch_feed (m : Message) (l : Link) (octets : Octets) :
    (l.feed octets).dispatch m = ((l.dispatch m).1, (l.dispatch m).2.feed octets) := by
  rw [dispatch, dispatch]
  split
  · rfl
  · rw [route_feed]

/-- What is read now is read in the same way with more octets behind it. -/
private theorem receive?_feed (h : l.receive? = some l') (octets : Octets) :
    (l.feed octets).receive? = some (l'.feed octets) := by
  have hopen : l.line.isOpen = true := by
    by_contra hclosed
    rw [receive?, if_neg hclosed] at h
    cases h
  have hopen' : (l.feed octets).line.isOpen = true := by rw [line_feed, hopen]
  cases hnext : Message.next? l.inbound with
  | none =>
    rw [receive?, if_pos hopen, hnext] at h
    cases h
  | some x =>
    obtain ⟨o, rest⟩ := x
    have hnext' : Message.next? (l.feed octets).inbound = some (o, rest ++ octets) := by
      rw [inbound_feed, Message.next?_append hnext octets]
    cases o with
    | ok m =>
      rw [receive_of_open hopen hnext] at h
      rw [receive_of_open hopen' hnext',
        show ({ l.feed octets with inbound := rest ++ octets } : Link) =
          ({ l with inbound := rest } : Link).feed octets from rfl, dispatch_feed]
      cases h
      split
      · rw [finish_feed]
      · rfl
    | error e =>
      rw [garbled_eq hnext h, ← finish_feed, receive?, if_pos hopen', hnext']
      rfl

private theorem length_of_receive? (h : l.receive? = some l') {n : Nat}
    (hn : l.inbound.length ≤ n) : ∃ n', n = n' + 1 ∧ l'.inbound.length ≤ n' := by
  have hshorter := inbound_of_receive? h
  exact ⟨n - 1, by omega, by omega⟩

private theorem receiveFor_eq {n k : Nat} (hn : l.inbound.length ≤ n) (hk : l.inbound.length ≤ k) :
    l.receiveFor n = l.receiveFor k := by
  induction n generalizing k l with
  | zero =>
    have hnone : l.receive? = none := by
      by_contra hsome
      obtain ⟨l', h⟩ := Option.ne_none_iff_exists'.mp hsome
      obtain ⟨n', hn', -⟩ := length_of_receive? h hn
      cases hn'
    cases k <;> simp only [receiveFor, hnone]
  | succ n ih =>
    cases h : l.receive? with
    | none => cases k <;> simp only [receiveFor, h]
    | some l' =>
      obtain ⟨n', heq, hn'⟩ := length_of_receive? h hn
      cases heq
      obtain ⟨k', rfl, hk'⟩ := length_of_receive? h hk
      simp only [receiveFor, h]
      exact ih hn' hk'

private theorem receiveAll_of_receive? (h : l.receive? = some l') : l.receiveAll = l'.receiveAll := by
  obtain ⟨n', hn', hle⟩ := length_of_receive? h (Nat.le_refl _)
  rw [receiveAll, hn', receiveFor, h]
  exact receiveFor_eq hle (Nat.le_refl _)

private theorem receiveAll_of_none (h : l.receive? = none) : l.receiveAll = l := by
  rw [receiveAll]
  cases l.inbound.length <;> simp only [receiveFor, h]

/-- A driver that has read what came and reads on ends where it ends with all of it before it. -/
private theorem receiveAll_feed_receiveAll (l : Link) (octets : Octets) :
    (l.receiveAll.feed octets).receiveAll = (l.feed octets).receiveAll := by
  induction hn : l.inbound.length using Nat.strongRecOn generalizing l with
  | ind n ih =>
    cases h : l.receive? with
    | none => rw [receiveAll_of_none h]
    | some l' =>
      have hshorter := inbound_of_receive? h
      rw [receiveAll_of_receive? h, receiveAll_of_receive? (receive?_feed h octets)]
      exact ih l'.inbound.length (by omega) l' rfl

/-- A driver comes to the same end however the octets before it are cut. -/
theorem receiveAll_chunks (l : Link) (cs : List Octets) :
    cs.foldl (fun l c => (l.feed c).receiveAll) l.receiveAll = (l.feed cs.flatten).receiveAll := by
  induction cs generalizing l with
  | nil =>
    rw [List.foldl_nil, List.flatten_nil, feed_nil]
  | cons c cs ih =>
    rw [List.foldl_cons, receiveAll_feed_receiveAll, ih, feed_feed, List.flatten_cons]

end Link

end DirectoryClient
