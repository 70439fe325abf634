import DirectoryClient.Proofs.Link.Fate
import DirectoryClient.Proofs.Link.Slots
import Mathlib.Data.List.Nodup

/-! Requests on one transport: as long as the ids have not run in a circle, no two requests share an id,
and no two share a slot. -/
namespace DirectoryClient

/-- Ids that have not run in a circle are taken in ascending order. -/
private theorem MessageIds.next_of_lt {ids : MessageIds} (hlast : ids.last < largest)
    (hused : ∀ id ∈ ids.used, id ≤ ids.last) :
    ids.next = .ok (ids.last + 1,
      { last := ids.last + 1, used := insertInto (ids.last + 1) ids.used }) := by
  have hnext : successor ids.last = ids.last + 1 := by
    have hne : ids.last ≠ largest := Int.ne_of_lt hlast
    rw [successor]
    exact if_neg hne
  have hfree : ids.last + 1 ∉ ids.used := fun h => Int.not_le.mpr (Int.lt_succ ids.last) (hused _ h)
  rw [next, firstFree?, hnext, if_pos hfree]

/-- The id of a request that is sent goes from the hand to the end of those that were sent. -/
theorem perm_sent {id : MessageId} {inHand sent : List MessageId} (h : id ∈ inHand) :
    (inHand.erase id ++ (sent ++ [id])).Perm (inHand ++ sent) := by
  rw [← List.append_assoc]
  refine List.perm_append_comm.trans ?_
  rw [← List.append_assoc]
  exact (List.perm_cons_erase h).symm.append_right sent

namespace Link

/-- As many ids have been taken as the last one says, and the next one is one more. -/
theorem nextId_of_lt {l : Link} {n : Nat} (hlast : l.line.ids.last = n)
    (hused : ∀ id ∈ l.line.ids.used, id ≤ (n : Int)) (hlt : (n : Int) < MessageIds.largest) :
    l.nextId = (.ok (n + 1), { l with line := { l.line with ids :=
      { last := n + 1, used := MessageIds.insertInto (n + 1) l.line.ids.used } } }) := by
  have hnext : l.line.ids.next = _ :=
    MessageIds.next_of_lt (by rw [hlast]; exact hlt) (by rw [hlast]; exact hused)
  rw [hlast] at hnext
  simp only [nextId, Line.nextId, hnext]

private def single? (s : Submission) : Option Ticket :=
  match s.operation with
  | .single t => some t
  | _ => none

def search? (s : Submission) : Option Ticket :=
  match s.operation with
  | .search t => some t
  | _ => none

/-- The requests that were made: those that have been registered, and those that still wait to be. -/
def requests (es : List Event) (l : Link) : List Submission := registrations es ++ l.line.queue

private def ids (es : List Event) (s : Traffic) : List MessageId :=
  s.inHand ++ (requests es s.link).map Submission.id

structure Recedes (l l' : Link) : Prop where
  queue : l'.line.queue.Sublist l.line.queue
  last : l'.line.ids.last = l.line.ids.last
  used : ∀ id ∈ l'.line.ids.used, id ∈ l.line.ids.used
  replies : l.replies.length ≤ l'.replies.length
  streams : l.streams.length ≤ l'.streams.length

namespace Recedes

variable {l l' l'' : Link}

private theorem trans (h : l.Recedes l') (h' : l'.Recedes l'') : l.Recedes l'' :=
  ⟨h'.queue.trans h.queue, h'.last.trans h.last, fun id hid => h.used id (h'.used id hid),
    Nat.le_trans h.replies h'.replies, Nat.le_trans h.streams h'.streams⟩

/-- The line is the same. -/
theorem of_line (h : l'.line = l.line) (hr : l.replies.length ≤ l'.replies.length)
    (hs : l.streams.length ≤ l'.streams.length) : l.Recedes l' := by
  refine ⟨?_, ?_, ?_, hr, hs⟩ <;> rw [h]
  exact fun _ hid => hid

private theorem refl (l : Link) : l.Recedes l := .of_line rfl (Nat.le_refl _) (Nat.le_refl _)

private theorem of_quiet (h : l.Quiet l') (hline : l'.line = l.line) : l.Recedes l' :=
  .of_line hline h.replies h.streams

end Recedes

section Recedes

variable (l : Link)

private theorem recedes_setReply (t : Ticket) (r : Reply Message) : l.Recedes (l.setReply t r) :=
  .of_line rfl (Nat.le_of_eq (by simp [setReply])) (Nat.le_refl _)

private theorem recedes_setStream (t : Ticket) (s : Stream) : l.Recedes (l.setStream t s) :=
  .of_line rfl (Nat.le_refl _) (Nat.le_of_eq (by simp [setStream]))

private theorem recedes_release (id : MessageId) : l.Recedes (l.release id) :=
  ⟨.refl _, rfl, fun _ hi => (MessageIds.mem_release.mp hi).1, Nat.le_refl _, Nat.le_refl _⟩

private theorem recedes_register (s : Submission) : l.Recedes (l.register s) := by
  rw [register]
  cases s.operation with
  | single t =>
    exact .of_quiet (l.quiet_awaitSingle t s.id) (congrArg (·.2.2) (l.tables_awaitSingle t s.id))
  | search t =>
    exact .of_quiet (l.quiet_awaitSearch t s.id) (congrArg (·.2.2) (l.tables_awaitSearch t s.id))
  | abandon target =>
    exact ((Recedes.of_quiet (l.quiet_giveUp target)
      (congrArg (·.2.2) (l.tables_giveUp target))).trans (recedes_release _ target)).trans
      (recedes_release _ s.id)
  | unbind => exact .refl l

private theorem recedes_route (m : Message) : l.Recedes (l.route m) := by
  cases hs : l.searches.lookup m.id with
  | some t =>
    have hset := l.recedes_setStream t ((l.stream t).push m).2
    rw [route_search hs]
    split
    · refine Recedes.trans ?_ (recedes_release _ m.id)
      exact hset.trans (.of_line rfl (Nat.le_refl _) (Nat.le_refl _))
    · exact hset
  | none =>
    cases h : l.singles.lookup m.id with
    | some t =>
      have htable : l.Recedes { l with singles := l.singles.filter (·.1 != m.id) } :=
        .of_line rfl (Nat.le_refl _) (Nat.le_refl _)
      rw [route_single hs h]
      exact (htable.trans (recedes_setReply _ t _)).trans (recedes_release _ m.id)
    | none =>
      rw [route_none hs h]
      exact .refl l

private theorem recedes_dispatch (m : Message) : l.Recedes (l.dispatch m).2 := by
  rw [dispatch]
  split
  · exact .refl l
  · exact l.recedes_route m

private theorem recedes_finish : l.Recedes l.finish := by
  have hline : l.finish.line = { l.line with queue := [], isOpen := false } :=
    congrArg (·.2.2) l.tables_finish
  refine ⟨?_, ?_, ?_, l.quiet_finish.replies, l.quiet_finish.streams⟩ <;> rw [hline]
  · exact List.nil_sublist _
  · exact fun _ hid => hid

end Recedes

section Driver

variable {l l' : Link} {rest : Octets}

/-- The driver takes the first request of the line. -/
theorem queue_of_transmit {sub : Submission}
    (h : l.transmit? = some (sub, l')) : ∃ queue, l.line.queue = sub :: queue ∧
      l' = { l with line := { l.line with queue } }.register sub := by
  rw [transmit?] at h
  split at h
  · cases h
  · rename_i hqueue
    split at h
    · cases h
      exact ⟨_, hqueue, rfl⟩
    · cases h

private theorem recedes_receive {m : Message}
    (hnext : Message.next? l.inbound = some (.ok m, rest)) (h : l.receive? = some l') :
    l.Recedes l' := by
  have hin : l.Recedes { l with inbound := rest } := .of_line rfl (Nat.le_refl _) (Nat.le_refl _)
  have hdispatch := hin.trans (recedes_dispatch { l with inbound := rest } m)
  rw [receive?, hnext] at h
  split at h
  · cases h
    dsimp only
    split
    · exact hdispatch
    · exact hdispatch.trans (recedes_finish _)
  · cases h

private theorem recedes_garbled {e : DirectoryError}
    (hnext : Message.next? l.inbound = some (.error e, rest)) (h : l.receive? = some l') :
    l.Recedes l' := by
  have hin : l.Recedes { l with inbound := rest } := .of_line rfl (Nat.le_refl _) (Nat.le_refl _)
  rw [receive?, hnext] at h
  split at h
  · cases h
    exact hin.trans (recedes_finish _)
  · cases h

end Driver

structure Requests (es : List Event) (s : Traffic) : Prop where
  last : s.link.line.ids.last = (allocations es : Int)
  used : ∀ id ∈ s.link.line.ids.used, id ≤ (allocations es : Int)
  distinct : (ids es s).Nodup
  range : ∀ id ∈ ids es s, 1 ≤ id ∧ id ≤ (allocations es : Int)
  singles : ((requests es s.link).filterMap single?).Nodup
  singleRange : ∀ t ∈ (requests es s.link).filterMap single?, t < s.link.replies.length
  searches : ((requests es s.link).filterMap search?).Nodup
  searchRange : ∀ t ∈ (requests es s.link).filterMap search?, t < s.link.streams.length

namespace Requests

variable {es e : List Event} {s s' : Traffic}

theorem start : Requests [] {} where
  last := rfl
  used := by simp
  distinct := .nil
  range := by simp [ids, requests, registrations]
  singles := .nil
  singleRange := by simp [requests, registrations]
  searches := .nil
  searchRange := by simp [requests, registrations]

private theorem mono (h : Requests es s) (halloc : allocations e = 0)
    (hreq : (requests (es ++ e) s'.link).Sublist (requests es s.link))
    (hhand : s'.inHand = s.inHand) (hl : s.link.Recedes s'.link) : Requests (es ++ e) s' := by
  have hids : (ids (es ++ e) s').Sublist (ids es s) := by
    rw [ids, ids, hhand]
    exact (List.Sublist.refl _).append (hreq.map _)
  have hcount : allocations (es ++ e) = allocations es := by
    rw [allocations_append, halloc, Nat.add_zero]
  refine ⟨by rw [hl.last, h.last, hcount], fun id hid => ?_, hids.nodup h.distinct,
    fun id hid => ?_, (hreq.filterMap _).nodup h.singles, fun t ht => ?_,
    (hreq.filterMap _).nodup h.searches, fun t ht => ?_⟩
  · rw [hcount]
    exact h.used id (hl.used id hid)
  · rw [hcount]
    exact h.range id (hids.subset hid)
  · exact Nat.lt_of_lt_of_le (h.singleRange t ((hreq.filterMap _).subset ht)) hl.replies
  · exact Nat.lt_of_lt_of_le (h.searchRange t ((hreq.filterMap _).subset ht)) hl.streams

/-- Such a step that registers nothing either. -/
theorem recede {l : Link} (h : Requests es s) (halloc : allocations e = 0)
    (hreg : registrations e = []) (hl : s.link.Recedes l) :
    Requests (es ++ e) { s with link := l } := by
  refine h.mono halloc ?_ rfl hl
  rw [requests, registrations_append, hreg, List.append_nil]
  exact (List.Sublist.refl _).append hl.queue

private theorem allocate (h : Requests es s) {id : MessageId} {l : Link}
    (hlt : (allocations es : Int) < MessageIds.largest) (hnext : s.link.nextId = (.ok id, l)) :
    Requests (es ++ [.allocated id]) { link := l, inHand := id :: s.inHand } := by
  rw [nextId_of_lt h.last h.used hlt, Prod.mk.injEq, Except.ok.injEq] at hnext
  obtain ⟨hid, hl⟩ := hnext
  have hcount : (allocations (es ++ [.allocated id]) : Int) = allocations es + 1 := by
    rw [allocations_append]
    rfl
  have hle : ∀ i : Int, i ≤ allocations es → i ≤ allocations (es ++ [.allocated id]) := by
    intro i hi
    rw [hcount]
    exact Int.le_trans hi (Int.le_of_lt (Int.lt_succ _))
  have hreq : requests (es ++ [.allocated id]) l = requests es s.link := by
    rw [requests, registrations_append, requests, ← hl]
    simp [registrations]
  have hids : ids (es ++ [.allocated id]) { link := l, inHand := id :: s.inHand } =
      id :: ids es s := by
    rw [ids, hreq]
    rfl
  refine ⟨?_, fun i hi => ?_, ?_, fun i hi => ?_, ?_, fun t ht => ?_, ?_, fun t ht => ?_⟩
  · rw [hcount, ← hl]
  · rw [← hl] at hi
    rcases MessageIds.mem_insertInto.mp hi with rfl | hi
    · exact Int.le_of_eq hcount.symm
    · exact hle i (h.used i hi)
  · rw [hids, ← hid]
    exact List.nodup_cons.mpr
      ⟨fun hmem => Int.not_le.mpr (Int.lt_succ _) (h.range _ hmem).2, h.distinct⟩
  · rw [hids] at hi
    rcases List.mem_cons.mp hi with rfl | hi
    · rw [hcount, ← hid]
      exact ⟨Int.le_add_of_nonneg_left (Int.natCast_nonneg _), Int.le_refl _⟩
    · exact ⟨(h.range i hi).1, hle i (h.range i hi).2⟩
  · rw [hreq]
    exact h.singles
  · rw [hreq] at ht
    rw [← hl]
    exact h.singleRange t ht
  · rw [hreq]
    exact h.searches
  · rw [hreq] at ht
    rw [← hl]
    exact h.searchRange t ht

private theorem slots_concat {f : Submission → Option Ticket} {subs : List Submission}
    {sub : Submission} {n n' : Nat} (hdistinct : (subs.filterMap f).Nodup)
    (hrange : ∀ t ∈ subs.filterMap f, t < n) (hle : n ≤ n')
    (hnew : ∀ t, f sub = some t → n ≤ t ∧ t < n') :
    ((subs ++ [sub]).filterMap f).Nodup ∧ ∀ t ∈ (subs ++ [sub]).filterMap f, t < n' := by
  rw [List.filterMap_append]
  cases hf : f sub with
  | none =>
    rw [List.filterMap_cons_none hf, List.filterMap_nil, List.append_nil]
    exact ⟨hdistinct, fun t ht => Nat.lt_of_lt_of_le (hrange t ht) hle⟩
  | some u =>
    obtain ⟨hge, hlt⟩ := hnew u hf
    rw [List.filterMap_cons_some hf, List.filterMap_nil]
    refine ⟨hdistinct.append (List.nodup_singleton u) fun t ht htu => ?_, fun t ht => ?_⟩
    · have hout := hrange t ht
      rw [List.mem_singleton.mp htu] at hout
      exact Nat.not_lt.mpr hge hout
    · rcases List.mem_append.mp ht with ht | ht
      · exact Nat.lt_of_lt_of_le (hrange t ht) hle
      · rwa [List.mem_singleton.mp ht]

private theorem send (h : Requests es s) {sub : Submission} {l : Link} (hid : sub.id ∈ s.inHand)
    (hline : l.line = s.link.line) (hreplies : s.link.replies.length ≤ l.replies.length)
    (hstreams : s.link.streams.length ≤ l.streams.length)
    (hsingle : ∀ t, single? sub = some t → s.link.replies.length ≤ t ∧ t < l.replies.length)
    (hsearch : ∀ t, search? sub = some t → s.link.streams.length ≤ t ∧ t < l.streams.length) :
    Requests es { link := (l.send sub).2, inHand := s.inHand.erase sub.id } := by
  cases hopen : s.link.line.isOpen with
  | true =>
    have hsend : (l.send sub).2 =
        { l with line := { s.link.line with queue := s.link.line.queue ++ [sub] } } := by
      simp [Link.send, Line.send, hline, hopen]
    rw [hsend]
    have hreq : ∀ l : Link, l.line.queue = s.link.line.queue ++ [sub] →
        requests es l = requests es s.link ++ [sub] := by
      intro l hl
      rw [requests, hl, requests, List.append_assoc]
    have hperm : List.Perm (s.inHand.erase sub.id ++ (requests es s.link ++ [sub]).map Submission.id)
        (ids es s) := by
      rw [ids, List.map_append]
      exact perm_sent hid
    obtain ⟨hsingles, hsingleRange⟩ := slots_concat h.singles h.singleRange hreplies hsingle
    obtain ⟨hsearches, hsearchRange⟩ := slots_concat h.searches h.searchRange hstreams hsearch
    refine ⟨h.last, h.used, ?_, ?_, ?_, ?_, ?_, ?_⟩
    · rw [ids, hreq _ rfl]
      exact hperm.nodup_iff.mpr h.distinct
    · rw [ids, hreq _ rfl]
      exact fun id hid => h.range id (hperm.subset hid)
    all_goals rw [hreq _ rfl]
    exacts [hsingles, hsingleRange, hsearches, hsearchRange]
  | false =>
    have hsend : (l.send sub).2 = { l with line := s.link.line.release sub.id } := by
      simp [Link.send, Line.send, hline, hopen]
    rw [hsend]
    have hids : (s.inHand.erase sub.id ++ (requests es s.link).map Submission.id).Sublist
        (ids es s) :=
      List.erase_sublist.append (.refl _)
    exact ⟨h.last, fun id hid => h.used id (MessageIds.mem_release.mp hid).1,
      hids.nodup h.distinct, fun id hid => h.range id (hids.subset hid), h.singles,
      fun t ht => Nat.lt_of_lt_of_le (h.singleRange t ht) hreplies, h.searches,
      fun t ht => Nat.lt_of_lt_of_le (h.searchRange t ht) hstreams⟩

/-- A step takes no id that was taken, and no slot that was used. -/
theorem step (h : Requests es s) (hstep : Step s e s')
    (hlt : (allocations (es ++ e) : Int) ≤ MessageIds.largest) : Requests (es ++ e) s' := by
  cases hstep with
  | allocate id l hnext =>
    refine h.allocate ?_ hnext
    rw [allocations_append] at hlt
    exact Int.lt_of_lt_of_le (Int.ofNat_lt.mpr (Nat.lt_succ_self _)) hlt
  | sendSingle id element controls hid =>
    rw [List.append_nil]
    refine h.send (l := { s.link with replies := s.link.replies ++ [({} : Reply Message)] })
      hid rfl (by simp) (Nat.le_refl _) (fun t ht => ?_) nofun
    cases ht
    exact ⟨Nat.le_refl _, by simp⟩
  | sendSearch id element controls hid =>
    rw [List.append_nil]
    refine h.send (l := { s.link with streams := s.link.streams ++ [({} : Stream)] })
      hid rfl (Nat.le_refl _) (by simp) nofun (fun t ht => ?_)
    cases ht
    exact ⟨Nat.le_refl _, by simp⟩
  | sendAbandon id target hid =>
    rw [List.append_nil]
    exact h.send hid rfl (Nat.le_refl _) (Nat.le_refl _) nofun nofun
  | sendUnbind id controls hid =>
    let sub : Submission := { id, operation := .unbind, element := Request.unbind, controls }
    have hsent : Requests es { link := (s.link.send sub).2, inHand := s.inHand.erase id } :=
      h.send hid rfl (Nat.le_refl _) (Nat.le_refl _) nofun nofun
    exact hsent.recede rfl rfl (.of_line rfl (Nat.le_refl _) (Nat.le_refl _))
  | transmit sub l ht =>
    obtain ⟨queue, hqueue, rfl⟩ := queue_of_transmit ht
    have hrest := recedes_register { s.link with line := { s.link.line with queue } } sub
    have htaken : s.link.Recedes { s.link with line := { s.link.line with queue } } := by
      refine ⟨?_, rfl, fun _ hid => hid, Nat.le_refl _, Nat.le_refl _⟩
      rw [hqueue]
      exact List.sublist_cons_self sub queue
    refine h.mono rfl ?_ rfl (htaken.trans hrest)
    rw [requests, registrations_append, requests, hqueue, List.append_assoc]
    exact (List.Sublist.refl _).append (hrest.queue.cons_cons sub)
  | feed octets => exact h.recede rfl rfl (.of_line rfl (Nat.le_refl _) (Nat.le_refl _))
  | receive m rest l hnext hr =>
    refine h.recede ?_ ?_ (recedes_receive hnext hr) <;> rw [arrival] <;> split <;> rfl
  | garbled err rest l hnext hr => exact h.recede rfl rfl (recedes_garbled hnext hr)
  | exit ho => exact h.recede rfl rfl s.link.recedes_finish
  | examineReply t id late ht => exact h.recede rfl rfl (s.link.recedes_setReply t _)
  | cancelReply t interrupt ht => exact h.recede rfl rfl (s.link.recedes_setReply t _)
  | examineStream t id late ht =>
    refine h.recede ?_ ?_ (s.link.recedes_setStream t _) <;> rw [examination.eq_def] <;> split <;>
      rfl
  | cancelStream t interrupt ht =>
    refine h.recede ?_ ?_ (s.link.recedes_setStream t _) <;> split <;> rfl

section Distinct

variable {sub sub₁ sub₂ : Submission} {queue : List Submission}

private theorem registered_ids (h : Requests es s) :
    ((registrations es).map Submission.id).Nodup := by
  refine List.Nodup.sublist ?_ h.distinct
  rw [ids, requests, List.map_append]
  exact (List.sublist_append_left _ _).trans (List.sublist_append_right _ _)

/-- Requests are known by their ids. -/
theorem eq_of_id (h : Requests es s) (h₁ : sub₁ ∈ registrations es) (h₂ : sub₂ ∈ registrations es)
    (hid : sub₁.id = sub₂.id) : sub₁ = sub₂ :=
  List.inj_on_of_nodup_map h.registered_ids h₁ h₂ hid

/-- No request has the id zero. -/
theorem id_ne_zero (h : Requests es s) (hsub : sub ∈ registrations es) : sub.id ≠ 0 := by
  have hmem : sub.id ∈ ids es s :=
    List.mem_append_right _ (List.mem_map_of_mem (List.mem_append_left _ hsub))
  exact Int.ne_of_gt (Int.lt_of_lt_of_le Int.zero_lt_one (h.range sub.id hmem).1)

/-- The next request on the line has an id that no registered one has. -/
theorem id_ne_next (h : Requests es s) (hqueue : s.link.line.queue = sub :: queue)
    (hsub : sub₁ ∈ registrations es) : sub₁.id ≠ sub.id := by
  have hdistinct : ((requests es s.link).map Submission.id).Nodup :=
    h.distinct.sublist (List.sublist_append_right _ _)
  rw [requests, hqueue, List.map_append, List.map_cons] at hdistinct
  exact (List.nodup_append.mp hdistinct).2.2 _ (List.mem_map_of_mem hsub) _ List.mem_cons_self

private theorem notMem_of_next {f : Submission → Option Ticket} {t : Ticket}
    (h : ((requests es s.link).filterMap f).Nodup) (hqueue : s.link.line.queue = sub :: queue)
    (hf : f sub = some t) : t ∉ (registrations es).filterMap f := by
  rw [requests, hqueue, List.filterMap_append, List.filterMap_cons_some hf] at h
  exact fun ht => (List.nodup_append.mp h).2.2 t ht t List.mem_cons_self rfl

/-- Its slot is not that of a registered one. -/
theorem single_next (h : Requests es s) (hqueue : s.link.line.queue = sub :: queue) {t : Ticket}
    (ht : sub.operation = .single t) : ∀ s ∈ registrations es, s.operation ≠ .single t := by
  intro s hs hop
  refine notMem_of_next h.singles hqueue (t := t) ?_ (List.mem_filterMap.mpr ⟨s, hs, ?_⟩)
  · rw [single?, ht]
  · rw [single?, hop]

theorem search_next (h : Requests es s) (hqueue : s.link.line.queue = sub :: queue) {t : Ticket}
    (ht : sub.operation = .search t) : ∀ s ∈ registrations es, s.operation ≠ .search t := by
  intro s hs hop
  refine notMem_of_next h.searches hqueue (t := t) ?_ (List.mem_filterMap.mpr ⟨s, hs, ?_⟩)
  · rw [search?, ht]
  · rw [search?, hop]

end Distinct

end Requests

end Link

end DirectoryClient
