import DirectoryClient.Proofs.Cursor.Incidents
import DirectoryClient.Proofs.Link.Books
import DirectoryClient.Proofs.Link.Drives
import DirectoryClient.Proofs.Link.Responses
import Mathlib.Data.List.Perm.Subperm

/-! Searches on one transport do not share slots, and none for which the driver cares has failed. So the
driver only delivers to the slot of a search, and once it has failed a search, it delivers no more. -/
namespace DirectoryClient.Link

/-- The slots of the searches that the driver has still to take over, and of those it waits for. -/
private def searchTickets (l : Link) : List Ticket :=
  l.line.queue.filterMap search? ++ l.searches.map Prod.snd

structure Orderly (l : Link) : Prop where
  distinct : l.searchTickets.Nodup
  exist : ∀ t ∈ l.searchTickets, t < l.streams.length
  unfailed : ∀ t ∈ l.searchTickets, (l.stream t).failure = none

structure Serves (l l' : Link) : Prop where
  tickets : l'.searchTickets.Subperm l.searchTickets
  streams : l'.streams.length = l.streams.length
  unfailed : ∀ t ∈ l'.searchTickets, (l'.stream t).failure = none
  supplied : ∀ t, (l.stream t).Supplied (l'.stream t)

section Supplied

variable {l l' : Link} {t : Ticket}

private theorem supplied_setStream {u : Ticket} {s : Stream} (h : (l.stream u).Supplied s)
    (t : Ticket) :
    (l.stream t).Supplied ((l.setStream u s).stream t) := by
  rw [stream_setStream]
  split
  · rename_i ht
    rw [ht.1]
    exact h
  · exact .refl

private theorem supplied_of_eq (h : l'.streams = l.streams) (t : Ticket) :
    (l.stream t).Supplied (l'.stream t) := by
  rw [stream, stream, h]
  exact .refl

private theorem supplied_close (o : Operation) (t : Ticket) :
    (l.stream t).Supplied ((l.close o).stream t) := by
  cases o with
  | search u => exact supplied_setStream (.fail _ _) t
  | single | abandon | unbind => exact .refl

private theorem supplied_closeAll (os : List Operation) (t : Ticket) :
    (l.stream t).Supplied ((os.foldl (fun l o => l.close o) l).stream t) := by
  induction os generalizing l with
  | nil => exact .refl
  | cons o os ih => exact (supplied_close o t).trans ih

private theorem length_closeAll (os : List Operation) :
    (os.foldl (fun l o => l.close o) l).streams.length = l.streams.length := by
  induction os generalizing l with
  | nil => rfl
  | cons o os ih =>
    refine ih.trans ?_
    cases o with
    | search u => exact List.length_set
    | single | abandon | unbind => rfl

end Supplied

namespace Orderly

variable {l l' : Link}

theorem start : ({} : Link).Orderly := ⟨.nil, nofun, nofun⟩

/-- No search is new to the driver, and slots stay, as does who has failed. -/
private theorem keep (h : l.Orderly) (ht : l'.searchTickets.Subperm l.searchTickets)
    (hlength : l.streams.length ≤ l'.streams.length)
    (hf : ∀ t ∈ l'.searchTickets, (l'.stream t).failure = none) : l'.Orderly where
  distinct := by
    obtain ⟨ts, hperm, hsub⟩ := ht
    exact hperm.nodup_iff.mp (h.distinct.sublist hsub)
  exist t hmem := Nat.lt_of_lt_of_le (h.exist t (ht.subset hmem)) hlength
  unfailed := hf

private theorem serves (h : l.Orderly) (hs : l.Serves l') : l'.Orderly :=
  h.keep hs.tickets (Nat.le_of_eq hs.streams.symm) hs.unfailed

private theorem serves_of_eq (h : l.Orderly) (hs : l'.streams = l.streams)
    (ht : l'.searchTickets.Subperm l.searchTickets) : l.Serves l' where
  tickets := ht
  streams := congrArg List.length hs
  unfailed t hmem := by
    rw [stream, hs]
    exact h.unfailed t (ht.subset hmem)
  supplied := supplied_of_eq hs

/-- One slot is delivered to. If the search fails, the driver does not care for it any more. -/
private theorem serves_of_set (h : l.Orderly) {u : Ticket} {s : Stream}
    (hs : l'.streams = (l.setStream u s).streams) (ht : l'.searchTickets.Subperm l.searchTickets)
    (hsupplied : (l.stream u).Supplied s) (hf : u ∈ l'.searchTickets → s.failure = none) :
    l.Serves l' := by
  have hstream : ∀ t, l'.stream t = (l.setStream u s).stream t := fun t => by
    rw [stream, stream, hs]
  refine ⟨ht, by rw [hs, setStream, List.length_set], fun t hmem => ?_, fun t => ?_⟩
  · rw [hstream, stream_setStream]
    split
    · rename_i htu
      exact hf (htu.1 ▸ hmem)
    · exact h.unfailed t (ht.subset hmem)
  · rw [hstream]
    exact supplied_setStream hsupplied t

end Orderly

section Tables

variable {l l' : Link} {id : MessageId} {t u : Ticket} {queue : List Submission}

private theorem subperm_of_sublist (hqueue : l'.line.queue = l.line.queue)
    (hsearches : l'.searches.Sublist l.searches) :
    l'.searchTickets.Subperm l.searchTickets := by
  rw [searchTickets, searchTickets, hqueue]
  exact (List.Sublist.append_left (hsearches.map Prod.snd) _).subperm

/-- A search whose id is taken over, or that is abandoned, fails. -/
private theorem streams_register (l : Link) (s : Submission) : (l.register s).streams =
    match s.operation with
    | .search _ => (l.searches.lookup s.id).elim l.streams fun u =>
        (l.setStream u ((l.stream u).forsake s.id)).streams
    | .abandon target => (l.searches.lookup target).elim l.streams fun u =>
        (l.setStream u ((l.stream u).fail (.operationCancelled target))).streams
    | _ => l.streams := by
  rw [register]
  cases s.operation with
  | single t =>
    simp only [awaitSingle, takeOut]
    cases l.singles.lookup s.id <;> rfl
  | search t =>
    simp only [awaitSearch, takeOut]
    cases l.searches.lookup s.id <;> rfl
  | abandon target =>
    simp only [giveUp, takeOut]
    cases l.singles.lookup target <;> cases l.searches.lookup target <;> rfl
  | unbind => rfl

/-- The slot of the search under an id is that of no other search. -/
private theorem Orderly.alone (h : l.Orderly) (hu : l.searches.lookup id = some u) :
    u ∉ l.line.queue.filterMap search? ∧ u ∉ (l.searches.filter (·.1 != id)).map Prod.snd := by
  obtain ⟨-, hnodup, hdisjoint⟩ := List.nodup_append.mp h.distinct
  have hmem := mem_of_lookup hu
  refine ⟨fun hq => hdisjoint u hq u (List.mem_map.mpr ⟨_, hmem, rfl⟩) rfl, fun hrest => ?_⟩
  obtain ⟨p, hp, rfl⟩ := List.mem_map.mp hrest
  obtain ⟨hp, hne⟩ := List.mem_filter.mp hp
  have heq : p = (id, p.2) := List.inj_on_of_nodup_map hnodup hp hmem rfl
  rw [heq] at hne
  simp at hne

end Tables

section Driver

variable {l l' : Link} (h : l.Orderly)
include h

/-- The search under an id is waited for no more. If there is one, this comes into its slot. -/
private theorem serves_conclude {id : MessageId} {f : Stream → Stream}
    (ht : l'.searchTickets.Subperm
      (l.line.queue.filterMap search? ++ (l.searches.filter (·.1 != id)).map Prod.snd))
    (hstreams : l'.streams = (l.searches.lookup id).elim l.streams fun u =>
      (l.setStream u (f (l.stream u))).streams)
    (hf : ∀ s : Stream, s.Supplied (f s)) : l.Serves l' := by
  have hfewer : (l.searches.filter (·.1 != id)).Sublist l.searches := List.filter_sublist
  have htickets := ht.trans ((hfewer.map Prod.snd).append_left _).subperm
  cases hu : l.searches.lookup id with
  | none => exact h.serves_of_eq (by rw [hstreams, hu]; rfl) htickets
  | some u =>
    refine h.serves_of_set (by rw [hstreams, hu]; rfl) htickets (hf _) fun hmem => ?_
    obtain ⟨hqueued, hleft⟩ := h.alone hu
    exact absurd (ht.subset hmem) (List.not_mem_append hqueued hleft)

private theorem serves_route (m : Message) : l.Serves (l.route m) := by
  cases hs : l.searches.lookup m.id with
  | some t =>
    have hmem : t ∈ l.searchTickets :=
      List.mem_append_right _ (List.mem_map.mpr ⟨_, mem_of_lookup hs, rfl⟩)
    have hopen := h.unfailed t hmem
    have hpush : ((l.stream t).push m).2.failure = none := (Stream.push_failure m _).trans hopen
    rw [route_search hs]
    split
    · exact h.serves_of_set rfl (subperm_of_sublist rfl List.filter_sublist) (.push m hopen)
        fun _ => hpush
    · exact h.serves_of_set rfl (.refl _) (.push m hopen) fun _ => hpush
  | none =>
    cases ht : l.singles.lookup m.id with
    | some t =>
      rw [route_single hs ht]
      exact h.serves_of_eq rfl (.refl _)
    | none =>
      rw [route_none hs ht]
      exact h.serves_of_eq rfl (.refl _)

private theorem serves_dispatch (m : Message) : l.Serves (l.dispatch m).2 := by
  rw [dispatch]
  split
  · exact h.serves_of_eq rfl (.refl _)
  · exact serves_route h m

omit h in
private theorem serves_finish (l : Link) : l.Serves l.finish := by
  have htickets : l.finish.searchTickets = [] := by
    obtain ⟨-, hsearches, hline⟩ := tables_eq_iff.mp l.tables_finish
    rw [searchTickets, hsearches, hline]
    rfl
  refine ⟨htickets ▸ List.nil_subperm, length_closeAll _, fun t ht => ?_, supplied_closeAll _⟩
  rw [htickets] at ht
  cases ht

private theorem serves_transmit {s : Submission} (ht : l.transmit? = some (s, l')) : l.Serves l' := by
  obtain ⟨queue, hqueue, rfl⟩ := queue_of_transmit ht
  have htables := tables_register { l with line := { l.line with queue } } s
  have hstreams := streams_register { l with line := { l.line with queue } } s
  have hqueued : l.line.queue.filterMap search? =
      (search? s).toList ++ queue.filterMap search? := by
    rw [hqueue]
    cases hsearch : search? s <;> simp [hsearch]
  cases hop : s.operation with
  | single t =>
    rw [hop] at htables hstreams
    obtain ⟨-, hsearches, hline⟩ := tables_eq_iff.mp htables
    refine h.serves_of_eq hstreams ?_
    rw [searchTickets, hsearches, hline, searchTickets, hqueued, search?, hop]
    exact .refl _
  | search t =>
    rw [hop] at htables hstreams
    obtain ⟨-, hsearches, hline⟩ := tables_eq_iff.mp htables
    refine serves_conclude h ?_ hstreams (Stream.Supplied.forsake s.id)
    rw [searchTickets, hsearches, hline, hqueued, search?, hop]
    exact List.perm_middle.subperm
  | abandon target =>
    rw [hop] at htables hstreams
    obtain ⟨-, hsearches, hline⟩ := tables_eq_iff.mp htables
    refine serves_conclude h ?_ hstreams (Stream.Supplied.fail (.operationCancelled target))
    rw [searchTickets, hsearches, hline, hqueued, search?, hop]
    exact .refl _
  | unbind =>
    rw [hop] at htables hstreams
    obtain ⟨-, hsearches, hline⟩ := tables_eq_iff.mp htables
    refine h.serves_of_eq hstreams ?_
    rw [searchTickets, hsearches, hline, searchTickets, hqueued, search?, hop]
    exact .refl _

end Driver

private theorem Serves.after {l l₁ l₂ : Link} (hs : l₁.Serves l₂)
    (h : l₁.Orderly ∧ l₁.streams.length = l.streams.length ∧
      ∀ t, (l.stream t).Supplied (l₁.stream t)) :
    l₂.Orderly ∧ l₂.streams.length = l.streams.length ∧
      ∀ t, (l.stream t).Supplied (l₂.stream t) :=
  ⟨h.1.serves hs, hs.streams.trans h.2.1, fun t => (h.2.2 t).trans (hs.supplied t)⟩

/-- Whatever the driver and the server do, slots are only delivered to. -/
theorem Orderly.drives {l l' : Link} (h : l.Orderly) (hd : l.Drives l') :
    l'.Orderly ∧ l'.streams.length = l.streams.length ∧
      ∀ t, (l.stream t).Supplied (l'.stream t) := by
  induction hd with
  | refl => exact ⟨h, rfl, fun _ => .refl⟩
  | transmit _ ht ih => exact (serves_transmit ih.1 ht).after ih
  | inbound octets _ ih =>
    obtain ⟨h₁, hlength, hsupplied⟩ := ih
    exact ⟨⟨h₁.distinct, h₁.exist, h₁.unfailed⟩, hlength, hsupplied⟩
  | dispatch m _ ih => exact (serves_dispatch ih.1 m).after ih
  | finish _ ih => exact (serves_finish _).after ih

section Users

variable {l : Link} (h : l.Orderly)
include h

theorem Orderly.nextId : l.nextId.2.Orderly := by
  refine h.serves (h.serves_of_eq rfl ?_)
  rw [Link.nextId, Line.nextId]
  cases l.line.ids.next <;> exact .refl _

/-- A request that is no search is queued, -/
private theorem Orderly.send {s : Submission} (hs : search? s = none) : (l.send s).2.Orderly := by
  refine h.serves (h.serves_of_eq rfl ?_)
  simp only [searchTickets, Link.send, Line.send]
  split
  · rw [List.filterMap_append, List.filterMap_cons_none hs, List.filterMap_nil, List.append_nil]
  · exact .refl _

/-- or a search, which has a new slot. -/
theorem Orderly.sendSearch (id : MessageId) (element : Ber.Element)
    (controls : Option (List Control)) : (l.sendSearch id element controls).2.Orderly := by
  have hnew : l.streams.length ∉ l.searchTickets := fun hmem => Nat.lt_irrefl _ (h.exist _ hmem)
  have hstream : ∀ t, ({ l with streams := l.streams ++ [({} : Stream)] } : Link).stream t =
      l.stream t := l.stream_new
  have hfresh : l.stream l.streams.length = {} := by simp [stream]
  have hslots : (l.streams ++ [({} : Stream)]).length = l.streams.length + 1 := by simp
  simp only [Link.sendSearch, Link.send, Line.send]
  split
  · have hperm : (l.streams.length :: l.searchTickets).Perm
        (({ l with
            line := { l.line with queue := l.line.queue ++
              [{ id, operation := .search l.streams.length, element, controls }] }
            streams := l.streams ++ [({} : Stream)] } : Link).searchTickets) := by
      simp only [searchTickets, List.filterMap_append, List.append_assoc]
      exact List.perm_middle.symm
    refine ⟨hperm.nodup_iff.mp (List.nodup_cons.mpr ⟨hnew, h.distinct⟩), fun t ht => ?_,
      fun t ht => ?_⟩
    · rcases List.mem_cons.mp (hperm.mem_iff.mpr ht) with rfl | ht
      · exact Nat.lt_of_lt_of_eq (Nat.lt_succ_self _) hslots.symm
      · exact Nat.lt_of_lt_of_eq (Nat.lt_succ_of_lt (h.exist t ht)) hslots.symm
    · refine (congrArg Stream.failure (hstream t)).trans ?_
      rcases List.mem_cons.mp (hperm.mem_iff.mpr ht) with rfl | ht
      · rw [hfresh]
      · exact h.unfailed t ht
  · refine h.keep (.refl _) (Nat.le_of_lt (Nat.lt_of_lt_of_eq (Nat.lt_succ_self _) hslots.symm))
      fun t ht => ?_
    exact (congrArg Stream.failure (hstream t)).trans (h.unfailed t ht)

theorem Orderly.abandon (target : MessageId) : (l.abandon target).2.Orderly := by
  have hnew := h.nextId
  rcases hnext : l.nextId with ⟨_ | id, l'⟩
  · rw [hnext] at hnew
    rcases hline : l.line.nextId with ⟨o, line⟩
    simp only [Link.nextId, hline] at hnext
    cases hnext
    simpa only [Link.abandon, Line.abandon, hline] using hnew
  · rw [hnext] at hnew
    rw [abandon_eq hnext]
    exact hnew.send rfl

/-- Whoever looks into a slot or cancels lets no search fail. -/
theorem Orderly.setStream {t : Ticket} {s : Stream} (hs : s.failure = (l.stream t).failure) :
    (l.setStream t s).Orderly := by
  refine h.keep (.refl _) (Nat.le_of_eq List.length_set.symm) fun u hu => ?_
  rw [stream_setStream]
  split
  · rename_i htu
    rw [hs, ← htu.1]
    exact h.unfailed u hu
  · exact h.unfailed u hu

end Users

/-- Whatever happens on a transport, searches do not share slots. -/
private theorem Orderly.step {s s' : Traffic} {e : List Event} (h : s.link.Orderly) (hs : Step s e s') :
    s'.link.Orderly := by
  have hdriven : ∀ {l : Link}, s.link.Drives l → l.Orderly := fun hd => (h.drives hd).1
  cases hs with
  | allocate id l hnext =>
    have hnew := h.nextId
    rwa [hnext] at hnew
  | sendSingle id element controls =>
    have hslot : ({ s.link with replies := s.link.replies ++ [({} : Reply Message)] } : Link).Orderly :=
      ⟨h.distinct, h.exist, h.unfailed⟩
    exact hslot.send rfl
  | sendSearch id element controls => exact h.sendSearch id element controls
  | sendAbandon => exact h.send rfl
  | sendUnbind id controls =>
    have hsent := h.send (s := { id, operation := .unbind, element := Request.unbind, controls }) rfl
    exact ⟨hsent.distinct, hsent.exist, hsent.unfailed⟩
  | transmit sub l ht => exact hdriven (.transmit .refl ht)
  | feed octets => exact hdriven (.inbound _ .refl)
  | receive m rest l _ hr | garbled e rest l _ hr => exact hdriven (.receive .refl hr)
  | exit => exact hdriven (.finish .refl)
  | examineReply | cancelReply => exact ⟨h.distinct, h.exist, h.unfailed⟩
  | examineStream t id late =>
    refine h.setStream ?_
    rcases (s.link.stream t).examine_cases id late with ⟨m, ms, -, -, hx⟩ | ⟨hx, -⟩ <;> rw [hx]
  | cancelStream t interrupt =>
    refine h.setStream ?_
    rcases (s.link.stream t).cancel_cases interrupt with ⟨-, -, hx⟩ | hx <;> rw [hx]

/-- Whatever a transport has come to, searches do not share slots on it. -/
theorem Run.orderly {s s' : Traffic} {es : List Event} (hr : Run s es s') (h : s.link.Orderly) :
    s'.link.Orderly := by
  induction hr with
  | start => exact h
  | step _ hs ih => exact ih.step hs

end DirectoryClient.Link
