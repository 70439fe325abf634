import DirectoryClient.Proofs.Link.Routing

/-! Tables and slots still agree with the trace after a message is dispatched. -/
namespace DirectoryClient

namespace Link

variable {es : List Event} {l l' : Link} {m : Message} {t : Ticket}

section Dispatched

variable {k : Option Ticket} {i : MessageId}

private theorem awaiting_dispatched (h : awaiting t es = .waiting m.id) :
    awaiting t (es ++ [.dispatched m k]) = .answered m := by
  rw [awaiting_concat, h, Awaiting.next]
  exact if_pos rfl

private theorem awaiting_dispatched_of_ne (h : awaiting t es = .waiting i) (hi : i ≠ m.id) :
    awaiting t (es ++ [.dispatched m k]) = .waiting i := by
  rw [awaiting_concat, h, Awaiting.next]
  exact if_neg (Ne.symm hi)

private theorem awaiting_dispatched_of_answered {m' : Message} (h : awaiting t es = .answered m') :
    awaiting t (es ++ [.dispatched m k]) = .answered m' := by
  rw [awaiting_concat, h]
  rfl

private theorem hearing_dispatched_of_ne (h : (hearing t es).stage ≠ .waiting m.id) :
    hearing t (es ++ [.dispatched m k]) = hearing t es := by
  rw [hearing_concat, Hearing.next]
  exact if_neg h

private theorem registrations_dispatched :
    registrations (es ++ [.dispatched m k]) = registrations es := by
  rw [registrations_append]
  exact List.append_nil _

private theorem readBy_dispatched : readBy t (es ++ [.dispatched m k]) = readBy t es := by
  rw [readBy_append]
  exact List.append_nil _

private theorem acceptedBy_dispatched :
    acceptedBy t (es ++ [.dispatched m (some t)]) = acceptedBy t es ++ [m] := by
  rw [acceptedBy_append]
  simp [acceptedBy]

end Dispatched

private theorem Listens.heard (h : Listens es l t) (hstage : (hearing t es).stage = .waiting m.id)
    (hopen : (hearing t es).isInterrupted = false) (hstream : l'.stream t = { l.stream t with
      phase := if m.kind = .done then .completed else (l.stream t).phase
      queue := (l.stream t).queue ++ [m] }) :
    Listens (es ++ [.dispatched m (some t)]) l' t := by
  have hnot : (l.stream t).phase ≠ .cancelled true := fun hp => by
    rw [h.interrupted.mp hp] at hopen
    cases hopen
  have hh : hearing t (es ++ [.dispatched m (some t)]) = { hearing t es with
      stage := if m.kind = .done then .over else .waiting m.id
      heard := (hearing t es).heard ++ [m] } := by
    rw [hearing_concat, Hearing.next, if_pos hstage, if_neg (by simp [hopen]), hstage]
  refine ⟨?_, fun hcompleted => ?_, ?_, fun _ => ?_, ?_⟩
  · rw [hh, hstream]
    by_cases hdone : m.kind = .done
    · simp [hdone, hopen]
    · simpa [hdone] using h.interrupted
  · rw [registrations_dispatched]
    obtain ⟨s, hs, hop, -⟩ := registered_of_hearing hstage
    refine ⟨?_, s, hs, hop⟩
    rw [hh]
    by_cases hdone : m.kind = .done
    · exact if_pos hdone
    · rw [hstream] at hcompleted
      simp only [hdone, ↓reduceIte] at hcompleted
      rw [(h.completed hcompleted).1] at hstage
      cases hstage
  · rw [acceptedBy_dispatched, hh, h.accepted]
  · rw [readBy_dispatched, hstream, hh, ← List.append_assoc, h.delivered hopen]
  · rw [readBy_dispatched, hh]
    exact h.dropped.trans (List.prefix_append _ _)

namespace Routing

private theorem ignored (h : Routing es l) (hnone : ∀ u, (hearing u es).stage ≠ .waiting m.id)
    (hsingle : ∀ i u, (i, u) ∈ l.singles → i ≠ m.id) : Routing (es ++ [.dispatched m none]) l := by
  have hh : ∀ u, hearing u (es ++ [.dispatched m none]) = hearing u es :=
    fun u => hearing_dispatched_of_ne (hnone u)
  refine h.mono (fun u => .unaccepted fun hu => absurd hu (hnone u)) (.refl l)
    (fun i u hi => ?_) (fun i u => ?_) (fun u m' hm => awaiting_dispatched_of_answered hm)
    fun u _ hu => ?_
  · exact awaiting_dispatched_of_ne (h.single i u hi) (hsingle i u hi)
  · rw [hh]
    exact h.search i u
  · rw [hh]
    exact hu

private theorem delivered_single (h : Routing es l)
    (hnone : ∀ u, (hearing u es).stage ≠ .waiting m.id) (ht : (m.id, t) ∈ l.singles) :
    Routing (es ++ [.dispatched m none])
      ({ l with singles := l.singles.filter (·.1 != m.id) }.deliver t (.ok m)) := by
  have hh : ∀ u, hearing u (es ++ [.dispatched m none]) = hearing u es :=
    fun u => hearing_dispatched_of_ne (hnone u)
  have hreply : ∀ u, ({ l with singles := l.singles.filter (·.1 != m.id) }.deliver t
      (.ok m)).reply u = if u = t ∧ t < l.replies.length then ((l.reply t).complete (.ok m)).2
        else l.reply u :=
    fun u => reply_setReply _ t u _
  refine ⟨fun i u hi => ?_, fun i u => ?_, fun u => ?_, fun u m' hm => ?_, fun u => ?_⟩
  · obtain ⟨hold, hne⟩ := List.mem_filter.mp hi
    exact awaiting_dispatched_of_ne (h.single i u hold) (by simpa using hne)
  · rw [hh]
    exact h.search i u
  · rw [hreply]
    split
    · exact ((l.reply t).complete_keeps (.ok m) (h.sound t)).1
    · exact h.sound u
  · rw [hreply] at hm
    split at hm
    · rename_i hut
      rw [hut.1]
      rcases (l.reply t).outcome_complete (.ok m) with hsame | hnew
      · rw [hsame] at hm
        exact awaiting_dispatched_of_answered (h.answered t m' hm)
      · rw [hnew] at hm
        cases hm
        exact awaiting_dispatched (h.single m.id t ht)
    · exact awaiting_dispatched_of_answered (h.answered u m' hm)
  · refine (h.listens u).unheard (.unaccepted fun hu => absurd hu (hnone u)) rfl rfl
      fun _ hu => ?_
    rw [hh]
    exact hu

private theorem refused (h : Routing es l) (hint : ∀ u, (hearing u es).stage = .waiting m.id →
      (hearing u es).isInterrupted = true)
    (hsingle : ∀ i u, (i, u) ∈ l.singles → i ≠ m.id) :
    Routing (es ++ [.dispatched m none])
      { l with searches := l.searches.filter (·.1 != m.id) } := by
  have hstage : ∀ u, (hearing u (es ++ [.dispatched m none])).stage =
      if (hearing u es).stage = .waiting m.id then .over else (hearing u es).stage := by
    intro u
    rw [hearing_concat, Hearing.next]
    split
    · rename_i hu
      rw [if_pos (hint u hu)]
    · rfl
  refine h.mono (fun u => .unaccepted (hint u)) (.of_eq rfl rfl) (fun i u hi => ?_)
    (fun i u => ?_) (fun u m' hm => awaiting_dispatched_of_answered hm) fun u _ hu => ?_
  · exact awaiting_dispatched_of_ne (h.single i u hi) (hsingle i u hi)
  · rw [hstage]
    exact mem_takenOut (h.search i u)
  · rw [hstage, hu]
    rfl

private theorem heard (h : Routing es l) (hstage : (hearing t es).stage = .waiting m.id)
    (hone : ∀ u, (hearing u es).stage = .waiting m.id → u = t)
    (hopen : (hearing t es).isInterrupted = false)
    (hsingle : ∀ i u, (i, u) ∈ l.singles → i ≠ m.id) (hsingles : l'.singles = l.singles)
    (hsearches : l'.searches =
      if m.kind = .done then l.searches.filter (·.1 != m.id) else l.searches)
    (hreplies : ∀ u, l'.reply u = l.reply u)
    (hstream : l'.stream t = { l.stream t with
      phase := if m.kind = .done then .completed else (l.stream t).phase
      queue := (l.stream t).queue ++ [m] })
    (hstreams : ∀ u, u ≠ t → l'.stream u = l.stream u) :
    Routing (es ++ [.dispatched m (some t)]) l' := by
  have hh : ∀ u, u ≠ t → hearing u (es ++ [.dispatched m (some t)]) = hearing u es :=
    fun u hu => hearing_dispatched_of_ne fun hwaits => hu (hone u hwaits)
  have hstages : ∀ u, (hearing u (es ++ [.dispatched m (some t)])).stage =
      if m.kind = .done then
        if (hearing u es).stage = .waiting m.id then .over else (hearing u es).stage
      else (hearing u es).stage := by
    intro u
    by_cases hut : u = t
    · rw [hut, hearing_concat, Hearing.next, if_pos hstage, if_neg (by simp [hopen]), if_pos hstage]
    · rw [hh u hut, if_neg fun hwaits => hut (hone u hwaits), ite_self]
  refine ⟨fun i u hi => ?_, fun i u => ?_, fun u => ?_, fun u m' hm => ?_, fun u => ?_⟩
  · rw [hsingles] at hi
    exact awaiting_dispatched_of_ne (h.single i u hi) (hsingle i u hi)
  · rw [hsearches, hstages]
    split
    · exact mem_takenOut (h.search i u)
    · exact h.search i u
  · rw [hreplies]
    exact h.sound u
  · rw [hreplies] at hm
    exact awaiting_dispatched_of_answered (h.answered u m' hm)
  · by_cases hut : u = t
    · rw [hut]
      exact (h.listens t).heard hstage hopen hstream
    · have hunheard : Unheard u es (es ++ [.dispatched m (some t)]) :=
        .dispatched (fun heq => hut (Option.some.inj heq).symm)
          fun hwaits => absurd (hone u hwaits) hut
      refine (h.listens u).unheard hunheard ?_ ?_ fun _ hover => ?_
      · rw [hstreams u hut]
      · rw [hstreams u hut]
      · rw [hh u hut]
        exact hover

section Dispatch

variable {s : Traffic}

private theorem notMem_of_lookup {id i : MessageId} {table : List (MessageId × Ticket)}
    (h : table.lookup id = none) (hi : (i, t) ∈ table) : i ≠ id := by
  have hne := List.lookup_eq_none_iff.mp h (i, t) hi
  exact Ne.symm (by simpa using hne)

private theorem dispatched_search (h : Routing es s.link) (hr : Requests es s) (hid : m.id ≠ 0)
    (ht : s.link.searches.lookup m.id = some t) :
    Routing (es ++ [.dispatched m (s.link.taker? m)]) (s.link.route m) := by
  have hstage := (h.search m.id t).mp (mem_of_lookup ht)
  obtain ⟨sub, hsub, hop, hsubid⟩ := registered_of_hearing hstage
  have hone : ∀ u, (hearing u es).stage = .waiting m.id → u = t := by
    intro u hu
    obtain ⟨sub', hsub', hop', hsubid'⟩ := registered_of_hearing hu
    rw [hr.eq_of_id hsub' hsub (hsubid'.trans hsubid.symm), hop] at hop'
    cases hop'
    rfl
  have hsingle : ∀ i u, (i, u) ∈ s.link.singles → i ≠ m.id := by
    rintro i u hi rfl
    obtain ⟨sub', hsub', hop', hsubid'⟩ := registered_of_waiting (h.single m.id u hi)
    rw [hr.eq_of_id hsub' hsub (hsubid'.trans hsubid.symm), hop] at hop'
    cases hop'
  have htaker : s.link.taker? m = if ((s.link.stream t).push m).1 then some t else none := by
    rw [taker?, if_neg hid, ht]
    rfl
  cases hint : (hearing t es).isInterrupted with
  | true =>
    have hpush := Stream.push_of_final m (.inr ((h.listens t).interrupted.mpr hint))
    rw [htaker, hpush, if_neg Bool.false_ne_true, route_search ht, hpush, if_pos (.inr rfl)]
    have hrest := h.refused (m := m) (fun u hu => hone u hu ▸ hint) hsingle
    exact hrest.quiet ((quiet_setStream _ t rfl rfl).trans (.of_eq rfl rfl)) rfl rfl
  | false =>
    have hlen : t < s.link.streams.length := by
      refine hr.searchRange t (List.mem_filterMap.mpr ⟨sub, List.mem_append_left _ hsub, ?_⟩)
      rw [search?, hop]
    have hnot : (s.link.stream t).phase ≠ .completed := fun hc => by
      rw [((h.listens t).completed hc).1] at hstage
      cases hstage
    have hopen : (s.link.stream t).phase ≠ .cancelled true := fun hi => by
      rw [(h.listens t).interrupted.mp hi] at hint
      cases hint
    have hpush := Stream.push_of_open m hnot hopen
    rw [htaker, hpush, if_pos rfl, route_search ht, hpush]
    have hset : ∀ u x, (s.link.setStream t x).stream u = if u = t then x else s.link.stream u := by
      intro u x
      rw [stream_setStream]
      simp only [hlen, and_true]
    by_cases hdone : m.kind = .done
    · rw [if_pos (.inl hdone)]
      refine h.heard hstage hone hint hsingle rfl ?_ (fun _ => rfl) ?_ fun u hu => ?_
      · exact (if_pos hdone).symm
      · exact (hset t _).trans (if_pos rfl)
      · exact (hset u _).trans (if_neg hu)
    · rw [if_neg (by simp [hdone])]
      refine h.heard hstage hone hint hsingle rfl ?_ (fun _ => rfl) ?_ fun u hu => ?_
      · exact (if_neg hdone).symm
      · exact (hset t _).trans (if_pos rfl)
      · exact (hset u _).trans (if_neg hu)

/-- A dispatched message goes where the trace lets it be heard. -/
theorem dispatched (h : Routing es s.link) (hr : Requests es s) (m : Message) :
    Routing (es ++ [.dispatched m (s.link.taker? m)]) (s.link.dispatch m).2 := by
  rw [dispatch]
  by_cases hid : m.id = 0
  · have hnone : ∀ u, (hearing u es).stage ≠ .waiting m.id := by
      intro u hu
      obtain ⟨sub, hsub, -, hsubid⟩ := registered_of_hearing hu
      exact hr.id_ne_zero hsub (hsubid.trans hid)
    have hsingle : ∀ i u, (i, u) ∈ s.link.singles → i ≠ m.id := by
      rintro i u hi rfl
      obtain ⟨sub, hsub, -, hsubid⟩ := registered_of_waiting (h.single m.id u hi)
      exact hr.id_ne_zero hsub (hsubid.trans hid)
    rw [taker?, if_pos hid, if_pos hid]
    exact h.ignored hnone hsingle
  · rw [if_neg hid]
    cases hs : s.link.searches.lookup m.id with
    | some t => exact h.dispatched_search hr hid hs
    | none =>
      have hnone : ∀ u, (hearing u es).stage ≠ .waiting m.id :=
        fun u hu => notMem_of_lookup hs ((h.search m.id u).mpr hu) rfl
      rw [taker?, if_neg hid, hs, Option.filter_none]
      cases ht : s.link.singles.lookup m.id with
      | some t =>
        rw [route_single hs ht]
        exact (h.delivered_single hnone (mem_of_lookup ht)).quiet (.of_eq rfl rfl) rfl rfl
      | none =>
        rw [route_none hs ht]
        exact h.ignored hnone fun i u hi => notMem_of_lookup ht hi

end Dispatch

end Routing

end Link

end DirectoryClient
