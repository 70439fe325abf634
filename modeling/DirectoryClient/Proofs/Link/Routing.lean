import DirectoryClient.Proofs.Link.Requests

/-! The tables of a driver agree with the trace: who is in a table waits under that id, and what has
come into a slot is what the trace lets it hear. -/
namespace DirectoryClient.Link

structure Listens (es : List Event) (l : Link) (t : Ticket) : Prop where
  interrupted : (l.stream t).phase = .cancelled true ↔ (hearing t es).isInterrupted = true
  completed : (l.stream t).phase = .completed → (hearing t es).stage = .over ∧
    ∃ s ∈ registrations es, s.operation = .search t
  accepted : acceptedBy t es = (hearing t es).heard
  delivered : (hearing t es).isInterrupted = false →
    readBy t es ++ (l.stream t).queue = (hearing t es).heard
  dropped : readBy t es <+: (hearing t es).heard

structure Routing (es : List Event) (l : Link) : Prop where
  single : ∀ id t, (id, t) ∈ l.singles → awaiting t es = .waiting id
  search : ∀ id t, (id, t) ∈ l.searches ↔ (hearing t es).stage = .waiting id
  sound : ∀ t, (l.reply t).Sound
  answered : ∀ t m, (l.reply t).outcome = some (.ok m) → awaiting t es = .answered m
  listens : ∀ t, Listens es l t

structure Unheard (t : Ticket) (es es' : List Event) : Prop where
  heard : (hearing t es').heard = (hearing t es).heard
  isInterrupted : (hearing t es').isInterrupted = (hearing t es).isInterrupted
  accepted : acceptedBy t es' = acceptedBy t es
  read : readBy t es' = readBy t es
  registrations : ∀ s ∈ registrations es, s ∈ registrations es'

namespace Unheard

variable (t : Ticket) (es : List Event)

theorem refl : Unheard t es es :=
  ⟨rfl, rfl, rfl, rfl, fun _ h => h⟩

private theorem concat {e : Event}
    (h : ((hearing t es).next t e).heard = (hearing t es).heard ∧
      ((hearing t es).next t e).isInterrupted = (hearing t es).isInterrupted)
    (ha : acceptedBy t [e] = []) (hr : readBy t [e] = []) : Unheard t es (es ++ [e]) := by
  refine ⟨?_, ?_, ?_, ?_, fun s hs => ?_⟩
  · rw [hearing_concat]
    exact h.1
  · rw [hearing_concat]
    exact h.2
  · rw [acceptedBy_append, ha, List.append_nil]
  · rw [readBy_append, hr, List.append_nil]
  · rw [registrations_append]
    exact List.mem_append_left _ hs

theorem allocated (id : MessageId) : Unheard t es (es ++ [.allocated id]) :=
  concat t es ⟨rfl, rfl⟩ rfl rfl

theorem registered (s : Submission) : Unheard t es (es ++ [.registered s]) := by
  refine concat t es ?_ rfl rfl
  rw [Hearing.next.eq_def]
  dsimp only
  split
  · split <;> exact ⟨rfl, rfl⟩
  · split <;> exact ⟨rfl, rfl⟩
  · exact ⟨rfl, rfl⟩

theorem exited : Unheard t es (es ++ [.exited]) :=
  concat t es ⟨rfl, rfl⟩ rfl rfl

variable {t es} {m : Message} {u : Ticket}

/-- A message is heard by none but the search that accepts it, unless another still waits for it. -/
theorem dispatched {taker : Option Ticket} (htaker : taker ≠ some t)
    (h : (hearing t es).stage = .waiting m.id → (hearing t es).isInterrupted = true) :
    Unheard t es (es ++ [.dispatched m taker]) := by
  refine concat t es ?_ (by simp [acceptedBy, htaker]) rfl
  rw [Hearing.next]
  split
  · rename_i hstage
    rw [if_pos (h hstage)]
    exact ⟨rfl, rfl⟩
  · exact ⟨rfl, rfl⟩

theorem unaccepted
    (h : (hearing t es).stage = .waiting m.id → (hearing t es).isInterrupted = true) :
    Unheard t es (es ++ [.dispatched m none]) :=
  dispatched (Option.some_ne_none t).symm h

theorem read_elsewhere (h : u ≠ t) : Unheard t es (es ++ [.read u m]) :=
  concat t es ⟨rfl, rfl⟩ rfl (by simp [readBy, h])

theorem interrupted_elsewhere (h : u ≠ t) : Unheard t es (es ++ [.interrupted u]) := by
  refine concat t es ?_ rfl rfl
  rw [Hearing.next, if_neg h]
  exact ⟨rfl, rfl⟩

end Unheard

section Tables

variable {table : List (MessageId × Ticket)} {stage : Stage} {id i : MessageId} {t : Ticket}

/-- Who is taken out of a table is over. -/
theorem mem_takenOut (h : (i, t) ∈ table ↔ stage = .waiting i) :
    (i, t) ∈ table.filter (·.1 != id) ↔
      (if stage = .waiting id then Stage.over else stage) = .waiting i := by
  rw [List.mem_filter, h]
  split
  · rename_i hstage
    rw [hstage]
    constructor
    · rintro ⟨heq, hne⟩
      cases heq
      simp at hne
    · intro h
      cases h
  · rename_i hstage
    refine ⟨fun hi => hi.1, fun hi => ⟨hi, ?_⟩⟩
    have hne : i ≠ id := fun heq => hstage (heq ▸ hi)
    simpa using hne

end Tables

/-- A slot at which nothing is heard stays in agreement as it is. -/
theorem Listens.unheard {es es' : List Event} {l l' : Link} {t : Ticket} (h : Listens es l t)
    (hu : Unheard t es es') (hphase : (l'.stream t).phase = (l.stream t).phase)
    (hqueue : (l'.stream t).queue = (l.stream t).queue)
    (hover : (∃ s ∈ registrations es, s.operation = .search t) → (hearing t es).stage = .over →
      (hearing t es').stage = .over) : Listens es' l' t where
  interrupted := by
    rw [hphase, hu.isInterrupted]
    exact h.interrupted
  completed ht := by
    rw [hphase] at ht
    obtain ⟨hstage, s, hs, hop⟩ := h.completed ht
    exact ⟨hover ⟨s, hs, hop⟩ hstage, s, hu.registrations s hs, hop⟩
  accepted := by
    rw [hu.accepted, hu.heard]
    exact h.accepted
  delivered ht := by
    rw [hu.isInterrupted] at ht
    rw [hu.read, hqueue, hu.heard]
    exact h.delivered ht
  dropped := by
    rw [hu.read, hu.heard]
    exact h.dropped

namespace Routing

variable {es es' : List Event} {l l' : Link}

theorem start : Routing [] {} where
  single _ _ h := by cases h
  search _ _ := ⟨nofun, nofun⟩
  sound _ _ := rfl
  answered _ _ h := by cases h
  listens _ :=
    { interrupted := ⟨nofun, nofun⟩
      completed := nofun
      accepted := rfl
      delivered := fun _ => rfl
      dropped := List.nil_prefix }

/-- A step in which no search hears anything and no response is delivered has only the tables to care
for. -/
theorem mono (h : Routing es l) (hu : ∀ t, Unheard t es es') (hq : l.Quiet l')
    (hsingle : ∀ id t, (id, t) ∈ l'.singles → awaiting t es' = .waiting id)
    (hsearch : ∀ id t, (id, t) ∈ l'.searches ↔ (hearing t es').stage = .waiting id)
    (hanswered : ∀ t m, awaiting t es = .answered m → awaiting t es' = .answered m)
    (hover : ∀ t, (∃ s ∈ registrations es, s.operation = .search t) →
      (hearing t es).stage = .over → (hearing t es').stage = .over) : Routing es' l' where
  single := hsingle
  search := hsearch
  sound t := (hq.reply t).sound (h.sound t)
  answered t m hm := hanswered t m (h.answered t m ((hq.reply t).message m hm))
  listens t := (h.listens t).unheard (hu t) (hq.phase t) (hq.queue t) (hover t)

/-- A step that is not seen, and leaves the tables. -/
theorem quiet (h : Routing es l) (hq : l.Quiet l') (hsingles : l'.singles = l.singles)
    (hsearches : l'.searches = l.searches) : Routing es l' := by
  refine h.mono (.refl · es) hq ?_ ?_ (fun _ _ ha => ha) fun _ _ ho => ho
  · rw [hsingles]
    exact h.single
  · rw [hsearches]
    exact h.search

/-- Nobody cares for an id before it is used. -/
theorem allocated (h : Routing es l) (id : MessageId) : Routing (es ++ [.allocated id]) l := by
  have ha : ∀ t, awaiting t (es ++ [.allocated id]) = awaiting t es := fun t => awaiting_concat ..
  have hh : ∀ t, hearing t (es ++ [.allocated id]) = hearing t es := fun t => hearing_concat ..
  refine h.mono (.allocated · es id) (.refl l) (fun i t hi => ?_) (fun i t => ?_) (fun t m hm => ?_)
    fun t _ ho => ?_
  · rw [ha]
    exact h.single i t hi
  · rw [hh]
    exact h.search i t
  · rw [ha, hm]
  · rw [hh, ho]

/-- Nobody waits for anything once the driver has ended. -/
theorem exited (h : Routing es l) : Routing (es ++ [.exited]) l.finish := by
  have hsingles : l.finish.singles = [] := congrArg (·.1) l.tables_finish
  have hsearches : l.finish.searches = [] := congrArg (·.2.1) l.tables_finish
  have ha : ∀ t, awaiting t (es ++ [.exited]) = awaiting t es := fun t => awaiting_concat ..
  have hover : ∀ t, (hearing t (es ++ [.exited])).stage = .over := by
    intro t
    rw [hearing_concat]
    rfl
  refine h.mono (.exited · es) l.quiet_finish (fun i t hi => ?_) (fun i t => ?_) (fun t m hm => ?_)
    fun t _ _ => hover t
  · rw [hsingles] at hi
    cases hi
  · rw [hsearches, hover]
    exact ⟨nofun, nofun⟩
  · rw [ha, hm]

section Registered

variable {sub : Submission} {t : Ticket}

private theorem registered_single (h : Routing es l) (hop : sub.operation = .single t)
    (hnew : ∀ s ∈ registrations es, s.operation ≠ .single t) :
    Routing (es ++ [.registered sub]) (l.awaitSingle sub.id t) := by
  have hsingles : (l.awaitSingle sub.id t).singles =
      (sub.id, t) :: l.singles.filter (·.1 != sub.id) :=
    congrArg (·.1) (l.tables_awaitSingle t sub.id)
  have hsearches : (l.awaitSingle sub.id t).searches = l.searches :=
    congrArg (·.2.1) (l.tables_awaitSingle t sub.id)
  have ha : ∀ u, awaiting u (es ++ [.registered sub]) =
      if t = u then .waiting sub.id else awaiting u es := by
    intro u
    rw [awaiting_concat, Awaiting.next, hop]
    simp only [Operation.single.injEq]
  have hh : ∀ u, hearing u (es ++ [.registered sub]) = hearing u es := by
    intro u
    rw [hearing_concat, Hearing.next, hop]
  refine h.mono (.registered · es sub) (l.quiet_awaitSingle t sub.id) (fun i u hi => ?_)
    (fun i u => ?_) (fun u m hm => ?_) fun u _ ho => ?_
  · rw [hsingles] at hi
    rw [ha]
    rcases List.mem_cons.mp hi with heq | hold
    · cases heq
      exact if_pos rfl
    · have hwaits := h.single i u (List.mem_filter.mp hold).1
      obtain ⟨s, hs, hsingle, -⟩ := registered_of_waiting hwaits
      rw [if_neg fun htu : t = u => hnew s hs (htu ▸ hsingle)]
      exact hwaits
  · rw [hh, hsearches]
    exact h.search i u
  · obtain ⟨s, hs, hsingle⟩ := registered_of_answered hm
    rw [ha, if_neg fun htu : t = u => hnew s hs (htu ▸ hsingle)]
    exact hm
  · rw [hh]
    exact ho

private theorem registered_search (h : Routing es l) (hop : sub.operation = .search t)
    (hid : ∀ s ∈ registrations es, s.id ≠ sub.id)
    (hnew : ∀ s ∈ registrations es, s.operation ≠ .search t) :
    Routing (es ++ [.registered sub]) (l.awaitSearch sub.id t) := by
  have hsingles : (l.awaitSearch sub.id t).singles = l.singles :=
    congrArg (·.1) (l.tables_awaitSearch t sub.id)
  have hsearches : (l.awaitSearch sub.id t).searches =
      (sub.id, t) :: l.searches.filter (·.1 != sub.id) :=
    congrArg (·.2.1) (l.tables_awaitSearch t sub.id)
  have ha : ∀ u, awaiting u (es ++ [.registered sub]) = awaiting u es := by
    intro u
    rw [awaiting_concat, Awaiting.next, hop]
    rfl
  have hh : ∀ u, hearing u (es ++ [.registered sub]) =
      if t = u then { hearing u es with stage := .waiting sub.id } else hearing u es := by
    intro u
    rw [hearing_concat, Hearing.next, hop]
  have hold : ∀ i u, (hearing u es).stage = .waiting i → t ≠ u ∧ i ≠ sub.id := by
    intro i u hu
    obtain ⟨s, hs, hsearch, rfl⟩ := registered_of_hearing hu
    exact ⟨fun htu => hnew s hs (htu ▸ hsearch), hid s hs⟩
  refine h.mono (.registered · es sub) (l.quiet_awaitSearch t sub.id) (fun i u hi => ?_)
    (fun i u => ?_) (fun u m hm => ?_) fun u hu ho => ?_
  · rw [hsingles] at hi
    rw [ha]
    exact h.single i u hi
  · rw [hh, hsearches, List.mem_cons, List.mem_filter, h.search]
    by_cases htu : t = u
    · subst htu
      rw [if_pos rfl]
      constructor
      · rintro (heq | ⟨hu, -⟩)
        · cases heq
          rfl
        · exact absurd rfl (hold i t hu).1
      · intro hu
        cases hu
        exact .inl rfl
    · rw [if_neg htu]
      constructor
      · rintro (heq | ⟨hu, -⟩)
        · cases heq
          exact absurd rfl htu
        · exact hu
      · exact fun hu => .inr ⟨hu, by simpa using (hold i u hu).2⟩
  · rw [ha]
    exact hm
  · obtain ⟨s, hs, hsearch⟩ := hu
    rw [hh, if_neg fun htu : t = u => hnew s hs (htu ▸ hsearch)]
    exact ho

private theorem registered_abandon (h : Routing es l) {target : MessageId}
    (hop : sub.operation = .abandon target) :
    Routing (es ++ [.registered sub]) (l.giveUp target) := by
  have hsingles : (l.giveUp target).singles = l.singles.filter (·.1 != target) :=
    congrArg (·.1) (l.tables_giveUp target)
  have hsearches : (l.giveUp target).searches = l.searches.filter (·.1 != target) :=
    congrArg (·.2.1) (l.tables_giveUp target)
  have ha : ∀ u, awaiting u (es ++ [.registered sub]) = awaiting u es := by
    intro u
    rw [awaiting_concat, Awaiting.next, hop]
    rfl
  have hh : ∀ u, hearing u (es ++ [.registered sub]) =
      if (hearing u es).stage = .waiting target then { hearing u es with stage := .over }
      else hearing u es := by
    intro u
    rw [hearing_concat, Hearing.next, hop]
  refine h.mono (.registered · es sub) (l.quiet_giveUp target) (fun i u hi => ?_)
    (fun i u => ?_) (fun u m hm => ?_) fun u hu ho => ?_
  · rw [hsingles] at hi
    rw [ha]
    exact h.single i u (List.mem_filter.mp hi).1
  · rw [hh, hsearches, apply_ite Hearing.stage]
    exact mem_takenOut (h.search i u)
  · rw [ha]
    exact hm
  · rw [hh, if_neg (by simp [ho])]
    exact ho

private theorem registered_unbind (h : Routing es l) (hop : sub.operation = .unbind) :
    Routing (es ++ [.registered sub]) l := by
  have ha : ∀ u, awaiting u (es ++ [.registered sub]) = awaiting u es := by
    intro u
    rw [awaiting_concat, Awaiting.next, hop]
    rfl
  have hh : ∀ u, hearing u (es ++ [.registered sub]) = hearing u es := by
    intro u
    rw [hearing_concat, Hearing.next, hop]
  refine h.mono (.registered · es sub) (.refl l) (fun i u hi => ?_) (fun i u => ?_)
    (fun u m hm => ?_) fun u _ ho => ?_
  · rw [ha]
    exact h.single i u hi
  · rw [hh]
    exact h.search i u
  · rw [ha]
    exact hm
  · rw [hh]
    exact ho

/-- From its registration on, a request waits under its id. -/
theorem registered {s : Traffic} {l : Link} (h : Routing es s.link) (hr : Requests es s)
    (ht : s.link.transmit? = some (sub, l)) : Routing (es ++ [.registered sub]) l := by
  obtain ⟨queue, hqueue, rfl⟩ := queue_of_transmit ht
  have hrest : Routing es { s.link with line := { s.link.line with queue } } :=
    h.quiet (.of_eq rfl rfl) rfl rfl
  rw [register]
  cases hop : sub.operation with
  | single t => exact registered_single hrest hop (hr.single_next hqueue hop)
  | search t =>
    exact registered_search hrest hop (fun _ hs => hr.id_ne_next hqueue hs)
      (hr.search_next hqueue hop)
  | abandon target => exact (registered_abandon hrest hop).quiet (.of_eq rfl rfl) rfl rfl
  | unbind => exact registered_unbind hrest hop

end Registered

end Routing

end DirectoryClient.Link
