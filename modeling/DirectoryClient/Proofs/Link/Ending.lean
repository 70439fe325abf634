import DirectoryClient.Proofs.Link.Attending

/-! The end of a driver: left to itself it leaves the transport as one that ends at once, and a line
that nobody serves refuses requests and keeps no ids. -/
namespace DirectoryClient

namespace MessageIds

variable {ids ids' : MessageIds} {id : MessageId}

private theorem notMem_of_firstFree {tries : Nat} {candidate : MessageId}
    (h : ids.firstFree? tries candidate = some id) : id ∉ ids.used := by
  induction tries generalizing candidate with
  | zero => cases h
  | succ tries ih =>
    rw [firstFree?] at h
    split at h
    · rename_i hfree
      cases h
      exact hfree
    · split at h
      · cases h
      · exact ih h

/-- An id that is taken was free. -/
theorem used_of_next (h : ids.next = .ok (id, ids')) :
    id ∉ ids.used ∧ ids'.used = insertInto id ids.used := by
  rw [next] at h
  split at h
  · rename_i hfree
    cases h
    exact ⟨notMem_of_firstFree hfree, rfl⟩
  · cases h

private theorem filter_insertInto {is : List MessageId} (h : id ∉ is) :
    (insertInto id is).filter (· ≠ id) = is := by
  induction is with
  | nil => simp [insertInto]
  | cons i is ih =>
    have hne : i ≠ id := fun hi => h (hi ▸ List.mem_cons_self)
    have his : id ∉ is := fun hi => h (List.mem_cons_of_mem _ hi)
    have hkept : (i :: is).filter (· ≠ id) = i :: is :=
      List.filter_eq_self.mpr fun j hj => by simpa using ne_of_mem_of_not_mem hj h
    rw [insertInto]
    split
    · rw [List.filter_cons_of_neg (by simp)]
      exact hkept
    · rw [if_neg (Ne.symm hne), List.filter_cons_of_pos (by simpa using hne), ih his]

end MessageIds

namespace Link

structure Refuses (l : Link) : Prop where
  send : ∀ s, (l.send s).1 = .error .connectionClosed ∧ s.id ∉ (l.send s).2.line.ids.used
  sendSingle : ∀ id element controls,
    (l.sendSingle id element controls).1 = .error .connectionClosed ∧
      id ∉ (l.sendSingle id element controls).2.line.ids.used
  sendSearch : ∀ id element controls,
    (l.sendSearch id element controls).1 = .error .connectionClosed ∧
      id ∉ (l.sendSearch id element controls).2.line.ids.used
  /-- The ids in use are those before the id of the request was taken. -/
  keeps : ∀ id l', l.nextId = (.ok id, l') → ∀ s, s.id = id →
    (l'.send s).2.line.ids.used = l.line.ids.used
  abandon : ∀ target, (l.abandon target).2.line.ids.used = l.line.ids.used ∧
    ∀ id l', l.nextId = (.ok id, l') → (l.abandon target).1 = .error .connectionClosed

variable {l : Link}

private theorem send_of_closed {line : Line} (h : line.isOpen = false) (s : Submission) :
    line.send s = (.error .connectionClosed, line.release s.id) := by
  rw [Line.send, h]
  rfl

private theorem used_of_nextId {line line' : Line} {id : MessageId}
    (h : line.nextId = (.ok id, line')) :
    (line'.ids.release id).used = line.ids.used ∧ line'.isOpen = line.isOpen := by
  rw [Line.nextId] at h
  split at h
  · rename_i hnext
    cases h
    obtain ⟨hfree, hused⟩ := MessageIds.used_of_next hnext
    rw [MessageIds.release, hused]
    exact ⟨MessageIds.filter_insertInto hfree, rfl⟩
  · cases h

theorem refuses_of_closed (h : l.line.isOpen = false) : l.Refuses where
  send s := by
    rw [send, send_of_closed h]
    exact ⟨rfl, fun hid => (MessageIds.mem_release.mp hid).2 rfl⟩
  sendSingle id element controls := by
    simp only [sendSingle, send, send_of_closed h]
    exact ⟨rfl, fun hid => (MessageIds.mem_release.mp hid).2 rfl⟩
  sendSearch id element controls := by
    simp only [sendSearch, send, send_of_closed h]
    exact ⟨rfl, fun hid => (MessageIds.mem_release.mp hid).2 rfl⟩
  keeps id l' hnext s hs := by
    rcases hline : l.line.nextId with ⟨o, line⟩
    rw [nextId, hline] at hnext
    cases hnext
    obtain ⟨hused, hopen⟩ := used_of_nextId hline
    rw [send, send_of_closed (hopen.trans h), hs]
    exact hused
  abandon target := by
    rcases hline : l.line.nextId with ⟨_ | id, line⟩
    · have hsame : line = l.line := by
        rw [Line.nextId] at hline
        split at hline <;> cases hline
        rfl
      refine ⟨?_, fun id l' hnext => ?_⟩
      · rw [abandon, Line.abandon, hline, hsame]
      · rw [nextId, hline] at hnext
        cases hnext
    · obtain ⟨hused, hopen⟩ := used_of_nextId hline
      have heq : l.line.abandon target = (.error .connectionClosed, line.release id) := by
        rw [Line.abandon, hline]
        exact send_of_closed (hopen.trans h) _
      rw [abandon, heq]
      exact ⟨hused, fun _ _ _ => rfl⟩

section Finish

/-- Those who wait are let down whatever is queued or registered meanwhile. -/
private theorem closeAll_frame (os : List Operation) (l : Link) (line : Line) (isUp : Bool)
    (singles searches : List (MessageId × Ticket)) :
    os.foldl (fun l o => l.close o) { l with line, isUp, singles, searches } =
      { os.foldl (fun l o => l.close o) l with line, isUp, singles, searches } := by
  induction os generalizing l with
  | nil => rfl
  | cons o os ih =>
    have hclose : ({ l with line, isUp, singles, searches } : Link).close o =
        { l.close o with line, isUp, singles, searches } := by cases o <;> rfl
    rw [List.foldl_cons, hclose, ih (l.close o), List.foldl_cons]

private def waiting (l : Link) : List Operation :=
  l.line.queue.map Submission.operation ++ l.singles.map (.single ·.2) ++
    l.searches.map (.search ·.2)

private theorem finish_eq (l : Link) : l.finish =
    { l.waiting.foldl (fun l o => l.close o) l with
      line := { l.line with queue := [], isOpen := false }
      isUp := false
      singles := []
      searches := [] } := by
  have hline : (l.waiting.foldl (fun l o => l.close o) l).line = l.line :=
    congrArg (·.2.2) (l.tables_closeAll l.waiting)
  rw [← hline]
  rfl

/-- It makes no difference to the end of a driver that some of those who wait are let down before. -/
private theorem finish_close {l' : Link} {o : Operation} (hl : l.waiting = o :: l'.waiting)
    (hids : l'.line.ids = l.line.ids) (h : l' = { l.close o with
      line := l'.line, isUp := l'.isUp, singles := l'.singles, searches := l'.searches }) :
    l'.finish = l.finish := by
  have hline : ({ l'.line with queue := [], isOpen := false } : Line) =
      { l.line with queue := [], isOpen := false } :=
    congrArg (fun ids => ({ ids, queue := [], isOpen := false } : Line)) hids
  rw [finish_eq l, finish_eq l', hl, List.foldl_cons, hline]
  rw [congrArg (fun x => l'.waiting.foldl (fun l o => l.close o) x) h, closeAll_frame]

variable {table : List (MessageId × Ticket)} {id : MessageId} {t : Ticket}

private theorem filter_head (h : (((id, t) :: table).map Prod.fst).Nodup) :
    ((id, t) :: table).filter (·.1 != id) = table := by
  rw [List.map_cons, List.nodup_cons] at h
  rw [List.filter_cons_of_neg (by simp), List.filter_eq_self]
  intro p hp
  have hne : p.1 ≠ id := fun hid => h.1 (List.mem_map.mpr ⟨p, hp, hid⟩)
  simpa using hne

private theorem concludeSingle_head (h : l.Keyed) (ht : l.singles = (id, t) :: table)
    (o : Outcome Message) : l.concludeSingle id o = { l.deliver t o with singles := table } := by
  have hkeyed := h.singles
  rw [ht] at hkeyed
  rw [concludeSingle, takeOut, ht, List.lookup_cons_self, filter_head hkeyed]
  rfl

private theorem concludeSearch_head (h : l.Keyed) (ht : l.searches = (id, t) :: table)
    (e : DirectoryError) :
    l.concludeSearch id e = { l.failSearch t e with searches := table } := by
  have hkeyed := h.searches
  rw [ht] at hkeyed
  rw [concludeSearch, takeOut, ht, List.lookup_cons_self, filter_head hkeyed]
  rfl

private theorem finish_letDown {s : Submission} {queue : List Submission}
    (h : l.line.queue = s :: queue) :
    (({ l with line := { l.line with queue } } : Link).close s.operation).finish = l.finish := by
  have htables := tables_close { l with line := { l.line with queue } } s.operation
  obtain ⟨hsingles, hsearches, hline⟩ := tables_eq_iff.mp htables
  have hids := congrArg Line.ids hline
  refine finish_close (l := l) (o := s.operation) ?_ hids ?_
  · rw [waiting, waiting, hsingles, hsearches, hline, h]
    rfl
  · cases s.operation <;> rfl

private theorem finish_concludeSingle (h : l.Keyed) (hqueue : l.line.queue = [])
    (ht : l.singles = (id, t) :: table) :
    (l.concludeSingle id (.error .connectionClosed)).finish = l.finish := by
  rw [concludeSingle_head h ht]
  refine finish_close (o := .single t) ?_ rfl rfl
  change l.waiting = .single t :: (l.line.queue.map Submission.operation ++
    table.map (.single ·.2) ++ l.searches.map (.search ·.2))
  rw [waiting, ht, hqueue]
  rfl

private theorem finish_concludeSearch (h : l.Keyed) (hqueue : l.line.queue = [])
    (hsingles : l.singles = []) (ht : l.searches = (id, t) :: table) :
    (l.concludeSearch id .connectionClosed).finish = l.finish := by
  rw [concludeSearch_head h ht]
  refine finish_close (o := .search t) ?_ rfl rfl
  change l.waiting = .search t :: (l.line.queue.map Submission.operation ++
    l.singles.map (.single ·.2) ++ table.map (.search ·.2))
  rw [waiting, ht, hqueue, hsingles]
  rfl

private theorem finish_self (hup : l.isUp = false) (hopen : l.line.isOpen = false)
    (hqueue : l.line.queue = []) (hsingles : l.singles = []) (hsearches : l.searches = []) :
    l.finish = l := by
  rcases l with ⟨⟨ids, queue, isOpen⟩, isUp, singles, searches, replies, streams, inbound⟩
  cases hup
  cases hopen
  cases hqueue
  cases hsingles
  cases hsearches
  rfl

private theorem finish_shut (isUp : Bool) :
    ({ l with isUp, line := l.line.close } : Link).finish = l.finish := by
  rw [finish_eq, finish_eq l]
  have hframe := closeAll_frame l.waiting l l.line.close isUp l.singles l.searches
  rw [show waiting { l with isUp, line := l.line.close } = l.waiting from rfl, hframe]
  rfl

end Finish

end Link

namespace Driver

variable {d d' : Driver}

private structure Drains (d d' : Driver) : Prop where
  run : Run d d'
  position : d'.position = .draining
  keyed : d'.link.Keyed
  isUp : d'.link.isUp = false
  isOpen : d'.link.line.isOpen = false
  finish : d'.link.finish = d.link.finish

private theorem Drains.step (h : Drains d d') {l : Link}
    (hstep : Step d' { d' with link := l }) (hk : l.Keyed) (hup : l.isUp = false)
    (hopen : l.line.isOpen = false) (hl : l.finish = d'.link.finish) :
    Drains d { d' with link := l } :=
  ⟨h.run.step hstep, h.position, hk, hup, hopen, hl.trans h.finish⟩

/-- First those whose requests are still queued are let down, -/
private theorem drains_queue (h : Drains d d') :
    ∃ d', Drains d d' ∧ d'.link.line.queue = [] := by
  generalize hqueue : d'.link.line.queue = queue
  induction queue generalizing d' with
  | nil => exact ⟨d', h, hqueue⟩
  | cons s queue ih =>
    have htables := Link.tables_close { d'.link with line := { d'.link.line with queue } } s.operation
    have hup := (Link.untouched_close { d'.link with line := { d'.link.line with queue } }
      s.operation).isUp
    obtain ⟨hsingles, hsearches, hline⟩ := Link.tables_eq_iff.mp htables
    refine ih (h.step (.letDown h.position hqueue) ⟨?_, ?_⟩ (hup.trans h.isUp) ?_
      (Link.finish_letDown hqueue)) (congrArg Line.queue hline)
    · rw [hsingles]
      exact h.keyed.singles
    · rw [hsearches]
      exact h.keyed.searches
    · rw [hline]
      exact h.isOpen

/-- then those who wait for one response, -/
private theorem drains_singles (h : Drains d d') (hqueue : d'.link.line.queue = []) :
    ∃ d', Drains d d' ∧ d'.link.line.queue = [] ∧ d'.link.singles = [] := by
  generalize hsingles : d'.link.singles = table
  induction table generalizing d' with
  | nil => exact ⟨d', h, hqueue, hsingles⟩
  | cons p table ih =>
    obtain ⟨id, t⟩ := p
    have heq := Link.concludeSingle_head h.keyed hsingles (.error .connectionClosed)
    refine ih (h.step (.letDownSingle h.position hqueue (hsingles ▸ List.mem_cons_self))
      (h.keyed.concludeSingle id _) ?_ ?_ (Link.finish_concludeSingle h.keyed hqueue hsingles)) ?_ ?_
    all_goals rw [heq]
    · exact h.isUp
    · exact h.isOpen
    · exact hqueue

/-- and then the searches. -/
private theorem drains_searches (h : Drains d d') (hqueue : d'.link.line.queue = [])
    (hsingles : d'.link.singles = []) :
    ∃ d', Drains d d' ∧ d'.link.line.queue = [] ∧ d'.link.singles = [] ∧ d'.link.searches = [] := by
  generalize hsearches : d'.link.searches = table
  induction table generalizing d' with
  | nil => exact ⟨d', h, hqueue, hsingles, hsearches⟩
  | cons p table ih =>
    obtain ⟨id, t⟩ := p
    have heq := Link.concludeSearch_head h.keyed hsearches .connectionClosed
    refine ih (h.step (.letDownSearch h.position hqueue hsingles (hsearches ▸ List.mem_cons_self))
      (h.keyed.concludeSearch id _) ?_ ?_
      (Link.finish_concludeSearch h.keyed hqueue hsingles hsearches)) ?_ ?_ ?_
    all_goals rw [heq]
    · exact h.isUp
    · exact h.isOpen
    · exact hqueue
    · exact hsingles

/-- Left to itself, a driver that has left its loop ends, with the transport as one that ends at once. -/
theorem run_finish (hp : d.position = .leaving) (hk : d.link.Keyed) :
    ∃ d', Run d d' ∧ d'.position = .ended ∧ d'.link = d.link.finish := by
  have hshut : Drains d { d with
      link := { d.link with isUp := false, line := d.link.line.close }, position := .draining } :=
    ⟨(Run.start.step (.part hp)).step (.shut rfl), rfl, ⟨hk.singles, hk.searches⟩, rfl, rfl,
      Link.finish_shut false⟩
  obtain ⟨d₁, h₁, hqueue₁⟩ := drains_queue hshut
  obtain ⟨d₂, h₂, hqueue₂, hsingles₂⟩ := drains_singles h₁ hqueue₁
  obtain ⟨d₃, h₃, hqueue, hsingles, hsearches⟩ := drains_searches h₂ hqueue₂ hsingles₂
  refine ⟨_, h₃.run.step (.finish h₃.position hqueue hsingles hsearches), rfl, ?_⟩
  rw [← h₃.finish]
  exact (Link.finish_self h₃.isUp h₃.isOpen hqueue hsingles hsearches).symm

end Driver

end DirectoryClient
