import DirectoryClient.Proofs.Link.Ending

/-! The books of a transport: which ids were taken, for which requests, and where these are. -/
namespace DirectoryClient

namespace Link

section Tables

variable (l : Link) (id : MessageId)

/-- A request to give up another frees the ids of both at once. -/
theorem tables_register (s : Submission) : (l.register s).tables =
    match s.operation with
    | .single t => ((s.id, t) :: l.singles.filter (·.1 != s.id), l.searches, l.line)
    | .search t => (l.singles, (s.id, t) :: l.searches.filter (·.1 != s.id), l.line)
    | .abandon target => (l.singles.filter (·.1 != target), l.searches.filter (·.1 != target),
        (l.line.release target).release s.id)
    | .unbind => l.tables := by
  rw [register]
  cases s.operation with
  | single t => exact l.tables_awaitSingle t s.id
  | search t => exact l.tables_awaitSearch t s.id
  | abandon target =>
    have htables := l.tables_giveUp target
    obtain ⟨hsingles, hsearches, hline⟩ := tables_eq_iff.mp htables
    simp only [tables, release, hsingles, hsearches, hline]
  | unbind => rfl

private theorem tables_concludeSingle (o : Outcome Message) :
    (l.concludeSingle id o).tables = (l.singles.filter (·.1 != id), l.searches, l.line) := by
  rw [concludeSingle]
  cases l.singles.lookup id <;> rfl

private theorem tables_concludeSearch (e : DirectoryError) :
    (l.concludeSearch id e).tables = (l.singles, l.searches.filter (·.1 != id), l.line) := by
  rw [concludeSearch]
  cases l.searches.lookup id <;> rfl

/-- A message ends the operation under its id, and frees the id, or changes no table and no id. -/
private theorem tables_dispatch (m : Message) :
    (l.dispatch m).2.tables = l.tables ∨ (∃ t, (m.id, t) ∈ l.searches) ∧ (l.dispatch m).2.tables =
      (l.singles, l.searches.filter (·.1 != m.id), l.line.release m.id) ∨
    (∃ t, (m.id, t) ∈ l.singles) ∧ (l.dispatch m).2.tables =
      (l.singles.filter (·.1 != m.id), l.searches, l.line.release m.id) := by
  rw [dispatch]
  split
  · exact .inl rfl
  cases hs : l.searches.lookup m.id with
  | some t =>
    rw [route_search hs]
    split
    · exact .inr (.inl ⟨⟨t, mem_of_lookup hs⟩, rfl⟩)
    · exact .inl rfl
  | none =>
    cases h : l.singles.lookup m.id with
    | some t =>
      rw [route_single hs h]
      exact .inr (.inr ⟨⟨t, mem_of_lookup h⟩, rfl⟩)
    | none =>
      rw [route_none hs h]
      exact .inl rfl

end Tables

/-- Taking an id changes the ids alone. -/
theorem exists_next {l l' : Link} {id : MessageId} (h : l.nextId = (.ok id, l')) :
    ∃ ids, l.line.ids.next = .ok (id, ids) ∧ l' = { l with line := { l.line with ids } } := by
  rw [nextId, Line.nextId] at h
  cases hnext : l.line.ids.next with
  | error e =>
    rw [hnext] at h
    cases h
  | ok x =>
    rw [hnext] at h
    cases h
    exact ⟨x.2, rfl, rfl⟩

end Link

namespace Driver

/-- A transport with its driver, the ids that were taken for requests not sent yet, and how many ids
were taken in all. -/
structure Books where
  driver : Driver := {}
  inHand : List MessageId := []
  count : Nat := 0

namespace Books

/-- What changes the books. An id is taken for one request, and a request to give up another names one
that was sent before. -/
inductive Entry : Books → Books → Prop
  | allocate {b : Books} {id : MessageId} {l : Link} : b.driver.link.nextId = (.ok id, l) →
    Entry b { driver := { b.driver with link := l }, inHand := id :: b.inHand, count := b.count + 1 }
  | send {b : Books} {s : Submission} {d : Driver} : Use b.driver d →
    d.link.line = (b.driver.link.line.send s).2 → d.sent = b.driver.taken s → s.id ∈ b.inHand →
    (∀ target, s.operation = .abandon target → b.driver.link.line.isOpen = true →
      target ∈ b.driver.sent.map Submission.id) →
    Entry b { b with driver := d, inHand := b.inHand.erase s.id }
  /-- The server sends, and consumers look into slots and cancel. -/
  | use {b : Books} {d : Driver} : Use b.driver d → d.link.line = b.driver.link.line →
    d.sent = b.driver.sent → Entry b { b with driver := d }
  | drive {b : Books} {d : Driver} : Step b.driver d → Entry b { b with driver := d }

inductive Run (b : Books) : Books → Prop
  | start : Run b b
  | entry {b₁ b₂ : Books} : Run b b₁ → Entry b₁ b₂ → Run b b₂

variable {b b' : Books}

theorem Entry.driver (h : Entry b b') : Driver.Run b.driver b'.driver := by
  cases h with
  | @allocate id l hnext =>
    have huse := Use.allocate b.driver
    rw [hnext] at huse
    exact .use .start huse
  | send hu | use hu => exact .use .start hu
  | drive hs => exact .step .start hs

theorem Run.driver (h : Run b b') : Driver.Run b.driver b'.driver := by
  induction h with
  | start => exact .start
  | entry _ he ih => exact ih.trans he.driver

section Requests

variable {id : MessageId} (h : id ∈ b.inHand) (element : Ber.Element)
  (controls : Option (List Control))
include h

/-! Whatever a client requests is an entry. -/

theorem Entry.sendSingle : Entry b { b with
    driver := { b.driver with
      link := (b.driver.link.sendSingle id element controls).2
      sent := b.driver.taken
        { id, operation := .single b.driver.link.replies.length, element, controls } }
    inHand := b.inHand.erase id } :=
  .send (.sendSingle b.driver id element controls) rfl rfl h nofun

theorem Entry.sendSearch : Entry b { b with
    driver := { b.driver with
      link := (b.driver.link.sendSearch id element controls).2
      sent := b.driver.taken
        { id, operation := .search b.driver.link.streams.length, element, controls } }
    inHand := b.inHand.erase id } :=
  .send (.sendSearch b.driver id element controls) rfl rfl h nofun

theorem Entry.sendUnbind : Entry b { b with
    driver := { b.driver with
      link := (b.driver.link.send { id, operation := .unbind, element, controls }).2
      sent := b.driver.taken { id, operation := .unbind, element, controls } }
    inHand := b.inHand.erase id } :=
  .send (.sendUnbind b.driver id element controls) rfl rfl h nofun

theorem Entry.sendAbandon (target : MessageId)
    (htarget : b.driver.link.line.isOpen = true → target ∈ b.driver.sent.map Submission.id) :
    Entry b { b with
      driver := { b.driver with
        link := (b.driver.link.send { id, operation := .abandon target, element }).2
        sent := b.driver.taken { id, operation := .abandon target, element } }
      inHand := b.inHand.erase id } := by
  apply Entry.send (.sendAbandon b.driver id target element) rfl rfl h
  intro target' htarget' hopen
  cases htarget'
  exact htarget hopen

end Requests

/-- To give up a request that was sent takes two entries. -/
theorem run_abandon {id target : MessageId} {l : Link} (hnext : b.driver.link.nextId = (.ok id, l))
    (htarget : target ∈ b.driver.sent.map Submission.id) :
    ∃ b', Run b b' ∧ b'.driver.link = (b.driver.link.abandon target).2 ∧ b'.inHand = b.inHand := by
  have htaken := Run.start.entry (.allocate hnext)
  have hsent := htaken.entry (.sendAbandon List.mem_cons_self (Request.abandon target) target
    fun _ => htarget)
  have herase : (id :: b.inHand).erase id = b.inHand := List.erase_cons_head id b.inHand
  exact ⟨_, hsent, (Link.abandon_eq hnext target).symm, herase⟩

theorem Entry.count_le (h : Entry b b') : b.count ≤ b'.count := by
  cases h with
  | allocate => exact Nat.le_succ _
  | send | use | drive => exact Nat.le_refl _

end Books

section Step

variable {d d' : Driver}

theorem Step.sent (h : Step d d') : d'.sent = d.sent := by
  cases h <;> rfl

/-- What a section of the driver does to tables and ids: nothing, or it takes a request, or a response
ends an operation, or those who wait are let down. -/
inductive Effect (d d' : Driver) : Prop
  | kept : d'.link.tables = d.link.tables → d'.wire = d.wire → d.position.takes = true → Effect d d'
  | taken {s : Submission} {queue : List Submission} : d.position = .turning →
    d.link.line.queue = s :: queue →
    d'.link.tables = (({ d.link with line := { d.link.line with queue } } : Link).register s).tables →
    d'.wire = d.wire ++ [s] → Effect d d'
  | endedSearch {id : MessageId} {t : Ticket} : (id, t) ∈ d.link.searches →
    d'.link.tables = (d.link.singles, d.link.searches.filter (·.1 != id), d.link.line.release id) →
    d'.wire = d.wire → d.position.takes = true → Effect d d'
  | endedSingle {id : MessageId} {t : Ticket} : (id, t) ∈ d.link.singles →
    d'.link.tables = (d.link.singles.filter (·.1 != id), d.link.searches, d.link.line.release id) →
    d'.wire = d.wire → d.position.takes = true → Effect d d'
  | letDown : d'.link.singles.Sublist d.link.singles → d'.link.searches.Sublist d.link.searches →
    d'.link.line.ids = d.link.line.ids → d'.wire = d.wire → d'.position.takes = false → Effect d d'

theorem Step.effect (h : Step d d') : Effect d d' := by
  have htakes {p : Position} (hp : d.position = p) (hloop : p.takes = true) :
      d.position.takes = true := by rw [hp, hloop]
  have hdrains {p : Position} (hp : d.position = p) (hout : p.takes = false) :
      d.position.takes = false := by rw [hp, hout]
  cases h with
  | @take s l hp ht =>
    obtain ⟨queue, hqueue, rfl⟩ := Link.queue_of_transmit ht
    exact .taken hp hqueue rfl rfl
  | written hp | unwritten hp | garbled hp | hangUp hp | part hp => exact .kept rfl rfl (htakes hp rfl)
  | @receive m rest hp hnext =>
    rcases Link.tables_dispatch { d.link with inbound := rest } m with h | ⟨⟨t, ht⟩, h⟩ | ⟨⟨t, ht⟩, h⟩
    · exact .kept h rfl (htakes hp rfl)
    · exact .endedSearch ht h rfl (htakes hp rfl)
    · exact .endedSingle ht h rfl (htakes hp rfl)
  | shut | finish => exact .letDown (.refl _) (.refl _) rfl rfl rfl
  | @letDown s queue hp hqueue =>
    have htables := Link.tables_close { d.link with line := { d.link.line with queue } } s.operation
    obtain ⟨hsingles, hsearches, hline⟩ := Link.tables_eq_iff.mp htables
    refine .letDown ?_ ?_ ?_ rfl (hdrains hp rfl)
    · rw [hsingles]
    · rw [hsearches]
    · rw [hline]
  | @letDownSingle id t hp =>
    have htables := d.link.tables_concludeSingle id (.error .connectionClosed)
    obtain ⟨hsingles, hsearches, hline⟩ := Link.tables_eq_iff.mp htables
    refine .letDown ?_ ?_ ?_ rfl (hdrains hp rfl)
    · rw [hsingles]
      exact List.filter_sublist
    · rw [hsearches]
    · rw [hline]
  | @letDownSearch id t hp =>
    have htables := d.link.tables_concludeSearch id .connectionClosed
    obtain ⟨hsingles, hsearches, hline⟩ := Link.tables_eq_iff.mp htables
    refine .letDown ?_ ?_ ?_ rfl (hdrains hp rfl)
    · rw [hsingles]
    · rw [hsearches]
      exact List.filter_sublist
    · rw [hline]

/-- The driver takes no ids; it may free some. -/
theorem Step.ids (h : Step d d') : d'.link.line.ids.last = d.link.line.ids.last ∧
    d'.link.line.ids.used.Sublist d.link.line.ids.used := by
  cases h.effect with
  | kept htables =>
    obtain ⟨-, -, hline⟩ := Link.tables_eq_iff.mp htables
    rw [hline]
    exact ⟨rfl, .refl _⟩
  | @taken s queue hp hqueue htables =>
    rw [Link.tables_register] at htables
    cases ho : s.operation with
    | single | search | unbind =>
      rw [ho] at htables
      obtain ⟨-, -, hline⟩ := Link.tables_eq_iff.mp htables
      rw [hline]
      exact ⟨rfl, .refl _⟩
    | abandon target =>
      rw [ho] at htables
      obtain ⟨-, -, hline⟩ := Link.tables_eq_iff.mp htables
      rw [hline]
      exact ⟨rfl, List.filter_sublist.trans List.filter_sublist⟩
  | endedSearch _ htables | endedSingle _ htables =>
    obtain ⟨-, -, hline⟩ := Link.tables_eq_iff.mp htables
    rw [hline]
    exact ⟨rfl, List.filter_sublist⟩
  | letDown _ _ hids =>
    rw [hids]
    exact ⟨rfl, .refl _⟩

end Step

structure Registered (d : Driver) : Prop where
  singles : ∀ id t, (id, t) ∈ d.link.singles → ∃ s ∈ d.wire, s.id = id ∧ s.operation = .single t
  searches : ∀ id t, (id, t) ∈ d.link.searches → ∃ s ∈ d.wire, s.id = id ∧ s.operation = .search t

namespace Registered

variable {d d' : Driver}

theorem start : Registered {} := ⟨nofun, nofun⟩

/-- Nothing is waited for but what was waited for before and what has just been written. -/
private theorem mono (h : Registered d) {written : List Submission}
    (hsingles : ∀ id t, (id, t) ∈ d'.link.singles → (id, t) ∈ d.link.singles ∨
      ∃ s ∈ written, s.id = id ∧ s.operation = .single t)
    (hsearches : ∀ id t, (id, t) ∈ d'.link.searches → (id, t) ∈ d.link.searches ∨
      ∃ s ∈ written, s.id = id ∧ s.operation = .search t)
    (hwire : d'.wire = d.wire ++ written) : Registered d' := by
  refine ⟨?_, ?_⟩
  · intro id t ht
    rw [hwire]
    rcases hsingles id t ht with hold | ⟨s, hs, hnew⟩
    · obtain ⟨s, hs, hplace⟩ := h.singles id t hold
      exact ⟨s, List.mem_append_left _ hs, hplace⟩
    · exact ⟨s, List.mem_append_right _ hs, hnew⟩
  · intro id t ht
    rw [hwire]
    rcases hsearches id t ht with hold | ⟨s, hs, hnew⟩
    · obtain ⟨s, hs, hplace⟩ := h.searches id t hold
      exact ⟨s, List.mem_append_left _ hs, hplace⟩
    · exact ⟨s, List.mem_append_right _ hs, hnew⟩

private theorem fewer (h : Registered d) (hsingles : d'.link.singles.Sublist d.link.singles)
    (hsearches : d'.link.searches.Sublist d.link.searches) (hwire : d'.wire = d.wire) :
    Registered d' := by
  refine h.mono ?_ ?_ (hwire.trans (List.append_nil d.wire).symm)
  · exact fun id t ht => .inl (hsingles.subset ht)
  · exact fun id t ht => .inl (hsearches.subset ht)

theorem use (h : Registered d) (hu : Use d d') : Registered d' := by
  have ht := hu.touches
  refine h.fewer ?_ ?_ ht.wire
  · rw [ht.singles]
  · rw [ht.searches]

private theorem step (h : Registered d) (hs : Step d d') : Registered d' := by
  cases hs.effect with
  | kept htables hwire =>
    obtain ⟨hsingles, hsearches, -⟩ := Link.tables_eq_iff.mp htables
    refine h.fewer ?_ ?_ hwire
    · rw [hsingles]
    · rw [hsearches]
  | @taken s queue hp hqueue htables hwire =>
    rw [Link.tables_register] at htables
    cases ho : s.operation with
    | single t =>
      rw [ho] at htables
      obtain ⟨hsingles, hsearches, -⟩ := Link.tables_eq_iff.mp htables
      refine h.mono ?_ (fun id t ht => .inl (hsearches ▸ ht)) hwire
      intro id u hu
      rw [hsingles, List.mem_cons] at hu
      rcases hu with heq | hold
      · cases heq
        exact .inr ⟨s, List.mem_singleton_self s, rfl, ho⟩
      · exact .inl (List.mem_filter.mp hold).1
    | search t =>
      rw [ho] at htables
      obtain ⟨hsingles, hsearches, -⟩ := Link.tables_eq_iff.mp htables
      refine h.mono (fun id t ht => .inl (hsingles ▸ ht)) ?_ hwire
      intro id u hu
      rw [hsearches, List.mem_cons] at hu
      rcases hu with heq | hold
      · cases heq
        exact .inr ⟨s, List.mem_singleton_self s, rfl, ho⟩
      · exact .inl (List.mem_filter.mp hold).1
    | abandon target =>
      rw [ho] at htables
      obtain ⟨hsingles, hsearches, -⟩ := Link.tables_eq_iff.mp htables
      refine h.mono ?_ ?_ hwire
      · intro id t ht
        rw [hsingles] at ht
        exact .inl (List.mem_filter.mp ht).1
      · intro id t ht
        rw [hsearches] at ht
        exact .inl (List.mem_filter.mp ht).1
    | unbind =>
      rw [ho] at htables
      obtain ⟨hsingles, hsearches, -⟩ := Link.tables_eq_iff.mp htables
      exact h.mono (fun id t ht => .inl (hsingles ▸ ht)) (fun id t ht => .inl (hsearches ▸ ht)) hwire
  | endedSearch _ htables hwire | endedSingle _ htables hwire =>
    obtain ⟨hsingles, hsearches, -⟩ := Link.tables_eq_iff.mp htables
    refine h.fewer ?_ ?_ hwire
    · simp [hsingles]
    · simp [hsearches]
  | letDown hsingles hsearches _ hwire => exact h.fewer hsingles hsearches hwire

theorem run (h : Registered d) (hr : Run d d') : Registered d' := by
  induction hr with
  | start => exact h
  | use _ hu ih => exact ih.use hu
  | step _ hs ih => exact ih.step hs

end Registered

end Driver

end DirectoryClient
