import DirectoryClient.Connection.Operations
import DirectoryClient.Proofs.Link.Books
import Mathlib.Data.List.Nodup
import Mathlib.Data.List.Perm.Basic

/-! The ids in use are those that are accounted for: taken and not sent yet, queued, waited for, or of a
request to end the session. -/
namespace DirectoryClient

namespace MessageIds

private theorem nodup_insertInto {id : MessageId} {is : List MessageId} (h : is.Nodup) (hid : id ∉ is) :
    (insertInto id is).Nodup := by
  induction is with
  | nil => exact List.nodup_singleton id
  | cons i is ih =>
    rw [List.nodup_cons] at h
    rw [List.mem_cons, not_or] at hid
    rw [insertInto]
    split
    · exact List.nodup_cons.mpr ⟨by simp [hid], List.nodup_cons.mpr h⟩
    · rw [if_neg hid.1, List.nodup_cons]
      refine ⟨?_, ih h.2 hid.2⟩
      rw [mem_insertInto, not_or]
      exact ⟨Ne.symm hid.1, h.1⟩

end MessageIds

namespace Driver.Books

/-- Ids are taken in ascending order, each for one request, and a request to give up another comes after
it. -/
structure Numbered (b : Books) : Prop where
  last : b.driver.link.line.ids.last = (b.count : Int)
  nodup : b.driver.link.line.ids.used.Nodup
  used : ∀ id ∈ b.driver.link.line.ids.used, id ≤ (b.count : Int)
  distinct : (b.inHand ++ b.driver.sent.map Submission.id).Nodup
  range : ∀ id ∈ b.inHand ++ b.driver.sent.map Submission.id, 1 ≤ id ∧ id ≤ (b.count : Int)
  earlier : ∀ front s back target, b.driver.sent = front ++ s :: back →
    s.operation = .abandon target → target ∈ front.map Submission.id

namespace Numbered

variable {b b' : Books}

private theorem start : Numbered {} where
  last := rfl
  nodup := List.nodup_nil
  used := nofun
  distinct := List.nodup_nil
  range := nofun
  earlier front s back target hsent := by
    cases front <;> cases hsent

private theorem allocate (h : Numbered b) (hlt : (b.count : Int) < MessageIds.largest) {id : MessageId}
    {l : Link} (hnext : b.driver.link.nextId = (.ok id, l)) :
    Numbered {
      driver := { b.driver with link := l }, inHand := id :: b.inHand, count := b.count + 1 } := by
  rw [Link.nextId_of_lt h.last h.used hlt, Prod.mk.injEq, Except.ok.injEq] at hnext
  obtain ⟨rfl, rfl⟩ := hnext
  have hnew {is : List MessageId} (his : ∀ i ∈ is, i ≤ (b.count : Int)) :
      (b.count + 1 : Int) ∉ is := by
    intro hmem
    have hle : (b.count + 1 : Int) ≤ b.count := his _ hmem
    omega
  refine ⟨rfl, MessageIds.nodup_insertInto h.nodup (hnew h.used), ?_, ?_, ?_, h.earlier⟩
  · intro i hi
    rcases MessageIds.mem_insertInto.mp hi with rfl | hi
    · exact Int.le_refl _
    · exact Int.le_trans (h.used i hi) (Int.le_of_lt (Int.lt_succ _))
  · exact List.nodup_cons.mpr ⟨hnew fun i hi => (h.range i hi).2, h.distinct⟩
  · intro i hi
    rcases List.mem_cons.mp hi with rfl | hi
    · exact ⟨Int.le_add_of_nonneg_left (Int.natCast_nonneg _), Int.le_refl _⟩
    · exact ⟨(h.range i hi).1, Int.le_trans (h.range i hi).2 (Int.le_of_lt (Int.lt_succ _))⟩

private theorem send (h : Numbered b) {s : Submission} {d : Driver}
    (hline : d.link.line = (b.driver.link.line.send s).2) (hsent : d.sent = b.driver.taken s)
    (hid : s.id ∈ b.inHand)
    (habandon : ∀ target, s.operation = .abandon target → b.driver.link.line.isOpen = true →
      target ∈ b.driver.sent.map Submission.id) :
    Numbered { b with driver := d, inHand := b.inHand.erase s.id } := by
  cases hopen : b.driver.link.line.isOpen with
  | true =>
    rw [Line.send, if_pos hopen] at hline
    rw [taken, if_pos hopen] at hsent
    have hperm : List.Perm (b.inHand.erase s.id ++ d.sent.map Submission.id)
        (b.inHand ++ b.driver.sent.map Submission.id) := by
      rw [hsent, List.map_append]
      exact perm_sent hid
    refine ⟨?_, ?_, ?_, hperm.nodup_iff.mpr h.distinct, ?_, ?_⟩
    · rw [hline]
      exact h.last
    · rw [hline]
      exact h.nodup
    · rw [hline]
      exact h.used
    · exact fun i hi => h.range i (hperm.subset hi)
    · intro front s' back target hsplit hop
      rw [hsent] at hsplit
      -- The request is one sent before, or the last one.
      rcases List.eq_nil_or_concat back with rfl | ⟨back, last, rfl⟩
      · obtain ⟨rfl, heq⟩ := List.append_inj' hsplit rfl
        cases heq
        exact habandon target hop hopen
      · rw [List.concat_eq_append, ← List.cons_append, ← List.append_assoc] at hsplit
        obtain ⟨hfront, -⟩ := List.append_inj' hsplit rfl
        exact h.earlier front s' back target hfront hop
  | false =>
    rw [Line.send, if_neg (by simp [hopen])] at hline
    rw [taken, if_neg (by simp [hopen])] at hsent
    have hsub : (b.inHand.erase s.id ++ d.sent.map Submission.id).Sublist
        (b.inHand ++ b.driver.sent.map Submission.id) := by
      rw [hsent]
      exact List.erase_sublist.append (.refl _)
    refine ⟨?_, ?_, ?_, hsub.nodup h.distinct, ?_, ?_⟩
    · rw [hline]
      exact h.last
    · rw [hline]
      exact h.nodup.filter _
    · rw [hline]
      exact fun i hi => h.used i (MessageIds.mem_release.mp hi).1
    · exact fun i hi => h.range i (hsub.subset hi)
    · rw [hsent]
      exact h.earlier

private theorem mono (h : Numbered b) {d : Driver}
    (hids : d.link.line.ids.last = b.driver.link.line.ids.last ∧
      d.link.line.ids.used.Sublist b.driver.link.line.ids.used) (hsent : d.sent = b.driver.sent) :
    Numbered { b with driver := d } := by
  refine ⟨hids.1.trans h.last, hids.2.nodup h.nodup, ?_, ?_, ?_, ?_⟩
  · exact fun i hi => h.used i (hids.2.subset hi)
  · rw [hsent]
    exact h.distinct
  · rw [hsent]
    exact h.range
  · rw [hsent]
    exact h.earlier

private theorem entry (h : Numbered b) (he : Entry b b')
    (hcount : (b'.count : Int) ≤ MessageIds.largest) :
    Numbered b' := by
  cases he with
  | allocate hnext =>
    exact h.allocate (Int.lt_of_lt_of_le (Int.ofNat_lt.mpr (Nat.lt_succ_self _)) hcount) hnext
  | send _ hline hsent hid habandon => exact h.send hline hsent hid habandon
  | use _ hline hsent =>
    refine h.mono ?_ hsent
    rw [hline]
    exact ⟨rfl, .refl _⟩
  | drive hs => exact h.mono hs.ids hs.sent

end Numbered

structure Sound (b : Books) : Prop where
  numbered : Numbered b
  flow : Flow b.driver
  registered : Registered b.driver
  keyed : b.driver.link.Keyed

/-- The ids that are accounted for: those taken and not sent yet, those queued, those under which
responses are waited for, and that of a request to end the session. -/
def outstanding (b : Books) : List MessageId :=
  b.inHand ++ (b.driver.link.line.queue.map Submission.id ++ (b.driver.link.singles.map Prod.fst ++
    (b.driver.link.searches.map Prod.fst ++
      (b.driver.wire.filter (·.operation = .unbind)).map Submission.id)))

variable {b b' : Books}

private theorem mem_outstanding {id : MessageId} : id ∈ b.outstanding ↔
    id ∈ b.inHand ∨ (∃ s ∈ b.driver.link.line.queue, s.id = id) ∨
      (∃ t, (id, t) ∈ b.driver.link.singles) ∨ (∃ t, (id, t) ∈ b.driver.link.searches) ∨
      ∃ s ∈ b.driver.wire, s.operation = .unbind ∧ s.id = id := by
  simp [outstanding, and_assoc]

structure Placed (b : Books) (s : Submission) : Prop where
  inHand : s.id ∉ b.inHand
  queue : ∀ s' ∈ b.driver.link.line.queue, s'.id ≠ s.id
  single : ∀ t, (s.id, t) ∈ b.driver.link.singles → s.operation = .single t
  search : ∀ t, (s.id, t) ∈ b.driver.link.searches → s.operation = .search t
  unbind : ∀ s' ∈ b.driver.wire, s'.operation = .unbind → s'.id = s.id → s.operation = .unbind

private theorem Sound.placed (h : Sound b) (htakes : b.driver.position.takes = true) {s : Submission}
    (hs : s ∈ b.driver.wire) : Placed b s := by
  have hdistinct := h.numbered.distinct
  rw [h.flow.sent htakes, List.map_append, List.nodup_append', List.nodup_append'] at hdistinct
  obtain ⟨-, ⟨hwire, -, hqueue⟩, hinHand⟩ := hdistinct
  have hid : s.id ∈ b.driver.wire.map Submission.id := List.mem_map_of_mem hs
  have hsame {s' : Submission} (hs' : s' ∈ b.driver.wire) (heq : s'.id = s.id) : s' = s :=
    List.inj_on_of_nodup_map hwire hs' hs heq
  refine ⟨?_, ?_, ?_, ?_, ?_⟩
  · exact fun hmem => hinHand hmem (List.mem_append_left _ hid)
  · intro s' hs' heq
    exact hqueue hid (heq ▸ List.mem_map_of_mem hs')
  · intro t ht
    obtain ⟨s', hs', heq, hop⟩ := h.registered.singles s.id t ht
    exact hsame hs' heq ▸ hop
  · intro t ht
    obtain ⟨s', hs', heq, hop⟩ := h.registered.searches s.id t ht
    exact hsame hs' heq ▸ hop
  · intro s' hs' hop heq
    exact hsame hs' heq ▸ hop

/-- Where the id of the next request stands: nowhere but in the queue, and there once. -/
structure Foremost (b : Books) (s : Submission) (queue : List Submission) : Prop where
  inHand : s.id ∉ b.inHand
  queue : ∀ s' ∈ queue, s'.id ≠ s.id
  single : ∀ t, (s.id, t) ∉ b.driver.link.singles
  search : ∀ t, (s.id, t) ∉ b.driver.link.searches
  wire : ∀ s' ∈ b.driver.wire, s'.id ≠ s.id

private theorem Sound.foremost (h : Sound b) (htakes : b.driver.position.takes = true) {s : Submission}
    {queue : List Submission} (hqueue : b.driver.link.line.queue = s :: queue) :
    Foremost b s queue := by
  have hdistinct := h.numbered.distinct
  rw [h.flow.sent htakes, hqueue, List.map_append, List.map_cons, List.nodup_append',
    List.nodup_append', List.nodup_cons] at hdistinct
  obtain ⟨-, ⟨-, ⟨hrest, -⟩, hwire⟩, hinHand⟩ := hdistinct
  have hnot (s' : Submission) (hs' : s' ∈ b.driver.wire) : s'.id ≠ s.id := by
    intro heq
    exact hwire (heq ▸ List.mem_map_of_mem hs') List.mem_cons_self
  refine ⟨?_, ?_, ?_, ?_, hnot⟩
  · exact fun hmem => hinHand hmem (List.mem_append_right _ List.mem_cons_self)
  · intro s' hs' heq
    exact hrest (heq ▸ List.mem_map_of_mem hs')
  · intro t ht
    obtain ⟨s', hs', heq, -⟩ := h.registered.singles s.id t ht
    exact hnot s' hs' heq
  · intro t ht
    obtain ⟨s', hs', heq, -⟩ := h.registered.searches s.id t ht
    exact hnot s' hs' heq

private def Balanced (b : Books) : Prop :=
  b.driver.position.takes = true → ∀ id, id ∈ b.driver.link.line.ids.used ↔ id ∈ b.outstanding

namespace Balanced

private theorem start : Balanced {} := by
  intro _ id
  simp [mem_outstanding]

private theorem allocate (h : Balanced b) {id : MessageId} {l : Link}
    (hnext : b.driver.link.nextId = (.ok id, l)) :
    Balanced {
      driver := { b.driver with link := l }, inHand := id :: b.inHand, count := b.count + 1 } := by
  intro htakes i
  obtain ⟨ids, hids, rfl⟩ := Link.exists_next hnext
  have hold := h htakes i
  rw [mem_outstanding] at hold ⊢
  rw [(MessageIds.used_of_next hids).2, MessageIds.mem_insertInto, hold, List.mem_cons, or_assoc]

/-- The id of a request that is sent is in the queue, no more in hand. -/
private theorem send (h : Balanced b) (hs : Sound b) {s : Submission} {d : Driver}
    (hu : Use b.driver d) (hline : d.link.line = (b.driver.link.line.send s).2)
    (hid : s.id ∈ b.inHand) : Balanced { b with driver := d, inHand := b.inHand.erase s.id } := by
  intro htakes i
  have ht := hu.touches
  have htakes' : b.driver.position.takes = true := ht.position ▸ htakes
  have hopen : b.driver.link.line.isOpen = true := hs.flow.isOpen.trans htakes'
  have hold := h htakes' i
  have hhand : i ∈ b.inHand ↔ i = s.id ∨ i ∈ b.inHand.erase s.id :=
    (List.perm_cons_erase hid).mem_iff.trans List.mem_cons
  rw [Line.send, if_pos hopen] at hline
  rw [mem_outstanding] at hold ⊢
  dsimp only
  rw [hline, ht.singles, ht.searches, ht.wire, hold, hhand]
  simp only [List.mem_append, List.mem_singleton]
  grind

private theorem taken (h : Balanced b) (hs : Sound b) {s : Submission} {queue : List Submission}
    {d : Driver} (hp : b.driver.position = .turning) (hqueue : b.driver.link.line.queue = s :: queue)
    (htables : d.link.tables =
      (({ b.driver.link with line := { b.driver.link.line with queue } } : Link).register s).tables)
    (hwire : d.wire = b.driver.wire ++ [s]) : Balanced { b with driver := d } := by
  intro _ i
  have htakes : b.driver.position.takes = true := by rw [hp]; rfl
  have hold := h htakes i
  rw [mem_outstanding, hqueue] at hold
  rw [Link.tables_register] at htables
  cases ho : s.operation with
  | abandon target =>
    rw [ho] at htables
    obtain ⟨hsingles, hsearches, hline⟩ := Link.tables_eq_iff.mp htables
    -- The request that is given up was written before, and is none to end the session.
    have htarget := hs.numbered.earlier b.driver.wire s queue target
      ((hs.flow.sent htakes).trans (by rw [hqueue])) ho
    obtain ⟨s', hs', rfl⟩ := List.mem_map.mp htarget
    have hplaced := hs.placed htakes hs'
    have hnext := hs.foremost htakes hqueue
    have hrest (q : Submission) (hq : q ∈ queue) : q.id ≠ s'.id :=
      hplaced.queue q (hqueue ▸ List.mem_cons_of_mem s hq)
    have hne : s'.operation ≠ .unbind := hs.flow.turning hp s' hs'
    rw [mem_outstanding]
    dsimp only
    rw [hline, hsingles, hsearches, hwire, Line.release, Line.release, MessageIds.mem_release,
      MessageIds.mem_release, hold]
    simp only [List.mem_cons, List.mem_filter, List.mem_append, List.not_mem_nil, or_false]
    obtain ⟨htargetHand, -, -, -, htargetUnbind⟩ := hplaced
    obtain ⟨hhand, hlater, hsingle, hsearch, hwritten⟩ := hnext
    grind
  | single | search | unbind =>
    rw [ho] at htables
    obtain ⟨hsingles, hsearches, hline⟩ := Link.tables_eq_iff.mp htables
    rw [mem_outstanding]
    dsimp only
    rw [hline, hsingles, hsearches, hwire, hold]
    simp only [List.mem_cons, List.mem_filter, List.mem_append, Prod.mk.injEq]
    grind

private theorem endedSearch (h : Balanced b) (hs : Sound b) {id : MessageId} {t : Ticket}
    {d : Driver} (hsearch : (id, t) ∈ b.driver.link.searches)
    (htables : d.link.tables = (b.driver.link.singles,
      b.driver.link.searches.filter (·.1 != id), b.driver.link.line.release id))
    (hwire : d.wire = b.driver.wire) (htakes : b.driver.position.takes = true) :
    Balanced { b with driver := d } := by
  intro _ i
  have hold := h htakes i
  obtain ⟨s, hmem, rfl, hop⟩ := hs.registered.searches id t hsearch
  obtain ⟨hhand, hqueue, hsingle, -, hunbind⟩ := hs.placed htakes hmem
  obtain ⟨hsingles, hsearches, hline⟩ := Link.tables_eq_iff.mp htables
  rw [mem_outstanding] at hold ⊢
  dsimp only
  rw [hline, hsingles, hsearches, hwire, Line.release, MessageIds.mem_release, hold]
  simp only [List.mem_filter]
  grind

private theorem endedSingle (h : Balanced b) (hs : Sound b) {id : MessageId} {t : Ticket}
    {d : Driver} (hsingle : (id, t) ∈ b.driver.link.singles)
    (htables : d.link.tables = (b.driver.link.singles.filter (·.1 != id),
      b.driver.link.searches, b.driver.link.line.release id))
    (hwire : d.wire = b.driver.wire) (htakes : b.driver.position.takes = true) :
    Balanced { b with driver := d } := by
  intro _ i
  have hold := h htakes i
  obtain ⟨s, hmem, rfl, hop⟩ := hs.registered.singles id t hsingle
  obtain ⟨hhand, hqueue, -, hsearch, hunbind⟩ := hs.placed htakes hmem
  obtain ⟨hsingles, hsearches, hline⟩ := Link.tables_eq_iff.mp htables
  rw [mem_outstanding] at hold ⊢
  dsimp only
  rw [hline, hsingles, hsearches, hwire, Line.release, MessageIds.mem_release, hold]
  simp only [List.mem_filter]
  grind

private theorem still (h : Balanced b) {d : Driver} (htables : d.link.tables = b.driver.link.tables)
    (hwire : d.wire = b.driver.wire) (htakes : b.driver.position.takes = true) :
    Balanced { b with driver := d } := by
  intro _ i
  have hold := h htakes i
  obtain ⟨hsingles, hsearches, hline⟩ := Link.tables_eq_iff.mp htables
  rw [mem_outstanding] at hold ⊢
  dsimp only
  rw [hline, hsingles, hsearches, hwire]
  exact hold

private theorem entry (h : Balanced b) (hs : Sound b) (he : Entry b b') : Balanced b' := by
  cases he with
  | allocate hnext => exact h.allocate hnext
  | send hu hline _ hid => exact h.send hs hu hline hid
  | use hu hline =>
    intro htakes
    have ht := hu.touches
    refine h.still ?_ ht.wire (ht.position ▸ htakes) htakes
    simp only [Link.tables, hline, ht.singles, ht.searches]
  | drive hstep =>
    cases hstep.effect with
    | kept htables hwire htakes => exact h.still htables hwire htakes
    | taken hp hqueue htables hwire => exact h.taken hs hp hqueue htables hwire
    | endedSearch hsearch htables hwire htakes =>
      exact h.endedSearch hs hsearch htables hwire htakes
    | endedSingle hsingle htables hwire htakes =>
      exact h.endedSingle hs hsingle htables hwire htakes
    | letDown _ _ _ _ hout =>
      intro htakes
      rw [hout] at htakes
      cases htakes

end Balanced

/-- What is known of every entry is known after a run in which the ids do not run in a circle. -/
private theorem Run.sound (hr : Run {} b) (hcount : (b.count : Int) ≤ MessageIds.largest) :
    Sound b ∧ Balanced b := by
  induction hr with
  | start => exact ⟨⟨.start, .start, .start, Attended.start.keyed⟩, .start⟩
  | @entry b₁ b₂ hr he ih =>
    have hle : (b₁.count : Int) ≤ b₂.count := Int.ofNat_le.mpr he.count_le
    obtain ⟨hsound, hbalanced⟩ := ih (Int.le_trans hle hcount)
    exact ⟨⟨hsound.numbered.entry he hcount, hsound.flow.run he.driver,
      hsound.registered.run he.driver, (Attended.start.run (hr.driver.trans he.driver)).keyed⟩,
      hbalanced.entry hsound he⟩

private theorem exists_unbind {i : MessageId}
    (hi : i ∈ (b.driver.wire.filter (·.operation = .unbind)).map Submission.id) :
    ∃ s ∈ b.driver.wire, s.operation = .unbind ∧ s.id = i := by
  obtain ⟨s, hs, heq⟩ := List.mem_map.mp hi
  obtain ⟨hmem, hop⟩ := List.mem_filter.mp hs
  exact ⟨s, hmem, of_decide_eq_true hop, heq⟩

private theorem Sound.nodup_outstanding (h : Sound b) (htakes : b.driver.position.takes = true) :
    b.outstanding.Nodup := by
  have hdistinct := h.numbered.distinct
  rw [h.flow.sent htakes, List.map_append, List.nodup_append', List.nodup_append'] at hdistinct
  obtain ⟨hhand, ⟨hwire, hqueue, hseparate⟩, hfree⟩ := hdistinct
  have hunbinds : ((b.driver.wire.filter (·.operation = .unbind)).map Submission.id).Nodup :=
    hwire.sublist (List.filter_sublist.map _)
  have hwritten {i : MessageId} (hi : i ∈ b.driver.link.singles.map Prod.fst ++
      (b.driver.link.searches.map Prod.fst ++
        (b.driver.wire.filter (·.operation = .unbind)).map Submission.id)) :
      i ∈ b.driver.wire.map Submission.id := by
    rw [List.mem_append, List.mem_append] at hi
    rcases hi with hi | hi | hi
    · obtain ⟨⟨i, t⟩, ht, rfl⟩ := List.mem_map.mp hi
      obtain ⟨s, hs, rfl, -⟩ := h.registered.singles i t ht
      exact List.mem_map_of_mem hs
    · obtain ⟨⟨i, t⟩, ht, rfl⟩ := List.mem_map.mp hi
      obtain ⟨s, hs, rfl, -⟩ := h.registered.searches i t ht
      exact List.mem_map_of_mem hs
    · obtain ⟨s, hs, -, rfl⟩ := exists_unbind hi
      exact List.mem_map_of_mem hs
  simp only [outstanding, List.nodup_append', hhand, hqueue, h.keyed.singles, h.keyed.searches,
    hunbinds, true_and]
  refine ⟨⟨⟨?_, ?_⟩, ?_⟩, ?_⟩
  -- What is written tells by its operation in which table its id may stand.
  · intro i hi hi'
    obtain ⟨⟨i, t⟩, ht, rfl⟩ := List.mem_map.mp hi
    obtain ⟨s, hs, hop, rfl⟩ := exists_unbind hi'
    rw [(h.placed htakes hs).search t ht] at hop
    cases hop
  · intro i hi hi'
    obtain ⟨⟨i, t⟩, ht, rfl⟩ := List.mem_map.mp hi
    rcases List.mem_append.mp hi' with hi' | hi'
    · obtain ⟨⟨i, u⟩, hu, rfl⟩ := List.mem_map.mp hi'
      obtain ⟨s, hs, rfl, hop⟩ := h.registered.searches i u hu
      rw [(h.placed htakes hs).single t ht] at hop
      cases hop
    · obtain ⟨s, hs, hop, rfl⟩ := exists_unbind hi'
      rw [(h.placed htakes hs).single t ht] at hop
      cases hop
  · exact fun i hi hi' => hseparate (hwritten hi') hi
  · intro i hi hi'
    rcases List.mem_append.mp hi' with hi' | hi'
    · exact hfree hi (List.mem_append_right _ hi')
    · exact hfree hi (List.mem_append_left _ (hwritten hi'))

section Dispatch

variable {m : Message} {t : Ticket}

private theorem Sound.id_ne_zero (h : Sound b) {s : Submission} (hs : s ∈ b.driver.wire) : s.id ≠ 0 := by
  have hsent : s.id ∈ b.driver.sent.map Submission.id :=
    List.mem_map_of_mem (h.flow.written.subset hs)
  have hrange := h.numbered.range s.id (List.mem_append_right _ hsent)
  exact Int.ne_of_gt hrange.1

/-- A message to a request that waits for one response gives the id back. -/
private theorem Sound.freed_single (h : Sound b) (htakes : b.driver.position.takes = true)
    (ht : (m.id, t) ∈ b.driver.link.singles) :
    m.id ∉ (b.driver.link.dispatch m).2.line.ids.used := by
  obtain ⟨s, hs, hid, hop⟩ := h.registered.singles m.id t ht
  have hnone : b.driver.link.searches.lookup m.id = none := by
    by_contra hsome
    obtain ⟨u, hu⟩ := Option.ne_none_iff_exists'.mp hsome
    rw [(h.placed htakes hs).search u (hid ▸ Link.mem_of_lookup hu)] at hop
    cases hop
  rw [Link.dispatch, if_neg (hid ▸ h.id_ne_zero hs),
    Link.route_single hnone (Link.lookup_of_keyed h.keyed.singles ht)]
  exact fun hused => (MessageIds.mem_release.mp hused).2 rfl

/-- The last message that a search accepts gives the id back, and so does the first that it refuses. -/
private theorem Sound.freed_search (h : Sound b) (ht : (m.id, t) ∈ b.driver.link.searches)
    (hlast : m.kind = .done ∨ ((b.driver.link.stream t).push m).1 = false) :
    m.id ∉ (b.driver.link.dispatch m).2.line.ids.used := by
  obtain ⟨s, hs, hid, -⟩ := h.registered.searches m.id t ht
  rw [Link.dispatch, if_neg (hid ▸ h.id_ne_zero hs),
    Link.route_search (Link.lookup_of_keyed h.keyed.searches ht), if_pos hlast]
  exact fun hused => (MessageIds.mem_release.mp hused).2 rfl

end Dispatch

/-- A request to give up another frees the ids of both, and nobody waits under that of the other. -/
private theorem freed_abandon {l l' : Link} {s : Submission} {target : MessageId}
    (h : l.transmit? = some (s, l')) (hop : s.operation = .abandon target) :
    target ∉ l'.line.ids.used ∧ s.id ∉ l'.line.ids.used ∧
      ∀ t, (target, t) ∉ l'.singles ∧ (target, t) ∉ l'.searches := by
  obtain ⟨queue, -, rfl⟩ := Link.queue_of_transmit h
  have htables := Link.tables_register { l with line := { l.line with queue } } s
  rw [hop] at htables
  obtain ⟨hsingles, hsearches, hline⟩ := Link.tables_eq_iff.mp htables
  rw [hsingles, hsearches, hline, Line.release, Line.release, MessageIds.mem_release,
    MessageIds.mem_release]
  simp

structure Exact (b : Books) : Prop where
  /-- While the driver takes requests, an id is in use exactly if it is accounted for, in one place. -/
  used : b.driver.position.takes = true → b.driver.link.line.ids.used.Perm b.outstanding
  nodup : b.driver.position.takes = true → b.outstanding.Nodup
  unshared : b.driver.position.takes = true → ∀ id l, b.driver.link.nextId = (.ok id, l) →
    id ∉ b.outstanding
  /-- There is always an id to be had, and nobody has had it before. -/
  fresh : (b.count : Int) < MessageIds.largest → ∃ id l, b.driver.link.nextId = (.ok id, l) ∧
    id ∉ b.inHand ++ b.driver.sent.map Submission.id
  answered : b.driver.position.takes = true → ∀ m t, (m.id, t) ∈ b.driver.link.singles →
    m.id ∉ (b.driver.link.dispatch m).2.line.ids.used
  finished : ∀ m t, (m.id, t) ∈ b.driver.link.searches →
    m.kind = .done ∨ ((b.driver.link.stream t).push m).1 = false →
    m.id ∉ (b.driver.link.dispatch m).2.line.ids.used
  abandoned : ∀ s l target, b.driver.link.transmit? = some (s, l) → s.operation = .abandon target →
    target ∉ l.line.ids.used ∧ s.id ∉ l.line.ids.used ∧
      ∀ t, (target, t) ∉ l.singles ∧ (target, t) ∉ l.searches
  unsendable : b.driver.position.takes = false → b.driver.link.Refuses
  /-- A search with what is no filter takes no id. -/
  unfiltered : ∀ (ω : Type) (n : Network ω) (q : Search.Query) (c : Connection) (w : ω),
    Filter.parse? q.filter = none →
    (c.startSearch n q w).1 = .error .filterParsing ∧ (c.startSearch n q w).2.2 = w

/-- As long as the ids do not run in a circle, the books are exact. -/
theorem run_exact (hr : Run {} b) (hcount : (b.count : Int) ≤ MessageIds.largest) : Exact b := by
  obtain ⟨hsound, hbalanced⟩ := hr.sound hcount
  refine ⟨?_, hsound.nodup_outstanding, ?_, ?_, ?_, ?_, ?_, ?_, ?_⟩
  · intro htakes
    apply (List.perm_ext_iff_of_nodup hsound.numbered.nodup (hsound.nodup_outstanding htakes)).mpr
    exact hbalanced htakes
  · intro htakes id l hnext hmem
    obtain ⟨ids, hids, -⟩ := Link.exists_next hnext
    exact (MessageIds.used_of_next hids).1 ((hbalanced htakes id).mpr hmem)
  · intro hlt
    refine ⟨_, _, Link.nextId_of_lt hsound.numbered.last hsound.numbered.used hlt, ?_⟩
    intro hmem
    have hle : (b.count : Int) + 1 ≤ b.count := (hsound.numbered.range _ hmem).2
    omega
  · exact fun htakes m t ht => hsound.freed_single htakes ht
  · exact fun m t ht hlast => hsound.freed_search ht hlast
  · exact fun s l target htransmit hop => freed_abandon htransmit hop
  · intro hout
    exact Link.refuses_of_closed (hsound.flow.isOpen.trans hout)
  · intro ω n q c w hfilter
    have hrequest : Search.request q (c.searchOptions.getD {}) = .error .filterParsing := by
      rw [Search.request, hfilter]
    rw [Connection.startSearch, hrequest]
    exact ⟨rfl, rfl⟩

/-- A search that is waited for, a request queued to give it up, and an id taken for another one. -/
theorem threeIds_exact : ∃ b, Run {} b ∧ (b.count : Int) ≤ MessageIds.largest ∧
    b.outstanding = [3, 2, 1] ∧ Exact b := by
  have h₁ := Run.start.entry (@Entry.allocate {} 1 _ rfl)
  have h₂ := h₁.entry (.sendSearch List.mem_cons_self Request.unbind none)
  have h₃ := h₂.entry (.drive (.take rfl rfl))
  have h₄ := h₃.entry (.drive (.written rfl))
  have h₅ := h₄.entry (@Entry.allocate _ 2 _ rfl)
  have h₆ := h₅.entry (.sendAbandon List.mem_cons_self (Request.abandon 1) 1
    fun _ => List.mem_cons_self)
  have h₇ := h₆.entry (@Entry.allocate _ 3 _ rfl)
  exact ⟨_, h₇, by decide, rfl, run_exact h₇ (by decide)⟩

end Driver.Books

end DirectoryClient
