import DirectoryClient.Proofs.Link.Slots
import DirectoryClient.Proofs.Slot.Settling
import Mathlib.Data.List.Nodup

/-! Nobody is forgotten: an operation that the driver waits for goes on being waited for until nobody
waits at its slot any more, whatever a function of the driver does. -/
namespace DirectoryClient.Link

def HasSlot (l : Link) : Operation → Prop
  | .single t => t < l.replies.length
  | .search t => t < l.streams.length
  | .abandon _ | .unbind => True

def IsSettled (l : Link) : Operation → Prop
  | .single t => (l.reply t).IsSettled
  | .search t => (l.stream t).IsSettled
  | .abandon _ | .unbind => True

def Awaits (l : Link) : Operation → Prop
  | .single t => ∃ id, (id, t) ∈ l.singles
  | .search t => ∃ id, (id, t) ∈ l.searches
  | .abandon _ | .unbind => False

structure Keyed (l : Link) : Prop where
  singles : (l.singles.map Prod.fst).Nodup
  searches : (l.searches.map Prod.fst).Nodup

/-- Slots stay, and so does that nobody waits at one; who is waited for still is, or nobody waits. -/
structure Tends (l l' : Link) : Prop where
  hasSlot : ∀ o, l.HasSlot o → l'.HasSlot o
  settled : ∀ o, l.IsSettled o → l'.IsSettled o
  awaits : ∀ o, l.HasSlot o → l.Awaits o → l'.Awaits o ∨ l'.IsSettled o

namespace Tends

variable {l l' l'' : Link}

theorem trans (h : l.Tends l') (h' : l'.Tends l'') : l.Tends l'' where
  hasSlot o ho := h'.hasSlot o (h.hasSlot o ho)
  settled o ho := h'.settled o (h.settled o ho)
  awaits o ho ha := by
    rcases h.awaits o ho ha with ha | hs
    · exact h'.awaits o (h.hasSlot o ho) ha
    · exact .inr (h'.settled o hs)

private theorem refl (l : Link) : l.Tends l := ⟨fun _ h => h, fun _ h => h, fun _ _ h => .inl h⟩

/-- Slots and tables are the same. -/
theorem of_eq (hr : l'.replies = l.replies) (hs : l'.streams = l.streams)
    (hsingles : l'.singles = l.singles) (hsearches : l'.searches = l.searches) : l.Tends l' := by
  rcases l with ⟨line, isUp, singles, searches, replies, streams, inbound⟩
  rcases l' with ⟨line', isUp', singles', searches', replies', streams', inbound'⟩
  cases hr
  cases hs
  cases hsingles
  cases hsearches
  refine ⟨fun o h => ?_, fun o h => ?_, fun o _ h => .inl ?_⟩ <;> cases o <;> exact h

end Tends

section Slots

variable {l : Link} (t : Ticket)

theorem hasSlot_setReply (r : Reply Message) {o : Operation} (h : l.HasSlot o) :
    (l.setReply t r).HasSlot o := by
  cases o with
  | single u => simpa [HasSlot, setReply] using h
  | search | abandon | unbind => exact h

theorem hasSlot_setStream (s : Stream) {o : Operation} (h : l.HasSlot o) :
    (l.setStream t s).HasSlot o := by
  cases o with
  | search u => simpa [HasSlot, setStream] using h
  | single | abandon | unbind => exact h

private theorem tends_setReply {r : Reply Message} (h : (l.reply t).IsSettled → r.IsSettled) :
    l.Tends (l.setReply t r) where
  hasSlot _ := hasSlot_setReply t r
  settled o ho := by
    cases o with
    | single u =>
      rw [IsSettled, reply_setReply]
      split
      · rename_i hu
        exact h (hu.1 ▸ ho)
      · exact ho
    | search | abandon | unbind => exact ho
  awaits o _ ha := .inl (by cases o <;> exact ha)

private theorem tends_setStream {s : Stream} (h : (l.stream t).IsSettled → s.IsSettled) :
    l.Tends (l.setStream t s) where
  hasSlot _ := hasSlot_setStream t s
  settled o ho := by
    cases o with
    | search u =>
      rw [IsSettled, stream_setStream]
      split
      · rename_i hu
        exact h (hu.1 ▸ ho)
      · exact ho
    | single | abandon | unbind => exact ho
  awaits o _ ha := .inl (by cases o <;> exact ha)

private theorem tends_deliver (o : Outcome Message) : l.Tends (l.deliver t o) :=
  tends_setReply t fun _ => Reply.isSettled_complete o

private theorem tends_failSearch (e : DirectoryError) : l.Tends (l.failSearch t e) :=
  tends_setStream t fun _ => Stream.isSettled_fail e

theorem tends_close (o : Operation) : l.Tends (l.close o) := by
  cases o with
  | single t => exact tends_deliver t _
  | search t => exact tends_failSearch t _
  | abandon | unbind => exact .refl l

variable {t}

private theorem reply_set (ht : t < l.replies.length) (r : Reply Message) :
    (l.setReply t r).reply t = r := by
  rw [reply_setReply, if_pos ⟨rfl, ht⟩]

theorem stream_set (ht : t < l.streams.length) (s : Stream) : (l.setStream t s).stream t = s := by
  rw [stream_setStream, if_pos ⟨rfl, ht⟩]

/-- Nobody waits for an operation that the driver has closed. -/
theorem isSettled_close {o : Operation} (h : l.HasSlot o) : (l.close o).IsSettled o := by
  cases o with
  | single t =>
    rw [IsSettled, close, deliver, reply_set h]
    exact Reply.isSettled_complete _
  | search t =>
    rw [IsSettled, close, failSearch, stream_set h]
    exact Stream.isSettled_fail _
  | abandon | unbind => trivial

end Slots

section Tables

variable {l : Link} {table : List (MessageId × Ticket)} {id i : MessageId} {t u : Ticket}

theorem lookup_of_keyed (h : (table.map Prod.fst).Nodup) (ht : (id, t) ∈ table) :
    table.lookup id = some t := by
  induction table with
  | nil => cases ht
  | cons p table ih =>
    rw [List.map_cons, List.nodup_cons] at h
    rcases List.mem_cons.mp ht with rfl | ht
    · exact List.lookup_cons_self
    · have hne : (id == p.1) = false := by
        rw [beq_eq_false_iff_ne]
        rintro rfl
        exact h.1 (List.mem_map.mpr ⟨_, ht, rfl⟩)
      rw [List.lookup_cons, hne]
      exact ih h.2 ht

private theorem keyed_filter (h : (table.map Prod.fst).Nodup) (f : MessageId × Ticket → Bool) :
    ((table.filter f).map Prod.fst).Nodup :=
  h.sublist ((List.filter_sublist).map Prod.fst)

private theorem keyed_cons (h : (table.map Prod.fst).Nodup) :
    (((id, t) :: table.filter (·.1 != id)).map Prod.fst).Nodup := by
  rw [List.map_cons, List.nodup_cons]
  refine ⟨fun hid => ?_, keyed_filter h _⟩
  obtain ⟨p, hp, rfl⟩ := List.mem_map.mp hid
  simpa using (List.mem_filter.mp hp).2

/-- Without an id, an entry is still in the table, or it is the one under the id. -/
private theorem left_of_mem (h : (table.map Prod.fst).Nodup) (hi : (i, t) ∈ table) :
    (i, t) ∈ table.filter (·.1 != id) ∨ table.lookup id = some t := by
  by_cases hid : i = id
  · exact .inr (lookup_of_keyed h (hid ▸ hi))
  · exact .inl (List.mem_filter.mpr ⟨hi, by simpa using hid⟩)

/-- Nobody is forgotten if who leaves the table waits no more, -/
private theorem tends_leaveSingles (h : (l.singles.map Prod.fst).Nodup)
    (hs : ∀ t < l.replies.length, l.singles.lookup id = some t → (l.reply t).IsSettled) :
    l.Tends { l with singles := l.singles.filter (·.1 != id) } where
  hasSlot o ho := by cases o <;> exact ho
  settled o ho := by cases o <;> exact ho
  awaits o ho ha := by
    cases o with
    | single t =>
      obtain ⟨i, hi⟩ := ha
      rcases left_of_mem h hi with hi | hi
      · exact .inl ⟨i, hi⟩
      · exact .inr (hs t ho hi)
    | search t => exact .inl ha
    | abandon | unbind => exact .inl ha

/-- and so for searches. -/
private theorem tends_leaveSearches (h : (l.searches.map Prod.fst).Nodup)
    (hs : ∀ t < l.streams.length, l.searches.lookup id = some t → (l.stream t).IsSettled) :
    l.Tends { l with searches := l.searches.filter (·.1 != id) } where
  hasSlot o ho := by cases o <;> exact ho
  settled o ho := by cases o <;> exact ho
  awaits o ho ha := by
    cases o with
    | search t =>
      obtain ⟨i, hi⟩ := ha
      rcases left_of_mem h hi with hi | hi
      · exact .inl ⟨i, hi⟩
      · exact .inr (hs t ho hi)
    | single t => exact .inl ha
    | abandon | unbind => exact .inl ha

/-- A request leaves the table with a slot at which nobody waits. -/
private theorem tends_settleSingle (h : l.Keyed) (hid : l.singles.lookup id = some t)
    {r : Reply Message} (hr : r.IsSettled) :
    l.Tends { l.setReply t r with singles := l.singles.filter (·.1 != id) } := by
  refine (tends_setReply t fun _ => hr).trans
    (tends_leaveSingles (l := l.setReply t r) h.singles fun u hu hlookup => ?_)
  obtain rfl : t = u := Option.some.inj (hid.symm.trans hlookup)
  rwa [reply_set (by simpa [setReply] using hu)]

private theorem tends_settleSearch (h : l.Keyed) (hid : l.searches.lookup id = some t) {s : Stream}
    (hs : s.IsSettled) :
    l.Tends { l.setStream t s with searches := l.searches.filter (·.1 != id) } := by
  refine (tends_setStream t fun _ => hs).trans
    (tends_leaveSearches (l := l.setStream t s) h.searches fun u hu hlookup => ?_)
  obtain rfl : t = u := Option.some.inj (hid.symm.trans hlookup)
  rwa [stream_set (by simpa [setStream] using hu)]

private theorem tends_enterSingles : l.Tends { l with singles := (id, t) :: l.singles } where
  hasSlot o ho := by cases o <;> exact ho
  settled o ho := by cases o <;> exact ho
  awaits o _ ha := by
    cases o with
    | single u =>
      obtain ⟨i, hi⟩ := ha
      exact .inl ⟨i, List.mem_cons_of_mem _ hi⟩
    | search | abandon | unbind => exact .inl ha

private theorem tends_enterSearches : l.Tends { l with searches := (id, t) :: l.searches } where
  hasSlot o ho := by cases o <;> exact ho
  settled o ho := by cases o <;> exact ho
  awaits o _ ha := by
    cases o with
    | search u =>
      obtain ⟨i, hi⟩ := ha
      exact .inl ⟨i, List.mem_cons_of_mem _ hi⟩
    | single | abandon | unbind => exact .inl ha

end Tables

section Conclusions

/-- The request that waits under an id, if there is one, waits no more: this is its outcome. -/
def concludeSingle (id : MessageId) (o : Outcome Message) (l : Link) : Link :=
  { (l.singles.lookup id).elim l (fun t => l.deliver t o) with
    singles := (takeOut id l.singles).2 }

/-- The search that goes on under an id, if there is one, goes on no more: it fails. -/
def concludeSearch (id : MessageId) (e : DirectoryError) (l : Link) : Link :=
  { (l.searches.lookup id).elim l (fun t => l.failSearch t e) with
    searches := (takeOut id l.searches).2 }

variable (l : Link) (id target : MessageId)

private theorem giveUp_eq : l.giveUp target =
    (l.concludeSingle target (.error (.operationCancelled target))).concludeSearch target
      (.operationCancelled target) := by
  rw [giveUp]
  simp only [takeOut]
  cases hs : l.singles.lookup target <;> cases ht : l.searches.lookup target <;>
    simp only [concludeSingle, concludeSearch, takeOut, hs, ht, Option.elim, deliver, setReply] <;>
      rfl

variable {l}

theorem Keyed.concludeSingle (h : l.Keyed) (o : Outcome Message) : (l.concludeSingle id o).Keyed := by
  rw [Link.concludeSingle]
  refine ⟨keyed_filter h.singles _, ?_⟩
  cases l.singles.lookup id <;> exact h.searches

theorem Keyed.concludeSearch (h : l.Keyed) (e : DirectoryError) : (l.concludeSearch id e).Keyed := by
  rw [Link.concludeSearch]
  refine ⟨?_, keyed_filter h.searches _⟩
  cases l.searches.lookup id <;> exact h.singles

theorem tends_concludeSingle (h : l.Keyed) (o : Outcome Message) :
    l.Tends (l.concludeSingle id o) := by
  rw [concludeSingle]
  cases hid : l.singles.lookup id with
  | none => exact tends_leaveSingles h.singles fun t _ ht => absurd (ht.symm.trans hid) (Option.some_ne_none t)
  | some t => exact tends_settleSingle h hid (Reply.isSettled_complete o)

theorem tends_concludeSearch (h : l.Keyed) (e : DirectoryError) :
    l.Tends (l.concludeSearch id e) := by
  rw [concludeSearch]
  cases hid : l.searches.lookup id with
  | none => exact tends_leaveSearches h.searches fun t _ ht => absurd (ht.symm.trans hid) (Option.some_ne_none t)
  | some t => exact tends_settleSearch h hid (Stream.isSettled_fail e)

end Conclusions

section Driver

variable {l : Link} (h : l.Keyed) (id : MessageId) (t : Ticket)
include h

private theorem tends_giveUp : l.Tends (l.giveUp id) := by
  rw [giveUp_eq]
  exact (tends_concludeSingle id h _).trans (tends_concludeSearch id (h.concludeSingle id _) _)

private theorem tends_awaitSingle : l.Tends (l.awaitSingle id t) := by
  rw [awaitSingle]
  cases hid : l.singles.lookup id with
  | none =>
    have hleft : l.Tends { l with singles := l.singles.filter (·.1 != id) } :=
      tends_leaveSingles h.singles fun t _ ht => absurd (ht.symm.trans hid) (Option.some_ne_none t)
    simp only [takeOut, hid]
    exact hleft.trans tends_enterSingles
  | some u =>
    have hleft := tends_settleSingle h hid (Reply.isSettled_forsake (r := l.reply u) id)
    simp only [takeOut, hid]
    exact hleft.trans tends_enterSingles

private theorem tends_awaitSearch : l.Tends (l.awaitSearch id t) := by
  rw [awaitSearch]
  cases hid : l.searches.lookup id with
  | none =>
    have hleft : l.Tends { l with searches := l.searches.filter (·.1 != id) } :=
      tends_leaveSearches h.searches fun t _ ht => absurd (ht.symm.trans hid) (Option.some_ne_none t)
    simp only [takeOut, hid]
    exact hleft.trans tends_enterSearches
  | some u =>
    have hleft := tends_settleSearch h hid (Stream.isSettled_forsake (s := l.stream u) id)
    simp only [takeOut, hid]
    exact hleft.trans tends_enterSearches

/-- A request that is about to be written is waited for, if it has a slot. -/
theorem tends_register (s : Submission) :
    l.Tends (l.register s) ∧ (l.register s).Keyed ∧
      ((l.register s).Awaits s.operation ∨ (l.register s).IsSettled s.operation) := by
  have htables : ∀ {l' : Link} {singles searches line}, l'.tables = (singles, searches, line) →
      (singles.map Prod.fst).Nodup → (searches.map Prod.fst).Nodup → l'.Keyed := by
    intro l' singles searches line heq hsingles hsearches
    cases heq
    exact ⟨hsingles, hsearches⟩
  rw [register]
  cases s.operation with
  | single t =>
    have heq := l.tables_awaitSingle t s.id
    refine ⟨tends_awaitSingle h s.id t, htables heq (keyed_cons h.singles) h.searches, .inl ⟨s.id, ?_⟩⟩
    rw [show (l.awaitSingle s.id t).singles = _ from congrArg (·.1) heq]
    exact List.mem_cons_self
  | search t =>
    have heq := l.tables_awaitSearch t s.id
    refine ⟨tends_awaitSearch h s.id t, htables heq h.singles (keyed_cons h.searches), .inl ⟨s.id, ?_⟩⟩
    rw [show (l.awaitSearch s.id t).searches = _ from congrArg (·.2.1) heq]
    exact List.mem_cons_self
  | abandon target =>
    have hkeyed : (l.giveUp target).Keyed :=
      htables (l.tables_giveUp target) (keyed_filter h.singles _) (keyed_filter h.searches _)
    exact ⟨(tends_giveUp h target).trans (.of_eq rfl rfl rfl rfl), ⟨hkeyed.1, hkeyed.2⟩, .inr trivial⟩
  | unbind => exact ⟨.refl l, h, .inr trivial⟩

private theorem tends_route (m : Message) : l.Tends (l.route m) ∧ (l.route m).Keyed := by
  cases hs : l.searches.lookup m.id with
  | some t =>
    rw [route_search hs]
    split
    · rename_i hlast
      have hleft := tends_settleSearch h hs (Stream.isSettled_push hlast)
      exact ⟨hleft.trans (.of_eq rfl rfl rfl rfl), ⟨h.singles, keyed_filter h.searches _⟩⟩
    · exact ⟨tends_setStream t fun hs => hs.push m, ⟨h.singles, h.searches⟩⟩
  | none =>
    cases ht : l.singles.lookup m.id with
    | some t =>
      have hconcluded :
          ({ l with singles := l.singles.filter (·.1 != m.id) } : Link).deliver t (.ok m) =
            l.concludeSingle m.id (.ok m) := by
        rw [concludeSingle, ht]
        rfl
      rw [route_single hs ht, hconcluded]
      have hkeyed := h.concludeSingle m.id (.ok m)
      exact ⟨(tends_concludeSingle m.id h _).trans (.of_eq rfl rfl rfl rfl), ⟨hkeyed.1, hkeyed.2⟩⟩
    | none =>
      rw [route_none hs ht]
      exact ⟨.refl l, h⟩

theorem tends_dispatch (m : Message) : l.Tends (l.dispatch m).2 ∧ (l.dispatch m).2.Keyed := by
  rw [dispatch]
  split
  · exact ⟨.refl l, h⟩
  · exact tends_route h m

end Driver

end DirectoryClient.Link
