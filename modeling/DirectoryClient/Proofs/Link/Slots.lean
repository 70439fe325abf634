import DirectoryClient.Link.Driver
import DirectoryClient.Proofs.Slot.Steps

/-! What the driver's functions do to the slots: all but the dispatch of a message leave what consumers
can see of the server as it is. -/
namespace DirectoryClient

namespace Reply

def Sound (r : Reply Message) : Prop := r.phase = .pending → r.outcome = none

structure Keeps (r r' : Reply Message) : Prop where
  message : ∀ m, r'.outcome = some (.ok m) → r.outcome = some (.ok m)
  sound : r.Sound → r'.Sound
  outcome : r.Sound → ∀ o, r.outcome = some o → r'.outcome = some o

theorem Keeps.refl (r : Reply Message) : r.Keeps r := ⟨fun _ h => h, id, fun _ _ h => h⟩

private theorem Keeps.trans {r r' r'' : Reply Message} (h : r.Keeps r') (h' : r'.Keeps r'') :
    r.Keeps r'' :=
  ⟨fun m hm => h.message m (h'.message m hm), fun hs => h'.sound (h.sound hs),
    fun hs o ho => h'.outcome (h.sound hs) o (h.outcome hs o ho)⟩

variable (r : Reply Message)

theorem keeps_cancel (interrupt : Bool) : r.Keeps (r.cancel interrupt).2 := by
  rcases r.cancel_cases interrupt with ⟨-, h⟩ | h <;> rw [h]
  · exact ⟨fun _ h => h, fun _ => nofun, fun _ _ h => h⟩
  · exact .refl r

/-- An outcome is taken once, and stays. -/
theorem complete_keeps (o : Outcome Message) (hs : r.Sound) :
    (r.complete o).2.Sound ∧ ∀ o', r.outcome = some o' → (r.complete o).2.outcome = some o' := by
  rw [complete]
  split
  · rename_i hp
    refine ⟨fun h => ?_, fun o' ho => ?_⟩
    · cases h
    · rw [hs hp] at ho
      cases ho
  · rename_i hp ho
    refine ⟨fun h => ?_, fun o' ho' => ?_⟩
    · simp [hp] at h
    · simp [ho] at ho'
  · exact ⟨hs, fun _ h => h⟩

/-- What is found after a completion was there before, or is the outcome. -/
theorem outcome_complete (o : Outcome Message) :
    (r.complete o).2.outcome = r.outcome ∨ (r.complete o).2.outcome = some o := by
  rw [complete]
  split
  · exact .inr rfl
  · exact .inr rfl
  · exact .inl rfl

private theorem keeps_error (e : DirectoryError) : r.Keeps (r.complete (.error e)).2 where
  message m hm := by
    rcases r.outcome_complete (.error e) with h | h
    · rwa [h] at hm
    · rw [h] at hm
      cases hm
  sound hs := (r.complete_keeps _ hs).1
  outcome hs := (r.complete_keeps _ hs).2

private theorem keeps_forsake (id : MessageId) : r.Keeps (r.forsake id) := by
  rw [r.forsake_eq id]
  exact r.keeps_error _

end Reply

namespace Link

structure Quiet (l l' : Link) : Prop where
  replies : l.replies.length ≤ l'.replies.length
  streams : l.streams.length ≤ l'.streams.length
  reply : ∀ t, (l.reply t).Keeps (l'.reply t)
  phase : ∀ t, (l'.stream t).phase = (l.stream t).phase
  queue : ∀ t, (l'.stream t).queue = (l.stream t).queue

namespace Quiet

variable {l l' l'' : Link}

theorem refl (l : Link) : l.Quiet l :=
  ⟨Nat.le_refl _, Nat.le_refl _, fun t => .refl (l.reply t), fun _ => rfl, fun _ => rfl⟩

theorem trans (h : l.Quiet l') (h' : l'.Quiet l'') : l.Quiet l'' :=
  ⟨Nat.le_trans h.replies h'.replies, Nat.le_trans h.streams h'.streams,
    fun t => (h.reply t).trans (h'.reply t),
    fun t => (h'.phase t).trans (h.phase t), fun t => (h'.queue t).trans (h.queue t)⟩

/-- The slots are the same. -/
theorem of_eq (hr : l'.replies = l.replies) (hs : l'.streams = l.streams) : l.Quiet l' := by
  refine ⟨Nat.le_of_eq (by rw [hr]), Nat.le_of_eq (by rw [hs]), fun t => ?_, fun t => ?_, fun t => ?_⟩
  · rw [Link.reply, Link.reply, hr]
    exact .refl _
  · rw [Link.stream, Link.stream, hs]
  · rw [Link.stream, Link.stream, hs]

end Quiet

section Slots

variable (l : Link) (t u : Ticket)

theorem reply_setReply (r : Reply Message) : (l.setReply t r).reply u =
    if u = t ∧ t < l.replies.length then r else l.reply u := by
  by_cases h : u = t
  · subst h
    by_cases hlt : u < l.replies.length
    · simp [reply, setReply, hlt]
    · simp [reply, setReply, hlt]
  · simp [reply, setReply, h, List.getElem?_set_ne (Ne.symm h)]

theorem stream_setStream (s : Stream) : (l.setStream t s).stream u =
    if u = t ∧ t < l.streams.length then s else l.stream u := by
  by_cases h : u = t
  · subst h
    by_cases hlt : u < l.streams.length
    · simp [stream, setStream, hlt]
    · simp [stream, setStream, hlt]
  · simp [stream, setStream, h, List.getElem?_set_ne (Ne.symm h)]

private theorem getD_new {α : Type} (xs : List α) (x : α) :
    (xs ++ [x])[u]?.getD x = xs[u]?.getD x := by
  rw [List.getElem?_append]
  split
  · rfl
  · rename_i h
    rw [List.getElem?_eq_none (Nat.le_of_not_lt h)]
    cases u - xs.length <;> rfl

/-- A new slot is as one that does not exist. -/
@[simp]
theorem reply_new : ({ l with replies := l.replies ++ [({} : Reply Message)] } : Link).reply u =
    l.reply u :=
  getD_new u l.replies {}

@[simp]
theorem stream_new : ({ l with streams := l.streams ++ [({} : Stream)] } : Link).stream u =
    l.stream u :=
  getD_new u l.streams {}

end Slots

section Quiet

variable (l : Link) (t : Ticket)

theorem quiet_setReply {r : Reply Message} (h : (l.reply t).Keeps r) : l.Quiet (l.setReply t r) := by
  refine ⟨Nat.le_of_eq (by simp [setReply]), Nat.le_refl _, fun u => ?_, fun _ => rfl, fun _ => rfl⟩
  rw [reply_setReply]
  split
  · rename_i hu
    rw [hu.1]
    exact h
  · exact .refl _

theorem quiet_setStream {s : Stream} (hp : s.phase = (l.stream t).phase)
    (hq : s.queue = (l.stream t).queue) : l.Quiet (l.setStream t s) := by
  refine ⟨Nat.le_refl _, Nat.le_of_eq (by simp [setStream]), fun u => .refl _, fun u => ?_, fun u => ?_⟩
  · rw [stream_setStream]
    split
    · rename_i hu
      rw [hu.1, hp]
    · rfl
  · rw [stream_setStream]
    split
    · rename_i hu
      rw [hu.1, hq]
    · rfl

/-- A slot for one response may fail quietly, -/
private theorem quiet_deliver (e : DirectoryError) : l.Quiet (l.deliver t (.error e)) :=
  l.quiet_setReply t ((l.reply t).keeps_error e)

/-- and so may that of a search. -/
private theorem quiet_failSearch (e : DirectoryError) : l.Quiet (l.failSearch t e) := by
  refine l.quiet_setStream t ?_ ?_ <;> rw [Stream.fail] <;> split <;> rfl

private theorem quiet_forsakeReply (id : MessageId) : l.Quiet (l.setReply t ((l.reply t).forsake id)) :=
  l.quiet_setReply t ((l.reply t).keeps_forsake id)

private theorem quiet_forsakeStream (id : MessageId) :
    l.Quiet (l.setStream t ((l.stream t).forsake id)) := by
  refine l.quiet_setStream t ?_ ?_ <;> rw [Stream.forsake] <;> split <;> rfl

private theorem quiet_close (o : Operation) : l.Quiet (l.close o) := by
  cases o with
  | single t => exact l.quiet_deliver t _
  | search t => exact l.quiet_failSearch t _
  | abandon | unbind => exact .refl l

private theorem quiet_elim {o : Option Ticket} {f : Ticket → Link} (h : ∀ t, l.Quiet (f t)) :
    l.Quiet (o.elim l f) := by
  cases o with
  | none => exact .refl l
  | some t => exact h t

theorem quiet_giveUp (target : MessageId) : l.Quiet (l.giveUp target) := by
  have htables : l.Quiet { l with
      singles := (takeOut target l.singles).2, searches := (takeOut target l.searches).2 } :=
    .of_eq rfl rfl
  exact (htables.trans (quiet_elim _ fun t => quiet_deliver _ t _)).trans
    (quiet_elim _ fun t => quiet_failSearch _ t _)

theorem quiet_awaitSingle (id : MessageId) : l.Quiet (l.awaitSingle id t) :=
  (quiet_elim l fun u => l.quiet_forsakeReply u id).trans (.of_eq rfl rfl)

theorem quiet_awaitSearch (id : MessageId) : l.Quiet (l.awaitSearch id t) :=
  (quiet_elim l fun u => l.quiet_forsakeStream u id).trans (.of_eq rfl rfl)

theorem quiet_register (s : Submission) : l.Quiet (l.register s) := by
  rw [register]
  cases s.operation with
  | single t => exact l.quiet_awaitSingle t s.id
  | search t => exact l.quiet_awaitSearch t s.id
  | abandon target => exact (l.quiet_giveUp target).trans (.of_eq rfl rfl)
  | unbind => exact .refl l

private theorem quiet_closeAll (os : List Operation) : l.Quiet (os.foldl (fun l o => l.close o) l) := by
  induction os generalizing l with
  | nil => exact .refl l
  | cons o os ih => exact (l.quiet_close o).trans (ih (l.close o))

theorem quiet_finish : l.Quiet l.finish :=
  (l.quiet_closeAll _).trans (.of_eq rfl rfl)

end Quiet

section Tables

theorem mem_of_lookup {id : MessageId} {t : Ticket} {table : List (MessageId × Ticket)}
    (h : table.lookup id = some t) : (id, t) ∈ table := by
  obtain ⟨front, back, rfl, -⟩ := List.lookup_eq_some_iff.mp h
  exact List.mem_append_right front List.mem_cons_self

variable (l : Link) (t : Ticket) (id target : MessageId)

def tables (l : Link) : List (MessageId × Ticket) × List (MessageId × Ticket) × Line :=
  (l.singles, l.searches, l.line)

variable {l} in
theorem tables_eq_iff {singles searches : List (MessageId × Ticket)} {line : Line} :
    l.tables = (singles, searches, line) ↔
      l.singles = singles ∧ l.searches = searches ∧ l.line = line := by
  rw [tables, Prod.mk.injEq, Prod.mk.injEq]

theorem tables_giveUp : (l.giveUp target).tables =
    (l.singles.filter (·.1 != target), l.searches.filter (·.1 != target), l.line) := by
  rw [giveUp]
  simp only [takeOut]
  cases l.singles.lookup target <;> cases l.searches.lookup target <;> rfl

theorem tables_awaitSingle : (l.awaitSingle id t).tables =
    ((id, t) :: l.singles.filter (·.1 != id), l.searches, l.line) := by
  rw [awaitSingle]
  simp only [takeOut]
  cases l.singles.lookup id <;> rfl

theorem tables_awaitSearch : (l.awaitSearch id t).tables =
    (l.singles, (id, t) :: l.searches.filter (·.1 != id), l.line) := by
  rw [awaitSearch]
  simp only [takeOut]
  cases l.searches.lookup id <;> rfl

theorem tables_close (o : Operation) : (l.close o).tables = l.tables := by
  cases o <;> rfl

theorem tables_closeAll (os : List Operation) :
    (os.foldl (fun l o => l.close o) l).tables = l.tables := by
  induction os generalizing l with
  | nil => rfl
  | cons o os ih => exact (ih (l.close o)).trans (l.tables_close o)

theorem tables_finish : l.finish.tables = ([], [], { l.line with queue := [], isOpen := false }) := by
  have hline := congrArg (fun x => x.2.2) (l.tables_closeAll
    (l.line.queue.map Submission.operation ++ l.singles.map (.single ·.2) ++
      l.searches.map (.search ·.2)))
  rw [finish, tables]
  simp only [tables] at hline
  simp only [hline]

end Tables

section Route

variable {l : Link} {m : Message} {t : Ticket}

/-- A message goes to the search that waits under its id, if there is one, -/
theorem route_search (h : l.searches.lookup m.id = some t) :
    l.route m =
      if m.kind = .done ∨ ((l.stream t).push m).1 = false then
        { l.setStream t ((l.stream t).push m).2 with
          searches := l.searches.filter (·.1 != m.id) }.release m.id
      else l.setStream t ((l.stream t).push m).2 := by
  rw [route, h]
  simp only [takeOut, Bool.or_eq_true, decide_eq_true_eq, Bool.not_eq_true']
  rfl

/-- else to the request that waits for one response under it, -/
theorem route_single (hs : l.searches.lookup m.id = none) (h : l.singles.lookup m.id = some t) :
    l.route m =
      ({ l with singles := l.singles.filter (·.1 != m.id) }.deliver t (.ok m)).release m.id := by
  rw [route, hs, h]
  rfl

/-- else nowhere. -/
theorem route_none (hs : l.searches.lookup m.id = none) (h : l.singles.lookup m.id = none) :
    l.route m = l := by
  rw [route, hs, h]

end Route

end Link

end DirectoryClient
