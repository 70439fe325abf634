import DirectoryClient.Proofs.Link.Traffic
import Mathlib.Data.List.Induction

/-! What a trace says of each slot, whatever the driver does with its tables: which response a request
gets, and which responses a search hears. -/
namespace DirectoryClient.Link

inductive Awaiting where
  | unsent
  | waiting (id : MessageId)
  /-- The first message with the id of the request has been dispatched. -/
  | answered (m : Message)

inductive Stage where
  | unsent
  | waiting (id : MessageId)
  | over
  deriving DecidableEq

structure Hearing where
  stage : Stage := .unsent
  isInterrupted : Bool := false
  heard : List Message := []

def Awaiting.next (ticket : Ticket) (a : Awaiting) : Event → Awaiting
  | .registered s => if s.operation = .single ticket then .waiting s.id else a
  | .dispatched m _ =>
    match a with
    | waiting id => if m.id = id then .answered m else a
    | _ => a
  | _ => a

/-- A search hears the messages with its id from its registration on. It is over with the last of
them, when it is abandoned, when the driver ends, or with the first message that comes when its
consumer wants nothing more; that one is not heard. -/
def Hearing.next (ticket : Ticket) (h : Hearing) : Event → Hearing
  | .registered s =>
    match s.operation with
    | .search t => if t = ticket then { h with stage := .waiting s.id } else h
    | .abandon target => if h.stage = .waiting target then { h with stage := .over } else h
    | _ => h
  | .dispatched m _ =>
    if h.stage = .waiting m.id then
      if h.isInterrupted then { h with stage := .over }
      else { h with
        stage := if m.kind = .done then .over else h.stage
        heard := h.heard ++ [m] }
    else h
  | .interrupted t => if t = ticket then { h with isInterrupted := true } else h
  | .exited => { h with stage := .over }
  | _ => h

def awaiting (ticket : Ticket) (es : List Event) : Awaiting :=
  es.foldl (Awaiting.next ticket) .unsent

def hearing (ticket : Ticket) (es : List Event) : Hearing :=
  es.foldl (Hearing.next ticket) {}

def acceptedBy (ticket : Ticket) (es : List Event) : List Message :=
  es.filterMap fun
    | .dispatched m taker => if taker = some ticket then some m else none
    | _ => none

def readBy (ticket : Ticket) (es : List Event) : List Message :=
  es.filterMap fun
    | .read t m => if t = ticket then some m else none
    | _ => none

def registrations (es : List Event) : List Submission :=
  es.filterMap fun
    | .registered s => some s
    | _ => none

def allocations (es : List Event) : Nat :=
  es.countP fun
    | .allocated _ => true
    | _ => false

section Concat

variable (ticket : Ticket) (es : List Event) (e : Event)

theorem awaiting_concat : awaiting ticket (es ++ [e]) = (awaiting ticket es).next ticket e := by
  simp [awaiting]

theorem hearing_concat : hearing ticket (es ++ [e]) = (hearing ticket es).next ticket e := by
  simp [hearing]

theorem registrations_append (es es' : List Event) :
    registrations (es ++ es') = registrations es ++ registrations es' :=
  List.filterMap_append

theorem acceptedBy_append (es es' : List Event) :
    acceptedBy ticket (es ++ es') = acceptedBy ticket es ++ acceptedBy ticket es' :=
  List.filterMap_append

theorem readBy_append (es es' : List Event) :
    readBy ticket (es ++ es') = readBy ticket es ++ readBy ticket es' :=
  List.filterMap_append

theorem allocations_append (es es' : List Event) :
    allocations (es ++ es') = allocations es + allocations es' :=
  List.countP_append

end Concat

section Registered

variable {ticket : Ticket} {es : List Event} {e : Event} {id : MessageId}

private theorem next_waiting {a : Awaiting} (h : a.next ticket e = .waiting id) :
    a = .waiting id ∨ ∃ s, e = .registered s ∧ s.operation = .single ticket ∧ s.id = id := by
  cases e with
  | registered s =>
    by_cases hs : s.operation = .single ticket
    · simp only [Awaiting.next, hs, ↓reduceIte, Awaiting.waiting.injEq] at h
      exact .inr ⟨s, rfl, hs, h⟩
    · simp only [Awaiting.next, hs, ↓reduceIte] at h
      exact .inl h
  | dispatched m taker =>
    cases a with
    | waiting i =>
      by_cases hm : m.id = i
      · simp [Awaiting.next, hm] at h
      · simp only [Awaiting.next, hm, ↓reduceIte] at h
        exact .inl h
    | unsent | answered => exact .inl h
  | allocated | read | interrupted | exited => exact .inl h

private theorem next_answered {a : Awaiting} {m : Message} (h : a.next ticket e = .answered m) :
    a = .answered m ∨ ∃ i, a = .waiting i := by
  cases e with
  | registered s =>
    by_cases hs : s.operation = .single ticket
    · simp [Awaiting.next, hs] at h
    · simp only [Awaiting.next, hs, ↓reduceIte] at h
      exact .inl h
  | dispatched m' taker =>
    cases a with
    | waiting i => exact .inr ⟨i, rfl⟩
    | unsent | answered => exact .inl h
  | allocated | read | interrupted | exited => exact .inl h

private theorem next_stage {x : Hearing} (h : (x.next ticket e).stage = .waiting id) :
    x.stage = .waiting id ∨ ∃ s, e = .registered s ∧ s.operation = .search ticket ∧ s.id = id := by
  cases e with
  | registered s =>
    simp only [Hearing.next] at h
    split at h
    · rename_i t hs
      by_cases ht : t = ticket
      · simp only [ht, ↓reduceIte, Stage.waiting.injEq] at h
        exact .inr ⟨s, rfl, ht ▸ hs, h⟩
      · simp only [ht, ↓reduceIte] at h
        exact .inl h
    · split at h
      · cases h
      · exact .inl h
    · exact .inl h
  | dispatched m taker =>
    simp only [Hearing.next] at h
    split at h
    · split at h
      · cases h
      · split at h
        · cases h
        · exact .inl h
    · exact .inl h
  | interrupted t =>
    simp only [Hearing.next] at h
    split at h <;> exact .inl h
  | exited => cases h
  | allocated | read => exact .inl h

private theorem mem_registrations_append {s : Submission} (h : s ∈ registrations es) :
    s ∈ registrations (es ++ [e]) := by
  rw [registrations_append]
  exact List.mem_append_left _ h

private theorem mem_registrations_concat (s : Submission) :
    s ∈ registrations (es ++ [.registered s]) := by
  rw [registrations_append]
  exact List.mem_append_right _ (by simp [registrations])

/-- Who waits has been registered under that id. -/
theorem registered_of_waiting (h : awaiting ticket es = .waiting id) :
    ∃ s ∈ registrations es, s.operation = .single ticket ∧ s.id = id := by
  induction es using List.reverseRecOn with
  | nil => cases h
  | append_singleton es e ih =>
    rw [awaiting_concat] at h
    rcases next_waiting h with hold | ⟨s, rfl, hs⟩
    · obtain ⟨s, hmem, hs⟩ := ih hold
      exact ⟨s, mem_registrations_append hmem, hs⟩
    · exact ⟨s, mem_registrations_concat s, hs⟩

/-- Who is answered has been registered. -/
theorem registered_of_answered {m : Message} (h : awaiting ticket es = .answered m) :
    ∃ s ∈ registrations es, s.operation = .single ticket := by
  induction es using List.reverseRecOn with
  | nil => cases h
  | append_singleton es e ih =>
    rw [awaiting_concat] at h
    rcases next_answered h with hold | ⟨i, hold⟩
    · obtain ⟨s, hmem, hs⟩ := ih hold
      exact ⟨s, mem_registrations_append hmem, hs⟩
    · obtain ⟨s, hmem, hs, -⟩ := registered_of_waiting hold
      exact ⟨s, mem_registrations_append hmem, hs⟩

/-- A search that goes on has been registered under that id. -/
theorem registered_of_hearing (h : (hearing ticket es).stage = .waiting id) :
    ∃ s ∈ registrations es, s.operation = .search ticket ∧ s.id = id := by
  induction es using List.reverseRecOn with
  | nil => cases h
  | append_singleton es e ih =>
    rw [hearing_concat] at h
    rcases next_stage h with hold | ⟨s, rfl, hs⟩
    · obtain ⟨s, hmem, hs⟩ := ih hold
      exact ⟨s, mem_registrations_append hmem, hs⟩
    · exact ⟨s, mem_registrations_concat s, hs⟩

end Registered

end DirectoryClient.Link
