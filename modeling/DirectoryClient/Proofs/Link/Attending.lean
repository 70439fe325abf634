import DirectoryClient.Proofs.Link.Writing

/-! Every request that was sent is attended to: it is queued, or the driver waits for its responses, or
nobody waits at its slot. Whom the driver has not heard of when it leaves its loop is let down. -/
namespace DirectoryClient

namespace Link

variable {l : Link}

private def Attends (l : Link) (s : Submission) : Prop :=
  s ∈ l.line.queue ∨ l.Awaits s.operation ∨ l.IsSettled s.operation

def IsUnanswered (l : Link) : Operation → Prop
  | .single t => (l.reply t).IsUnanswered
  | .search t => (l.stream t).IsUnanswered
  | .abandon _ | .unbind => True

private theorem isUnanswered_close {o : Operation} (h : l.IsUnanswered o) (o' : Operation) :
    (l.close o').IsUnanswered o := by
  cases o' with
  | single t =>
    cases o with
    | single u =>
      rw [close, deliver, IsUnanswered, reply_setReply]
      split
      · rename_i hu
        exact Reply.IsUnanswered.close (hu.1 ▸ h)
      · exact h
    | search | abandon | unbind => exact h
  | search t =>
    cases o with
    | search u =>
      rw [close, failSearch, IsUnanswered, stream_setStream]
      split
      · rename_i hu
        exact Stream.IsUnanswered.close (hu.1 ▸ h)
      · exact h
    | single | abandon | unbind => exact h
  | abandon | unbind => exact h

private theorem isUnanswered_concludeSingle {o : Operation} (h : l.IsUnanswered o) (id : MessageId) :
    (l.concludeSingle id (.error .connectionClosed)).IsUnanswered o := by
  rw [concludeSingle]
  cases l.singles.lookup id with
  | none => cases o <;> exact h
  | some t =>
    have hclosed := isUnanswered_close h (.single t)
    cases o <;> exact hclosed

private theorem isUnanswered_concludeSearch {o : Operation} (h : l.IsUnanswered o) (id : MessageId) :
    (l.concludeSearch id .connectionClosed).IsUnanswered o := by
  rw [concludeSearch]
  cases l.searches.lookup id with
  | none => cases o <;> exact h
  | some t =>
    have hclosed := isUnanswered_close h (.search t)
    cases o <;> exact hclosed

end Link

namespace Driver

variable {d d' : Driver} {o : Operation}

namespace Touches

variable (h : Touches d d')
include h

private theorem tends : d.link.Tends d'.link where
  hasSlot := h.hasSlot
  settled o ho := by
    cases o with
    | single t =>
      rcases h.reply t with hr | ⟨interrupt, hr⟩ <;> rw [Link.IsSettled, hr]
      · exact ho
      · exact Reply.IsSettled.cancel ho interrupt
    | search t =>
      rcases h.stream t with hs | ⟨interrupt, hs⟩ | ⟨id, late, hs⟩ <;> rw [Link.IsSettled, hs]
      · exact ho
      · exact Stream.IsSettled.cancel ho interrupt
      · exact Stream.IsSettled.examine ho id late
    | abandon | unbind => trivial
  awaits o _ ha := by
    refine .inl ?_
    cases o with
    | single t => rwa [Link.Awaits, h.singles]
    | search t => rwa [Link.Awaits, h.searches]
    | abandon | unbind => exact ha

theorem isUnanswered (ho : d.link.IsUnanswered o) : d'.link.IsUnanswered o := by
  cases o with
  | single t =>
    rcases h.reply t with hr | ⟨interrupt, hr⟩ <;> rw [Link.IsUnanswered, hr]
    · exact ho
    · exact Reply.IsUnanswered.cancel ho interrupt
  | search t =>
    rcases h.stream t with hs | ⟨interrupt, hs⟩ | ⟨id, late, hs⟩ <;> rw [Link.IsUnanswered, hs]
    · exact ho
    · exact Stream.IsUnanswered.cancel ho interrupt
    · exact Stream.IsUnanswered.examine ho id late
  | abandon | unbind => trivial

end Touches

structure Attended (d : Driver) : Prop where
  keyed : d.link.Keyed
  hasSlot : ∀ s ∈ d.sent, d.link.HasSlot s.operation
  sent : ∀ s ∈ d.sent, d.link.Attends s

namespace Attended

theorem start : Attended {} where
  keyed := ⟨List.nodup_nil, List.nodup_nil⟩
  hasSlot := nofun
  sent := nofun

/-- Who has sent a request before goes on being attended to if that holds of those who are queued. -/
private theorem carry (h : Attended d) {l : Link} (hl : d.link.Tends l)
    (hqueue : ∀ s ∈ d.sent, s ∈ d.link.line.queue → l.Attends s) : ∀ s ∈ d.sent, l.Attends s := by
  intro s hs
  rcases h.sent s hs with hin | hawaits | hsettled
  · exact hqueue s hs hin
  · exact .inr (hl.awaits _ (h.hasSlot s hs) hawaits)
  · exact .inr (.inr (hl.settled _ hsettled))

private theorem use (h : Attended d) (hu : Use d d') : Attended d' := by
  have ht := hu.touches
  have hslots : ∀ s ∈ d.sent, d'.link.HasSlot s.operation :=
    fun s hs => ht.hasSlot _ (h.hasSlot s hs)
  refine ⟨⟨?_, ?_⟩, ?_, ?_⟩
  · rw [ht.singles]
    exact h.keyed.singles
  · rw [ht.searches]
    exact h.keyed.searches
  · rcases ht.request with ⟨-, hsent⟩ | ⟨s, -, -, hsent, hslot⟩ <;> rw [hsent]
    · exact hslots
    · exact List.forall_mem_append.mpr ⟨hslots, by simpa using hslot⟩
  · rcases ht.request with ⟨hq, hsent⟩ | ⟨s, -, hq, hsent, -⟩ <;> rw [hsent]
    · exact h.carry ht.tends fun _ _ hin => .inl (hq ▸ hin)
    · have hnew : s ∈ d'.link.line.queue := by
        rw [hq]
        exact List.mem_append_right _ (List.mem_singleton_self s)
      refine List.forall_mem_append.mpr ⟨?_, by simpa using .inl hnew⟩
      exact h.carry ht.tends fun _ _ hin => .inl (hq ▸ List.mem_append_left _ hin)

private theorem mono (h : Attended d) {l : Link} (hl : d.link.Tends l) (hk : l.Keyed)
    (hq : l.line.queue = d.link.line.queue) (p : Position) :
    Attended { d with link := l, position := p } where
  keyed := hk
  hasSlot s hs := hl.hasSlot _ (h.hasSlot s hs)
  sent := h.carry hl fun _ _ hin => .inl (hq ▸ hin)

private theorem shift (h : Attended d) {s : Submission} {queue : List Submission} {l : Link}
    (hqueue : d.link.line.queue = s :: queue) (hl : d.link.Tends l) (hk : l.Keyed)
    (hq : l.line.queue = queue)
    (hs : d.link.HasSlot s.operation → l.Awaits s.operation ∨ l.IsSettled s.operation)
    (p : Position) (wire : List Submission) :
    Attended { d with link := l, position := p, wire } where
  keyed := hk
  hasSlot s hs := hl.hasSlot _ (h.hasSlot s hs)
  sent := h.carry hl fun s' hs' hin => by
    rw [hqueue, List.mem_cons] at hin
    rcases hin with rfl | hin
    · exact .inr (hs (h.hasSlot s' hs'))
    · exact .inl (hq ▸ hin)

private theorem still (h : Attended d) {l : Link} (hr : l.replies = d.link.replies)
    (hs : l.streams = d.link.streams) (hsingles : l.singles = d.link.singles)
    (hsearches : l.searches = d.link.searches) (hq : l.line.queue = d.link.line.queue)
    (p : Position) : Attended { d with link := l, position := p } :=
  h.mono (.of_eq hr hs hsingles hsearches) ⟨hsingles ▸ h.keyed.singles, hsearches ▸ h.keyed.searches⟩
    hq p

private theorem step (h : Attended d) (hs : Step d d') : Attended d' := by
  cases hs with
  | @take s l hp ht =>
    obtain ⟨queue, hqueue, rfl⟩ := Link.queue_of_transmit ht
    have hk : ({ d.link with line := { d.link.line with queue } } : Link).Keyed :=
      ⟨h.keyed.singles, h.keyed.searches⟩
    have htaken : d.link.Tends { d.link with line := { d.link.line with queue } } :=
      .of_eq rfl rfl rfl rfl
    obtain ⟨htends, hkeyed, hcares⟩ := Link.tends_register hk s
    exact h.shift hqueue (htaken.trans htends) hkeyed (Link.untouched_register _ s).queue
      (fun _ => hcares) _ _
  | written | unwritten | garbled | hangUp | part | shut | finish =>
    refine h.still ?_ ?_ ?_ ?_ ?_ _ <;> rfl
  | @receive m rest hp _ =>
    have hk : ({ d.link with inbound := rest } : Link).Keyed := ⟨h.keyed.singles, h.keyed.searches⟩
    have hin : d.link.Tends { d.link with inbound := rest } := .of_eq rfl rfl rfl rfl
    obtain ⟨htends, hkeyed⟩ := Link.tends_dispatch hk m
    exact h.mono (hin.trans htends) hkeyed (Link.untouched_dispatch _ m).queue _
  | @letDown s queue hp hqueue =>
    have htaken : d.link.Tends { d.link with line := { d.link.line with queue } } :=
      .of_eq rfl rfl rfl rfl
    have htables := Link.tables_close { d.link with line := { d.link.line with queue } } s.operation
    refine h.shift hqueue (htaken.trans (Link.tends_close s.operation)) ⟨?_, ?_⟩ ?_ ?_ _ _
    · rw [show Link.singles _ = d.link.singles from congrArg (·.1) htables]
      exact h.keyed.singles
    · rw [show Link.searches _ = d.link.searches from congrArg (·.2.1) htables]
      exact h.keyed.searches
    · exact congrArg (·.2.2.queue) htables
    · exact fun hslot => .inr (Link.isSettled_close (htaken.hasSlot _ hslot))
  | @letDownSingle id t hp _ _ =>
    exact h.mono (Link.tends_concludeSingle id h.keyed _) (h.keyed.concludeSingle id _)
      (Link.untouched_concludeSingle _ id _).queue _
  | @letDownSearch id t hp _ _ _ =>
    exact h.mono (Link.tends_concludeSearch id h.keyed _) (h.keyed.concludeSearch id _)
      (Link.untouched_concludeSearch _ id _).queue _

theorem run (h : Attended d) (hr : Run d d') : Attended d' := by
  induction hr with
  | start => exact h
  | use _ hu ih => exact ih.use hu
  | step _ hs ih => exact ih.step hs

/-- Nobody waits any more once the driver has ended. -/
theorem settled (h : Attended d) (hf : Flow d) (hended : d.position = .ended) :
    ∀ s ∈ d.sent, d.link.IsSettled s.operation := by
  obtain ⟨hqueue, hsingles, hsearches⟩ := hf.ended hended
  intro s hs
  rcases h.sent s hs with hin | hawaits | hsettled
  · rw [hqueue] at hin
    cases hin
  · cases ho : s.operation with
    | single t =>
      rw [ho, Link.Awaits, hsingles] at hawaits
      obtain ⟨id, hid⟩ := hawaits
      cases hid
    | search t =>
      rw [ho, Link.Awaits, hsearches] at hawaits
      obtain ⟨id, hid⟩ := hawaits
      cases hid
    | abandon | unbind => trivial
  · exact hsettled

end Attended

section Leaving

def Position.isOut : Position → Bool
  | turning | writing _ => false
  | _ => true

/-- A driver that has left its loop does not return, and hands out no more responses. -/
private theorem step_out (hs : Step d d') (hp : d.position.isOut = true)
    (h : d.link.IsUnanswered o) : d'.position.isOut = true ∧ d'.link.IsUnanswered o := by
  have hsame : ∀ {l : Link}, l.replies = d.link.replies → l.streams = d.link.streams →
      l.IsUnanswered o := by
    intro l hr hs
    cases o with
    | single t => rwa [Link.IsUnanswered, Link.reply, hr]
    | search t => rwa [Link.IsUnanswered, Link.stream, hs]
    | abandon | unbind => trivial
  cases hs with
  | take ht | written ht | unwritten ht | receive ht | garbled ht | hangUp ht =>
    rw [ht] at hp
    cases hp
  | part | shut | finish => exact ⟨rfl, hsame rfl rfl⟩
  | @letDown s queue =>
    have htaken : ({ d.link with line := { d.link.line with queue } } : Link).IsUnanswered o :=
      hsame rfl rfl
    exact ⟨hp, Link.isUnanswered_close htaken _⟩
  | @letDownSingle id => exact ⟨hp, Link.isUnanswered_concludeSingle h id⟩
  | @letDownSearch id => exact ⟨hp, Link.isUnanswered_concludeSearch h id⟩

theorem Run.isUnanswered (hr : Run d d') (hp : d.position.isOut = true)
    (h : d.link.IsUnanswered o) : d'.link.IsUnanswered o := by
  have hout : d'.position.isOut = true ∧ d'.link.IsUnanswered o := by
    induction hr with
    | start => exact ⟨hp, h⟩
    | use _ hu ih => exact ⟨hu.touches.position ▸ ih.1, hu.touches.isUnanswered ih.2⟩
    | step _ hs ih => exact step_out hs ih.1 ih.2
  exact hout.2

end Leaving

end Driver

end DirectoryClient
