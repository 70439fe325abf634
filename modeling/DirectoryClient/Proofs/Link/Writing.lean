import DirectoryClient.Proofs.Link.Driving
import DirectoryClient.Proofs.Link.Requests
import DirectoryClient.Proofs.Link.Untouched

/-! What a driver writes: requests in the order in which they were sent, and none after one to end the
session. -/
namespace DirectoryClient

namespace Link

variable (l : Link) (id : MessageId)

theorem untouched_concludeSingle (o : Outcome Message) : l.Untouched (l.concludeSingle id o) := by
  rw [concludeSingle]
  cases l.singles.lookup id <;> exact ⟨rfl, rfl, rfl, rfl⟩

theorem untouched_concludeSearch (e : DirectoryError) : l.Untouched (l.concludeSearch id e) := by
  rw [concludeSearch]
  cases l.searches.lookup id <;> exact ⟨rfl, rfl, rfl, rfl⟩

end Link

namespace Driver

/-- Requests are taken until the driver lets down those who wait. -/
def Position.takes : Position → Bool
  | draining | ended => false
  | _ => true

/-- What was sent has been written or is still queued, and one to end the session is the last that is
written. -/
structure Flow (d : Driver) : Prop where
  isOpen : d.link.line.isOpen = d.position.takes
  sent : d.position.takes = true → d.sent = d.wire ++ d.link.line.queue
  written : d.wire <+: d.sent
  last : ∀ s ∈ d.wire.dropLast, s.operation ≠ .unbind
  turning : d.position = .turning → ∀ s ∈ d.wire, s.operation ≠ .unbind
  writing : ∀ s, d.position = .writing s → d.wire.getLast? = some s
  ended : d.position = .ended →
    d.link.line.queue = [] ∧ d.link.singles = [] ∧ d.link.searches = []

namespace Flow

variable {d d' : Driver}

theorem start : Flow {} where
  isOpen := rfl
  sent _ := rfl
  written := List.prefix_refl _
  last := nofun
  turning _ := nofun
  writing _ := nofun
  ended := nofun

private theorem use (h : Flow d) (hu : Use d d') : Flow d' := by
  have ht := hu.touches
  have hsent : d'.sent = d.sent ∨ ∃ s, d'.sent = d.sent ++ [s] := by
    rcases ht.request with ⟨-, hs⟩ | ⟨s, -, -, hs, -⟩
    · exact .inl hs
    · exact .inr ⟨s, hs⟩
  refine ⟨?_, ?_, ?_, ?_, ?_, ?_, ?_⟩
  · rw [ht.isOpen, ht.position]
    exact h.isOpen
  · intro htakes
    rw [ht.position] at htakes
    rw [ht.wire]
    rcases ht.request with ⟨hq, hs⟩ | ⟨s, -, hq, hs, -⟩
    · rw [hs, hq]
      exact h.sent htakes
    · rw [hs, hq, h.sent htakes, List.append_assoc]
  · rw [ht.wire]
    rcases hsent with hs | ⟨s, hs⟩ <;> rw [hs]
    · exact h.written
    · exact h.written.trans (List.prefix_append _ _)
  · rw [ht.wire]
    exact h.last
  · rw [ht.position, ht.wire]
    exact h.turning
  · rw [ht.position, ht.wire]
    exact h.writing
  · rw [ht.position, ht.singles, ht.searches]
    intro hended
    rcases ht.request with ⟨hq, -⟩ | ⟨s, ho, -⟩
    · rw [hq]
      exact h.ended hended
    · rw [h.isOpen, hended] at ho
      cases ho

/-- A section at the end of which the driver stands elsewhere, and nothing is sent or written. -/
private theorem move (h : Flow d) {l : Link} {p : Position}
    (hl : l.line.queue = d.link.line.queue ∧ l.line.isOpen = d.link.line.isOpen)
    (hp : d.position.takes = true) (hp' : p.takes = true)
    (hturning : p = .turning → ∀ s ∈ d.wire, s.operation ≠ .unbind)
    (hwriting : ∀ s, p ≠ .writing s) : Flow { d with link := l, position := p } where
  isOpen := by
    rw [hp', hl.2, h.isOpen, hp]
  sent _ := by
    rw [hl.1]
    exact h.sent hp
  written := h.written
  last := h.last
  turning := hturning
  writing s hs := absurd hs (hwriting s)
  ended hended := by
    rw [show p = .ended from hended] at hp'
    cases hp'

private theorem drain (h : Flow d) {l : Link} {p : Position} (hopen : l.line.isOpen = false)
    (hp : p.takes = false)
    (hended : p = .ended → l.line.queue = [] ∧ l.singles = [] ∧ l.searches = []) :
    Flow { d with link := l, position := p } where
  isOpen := hopen.trans hp.symm
  sent ht := absurd (hp.symm.trans ht) nofun
  written := h.written
  last := h.last
  turning ht := by
    rw [show p = .turning from ht] at hp
    cases hp
  writing s hs := by
    rw [show p = .writing s from hs] at hp
    cases hp
  ended := hended

private theorem closed (h : Flow d) (hp : d.position = .draining) : d.link.line.isOpen = false := by
  rw [h.isOpen, hp]
  rfl

private theorem take (h : Flow d) {s : Submission} {l : Link} (hp : d.position = .turning)
    (ht : d.link.transmit? = some (s, l)) :
    Flow { d with link := l, position := .writing s, wire := d.wire ++ [s] } := by
  obtain ⟨queue, hqueue, rfl⟩ := Link.queue_of_transmit ht
  have hq := Link.untouched_register { d.link with line := { d.link.line with queue } } s
  have htakes : d.position.takes = true := by rw [hp]; rfl
  have hsent : d.sent = d.wire ++ [s] ++ queue := by
    rw [h.sent htakes, hqueue, List.append_assoc]
    rfl
  refine ⟨?_, fun _ => ?_, ?_, ?_, nofun, fun s' hs' => ?_, nofun⟩
  · rw [hq.isOpen]
    exact h.isOpen.trans htakes
  · rw [hq.queue]
    exact hsent
  · rw [hsent]
    exact List.prefix_append _ _
  · rw [List.dropLast_concat]
    exact h.turning hp
  · cases hs'
    exact List.getLast?_concat

/-- Once a request is written, the driver goes on, unless the session is over. -/
private theorem unbinding (h : Flow d) {s : Submission} (hp : d.position = .writing s)
    (hs : s.operation ≠ .unbind) : ∀ s' ∈ d.wire, s'.operation ≠ .unbind := by
  obtain ⟨front, hwire⟩ := List.getLast?_eq_some_iff.mp (h.writing s hp)
  have hlast := h.last
  rw [hwire, List.dropLast_concat] at hlast
  intro s' hs'
  rw [hwire, List.mem_append, List.mem_singleton] at hs'
  rcases hs' with hs' | rfl
  · exact hlast s' hs'
  · exact hs

private theorem step (h : Flow d) (hs : Step d d') : Flow d' := by
  have hloop : ∀ {p : Position}, d.position = p → p.takes = true → d.position.takes = true :=
    fun hp ht => hp ▸ ht
  cases hs with
  | take hp ht => exact h.take hp ht
  | @written s hp =>
    refine h.move ⟨rfl, rfl⟩ (hloop hp rfl) ?_ ?_ ?_ <;> split
    · rfl
    · rfl
    · exact nofun
    · rename_i hs
      exact fun _ => h.unbinding hp hs
    · exact nofun
    · exact nofun
  | unwritten hp => exact h.move ⟨rfl, rfl⟩ (hloop hp rfl) rfl nofun nofun
  | @receive m rest hp _ =>
    have hq := Link.untouched_dispatch { d.link with inbound := rest } m
    refine h.move ⟨hq.queue, hq.isOpen⟩ (hloop hp rfl) ?_ (fun _ => h.turning hp) ?_ <;> split
    · rfl
    · rfl
    · exact nofun
    · exact nofun
  | garbled hp _ => exact h.move ⟨rfl, rfl⟩ (hloop hp rfl) rfl nofun nofun
  | hangUp hp => exact h.move ⟨rfl, rfl⟩ (hloop hp rfl) rfl nofun nofun
  | part hp => exact h.move ⟨rfl, rfl⟩ (hloop hp rfl) rfl nofun nofun
  | shut hp => exact h.drain rfl rfl nofun
  | @letDown s queue hp _ =>
    have hline := congrArg (·.2.2) (Link.tables_close
      { d.link with line := { d.link.line with queue } } s.operation)
    refine h.drain ?_ (by rw [hp]; rfl) (by rw [hp]; nofun)
    rw [show (Link.close s.operation { d.link with line := { d.link.line with queue } }).line =
      { d.link.line with queue } from hline]
    exact h.closed hp
  | @letDownSingle id _ hp _ _ =>
    have hq := d.link.untouched_concludeSingle id (.error .connectionClosed)
    exact h.drain (hq.isOpen.trans (h.closed hp)) (by rw [hp]; rfl) (by rw [hp]; nofun)
  | @letDownSearch id _ hp _ _ _ =>
    have hq := d.link.untouched_concludeSearch id .connectionClosed
    exact h.drain (hq.isOpen.trans (h.closed hp)) (by rw [hp]; rfl) (by rw [hp]; nofun)
  | finish hp hq hsingles hsearches =>
    exact h.drain (h.closed hp) rfl fun _ => ⟨hq, hsingles, hsearches⟩

theorem run (h : Flow d) (hr : Run d d') : Flow d' := by
  induction hr with
  | start => exact h
  | use _ hu ih => exact ih.use hu
  | step _ hs ih => exact ih.step hs

/-- Nothing is written after a request to end the session. -/
theorem last_unbind (h : Flow d) {front back : List Submission} {u : Submission}
    (hwire : d.wire = front ++ u :: back) (hu : u.operation = .unbind) : back = [] := by
  rcases List.eq_nil_or_concat back with hback | ⟨back, s, rfl⟩
  · exact hback
  · refine absurd hu (h.last u ?_)
    rw [hwire, List.concat_eq_append, ← List.cons_append, ← List.append_assoc, List.dropLast_concat]
    simp

theorem once (h : Flow d) : d.wire.countP (·.operation = .unbind) ≤ 1 := by
  have hlast := h.last
  rcases List.eq_nil_or_concat d.wire with hwire | ⟨front, s, hwire⟩
  · rw [hwire]
    exact Nat.zero_le 1
  · rw [hwire, List.concat_eq_append, List.dropLast_concat] at hlast
    have hfront : front.countP (·.operation = .unbind) = 0 :=
      List.countP_eq_zero.mpr fun s hs => by simpa using hlast s hs
    rw [hwire, List.concat_eq_append, List.countP_append, hfront, Nat.zero_add]
    exact List.countP_le_length

/-- What was sent after a request to end the session is not written. -/
theorem beyond (h : Flow d) {front back : List Submission} {u : Submission}
    (hsent : d.sent = front ++ u :: back) (hu : u.operation = .unbind) : d.wire <+: front ++ [u] := by
  have hfront : front ++ [u] <+: d.sent := by
    rw [hsent]
    exact ⟨back, by rw [List.append_assoc, List.singleton_append]⟩
  rcases List.prefix_or_prefix_of_prefix h.written hfront with hwire | ⟨rest, hrest⟩
  · exact hwire
  · rw [List.append_assoc, List.singleton_append] at hrest
    rw [h.last_unbind hrest.symm hu] at hrest
    exact ⟨[], (List.append_nil _).trans hrest.symm⟩

end Flow

end Driver

end DirectoryClient
