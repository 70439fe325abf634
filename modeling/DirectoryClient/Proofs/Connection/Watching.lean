import DirectoryClient.Proofs.Connection.Logging

/-! A world in which it is noted how long callers have waited, besides what they have asked for; and what
is noted of one request and its response. -/
namespace DirectoryClient

open Slot (Waiter)

variable {ω : Type}

namespace Slot.Waiter

variable {σ α : Type} [Slot σ α] {id : MessageId} {now : Nat}

/-- Whoever gives an operation up is finished, with its time over. -/
private theorem go_abandons (steps : Nat) {w : Waiter α} {s : σ} {abandons : Bool}
    (h : abandons = true → w.position = .finished (.error (.responseTimeout id)))
    (hgo : (run.go id now steps w s abandons).abandons = true) :
    (run.go id now steps w s abandons).waiter.position = .finished (.error (.responseTimeout id)) := by
  induction steps generalizing w s abandons with
  | zero => exact h hgo
  | succ steps ih =>
    have hstep : (abandons || (w.step id now s).abandons) = true →
        (w.step id now s).waiter.position = .finished (.error (.responseTimeout id)) := by
      intro hor
      rcases Bool.or_eq_true_iff.mp hor with hbefore | hnow
      · rw [step, h hbefore]
        exact h hbefore
      · rw [step] at hnow ⊢
        split at hnow
        · cases hnow
        · split at hnow <;> cases hnow
        · split at hnow
          · rfl
          · cases hnow
    rw [run.go] at hgo ⊢
    split at hgo
    · rename_i hsleeps
      rw [if_pos hsleeps]
      exact hstep hgo
    · rename_i hsleeps
      rw [if_neg hsleeps]
      exact ih hstep hgo

theorem run_abandons {deadline : Option Nat} {s : σ}
    (h : (run id now ({ deadline } : Waiter α) s).abandons = true) :
    (run id now ({ deadline } : Waiter α) s).waiter.outcome? = some (.error (.responseTimeout id)) := by
  have hposition := go_abandons 4 (by exact nofun) h
  rw [outcome?, run, hposition]

end Slot.Waiter

namespace Reply

variable {α : Type} (id : MessageId) (r : Reply α)

private theorem run_unhurried : (Waiter.run id 0 { deadline := none } r).abandons = false := by
  rcases r with ⟨phase | phase | ⟨_ | _⟩, _ | o⟩ <;> rfl

/-- Whoever is late finds the outcome, or gives the operation up. -/
private theorem run_late : (Waiter.run id 0 { deadline := some 0 } r).waiter.outcome?.isSome = true := by
  rcases r with ⟨phase | phase | ⟨_ | _⟩, _ | o⟩ <;> rfl

end Reply

structure Timed (ω : Type) where
  world : ω
  waited : List Nat := []

def Network.timing (n : Network ω) : Network (Timed ω) where
  clock w := n.clock w.world
  connect w := ((n.connect w.world).1, { w with world := (n.connect w.world).2 })
  link t w := n.link t w.world
  setLink t l w := { w with world := n.setLink t l w.world }
  settle w := { w with world := n.settle w.world }
  pass span w := { world := n.pass span w.world, waited := w.waited ++ [span] }

abbrev Watched (ω : Type) := Logged (Timed ω)

def Network.watching (n : Network ω) : Network (Watched ω) := n.timing.logging

structure Watched.Adds (requests : List (TransportId × Submission)) (spans : List Nat)
    (w w' : Watched ω) : Prop where
  sent : w'.sent = w.sent ++ requests
  waited : w'.world.waited = w.world.waited ++ spans

namespace Watched.Adds

variable {requests requests' : List (TransportId × Submission)} {spans spans' : List Nat}
  {w w' w'' : Watched ω}

theorem refl (w : Watched ω) : Adds [] [] w w := ⟨(List.append_nil _).symm, (List.append_nil _).symm⟩

theorem trans (h : Adds requests spans w w') (h' : Adds requests' spans' w' w'') :
    Adds (requests ++ requests') (spans ++ spans') w w'' where
  sent := by rw [h'.sent, h.sent, List.append_assoc]
  waited := by rw [h'.waited, h.waited, List.append_assoc]

end Watched.Adds

open Watched (Adds)

def abandonment (t : TransportId) (target id : MessageId) : TransportId × Submission :=
  (t, { id, operation := .abandon target, element := Request.abandon target })

/-- Whoever gives an operation up queues a request for that at most. -/
private theorem Link.queue_abandon (l : Link) (target : MessageId) : ∃ added,
    (l.abandon target).2.line.queue = l.line.queue ++ added ∧
      (added = [] ∨ ∃ id, added =
        [{ id, operation := .abandon target, element := Request.abandon target }]) := by
  rw [abandon, Line.abandon, Line.nextId]
  cases l.line.ids.next with
  | error e => exact ⟨[], (List.append_nil _).symm, .inl rfl⟩
  | ok x =>
    simp only [Line.send]
    split
    · exact ⟨_, rfl, .inr ⟨x.1, rfl⟩⟩
    · exact ⟨[], (List.append_nil _).symm, .inl rfl⟩

namespace Network

variable {n : Network ω} {t : TransportId} {w : Watched ω}

theorem adds_withLink {α : Type} {f : Link → α × Link} {added : List Submission}
    (hadded : (f (n.link t w.world.world)).2.line.queue =
      (n.link t w.world.world).line.queue ++ added) :
    Adds (added.map (t, ·)) [] w (n.watching.withLink t f w).2 where
  sent := sent_withLink (n := n.timing) hadded
  waited := (List.append_nil _).symm

theorem adds_nextId : Adds [] [] w (n.watching.withLink t Link.nextId w).2 := by
  have hnone : (Link.nextId (n.link t w.world.world)).2.line.queue =
      (n.link t w.world.world).line.queue ++ [] := (Link.queue_nextId _).trans (List.append_nil _).symm
  exact adds_withLink hnone

/-- Nobody is told that an operation is given up if there is no id, or nobody to tell. -/
theorem adds_abandon (target : MessageId) : ∃ requests,
    Adds requests [] w (n.watching.withLink t (Link.abandon target) w).2 ∧
      (requests = [] ∨ ∃ id, requests = [abandonment t target id]) := by
  obtain ⟨added, hadded, hcases⟩ := (n.link t w.world.world).queue_abandon target
  refine ⟨_, adds_withLink hadded, ?_⟩
  rcases hcases with rfl | ⟨id, rfl⟩
  · exact .inl rfl
  · exact .inr ⟨id, rfl⟩

/-- The spans of a wait for a response: with a timeout there is one at most, and without one any number of
units. -/
def Spans (p : Pending) (spans : List Nat) : Prop :=
  ∃ k, spans = List.replicate k (p.timeout.getD 1) ∧ (p.timeout.isSome = true → k ≤ 1)

/-- What is noted of the wait for a response, if this comes of it: how long it has been waited, and that
the operation has been given up, for which there has to be a timeout. -/
inductive Waited (p : Pending) : Outcome Message → List (TransportId × Submission) → List Nat → Prop
  | answered (o : Outcome Message) (spans : List Nat) : Spans p spans → Waited p o [] spans
  | givenUp (id : MessageId) (spans : List Nat) : p.timeout.isSome = true → Spans p spans →
    Waited p (.error (.responseTimeout p.id)) [abandonment p.transport p.id id] spans

inductive GivesUp (p : Pending) (late : Bool) (o : Option (Outcome Message)) :
    List (TransportId × Submission) → Prop
  | no : GivesUp p late o []
  | yes (id : MessageId) : late = true → o = some (.error (.responseTimeout p.id)) →
    GivesUp p late o [abandonment p.transport p.id id]

private theorem adds_look (p : Pending) (late : Bool) (w : Watched ω) : ∃ requests,
    Adds requests [] w ((n.watching.replyAccess p).look p.id late w).2 ∧
      GivesUp p late ((n.watching.replyAccess p).look p.id late w).1 requests := by
  simp only [Slot.Access.look]
  generalize hstep : Waiter.run p.id 0
    ({ deadline := if late = true then some 0 else none } : Waiter Message)
    ((n.watching.replyAccess p).get w) = step
  have hput : Adds [] [] w ((n.watching.replyAccess p).put step.slot w) :=
    adds_withLink (f := fun l => ((), l.setReply p.ticket step.slot)) (List.append_nil _).symm
  split
  · rename_i habandons
    obtain ⟨requests, hadds, hrequests⟩ := adds_abandon (n := n) (t := p.transport)
      (w := (n.watching.replyAccess p).put step.slot w) p.id
    refine ⟨requests, hput.trans hadds, ?_⟩
    rcases hrequests with rfl | ⟨id, rfl⟩
    · exact .no
    · have hlate : late = true := by
        cases late with
        | true => rfl
        | false =>
          rw [← hstep] at habandons
          cases habandons.symm.trans (Reply.run_unhurried _ _)
      have hover : step.waiter.outcome? = some (.error (.responseTimeout p.id)) := by
        rw [← hstep] at habandons ⊢
        exact Waiter.run_abandons habandons
      exact .yes id hlate hover
  · exact ⟨[], hput, .no⟩

/-- Whoever looks again gives up at once if there is a timeout, and goes on for any number of units
otherwise. -/
private theorem adds_await_some {p : Pending} {w : Watched ω} {x : Outcome Message × Watched ω}
    (hx : (n.watching.replyAccess p).await? p.id w = some x) : ∃ requests k,
      Adds requests (List.replicate k (p.timeout.getD 1)) w x.2 ∧
        GivesUp p p.timeout.isSome (some x.1) requests ∧ (p.timeout.isSome = true → k ≤ 1) := by
  refine Slot.Access.await?.partial_correctness (n.watching.replyAccess p) p.id
    (fun w x => ∃ requests k, Adds requests (List.replicate k (p.timeout.getD 1)) w x.2 ∧
      GivesUp p p.timeout.isSome (some x.1) requests ∧ (p.timeout.isSome = true → k ≤ 1))
    (fun await ih w x hx => ?_) w x hx
  have hpass : Adds [] [p.timeout.getD 1] w ((n.watching.replyAccess p).pass w) :=
    ⟨(List.append_nil _).symm, rfl⟩
  obtain ⟨requests, hlook, hgives⟩ := adds_look (n := n) p p.timeout.isSome
    ((n.watching.replyAccess p).pass w)
  have hlooked := hpass.trans hlook
  rw [show (n.watching.replyAccess p).isBounded = p.timeout.isSome from rfl] at hx
  rcases hout : (n.watching.replyAccess p).look p.id p.timeout.isSome
    ((n.watching.replyAccess p).pass w) with ⟨_ | o, w'⟩ <;> rw [hout] at hx hlooked hgives
  · cases hgives with
    | yes _ _ hnone => cases hnone
    | no =>
      have hunbounded : p.timeout.isSome = false := by
        cases hbounded : p.timeout.isSome with
        | false => rfl
        | true =>
          rw [hbounded] at hout
          cases (congrArg (fun y => Option.isSome (Prod.fst y)) hout).symm.trans
            (Reply.run_late p.id _)
      obtain ⟨requests', k, hrest, hgives', -⟩ := ih w' x hx
      refine ⟨requests', k + 1, ?_, hgives', fun hbounded => ?_⟩
      · rw [Nat.add_comm, List.replicate_add]
        exact hlooked.trans hrest
      · cases hunbounded.symm.trans hbounded
  · cases hx
    exact ⟨requests, 1, hlooked, hgives, fun _ => Nat.le_refl 1⟩

private theorem adds_await (p : Pending) (w : Watched ω) : ∃ requests spans,
    Waited p (n.watching.await p w).1 requests spans ∧
      Adds requests spans w (n.watching.await p w).2 := by
  have hsettle : Adds [] [] w ((n.watching.replyAccess p).settle w) :=
    ⟨(List.append_nil _).symm, (List.append_nil _).symm⟩
  obtain ⟨requests, hlook, hgives⟩ := adds_look (n := n) p false
    ((n.watching.replyAccess p).settle w)
  have hlooked := hsettle.trans hlook
  rw [await, Slot.Access.wait, Slot.Access.wait?]
  generalize (n.watching.replyAccess p).look p.id false _ = looked at hlooked hgives ⊢
  obtain rfl : requests = [] := by
    cases hgives with
    | no => rfl
    | yes id hlate => cases hlate
  obtain ⟨_ | o, w₁⟩ := looked
  · simp only
    rcases hx : (n.watching.replyAccess p).await? p.id w₁ with _ | x
    · exact ⟨[], [], .answered _ _ ⟨0, rfl, fun _ => Nat.zero_le 1⟩, .refl w⟩
    · obtain ⟨requests, k, hrest, hgives, hk⟩ := adds_await_some hx
      refine ⟨requests, _, ?_, hlooked.trans hrest⟩
      cases hgives with
      | no => exact .answered _ _ ⟨k, rfl, hk⟩
      | yes id hbounded hover =>
        rw [Option.getD_some, Option.some.inj hover]
        exact .givenUp id _ hbounded ⟨k, rfl, hk⟩
  · exact ⟨[], [], .answered _ _ ⟨0, rfl, fun _ => Nat.zero_le 1⟩, hlooked⟩

/-- A request is queued, with a slot for its response, unless nobody takes it. -/
private theorem adds_sendSingle (id : MessageId) (request : Ber.Element)
    (controls : Option (List Control)) :
    match n.watching.withLink t (Link.sendSingle id request controls) w with
    | (.error _, w') => Adds [] [] w w'
    | (.ok ticket, w') =>
      Adds [(t, { id, operation := .single ticket, element := request, controls })] [] w w' := by
  have houtcome : (n.watching.withLink t (Link.sendSingle id request controls) w).1 =
      ((n.link t w.world.world).sendSingle id request controls).1 := rfl
  have hadds : ∀ {added : List Submission},
      ((n.link t w.world.world).sendSingle id request controls).2.line.queue =
        (n.link t w.world.world).line.queue ++ added →
      Adds (added.map (t, ·)) [] w
        (n.watching.withLink t (Link.sendSingle id request controls) w).2 := adds_withLink
  generalize n.watching.withLink t (Link.sendSingle id request controls) w = r at houtcome hadds
  generalize n.link t w.world.world = l at houtcome hadds
  obtain ⟨o, w'⟩ := r
  cases hopen : l.line.isOpen with
  | true =>
    have hok : (l.sendSingle id request controls).1 = .ok l.replies.length := by
      simp [Link.sendSingle, Link.send, Line.send, hopen, Except.map]
    obtain rfl := houtcome.trans hok
    exact hadds (Link.queue_send hopen _)
  | false =>
    have herror : (l.sendSingle id request controls).1 = .error .connectionClosed := by
      simp [Link.sendSingle, Link.send, Line.send, hopen, Except.map]
    have hnone : (l.sendSingle id request controls).2.line.queue = l.line.queue ++ [] := by
      simp [Link.sendSingle, Link.send, Line.send, Line.release, hopen]
    obtain rfl := houtcome.trans herror
    exact hadds hnone

def ask (n : Network ω) (t : TransportId) (timeout : Option Nat) (controls : Option (List Control))
    (request : Ber.Element) (w : ω) : Outcome Message × ω :=
  match n.withLink t Link.nextId w with
  | (.error e, w) => (.error e, w)
  | (.ok id, w) =>
    match n.withLink t (Link.sendSingle id request controls) w with
    | (.error e, w) => (.error e, w)
    | (.ok ticket, w) => n.await { transport := t, id, ticket, timeout } w

/-- What is noted of a request that has one response, if this comes of it: whether it has been made, how
long its response has been waited for, and that it has been given up. -/
inductive Asked (t : TransportId) (timeout : Option Nat) (controls : Option (List Control))
    (request : Ber.Element) : Outcome Message → List (TransportId × Submission) → List Nat → Prop
  | refused (e : DirectoryError) : Asked t timeout controls request (.error e) [] []
  | made (id : MessageId) (ticket : Ticket) {o : Outcome Message}
    {requests : List (TransportId × Submission)} {spans : List Nat} :
    Waited { transport := t, id, ticket, timeout } o requests spans →
    Asked t timeout controls request o
      ((t, { id, operation := .single ticket, element := request, controls }) :: requests) spans

theorem adds_ask (timeout : Option Nat) (controls : Option (List Control)) (request : Ber.Element) :
    ∃ requests spans,
      Asked t timeout controls request (n.watching.ask t timeout controls request w).1 requests spans ∧
        Adds requests spans w (n.watching.ask t timeout controls request w).2 := by
  have hnext := adds_nextId (n := n) (t := t) (w := w)
  rw [ask]
  generalize n.watching.withLink t Link.nextId w = r at hnext
  obtain ⟨e | id, w₁⟩ := r
  · exact ⟨_, _, .refused e, hnext⟩
  · have hsend := adds_sendSingle (n := n) (t := t) (w := w₁) id request controls
    simp only
    generalize n.watching.withLink t (Link.sendSingle id request controls) w₁ = r at hsend
    obtain ⟨e | ticket, w₂⟩ := r
    · exact ⟨_, _, .refused e, hnext.trans hsend⟩
    · obtain ⟨requests, spans, hwaited, hadds⟩ := adds_await (n := n) (w := w₂)
        { transport := t, id, ticket, timeout }
      exact ⟨_, _, .made id ticket hwaited, hnext.trans (hsend.trans hadds)⟩

end Network

end DirectoryClient
