import DirectoryClient.Proofs.Link.Delivery
import DirectoryClient.Proofs.Link.Consumption

/-! Over a whole run of one transport, every response goes to the slot that the trace names. -/
namespace DirectoryClient.Link

section Receive

variable {l l' : Link} {m : Message} {rest : Octets}

private theorem dispatch_goesOn (m : Message) (l : Link) :
    (l.dispatch m).1 = !m.isNoticeOfDisconnection := by
  rw [dispatch]
  split
  · rfl
  · rename_i hid
    have hnot : m.isNoticeOfDisconnection = false := by
      rw [Message.isNoticeOfDisconnection]
      split
      · simp [hid]
      · rfl
    rw [hnot]
    rfl

/-- An open line takes the next message. -/
theorem receive_of_open (hopen : l.line.isOpen = true)
    (hnext : Message.next? l.inbound = some (.ok m, rest)) : l.receive? = some
      (if m.isNoticeOfDisconnection then ({ l with inbound := rest }.dispatch m).2.finish
      else ({ l with inbound := rest }.dispatch m).2) := by
  have hgoes := dispatch_goesOn m { l with inbound := rest }
  rcases hd : ({ l with inbound := rest } : Link).dispatch m with ⟨goesOn, l₁⟩
  rw [hd] at hgoes
  simp only [receive?, hnext, hd]
  rw [if_pos hopen, show goesOn = !m.isNoticeOfDisconnection from hgoes]
  cases m.isNoticeOfDisconnection <;> rfl

private theorem receive_eq (hnext : Message.next? l.inbound = some (.ok m, rest))
    (h : l.receive? = some l') : l' =
      if m.isNoticeOfDisconnection then ({ l with inbound := rest }.dispatch m).2.finish
      else ({ l with inbound := rest }.dispatch m).2 := by
  cases hopen : l.line.isOpen with
  | true =>
    rw [receive_of_open hopen hnext] at h
    exact (Option.some.inj h).symm
  | false =>
    rw [receive?, if_neg (by simp [hopen])] at h
    cases h

theorem garbled_eq {e : DirectoryError} (hnext : Message.next? l.inbound = some (.error e, rest))
    (h : l.receive? = some l') : l' = { l with inbound := rest }.finish := by
  rw [receive?, hnext] at h
  split at h
  · cases h
    rfl
  · cases h

end Receive

namespace Routing

variable {es e : List Event} {s s' : Traffic}

private theorem received (h : Routing es s.link) (hr : Requests es s) {m : Message} {rest : Octets}
    {l : Link} (hnext : Message.next? s.link.inbound = some (.ok m, rest))
    (hl : s.link.receive? = some l) : Routing (es ++ s.link.arrival m) l := by
  have hlink : Routing es { s.link with inbound := rest } := h.quiet (.of_eq rfl rfl) rfl rfl
  have hreq : Requests (es ++ []) { s with link := { s.link with inbound := rest } } :=
    hr.recede rfl rfl (.of_line rfl (Nat.le_refl _) (Nat.le_refl _))
  rw [List.append_nil] at hreq
  have hdispatched := Routing.dispatched
    (s := { s with link := { s.link with inbound := rest } }) hlink hreq m
  rw [receive_eq hnext hl, arrival]
  split
  · rw [List.append_cons]
    exact hdispatched.exited
  · exact hdispatched

private theorem step (h : Routing es s.link) (hr : Requests es s) (hstep : Step s e s') :
    Routing (es ++ e) s'.link := by
  have hquiet : ∀ {l : Link}, s.link.Quiet l → l.singles = s.link.singles →
      l.searches = s.link.searches → Routing (es ++ []) l := by
    intro l hq hsingles hsearches
    rw [List.append_nil]
    exact h.quiet hq hsingles hsearches
  cases hstep with
  | allocate id l hnext =>
    have hl : { s.link with line := s.link.line.nextId.2 } = l := congrArg Prod.snd hnext
    rw [← hl]
    exact (h.allocated id).quiet (.of_eq rfl rfl) rfl rfl
  | sendSingle id element controls hid =>
    have hslot : s.link.Quiet { s.link with replies := s.link.replies ++ [({} : Reply Message)] } :=
      ⟨by simp, Nat.le_refl _, fun t => (s.link.reply_new t).symm ▸ .refl _, fun _ => rfl,
        fun _ => rfl⟩
    exact hquiet (hslot.trans (.of_eq rfl rfl)) rfl rfl
  | sendSearch id element controls hid =>
    have hslot : s.link.Quiet { s.link with streams := s.link.streams ++ [({} : Stream)] } :=
      ⟨Nat.le_refl _, by simp, fun t => .refl _, fun t => congrArg _ (s.link.stream_new t),
        fun t => congrArg _ (s.link.stream_new t)⟩
    exact hquiet (hslot.trans (.of_eq rfl rfl)) rfl rfl
  | sendAbandon id target hid => exact hquiet (.of_eq rfl rfl) rfl rfl
  | sendUnbind id controls hid => exact hquiet (.of_eq rfl rfl) rfl rfl
  | transmit sub l ht => exact h.registered hr ht
  | feed octets => exact hquiet (.of_eq rfl rfl) rfl rfl
  | receive m rest l hnext hl => exact h.received hr hnext hl
  | garbled err rest l hnext hl =>
    have hlink : Routing es { s.link with inbound := rest } := h.quiet (.of_eq rfl rfl) rfl rfl
    rw [garbled_eq hnext hl]
    exact hlink.exited
  | exit ho => exact h.exited
  | examineReply t id late ht =>
    refine hquiet (s.link.quiet_setReply t ?_) rfl rfl
    rw [Reply.examine_slot]
    exact .refl _
  | cancelReply t interrupt ht =>
    exact hquiet (s.link.quiet_setReply t ((s.link.reply t).keeps_cancel interrupt)) rfl rfl
  | examineStream t id late ht => exact h.examined ht id late
  | cancelStream t interrupt ht => exact h.cancelled ht interrupt

/-- They agree at the end of every run in which the ids do not run in a circle. -/
private theorem run (hrun : Run {} es s) (hfew : (allocations es : Int) ≤ MessageIds.largest) :
    Requests es s ∧ Routing es s.link := by
  induction hrun with
  | start => exact ⟨.start, .start⟩
  | step hrun hstep ih =>
    rename_i es e s₁ s₂
    have hle : (allocations es : Int) ≤ allocations (es ++ e) := by
      rw [allocations_append]
      exact Int.ofNat_le.mpr (Nat.le_add_right _ _)
    obtain ⟨hreq, hrouting⟩ := ih (Int.le_trans hle hfew)
    exact ⟨hreq.step hstep hfew, hrouting.step hreq hstep⟩

end Routing

section Resolved

variable {l l' l'' : Link} {es e : List Event} {s s' : Traffic}

private def Resolved (l l' : Link) : Prop :=
  ∀ t, (l.reply t).Sound → (l'.reply t).Sound ∧
    ∀ o, (l.reply t).outcome = some o → (l'.reply t).outcome = some o

private theorem Resolved.trans (h : l.Resolved l') (h' : l'.Resolved l'') : l.Resolved l'' := by
  intro t hs
  obtain ⟨hs', ho⟩ := h t hs
  exact ⟨(h' t hs').1, fun o hold => (h' t hs').2 o (ho o hold)⟩

private theorem resolved_of_quiet (h : l.Quiet l') : l.Resolved l' :=
  fun t hs => ⟨(h.reply t).sound hs, (h.reply t).outcome hs⟩

private theorem resolved_dispatch (m : Message) (l : Link) : l.Resolved (l.dispatch m).2 := by
  rw [dispatch]
  split
  · exact resolved_of_quiet (.refl l)
  · cases hs : l.searches.lookup m.id with
    | some t =>
      intro u hu
      rw [route_search hs]
      split <;> exact ⟨hu, fun _ ho => ho⟩
    | none =>
      cases ht : l.singles.lookup m.id with
      | some t =>
        intro u hu
        have hreply : (l.route m).reply u = if u = t ∧ t < l.replies.length then
            ((l.reply t).complete (.ok m)).2 else l.reply u := by
          rw [route_single hs ht]
          exact reply_setReply _ t u _
        rw [hreply]
        split
        · rename_i hut
          rw [hut.1] at hu ⊢
          exact (l.reply t).complete_keeps (.ok m) hu
        · exact ⟨hu, fun _ ho => ho⟩
      | none =>
        rw [route_none hs ht]
        exact resolved_of_quiet (.refl l)

private theorem resolved_step (hstep : Step s e s') : s.link.Resolved s'.link := by
  cases hstep with
  | allocate id l hnext =>
    have hl : { s.link with line := s.link.line.nextId.2 } = l := congrArg Prod.snd hnext
    rw [← hl]
    exact resolved_of_quiet (.of_eq rfl rfl)
  | sendSingle id element controls hid =>
    intro t ht
    rw [← reply_new] at ht
    refine ⟨ht, fun o ho => ?_⟩
    rw [← reply_new] at ho
    exact ho
  | sendSearch id element controls hid => exact fun t ht => ⟨ht, fun _ ho => ho⟩
  | sendAbandon id target hid => exact resolved_of_quiet (.of_eq rfl rfl)
  | sendUnbind id controls hid => exact resolved_of_quiet (.of_eq rfl rfl)
  | transmit sub l ht =>
    obtain ⟨queue, -, rfl⟩ := queue_of_transmit ht
    have htaken : s.link.Quiet { s.link with line := { s.link.line with queue } } := .of_eq rfl rfl
    exact resolved_of_quiet (htaken.trans (quiet_register _ sub))
  | feed octets => exact resolved_of_quiet (.of_eq rfl rfl)
  | receive m rest l hnext hl =>
    have hin : s.link.Resolved { s.link with inbound := rest } := resolved_of_quiet (.of_eq rfl rfl)
    have hdispatch := hin.trans (resolved_dispatch m { s.link with inbound := rest })
    rw [receive_eq hnext hl]
    split
    · exact hdispatch.trans (resolved_of_quiet (quiet_finish _))
    · exact hdispatch
  | garbled err rest l hnext hl =>
    have hin : s.link.Quiet { s.link with inbound := rest } := .of_eq rfl rfl
    rw [garbled_eq hnext hl]
    exact resolved_of_quiet (hin.trans (quiet_finish _))
  | exit ho => exact resolved_of_quiet s.link.quiet_finish
  | examineReply t id late ht =>
    refine resolved_of_quiet (s.link.quiet_setReply t ?_)
    rw [Reply.examine_slot]
    exact .refl _
  | cancelReply t interrupt ht =>
    exact resolved_of_quiet (s.link.quiet_setReply t ((s.link.reply t).keeps_cancel interrupt))
  | examineStream t id late ht => exact fun t ht => ⟨ht, fun _ ho => ho⟩
  | cancelStream t interrupt ht => exact fun t ht => ⟨ht, fun _ ho => ho⟩

private theorem run_resolved (hrun : Run s es s') : s.link.Resolved s'.link := by
  induction hrun with
  | start => exact resolved_of_quiet (.refl _)
  | step _ hstep ih => exact ih.trans (resolved_step hstep)

end Resolved

section Unmatched

variable {l : Link} {m : Message} {rest : Octets}

def Unmatched (m : Message) (l : Link) : Prop :=
  m.id = 0 ∨ (∀ t, (m.id, t) ∉ l.singles) ∧ ∀ t, (m.id, t) ∉ l.searches

private theorem lookup_of_notMem {id : MessageId} {table : List (MessageId × Ticket)}
    (h : ∀ t, (id, t) ∉ table) : table.lookup id = none := by
  refine List.lookup_eq_none_iff.mpr fun p hp => ?_
  have hne : id ≠ p.1 := by
    rintro rfl
    exact h p.2 hp
  simpa using hne

/-- Such a message changes nothing. -/
theorem dispatch_unmatched (h : l.Unmatched m) : (l.dispatch m).2 = l := by
  rw [dispatch]
  split
  · rfl
  · rename_i hid
    rcases h with hzero | ⟨hsingles, hsearches⟩
    · exact absurd hzero hid
    · exact route_none (lookup_of_notMem hsearches) (lookup_of_notMem hsingles)

theorem receive_unmatched (hopen : l.line.isOpen = true)
    (hnext : Message.next? l.inbound = some (.ok m, rest)) (h : l.Unmatched m) :
    l.receive? = some (if m.isNoticeOfDisconnection then { l with inbound := rest }.finish
      else { l with inbound := rest }) := by
  have hsame := dispatch_unmatched (l := { l with inbound := rest }) (m := m) h
  rw [receive_of_open hopen hnext, hsame]

end Unmatched

structure Routed (es : List Event) (s : Traffic) : Prop where
  /-- A slot for one response holds no message but the first one with the id of its request that was
  dispatched after the request was registered. -/
  answered : ∀ t m, (s.link.reply t).outcome = some (.ok m) → awaiting t es = .answered m
  /-- It is resolved once. -/
  resolved : ∀ t o, (s.link.reply t).outcome = some o →
    ∀ es' s', Run s es' s' → (s'.link.reply t).outcome = some o
  /-- The slot of a search accepts what there is to hear of it. -/
  accepted : ∀ t, acceptedBy t es = (hearing t es).heard
  /-- What was accepted is read in that order, or still to be read, -/
  delivered : ∀ t, (hearing t es).isInterrupted = false →
    readBy t es ++ (s.link.stream t).queue = acceptedBy t es
  /-- unless the search was interrupted before it was read. -/
  dropped : ∀ t, readBy t es <+: acceptedBy t es
  /-- A message under an id without a slot changes no slot. -/
  unmatched : ∀ m, s.link.Unmatched m → (s.link.dispatch m).2 = s.link
  /-- A notice of disconnection among such messages ends the driver. -/
  received : ∀ m rest, s.link.line.isOpen = true →
    Message.next? s.link.inbound = some (.ok m, rest) → s.link.Unmatched m →
    s.link.receive? = some (if m.isNoticeOfDisconnection then { s.link with inbound := rest }.finish
      else { s.link with inbound := rest })

/-- Responses go where they belong in every run in which the ids do not run in a circle. -/
theorem routed_of_run {es : List Event} {s : Traffic} (hrun : Run {} es s)
    (hfew : (allocations es : Int) ≤ MessageIds.largest) : Routed es s where
  answered := (Routing.run hrun hfew).2.answered
  resolved t o ho _ _ hrun' := (run_resolved hrun' t ((Routing.run hrun hfew).2.sound t)).2 o ho
  accepted t := ((Routing.run hrun hfew).2.listens t).accepted
  delivered t ht := by
    rw [((Routing.run hrun hfew).2.listens t).accepted]
    exact ((Routing.run hrun hfew).2.listens t).delivered ht
  dropped t := by
    rw [((Routing.run hrun hfew).2.listens t).accepted]
    exact ((Routing.run hrun hfew).2.listens t).dropped
  unmatched _ h := dispatch_unmatched h
  received _ _ hopen hnext h := receive_unmatched hopen hnext h

end DirectoryClient.Link
