import DirectoryClient.Proofs.Link.Routing

/-! Slots still agree with the trace after a consumer has looked into the slot of a search or cancelled
it. -/
namespace DirectoryClient

namespace Link

variable {es : List Event} {l l' : Link} {m : Message} {t : Ticket}

section Slots

variable {ms : List Message}

private theorem Listens.read (h : Listens es l t) (hphase : (l.stream t).phase ≠ .cancelled true)
    (hqueue : (l.stream t).queue = m :: ms) (hstream : l'.stream t = { l.stream t with queue := ms }) :
    Listens (es ++ [.read t m]) l' t := by
  have hh : hearing t (es ++ [.read t m]) = hearing t es := hearing_concat ..
  have hread : readBy t (es ++ [.read t m]) = readBy t es ++ [m] := by
    rw [readBy_append]
    simp [readBy]
  have hreg : registrations (es ++ [.read t m]) = registrations es := by
    rw [registrations_append]
    exact List.append_nil _
  have hopen : (hearing t es).isInterrupted = false := by
    cases hint : (hearing t es).isInterrupted with
    | true => exact absurd (h.interrupted.mpr hint) hphase
    | false => rfl
  have hnext : readBy t es ++ [m] ++ ms = (hearing t es).heard := by
    rw [List.append_assoc, List.singleton_append, ← hqueue]
    exact h.delivered hopen
  refine ⟨?_, fun hcompleted => ?_, ?_, fun _ => ?_, ?_⟩
  · rw [hstream, hh]
    exact h.interrupted
  · rw [hstream] at hcompleted
    rw [hh, hreg]
    exact h.completed hcompleted
  · rw [acceptedBy_append, hh, ← h.accepted]
    exact List.append_nil _
  · rw [hread, hstream, hh]
    exact hnext
  · rw [hread, hh, ← hnext]
    exact List.prefix_append _ ms

private theorem Listens.interrupt (h : Listens es l t)
    (hstream : l'.stream t = { l.stream t with phase := .cancelled true, queue := [] }) :
    Listens (es ++ [.interrupted t]) l' t := by
  have hh : hearing t (es ++ [.interrupted t]) = { hearing t es with isInterrupted := true } := by
    rw [hearing_concat, Hearing.next, if_pos rfl]
  refine ⟨?_, fun hcompleted => ?_, ?_, fun hopen => ?_, ?_⟩
  · rw [hstream, hh]
    exact ⟨fun _ => rfl, fun _ => rfl⟩
  · rw [hstream] at hcompleted
    cases hcompleted
  · rw [acceptedBy_append, hh, ← h.accepted]
    exact List.append_nil _
  · rw [hh] at hopen
    cases hopen
  · rw [readBy_append, hh]
    exact (List.append_nil (readBy t es)).symm ▸ h.dropped

/-- A cancellation that lets the search run out changes nothing of what is heard. -/
private theorem Listens.let_run_out (h : Listens es l t) (hphase : (l.stream t).phase = .pending)
    (hstream : l'.stream t = { l.stream t with phase := .cancelled false }) : Listens es l' t := by
  refine ⟨?_, fun hcompleted => ?_, h.accepted, fun hopen => ?_, h.dropped⟩
  · rw [← h.interrupted, hstream, hphase]
    exact ⟨nofun, nofun⟩
  · rw [hstream] at hcompleted
    cases hcompleted
  · rw [hstream]
    exact h.delivered hopen

end Slots

namespace Routing

variable {x : Stream}

private theorem stream_set (ht : t < l.streams.length) :
    (l.setStream t x).stream t = x := by
  rw [stream_setStream, if_pos ⟨rfl, ht⟩]

private theorem stream_set_of_ne {u : Ticket} (hu : u ≠ t) :
    (l.setStream t x).stream u = l.stream u := by
  rw [stream_setStream, if_neg fun h => hu h.1]

/-- What happens at one slot, and is heard nowhere, leaves tables and other slots in agreement. -/
private theorem at_slot {e : Event} (h : Routing es l)
    (ha : ∀ u, awaiting u (es ++ [e]) = awaiting u es)
    (hh : ∀ u, (hearing u (es ++ [e])).stage = (hearing u es).stage)
    (hothers : ∀ u, u ≠ t → Unheard u es (es ++ [e]))
    (hslot : Listens (es ++ [e]) (l.setStream t x) t) :
    Routing (es ++ [e]) (l.setStream t x) := by
  refine ⟨fun i u hi => ?_, fun i u => ?_, h.sound, fun u m hm => ?_, fun u => ?_⟩
  · rw [ha]
    exact h.single i u hi
  · rw [hh]
    exact h.search i u
  · rw [ha]
    exact h.answered u m hm
  · by_cases hut : u = t
    · rw [hut]
      exact hslot
    · refine (h.listens u).unheard (hothers u hut) ?_ ?_ fun _ hover => (hh u).trans hover
      · rw [stream_set_of_ne hut]
      · rw [stream_set_of_ne hut]

/-- What a consumer takes is what comes next. -/
theorem examined (h : Routing es l) (ht : t < l.streams.length) (id : MessageId) (late : Bool) :
    Routing (es ++ examination t ((l.stream t).examine id late).1)
      (l.setStream t ((l.stream t).examine id late).2) := by
  rcases (l.stream t).examine_cases id late with ⟨m, ms, hphase, hqueue, heq⟩ | ⟨hsame, hnone⟩
  · rw [heq]
    exact h.at_slot (fun u => awaiting_concat ..) (fun u => congrArg Hearing.stage (hearing_concat ..))
      (fun u hut => .read_elsewhere (Ne.symm hut)) ((h.listens t).read hphase hqueue (stream_set ht))
  · have hnothing : examination t ((l.stream t).examine id late).1 = [] := by
      rw [examination.eq_def]
      split
      · rename_i m hm
        exact absurd hm (hnone m)
      · rfl
    rw [hnothing, List.append_nil, hsame]
    exact h.quiet (l.quiet_setStream t rfl rfl) rfl rfl

/-- A search that is interrupted forgets what was not taken. -/
theorem cancelled (h : Routing es l) (ht : t < l.streams.length) (interrupt : Bool) :
    Routing (es ++ if ((l.stream t).cancel interrupt).1 && interrupt then [.interrupted t] else [])
      (l.setStream t ((l.stream t).cancel interrupt).2) := by
  rcases (l.stream t).cancel_cases interrupt with ⟨hphase, -, heq⟩ | hsame
  · rw [heq]
    cases interrupt with
    | true =>
      refine h.at_slot (fun u => awaiting_concat ..) (fun u => ?_)
        (fun u hut => .interrupted_elsewhere (Ne.symm hut)) ((h.listens t).interrupt (stream_set ht))
      rw [hearing_concat, Hearing.next]
      split <;> rfl
    | false =>
      rw [Bool.and_false, if_neg Bool.false_ne_true, List.append_nil]
      refine ⟨h.single, h.search, h.sound, h.answered, fun u => ?_⟩
      by_cases hut : u = t
      · rw [hut]
        exact (h.listens t).let_run_out hphase (stream_set ht)
      · refine (h.listens u).unheard (.refl u es) ?_ ?_ fun _ hover => hover
        · rw [stream_set_of_ne hut]
        · rw [stream_set_of_ne hut]
  · rw [hsame, Bool.false_and, if_neg Bool.false_ne_true, List.append_nil]
    exact h.quiet (l.quiet_setStream t rfl rfl) rfl rfl

end Routing

end Link

end DirectoryClient
