import DirectoryClient.Proofs.Message.Envelope
import DirectoryClient.Proofs.Message.Framing

/-! Octets that come in chunks. What was taken off a buffer stays what it was when more comes, so the
messages do not depend on where the octets are cut. -/
namespace DirectoryClient

namespace Message

/-- Chunks are added to a buffer one by one, each when nothing is taken off any more. After what cannot
be read the decoder goes on, or stops for good. -/
inductive Decodes : Octets → List Octets → List (Outcome Message) → Octets → Prop
  | done {buffer : Octets} : next? buffer = none → Decodes buffer [] [] buffer
  | chunk {buffer c left : Octets} {cs : List Octets} {os : List (Outcome Message)} :
    next? buffer = none → Decodes (buffer ++ c) cs os left → Decodes buffer (c :: cs) os left
  | take {buffer rest left : Octets} {cs : List Octets} {o : Outcome Message}
    {os : List (Outcome Message)} :
    next? buffer = some (o, rest) → Decodes rest cs os left → Decodes buffer cs (o :: os) left
  | stop {buffer rest : Octets} {cs : List Octets} {e : DirectoryError} :
    next? buffer = some (.error e, rest) → Decodes buffer cs [.error e] rest

/-- What was decoded up to and including the first error. -/
def throughError : List (Outcome Message) → List (Outcome Message)
  | [] => []
  | .ok m :: os => .ok m :: throughError os
  | .error e :: _ => [.error e]

section Outcomes

variable {os os' : List (Outcome Message)}

private theorem throughError_cons (o : Outcome Message) (h : throughError os = throughError os') :
    throughError (o :: os) = throughError (o :: os') := by
  cases o with
  | ok m => rw [throughError, throughError, h]
  | error e => rw [throughError, throughError]

private theorem throughError_of_noError (h : ∀ e, .error e ∉ os) : throughError os = os := by
  induction os with
  | nil => rfl
  | cons o os ih =>
    cases o with
    | ok m => rw [throughError, ih fun e he => h e (List.mem_cons_of_mem _ he)]
    | error e => exact absurd List.mem_cons_self (h e)

private theorem noError_of_throughError (h : ∀ e, .error e ∉ throughError os) : ∀ e, .error e ∉ os := by
  induction os with
  | nil => exact h
  | cons o os ih =>
    cases o with
    | ok m =>
      rw [throughError] at h
      intro e he
      rcases List.mem_cons.mp he with heq | he
      · cases heq
      · exact ih (fun e' he' => h e' (List.mem_cons_of_mem _ he')) e he
    | error e => exact absurd List.mem_cons_self (h e)

end Outcomes

section Chunks

variable {buffer left all rest : Octets} {cs : List Octets} {os os' : List (Outcome Message)}

/-- What is decoded chunk by chunk is what all the octets give at once. -/
private theorem Decodes.drains {full : List (Outcome Message)} (h : Decodes buffer cs os left)
    (hfull : Drains (buffer ++ cs.flatten) full rest) :
    throughError os = throughError full ∧ ((∀ e, .error e ∉ os) → os = full ∧ left = rest) := by
  induction h generalizing full with
  | @done buffer hnone =>
    rw [List.flatten_nil, List.append_nil] at hfull
    obtain ⟨rfl, rfl⟩ := (Drains.stop hnone).unique hfull
    exact ⟨rfl, fun _ => ⟨rfl, rfl⟩⟩
  | chunk _ _ ih =>
    rw [List.flatten_cons, ← List.append_assoc] at hfull
    exact ih hfull
  | @take buffer rest' left cs o os hnext _ ih =>
    -- The octets to come do not change what is taken off now.
    have hnext' := next?_append hnext cs.flatten
    cases hfull with
    | stop hnone => rw [hnone] at hnext'; cases hnext'
    | take htaken hdrains =>
      rw [htaken] at hnext'
      cases hnext'
      obtain ⟨hthrough, hwhole⟩ := ih hdrains
      refine ⟨throughError_cons o hthrough, ?_⟩
      intro hno
      obtain ⟨rfl, rfl⟩ := hwhole fun e he => hno e (List.mem_cons_of_mem _ he)
      exact ⟨rfl, rfl⟩
  | @stop buffer rest' cs e hnext =>
    have hnext' := next?_append hnext cs.flatten
    cases hfull with
    | stop hnone => rw [hnone] at hnext'; cases hnext'
    | take htaken hdrains =>
      rw [htaken] at hnext'
      cases hnext'
      exact ⟨rfl, fun hno => absurd List.mem_cons_self (hno e)⟩

private theorem Drains.decodes {mid : Octets} (h : Drains buffer os mid)
    (hmid : next? mid = none → Decodes mid cs os' left) : Decodes buffer cs (os ++ os') left := by
  induction h with
  | stop hnone => exact hmid hnone
  | take hnext _ ih => exact .take hnext (ih hmid)

private theorem exists_decodes (buffer : Octets) (cs : List Octets) :
    ∃ os left, Decodes buffer cs os left := by
  induction cs generalizing buffer with
  | nil =>
    obtain ⟨os, mid, hdrains⟩ := Drains.exists_drains buffer
    exact ⟨_, _, hdrains.decodes .done⟩
  | cons c cs ih =>
    obtain ⟨os, mid, hdrains⟩ := Drains.exists_drains buffer
    obtain ⟨os', left, hrest⟩ := ih (mid ++ c)
    exact ⟨_, _, hdrains.decodes fun hnone => .chunk hnone hrest⟩

structure SameMessages (cs cs' : List Octets) : Prop where
  decoded : ∃ os left, Decodes [] cs os left
  throughError : ∀ os left os' left', Decodes [] cs os left → Decodes [] cs' os' left' →
    throughError os = throughError os'
  noError : ∀ os left os' left', Decodes [] cs os left → Decodes [] cs' os' left' →
    (∀ e, .error e ∉ os) → os' = os ∧ left' = left

/-- The messages up to the first error, and without one the octets left over, are the same however the
octets are cut. -/
theorem decodes_chunks {cs cs' : List Octets} (h : cs.flatten = cs'.flatten) :
    SameMessages cs cs' := by
  obtain ⟨full, rest, hfull⟩ := Drains.exists_drains cs.flatten
  have hfull' : Drains cs'.flatten full rest := h ▸ hfull
  refine ⟨exists_decodes [] cs, ?_, ?_⟩
  · intro os left os' left' hos hos'
    exact (hos.drains hfull).1.trans (hos'.drains hfull').1.symm
  · intro os left os' left' hos hos' hno
    obtain ⟨rfl, rfl⟩ := (hos.drains hfull).2 hno
    obtain ⟨hthrough, hwhole⟩ := hos'.drains hfull'
    apply hwhole
    apply noError_of_throughError
    rw [hthrough, throughError_of_noError hno]
    exact hno

end Chunks

/-- The end of a search and an empty sequence, in one piece or cut within the headers. -/
theorem doneAndEmpty_same :
    [[0x30, 0x0c, 0x02, 0x01, 0x01, 0x65, 0x07, 0x0a, 0x01, 0x00, 0x04, 0x00, 0x04, 0x00, 0x30, 0x00]].flatten =
      [[0x30], [0x0c, 0x02, 0x01, 0x01, 0x65], [], [0x07, 0x0a, 0x01, 0x00, 0x04, 0x00, 0x04, 0x00, 0x30],
        [0x00]].flatten ∧
    SameMessages
      [[0x30, 0x0c, 0x02, 0x01, 0x01, 0x65, 0x07, 0x0a, 0x01, 0x00, 0x04, 0x00, 0x04, 0x00, 0x30, 0x00]]
      [[0x30], [0x0c, 0x02, 0x01, 0x01, 0x65], [], [0x07, 0x0a, 0x01, 0x00, 0x04, 0x00, 0x04, 0x00, 0x30],
        [0x00]] :=
  ⟨rfl, decodes_chunks rfl⟩

end Message

end DirectoryClient
