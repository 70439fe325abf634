import DirectoryClient.Proofs.Pool.Standing

/-! Runs of a pool in a world that goes on in one direction only: the hooks of the pool keep to a relation
between worlds, and so does all that happens besides. -/
namespace DirectoryClient.Pool

variable {ω κ : Type}

structure Manager.Within (m : Manager ω κ) (R : ω → ω → Prop) : Prop where
  refl : ∀ w, R w w
  trans : ∀ {w w' w''}, R w w' → R w' w'' → R w w''
  make : ∀ w, R w (m.make w).2
  activate : ∀ k w, R w (m.activate k w).2.2
  validate : ∀ k w, R w (m.validate k w).2.2
  passivate : ∀ k w, R w (m.passivate k w).2.2
  destroy : ∀ k w, R w (m.destroy k w)

inductive Steady (p : Pool ω κ) (R : ω → ω → Prop) (w : ω) :
    List (Activity κ) → Community ω κ → Prop
  | start : Steady p R w [] (Community.start w)
  | acts {as : List (Activity κ)} {a : Activity κ} {c c' : Community ω κ} : Steady p R w as c →
    Acts p a c c' → Steady p R w (as ++ [a]) c'
  | turn {as : List (Activity κ)} {c c' : Community ω κ} : Steady p R w as c → Turn p c c' →
    (c'.world.calls = c.world.calls → R c.world.world c'.world.world) → Steady p R w as c'

namespace Manager.Within

variable {m : Manager ω κ} {R : ω → ω → Prop}

private theorem recording (h : m.Within R) : m.recording.Within fun r r' => R r.world r'.world where
  refl r := h.refl r.world
  trans := h.trans
  make r := by
    have hmake := h.make r.world
    rcases hm : m.make r.world with ⟨_ | k, w⟩ <;> rw [hm] at hmake <;>
      simp only [Manager.recording, hm] <;> exact hmake
  activate k r := h.activate k r.world
  validate k r := h.validate k r.world
  passivate k r := h.passivate k r.world
  destroy k r := h.destroy k r.world

end Manager.Within

section Steps

variable {p : Pool ω κ} {R : ω → ω → Prop} (h : p.manager.Within R) (s : State κ) (w : ω)
include h

private theorem borrow_within (d : Option Nat) (b : Borrow κ) : R w (b.step p d s w).world := by
  cases b with
  | reserving =>
    simp only [Borrow.step]
    split <;> exact h.refl w
  | making =>
    have hmake := h.make w
    simp only [Borrow.step]
    split <;> rename_i hm <;> rw [hm] at hmake <;> exact hmake
  | activating k isNew =>
    have hactivate := h.activate k w
    simp only [Borrow.step]
    split <;> rename_i hm <;> rw [hm] at hactivate <;> exact hactivate
  | validating k isNew =>
    have hvalidate := h.validate k w
    simp only [Borrow.step]
    split <;> rename_i hm <;> rw [hm] at hvalidate <;> exact hvalidate
  | discarding k cause => exact h.destroy k w
  | waiting | checkingOut | cancelling | signalling | finished => exact h.refl w

private theorem giveBack_within (g : GiveBack κ) : R w (g.step p s w).world := by
  cases g with
  | rejecting id k => exact h.destroy k w
  | passivating id k =>
    have hpassivate := h.passivate k w
    simp only [GiveBack.step]
    split <;> rename_i hm <;> rw [hm] at hpassivate <;> exact hpassivate
  | validating id k => exact h.validate k w
  | discarding k => exact h.destroy k w
  | presenting | settling | signalling | finished => exact h.refl w

private theorem evict_within (e : Eviction κ) : R w (e.step p s w).world := by
  cases e with
  | starting =>
    simp only [Eviction.step]
    split <;> exact h.refl w
  | expiring expired kept n =>
    cases expired with
    | nil => exact h.refl w
    | cons i expired => exact h.destroy i.connection w
  | testing untested valid invalid n =>
    cases untested with
    | nil => exact h.refl w
    | cons i untested => exact h.validate i.connection w
  | discarding invalid valid n =>
    cases invalid with
    | nil => exact h.refl w
    | cons i invalid => exact h.destroy i.connection w
  | making missing n =>
    cases missing with
    | zero => exact h.refl w
    | succ missing =>
      have hmake := h.make w
      simp only [Eviction.step]
      split <;> rename_i hm <;> rw [hm] at hmake <;> exact hmake
  | adopting k missing n =>
    simp only [Eviction.step]
    split <;> exact h.refl w
  | refusing k n => exact h.destroy k w
  | puttingBack | signalling | finished => exact h.refl w

/-- So does every step of an activity: it calls one hook at most. -/
private theorem step_within (a : Activity κ) : R w (a.step p s w).world := by
  cases a with
  | borrow d b => exact borrow_within h s w d b
  | giveBack g => exact giveBack_within h s w g
  | wrap g =>
    cases g with
    | rejecting id k => exact h.destroy k w
    | presenting | finished => exact h.refl w
  | detach d => cases d <;> exact h.refl w
  | evict e => exact evict_within h s w e
  | close c =>
    cases c with
    | starting =>
      show R w (Closing.step p .starting s w).world
      simp only [Closing.step]
      split <;> exact h.refl w
    | destroying ks =>
      cases ks with
      | nil => exact h.refl w
      | cons k ks => exact h.destroy k w
    | signalling | finished => exact h.refl w

private theorem letGo_within : R w (letGo p s w).2 := by
  have hall : ∀ (ks : List κ) (w : ω), R w (ks.foldl (fun w k => p.manager.destroy k w) w) := by
    intro ks
    induction ks with
    | nil => exact h.refl
    | cons k ks ih => exact fun w => h.trans (h.destroy k w) (ih _)
  exact hall _ w

end Steps

section Runs

variable {p : Pool ω κ} {R : ω → ω → Prop} {c c' : Community ω κ}

theorem Acts.within (h : p.manager.Within R) {a : Activity κ} (hs : Acts p a c c') :
    R c.world.world c'.world.world := by
  obtain ⟨_, t, ts, ts', -, -⟩ := hs
  exact step_within (p := p.recording) h.recording c.accounts c.world t.activity

/-- A turn that calls a hook keeps to the relation as the hook does. -/
theorem Turn.within (h : p.manager.Within R) (hs : Turn p c c')
    (hquiet : c'.world.calls = c.world.calls → R c.world.world c'.world.world) :
    R c.world.world c'.world.world := by
  cases hs with
  | make k r hmake =>
    have hwithin := h.recording.make c.world
    rw [show p.manager.recording.make c.world = _ from hmake] at hwithin
    exact hwithin
  | letGo => exact letGo_within (p := p.recording) h.recording c.accounts c.world
  | borrow | evict | close | release | detach | unwrap | releaseRaw | wrapRaw | releaseStranger
  | wrapStranger | finish | use | stir => exact hquiet rfl

variable {S : Standing ω κ} {as : List (Activity κ)} {w : ω}

theorem Steady.run (h : Steady p R w as c) : Run p w as c := by
  induction h with
  | start => exact .start
  | acts _ hs ih => exact ih.acts hs
  | turn _ hs _ ih => exact ih.turn hs

/-- If connections may come back as they like, all of them have the standing of their stations at every
moment of a steady run. -/
theorem Steady.stands (h : Steady p R w as c) (hup : S.Upheld p.manager)
    (hid : p.manager.KeepsIds) (hhooks : p.manager.Within R)
    (hend : S.Endures fun w w' _ => R w w') (harrives : ∀ w k, S.arrives w k) (i : Nat) :
    c.Stands S p.manager i := by
  induction h with
  | start => exact ⟨by simp [Community.start], by simp [Community.start]⟩
  | acts _ hs ih => exact ih.acts hup hid hend hs fun _ _ _ => hs.within hhooks
  | turn _ hs hquiet ih =>
    exact ih.turn hend hs (fun k _ _ => harrives _ k) fun _ _ _ => hs.within hhooks hquiet

end Runs

end DirectoryClient.Pool
