import DirectoryClient.Proofs.Pool.Record

/-! A pool knows a connection by its id and by what the hooks come to on it. If connections are replaced
by others of the same ids, on which the hooks come to the same, every activity goes on in the same
way. -/
namespace DirectoryClient.Pool

variable {ω κ κ' : Type}

section Images

variable (h : κ → κ')

def Idle.map (i : Idle κ) : Idle κ' where
  connection := h i.connection
  since := i.since

def State.map (s : State κ) : State κ' where
  idle := s.idle.map (Idle.map h)
  active := s.active
  pending := s.pending
  isClosed := s.isClosed

private def Candidate.map : Candidate κ → Candidate κ'
  | idle k => idle (h k)
  | new => new

private def Reservation.map : Reservation κ → Reservation κ'
  | granted candidate => granted (candidate.map h)
  | refused cause => refused cause
  | blocked => blocked

def Borrow.map : Borrow κ → Borrow κ'
  | reserving => reserving
  | waiting => waiting
  | making => making
  | activating k isNew => activating (h k) isNew
  | validating k isNew => validating (h k) isNew
  | checkingOut k => checkingOut (h k)
  | discarding k cause => discarding (h k) cause
  | cancelling cause => cancelling cause
  | signalling cause => signalling cause
  | finished o => finished (o.map h)

def GiveBack.map : GiveBack κ → GiveBack κ'
  | presenting k => presenting (h k)
  | rejecting id k => rejecting id (h k)
  | passivating id k => passivating id (h k)
  | validating id k => validating id (h k)
  | settling id k keep => settling id (h k) keep
  | signalling discarded => signalling (discarded.map h)
  | discarding k => discarding (h k)
  | finished o => finished o

def Wrap.map : Wrap κ → Wrap κ'
  | presenting k => presenting (h k)
  | rejecting id k => rejecting id (h k)
  | finished o => finished (o.map h)

def Detach.map : Detach κ → Detach κ'
  | forgetting k => forgetting (h k)
  | signalling k => signalling (h k)
  | finished k => finished (h k)

def Eviction.map : Eviction κ → Eviction κ'
  | starting => starting
  | expiring expired kept n => expiring (expired.map (Idle.map h)) (kept.map (Idle.map h)) n
  | testing untested valid invalid n =>
    testing (untested.map (Idle.map h)) (valid.map (Idle.map h)) (invalid.map (Idle.map h)) n
  | discarding invalid valid n => discarding (invalid.map (Idle.map h)) (valid.map (Idle.map h)) n
  | puttingBack kept n => puttingBack (kept.map (Idle.map h)) n
  | making missing n => making missing n
  | adopting k missing n => adopting (h k) missing n
  | refusing k n => refusing (h k) n
  | signalling missing n => signalling missing n
  | finished n => finished n

def Closing.map : Closing κ → Closing κ'
  | starting => starting
  | signalling ks => signalling (ks.map h)
  | destroying ks => destroying (ks.map h)
  | finished => finished

def Activity.map : Activity κ → Activity κ'
  | borrow deadline b => borrow deadline (b.map h)
  | giveBack g => giveBack (g.map h)
  | wrap g => wrap (g.map h)
  | detach d => detach (d.map h)
  | evict e => evict (e.map h)
  | close c => close (c.map h)

def Step.map {τ τ' : Type} (f : τ → τ') (r : Step τ ω κ) : Step τ' ω κ' where
  activity := f r.activity
  state := r.state.map h
  world := r.world
  wakeup := r.wakeup

def replacing {α : Type} (r : α × κ × ω) : α × κ' × ω := (r.1, h r.2.1, r.2.2)

end Images

namespace State

variable (h : κ → κ') (s : State κ) (settings : Settings.Pool)

@[simp]
theorem idle_map : (s.map h).idle = s.idle.map (Idle.map h) := rfl

@[simp]
theorem active_map : (s.map h).active = s.active := rfl

@[simp]
theorem isClosed_map : (s.map h).isClosed = s.isClosed := rfl

private theorem occupied_map : (s.map h).occupied = s.occupied := rfl

private theorem forget_map (id : Nat) : (s.map h).forget id = (s.forget id).map h := rfl

private theorem takeIdle_map (lifo : Bool) :
    (s.map h).takeIdle lifo = ((s.takeIdle lifo).1.map h, (s.takeIdle lifo).2.map h) := by
  cases lifo <;> simp [takeIdle, map, Idle.map, Function.comp_def]

private theorem reserve_map (late : Bool) : (s.map h).reserve settings late =
    ((s.reserve settings late).1.map h, (s.reserve settings late).2.map h) := by
  rw [reserve, reserve, isClosed_map, occupied_map]
  split
  · rfl
  · split
    · have htake := takeIdle_map h { s with pending := s.pending + 1 } settings.lifo
      simp only [map] at htake ⊢
      rw [htake]
      rcases takeIdle settings.lifo { s with pending := s.pending + 1 } with ⟨_ | k, s'⟩ <;> rfl
    · cases settings.whenExhausted <;> cases late <;> rfl

private theorem settleReturn_map (now id : Nat) (k : κ) (keep : Bool) :
    (s.map h).settleReturn settings now id (h k) keep =
      ((s.settleReturn settings now id k keep).1.map h,
        (s.settleReturn settings now id k keep).2.map h) := by
  have hlength : ((s.forget id).map h).idle.length = (s.forget id).idle.length := List.length_map _
  rw [settleReturn, settleReturn, forget_map, isClosed_map, hlength]
  split
  · simp [map, Idle.map]
  · rfl

private theorem takeForEviction_map (now : Nat) : (s.map h).takeForEviction settings now =
    ((s.takeForEviction settings now).1.map
      (Prod.map (List.map (Idle.map h)) (List.map (Idle.map h))),
      (s.takeForEviction settings now).2.map h) := by
  have hexpired : isExpired settings now ∘ Idle.map h = isExpired settings now := rfl
  rw [takeForEviction, takeForEviction, isClosed_map]
  split
  · rfl
  · simp [map, List.filter_map, Function.comp_assoc, hexpired]

private theorem putBack_map (kept : List (Idle κ)) :
    (s.map h).putBack settings (kept.map (Idle.map h)) =
      ((s.putBack settings kept).1, (s.putBack settings kept).2.map h) := by
  simp [putBack, map]

private theorem adopt_map (now : Nat) (k : κ) : (s.map h).adopt settings now (h k) =
    ((s.adopt settings now k).1, (s.adopt settings now k).2.map h) := by
  have hlength : (s.map h).idle.length = s.idle.length := List.length_map _
  rw [adopt, adopt, hlength, isClosed_map]
  split
  · rfl
  · simp [map, Idle.map]

theorem drain_map : (s.map h).drain = (s.drain.1.map h, s.drain.2.map h) := by
  simp [drain, map, Function.comp_def, Idle.map]

private theorem close_map : (s.map h).close = (s.close.1.map (List.map h), s.close.2.map h) := by
  rw [close, close, isClosed_map, drain_map]
  split <;> rfl

end State

section Calls

/-- The hook that the next step of an activity calls on a connection, if it calls one. -/
def Activity.call? : Activity κ → Option (Hook × κ)
  | borrow _ (.activating k _) => some (.activate, k)
  | borrow _ (.validating k _) => some (.validate, k)
  | borrow _ (.discarding k _) => some (.destroy, k)
  | giveBack (.rejecting _ k) => some (.destroy, k)
  | giveBack (.passivating _ k) => some (.passivate, k)
  | giveBack (.validating _ k) => some (.validate, k)
  | giveBack (.discarding k) => some (.destroy, k)
  | wrap (.rejecting _ k) => some (.destroy, k)
  | evict (.expiring (i :: _) _ _) => some (.destroy, i.connection)
  | evict (.testing (i :: _) _ _ _) => some (.validate, i.connection)
  | evict (.discarding (i :: _) _ _) => some (.destroy, i.connection)
  | evict (.refusing k _) => some (.destroy, k)
  | close (.destroying (k :: _)) => some (.destroy, k)
  | _ => none

private theorem Activity.call?_map (h : κ → κ') (a : Activity κ) :
    (a.map h).call? = a.call?.map (Prod.map id h) := by
  rcases a with ⟨d, b⟩ | g | g | d | e | c
  · cases b <;> rfl
  · cases g <;> rfl
  · cases g <;> rfl
  · cases d <;> rfl
  · rcases e with _ | ⟨_ | _, _, _⟩ | ⟨_ | _, _, _, _⟩ | ⟨_ | _, _, _⟩ | _ | _ | _ | _ | _ | _ <;> rfl
  · rcases c with _ | _ | ⟨_ | _⟩ | _ <;> rfl

/-- Activities with the same image call the same hook next. -/
theorem Activity.exists_call_of_map {h : κ → κ'} {a b : Activity κ} {hook : Hook} {k : κ}
    (hab : a.map h = b.map h) (ha : a.call? = some (hook, k)) :
    ∃ k', b.call? = some (hook, k') ∧ h k = h k' := by
  have hcalls : a.call?.map (Prod.map id h) = b.call?.map (Prod.map id h) := by
    rw [← Activity.call?_map, ← Activity.call?_map, hab]
  obtain ⟨⟨hook', k'⟩, hb, hk'⟩ : ∃ y, b.call? = some y ∧ Prod.map id h y = (hook, h k) := by
    simpa [ha] using hcalls.symm
  obtain ⟨rfl, hsame⟩ := Prod.mk.inj hk'
  exact ⟨k', hb, hsame.symm⟩

variable (h : κ → κ') (m : Manager ω κ) (m' : Manager ω κ') (w : ω)

structure Manager.Resembles : Prop where
  clock : m'.clock w = m.clock w
  id : ∀ k, m'.id (h k) = m.id k
  make : m'.make w = ((m.make w).1.map h, (m.make w).2)

/-- A hook of another manager comes to the same, on the connection that stands for this one. -/
private def Manager.Follows : Hook → κ → Prop
  | .make, _ => True
  | .activate, k => m'.activate (h k) w = replacing h (m.activate k w)
  | .validate, k => m'.validate (h k) w = replacing h (m.validate k w)
  | .passivate, k => m'.passivate (h k) w = replacing h (m.passivate k w)
  | .destroy, k => m'.destroy (h k) w = m.destroy k w

end Calls

section Steps

variable {h : κ → κ'} {m' : Manager ω κ'} {p : Pool ω κ} {w : ω} (hm : p.manager.Resembles h m' w)
  (s : State κ)
include hm

private theorem borrow_map (d : Option Nat) (b : Borrow κ)
    (hcall : ∀ x ∈ (Activity.borrow d b).call?, p.manager.Follows h m' w x.1 x.2) :
    (b.map h).step ⟨m', p.settings⟩ d (s.map h) w = (b.step p d s w).map h (Borrow.map h) := by
  cases b with
  | reserving =>
    simp only [Borrow.map, Borrow.step, hm.clock, State.reserve_map]
    rcases s.reserve p.settings (d.any (· ≤ p.manager.clock w)) with ⟨(_ | _) | _ | _, s'⟩ <;> rfl
  | waiting =>
    simp only [Borrow.map, Borrow.step, hm.clock, Step.map]
    split <;> rfl
  | making =>
    simp only [Borrow.map, Borrow.step, hm.make]
    rcases p.manager.make w with ⟨_ | k, w'⟩ <;> rfl
  | activating k isNew =>
    have hactivate : m'.activate (h k) w = replacing h (p.manager.activate k w) := hcall _ rfl
    simp only [Borrow.map, Borrow.step, hactivate]
    rcases p.manager.activate k w with ⟨_ | _, k', w'⟩
    · rfl
    · simp only [replacing, Step.map]
      split <;> rfl
  | validating k isNew =>
    have hvalidate : m'.validate (h k) w = replacing h (p.manager.validate k w) := hcall _ rfl
    simp only [Borrow.map, Borrow.step, hvalidate]
    rcases p.manager.validate k w with ⟨_ | _, k', w'⟩ <;> rfl
  | checkingOut k =>
    simp only [Borrow.map, Borrow.step, hm.id]
    rfl
  | discarding k cause =>
    have hdestroy : m'.destroy (h k) w = p.manager.destroy k w := hcall _ rfl
    simp only [Borrow.map, Borrow.step, hdestroy]
    rfl
  | signalling cause => cases cause <;> rfl
  | cancelling | finished => rfl

private theorem giveBack_map (g : GiveBack κ)
    (hcall : ∀ x ∈ (Activity.giveBack g).call?, p.manager.Follows h m' w x.1 x.2) :
    (g.map h).step ⟨m', p.settings⟩ (s.map h) w = (g.step p s w).map h (GiveBack.map h) := by
  cases g with
  | presenting k =>
    simp only [GiveBack.map, GiveBack.step, hm.id, Step.map]
    by_cases hout : s.isOut (p.manager.id k) = true
    · rw [if_pos hout, if_pos (show (s.map h).isOut (p.manager.id k) = true from hout)]
    · rw [if_neg hout, if_neg (show ¬(s.map h).isOut (p.manager.id k) = true from hout)]
  | passivating id k =>
    have hpassivate : m'.passivate (h k) w = replacing h (p.manager.passivate k w) :=
      hcall _ rfl
    simp only [GiveBack.map, GiveBack.step, hpassivate]
    rcases p.manager.passivate k w with ⟨_ | _, k', w'⟩
    · rfl
    · simp only [replacing, Step.map]
      split <;> rfl
  | validating id k =>
    have hvalidate : m'.validate (h k) w = replacing h (p.manager.validate k w) := hcall _ rfl
    simp only [GiveBack.map, GiveBack.step, hvalidate]
    rfl
  | settling id k keep =>
    simp only [GiveBack.map, GiveBack.step, hm.clock, State.settleReturn_map]
    rfl
  | rejecting id k | discarding k =>
    have hdestroy : m'.destroy (h k) w = p.manager.destroy k w := hcall _ rfl
    simp only [GiveBack.map, GiveBack.step, hdestroy]
    rfl
  | signalling discarded => cases discarded <;> rfl
  | finished => rfl

private theorem wrap_map (g : Wrap κ)
    (hcall : ∀ x ∈ (Activity.wrap g).call?, p.manager.Follows h m' w x.1 x.2) :
    (g.map h).step ⟨m', p.settings⟩ (s.map h) w = (g.step p s w).map h (Wrap.map h) := by
  cases g with
  | presenting k =>
    simp only [Wrap.map, Wrap.step, hm.id, Step.map]
    by_cases hout : s.isOut (p.manager.id k) = true
    · rw [if_pos hout, if_pos (show (s.map h).isOut (p.manager.id k) = true from hout)]
      rfl
    · rw [if_neg hout, if_neg (show ¬(s.map h).isOut (p.manager.id k) = true from hout)]
  | rejecting id k =>
    have hdestroy : m'.destroy (h k) w = p.manager.destroy k w := hcall _ rfl
    simp only [Wrap.map, Wrap.step, hdestroy]
    rfl
  | finished => rfl

private theorem evict_map (e : Eviction κ)
    (hcall : ∀ x ∈ (Activity.evict e).call?, p.manager.Follows h m' w x.1 x.2) :
    (e.map h).step ⟨m', p.settings⟩ (s.map h) w = (e.step p s w).map h (Eviction.map h) := by
  cases e with
  | starting =>
    simp only [Eviction.map, Eviction.step, hm.clock, State.takeForEviction_map]
    rcases s.takeForEviction p.settings (p.manager.clock w) with ⟨_ | ⟨expired, kept⟩, s'⟩
    · rfl
    · simp [Step.map, Eviction.map]
  | expiring expired kept n =>
    cases expired with
    | nil =>
      simp only [Eviction.map, Eviction.step, List.map_nil, Step.map]
      split <;> rfl
    | cons i expired =>
      have hdestroy : m'.destroy (h i.connection) w = p.manager.destroy i.connection w :=
        hcall _ rfl
      simp only [Eviction.map, Eviction.step, List.map_cons, Idle.map, hdestroy]
      rfl
  | testing untested valid invalid n =>
    cases untested with
    | nil => rfl
    | cons i untested =>
      have hvalidate : m'.validate (h i.connection) w =
          replacing h (p.manager.validate i.connection w) := hcall _ rfl
      have hstep : (Eviction.testing (i :: untested) valid invalid n).step p s w =
          let r := p.manager.validate i.connection w
          let i : Idle κ := { i with connection := r.2.1 }
          ⟨if r.1 then .testing untested (valid ++ [i]) invalid n
            else .testing untested valid (invalid ++ [i]) (n + 1), s, r.2.2, .nobody⟩ := rfl
      rw [hstep]
      simp only [Eviction.map, Eviction.step, List.map_cons, Idle.map, hvalidate, replacing, Step.map]
      cases (p.manager.validate i.connection w).1 <;> simp [Idle.map]
  | discarding invalid valid n =>
    cases invalid with
    | nil => rfl
    | cons i invalid =>
      have hdestroy : m'.destroy (h i.connection) w = p.manager.destroy i.connection w :=
        hcall _ rfl
      simp only [Eviction.map, Eviction.step, List.map_cons, Idle.map, hdestroy]
      rfl
  | puttingBack kept n =>
    simp only [Eviction.map, Eviction.step, State.putBack_map]
    rfl
  | making missing n =>
    cases missing with
    | zero => rfl
    | succ missing =>
      simp only [Eviction.map, Eviction.step, hm.make]
      rcases p.manager.make w with ⟨_ | k, w'⟩ <;> rfl
  | adopting k missing n =>
    simp only [Eviction.map, Eviction.step, hm.clock, State.adopt_map]
    rcases s.adopt p.settings (p.manager.clock w) k with ⟨_ | _, s'⟩ <;> rfl
  | refusing k n =>
    have hdestroy : m'.destroy (h k) w = p.manager.destroy k w := hcall _ rfl
    simp only [Eviction.map, Eviction.step, hdestroy]
    rfl
  | signalling | finished => rfl

omit hm in
private theorem close_map (c : Closing κ)
    (hcall : ∀ x ∈ (Activity.close c).call?, p.manager.Follows h m' w x.1 x.2) :
    (c.map h).step ⟨m', p.settings⟩ (s.map h) w = (c.step p s w).map h (Closing.map h) := by
  cases c with
  | starting =>
    simp only [Closing.map, Closing.step, State.close_map]
    rcases s.close with ⟨_ | ks, s'⟩ <;> rfl
  | destroying ks =>
    cases ks with
    | nil => rfl
    | cons k ks =>
      have hdestroy : m'.destroy (h k) w = p.manager.destroy k w := hcall _ rfl
      simp only [Closing.map, Closing.step, List.map_cons, hdestroy]
      rfl
  | signalling | finished => rfl

/-- A step on what stands for the connections does the same as the step on the connections. -/
private theorem step_map (a : Activity κ) (hcall : ∀ x ∈ a.call?, p.manager.Follows h m' w x.1 x.2) :
    (a.map h).step ⟨m', p.settings⟩ (s.map h) w = (a.step p s w).map h (Activity.map h) := by
  have larger : ∀ {τ : Type} (f : τ → Activity κ') {r r' : Step τ ω κ'}, r = r' →
      (⟨f r.activity, r.state, r.world, r.wakeup⟩ : Step (Activity κ') ω κ') =
        ⟨f r'.activity, r'.state, r'.world, r'.wakeup⟩ := by
    rintro _ f r _ rfl
    rfl
  cases a with
  | borrow d b => exact larger (.borrow d) (borrow_map hm s d b hcall)
  | giveBack g => exact larger .giveBack (giveBack_map hm s g hcall)
  | wrap g => exact larger .wrap (wrap_map hm s g hcall)
  | detach d =>
    cases d with
    | forgetting k =>
      refine larger .detach (?_ : (Detach.forgetting (h k)).step ⟨m', p.settings⟩ (s.map h) w =
        ((Detach.forgetting k).step p s w).map h (Detach.map h))
      simp only [Detach.step, hm.id]
      rfl
    | signalling | finished => rfl
  | evict e => exact larger .evict (evict_map hm s e hcall)
  | close c => exact larger .close (close_map s c hcall)

end Steps

section Pairs

variable (h : κ → κ) (m : Manager ω κ) (w : ω)

/-- A hook comes to the same on two connections, as far as their images tell. -/
def Manager.Agrees : Hook → κ → κ → Prop
  | .make, _, _ => True
  | .activate, k, k' => replacing h (m.activate k w) = replacing h (m.activate k' w)
  | .validate, k, k' => replacing h (m.validate k w) = replacing h (m.validate k' w)
  | .passivate, k, k' => replacing h (m.passivate k w) = replacing h (m.passivate k' w)
  | .destroy, k, k' => m.destroy k w = m.destroy k' w

private def Manager.fixedAt (k : κ) : Manager ω κ where
  clock := m.clock
  id := m.id
  make w := ((m.make w).1.map h, (m.make w).2)
  activate _ _ := replacing h (m.activate k w)
  validate _ _ := replacing h (m.validate k w)
  passivate _ _ := replacing h (m.passivate k w)
  destroy _ _ := m.destroy k w

variable {h m w}

private theorem Manager.Agrees.follows {hook : Hook} {k k' : κ} (hagrees : m.Agrees h w hook k k') :
    m.Follows h (m.fixedAt h w k) w hook k' := by
  cases hook with
  | make => trivial
  | activate | validate | passivate | destroy => exact hagrees

private theorem Manager.Agrees.refl (hook : Hook) (k : κ) : m.Agrees h w hook k k := by
  cases hook <;> trivial

variable {p : Pool ω κ} {a b : Activity κ} {s t : State κ}

/-- Two activities with the same image stay so, if the hook that they call comes to the same. -/
theorem step_congr (hid : ∀ k, p.manager.id (h k) = p.manager.id k) (hab : a.map h = b.map h)
    (hst : s.map h = t.map h) (hcall : ∀ hook k k', a.call? = some (hook, k) →
      b.call? = some (hook, k') → p.manager.Agrees h w hook k k') :
    (a.step p s w).map h (Activity.map h) = (b.step p t w).map h (Activity.map h) := by
  cases ha : a.call? with
  | none =>
    have hb : b.call? = none := by
      refine Option.eq_none_iff_forall_not_mem.mpr fun x hx => ?_
      obtain ⟨k', ha', -⟩ := Activity.exists_call_of_map hab.symm hx
      cases ha.symm.trans ha'
    have hm : p.manager.Resembles h
        { p.manager with make := fun w => ((p.manager.make w).1.map h, (p.manager.make w).2) } w :=
      ⟨rfl, hid, rfl⟩
    rw [← step_map hm s a (by simp [ha]), ← step_map hm t b (by simp [hb]), hab, hst]
  | some x =>
    obtain ⟨hook, k⟩ := x
    obtain ⟨k', hb, -⟩ := Activity.exists_call_of_map hab ha
    have hm : p.manager.Resembles h (p.manager.fixedAt h w k) w := ⟨rfl, hid, rfl⟩
    have hfollowsa := (Manager.Agrees.refl (h := h) (m := p.manager) (w := w) hook k).follows
    have hfollowsb := (hcall hook k k' ha hb).follows
    rw [← step_map hm s a (by simpa [ha] using hfollowsa),
      ← step_map hm t b (by simpa [hb] using hfollowsb), hab, hst]

end Pairs

end DirectoryClient.Pool
