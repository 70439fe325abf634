import DirectoryClient.Proofs.Pool.Borrowing

/-! The bound of a pool: the connections that are out, and the places held for more, are never more
than the settings allow. A borrow that finds them all taken says so, and one that fails has given its
place back. -/
namespace DirectoryClient.Pool

variable {ω κ : Type}

section Steps

variable {s s' : State κ}

private theorem State.occupied_forget_le (id : Nat) (s : State κ) :
    (s.forget id).occupied ≤ s.occupied :=
  Nat.add_le_add_right List.length_erase_le _

private theorem Borrow.Touches.occupied {limit : Nat} {b b' : Borrow κ} (h : Touches limit s s' b b')
    (hheld : b.holdsPlace = true → 1 ≤ s.pending) :
    s'.occupied ≤ s.occupied ∨ s.occupied < limit ∧ s'.occupied = s.occupied + 1 := by
  cases h with
  | takes b hfree ha hp =>
    refine .inr ⟨hfree, ?_⟩
    rw [State.occupied, State.occupied, ha, hp]
    omega
  | lends k id hs =>
    refine .inl ?_
    have hpos := hheld rfl
    have hinsert : (s.active.insert id).length ≤ s.active.length + 1 := by
      rw [List.length_insert]
      split <;> omega
    rw [hs]
    simp only [State.occupied, State.checkOut]
    omega
  | givesBack cause hs =>
    rw [hs]
    exact .inl (Nat.add_le_add_left (Nat.sub_le _ _) _)
  | leaves b b' hs =>
    rw [hs]
    exact .inl (Nat.le_refl _)

variable (p : Pool ω κ) (s : State κ) (w : ω)

private theorem GiveBack.step_occupied (g : GiveBack κ) :
    (g.step p s w).state.occupied ≤ s.occupied := by
  cases g with
  | settling id k keep =>
    simp only [step]
    rcases s.settleReturn_cases p.settings (p.manager.clock w) id k keep with h | ⟨-, -, h⟩ <;>
      rw [h] <;> exact s.occupied_forget_le id
  | passivating id k =>
    rw [step]
    rcases p.manager.passivate k w with ⟨_ | _, k', _⟩ <;> exact Nat.le_refl _
  | _ => exact Nat.le_refl _

private theorem Eviction.step_occupied (e : Eviction κ) :
    (e.step p s w).state.occupied = s.occupied := by
  cases e with
  | starting =>
    rw [step]
    rcases s.takeForEviction_cases p.settings (p.manager.clock w) with
      ⟨-, h⟩ | ⟨-, expired, kept, h, -⟩
    · rw [h]
    · rw [h]
      rfl
  | expiring expired kept n => cases expired <;> rfl
  | testing untested valid invalid n => cases untested <;> rfl
  | discarding invalid valid n => cases invalid <;> rfl
  | making missing n =>
    cases missing with
    | zero => rfl
    | succ missing =>
      rw [step]
      rcases p.manager.make w with ⟨_ | _, _⟩ <;> rfl
  | adopting k missing n =>
    rw [step]
    rcases s.adopt_cases p.settings (p.manager.clock w) k with h | ⟨-, -, h⟩
    · rw [h]
    · rw [h]
      rfl
  | puttingBack | refusing | signalling | finished => rfl

private theorem Closing.step_occupied (c : Closing κ) : (c.step p s w).state.occupied = s.occupied := by
  cases c with
  | starting =>
    rw [step]
    rcases s.close_cases with ⟨-, h⟩ | ⟨-, h⟩
    · rw [h]
    · rw [h]
      rfl
  | destroying ks => cases ks <;> rfl
  | signalling | finished => rfl

private theorem Activity.step_occupied (a : Activity κ) (h : a.held ≤ s.pending) :
    (a.step p s w).state.occupied ≤ s.occupied ∨ s.occupied < p.settings.maxActive ∧
      (a.step p s w).state.occupied = s.occupied + 1 := by
  cases a with
  | borrow d b =>
    refine (b.step_touches p d s w).occupied fun hholds => ?_
    simpa [held, hholds] using h
  | giveBack g => exact .inl (g.step_occupied p s w)
  | wrap r => cases r <;> exact .inl (Nat.le_refl _)
  | detach d =>
    cases d with
    | forgetting k => exact .inl (s.occupied_forget_le _)
    | signalling | finished => exact .inl (Nat.le_refl _)
  | evict e => exact .inl (e.step_occupied p s w).le
  | close c => exact .inl (c.step_occupied p s w).le

end Steps

section Runs

variable {p : Pool ω κ} {w : ω} {c c' : Community ω κ}

theorem Turn.occupied (h : Turn p c c') : c'.accounts.occupied = c.accounts.occupied := by
  cases h <;> rfl

private theorem run_occupied (hid : p.manager.KeepsIds) {as : List (Activity κ)} (h : Run p w as c)
    (hn : (c.world.idsOf .make).Nodup) : c.accounts.occupied ≤ p.settings.maxActive := by
  induction h with
  | start => exact Nat.zero_le _
  | @acts _ _ c _ h hs ih =>
    have hn' := Multiset.nodup_of_le (makes_le hid (.inl ⟨_, hs⟩)) hn
    have hbound := ih hn'
    obtain ⟨_, t, ts, ts', ht, -⟩ := hs
    have hheld := (run_sound hid h hn').held_le (t := t) (by simp [ht])
    rcases t.activity.step_occupied p.recording c.accounts c.world hheld with hle | ⟨hfree, heq⟩
    · exact hle.trans hbound
    · exact heq.trans_le hfree
  | turn h hs ih =>
    rw [hs.occupied]
    exact ih (Multiset.nodup_of_le (makes_le hid (.inr hs)) hn)

/-- A pool keeps its bound, and borrows keep to their places. -/
structure Bounded (p : Pool ω κ) (w : ω) (c : Community ω κ) : Prop where
  /-- The loans that go on, and the places held for connections that are not out yet. -/
  bound : c.loans.card + (c.tasks.map fun t => t.activity.held).sum ≤ p.settings.maxActive
  life : ∀ t ∈ c.tasks, t.IsBorrow → ∃ log, Life p w c t log
  /-- A borrow says that the pool is exhausted after a section in which it found no place. -/
  exhausted : ∀ {t log}, Life p w c t log → ∀ d,
    t.activity = .borrow d (.finished (.error .poolExhausted)) →
      ∃ s : State κ, (s, s) ∈ log ∧ p.settings.maxActive ≤ s.occupied
  /-- A borrow that fails has ended each place that it has taken, and none of them as a loan. -/
  givenBack : ∀ {t log}, Life p w c t log → ∀ d e, t.activity = .borrow d (.finished (.error e)) →
    log.countP Entry.takes = log.countP Entry.ends ∧ ∀ x ∈ log, Entry.LeavesLoans x

/-- Whoever borrows, gives back, detaches, evicts and closes, and whatever the hooks do, a pool keeps
its bound, as long as the connections that are made have ids of their own and keep them. -/
theorem run_bounded (hid : p.manager.KeepsIds) {as : List (Activity κ)} (h : Run p w as c)
    (hn : (c.world.idsOf .make).Nodup) : Bounded p w c := by
  have hs := run_sound hid h hn
  refine ⟨?_, fun t ht hb => exists_life h ht hb, fun {t log} hlife d ht => ?_,
    fun {t log} hlife d e ht => ?_⟩
  · have hcard := congrArg Multiset.card hs.loans
    rw [Multiset.coe_card, Multiset.card_map] at hcard
    rw [← hcard, ← hs.places]
    exact run_occupied hid h hn
  · obtain ⟨d', b, hb, hacc⟩ := hlife.accounted hid hn
    obtain ⟨rfl, rfl⟩ := Activity.borrow.inj (ht.symm.trans hb)
    exact hacc.exhausted rfl
  · obtain ⟨d', b, hb, hacc⟩ := hlife.accounted hid hn
    obtain ⟨rfl, rfl⟩ := Activity.borrow.inj (ht.symm.trans hb)
    exact ⟨hacc.balance, hacc.unlent rfl⟩

/-- The pool of numbered connections has kept its bound, and the borrow that failed has given back the
places that it took. -/
theorem refusedOne_bounded : (refusedOne.world.idsOf .make).Nodup ∧ Bounded numbered {} refusedOne ∧
    ∃ log, Life numbered {} refusedOne ⟨refusal, none⟩ log ∧
      log.countP Entry.takes = log.countP Entry.ends := by
  obtain ⟨as, h⟩ := run_refusedOne
  have hn : (refusedOne.world.idsOf .make).Nodup := by decide
  have hbounded := run_bounded numbered_keepsIds h hn
  obtain ⟨log, hlife⟩ := hbounded.life ⟨refusal, none⟩ (Multiset.mem_singleton_self _)
    ⟨_, _, rfl⟩
  exact ⟨hn, hbounded, log, hlife, (hbounded.givenBack hlife _ _ rfl).1⟩

end Runs

end DirectoryClient.Pool
