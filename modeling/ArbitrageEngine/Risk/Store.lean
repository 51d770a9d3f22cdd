/-
# ArbitrageEngine.Risk.Store -- the risk stop and its durable row, interleaved

The controller, the row of `risk_state`, and everything in flight between them: rows that a
`refresh_from_store` has loaded but not adopted yet, and whole-state saves that have been issued but
have not finished.  Every method changes the controller under the lock and issues its save after
releasing it; an operator process loads the row, pauses its own copy and saves that copy whole.
Steps interleave in any order.

A stop is *kept* when it is in the row, in a save in flight, or in the controller of a method that
still holds the lock.  Steps keep it as long as no save commits over a row it does not know about
(`NoStaleWrite`); without that condition `resetApiErrors_erases_operator_stop` loses one.
-/
import ArbitrageEngine.Lib.Runs
import ArbitrageEngine.Risk.Controller

namespace ArbitrageEngine.Risk

open Lib.Runs

/-! ## The machine -/

/-- The controller with its store: `loads` and `saves` are the store calls in flight. -/
structure StoreWorld where
  ctl : RiskState
  row : Option RiskState
  locked : Bool
  loads : List RiskState
  saves : List RiskState
deriving DecidableEq

/-- The methods that change the controller under its lock. -/
inductive LockedOp
  | pause (reason : String)
  | recordApiError
  | recordRealizedResult (today : Day) (profitUsd feesUsd : Dec)
  | resetApiErrors
deriving DecidableEq

/-- `record_realized_result` returns before taking the lock when there is no net loss. -/
def LockedOp.takesLock : LockedOp → Bool
  | .recordRealizedResult _ p f => decide (netResult p f < 0)
  | _ => true

/-- The body of a method under the lock. -/
def LockedOp.body (lim : RiskLimits) (s : RiskState) : LockedOp → RiskState
  | .pause reason => (Risk.pause reason s).2
  | .recordApiError => (Risk.recordApiError lim s).2
  | .recordRealizedResult today p f => (Risk.recordRealizedResult lim today p f s).2
  | .resetApiErrors => Risk.resetApiErrors s

/-- One step of the controller, the store, or the operator process. -/
inductive StoreAction
  /-- A method takes the lock and runs its body. -/
  | enter (op : LockedOp)
  /-- It releases the lock and issues its whole-state save. -/
  | leave
  /-- The `i`-th save in flight commits. -/
  | commit (i : ℕ)
  /-- The `i`-th save in flight raises. -/
  | failSave (i : ℕ)
  /-- A refresh loads the row. -/
  | load
  /-- The refresh that made the `i`-th load adopts it under the lock. -/
  | adopt (i : ℕ)
  /-- A refresh whose load raised pauses the controller. -/
  | failLoad (exc : String)
  /-- An operator process loads the row, pauses its copy and issues its save. -/
  | operatorPause (today : Day) (reason : String)

/-- A controller as constructed on `today`. -/
def constructed (today : Day) : RiskState := ⟨today, 0, 0, false, none⟩

/-- One step; `none` when the action is not enabled. -/
def storeStep (lim : RiskLimits) (w : StoreWorld) : StoreAction → Option StoreWorld
  | .enter op =>
      if w.locked = false ∧ op.takesLock = true then
        some { w with ctl := op.body lim w.ctl, locked := true }
      else none
  | .leave => if w.locked then some { w with locked := false, saves := w.ctl :: w.saves } else none
  | .commit i =>
      match w.saves[i]? with
      | none => none
      | some s => some { w with row := some (storedRow s), saves := w.saves.eraseIdx i }
  | .failSave i =>
      match w.saves[i]? with
      | none => none
      | some _ => some { w with saves := w.saves.eraseIdx i }
  | .load =>
      match w.row with
      | none => some w
      | some r => some { w with loads := r :: w.loads }
  | .adopt i =>
      match w.loads[i]? with
      | none => none
      | some r =>
          if w.locked then none
          else some { w with ctl := adoptStored r, loads := w.loads.eraseIdx i }
  | .failLoad exc => if w.locked then none else some { w with ctl := pauseOnFailedRefresh exc w.ctl }
  | .operatorPause today reason =>
      match w.row with
      | none => some { w with row := some (storedRow (constructed today)) }
      | some r => some { w with saves := (Risk.pause reason (adoptStored r)).2 :: w.saves }

/-- The state `initialize` leaves: the controller has adopted the row. -/
def initialized (r : RiskState) : StoreWorld := ⟨adoptStored r, some r, false, [], []⟩

/-- The stop is set in the controller or in the row. -/
def StoreWorld.Stopped (w : StoreWorld) : Prop :=
  w.ctl.paused = true ∨ ∃ r, w.row = some r ∧ r.paused = true

/-! ## What one state records of another -/

/-- `r` records at least the losses of `s`: a later day, or the same day and no smaller total. -/
def LossLe (s r : RiskState) : Prop :=
  s.lossDay < r.lossDay ∨ s.lossDay = r.lossDay ∧ s.dailyLossUsd ≤ r.dailyLossUsd

/-- `r` records at least what `s` records: its stop and its losses. -/
def Above (r s : RiskState) : Prop := (s.paused = true → r.paused = true) ∧ LossLe s r

instance (s r : RiskState) : Decidable (LossLe s r) := inferInstanceAs (Decidable (_ ∨ _))

instance (r s : RiskState) : Decidable (Above r s) := inferInstanceAs (Decidable (_ ∧ _))

theorem LossLe.refl (s : RiskState) : LossLe s s := Or.inr ⟨rfl, le_rfl⟩

theorem LossLe.trans {a b c : RiskState} (hab : LossLe a b) (hbc : LossLe b c) : LossLe a c := by
  rcases hab with hab | ⟨hab, hab'⟩
  · rcases hbc with hbc | ⟨hbc, _⟩
    · exact Or.inl (hab.trans hbc)
    · exact Or.inl (hbc ▸ hab)
  · rcases hbc with hbc | ⟨hbc, hbc'⟩
    · exact Or.inl (hab ▸ hbc)
    · exact Or.inr ⟨hab.trans hbc, hab'.trans hbc'⟩

theorem Above.refl (s : RiskState) : Above s s := ⟨id, .refl s⟩

theorem Above.trans {a b c : RiskState} (hab : Above a b) (hbc : Above b c) : Above a c :=
  ⟨fun h => hab.1 (hbc.1 h), hbc.2.trans hab.2⟩

/-- Adopting a row whose total is not negative records no more than the row. -/
theorem lossLe_adoptStored {l r : RiskState} (h : LossLe l r) (hr : 0 ≤ r.dailyLossUsd) :
    LossLe (adoptStored l) r := by
  rcases h with h | ⟨hday, hle⟩
  · exact Or.inl h
  · exact Or.inr ⟨hday, max_le hr hle⟩

/-- A property of states that what records more inherits. -/
def UpClosed (P : RiskState → Prop) : Prop := ∀ ⦃r s⦄, Above r s → P s → P r

theorem upClosed_paused : UpClosed fun s => s.paused = true := fun _ _ h hs => h.1 hs

theorem upClosed_lossLe (v : RiskState) : UpClosed (LossLe v) := fun _ _ h hs => hs.trans h.2

/-! ## Keeping a property in flight -/

/-- `P` is kept: in the row, in a save in flight, or in the controller of a method that holds the
lock and will save it. -/
def Kept (P : RiskState → Prop) (w : StoreWorld) : Prop :=
  (∃ r, w.row = some r ∧ P r) ∨ (∃ s ∈ w.saves, P s) ∨ (w.locked = true ∧ P w.ctl)

/-- The steps that lose nothing: a save commits only over a row it records, and its total is not
rounded down by the column; a save raises only when the row records it already; and a refresh
pauses the controller on a failed load only when a stop is recorded already. -/
def NoStaleWrite (w : StoreWorld) : StoreAction → Prop
  | .commit i =>
      match w.saves[i]? with
      | none => True
      | some s => Above (storedRow s) s ∧ ∀ r ∈ w.row, Above (storedRow s) r
  | .failSave i =>
      match w.saves[i]? with
      | none => True
      | some s => ∃ r ∈ w.row, Above r s
  | .failLoad _ => w.ctl.paused = true ∨ (∃ r ∈ w.row, r.paused = true) ∨ ∃ s ∈ w.saves, s.paused = true
  | _ => True

instance (w : StoreWorld) : ∀ a, Decidable (NoStaleWrite w a)
  | .commit i =>
      match h : w.saves[i]? with
      | none => isTrue (by simp [NoStaleWrite, h])
      | some s =>
          decidable_of_iff (Above (storedRow s) s ∧ ∀ r ∈ w.row, Above (storedRow s) r)
            (by simp [NoStaleWrite, h])
  | .failSave i =>
      match h : w.saves[i]? with
      | none => isTrue (by simp [NoStaleWrite, h])
      | some s => decidable_of_iff (∃ r ∈ w.row, Above r s) (by simp [NoStaleWrite, h])
  | .failLoad _ => inferInstanceAs (Decidable (_ ∨ _))
  | .enter _ => inferInstanceAs (Decidable True)
  | .leave => inferInstanceAs (Decidable True)
  | .load => inferInstanceAs (Decidable True)
  | .adopt _ => inferInstanceAs (Decidable True)
  | .operatorPause _ _ => inferInstanceAs (Decidable True)

/-- Removing the save that was handled leaves the others in flight. -/
theorem mem_eraseIdx_of_ne {l : List RiskState} {i : ℕ} {s t : RiskState} (hi : l[i]? = some s)
    (ht : t ∈ l) (hne : t ≠ s) : t ∈ l.eraseIdx i := by
  obtain ⟨j, hj⟩ := List.getElem?_of_mem ht
  refine List.mem_eraseIdx_iff_getElem?.mpr ⟨j, ?_, hj⟩
  rintro rfl
  exact hne (Option.some.inj (hj.symm.trans hi))

/-- One step keeps what is kept, whatever the property, as long as recording more is enough for
it. -/
theorem kept_step {lim : RiskLimits} {P : RiskState → Prop} (hP : UpClosed P) {w w' : StoreWorld}
    {a : StoreAction} (hkept : Kept P w) (hok : NoStaleWrite w a)
    (hstep : storeStep lim w a = some w') : Kept P w' := by
  cases a with
  | enter op =>
      simp only [storeStep, Option.ite_none_right_eq_some, Option.some.injEq] at hstep
      obtain ⟨⟨hfree, _⟩, rfl⟩ := hstep
      rcases hkept with h | h | ⟨hlocked, _⟩
      · exact Or.inl h
      · exact Or.inr (Or.inl h)
      · rw [hfree] at hlocked
        cases hlocked
  | leave =>
      simp only [storeStep, Option.ite_none_right_eq_some, Option.some.injEq] at hstep
      obtain ⟨_, rfl⟩ := hstep
      rcases hkept with h | ⟨s, hs, hPs⟩ | ⟨_, hPc⟩
      · exact Or.inl h
      · exact Or.inr (Or.inl ⟨s, List.mem_cons_of_mem _ hs, hPs⟩)
      · exact Or.inr (Or.inl ⟨w.ctl, by simp, hPc⟩)
  | commit i =>
      simp only [storeStep] at hstep
      cases hi : w.saves[i]? with
      | none => simp [hi] at hstep
      | some s =>
          simp only [hi, Option.some.injEq] at hstep
          simp only [NoStaleWrite, hi] at hok
          obtain ⟨hself, hrow⟩ := hok
          subst hstep
          rcases hkept with ⟨r, hr, hPr⟩ | ⟨t, ht, hPt⟩ | h
          · exact Or.inl ⟨_, rfl, hP (hrow r hr) hPr⟩
          · by_cases hts : t = s
            · exact Or.inl ⟨_, rfl, hP hself (hts ▸ hPt)⟩
            · exact Or.inr (Or.inl ⟨t, mem_eraseIdx_of_ne hi ht hts, hPt⟩)
          · exact Or.inr (Or.inr h)
  | failSave i =>
      simp only [storeStep] at hstep
      cases hi : w.saves[i]? with
      | none => simp [hi] at hstep
      | some s =>
          simp only [hi, Option.some.injEq] at hstep
          simp only [NoStaleWrite, hi] at hok
          obtain ⟨r, hr, habove⟩ := hok
          subst hstep
          rcases hkept with h | ⟨t, ht, hPt⟩ | h
          · exact Or.inl h
          · by_cases hts : t = s
            · exact Or.inl ⟨r, hr, hP habove (hts ▸ hPt)⟩
            · exact Or.inr (Or.inl ⟨t, mem_eraseIdx_of_ne hi ht hts, hPt⟩)
          · exact Or.inr (Or.inr h)
  | load =>
      simp only [storeStep] at hstep
      split at hstep <;> cases hstep <;> exact hkept
  | adopt i =>
      simp only [storeStep] at hstep
      split at hstep
      · cases hstep
      · simp only [Option.ite_none_left_eq_some, Option.some.injEq] at hstep
        obtain ⟨hfree, rfl⟩ := hstep
        rcases hkept with h | h | ⟨hlocked, _⟩
        · exact Or.inl h
        · exact Or.inr (Or.inl h)
        · exact absurd hlocked hfree
  | failLoad exc =>
      simp only [storeStep, Option.ite_none_left_eq_some, Option.some.injEq] at hstep
      obtain ⟨hfree, rfl⟩ := hstep
      rcases hkept with h | h | ⟨hlocked, _⟩
      · exact Or.inl h
      · exact Or.inr (Or.inl h)
      · exact absurd hlocked hfree
  | operatorPause today reason =>
      simp only [storeStep] at hstep
      split at hstep
      · rename_i hrow
        cases hstep
        rcases hkept with ⟨r, hr, _⟩ | h | h
        · rw [hrow] at hr
          cases hr
        · exact Or.inr (Or.inl h)
        · exact Or.inr (Or.inr h)
      · cases hstep
        rcases hkept with h | ⟨s, hs, hPs⟩ | h
        · exact Or.inl h
        · exact Or.inr (Or.inl ⟨s, List.mem_cons_of_mem _ hs, hPs⟩)
        · exact Or.inr (Or.inr h)

/-! ## The invariant -/

/-- Totals are not negative and the loads in flight are behind the row; every stop and every total
of the history is kept. -/
structure StoreInv (hist : List StoreWorld) (w : StoreWorld) : Prop where
  row_some : ∃ r, w.row = some r
  row_nonneg : ∀ r ∈ w.row, 0 ≤ r.dailyLossUsd
  ctl_nonneg : 0 ≤ w.ctl.dailyLossUsd
  saves_nonneg : ∀ s ∈ w.saves, 0 ≤ s.dailyLossUsd
  loads_behind : ∀ l ∈ w.loads, ∀ r ∈ w.row, Above r l
  stop : (∃ u ∈ w :: hist, u.Stopped) → Kept (fun s => s.paused = true) w
  loss : ∀ u ∈ w :: hist, Kept (LossLe u.ctl) w

theorem storeInv_initialized {r : RiskState} (hr : 0 ≤ r.dailyLossUsd) :
    StoreInv [] (initialized r) where
  row_some := ⟨r, rfl⟩
  row_nonneg := by simpa [initialized] using hr
  ctl_nonneg := le_max_left _ _
  saves_nonneg := by simp [initialized]
  loads_behind := by simp [initialized]
  stop := by
    rintro ⟨u, hu, hstop⟩
    rw [List.mem_singleton] at hu
    subst hu
    rcases hstop with h | ⟨q, hq, h⟩
    · exact Or.inl ⟨r, rfl, h⟩
    · exact Or.inl ⟨q, hq, h⟩
  loss := by
    intro u hu
    rw [List.mem_singleton] at hu
    subst hu
    exact Or.inl ⟨r, rfl, lossLe_adoptStored (.refl r) hr⟩

/-- A body that runs under the lock leaves a total that is not negative. -/
theorem body_nonneg (lim : RiskLimits) (op : LockedOp) {s : RiskState} (h : 0 ≤ s.dailyLossUsd) :
    0 ≤ (op.body lim s).dailyLossUsd := by
  cases op with
  | pause reason => exact h
  | recordApiError =>
      simp only [LockedOp.body, Risk.recordApiError]
      split <;> exact h
  | recordRealizedResult today p f => exact recordRealizedResult_dailyLossUsd_nonneg h
  | resetApiErrors =>
      simp only [LockedOp.body, Risk.resetApiErrors]
      split <;> exact h

/-- The part of the invariant that speaks about the current state alone. -/
theorem storeInv_state {lim : RiskLimits} {hist : List StoreWorld} {w w' : StoreWorld}
    {a : StoreAction} (h : StoreInv hist w) (hok : NoStaleWrite w a)
    (hstep : storeStep lim w a = some w') :
    (∃ r, w'.row = some r) ∧ (∀ r ∈ w'.row, 0 ≤ r.dailyLossUsd) ∧ 0 ≤ w'.ctl.dailyLossUsd ∧
      (∀ s ∈ w'.saves, 0 ≤ s.dailyLossUsd) ∧ ∀ l ∈ w'.loads, ∀ r ∈ w'.row, Above r l := by
  obtain ⟨r, hr⟩ := h.row_some
  cases a with
  | enter op =>
      simp only [storeStep, Option.ite_none_right_eq_some, Option.some.injEq] at hstep
      obtain ⟨_, rfl⟩ := hstep
      exact ⟨h.row_some, h.row_nonneg, body_nonneg lim op h.ctl_nonneg, h.saves_nonneg,
        h.loads_behind⟩
  | leave =>
      simp only [storeStep, Option.ite_none_right_eq_some, Option.some.injEq] at hstep
      obtain ⟨_, rfl⟩ := hstep
      refine ⟨h.row_some, h.row_nonneg, h.ctl_nonneg, ?_, h.loads_behind⟩
      intro s hs
      rcases List.mem_cons.mp hs with rfl | hs
      · exact h.ctl_nonneg
      · exact h.saves_nonneg s hs
  | commit i =>
      simp only [storeStep] at hstep
      cases hi : w.saves[i]? with
      | none => simp [hi] at hstep
      | some s =>
          simp only [hi, Option.some.injEq] at hstep
          simp only [NoStaleWrite, hi] at hok
          subst hstep
          have hs : 0 ≤ s.dailyLossUsd := h.saves_nonneg s (List.mem_of_getElem? hi)
          refine ⟨⟨_, rfl⟩, ?_, h.ctl_nonneg, ?_, ?_⟩
          · intro q hq
            cases hq
            exact Dec.money_nonneg hs
          · exact fun t ht => h.saves_nonneg t (List.mem_of_mem_eraseIdx ht)
          · -- the row that commits records the row it replaces, hence every load behind that one
            intro l hl q hq
            cases hq
            exact (hok.2 r hr).trans (h.loads_behind l hl r hr)
  | failSave i =>
      simp only [storeStep] at hstep
      split at hstep
      · cases hstep
      · cases hstep
        exact ⟨h.row_some, h.row_nonneg, h.ctl_nonneg,
          fun t ht => h.saves_nonneg t (List.mem_of_mem_eraseIdx ht), h.loads_behind⟩
  | load =>
      simp only [storeStep] at hstep
      split at hstep
      · rename_i hnone
        rw [hr] at hnone
        cases hnone
      · rename_i loaded hloaded
        cases hstep
        refine ⟨h.row_some, h.row_nonneg, h.ctl_nonneg, h.saves_nonneg, ?_⟩
        intro l hl q hq
        rcases List.mem_cons.mp hl with rfl | hl
        · have hql : q = l := Option.some.inj (hq.symm.trans hloaded)
          exact hql ▸ .refl q
        · exact h.loads_behind l hl q hq
  | adopt i =>
      simp only [storeStep] at hstep
      split at hstep
      · cases hstep
      · simp only [Option.ite_none_left_eq_some, Option.some.injEq] at hstep
        obtain ⟨_, rfl⟩ := hstep
        exact ⟨h.row_some, h.row_nonneg, le_max_left _ _, h.saves_nonneg,
          fun l hl => h.loads_behind l (List.mem_of_mem_eraseIdx hl)⟩
  | failLoad exc =>
      simp only [storeStep, Option.ite_none_left_eq_some, Option.some.injEq] at hstep
      obtain ⟨_, rfl⟩ := hstep
      exact ⟨h.row_some, h.row_nonneg, h.ctl_nonneg, h.saves_nonneg, h.loads_behind⟩
  | operatorPause today reason =>
      simp only [storeStep] at hstep
      split at hstep
      · rename_i hnone
        rw [hr] at hnone
        cases hnone
      · cases hstep
        refine ⟨h.row_some, h.row_nonneg, h.ctl_nonneg, ?_, h.loads_behind⟩
        intro s hs
        rcases List.mem_cons.mp hs with rfl | hs
        · exact le_max_left _ _
        · exact h.saves_nonneg s hs

/-- The new state of a step is itself kept: its stop and its total. -/
theorem kept_self {lim : RiskLimits} {hist : List StoreWorld} {w w' : StoreWorld}
    {a : StoreAction} (h : StoreInv hist w) (hok : NoStaleWrite w a)
    (hstep : storeStep lim w a = some w') :
    (w'.Stopped → Kept (fun s => s.paused = true) w') ∧ Kept (LossLe w'.ctl) w' := by
  have hcur : w ∈ w :: hist := List.mem_cons_self
  -- a step that leaves the controller alone: what it holds was kept before
  have same : w'.ctl = w.ctl →
      (w'.Stopped → Kept (fun s => s.paused = true) w') ∧ Kept (LossLe w'.ctl) w' := by
    intro hctl
    refine ⟨?_, ?_⟩
    · rintro (hp | ⟨r, hr, hp⟩)
      · rw [hctl] at hp
        exact kept_step upClosed_paused (h.stop ⟨w, hcur, Or.inl hp⟩) hok hstep
      · exact Or.inl ⟨r, hr, hp⟩
    · rw [hctl]
      exact kept_step (upClosed_lossLe _) (h.loss w hcur) hok hstep
  cases a with
  | enter op =>
      simp only [storeStep, Option.ite_none_right_eq_some, Option.some.injEq] at hstep
      obtain ⟨_, rfl⟩ := hstep
      refine ⟨?_, Or.inr (Or.inr ⟨rfl, .refl _⟩)⟩
      rintro (hp | ⟨r, hr, hp⟩)
      · exact Or.inr (Or.inr ⟨rfl, hp⟩)
      · exact Or.inl ⟨r, hr, hp⟩
  | leave =>
      apply same
      simp only [storeStep, Option.ite_none_right_eq_some, Option.some.injEq] at hstep
      obtain ⟨_, rfl⟩ := hstep
      rfl
  | commit i =>
      apply same
      simp only [storeStep] at hstep
      split at hstep <;> cases hstep
      rfl
  | failSave i =>
      apply same
      simp only [storeStep] at hstep
      split at hstep <;> cases hstep
      rfl
  | load =>
      apply same
      simp only [storeStep] at hstep
      split at hstep <;> cases hstep <;> rfl
  | adopt i =>
      simp only [storeStep] at hstep
      cases hi : w.loads[i]? with
      | none => simp [hi] at hstep
      | some l =>
          simp only [hi, Option.ite_none_left_eq_some, Option.some.injEq] at hstep
          obtain ⟨_, rfl⟩ := hstep
          obtain ⟨r, hr⟩ := h.row_some
          have habove : Above r l := h.loads_behind l (List.mem_of_getElem? hi) r hr
          refine ⟨?_, Or.inl ⟨r, hr, lossLe_adoptStored habove.2 (h.row_nonneg r hr)⟩⟩
          rintro (hp | ⟨q, hq, hp⟩)
          · exact Or.inl ⟨r, hr, habove.1 hp⟩
          · exact Or.inl ⟨q, hq, hp⟩
  | failLoad exc =>
      have hkept := kept_step (upClosed_lossLe w.ctl) (h.loss w hcur) hok hstep
      have hstop : Kept (fun s => s.paused = true) w := by
        rcases hok with hp | hp | hp
        · exact h.stop ⟨w, hcur, Or.inl hp⟩
        · exact Or.inl hp
        · exact Or.inr (Or.inl hp)
      have hstop' := kept_step upClosed_paused hstop hok hstep
      simp only [storeStep, Option.ite_none_left_eq_some, Option.some.injEq] at hstep
      obtain ⟨_, rfl⟩ := hstep
      exact ⟨fun _ => hstop', hkept⟩
  | operatorPause today reason =>
      apply same
      simp only [storeStep] at hstep
      split at hstep <;> cases hstep <;> rfl

/-- Every step that writes nothing stale keeps the invariant. -/
theorem storeInv_step {lim : RiskLimits} {hist : List StoreWorld} {w w' : StoreWorld}
    {a : StoreAction} (h : StoreInv hist w) (hok : NoStaleWrite w a)
    (hstep : storeStep lim w a = some w') : StoreInv (w :: hist) w' := by
  obtain ⟨hsome, hrow, hctl, hsaves, hloads⟩ := storeInv_state h hok hstep
  obtain ⟨hstop, hloss⟩ := kept_self h hok hstep
  refine ⟨hsome, hrow, hctl, hsaves, hloads, ?_, ?_⟩
  · rintro ⟨u, hu, hstopped⟩
    rcases List.mem_cons.mp hu with rfl | hu
    · exact hstop hstopped
    · exact kept_step upClosed_paused (h.stop ⟨u, hu, hstopped⟩) hok hstep
  · intro u hu
    rcases List.mem_cons.mp hu with rfl | hu
    · exact hloss
    · exact kept_step (upClosed_lossLe _) (h.loss u hu) hok hstep

theorem storeInv_run {lim : RiskLimits} {r : RiskState} (hr : 0 ≤ r.dailyLossUsd)
    {hist : List StoreWorld} {w : StoreWorld}
    (hrun : Run (storeStep lim) NoStaleWrite (initialized r) hist w) : StoreInv hist w :=
  hrun.invariant StoreInv (storeInv_initialized hr) fun _ _ _ _ => storeInv_step

/-! ## The stop survives -/

/-- With nothing in flight, what is kept is in the row. -/
theorem kept_quiet {P : RiskState → Prop} {w : StoreWorld} (hfree : w.locked = false)
    (hsaves : w.saves = []) (h : Kept P w) : ∃ r, w.row = some r ∧ P r := by
  rcases h with h | ⟨s, hs, _⟩ | ⟨hl, _⟩
  · exact h
  · rw [hsaves] at hs
    cases hs
  · rw [hfree] at hl
    cases hl

/-- A refresh that runs alone adopts the row. -/
theorem refresh_alone {lim : RiskLimits} {w w₁ w₂ : StoreWorld} {q : RiskState}
    (hq : w.row = some q) (hload : storeStep lim w .load = some w₁)
    (hadopt : storeStep lim w₁ (.adopt 0) = some w₂) :
    w₂.ctl = adoptStored q ∧ w₂.row = some q := by
  simp only [storeStep, hq, Option.some.injEq] at hload
  subst hload
  simp only [storeStep, List.getElem?_cons_zero, Option.ite_none_left_eq_some,
    Option.some.injEq] at hadopt
  obtain ⟨_, rfl⟩ := hadopt
  exact ⟨rfl, rfl⟩

/-- **The stop survives.**  In every interleaving without a stale write, once all saves have
finished and one further refresh has loaded and adopted the row: a stop that was ever set is set in
both the controller and the row, and the row's total is not below any total the controller held on
that day. -/
theorem stop_survives_interleaving {lim : RiskLimits} {r : RiskState} (hr : 0 ≤ r.dailyLossUsd)
    {hist : List StoreWorld} {w w₁ w₂ : StoreWorld}
    (hrun : Run (storeStep lim) NoStaleWrite (initialized r) hist w)
    (hfree : w.locked = false) (hsaves : w.saves = [])
    (hload : storeStep lim w .load = some w₁) (hadopt : storeStep lim w₁ (.adopt 0) = some w₂) :
    ((∃ u ∈ w :: hist, u.Stopped) →
        w₂.ctl.paused = true ∧ ∃ q, w₂.row = some q ∧ q.paused = true) ∧
      ∀ u ∈ w :: hist, ∀ q, w₂.row = some q → u.ctl.lossDay = q.lossDay →
        u.ctl.dailyLossUsd ≤ q.dailyLossUsd := by
  have hinv : StoreInv hist w := storeInv_run hr hrun
  obtain ⟨q, hq⟩ := hinv.row_some
  obtain ⟨hctl, hrow⟩ := refresh_alone hq hload hadopt
  refine ⟨fun hever => ?_, fun u hu q' hq' hday => ?_⟩
  · obtain ⟨q', hq', hp⟩ := kept_quiet hfree hsaves (hinv.stop hever)
    have hsame : q' = q := Option.some.inj (hq'.symm.trans hq)
    subst hsame
    rw [hctl, hrow]
    exact ⟨hp, q', rfl, hp⟩
  · obtain ⟨q'', hq'', hle⟩ := kept_quiet hfree hsaves (hinv.loss u hu)
    have hsame : q'' = q := Option.some.inj (hq''.symm.trans hq)
    have hsame' : q' = q := Option.some.inj (hq'.symm.trans hrow)
    subst hsame hsame'
    rcases hle with hlt | ⟨_, hle⟩
    · exact absurd hday hlt.ne
    · exact hle

/-- A loss of 60, a refresh, an operator stop and a second loss, each save committing in order. -/
theorem stop_survives_interleaving_ordered :
    ∃ hist w, ∃ w₂ : StoreWorld, Run (storeStep ⟨100, 3⟩) NoStaleWrite (initialized (constructed 1)) hist w ∧
      w₂.ctl.paused = true ∧ ∀ u ∈ w :: hist, ∀ q, w₂.row = some q →
        u.ctl.lossDay = q.lossDay → u.ctl.dailyLossUsd ≤ q.dailyLossUsd := by
  have hexec : exec (storeStep ⟨100, 3⟩) NoStaleWrite (initialized (constructed 1))
      [.enter (.recordRealizedResult 1 (-60) 0), .load, .leave, .commit 0,
        .operatorPause 1 "stop", .commit 0, .load, .adopt 0,
        .enter (.recordRealizedResult 1 (-5) 0), .leave, .adopt 0, .commit 0] =
      some ⟨⟨1, 0, 0, false, none⟩, some ⟨1, 65, 0, true, some "stop"⟩, false, [], []⟩ := by
    decide +kernel
  obtain ⟨hist, hrun⟩ := Run.of_exec hexec
  obtain ⟨hstop, hloss⟩ := stop_survives_interleaving (by decide +kernel) hrun rfl rfl rfl rfl
  exact ⟨hist, _, _, hrun, (hstop ⟨_, List.mem_cons_self, Or.inr ⟨_, rfl, rfl⟩⟩).1, hloss⟩

/-- Without the condition the stop is lost: an operator's stop commits between the loading of the
runtime's state and the whole-state save of `reset_api_errors`. -/
theorem resetApiErrors_erases_operator_stop :
    ∃ hist w w₁ w₂,
      Run (storeStep ⟨100, 3⟩) anyAction (initialized (constructed 1)) hist w ∧
        w.locked = false ∧ w.saves = [] ∧ (∃ u ∈ w :: hist, u.Stopped) ∧
        storeStep ⟨100, 3⟩ w .load = some w₁ ∧ storeStep ⟨100, 3⟩ w₁ (.adopt 0) = some w₂ ∧
        ¬ (w₂.ctl.paused = true ∧ ∃ q, w₂.row = some q ∧ q.paused = true) := by
  have hstop : exec (storeStep ⟨100, 3⟩) anyAction (initialized (constructed 1))
      [.operatorPause 1 "stop", .commit 0] =
      some ⟨constructed 1, some ⟨1, 0, 0, true, some "stop"⟩, false, [], []⟩ := by decide +kernel
  have hreset : exec (storeStep ⟨100, 3⟩) anyAction
      ⟨constructed 1, some ⟨1, 0, 0, true, some "stop"⟩, false, [], []⟩
      [.enter .resetApiErrors, .leave, .commit 0] =
      some ⟨constructed 1, some (constructed 1), false, [], []⟩ := by decide +kernel
  obtain ⟨hist, hrun⟩ := Run.of_exec hstop
  obtain ⟨hist', hrun', hmem⟩ := hrun.append_exec hreset
  refine ⟨hist', _, _, _, hrun', rfl, rfl, ?_, rfl, rfl, by decide +kernel⟩
  exact ⟨_, hmem _ List.mem_cons_self, Or.inr ⟨_, rfl, rfl⟩⟩

end ArbitrageEngine.Risk
