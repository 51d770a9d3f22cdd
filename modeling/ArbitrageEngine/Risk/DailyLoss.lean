/-
# ArbitrageEngine.Risk.DailyLoss -- the daily loss budget of one process

A session is a controller, the UTC day, and the losses passed to it so far with the day each was
passed.  Days never go backwards; the calls come in any order.  The budget holds while the session
does not forget: the one call that forgets is a `resume` on a later day than `loss_day`, which
resets the total although losses recorded during the pause were counted for the stale day.
-/
import ArbitrageEngine.Lib.Runs
import ArbitrageEngine.Risk.Controller

namespace ArbitrageEngine.Risk

open Lib.Runs

/-! ## Sessions -/

/-- The calls a process makes. -/
inductive RiskCall
  | recordRealizedResult (profitUsd feesUsd : Dec)
  | recordApiError
  | pause (reason : String)
  | resetApiErrors
  | resume
deriving DecidableEq

/-- The net loss of a result, zero for a gain. -/
def netLoss (profitUsd feesUsd : Dec) : Dec := max 0 (max 0 feesUsd - profitUsd)

/-- A controller in one process: `losses` are the net losses passed so far, newest first. -/
structure Session where
  ctl : RiskState
  today : Day
  losses : List (Day × Dec)
deriving DecidableEq

/-- A call, or the passing of time. -/
inductive SessionEvent
  | clock (day : Day)
  | call (c : RiskCall)

/-- One call; a refused `resume` raises and changes nothing. -/
def RiskCall.apply (lim : RiskLimits) (s : Session) : RiskCall → Session
  | .recordRealizedResult p f =>
      { s with
        ctl := (Risk.recordRealizedResult lim s.today p f s.ctl).2
        losses := (s.today, netLoss p f) :: s.losses }
  | .recordApiError => { s with ctl := (Risk.recordApiError lim s.ctl).2 }
  | .pause reason => { s with ctl := (Risk.pause reason s.ctl).2 }
  | .resetApiErrors => { s with ctl := Risk.resetApiErrors s.ctl }
  | .resume =>
      match Risk.resume lim s.today s.ctl with
      | .ok ctl => { s with ctl := ctl }
      | .error _ => s

/-- UTC days never go backwards. -/
def sessionStep (lim : RiskLimits) (s : Session) : SessionEvent → Option Session
  | .clock day => if s.today ≤ day then some { s with today := day } else none
  | .call c => some (c.apply lim s)

/-- The sum of the net losses passed on `day`. -/
def lossesOn (day : Day) (losses : List (Day × Dec)) : Dec :=
  ((losses.filter fun e => e.1 = day).map Prod.snd).sum

@[simp]
theorem lossesOn_nil (day : Day) : lossesOn day [] = 0 := rfl

theorem lossesOn_cons_same (day : Day) (loss : Dec) (losses : List (Day × Dec)) :
    lossesOn day ((day, loss) :: losses) = loss + lossesOn day losses := by
  simp [lossesOn]

/-- A day on which nothing was passed yet has no losses. -/
theorem lossesOn_future {day : Day} {losses : List (Day × Dec)} (h : ∀ e ∈ losses, e.1 < day) :
    lossesOn day losses = 0 := by
  have hnil : losses.filter (fun e => e.1 = day) = [] := by
    refine List.filter_eq_nil_iff.mpr fun e he => ?_
    simpa using (h e he).ne
  simp [lossesOn, hnil]

theorem netLoss_nonneg (p f : Dec) : 0 ≤ netLoss p f := le_max_left _ _

/-- A result without a net loss leaves the controller alone. -/
theorem recordRealizedResult_of_netLoss_zero {lim : RiskLimits} {today : Day} {p f : Dec}
    (h : netLoss p f = 0) (s : RiskState) : recordRealizedResult lim today p f s = (false, s) := by
  have hle : max 0 f ≤ p := by
    have := le_max_right 0 (max 0 f - p)
    rw [← netLoss, h] at this
    linarith
  have hnet : 0 ≤ netResult p f := Dec.ctx_nonneg (by linarith)
  rw [recordRealizedResult, if_pos hnet]

/-! ## The budget -/

/-- What the code needs to keep the budget: a total that is not rounded down by the decimal
context, and no `resume` that starts a new total on a day that already has losses. -/
def Remembers (s : Session) : SessionEvent → Prop
  | .call (.recordRealizedResult p f) =>
      0 < netLoss p f → netResult p f < 0 ∧
        (rollLossDayForward s.today s.ctl).dailyLossUsd + netLoss p f ≤
          Dec.add (rollLossDayForward s.today s.ctl).dailyLossUsd (Dec.absolute (netResult p f))
  | .call .resume => s.today ≠ s.ctl.lossDay → lossesOn s.today s.losses = 0
  | _ => True

instance (s : Session) : ∀ e, Decidable (Remembers s e)
  | .clock _ => inferInstanceAs (Decidable True)
  | .call (.recordRealizedResult _ _) => inferInstanceAs (Decidable (_ → _))
  | .call .recordApiError => inferInstanceAs (Decidable True)
  | .call (.pause _) => inferInstanceAs (Decidable True)
  | .call .resetApiErrors => inferInstanceAs (Decidable True)
  | .call .resume => inferInstanceAs (Decidable (_ → _))

/-- The session accounts for its losses: the total covers the losses of `loss_day`, and a running
controller whose `loss_day` is not the current day has none to account for. -/
structure Accounted (lim : RiskLimits) (s : Session) : Prop where
  total_nonneg : 0 ≤ s.ctl.dailyLossUsd
  passed : ∀ e ∈ s.losses, e.1 ≤ s.today
  covered : s.ctl.lossDay = s.today → lossesOn s.today s.losses ≤ s.ctl.dailyLossUsd
  fresh : s.ctl.paused = false → s.ctl.lossDay ≠ s.today → lossesOn s.today s.losses = 0
  budget : s.ctl.paused = false → lossesOn s.today s.losses < lim.maxDailyLossUsd

theorem accounted_start {lim : RiskLimits} (hmax : 0 < lim.maxDailyLossUsd) {ctl : RiskState}
    (h : 0 ≤ ctl.dailyLossUsd) (today : Day) : Accounted lim ⟨ctl, today, []⟩ where
  total_nonneg := h
  passed := by simp
  covered _ := by simpa using h
  fresh _ _ := lossesOn_nil _
  budget _ := by simpa using hmax

/-- A later day has no losses yet. -/
theorem accounted_clock {lim : RiskLimits} (hmax : 0 < lim.maxDailyLossUsd) {s : Session}
    (h : Accounted lim s) {day : Day} (hday : s.today ≤ day) :
    Accounted lim { s with today := day } := by
  rcases hday.eq_or_lt with rfl | hlt
  · exact h
  have hnone : lossesOn day s.losses = 0 :=
    lossesOn_future fun e he => lt_of_le_of_lt (h.passed e he) hlt
  exact
    { total_nonneg := h.total_nonneg
      passed := fun e he => (h.passed e he).trans hday
      covered := fun _ => by simpa [hnone] using h.total_nonneg
      fresh := fun _ _ => hnone
      budget := fun _ => by simpa [hnone] using hmax }

/-- A method that keeps the loss fields and leaves a paused controller paused. -/
theorem accounted_same_loss {lim : RiskLimits} {s : Session} (h : Accounted lim s)
    {ctl : RiskState} (hday : ctl.lossDay = s.ctl.lossDay)
    (htotal : ctl.dailyLossUsd = s.ctl.dailyLossUsd)
    (hpaused : ctl.paused = false → s.ctl.paused = false) : Accounted lim { s with ctl := ctl } where
  total_nonneg := by simpa [htotal] using h.total_nonneg
  passed := h.passed
  covered := by simpa [hday, htotal] using h.covered
  fresh hp := by simpa [hday] using h.fresh (hpaused hp)
  budget hp := h.budget (hpaused hp)

/-- After the roll, the total covers what was passed today, unless the controller is paused on a
stale day. -/
theorem rolled_covers {lim : RiskLimits} {s : Session} (h : Accounted lim s)
    (hday : (rollLossDayForward s.today s.ctl).lossDay = s.today) :
    lossesOn s.today s.losses ≤ (rollLossDayForward s.today s.ctl).dailyLossUsd := by
  unfold rollLossDayForward at hday ⊢
  split
  · rename_i hroll
    simpa using (h.fresh hroll.2 (Ne.symm hroll.1)).le
  · rename_i hroll
    rw [if_neg hroll] at hday
    exact h.covered hday

/-- A running controller is on the current day after the roll. -/
theorem rolled_today {today : Day} {s : RiskState} (h : s.paused = false) :
    (rollLossDayForward today s).lossDay = today := by
  unfold rollLossDayForward
  split
  · rfl
  · rename_i hroll
    by_contra hne
    exact hroll ⟨Ne.symm hne, h⟩

/-- Recording a net loss of `loss`. -/
theorem accounted_addLoss {lim : RiskLimits} {s : Session} (h : Accounted lim s) {net loss : Dec}
    (hloss : 0 ≤ loss)
    (hadd : (rollLossDayForward s.today s.ctl).dailyLossUsd + loss ≤
      Dec.add (rollLossDayForward s.today s.ctl).dailyLossUsd (Dec.absolute net)) :
    Accounted lim
      { s with
        ctl := (addLoss lim s.today net s.ctl).2
        losses := (s.today, loss) :: s.losses } := by
  have hrolled : 0 ≤ (rollLossDayForward s.today s.ctl).dailyLossUsd :=
    rollLossDayForward_dailyLossUsd_nonneg h.total_nonneg
  have hcovered : (rollLossDayForward s.today s.ctl).lossDay = s.today →
      loss + lossesOn s.today s.losses ≤ (addLoss lim s.today net s.ctl).2.dailyLossUsd := by
    intro hday
    have hcov := rolled_covers h hday
    rw [addLoss_dailyLossUsd]
    linarith
  refine ⟨?_, ?_, ?_, ?_, ?_⟩
  · rw [addLoss_dailyLossUsd]
    linarith
  · intro e he
    rcases List.mem_cons.mp he with rfl | he
    · exact le_rfl
    · exact h.passed e he
  · intro hday
    rw [lossesOn_cons_same]
    exact hcovered (by simpa [addLoss_lossDay] using hday)
  · intro hrun hday
    exact absurd (by simpa [addLoss_lossDay] using rolled_today (addLoss_running hrun).1) hday
  · intro hrun
    obtain ⟨hwas, hlimit⟩ := addLoss_running hrun
    have hle := hcovered (rolled_today hwas)
    rw [lossesOn_cons_same]
    exact lt_of_le_of_lt hle hlimit

/-- A resume keeps the account when it does not forget losses of the current day. -/
theorem accounted_resume {lim : RiskLimits} (hmax : 0 < lim.maxDailyLossUsd) {s : Session}
    (h : Accounted lim s) {ctl : RiskState} (hres : resume lim s.today s.ctl = .ok ctl)
    (hforget : s.today ≠ s.ctl.lossDay → lossesOn s.today s.losses = 0) :
    Accounted lim { s with ctl := ctl } := by
  unfold resume at hres
  split at hres
  · cases hres
  rename_i hallowed
  by_cases hday : s.today = s.ctl.lossDay
  · -- the day is current: the refusal above says that its total is below the limit
    have hbelow : s.ctl.dailyLossUsd < lim.maxDailyLossUsd :=
      not_le.mp fun hle => hallowed ⟨hday, hle⟩
    have hcov := h.covered hday.symm
    simp only [hday, ne_eq, not_true_eq_false, if_false, Except.ok.injEq] at hres
    subst hres
    exact
      { total_nonneg := h.total_nonneg
        passed := h.passed
        covered := h.covered
        fresh := fun _ hne => absurd hday.symm hne
        budget := fun _ => lt_of_le_of_lt hcov hbelow }
  · have hnone := hforget hday
    simp only [ne_eq, hday, not_false_eq_true, if_true, Except.ok.injEq] at hres
    subst hres
    exact
      { total_nonneg := le_rfl
        passed := h.passed
        covered := fun _ => hnone.le
        fresh := fun _ _ => hnone
        budget := fun _ => by simpa [hnone] using hmax }

/-- Every step that remembers its losses keeps the account. -/
theorem accounted_step {lim : RiskLimits} (hmax : 0 < lim.maxDailyLossUsd) {s s' : Session}
    {e : SessionEvent} (h : Accounted lim s) (hrem : Remembers s e)
    (hstep : sessionStep lim s e = some s') : Accounted lim s' := by
  cases e with
  | clock day =>
      simp only [sessionStep, Option.ite_none_right_eq_some, Option.some.injEq] at hstep
      obtain ⟨hday, rfl⟩ := hstep
      exact accounted_clock hmax h hday
  | call c =>
      simp only [sessionStep, Option.some.injEq] at hstep
      subst hstep
      cases c with
      | recordRealizedResult p f =>
          rcases (netLoss_nonneg p f).eq_or_lt with hzero | hpos
          · have hsame : Risk.recordRealizedResult lim s.today p f s.ctl = (false, s.ctl) :=
              recordRealizedResult_of_netLoss_zero hzero.symm s.ctl
            simp only [RiskCall.apply, hsame, ← hzero]
            refine ⟨h.total_nonneg, ?_, ?_, ?_, ?_⟩
            · intro e he
              rcases List.mem_cons.mp he with rfl | he
              · exact le_rfl
              · exact h.passed e he
            all_goals rw [lossesOn_cons_same, zero_add]
            · exact h.covered
            · exact h.fresh
            · exact h.budget
          · obtain ⟨hneg, hadd⟩ := hrem hpos
            simp only [RiskCall.apply, recordRealizedResult, if_neg (not_le.mpr hneg)]
            exact accounted_addLoss h hpos.le hadd
      | recordApiError =>
          refine accounted_same_loss h ?_ ?_ ?_
          all_goals
            unfold recordApiError
            dsimp only
            split <;> simp
      | pause reason => exact accounted_same_loss h rfl rfl (by simp [Risk.pause])
      | resetApiErrors =>
          refine accounted_same_loss h ?_ ?_ ?_
          all_goals
            unfold resetApiErrors
            split <;> simp
      | resume =>
          simp only [RiskCall.apply]
          split
          · rename_i ctl hres
            exact accounted_resume hmax h hres hrem
          · exact h

/-- **The daily loss budget.**  From any controller, in every run of calls and passing days in which
no resume forgets losses of the current day and no total is rounded down, a controller that is not
paused has lost less than `max_daily_loss_usd` today. -/
theorem running_below_daily_limit {lim : RiskLimits} (hmax : 0 < lim.maxDailyLossUsd)
    {ctl : RiskState} (hctl : 0 ≤ ctl.dailyLossUsd) (today : Day)
    {hist : List Session} {s : Session}
    (hrun : Run (sessionStep lim) Remembers ⟨ctl, today, []⟩ hist s) :
    s.ctl.paused = false → lossesOn s.today s.losses < lim.maxDailyLossUsd := by
  have hacc : Accounted lim s :=
    hrun.state_invariant (Accounted lim) (accounted_start hmax hctl today)
      fun _ _ _ h hrem hstep => accounted_step hmax h hrem hstep
  exact hacc.budget

/-- A controller as constructed on day 1. -/
def freshController : RiskState := ⟨1, 0, 0, false, none⟩

/-- A loss of 40 on the first day, a pause, midnight, a resume, and a loss of 70. -/
theorem running_below_daily_limit_two_days :
    ∃ hist s, Run (sessionStep ⟨100, 3⟩) Remembers ⟨freshController, 1, []⟩ hist s ∧
      s.ctl.paused = false ∧ lossesOn s.today s.losses < 100 := by
  have hexec : exec (sessionStep ⟨100, 3⟩) Remembers ⟨freshController, 1, []⟩
      [.call (.recordRealizedResult (-40) 0), .call (.pause "operator"), .clock 2, .call .resume,
        .call (.recordRealizedResult (-70) 0)] =
      some ⟨⟨2, 70, 0, false, none⟩, 2, [(2, 70), (1, 40)]⟩ := by decide +kernel
  obtain ⟨hist, hrun⟩ := Run.of_exec hexec
  refine ⟨hist, _, hrun, rfl, ?_⟩
  exact running_below_daily_limit (by norm_num) (by decide +kernel) 1 hrun rfl

/-- The budget is broken by a resume that forgets: paused on day 1, a loss of 150 on day 2 counted
for day 1, and a resume on day 2 with a limit of 100. -/
theorem resume_forgets_losses_of_today :
    ∃ hist s, Run (sessionStep ⟨100, 3⟩) anyAction ⟨freshController, 1, []⟩ hist s ∧
      s.ctl.paused = false ∧ ¬ lossesOn s.today s.losses < 100 := by
  have hexec : exec (sessionStep ⟨100, 3⟩) anyAction ⟨freshController, 1, []⟩
      [.call (.pause "operator"), .clock 2, .call (.recordRealizedResult (-150) 0),
        .call .resume] =
      some ⟨⟨2, 0, 0, false, none⟩, 2, [(2, 150)]⟩ := by decide +kernel
  obtain ⟨hist, hrun⟩ := Run.of_exec hexec
  exact ⟨hist, _, hrun, rfl, by decide +kernel⟩

end ArbitrageEngine.Risk
