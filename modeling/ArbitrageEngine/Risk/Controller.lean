/-
# ArbitrageEngine.Risk.Controller -- the process-wide execution circuit

The fields of `GlobalRiskController` that its methods read and write, and the body of each method
between taking and releasing the lock.  The state is also what the durable store keeps: a row has
the same five fields, with the daily loss as its `MONEY` column stores it.

`Risk.DailyLoss` runs these bodies in one process; `Risk.Store` lets them interleave with the store.
-/
import ArbitrageEngine.Decimal

namespace ArbitrageEngine.Risk

/-- A UTC calendar day, as its ordinal. -/
abbrev Day : Type := ℤ

/-- The state of the controller, and a row of `risk_state`. -/
structure RiskState where
  lossDay : Day
  dailyLossUsd : Dec
  consecutiveApiErrors : ℤ
  paused : Bool
  pauseReason : Option String
deriving DecidableEq, Repr

/-- The two configured limits. -/
structure RiskLimits where
  maxDailyLossUsd : Dec
  maxConsecutiveApiErrors : ℤ

/-! ## Losses -/

/-- `net_result` of `record_realized_result`. -/
def netResult (profitUsd feesUsd : Dec) : Dec := Dec.sub profitUsd (max 0 feesUsd)

/-- `_roll_loss_day_forward`: a new day starts a new total, but not while paused. -/
def rollLossDayForward (today : Day) (s : RiskState) : RiskState :=
  if today ≠ s.lossDay ∧ s.paused = false then { s with lossDay := today, dailyLossUsd := 0 } else s

/-- `_set_paused_if_limit_reached`: the first component is the method's result. -/
def setPausedIfLimitReached (lim : RiskLimits) (reason : String) (s : RiskState) :
    Bool × RiskState :=
  if s.dailyLossUsd < lim.maxDailyLossUsd ∨ s.paused = true then (false, s)
  else (true, { s with paused := true, pauseReason := some reason })

/-- The reason `record_realized_result` gives when the limit is reached. -/
def lossLimitReason (lim : RiskLimits) (s : RiskState) : String :=
  "daily realized loss $" ++ Dec.fixed2 s.dailyLossUsd ++ " reached limit $" ++
    Dec.fixed2 lim.maxDailyLossUsd

/-- The locked part of `record_realized_result` for a net loss. -/
def addLoss (lim : RiskLimits) (today : Day) (net : Dec) (s : RiskState) : Bool × RiskState :=
  let rolled := rollLossDayForward today s
  let lost := { rolled with dailyLossUsd := Dec.add rolled.dailyLossUsd (Dec.absolute net) }
  setPausedIfLimitReached lim (lossLimitReason lim lost) lost

/-- `record_realized_result`: a result that is not a net loss changes nothing. -/
def recordRealizedResult (lim : RiskLimits) (today : Day) (profitUsd feesUsd : Dec)
    (s : RiskState) : Bool × RiskState :=
  if 0 ≤ netResult profitUsd feesUsd then (false, s)
  else addLoss lim today (netResult profitUsd feesUsd) s

/-! ## Errors, pauses and resumes -/

/-- `record_api_error`. -/
def recordApiError (lim : RiskLimits) (s : RiskState) : Bool × RiskState :=
  let counted := { s with consecutiveApiErrors := s.consecutiveApiErrors + 1 }
  if lim.maxConsecutiveApiErrors ≤ counted.consecutiveApiErrors ∧ counted.paused = false then
    (true, { counted with
      paused := true
      pauseReason :=
        some (toString counted.consecutiveApiErrors ++ " consecutive execution API errors") })
  else (false, counted)

/-- `pause`. -/
def pause (reason : String) (s : RiskState) : Bool × RiskState :=
  (!s.paused, { s with paused := true, pauseReason := some reason })

/-- `reset_api_errors`. -/
def resetApiErrors (s : RiskState) : RiskState :=
  if s.consecutiveApiErrors ≠ 0 then { s with consecutiveApiErrors := 0 } else s

/-- `resume`: refused on the day of an exceeded limit, otherwise it starts the current day. -/
def resume (lim : RiskLimits) (today : Day) (s : RiskState) : Except String RiskState :=
  if today = s.lossDay ∧ lim.maxDailyLossUsd ≤ s.dailyLossUsd then
    .error "Cannot resume risk on the same UTC day while the daily-loss limit remains exceeded"
  else
    let rolled := if today ≠ s.lossDay then { s with lossDay := today, dailyLossUsd := 0 } else s
    .ok { rolled with consecutiveApiErrors := 0, paused := false, pauseReason := none }

/-! ## The store -/

/-- The locked part of `refresh_from_store` for a row that was loaded. -/
def adoptStored (row : RiskState) : RiskState where
  lossDay := row.lossDay
  dailyLossUsd := max 0 row.dailyLossUsd
  consecutiveApiErrors := max 0 row.consecutiveApiErrors
  paused := row.paused
  pauseReason := row.pauseReason.filter (· ≠ "")

/-- The locked part of `refresh_from_store` when the load raised. -/
def pauseOnFailedRefresh (exc : String) (s : RiskState) : RiskState :=
  { s with
    paused := true
    pauseReason := some ("risk state could not be refreshed from durable store: " ++ exc) }

/-- The row `save_risk_state` leaves for the state it was given. -/
def storedRow (s : RiskState) : RiskState := { s with dailyLossUsd := Dec.money s.dailyLossUsd }

@[simp]
theorem storedRow_lossDay (s : RiskState) : (storedRow s).lossDay = s.lossDay := rfl

@[simp]
theorem storedRow_dailyLossUsd (s : RiskState) :
    (storedRow s).dailyLossUsd = Dec.money s.dailyLossUsd := rfl

@[simp]
theorem storedRow_paused (s : RiskState) : (storedRow s).paused = s.paused := rfl

@[simp]
theorem adoptStored_lossDay (row : RiskState) : (adoptStored row).lossDay = row.lossDay := rfl

@[simp]
theorem adoptStored_dailyLossUsd (row : RiskState) :
    (adoptStored row).dailyLossUsd = max 0 row.dailyLossUsd := rfl

@[simp]
theorem adoptStored_paused (row : RiskState) : (adoptStored row).paused = row.paused := rfl

/-! ## What the methods keep -/

@[simp]
theorem rollLossDayForward_paused (today : Day) (s : RiskState) :
    (rollLossDayForward today s).paused = s.paused := by
  unfold rollLossDayForward
  split <;> rfl

@[simp]
theorem setPausedIfLimitReached_lossDay (lim : RiskLimits) (reason : String) (s : RiskState) :
    (setPausedIfLimitReached lim reason s).2.lossDay = s.lossDay := by
  unfold setPausedIfLimitReached
  split <;> rfl

@[simp]
theorem setPausedIfLimitReached_dailyLossUsd (lim : RiskLimits) (reason : String)
    (s : RiskState) : (setPausedIfLimitReached lim reason s).2.dailyLossUsd = s.dailyLossUsd := by
  unfold setPausedIfLimitReached
  split <;> rfl

/-- A controller that is left running has not reached its limit. -/
theorem setPausedIfLimitReached_running {lim : RiskLimits} {reason : String} {s : RiskState}
    (h : (setPausedIfLimitReached lim reason s).2.paused = false) :
    s.paused = false ∧ s.dailyLossUsd < lim.maxDailyLossUsd := by
  unfold setPausedIfLimitReached at h
  split at h
  · rename_i hor
    exact ⟨h, hor.resolve_right (by simp [show s.paused = false from h])⟩
  · simp at h

theorem addLoss_lossDay (lim : RiskLimits) (today : Day) (net : Dec) (s : RiskState) :
    (addLoss lim today net s).2.lossDay = (rollLossDayForward today s).lossDay := by
  simp [addLoss]

theorem addLoss_dailyLossUsd (lim : RiskLimits) (today : Day) (net : Dec) (s : RiskState) :
    (addLoss lim today net s).2.dailyLossUsd =
      Dec.add (rollLossDayForward today s).dailyLossUsd (Dec.absolute net) := by
  simp [addLoss]

/-- Recording a loss leaves the controller running only below its limit. -/
theorem addLoss_running {lim : RiskLimits} {today : Day} {net : Dec} {s : RiskState}
    (h : (addLoss lim today net s).2.paused = false) :
    s.paused = false ∧ (addLoss lim today net s).2.dailyLossUsd < lim.maxDailyLossUsd := by
  obtain ⟨hpaused, hlimit⟩ := setPausedIfLimitReached_running h
  refine ⟨by simpa using hpaused, ?_⟩
  rw [addLoss_dailyLossUsd]
  exact hlimit

/-- Only a resume and a refresh clear a pause: the other methods keep it. -/
theorem addLoss_paused {lim : RiskLimits} {today : Day} {net : Dec} {s : RiskState}
    (h : s.paused = true) : (addLoss lim today net s).2.paused = true := by
  simp [addLoss, setPausedIfLimitReached, h]

theorem recordRealizedResult_paused {lim : RiskLimits} {today : Day} {p f : Dec} {s : RiskState}
    (h : s.paused = true) : (recordRealizedResult lim today p f s).2.paused = true := by
  unfold recordRealizedResult
  split
  · exact h
  · exact addLoss_paused h

theorem recordApiError_paused {lim : RiskLimits} {s : RiskState} (h : s.paused = true) :
    (recordApiError lim s).2.paused = true := by
  simp [recordApiError, h]

theorem resetApiErrors_paused (s : RiskState) : (resetApiErrors s).paused = s.paused := by
  unfold resetApiErrors
  split <;> rfl

theorem rollLossDayForward_dailyLossUsd_nonneg {today : Day} {s : RiskState}
    (h : 0 ≤ s.dailyLossUsd) : 0 ≤ (rollLossDayForward today s).dailyLossUsd := by
  unfold rollLossDayForward
  split
  · exact le_rfl
  · exact h

/-- The daily loss never becomes negative by recording a result. -/
theorem recordRealizedResult_dailyLossUsd_nonneg {lim : RiskLimits} {today : Day} {p f : Dec}
    {s : RiskState} (h : 0 ≤ s.dailyLossUsd) :
    0 ≤ (recordRealizedResult lim today p f s).2.dailyLossUsd := by
  have hroll : 0 ≤ (rollLossDayForward today s).dailyLossUsd :=
    rollLossDayForward_dailyLossUsd_nonneg h
  have hadd := Dec.add_nonneg hroll (Dec.absolute_nonneg (netResult p f))
  unfold recordRealizedResult
  split
  · exact h
  · rwa [addLoss_dailyLossUsd]

end ArbitrageEngine.Risk
