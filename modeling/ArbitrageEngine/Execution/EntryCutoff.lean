/-
# ArbitrageEngine.Execution.EntryCutoff -- when the legs of an entry are submitted

`handle_signal` up to the two calls of `buy_with_order_id_persistence`, on a clock.  Every await has
a delay beside its answer, and the calls are noted with the time they are made at and the deadline
they carry.  What a leg does after its call, or instead of it, submits no entry and is left out, as
is what follows both legs.  The answers are those of the untimed model.

The cutoff is looked at twice.  After the second look come an alert, the rate limit, three writes
and five looks at the canary window, and no third look at the cutoff: only a leg at SX Bet carries
it as its deadline.
-/
import ArbitrageEngine.Execution.Entry
import ArbitrageEngine.Execution.SalesLog
import ArbitrageEngine.Lib.Timed

namespace ArbitrageEngine.Execution.EntryCutoff

open Lib.Effect Lib.Timed

/-! ## The window -/

/-- `_entry_submission_deadline_unix`: the earlier of the two times that are set. -/
def entrySubmissionDeadline (market : MarketSpec) : Option Time :=
  match market.cutoffAt, market.expiresAt with
  | some cutoffAt, some expiresAt => some (min cutoffAt expiresAt)
  | some cutoffAt, none => some cutoffAt
  | none, expiresAt => expiresAt

/-- `_SX_SUBMISSION_CUTOFF_BUFFER_SECONDS`, in microseconds. -/
def sxSubmissionCutoffBuffer : ℤ := 25000000

/-- `_entry_submission_window_open`. -/
def entrySubmissionWindowOpen (market : MarketSpec) (includesSx : Bool) (now : Time) : Bool :=
  match entrySubmissionDeadline market with
  | none => !includesSx
  | some deadline => now + (if includesSx then sxSubmissionCutoffBuffer else 0) < deadline

/-- `"SX Bet" in {self._first_leg_label, self._second_leg_label}`. -/
def includesSx (router : Router) : Bool :=
  router.label .first = "SX Bet" ∨ router.label .second = "SX Bet"

/-- `_entry_cutoff_guard`. -/
def entryCutoffGuard (router : Router) (market : MarketSpec) (now : Time) : Bool :=
  entrySubmissionWindowOpen market (includesSx router) now

/-- The deadline a leg is submitted with. -/
def submissionDeadline (router : Router) (market : MarketSpec) (leg : Leg) : Option Time :=
  if router.label leg = "SX Bet" then entrySubmissionDeadline market else none

/-! ## Answers and delays -/

/-- A call of `buy_with_order_id_persistence`. -/
structure ConnectorCall where
  leg : Leg
  time : Time
  /-- `submission_deadline_unix`. -/
  deadline : Option Time
deriving DecidableEq

/-- How long the awaits of `_submit_entry_leg` take, in microseconds. -/
structure BuyDelays where
  windowGuard : ℕ := 0
  createIntent : ℕ := 0
  submitting : ℕ := 0
  windowGuardBeforeBuy : ℕ := 0

/-- How long the awaits of `_execute_production` take. -/
structure EntryDelays where
  windowGuard : ℕ := 0
  saveEntryPending : ℕ := 0
  windowGuardAfterSave : ℕ := 0
  first : BuyDelays := {}
  second : BuyDelays := {}

/-- The answers to the awaits and the checks of `handle_signal` and `_handle_signal_locked`, apart
from those of the cutoff. -/
structure SignalAnswers where
  /-- The route is one of `effective_funded_routes`. -/
  routeFunded : Bool
  riskPaused : Bool
  windowGuard : Except Exc Bool
  /-- `is_binary_signal_allowed`. -/
  signalAllowed : Bool
  marketLock : Except Exc Unit
  entryLock : Except Exc Unit
  capacityLock : Except Exc Unit
  /-- The checks under the capacity lock. -/
  admitted : Bool
  constraintsGuard : Except Exc Bool
  /-- Did `_preflight_price_guard` prepare an entry?  Its market has the times of the signal's. -/
  preflightGuard : Except Exc Bool
  /-- `_risk_limits_allow` with the all-in cost. -/
  limitsAllow : Bool
  reserveCapital : Except Exc Bool
  riskPausedAfterReserve : Bool
  shouldSendAlert : Bool
  sendSignal : Except Exc Unit
  windowGuardBeforeEntry : Except Exc Bool
  ready : Bool
  reserveAttempts : Except Exc Bool
  readyAfterAttempts : Bool
  entry : EntryAnswers

/-- How long the awaits of `handle_signal` and `_handle_signal_locked` take. -/
structure SignalDelays where
  windowGuard : ℕ := 0
  marketLock : ℕ := 0
  entryLock : ℕ := 0
  capacityLock : ℕ := 0
  constraintsGuard : ℕ := 0
  preflightGuard : ℕ := 0
  reserveCapital : ℕ := 0
  sendSignal : ℕ := 0
  windowGuardBeforeEntry : ℕ := 0
  reserveAttempts : ℕ := 0
  entry : EntryDelays := {}

/-! ## The programs -/

/-- A program that takes time and calls connectors. -/
abbrev Entering (α : Type) : Type := Program Exc ConnectorCall α

section Programs

variable (router : Router) (market : MarketSpec)

/-- The `try` of `_submit_entry_leg`, up to the call. -/
def callConnector (answers : BuyAnswers) (delays : BuyDelays) (leg : Leg) : Entering Unit := do
  let isOpen ← awaitFor delays.windowGuardBeforeBuy answers.windowGuardBeforeBuy
  if isOpen = false then pure ()
  else if answers.readyBeforeBuy = false then pure ()
  else do
    note fun now => ⟨leg, now, submissionDeadline router market leg⟩
    pure ()

/-- From the creation of the intent on. -/
def submitWithIntent (answers : BuyAnswers) (delays : BuyDelays) (leg : Leg) : Entering Unit :=
  if router.repository = false then callConnector router market answers delays leg
  else do
    awaitFor delays.createIntent (written answers.createIntent)
    if answers.readyAfterCreate = false then pure ()
    else do
      awaitFor delays.submitting (written answers.submitting)
      if answers.readyAfterSubmitting = false then pure ()
      else callConnector router market answers delays leg

/-- `_submit_entry_leg`. -/
def submitEntryLeg (answers : BuyAnswers) (delays : BuyDelays) (leg : Leg) : Entering Unit := do
  let isOpen ← awaitFor delays.windowGuard answers.windowGuard
  if isOpen = false then pure ()
  else submitWithIntent router market answers delays leg

/-- Both legs are submitted at once. -/
def submitBothLegs (answers : EntryAnswers) (delays : EntryDelays) : Entering Unit := do
  let _ ← together (submitEntryLeg router market answers.first delays.first .first)
    (submitEntryLeg router market answers.second delays.second .second)
  pure ()

/-- From `_save_entry_pending` on. -/
def enter (answers : EntryAnswers) (delays : EntryDelays) : Entering Unit := do
  awaitFor delays.saveEntryPending (writtenIf router.repository answers.saveEntryPending)
  let isOpen ← awaitFor delays.windowGuardAfterSave answers.windowGuardAfterSave
  if isOpen = false then pure ()
  else if answers.readyAfterSave = false then pure ()
  else submitBothLegs router market answers delays

/-- `_execute_production`; the claims are no awaits. -/
def executeProduction (answers : EntryAnswers) (delays : EntryDelays) : Entering Unit := do
  let isOpen ← awaitFor delays.windowGuard answers.windowGuard
  if isOpen = false then pure ()
  else if answers.ready = false then pure ()
  else do
    awaitFor 0 answers.claimFirst
    awaitFor 0 answers.claimSecond
    enter router market answers delays

/-- From the alert on. -/
def alertAndExecute (answers : SignalAnswers) (delays : SignalDelays) : Entering Unit := do
  awaitFor (if answers.shouldSendAlert then delays.sendSignal else 0)
    (if answers.shouldSendAlert then answers.sendSignal else .ok ())
  let isOpen ← awaitFor delays.windowGuardBeforeEntry answers.windowGuardBeforeEntry
  if isOpen = false then pure ()
  else if answers.ready = false then pure ()
  else do
    let isReserved ← awaitFor delays.reserveAttempts answers.reserveAttempts
    if isReserved = false then pure ()
    else if answers.readyAfterAttempts = false then pure ()
    else executeProduction router market answers.entry delays.entry

/-- From the reservation of the capital on: the second look at the cutoff. -/
def reserveAndExecute (answers : SignalAnswers) (delays : SignalDelays) : Entering Unit := do
  let isReserved ← awaitFor delays.reserveCapital answers.reserveCapital
  if isReserved = false then pure ()
  else if answers.riskPausedAfterReserve = true then pure ()
  else do
    let now ← readTime
    if entryCutoffGuard router market now = false then pure ()
    else alertAndExecute router market answers delays

/-- `_handle_signal_locked`.  A dry run previews and alerts, and submits nothing. -/
def handleSignalLocked (submitsOrders : Bool) (answers : SignalAnswers) (delays : SignalDelays) :
    Entering Unit := do
  let now ← readTime
  if entryCutoffGuard router market now = false then pure ()
  else do
    awaitFor delays.capacityLock answers.capacityLock
    if answers.admitted = false then pure ()
    else if submitsOrders = false then pure ()
    else do
      let isTradable ← awaitFor delays.constraintsGuard answers.constraintsGuard
      if isTradable = false then pure ()
      else do
        let isPrepared ← awaitFor delays.preflightGuard answers.preflightGuard
        if isPrepared = false then pure ()
        else if answers.limitsAllow = false then pure ()
        else reserveAndExecute router market answers delays

/-- The locks of `handle_signal`: the entry lock only where orders are submitted. -/
def takeLocks (submitsOrders : Bool) (answers : SignalAnswers) (delays : SignalDelays) :
    Entering Unit := do
  awaitFor delays.marketLock answers.marketLock
  awaitFor (if submitsOrders then delays.entryLock else 0)
    (if submitsOrders then answers.entryLock else .ok ())
  handleSignalLocked router market submitsOrders answers delays

/-- `handle_signal`. -/
def handleSignal (submitsOrders : Bool) (answers : SignalAnswers) (delays : SignalDelays) :
    Entering Unit :=
  if (submitsOrders && !answers.routeFunded) = true then pure ()
  else if (submitsOrders && answers.riskPaused) = true then pure ()
  else do
    let isOpen ← awaitFor (if submitsOrders then delays.windowGuard else 0)
      (if submitsOrders then answers.windowGuard else .ok true)
    if isOpen = false then pure ()
    else if answers.signalAllowed = false then pure ()
    else takeLocks router market submitsOrders answers delays

/-- The connector calls of a `handle_signal` that starts at `start`. -/
def connectorCalls (submitsOrders : Bool) (answers : SignalAnswers) (delays : SignalDelays)
    (start : Time) : List ConnectorCall :=
  (finalState (handleSignal router market submitsOrders answers delays) ⟨start, []⟩).noted

end Programs

/-! ## What lets a leg through, and how long it takes -/

/-- The answers that let `_submit_entry_leg` get to its call. -/
def LegLetThrough (repository : Bool) (answers : BuyAnswers) : Prop :=
  answers.windowGuard.toOption = some true ∧
    (repository = true →
      (written answers.createIntent).isOk = true ∧ answers.readyAfterCreate = true ∧
        (written answers.submitting).isOk = true ∧ answers.readyAfterSubmitting = true) ∧
    answers.windowGuardBeforeBuy.toOption = some true ∧ answers.readyBeforeBuy = true

instance (repository : Bool) (answers : BuyAnswers) :
    Decidable (LegLetThrough repository answers) := by
  unfold LegLetThrough
  infer_instance

/-- The awaits of `_submit_entry_leg` before its call. -/
def BuyDelays.beforeCall (repository : Bool) (delays : BuyDelays) : ℕ :=
  delays.windowGuard + (if repository = true then delays.createIntent + delays.submitting else 0) +
    delays.windowGuardBeforeBuy

/-- The answers about a leg. -/
def legAnswers (answers : EntryAnswers) : Leg → BuyAnswers
  | .first => answers.first
  | .second => answers.second

/-- The delays of a leg. -/
def EntryDelays.leg (delays : EntryDelays) : Leg → BuyDelays
  | .first => delays.first
  | .second => delays.second

/-- The answers that let `_execute_production` get to its legs. -/
def EntryLetThrough (repository : Bool) (answers : EntryAnswers) : Prop :=
  answers.windowGuard.toOption = some true ∧ answers.ready = true ∧
    answers.claimFirst.isOk = true ∧ answers.claimSecond.isOk = true ∧
    (writtenIf repository answers.saveEntryPending).isOk = true ∧
    answers.windowGuardAfterSave.toOption = some true ∧ answers.readyAfterSave = true

instance (repository : Bool) (answers : EntryAnswers) :
    Decidable (EntryLetThrough repository answers) := by
  unfold EntryLetThrough
  infer_instance

/-- The awaits of `_execute_production` before its legs. -/
def EntryDelays.beforeLegs (delays : EntryDelays) : ℕ :=
  delays.windowGuard + delays.saveEntryPending + delays.windowGuardAfterSave

/-- The answers that let a signal get from the second look at the cutoff to its entry. -/
def AlertLetThrough (repository : Bool) (answers : SignalAnswers) : Prop :=
  (answers.shouldSendAlert = true → answers.sendSignal.isOk = true) ∧
    answers.windowGuardBeforeEntry.toOption = some true ∧ answers.ready = true ∧
    answers.reserveAttempts.toOption = some true ∧ answers.readyAfterAttempts = true ∧
    EntryLetThrough repository answers.entry

instance (repository : Bool) (answers : SignalAnswers) :
    Decidable (AlertLetThrough repository answers) := by
  unfold AlertLetThrough
  infer_instance

/-- The awaits of a signal between the second look at the cutoff and its legs. -/
def SignalDelays.beforeLegs (delays : SignalDelays) (answers : SignalAnswers) : ℕ :=
  (if answers.shouldSendAlert = true then delays.sendSignal else 0) +
    delays.windowGuardBeforeEntry + delays.reserveAttempts + delays.entry.beforeLegs

/-- The answers that let a signal get to the second look at the cutoff. -/
def SignalLetThrough (answers : SignalAnswers) : Prop :=
  answers.routeFunded = true ∧ answers.riskPaused = false ∧
    answers.windowGuard.toOption = some true ∧ answers.signalAllowed = true ∧
    answers.marketLock.isOk = true ∧ answers.entryLock.isOk = true ∧
    answers.capacityLock.isOk = true ∧ answers.admitted = true ∧
    answers.constraintsGuard.toOption = some true ∧
    answers.preflightGuard.toOption = some true ∧ answers.limitsAllow = true ∧
    answers.reserveCapital.toOption = some true ∧ answers.riskPausedAfterReserve = false

instance (answers : SignalAnswers) : Decidable (SignalLetThrough answers) := by
  unfold SignalLetThrough
  infer_instance

/-- The awaits of a signal before the first look at the cutoff. -/
def SignalDelays.beforeFirstLook (delays : SignalDelays) : ℕ :=
  delays.windowGuard + delays.marketLock + delays.entryLock

/-- The awaits between the two looks at the cutoff. -/
def SignalDelays.betweenLooks (delays : SignalDelays) : ℕ :=
  delays.capacityLock + delays.constraintsGuard + delays.preflightGuard + delays.reserveCapital

section Calls

variable (router : Router) (market : MarketSpec)

theorem callConnector_notes (answers : BuyAnswers) (delays : BuyDelays) (leg : Leg)
    (start : Time) :
    Notes (callConnector router market answers delays leg) start
      (if answers.windowGuardBeforeBuy.toOption = some true ∧ answers.readyBeforeBuy = true then
        [⟨leg, start + delays.windowGuardBeforeBuy, submissionDeadline router market leg⟩]
      else []) := by
  rw [ite_and]
  exact Notes.awaitFor_check (Notes.check (Notes.note_bind (Notes.pure _ _)))

/-- A leg that is let through calls its connector once. -/
theorem submitEntryLeg_notes (answers : BuyAnswers) (delays : BuyDelays) (leg : Leg)
    (start : Time) :
    Notes (submitEntryLeg router market answers delays leg) start
      (if LegLetThrough router.repository answers then
        [⟨leg, start + delays.beforeCall router.repository, submissionDeadline router market leg⟩]
      else []) := by
  unfold submitEntryLeg submitWithIntent LegLetThrough BuyDelays.beforeCall
  have hcall := callConnector_notes router market answers delays leg
  cases router.repository with
  | false =>
      refine Notes.of_eq (Notes.awaitFor_check (hcall _)) ?_
      simp [ite_and, add_assoc]
  | true =>
      refine Notes.of_eq (Notes.awaitFor_check (Notes.awaitFor_done (Notes.check
        (Notes.awaitFor_done (Notes.check (hcall _)))))) ?_
      simp [ite_and, add_assoc]

/-- The call of a leg whose submission starts at `start`, if there is one. -/
def legCall (answers : EntryAnswers) (delays : EntryDelays) (start : Time) (leg : Leg) :
    List ConnectorCall :=
  if LegLetThrough router.repository (legAnswers answers leg) then
    [⟨leg, start + (delays.leg leg).beforeCall router.repository,
      submissionDeadline router market leg⟩]
  else []

/-- Both legs start at the same time. -/
theorem executeProduction_notes (answers : EntryAnswers) (delays : EntryDelays) (start : Time) :
    Notes (executeProduction router market answers delays) start
      (if EntryLetThrough router.repository answers then
        legCall router market answers delays (start + delays.beforeLegs) .second ++
          legCall router market answers delays (start + delays.beforeLegs) .first
      else []) := by
  have hlegs (t : Time) : Notes (submitBothLegs router market answers delays) t
      (legCall router market answers delays t .second ++
        legCall router market answers delays t .first) := by
    intro before
    unfold submitBothLegs
    rw [finalState_bind_same fun _ _ _ => rfl]
    exact Notes.together (submitEntryLeg_notes router market answers.first delays.first .first t)
      (submitEntryLeg_notes router market answers.second delays.second .second t) before
  unfold executeProduction enter EntryLetThrough EntryDelays.beforeLegs
  refine Notes.of_eq (Notes.awaitFor_check (Notes.check (Notes.awaitFor_done (Notes.awaitFor_done
    (Notes.awaitFor_done (Notes.awaitFor_check (Notes.check (hlegs _)))))))) ?_
  simp [ite_and, add_assoc]

theorem alertAndExecute_notes (answers : SignalAnswers) (delays : SignalDelays) (start : Time) :
    Notes (alertAndExecute router market answers delays) start
      (if AlertLetThrough router.repository answers then
        legCall router market answers.entry delays.entry (start + delays.beforeLegs answers)
            .second ++
          legCall router market answers.entry delays.entry (start + delays.beforeLegs answers)
            .first
      else []) := by
  unfold alertAndExecute AlertLetThrough SignalDelays.beforeLegs
  refine Notes.of_eq (Notes.awaitFor_done (Notes.awaitFor_check (Notes.check (Notes.awaitFor_check
    (Notes.check (executeProduction_notes router market answers.entry delays.entry _)))))) ?_
  by_cases halert : answers.shouldSendAlert = true
  · simp [halert, ite_and, add_assoc]
  · simp [halert, ite_and, add_assoc, Except.isOk, Except.toBool]

/-- The two looks at the cutoff let a signal through that comes in at `start`. -/
def LooksLetThrough (delays : SignalDelays) (start : Time) : Prop :=
  entryCutoffGuard router market (start + delays.beforeFirstLook) = true ∧
    entryCutoffGuard router market (start + delays.beforeFirstLook + delays.betweenLooks) = true

instance (delays : SignalDelays) (start : Time) :
    Decidable (LooksLetThrough router market delays start) := by
  unfold LooksLetThrough
  infer_instance

/-- The time of the second look at the cutoff. -/
def secondLook (delays : SignalDelays) (start : Time) : Time :=
  start + delays.beforeFirstLook + delays.betweenLooks

/-- The connector calls of a signal, with their times. -/
theorem connectorCalls_eq (submitsOrders : Bool) (answers : SignalAnswers) (delays : SignalDelays)
    (start : Time) :
    connectorCalls router market submitsOrders answers delays start =
      if submitsOrders = true ∧ SignalLetThrough answers ∧
          LooksLetThrough router market delays start ∧
          AlertLetThrough router.repository answers then
        legCall router market answers.entry delays.entry
            (secondLook delays start + delays.beforeLegs answers) .second ++
          legCall router market answers.entry delays.entry
            (secondLook delays start + delays.beforeLegs answers) .first
      else [] := by
  have halert := alertAndExecute_notes router market answers delays
  have h : Notes (handleSignal router market submitsOrders answers delays) start _ :=
    Notes.checkNot (Notes.checkNot (Notes.awaitFor_check (Notes.check (Notes.awaitFor_done
      (Notes.awaitFor_done (Notes.readTime_bind (Notes.check (Notes.awaitFor_done (Notes.check
        (Notes.check (Notes.awaitFor_check (Notes.awaitFor_check (Notes.check
          (Notes.awaitFor_check (Notes.checkNot (Notes.readTime_bind (Notes.check
            (halert _))))))))))))))))))
  have hrun := h []
  rw [List.append_nil] at hrun
  unfold connectorCalls
  rw [hrun]
  unfold SignalLetThrough LooksLetThrough secondLook SignalDelays.beforeFirstLook
    SignalDelays.betweenLooks
  cases submitsOrders with
  | true =>
      -- The looks come between the answers in the program, and after them in the statement.
      simp only [Bool.true_and, Bool.not_eq_eq_eq_not, Bool.not_false, if_true, ← ite_and,
        Nat.cast_add, ← add_assoc, true_and]
      refine if_congr ?_ rfl rfl
      tauto
  | false => simp

/-- The answers and the clock let the signal get to the connector call of this leg. -/
def LegSubmitted (submitsOrders : Bool) (answers : SignalAnswers) (delays : SignalDelays)
    (start : Time) (leg : Leg) : Prop :=
  (submitsOrders = true ∧ SignalLetThrough answers ∧ LooksLetThrough router market delays start ∧
      AlertLetThrough router.repository answers) ∧
    LegLetThrough router.repository (legAnswers answers.entry leg)

/-- The awaits between the second look at the cutoff and the connector call of a leg. -/
def afterSecondLook (answers : SignalAnswers) (delays : SignalDelays) (leg : Leg) : ℕ :=
  delays.beforeLegs answers + (delays.entry.leg leg).beforeCall router.repository

theorem mem_connectorCalls (submitsOrders : Bool) (answers : SignalAnswers)
    (delays : SignalDelays) (start : Time) (call : ConnectorCall) :
    call ∈ connectorCalls router market submitsOrders answers delays start ↔
      LegSubmitted router market submitsOrders answers delays start call.leg ∧
        call.time = secondLook delays start + afterSecondLook router answers delays call.leg ∧
        call.deadline = submissionDeadline router market call.leg := by
  have hleg (t : Time) (leg : Leg) :
      call ∈ legCall router market answers.entry delays.entry t leg ↔
        LegLetThrough router.repository (legAnswers answers.entry leg) ∧ call.leg = leg ∧
          call.time = t + (delays.entry.leg leg).beforeCall router.repository ∧
          call.deadline = submissionDeadline router market leg := by
    obtain ⟨callLeg, time, deadline⟩ := call
    unfold legCall
    split
    · next h => simp [h]
    · next h => simp [h]
  rw [connectorCalls_eq]
  unfold LegSubmitted afterSecondLook
  split
  · next h =>
      rw [List.mem_append, hleg, hleg, Nat.cast_add, ← add_assoc]
      cases hcall : call.leg with
      | first => simp [h]
      | second => simp [h]
  · next h => simp [h]

/-! ## The cutoff -/

/-- No connector is called at or after the cutoff without a deadline that is at most the cutoff, and
none of a venue other than SX Bet is called then at all. -/
def NoEntryAfterCutoff (calls : List ConnectorCall) : Prop :=
  ∀ cutoff, entrySubmissionDeadline market = some cutoff → ∀ call ∈ calls,
    (cutoff ≤ call.time → ∃ deadline, call.deadline = some deadline ∧ deadline ≤ cutoff) ∧
      (router.label call.leg ≠ "SX Bet" → call.time < cutoff)

/-- The cutoff is kept exactly if the awaits between the second look and the connector call of each
submitted leg at another venue than SX Bet take less time than is left at that look. -/
theorem noEntryAfterCutoff_iff (submitsOrders : Bool) (answers : SignalAnswers)
    (delays : SignalDelays) (start : Time) :
    NoEntryAfterCutoff router market
        (connectorCalls router market submitsOrders answers delays start) ↔
      ∀ leg, router.label leg ≠ "SX Bet" →
        LegSubmitted router market submitsOrders answers delays start leg →
        ∀ cutoff, entrySubmissionDeadline market = some cutoff →
          afterSecondLook router answers delays leg < cutoff - secondLook delays start := by
  constructor
  · intro hkept leg hlabel hsubmitted cutoff hcutoff
    have hcall := (hkept cutoff hcutoff
      ⟨leg, secondLook delays start + afterSecondLook router answers delays leg,
        submissionDeadline router market leg⟩
      ((mem_connectorCalls router market submitsOrders answers delays start _).mpr
        ⟨hsubmitted, rfl, rfl⟩)).2 hlabel
    exact lt_sub_iff_add_lt'.mpr hcall
  · intro hfast cutoff hcutoff call hmem
    obtain ⟨hsubmitted, htime, hdeadline⟩ :=
      (mem_connectorCalls router market submitsOrders answers delays start call).mp hmem
    by_cases hlabel : router.label call.leg = "SX Bet"
    · refine ⟨fun _ => ⟨cutoff, ?_, le_rfl⟩, fun hother => absurd hlabel hother⟩
      rw [hdeadline, submissionDeadline, if_pos hlabel, hcutoff]
    · have hbefore := hfast call.leg hlabel hsubmitted cutoff hcutoff
      have hcall : call.time < cutoff := by
        rw [htime]
        exact lt_sub_iff_add_lt'.mp hbefore
      exact ⟨fun hlate => absurd hcall (not_lt.mpr hlate), fun _ => hcall⟩

end Calls

/-- A purchase that goes through. -/
def boughtAnswers (orderId : String) : BuyAnswers where
  clientOrderId := orderId
  windowGuard := .ok true
  createIntent := .done
  readyAfterCreate := true
  readyAfterSubmitting := true
  readyBeforeBuy := true
  rejectIntent := .done
  submitting := .done
  windowGuardBeforeBuy := .ok true
  persisted := [(orderId, .done)]
  buy := .ok orderId
  deadlineRejected := false
  acknowledged := .done
  waitFilled := .ok ⟨orderId, .filled, 10, 10, 0, 1 / 2⟩
  cancelOrder := .ok ()
  reconcile := .ok ⟨orderId, .filled, 10, 10, 0, 1 / 2⟩
  recordStatus := .done
  pause := .ok ()
  persistBalance := .ok ()
  pauseDeadline := .ok ()
  sendTimeout := .ok ()
  cancelAfterError := .ok ()
  waitAfterError := .ok ⟨orderId, .filled, 10, 10, 0, 1 / 2⟩
  persistBalanceAfterError := .ok ()
  recordError := .done
  pauseAfterError := .ok ()

/-- An entry that goes through. -/
def enteredAnswers : EntryAnswers where
  windowGuard := .ok true
  ready := true
  claimFirst := .ok ()
  claimSecond := .ok ()
  saveEntryPending := .done
  windowGuardAfterSave := .ok true
  readyAfterSave := true
  removeRefused := .done
  first := boughtAnswers "a"
  second := boughtAnswers "b"
  settle :=
    { recordApiError := .ok ()
      saveUnpriced := .done
      pauseUnpriced := .ok ()
      sendUnpriced := .ok ()
      sendImbalance := .ok ()
      saveUnwindPending := .done
      removeUnmatched := .done
      savePosition := .done
      sendOpened := .ok () }

/-- A signal that goes through, with an alert. -/
def alertedAnswers : SignalAnswers where
  routeFunded := true
  riskPaused := false
  windowGuard := .ok true
  signalAllowed := true
  marketLock := .ok ()
  entryLock := .ok ()
  capacityLock := .ok ()
  admitted := true
  constraintsGuard := .ok true
  preflightGuard := .ok true
  limitsAllow := true
  reserveCapital := .ok true
  riskPausedAfterReserve := false
  shouldSendAlert := true
  sendSignal := .ok ()
  windowGuardBeforeEntry := .ok true
  ready := true
  reserveAttempts := .ok true
  readyAfterAttempts := true
  entry := enteredAnswers

/-- The market closes in ten seconds, and the alert takes twelve: both legs are bought after the
close, without a deadline. -/
theorem alert_outlasts_cutoff :
    let router : Router := ⟨.polymarketPredict, true⟩
    let market : MarketSpec :=
      { symbol := "m", targetLabel := "YES"
        polymarketTokenId := "1", polymarketSide := .yes
        predictFunTokenId := "2", predictFunSide := .no
        cutoffAt := some 10000000 }
    let calls := connectorCalls router market true alertedAnswers { sendSignal := 12000000 } 0
    calls = [⟨.second, 12000000, none⟩, ⟨.first, 12000000, none⟩] ∧
      ¬NoEntryAfterCutoff router market calls := by
  intro router market calls
  have hcalls : calls = [⟨.second, 12000000, none⟩, ⟨.first, 12000000, none⟩] := by decide +kernel
  refine ⟨hcalls, fun hkept => ?_⟩
  have hmem : ⟨.first, 12000000, none⟩ ∈ calls := by
    rw [hcalls]
    exact List.mem_cons_of_mem _ List.mem_cons_self
  obtain ⟨deadline, hnone, -⟩ := (hkept 10000000 rfl _ hmem).1 (by decide)
  cases hnone

/-! ## The untimed model -/

section Untimed

variable (router : Router) (config : Config) (answers : BuyAnswers) (call : EntryLeg)

end Untimed

end ArbitrageEngine.Execution.EntryCutoff
