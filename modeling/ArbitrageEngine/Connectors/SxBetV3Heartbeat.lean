/-
# ArbitrageEngine.Connectors.SxBetV3Heartbeat -- the dead-man switch of the V3 account

The venue cancels the orders of an account whose heartbeat runs out.  The connector arms the
heartbeat before it posts an order, and asks for a timeout of zero once no tracked order can be open
any more.  The heartbeat is set and the table of tracked orders grows under one lock, which is held
while a heartbeat request is on its way; an order can be forgotten at any time.

The machine below interleaves submissions with everything else that touches the table: restored
orders, polls that put an order back, reports, refreshes, attempts to disarm and `forget_order`.  A
heartbeat request may fail or be cancelled after the venue has applied it as well as before; only
when its call is over can it no longer take effect.

An order is guarded from the end of its tracking until it is dropped, forgotten or reported
terminal.  While an order is guarded the venue's timeout is the full one (`Guarding`), so an order
is never on its way to the venue without the switch.
-/
import ArbitrageEngine.Execution.Orders
import ArbitrageEngine.Lib.Dict
import ArbitrageEngine.Lib.Runs

namespace ArbitrageEngine.SxBetV3.Heartbeat

open Execution Lib.Runs

/-! ## Requests and submissions -/

/-- `_V3_HEARTBEAT_TIMEOUT_SECONDS`. -/
def heartbeatTimeoutSeconds : ℕ := 60

/-- `_V3_HEARTBEAT_REFRESH_SECONDS`. -/
def heartbeatRefreshSeconds : Dec := 20

/-- Who holds the lock while a heartbeat request is on its way. -/
inductive Purpose
  /-- `_track_submitted_order`, of a submission or of `restore_order_context`. -/
  | track (orderId : String) (submission : Bool)
  /-- `_refresh_account_heartbeat_if_due`. -/
  | refresh
  /-- `_disarm_account_heartbeat_if_safe_locked`. -/
  | disarm
  /-- The same, after the timeout of zero was set. -/
  | rearm
deriving DecidableEq

/-- The `timeoutSeconds` that is asked for. -/
def Purpose.timeoutSeconds : Purpose → ℕ
  | .disarm => 0
  | .track _ _ | .refresh | .rearm => heartbeatTimeoutSeconds

/-- `_set_account_heartbeat`, while its call runs. -/
structure HeartbeatRequest where
  purpose : Purpose
  applied : Bool := false
deriving DecidableEq

/-- Where `_submit_taker_order` of an order is suspended. -/
inductive Phase
  /-- Not called yet, or waiting for the lock to track the order. -/
  | starting
  /-- Holding the lock until the heartbeat is armed. -/
  | arming
  /-- In `persist_order_id`. -/
  | persisting
  /-- The order is posted, its outcome not known. -/
  | posting
  /-- Waiting for the lock to drop the order. -/
  | dropping
  /-- Waiting for the lock to store its first report. -/
  | storing (status : ExecutionStatus)
  | finished
deriving DecidableEq

/-- How the post of an order ends. -/
inductive PostOutcome
  | rejected
  | accepted (status : ExecutionStatus)
  /-- `SxBetV3SubmissionUnknown`, or a cancellation. -/
  | unknown

/-- What follows the post of an order. -/
def PostOutcome.next : PostOutcome → Phase
  | .rejected => .dropping
  | .accepted status => .storing status
  | .unknown => .finished

/-- The connector, the submissions by order, the timeout that the venue applied last, and what has
happened: the guarded orders and those that were and are no longer. -/
structure World where
  submittedOrders : Finset String := ∅
  reports : Lib.Dict String ExecutionStatus := Lib.Dict.empty
  heartbeatArmed : Bool := false
  heartbeatLastRefreshAt : Dec := 0
  holder : Option HeartbeatRequest := none
  phase : String → Phase := fun _ => .starting
  venueTimeout : ℕ := 0
  guarded : Finset String := ∅
  released : Finset String := ∅

/-- What can happen next. -/
inductive Event
  /-- `_track_submitted_order` gets the lock, for a submission or a restored order. -/
  | submit (orderId : String)
  | restore (orderId : String)
  /-- The venue applies the heartbeat request. -/
  | apply
  /-- The heartbeat call returns, or it raises. -/
  | answer (ok : Bool) (now : Dec)
  /-- `persist_order_id` returns or raises. -/
  | persist (orderId : String) (ok : Bool)
  | post (orderId : String) (outcome : PostOutcome)
  /-- The end of a submission with the lock. -/
  | drop (orderId : String)
  | storeOutcome (orderId : String)
  /-- `_store_report` of a poll or of `_recover_unknown_submission`. -/
  | storeReport (orderId : String) (status : ExecutionStatus)
  /-- `get_order` writes the order back. -/
  | restock (orderId : String)
  | refresh (now : Dec)
  | disarm
  /-- `forget_order`, which needs no lock. -/
  | forget (orderId : String)

namespace World

/-! ## The connector -/

/-- The order has no report, or an open one. -/
def MaybeOpen (w : World) (orderId : String) : Prop :=
  w.reports.get? orderId = none ∨ w.reports.get? orderId = some .stillOpen

instance (w : World) (orderId : String) : Decidable (w.MaybeOpen orderId) :=
  inferInstanceAs (Decidable (_ ∨ _))

/-- `_has_possibly_open_orders`. -/
def HasPossiblyOpenOrders (w : World) : Prop := ∃ id ∈ w.submittedOrders, w.MaybeOpen id

instance (w : World) : Decidable w.HasPossiblyOpenOrders :=
  inferInstanceAs (Decidable (∃ id ∈ w.submittedOrders, w.MaybeOpen id))

/-- A heartbeat request starts, under the lock. -/
def ask (w : World) (purpose : Purpose) : World := { w with holder := some ⟨purpose, false⟩ }

/-- A submission goes on. -/
def go (w : World) (orderId : String) (phase : Phase) : World :=
  { w with phase := Function.update w.phase orderId phase }

/-- The order is not guarded any more. -/
def letGo (w : World) (orderId : String) : World :=
  { w with
    guarded := w.guarded.erase orderId
    released := insert orderId w.released }

/-- `_submitted_orders.pop`. -/
def pop (w : World) (orderId : String) : World :=
  { w.letGo orderId with submittedOrders := w.submittedOrders.erase orderId }

/-- `_disarm_account_heartbeat_if_safe_locked`, up to its request. -/
def disarmIfSafe (w : World) : World :=
  if w.heartbeatArmed = false ∨ w.HasPossiblyOpenOrders then w else w.ask .disarm

/-- The report of `_store_report`. -/
def setReport (w : World) (orderId : String) (status : ExecutionStatus) : World :=
  { w with reports := w.reports.set orderId status }

/-- `_store_report`. -/
def report (w : World) (orderId : String) (status : ExecutionStatus) : World :=
  if status = .stillOpen then w.setReport orderId status
  else ((w.letGo orderId).setReport orderId status).disarmIfSafe

/-- `_track_submitted_order`, up to its request. -/
def track (w : World) (orderId : String) (submission : Bool) : World :=
  { w with submittedOrders := insert orderId w.submittedOrders }.ask (.track orderId submission)

/-- `_arm_account_heartbeat_locked` after its request; the lock is free. -/
def armed (w : World) (now : Dec) : World :=
  { w with heartbeatArmed := true, heartbeatLastRefreshAt := now, holder := none }

/-- The order is tracked from now on, unless it was forgotten or reported meanwhile. -/
def guard (w : World) (orderId : String) : World :=
  if orderId ∈ w.submittedOrders ∧ w.MaybeOpen orderId then
    { w with guarded := insert orderId w.guarded }
  else w.letGo orderId

/-- The heartbeat call returns. -/
def succeed (w : World) (now : Dec) : Purpose → World
  | .track orderId submission =>
      let tracked := (w.armed now).guard orderId
      if submission then tracked.go orderId .persisting else tracked
  | .refresh | .rearm => w.armed now
  | .disarm =>
      if w.HasPossiblyOpenOrders then w.ask .rearm
      else { w with heartbeatArmed := false, heartbeatLastRefreshAt := 0, holder := none }

/-- The heartbeat call raises. -/
def fail (w : World) : Purpose → World
  | .track orderId submission =>
      let untracked := { w.pop orderId with holder := none }
      if submission then untracked.go orderId .finished else untracked
  | .refresh | .disarm | .rearm => { w with holder := none }

/-- `_refresh_account_heartbeat_if_due`, up to its request. -/
def refreshIfDue (w : World) (now : Dec) : World :=
  if w.heartbeatArmed = false ∨ heartbeatRefreshSeconds ≤ now - w.heartbeatLastRefreshAt then
    w.ask .refresh
  else w

/-- `forget_order`. -/
def forgetOrder (w : World) (orderId : String) : World :=
  { w.pop orderId with reports := w.reports.erase orderId }

/-- One event, if it can happen. -/
def step (w : World) : Event → Option World
  | .submit orderId =>
      if w.phase orderId = .starting ∧ w.holder = none then
        some ((w.track orderId true).go orderId .arming)
      else none
  | .restore orderId => if w.holder = none then some (w.track orderId false) else none
  | .apply =>
      match w.holder with
      | some request =>
          some
            { w with
              holder := some { request with applied := true }
              venueTimeout := request.purpose.timeoutSeconds }
      | none => none
  | .answer ok now =>
      match w.holder with
      | some request =>
          -- a call that returns was applied; one that raises may have been
          if ok then if request.applied then some (w.succeed now request.purpose) else none
          else some (w.fail request.purpose)
      | none => none
  | .persist orderId ok =>
      if w.phase orderId = .persisting then
        some (w.go orderId (if ok then .posting else .dropping))
      else none
  | .post orderId outcome =>
      if w.phase orderId = .posting then some (w.go orderId outcome.next) else none
  | .drop orderId =>
      if w.phase orderId = .dropping ∧ w.holder = none then
        some ((w.go orderId .finished).pop orderId).disarmIfSafe
      else none
  | .storeOutcome orderId =>
      match w.phase orderId with
      | .storing status =>
          if w.holder = none then some ((w.go orderId .finished).report orderId status) else none
      | _ => none
  | .storeReport orderId status =>
      if w.holder = none then some (w.report orderId status) else none
  | .restock orderId =>
      if w.holder = none then
        some { w with submittedOrders := insert orderId w.submittedOrders }
      else none
  | .refresh now => if w.holder = none then some (w.refreshIfDue now) else none
  | .disarm => if w.holder = none then some w.disarmIfSafe else none
  | .forget orderId => some (w.forgetOrder orderId)

/-- An event that happened was enabled. -/
theorem of_enabled {enabled : Prop} [Decidable enabled] {next w' : World}
    (h : (if enabled then some next else none) = some w') : enabled ∧ next = w' :=
  (Option.ite_none_right_eq_some.mp h).imp_right Option.some.inj

end World

/-! ## What guards an order -/

/-- A submission whose order was tracked. -/
def Phase.tracked : Phase → Bool
  | .persisting | .posting | .storing _ => true
  | .starting | .arming | .dropping | .finished => false

/-- What keeps the switch on.  A timeout of zero is only asked for while no tracked order can be
open, and none can become so before the answer: the table grows under the lock only. -/
structure Guarding (w : World) : Prop where
  tracked : w.guarded ⊆ w.submittedOrders
  maybeOpen : ∀ id ∈ w.guarded, w.MaybeOpen id
  on : w.guarded.Nonempty → w.heartbeatArmed = true ∧ w.venueTimeout = heartbeatTimeoutSeconds
  applied : ∀ request, w.holder = some request → request.applied = true →
    w.venueTimeout = request.purpose.timeoutSeconds
  disarming : ∀ request, w.holder = some request → request.purpose = .disarm →
    ¬w.HasPossiblyOpenOrders
  notRearming : ∀ request, w.holder = some request → request.purpose ≠ .rearm
  phases : ∀ id, (w.phase id).tracked = true → id ∈ w.guarded ∨ id ∈ w.released

namespace Guarding

variable {w : World} {orderId : String}

/-- A guarded order can be open. -/
theorem hasPossiblyOpenOrders (h : Guarding w) (hne : w.guarded.Nonempty) :
    w.HasPossiblyOpenOrders := by
  obtain ⟨id, hid⟩ := hne
  exact ⟨id, h.tracked hid, h.maybeOpen id hid⟩

/-- No order is guarded while the heartbeat is disarmed. -/
theorem not_nonempty (h : Guarding w) (hnone : ¬w.HasPossiblyOpenOrders) :
    ¬w.guarded.Nonempty := fun hne => hnone (h.hasPossiblyOpenOrders hne)

/-- A request starts. -/
theorem ask (h : Guarding w) {purpose : Purpose}
    (hdisarm : purpose = .disarm → ¬w.HasPossiblyOpenOrders) (hrearm : purpose ≠ .rearm) :
    Guarding (w.ask purpose) where
  tracked := h.tracked
  maybeOpen := h.maybeOpen
  on := h.on
  applied := by
    intro request hrequest happlied
    cases hrequest
    cases happlied
  disarming := by
    intro request hrequest hpurpose
    cases hrequest
    exact hdisarm hpurpose
  notRearming := by
    intro request hrequest
    cases hrequest
    exact hrearm
  phases := h.phases

theorem go (h : Guarding w) {phase : Phase}
    (hphase : phase.tracked = true → orderId ∈ w.guarded ∨ orderId ∈ w.released) :
    Guarding (w.go orderId phase) where
  tracked := h.tracked
  maybeOpen := h.maybeOpen
  on := h.on
  applied := h.applied
  disarming := h.disarming
  notRearming := h.notRearming
  phases := by
    intro id hid
    by_cases heq : id = orderId
    · subst heq
      have hself : (w.go id phase).phase id = phase := Function.update_self ..
      rw [hself] at hid
      exact hphase hid
    · have hother : (w.go orderId phase).phase id = w.phase id := Function.update_of_ne heq ..
      rw [hother] at hid
      exact h.phases id hid

/-- An order that is let go leaves the others guarded. -/
theorem letGo (h : Guarding w) : Guarding (w.letGo orderId) where
  tracked := (Finset.erase_subset ..).trans h.tracked
  maybeOpen := fun id hid => h.maybeOpen id (Finset.mem_of_mem_erase hid)
  on := fun hne => h.on (hne.mono (Finset.erase_subset ..))
  applied := h.applied
  disarming := h.disarming
  notRearming := h.notRearming
  phases := by
    intro id hid
    by_cases heq : id = orderId
    · exact .inr (heq ▸ Finset.mem_insert_self ..)
    · refine (h.phases id hid).imp (fun hguarded => ?_) (Finset.mem_insert_of_mem ·)
      exact Finset.mem_erase.mpr ⟨heq, hguarded⟩

/-- Only the orders that are not guarded may leave the table. -/
theorem shrink (h : Guarding w) {orders : Finset String} (horders : orders ⊆ w.submittedOrders)
    (hguarded : w.guarded ⊆ orders) : Guarding { w with submittedOrders := orders } where
  tracked := hguarded
  maybeOpen := h.maybeOpen
  on := h.on
  applied := h.applied
  disarming := by
    rintro request hrequest hpurpose ⟨id, hid, hmaybe⟩
    exact h.disarming request hrequest hpurpose ⟨id, horders hid, hmaybe⟩
  notRearming := h.notRearming
  phases := h.phases

theorem pop (h : Guarding w) : Guarding (w.pop orderId) :=
  h.letGo.shrink (Finset.erase_subset ..) (Finset.erase_subset_erase _ h.tracked)

/-- The table may grow while no request is on its way. -/
theorem grow (h : Guarding w) (hfree : w.holder = none) :
    Guarding { w with submittedOrders := insert orderId w.submittedOrders } where
  tracked := h.tracked.trans (Finset.subset_insert ..)
  maybeOpen := h.maybeOpen
  on := h.on
  applied := h.applied
  disarming := by
    intro request hrequest
    cases hfree.symm.trans hrequest
  notRearming := h.notRearming
  phases := h.phases

/-- The reports of orders that are not guarded may change while no request is on its way. -/
theorem reports (h : Guarding w) {reports : Lib.Dict String ExecutionStatus}
    (hreports : ∀ id ∈ w.guarded, { w with reports := reports }.MaybeOpen id)
    (hfree : w.holder = none) : Guarding { w with reports := reports } where
  tracked := h.tracked
  maybeOpen := hreports
  on := h.on
  applied := h.applied
  disarming := by
    intro request hrequest
    cases hfree.symm.trans hrequest
  notRearming := h.notRearming
  phases := h.phases

theorem disarmIfSafe (h : Guarding w) : Guarding w.disarmIfSafe := by
  unfold World.disarmIfSafe
  split
  · exact h
  · next hnot => exact h.ask (fun _ hopen => hnot (.inr hopen)) (by simp)

/-- The lock is given back. -/
theorem free (h : Guarding w) : Guarding { w with holder := none } where
  tracked := h.tracked
  maybeOpen := h.maybeOpen
  on := h.on
  applied := by
    intro request hrequest
    cases hrequest
  disarming := by
    intro request hrequest
    cases hrequest
  notRearming := by
    intro request hrequest
    cases hrequest
  phases := h.phases

/-- A report on an order: a terminal one is on an order that is let go first. -/
theorem setReport (h : Guarding w) {status : ExecutionStatus} (hfree : w.holder = none)
    (hopen : status = .stillOpen ∨ orderId ∉ w.guarded) :
    Guarding (w.setReport orderId status) := by
  refine h.reports (fun id hid => ?_) hfree
  show _ ∨ _
  dsimp only
  rw [Lib.Dict.get?_set]
  split
  · next heq =>
      rcases hopen with rfl | hnot
      · exact .inr rfl
      · exact absurd (heq ▸ hid) hnot
  · exact h.maybeOpen id hid

theorem report (h : Guarding w) {status : ExecutionStatus} (hfree : w.holder = none) :
    Guarding (w.report orderId status) := by
  unfold World.report
  split
  · next hopen => exact h.setReport hfree (.inl hopen)
  · have hnot : orderId ∉ (w.letGo orderId).guarded := Finset.notMem_erase orderId w.guarded
    exact (h.letGo.setReport hfree (.inr hnot)).disarmIfSafe

/-- `forget_order` takes the report of the order along with the order. -/
theorem forgetOrder (h : Guarding w) : Guarding (w.forgetOrder orderId) := by
  have hother : ∀ id ∈ w.submittedOrders.erase orderId,
      (w.reports.erase orderId).get? id = w.reports.get? id := fun id hid =>
    Lib.Dict.get?_erase_of_ne _ (Finset.ne_of_mem_erase hid)
  have hpop : Guarding (w.pop orderId) := h.pop
  exact
    { tracked := hpop.tracked
      maybeOpen := by
        intro id hid
        have hmaybe := hpop.maybeOpen id hid
        unfold World.MaybeOpen at hmaybe ⊢
        rw [show (w.forgetOrder orderId).reports.get? id = w.reports.get? id from
          hother id (hpop.tracked hid)]
        exact hmaybe
      on := hpop.on
      applied := hpop.applied
      disarming := by
        rintro request hrequest hpurpose ⟨id, hid, hmaybe⟩
        refine hpop.disarming request hrequest hpurpose ⟨id, hid, ?_⟩
        unfold World.MaybeOpen at hmaybe ⊢
        rw [show (w.forgetOrder orderId).reports.get? id = w.reports.get? id from
          hother id hid] at hmaybe
        exact hmaybe
      notRearming := hpop.notRearming
      phases := hpop.phases }

/-- The heartbeat is armed: the venue has applied the full timeout. -/
theorem armed (h : Guarding w) {now : Dec} (hon : w.venueTimeout = heartbeatTimeoutSeconds) :
    Guarding (w.armed now) :=
  { h.free with on := fun _ => ⟨rfl, hon⟩ }

/-- An order is guarded once the heartbeat is armed. -/
theorem guard (h : Guarding w) (hfree : w.holder = none) (harmed : w.heartbeatArmed = true)
    (hon : w.venueTimeout = heartbeatTimeoutSeconds) : Guarding (w.guard orderId) := by
  unfold World.guard
  split
  · next hcan =>
      exact
        { tracked := Finset.insert_subset hcan.1 h.tracked
          maybeOpen := by
            intro id hid
            rcases Finset.mem_insert.mp hid with rfl | hid
            · exact hcan.2
            · exact h.maybeOpen id hid
          on := fun _ => ⟨harmed, hon⟩
          applied := h.applied
          disarming := by
            intro request hrequest
            cases hfree.symm.trans hrequest
          notRearming := h.notRearming
          phases := fun id hid =>
            (h.phases id hid).imp_left (Finset.mem_insert_of_mem ·) }
  · exact h.letGo

/-- After its tracking an order is guarded, or it was let go meanwhile. -/
theorem mem_guard : orderId ∈ (w.guard orderId).guarded ∨ orderId ∈ (w.guard orderId).released := by
  unfold World.guard
  split
  · exact .inl (Finset.mem_insert_self ..)
  · exact .inr (Finset.mem_insert_self ..)

/-- The heartbeat call returns: the venue has applied what it was asked for. -/
theorem succeed (h : Guarding w) {now : Dec} {request : HeartbeatRequest}
    (hrequest : w.holder = some request) (happlied : request.applied = true) :
    Guarding (w.succeed now request.purpose) := by
  obtain ⟨purpose, applied⟩ := request
  have hon := h.applied _ hrequest happlied
  cases purpose with
  | track orderId submission =>
      have harmed : Guarding (w.armed now) := h.armed hon
      have hguard : Guarding ((w.armed now).guard orderId) := harmed.guard rfl rfl hon
      cases submission with
      | true => exact hguard.go fun _ => mem_guard
      | false => exact hguard
  | refresh => exact h.armed hon
  | rearm => exact absurd rfl (h.notRearming _ hrequest)
  | disarm =>
      have hnone := h.disarming _ hrequest rfl
      show Guarding (if w.HasPossiblyOpenOrders then _ else _)
      rw [if_neg hnone]
      exact { h.free with on := fun hne => absurd hne (h.not_nonempty hnone) }

/-- The heartbeat call raises. -/
theorem fail (h : Guarding w) (purpose : Purpose) : Guarding (w.fail purpose) := by
  cases purpose with
  | track orderId submission =>
      cases submission with
      | true => exact (h.pop.free).go fun htracked => by cases htracked
      | false => exact h.pop.free
  | refresh | disarm | rearm => exact h.free

/-- The venue applies the request that is on its way. -/
theorem apply (h : Guarding w) {request : HeartbeatRequest} (hrequest : w.holder = some request) :
    Guarding
      { w with
        holder := some { request with applied := true }
        venueTimeout := request.purpose.timeoutSeconds } where
  tracked := h.tracked
  maybeOpen := h.maybeOpen
  on := by
    intro hne
    refine ⟨(h.on hne).1, ?_⟩
    have hpurpose : request.purpose ≠ .disarm := fun heq =>
      h.not_nonempty (h.disarming request hrequest heq) hne
    show request.purpose.timeoutSeconds = _
    cases heq : request.purpose with
    | disarm => exact absurd heq hpurpose
    | track _ _ | refresh | rearm => rfl
  applied := by
    intro request' hrequest' _
    cases hrequest'
    rfl
  disarming := by
    intro request' hrequest' hpurpose
    cases hrequest'
    exact h.disarming request hrequest hpurpose
  notRearming := by
    intro request' hrequest'
    cases hrequest'
    exact h.notRearming request hrequest
  phases := h.phases

/-- A submission that was tracked goes on to its post and its outcome. -/
theorem goOn (h : Guarding w) {phase : Phase} (htracked : (w.phase orderId).tracked = true) :
    Guarding (w.go orderId phase) := h.go fun _ => h.phases orderId htracked

/-- Every event keeps the switch on. -/
theorem step (h : Guarding w) {event : Event} {w' : World} (hstep : w.step event = some w') :
    Guarding w' := by
  cases event with
  | submit orderId =>
      obtain ⟨⟨-, hfree⟩, rfl⟩ := World.of_enabled hstep
      exact ((h.grow hfree).ask (by simp) (by simp)).go (by simp [Phase.tracked])
  | restore orderId =>
      obtain ⟨hfree, rfl⟩ := World.of_enabled hstep
      exact (h.grow hfree).ask (by simp) (by simp)
  | apply =>
      simp only [World.step] at hstep
      split at hstep
      · next request hrequest =>
          cases hstep
          exact h.apply hrequest
      · cases hstep
  | answer ok now =>
      simp only [World.step] at hstep
      split at hstep
      · next request hrequest =>
          split at hstep
          · split at hstep
            · next happlied =>
                cases hstep
                exact h.succeed hrequest happlied
            · cases hstep
          · cases hstep
            exact h.fail request.purpose
      · cases hstep
  | persist orderId ok =>
      obtain ⟨hphase, rfl⟩ := World.of_enabled hstep
      exact h.goOn (by rw [hphase]; rfl)
  | post orderId outcome =>
      obtain ⟨hphase, rfl⟩ := World.of_enabled hstep
      exact h.goOn (by rw [hphase]; rfl)
  | drop orderId =>
      obtain ⟨-, rfl⟩ := World.of_enabled hstep
      exact (h.go fun htracked => by cases htracked).pop.disarmIfSafe
  | storeOutcome orderId =>
      simp only [World.step] at hstep
      split at hstep
      · obtain ⟨hfree, rfl⟩ := World.of_enabled hstep
        exact (h.go fun htracked => by cases htracked).report hfree
      · cases hstep
  | storeReport orderId status =>
      obtain ⟨hfree, rfl⟩ := World.of_enabled hstep
      exact h.report hfree
  | restock orderId =>
      obtain ⟨hfree, rfl⟩ := World.of_enabled hstep
      exact h.grow hfree
  | refresh now =>
      obtain ⟨-, rfl⟩ := World.of_enabled hstep
      unfold World.refreshIfDue
      split
      · exact h.ask (by simp) (by simp)
      · exact h
  | disarm =>
      obtain ⟨-, rfl⟩ := World.of_enabled hstep
      exact h.disarmIfSafe
  | forget orderId =>
      cases hstep
      exact h.forgetOrder

end Guarding

/-! ## Runs -/

section Runs

variable {hist : List World} {w : World}

theorem guarding_of_run (h : Run World.step anyAction {} hist w) : Guarding w :=
  h.state_invariant Guarding
    { tracked := Finset.Subset.refl _
      maybeOpen := fun _ hid => absurd hid (Finset.notMem_empty _)
      on := fun hne => absurd hne Finset.not_nonempty_empty
      applied := fun _ hrequest => absurd hrequest (by simp)
      disarming := fun _ hrequest => absurd hrequest (by simp)
      notRearming := fun _ hrequest => absurd hrequest (by simp)
      phases := fun _ htracked => absurd htracked (by simp [Phase.tracked]) }
    fun _ _ _ hguarding _ hstep => hguarding.step hstep

/-- At every point of every run, also while a request is on its way: where an order is guarded, the
heartbeat is armed and the last timeout the venue applied is the full one; an order whose post is
prepared, on its way or just over is guarded unless it was let go; and the branch that arms the
heartbeat again after it was disarmed is never taken. -/
theorem heartbeat_guards_orders (h : Run World.step anyAction {} hist w) :
    (∀ id ∈ w.guarded,
        w.heartbeatArmed = true ∧ w.venueTimeout = heartbeatTimeoutSeconds ∧
          id ∈ w.submittedOrders ∧ w.MaybeOpen id) ∧
      (∀ id, (w.phase id).tracked = true → id ∉ w.released →
        w.venueTimeout = heartbeatTimeoutSeconds) ∧
      ∀ request, w.holder = some request → request.purpose ≠ .rearm := by
  have hguarding := guarding_of_run h
  refine ⟨fun id hid => ?_, fun id htracked hreleased => ?_, hguarding.notRearming⟩
  · obtain ⟨harmed, hon⟩ := hguarding.on ⟨id, hid⟩
    exact ⟨harmed, hon, hguarding.tracked hid, hguarding.maybeOpen id hid⟩
  · have hid := (hguarding.phases id htracked).resolve_right hreleased
    exact (hguarding.on ⟨id, hid⟩).2

end Runs

namespace Examples

/-- The first order is filled, and the answer to the request that disarms is lost; then a second
order is tracked. -/
def answerLost : List Event :=
  [.submit "0xa", .apply, .answer true 0, .persist "0xa" true, .post "0xa" (.accepted .filled),
    .storeOutcome "0xa", .apply, .answer false 1, .submit "0xb", .apply, .answer true 2,
    .persist "0xb" true]

/-- The venue is disarmed behind the back of the connector; the second order is posted with the
switch on all the same. -/
theorem heartbeat_guards_second_order :
    ∃ hist w, Run World.step anyAction {} hist w ∧ w.guarded = {"0xb"} ∧
      w.phase "0xb" = .posting ∧ w.venueTimeout = heartbeatTimeoutSeconds := by
  have h : (exec World.step anyAction {} answerLost).map
      (fun w => (w.guarded, w.phase "0xb")) = some ({"0xb"}, .posting) := by decide +kernel
  obtain ⟨w, hw, hend⟩ := Option.map_eq_some_iff.mp h
  obtain ⟨hguarded, hphase⟩ := Prod.mk.inj hend
  obtain ⟨hist, hrun⟩ := Run.of_exec hw
  have hmem : "0xb" ∈ w.guarded := hguarded ▸ Finset.mem_singleton_self _
  exact ⟨hist, w, hrun, hguarded, hphase, ((heartbeat_guards_orders hrun).1 _ hmem).2.1⟩

end Examples

/-! ## The flag of the connector -/

/-- No heartbeat request fails. -/
def Answers (_ : World) : Event → Prop
  | .answer ok _ => ok = true
  | _ => True

instance decidableAnswers (w : World) : ∀ event, Decidable (Answers w event)
  | .submit _ | .restore _ | .apply | .persist .. | .post .. | .drop _ | .storeOutcome _
  | .storeReport .. | .restock _ | .refresh _ | .disarm | .forget _ => isTrue trivial
  | .answer ok _ => inferInstanceAs (Decidable (ok = true))

/-- The timeout the connector believes in. -/
def World.believedTimeout (w : World) : ℕ :=
  if w.heartbeatArmed then heartbeatTimeoutSeconds else 0

/-- Unless a request was just applied, the venue's timeout is the one the connector believes in. -/
def Believes (w : World) : Prop :=
  w.venueTimeout = w.believedTimeout ∨
    ∃ request, w.holder = some request ∧ request.applied = true

namespace Believes

variable {w w' : World} {orderId : String}

theorem of_free (h : Believes w) (hfree : w.holder = none) :
    w.venueTimeout = w.believedTimeout := by
  rcases h with h | ⟨request, hrequest, -⟩
  · exact h
  · cases hfree.symm.trans hrequest

/-- What changes neither the flag nor the venue, and no request that is on its way. -/
theorem of_eq (h : Believes w) (hvenue : w'.venueTimeout = w.venueTimeout)
    (harmed : w'.heartbeatArmed = w.heartbeatArmed)
    (hholder : w.holder = none ∨ w'.holder = w.holder) : Believes w' := by
  have hsame : w.venueTimeout = w.believedTimeout → w'.venueTimeout = w'.believedTimeout := by
    intro heq
    rw [hvenue, heq, World.believedTimeout, World.believedTimeout, harmed]
  rcases hholder with hfree | hholder
  · exact .inl (hsame (h.of_free hfree))
  · exact h.imp hsame fun ⟨request, hrequest, happlied⟩ =>
      ⟨request, hholder.trans hrequest, happlied⟩

theorem disarmIfSafe (h : Believes w) (hfree : w.holder = none) : Believes w.disarmIfSafe := by
  unfold World.disarmIfSafe
  split
  · exact h
  · exact h.of_eq rfl rfl (.inl hfree)

theorem report (h : Believes w) {status : ExecutionStatus} (hfree : w.holder = none) :
    Believes (w.report orderId status) := by
  unfold World.report
  split
  · exact h.of_eq rfl rfl (.inl hfree)
  · exact disarmIfSafe (h.of_eq rfl rfl (.inl hfree)) hfree

/-- The heartbeat call returns, and the connector takes over what the venue has applied. -/
theorem succeed (hguarding : Guarding w) {now : Dec} {request : HeartbeatRequest}
    (hrequest : w.holder = some request) (happlied : request.applied = true) :
    Believes (w.succeed now request.purpose) := by
  obtain ⟨purpose, applied⟩ := request
  have hvenue := hguarding.applied _ hrequest happlied
  have harmed : purpose.timeoutSeconds = heartbeatTimeoutSeconds → Believes (w.armed now) :=
    fun hfull => .inl (hvenue.trans hfull)
  cases purpose with
  | track orderId submission =>
      have hguard : Believes ((w.armed now).guard orderId) := by
        unfold World.guard
        split
        · exact (harmed rfl).of_eq rfl rfl (.inl rfl)
        · exact (harmed rfl).of_eq rfl rfl (.inl rfl)
      cases submission with
      | true => exact hguard.of_eq rfl rfl (.inr rfl)
      | false => exact hguard
  | refresh | rearm => exact harmed rfl
  | disarm =>
      have hnone := hguarding.disarming _ hrequest rfl
      show Believes (if w.HasPossiblyOpenOrders then _ else _)
      rw [if_neg hnone]
      exact .inl hvenue

/-- Every event but a failed request keeps the flag and the venue together. -/
theorem step (h : Believes w) (hguarding : Guarding w) {event : Event} (hanswers : Answers w event)
    (hstep : w.step event = some w') : Believes w' := by
  cases event with
  | submit orderId =>
      obtain ⟨⟨-, hfree⟩, rfl⟩ := World.of_enabled hstep
      exact h.of_eq rfl rfl (.inl hfree)
  | restore orderId =>
      obtain ⟨hfree, rfl⟩ := World.of_enabled hstep
      exact h.of_eq rfl rfl (.inl hfree)
  | apply =>
      simp only [World.step] at hstep
      split at hstep
      · cases hstep
        exact .inr ⟨_, rfl, rfl⟩
      · cases hstep
  | answer ok now =>
      simp only [World.step] at hstep
      split at hstep
      · next request hrequest =>
          rw [if_pos (show ok = true from hanswers)] at hstep
          obtain ⟨happlied, rfl⟩ := World.of_enabled hstep
          exact succeed hguarding hrequest happlied
      · cases hstep
  | persist orderId ok =>
      obtain ⟨-, rfl⟩ := World.of_enabled hstep
      exact h.of_eq rfl rfl (.inr rfl)
  | post orderId outcome =>
      obtain ⟨-, rfl⟩ := World.of_enabled hstep
      exact h.of_eq rfl rfl (.inr rfl)
  | drop orderId =>
      obtain ⟨⟨-, hfree⟩, rfl⟩ := World.of_enabled hstep
      exact disarmIfSafe (h.of_eq rfl rfl (.inl hfree)) hfree
  | storeOutcome orderId =>
      simp only [World.step] at hstep
      split at hstep
      · obtain ⟨hfree, rfl⟩ := World.of_enabled hstep
        have hgo : Believes (w.go orderId .finished) := h.of_eq rfl rfl (.inl hfree)
        exact hgo.report hfree
      · cases hstep
  | storeReport orderId status =>
      obtain ⟨hfree, rfl⟩ := World.of_enabled hstep
      exact h.report hfree
  | restock orderId =>
      obtain ⟨hfree, rfl⟩ := World.of_enabled hstep
      exact h.of_eq rfl rfl (.inl hfree)
  | refresh now =>
      obtain ⟨hfree, rfl⟩ := World.of_enabled hstep
      unfold World.refreshIfDue
      split
      · exact h.of_eq rfl rfl (.inl hfree)
      · exact h
  | disarm =>
      obtain ⟨hfree, rfl⟩ := World.of_enabled hstep
      exact h.disarmIfSafe hfree
  | forget orderId =>
      cases hstep
      exact h.of_eq rfl rfl (.inr rfl)

end Believes

/-- As long as no heartbeat request fails, the venue's timeout is the one the connector believes in
whenever the lock is free; so a connector that is not armed has left no timeout running. -/
theorem timeout_when_free {hist : List World} {w : World} (h : Run World.step Answers {} hist w)
    (hfree : w.holder = none) : w.venueTimeout = w.believedTimeout := by
  have hboth := h.state_invariant (fun w => Guarding w ∧ Believes w)
    ⟨guarding_of_run .start, .inl rfl⟩
    fun _ _ _ hboth hanswers hstep =>
      ⟨hboth.1.step hstep, hboth.2.step hboth.1 hanswers hstep⟩
  exact hboth.2.of_free hfree

namespace Examples

/-- An order is tracked and filled, and the heartbeat disarmed. -/
def disarmed : List Event :=
  [.submit "0xa", .apply, .answer true 0, .persist "0xa" true, .post "0xa" (.accepted .filled),
    .storeOutcome "0xa", .apply, .answer true 1]

/-- After the last order is filled no timeout is left running. -/
theorem timeout_when_free_filled :
    ∃ hist w, Run World.step Answers {} hist w ∧ w.holder = none ∧ w.heartbeatArmed = false ∧
      w.venueTimeout = 0 := by
  have h : (exec World.step Answers {} disarmed).map
      (fun w => (w.holder, w.heartbeatArmed)) = some (none, false) := by decide +kernel
  obtain ⟨w, hw, hend⟩ := Option.map_eq_some_iff.mp h
  obtain ⟨hfree, harmed⟩ := Prod.mk.inj hend
  obtain ⟨hist, hrun⟩ := Run.of_exec hw
  refine ⟨hist, w, hrun, hfree, harmed, (timeout_when_free hrun hfree).trans ?_⟩
  rw [World.believedTimeout, if_neg (by simp [harmed])]

end Examples

end ArbitrageEngine.SxBetV3.Heartbeat
