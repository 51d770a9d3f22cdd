/-
# ArbitrageEngine.Execution.SignalHandling -- the signals of all routers on shared state

All routers share the ledger, the balance dictionaries, the pending markets, the capacity lock and the
entry lock.  The machine has one task for each call of `_handle_signal_locked` that is under way, and
one event for each stretch of it between two awaits at which another call, a refresh, a pause or an
exit may come in.  A guard that only ends a call early is not modelled: a task may give up whenever
the source has a guard or may raise.

With funded entries a call runs under the entry lock, so one is admitted only when no other is under
way; otherwise the lock of its market is all it holds, and it never reserves capital.
-/
import ArbitrageEngine.Execution.RiskLimits
import ArbitrageEngine.Routes
import ArbitrageEngine.Lib.Runs

namespace ArbitrageEngine.Execution.SignalHandling

/-! ## Tasks -/

/-- `PreparedEntry`: what `_preflight_price_guard` returns.  Capital and fees of its plan are those
of executable previews. -/
structure PreparedEntry where
  signal : EntrySignal
  allInCostUsd : Dec
  capital_nonneg :
    0 ≤ signal.plan.polymarketCapitalUsd ∧ 0 ≤ signal.plan.predictFunCapitalUsd
  fee_nonneg : 0 ≤ signal.plan.polymarketFeeUsd ∧ 0 ≤ signal.plan.predictFunFeeUsd
deriving DecidableEq

/-- How far a call of `_handle_signal_locked` has come. -/
inductive Phase
  /-- Its market is pending. -/
  | admitted
  /-- The preflight passed, and the second look at the limits. -/
  | prepared (entry : PreparedEntry)
  /-- The capital is reserved and the state is being saved, under the capacity lock. -/
  | reserving (entry : PreparedEntry)
  /-- That save raised. -/
  | unsaved (entry : PreparedEntry)
  /-- `capital_reserved`; `kept` says that no pause has cleared the reservations since. -/
  | holding (entry : PreparedEntry) (kept : Bool)
  /-- The capital is released and the state is being saved, under the capacity lock. -/
  | leaving (entry : PreparedEntry)
deriving DecidableEq

/-- The entry a call has prepared. -/
def Phase.entry? : Phase → Option PreparedEntry
  | .admitted => none
  | .prepared entry | .reserving entry | .unsaved entry | .holding entry _ | .leaving entry =>
      some entry

/-- The capacity lock is held across the two saves. -/
def Phase.locksCapacity : Phase → Bool
  | .reserving _ | .leaving _ => true
  | _ => false

/-- Has the call to go through the release, or its save? -/
def Phase.holdsCapital : Phase → Bool
  | .admitted | .prepared _ | .unsaved _ => false
  | .reserving _ | .holding _ _ | .leaving _ => true

/-- A call that is under way. -/
structure Task where
  route : ExecutionRoute
  signal : EntrySignal
  phase : Phase
deriving DecidableEq

namespace Task

variable (task : Task)

/-- `market_key`. -/
def marketKey : String := task.signal.market.symbol

/-- The capital an entry needs on the venues of its router. -/
def legs (entry : PreparedEntry) : List LegCapital :=
  [entry.signal.firstCapital task.route.venueLabels,
    entry.signal.secondCapital task.route.venueLabels]

/-- The capital an entry needs on one venue. -/
def requiredAt (entry : PreparedEntry) (label : String) : Dec :=
  let labels := task.route.venueLabels
  if labels.1 = label then (entry.signal.firstCapital labels).required
  else if labels.2 = label then (entry.signal.secondCapital labels).required
  else 0

/-- What the task has reserved on a venue, unless a pause cleared it. -/
def heldAt (label : String) : Dec :=
  match task.phase with
  | .reserving entry | .holding entry true => task.requiredAt entry label
  | _ => 0

/-- A pause clears what the task has reserved. -/
def cleared : Task :=
  match task.phase with
  | .holding entry _ => { task with phase := .holding entry false }
  | _ => task

end Task

/-! ## The shared state -/

structure Engine where
  ledger : PositionLedger
  balances : Balances
  pendingMarkets : Finset String := ∅
  tasks : List Task := []

/-- The configuration. -/
structure Settings where
  limits : RiskLimits
  /-- `execution_mode.submits_orders`. -/
  submitsOrders : Bool

/-- What the purchases of an entry came to, for its ledger row. -/
structure EntryResults where
  first : EntryLegResult
  second : EntryLegResult
  unwound : Unwound

inductive Event
  | admitSignal (route : ExecutionRoute) (signal : EntrySignal)
  | prepare (task : ℕ) (entry : PreparedEntry)
  | reserve (task : ℕ)
  | reservationSaved (task : ℕ) (saved : Bool)
  /-- `_save_entry_pending`. -/
  | saveEntryPending (task : ℕ)
  /-- `_remove_position` of an entry that may not submit after all. -/
  | removeEntry (task : ℕ)
  /-- The end of `_execute_production`. -/
  | settle (task : ℕ) (results : EntryResults)
  /-- The `finally` clause of a call without reserved capital. -/
  | giveUp (task : ℕ)
  /-- The `finally` clause of a call with reserved capital. -/
  | release (task : ℕ)
  | releaseSaved (task : ℕ) (saved : Bool)
  /-- `_cancel_active_orders_and_clear_pending`. -/
  | clear
  | refresh (venueLabel : String) (fetchedBalance : Dec)
  | debit (venueLabel : String) (amountUsd : Dec)
  /-- The position manager or the settlement books less exposure, or none. -/
  | exitUpdate (key : String) (position : OpenPosition)
  | exitRemove (key : String)

/-- What `_execute_production` leaves of an entry in the ledger: a row, or none. -/
def entryOutcome (signal : ArbitrageSignal) (results : EntryResults) : Option OpenPosition :=
  let first := results.first
  let second := results.second
  let matched := Router.matchedAmount first second
  let pendingFirst :=
    max 0 (Dec.sub (Router.unmatchedAmount first second .first) results.unwound.first)
  let pendingSecond :=
    max 0 (Dec.sub (Router.unmatchedAmount first second .second) results.unwound.second)
  if Router.priceMissing first ∨ Router.priceMissing second then
    some { Router.positionFromAmounts signal first second (Router.filledAmount first)
            (Router.filledAmount second) (Router.reportedPrice first)
            (Router.reportedPrice second) with status := "entry_pending" }
  else if Dec.epsilon < pendingFirst ∨ Dec.epsilon < pendingSecond then
    some { Router.positionFromAmounts signal first second (Dec.add matched pendingFirst)
            (Dec.add matched pendingSecond) (Router.entryPrice first)
            (Router.entryPrice second) with
          status := "unwind_pending"
          polymarketUnwindAttempts := 1
          unmatchedFirstContracts := pendingFirst
          unmatchedSecondContracts := pendingSecond }
  else if matched ≤ Dec.epsilon then none
  else
    some (Router.positionFromAmounts signal first second matched matched
      (Router.entryPrice first) (Router.entryPrice second))

/-- The ledger with the row of an entry, or without one. -/
def bookRow (ledger : PositionLedger) (key : String) : Option OpenPosition → PositionLedger
  | some position => ledger.add position
  | none => ledger.erase key

namespace Engine

variable (settings : Settings) (engine : Engine)

/-- `{position.market.symbol for position in self._ledger.all()}`. -/
def openMarkets : Finset String :=
  (engine.ledger.values.map fun position => position.market.symbol).toFinset

/-- No call holds the capacity lock. -/
def capacityFree : Bool := engine.tasks.all fun task => !task.phase.locksCapacity

/-- The locks of `handle_signal`. -/
def entryFree (marketKey : String) : Bool :=
  if settings.submitsOrders then engine.tasks.isEmpty
  else engine.tasks.all fun task => task.marketKey ≠ marketKey

/-- The checks of `_handle_signal_locked` under the capacity lock. -/
def admits (route : ExecutionRoute) (signal : EntrySignal) : Bool :=
  engine.ledger.get? (positionKey signal.market) = none ∧
    signal.market.symbol ∉ engine.openMarkets ∧
    ((engine.openMarkets ∪ engine.pendingMarkets).card : ℤ) < settings.limits.maxOpenPositions ∧
    signal.market.symbol ∉ engine.pendingMarkets ∧
    riskLimitsAllow settings.limits route.venueLabels engine.ledger.values signal none

/-- A task goes on to its next phase. -/
def goOn (i : ℕ) (task : Task) (phase : Phase) : Engine :=
  { engine with tasks := engine.tasks.set i { task with phase } }

/-- A call is over. -/
def finish (i : ℕ) : Engine := { engine with tasks := engine.tasks.eraseIdx i }

/-- `_pending_markets.discard(market_key)`. -/
def discard (marketKey : String) : Engine :=
  { engine with pendingMarkets := engine.pendingMarkets.erase marketKey }

/-- What `_execute_production` writes to the ledger. -/
def writeEntry (signal : EntrySignal) (row : Option OpenPosition) : Engine :=
  { engine with ledger := bookRow engine.ledger (positionKey signal.market) row }

/-- The engine hands a market to the router of its two venues. -/
def admitSignal (route : ExecutionRoute) (signal : EntrySignal) : Option Engine :=
  if (signal.market.venueALabel, signal.market.venueBLabel) = route.venueLabels ∧
      engine.entryFree settings signal.market.symbol ∧ engine.capacityFree ∧
      engine.admits settings route signal then
    some { engine with
      pendingMarkets := insert signal.market.symbol engine.pendingMarkets
      tasks := ⟨route, signal, .admitted⟩ :: engine.tasks }
  else none

/-- The preflight passes, and `_risk_limits_allow` with the all-in cost. -/
def prepare (i : ℕ) (task : Task) (entry : PreparedEntry) : Option Engine :=
  if task.phase = .admitted ∧ settings.submitsOrders ∧
      entry.signal.market = task.signal.market ∧
      riskLimitsAllow settings.limits task.route.venueLabels engine.ledger.values entry.signal
        (some entry.allInCostUsd) then
    some (engine.goOn i task (.prepared entry))
  else none

/-- `_reserve_signal_capital` up to its save. -/
def reserve (i : ℕ) (task : Task) : Option Engine :=
  match task.phase with
  | .prepared entry =>
      if engine.capacityFree then
        (engine.balances.reserveSignalCapital
          (entry.signal.firstCapital task.route.venueLabels)
          (entry.signal.secondCapital task.route.venueLabels)).map fun balances =>
            { engine with balances }.goOn i task (.reserving entry)
      else none
  | _ => none

/-- The save of the reservation ends. -/
def reservationSaved (i : ℕ) (task : Task) (saved : Bool) : Option Engine :=
  match task.phase with
  | .reserving entry =>
      some (engine.goOn i task (if saved then .holding entry true else .unsaved entry))
  | _ => none

/-- A call that holds capital writes its row. -/
def writeRow (task : Task) (row : PreparedEntry → Option OpenPosition) : Option Engine :=
  match task.phase with
  | .holding entry _ => some (engine.writeEntry entry.signal (row entry))
  | _ => none

theorem writeRow_eq_some {engine engine' : Engine} {task : Task}
    {row : PreparedEntry → Option OpenPosition} (h : engine.writeRow task row = some engine') :
    ∃ entry kept, task.phase = .holding entry kept ∧
      engine' = engine.writeEntry entry.signal (row entry) := by
  unfold writeRow at h
  split at h
  · next entry kept hphase =>
      cases h
      exact ⟨entry, kept, hphase, rfl⟩
  · cases h

/-- `finally`, where no capital was reserved. -/
def giveUp (i : ℕ) (task : Task) : Option Engine :=
  if task.phase.holdsCapital = false ∧ engine.capacityFree then
    some ((engine.discard task.marketKey).finish i)
  else none

/-- `finally` up to the save, where capital was reserved. -/
def release (i : ℕ) (task : Task) : Option Engine :=
  match task.phase with
  | .holding entry _ =>
      if engine.capacityFree then
        let balances := engine.balances.releaseSignalCapital
          (entry.signal.firstCapital task.route.venueLabels)
          (entry.signal.secondCapital task.route.venueLabels)
        some ({ engine with balances }.goOn i task (.leaving entry))
      else none
  | _ => none

/-- The save of the release ends; if it raises, the market is not discarded. -/
def releaseSaved (i : ℕ) (task : Task) (saved : Bool) : Option Engine :=
  match task.phase with
  | .leaving _ =>
      some ((if saved then engine.discard task.marketKey else engine).finish i)
  | _ => none

/-- Nothing is pending, and nothing is reserved. -/
def cleared : Engine :=
  { engine with
    balances := { engine.balances with capitalReservations := .empty }
    pendingMarkets := ∅
    tasks := engine.tasks.map Task.cleared }

/-- `_cancel_active_orders_and_clear_pending`, under the capacity lock. -/
def clear : Option Engine := if engine.capacityFree then some engine.cleared else none

/-- Less exposure of the same market is booked. -/
def exitUpdate (key : String) (position : OpenPosition) : Option Engine :=
  (engine.ledger.get? key).bind fun before =>
    if position.market = before.market ∧
        (0 ≤ position.firstCost ∧ position.firstCost ≤ before.firstCost) ∧
        (0 ≤ position.secondCost ∧ position.secondCost ≤ before.secondCost) then
      some { engine with ledger := engine.ledger.set key position }
    else none

/-- What an event does. -/
def step : Engine → Event → Option Engine
  | engine, .admitSignal route signal => engine.admitSignal settings route signal
  | engine, .prepare i entry =>
      (engine.tasks[i]?).bind fun task => engine.prepare settings i task entry
  | engine, .reserve i => (engine.tasks[i]?).bind (engine.reserve i)
  | engine, .reservationSaved i saved =>
      (engine.tasks[i]?).bind fun task => engine.reservationSaved i task saved
  | engine, .saveEntryPending i =>
      (engine.tasks[i]?).bind fun task => engine.writeRow task fun entry =>
        some (Router.entryPendingPosition entry.signal.toArbitrageSignal)
  | engine, .removeEntry i =>
      (engine.tasks[i]?).bind fun task => engine.writeRow task fun _ => none
  | engine, .settle i results =>
      (engine.tasks[i]?).bind fun task => engine.writeRow task fun entry =>
        entryOutcome entry.signal.toArbitrageSignal results
  | engine, .giveUp i => (engine.tasks[i]?).bind (engine.giveUp i)
  | engine, .release i => (engine.tasks[i]?).bind (engine.release i)
  | engine, .releaseSaved i saved =>
      (engine.tasks[i]?).bind fun task => engine.releaseSaved i task saved
  | engine, .clear => engine.clear
  | engine, .refresh label fetched =>
      some { engine with balances := engine.balances.applyBalanceRefresh label fetched }
  | engine, .debit label amount =>
      some { engine with balances := engine.balances.debitCachedBalance label amount }
  | engine, .exitUpdate key position => engine.exitUpdate key position
  | engine, .exitRemove key => some { engine with ledger := engine.ledger.erase key }

/-- The engine after a start: nothing is reserved, and nothing is under way. -/
def start (ledger : PositionLedger) (balanceCache optimisticDebits : Lib.Dict String Dec) :
    Engine where
  ledger := ledger
  balances := { balanceCache, optimisticDebits }

/-! ## What a step can do -/

/-- One constructor for each event, with what the source has checked. -/
inductive Steps : Event → Engine → Prop
  | admitSignal {route : ExecutionRoute} {signal : EntrySignal}
      (hlabels : (signal.market.venueALabel, signal.market.venueBLabel) = route.venueLabels)
      (hfree : engine.entryFree settings signal.market.symbol = true)
      (hadmits : engine.admits settings route signal = true) :
      Steps (.admitSignal route signal)
        { engine with
          pendingMarkets := insert signal.market.symbol engine.pendingMarkets
          tasks := ⟨route, signal, .admitted⟩ :: engine.tasks }
  | prepare {i : ℕ} {task : Task} {entry : PreparedEntry} (htask : engine.tasks[i]? = some task)
      (hphase : task.phase = .admitted) (hfunded : settings.submitsOrders = true)
      (hmarket : entry.signal.market = task.signal.market)
      (hallow : riskLimitsAllow settings.limits task.route.venueLabels engine.ledger.values
        entry.signal (some entry.allInCostUsd) = true) :
      Steps (.prepare i entry) (engine.goOn i task (.prepared entry))
  | reserve {i : ℕ} {task : Task} {entry : PreparedEntry} {balances : Balances}
      (htask : engine.tasks[i]? = some task) (hphase : task.phase = .prepared entry)
      (hreserve : engine.balances.reserveSignalCapital
        (entry.signal.firstCapital task.route.venueLabels)
        (entry.signal.secondCapital task.route.venueLabels) = some balances) :
      Steps (.reserve i) ({ engine with balances }.goOn i task (.reserving entry))
  | reservationSaved {i : ℕ} {task : Task} {entry : PreparedEntry} {saved : Bool}
      (htask : engine.tasks[i]? = some task) (hphase : task.phase = .reserving entry) :
      Steps (.reservationSaved i saved)
        (engine.goOn i task (if saved then .holding entry true else .unsaved entry))
  | saveEntryPending {i : ℕ} {task : Task} {entry : PreparedEntry} {kept : Bool}
      (htask : engine.tasks[i]? = some task) (hphase : task.phase = .holding entry kept) :
      Steps (.saveEntryPending i)
        (engine.writeEntry entry.signal
          (some (Router.entryPendingPosition entry.signal.toArbitrageSignal)))
  | removeEntry {i : ℕ} {task : Task} {entry : PreparedEntry} {kept : Bool}
      (htask : engine.tasks[i]? = some task) (hphase : task.phase = .holding entry kept) :
      Steps (.removeEntry i) (engine.writeEntry entry.signal none)
  | settle {i : ℕ} {task : Task} {entry : PreparedEntry} {kept : Bool} {results : EntryResults}
      (htask : engine.tasks[i]? = some task) (hphase : task.phase = .holding entry kept) :
      Steps (.settle i results)
        (engine.writeEntry entry.signal (entryOutcome entry.signal.toArbitrageSignal results))
  | giveUp {i : ℕ} {task : Task} (htask : engine.tasks[i]? = some task)
      (hphase : task.phase.holdsCapital = false) :
      Steps (.giveUp i) ((engine.discard task.marketKey).finish i)
  | release {i : ℕ} {task : Task} {entry : PreparedEntry} {kept : Bool}
      (htask : engine.tasks[i]? = some task) (hphase : task.phase = .holding entry kept) :
      Steps (.release i)
        ({ engine with
            balances := engine.balances.releaseSignalCapital
              (entry.signal.firstCapital task.route.venueLabels)
              (entry.signal.secondCapital task.route.venueLabels) }.goOn i task (.leaving entry))
  | releaseSaved {i : ℕ} {task : Task} {entry : PreparedEntry} {saved : Bool}
      (htask : engine.tasks[i]? = some task) (hphase : task.phase = .leaving entry) :
      Steps (.releaseSaved i saved)
        ((if saved then engine.discard task.marketKey else engine).finish i)
  | clear (hfree : engine.capacityFree = true) : Steps .clear engine.cleared
  | refresh {label : String} {fetched : Dec} :
      Steps (.refresh label fetched)
        { engine with balances := engine.balances.applyBalanceRefresh label fetched }
  | debit {label : String} {amount : Dec} :
      Steps (.debit label amount)
        { engine with balances := engine.balances.debitCachedBalance label amount }
  | exitUpdate {key : String} {position before : OpenPosition}
      (hbefore : engine.ledger.get? key = some before) (hshrinks : Shrinks position before)
      (hnonneg : NonnegCost position) :
      Steps (.exitUpdate key position) { engine with ledger := engine.ledger.set key position }
  | exitRemove {key : String} :
      Steps (.exitRemove key) { engine with ledger := engine.ledger.erase key }

variable {settings} {engine engine' : Engine}

theorem steps_of_step {event : Event} (h : step settings engine event = some engine') :
    engine.Steps settings event engine' := by
  cases event with
  | admitSignal route signal =>
      obtain ⟨⟨hlabels, hfree, _, hadmits⟩, h⟩ := Option.ite_none_right_eq_some.mp h
      cases h
      exact .admitSignal hlabels hfree hadmits
  | prepare i entry =>
      obtain ⟨task, htask, h⟩ := Option.bind_eq_some_iff.mp h
      obtain ⟨⟨hphase, hfunded, hmarket, hallow⟩, h⟩ := Option.ite_none_right_eq_some.mp h
      cases h
      exact .prepare htask hphase hfunded hmarket hallow
  | reserve i =>
      obtain ⟨task, htask, h⟩ := Option.bind_eq_some_iff.mp h
      unfold Engine.reserve at h
      split at h
      · next entry hphase =>
          obtain ⟨_, h⟩ := Option.ite_none_right_eq_some.mp h
          obtain ⟨balances, hreserve, rfl⟩ := Option.map_eq_some_iff.mp h
          exact .reserve htask hphase hreserve
      · cases h
  | reservationSaved i saved =>
      obtain ⟨task, htask, h⟩ := Option.bind_eq_some_iff.mp h
      unfold Engine.reservationSaved at h
      split at h
      · next entry hphase =>
          cases h
          exact .reservationSaved htask hphase
      · cases h
  | saveEntryPending i =>
      obtain ⟨task, htask, h⟩ := Option.bind_eq_some_iff.mp h
      obtain ⟨entry, kept, hphase, rfl⟩ := writeRow_eq_some h
      exact .saveEntryPending htask hphase
  | removeEntry i =>
      obtain ⟨task, htask, h⟩ := Option.bind_eq_some_iff.mp h
      obtain ⟨entry, kept, hphase, rfl⟩ := writeRow_eq_some h
      exact .removeEntry htask hphase
  | settle i results =>
      obtain ⟨task, htask, h⟩ := Option.bind_eq_some_iff.mp h
      obtain ⟨entry, kept, hphase, rfl⟩ := writeRow_eq_some h
      exact .settle htask hphase
  | giveUp i =>
      obtain ⟨task, htask, h⟩ := Option.bind_eq_some_iff.mp h
      obtain ⟨hphase, h⟩ := Option.ite_none_right_eq_some.mp h
      cases h
      exact .giveUp htask hphase.1
  | release i =>
      obtain ⟨task, htask, h⟩ := Option.bind_eq_some_iff.mp h
      unfold Engine.release at h
      split at h
      · next entry kept hphase =>
          obtain ⟨_, h⟩ := Option.ite_none_right_eq_some.mp h
          cases h
          exact .release htask hphase
      · cases h
  | releaseSaved i saved =>
      obtain ⟨task, htask, h⟩ := Option.bind_eq_some_iff.mp h
      unfold Engine.releaseSaved at h
      split at h
      · next entry hphase =>
          cases h
          exact .releaseSaved htask hphase
      · cases h
  | clear =>
      obtain ⟨hfree, h⟩ := Option.ite_none_right_eq_some.mp h
      cases h
      exact .clear hfree
  | refresh label fetched =>
      cases h
      exact .refresh
  | debit label amount =>
      cases h
      exact .debit
  | exitUpdate key position =>
      obtain ⟨before, hbefore, h⟩ := Option.bind_eq_some_iff.mp h
      obtain ⟨⟨hmarket, ⟨hfirst, hfirst'⟩, hsecond, hsecond'⟩, h⟩ :=
        Option.ite_none_right_eq_some.mp h
      cases h
      exact .exitUpdate hbefore ⟨hmarket, hfirst', hsecond'⟩ ⟨hfirst, hsecond⟩
  | exitRemove key =>
      cases h
      exact .exitRemove

/-! ## One entry at a time -/

/-- With funded entries at most one call is under way; without, no call goes beyond its
admission. -/
structure Phases (settings : Settings) (engine : Engine) : Prop where
  alone : settings.submitsOrders = true → engine.tasks.length ≤ 1
  dry : settings.submitsOrders = false → ∀ task ∈ engine.tasks, task.phase = .admitted

theorem Phases.tasks_eq_of_funded (h : Phases settings engine)
    (hfunded : settings.submitsOrders = true) {i : ℕ} {task : Task}
    (htask : engine.tasks[i]? = some task) : engine.tasks = [task] ∧ i = 0 := by
  obtain ⟨hi, heq⟩ := List.getElem?_eq_some_iff.mp htask
  have hlength := h.alone hfunded
  have hzero : i = 0 := by omega
  subst hzero
  obtain ⟨only, honly⟩ := List.length_eq_one_iff.mp (by omega : engine.tasks.length = 1)
  simp only [honly, List.getElem_cons_zero] at heq
  exact ⟨by rw [honly, heq], rfl⟩

/-- A call beyond its admission is a funded one, and the only one. -/
theorem Phases.tasks_eq (h : Phases settings engine) {i : ℕ} {task : Task}
    (htask : engine.tasks[i]? = some task) (hphase : task.phase ≠ .admitted) :
    settings.submitsOrders = true ∧ engine.tasks = [task] ∧ i = 0 := by
  have hfunded : settings.submitsOrders = true := by
    by_contra hdry
    exact hphase (h.dry (Bool.eq_false_iff.mpr hdry) task (List.mem_of_getElem? htask))
  exact ⟨hfunded, h.tasks_eq_of_funded hfunded htask⟩

theorem Phases.goOn (h : Phases settings engine) (i : ℕ) (task : Task) (phase : Phase)
    (hfunded : settings.submitsOrders = true) (balances : Balances) :
    Phases settings ({ engine with balances }.goOn i task phase) where
  alone := fun hs => by simpa [Engine.goOn] using h.alone hs
  dry := fun hdry => by simp [hfunded] at hdry

theorem Phases.finish (h : Phases settings engine) {i : ℕ}
    (htasks : engine'.tasks = engine.tasks.eraseIdx i) : Phases settings engine' where
  alone := by
    intro hfunded
    rw [htasks]
    exact (List.length_eraseIdx_le _ _).trans (h.alone hfunded)
  dry := by
    intro hdry task htask
    rw [htasks] at htask
    exact h.dry hdry task (List.mem_of_mem_eraseIdx htask)

theorem Phases.step {event : Event} (h : Phases settings engine)
    (hs : engine.Steps settings event engine') : Phases settings engine' := by
  cases hs with
  | admitSignal _ hfree _ =>
      refine ⟨fun hfunded => ?_, fun hdry task htask => ?_⟩
      · rw [entryFree, if_pos hfunded, List.isEmpty_iff] at hfree
        simp [hfree]
      · rcases List.mem_cons.mp htask with rfl | htask
        · rfl
        · exact h.dry hdry task htask
  | prepare _ _ hfunded _ _ => exact h.goOn _ _ _ hfunded _
  | reserve htask hphase _ => exact h.goOn _ _ _ (h.tasks_eq htask (by simp [hphase])).1 _
  | reservationSaved htask hphase => exact h.goOn _ _ _ (h.tasks_eq htask (by simp [hphase])).1 _
  | saveEntryPending _ _ | removeEntry _ _ | settle _ _ => exact ⟨h.alone, h.dry⟩
  | giveUp _ _ => exact h.finish rfl
  | release htask hphase => exact h.goOn _ _ _ (h.tasks_eq htask (by simp [hphase])).1 _
  | releaseSaved _ _ =>
      split
      · exact h.finish rfl
      · exact h.finish rfl
  | clear _ =>
      refine ⟨fun hfunded => ?_, fun hdry task htask => ?_⟩
      · simpa [cleared] using h.alone hfunded
      · obtain ⟨before, hbefore, rfl⟩ := List.mem_map.mp htask
        simp [Task.cleared, h.dry hdry before hbefore]
  | refresh | debit | exitUpdate _ _ _ | exitRemove => exact ⟨h.alone, h.dry⟩

theorem phases_start (ledger : PositionLedger) (balanceCache debits : Lib.Dict String Dec) :
    Phases settings (start ledger balanceCache debits) :=
  ⟨fun _ => Nat.zero_le _, fun _ _ htask => absurd htask List.not_mem_nil⟩

end Engine

end ArbitrageEngine.Execution.SignalHandling
