/-
# ArbitrageEngine.Discovery.Registry -- the published market snapshot and who may trade on it

`ActiveMarketRegistry` holds the snapshot of the last successful discovery.  A failed discovery keeps
the markets, marks every route failed and raises the generation; a publication replaces everything
and raises the generation too.  Readiness is derived from all of it at the moment it is asked, by the
registry's clock.

The routers ask through two gates that the service installs in the modes that submit orders: one for
the route, one for the generation a signal was planned in.  What else the gates ask (the
reconciliation, the market data of the route) is an input here, with `none` where the call raises.
-/
import ArbitrageEngine.Models
import Mathlib.Data.NNRat.Defs
import Mathlib.Tactic.Linarith

namespace ArbitrageEngine.Discovery

open Lib

/-! ## Snapshots -/

/-- `ExecutionMode`. -/
inductive ExecutionMode
  | paper
  | shadow
  | canary
  | live
deriving DecidableEq, Repr

/-- `submits_orders`. -/
def ExecutionMode.submitsOrders : ExecutionMode → Bool
  | canary | live => true
  | paper | shadow => false

structure DiscoveryDiagnostics where
  stages : List (String × ℤ) := []
  rejectionReasons : List (String × ℤ) := []
deriving DecidableEq

structure DiscoveryResult where
  markets : List MarketSpec
  missingRoutes : List String := []
  diagnostics : DiscoveryDiagnostics := {}
  routeStatuses : List (String × String) := []
deriving DecidableEq

/-- The registry's fields.  Times are seconds of its monotonic clock. -/
structure ActiveMarketRegistry where
  markets : List MarketSpec
  missingRoutes : List String
  diagnostics : DiscoveryDiagnostics
  routeStatuses : List (String × String)
  maxStaleSeconds : ℚ
  lastSuccessAt : Option ℚ
  lastError : Option String
  generation : ℕ
deriving DecidableEq

namespace ActiveMarketRegistry

/-- `ActiveMarketRegistry(...)`, which reads the clock only when it starts with markets. -/
def init (initial : DiscoveryResult) (maxStaleSeconds now : ℚ) : ActiveMarketRegistry where
  markets := initial.markets
  missingRoutes := initial.missingRoutes
  diagnostics := initial.diagnostics
  routeStatuses := initial.routeStatuses
  maxStaleSeconds := maxStaleSeconds
  lastSuccessAt := if initial.markets.isEmpty then none else some now
  lastError := none
  generation := 0

variable (registry : ActiveMarketRegistry) (now : ℚ)

def isStale : Bool :=
  match registry.lastSuccessAt with
  | none => false
  | some lastSuccessAt => now - lastSuccessAt > registry.maxStaleSeconds

def snapshotHealthy : Bool :=
  !registry.markets.isEmpty && registry.lastError.isNone && !registry.isStale now

def ready : Bool :=
  !registry.markets.isEmpty && registry.missingRoutes.isEmpty && registry.lastError.isNone
    && !registry.isStale now

/-- `dict(self._route_statuses)`: the last status given for a route is the one it has. -/
def statusByRoute : Dict String String :=
  registry.routeStatuses.foldl
    (fun (statuses : Dict String String) entry => statuses.set entry.1 entry.2) Dict.empty

def operationallyReady : Bool :=
  if !registry.snapshotHealthy now then false
  else if registry.routeStatuses.isEmpty then registry.missingRoutes.isEmpty
  else registry.routeStatuses.any fun entry => entry.2 = "ready_verified"

def routeReady (route : String) : Bool :=
  if !registry.snapshotHealthy now then false
  else if registry.routeStatuses.isEmpty then registry.missingRoutes.isEmpty
  else registry.statusByRoute.get? route = some "ready_verified"

def tradableSnapshot (mode : ExecutionMode) : List MarketSpec :=
  if mode.submitsOrders && !registry.operationallyReady now then [] else registry.markets

def publish (result : DiscoveryResult) : ActiveMarketRegistry :=
  { registry with
    generation := registry.generation + 1
    markets := result.markets
    missingRoutes := result.missingRoutes
    diagnostics := result.diagnostics
    routeStatuses := result.routeStatuses
    lastSuccessAt := some now
    lastError := none }

/-- `record_failure`; `error` is the text of the exception.  The markets stay, unless they are
stale by now. -/
def recordFailure (error : String) : ActiveMarketRegistry :=
  let failed :=
    { registry with
      generation := registry.generation + 1
      lastError := some error
      routeStatuses := registry.routeStatuses.map fun (entry : String × String) =>
        (entry.1, "failed") }
  if failed.isStale now then { failed with markets := [], missingRoutes := ["catalog_stale"] }
  else failed

/-! ## What an unhealthy snapshot allows -/

variable {registry now}

theorem snapshotHealthy_of_error (h : registry.lastError.isSome) :
    registry.snapshotHealthy now = false := by
  obtain ⟨error, herror⟩ := Option.isSome_iff_exists.mp h
  simp [snapshotHealthy, herror]

theorem snapshotHealthy_of_stale (h : registry.isStale now = true) :
    registry.snapshotHealthy now = false := by
  simp [snapshotHealthy, h]

theorem snapshotHealthy_of_empty (h : registry.markets = []) :
    registry.snapshotHealthy now = false := by
  simp [snapshotHealthy, h]

/-- Nothing is ready and nothing may be traded with orders. -/
structure Closed (registry : ActiveMarketRegistry) (now : ℚ) : Prop where
  ready : registry.ready now = false
  operationallyReady : registry.operationallyReady now = false
  routeReady : ∀ route, registry.routeReady now route = false
  tradable : ∀ mode : ExecutionMode, mode.submitsOrders = true →
    registry.tradableSnapshot now mode = []

theorem Closed.of_unhealthy (h : registry.snapshotHealthy now = false) : Closed registry now := by
  have hoperational : registry.operationallyReady now = false := by
    simp [ActiveMarketRegistry.operationallyReady, h]
  refine ⟨?_, hoperational, ?_, ?_⟩
  · -- `ready` asks for all that a healthy snapshot has, and for no missing route.
    simp only [snapshotHealthy, Bool.and_eq_false_iff] at h
    simp only [ActiveMarketRegistry.ready, Bool.and_eq_false_iff]
    tauto
  · intro route
    simp [ActiveMarketRegistry.routeReady, h]
  · intro mode hmode
    simp [tradableSnapshot, hmode, hoperational]

end ActiveMarketRegistry

/-! ## The gates of a router -/

/-- What a router's gates ask besides the registry; `none` where the call raises. -/
structure EntryGates where
  /-- `risk.is_paused()`. -/
  isPaused : Bool
  /-- `reconciliation_service.ready`. -/
  reconciliationReady : Option Bool
  /-- `engine.funded_market_data_route_ready(route)`. -/
  marketDataReady : Option Bool
deriving DecidableEq

/-- `funded_route_entry_is_ready`. -/
def fundedRouteEntryIsReady (registry : ActiveMarketRegistry) (now : ℚ) (gates : EntryGates)
    (route : String) : Option Bool :=
  match gates.reconciliationReady with
  | none => none
  | some false => some false
  | some true => if registry.routeReady now route then gates.marketDataReady else some false

/-- `funded_entry_snapshot_is_current`. -/
def fundedEntrySnapshotIsCurrent (registry : ActiveMarketRegistry) (now : ℚ) (route : String)
    (discoveryGeneration : Option ℕ) : Bool :=
  discoveryGeneration.isSome && registry.routeReady now route
    && discoveryGeneration = some registry.generation

/-- `_entry_runtime_ready_for_market` with the gates of the route; what raises is not ready. -/
def entryRuntimeReady (registry : ActiveMarketRegistry) (now : ℚ) (gates : EntryGates)
    (route : String) (discoveryGeneration : Option ℕ) : Bool :=
  if gates.isPaused then false
  else match fundedRouteEntryIsReady registry now gates route with
    | none | some false => false
    | some true => fundedEntrySnapshotIsCurrent registry now route discoveryGeneration

/-- A signal that passes was planned in the current generation, on a route that is ready. -/
theorem entryRuntimeReady_spec {registry : ActiveMarketRegistry} {now : ℚ} {gates : EntryGates}
    {route : String} {discoveryGeneration : Option ℕ}
    (h : entryRuntimeReady registry now gates route discoveryGeneration = true) :
    discoveryGeneration = some registry.generation ∧ registry.routeReady now route = true := by
  have hcurrent : fundedEntrySnapshotIsCurrent registry now route discoveryGeneration = true := by
    unfold entryRuntimeReady at h
    split at h
    · exact absurd h (by simp)
    · split at h
      · exact absurd h (by simp)
      · exact absurd h (by simp)
      · exact h
  simp only [fundedEntrySnapshotIsCurrent, Bool.and_eq_true, decide_eq_true_eq] at hcurrent
  exact ⟨hcurrent.2, hcurrent.1.2⟩

/-! ## Runs -/

/-- What happens to a registry: a discovery ends, or time passes. -/
inductive RegistryStep
  | publish (result : DiscoveryResult)
  | recordFailure (error : String)
  | tick (elapsed : NNRat)

namespace RegistryStep

def isPublish : RegistryStep → Bool
  | publish _ => true
  | _ => false

/-- The time that passes in a step. -/
def elapsed : RegistryStep → ℚ
  | tick elapsed => elapsed
  | _ => 0

end RegistryStep

/-- The time that passes in a list of steps. -/
def elapsedIn (steps : List RegistryStep) : ℚ := (steps.map RegistryStep.elapsed).sum

/-- A registry with its clock. -/
structure RegistryRun where
  registry : ActiveMarketRegistry
  now : ℚ
deriving DecidableEq

namespace RegistryRun

def step (run : RegistryRun) : RegistryStep → RegistryRun
  | .publish result => { run with registry := run.registry.publish run.now result }
  | .recordFailure error => { run with registry := run.registry.recordFailure run.now error }
  | .tick elapsed => { run with now := run.now + elapsed }

def steps (run : RegistryRun) (taken : List RegistryStep) : RegistryRun := taken.foldl step run

/-- A registry just made. -/
def start (initial : DiscoveryResult) (maxStaleSeconds now : ℚ) : RegistryRun :=
  ⟨.init initial maxStaleSeconds now, now⟩

theorem steps_append (run : RegistryRun) (first rest : List RegistryStep) :
    run.steps (first ++ rest) = (run.steps first).steps rest :=
  List.foldl_append

theorem steps_cons (run : RegistryRun) (taken : RegistryStep) (rest : List RegistryStep) :
    run.steps (taken :: rest) = (run.step taken).steps rest := rfl

/-! ### One step -/

variable (run : RegistryRun) (taken : RegistryStep)

theorem step_now : (run.step taken).now = run.now + taken.elapsed := by
  cases taken <;> simp [step, RegistryStep.elapsed]

theorem recordFailure_fields (registry : ActiveMarketRegistry) (now : ℚ) (error : String) :
    (registry.recordFailure now error).generation = registry.generation + 1
      ∧ (registry.recordFailure now error).lastError = some error
      ∧ (registry.recordFailure now error).lastSuccessAt = registry.lastSuccessAt
      ∧ (registry.recordFailure now error).maxStaleSeconds = registry.maxStaleSeconds := by
  simp only [ActiveMarketRegistry.recordFailure]
  split <;> exact ⟨rfl, rfl, rfl, rfl⟩

theorem step_maxStaleSeconds :
    (run.step taken).registry.maxStaleSeconds = run.registry.maxStaleSeconds := by
  cases taken with
  | publish result => rfl
  | recordFailure error => exact (recordFailure_fields _ _ error).2.2.2
  | tick elapsed => rfl

/-- The generation never falls. -/
theorem generation_le_step : run.registry.generation ≤ (run.step taken).registry.generation := by
  cases taken with
  | publish result => exact Nat.le_succ _
  | recordFailure error =>
      show _ ≤ (run.registry.recordFailure run.now error).generation
      rw [(recordFailure_fields _ _ error).1]
      omega
  | tick elapsed => exact le_refl _

variable {run taken}

/-- Only a publication clears an error. -/
theorem step_lastError (h : run.registry.lastError.isSome) (hnot : taken.isPublish = false) :
    (run.step taken).registry.lastError.isSome := by
  cases taken with
  | publish result => exact absurd hnot (by simp [RegistryStep.isPublish])
  | recordFailure error =>
      show (run.registry.recordFailure run.now error).lastError.isSome
      rw [(recordFailure_fields _ _ error).2.1]
      rfl
  | tick elapsed => exact h

/-- Only a publication moves the time of the snapshot. -/
theorem step_lastSuccessAt (hnot : taken.isPublish = false) :
    (run.step taken).registry.lastSuccessAt = run.registry.lastSuccessAt := by
  cases taken with
  | publish result => exact absurd hnot (by simp [RegistryStep.isPublish])
  | recordFailure error => exact (recordFailure_fields _ _ error).2.2.1
  | tick elapsed => rfl

/-- Without markets there are none before the next publication. -/
theorem step_markets_nil (h : run.registry.markets = []) (hnot : taken.isPublish = false) :
    (run.step taken).registry.markets = [] := by
  cases taken with
  | publish result => exact absurd hnot (by simp [RegistryStep.isPublish])
  | recordFailure error =>
      show (run.registry.recordFailure run.now error).markets = []
      simp only [ActiveMarketRegistry.recordFailure]
      split
      · rfl
      · exact h
  | tick elapsed => exact h

/-! ### Whole runs -/

variable (run) in
theorem steps_now (later : List RegistryStep) :
    (run.steps later).now = run.now + elapsedIn later := by
  induction later generalizing run with
  | nil => simp [steps, elapsedIn]
  | cons taken rest ih =>
      have helapsed : elapsedIn (taken :: rest) = taken.elapsed + elapsedIn rest := by
        simp [elapsedIn]
      rw [steps_cons, ih, step_now, helapsed, add_assoc]

variable (run) in
theorem steps_maxStaleSeconds (later : List RegistryStep) :
    (run.steps later).registry.maxStaleSeconds = run.registry.maxStaleSeconds := by
  induction later generalizing run with
  | nil => rfl
  | cons taken rest ih => rw [steps_cons, ih, step_maxStaleSeconds]

variable (run) in
theorem generation_le_steps (later : List RegistryStep) :
    run.registry.generation ≤ (run.steps later).registry.generation := by
  induction later generalizing run with
  | nil => exact le_refl _
  | cons taken rest ih => exact (generation_le_step run taken).trans (ih _)

/-- What every step but a publication keeps holds until the next publication. -/
theorem steps_keep {P : RegistryRun → Prop}
    (hstep : ∀ run taken, P run → RegistryStep.isPublish taken = false → P (run.step taken))
    {later : List RegistryStep} (hlater : ∀ taken ∈ later, taken.isPublish = false)
    (h : P run) : P (run.steps later) := by
  induction later generalizing run with
  | nil => exact h
  | cons taken rest ih =>
      rw [steps_cons]
      apply ih
      · exact fun t ht => hlater t (List.mem_cons_of_mem _ ht)
      · exact hstep run taken h (hlater taken List.mem_cons_self)

/-- After a failure nothing is ready before the next publication. -/
theorem closed_after_failure (error : String) {later : List RegistryStep}
    (hlater : ∀ taken ∈ later, taken.isPublish = false) :
    ((run.step (.recordFailure error)).steps later).registry.Closed
      ((run.step (.recordFailure error)).steps later).now := by
  have herror : ((run.step (.recordFailure error)).steps later).registry.lastError.isSome := by
    refine steps_keep (P := fun r => r.registry.lastError.isSome)
      (fun _ _ h hnot => step_lastError h hnot) hlater ?_
    show (run.registry.recordFailure run.now error).lastError.isSome
    rw [(recordFailure_fields _ _ error).2.1]
    rfl
  exact .of_unhealthy (ActiveMarketRegistry.snapshotHealthy_of_error herror)

/-- A snapshot of time `snapshotAt` is closed once it is older than the limit. -/
theorem closed_of_old {snapshotAt : ℚ} (hat : run.registry.lastSuccessAt = some snapshotAt)
    {later : List RegistryStep} (hlater : ∀ taken ∈ later, taken.isPublish = false)
    (hold : run.registry.maxStaleSeconds < run.now + elapsedIn later - snapshotAt) :
    (run.steps later).registry.Closed (run.steps later).now := by
  have hsame : (run.steps later).registry.lastSuccessAt = some snapshotAt := by
    refine steps_keep (P := fun r => r.registry.lastSuccessAt = some snapshotAt) ?_ hlater hat
    intro r taken h hnot
    rw [step_lastSuccessAt hnot, h]
  have hstale : (run.steps later).registry.isStale (run.steps later).now = true := by
    simp only [ActiveMarketRegistry.isStale, hsame]
    rw [steps_now, steps_maxStaleSeconds]
    exact decide_eq_true hold
  exact .of_unhealthy (ActiveMarketRegistry.snapshotHealthy_of_stale hstale)

/-- Without markets the registry is closed until the next publication. -/
theorem closed_of_markets_nil (h : run.registry.markets = []) {later : List RegistryStep}
    (hlater : ∀ taken ∈ later, taken.isPublish = false) :
    (run.steps later).registry.Closed (run.steps later).now := by
  have hnil : (run.steps later).registry.markets = [] :=
    steps_keep (P := fun r => r.registry.markets = []) (fun _ _ h hnot => step_markets_nil h hnot)
      hlater h
  exact .of_unhealthy (ActiveMarketRegistry.snapshotHealthy_of_empty hnil)

/-- A publication raises the generation, and what follows never lowers it again. -/
theorem generation_lt_of_publish (result : DiscoveryResult) (later : List RegistryStep) :
    run.registry.generation < (run.steps (.publish result :: later)).registry.generation := by
  have hlater := generation_le_steps (run.step (.publish result)) later
  have hpublish : (run.step (.publish result)).registry.generation = run.registry.generation + 1 :=
    rfl
  rw [steps_cons]
  omega

/-- **Discovery fails closed.**  In every run of publications, failures and time from a registry
just made: after a failure, and once the snapshot is older than its limit, nothing is ready and the
funded snapshot is empty until the next publication; every publication raises the generation for
good; and whatever the other gates answer, a signal of another generation is not accepted. -/
theorem discovery_fails_closed (initial : DiscoveryResult) (maxStaleSeconds now : ℚ)
    (before later : List RegistryStep) :
    let run := start initial maxStaleSeconds now
    (∀ error, (∀ taken ∈ later, taken.isPublish = false) →
        let s := run.steps (before ++ .recordFailure error :: later)
        s.registry.Closed s.now)
      ∧ (∀ result, (∀ taken ∈ later, taken.isPublish = false) →
          maxStaleSeconds < elapsedIn later →
          let s := run.steps (before ++ .publish result :: later)
          s.registry.Closed s.now)
      ∧ ((∀ taken ∈ later, taken.isPublish = false) → maxStaleSeconds < elapsedIn later →
          (run.steps later).registry.Closed (run.steps later).now)
      ∧ (∀ result, (run.steps before).registry.generation
          < (run.steps (before ++ .publish result :: later)).registry.generation)
      ∧ (∀ gates route discoveryGeneration,
          discoveryGeneration ≠ some (run.steps before).registry.generation →
          entryRuntimeReady (run.steps before).registry (run.steps before).now gates route
            discoveryGeneration = false) := by
  intro run
  refine ⟨?_, ?_, ?_, ?_, ?_⟩
  · intro error hlater
    simp only [steps_append, steps_cons]
    exact closed_after_failure error hlater
  · intro result hlater hold
    simp only [steps_append, steps_cons]
    have hat : ((run.steps before).step (.publish result)).registry.lastSuccessAt
        = some (run.steps before).now := rfl
    refine closed_of_old hat hlater ?_
    have hlimit : ((run.steps before).step (.publish result)).registry.maxStaleSeconds
        = maxStaleSeconds := steps_maxStaleSeconds run before
    have hnow : ((run.steps before).step (.publish result)).now = (run.steps before).now := rfl
    rw [hlimit, hnow]
    linarith
  · intro hlater hold
    by_cases hmarkets : initial.markets = []
    · exact closed_of_markets_nil hmarkets hlater
    · have hat : run.registry.lastSuccessAt = some now := by
        show (if initial.markets.isEmpty then none else some now) = some now
        rw [if_neg (by simpa using hmarkets)]
      refine closed_of_old hat hlater ?_
      show maxStaleSeconds < now + elapsedIn later - now
      linarith
  · intro result
    rw [steps_append]
    exact generation_lt_of_publish result later
  · intro gates route discoveryGeneration hne
    rw [Bool.eq_false_iff]
    intro hready
    exact hne (entryRuntimeReady_spec hready).1

/-! ### A publication, a failure and a wait -/

/-- A discovery with one verified route. -/
def verifiedDiscovery : DiscoveryResult where
  markets := [{
    symbol := "BTC", targetLabel := "BTC above 100000"
    polymarketTokenId := "poly", polymarketSide := .yes
    predictFunTokenId := "predict", predictFunSide := .no }]
  routeStatuses := [("polymarket_predict", "ready_verified")]

/-- All gates besides the registry open. -/
def openGates : EntryGates := ⟨false, some true, some true⟩

example : entryRuntimeReady (start verifiedDiscovery 900 0).registry 900 openGates
    "polymarket_predict" (some 0) = true := by decide +kernel

/-- The publication of a second snapshot, then 901 seconds, or a failure. -/
theorem discovery_fails_closed_after_publication :
    let run := start verifiedDiscovery 900 0
    let published := [RegistryStep.tick 10, .publish verifiedDiscovery]
    (run.steps (published ++ [.recordFailure "timeout", .tick 901])).registry.routeReady
        911 "polymarket_predict" = false
      ∧ (run.steps ([.tick 10] ++ [.publish verifiedDiscovery, .tick 901])).registry.routeReady
        911 "polymarket_predict" = false
      ∧ entryRuntimeReady (run.steps published).registry 10 openGates "polymarket_predict" (some 0)
        = false := by
  intro run published
  have hlater : ∀ taken ∈ [RegistryStep.tick 901], taken.isPublish = false := by
    simp [RegistryStep.isPublish]
  have hold : (900 : ℚ) < elapsedIn [.tick 901] := by decide +kernel
  have hgeneration : (some 0 : Option ℕ) ≠ some (run.steps published).registry.generation := by
    decide +kernel
  have hnow : (run.steps published).now = 10 := by decide +kernel
  have hfailed : (run.steps (published ++ [.recordFailure "timeout", .tick 901])).now = 911 := by
    decide +kernel
  have haged : (run.steps ([.tick 10] ++ [.publish verifiedDiscovery, .tick 901])).now = 911 := by
    decide +kernel
  refine ⟨?_, ?_, ?_⟩
  · have h := ((discovery_fails_closed verifiedDiscovery 900 0 published [.tick 901]).1
      "timeout" hlater).routeReady "polymarket_predict"
    rwa [hfailed] at h
  · have h := ((discovery_fails_closed verifiedDiscovery 900 0 [.tick 10] [.tick 901]).2.1
      verifiedDiscovery hlater hold).routeReady "polymarket_predict"
    rwa [haged] at h
  · have h := (discovery_fails_closed verifiedDiscovery 900 0 published []).2.2.2.2
      openGates "polymarket_predict" (some 0) hgeneration
    rwa [hnow] at h

end RegistryRun

end ArbitrageEngine.Discovery
