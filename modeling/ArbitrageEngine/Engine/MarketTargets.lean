/-
# ArbitrageEngine.Engine.MarketTargets -- the targets that are published and those that are synced

A cycle of the engine plans evaluations, selects a window of them, syncs the connectors to the
tokens the window reads, and publishes the tokens of the evaluations it is about to run, for the
readiness checks to ask about.  Those checks run while the cycle waits, so between any two steps of
the cycle what is published must be among what the connectors were last synced to.  To that end the
cycle syncs three times: to the targets of the last cycle, to the old published targets together
with the new window before it waits for the new books, and to the new window once it is published.

A sync takes the connectors one after another and stops where one of them raises; the cycle is then
over, with some connectors synced and others not.  What a connector was last synced to is the
argument of the last call of its `sync_market_data_targets` that returned.
-/
import ArbitrageEngine.Engine.Selection
import ArbitrageEngine.Lib.Runs
import ArbitrageEngine.Routes

namespace ArbitrageEngine.Engine

open Lib.Runs

/-! ## Planning -/

/-- A market of a snapshot, with the side of the Myriad market that discovery recorded. -/
structure ListedMarket extends MarketSpec where
  myriadSide : BinarySide := .no
deriving DecidableEq

/-- `myriad_execution_token_for_route`, on the routes with a Myriad leg. -/
def myriadExecutionToken (market : ListedMarket) (marketId : String) (route : ExecutionRoute) :
    String :=
  let side := if route = .polymarketMyriad then market.myriadSide else market.predictFunSide.opposite
  marketId ++ ":" ++ side.value

/-- The tokens of the two legs; none is a market that `market_supports_execution_route` refuses. -/
def executionTokens (market : ListedMarket) (route : ExecutionRoute) : Option (String × String) :=
  let (first, second) := route.venueLabels
  match route with
  | .polymarketMyriad =>
      (truthy market.myriadMarketId).bind fun marketId =>
        if market.polymarketTokenId = "" then none
        else some (market.polymarketTokenId, myriadExecutionToken market marketId route)
  | .predictMyriad | .sxMyriad | .opinionMyriad =>
      (truthy market.myriadMarketId).bind fun marketId =>
        if market.venueBLabel = first ∧ market.predictFunTokenId ≠ "" then
          some (market.predictFunTokenId, myriadExecutionToken market marketId route)
        else none
  | .polymarketPredict | .predictSx | .polymarketSx | .polymarketOpinion | .predictOpinion
  | .sxOpinion =>
      if market.venueALabel = first ∧ market.venueBLabel = second ∧
          market.polymarketTokenId ≠ "" ∧ market.predictFunTokenId ≠ "" then
        some (market.polymarketTokenId, market.predictFunTokenId)
      else none

/-- `route_execution_sides_are_complementary`, for a market that supports the route. -/
def executionSidesAreComplementary (market : ListedMarket) (route : ExecutionRoute) : Bool :=
  match route with
  | .polymarketMyriad => market.polymarketSide ≠ market.myriadSide
  | .predictMyriad | .sxMyriad | .opinionMyriad => market.myriadSide = market.predictFunSide
  | .polymarketPredict | .predictSx | .polymarketSx | .polymarketOpinion | .predictOpinion
  | .sxOpinion => market.polymarketSide ≠ market.predictFunSide

/-- `is_live_mapping_eligible`, by whether the mode submits orders. -/
def isLiveMappingEligible (normalizeCategory : Option String → Option String)
    (submitsOrders : Bool) (market : MarketSpec) (route : String) : Bool :=
  !submitsOrders ||
    (market.mappingStatus = .verified && (truthy market.rulesFingerprint).isSome
      && (truthy market.resolutionSource).isSome && (truthy market.outcomeSemantics).isSome
      && (normalizeCategory market.category).isSome && route ∈ market.verifiedRoutes)

/-- What the engine is given: its clients and routers, and what the configuration says. -/
structure EngineConfig where
  windows : WindowConfig
  normalizeCategory : Option String → Option String
  /-- `config.routes`. -/
  routes : ExecutionRoute → Bool
  /-- Is there a router for the route? -/
  hasExecution : ExecutionRoute → Bool
  /-- Is there a client for the venue?  The one for Polymarket is not optional. -/
  hasClient : String → Bool
  hasClient_polymarket : hasClient "Polymarket" = true
  /-- `_funded_routes`. -/
  fundedRoutes : List String
  maxConcurrentMarketEvaluations : ℤ

/-- The routes in the order in which a market is planned on them. -/
def planningOrder : List ExecutionRoute :=
  [.polymarketPredict, .polymarketSx, .polymarketMyriad, .predictMyriad, .predictSx, .sxMyriad,
    .polymarketOpinion, .predictOpinion, .sxOpinion, .opinionMyriad]

variable (config : EngineConfig)

/-- The block of `run_once` for one route: the targets of the evaluation it plans for a market.  The
labels, tokens and ids it asks for besides are those that the supported routes have. -/
def plannedTargets (submitsOrders : Bool) (market : ListedMarket) (route : ExecutionRoute) :
    Option (String × Targets) :=
  let (first, second) := route.venueLabels
  if config.routes route && config.hasClient first && config.hasClient second
      && config.hasExecution route && executionSidesAreComplementary market route
      && isLiveMappingEligible config.normalizeCategory submitsOrders market.toMarketSpec route.name
  then
    (executionTokens market route).map fun tokens =>
      (route.name, [(first, tokens.1), (second, tokens.2)])
  else none

/-- The evaluations planned for a snapshot; `nextRun` is the identity of the first of them. -/
def planEvaluations (submitsOrders : Bool) (markets : List ListedMarket) (nextRun : ℕ) :
    List PlannedEvaluation :=
  let planned := markets.flatMap fun market =>
    planningOrder.filterMap (plannedTargets config submitsOrders market)
  planned.mapIdx fun index entry => ⟨entry.1, nextRun + index, entry.2⟩

/-! ## Sets of targets -/

/-- The tokens of each venue; a venue without any may be missing from the source's dictionary. -/
abbrev TargetSets : Type := String → Finset String

/-- The token of a target is added to its venue, unless it is empty. -/
def addTarget (sets : TargetSets) (target : String × String) : TargetSets :=
  if target.2 = "" then sets
  else Function.update sets target.1 (insert target.2 (sets target.1))

/-- The tokens of some targets are added. -/
def addTargets (sets : TargetSets) (targets : Targets) : TargetSets := targets.foldl addTarget sets

/-- `_targets_for_evaluations`. -/
def targetsForEvaluations (evaluations : List PlannedEvaluation) : TargetSets :=
  addTargets (fun _ => ∅) (evaluations.flatMap (·.targets))

/-- The order of pairs of strings. -/
def targetLe (a b : String × String) : Bool := a.1 < b.1 ∨ (a.1 = b.1 ∧ a.2 ≤ b.2)

/-- `funded_targets`, as the sorted tuples that are published: for each funded route the targets of
its active evaluations. -/
def fundedTargets (active : List PlannedEvaluation) (route : String) : Targets :=
  if route ∈ config.fundedRoutes then
    (((onRoute active route).flatMap (·.targets)).filter (·.2 ≠ "")).dedup.insertionSort
      fun a b => targetLe a b
  else []

/-- `execution_route_for_market`; none is the error for labels without a route. -/
def executionRouteForMarket (market : MarketSpec) : Option ExecutionRoute :=
  (ExecutionRoute.all.find? fun route =>
      route.venueLabels = (market.venueALabel, market.venueBLabel)).or
    (ExecutionRoute.all.find? fun route => route.venueLabels = ("Polymarket", market.venueBLabel))

/-- `PositionLedger.market_data_targets`; none is the error for a position without a route. -/
def openPositionTargets (ledger : PositionLedger) : Option TargetSets :=
  ledger.entries.foldlM
    (fun sets entry => do
      let market := entry.2.market
      let _ ← executionRouteForMarket market
      pure (addTargets sets [(market.venueALabel, market.polymarketTokenId),
        (market.venueBLabel, market.predictFunTokenId)]))
    fun _ => ∅

/-! ## The sync -/

/-- What the connectors are synced to. -/
structure Synced where
  /-- `_synced_market_data_targets`. -/
  recorded : TargetSets := fun _ => ∅
  /-- The argument of the last sync of each connector that returned. -/
  connectors : TargetSets := fun _ => ∅

/-- The venues in the order in which they are synced. -/
def syncedVenues : List String := ["Polymarket", "Predict.fun", "SX Bet", "Myriad", "Opinion"]

/-- One round of the loop of `_sync_market_data_targets`; `raises` says which connectors raise, and
none is the error. -/
def syncVenue (raises : String → Bool) (wanted : TargetSets) (venue : String) (s : Synced) :
    Option Synced :=
  if wanted venue = s.recorded venue then some s
  else if config.hasClient venue then
    if raises venue then none
    else some ⟨Function.update s.recorded venue (wanted venue),
      Function.update s.connectors venue (wanted venue)⟩
  else some { s with recorded := Function.update s.recorded venue (wanted venue) }

/-- The loop of `_sync_market_data_targets`, with what is synced when it ends or a connector
raises, and whether it ends. -/
def syncVenues (raises : String → Bool) (wanted : TargetSets) : List String → Synced → Synced × Bool
  | [], s => (s, true)
  | venue :: rest, s =>
      match syncVenue config raises wanted venue s with
      | none => (s, false)
      | some s' => syncVenues raises wanted rest s'

/-- What a sync finds: the open positions, and the connectors that raise. -/
structure SyncConditions where
  ledger : PositionLedger := .empty
  raises : String → Bool := fun _ => false

/-- `_sync_market_data_targets`, for targets that are given. -/
def syncMarketDataTargets (conditions : SyncConditions) (active : TargetSets) (s : Synced) :
    Synced × Bool :=
  match openPositionTargets conditions.ledger with
  | none => (s, false)
  | some positions =>
      syncVenues config conditions.raises (fun venue => active venue ∪ positions venue) syncedVenues
        s

/-! ## The cycle -/

/-- A snapshot of the market provider; `identity` is the identity of the tuple. -/
structure Snapshot where
  identity : ℕ
  markets : List ListedMarket

/-- Where the cycle waits. -/
inductive CyclePhase
  /-- Between cycles. -/
  | idle
  /-- In `_position_manager.run_once`. -/
  | managingPositions
  /-- In `_prime_market_data_targets` and `_prime_funded_market_data_targets`, with the next entry
  targets and the active evaluations of the cycle. -/
  | priming (next : TargetSets) (active : List PlannedEvaluation)
  /-- In `ensure_balances` and `_route_chain_costs`. -/
  | checking (active : List PlannedEvaluation)
  /-- In the evaluations that the cycle executes. -/
  | evaluating (executed : List PlannedEvaluation)

/-- The engine's fields that the cycle reads and writes. -/
structure EngineState where
  windows : Windows := {}
  plannedMarketSnapshot : Option ℕ := none
  plannedMarketGeneration : Option ℤ := none
  nextRun : ℕ := 0
  /-- `_entry_market_data_targets`. -/
  entry : TargetSets := fun _ => ∅
  /-- `_funded_market_data_targets_by_route`. -/
  funded : String → Targets := fun _ => []
  synced : Synced := {}
  phase : CyclePhase := .idle

/-- The published targets of all funded routes. -/
def published (s : EngineState) : Targets := config.fundedRoutes.flatMap s.funded

/-- What happens between one await and the next. -/
inductive CycleAction
  /-- From the start of `run_once` to the position manager. -/
  | startCycle (conditions : SyncConditions)
  /-- From there to the priming: plan, select, and sync to both windows. -/
  | planCycle (snapshot : Snapshot) (generation : Option ℤ) (submitsOrders : Bool) (now : ℚ)
      (fuel : ℕ) (conditions : SyncConditions)
  /-- From there on: publish, and sync to the new window. -/
  | publish (conditions : SyncConditions)
  /-- The chain costs are there, for the routes that have a quote. -/
  | execute (quoted : String → Bool)
  /-- `_mark_recent_executable`, in an evaluation. -/
  | markRecentExecutable (route : String) (targets : Targets) (netSpread now : ℚ)
  /-- The cycle ends, with an error, a return or the last evaluation. -/
  | endCycle

/-- The plan is made again unless the snapshot and the generation are those it was made for. -/
def planMarkets (snapshot : Snapshot) (generation : Option ℤ) (submitsOrders : Bool)
    (s : EngineState) : EngineState :=
  if s.plannedMarketSnapshot = some snapshot.identity ∧ s.plannedMarketGeneration = generation then s
  else
    let evaluations := planEvaluations config submitsOrders snapshot.markets s.nextRun
    { s with
      windows := setPlannedEvaluations evaluations s.windows
      plannedMarketSnapshot := some snapshot.identity
      plannedMarketGeneration := generation
      nextRun := s.nextRun + evaluations.length }

/-- A sync, and then to the phase if it ends, and out of the cycle if it raises. -/
def syncThen (conditions : SyncConditions) (active : TargetSets) (phase : CyclePhase)
    (s : EngineState) : EngineState :=
  let (synced, ends) := syncMarketDataTargets config conditions active s.synced
  { s with synced := synced, phase := if ends then phase else .idle }

/-- The engine from one await to the next; none is an action the phase does not have, or a selection
that does not end. -/
def cycleStep (s : EngineState) : CycleAction → Option EngineState
  | .startCycle conditions =>
      match s.phase with
      | .idle => some (syncThen config conditions s.entry .managingPositions s)
      | _ => none
  | .planCycle snapshot generation submitsOrders now fuel conditions =>
      match s.phase with
      | .managingPositions => do
          let s := planMarkets config snapshot generation submitsOrders s
          let (selection, windows) ← selectEvaluationWindow config.windows fuel s.windows.planned true
            config.maxConcurrentMarketEvaluations now s.windows
          let next := targetsForEvaluations selection.targets
          let transitional := addTargets next (published config s)
          pure (syncThen config conditions transitional (.priming next selection.active)
            { s with windows := windows })
      | _ => none
  | .publish conditions =>
      match s.phase with
      | .priming next active =>
          some (syncThen config conditions next (.checking active)
            { s with entry := next, funded := fundedTargets config active })
      | _ => none
  | .execute quoted =>
      match s.phase with
      | .checking active =>
          some { s with phase := .evaluating (active.filter fun evaluation => quoted evaluation.route) }
      | _ => none
  | .markRecentExecutable route targets netSpread now =>
      some { s with windows := markRecentExecutable route targets netSpread now s.windows }
  | .endCycle => some { s with phase := .idle }

/-! ## What a sync leaves -/

variable {config}

/-- The connectors that are there were last synced to what is recorded. -/
def Recorded (config : EngineConfig) (s : Synced) : Prop :=
  ∀ venue, config.hasClient venue = true → s.connectors venue = s.recorded venue

/-- What the loop over some venues leaves, from `s` to `s'`. -/
structure SyncedTo (config : EngineConfig) (wanted : TargetSets) (venues : List String)
    (s s' : Synced) (ends : Bool) : Prop where
  recorded_or : ∀ venue, s'.recorded venue = s.recorded venue ∨ s'.recorded venue = wanted venue
  recorded_eq : ends = true → ∀ venue ∈ venues, s'.recorded venue = wanted venue
  agrees : Recorded config s → Recorded config s'

/-- One venue: it is synced, or it was, or its connector raises. -/
theorem syncVenue_cases {raises : String → Bool} {wanted : TargetSets} {venue : String}
    {s s' : Synced} (h : syncVenue config raises wanted venue s = some s') :
    s'.recorded = Function.update s.recorded venue (wanted venue) ∧
      (Recorded config s → Recorded config s') := by
  simp only [syncVenue] at h
  split at h
  · next heq =>
      cases h
      exact ⟨by rw [heq, Function.update_eq_self], id⟩
  · split at h
    · split at h
      · cases h
      · cases h
        refine ⟨rfl, fun hs other hother => ?_⟩
        show Function.update s.connectors venue _ other = Function.update s.recorded venue _ other
        by_cases heq : other = venue
        · rw [heq, Function.update_self, Function.update_self]
        · rw [Function.update_of_ne heq, Function.update_of_ne heq]
          exact hs other hother
    · next hnone =>
        cases h
        refine ⟨rfl, fun hs other hother => ?_⟩
        -- A venue without a client is recorded as synced, and nothing asks about it.
        have hne : other ≠ venue := fun heq => hnone (heq ▸ hother)
        show s.connectors other = Function.update s.recorded venue _ other
        rw [Function.update_of_ne hne]
        exact hs other hother

variable (config) in
theorem syncVenues_syncedTo (raises : String → Bool) (wanted : TargetSets) :
    ∀ (venues : List String) (s : Synced), SyncedTo config wanted venues s
      (syncVenues config raises wanted venues s).1 (syncVenues config raises wanted venues s).2 := by
  intro venues
  induction venues with
  | nil => exact fun s => ⟨fun _ => .inl rfl, fun _ _ h => absurd h List.not_mem_nil, id⟩
  | cons venue rest ih =>
      intro s
      simp only [syncVenues]
      split
      · exact ⟨fun _ => .inl rfl, fun h => absurd h Bool.false_ne_true, id⟩
      · next s₁ hs₁ =>
          obtain ⟨hrecorded, hagrees⟩ := syncVenue_cases hs₁
          obtain ⟨hor, heq, hrest⟩ := ih s₁
          have hfirst : s₁.recorded venue = wanted venue := by
            rw [hrecorded, Function.update_self]
          refine ⟨fun other => ?_, fun hends other hmem => ?_, hrest ∘ hagrees⟩
          · by_cases hother : other = venue
            · rw [hother]
              exact .inr ((hor venue).elim (fun hkept => hkept.trans hfirst) id)
            · have hsame : s₁.recorded other = s.recorded other := by
                rw [hrecorded, Function.update_of_ne hother]
              exact (hor other).imp_left fun hkept => hkept.trans hsame
          · rcases List.mem_cons.mp hmem with rfl | hrestMem
            · exact (hor other).elim (fun hkept => hkept.trans hfirst) id
            · exact heq hends other hrestMem

/-- A sync keeps a token that was recorded and is wanted, and when it ends every wanted token of
the five venues is recorded. -/
structure SyncKeeps (config : EngineConfig) (active : TargetSets) (s s' : Synced) (ends : Bool) :
    Prop where
  kept : ∀ venue token, token ∈ s.recorded venue → token ∈ active venue → token ∈ s'.recorded venue
  wanted : ends = true → ∀ venue ∈ syncedVenues, active venue ⊆ s'.recorded venue
  agrees : Recorded config s → Recorded config s'

variable (config) in
theorem syncMarketDataTargets_keeps (conditions : SyncConditions) (active : TargetSets)
    (s : Synced) : SyncKeeps config active s (syncMarketDataTargets config conditions active s).1
      (syncMarketDataTargets config conditions active s).2 := by
  unfold syncMarketDataTargets
  split
  · exact ⟨fun _ _ h _ => h, fun h => absurd h Bool.false_ne_true, id⟩
  · next positions _ =>
      obtain ⟨hor, heq, hagrees⟩ := syncVenues_syncedTo config conditions.raises
        (fun venue => active venue ∪ positions venue) syncedVenues s
      refine ⟨fun venue token hrecorded hactive => ?_, fun hends venue hmem => ?_, hagrees⟩
      · rcases hor venue with hkept | hsynced
        · rw [hkept]
          exact hrecorded
        · rw [hsynced]
          exact Finset.mem_union_left _ hactive
      · rw [heq hends venue hmem]
        exact Finset.subset_union_left

/-! ## Sets of targets -/

theorem mem_addTarget {sets : TargetSets} {target : String × String} {venue token : String} :
    token ∈ addTarget sets target venue ↔
      token ∈ sets venue ∨ token ≠ "" ∧ (venue, token) = target := by
  obtain ⟨first, added⟩ := target
  unfold addTarget
  by_cases hempty : added = ""
  · rw [if_pos hempty, Prod.mk.injEq]
    exact (or_iff_left fun h => h.1 (h.2.2.trans hempty)).symm
  · rw [if_neg hempty]
    by_cases hvenue : venue = first
    · subst hvenue
      rw [Function.update_self, Finset.mem_insert, Prod.mk.injEq]
      constructor
      · rintro (rfl | hold)
        · exact .inr ⟨hempty, rfl, rfl⟩
        · exact .inl hold
      · exact fun h => h.elim .inr fun hnew => .inl hnew.2.2
    · rw [Function.update_of_ne hvenue, Prod.mk.injEq]
      exact (or_iff_left fun h => hvenue h.2.1).symm

theorem mem_addTargets {venue token : String} : ∀ {targets : Targets} {sets : TargetSets},
    token ∈ addTargets sets targets venue ↔
      token ∈ sets venue ∨ token ≠ "" ∧ (venue, token) ∈ targets := by
  intro targets
  induction targets with
  | nil => intro sets; simp [addTargets]
  | cons target rest ih =>
      intro sets
      show token ∈ addTargets (addTarget sets target) rest venue ↔ _
      rw [ih, mem_addTarget, List.mem_cons, or_assoc, and_or_left]

theorem mem_targetsForEvaluations {evaluations : List PlannedEvaluation} {venue token : String} :
    token ∈ targetsForEvaluations evaluations venue ↔
      token ≠ "" ∧ ∃ evaluation ∈ evaluations, (venue, token) ∈ evaluation.targets := by
  unfold targetsForEvaluations
  rw [mem_addTargets]
  simp

theorem mem_fundedTargets {active : List PlannedEvaluation} {route : String}
    {target : String × String} (h : target ∈ fundedTargets config active route) :
    target.2 ≠ "" ∧ ∃ evaluation ∈ active, target ∈ evaluation.targets := by
  unfold fundedTargets at h
  split at h
  · rw [List.mem_insertionSort, List.mem_dedup, List.mem_filter, List.mem_flatMap] at h
    obtain ⟨⟨evaluation, hmem, htarget⟩, hne⟩ := h
    exact ⟨of_decide_eq_true hne, evaluation, (List.mem_filter.mp hmem).1, htarget⟩
  · exact absurd h List.not_mem_nil

/-! ## Plans -/

/-- A target that a plan can have: a token of one of the venues the engine has a client for. -/
structure Plannable (config : EngineConfig) (target : String × String) : Prop where
  token : target.2 ≠ ""
  venue : target.1 ∈ syncedVenues
  client : config.hasClient target.1 = true

theorem venueLabels_mem (route : ExecutionRoute) :
    route.venueLabels.1 ∈ syncedVenues ∧ route.venueLabels.2 ∈ syncedVenues := by
  cases route <;> decide

theorem append_colon_ne_empty (marketId side : String) : marketId ++ ":" ++ side ≠ "" := by
  intro h
  have hlength := congrArg String.length h
  simp only [String.length_append] at hlength
  have hcolon : (":" : String).length = 1 := rfl
  have hempty : ("" : String).length = 0 := rfl
  omega

/-- The tokens of a market that supports a route are not empty. -/
theorem executionTokens_ne_empty {market : ListedMarket} {route : ExecutionRoute}
    {tokens : String × String} (h : executionTokens market route = some tokens) :
    tokens.1 ≠ "" ∧ tokens.2 ≠ "" := by
  cases route
  case polymarketMyriad =>
    obtain ⟨marketId, _, h⟩ := Option.bind_eq_some_iff.mp h
    split at h
    · cases h
    · next hne =>
        cases h
        exact ⟨hne, append_colon_ne_empty _ _⟩
  case predictMyriad | sxMyriad | opinionMyriad =>
    obtain ⟨marketId, _, h⟩ := Option.bind_eq_some_iff.mp h
    split at h
    · next hlabel =>
        cases h
        exact ⟨hlabel.2, append_colon_ne_empty _ _⟩
    · cases h
  case polymarketPredict | predictSx | polymarketSx | polymarketOpinion | predictOpinion
      | sxOpinion =>
    simp only [executionTokens] at h
    split at h
    · next hlabels =>
        cases h
        exact ⟨hlabels.2.2.1, hlabels.2.2.2⟩
    · cases h

theorem plannedTargets_plannable {submitsOrders : Bool} {market : ListedMarket}
    {route : ExecutionRoute} {name : String} {targets : Targets}
    (h : plannedTargets config submitsOrders market route = some (name, targets)) :
    ∀ target ∈ targets, Plannable config target := by
  simp only [plannedTargets] at h
  split at h
  · next hguards =>
      obtain ⟨tokens, htokens, heq⟩ := Option.map_eq_some_iff.mp h
      cases heq
      obtain ⟨hfirst, hsecond⟩ := executionTokens_ne_empty htokens
      obtain ⟨hvenueA, hvenueB⟩ := venueLabels_mem route
      simp only [Bool.and_eq_true] at hguards
      obtain ⟨⟨⟨⟨⟨_, hclientA⟩, hclientB⟩, _⟩, _⟩, _⟩ := hguards
      intro target hmem
      rcases List.mem_pair.mp hmem with rfl | rfl
      · exact ⟨hfirst, hvenueA, hclientA⟩
      · exact ⟨hsecond, hvenueB, hclientB⟩
  · cases h

/-- Every target of these evaluations is one a plan can have. -/
def PlannableAll (config : EngineConfig) (evaluations : List PlannedEvaluation) : Prop :=
  ∀ evaluation ∈ evaluations, ∀ target ∈ evaluation.targets, Plannable config target

theorem planEvaluations_plannable (submitsOrders : Bool) (markets : List ListedMarket)
    (nextRun : ℕ) :
    PlannableAll config (planEvaluations config submitsOrders markets nextRun) := by
  intro evaluation hmem
  obtain ⟨index, hindex, heq⟩ := List.mem_mapIdx.mp hmem
  rw [← heq]
  obtain ⟨market, _, hplanned⟩ := List.mem_flatMap.mp (List.getElem_mem hindex)
  obtain ⟨route, _, hroute⟩ := List.mem_filterMap.mp hplanned
  exact plannedTargets_plannable hroute

/-! ## The cycle -/

/-- Every target of these evaluations is recorded. -/
def AllRecorded (s : Synced) (evaluations : List PlannedEvaluation) : Prop :=
  ∀ evaluation ∈ evaluations, ∀ target ∈ evaluation.targets, target.2 ∈ s.recorded target.1

/-- What the cycle knows where it waits. -/
def PhaseKnows (config : EngineConfig) (s : Synced) : CyclePhase → Prop
  | .idle | .managingPositions => True
  | .priming next active =>
      PlannableAll config active ∧
        (∀ evaluation ∈ active, ∀ target ∈ evaluation.targets, target.2 ∈ next target.1) ∧
        ∀ venue ∈ syncedVenues, next venue ⊆ s.recorded venue
  | .checking active => PlannableAll config active ∧ AllRecorded s active
  | .evaluating executed => PlannableAll config executed ∧ AllRecorded s executed

/-- What holds wherever the engine waits. -/
structure TargetsInvariant (config : EngineConfig) (s : EngineState) : Prop where
  held : HeldOf s.windows.planned s.windows
  plannable : PlannableAll config s.windows.planned
  agrees : Recorded config s.synced
  published_recorded : ∀ target ∈ published config s, Plannable config target ∧
    target.2 ∈ s.entry target.1 ∧ target.2 ∈ s.synced.recorded target.1
  phase_knows : PhaseKnows config s.synced s.phase

variable {s s' : EngineState}

/-- A sync to something that the published targets are among: the invariant is kept if the phase it
leads to knows its part. -/
theorem TargetsInvariant.sync (h : TargetsInvariant config s) (conditions : SyncConditions)
    {active : TargetSets} {phase : CyclePhase}
    (hpublished : ∀ target ∈ published config s, target.2 ∈ active target.1)
    (hphase : ∀ synced, SyncKeeps config active s.synced synced true →
      PhaseKnows config synced phase) :
    TargetsInvariant config (syncThen config conditions active phase s) := by
  have hkeeps := syncMarketDataTargets_keeps config conditions active s.synced
  refine ⟨h.held, h.plannable, hkeeps.agrees h.agrees, fun target hmem => ?_, ?_⟩
  · obtain ⟨hplannable, hentry, hrecorded⟩ := h.published_recorded target hmem
    exact ⟨hplannable, hentry, hkeeps.kept _ _ hrecorded (hpublished target hmem)⟩
  · show PhaseKnows config (syncMarketDataTargets config conditions active s.synced).1
      (if (syncMarketDataTargets config conditions active s.synced).2 then phase else .idle)
    generalize syncMarketDataTargets config conditions active s.synced = result at hkeeps
    cases hends : result.2 with
    | true =>
        rw [hends] at hkeeps
        exact hphase _ hkeeps
    | false => trivial

/-- A new plan can be planned, and no window of the old one is held. -/
theorem TargetsInvariant.planMarkets (h : TargetsInvariant config s) (snapshot : Snapshot)
    (generation : Option ℤ) (submitsOrders : Bool) :
    TargetsInvariant config (planMarkets config snapshot generation submitsOrders s) := by
  unfold Engine.planMarkets
  split
  · exact h
  · refine ⟨fun route held hget => ?_, planEvaluations_plannable _ _ _, h.agrees,
      h.published_recorded, h.phase_knows⟩
    cases hget

/-- Between the position manager and the priming: the next window and the published targets are
both recorded. -/
theorem TargetsInvariant.planCycle (h : TargetsInvariant config s) {selection : Selection}
    {windows : Windows} {now : ℚ} {fuel : ℕ}
    (hselect : selectEvaluationWindow config.windows fuel s.windows.planned true
      config.maxConcurrentMarketEvaluations now s.windows = some (selection, windows))
    (conditions : SyncConditions) :
    TargetsInvariant config (syncThen config conditions
      (addTargets (targetsForEvaluations selection.targets) (published config s))
      (.priming (targetsForEvaluations selection.targets) selection.active)
      { s with windows := windows }) := by
  obtain ⟨hactive, htargets⟩ := selectEvaluationWindow_mem h.held (fun _ => rfl) hselect
  have hplannedSame : windows.planned = s.windows.planned := 
    selectEvaluationWindow_planned h.held (fun _ => rfl) hselect
  have hplannable : PlannableAll config selection.active := fun evaluation hmem =>
    h.plannable evaluation (htargets (hactive hmem))
  have hmoved : TargetsInvariant config { s with windows := windows } := by
    refine ⟨selectEvaluationWindow_keeps h.held (fun _ => rfl) hselect, ?_, h.agrees,
      h.published_recorded, h.phase_knows⟩
    show PlannableAll config windows.planned
    rw [hplannedSame]
    exact h.plannable
  refine hmoved.sync conditions (fun target hmem => ?_) fun synced hsynced => ⟨hplannable, ?_, ?_⟩
  · obtain ⟨hplannableTarget, _⟩ := h.published_recorded target hmem
    exact mem_addTargets.mpr (.inr ⟨hplannableTarget.token, hmem⟩)
  · intro evaluation hmem target htarget
    have htoken := (hplannable evaluation hmem target htarget).token
    exact mem_targetsForEvaluations.mpr ⟨htoken, evaluation, hactive hmem, htarget⟩
  · intro venue hvenue token htoken
    exact hsynced.wanted rfl venue hvenue (mem_addTargets.mpr (.inl htoken))

/-- After the priming: what is published is in the new window, which is recorded already. -/
theorem TargetsInvariant.publish (h : TargetsInvariant config s) {next : TargetSets}
    {active : List PlannedEvaluation} (hphase : s.phase = .priming next active)
    (conditions : SyncConditions) :
    TargetsInvariant config (syncThen config conditions next (.checking active)
      { s with entry := next, funded := fundedTargets config active }) := by
  have hknows := h.phase_knows
  rw [hphase] at hknows
  obtain ⟨hplannable, hnext, hrecorded⟩ := hknows
  have hpublished : ∀ target ∈ config.fundedRoutes.flatMap (fundedTargets config active),
      Plannable config target ∧ target.2 ∈ next target.1 := by
    intro target hmem
    obtain ⟨route, _, hfunded⟩ := List.mem_flatMap.mp hmem
    obtain ⟨_, evaluation, hactive, htarget⟩ := mem_fundedTargets hfunded
    exact ⟨hplannable evaluation hactive target htarget, hnext evaluation hactive target htarget⟩
  have hmoved : TargetsInvariant config
      { s with entry := next, funded := fundedTargets config active } := by
    refine ⟨h.held, h.plannable, h.agrees, fun target hmem => ?_, h.phase_knows⟩
    obtain ⟨hplan, hin⟩ := hpublished target hmem
    exact ⟨hplan, hin, hrecorded _ hplan.venue hin⟩
  refine hmoved.sync conditions (fun target hmem => (hpublished target hmem).2)
    fun synced hsynced => ⟨hplannable, fun evaluation hmem target htarget => ?_⟩
  have hvenue := (hplannable evaluation hmem target htarget).venue
  exact hsynced.wanted rfl _ hvenue (hnext evaluation hmem target htarget)

/-- One step of the cycle keeps the invariant. -/
theorem TargetsInvariant.step (h : TargetsInvariant config s) {action : CycleAction}
    (hstep : cycleStep config s action = some s') : TargetsInvariant config s' := by
  cases action with
  | startCycle conditions =>
      simp only [cycleStep] at hstep
      split at hstep
      · cases hstep
        exact h.sync conditions (fun target hmem => (h.published_recorded target hmem).2.1)
          fun _ _ => trivial
      · cases hstep
  | planCycle snapshot generation submitsOrders now fuel conditions =>
      simp only [cycleStep] at hstep
      split at hstep
      · obtain ⟨⟨selection, windows⟩, hselect, hresult⟩ := Option.bind_eq_some_iff.mp hstep
        cases hresult
        exact (h.planMarkets snapshot generation submitsOrders).planCycle hselect conditions
      · cases hstep
  | publish conditions =>
      simp only [cycleStep] at hstep
      split at hstep
      · next next active hphase =>
          cases hstep
          exact h.publish hphase conditions
      · cases hstep
  | execute quoted =>
      simp only [cycleStep] at hstep
      split at hstep
      · next active hphase =>
          cases hstep
          have hknows := h.phase_knows
          rw [hphase] at hknows
          refine ⟨h.held, h.plannable, h.agrees, h.published_recorded, ?_, ?_⟩
          · exact fun evaluation hmem => hknows.1 evaluation (List.mem_filter.mp hmem).1
          · exact fun evaluation hmem => hknows.2 evaluation (List.mem_filter.mp hmem).1
      · cases hstep
  | markRecentExecutable route targets netSpread now =>
      cases hstep
      exact ⟨h.held.congr rfl, h.plannable, h.agrees, h.published_recorded, h.phase_knows⟩
  | endCycle =>
      cases hstep
      exact ⟨h.held, h.plannable, h.agrees, h.published_recorded, trivial⟩

theorem TargetsInvariant.start : TargetsInvariant config {} where
  held route held hget := by cases hget
  plannable evaluation hmem := absurd hmem List.not_mem_nil
  agrees _ _ := rfl
  published_recorded target hmem := by
    obtain ⟨route, _, hfunded⟩ := List.mem_flatMap.mp hmem
    exact absurd hfunded List.not_mem_nil
  phase_knows := trivial

/-- **What is published is synced.**  Wherever the engine waits, in whatever cycle and after
whatever syncs that raised, every token published for a funded route is one that the connector of
its venue was last synced to; and so is every token of an evaluation that the engine executes. -/
theorem published_targets_synced {hist : List EngineState}
    (hrun : Run (cycleStep config) anyAction {} hist s) :
    (∀ route ∈ config.fundedRoutes, ∀ venue token, (venue, token) ∈ s.funded route →
        config.hasClient venue = true ∧ token ∈ s.synced.connectors venue) ∧
      ∀ executed, s.phase = .evaluating executed → ∀ evaluation ∈ executed, ∀ venue token,
        (venue, token) ∈ evaluation.targets →
          config.hasClient venue = true ∧ token ∈ s.synced.connectors venue := by
  have h : TargetsInvariant config s := hrun.state_invariant (TargetsInvariant config) .start
    fun s _ s' hs _ hstep => hs.step hstep
  refine ⟨fun route hroute venue token hmem => ?_, fun executed hphase evaluation hmem venue token
    htarget => ?_⟩
  · obtain ⟨hplannable, _, hrecorded⟩ :=
      h.published_recorded (venue, token) (List.mem_flatMap.mpr ⟨route, hroute, hmem⟩)
    rw [h.agrees venue hplannable.client]
    exact ⟨hplannable.client, hrecorded⟩
  · have hknows := h.phase_knows
    rw [hphase] at hknows
    have hclient := (hknows.1 evaluation hmem _ htarget).client
    rw [h.agrees venue hclient]
    exact ⟨hclient, hknows.2 evaluation hmem _ htarget⟩

namespace MarketTargetExamples

/-- An engine with all clients and routers, funded on one route, with one evaluation at a time. -/
def engine : EngineConfig where
  windows := oneRouteConfig
  normalizeCategory := id
  routes _ := true
  hasExecution _ := true
  hasClient _ := true
  hasClient_polymarket := rfl
  fundedRoutes := ["polymarket_predict"]
  maxConcurrentMarketEvaluations := 1

/-- A market of Polymarket and Predict.fun with these tokens. -/
def listed (polymarketTokenId predictFunTokenId : String) : ListedMarket where
  symbol := "BTC"
  targetLabel := "a"
  polymarketTokenId := polymarketTokenId
  polymarketSide := .yes
  predictFunTokenId := predictFunTokenId
  predictFunSide := .no

/-- A whole cycle on a snapshot. -/
def wholeCycle (snapshot : Snapshot) : List CycleAction :=
  [.startCycle {}, .planCycle snapshot none false 0 5 {}, .publish {}, .execute fun _ => true]

/-- A cycle, then one on another snapshot in which the Predict.fun connector raises when it is to be
synced to both windows, then one in which nothing raises, up to its evaluations. -/
def threeCycles : List CycleAction :=
  wholeCycle ⟨0, [listed "p" "q"]⟩ ++ [.endCycle, .startCycle {},
    .planCycle ⟨1, [listed "r" "t"]⟩ none false 100 5 { raises := fun venue => venue = "Predict.fun" }]
    ++ wholeCycle ⟨1, [listed "r" "t"]⟩

/-- The targets of the evaluations that are executed. -/
def executedTargets (s : EngineState) : List Targets :=
  match s.phase with
  | .evaluating executed => executed.map (·.targets)
  | _ => []

/-- In the third cycle the new tokens are published and synced, and an evaluation of them runs. -/
theorem published_targets_synced_after_failure :
    ∃ s, exec (cycleStep engine) anyAction {} threeCycles = some s
      ∧ s.funded "polymarket_predict" = [("Polymarket", "r"), ("Predict.fun", "t")]
      ∧ executedTargets s = [[("Polymarket", "r"), ("Predict.fun", "t")]]
      ∧ "r" ∈ s.synced.connectors "Polymarket" ∧ "t" ∈ s.synced.connectors "Predict.fun" := by
  have hends : (exec (cycleStep engine) anyAction {} threeCycles).map (fun s =>
      (s.funded "polymarket_predict", executedTargets s)) =
        some ([("Polymarket", "r"), ("Predict.fun", "t")],
          [[("Polymarket", "r"), ("Predict.fun", "t")]]) := by decide +kernel
  obtain ⟨s, hs, hsummary⟩ := Option.map_eq_some_iff.mp hends
  obtain ⟨hist, hrun⟩ := Run.of_exec hs
  obtain ⟨hfunded, hexecuted⟩ := Prod.mk.inj hsummary
  have hsynced := (published_targets_synced hrun).1 "polymarket_predict" List.mem_cons_self
  rw [hfunded] at hsynced
  refine ⟨s, hs, hfunded, hexecuted, ?_, ?_⟩
  · exact (hsynced "Polymarket" "r" List.mem_cons_self).2
  · exact (hsynced "Predict.fun" "t" (List.mem_cons_of_mem _ List.mem_cons_self)).2

end MarketTargetExamples

end ArbitrageEngine.Engine
