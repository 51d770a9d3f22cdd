/-
# ArbitrageEngine.Engine.Windows -- which planned evaluations a cycle runs

Each cycle the engine shares its evaluation slots among the routes, by weight and up to a cap for
each route, and picks as many evaluations of a route as the route has slots.  A route holds a window
of evaluations for a while, so that their books stay subscribed; in the window, and when a new one
is built, evaluations whose targets were executable recently come first, and a rotating exploration
fills the rest.

The exploration leaves out the *targets* of the evaluations that come first, while the slots count
evaluations.  The evaluations of all routes are interleaved at the end, by a loop that runs until
every slot is used.
-/
import ArbitrageEngine.Lib.Dict
import ArbitrageEngine.Lib.Loops
import Mathlib.Algebra.Order.Ring.Rat
import Mathlib.Data.List.Sort
import Mathlib.Logic.Function.Basic

namespace ArbitrageEngine.Engine

open Lib.Loops

/-! ## Plans, configuration and state -/

/-- The venues and tokens an evaluation reads. -/
abbrev Targets : Type := List (String × String)

/-- `_PlannedEvaluation`; of the coroutine only its identity plays a role. -/
structure PlannedEvaluation where
  route : String
  run : ℕ
  targets : Targets
deriving DecidableEq

/-- `_ExecutableObservation`. -/
structure ExecutableObservation where
  observedAt : ℚ
  netSpread : ℚ
deriving DecidableEq

/-- What the configuration says for each route. -/
structure WindowConfig where
  marketEvaluationWeightFor : String → ℕ
  maxConcurrentMarketEvaluationsFor : String → ℕ
  marketDataPrefetchMultiplierFor : String → ℕ
  marketDataTargetHoldFor : String → ℚ
  marketDataExecutablePriorityFor : String → ℚ
  /-- `fraction < 1`. -/
  mixesExploration : String → Bool
  /-- `ceil(count * fraction)`, with the product of floats. -/
  explorationCeil : String → ℕ → ℤ
  weight_pos : ∀ route, 1 ≤ marketEvaluationWeightFor route
  cap_pos : ∀ route, 1 ≤ maxConcurrentMarketEvaluationsFor route
  prefetch_pos : ∀ route, 1 ≤ marketDataPrefetchMultiplierFor route
  /-- No fraction below 1 means a product that is not below the count. -/
  le_explorationCeil : ∀ (route : String) (count : ℕ), mixesExploration route = false →
    (count : ℤ) ≤ explorationCeil route count

/-- The state of the windows. -/
structure Windows where
  /-- `_planned_evaluations`. -/
  planned : List PlannedEvaluation := []
  evaluationCursors : Lib.Dict String ℕ := .empty
  activeEvaluationCursors : Lib.Dict String ℕ := .empty
  routeEvaluationCursor : ℕ := 0
  heldEvaluationKeys : Lib.Dict String (List Targets) := .empty
  heldEvaluations : Lib.Dict String (List PlannedEvaluation) := .empty
  windowExpiresAt : Lib.Dict String ℚ := .empty
  recentExecutable : Lib.Dict (String × Targets) ExecutableObservation := .empty
deriving DecidableEq

/-- The evaluations of a route, in the order of the plan. -/
def onRoute (evaluations : List PlannedEvaluation) (route : String) : List PlannedEvaluation :=
  evaluations.filter fun evaluation => evaluation.route = route

/-- The routes of a plan, in the order of their first evaluations. -/
def routesOf : List PlannedEvaluation → List String
  | [] => []
  | evaluation :: rest =>
      evaluation.route :: (routesOf rest).filter fun route => route ≠ evaluation.route

/-! ## Slots -/

/-- The slots given to each route, and how many. -/
structure Allocation where
  slotsByRoute : String → ℕ
  allocated : ℕ

/-- The inner loop: up to `weight` slots for one route. -/
def grantSlots (routeLimit count : ℕ) : (weight slots allocated : ℕ) → ℕ × ℕ
  | 0, slots, allocated => (slots, allocated)
  | weight + 1, slots, allocated =>
      if routeLimit ≤ slots then (slots, allocated)
      else if allocated + 1 = count then (slots + 1, allocated + 1)
      else grantSlots routeLimit count weight (slots + 1) (allocated + 1)

/-- The most slots a route can use. -/
def routeLimit (config : WindowConfig) (evaluations : List PlannedEvaluation) (route : String) : ℕ :=
  min (onRoute evaluations route).length (config.maxConcurrentMarketEvaluationsFor route)

/-- One pass over the routes. -/
def allocationPass (config : WindowConfig) (evaluations : List PlannedEvaluation) (count : ℕ) :
    List String → Allocation → Allocation
  | [], allocation => allocation
  | route :: rest, allocation =>
      let (slots, allocated) := grantSlots (routeLimit config evaluations route) count
        (config.marketEvaluationWeightFor route) (allocation.slotsByRoute route)
        allocation.allocated
      let next := ⟨Function.update allocation.slotsByRoute route slots, allocated⟩
      if allocated = count then next else allocationPass config evaluations count rest next

/-- Passes until all slots are given or a pass makes no progress. -/
def allocationStep (config : WindowConfig) (evaluations : List PlannedEvaluation) (count : ℕ)
    (routes : List String) (allocation : Allocation) : Allocation ⊕ Allocation :=
  if count ≤ allocation.allocated then .inr allocation
  else
    let next := allocationPass config evaluations count routes allocation
    if next.allocated = allocation.allocated then .inr next else .inl next

/-! ## Windows -/

/-- The loop of `_select_rotating_exploration` over the evaluations from the cursor on: what is
selected and how many are examined. -/
def explore (excluded : List Targets) : List PlannedEvaluation → ℕ → List PlannedEvaluation × ℕ
  | _, 0 => ([], 0)
  | [], _ => ([], 0)
  | evaluation :: rest, count + 1 =>
      if evaluation.targets ∈ excluded then
        let (selected, examined) := explore excluded rest (count + 1)
        (selected, examined + 1)
      else
        let (selected, examined) := explore excluded rest count
        (evaluation :: selected, examined + 1)

/-- The part of a window whose targets are not excluded. -/
def others (excluded : List Targets) (window : List PlannedEvaluation) : List PlannedEvaluation :=
  window.filter fun evaluation => evaluation.targets ∉ excluded

/-- `_select_rotating_exploration`, with the cursors after it. -/
def selectRotatingExploration (route : String) (evaluations : List PlannedEvaluation)
    (excluded : List Targets) (count : ℕ) (cursors : Lib.Dict String ℕ) :
    List PlannedEvaluation × Lib.Dict String ℕ :=
  if count = 0 ∨ evaluations = [] then ([], cursors)
  else
    let cursor := (cursors.get? route).getD 0 % evaluations.length
    let (selected, examined) :=
      explore excluded (evaluations.drop cursor ++ evaluations.take cursor) count
    (selected, cursors.set route ((cursor + examined) % evaluations.length))

/-- Were these targets executable within the priority time of the route? -/
def isRecent (config : WindowConfig) (s : Windows) (now : ℚ) (route : String)
    (targets : Targets) : Bool :=
  match s.recentExecutable.get? (route, targets) with
  | none => false
  | some observation =>
      0 < config.marketDataExecutablePriorityFor route ∧
        now - observation.observedAt ≤ config.marketDataExecutablePriorityFor route

/-- The sort of `_recent_executable_candidates`: greater spreads first, then later observations. -/
def comesFirst (s : Windows) (route : String) (a b : PlannedEvaluation) : Bool :=
  match s.recentExecutable.get? (route, a.targets), s.recentExecutable.get? (route, b.targets) with
  | some x, some y =>
      y.netSpread < x.netSpread ∨ y.netSpread = x.netSpread ∧ y.observedAt ≤ x.observedAt
  | _, _ => true

/-- `_recent_executable_candidates`. -/
def recentExecutableCandidates (config : WindowConfig) (s : Windows) (route : String)
    (evaluations : List PlannedEvaluation) (now : ℚ) : List PlannedEvaluation :=
  (evaluations.filter fun evaluation =>
    isRecent config s now route evaluation.targets).insertionSort fun a b => comesFirst s route a b

/-- `_exploration_count`. -/
def explorationCount (config : WindowConfig) (route : String) (count : ℕ) : ℕ :=
  let explorationLimit := if 1 < count ∧ config.mixesExploration route then count - 1 else count
  min explorationLimit (max 1 (config.explorationCeil route count)).toNat

/-- The evaluations that come first, in a choice of `count`. -/
def priority (config : WindowConfig) (s : Windows) (route : String)
    (evaluations : List PlannedEvaluation) (count : ℕ) (now : ℚ) : List PlannedEvaluation :=
  let recent := recentExecutableCandidates config s route evaluations now
  let reserveExploration : Bool := recent ≠ [] ∧ recent.length < evaluations.length
  let exploration := if reserveExploration then explorationCount config route count else 0
  recent.take (min recent.length (count - exploration))

/-- The common body of `_build_prioritized_route_window` and
`_select_prioritized_active_evaluations`, which differ in the cursors they use. -/
def prioritized (config : WindowConfig) (s : Windows) (route : String)
    (evaluations : List PlannedEvaluation) (count : ℕ) (now : ℚ) (cursors : Lib.Dict String ℕ) :
    List PlannedEvaluation × Lib.Dict String ℕ :=
  let first := priority config s route evaluations count now
  let (exploration, cursors) := selectRotatingExploration route evaluations
    (first.map PlannedEvaluation.targets) (count - first.length) cursors
  (first ++ exploration, cursors)

/-- `_build_prioritized_route_window`. -/
def buildPrioritizedRouteWindow (config : WindowConfig) (s : Windows) (route : String)
    (evaluations : List PlannedEvaluation) (count : ℕ) (now : ℚ) :
    List PlannedEvaluation × Windows :=
  let (held, cursors) := prioritized config s route evaluations count now s.evaluationCursors
  (held, { s with evaluationCursors := cursors })

/-- `_select_prioritized_active_evaluations`. -/
def selectPrioritizedActiveEvaluations (config : WindowConfig) (s : Windows) (route : String)
    (held : List PlannedEvaluation) (count : ℕ) (now : ℚ) : List PlannedEvaluation × Windows :=
  let (active, cursors) := prioritized config s route held count now s.activeEvaluationCursors
  (active, { s with activeEvaluationCursors := cursors })

/-- The evaluations with these targets, each evaluation taken once and the first of them first. -/
def matchKeys : List Targets → List PlannedEvaluation → Option (List PlannedEvaluation)
  | [], _ => some []
  | key :: keys, evaluations => do
      let matched ← evaluations.find? fun evaluation => evaluation.targets = key
      let rest ← matchKeys keys (evaluations.eraseP fun evaluation => evaluation.targets = key)
      pure (matched :: rest)

/-- A window whose size has changed is cut, or filled up by exploration; the window expires as
before.  A window that cannot be filled up is given up, with the cursors moved all the same. -/
def resizeWindow (route : String) (evaluations held : List PlannedEvaluation) (expectedCount : ℕ)
    (s : Windows) : Option (List PlannedEvaluation) × Windows :=
  if held.length = expectedCount then (some held, s)
  else
    let kept := held.take expectedCount
    let (added, cursors) := selectRotatingExploration route evaluations
      (kept.map PlannedEvaluation.targets) (expectedCount - kept.length) s.evaluationCursors
    let resized := kept ++ added
    let moved := { s with evaluationCursors := cursors }
    if resized.length ≠ expectedCount then (none, moved)
    else
      (some resized,
        { moved with
          heldEvaluationKeys :=
            s.heldEvaluationKeys.set route (resized.map PlannedEvaluation.targets) })

/-- `_restore_held_route_window`. -/
def restoreHeldRouteWindow (route : String) (evaluations : List PlannedEvaluation)
    (expectedCount : ℕ) (now : ℚ) (reuseCached : Bool) (s : Windows) :
    Option (List PlannedEvaluation) × Windows :=
  let keys := (s.heldEvaluationKeys.get? route).getD []
  if keys = [] ∨ (s.windowExpiresAt.get? route).getD 0 ≤ now then
    (none, { s with heldEvaluations := s.heldEvaluations.erase route })
  else
    let cached := if reuseCached then s.heldEvaluations.get? route else none
    match cached.or (matchKeys keys evaluations) with
    | none => (none, s)
    | some held =>
        match resizeWindow route evaluations held expectedCount s with
        | (none, moved) => (none, moved)
        | (some resized, moved) =>
            (some resized,
              if reuseCached then
                { moved with heldEvaluations := moved.heldEvaluations.set route resized }
              else moved)

/-- A new window of the route, held from now on. -/
def openWindow (config : WindowConfig) (route : String) (evaluations : List PlannedEvaluation)
    (prefetchCount : ℕ) (now : ℚ) (reuse : Bool) (s : Windows) :
    List PlannedEvaluation × Windows :=
  let (held, built) := buildPrioritizedRouteWindow config s route evaluations prefetchCount now
  (held,
    { built with
      heldEvaluationKeys :=
        built.heldEvaluationKeys.set route (held.map PlannedEvaluation.targets)
      heldEvaluations :=
        if reuse then built.heldEvaluations.set route held else built.heldEvaluations.erase route
      windowExpiresAt :=
        built.windowExpiresAt.set route (now + config.marketDataTargetHoldFor route)
      activeEvaluationCursors := built.activeEvaluationCursors.set route 0 })

/-! ## The selection -/

/-- What a route contributes. -/
structure RouteWindow where
  held : List PlannedEvaluation := []
  active : List PlannedEvaluation := []

/-- A route without slots forgets its window. -/
def closeWindow (route : String) (s : Windows) : Windows :=
  { s with
    heldEvaluationKeys := s.heldEvaluationKeys.erase route
    heldEvaluations := s.heldEvaluations.erase route
    windowExpiresAt := s.windowExpiresAt.erase route
    activeEvaluationCursors := s.activeEvaluationCursors.erase route }

/-- The window of a route with slots, restored or new. -/
def heldWindow (config : WindowConfig) (route : String) (evaluations : List PlannedEvaluation)
    (prefetchCount : ℕ) (now : ℚ) (reuse : Bool) (s : Windows) :
    List PlannedEvaluation × Windows :=
  match restoreHeldRouteWindow route evaluations prefetchCount now reuse s with
  | (some held, restored) => (held, restored)
  | (none, restored) => openWindow config route evaluations prefetchCount now reuse restored

/-- The body of the loop over the routes. -/
def routeWindow (config : WindowConfig) (evaluations : List PlannedEvaluation) (reuse : Bool)
    (activeCount : ℕ) (now : ℚ) (route : String) (s : Windows) : RouteWindow × Windows :=
  if activeCount = 0 then ({}, closeWindow route s)
  else
    let routeEvaluations := onRoute evaluations route
    let prefetchCount := min routeEvaluations.length
      (activeCount * config.marketDataPrefetchMultiplierFor route)
    let (held, opened) := heldWindow config route routeEvaluations prefetchCount now reuse s
    let (active, selected) :=
      selectPrioritizedActiveEvaluations config opened route held activeCount now
    (⟨held, active⟩, selected)

/-- The loop over the routes. -/
def routeWindows (config : WindowConfig) (evaluations : List PlannedEvaluation) (reuse : Bool)
    (slots : String → ℕ) (now : ℚ) : List String → Windows → (String → RouteWindow) × Windows
  | [], s => (fun _ => {}, s)
  | route :: rest, s =>
      let (window, s) := routeWindow config evaluations reuse (slots route) now route s
      let (windows, s) := routeWindows config evaluations reuse slots now rest s
      (Function.update windows route window, s)

/-- The accumulators of the interleaving loop. -/
structure Interleaving where
  active : List PlannedEvaluation
  consumedByRoute : String → ℕ

/-- One pass over the routes: the next evaluation of each. -/
def interleavePass (activeByRoute : String → List PlannedEvaluation) (allocated : ℕ) :
    List String → Interleaving → Interleaving
  | [], state => state
  | route :: rest, state =>
      match (activeByRoute route)[state.consumedByRoute route]? with
      | none => interleavePass activeByRoute allocated rest state
      | some evaluation =>
          let next : Interleaving :=
            ⟨state.active ++ [evaluation],
              Function.update state.consumedByRoute route (state.consumedByRoute route + 1)⟩
          if next.active.length = allocated then next
          else interleavePass activeByRoute allocated rest next

/-- The last loop: passes while slots are free. -/
def interleaveStep (activeByRoute : String → List PlannedEvaluation) (allocated : ℕ)
    (routes : List String) (state : Interleaving) : Interleaving ⊕ List PlannedEvaluation :=
  if state.active.length < allocated then .inl (interleavePass activeByRoute allocated routes state)
  else .inr state.active

/-- A plan without evaluations forgets everything but itself. -/
def clearWindows (s : Windows) : Windows := { planned := s.planned }

/-- The routes that are not in the plan are forgotten. -/
def forgetOtherRoutes (routes : List String) (s : Windows) : Windows :=
  { s with
    evaluationCursors := s.evaluationCursors.filter fun entry => entry.1 ∈ routes
    activeEvaluationCursors := s.activeEvaluationCursors.filter fun entry => entry.1 ∈ routes
    heldEvaluationKeys := s.heldEvaluationKeys.filter fun entry => entry.1 ∈ routes
    heldEvaluations := s.heldEvaluations.filter fun entry => entry.1 ∈ routes
    windowExpiresAt := s.windowExpiresAt.filter fun entry => entry.1 ∈ routes }

/-- Observations that are too old, or of nothing in the plan, are forgotten. -/
def pruneRecentExecutable (config : WindowConfig) (evaluations : List PlannedEvaluation) (now : ℚ)
    (s : Windows) : Windows :=
  { s with
    recentExecutable := s.recentExecutable.filter fun entry =>
      isRecent config s now entry.1.1 entry.1.2 ∧
        entry.1 ∈ evaluations.map fun evaluation => (evaluation.route, evaluation.targets) }

/-- The routes of a plan, from the route cursor on. -/
def orderedRoutes (evaluations : List PlannedEvaluation) (s : Windows) : List String :=
  let routes := routesOf evaluations
  let routeStart := s.routeEvaluationCursor % routes.length
  routes.drop routeStart ++ routes.take routeStart

/-- The state before the loop over the routes: the route cursor moves on, and what is outdated is
forgotten. -/
def prepareWindows (config : WindowConfig) (evaluations : List PlannedEvaluation) (now : ℚ)
    (s : Windows) : Windows :=
  let routes := routesOf evaluations
  let routeStart := s.routeEvaluationCursor % routes.length
  pruneRecentExecutable config evaluations now
    (forgetOtherRoutes routes { s with routeEvaluationCursor := (routeStart + 1) % routes.length })

/-- The result of `_select_evaluation_window`, with its local `allocated`. -/
structure Selection where
  active : List PlannedEvaluation
  targets : List PlannedEvaluation
  allocated : ℕ
deriving DecidableEq

/-- `_select_evaluation_window`; `reuse` says that the plan is the engine's own.  None stands for
too little fuel for one of the two loops. -/
def selectEvaluationWindow (config : WindowConfig) (fuel : ℕ)
    (evaluations : List PlannedEvaluation) (reuse : Bool) (limit : ℤ) (now : ℚ) (s : Windows) :
    Option (Selection × Windows) :=
  if evaluations = [] then some (⟨[], [], 0⟩, clearWindows s)
  else do
    let count := min (max 1 limit).toNat evaluations.length
    let ordered := orderedRoutes evaluations s
    let allocation ← loop (allocationStep config evaluations count ordered) fuel ⟨fun _ => 0, 0⟩
    let (windows, s) := routeWindows config evaluations reuse allocation.slotsByRoute now
      (routesOf evaluations) (prepareWindows config evaluations now s)
    let active ← loop (interleaveStep (fun route => (windows route).active) allocation.allocated
      ordered) fuel ⟨[], fun _ => 0⟩
    pure (⟨active, ordered.flatMap fun route => (windows route).held, allocation.allocated⟩, s)

/-! ## Histories -/

/-- What happens to the windows. -/
inductive Action
  /-- `_set_planned_evaluations` with a new plan. -/
  | setPlannedEvaluations (evaluations : List PlannedEvaluation)
  /-- `_mark_recent_executable`. -/
  | markRecentExecutable (route : String) (targets : Targets) (netSpread now : ℚ)
  /-- `_select_evaluation_window` of the engine's own plan. -/
  | selectPlanned (limit : ℤ) (now : ℚ) (fuel : ℕ)
  /-- `_select_evaluation_window` of another sequence. -/
  | selectOther (evaluations : List PlannedEvaluation) (limit : ℤ) (now : ℚ) (fuel : ℕ)

/-- `_set_planned_evaluations`: windows of the old plan are forgotten. -/
def setPlannedEvaluations (evaluations : List PlannedEvaluation) (s : Windows) : Windows :=
  { s with planned := evaluations, heldEvaluations := .empty }

/-- `_mark_recent_executable`. -/
def markRecentExecutable (route : String) (targets : Targets) (netSpread now : ℚ) (s : Windows) :
    Windows :=
  { s with recentExecutable := s.recentExecutable.set (route, targets) ⟨now, netSpread⟩ }

/-- One step of the history of the windows. -/
def step (config : WindowConfig) (s : Windows) : Action → Option Windows
  | .setPlannedEvaluations evaluations => some (setPlannedEvaluations evaluations s)
  | .markRecentExecutable route targets netSpread now =>
      some (markRecentExecutable route targets netSpread now s)
  | .selectPlanned limit now fuel =>
      (selectEvaluationWindow config fuel s.planned true limit now s).map Prod.snd
  | .selectOther evaluations limit now fuel =>
      (selectEvaluationWindow config fuel evaluations false limit now s).map Prod.snd

end ArbitrageEngine.Engine
