/-
# ArbitrageEngine.Execution.PositionManager -- which router exits a position

`_route_for_position` is a cascade of tests on the two labels and on what is configured: the routes
whose first leg is not Polymarket come first, and a position whose own route is not available falls
through to the Polymarket route with its second venue.
-/
import ArbitrageEngine.Execution.Exits

namespace ArbitrageEngine.Execution

open Lib.Effect

/-- What the position manager is configured with.  The Polymarket client is always there; a router
is the one `main` builds for its route, with the clients of the two venues. -/
structure PositionManager where
  config : Config
  repository : Bool
  predictFun : Bool
  sxBet : Bool
  myriad : Bool
  opinion : Bool
  routers : ExecutionRoute → Bool

namespace PositionManager

variable (manager : PositionManager)

/-- The router of a route. -/
def router (route : ExecutionRoute) : Router := ⟨route, manager.repository⟩

/-- `_route_for_position`. -/
def routeForPosition (position : OpenPosition) : Option ExecutionRoute :=
  let a := position.market.venueALabel
  let b := position.market.venueBLabel
  if a = "Predict.fun" ∧ b = "Myriad" ∧ manager.myriad ∧ manager.predictFun ∧
      manager.routers .predictMyriad then some .predictMyriad
  else if a = "Predict.fun" ∧ b = "SX Bet" ∧ manager.predictFun ∧ manager.sxBet ∧
      manager.routers .predictSx then some .predictSx
  else if a = "SX Bet" ∧ b = "Myriad" ∧ manager.myriad ∧ manager.sxBet ∧
      manager.routers .sxMyriad then some .sxMyriad
  else if a = "Opinion" ∧ b = "Myriad" ∧ manager.opinion ∧ manager.myriad ∧
      manager.routers .opinionMyriad then some .opinionMyriad
  else if b = "Myriad" ∧ manager.myriad ∧ manager.routers .polymarketMyriad then
    some .polymarketMyriad
  else if b = "Opinion" ∧ manager.opinion ∧ a = "Predict.fun" ∧ manager.predictFun ∧
      manager.routers .predictOpinion then some .predictOpinion
  else if b = "Opinion" ∧ manager.opinion ∧ a = "SX Bet" ∧ manager.sxBet ∧
      manager.routers .sxOpinion then some .sxOpinion
  else if b = "Opinion" ∧ manager.opinion ∧ manager.routers .polymarketOpinion then
    some .polymarketOpinion
  else if manager.routers .polymarketPredict ∧ manager.predictFun ∧ b = "Predict.fun" then
    some .polymarketPredict
  else if manager.routers .polymarketSx ∧ manager.sxBet ∧ b = "SX Bet" then some .polymarketSx
  else none

/-- The body of the loop of `run_once`. -/
def managePosition (answers : PositionAnswers) (position : OpenPosition) : Effect Unit :=
  match manager.routeForPosition position with
  | none => pure ()
  | some route =>
      let router := manager.router route
      if position.status = "entry_pending" then pure ()
      else if position.status = "unwind_pending" then
        router.retryPendingUnwind manager.config answers position
      else if position.status = "partial_exit_pending" then
        router.retryPartialExit manager.config answers position
      else if position.status ≠ "open" then pure ()
      else if manager.config.autoCloseEnabled = false then pure ()
      else router.checkOpenPosition manager.config answers position

/-- The loop of `run_once`: an exception ends the round of its position. -/
def manageAll (answers : ℕ → PositionAnswers) (positions : List OpenPosition) : Effect Unit :=
  positions.zipIdx.forM fun (position, i) => do
    let _ ← attempt Exc.caught (manager.managePosition (answers i) position)

/-- `run_once`, without the settlement service. -/
def runOnce (answers : ℕ → PositionAnswers) : Effect Unit := do
  let w ← get
  manager.manageAll answers w.ledger.values

end PositionManager

end ArbitrageEngine.Execution
