/-
# ArbitrageEngine.Routes -- the execution routes and their names

A route is a pair of venues with a name.  The engine knows ten of them; a mapping between other
venues still gets a name, made of the two lower-cased labels.
-/
import ArbitrageEngine.Models

namespace ArbitrageEngine

/-- `EXECUTION_ROUTES`. -/
inductive ExecutionRoute
  | polymarketMyriad
  | polymarketPredict
  | predictMyriad
  | predictSx
  | polymarketSx
  | sxMyriad
  | polymarketOpinion
  | predictOpinion
  | sxOpinion
  | opinionMyriad
deriving DecidableEq, Repr

namespace ExecutionRoute

/-- The routes in the order of the tuple. -/
def all : List ExecutionRoute :=
  [polymarketMyriad, polymarketPredict, predictMyriad, predictSx, polymarketSx, sxMyriad,
    polymarketOpinion, predictOpinion, sxOpinion, opinionMyriad]

/-- The name of a route. -/
def name : ExecutionRoute → String
  | polymarketMyriad => "polymarket_myriad"
  | polymarketPredict => "polymarket_predict"
  | predictMyriad => "predict_myriad"
  | predictSx => "predict_sx"
  | polymarketSx => "polymarket_sx"
  | sxMyriad => "sx_myriad"
  | polymarketOpinion => "polymarket_opinion"
  | predictOpinion => "predict_opinion"
  | sxOpinion => "sx_opinion"
  | opinionMyriad => "opinion_myriad"

/-- `route_venue_labels`: the labels of the first and the second leg. -/
def venueLabels : ExecutionRoute → String × String
  | polymarketMyriad => ("Polymarket", "Myriad")
  | polymarketPredict => ("Polymarket", "Predict.fun")
  | predictMyriad => ("Predict.fun", "Myriad")
  | predictSx => ("Predict.fun", "SX Bet")
  | polymarketSx => ("Polymarket", "SX Bet")
  | sxMyriad => ("SX Bet", "Myriad")
  | polymarketOpinion => ("Polymarket", "Opinion")
  | predictOpinion => ("Predict.fun", "Opinion")
  | sxOpinion => ("SX Bet", "Opinion")
  | opinionMyriad => ("Opinion", "Myriad")

end ExecutionRoute

/-! ## Names of venue pairs -/

/-- The `aliases` of `_route_name`; another label is lower-cased.  What `str.lower` does to a
character plays no role, so it is a parameter. -/
def venueAlias (lower : String → String) (venue : String) : String :=
  if venue = "Polymarket" then "polymarket"
  else if venue = "Predict.fun" then "predict"
  else if venue = "SX Bet" then "sx"
  else if venue = "Myriad" then "myriad"
  else if venue = "Opinion" then "opinion"
  else lower venue

/-- `_route_name`: the execution route of the two venues in either order, or their joined names. -/
def routeName (lower : String → String) (leftVenue rightVenue : String) : String :=
  let left := venueAlias lower leftVenue
  let right := venueAlias lower rightVenue
  let preferred := ExecutionRoute.all.find? fun route =>
    let a := venueAlias lower route.venueLabels.1
    let b := venueAlias lower route.venueLabels.2
    (a = left ∧ b = right) ∨ (a = right ∧ b = left)
  match preferred with
  | some route => route.name
  | none => left ++ "_" ++ right

end ArbitrageEngine
