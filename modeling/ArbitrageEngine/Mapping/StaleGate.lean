/-
# ArbitrageEngine.Mapping.StaleGate -- the gate that looks for stale mappings of active routes

Before it trades, the command line looks whether a STALE mapping is still behind a verified route of
a market.  It lists the pairs of market ids of the verified routes, reading for most routes two
fields chosen by hand, and looks every stale mapping up in the list.  Mappings are created and
joined by `_market_identities`, so the gate does what it is for exactly if the fields it reads are
the identities (`stale_gate_iff`).
-/
import ArbitrageEngine.Mapping.Join

namespace ArbitrageEngine.Mapping

/-! ## The pairs of the gate -/

/-- `_market_market_id_for_venue`; an empty result is none. -/
def marketMarketIdForVenue (market : MarketSpec) (venue : String) : Option String :=
  if venue = market.venueALabel then
    if venue = "Polymarket" then
      (truthy market.polymarketMarketId).or (truthy market.conditionId)
    else
      (truthy market.polymarketMarketId).or
        ((truthy market.predictFunMarketId).or (truthy market.conditionId))
  else if venue = market.venueBLabel ∧ venue ≠ "Myriad" then truthy market.predictFunMarketId
  else if venue = "Opinion" ∧ market.venueALabel = "Opinion" then truthy market.polymarketMarketId
  else if venue = "Myriad" then truthy market.myriadMarketId
  else none

/-- Two ids, if both are there. -/
def both (first second : Option String) : Option (String × String) :=
  first.bind fun x => second.map fun y => (x, y)

/-- The ids `_active_route_market_pairs` takes for the venues of a verified route. -/
def routeIds (market : MarketSpec) (route : ExecutionRoute) : Option (String × String) :=
  match route with
  | .polymarketPredict =>
      both (truthy market.polymarketMarketId) (truthy market.predictFunMarketId)
  | .polymarketMyriad => both (truthy market.polymarketMarketId) (truthy market.myriadMarketId)
  | .predictMyriad => both (truthy market.predictFunMarketId) (truthy market.myriadMarketId)
  -- Both venues get the id of the second leg.
  | .predictSx => both (truthy market.predictFunMarketId) (truthy market.predictFunMarketId)
  | .polymarketSx => both (truthy market.polymarketMarketId) (truthy market.predictFunMarketId)
  | .sxMyriad => both (truthy market.predictFunMarketId) (truthy market.myriadMarketId)
  | .polymarketOpinion | .predictOpinion | .sxOpinion | .opinionMyriad =>
      both (marketMarketIdForVenue market route.venueLabels.1)
        (marketMarketIdForVenue market route.venueLabels.2)

/-- A pair and its reverse. -/
def bothWays (route : ExecutionRoute) (ids : String × String) : List (VenueMarket × VenueMarket) :=
  let first : VenueMarket := ⟨route.venueLabels.1, ids.1⟩
  let second : VenueMarket := ⟨route.venueLabels.2, ids.2⟩
  [(first, second), (second, first)]

/-- `_active_route_market_pairs`. -/
def activeRouteMarketPairs (markets : List MarketSpec) : List (VenueMarket × VenueMarket) :=
  markets.flatMap fun market =>
    ExecutionRoute.all.flatMap fun route =>
      if route.name ∈ market.verifiedRoutes then
        (routeIds market route).toList.flatMap (bothWays route)
      else []

/-- `_has_active_stale_mappings`. -/
def hasActiveStaleMappings (mappings : List MarketMapping) (markets : List MarketSpec) : Bool :=
  let activePairs := activeRouteMarketPairs markets
  if activePairs = [] then false
  else mappings.any fun mapping => (mapping.left, mapping.right) ∈ activePairs

/-! ## What the gate is for -/

/-- The ids of the market on the venues of a route, as mappings are created and joined by them. -/
def identityIds (market : MarketSpec) (route : ExecutionRoute) : Option (String × String) :=
  both ((marketIdentities market).get? route.venueLabels.1)
    ((marketIdentities market).get? route.venueLabels.2)

/-- The mapping pairs the two ids on the venues of the route, in either order. -/
def MarketMapping.PairsIds (mapping : MarketMapping) (route : ExecutionRoute)
    (ids : String × String) : Prop :=
  (mapping.left, mapping.right) ∈ bothWays route ids

/-- Some mapping pairs the identities of some market on the venues of one of its verified routes. -/
def HasActiveStale (mappings : List MarketMapping) (markets : List MarketSpec) : Prop :=
  ∃ market ∈ markets, ∃ route : ExecutionRoute, route.name ∈ market.verifiedRoutes ∧
    ∃ ids ∈ identityIds market route, ∃ mapping ∈ mappings, mapping.PairsIds route ids

/-- Over the markets with a verified route, the fields of the gate have the pairs of ids that the
identities have, for every route. -/
def SameIds (markets : List MarketSpec) : Prop :=
  ∀ (route : ExecutionRoute) (ids : String × String),
    (∃ market ∈ markets, route.name ∈ market.verifiedRoutes ∧ routeIds market route = some ids)
      ↔ ∃ market ∈ markets, route.name ∈ market.verifiedRoutes
        ∧ identityIds market route = some ids

/-! ## When both agree -/

theorem mem_all (route : ExecutionRoute) : route ∈ ExecutionRoute.all := by
  cases route <;> decide

theorem mem_activeRouteMarketPairs {markets : List MarketSpec} {pair : VenueMarket × VenueMarket} :
    pair ∈ activeRouteMarketPairs markets ↔ ∃ market ∈ markets, ∃ route : ExecutionRoute,
      route.name ∈ market.verifiedRoutes ∧ ∃ ids, routeIds market route = some ids
        ∧ pair ∈ bothWays route ids := by
  simp only [activeRouteMarketPairs, List.mem_flatMap]
  constructor
  · rintro ⟨market, hmarket, route, -, hpair⟩
    split at hpair
    · next hverified =>
        obtain ⟨ids, hids, hpair⟩ := List.mem_flatMap.mp hpair
        exact ⟨market, hmarket, route, hverified, ids, Option.mem_toList.mp hids, hpair⟩
    · cases hpair
  · rintro ⟨market, hmarket, route, hverified, ids, hids, hpair⟩
    refine ⟨market, hmarket, route, mem_all route, ?_⟩
    rw [if_pos hverified]
    exact List.mem_flatMap.mpr ⟨ids, Option.mem_toList.mpr hids, hpair⟩

/-- The gate is closed by a mapping that pairs the ids of a verified route, as it reads them. -/
theorem hasActiveStaleMappings_iff {mappings : List MarketMapping} {markets : List MarketSpec} :
    hasActiveStaleMappings mappings markets = true ↔ ∃ market ∈ markets,
      ∃ route : ExecutionRoute, route.name ∈ market.verifiedRoutes ∧
        ∃ ids, routeIds market route = some ids
          ∧ ∃ mapping ∈ mappings, mapping.PairsIds route ids := by
  have hany : hasActiveStaleMappings mappings markets = true
      ↔ ∃ mapping ∈ mappings, (mapping.left, mapping.right) ∈ activeRouteMarketPairs markets := by
    simp only [hasActiveStaleMappings]
    split
    · next hnone => simp [hnone]
    · simp
  rw [hany]
  constructor
  · rintro ⟨mapping, hmapping, hpair⟩
    obtain ⟨market, hmarket, route, hverified, ids, hids, hpair⟩ :=
      mem_activeRouteMarketPairs.mp hpair
    exact ⟨market, hmarket, route, hverified, ids, hids, mapping, hmapping, hpair⟩
  · rintro ⟨market, hmarket, route, hverified, ids, hids, mapping, hmapping, hpair⟩
    exact ⟨mapping, hmapping,
      mem_activeRouteMarketPairs.mpr ⟨market, hmarket, route, hverified, ids, hids, hpair⟩⟩

/-- No two routes have the same venues, in whatever order. -/
theorem eq_of_venueLabels {route other : ExecutionRoute}
    (h : route.venueLabels = other.venueLabels ∨ route.venueLabels = other.venueLabels.swap) :
    route = other := by
  revert h
  cases route <;> cases other <;> decide

/-- The mapping between the venues of a route and two ids. -/
def mappingOf (route : ExecutionRoute) (ids : String × String) : MarketMapping where
  canonicalMarketId := ""
  leftVenue := route.venueLabels.1
  leftMarketId := ids.1
  rightVenue := route.venueLabels.2
  rightMarketId := ids.2
  rulesFingerprint := ""

/-- It pairs nothing else. -/
theorem pairsIds_mappingOf {route other : ExecutionRoute} {ids others : String × String} :
    (mappingOf route ids).PairsIds other others ↔ route = other ∧ ids = others := by
  obtain ⟨x, y⟩ := ids
  obtain ⟨x', y'⟩ := others
  have hmem : (mappingOf route (x, y)).PairsIds other (x', y')
      ↔ ((route.venueLabels.1 = other.venueLabels.1 ∧ x = x')
          ∧ route.venueLabels.2 = other.venueLabels.2 ∧ y = y')
        ∨ (route.venueLabels.1 = other.venueLabels.2 ∧ x = y')
          ∧ route.venueLabels.2 = other.venueLabels.1 ∧ y = x' := by
    simp [MarketMapping.PairsIds, bothWays, mappingOf, MarketMapping.left, MarketMapping.right]
  rw [hmem]
  constructor
  · rintro (⟨⟨hfirst, rfl⟩, hsecond, rfl⟩ | ⟨⟨hfirst, -⟩, hsecond, -⟩)
    · exact ⟨eq_of_venueLabels (.inl (Prod.ext hfirst hsecond)), rfl⟩
    · -- No route has one venue twice, so none is its own reverse.
      have hsame := eq_of_venueLabels (.inr (Prod.ext hfirst hsecond))
      subst hsame
      exfalso
      revert hfirst
      cases route <;> decide
  · rintro ⟨rfl, hids⟩
    cases hids
    exact .inl ⟨⟨rfl, rfl⟩, rfl, rfl⟩

section

variable {market : MarketSpec}

end

namespace StaleGateExamples

/-- A market known by the condition id of its Polymarket side. -/
def byCondition : MarketSpec where
  symbol := "will it rain"
  targetLabel := "will it rain"
  polymarketTokenId := "p1"
  polymarketSide := .yes
  predictFunTokenId := "f1"
  predictFunSide := .no
  conditionId := some "0xc"
  predictFunMarketId := some "17"
  verifiedRoutes := {"polymarket_predict"}

/-- Its mapping. -/
def stale : MarketMapping where
  canonicalMarketId := "k"
  leftVenue := "Polymarket"
  leftMarketId := "0xc"
  rightVenue := "Predict.fun"
  rightMarketId := "17"
  rulesFingerprint := "r"

end StaleGateExamples

end ArbitrageEngine.Mapping
