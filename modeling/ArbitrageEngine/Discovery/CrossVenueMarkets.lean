/-
# ArbitrageEngine.Discovery.CrossVenueMarkets -- markets of two second legs

Discovery pairs every market with Polymarket.  Two of its markets that are about the same Polymarket
market give one between their second legs: `_synthesize_cross_venue_markets` takes a market of the
first family and the only one of the second family with the same match key and the opposite side,
and moves the second leg of the one into the first slot of the result, with its market id.
-/
import ArbitrageEngine.Engine.MarketTargets

namespace ArbitrageEngine.Discovery

open Engine

/-- `normalize_text` and `isoformat`. -/
structure MatchTexts where
  normalizeText : String → String
  isoformat : Time → String

/-- A market with the `neg_risk` flags of its two slots. -/
structure FlaggedMarket extends ListedMarket where
  negRisk : Option Bool := none
  predictFunNegRisk : Option Bool := none
deriving DecidableEq

section Synthesis

variable (texts : MatchTexts)

/-- `_cross_route_match_key`. -/
def crossRouteMatchKey (market : MarketSpec) : Option String :=
  match truthy market.polymarketMarketId, truthy market.conditionId with
  | some marketId, _ => some marketId
  | none, some conditionId => some conditionId
  | none, none =>
      let title := texts.normalizeText market.symbol
      if title = "" then none
      else some (title ++ ":" ++ (market.expiresAt.map texts.isoformat).getD "")

/-- The entry of `second_by_key` for the match key and the opposite of the side of a market. -/
def crossVenueMatches (secondFamily : List ListedMarket) (secondLabel : String)
    (first : ListedMarket) : List ListedMarket :=
  secondFamily.filter fun second =>
    second.venueBLabel = secondLabel ∧ second.predictFunTokenId ≠ "" ∧
      crossRouteMatchKey texts second.toMarketSpec ≠ none ∧
      crossRouteMatchKey texts second.toMarketSpec = crossRouteMatchKey texts first.toMarketSpec ∧
      second.predictFunSide = first.predictFunSide.opposite

/-- The market between the second legs of two markets. -/
def crossVenueMarket (firstLabel secondLabel route : String) (first second : ListedMarket) :
    ListedMarket :=
  { first with
    targetLabel := if second.targetLabel ≠ "" then second.targetLabel else first.targetLabel
    polymarketTokenId := first.predictFunTokenId
    polymarketSide := first.predictFunSide
    venueALabel := firstLabel
    venueBLabel := secondLabel
    conditionId := none
    polymarketMarketId := first.predictFunMarketId
    predictFunTokenId := second.predictFunTokenId
    predictFunSide := second.predictFunSide
    predictFunFeeRateBps := first.predictFunFeeRateBps
    predictFunMarketId := second.predictFunMarketId
    myriadMarketId := none
    verifiedRoutes := first.verifiedRoutes.filter (· = route) }

/-- One round of the loop over the first family: a market without a match, or with several, gives
nothing. -/
def synthesizeFrom (secondFamily : List ListedMarket) (firstLabel secondLabel route : String)
    (first : ListedMarket) : Option ListedMarket :=
  if first.venueBLabel ≠ firstLabel ∨ first.predictFunTokenId = "" then none
  else if crossRouteMatchKey texts first.toMarketSpec = none then none
  else
    match crossVenueMatches texts secondFamily secondLabel first with
    | [second] => some (crossVenueMarket firstLabel secondLabel route first second)
    | _ => none

/-- `_synthesize_cross_venue_markets`. -/
def synthesizeCrossVenueMarkets (firstFamily secondFamily : List ListedMarket)
    (firstLabel secondLabel route : String) : List ListedMarket :=
  firstFamily.filterMap (synthesizeFrom texts secondFamily firstLabel secondLabel route)

/-- The routes whose markets are synthesised. -/
def synthesizedRoutes : List ExecutionRoute := [.predictSx, .predictOpinion, .sxOpinion]

variable {texts}

/-- What a synthesised market is made of. -/
structure MadeOf (firstLabel secondLabel route : String) (first second market : ListedMarket) :
    Prop where
  first_label : first.venueBLabel = firstLabel
  second_label : second.venueBLabel = secondLabel
  tokens : first.predictFunTokenId ≠ "" ∧ second.predictFunTokenId ≠ ""
  sides : second.predictFunSide = first.predictFunSide.opposite
  market_eq : market = crossVenueMarket firstLabel secondLabel route first second

/-- A synthesised market is made of a market and its only match. -/
theorem madeOf_of_synthesizeFrom {secondFamily : List ListedMarket}
    {firstLabel secondLabel route : String} {first market : ListedMarket}
    (h : synthesizeFrom texts secondFamily firstLabel secondLabel route first = some market) :
    ∃ second ∈ secondFamily, crossVenueMatches texts secondFamily secondLabel first = [second] ∧
      MadeOf firstLabel secondLabel route first second market := by
  unfold synthesizeFrom at h
  split at h
  · cases h
  · next hfirst =>
      split at h
      · cases h
      · split at h
        · next second hmatches =>
            cases h
            have hmem : second ∈ crossVenueMatches texts secondFamily secondLabel first := by
              rw [hmatches]
              exact List.mem_singleton_self second
            obtain ⟨hfamily, hsecond⟩ := List.mem_filter.mp hmem
            have hsecond := of_decide_eq_true hsecond
            have hlabel : first.venueBLabel = firstLabel := by
              by_contra hne
              exact hfirst (Or.inl hne)
            have htoken : first.predictFunTokenId ≠ "" := fun hnone => hfirst (Or.inr hnone)
            exact ⟨second, hfamily, hmatches, hlabel, hsecond.1, ⟨htoken, hsecond.2.1⟩,
              hsecond.2.2.2.2, rfl⟩
        · cases h

end Synthesis

end ArbitrageEngine.Discovery
