/-
# ArbitrageEngine.Audit.RouteLegs -- what the audit and the preflight ask a connector about

The production audit previews both legs of a market with the connectors that the preflight of an
entry asks as well.  The audit reads the token, the side and the flags of a leg off the market as it
was discovered; the preflight reads them off the market that the engine relabelled for the
evaluation.  They ask about the same leg, with one exception: the `neg_risk` flag of a first leg at
Predict.fun.
-/
import ArbitrageEngine.Execution.ExitLeg
import ArbitrageEngine.Execution.PricedPreview
import ArbitrageEngine.Settlement.Addressing

namespace ArbitrageEngine.Audit

open Engine Settlement Execution Discovery

/-- The market of an evaluation with its flags: the routes from the second leg to Myriad move the
flag along with the token, the one from Opinion drops it. -/
def evaluatedMarket (market : FlaggedMarket) (route : ExecutionRoute)
    (tokens : String × String) : FlaggedMarket where
  toListedMarket := evaluationMarket market.toListedMarket route tokens
  negRisk :=
    match route with
    | .predictMyriad | .sxMyriad => market.predictFunNegRisk
    | .opinionMyriad => none
    | .polymarketMyriad | .polymarketPredict | .predictSx | .polymarketSx | .polymarketOpinion
    | .predictOpinion | .sxOpinion => market.negRisk
  predictFunNegRisk := market.predictFunNegRisk

/-! ## What is asked -/

/-- The arguments of `preview_buy` that say what is bought, and how it is signed. -/
structure LegAddress where
  tokenId : String
  side : BinarySide
  conditionId : Option String
  tickSize : Option String
  negRisk : Option Bool
deriving DecidableEq

/-- `_route_leg_venues`. -/
def routeLegVenue (route : ExecutionRoute) : Leg → String
  | .first => route.venueLabels.1
  | .second => route.venueLabels.2

/-- `MYRIAD_ROUTES`. -/
def isMyriadRoute : ExecutionRoute → Bool
  | .polymarketMyriad => true
  | route => isSecondLegToMyriad route

/-- `_token_for_route_leg`. -/
def tokenForRouteLeg (market : ListedMarket) (route : ExecutionRoute) : Leg → Option String
  | .first =>
      if isSecondLegToMyriad route then some market.predictFunTokenId
      else some market.polymarketTokenId
  | .second =>
      if isMyriadRoute route then
        (truthy market.myriadMarketId).map fun marketId => myriadExecutionToken market marketId route
      else some market.predictFunTokenId

/-- `_side_for_route_leg`. -/
def sideForRouteLeg (market : ListedMarket) (route : ExecutionRoute) : Leg → Option BinarySide
  | .first =>
      if isSecondLegToMyriad route then some market.predictFunSide else some market.polymarketSide
  | .second =>
      if isMyriadRoute route then
        (truthy market.myriadMarketId).map fun _ =>
          if route = .polymarketMyriad then market.myriadSide else market.predictFunSide.opposite
      else some market.predictFunSide

/-- `_condition_id_for_route_leg`. -/
def conditionIdForRouteLeg (market : ListedMarket) (route : ExecutionRoute) (leg : Leg) :
    Option String :=
  if routeLegVenue route leg = "Polymarket" then market.conditionId else none

/-- `_paired_preview_neg_risk`. -/
def pairedPreviewNegRisk (market : FlaggedMarket) (venue : String) (leg : Leg) : Option Bool :=
  if venue = "Polymarket" ∨ venue = "Predict.fun" then
    match leg with
    | .first => market.negRisk
    | .second => market.predictFunNegRisk
  else none

/-- What `_preview_leg` of the exact paired previews asks about; none is the error for a missing
side.  `tickSize` is the text of the tick size that the screening found. -/
def pairedPreviewAddress (market : FlaggedMarket) (route : ExecutionRoute)
    (tickSize : Option String) (leg : Leg) : Option LegAddress :=
  let venue := routeLegVenue route leg
  (sideForRouteLeg market.toListedMarket route leg).map fun side =>
    { tokenId := (tokenForRouteLeg market.toListedMarket route leg).getD ""
      side := side
      conditionId := truthy (conditionIdForRouteLeg market.toListedMarket route leg)
      tickSize := if venue = "Polymarket" then truthy tickSize else none
      negRisk := pairedPreviewNegRisk market venue leg }

/-- What `_preflight_price_guard` asks about, for the market of its signal. -/
def preflightAddress (router : Router) (market : FlaggedMarket) (tickSize : Option String)
    (leg : Leg) : LegAddress where
  tokenId := router.tokenId market.toMarketSpec leg
  side := router.side market.toMarketSpec leg
  conditionId := if router.label leg = "Polymarket" then market.conditionId else none
  tickSize := if router.label leg = "Polymarket" then tickSize else none
  negRisk :=
    if router.label leg = "Polymarket" then market.negRisk
    else if router.label leg = "Predict.fun" then market.predictFunNegRisk
    else none

/-! ## The two agree -/

/-- The same leg is asked about: an empty condition id counts as none. -/
structure SameLeg (audited asked : LegAddress) : Prop where
  tokenId : audited.tokenId = asked.tokenId
  side : audited.side = asked.side
  conditionId : truthy audited.conditionId = truthy asked.conditionId

theorem truthy_truthy (value : Option String) : truthy (truthy value) = truthy value := by
  cases value with
  | none => rfl
  | some text => by_cases h : text = "" <;> simp [truthy, h]

/-- A market that supports a route has a Myriad market where the route needs one. -/
theorem myriadMarketId_of_executionTokens {market : ListedMarket} {route : ExecutionRoute}
    {tokens : String × String} (hroute : isMyriadRoute route = true)
    (h : executionTokens market route = some tokens) :
    ∃ marketId, truthy market.myriadMarketId = some marketId := by
  cases route with
  | polymarketMyriad => exact (executionTokens_of_polymarketMyriad h).1
  | predictMyriad => exact (executionTokens_of_secondLeg rfl h).1
  | sxMyriad => exact (executionTokens_of_secondLeg rfl h).1
  | opinionMyriad => exact (executionTokens_of_secondLeg rfl h).1
  | polymarketPredict | predictSx | polymarketSx | polymarketOpinion | predictOpinion
  | sxOpinion => cases hroute

section Agreement

variable {market : ListedMarket} {route : ExecutionRoute} {tokens : String × String}
  (h : executionTokens market route = some tokens) (repository : Bool) (leg : Leg)
include h

/-- The tokens of an evaluation are those of the audit. -/
theorem tokenForRouteLeg_eq :
    tokenForRouteLeg market route leg =
      some ((Router.mk route repository).tokenId
        (evaluationMarket market route tokens).toMarketSpec leg) := by
  have hsecond := congrArg Prod.snd (evaluationMarket_legs h).2
  have hslots := @executionTokens_of_slots market route tokens
  cases leg with
  | first =>
      show _ = some (evaluationMarket market route tokens).polymarketTokenId
      cases route <;> rfl
  | second =>
      show _ = some (evaluationMarket market route tokens).predictFunTokenId
      dsimp only at hsecond
      rw [hsecond]
      cases route with
      | polymarketMyriad | predictMyriad | sxMyriad | opinionMyriad =>
          obtain ⟨marketId, hid, hsupported⟩ := Option.bind_eq_some_iff.mp h
          show (truthy market.myriadMarketId).map _ = _
          rw [hid]
          split at hsupported <;> cases hsupported
          rfl
      | polymarketPredict | predictSx | polymarketSx | polymarketOpinion | predictOpinion
      | sxOpinion =>
          obtain ⟨-, -, rfl⟩ := hslots rfl (fun heq => by cases heq) h
          rfl

/-- So are the sides. -/
theorem sideForRouteLeg_eq :
    sideForRouteLeg market route leg =
      some ((Router.mk route repository).side
        (evaluationMarket market route tokens).toMarketSpec leg) := by
  have hid := @myriadMarketId_of_executionTokens market route tokens
  cases leg with
  | first => cases route <;> rfl
  | second =>
      cases route with
      | polymarketMyriad | predictMyriad | sxMyriad | opinionMyriad =>
          obtain ⟨marketId, hid⟩ := hid rfl h
          show (truthy market.myriadMarketId).map _ = _
          rw [hid]
          rfl
      | polymarketPredict | predictSx | polymarketSx | polymarketOpinion | predictOpinion
      | sxOpinion => rfl

end Agreement

variable {market : FlaggedMarket} {route : ExecutionRoute} {tokens : String × String}

/-- The audit asks about the leg that the preflight asks about. -/
theorem exists_sameLeg (h : executionTokens market.toListedMarket route = some tokens)
    (repository : Bool) (screened tickSize : Option String) (leg : Leg) :
    ∃ audited, pairedPreviewAddress market route screened leg = some audited ∧
      SameLeg audited (preflightAddress ⟨route, repository⟩ (evaluatedMarket market route tokens)
        tickSize leg) := by
  have htoken := tokenForRouteLeg_eq h repository leg
  have hside := sideForRouteLeg_eq h repository leg
  unfold pairedPreviewAddress
  rw [hside, htoken]
  refine ⟨_, rfl, rfl, rfl, ?_⟩
  dsimp only
  rw [truthy_truthy]
  -- no route has Polymarket in the second place
  cases leg <;> cases route <;> rfl

/-- The flags agree too, but for a first leg at Predict.fun: there the audit passes the flag of the
first slot and the preflight that of the second. -/
theorem negRisk_eq {screened tickSize : Option String} {repository : Bool} {leg : Leg}
    {audited : LegAddress}
    (h : pairedPreviewAddress market route screened leg = some audited)
    (hfirst : leg = .first → routeLegVenue route .first ≠ "Predict.fun") :
    audited.negRisk = (preflightAddress ⟨route, repository⟩ (evaluatedMarket market route tokens)
      tickSize leg).negRisk := by
  obtain ⟨side, -, rfl⟩ := Option.map_eq_some_iff.mp h
  cases leg with
  | first =>
      have hfirst := hfirst rfl
      cases route with
      | predictMyriad | predictSx | predictOpinion => exact absurd rfl hfirst
      | polymarketMyriad | polymarketPredict | sxMyriad | polymarketSx | polymarketOpinion
      | sxOpinion | opinionMyriad => rfl
  | second => cases route <;> rfl

/-- **The audit and the preflight ask about the same leg**, on every route that the market supports:
the same token, side and condition id, and the same flag but for a first leg at Predict.fun. -/
theorem sameLeg (h : executionTokens market.toListedMarket route = some tokens)
    (repository : Bool) (screened tickSize : Option String) (leg : Leg) :
    ∃ audited, pairedPreviewAddress market route screened leg = some audited ∧
      SameLeg audited
        (preflightAddress ⟨route, repository⟩ (evaluatedMarket market route tokens) tickSize leg) ∧
      ((leg = .first → routeLegVenue route .first ≠ "Predict.fun") →
        audited.negRisk = (preflightAddress ⟨route, repository⟩
          (evaluatedMarket market route tokens) tickSize leg).negRisk) := by
  obtain ⟨audited, haudited, hsame⟩ := exists_sameLeg h repository screened tickSize leg
  exact ⟨audited, haudited, hsame, negRisk_eq haudited⟩

open AddressingExamples in
/-- At Myriad both ask about the outcome that the Predict.fun leg does not buy. -/
theorem sameLeg_predictMyriad :
    ∃ audited, pairedPreviewAddress ⟨threeVenues.toListedMarket, none, some true⟩ .predictMyriad
        none .second = some audited ∧
      SameLeg audited ⟨"m9:YES", .yes, none, none, none⟩ ∧ audited.negRisk = none := by
  have htokens : executionTokens threeVenues.toListedMarket .predictMyriad =
      some ("q", "m9:YES") := by decide +kernel
  obtain ⟨audited, haudited, hsame, hflag⟩ :=
    @sameLeg ⟨threeVenues.toListedMarket, none, some true⟩ _ _ htokens true none none .second
  exact ⟨audited, haudited, hsame, hflag fun hfirst => by cases hfirst⟩

end ArbitrageEngine.Audit
