/-
# ArbitrageEngine.Discovery.SynthesizedOrders -- what a synthesised market buys

The market between two second legs has the first of them in the fields of the Polymarket leg.  Both
connectors know their leg from the market that listed it, and are told about it again by the
synthesised one; execution passes the token, the side and the `neg_risk` flag of the slot.  For a
first leg at Predict.fun it passes the flag of the second slot, which is the one of the other leg.

A market of the first family with several partners is dropped.  One of the second family is not: it
gives a market with each of its partners that has no other.
-/
import ArbitrageEngine.Audit.RouteLegs
import ArbitrageEngine.Discovery.Deduplication

namespace ArbitrageEngine.Discovery

open Engine Execution Audit

/-! ## The synthesis -/

section Synthesis

variable (texts : MatchTexts) (route : ExecutionRoute)

/-- The market between the second legs of two markets, with everything that discovery writes. -/
def synthesizedMarket (first second : CataloguedMarket) : CataloguedMarket where
  toListedMarket :=
    crossVenueMarket route.venueLabels.1 route.venueLabels.2 route.name first.toListedMarket
      second.toListedMarket
  negRisk := first.predictFunNegRisk
  predictFunNegRisk := second.predictFunNegRisk
  polymarketUrl := first.predictFunUrl
  tickSize := none
  predictFunPricePrecision := first.predictFunPricePrecision
  predictFunUrl := second.predictFunUrl
  myriadConditionId := first.myriadConditionId
  myriadUrl := none
  polymarketVolumeUsd := first.predictFunVolumeUsd
  predictFunVolumeUsd := second.predictFunVolumeUsd
  myriadVolumeUsd := none

/-- Two markets are partners: they have a second leg at the two venues each, the same match key and
opposite sides. -/
def Partners (first second : CataloguedMarket) : Prop :=
  first.venueBLabel = route.venueLabels.1 ∧ first.predictFunTokenId ≠ "" ∧
    second.venueBLabel = route.venueLabels.2 ∧ second.predictFunTokenId ≠ "" ∧
    crossRouteMatchKey texts second.toMarketSpec ≠ none ∧
    crossRouteMatchKey texts second.toMarketSpec = crossRouteMatchKey texts first.toMarketSpec ∧
    second.predictFunSide = first.predictFunSide.opposite

instance (first second : CataloguedMarket) : Decidable (Partners texts route first second) := by
  unfold Partners; infer_instance

/-- The partners of a market of the first family. -/
def partnersOf (secondFamily : List CataloguedMarket) (first : CataloguedMarket) :
    List CataloguedMarket :=
  secondFamily.filter fun second => Partners texts route first second

/-- The partners of a market of the second family. -/
def partnersTo (firstFamily : List CataloguedMarket) (second : CataloguedMarket) :
    List CataloguedMarket :=
  firstFamily.filter fun first => Partners texts route first second

/-- One round of the loop of `_synthesize_cross_venue_markets`, for the labels of a route. -/
def synthesizeMarket (secondFamily : List CataloguedMarket) (first : CataloguedMarket) :
    Option CataloguedMarket :=
  match partnersOf texts route secondFamily first with
  | [second] => some (synthesizedMarket route first second)
  | _ => none

/-- `_synthesize_cross_venue_markets`, for the labels of a route. -/
def synthesizeMarkets (firstFamily secondFamily : List CataloguedMarket) : List CataloguedMarket :=
  firstFamily.filterMap (synthesizeMarket texts route secondFamily)

end Synthesis

/-! ## What the connectors know -/

/-- The identifiers that `register_market` writes at the two connectors that have it. -/
structure Registrations where
  /-- `_market_identifiers` of Predict.fun. -/
  predictFun : String → Option (String × BinarySide) := fun _ => none
  /-- `_token_fee_rate_bps`. -/
  feeRateBps : String → Option ℤ := fun _ => none
  /-- `_token_price_precision`. -/
  pricePrecision : String → Option ℤ := fun _ => none
  /-- `_market_identifiers` of SX Bet. -/
  sxBet : String → Option (String × BinarySide) := fun _ => none

/-- `register_market` of Predict.fun. -/
def registerPredictFun (tokenId : String) (marketId : Option String) (side : BinarySide)
    (feeRateBps pricePrecision : Option ℤ) (known : Registrations) : Registrations :=
  match truthy marketId with
  | none => known
  | some id =>
      if tokenId = "" then known
      else
        { known with
          predictFun := Function.update known.predictFun tokenId (some (id, side))
          feeRateBps := Function.update known.feeRateBps tokenId feeRateBps
          pricePrecision := Function.update known.pricePrecision tokenId
            (pricePrecision.filter fun precision => 0 ≤ precision ∧ precision ≤ 18) }

/-- `register_market` of SX Bet; the internal token of the other outcome is left out. -/
def registerSxBet (tokenId : String) (marketHash : Option String) (side : BinarySide)
    (known : Registrations) : Registrations :=
  match truthy marketHash with
  | none => known
  | some hash =>
      if tokenId = "" then known
      else { known with sxBet := Function.update known.sxBet tokenId (some (hash, side)) }

/-- One round of `register_second_leg_markets`. -/
def registerSecondLeg (known : Registrations) (market : CataloguedMarket) : Registrations :=
  let known :=
    if market.venueALabel = "Predict.fun" then
      registerPredictFun market.polymarketTokenId market.polymarketMarketId market.polymarketSide
        market.predictFunFeeRateBps market.predictFunPricePrecision known
    else known
  let known :=
    if market.venueBLabel = "Predict.fun" then
      registerPredictFun market.predictFunTokenId market.predictFunMarketId market.predictFunSide
        market.predictFunFeeRateBps market.predictFunPricePrecision known
    else known
  if market.venueBLabel = "SX Bet" then
    registerSxBet market.predictFunTokenId market.predictFunMarketId market.predictFunSide known
  else known

instance : Nonempty Registrations := ⟨{}⟩

/-! ## What is sent -/

/-- The arguments of `_submit_entry_leg` in `_execute_production` that say what is bought. -/
def entryAddress (router : Router) (market : CataloguedMarket) : Leg → LegAddress
  | .first => preflightAddress router market.toFlaggedMarket market.tickSize .first
  | .second =>
      { preflightAddress router market.toFlaggedMarket market.tickSize .second with
        conditionId := none }

/-- A purchase, as far as it says what is bought. -/
structure SentOrder where
  venue : String
  tokenId : String
  side : BinarySide
  marketId : Option String := none
  negRisk : Option Bool := none
  feeRateBps : Option ℤ := none
deriving DecidableEq

/-- The order of a connector with a second leg; none where it refuses.  Predict.fun signs the token,
for the exchange that `bool(neg_risk)` names; SX Bet signs the market and the side; Opinion reads
the market off the token. -/
def sentOrder (known : Registrations) (venue : String) (asked : LegAddress) : Option SentOrder :=
  if venue = "Predict.fun" then
    match known.predictFun asked.tokenId, known.feeRateBps asked.tokenId,
      known.pricePrecision asked.tokenId with
    | some (marketId, _), some fee, some _ =>
        some
          { venue := venue
            tokenId := asked.tokenId
            side := asked.side
            marketId := some marketId
            negRisk := some (asked.negRisk.getD false)
            feeRateBps := some fee }
    | _, _, _ => none
  else if venue = "SX Bet" then
    (known.sxBet asked.tokenId).bind fun (marketHash, registeredSide) =>
      if registeredSide = asked.side then
        some
          { venue := venue
            tokenId := asked.tokenId
            side := asked.side
            marketId := some marketHash }
      else none
  else if venue = "Opinion" then
    some
      { venue := venue
        tokenId := asked.tokenId
        side := asked.side }
  else none

/-- The route between Polymarket and a venue, on which a market lists its second leg there. -/
def listingRoute (venue : String) : ExecutionRoute :=
  if venue = "Predict.fun" then .polymarketPredict
  else if venue = "SX Bet" then .polymarketSx
  else .polymarketOpinion

/-- The order of the second leg of a market that lists it. -/
def listedOrder (known : Registrations) (repository : Bool) (source : CataloguedMarket) :
    Option SentOrder :=
  sentOrder known source.venueBLabel
    (entryAddress ⟨listingRoute source.venueBLabel, repository⟩ source .second)

/-- The market that lists a leg of a synthesised one. -/
def sourceOf (first second : CataloguedMarket) : Leg → CataloguedMarket
  | .first => first
  | .second => second

/-- The legs of a synthesised market are bought, and previewed, as the markets that list them buy
them, whatever the connectors knew before they heard of the three, and are complementary. -/
structure BuysAsListed (route : ExecutionRoute) (first second market : CataloguedMarket) :
    Prop where
  orders : ∀ (known : Registrations) (repository : Bool) (leg : Leg),
    let listed := registerSecondLeg (registerSecondLeg known first) second
    sentOrder (registerSecondLeg listed market) ((Router.mk route repository).label leg)
        (entryAddress ⟨route, repository⟩ market leg) =
      listedOrder listed repository (sourceOf first second leg)
  previews : ∀ (known : Registrations) (repository : Bool) (tickSize : Option String) (leg : Leg),
    let listed := registerSecondLeg (registerSecondLeg known first) second
    sentOrder (registerSecondLeg listed market) ((Router.mk route repository).label leg)
        (preflightAddress ⟨route, repository⟩ market.toFlaggedMarket tickSize leg) =
      listedOrder listed repository (sourceOf first second leg)
  complementary : market.predictFunSide = market.polymarketSide.opposite

/-- The synthesis joins two markets into a third. -/
structure Joins (texts : MatchTexts) (route : ExecutionRoute)
    (secondFamily : List CataloguedMarket) (first second market : CataloguedMarket) : Prop where
  partner : partnersOf texts route secondFamily first = [second]
  made : synthesizeMarket texts route secondFamily first = some market

/-- What is asked of the synthesis of two families. -/
structure SynthesisSound (texts : MatchTexts) (route : ExecutionRoute)
    (firstFamily secondFamily : List CataloguedMarket) : Prop where
  joined : ∀ first ∈ firstFamily, ∀ second market,
    Joins texts route secondFamily first second market → BuysAsListed route first second market
  firstPartners : ∀ first ∈ firstFamily, 1 < (partnersOf texts route secondFamily first).length →
    ∀ second market, ¬ Joins texts route secondFamily first second market
  secondPartners : ∀ second ∈ secondFamily,
    1 < (partnersTo texts route firstFamily second).length →
      ∀ first ∈ firstFamily, ∀ market, ¬ Joins texts route secondFamily first second market

/-! ## The registrations -/

theorem registerPredictFun_idem (tokenId : String) (marketId : Option String) (side : BinarySide)
    (fee precision : Option ℤ) (known : Registrations) :
    registerPredictFun tokenId marketId side fee precision
        (registerPredictFun tokenId marketId side fee precision known) =
      registerPredictFun tokenId marketId side fee precision known := by
  unfold registerPredictFun
  cases truthy marketId with
  | none => rfl
  | some id =>
      by_cases htoken : tokenId = ""
      · simp [htoken]
      · simp [htoken]

theorem registerSxBet_idem (tokenId : String) (marketHash : Option String) (side : BinarySide)
    (known : Registrations) :
    registerSxBet tokenId marketHash side (registerSxBet tokenId marketHash side known) =
      registerSxBet tokenId marketHash side known := by
  unfold registerSxBet
  cases truthy marketHash with
  | none => rfl
  | some hash =>
      by_cases htoken : tokenId = ""
      · simp [htoken]
      · simp [htoken]

theorem registerPredictFun_registerSxBet (token other : String)
    (marketId marketHash : Option String) (side otherSide : BinarySide) (fee precision : Option ℤ)
    (known : Registrations) :
    registerPredictFun token marketId side fee precision
        (registerSxBet other marketHash otherSide known) =
      registerSxBet other marketHash otherSide
        (registerPredictFun token marketId side fee precision known) := by
  unfold registerPredictFun registerSxBet
  cases truthy marketId <;> cases truthy marketHash <;> by_cases token = "" <;>
    by_cases other = "" <;> simp_all

variable {texts : MatchTexts} {route : ExecutionRoute} {first second : CataloguedMarket}

/-- The families are anchored on Polymarket. -/
def Anchored (market : CataloguedMarket) : Prop := market.venueALabel = "Polymarket"

/-- A synthesised market tells the connectors what they have been told by the markets it is made
of. -/
theorem registerSecondLeg_synthesizedMarket (hroute : route ∈ synthesizedRoutes)
    (hpartners : Partners texts route first second) (hfirst : Anchored first)
    (hsecond : Anchored second) (known : Registrations) :
    let listed := registerSecondLeg (registerSecondLeg known first) second
    registerSecondLeg listed (synthesizedMarket route first second) = listed := by
  obtain ⟨hfirstLabel, -, hsecondLabel, -⟩ := hpartners
  unfold Anchored at hfirst hsecond
  simp only [synthesizedRoutes, List.mem_cons, List.not_mem_nil, or_false] at hroute
  rcases hroute with rfl | rfl | rfl
  · simp only [ExecutionRoute.venueLabels] at hfirstLabel hsecondLabel
    simp [registerSecondLeg, synthesizedMarket, crossVenueMarket, hfirst, hsecond, hfirstLabel,
      hsecondLabel, ExecutionRoute.venueLabels, registerPredictFun_registerSxBet,
      registerPredictFun_idem, registerSxBet_idem]
  · simp only [ExecutionRoute.venueLabels] at hfirstLabel hsecondLabel
    simp [registerSecondLeg, synthesizedMarket, crossVenueMarket, hfirst, hsecond, hfirstLabel,
      hsecondLabel, ExecutionRoute.venueLabels, registerPredictFun_idem]
  · simp only [ExecutionRoute.venueLabels] at hfirstLabel hsecondLabel
    simp [registerSecondLeg, synthesizedMarket, crossVenueMarket, hfirst, hsecond, hfirstLabel,
      hsecondLabel, ExecutionRoute.venueLabels]

/-! ## The orders -/

/-- Predict.fun refuses an order: it knows too little of the token. -/
def Refused (known : Registrations) (tokenId : String) : Prop :=
  known.predictFun tokenId = none ∨ known.feeRateBps tokenId = none ∨
    known.pricePrecision tokenId = none

/-- Two orders of a token at Predict.fun that may differ in the flag. -/
theorem sentOrder_negRisk_iff (known : Registrations) (tokenId : String) (side : BinarySide)
    (negRisk other : Option Bool) :
    sentOrder known "Predict.fun" ⟨tokenId, side, none, none, negRisk⟩ =
        sentOrder known "Predict.fun" ⟨tokenId, side, none, none, other⟩ ↔
      Refused known tokenId ∨ negRisk.getD false = other.getD false := by
  unfold sentOrder Refused
  rw [if_pos rfl, if_pos rfl]
  dsimp only
  cases known.predictFun tokenId with
  | none => simp
  | some identity =>
      cases known.feeRateBps tokenId with
      | none => simp
      | some fee =>
          cases known.pricePrecision tokenId with
          | none => simp
          | some precision => simp

/-- The Predict.fun market lists an id, but no fee rate or no price precision that can be used: its
orders are refused. -/
def NeverSent (market : CataloguedMarket) : Prop :=
  truthy market.predictFunMarketId ≠ none ∧
    (market.predictFunFeeRateBps = none ∨
      (market.predictFunPricePrecision.filter fun precision => 0 ≤ precision ∧ precision ≤ 18) =
        none)

/-- The `neg_risk` flag that the first leg is bought with is the one that was listed with it. -/
def FlagsAgree (route : ExecutionRoute) (first second : CataloguedMarket) : Prop :=
  route.venueLabels.1 = "Predict.fun" →
    NeverSent first ∨ first.predictFunNegRisk.getD false = second.predictFunNegRisk.getD false

theorem refused_registerSxBet {tokenId : String} {marketHash : Option String} {side : BinarySide}
    {known : Registrations} {other : String} :
    Refused (registerSxBet tokenId marketHash side known) other ↔ Refused known other := by
  unfold registerSxBet
  cases truthy marketHash with
  | none => rfl
  | some hash =>
      by_cases htoken : tokenId = ""
      · simp [htoken]
      · simp only [if_neg htoken]
        rfl

/-- What Predict.fun knows of the token of a market that has just been listed. -/
theorem refused_listed_iff (hroute : route ∈ synthesizedRoutes)
    (hpredict : route.venueLabels.1 = "Predict.fun") (hpartners : Partners texts route first second)
    (hfirst : Anchored first) (hsecond : Anchored second) :
    (∀ known : Registrations, Refused (registerSecondLeg (registerSecondLeg known first) second)
      first.predictFunTokenId) ↔ NeverSent first := by
  obtain ⟨hfirstLabel, htoken, hsecondLabel, -⟩ := hpartners
  unfold Anchored at hfirst hsecond
  rw [hpredict] at hfirstLabel
  have hother : second.venueBLabel ≠ "Predict.fun" := by
    rw [hsecondLabel]
    simp only [synthesizedRoutes, List.mem_cons, List.not_mem_nil, or_false] at hroute
    rcases hroute with rfl | rfl | rfl <;> decide
  -- the second market is not at Predict.fun
  have hlisted : ∀ known tokenId,
      Refused (registerSecondLeg (registerSecondLeg known first) second) tokenId ↔
        Refused (registerPredictFun first.predictFunTokenId first.predictFunMarketId
          first.predictFunSide first.predictFunFeeRateBps first.predictFunPricePrecision known)
          tokenId := by
    intro known tokenId
    by_cases hsx : second.venueBLabel = "SX Bet"
    · simp [registerSecondLeg, hfirst, hfirstLabel, hsecond, hsx, refused_registerSxBet]
    · simp [registerSecondLeg, hfirst, hfirstLabel, hsecond, hother, hsx]
  simp only [hlisted]
  unfold registerPredictFun NeverSent
  cases hid : truthy first.predictFunMarketId with
  | none =>
      constructor
      · intro hall
        have hknown := hall
          ⟨fun _ => some ("", .yes), fun _ => some 0, fun _ => some 0, fun _ => none⟩
        simp [Refused] at hknown
      · rintro ⟨hne, -⟩
        exact absurd rfl hne
  | some id => simp [Refused, htoken]

/-- The preview of a leg asks about what is bought. -/
theorem entryAddress_synthesizedMarket (hroute : route ∈ synthesizedRoutes) (repository : Bool)
    (tickSize : Option String) (leg : Leg) :
    entryAddress ⟨route, repository⟩ (synthesizedMarket route first second) leg =
      preflightAddress ⟨route, repository⟩ (synthesizedMarket route first second).toFlaggedMarket
        tickSize leg := by
  simp only [synthesizedRoutes, List.mem_cons, List.not_mem_nil, or_false] at hroute
  rcases hroute with rfl | rfl | rfl <;> cases leg <;> rfl

/-- Both markets ask for a leg in the same way, but for the flag of one at Predict.fun. -/
theorem sentOrder_leg_iff (hroute : route ∈ synthesizedRoutes)
    (hfirst : first.venueBLabel = route.venueLabels.1)
    (hsecond : second.venueBLabel = route.venueLabels.2) (known : Registrations)
    (repository : Bool) (leg : Leg) :
    sentOrder known ((Router.mk route repository).label leg)
        (entryAddress ⟨route, repository⟩ (synthesizedMarket route first second) leg) =
      listedOrder known repository (sourceOf first second leg) ↔
        (leg = .first → route.venueLabels.1 = "Predict.fun" →
          Refused known first.predictFunTokenId ∨
            second.predictFunNegRisk.getD false = first.predictFunNegRisk.getD false) := by
  unfold listedOrder
  simp only [synthesizedRoutes, List.mem_cons, List.not_mem_nil, or_false] at hroute
  cases leg with
  | second =>
      dsimp only [sourceOf]
      rw [hsecond]
      constructor
      · intro _ hfalse
        cases hfalse
      · intro _
        rcases hroute with rfl | rfl | rfl <;> rfl
  | first =>
      dsimp only [sourceOf]
      rw [hfirst]
      rcases hroute with rfl | rfl | rfl
      · exact (sentOrder_negRisk_iff known _ _ _ _).trans
          ⟨fun h _ _ => h, fun h => h rfl rfl⟩
      · exact (sentOrder_negRisk_iff known _ _ _ _).trans
          ⟨fun h _ _ => h, fun h => h rfl rfl⟩
      · constructor
        · intro _ _ hfalse
          exact absurd hfalse (by decide)
        · intro _
          rfl

/-- **What a synthesised market buys**: its legs as they are listed, unless the first is at
Predict.fun and the flags differ. -/
theorem buysAsListed_iff (hroute : route ∈ synthesizedRoutes)
    (hpartners : Partners texts route first second) (hfirst : Anchored first)
    (hsecond : Anchored second) :
    BuysAsListed route first second (synthesizedMarket route first second) ↔
      FlagsAgree route first second := by
  have hregistered := registerSecondLeg_synthesizedMarket hroute hpartners hfirst hsecond
  have hrefused := fun hpredict => refused_listed_iff hroute hpredict hpartners hfirst hsecond
  obtain ⟨hfirstLabel, -, hsecondLabel, -, -, -, hsides⟩ := hpartners
  have hflag : ∀ known repository leg,
      (sentOrder known ((Router.mk route repository).label leg)
          (entryAddress ⟨route, repository⟩ (synthesizedMarket route first second) leg) =
        listedOrder known repository (sourceOf first second leg) ↔
          (leg = .first → route.venueLabels.1 = "Predict.fun" →
            Refused known first.predictFunTokenId ∨
              second.predictFunNegRisk.getD false = first.predictFunNegRisk.getD false)) := by
    intro known repository leg
    exact sentOrder_leg_iff hroute hfirstLabel hsecondLabel known repository leg
  constructor
  · intro hbuys hpredict
    by_contra hne
    obtain ⟨hsent, hdiffer⟩ := not_or.mp hne
    apply hsent
    apply (hrefused hpredict).mp
    intro known
    have horder := hbuys.orders known true .first
    dsimp only at horder
    rw [hregistered] at horder
    rcases (hflag _ true .first).mp horder rfl hpredict with hknown | hsame
    · exact hknown
    · exact absurd hsame.symm hdiffer
  · intro hagree
    have horders : ∀ known repository leg,
        let listed := registerSecondLeg (registerSecondLeg known first) second
        sentOrder (registerSecondLeg listed (synthesizedMarket route first second))
            ((Router.mk route repository).label leg)
            (entryAddress ⟨route, repository⟩ (synthesizedMarket route first second) leg) =
          listedOrder listed repository (sourceOf first second leg) := by
      intro known repository leg listed
      rw [hregistered]
      apply (hflag _ repository leg).mpr
      intro _ hpredict
      rcases hagree hpredict with hnever | hsame
      · exact Or.inl ((hrefused hpredict).mpr hnever known)
      · exact Or.inr hsame.symm
    refine ⟨horders, ?_, hsides⟩
    intro known repository tickSize leg
    rw [← entryAddress_synthesizedMarket hroute]
    exact horders known repository leg

/-! ## The synthesis of two families -/

theorem partners_of_partnersOf {secondFamily : List CataloguedMarket}
    (h : partnersOf texts route secondFamily first = [second]) :
    second ∈ secondFamily ∧ Partners texts route first second := by
  have hmem : second ∈ partnersOf texts route secondFamily first := by
    rw [h]
    exact List.mem_singleton_self second
  obtain ⟨hfamily, hpartners⟩ := List.mem_filter.mp hmem
  exact ⟨hfamily, of_decide_eq_true hpartners⟩

/-- The only partner of a market of the first family is joined with it. -/
theorem joins_iff {secondFamily : List CataloguedMarket} {market : CataloguedMarket} :
    Joins texts route secondFamily first second market ↔
      partnersOf texts route secondFamily first = [second] ∧
        market = synthesizedMarket route first second := by
  constructor
  · rintro ⟨hpartner, hmade⟩
    unfold synthesizeMarket at hmade
    rw [hpartner] at hmade
    exact ⟨hpartner, (Option.some.inj hmade).symm⟩
  · rintro ⟨hpartner, rfl⟩
    refine ⟨hpartner, ?_⟩
    unfold synthesizeMarket
    rw [hpartner]

/-- **When the synthesis is sound**: between families anchored on Polymarket, exactly when no market
of the second family is the only partner of several, and the first leg, where it is at Predict.fun,
has the flag of the second. -/
theorem synthesisSound_iff (texts : MatchTexts) (route : ExecutionRoute)
    (hroute : route ∈ synthesizedRoutes) (firstFamily secondFamily : List CataloguedMarket)
    (hfirst : ∀ market ∈ firstFamily, Anchored market)
    (hsecond : ∀ market ∈ secondFamily, Anchored market) :
    SynthesisSound texts route firstFamily secondFamily ↔
      ∀ first ∈ firstFamily, ∀ second, partnersOf texts route secondFamily first = [second] →
        FlagsAgree route first second ∧ (partnersTo texts route firstFamily second).length ≤ 1 := by
  constructor
  · intro hsound first hmem second hpartner
    obtain ⟨hfamily, hpartners⟩ := partners_of_partnersOf hpartner
    have hjoins := joins_iff.mpr ⟨hpartner, rfl⟩
    have hbuys := hsound.joined first hmem second _ hjoins
    constructor
    · exact (buysAsListed_iff hroute hpartners (hfirst first hmem)
        (hsecond second hfamily)).mp hbuys
    · by_contra hmany
      exact hsound.secondPartners second hfamily (by omega) first hmem _ hjoins
  · intro hcondition
    constructor
    · intro first hmem second market hjoins
      obtain ⟨hpartner, rfl⟩ := joins_iff.mp hjoins
      obtain ⟨hfamily, hpartners⟩ := partners_of_partnersOf hpartner
      exact (buysAsListed_iff hroute hpartners (hfirst first hmem)
        (hsecond second hfamily)).mpr (hcondition first hmem second hpartner).1
    · intro first _ hmany second market hjoins
      rw [hjoins.partner] at hmany
      exact absurd hmany (by simp)
    · intro second _ hmany first hmem market hjoins
      have hone := (hcondition first hmem second hjoins.partner).2
      omega

namespace SynthesizedOrderExamples

/-- Texts that are compared as they are. -/
def plainTexts : MatchTexts := ⟨id, fun _ => ""⟩

/-- A market of a Polymarket market with several outcomes, at Predict.fun. -/
def predictMarket : CataloguedMarket where
  symbol := "Winner of the cup"
  targetLabel := "Arsenal"
  polymarketTokenId := "71"
  polymarketSide := .yes
  predictFunTokenId := "904"
  predictFunSide := .no
  polymarketMarketId := some "512"
  predictFunMarketId := some "88"
  predictFunFeeRateBps := some 200
  predictFunPricePrecision := some 2
  negRisk := some true
  predictFunNegRisk := some true

/-- The same market at SX Bet, with its own flag for the second leg or without. -/
def sxMarket (negRisk : Option Bool) : CataloguedMarket where
  symbol := "Winner of the cup"
  targetLabel := "Arsenal"
  polymarketTokenId := "72"
  polymarketSide := .no
  predictFunTokenId := "0x9:YES"
  predictFunSide := .yes
  venueBLabel := "SX Bet"
  polymarketMarketId := some "512"
  predictFunMarketId := some "0x9"
  predictFunNegRisk := negRisk

/-- The Predict.fun leg of a market with several outcomes is signed for the exchange of the markets
with two. -/
theorem predictSx_not_sound :
    ¬ SynthesisSound plainTexts .predictSx [predictMarket] [sxMarket none] := by
  intro hsound
  have hbuys := hsound.joined predictMarket (by decide) (sxMarket none)
    (synthesizedMarket .predictSx predictMarket (sxMarket none))
    ⟨by decide +kernel, by decide +kernel⟩
  have horder := hbuys.orders {} true .first
  revert horder
  decide +kernel

/-- Where both flags are the same, the legs are bought as they are listed. -/
theorem predictSx_sound :
    SynthesisSound plainTexts .predictSx [predictMarket] [sxMarket (some true)] := by
  refine (synthesisSound_iff plainTexts .predictSx (by decide) [predictMarket]
    [sxMarket (some true)] ?_ ?_).mpr ?_
  · intro market hmem
    rw [List.mem_singleton.mp hmem]
    rfl
  · intro market hmem
    rw [List.mem_singleton.mp hmem]
    rfl
  · intro first hmem second hpartner
    rw [List.mem_singleton.mp hmem] at hpartner ⊢
    have hsecond := (partners_of_partnersOf hpartner).1
    rw [List.mem_singleton.mp hsecond]
    exact ⟨fun _ => Or.inr rfl, by decide +kernel⟩

end SynthesizedOrderExamples

end ArbitrageEngine.Discovery
