/-
# ArbitrageEngine.Settlement.Addressing -- the markets the venues are asked about

A position keeps the market its evaluation was planned with, and the settlement reads from it, by
the label and the place of a leg, which market of the venue to ask about and to redeem.  The block
of `run_once` for a route relabels the market: here that market is put beside the markets it comes
from, and the ids of the request beside those that the venue's own market has.

A market that is synthesised from two others brings the id of its first leg along.  The three routes
between a second leg and Myriad move its token to the first place and leave the id behind.
-/
import ArbitrageEngine.Discovery.CrossVenueMarkets
import ArbitrageEngine.Settlement.Service

namespace ArbitrageEngine.Settlement

open Engine Discovery

/-! ## The market of an evaluation -/

/-- The routes from the second leg of a market to its Myriad market. -/
def isSecondLegToMyriad : ExecutionRoute → Bool
  | .predictMyriad | .sxMyriad | .opinionMyriad => true
  | _ => false

/-- The market that the block of `run_once` for a route hands to the evaluation, for its execution
tokens. -/
def evaluationMarket (market : ListedMarket) (route : ExecutionRoute) (tokens : String × String) :
    ListedMarket :=
  match route with
  | .polymarketMyriad =>
      { market with
        venueALabel := "Polymarket"
        predictFunTokenId := tokens.2
        predictFunSide := market.myriadSide
        venueBLabel := "Myriad" }
  | .predictMyriad | .sxMyriad | .opinionMyriad =>
      { market with
        venueALabel := route.venueLabels.1
        venueBLabel := "Myriad"
        polymarketTokenId := market.predictFunTokenId
        polymarketSide := market.predictFunSide
        predictFunTokenId := tokens.2
        predictFunSide := market.predictFunSide.opposite
        conditionId := none }
  | .polymarketPredict | .predictSx | .polymarketSx | .polymarketOpinion | .predictOpinion
  | .sxOpinion => market

/-- The market of the evaluation that is planned for a market on a route, if one is. -/
def plannedMarket (config : EngineConfig) (submitsOrders : Bool) (market : ListedMarket)
    (route : ExecutionRoute) : Option ListedMarket :=
  (plannedTargets config submitsOrders market route).bind fun _ =>
    (executionTokens market route).map (evaluationMarket market route)

variable {config : EngineConfig} {submitsOrders : Bool}

theorem plannedMarket_eq_some {market planned : ListedMarket} {route : ExecutionRoute}
    (h : plannedMarket config submitsOrders market route = some planned) :
    ∃ tokens, executionTokens market route = some tokens ∧
      planned = evaluationMarket market route tokens := by
  obtain ⟨_, -, htokens⟩ := Option.bind_eq_some_iff.mp h
  obtain ⟨tokens, htokens, heq⟩ := Option.map_eq_some_iff.mp htokens
  exact ⟨tokens, htokens, heq.symm⟩

/-- What a supported market looks like on a route between the two slots. -/
theorem executionTokens_of_slots {market : ListedMarket} {route : ExecutionRoute}
    {tokens : String × String} (hmyriad : isSecondLegToMyriad route = false)
    (hroute : route ≠ .polymarketMyriad) (h : executionTokens market route = some tokens) :
    market.venueALabel = route.venueLabels.1 ∧ market.venueBLabel = route.venueLabels.2 ∧
      tokens = (market.polymarketTokenId, market.predictFunTokenId) := by
  have hslots : (if market.venueALabel = route.venueLabels.1 ∧
      market.venueBLabel = route.venueLabels.2 ∧ market.polymarketTokenId ≠ "" ∧
        market.predictFunTokenId ≠ "" then
      some (market.polymarketTokenId, market.predictFunTokenId) else none) = some tokens := by
    cases route with
    | polymarketMyriad => exact absurd rfl hroute
    | predictMyriad => cases hmyriad
    | sxMyriad => cases hmyriad
    | opinionMyriad => cases hmyriad
    | polymarketPredict => exact h
    | predictSx => exact h
    | polymarketSx => exact h
    | polymarketOpinion => exact h
    | predictOpinion => exact h
    | sxOpinion => exact h
  split at hslots
  · next hsupported =>
      cases hslots
      exact ⟨hsupported.1, hsupported.2.1, rfl⟩
  · cases hslots

theorem evaluationMarket_of_slots {market : ListedMarket} {route : ExecutionRoute}
    {tokens : String × String} (hmyriad : isSecondLegToMyriad route = false)
    (hroute : route ≠ .polymarketMyriad) : evaluationMarket market route tokens = market := by
  cases route with
  | polymarketMyriad => exact absurd rfl hroute
  | predictMyriad => cases hmyriad
  | sxMyriad => cases hmyriad
  | opinionMyriad => cases hmyriad
  | polymarketPredict | predictSx | polymarketSx | polymarketOpinion | predictOpinion
  | sxOpinion => rfl

/-- What a supported market looks like on a route from its second leg to Myriad. -/
theorem executionTokens_of_secondLeg {market : ListedMarket} {route : ExecutionRoute}
    {tokens : String × String} (hmyriad : isSecondLegToMyriad route = true)
    (h : executionTokens market route = some tokens) :
    (∃ marketId, truthy market.myriadMarketId = some marketId) ∧
      market.venueBLabel = route.venueLabels.1 ∧ tokens.1 = market.predictFunTokenId := by
  have hsecond : ((truthy market.myriadMarketId).bind fun marketId =>
      if market.venueBLabel = route.venueLabels.1 ∧ market.predictFunTokenId ≠ "" then
        some (market.predictFunTokenId, myriadExecutionToken market marketId route)
      else none) = some tokens := by
    cases route with
    | predictMyriad => exact h
    | sxMyriad => exact h
    | opinionMyriad => exact h
    | polymarketMyriad => cases hmyriad
    | polymarketPredict => cases hmyriad
    | predictSx => cases hmyriad
    | polymarketSx => cases hmyriad
    | polymarketOpinion => cases hmyriad
    | predictOpinion => cases hmyriad
    | sxOpinion => cases hmyriad
  obtain ⟨marketId, hid, hsupported⟩ := Option.bind_eq_some_iff.mp hsecond
  split at hsupported
  · next hlabel =>
      cases hsupported
      exact ⟨⟨marketId, hid⟩, hlabel.1, rfl⟩
  · cases hsupported

/-- What a supported market looks like between Polymarket and Myriad. -/
theorem executionTokens_of_polymarketMyriad {market : ListedMarket} {tokens : String × String}
    (h : executionTokens market .polymarketMyriad = some tokens) :
    (∃ marketId, truthy market.myriadMarketId = some marketId) ∧
      tokens.1 = market.polymarketTokenId := by
  have hfirst : ((truthy market.myriadMarketId).bind fun marketId =>
      if market.polymarketTokenId = "" then none
      else
        some (market.polymarketTokenId, myriadExecutionToken market marketId .polymarketMyriad)) =
          some tokens := h
  obtain ⟨marketId, hid, hsupported⟩ := Option.bind_eq_some_iff.mp hfirst
  split at hsupported
  · cases hsupported
  · cases hsupported
    exact ⟨⟨marketId, hid⟩, rfl⟩

/-- The market of an evaluation has the labels of its route and the tokens that were planned. -/
theorem evaluationMarket_legs {market : ListedMarket} {route : ExecutionRoute}
    {tokens : String × String} (h : executionTokens market route = some tokens) :
    let planned := evaluationMarket market route tokens
    (planned.venueALabel, planned.venueBLabel) = route.venueLabels ∧
      (planned.polymarketTokenId, planned.predictFunTokenId) = tokens := by
  have hslots := @executionTokens_of_slots market route tokens
  have hsecond := @executionTokens_of_secondLeg market route tokens
  have hpair {first second : String} (hfirst : tokens.1 = first) (hsecond : tokens.2 = second) :
      (first, second) = tokens := by
    rw [← hfirst, ← hsecond]
  cases route with
  | polymarketMyriad =>
      exact ⟨rfl, hpair (executionTokens_of_polymarketMyriad h).2 rfl⟩
  | predictMyriad => exact ⟨rfl, hpair (hsecond rfl h).2.2 rfl⟩
  | sxMyriad => exact ⟨rfl, hpair (hsecond rfl h).2.2 rfl⟩
  | opinionMyriad => exact ⟨rfl, hpair (hsecond rfl h).2.2 rfl⟩
  | polymarketPredict | predictSx | polymarketSx | polymarketOpinion | predictOpinion
  | sxOpinion =>
      obtain ⟨hfirst, hlabel, htokens⟩ := hslots rfl (fun heq => by cases heq) h
      exact ⟨Prod.ext hfirst hlabel, htokens.symm⟩

/-! ## Where an evaluation comes from -/

/-- A market as discovery makes it: its first leg is at Polymarket. -/
structure DiscoveredMarket extends ListedMarket where
  first_polymarket : venueALabel = "Polymarket"

/-- An evaluation is planned for a discovered market, or for one that is synthesised from two of
them; `sources` are the discovered markets. -/
inductive Evaluation (config : EngineConfig) (submitsOrders : Bool) (texts : MatchTexts) :
    List DiscoveredMarket → ExecutionRoute → ListedMarket → Prop
  | listed {source : DiscoveredMarket} {route : ExecutionRoute} {market : ListedMarket}
      (hplanned : plannedMarket config submitsOrders source.toListedMarket route = some market) :
      Evaluation config submitsOrders texts [source] route market
  | synthesized {secondFamily : List DiscoveredMarket} {first second : DiscoveredMarket}
      {pair route : ExecutionRoute} {between market : ListedMarket}
      (hpair : pair ∈ synthesizedRoutes)
      (hbetween : synthesizeFrom texts (secondFamily.map (·.toListedMarket))
        pair.venueLabels.1 pair.venueLabels.2 pair.name first.toListedMarket = some between)
      (hmatch : crossVenueMatches texts (secondFamily.map (·.toListedMarket))
        pair.venueLabels.2 first.toListedMarket = [second.toListedMarket])
      (hplanned : plannedMarket config submitsOrders between route = some market) :
      Evaluation config submitsOrders texts [first, second] route market

/-! ## The ids -/

theorem eq_some_of_truthy {value : Option String} {text : String}
    (h : truthy value = some text) : value = some text := (Option.filter_eq_some_iff.mp h).1

/-- The venue's id in a discovered market: the Polymarket ids for Polymarket, the id of the second
leg under its label, and the Myriad id for Myriad. -/
def Holds (market : MarketSpec) (venue id : String) : Prop :=
  (venue = "Polymarket" ∧
      (market.polymarketMarketId = some id ∨ market.conditionId = some id)) ∨
    (venue = market.venueBLabel ∧ market.predictFunMarketId = some id) ∨
    (venue = "Myriad" ∧ market.myriadMarketId = some id)

/-- Whatever is asked of the venue of a leg is asked about a market that one of the sources lists at
that venue. -/
def Addressed (sources : List DiscoveredMarket) (position : OpenPosition) : Prop :=
  ∀ venue ∈ [position.market.venueALabel, position.market.venueBLabel], ∀ contracts request,
    settlementRequest position venue contracts = some request →
      ∃ source ∈ sources, Holds source.toMarketSpec venue request.marketId ∧
        Holds source.toMarketSpec venue request.conditionId

/-- A request has ids that are set. -/
theorem settlementRequest_ids {position : OpenPosition} {venue : String} {contracts : Dec}
    {request : SettlementRequest}
    (h : settlementRequest position venue contracts = some request) :
    if venue = position.market.venueALabel then
      truthy ((truthy position.market.polymarketMarketId).or position.market.conditionId) =
          some request.marketId ∧
        truthy (if venue = "Polymarket" then position.market.conditionId
          else position.market.polymarketMarketId) = some request.conditionId
    else if venue = "Predict.fun" ∨ venue = "SX Bet" ∨ venue = "Opinion" then
      truthy position.market.predictFunMarketId = some request.marketId ∧
        truthy position.market.predictFunMarketId = some request.conditionId
    else venue = "Myriad" ∧ truthy position.market.myriadMarketId = some request.marketId ∧
        truthy position.market.myriadMarketId = some request.conditionId := by
  unfold settlementRequest at h
  dsimp only at h
  split at h
  · next hfirst =>
      rw [if_pos hfirst]
      split at h
      · next hmarket hcondition =>
          cases h
          exact ⟨hmarket, hcondition⟩
      · cases h
  · next hfirst =>
      rw [if_neg hfirst]
      split at h
      · next hsecond =>
          rw [if_pos hsecond]
          split at h
          · next hmarket hcondition =>
              cases h
              exact ⟨hmarket, hcondition⟩
          · cases h
      · next hsecond =>
          rw [if_neg hsecond]
          split at h
          · next hmyriad =>
              split at h
              · next hmarket hcondition =>
                  cases h
                  exact ⟨hmyriad, hmarket, hcondition⟩
              · cases h
          · cases h

/-- The leg at Polymarket is addressed by the ids of the market it comes from. -/
theorem holds_polymarket {position : OpenPosition} {source : MarketSpec} {contracts : Dec}
    {request : SettlementRequest} (hlabel : position.market.venueALabel = "Polymarket")
    (hmarket : position.market.polymarketMarketId = source.polymarketMarketId)
    (hcondition : position.market.conditionId = source.conditionId)
    (h : settlementRequest position "Polymarket" contracts = some request) :
    Holds source "Polymarket" request.marketId ∧ Holds source "Polymarket" request.conditionId := by
  have hids := settlementRequest_ids h
  rw [if_pos hlabel.symm, if_pos rfl, hmarket, hcondition] at hids
  obtain ⟨hmarketId, hconditionId⟩ := hids
  refine ⟨Or.inl ⟨rfl, ?_⟩, Or.inl ⟨rfl, Or.inr (eq_some_of_truthy hconditionId)⟩⟩
  have hid := eq_some_of_truthy hmarketId
  rcases Option.or_eq_some_iff.mp hid with hid | ⟨-, hid⟩
  · exact Or.inl (eq_some_of_truthy hid)
  · exact Or.inr hid

/-- A leg whose venue lists the second leg of its source is addressed by the id of that. -/
theorem holds_secondLeg {position : OpenPosition} {source : MarketSpec} {venue : String}
    {contracts : Dec} {request : SettlementRequest} (hother : venue ≠ position.market.venueALabel)
    (hvenue : venue = "Predict.fun" ∨ venue = "SX Bet" ∨ venue = "Opinion")
    (hlabel : source.venueBLabel = venue)
    (hid : position.market.predictFunMarketId = source.predictFunMarketId)
    (h : settlementRequest position venue contracts = some request) :
    Holds source venue request.marketId ∧ Holds source venue request.conditionId := by
  have hids := settlementRequest_ids h
  rw [if_neg hother, if_pos hvenue, hid] at hids
  exact ⟨Or.inr (Or.inl ⟨hlabel.symm, eq_some_of_truthy hids.1⟩),
    Or.inr (Or.inl ⟨hlabel.symm, eq_some_of_truthy hids.2⟩)⟩

/-- A leg at Myriad is addressed by the Myriad id of its source. -/
theorem holds_myriad {position : OpenPosition} {source : MarketSpec} {contracts : Dec}
    {request : SettlementRequest} (hother : "Myriad" ≠ position.market.venueALabel)
    (hid : position.market.myriadMarketId = source.myriadMarketId)
    (h : settlementRequest position "Myriad" contracts = some request) :
    Holds source "Myriad" request.marketId ∧ Holds source "Myriad" request.conditionId := by
  have hids := settlementRequest_ids h
  rw [if_neg hother, if_neg (by decide), hid] at hids
  exact ⟨Or.inr (Or.inr ⟨rfl, eq_some_of_truthy hids.2.1⟩),
    Or.inr (Or.inr ⟨rfl, eq_some_of_truthy hids.2.2⟩)⟩

/-- A leg in the first place at another venue than Polymarket is addressed by the one id of that
place. -/
theorem firstLeg_ids {position : OpenPosition} {venue : String} {contracts : Dec}
    {request : SettlementRequest} (hlabel : venue = position.market.venueALabel)
    (hvenue : venue ≠ "Polymarket") (hcondition : position.market.conditionId = none)
    (h : settlementRequest position venue contracts = some request) :
    truthy position.market.polymarketMarketId = some request.marketId ∧
      truthy position.market.polymarketMarketId = some request.conditionId := by
  have hids := settlementRequest_ids h
  rw [if_pos hlabel, if_neg hvenue, hcondition, Option.or_none] at hids
  exact ⟨eq_some_of_truthy hids.1, hids.2⟩

/-! ## Each kind of evaluation -/

/-- Between the two slots of a discovered market. -/
theorem addressed_slots {source : DiscoveredMarket} {route : ExecutionRoute}
    {tokens : String × String} {position : OpenPosition}
    (hmyriad : isSecondLegToMyriad route = false) (hroute : route ≠ .polymarketMyriad)
    (htokens : executionTokens source.toListedMarket route = some tokens)
    (hposition : position.market = source.toMarketSpec) : Addressed [source] position := by
  obtain ⟨hfirst, hsecond, -⟩ := executionTokens_of_slots hmyriad hroute htokens
  have hpolymarket : route.venueLabels.1 = "Polymarket" :=
    hfirst.symm.trans source.first_polymarket
  have hvenue : route.venueLabels.2 = "Predict.fun" ∨ route.venueLabels.2 = "SX Bet" ∨
      route.venueLabels.2 = "Opinion" := by
    revert hmyriad hroute hpolymarket
    cases route <;> decide
  intro venue hmem contracts request hrequest
  refine ⟨source, List.mem_singleton_self source, ?_⟩
  rw [hposition] at hmem
  rcases List.mem_cons.mp hmem with rfl | hmem
  · rw [source.first_polymarket] at hrequest ⊢
    exact holds_polymarket (by rw [hposition]; exact source.first_polymarket) (by rw [hposition])
      (by rw [hposition]) hrequest
  · rw [List.mem_singleton] at hmem
    subst hmem
    refine holds_secondLeg ?_ (hsecond ▸ hvenue) rfl (by rw [hposition]) hrequest
    rw [hposition, hsecond, hfirst]
    revert hpolymarket
    cases route <;> decide

/-- Between the first slot of a discovered market and Myriad. -/
theorem addressed_polymarketMyriad {source : DiscoveredMarket} {tokens : String × String}
    {position : OpenPosition}
    (hposition : position.market =
      (evaluationMarket source.toListedMarket .polymarketMyriad tokens).toMarketSpec) :
    Addressed [source] position := by
  intro venue hmem contracts request hrequest
  refine ⟨source, List.mem_singleton_self source, ?_⟩
  rw [hposition] at hmem
  rcases List.mem_cons.mp hmem with rfl | hmem
  · exact holds_polymarket (by rw [hposition]; rfl) (by rw [hposition]; rfl)
      (by rw [hposition]; rfl) hrequest
  · rw [List.mem_singleton] at hmem
    subst hmem
    have hother : "Myriad" ≠ "Polymarket" := by decide
    exact holds_myriad (by rw [hposition]; exact hother) (by rw [hposition]; rfl) hrequest

/-- Between the second slot of a discovered market and Myriad: the first leg is addressed by the
Polymarket id that the relabelled market keeps. -/
theorem addressed_secondLeg_iff {source : DiscoveredMarket} {route : ExecutionRoute}
    {tokens : String × String} {position : OpenPosition}
    (hmyriad : isSecondLegToMyriad route = true)
    (htokens : executionTokens source.toListedMarket route = some tokens)
    (hposition : position.market =
      (evaluationMarket source.toListedMarket route tokens).toMarketSpec) :
    Addressed [source] position ↔
      (truthy source.polymarketMarketId = none ∨
        source.predictFunMarketId = source.polymarketMarketId) := by
  obtain ⟨-, hlabel, -⟩ := executionTokens_of_secondLeg hmyriad htokens
  have hmarket : (evaluationMarket source.toListedMarket route tokens).toMarketSpec =
      { source.toMarketSpec with
        venueALabel := route.venueLabels.1
        venueBLabel := "Myriad"
        polymarketTokenId := source.predictFunTokenId
        polymarketSide := source.predictFunSide
        predictFunTokenId := tokens.2
        predictFunSide := source.predictFunSide.opposite
        conditionId := none } := by
    cases route with
    | predictMyriad => rfl
    | sxMyriad => rfl
    | opinionMyriad => rfl
    | polymarketMyriad => cases hmyriad
    | polymarketPredict => cases hmyriad
    | predictSx => cases hmyriad
    | polymarketSx => cases hmyriad
    | polymarketOpinion => cases hmyriad
    | predictOpinion => cases hmyriad
    | sxOpinion => cases hmyriad
  rw [hmarket] at hposition
  obtain ⟨hpolymarket, hother⟩ :
      route.venueLabels.1 ≠ "Polymarket" ∧ "Myriad" ≠ route.venueLabels.1 := by
    revert hmyriad
    cases route <;> decide
  have hfirst : position.market.venueALabel = route.venueLabels.1 := by rw [hposition]
  constructor
  · intro haddressed
    cases hid : truthy source.polymarketMarketId with
    | none => exact Or.inl rfl
    | some marketId =>
        refine Or.inr ?_
        have hrequest : settlementRequest position route.venueLabels.1 0 =
            some ⟨positionKey position.market, route.venueLabels.1, marketId, marketId, "", 0⟩ := by
          have hboth : truthy (some marketId) = some marketId := by
            have hset := hid
            rw [eq_some_of_truthy hid] at hset
            exact hset
          unfold settlementRequest
          dsimp only
          rw [if_pos hfirst.symm, if_neg hpolymarket]
          simp only [hposition, hid, Option.or_none, hboth]
        obtain ⟨other, hother', hholds, -⟩ :=
          haddressed _ (hfirst ▸ List.mem_cons_self) 0 _ hrequest
        rw [List.mem_singleton.mp hother'] at hholds
        rw [eq_some_of_truthy hid]
        rcases hholds with ⟨hlisted, -⟩ | ⟨-, hlisted⟩ | ⟨hlisted, -⟩
        · exact absurd hlisted hpolymarket
        · exact hlisted
        · exact absurd hlisted.symm hother
  · intro hcarried venue hmem contracts request hrequest
    refine ⟨source, List.mem_singleton_self source, ?_⟩
    rcases List.mem_cons.mp hmem with rfl | hmem
    · rw [hfirst] at hrequest ⊢
      obtain ⟨hmarketId, hconditionId⟩ := firstLeg_ids hfirst.symm hpolymarket (by rw [hposition])
        hrequest
      rw [hposition] at hmarketId hconditionId
      rcases hcarried with hnone | hsame
      · rw [hnone] at hmarketId
        cases hmarketId
      · exact ⟨Or.inr (Or.inl ⟨hlabel.symm, hsame.trans (eq_some_of_truthy hmarketId)⟩),
          Or.inr (Or.inl ⟨hlabel.symm, hsame.trans (eq_some_of_truthy hconditionId)⟩)⟩
    · rw [hposition, List.mem_singleton] at hmem
      subst hmem
      exact holds_myriad (by rw [hfirst]; exact hother) (by rw [hposition]) hrequest

/-- Between the second legs of two discovered markets: both ids were moved with their legs. -/
theorem addressed_synthesized {first second : DiscoveredMarket} {pair : ExecutionRoute}
    {between : ListedMarket} {position : OpenPosition} (hpair : pair ∈ synthesizedRoutes)
    (hmade : MadeOf pair.venueLabels.1 pair.venueLabels.2 pair.name first.toListedMarket
      second.toListedMarket between)
    (hposition : position.market = between.toMarketSpec) : Addressed [first, second] position := by
  obtain ⟨hpolymarket, hother, hvenue⟩ : pair.venueLabels.1 ≠ "Polymarket" ∧
      pair.venueLabels.2 ≠ pair.venueLabels.1 ∧
      (pair.venueLabels.2 = "Predict.fun" ∨ pair.venueLabels.2 = "SX Bet" ∨
        pair.venueLabels.2 = "Opinion") := by
    revert hpair
    cases pair <;> decide
  have hmarket := hposition
  rw [hmade.market_eq] at hmarket
  have hfirst : position.market.venueALabel = pair.venueLabels.1 := by rw [hmarket]; rfl
  have hsecond : position.market.venueBLabel = pair.venueLabels.2 := by rw [hmarket]; rfl
  intro venue hmem contracts request hrequest
  rcases List.mem_cons.mp hmem with rfl | hmem
  · rw [hfirst] at hrequest ⊢
    obtain ⟨hmarketId, hconditionId⟩ :=
      firstLeg_ids hfirst.symm hpolymarket (by rw [hmarket]; rfl) hrequest
    rw [hmarket] at hmarketId hconditionId
    refine ⟨first, List.mem_cons_self, Or.inr (Or.inl ⟨hmade.first_label.symm, ?_⟩),
      Or.inr (Or.inl ⟨hmade.first_label.symm, ?_⟩)⟩
    · exact eq_some_of_truthy hmarketId
    · exact eq_some_of_truthy hconditionId
  · rw [List.mem_singleton.mp hmem, hsecond] at hrequest ⊢
    exact ⟨second, List.mem_cons_of_mem _ (List.mem_singleton_self second),
      holds_secondLeg (by rw [hfirst]; exact hother) hvenue hmade.second_label
        (by rw [hmarket]; rfl) hrequest⟩

/-! ## Settlement addressing -/

/-- The Polymarket id that a relabelled market keeps in its first place does no harm: there is none,
or it is the id of the second leg. -/
def NoIdLeftBehind (sources : List DiscoveredMarket) : Prop :=
  ∀ source ∈ sources, truthy source.polymarketMarketId = none ∨
    source.predictFunMarketId = source.polymarketMarketId

/-- The venues of a position's legs are asked about the markets they come from, except that on a
route from a second leg to Myriad the Polymarket id must not be left behind. -/
theorem addressed_iff {texts : MatchTexts} {sources : List DiscoveredMarket}
    {route : ExecutionRoute} {market : ListedMarket} {position : OpenPosition}
    (h : Evaluation config submitsOrders texts sources route market)
    (hposition : position.market = market.toMarketSpec) :
    Addressed sources position ↔ (isSecondLegToMyriad route = true → NoIdLeftBehind sources) := by
  cases h with
  | @listed source route market hplanned =>
      obtain ⟨tokens, htokens, rfl⟩ := plannedMarket_eq_some hplanned
      by_cases hmyriad : isSecondLegToMyriad route = true
      · rw [addressed_secondLeg_iff hmyriad htokens hposition]
        unfold NoIdLeftBehind
        simp only [hmyriad, forall_const, List.mem_singleton, forall_eq]
      · refine iff_of_true ?_ fun htrue => absurd htrue hmyriad
        by_cases hroute : route = .polymarketMyriad
        · subst hroute
          exact addressed_polymarketMyriad hposition
        · have hslots : isSecondLegToMyriad route = false := Bool.eq_false_of_not_eq_true hmyriad
          refine addressed_slots hslots hroute htokens (hposition.trans ?_)
          rw [evaluationMarket_of_slots hslots hroute]
  | @synthesized _ first second _ route between market hpair hbetween hmatch hplanned =>
      obtain ⟨_, -, hother, hmade⟩ := madeOf_of_synthesizeFrom hbetween
      rw [hmatch] at hother
      cases hother
      obtain ⟨tokens, htokens, rfl⟩ := plannedMarket_eq_some hplanned
      have hnone : between.myriadMarketId = none := by
        rw [hmade.market_eq]
        rfl
      have hmyriad : isSecondLegToMyriad route = false := by
        by_contra htrue
        obtain ⟨⟨marketId, hid⟩, -⟩ :=
          executionTokens_of_secondLeg (Bool.eq_true_of_not_eq_false htrue) htokens
        rw [hnone] at hid
        cases hid
      have hroute : route ≠ .polymarketMyriad := by
        rintro rfl
        obtain ⟨⟨marketId, hid⟩, -⟩ := executionTokens_of_polymarketMyriad htokens
        rw [hnone] at hid
        cases hid
      refine iff_of_true ?_ fun htrue => ?_
      · rw [evaluationMarket_of_slots hmyriad hroute] at hposition
        exact addressed_synthesized hpair hmade hposition
      · rw [hmyriad] at htrue
        cases htrue

namespace AddressingExamples

/-- A market that Predict.fun and Myriad list too, under ids of their own. -/
def threeVenues : DiscoveredMarket where
  symbol := "BTC"
  targetLabel := "a"
  polymarketTokenId := "p"
  polymarketSide := .yes
  predictFunTokenId := "q"
  predictFunSide := .no
  conditionId := some "0xc0"
  polymarketMarketId := some "512"
  predictFunMarketId := some "77"
  myriadMarketId := some "m9"
  first_polymarket := rfl

/-- The same Polymarket market, with a market of SX Bet. -/
def sxMarket : DiscoveredMarket where
  symbol := "BTC"
  targetLabel := "a"
  polymarketTokenId := "r"
  polymarketSide := .no
  predictFunTokenId := "0xaa:YES"
  predictFunSide := .yes
  venueBLabel := "SX Bet"
  polymarketMarketId := some "512"
  predictFunMarketId := some "0xaa"
  first_polymarket := rfl

/-- A position in ten contracts of each leg. -/
def heldIn (market : ListedMarket) : OpenPosition where
  market := market.toMarketSpec
  polymarketContracts := 10
  polymarketEntryPrice := 2 / 5
  predictFunContracts := 10
  predictFunEntryPrice := 1 / 2
  polymarketOrderId := "1"
  predictFunOrderId := "2"

/-- Texts that are compared as they are. -/
def plainTexts : MatchTexts := ⟨id, fun _ => ""⟩

/-- The market of the evaluation between Predict.fun and Myriad. -/
def relabelled : ListedMarket :=
  evaluationMarket threeVenues.toListedMarket .predictMyriad ("q", "m9:YES")

/-- The market between Predict.fun and SX Bet. -/
def between : ListedMarket :=
  crossVenueMarket "Predict.fun" "SX Bet" "predict_sx" threeVenues.toListedMarket
    sxMarket.toListedMarket

open MarketTargetExamples in
/-- The Predict.fun leg of a position between Predict.fun and Myriad: Predict.fun is asked about the
market with the id that the market has at Polymarket. -/
theorem predict_asked_for_polymarket_id :
    Evaluation engine false plainTexts [threeVenues] .predictMyriad relabelled ∧
      settlementRequest (heldIn relabelled) "Predict.fun" 10 =
        some ⟨positionKey relabelled.toMarketSpec, "Predict.fun", "512", "512", "", 10⟩ ∧
      ¬Addressed [threeVenues] (heldIn relabelled) := by
  have htokens : executionTokens threeVenues.toListedMarket .predictMyriad =
      some ("q", "m9:YES") := by decide +kernel
  refine ⟨.listed (by decide +kernel), by decide +kernel, fun haddressed => ?_⟩
  rcases (addressed_secondLeg_iff rfl htokens rfl).mp haddressed with hnone | hsame
  · revert hnone
    decide
  · revert hsame
    decide

open MarketTargetExamples in
/-- Between Predict.fun and SX Bet both venues are asked about their own markets. -/
theorem addressed_predictSx :
    Evaluation engine false plainTexts [threeVenues, sxMarket] .predictSx between ∧
      Addressed [threeVenues, sxMarket] (heldIn between) := by
  have h : Evaluation engine false plainTexts [threeVenues, sxMarket] .predictSx between :=
    @Evaluation.synthesized _ _ _ [sxMarket] threeVenues sxMarket .predictSx .predictSx between _
      (by decide) (by decide +kernel) (by decide +kernel) (by decide +kernel)
  exact ⟨h, (addressed_iff h rfl).mpr fun htrue => by cases htrue⟩

end AddressingExamples

end ArbitrageEngine.Settlement
