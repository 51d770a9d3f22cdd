/-
# ArbitrageEngine.Execution.RouteCoverage -- one table of fees and caps in two places

The router and the engine each have a table of the fees and the slippage caps of the venues.  The
engine uses its own to find an entry; the router uses its own to check it, to debit it, to exit it
and to unwind it, and a venue that is missing there raises.

The engine puts one cap on both legs of a pair: what the plan of the route passes on, bounded by the
price impact that `build_position_plan` allows.  The router computes the same number from the caps of
its two legs.
-/
import ArbitrageEngine.Execution.Entry

namespace ArbitrageEngine

open Lib.Effect Execution

/-- What the two tables read. -/
structure VenueConfig where
  fees : Config
  opinionTakerFeeRateBps : ℤ
  polymarketMaxSlippagePct : Dec
  predictFunMaxSlippagePct : Dec
  sxBetMaxSlippagePct : Dec
  myriadMaxSlippagePct : Dec
  opinionMaxSlippagePct : Dec
  maxProductionPriceImpact : Dec

/-! ## The table of the engine -/

namespace Engine

variable (config : VenueConfig)

/-- `_venue_fee_pct` of the engine. -/
def venueFeePct (venueLabel : String) (market : MarketSpec) : Except Exc Dec :=
  if venueLabel = "Polymarket" then .ok config.fees.polymarketTradingFeePct
  else if venueLabel = "Predict.fun" then
    .ok (Dec.div (market.predictFunFeeRateBps.getD config.fees.predictFunFeeRateBps : ℤ) 10000)
  else if venueLabel = "SX Bet" then
    let bps :=
      if market.venueALabel ≠ "Predict.fun" then
        market.predictFunFeeRateBps.getD config.fees.sxBetTakerFeeBps
      else config.fees.sxBetTakerFeeBps
    .ok (Dec.div (bps : ℤ) 10000)
  else if venueLabel = "Myriad" then .ok config.fees.myriadTradingFeePct
  else if venueLabel = "Opinion" then .ok (Dec.div (config.opinionTakerFeeRateBps : ℤ) 40000)
  else .error (.failed none)

/-- `_second_venue_slippage_pct`. -/
def secondVenueSlippagePct (venueLabel : String) : Dec :=
  if venueLabel = "SX Bet" then config.sxBetMaxSlippagePct
  else if venueLabel = "Opinion" then config.opinionMaxSlippagePct
  else config.predictFunMaxSlippagePct

/-- The `max_slippage_pct` that the plan of a route passes on. -/
def plannedSlippagePct : ExecutionRoute → Dec
  | .polymarketPredict => secondVenueSlippagePct config "Predict.fun"
  | .polymarketSx => secondVenueSlippagePct config "SX Bet"
  | .polymarketMyriad => config.myriadMaxSlippagePct
  | .predictMyriad => min (secondVenueSlippagePct config "Predict.fun") config.myriadMaxSlippagePct
  | .predictSx =>
      min (secondVenueSlippagePct config "Predict.fun") (secondVenueSlippagePct config "SX Bet")
  | .sxMyriad => min (secondVenueSlippagePct config "SX Bet") config.myriadMaxSlippagePct
  | .polymarketOpinion => secondVenueSlippagePct config "Opinion"
  | .predictOpinion =>
      min (secondVenueSlippagePct config "Predict.fun") (secondVenueSlippagePct config "Opinion")
  | .sxOpinion =>
      min (secondVenueSlippagePct config "SX Bet") (secondVenueSlippagePct config "Opinion")
  | .opinionMyriad => min (secondVenueSlippagePct config "Opinion") config.myriadMaxSlippagePct

/-- The cap on both legs of a route, as `build_position_plan` bounds it. -/
def slippageCap (route : ExecutionRoute) : Dec :=
  min (plannedSlippagePct config route) config.maxProductionPriceImpact

end Engine

/-! ## The table of the router -/

namespace Execution.Router

variable (router : Router) (config : VenueConfig)

/-- `_venue_slippage_cap`: "Opinion" has no cap here. -/
def venueSlippageCap (venueLabel : String) : Except Exc Dec := do
  let configured ←
    if venueLabel = "Polymarket" then pure config.polymarketMaxSlippagePct
    else if venueLabel = "Predict.fun" then pure config.predictFunMaxSlippagePct
    else if venueLabel = "SX Bet" then pure config.sxBetMaxSlippagePct
    else if venueLabel = "Myriad" then pure config.myriadMaxSlippagePct
    else throw (.failed none)
  pure (min configured config.maxProductionPriceImpact)

/-- The cap on both legs that the preflight guard checks the spread with. -/
def slippageCap : Except Exc Dec := do
  let first ← venueSlippageCap config (router.label .first)
  let second ← venueSlippageCap config (router.label .second)
  pure (min first second)

/-- `net_exit_values`. -/
def netExitValues (market : MarketSpec) (firstPrice secondPrice : Dec) : Except Exc (Dec × Dec) := do
  let firstFee ← venueFeePct config.fees (router.label .first) market
  let secondFee ← venueFeePct config.fees (router.label .second) market
  pure (Dec.mul firstPrice (Dec.sub 1 firstFee), Dec.mul secondPrice (Dec.sub 1 secondFee))

/-- `gross_entry_values`. -/
def grossEntryValues (market : MarketSpec) (firstPrice secondPrice : Dec) :
    Except Exc (Dec × Dec) := do
  let firstFee ← venueFeePct config.fees (router.label .first) market
  let secondFee ← venueFeePct config.fees (router.label .second) market
  pure (Dec.mul firstPrice (Dec.add 1 firstFee), Dec.mul secondPrice (Dec.add 1 secondFee))

end Execution.Router

namespace Execution

variable {router : Router} {config : VenueConfig} {market : MarketSpec}

/-! ## Decisions -/

/-- Every path that asks the table of the router reaches a decision. -/
structure Decides (router : Router) (config : VenueConfig) (market : MarketSpec) : Prop where
  exitCheck : ∀ firstPrice secondPrice, ∃ values,
    router.netExitValues config market firstPrice secondPrice = .ok values
  preflight : ∀ leg, ∃ cap, Router.venueSlippageCap config (router.label leg) = .ok cap
  fillDebit : ∀ (call : EntryLeg) leg, call.market = market → call.venueLabel = router.label leg →
    ∀ report, ∃ amount, Router.debitAmount config.fees call report = .ok amount
  unwindPnl : ∀ leg (answers : PnlAnswers) hardStop, answers.recordResult = .ok hardStop →
    answers.sendHtml = .ok () → ∀ entryPrice exitPrice contracts w, ∃ w',
      Router.recordUnwindPnl config.fees answers (router.label leg) market entryPrice exitPrice
        contracts w = .ok () w'

/-- A fee for both legs is all that the paths need of the table of fees. -/
theorem decides_of_fees
    (hfee : ∀ leg, ∃ fee, venueFeePct config.fees (router.label leg) market = .ok fee)
    (hcap : ∀ leg, ∃ cap, Router.venueSlippageCap config (router.label leg) = .ok cap) :
    Decides router config market where
  exitCheck firstPrice secondPrice := by
    obtain ⟨firstFee, hfirst⟩ := hfee .first
    obtain ⟨secondFee, hsecond⟩ := hfee .second
    unfold Router.netExitValues
    rw [hfirst, hsecond]
    exact ⟨_, rfl⟩
  preflight := hcap
  fillDebit call leg hmarket hlabel report := by
    obtain ⟨fee, hfee⟩ := hfee leg
    unfold Router.debitAmount
    rw [hmarket, hlabel, hfee]
    split
    · exact ⟨_, rfl⟩
    · exact ⟨_, rfl⟩
  unwindPnl leg answers hardStop hrecord hsend entryPrice exitPrice contracts w := by
    obtain ⟨fee, hfee⟩ := hfee leg
    unfold Router.recordUnwindPnl
    split
    · exact ⟨w, rfl⟩
    · -- the loss is recorded and announced by calls that do not raise
      rw [hfee]
      show ∃ w', whenever _ (Router.recordLoss answers _) w = .ok () w'
      unfold whenever Router.recordLoss
      split
      · rw [hrecord, hsend]
        show ∃ w', whenever (hardStop = true) (Lib.Effect.await (.ok ())) _ = .ok () w'
        unfold whenever
        split
        · exact ⟨_, rfl⟩
        · exact ⟨_, rfl⟩
      · exact ⟨w, rfl⟩

/-! ## Agreement -/

/-- The router and the engine have the same fee for each leg of the route and the same cap for both,
and every path of the router reaches a decision. -/
structure Covered (router : Router) (config : VenueConfig) (market : MarketSpec) : Prop where
  fees : ∀ leg, ∃ fee, venueFeePct config.fees (router.label leg) market = .ok fee ∧
    Engine.venueFeePct config (router.label leg) market = .ok fee
  caps : router.slippageCap config = .ok (Engine.slippageCap config router.route)
  decides : Decides router config market

/-- The route has no leg at Opinion; and where its first leg is at Polymarket, the cap of Polymarket
does not bind: the other venue or the price impact allows no more. -/
def TablesMeet (config : VenueConfig) : ExecutionRoute → Prop
  | .polymarketMyriad =>
      min config.myriadMaxSlippagePct config.maxProductionPriceImpact ≤
        config.polymarketMaxSlippagePct
  | .polymarketPredict =>
      min config.predictFunMaxSlippagePct config.maxProductionPriceImpact ≤
        config.polymarketMaxSlippagePct
  | .polymarketSx =>
      min config.sxBetMaxSlippagePct config.maxProductionPriceImpact ≤
        config.polymarketMaxSlippagePct
  | .predictMyriad | .predictSx | .sxMyriad => True
  | .polymarketOpinion | .predictOpinion | .sxOpinion | .opinionMyriad => False

/-- The tables of fees agree at every venue but Opinion. -/
theorem venueFeePct_engine {venueLabel : String} (h : venueLabel ≠ "Opinion") :
    Engine.venueFeePct config venueLabel market = venueFeePct config.fees venueLabel market := by
  unfold Engine.venueFeePct venueFeePct
  rw [if_neg h]

/-- Every venue of a route but Opinion has a fee. -/
theorem venueFeePct_ok (route : ExecutionRoute) (repository : Bool) (leg : Leg)
    (h : (Router.mk route repository).label leg ≠ "Opinion") :
    ∃ fee, venueFeePct config.fees ((Router.mk route repository).label leg) market = .ok fee := by
  cases route <;> cases leg <;> first | exact ⟨_, rfl⟩ | exact absurd rfl h

theorem venueSlippageCap_ok (route : ExecutionRoute) (repository : Bool) (leg : Leg)
    (h : (Router.mk route repository).label leg ≠ "Opinion") :
    ∃ cap, Router.venueSlippageCap config ((Router.mk route repository).label leg) = .ok cap := by
  cases route <;> cases leg <;> first | exact ⟨_, rfl⟩ | exact absurd rfl h

/-- Bounding two caps and taking the smaller is bounding the smaller. -/
theorem min_min_bound (a b bound : Dec) : min (min a bound) (min b bound) = min (min a b) bound := by
  rw [min_min_min_comm, min_self]

/-- The two caps of a route are the same number where Polymarket does not bound it any further. -/
theorem slippageCap_engine {route : ExecutionRoute} {repository : Bool}
    (hfirst : route.venueLabels.1 ≠ "Opinion") (hsecond : route.venueLabels.2 ≠ "Opinion") :
    (Router.mk route repository).slippageCap config = .ok (Engine.slippageCap config route) ↔
      TablesMeet config route := by
  -- Polymarket is the first venue: its cap is bounded by the other one or bounds it
  have hpolymarket : ∀ cap : Dec,
      min (min config.polymarketMaxSlippagePct config.maxProductionPriceImpact)
          (min cap config.maxProductionPriceImpact) = min cap config.maxProductionPriceImpact ↔
        min cap config.maxProductionPriceImpact ≤ config.polymarketMaxSlippagePct := by
    intro cap
    rw [min_eq_right_iff, le_min_iff]
    exact and_iff_left (min_le_right _ _)
  cases route with
  | polymarketMyriad | polymarketPredict | polymarketSx =>
      exact ⟨fun h => (hpolymarket _).mp (Except.ok.inj h),
        fun h => congrArg Except.ok ((hpolymarket _).mpr h)⟩
  | predictMyriad | predictSx | sxMyriad =>
      exact iff_of_true (congrArg Except.ok (min_min_bound _ _ _)) trivial
  | polymarketOpinion | predictOpinion | sxOpinion | opinionMyriad =>
      first | exact absurd rfl hfirst | exact absurd rfl hsecond

/-- No venue of a route whose tables meet is Opinion. -/
theorem TablesMeet.label_ne {route : ExecutionRoute} (h : TablesMeet config route)
    (repository : Bool) (leg : Leg) : (Router.mk route repository).label leg ≠ "Opinion" := by
  cases route with
  | polymarketOpinion | predictOpinion | sxOpinion | opinionMyriad => exact h.elim
  | polymarketMyriad | polymarketPredict | polymarketSx | predictMyriad | predictSx | sxMyriad =>
      cases leg <;> simp [Router.label, ExecutionRoute.venueLabels]

/-- A configuration with the default caps. -/
def defaultCaps : VenueConfig where
  fees :=
    { autoCloseEnabled := true
      exitSpreadPct := 1 / 100
      submitsOrders := true
      polymarketTradingFeePct := 0
      predictFunFeeRateBps := 0
      sxBetTakerFeeBps := 0
      myriadTradingFeePct := 0
      floatText := id
      unwindPrice := fun bid => max (1 / 100) (bid - 1 / 100) }
  opinionTakerFeeRateBps := 400
  polymarketMaxSlippagePct := 15 / 1000
  predictFunMaxSlippagePct := 15 / 1000
  sxBetMaxSlippagePct := 15 / 1000
  myriadMaxSlippagePct := 15 / 1000
  opinionMaxSlippagePct := 15 / 1000
  maxProductionPriceImpact := 15 / 1000

end Execution

end ArbitrageEngine
