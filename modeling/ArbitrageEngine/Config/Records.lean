/-
# ArbitrageEngine.Config.Records -- the loaded configuration

The records of `config.py`, with the fields that its validation reads.  `AppConfig` is one flat
record there; here its fields are grouped as the file groups them, and the groups are its parents.
-/
import ArbitrageEngine.Config.Values
import ArbitrageEngine.Engine.MarketTargets

namespace ArbitrageEngine.Config

open Lib (Dict FloatValue)

/-! ## Modes and routes -/

inductive ExecutionMode
  | paper
  | shadow
  | canary
  | live
deriving DecidableEq

/-- `ExecutionMode.submits_orders`. -/
def ExecutionMode.submitsOrders (mode : ExecutionMode) : Bool := mode = canary ∨ mode = live

/-- `OPINION_ROUTES`. -/
def opinionRoutes : List ExecutionRoute :=
  [.polymarketOpinion, .predictOpinion, .sxOpinion, .opinionMyriad]

/-- `RouteConfig`: the flag of each route. -/
abbrev RouteConfig : Type := ExecutionRoute → Bool

/-- `RouteConfig.enabled_names`. -/
def RouteConfig.enabledNames (routes : RouteConfig) : List ExecutionRoute :=
  ExecutionRoute.all.filter routes

theorem mem_all (route : ExecutionRoute) : route ∈ ExecutionRoute.all := by
  cases route <;> decide

@[simp]
theorem mem_enabledNames {routes : RouteConfig} {route : ExecutionRoute} :
    route ∈ routes.enabledNames ↔ routes route = true := by
  simp [RouteConfig.enabledNames, mem_all]

/-! ## Venues -/

structure PolymarketConfig where
  privateKey : Option String
  signatureType : ℤ
  funder : Option String
  apiKey : Option String
  apiSecret : Option String
  apiPassphrase : Option String
  maxSlippagePct : FloatValue
  rpcUrl : String
  conditionalTokensAddress : String
  collateralTokenAddress : String
  confirmations : ℤ
  redemptionGasLimit : ℤ

structure PredictFunConfig where
  enabled : Bool
  privateKey : Option String
  rpcUrl : String
  chainId : ℤ
  network : String
  apiBaseUrl : Option String
  apiKey : Option String
  marketAbiPath : Option String
  feeRateBps : ℤ
  precision : ℤ
  maxSlippagePct : FloatValue

structure SxBetConfig where
  enabled : Bool
  apiBaseUrl : String
  apiKey : Option String
  privateKey : Option String
  rpcUrl : String
  chainId : ℤ
  wsUrl : String
  maxSlippagePct : FloatValue
  apiVersion : String
  environment : String
  timeInForce : String
  allowV3Mainnet : Bool

structure MyriadMarketsConfig where
  privateKey : Option String
  chainId : ℤ
  collateralTokens : List String
  collateralSymbol : String
  tradingFeePct : FloatValue
  maxSlippagePct : FloatValue
  enabled : Bool
  orderBookTtlMs : ℤ
  websocketStaleAfterMs : ℤ
  confirmations : ℤ
  redemptionGasLimit : ℤ

structure OpinionConfig where
  enabled : Bool
  apiBaseUrl : String
  wsUrl : String
  apiKey : Option String
  privateKey : Option String
  rpcUrl : String
  chainId : ℤ
  takerFeeRateBps : ℤ
  minimumFeeUsd : FloatValue
  minimumNotionalUsd : FloatValue
  orderBookTtlMs : ℤ
  pricePrecision : ℤ
  marketPageLimit : ℤ
  publicRequestRatePerSecond : FloatValue
  authenticatedRequestRatePerSecond : FloatValue

structure Web3NetworkConfig where
  rpcUrl : String
  chainId : ℤ
  confirmations : ℤ

/-- A market of the file, with the fields of `MarketSpec` that the validation reads besides those of
a listed one. -/
structure ConfiguredMarket extends Engine.ListedMarket where
  /-- Is there a `predict_fun_amm_pool`? -/
  hasAmmPool : Bool
  predictFunPricePrecision : Option ℤ

/-! ## Economics -/

structure SpreadPolicy where
  routeFloors : Dict String FloatValue
  minExpectedProfitUsd : FloatValue
  depthBuffer : FloatValue
  adverseMoveP95Pct : FloatValue
  adverseMoveP95PctByRoute : Dict String FloatValue
  safetyBufferPct : FloatValue
  fixedChainCostUsd : FloatValue
  fixedChainCostUsdByRoute : Dict String FloatValue
  gasUnitsByRoute : Dict String (Dict String ℤ)
  nativeTokenUsdCeilingByChain : Dict String FloatValue
  gasPriceMultiplier : FloatValue
  gasQuoteTtlSeconds : FloatValue
  requireLiveGasEstimate : Bool

namespace SpreadPolicy

/-- `threshold_for`. -/
def thresholdFor (policy : SpreadPolicy) (route : ExecutionRoute) : FloatValue :=
  let floor := (policy.routeFloors.get? route.name).getD (.number 0)
  let adverseMove := (policy.adverseMoveP95PctByRoute.get? route.name).getD policy.adverseMoveP95Pct
  floor.larger (adverseMove.add policy.safetyBufferPct)

/-- `fixed_chain_cost_for`. -/
def fixedChainCostFor (policy : SpreadPolicy) (route : ExecutionRoute) : FloatValue :=
  (policy.fixedChainCostUsdByRoute.get? route.name).getD policy.fixedChainCostUsd

end SpreadPolicy

/-! ## The configuration -/

/-- What is traded, how much of it, and at which loss trading pauses. -/
structure TradingLimits where
  positionSizeUsd : FloatValue
  maxOrderSizeUsd : FloatValue
  minNetSpread : FloatValue
  minMarketVolumeUsd : FloatValue
  minEntrySpreadPct : FloatValue
  minRetrySpreadPct : FloatValue
  maxConsecutiveApiErrors : ℤ
  maxDailyLossUsd : FloatValue
  maxOpenPositions : ℤ
  maxProductionPriceImpact : FloatValue
  maxTotalNotionalUsd : FloatValue
  maxVenueExposureUsd : FloatValue
  maxMarketExposureUsd : FloatValue
  maxOrdersPerMinute : ℤ
  maxUnresolvedExposureUsd : FloatValue

/-- Time limits and intervals. -/
structure Timings where
  polymarketFillTimeoutMs : ℤ
  predictFunFillTimeoutMs : ℤ
  sxBetFillTimeoutMs : ℤ
  myriadFillTimeoutMs : ℤ
  signalAlertCooldownSeconds : ℤ
  balanceRefreshIntervalSeconds : FloatValue
  shadowPreflightSamples : ℤ
  shadowPreflightSampleIntervalSeconds : FloatValue
  shadowPreflightCooldownSeconds : FloatValue
  shadowPreflightEvidenceTtlSeconds : FloatValue
  discoveryMaxStaleSeconds : FloatValue
  cancelReconcileTimeoutMs : ℤ
  maxOrderbookAgeSeconds : FloatValue
  websocketHeartbeatIntervalSeconds : FloatValue
  websocketStaleAfterSeconds : FloatValue
  reconciliationOrdersIntervalSeconds : FloatValue
  reconciliationFullIntervalSeconds : FloatValue
  marketDataSnapshotIntervalSeconds : FloatValue

/-- How the market data and the evaluations are scheduled. -/
structure Scheduling where
  maxConcurrentMarketEvaluations : ℤ
  maxConcurrentMarketEvaluationsByRoute : Dict String ℤ
  marketDataTargetHoldSeconds : FloatValue
  marketDataTargetHoldSecondsByRoute : Dict String FloatValue
  marketDataExecutablePrioritySeconds : FloatValue
  marketDataExecutablePrioritySecondsByRoute : Dict String FloatValue
  marketDataExplorationFraction : FloatValue
  marketDataExplorationFractionByRoute : Dict String FloatValue
  marketDataPrefetchMultiplierByRoute : Dict String ℤ
  marketEvaluationWeightByRoute : Dict String ℤ

/-- Which markets are scanned, and how far ahead. -/
structure Scanning where
  scanAll : Bool
  markets : List ConfiguredMarket
  categoriesToScan : List String
  marketHorizonFilterEnabled : Bool
  maxSportsMarketHorizonHours : FloatValue
  maxCryptoMarketHorizonHours : FloatValue
  maxMarketHorizonHoursByCategory : Dict String FloatValue

/-- The mode, the venues' switches and the routes. -/
structure Permissions where
  isTest : Bool
  executionMode : ExecutionMode
  liveTradingConfirmed : Bool
  databaseUrl : Option String
  runtimeInstanceId : String
  enablePredictFun : Bool
  enableSxBet : Bool
  enableOpinion : Bool
  routes : RouteConfig
  fundedRoutes : Option RouteConfig
  /-- `suppressed_routes`: those that the kill switch forced off. -/
  suppressedRoutes : List ExecutionRoute

structure Venues where
  polymarket : PolymarketConfig
  predictFun : PredictFunConfig
  sxBet : SxBetConfig
  myriadMarkets : MyriadMarketsConfig
  opinion : OpinionConfig
  web3Networks : Dict String Web3NetworkConfig

structure AppConfig extends Permissions, TradingLimits, Timings, Scheduling, Scanning, Venues where
  spreadPolicy : SpreadPolicy
  observabilityPort : ℤ
  enableAutoRebalance : Bool
  /-- `auto_close.enabled`. -/
  autoCloseEnabled : Bool
  /-- `auto_close.exit_spread_pct`. -/
  exitSpreadPct : FloatValue

namespace AppConfig

/-- `effective_funded_routes`. -/
def effectiveFundedRoutes (config : AppConfig) : List ExecutionRoute :=
  (config.fundedRoutes.getD config.routes).enabledNames

/-- `dynamic_threshold`: the least net spread at which a route is entered. -/
def dynamicThreshold (config : AppConfig) (route : ExecutionRoute) : FloatValue :=
  config.minNetSpread.larger (config.spreadPolicy.thresholdFor route)

/-- The venue of a label, by its switches; Polymarket has none. -/
def venueEnabled (config : AppConfig) (venue : String) : Bool :=
  if venue = "Predict.fun" then config.enablePredictFun && config.predictFun.enabled
  else if venue = "SX Bet" then config.enableSxBet && config.sxBet.enabled
  else if venue = "Myriad" then config.myriadMarkets.enabled
  else if venue = "Opinion" then config.enableOpinion && config.opinion.enabled
  else true

end AppConfig

end ArbitrageEngine.Config
