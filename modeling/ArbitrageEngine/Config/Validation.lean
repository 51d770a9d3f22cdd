/-
# ArbitrageEngine.Config.Validation -- `validate_config`

The validation goes through its checks in order and collects the message of each one that fails; a
configuration is accepted when there is none.  The checks are kept in the groups in which they stand
in the source.  Each is written as the source compares, so NaN passes whatever is not asked for as a
range.
-/
import ArbitrageEngine.Config.Loading

namespace ArbitrageEngine.Config

open Lib (Dict FloatValue)
open Lib.FloatValue (le lt number nearest)

/-- A check: does it fail, and with which message? -/
abbrev Check : Type := Bool × String

/-- The messages of the checks that fail. -/
def failed (checks : List Check) : List String := (checks.filter (·.1)).map (·.2)

theorem failed_eq_nil_iff {checks : List Check} :
    failed checks = [] ↔ ∀ check ∈ checks, check.1 = false := by
  simp [failed, List.filter_eq_nil_iff]

variable (lang : Language)

/-! ## Texts and names -/

/-- The names of some routes, sorted. -/
def sortedNames (routes : List ExecutionRoute) : List String :=
  (routes.map ExecutionRoute.name).insertionSort (· ≤ ·)

/-- `", ".join(names)`. -/
def commaJoined (names : List String) : String := ", ".intercalate names

/-- `_is_private_key`. -/
def isPrivateKey (value : Option String) : Bool :=
  match truthy value with
  | none => false
  | some key =>
      let raw := match key.toList with
        | '0' :: 'x' :: rest => rest
        | key => key
      raw.length = 64 && raw.all fun c => "0123456789abcdefABCDEF".toList.contains c

/-- `text.rstrip("/")`. -/
def withoutSlashes (s : String) : String :=
  String.ofList (s.toList.reverse.dropWhile (· = '/')).reverse

/-- `not text` of a text that may be missing. -/
def isMissing (value : Option String) : Bool := truthy value = none

/-- Is a text the placeholder of a market that is not resolved yet? -/
def isPlaceholder (s : String) : Bool := s = "" || "replace-with".toList.isPrefixOf s.toList

/-- The words of a category, joined by single spaces. -/
def categoryWords (value : String) : String :=
  let plain := (lang.lower (lang.strip value)).toList.map fun c => if c = '_' then '-' else c
  " ".intercalate ((lang.split (String.ofList plain)).map String.ofList)

/-- `normalize_category`, of a name that is joined. -/
def normalizeCategory (normalized : String) : Option String :=
  if ["sport", "sports", "esport", "e-sports", "esports", "football", "soccer"].contains normalized
  then some "sports"
  else if ["crypto", "cryptocurrency", "blockchain", "web3", "digital-assets", "digital assets",
    "economics", "finance"].contains normalized then some "finance"
  else truthy (some normalized)

/-- `normalize_launch_category`. -/
def normalizeLaunchCategory (value : String) : Option String :=
  let raw := categoryWords lang value
  if ["crypto", "cryptocurrency", "blockchain", "web3", "digital-assets",
    "digital assets"].contains raw then some "crypto"
  else normalizeCategory raw

/-! ## Venues and routes -/

namespace AppConfig

variable (config : AppConfig)

/-- `live_execution`. -/
def liveExecution : Bool := config.executionMode.submitsOrders

/-- Is one of these routes funded? -/
def funds (routes : List ExecutionRoute) : Bool :=
  config.effectiveFundedRoutes.any fun route => routes.contains route

/-- `predict_required`. -/
def predictRequired : Bool :=
  config.funds [.polymarketPredict, .predictMyriad, .predictSx, .predictOpinion]

/-- `sx_required`. -/
def sxRequired : Bool := config.funds [.polymarketSx, .sxMyriad, .predictSx, .sxOpinion]

/-- `myriad_required`. -/
def myriadRequired : Bool :=
  config.funds [.polymarketMyriad, .predictMyriad, .sxMyriad, .opinionMyriad]

/-- `opinion_required`. -/
def opinionRequired : Bool := config.funds opinionRoutes

/-- `polymarket_required`. -/
def polymarketRequired : Bool :=
  config.funds [.polymarketMyriad, .polymarketPredict, .polymarketSx, .polymarketOpinion]

/-- `predict_active`. -/
def predictActive : Bool :=
  config.enablePredictFun && config.predictFun.enabled && !isMissing config.predictFun.apiKey

/-- `sx_active`. -/
def sxActive : Bool := config.enableSxBet && config.sxBet.enabled

/-- `opinion_active`. -/
def opinionActive : Bool := config.enableOpinion && config.opinion.enabled

/-- `second_routes_enabled`. -/
def secondRoutesEnabled : Bool :=
  ([ExecutionRoute.polymarketPredict, .predictMyriad, .predictSx, .predictOpinion, .polymarketSx,
    .sxMyriad, .sxOpinion] ++ opinionRoutes).any fun route => config.routes route

/-- The funded routes that are not enabled. -/
def unexpectedFundedRoutes : List ExecutionRoute :=
  config.effectiveFundedRoutes.filter fun route => !config.routes route

/-- The checks of the routes, the venues they need and what a canary or live run needs besides. -/
def routeChecks : List Check :=
  let live := config.liveExecution
  [(config.routes.enabledNames.isEmpty, "at least one route must be enabled"),
    (live && config.fundedRoutes.isNone,
      "canary/live requires an explicit funded_routes allowlist"),
    (live && config.effectiveFundedRoutes.isEmpty, "at least one funded route must be enabled"),
    (!config.unexpectedFundedRoutes.isEmpty,
      "funded_routes must be a subset of routes: " ++
        commaJoined (sortedNames config.unexpectedFundedRoutes)),
    (live && config.predictRequired && !(config.enablePredictFun && config.predictFun.enabled),
      "funded Predict.fun routes require Predict.fun to be enabled"),
    (live && config.sxRequired && !(config.enableSxBet && config.sxBet.enabled),
      "funded SX Bet routes require SX Bet to be enabled"),
    (live && config.myriadRequired && !config.myriadMarkets.enabled,
      "funded Myriad routes require myriad_markets.enabled=true"),
    (live && config.opinionRequired && !config.opinionActive,
      "funded Opinion routes require enable_opinion=true and opinion.enabled=true"),
    (!config.suppressedRoutes.isEmpty,
      (if config.enableOpinion then "opinion.enabled" else "enable_opinion") ++
        "=false disables the Opinion venue, so these routes cannot be enabled: " ++
        commaJoined (sortedNames config.suppressedRoutes)),
    (live && config.predictRequired && isMissing config.predictFun.apiKey,
      "PREDICT_FUN_API_KEY is required for funded Predict.fun execution"),
    (!config.predictActive && !config.sxActive && !config.myriadMarkets.enabled &&
        !config.opinionActive,
      "at least one hedge venue must be active: Predict.fun, SX Bet, Myriad, or Opinion"),
    (live && isMissing config.databaseUrl, "DATABASE_URL is required for canary/live execution"),
    (live && lang.strip config.runtimeInstanceId = "",
      "runtime_instance_id is required for canary/live execution"),
    (live && !config.liveTradingConfirmed,
      "LIVE_TRADING_CONFIRM=YES is required for canary/live execution")]

/-! ## Limits -/

/-- The narrower limits of a canary run. -/
def canaryChecks : List Check :=
  let canary := decide (config.executionMode = .canary)
  [(canary && lt (number 50) config.positionSizeUsd,
      "canary position_size_usd must not exceed $50 total ($25 per leg)"),
    (canary && 5 < config.maxOpenPositions, "canary max_open_positions must not exceed 5"),
    (canary && lt (number 10) config.maxDailyLossUsd,
      "canary max_daily_loss_usd must not exceed $10")]

/-- The smallest of the exposure limits, in the order in which they are compared. -/
def smallestExposureLimit : FloatValue :=
  FloatValue.smallest config.maxTotalNotionalUsd
    [config.maxVenueExposureUsd, config.maxMarketExposureUsd, config.maxUnresolvedExposureUsd]

/-- The checks of the reconciliation, of the exposure and of the sizes.  `required` is
`require_resolved_markets`. -/
def limitChecks (required : Bool) : List Check :=
  [(le config.reconciliationOrdersIntervalSeconds (number 0),
      "reconciliation_orders_interval_seconds must be positive"),
    (lt config.reconciliationFullIntervalSeconds config.reconciliationOrdersIntervalSeconds,
      "reconciliation_full_interval_seconds must be >= orders interval"),
    (le config.marketDataSnapshotIntervalSeconds (number 0),
      "market_data_snapshot_interval_seconds must be positive"),
    (le config.smallestExposureLimit (number 0), "all production exposure limits must be positive"),
    (config.maxOrdersPerMinute ≤ 0, "max_orders_per_minute must be positive"),
    (!(1 ≤ config.observabilityPort ∧ config.observabilityPort ≤ 65535),
      "observability_port must be between 1 and 65535"),
    (config.markets.isEmpty && (!config.scanAll || required),
      "markets must contain at least one market"),
    (le config.positionSizeUsd (number 0), "position_size_usd must be positive"),
    (le config.maxOrderSizeUsd (number 0), "max_order_size_usd must be positive"),
    (lt config.maxOrderSizeUsd config.positionSizeUsd,
      "position_size_usd must not exceed max_order_size_usd"),
    (le config.minNetSpread (number 0), "min_net_spread must be positive")]

/-! ## Spread policy -/

/-- `text.isdigit()`. -/
def isDigits (s : String) : Bool := s ≠ "" && s.toList.all lang.isDigit

/-- Is a chain's id or the value of it not positive?  None is a text that only looks like a
number. -/
def badChain (chainId : String) (notPositive : Bool) : Option Bool :=
  if isDigits lang chainId then
    (intOfText lang chainId).map fun n => decide (n ≤ 0) || notPositive
  else some true

/-- The checks of the economics up to the gas units. -/
def policyChecks : List Check :=
  let policy := config.spreadPolicy
  [(le policy.minExpectedProfitUsd (number 0),
      "spread_policy.min_expected_profit_usd must be positive"),
    (lt policy.depthBuffer (number 1), "spread_policy.depth_buffer must be at least 1"),
    (!(le (number 0) policy.adverseMoveP95Pct && lt policy.adverseMoveP95Pct (number 1)),
      "spread_policy.adverse_move_p95_pct must be between 0 and 1")] ++
  policy.adverseMoveP95PctByRoute.entries.map (fun e =>
    (lang.strip e.1 = "" || !(lt (number 0) e.2 && lt e.2 (number 1)),
      "spread_policy.adverse_move_p95_pct_by_route values must be between 0 and 1")) ++
  [(!(le (number 0) policy.safetyBufferPct && lt policy.safetyBufferPct (number 1)),
      "spread_policy.safety_buffer_pct must be between 0 and 1"),
    (lt policy.fixedChainCostUsd (number 0),
      "spread_policy.fixed_chain_cost_usd must be non-negative")] ++
  policy.fixedChainCostUsdByRoute.entries.map (fun e =>
    (lang.strip e.1 = "" || lt e.2 (number 0),
      "spread_policy.fixed_chain_cost_usd_by_route values must be non-negative"))

/-- The checks of the gas units and the native tokens. -/
def gasChecks : Option (List Check) := do
  let policy := config.spreadPolicy
  let units ← policy.gasUnitsByRoute.entries.mapM fun e => do
    let chains ← e.2.entries.mapM fun chain => do
      pure ((← badChain lang chain.1 (decide (chain.2 ≤ 0))),
        "spread_policy.gas_units_by_route requires positive numeric chains and gas units")
    pure ((lang.strip e.1 = "" || e.2.entries.isEmpty,
      "spread_policy.gas_units_by_route entries must contain at least one chain") :: chains)
  let ceilings ← policy.nativeTokenUsdCeilingByChain.entries.mapM fun chain => do
    pure ((← badChain lang chain.1 (le chain.2 (number 0))),
      "spread_policy.native_token_usd_ceiling_by_chain requires positive numeric chains and values")
  pure (units.flatten ++ ceilings ++
    [(lt policy.gasPriceMultiplier (number 1),
        "spread_policy.gas_price_multiplier must be at least 1"),
      (le policy.gasQuoteTtlSeconds (number 0),
        "spread_policy.gas_quote_ttl_seconds must be positive")])

/-- `routes_without_chain_cost`. -/
def routesWithoutChainCost : List ExecutionRoute :=
  config.effectiveFundedRoutes.filter fun route =>
    le (config.spreadPolicy.fixedChainCostFor route) (number 0)

/-- `gas_units_by_route.get(route, {})`. -/
def gasUnitsFor (route : ExecutionRoute) : List (String × ℤ) :=
  ((config.spreadPolicy.gasUnitsByRoute.get? route.name).map (·.entries)).getD []

/-- `routes_without_live_gas`. -/
def routesWithoutLiveGas : List ExecutionRoute :=
  config.effectiveFundedRoutes.filter fun route => (config.gasUnitsFor route).isEmpty

/-- `missing_native_price_chains`. -/
def missingNativePriceChains : List String :=
  (((config.effectiveFundedRoutes.flatMap config.gasUnitsFor).map Prod.fst).dedup.filter
    fun chain => le ((config.spreadPolicy.nativeTokenUsdCeilingByChain.get? chain).getD (number 0))
      (number 0)).insertionSort (· ≤ ·)

/-- The checks of the chain costs, which are made outside the test mode only. -/
def chainCostChecks : List Check :=
  let live := config.liveExecution && !config.isTest
  let liveGas := live && config.spreadPolicy.requireLiveGasEstimate
  [(live && !config.routesWithoutChainCost.isEmpty,
      "canary/live requires positive spread_policy fixed chain cost for: " ++
        commaJoined (config.routesWithoutChainCost.map ExecutionRoute.name)),
    (liveGas && !config.routesWithoutLiveGas.isEmpty,
      "canary/live requires spread_policy.gas_units_by_route for: " ++
        commaJoined (config.routesWithoutLiveGas.map ExecutionRoute.name)),
    (liveGas && !config.missingNativePriceChains.isEmpty,
      "canary/live requires native-token USD ceilings for chains: " ++
        commaJoined config.missingNativePriceChains)]

/-- The checks of the floors, of the retry spread and of the volume. -/
def floorChecks : List Check :=
  config.spreadPolicy.routeFloors.entries.map (fun e =>
    (lang.strip e.1 = "" || !(lt (number 0) e.2 && lt e.2 (number 1)),
      "spread_policy.route_floors values must be between 0 and 1")) ++
  [(le config.minRetrySpreadPct (number 0) || lt config.minEntrySpreadPct config.minRetrySpreadPct,
      "min_retry_spread_pct must be positive and no greater than min_entry_spread_pct"),
    (lt config.minMarketVolumeUsd (number 0), "min_market_volume_usd must be non-negative")]

/-! ## Scanning and scheduling -/

/-- `configured_categories`. -/
def configuredCategories : List String :=
  (config.categoriesToScan.filterMap (normalizeLaunchCategory lang)).dedup

/-- `missing_category_horizons`. -/
def missingCategoryHorizons : List String :=
  let known := ["sports", "crypto"] ++
    config.maxMarketHorizonHoursByCategory.keys.filterMap (normalizeLaunchCategory lang)
  ((config.configuredCategories lang).filter fun category =>
    !known.contains category).insertionSort (· ≤ ·)

/-- The checks of the horizons and the categories. -/
def horizonChecks : List Check :=
  let live := config.liveExecution && config.scanAll
  [(le config.maxSportsMarketHorizonHours (number 0),
      "max_sports_market_horizon_hours must be positive"),
    (le config.maxCryptoMarketHorizonHours (number 0),
      "max_crypto_market_horizon_hours must be positive")] ++
  config.maxMarketHorizonHoursByCategory.entries.flatMap (fun e =>
    [((normalizeLaunchCategory lang e.1).isNone,
        "max_market_horizon_hours_by_category keys must be non-empty"),
      (le e.2 (number 0), "max_market_horizon_hours_by_category values must be positive")]) ++
  [(live && !config.marketHorizonFilterEnabled,
      "scan_all canary/live requires market_horizon_filter_enabled=true"),
    (live && (config.configuredCategories lang).isEmpty,
      "scan_all canary/live requires at least one configured category"),
    (live && !(config.missingCategoryHorizons lang).isEmpty,
      "scan_all canary/live requires max_market_horizon_hours_by_category for: " ++
        commaJoined (config.missingCategoryHorizons lang))]

/-- The checks of what stops the trading, and of the preflight samples. -/
def circuitChecks : List Check :=
  [(config.maxConsecutiveApiErrors ≤ 0, "max_consecutive_api_errors must be positive"),
    (config.enableAutoRebalance,
      "enable_auto_rebalance=true is unsupported; bridge execution is intentionally disabled"),
    (le config.maxDailyLossUsd (number 0), "max_daily_loss_usd must be positive"),
    (config.maxOpenPositions ≤ 0, "max_open_positions must be positive"),
    (le config.balanceRefreshIntervalSeconds (number 0),
      "balance_refresh_interval_seconds must be positive"),
    (config.maxConcurrentMarketEvaluations ≤ 0,
      "max_concurrent_market_evaluations must be positive"),
    (!(1 ≤ config.shadowPreflightSamples ∧ config.shadowPreflightSamples ≤ 5),
      "shadow_preflight_samples must be between 1 and 5"),
    (!(le (number 0) config.shadowPreflightSampleIntervalSeconds &&
        le config.shadowPreflightSampleIntervalSeconds (number 1)),
      "shadow_preflight_sample_interval_seconds must be between 0 and 1"),
    (lt config.shadowPreflightCooldownSeconds (number 0),
      "shadow_preflight_cooldown_seconds must be non-negative"),
    (!(lt (number 0) config.shadowPreflightEvidenceTtlSeconds &&
        le config.shadowPreflightEvidenceTtlSeconds (number 3600)),
      "shadow_preflight_evidence_ttl_seconds must be between 0 and 3600")]

/-- Is there an entry under no route's name, or with a bad value? -/
def anyBadEntry {α : Type} (bad : α → Bool) (byRoute : Dict String α) : Bool :=
  byRoute.entries.any fun e =>
    !(ExecutionRoute.all.map ExecutionRoute.name).contains e.1 || bad e.2

/-- The checks of the market data and the evaluations, and of the age of what is read. -/
def schedulingChecks : List Check :=
  [(lt config.marketDataTargetHoldSeconds (number 0),
      "market_data_target_hold_seconds must be non-negative"),
    (anyBadEntry (fun limit => limit ≤ 0 || config.maxConcurrentMarketEvaluations < limit)
        config.maxConcurrentMarketEvaluationsByRoute,
      "max_concurrent_market_evaluations_by_route requires known routes and " ++
        "values between 1 and max_concurrent_market_evaluations"),
    (anyBadEntry (fun seconds => lt seconds (number 0)) config.marketDataTargetHoldSecondsByRoute,
      "market_data_target_hold_seconds_by_route requires known routes and non-negative values"),
    (lt config.marketDataExecutablePrioritySeconds (number 0),
      "market_data_executable_priority_seconds must be non-negative"),
    (anyBadEntry (fun seconds => lt seconds (number 0))
        config.marketDataExecutablePrioritySecondsByRoute,
      "market_data_executable_priority_seconds_by_route requires known routes " ++
        "and non-negative values"),
    (!(lt (number 0) config.marketDataExplorationFraction &&
        le config.marketDataExplorationFraction (number 1)),
      "market_data_exploration_fraction must be between 0 and 1"),
    (anyBadEntry (fun fraction => !(lt (number 0) fraction && le fraction (number 1)))
        config.marketDataExplorationFractionByRoute,
      "market_data_exploration_fraction_by_route requires known routes and values " ++
        "between 0 and 1"),
    (anyBadEntry (fun multiplier => !(1 ≤ multiplier ∧ multiplier ≤ 4))
        config.marketDataPrefetchMultiplierByRoute,
      "market_data_prefetch_multiplier_by_route requires known routes and values " ++
        "between 1 and 4"),
    (anyBadEntry (fun weight => !(1 ≤ weight ∧ weight ≤ 4)) config.marketEvaluationWeightByRoute,
      "market_evaluation_weight_by_route requires known routes and values between 1 and 4"),
    (lt config.discoveryMaxStaleSeconds (number 900),
      "discovery_max_stale_seconds must be at least 900"),
    (config.cancelReconcileTimeoutMs < 100, "cancel_reconcile_timeout_ms must be at least 100"),
    (!(le (number (3 / 2)) config.maxOrderbookAgeSeconds &&
        le config.maxOrderbookAgeSeconds (number 2)),
      "max_orderbook_age_seconds must be between 1.5 and 2.0"),
    (!(lt (number 0) config.maxProductionPriceImpact &&
        le config.maxProductionPriceImpact (nearest (5 / 100))),
      "max_production_price_impact must be between 0 and 0.05"),
    (le config.websocketHeartbeatIntervalSeconds (number 0),
      "websocket_heartbeat_interval_seconds must be positive"),
    (le config.websocketStaleAfterSeconds (number 0),
      "websocket_stale_after_seconds must be positive")]

/-! ## Venues -/

/-- The checks that hold for every venue, whether it is used or not. -/
def venueChecks : List Check :=
  [(le config.predictFun.maxSlippagePct (number 0),
      "predict_fun.max_slippage_pct must be positive"),
    (le config.polymarket.maxSlippagePct (number 0),
      "polymarket.max_slippage_pct must be positive"),
    (config.polymarket.confirmations < 1, "polymarket.confirmations must be at least 1"),
    (config.polymarket.redemptionGasLimit ≤ 0, "polymarket.redemption_gas_limit must be positive"),
    (le config.myriadMarkets.maxSlippagePct (number 0),
      "myriad_markets.max_slippage_pct must be positive"),
    (!(0 ≤ config.predictFun.feeRateBps ∧ config.predictFun.feeRateBps < 10000),
      "predict_fun.fee_rate_bps must be between 0 and 9999"),
    (config.polymarketFillTimeoutMs < 300,
      "polymarket_fill_timeout_ms must be at least 300 for production-safe CLOB fills"),
    (config.predictFunFillTimeoutMs < 3600,
      "predict_fun_fill_timeout_ms must be at least 3600 for Predict.fun/Web3 fills"),
    (config.sxBetFillTimeoutMs < 3600,
      "sx_bet_fill_timeout_ms must be at least 3600 for SX Bet/Web3 fills"),
    (config.myriadFillTimeoutMs < 3600,
      "myriad_fill_timeout_ms must be at least 3600 for Myriad/Web3 fills"),
    (config.signalAlertCooldownSeconds < 0,
      "signal_alert_cooldown_seconds must be non-negative"),
    (lt config.exitSpreadPct (number 0), "auto_close.exit_spread_pct must be non-negative"),
    (!([56, 97].contains config.predictFun.chainId),
      "predict_fun.chain_id must be 56 for BNB mainnet or 97 for BNB testnet"),
    (!(["mainnet", "testnet"].contains config.predictFun.network),
      "predict_fun.network must be mainnet or testnet"),
    (config.predictFun.precision ≤ 0, "predict_fun.precision must be positive")]

/-- The checks of SX Bet. -/
def sxBetChecks : List Check :=
  let sx := config.sxBet
  let v3 := decide (sx.apiVersion = "v3")
  let toronto := decide (sx.environment = "toronto")
  let apiUrl := if toronto then "https://api.toronto.sx.bet" else "https://api.sx.bet"
  let wsUrl :=
    if toronto then "wss://realtime.toronto.sx.bet/connection/websocket"
    else "wss://realtime.sx.bet/connection/websocket"
  [(!(["v2", "v3"].contains sx.apiVersion), "sx_bet.api_version must be v2 or v3"),
    (!(["mainnet", "toronto"].contains sx.environment),
      "sx_bet.environment must be mainnet or toronto"),
    (!(["IOC", "FOK"].contains sx.timeInForce), "sx_bet.time_in_force must be IOC or FOK"),
    (config.liveExecution && config.sxRequired && v3 && sx.timeInForce ≠ "FOK",
      "SX Bet V3 funded execution requires sx_bet.time_in_force=FOK"),
    (sx.apiVersion = "v2" && sx.chainId ≠ 4162, "sx_bet.chain_id must be 4162 for V2"),
    (v3 && withoutSlashes sx.apiBaseUrl ≠ apiUrl,
      "SX Bet V3 " ++ sx.environment ++ " must use the official API host"),
    (v3 && withoutSlashes sx.wsUrl ≠ wsUrl,
      "SX Bet V3 " ++ sx.environment ++ " must use the official realtime host"),
    (v3 && sx.environment = "mainnet" && !sx.allowV3Mainnet,
      "SX Bet V3 mainnet requires sx_bet.allow_v3_mainnet=true after operator cutover")]

/-- The checks of Myriad, where it is enabled. -/
def myriadChecks : List Check :=
  let myriad := config.myriadMarkets
  [(!(50 ≤ myriad.orderBookTtlMs ∧ myriad.orderBookTtlMs ≤ 1500),
      "myriad_markets.order_book_ttl_ms must be between 50 and 1500"),
    (myriad.websocketStaleAfterMs < myriad.orderBookTtlMs,
      "myriad_markets.websocket_stale_after_ms must be >= order_book_ttl_ms"),
    (config.liveExecution && config.myriadRequired && isMissing myriad.privateKey,
      "MYRIAD_PRIVATE_KEY is required when myriad_markets.enabled=true"),
    (myriad.chainId ≠ 56, "myriad_markets.chain_id must be 56"),
    (!(le (number 0) myriad.tradingFeePct && lt myriad.tradingFeePct (number 1)),
      "myriad_markets.trading_fee_pct must be between 0 and 1"),
    (!myriad.collateralTokens.contains myriad.collateralSymbol,
      "myriad_markets.collateral_symbol must exist in myriad_markets.collateral_tokens"),
    (myriad.confirmations < 1, "myriad_markets.confirmations must be at least 1"),
    (myriad.redemptionGasLimit ≤ 0, "myriad_markets.redemption_gas_limit must be positive")]

/-- The checks of Opinion, where it is active. -/
def opinionChecks : List Check :=
  let opinion := config.opinion
  let funded := config.opinionRequired && config.liveExecution
  [(opinion.apiBaseUrl = "", "opinion.api_base_url is required when Opinion is enabled"),
    (opinion.wsUrl = "", "opinion.ws_url is required when Opinion is enabled"),
    (opinion.chainId ≤ 0, "opinion.chain_id must be positive"),
    (!(0 ≤ opinion.takerFeeRateBps ∧ opinion.takerFeeRateBps < 10000),
      "opinion.taker_fee_rate_bps must be between 0 and 10000"),
    (lt opinion.minimumFeeUsd (number 0), "opinion.minimum_fee_usd must be non-negative"),
    (le opinion.minimumNotionalUsd (number 0), "opinion.minimum_notional_usd must be positive"),
    (!(0 < opinion.pricePrecision ∧ opinion.pricePrecision ≤ 18),
      "opinion.price_precision must be between 1 and 18"),
    (opinion.orderBookTtlMs ≤ 0, "opinion.order_book_ttl_ms must be positive"),
    (le opinion.publicRequestRatePerSecond (number 0),
      "opinion.public_request_rate_per_second must be positive"),
    (le opinion.authenticatedRequestRatePerSecond (number 0),
      "opinion.authenticated_request_rate_per_second must be positive"),
    (!(0 < opinion.marketPageLimit ∧ opinion.marketPageLimit ≤ 20),
      "opinion.market_page_limit must be between 1 and 20"),
    (funded && isMissing opinion.apiKey,
      "OPINION_API_KEY is required for funded Opinion execution"),
    (funded && !isPrivateKey opinion.privateKey,
      "OPINION_PRIVATE_KEY must be a 64 hex character ECDSA key, with optional 0x prefix"),
    (funded && opinion.rpcUrl = "",
      "OPINION_RPC_URL or opinion.rpc_url is required for funded Opinion execution")]

/-- The checks of the networks. -/
def networkChecks : List Check :=
  config.web3Networks.entries.flatMap fun e =>
    [(e.2.rpcUrl = "" && config.liveExecution, "web3_networks." ++ e.1 ++ ".rpc_url is required"),
      (e.2.chainId ≤ 0, "web3_networks." ++ e.1 ++ ".chain_id must be positive"),
      (e.2.confirmations < 0, "web3_networks." ++ e.1 ++ ".confirmations must be non-negative")]

end AppConfig

end ArbitrageEngine.Config
