/-
# ArbitrageEngine.Config.Loading -- `load_config`

What follows the venues: the markets, the modes and routes with the switch that turns the Opinion
venue off, the economics, the limits and the intervals.  `load_config` reads all of them.
-/
import ArbitrageEngine.Config.VenueLoading

namespace ArbitrageEngine.Config

open Lib (Dict FloatValue)

variable (lang : Language) (getenv : Environment)

/-! ## Markets -/

/-- `_is_scan_all_filter`. -/
def isScanAllFilter : Value → Bool
  | .array items =>
      items.isEmpty || items.any fun item =>
        match item with
        | .object entries => ["", "*"].contains (lang.strip (strAt lang entries "symbol" ""))
        | _ => false
  | _ => true

/-- `BinarySide(text)`. -/
def binarySide (s : String) : Option BinarySide :=
  if s = "YES" then some .yes else if s = "NO" then some .no else none

/-- `MappingStatus(text)`. -/
def mappingStatus (s : String) : Option MappingStatus :=
  if s = "CANDIDATE" then some .candidate
  else if s = "VERIFIED" then some .verified
  else if s = "REJECTED" then some .rejected
  else if s = "STALE" then some .stale
  else none

/-- `_parse_datetime`. -/
def parseDatetime : Value → Option (Option Time)
  | .null => some none
  | .text s =>
      if s = "" then some none
      else (lang.fromIsoFormat (s.replace "Z" "+00:00")).map some
  | _ => none

/-- `_parse_amm_pool`, of which only the presence is kept. -/
def parseAmmPool : Value → Option Bool
  | .object entries => do
      let _ ← (← entries.lookup "yes_reserve").toFloat lang
      let _ ← (← entries.lookup "no_reserve").toFloat lang
      let _ ← floatAt lang entries "fee_pct" 0
      pure true
  | _ => some false

/-- `str(item.get(first) or item.get(second) or default)`; where only one key is asked for, it is
both. -/
def strOrAt (item : Entries) (first second default : String) : String :=
  (((getD item first .null).orElse (getD item second .null)).orElse (.text default)).str lang

/-- `int(item[first]) if it is not None else int(item[second]) if that is not None else None`. -/
def optionalIntAt (item : Entries) (first second : String) : Option (Option ℤ) :=
  match getD item first .null, getD item second .null with
  | .null, .null => some none
  | .null, value => (value.toInt lang).map some
  | value, _ => (value.toInt lang).map some

/-- `item.get(first, item.get(second))`. -/
def firstOf (item : Entries) (first second : String) : Value :=
  getD item first (getD item second .null)

/-- `MarketSpec(...)` for one item of `markets`. -/
def loadMarket (item : Value) : Option ConfiguredMarket := do
  let item ← item.entries?
  let symbol ← item.lookup "symbol"
  let targetLabel ← item.lookup "target_label"
  let polymarketSide ← binarySide ((← item.lookup "polymarket_side").str lang)
  let predictFunSide ← binarySide (strOrAt lang item "second_leg_side" "predict_fun_side" "NO")
  let expiresAt ← parseDatetime lang (getD item "expires_at" .null)
  let _ ← optionalIntAt lang item "second_leg_fee_rate_bps" "predict_fun_fee_rate_bps"
  let precision ← optionalIntAt lang item "second_leg_price_precision" "predict_fun_price_precision"
  let hasAmmPool ← parseAmmPool lang (firstOf item "second_leg_amm_pool" "predict_fun_amm_pool")
  let myriadSide ← binarySide (strOrAt lang item "myriad_side" "myriad_side" "NO")
  let status ← mappingStatus
    (lang.upper (strOrAt lang item "mapping_status" "mapping_status" "CANDIDATE"))
  let _ ← parseDatetime lang (getD item "cutoff_at" .null)
  let verifiedRoutes ← (getD item "verified_routes" (.array [])).iter?
  pure
    { symbol := symbol.str lang
      targetLabel := targetLabel.str lang
      polymarketTokenId := strOrAt lang item "polymarket_token_id" "polymarket_token_id" ""
      polymarketSide := polymarketSide
      predictFunTokenId := strOrAt lang item "second_leg_token_id" "predict_fun_token_id" ""
      predictFunSide := predictFunSide
      venueALabel := strOrAt lang item "venue_a_label" "venue_a_label" "Polymarket"
      venueBLabel := strOrAt lang item "second_venue_label" "venue_b_label" "Predict.fun"
      expiresAt := expiresAt
      myriadMarketId := optionalStrAt lang item "myriad_market_id"
      mappingStatus := status
      verifiedRoutes := (verifiedRoutes.map (Value.str lang)).toFinset
      myriadSide := myriadSide
      hasAmmPool := hasAmmPool
      predictFunPricePrecision := precision }

/-- The markets and their filters. -/
def loadScanning (data : Entries) : Option Scanning := do
  let configured := getD data "markets" (.array [])
  let scanAll := truthAt data "scan_all" false || isScanAllFilter lang configured
  let items ← if scanAll then some [] else configured.iter?
  let markets ← items.mapM (loadMarket lang)
  let categories ← (getD data "categories_to_scan" (.array [.text "sport"])).iter?
  let sportsHours ← floatAt lang data "max_sports_market_horizon_hours" 48
  let cryptoHours ← floatAt lang data "max_crypto_market_horizon_hours" 24
  let hours ← entriesAt lang (Value.toFloat lang) data "max_market_horizon_hours_by_category"
  pure
    { scanAll := scanAll
      markets := markets
      categoriesToScan := categories.map (Value.str lang)
      marketHorizonFilterEnabled := truthAt data "market_horizon_filter_enabled" false
      maxSportsMarketHorizonHours := sportsHours
      maxCryptoMarketHorizonHours := cryptoHours
      maxMarketHorizonHoursByCategory := hours }

/-! ## Modes, routes and the kill switch -/

/-- `_parse_execution_mode`. -/
def parseExecutionMode (data : Entries) : Option ExecutionMode :=
  let raw := match truthy (getenv "ARBITRAGE_EXECUTION_MODE_OVERRIDE") with
    | some mode => Value.text mode
    | none => getD data "execution_mode" .null
  if raw.isBlank then
    some (if truthAt data "isTest" true then .paper
      else if truthAt data "shadow_mode" true then .shadow
      else .live)
  else
    let mode := lang.lower (raw.str lang)
    if mode = "paper" then some .paper
    else if mode = "shadow" then some .shadow
    else if mode = "canary" then some .canary
    else if mode = "live" then some .live
    else none

/-- `_database_url_with_overrides`. -/
def databaseUrlWithOverrides (value : Option String) : Option (Option String) :=
  match truthy value with
  | none => some value
  | some url =>
      let override := fun name =>
        optionalStr lang (((getenv name).map Value.text).getD .null)
      let host := override "ARBITRAGE_DATABASE_HOST_OVERRIDE"
      let port := override "ARBITRAGE_DATABASE_PORT_OVERRIDE"
      if host = none ∧ port = none then some (some url)
      else (lang.withHostAndPort host port url).map some

/-- `RouteConfig(...)`: the flags of a section, each read by `_strict_bool`. -/
def readRoutes (entries : Entries) (default : ExecutionRoute → Bool) : Option RouteConfig :=
  let flag := fun route => strictBoolAt lang entries (ExecutionRoute.name route) (default route)
  if ExecutionRoute.all.all fun route => (flag route).isSome then
    some fun route => (flag route).getD false
  else none

/-- The routes that are enabled where the file does not say. -/
def defaultRoutes (route : ExecutionRoute) : Bool :=
  route = .polymarketMyriad ∨ route = .polymarketPredict ∨ route = .predictMyriad

/-- `parsed_funded_routes`. -/
def readFundedRoutes (data : Entries) : Option (Option RouteConfig) :=
  match getD data "funded_routes" .null with
  | .null => some none
  | .object entries => (readRoutes lang entries fun _ => false).map some
  | _ => none

/-- The Opinion routes that the file asks for. -/
def requestedOpinionRoutes (routes : RouteConfig) (fundedRoutes : Option RouteConfig) :
    List ExecutionRoute :=
  opinionRoutes.filter fun route => routes route || (fundedRoutes.any fun funded => funded route)

/-- `replace(routes, **off)`. -/
def withoutOpinion (routes : RouteConfig) : RouteConfig := fun route =>
  !opinionRoutes.contains route && routes route

/-- `_apply_opinion_kill_switch`. -/
def applyOpinionKillSwitch (routes : RouteConfig) (fundedRoutes : Option RouteConfig)
    (enabled : Bool) : RouteConfig × Option RouteConfig × List ExecutionRoute :=
  let requested := requestedOpinionRoutes routes fundedRoutes
  if enabled || requested.isEmpty then (routes, fundedRoutes, [])
  else (withoutOpinion routes, fundedRoutes.map withoutOpinion, requested)

/-- The mode, the switches and the routes. -/
def loadPermissions (data : Entries) : Option Permissions := do
  let opinion ← sectionAt data "opinion"
  let routesRaw ← sectionAt data "routes"
  let executionMode ← parseExecutionMode lang getenv data
  let database := orText (getD data "database_url" .null) (getenv "DATABASE_URL")
  let databaseUrl ← databaseUrlWithOverrides lang getenv (optionalStr lang database)
  let instanceId := orText (getD data "runtime_instance_id" .null)
    (getenv "ARBITRAGE_RUNTIME_INSTANCE_ID")
  let parsedRoutes ← readRoutes lang routesRaw defaultRoutes
  let parsedFundedRoutes ← readFundedRoutes lang data
  let confirmed ← strictBool lang
    (getD data "live_trading_confirmed" (getD data "live_trading_confirm" (.bool false)))
  let (routes, fundedRoutes, suppressed) := applyOpinionKillSwitch parsedRoutes parsedFundedRoutes
    (truthAt data "enable_opinion" false && truthAt opinion "enabled" false)
  pure
    { isTest := truthAt data "isTest" true
      executionMode := executionMode
      liveTradingConfirmed := confirmed || getenv "LIVE_TRADING_CONFIRM" = some "YES"
      databaseUrl := databaseUrl
      runtimeInstanceId := (optionalStr lang instanceId).getD "global"
      enablePredictFun := truthAt data "enable_predict_fun" true
      enableSxBet := truthAt data "enable_sx_bet" false
      enableOpinion := truthAt data "enable_opinion" false
      routes := routes
      fundedRoutes := fundedRoutes
      suppressedRoutes := suppressed }

/-! ## Economics and limits -/

/-- `SpreadPolicy().route_floors`. -/
def defaultRouteFloors : Dict String FloatValue :=
  ((Dict.empty.set "polymarket_sx" (.nearest (15 / 1000))).set "polymarket_predict"
    (.nearest (25 / 1000))).set "polymarket_myriad" (.nearest (25 / 1000))

/-- `SpreadPolicy(...)`. -/
def loadSpreadPolicy (data : Entries) : Option SpreadPolicy := do
  let policy ← sectionAt data "spread_policy"
  let routeFloors ← entriesAt lang (fraction lang) policy "route_floors"
  let minExpectedProfitUsd ← floatAt lang policy "min_expected_profit_usd" (1 / 2)
  let depthBuffer ← floatAt lang policy "depth_buffer" (5 / 4)
  let adverseMove ← fractionAt lang policy "adverse_move_p95_pct" 0
  let adverseMoveByRoute ←
    entriesAt lang (fraction lang) policy "adverse_move_p95_pct_by_route"
  let safetyBuffer ← fractionAt lang policy "safety_buffer_pct" (25 / 10000)
  let fixedChainCostUsd ← floatAt lang policy "fixed_chain_cost_usd" 0
  let fixedChainCostByRoute ←
    entriesAt lang (Value.toFloat lang) policy "fixed_chain_cost_usd_by_route"
  let gasUnits ←
    entriesAt lang (readEntries lang (Value.toInt lang)) policy "gas_units_by_route"
  let nativeCeilings ←
    entriesAt lang (Value.toFloat lang) policy "native_token_usd_ceiling_by_chain"
  let gasPriceMultiplier ← floatAt lang policy "gas_price_multiplier" (3 / 2)
  let gasQuoteTtlSeconds ← floatAt lang policy "gas_quote_ttl_seconds" 15
  pure
    { routeFloors := if routeFloors.entries.isEmpty then defaultRouteFloors else routeFloors
      minExpectedProfitUsd := minExpectedProfitUsd
      depthBuffer := depthBuffer
      adverseMoveP95Pct := adverseMove
      adverseMoveP95PctByRoute := adverseMoveByRoute
      safetyBufferPct := safetyBuffer
      fixedChainCostUsd := fixedChainCostUsd
      fixedChainCostUsdByRoute := fixedChainCostByRoute
      gasUnitsByRoute := gasUnits
      nativeTokenUsdCeilingByChain := nativeCeilings
      gasPriceMultiplier := gasPriceMultiplier
      gasQuoteTtlSeconds := gasQuoteTtlSeconds
      requireLiveGasEstimate := truthAt policy "require_live_gas_estimate" false }

/-- `data.get("min_net_spread", data.get("min_entry_spread_pct", 0.05))`. -/
def entrySpread (data : Entries) : Value :=
  getD data "min_net_spread" (getD data "min_entry_spread_pct" (literal (5 / 100)))

/-- The limits. -/
def loadTradingLimits (data : Entries) : Option TradingLimits := do
  let maxOrderSize := getD data "max_order_size_usd" (literal 100)
  let positionSizeUsd ← (getD data "position_size_usd" maxOrderSize).toFloat lang
  let maxOrderSizeUsd ← maxOrderSize.toFloat lang
  let minNetSpread ← fraction lang (entrySpread data)
  let minMarketVolumeUsd ← floatAt lang data "min_market_volume_usd" 25000
  let minRetrySpreadPct ← fractionAt lang data "min_retry_spread_pct" (5 / 100)
  let maxConsecutiveApiErrors ← intAt lang data "max_consecutive_api_errors" 3
  let maxDailyLossUsd ← floatAt lang data "max_daily_loss_usd" 100
  let maxOpenPositions ← intAt lang data "max_open_positions" 5
  let maxProductionPriceImpact ←
    fractionAt lang data "max_production_price_impact" (15 / 1000)
  let maxTotalNotionalUsd ← floatAt lang data "max_total_notional_usd" 500
  let maxVenueExposureUsd ← floatAt lang data "max_venue_exposure_usd" 300
  let maxMarketExposureUsd ← floatAt lang data "max_market_exposure_usd" 100
  let maxOrdersPerMinute ← intAt lang data "max_orders_per_minute" 30
  let maxUnresolvedExposureUsd ← floatAt lang data "max_unresolved_exposure_usd" 25
  pure
    { positionSizeUsd := positionSizeUsd
      maxOrderSizeUsd := maxOrderSizeUsd
      minNetSpread := minNetSpread
      minMarketVolumeUsd := minMarketVolumeUsd
      minEntrySpreadPct := minNetSpread
      minRetrySpreadPct := minRetrySpreadPct
      maxConsecutiveApiErrors := maxConsecutiveApiErrors
      maxDailyLossUsd := maxDailyLossUsd
      maxOpenPositions := maxOpenPositions
      maxProductionPriceImpact := maxProductionPriceImpact
      maxTotalNotionalUsd := maxTotalNotionalUsd
      maxVenueExposureUsd := maxVenueExposureUsd
      maxMarketExposureUsd := maxMarketExposureUsd
      maxOrdersPerMinute := maxOrdersPerMinute
      maxUnresolvedExposureUsd := maxUnresolvedExposureUsd }

/-! ## Intervals and scheduling -/

/-- `int(data.get(key, data.get("predict_fun_fill_timeout_ms", 4_000)))`. -/
def fillTimeoutAt (data : Entries) (key : String) : Option ℤ :=
  (getD data key (getD data "predict_fun_fill_timeout_ms" (.int 4000))).toInt lang

/-- The time limits and intervals. -/
def loadTimings (data : Entries) : Option Timings := do
  let _ ← intAt lang data "poll_interval_ms" 250
  let polymarketFill ← intAt lang data "polymarket_fill_timeout_ms" 500
  let predictFunFill ← intAt lang data "predict_fun_fill_timeout_ms" 4000
  let sxBetFill ← fillTimeoutAt lang data "sx_bet_fill_timeout_ms"
  let myriadFill ← fillTimeoutAt lang data "myriad_fill_timeout_ms"
  let _ ← fillTimeoutAt lang data "opinion_fill_timeout_ms"
  let alertCooldown ← intAt lang data "signal_alert_cooldown_seconds" 900
  let balanceRefresh ← floatAt lang data "balance_refresh_interval_seconds" 5
  let samples ← intAt lang data "shadow_preflight_samples" 1
  let sampleInterval ← floatAt lang data "shadow_preflight_sample_interval_seconds" (15 / 100)
  let preflightCooldown ← floatAt lang data "shadow_preflight_cooldown_seconds" 30
  let evidenceTtl ← floatAt lang data "shadow_preflight_evidence_ttl_seconds" 900
  let discoveryStale ← floatAt lang data "discovery_max_stale_seconds" 900
  let cancelTimeout ← intAt lang data "cancel_reconcile_timeout_ms" 1000
  let orderbookAge ← floatAt lang data "max_orderbook_age_seconds" 2
  let heartbeat ← floatAt lang data "websocket_heartbeat_interval_seconds" 30
  let stale ← floatAt lang data "websocket_stale_after_seconds" 10
  let ordersInterval ← floatAt lang data "reconciliation_orders_interval_seconds" 5
  let fullInterval ← floatAt lang data "reconciliation_full_interval_seconds" 30
  let snapshotInterval ← floatAt lang data "market_data_snapshot_interval_seconds" 30
  pure
    { polymarketFillTimeoutMs := polymarketFill
      predictFunFillTimeoutMs := predictFunFill
      sxBetFillTimeoutMs := sxBetFill
      myriadFillTimeoutMs := myriadFill
      signalAlertCooldownSeconds := alertCooldown
      balanceRefreshIntervalSeconds := balanceRefresh
      shadowPreflightSamples := samples
      shadowPreflightSampleIntervalSeconds := sampleInterval
      shadowPreflightCooldownSeconds := preflightCooldown
      shadowPreflightEvidenceTtlSeconds := evidenceTtl
      discoveryMaxStaleSeconds := discoveryStale
      cancelReconcileTimeoutMs := cancelTimeout
      maxOrderbookAgeSeconds := orderbookAge
      websocketHeartbeatIntervalSeconds := heartbeat
      websocketStaleAfterSeconds := stale
      reconciliationOrdersIntervalSeconds := ordersInterval
      reconciliationFullIntervalSeconds := fullInterval
      marketDataSnapshotIntervalSeconds := snapshotInterval }

/-- The settings of the evaluations and of the market data. -/
def loadScheduling (data : Entries) : Option Scheduling := do
  let concurrent ← intAt lang data "max_concurrent_market_evaluations" 100
  let concurrentByRoute ← entriesAt lang (Value.toInt lang) data
    "max_concurrent_market_evaluations_by_route"
  let hold ← floatAt lang data "market_data_target_hold_seconds" 0
  let holdByRoute ← entriesAt lang (Value.toFloat lang) data
    "market_data_target_hold_seconds_by_route"
  let priority ← floatAt lang data "market_data_executable_priority_seconds" 0
  let priorityByRoute ← entriesAt lang (Value.toFloat lang) data
    "market_data_executable_priority_seconds_by_route"
  let exploration ← fractionAt lang data "market_data_exploration_fraction" (1 / 4)
  let explorationByRoute ← entriesAt lang (fraction lang) data
    "market_data_exploration_fraction_by_route"
  let prefetchByRoute ← entriesAt lang (Value.toInt lang) data
    "market_data_prefetch_multiplier_by_route"
  let weightByRoute ← entriesAt lang (Value.toInt lang) data "market_evaluation_weight_by_route"
  pure
    { maxConcurrentMarketEvaluations := concurrent
      maxConcurrentMarketEvaluationsByRoute := concurrentByRoute
      marketDataTargetHoldSeconds := hold
      marketDataTargetHoldSecondsByRoute := holdByRoute
      marketDataExecutablePrioritySeconds := priority
      marketDataExecutablePrioritySecondsByRoute := priorityByRoute
      marketDataExplorationFraction := exploration
      marketDataExplorationFractionByRoute := explorationByRoute
      marketDataPrefetchMultiplierByRoute := prefetchByRoute
      marketEvaluationWeightByRoute := weightByRoute }

/-! ## The whole file -/

/-- `load_config`, of the file's value. -/
def loadConfig (raw : Value) : Option AppConfig := do
  let data ← (expandEnv getenv raw).entries?
  let permissions ← loadPermissions lang getenv data
  let limits ← loadTradingLimits lang data
  let timings ← loadTimings lang data
  let scheduling ← loadScheduling lang data
  let scanning ← loadScanning lang data
  let venues ← loadVenues lang data
  let spreadPolicy ← loadSpreadPolicy lang data
  let telegram ← sectionAt data "telegram"
  let _ ← floatAt lang telegram "min_interval_seconds" 1
  let autoClose ← sectionAt data "auto_close"
  let exitSpreadPct ← fraction lang
    (getD autoClose "exit_spread_pct"
      (getD data "early_exit_spread_threshold_pct" (literal (15 / 1000))))
  let _ ← jsonBool (getD data "shadow_require_verified_mappings" (.bool false))
  let _ ← floatAt lang data "min_venue_balance_usd" 50
  let _ ← fractionAt lang data "auto_rebalance_ratio_threshold" (80 / 100)
  let _ ← fractionAt lang data "spread_guard_floor" (5 / 100)
  let observabilityPort ← intAt lang data "observability_port" 9108
  pure
    { permissions, limits, timings, scheduling, scanning, venues with
      spreadPolicy := spreadPolicy
      observabilityPort := observabilityPort
      enableAutoRebalance := truthAt data "enable_auto_rebalance" false
      autoCloseEnabled := truthAt autoClose "enabled" true
      exitSpreadPct := exitSpreadPct }

end ArbitrageEngine.Config
