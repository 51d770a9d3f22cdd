/-
# ArbitrageEngine.Config.Acceptance -- the configurations that are accepted

The last groups of checks, those of the markets and of the keys, and with them `validate_config`.  A
file is accepted when it loads and no check of its configuration fails.
-/
import ArbitrageEngine.Config.Validation

namespace ArbitrageEngine.Config

open Lib.FloatValue (le lt number)

variable (lang : Language)

namespace AppConfig

variable (config : AppConfig)

/-! ## Markets -/

/-- `prefix` of the messages about a market. -/
def marketPrefix (index : ℕ) : String := "markets[" ++ toString index ++ "]"

/-- `validated_routes`: the routes that are approved, and the one of the labels. -/
def isValidatedRoute (market : ConfiguredMarket) (route : ExecutionRoute) : Bool :=
  decide (route.name ∈ market.verifiedRoutes) ||
    Engine.executionRouteForMarket market.toMarketSpec = some route

/-- Is a route of the market enabled whose two sides do not make a hedge? -/
def hasInconsistentSides (market : ConfiguredMarket) (route : ExecutionRoute) : Bool :=
  config.routes route && isValidatedRoute market route &&
    (Engine.executionTokens market.toListedMarket route).isSome &&
    !Engine.executionSidesAreComplementary market.toListedMarket route

/-- The checks of one market.  `resolved` is `require_resolved_markets` and `verified` is
`require_verified_mappings`. -/
def marketChecks (resolved verified : Bool) (index : ℕ) (market : ConfiguredMarket) :
    List Check :=
  let live := config.liveExecution && verified
  let tag := marketPrefix index
  -- what a market without a search term, or every market once it must be resolved, has to bring
  let needed := resolved || !(market.symbol ≠ "" && market.targetLabel ≠ "")
  [(live && market.mappingStatus ≠ .verified,
      tag ++ ".mapping_status must be VERIFIED for canary/live execution"),
    (live && decide (market.verifiedRoutes = ∅),
      tag ++ ".verified_routes must contain at least one approved route")] ++
  ExecutionRoute.all.map (fun route =>
    (config.hasInconsistentSides market route,
      tag ++ " execution orientation is inconsistent for route " ++ route.name)) ++
  [(market.predictFunPricePrecision.any fun precision => !(0 ≤ precision ∧ precision ≤ 18),
      tag ++ ".predict_fun_price_precision must be between 0 and 18"),
    (!config.scanAll && needed && isPlaceholder market.polymarketTokenId,
      tag ++ ".polymarket_token_id or discovery fields symbol/target_label are required"),
    (config.secondRoutesEnabled && !config.scanAll && needed &&
        isPlaceholder market.predictFunTokenId && !market.hasAmmPool,
      tag ++ ".second_leg_token_id or second_leg_amm_pool is required"),
    (config.autoCloseEnabled && market.expiresAt.isNone && needed,
      tag ++ ".expires_at is required when auto_close.enabled=true"),
    (config.myriadMarkets.enabled && resolved && isPlaceholder (market.myriadMarketId.getD ""),
      tag ++ ".myriad_market_id or discovery fields symbol/target_label are required")]

/-- `route_coverage`. -/
def routeCoverage (name : String) : Bool :=
  config.markets.any fun market => market.mappingStatus = .verified && name ∈ market.verifiedRoutes

/-- The checks that each funded route is mapped. -/
def coverageChecks (verified : Bool) : List Check :=
  config.effectiveFundedRoutes.map fun route =>
    (config.liveExecution && verified && !config.routeCoverage route.name,
      "enabled route " ++ route.name ++ " has no VERIFIED market mapping")

/-! ## Keys -/

/-- A key that must be there, and then must look like one. -/
def keyChecks (required : Bool) (key : Option String) (missing malformed : String) : List Check :=
  [(required && isMissing key, missing),
    (required && !isMissing key && !isPrivateKey key, malformed)]

/-- The checks of the keys and addresses that the funded routes need. -/
def credentialChecks : List Check :=
  let polymarket := config.polymarket
  let credentials := [polymarket.apiKey, polymarket.apiSecret, polymarket.apiPassphrase]
  keyChecks config.polymarketRequired polymarket.privateKey
    "POLYMARKET_PRIVATE_KEY is required when isTest=false"
    "POLYMARKET_PRIVATE_KEY must be a 64 hex character ECDSA key, with optional 0x prefix" ++
  [(config.polymarketRequired && polymarket.rpcUrl = "",
      "POLYGON_RPC_URL or polymarket.rpc_url is required when isTest=false"),
    (config.polymarketRequired &&
        (polymarket.conditionalTokensAddress = "" || polymarket.collateralTokenAddress = ""),
      "Polymarket Conditional Tokens and collateral addresses are required")] ++
  keyChecks config.predictRequired config.predictFun.privateKey
    "PREDICT_FUN_PRIVATE_KEY is required when isTest=false"
    "PREDICT_FUN_PRIVATE_KEY must be a 64 hex character ECDSA key, with optional 0x prefix" ++
  [(config.predictRequired && config.predictFun.rpcUrl = "",
      "BNB_RPC_URL or predict_fun.rpc_url is required when isTest=false"),
    (config.predictRequired && isMissing config.predictFun.apiBaseUrl,
      "predict_fun.api_base_url is required when isTest=false"),
    (config.predictRequired && isMissing config.predictFun.marketAbiPath &&
        isMissing config.predictFun.apiBaseUrl,
      "predict_fun.market_abi_path or api_base_url is required for price reads when isTest=false"),
    (config.polymarketRequired && polymarket.signatureType ≠ 0 && isMissing polymarket.funder,
      "POLYMARKET_FUNDER_ADDRESS is required for non-EOA signature types"),
    (credentials.any (fun key => !isMissing key) && credentials.any isMissing,
      "Polymarket API credentials must include api_key, api_secret, and api_passphrase together"),
    (config.myriadMarkets.enabled && !isMissing config.myriadMarkets.privateKey &&
        !isPrivateKey config.myriadMarkets.privateKey,
      "MYRIAD_PRIVATE_KEY must be a 64 hex character ECDSA key, with optional 0x prefix")] ++
  keyChecks config.sxRequired config.sxBet.privateKey
    "SX_BET_PRIVATE_KEY is required when SX Bet routes are enabled"
    "SX_BET_PRIVATE_KEY must be a 64 hex character ECDSA key, with optional 0x prefix" ++
  [(config.sxRequired && config.sxBet.apiVersion = "v3" && isMissing config.sxBet.apiKey,
      "SX_BET_API_KEY is required for funded SX Bet V3 execution"),
    (config.sxRequired && config.sxBet.apiVersion = "v2" && config.sxBet.rpcUrl = "",
      "SX_BET_RPC_URL or sx_bet.rpc_url is required when SX Bet is enabled")]

end AppConfig

/-! ## The whole configuration -/

/-- All checks, in the order of the source.  None is an error other than the one that collects the
messages. -/
def allChecks (resolved verified : Bool) (config : AppConfig) : Option (List Check) := do
  let gas ← config.gasChecks lang
  pure (config.routeChecks lang ++ config.canaryChecks ++ config.limitChecks resolved ++
    config.policyChecks lang ++ gas ++ config.chainCostChecks ++ config.floorChecks lang ++
    config.horizonChecks lang ++ config.circuitChecks ++ config.schedulingChecks ++
    config.venueChecks ++ config.sxBetChecks ++
    (if config.myriadMarkets.enabled then config.myriadChecks else []) ++
    (if config.opinionActive then config.opinionChecks else []) ++
    config.networkChecks ++
    (config.markets.mapIdx (config.marketChecks resolved verified)).flatten ++
    config.coverageChecks verified ++
    (if config.liveExecution then config.credentialChecks else []))

/-- `validate_config`: the error it raises lists the messages. -/
def validateConfig (resolved verified : Bool) (config : AppConfig) : Option (Except String Unit) :=
  (allChecks lang resolved verified config).map fun checks =>
    if failed checks = [] then .ok ()
    else .error ("Invalid configuration:\n - " ++ "\n - ".intercalate (failed checks))

/-- The checks of an accepted configuration all pass. -/
theorem checks_pass {resolved verified : Bool} {config : AppConfig}
    (h : validateConfig lang resolved verified config = some (.ok ())) :
    ∃ checks, allChecks lang resolved verified config = some checks ∧
      ∀ check ∈ checks, check.1 = false := by
  obtain ⟨checks, hchecks, hresult⟩ := Option.map_eq_some_iff.mp h
  refine ⟨checks, hchecks, ?_⟩
  split_ifs at hresult with hempty
  exact failed_eq_nil_iff.mp hempty

end ArbitrageEngine.Config
