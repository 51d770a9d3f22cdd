/-
# ArbitrageEngine.Config.AcceptedLimits -- what an accepted configuration promises

The comparisons of the validation let NaN pass, most of them infinity too, and the switches of the
Opinion venue are read by `bool`, for which the text `false` is true.  So an accepted file keeps the
trading within finite positive limits exactly when the values behind them are numbers, the chain
costs are not zero where the test mode leaves them unchecked, and no switch is the text `false`
while a route behind it is asked for.
-/
import ArbitrageEngine.Config.Acceptance

namespace ArbitrageEngine.Config

open Lib (Dict FloatValue)
open Lib.FloatValue (le lt number nearest)

variable {lang : Language} {getenv : Environment} {resolved verified : Bool} {raw : Value}
  {config : AppConfig}

/-! ## What is promised -/

/-- The file's value is loaded as a configuration that passes the validation and submits orders. -/
structure Accepted (lang : Language) (getenv : Environment) (resolved verified : Bool) (raw : Value)
    (config : AppConfig) : Prop where
  loaded : loadConfig lang getenv raw = some config
  valid : validateConfig lang resolved verified config = some (.ok ())
  submits : config.liveExecution = true

/-- The four exposure limits. -/
def AppConfig.exposureLimits (config : AppConfig) : List FloatValue :=
  [config.maxTotalNotionalUsd, config.maxVenueExposureUsd, config.maxMarketExposureUsd,
    config.maxUnresolvedExposureUsd]

/-- `_set_paused_if_limit_reached`, of a controller that is not paused.  The comparison with NaN
raises. -/
def pausesAt (limit : FloatValue) (dailyLossUsd : ℚ) : Option Bool :=
  if limit = .nan then none else some !(lt (number dailyLossUsd) limit)

/-- The limits are finite and positive, so each of them is reached or refuses something. -/
structure LimitsEffective (config : AppConfig) : Prop where
  dailyLoss : config.maxDailyLossUsd.IsPositive
  lossPauses : ∃ loss : ℚ, pausesAt config.maxDailyLossUsd loss = some true
  exposure : ∀ limit ∈ config.exposureLimits, limit.IsPositive
  exposureRefused : ∀ limit ∈ config.exposureLimits, ∃ exposure : ℚ,
    lt limit (number exposure) = true
  positionSize : config.positionSizeUsd.IsPositive
  netSpread : config.minNetSpread.IsPositive
  expectedProfit : config.spreadPolicy.minExpectedProfitUsd.IsPositive
  profitRefused : ∃ profit : ℚ, 0 < profit ∧
    lt (number profit) config.spreadPolicy.minExpectedProfitUsd = true
  chainCost : ∀ route ∈ config.effectiveFundedRoutes,
    (config.spreadPolicy.fixedChainCostFor route).IsPositive
  threshold : ∀ route ∈ config.effectiveFundedRoutes, (config.dynamicThreshold route).IsPositive
  spreadRefused : ∀ route ∈ config.effectiveFundedRoutes, ∃ spread : ℚ, 0 < spread ∧
    lt (number spread) (config.dynamicThreshold route) = true

/-- Every funded route is enabled, and so are its two venues. -/
def FundedEnabled (config : AppConfig) : Prop :=
  ∀ route ∈ config.effectiveFundedRoutes, config.routes route = true ∧
    config.venueEnabled route.venueLabels.1 = true ∧
    config.venueEnabled route.venueLabels.2 = true

/-- Does a switch say that the venue is off, be it in words? -/
def saysOff : Value → Bool
  | .text s => s = "" || s = "false"
  | value => !value.truth

/-- Is a switch the text that says so? -/
def isFalseText : Value → Bool
  | .text s => s = "false"
  | _ => false

/-- A switch that says off is off, or it is the text that says so. -/
theorem saysOff_iff {switch : Value} :
    saysOff switch = true ↔ switch.truth = false ∨ isFalseText switch = true := by
  cases switch with
  | text s => simp [saysOff, isFalseText, Value.truth]
  | _ => simp [saysOff, isFalseText]

/-- The entries of the file once the environment is filled in. -/
def entriesOf (getenv : Environment) (raw : Value) : Entries :=
  ((expandEnv getenv raw).entries?).getD []

/-- The entries of one of its sections. -/
def sectionOf (data : Entries) (key : String) : Entries := (sectionAt data key).getD []

/-- `enable_opinion` and `opinion.enabled`. -/
def opinionSwitches (data : Entries) : List Value :=
  [getD data "enable_opinion" (.bool false),
    getD (sectionOf data "opinion") "enabled" (.bool false)]

/-- No Opinion route is enabled or funded when one of the switches says off. -/
def OpinionObeys (data : Entries) (config : AppConfig) : Prop :=
  (∃ switch ∈ opinionSwitches data, saysOff switch = true) →
    ∀ route ∈ opinionRoutes, config.routes route = false ∧ route ∉ config.effectiveFundedRoutes

/-- All of it. -/
structure KeepsLimits (data : Entries) (config : AppConfig) : Prop where
  limits : LimitsEffective config
  funded : FundedEnabled config
  opinion : OpinionObeys data config

/-! ## When it holds -/

/-- Does the reading of a value give a number? -/
def ReadsNumber (read : Option FloatValue) : Prop := ∃ q, read = some (number q)

/-- The flag of a route in a section of flags. -/
def asksFor (lang : Language) (flags : Entries) (route : ExecutionRoute) (default : Bool) : Prop :=
  strictBoolAt lang flags route.name default = some true

/-- The cost that the file gives a route. -/
def chainCostAt (lang : Language) (data : Entries) (route : ExecutionRoute) :
    Option FloatValue := do
  let policy := sectionOf data "spread_policy"
  let byRoute ← entriesAt lang (Value.toFloat lang) policy "fixed_chain_cost_usd_by_route"
  match byRoute.get? route.name with
  | some cost => pure cost
  | none => floatAt lang policy "fixed_chain_cost_usd" 0

/-- The limits that `float` reads from the file itself, with their defaults. -/
def limitKeys : List (String × ℚ) :=
  [("max_daily_loss_usd", 100), ("max_total_notional_usd", 500), ("max_venue_exposure_usd", 300),
    ("max_market_exposure_usd", 100), ("max_unresolved_exposure_usd", 25)]

/-- The file's limits are numbers, no chain cost is zero in the test mode, and no switch of Opinion
is the text `false` while an Opinion route is asked for. -/
structure PlainFile (lang : Language) (data : Entries) : Prop where
  limits : ∀ limit ∈ limitKeys, ReadsNumber (floatAt lang data limit.1 limit.2)
  positionSize : ReadsNumber
    ((getD data "position_size_usd" (getD data "max_order_size_usd" (literal 100))).toFloat lang)
  expectedProfit : ReadsNumber
    (floatAt lang (sectionOf data "spread_policy") "min_expected_profit_usd" (1 / 2))
  chainCost : ∀ route, asksFor lang (sectionOf data "funded_routes") route false →
    ReadsNumber (chainCostAt lang data route) ∧
      (truthAt data "isTest" true = true → chainCostAt lang data route ≠ some (number 0))
  opinion : (∃ switch ∈ opinionSwitches data, isFalseText switch = true) →
    ∀ route ∈ opinionRoutes, ¬ asksFor lang (sectionOf data "routes") route (defaultRoutes route)

/-! ## What was read -/

/-- A reading goes on with what was read first. -/
theorem read_eq_some_iff {α β : Type} {first : Option α} {rest : α → Option β} {result : β} :
    first >>= rest = some result ↔ ∃ value, first = some value ∧ rest value = some result :=
  Option.bind_eq_some_iff

/-- The parts of a loaded configuration are read from the entries of the file. -/
theorem loaded_parts (h : loadConfig lang getenv raw = some config) :
    loadPermissions lang getenv (entriesOf getenv raw) = some config.toPermissions ∧
      loadTradingLimits lang (entriesOf getenv raw) = some config.toTradingLimits ∧
      loadSpreadPolicy lang (entriesOf getenv raw) = some config.spreadPolicy := by
  simp only [loadConfig, ↓read_eq_some_iff] at h
  obtain ⟨data, hdata, permissions, hpermissions, limits, hlimits, timings, -, scheduling, -,
    scanning, -, venues, -, policy, hpolicy, telegram, -, interval, -, autoClose, -, exitSpread, -,
    flag, -, balance, -, ratio, -, guardFloor, -, port, -, hconfig⟩ := h
  have hentries : entriesOf getenv raw = data := by rw [entriesOf, hdata, Option.getD_some]
  cases Option.some.inj hconfig
  rw [hentries]
  exact ⟨hpermissions, hlimits, hpolicy⟩

/-- The limits as they are read from the entries. -/
structure LimitsRead (lang : Language) (data : Entries) (limits : TradingLimits) : Prop where
  positionSize : (getD data "position_size_usd"
    (getD data "max_order_size_usd" (literal 100))).toFloat lang = some limits.positionSizeUsd
  netSpread : fraction lang (entrySpread data) = some limits.minNetSpread
  dailyLoss : floatAt lang data "max_daily_loss_usd" 100 = some limits.maxDailyLossUsd
  total : floatAt lang data "max_total_notional_usd" 500 = some limits.maxTotalNotionalUsd
  venue : floatAt lang data "max_venue_exposure_usd" 300 = some limits.maxVenueExposureUsd
  market : floatAt lang data "max_market_exposure_usd" 100 = some limits.maxMarketExposureUsd
  unresolved : floatAt lang data "max_unresolved_exposure_usd" 25 =
    some limits.maxUnresolvedExposureUsd

theorem limits_read {data : Entries} {limits : TradingLimits}
    (h : loadTradingLimits lang data = some limits) : LimitsRead lang data limits := by
  simp only [loadTradingLimits, ↓read_eq_some_iff] at h
  obtain ⟨position, hposition, order, -, spread, hspread, volume, -, retry, -, errors, -, loss,
    hloss, positions, -, impact, -, total, htotal, venue, hvenue, market, hmarket, orders, -,
    unresolved, hunresolved, hlimits⟩ := h
  cases Option.some.inj hlimits
  exact ⟨hposition, hspread, hloss, htotal, hvenue, hmarket, hunresolved⟩

/-- The profit and the chain costs as they are read from the entries. -/
theorem policy_read {data : Entries} {policy : SpreadPolicy}
    (h : loadSpreadPolicy lang data = some policy) :
    floatAt lang (sectionOf data "spread_policy") "min_expected_profit_usd" (1 / 2) =
        some policy.minExpectedProfitUsd ∧
      ∀ route, chainCostAt lang data route = some (policy.fixedChainCostFor route) := by
  simp only [loadSpreadPolicy, ↓read_eq_some_iff] at h
  obtain ⟨entries, hentries, floors, -, profit, hprofit, depth, -, adverse, -, adverseByRoute, -,
    buffer, -, fixed, hfixed, byRoute, hbyRoute, units, -, ceilings, -, multiplier, -, ttl, -,
    hpolicy⟩ := h
  have hsection : sectionOf data "spread_policy" = entries := by
    rw [sectionOf, hentries, Option.getD_some]
  cases Option.some.inj hpolicy
  rw [hsection]
  refine ⟨hprofit, ?_⟩
  intro route
  simp only [chainCostAt, hsection, hbyRoute, Option.bind_eq_bind, Option.bind_some,
    SpreadPolicy.fixedChainCostFor]
  cases byRoute.get? route.name with
  | some cost => rfl
  | none => exact hfixed

/-- The routes and the test mode as they are read from the entries. -/
theorem permissions_read {data : Entries} {permissions : Permissions}
    (h : loadPermissions lang getenv data = some permissions) :
    ∃ routes fundedRoutes,
      readRoutes lang (sectionOf data "routes") defaultRoutes = some routes ∧
      readFundedRoutes lang data = some fundedRoutes ∧
      applyOpinionKillSwitch routes fundedRoutes
          ((opinionSwitches data).all Value.truth) =
        (permissions.routes, permissions.fundedRoutes, permissions.suppressedRoutes) ∧
      permissions.isTest = truthAt data "isTest" true := by
  simp only [loadPermissions, ↓read_eq_some_iff] at h
  obtain ⟨opinion, hopinion, flags, hflags, mode, -, url, -, routes, hroutes, fundedRoutes, hfunded,
    confirmed, -, hpermissions⟩ := h
  have hopinionSection : sectionOf data "opinion" = opinion := by
    rw [sectionOf, hopinion, Option.getD_some]
  have hroutesSection : sectionOf data "routes" = flags := by
    rw [sectionOf, hflags, Option.getD_some]
  have hswitches : (opinionSwitches data).all Value.truth =
      (truthAt data "enable_opinion" false && truthAt opinion "enabled" false) := by
    simp [opinionSwitches, hopinionSection, truthAt]
  rw [← hswitches] at hpermissions
  refine ⟨routes, fundedRoutes, by rw [hroutesSection]; exact hroutes, hfunded, ?_⟩
  cases Option.some.inj hpermissions
  exact ⟨rfl, rfl⟩

/-- The flags that are read are those that the section sets. -/
theorem routes_read {flags : Entries} {default : ExecutionRoute → Bool} {routes : RouteConfig}
    (h : readRoutes lang flags default = some routes) (route : ExecutionRoute) :
    routes route = true ↔ asksFor lang flags route (default route) := by
  simp only [readRoutes] at h
  split_ifs at h
  cases Option.some.inj h
  unfold asksFor
  show (strictBoolAt lang flags route.name (default route)).getD false = true ↔ _
  cases strictBoolAt lang flags route.name (default route) with
  | none => simp
  | some flag => simp

/-- Where there are funded routes, they are those that their section sets. -/
theorem fundedRoutes_read {data : Entries} {funded : RouteConfig}
    (h : readFundedRoutes lang data = some (some funded)) (route : ExecutionRoute) :
    funded route = true ↔ asksFor lang (sectionOf data "funded_routes") route false := by
  unfold readFundedRoutes at h
  cases hvalue : getD data "funded_routes" .null with
  | object entries =>
      simp only [hvalue, Option.map_eq_some_iff, Option.some.injEq] at h
      obtain ⟨routes, hroutes, rfl⟩ := h
      have hsection : sectionOf data "funded_routes" = entries := by
        unfold getD at hvalue
        unfold sectionOf sectionAt getD
        cases hlookup : data.lookup "funded_routes" with
        | none => simp [hlookup] at hvalue
        | some value =>
            rw [hlookup, Option.getD_some] at hvalue
            rw [Option.getD_some, hvalue]
            rfl
      rw [hsection]
      exact routes_read hroutes route
  | _ => simp [hvalue] at h

/-- A switch that suppressed nothing left the routes as they were, and where it is off no Opinion
route was asked for. -/
theorem killSwitch_of_nothing_suppressed {routes : RouteConfig} {funded : Option RouteConfig}
    {enabled : Bool} (result : RouteConfig × Option RouteConfig)
    (h : applyOpinionKillSwitch routes funded enabled = (result.1, result.2, [])) :
    result = (routes, funded) ∧ (enabled = false → requestedOpinionRoutes routes funded = []) := by
  unfold applyOpinionKillSwitch at h
  by_cases hrequested : requestedOpinionRoutes routes funded = []
  · simp only [hrequested, List.isEmpty_nil, Bool.or_true, if_true, Prod.mk.injEq] at h
    exact ⟨Prod.ext h.1.symm h.2.1.symm, fun _ => hrequested⟩
  · have hsome : (requestedOpinionRoutes routes funded).isEmpty = false := by
      simpa using hrequested
    cases enabled with
    | true =>
        simp only [hsome, Bool.or_false, if_true, Prod.mk.injEq] at h
        exact ⟨Prod.ext h.1.symm h.2.1.symm, fun h => absurd h (by decide)⟩
    | false =>
        simp only [hsome, Bool.or_self, Bool.false_eq_true, if_false, Prod.mk.injEq] at h
        exact absurd h.2.2 hrequested

/-! ## What was checked -/

/-- The groups of checks that the promises rest on. -/
structure GroupsPass (lang : Language) (resolved : Bool) (config : AppConfig) : Prop where
  routes : ∀ check ∈ config.routeChecks lang, check.1 = false
  limits : ∀ check ∈ config.limitChecks resolved, check.1 = false
  policy : ∀ check ∈ config.policyChecks lang, check.1 = false
  chainCosts : ∀ check ∈ config.chainCostChecks, check.1 = false
  floors : ∀ check ∈ config.floorChecks lang, check.1 = false
  circuit : ∀ check ∈ config.circuitChecks, check.1 = false

theorem groups_pass (h : validateConfig lang resolved verified config = some (.ok ())) :
    GroupsPass lang resolved config := by
  obtain ⟨checks, hchecks, hpass⟩ := checks_pass lang h
  obtain ⟨gas, -, hall⟩ := read_eq_some_iff.mp hchecks
  cases Option.some.inj hall
  simp only [List.forall_mem_append, and_assoc] at hpass
  obtain ⟨hroutes, -, hlimits, hpolicy, -, hcosts, hfloors, -, hcircuit, -⟩ := hpass
  exact ⟨hroutes, hlimits, hpolicy, hcosts, hfloors, hcircuit⟩

/-- What is strictly between zero and one is a number there. -/
theorem exists_number_of_between {x : FloatValue}
    (h : (!(lt (number 0) x && lt x (number 1))) = false) : ∃ q, x = number q ∧ 0 ≤ q ∧ q ≤ 1 := by
  obtain ⟨hlow, hhigh⟩ : lt (number 0) x = true ∧ lt x (number 1) = true := by simpa using h
  exact FloatValue.exists_number_of_le (FloatValue.le_of_lt hlow) (FloatValue.le_of_lt hhigh)

/-- What is at least zero and below one is a number there. -/
theorem exists_number_of_range {x : FloatValue}
    (h : (!(le (number 0) x && lt x (number 1))) = false) : ∃ q, x = number q ∧ 0 ≤ q ∧ q ≤ 1 := by
  obtain ⟨hlow, hhigh⟩ : le (number 0) x = true ∧ lt x (number 1) = true := by simpa using h
  exact FloatValue.exists_number_of_le hlow (FloatValue.le_of_lt hhigh)

namespace GroupsPass

variable (h : GroupsPass lang resolved config)
include h

/-- The adverse move of a route is a number from zero to one. -/
theorem adverseMove (route : ExecutionRoute) : ∃ q,
    (config.spreadPolicy.adverseMoveP95PctByRoute.get? route.name).getD
      config.spreadPolicy.adverseMoveP95Pct = number q ∧ 0 ≤ q ∧ q ≤ 1 := by
  have hchecks := h.policy
  simp only [AppConfig.policyChecks, List.forall_mem_append, List.forall_mem_cons, and_assoc,
    List.forall_mem_map] at hchecks
  obtain ⟨-, -, hmove, -, hbyRoute, -⟩ := hchecks
  cases hfound : config.spreadPolicy.adverseMoveP95PctByRoute.get? route.name with
  | none => exact exists_number_of_range hmove
  | some move =>
      have hentry := hbyRoute _ (Dict.get?_eq_some_iff.mp hfound)
      exact exists_number_of_between (Bool.or_eq_false_iff.mp hentry).2

/-- The safety buffer is a number from zero to one. -/
theorem safetyBuffer : ∃ q, config.spreadPolicy.safetyBufferPct = number q ∧ 0 ≤ q ∧ q ≤ 1 := by
  have hchecks := h.policy
  simp only [AppConfig.policyChecks, List.forall_mem_append, List.forall_mem_cons,
    and_assoc] at hchecks
  obtain ⟨-, -, -, -, -, hbuffer, -⟩ := hchecks
  exact exists_number_of_range hbuffer

/-- The floor of a route is a number. -/
theorem floor (route : ExecutionRoute) :
    ((config.spreadPolicy.routeFloors.get? route.name).getD (number 0)).IsNumber := by
  have hchecks := h.floors
  simp only [AppConfig.floorChecks, List.forall_mem_append, List.forall_mem_map] at hchecks
  cases hfound : config.spreadPolicy.routeFloors.get? route.name with
  | none => exact ⟨0, rfl⟩
  | some floor =>
      have hentry := hchecks.1 _ (Dict.get?_eq_some_iff.mp hfound)
      obtain ⟨q, hq, -⟩ := exists_number_of_between (Bool.or_eq_false_iff.mp hentry).2
      exact ⟨q, hq⟩

/-- The threshold of a route is a number, since its two parts do not add up beyond two. -/
theorem thresholdFor (route : ExecutionRoute) :
    (config.spreadPolicy.thresholdFor route).IsNumber := by
  obtain ⟨move, hmove, hmove0, hmove1⟩ := h.adverseMove route
  obtain ⟨buffer, hbuffer, hbuffer0, hbuffer1⟩ := h.safetyBuffer
  refine (h.floor route).larger ?_
  rw [hmove, hbuffer]
  exact FloatValue.exists_nearest_eq_number (by linarith) (by linarith)

/-- The chain cost of a funded route is positive or not a number; in the test mode it may also be
zero. -/
theorem chainCost (hlive : config.liveExecution = true) {route : ExecutionRoute}
    (hroute : route ∈ config.effectiveFundedRoutes) :
    (config.spreadPolicy.fixedChainCostFor route).IsPositive ↔
      (config.spreadPolicy.fixedChainCostFor route).IsNumber ∧
        (config.isTest = true → config.spreadPolicy.fixedChainCostFor route ≠ number 0) := by
  set cost := config.spreadPolicy.fixedChainCostFor route with hcostFor
  cases htest : config.isTest with
  | false =>
      have hchecks := h.chainCosts
      simp only [AppConfig.chainCostChecks, List.forall_mem_cons, hlive, htest] at hchecks
      have hnone : config.routesWithoutChainCost = [] := by simpa using hchecks.1
      have hcost : le cost (number 0) = false := by
        have hfilter := List.filter_eq_nil_iff.mp hnone route hroute
        simpa using hfilter
      simp [FloatValue.isPositive_iff hcost]
  | true =>
      have hchecks := h.policy
      simp only [AppConfig.policyChecks, List.forall_mem_append, List.forall_mem_cons, and_assoc,
        List.forall_mem_map] at hchecks
      obtain ⟨-, -, -, -, -, -, hfixed, -, hbyRoute⟩ := hchecks
      have hcost : lt cost (number 0) = false := by
        rw [hcostFor, SpreadPolicy.fixedChainCostFor]
        cases hfound : config.spreadPolicy.fixedChainCostUsdByRoute.get? route.name with
        | none => exact hfixed
        | some own =>
            exact (Bool.or_eq_false_iff.mp (hbyRoute _ (Dict.get?_eq_some_iff.mp hfound))).2
      simp [FloatValue.isPositive_iff_of_not_lt hcost]

end GroupsPass

/-! ## The routes -/

/-- The routes of each venue that has a switch. -/
def switchedVenues : List (String × List ExecutionRoute) :=
  [("Predict.fun", [.polymarketPredict, .predictMyriad, .predictSx, .predictOpinion]),
    ("SX Bet", [.polymarketSx, .sxMyriad, .predictSx, .sxOpinion]),
    ("Myriad", [.polymarketMyriad, .predictMyriad, .sxMyriad, .opinionMyriad]),
    ("Opinion", opinionRoutes)]

/-- A route of a venue is listed under it. -/
theorem contains_of_venue {route : ExecutionRoute} : ∀ venue ∈ switchedVenues,
    route.venueLabels.1 = venue.1 ∨ route.venueLabels.2 = venue.1 →
      venue.2.contains route = true := by
  cases route <;> decide

namespace Accepted

variable (h : Accepted lang getenv resolved verified raw config)
include h

/-- The routes are those the file asks for, and behind a switch that is off there is no Opinion
route among them. -/
theorem routes_kept : ∃ funded, config.fundedRoutes = some funded ∧
    readRoutes lang (sectionOf (entriesOf getenv raw) "routes") defaultRoutes = some config.routes ∧
    readFundedRoutes lang (entriesOf getenv raw) = some (some funded) ∧
    ((opinionSwitches (entriesOf getenv raw)).all Value.truth = false →
      requestedOpinionRoutes config.routes (some funded) = []) := by
  obtain ⟨routes, funded, hroutes, hfunded, hswitch, -⟩ :=
    permissions_read (loaded_parts h.loaded).1
  have hchecks := (groups_pass h.valid).routes
  simp only [AppConfig.routeChecks, List.forall_mem_cons, h.submits, Bool.true_and] at hchecks
  obtain ⟨-, hexplicit, -, -, -, -, -, -, hsuppressed, -⟩ := hchecks
  have hnothing : config.suppressedRoutes = [] := by simpa using hsuppressed
  rw [hnothing] at hswitch
  obtain ⟨hsame, hoff⟩ :=
    killSwitch_of_nothing_suppressed (config.routes, config.fundedRoutes) hswitch
  obtain ⟨rfl, rfl⟩ := Prod.mk.inj hsame
  obtain ⟨allowlist, hallowlist⟩ := Option.isSome_iff_exists.mp
    (show config.fundedRoutes.isSome = true by simpa using hexplicit)
  rw [hallowlist] at hfunded hoff
  exact ⟨allowlist, hallowlist, hroutes, hfunded, hoff⟩

theorem routes_iff (route : ExecutionRoute) : config.routes route = true ↔
    asksFor lang (sectionOf (entriesOf getenv raw) "routes") route (defaultRoutes route) := by
  obtain ⟨-, -, hroutes, -⟩ := h.routes_kept
  exact routes_read hroutes route

theorem funded_iff (route : ExecutionRoute) : route ∈ config.effectiveFundedRoutes ↔
    asksFor lang (sectionOf (entriesOf getenv raw) "funded_routes") route false := by
  obtain ⟨funded, hsome, -, hfunded, -⟩ := h.routes_kept
  rw [AppConfig.effectiveFundedRoutes, hsome, Option.getD_some, mem_enabledNames]
  exact fundedRoutes_read hfunded route

/-- Every funded route is enabled. -/
theorem route_enabled {route : ExecutionRoute} (hroute : route ∈ config.effectiveFundedRoutes) :
    config.routes route = true := by
  have hchecks := (groups_pass h.valid).routes
  simp only [AppConfig.routeChecks, List.forall_mem_cons] at hchecks
  obtain ⟨-, -, -, hsubset, -⟩ := hchecks
  have hnone : config.unexpectedFundedRoutes = [] := by simpa using hsubset
  simpa using List.filter_eq_nil_iff.mp hnone route hroute

/-- The venues of a funded route are enabled. -/
theorem venue_enabled {route : ExecutionRoute} (hroute : route ∈ config.effectiveFundedRoutes)
    {venue : String} (hvenue : route.venueLabels.1 = venue ∨ route.venueLabels.2 = venue) :
    config.venueEnabled venue = true := by
  have hchecks := (groups_pass h.valid).routes
  simp only [AppConfig.routeChecks, List.forall_mem_cons, h.submits, Bool.true_and] at hchecks
  obtain ⟨-, -, -, -, hpredict, hsx, hmyriad, hopinion, -⟩ := hchecks
  have hfunds (entry : String × List ExecutionRoute) (hentry : entry ∈ switchedVenues)
      (hvenue : route.venueLabels.1 = entry.1 ∨ route.venueLabels.2 = entry.1) :
      config.funds entry.2 = true :=
    List.any_eq_true.mpr ⟨route, hroute, contains_of_venue entry hentry hvenue⟩
  unfold AppConfig.venueEnabled
  split_ifs with hp hs hm ho
  · have hrequired : config.predictRequired = true :=
      hfunds ("Predict.fun", _) (by simp [switchedVenues]) (hp ▸ hvenue)
    simpa [hrequired] using hpredict
  · have hrequired : config.sxRequired = true :=
      hfunds ("SX Bet", _) (by simp [switchedVenues]) (hs ▸ hvenue)
    simpa [hrequired] using hsx
  · have hrequired : config.myriadRequired = true :=
      hfunds ("Myriad", _) (by simp [switchedVenues]) (hm ▸ hvenue)
    simpa [hrequired] using hmyriad
  · have hrequired : config.opinionRequired = true :=
      hfunds ("Opinion", opinionRoutes) (by simp [switchedVenues]) (ho ▸ hvenue)
    simpa [hrequired, AppConfig.opinionActive] using hopinion
  · rfl

/-- **The funded routes of an accepted configuration are enabled, with both their venues.** -/
theorem funded_enabled : FundedEnabled config := by
  intro route hroute
  exact ⟨h.route_enabled hroute, h.venue_enabled hroute (.inl rfl),
    h.venue_enabled hroute (.inr rfl)⟩

end Accepted

/-! ## The limits -/

/-- Some loss reaches a finite limit. -/
theorem exists_pausing {limit : FloatValue} (h : limit.IsPositive) :
    ∃ loss : ℚ, pausesAt limit loss = some true := by
  obtain ⟨q, rfl, -⟩ := h
  exact ⟨q, by simp [pausesAt]⟩

/-- Some exposure is above a finite limit. -/
theorem exists_above {limit : FloatValue} (h : limit.IsPositive) :
    ∃ exposure : ℚ, lt limit (number exposure) = true := by
  obtain ⟨q, rfl, -⟩ := h
  exact ⟨q + 1, by simp⟩

/-- Some positive amount is below a positive one. -/
theorem exists_below {limit : FloatValue} (h : limit.IsPositive) :
    ∃ amount : ℚ, 0 < amount ∧ lt (number amount) limit = true := by
  obtain ⟨q, rfl, hq⟩ := h
  exact ⟨q / 2, by linarith, by simpa using hq⟩

/-- A value that was read is a number exactly when its reading gives one. -/
theorem isNumber_iff_readsNumber {read : Option FloatValue} {x : FloatValue} (h : read = some x) :
    x.IsNumber ↔ ReadsNumber read := by
  simp [FloatValue.IsNumber, ReadsNumber, h]

namespace Accepted

variable (h : Accepted lang getenv resolved verified raw config)
include h

/-- The smallest net spread of an accepted configuration is always in order. -/
theorem netSpread : config.minNetSpread.IsPositive := by
  have hread := limits_read (loaded_parts h.loaded).2.1
  obtain ⟨q, hq, -, -⟩ := exists_number_of_fraction lang hread.netSpread
  have hchecks := (groups_pass h.valid).limits
  simp only [AppConfig.limitChecks, List.forall_mem_cons] at hchecks
  obtain ⟨-, -, -, -, -, -, -, -, -, -, hpositive, -⟩ := hchecks
  exact (FloatValue.isPositive_iff hpositive).mpr ⟨q, hq⟩

/-- So is the threshold of every route. -/
theorem threshold (route : ExecutionRoute) : (config.dynamicThreshold route).IsPositive :=
  h.netSpread.larger ((groups_pass h.valid).thresholdFor route)

theorem dailyLoss_iff : config.maxDailyLossUsd.IsPositive ↔ config.maxDailyLossUsd.IsNumber := by
  have hchecks := (groups_pass h.valid).circuit
  simp only [AppConfig.circuitChecks, List.forall_mem_cons] at hchecks
  obtain ⟨-, -, hpositive, -⟩ := hchecks
  exact FloatValue.isPositive_iff hpositive

theorem positionSize_iff : config.positionSizeUsd.IsPositive ↔ config.positionSizeUsd.IsNumber := by
  have hchecks := (groups_pass h.valid).limits
  simp only [AppConfig.limitChecks, List.forall_mem_cons] at hchecks
  obtain ⟨-, -, -, -, -, -, -, hpositive, -⟩ := hchecks
  exact FloatValue.isPositive_iff hpositive

theorem expectedProfit_iff : config.spreadPolicy.minExpectedProfitUsd.IsPositive ↔
    config.spreadPolicy.minExpectedProfitUsd.IsNumber := by
  have hchecks := (groups_pass h.valid).policy
  simp only [AppConfig.policyChecks, List.forall_mem_append, List.forall_mem_cons,
    and_assoc] at hchecks
  exact FloatValue.isPositive_iff hchecks.1

/-- The exposure limits are compared through their smallest, so all of them must be numbers. -/
theorem exposure_iff : (∀ limit ∈ config.exposureLimits, limit.IsPositive) ↔
    ∀ limit ∈ config.exposureLimits, limit.IsNumber := by
  constructor
  · intro hpositive limit hlimit
    exact (hpositive limit hlimit).isNumber
  · intro hnumber
    have hchecks := (groups_pass h.valid).limits
    simp only [AppConfig.limitChecks, List.forall_mem_cons] at hchecks
    obtain ⟨-, -, -, hsmallest, -⟩ := hchecks
    obtain ⟨htotal, hothers⟩ := List.forall_mem_cons.mp hnumber
    exact FloatValue.isPositive_of_smallest htotal hothers hsmallest

/-- **The limits are effective exactly when the file's values are numbers.** -/
theorem limits_iff : LimitsEffective config ↔
    (∀ limit ∈ limitKeys,
      ReadsNumber (floatAt lang (entriesOf getenv raw) limit.1 limit.2)) ∧
    ReadsNumber ((getD (entriesOf getenv raw) "position_size_usd"
      (getD (entriesOf getenv raw) "max_order_size_usd" (literal 100))).toFloat lang) ∧
    ReadsNumber (floatAt lang (sectionOf (entriesOf getenv raw) "spread_policy")
      "min_expected_profit_usd" (1 / 2)) ∧
    ∀ route, asksFor lang (sectionOf (entriesOf getenv raw) "funded_routes") route false →
      ReadsNumber (chainCostAt lang (entriesOf getenv raw) route) ∧
        (truthAt (entriesOf getenv raw) "isTest" true = true →
          chainCostAt lang (entriesOf getenv raw) route ≠ some (number 0)) := by
  obtain ⟨hpermissions, hlimits, hpolicy⟩ := loaded_parts h.loaded
  obtain ⟨-, -, -, -, -, htest⟩ := permissions_read hpermissions
  have hread := limits_read hlimits
  obtain ⟨hprofit, hcost⟩ := policy_read hpolicy
  have hkeys : (∀ limit ∈ limitKeys,
      ReadsNumber (floatAt lang (entriesOf getenv raw) limit.1 limit.2)) ↔
      config.maxDailyLossUsd.IsNumber ∧ ∀ limit ∈ config.exposureLimits, limit.IsNumber := by
    simp [limitKeys, AppConfig.exposureLimits, isNumber_iff_readsNumber hread.dailyLoss,
      isNumber_iff_readsNumber hread.total, isNumber_iff_readsNumber hread.venue,
      isNumber_iff_readsNumber hread.market, isNumber_iff_readsNumber hread.unresolved]
  have hcosts : (∀ route ∈ config.effectiveFundedRoutes,
      (config.spreadPolicy.fixedChainCostFor route).IsPositive) ↔
      ∀ route, asksFor lang (sectionOf (entriesOf getenv raw) "funded_routes") route false →
        ReadsNumber (chainCostAt lang (entriesOf getenv raw) route) ∧
          (truthAt (entriesOf getenv raw) "isTest" true = true →
            chainCostAt lang (entriesOf getenv raw) route ≠ some (number 0)) := by
    refine forall_congr' fun route => ?_
    rw [h.funded_iff route]
    refine forall_congr' fun hroute => ?_
    rw [(groups_pass h.valid).chainCost h.submits ((h.funded_iff route).mpr hroute),
      isNumber_iff_readsNumber (hcost route), hcost route, ← htest]
    simp
  rw [hkeys, ← hcosts, ← isNumber_iff_readsNumber hread.positionSize,
    ← isNumber_iff_readsNumber hprofit, ← h.dailyLoss_iff, ← h.exposure_iff, ← h.positionSize_iff,
    ← h.expectedProfit_iff]
  constructor
  · intro heffective
    exact ⟨⟨heffective.dailyLoss, heffective.exposure⟩, heffective.positionSize,
      heffective.expectedProfit, heffective.chainCost⟩
  · rintro ⟨⟨hloss, hexposure⟩, hposition, hmin, hchain⟩
    exact
      { dailyLoss := hloss
        lossPauses := exists_pausing hloss
        exposure := hexposure
        exposureRefused := fun limit hlimit => exists_above (hexposure limit hlimit)
        positionSize := hposition
        netSpread := h.netSpread
        expectedProfit := hmin
        profitRefused := exists_below hmin
        chainCost := hchain
        threshold := fun route _ => h.threshold route
        spreadRefused := fun route _ => exists_below (h.threshold route) }

/-! ## The Opinion venue -/

/-- **Opinion stays off unless a switch is the text `false` and a route of it is asked for.** -/
theorem opinion_iff : OpinionObeys (entriesOf getenv raw) config ↔
    ((∃ switch ∈ opinionSwitches (entriesOf getenv raw), isFalseText switch = true) →
      ∀ route ∈ opinionRoutes, ¬ asksFor lang (sectionOf (entriesOf getenv raw) "routes") route
        (defaultRoutes route)) := by
  constructor
  · rintro hobeys ⟨switch, hswitch, htext⟩ route hroute hasks
    have hoff := (hobeys ⟨switch, hswitch, saysOff_iff.mpr (.inr htext)⟩ route hroute).1
    rw [(h.routes_iff route).mpr hasks] at hoff
    cases hoff
  · rintro hplain ⟨switch, hswitch, hoff⟩ route hroute
    have hdisabled : config.routes route = false := by
      rcases saysOff_iff.mp hoff with hfalse | htext
      · -- the switch is false, so the kill switch looked for Opinion routes and found none
        obtain ⟨funded, -, -, -, hnone⟩ := h.routes_kept
        have hall : (opinionSwitches (entriesOf getenv raw)).all Value.truth = false :=
          List.all_eq_false.mpr ⟨switch, hswitch, by simp [hfalse]⟩
        have hfilter := List.filter_eq_nil_iff.mp (hnone hall) route hroute
        have hboth : config.routes route = false ∧ funded route = false := by simpa using hfilter
        exact hboth.1
      · have hnot := hplain ⟨switch, hswitch, htext⟩ route hroute
        rw [← h.routes_iff route] at hnot
        simpa using hnot
    refine ⟨hdisabled, ?_⟩
    intro hfunded
    rw [h.route_enabled hfunded] at hdisabled
    cases hdisabled

end Accepted

/-! ## Accepted files -/

/-- **An accepted file keeps the trading within effective limits, and the Opinion venue off where a
switch says so, exactly when it is a plain one.** -/
theorem keepsLimits_iff (lang : Language) (getenv : Environment) (resolved verified : Bool)
    (raw : Value) (config : AppConfig)
    (h : Accepted lang getenv resolved verified raw config) :
    KeepsLimits (entriesOf getenv raw) config ↔ PlainFile lang (entriesOf getenv raw) := by
  constructor
  · intro hkeeps
    obtain ⟨hlimits, hposition, hprofit, hcost⟩ := h.limits_iff.mp hkeeps.limits
    exact ⟨hlimits, hposition, hprofit, hcost, h.opinion_iff.mp hkeeps.opinion⟩
  · intro hplain
    have hlimits := h.limits_iff.mpr
      ⟨hplain.limits, hplain.positionSize, hplain.expectedProfit, hplain.chainCost⟩
    exact ⟨hlimits, h.funded_enabled, h.opinion_iff.mpr hplain.opinion⟩

namespace AcceptedExamples

/-- The language, for texts of plain ASCII characters. -/
def ascii : Language where
  isSpace := fun c => [' ', '\t', '\n', '\r'].contains c
  decimalDigit := fun c => if c.isDigit then some (c.toNat - '0'.toNat) else none
  isDigit := Char.isDigit
  lower := fun s => String.ofList (s.toList.map Char.toLower)
  upper := fun s => String.ofList (s.toList.map Char.toUpper)
  spelled := fun _ => ""
  fromIsoFormat := fun _ => none
  withHostAndPort := fun _ _ url => some url

/-- A private key of one digit. -/
def privateKey (digit : Char) : Value :=
  .text (String.ofList ('0' :: 'x' :: List.replicate 64 digit))

/-- A canary run of one market on Polymarket and Opinion. -/
def canaryFile (maxDailyLoss enableOpinion : Value) : Value := .object [
  ("execution_mode", .text "canary"), ("isTest", .bool false),
  ("database_url", .text "postgresql://db"), ("live_trading_confirmed", .bool true),
  ("spread_policy", .object [("fixed_chain_cost_usd", .float (number (1 / 4)))]),
  ("enable_predict_fun", .bool false), ("enable_opinion", enableOpinion),
  ("opinion", .object [("enabled", .bool true), ("api_key", .text "key"),
    ("private_key", privateKey '2')]),
  ("routes", .object [("polymarket_myriad", .bool false), ("polymarket_predict", .bool false),
    ("predict_myriad", .bool false), ("polymarket_opinion", .bool true)]),
  ("funded_routes", .object [("polymarket_opinion", .bool true)]),
  ("position_size_usd", .int 20), ("max_order_size_usd", .int 20),
  ("max_daily_loss_usd", maxDailyLoss), ("max_open_positions", .int 1),
  ("polymarket", .object [("private_key", privateKey '1')]),
  ("markets", .array [.object [("symbol", .text "BTC-USD"), ("target_label", .text ">$75,000"),
    ("polymarket_token_id", .text "poly"), ("polymarket_side", .text "YES"),
    ("second_leg_token_id", .text "opinion"), ("second_leg_side", .text "NO"),
    ("second_venue_label", .text "Opinion"), ("mapping_status", .text "VERIFIED"),
    ("verified_routes", .array [.text "polymarket_opinion"])]])]

/-- No variable is set. -/
def noEnvironment : Environment := fun _ => none

/-- Is a file accepted for a run that submits orders? -/
def isAccepted (raw : Value) : Bool :=
  (loadConfig ascii noEnvironment raw).any fun config =>
    config.liveExecution &&
      match validateConfig ascii false true config with
      | some (.ok ()) => true
      | _ => false

theorem exists_accepted {raw : Value} (h : isAccepted raw = true) :
    ∃ config, Accepted ascii noEnvironment false true raw config := by
  unfold isAccepted at h
  cases hload : loadConfig ascii noEnvironment raw with
  | none => simp [hload] at h
  | some config =>
      rw [hload, Option.any_some, Bool.and_eq_true] at h
      refine ⟨config, hload, ?_, h.1⟩
      have hvalid := h.2
      split at hvalid
      · assumption
      · cases hvalid

/-- The file with a daily loss of ten dollars and the switch on. -/
def plainFile : Value := canaryFile (.int 10) (.bool true)

/-- The file whose daily loss is NaN and whose switch is the text `false`. -/
def troubledFile : Value := canaryFile (.float .nan) (.text "false")

theorem plainFile_isAccepted : isAccepted plainFile = true := by decide +kernel

theorem troubledFile_isAccepted : isAccepted troubledFile = true := by decide +kernel

/-- The values of the plain file are numbers and its switches are no texts. -/
theorem plainFile_plain : PlainFile ascii (entriesOf noEnvironment plainFile) := by
  refine ⟨?_, ⟨20, by decide +kernel⟩, ⟨1 / 2, by decide +kernel⟩, ?_, ?_⟩
  · simp only [limitKeys, List.forall_mem_cons, List.not_mem_nil, false_implies, implies_true,
      and_true]
    exact ⟨⟨10, by decide +kernel⟩, ⟨500, by decide +kernel⟩, ⟨300, by decide +kernel⟩,
      ⟨100, by decide +kernel⟩, ⟨25, by decide +kernel⟩⟩
  · intro route _
    have hcost : chainCostAt ascii (entriesOf noEnvironment plainFile) route =
        some (number (1 / 4)) := by
      cases route <;> decide +kernel
    rw [hcost]
    exact ⟨⟨_, rfl⟩, fun _ => by decide +kernel⟩
  · intro hswitch
    have hnone : ¬ ∃ switch ∈ opinionSwitches (entriesOf noEnvironment plainFile),
        isFalseText switch = true := by
      rw [← List.any_eq_true]
      decide +kernel
    exact absurd hswitch hnone

theorem plain_keeps_limits : ∃ config, Accepted ascii noEnvironment false true plainFile config ∧
    KeepsLimits (entriesOf noEnvironment plainFile) config := by
  obtain ⟨config, haccepted⟩ := exists_accepted plainFile_isAccepted
  exact ⟨config, haccepted,
    (keepsLimits_iff ascii noEnvironment false true plainFile config haccepted).mpr
      plainFile_plain⟩

/-- No loss pauses the run of the troubled file, and its Opinion route stays on. -/
theorem troubled_loses_limits : ∃ config,
    Accepted ascii noEnvironment false true troubledFile config ∧
      (∀ loss, pausesAt config.maxDailyLossUsd loss ≠ some true) ∧ ¬ LimitsEffective config ∧
      ¬ OpinionObeys (entriesOf noEnvironment troubledFile) config := by
  obtain ⟨config, haccepted⟩ := exists_accepted troubledFile_isAccepted
  have hread := limits_read (loaded_parts haccepted.loaded).2.1
  have hloss : config.maxDailyLossUsd = .nan := by
    have hnan : floatAt ascii (entriesOf noEnvironment troubledFile) "max_daily_loss_usd" 100 =
        some .nan := by
      decide +kernel
    exact (Option.some.inj (hnan.symm.trans hread.dailyLoss)).symm
  have hpauses : ∀ loss, pausesAt config.maxDailyLossUsd loss ≠ some true := by
    intro loss
    simp [hloss, pausesAt]
  refine ⟨config, haccepted, hpauses, ?_, ?_⟩
  · rintro heffective
    obtain ⟨loss, hloss⟩ := heffective.lossPauses
    exact hpauses loss hloss
  · intro hobeys
    have hswitch : ∃ switch ∈ opinionSwitches (entriesOf noEnvironment troubledFile),
        isFalseText switch = true := by
      rw [← List.any_eq_true]
      decide +kernel
    have hasks : asksFor ascii (sectionOf (entriesOf noEnvironment troubledFile) "routes")
        .polymarketOpinion false := by
      unfold asksFor
      decide +kernel
    exact haccepted.opinion_iff.mp hobeys hswitch .polymarketOpinion (by decide) hasks

end AcceptedExamples

end ArbitrageEngine.Config
