/-
# ArbitrageEngine.Positions.Codec -- positions as they are stored and restored

The ledger and the store keep a position as a JSON document: `_position_to_json` writes it,
`_position_from_json` reads it.  The records here have all fields of `OpenPosition` and
`MarketSpec`, with decimals in their spelling and aware datetimes, and what `__post_init__`
establishes is part of the records.

A position comes back as it was, but for the fields that are not stored and for an empty timezone
name, which is read as UTC (`position_round_trip`).
-/
import ArbitrageEngine.Lib.JsonValue
import ArbitrageEngine.Positions.DecimalStr
import ArbitrageEngine.Positions.IsoTime
import ArbitrageEngine.Reconciliation.OrderReadings
import Mathlib.Data.Finset.Sort
import Mathlib.Data.List.DropRight
import Mathlib.Data.String.Basic

namespace ArbitrageEngine.Positions

open Execution (strip)
open Lib (Json Texts)
open Reconciliation (lower)
open Reconciliation.OrderReadings (strip_lower lower_lower lower_eq_empty)

/-- What reading a document raises. -/
inductive Fault
  /-- A key that is missing. -/
  | key (name : String)
  | value (message : String)
  /-- A number that `Decimal` does not read. -/
  | decimal
  /-- A value of another type than its field; the language raises or takes it as it is. -/
  | untyped
deriving DecidableEq

/-! ## Residual exits -/

/-- The totals of an exit order can stand. -/
def PossibleTotals (requested closed proceeds residual : Spelled) : Prop :=
  (0 ≤ requested.value ∧ 0 ≤ closed.value ∧ 0 ≤ proceeds.value ∧ 0 ≤ residual.value) ∧
    0 < requested.value ∧ 0 < residual.value ∧ ¬ (0 < closed.value ∧ proceeds.value ≤ 0) ∧
    Dec.add closed.value residual.value ≤ Dec.add requested.value Dec.epsilon

instance (requested closed proceeds residual : Spelled) :
    Decidable (PossibleTotals requested closed proceeds residual) :=
  inferInstanceAs (Decidable (_ ∧ _))

/-- `ResidualExitSnapshot`. -/
structure ExitSnapshot where
  venueOrderId : String
  requestedContracts : Spelled
  closedContracts : Spelled
  exitProceedsUsd : Spelled
  residualContracts : Spelled
  normalized : lower (strip venueOrderId) = venueOrderId
  nonempty : venueOrderId ≠ ""
  possible : PossibleTotals requestedContracts closedContracts exitProceedsUsd residualContracts
deriving DecidableEq

/-- `strip` drops from both ends. -/
theorem strip_eq (s : String) :
    strip s = String.ofList ((s.toList.dropWhile Execution.isSpace).rdropWhile Execution.isSpace) :=
  rfl

/-- What is left after dropping from the end starts as before. -/
theorem dropWhile_rdropWhile_dropWhile (p : Char → Bool) (l : List Char) :
    ((l.dropWhile p).rdropWhile p).dropWhile p = (l.dropWhile p).rdropWhile p := by
  rw [List.dropWhile_eq_self_iff]
  intro hpos
  have hfront := List.rdropWhile_prefix p (l.dropWhile p)
  have hhead := List.dropWhile_eq_self_iff.mp (List.dropWhile_idempotent p l)
    (hpos.trans_le hfront.length_le)
  rwa [hfront.getElem hpos]

theorem strip_strip (s : String) : strip (strip s) = strip s := by
  rw [strip_eq (strip s), strip_eq s, String.toList_ofList, dropWhile_rdropWhile_dropWhile,
    List.rdropWhile_idempotent]

/-- A normalized order id is normalized. -/
theorem normalize_normalize (s : String) : lower (strip (lower (strip s))) = lower (strip s) := by
  rw [strip_lower, strip_strip, lower_lower]

/-- The construction of a `ResidualExitSnapshot`, which normalizes its order id. -/
def ExitSnapshot.init (venueOrderId : String) (requested closed proceeds residual : Spelled) :
    Except Fault ExitSnapshot :=
  if hempty : lower (strip venueOrderId) = "" then
    .error (.value "residual exit snapshot requires a venue order id")
  else if hpossible : PossibleTotals requested closed proceeds residual then
    .ok
      { venueOrderId := lower (strip venueOrderId)
        requestedContracts := requested
        closedContracts := closed
        exitProceedsUsd := proceeds
        residualContracts := residual
        normalized := normalize_normalize venueOrderId
        nonempty := hempty
        possible := hpossible }
  else .error (.value "residual exit snapshot contains invalid cumulative accounting")

/-- A snapshot is constructed from its fields. -/
theorem ExitSnapshot.init_fields (snapshot : ExitSnapshot) :
    ExitSnapshot.init snapshot.venueOrderId snapshot.requestedContracts snapshot.closedContracts
      snapshot.exitProceedsUsd snapshot.residualContracts = .ok snapshot := by
  unfold ExitSnapshot.init
  obtain ⟨venueOrderId, requested, closed, proceeds, residual, hnormalized, hnonempty, hpossible⟩ :=
    snapshot
  simp only [hnormalized, dif_neg hnonempty, dif_pos hpossible]

/-- `dict.fromkeys`. -/
def fromKeys (keys : List String) : List String :=
  keys.foldl (fun seen key => if key ∈ seen then seen else seen ++ [key]) []

theorem foldl_keys (seen keys : List String) (hseen : seen.Nodup) :
    (keys.foldl (fun seen key => if key ∈ seen then seen else seen ++ [key]) seen).Nodup ∧
      ∀ key, key ∈ keys.foldl (fun seen key => if key ∈ seen then seen else seen ++ [key]) seen ↔
        key ∈ seen ∨ key ∈ keys := by
  induction keys generalizing seen with
  | nil => exact ⟨hseen, by simp⟩
  | cons key keys ih =>
    rw [List.foldl_cons]
    by_cases hmem : key ∈ seen
    · rw [if_pos hmem]
      obtain ⟨hnodup, hkeys⟩ := ih seen hseen
      refine ⟨hnodup, fun other => ?_⟩
      rw [hkeys, List.mem_cons]
      constructor
      · rintro (h | h)
        · exact .inl h
        · exact .inr (.inr h)
      · rintro (h | rfl | h)
        · exact .inl h
        · exact .inl hmem
        · exact .inr h
    · rw [if_neg hmem]
      obtain ⟨hnodup, hkeys⟩ := ih (seen ++ [key]) (by
        rw [List.nodup_append]
        refine ⟨hseen, List.nodup_singleton key, ?_⟩
        rintro a ha b hb rfl
        rw [List.mem_singleton] at hb
        exact hmem (hb ▸ ha))
      refine ⟨hnodup, fun other => ?_⟩
      rw [hkeys, List.mem_append, List.mem_singleton, List.mem_cons, or_assoc]

theorem nodup_fromKeys (keys : List String) : (fromKeys keys).Nodup :=
  (foldl_keys [] keys List.nodup_nil).1

theorem mem_fromKeys {key : String} {keys : List String} : key ∈ fromKeys keys ↔ key ∈ keys := by
  have h := (foldl_keys [] keys List.nodup_nil).2 key
  unfold fromKeys
  simpa using h

/-- Keys that are all different, and known ones after them. -/
theorem fromKeys_append {keys more : List String} (hnodup : keys.Nodup)
    (hmore : ∀ key ∈ more, key ∈ keys) : fromKeys (keys ++ more) = keys := by
  have hknown : ∀ seen : List String, (∀ key ∈ more, key ∈ seen) →
      more.foldl (fun seen key => if key ∈ seen then seen else seen ++ [key]) seen = seen := by
    clear hmore
    intro seen hseen
    induction more with
    | nil => rfl
    | cons key more ih =>
      rw [List.foldl_cons, if_pos (hseen key (List.mem_cons_self ..))]
      exact ih fun other hother => hseen other (List.mem_cons_of_mem _ hother)
  have hnew : ∀ seen : List String, (seen ++ keys).Nodup →
      keys.foldl (fun seen key => if key ∈ seen then seen else seen ++ [key]) seen =
        seen ++ keys := by
    clear hmore hnodup hknown
    intro seen hseen
    induction keys generalizing seen with
    | nil => simp
    | cons key keys ih =>
      have hfresh : key ∉ seen := fun h =>
        (List.nodup_append.mp hseen).2.2 key h key (List.mem_cons_self ..) rfl
      rw [List.foldl_cons, if_neg hfresh]
      have happend : seen ++ key :: keys = seen ++ [key] ++ keys := by simp
      rw [happend] at hseen ⊢
      exact ih _ hseen
  unfold fromKeys
  rw [List.foldl_append, hnew [] (by simpa using hnodup), List.nil_append]
  exact hknown keys hmore

theorem fromKeys_of_nodup {keys : List String} (hnodup : keys.Nodup) : fromKeys keys = keys := by
  have h := fromKeys_append hnodup (nofun : ∀ key ∈ [], key ∈ keys)
  rwa [List.append_nil] at h

/-- The residual exposure of one leg: the exit orders, each once and in lower case, and their
snapshots, at most one for each. -/
structure ResidualLeg where
  exposureContracts : Spelled
  exitOrderIds : List String
  exitSnapshots : List ExitSnapshot
  lowered : ∀ orderId ∈ exitOrderIds, orderId ≠ "" ∧ lower orderId = orderId
  distinct : exitOrderIds.Nodup
  distinctSnapshots : (exitSnapshots.map (·.venueOrderId)).Nodup
  booked : ∀ snapshot ∈ exitSnapshots, snapshot.venueOrderId ∈ exitOrderIds
deriving DecidableEq

theorem ExitSnapshot.lower_id (snapshot : ExitSnapshot) :
    lower snapshot.venueOrderId = snapshot.venueOrderId := by
  have h := lower_lower (strip snapshot.venueOrderId)
  rwa [snapshot.normalized] at h

/-- The order ids that `__post_init__` makes of those given. -/
def loweredIds (orderIds : List String) : List String :=
  fromKeys ((orderIds.filter (· ≠ "")).map lower)

/-- What `__post_init__` makes of the order ids and the snapshots of a leg. -/
def ResidualLeg.init (field : String) (exposure : Spelled) (orderIds : List String)
    (snapshots : List ExitSnapshot) : Except Fault ResidualLeg :=
  if hdistinct : (snapshots.map (·.venueOrderId)).Nodup then
    .ok
      { exposureContracts := exposure
        exitOrderIds := fromKeys (loweredIds orderIds ++ snapshots.map (·.venueOrderId))
        exitSnapshots := snapshots
        lowered := by
          intro orderId hmem
          rw [mem_fromKeys, List.mem_append, loweredIds, mem_fromKeys] at hmem
          obtain hmem | hmem := hmem
          · obtain ⟨given, hgiven, rfl⟩ := List.mem_map.mp hmem
            have hne : given ≠ "" := by simpa using (List.mem_filter.mp hgiven).2
            exact ⟨mt lower_eq_empty.mp hne, lower_lower given⟩
          · obtain ⟨snapshot, -, rfl⟩ := List.mem_map.mp hmem
            exact ⟨snapshot.nonempty, snapshot.lower_id⟩
        distinct := nodup_fromKeys _
        distinctSnapshots := hdistinct
        booked := fun snapshot hmem => mem_fromKeys.mpr
          (List.mem_append_right _ (List.mem_map_of_mem hmem)) }
  else .error (.value (field ++ " contains duplicate venue order ids"))

/-- A leg is constructed from its fields. -/
theorem ResidualLeg.init_fields (field : String) (leg : ResidualLeg) :
    ResidualLeg.init field leg.exposureContracts leg.exitOrderIds leg.exitSnapshots = .ok leg := by
  have hlowered : loweredIds leg.exitOrderIds = leg.exitOrderIds := by
    have hfilter : leg.exitOrderIds.filter (· ≠ "") = leg.exitOrderIds := by
      rw [List.filter_eq_self]
      intro orderId hmem
      simpa using (leg.lowered orderId hmem).1
    have hmap : leg.exitOrderIds.map lower = leg.exitOrderIds :=
      (List.map_congr_left fun orderId hmem => (leg.lowered orderId hmem).2).trans (List.map_id _)
    unfold loweredIds
    rw [hfilter, hmap, fromKeys_of_nodup leg.distinct]
  have hids : fromKeys (loweredIds leg.exitOrderIds ++ leg.exitSnapshots.map (·.venueOrderId)) =
      leg.exitOrderIds := by
    rw [hlowered]
    apply fromKeys_append leg.distinct
    intro orderId hmem
    obtain ⟨snapshot, hsnapshot, rfl⟩ := List.mem_map.mp hmem
    exact leg.booked snapshot hsnapshot
  unfold ResidualLeg.init
  rw [dif_pos leg.distinctSnapshots]
  congr 1
  obtain ⟨exposure, orderIds, snapshots, hlowered, hdistinct, hdistinct', hbooked⟩ := leg
  simp only [hids]

/-! ## The records -/

/-- `AmmPool`. -/
structure AmmPool where
  yesReserve : ℚ
  noReserve : ℚ
  feePct : ℚ := 0
deriving DecidableEq

/-- `MarketSpec`, with all its fields. -/
structure MarketRecord where
  symbol : String
  targetLabel : String
  polymarketTokenId : String
  polymarketSide : BinarySide
  predictFunTokenId : String
  predictFunSide : BinarySide
  venueALabel : String := "Polymarket"
  venueBLabel : String := "Predict.fun"
  expiresAt : Option AwareTime := none
  conditionId : Option String := none
  polymarketMarketId : Option String := none
  polymarketUrl : Option String := none
  tickSize : Option String := none
  negRisk : Option Bool := none
  predictFunNegRisk : Option Bool := none
  predictFunFeeRateBps : Option ℤ := none
  predictFunPricePrecision : Option ℤ := none
  predictFunMarketId : Option String := none
  predictFunUrl : Option String := none
  predictFunAmmPool : Option AmmPool := none
  myriadMarketId : Option String := none
  myriadConditionId : Option String := none
  myriadCollateralToken : Option String := none
  myriadUrl : Option String := none
  myriadSide : BinarySide := .no
  rulesFingerprint : Option String := none
  mappingStrategy : Option String := none
  polymarketVolumeUsd : Option ℚ := none
  predictFunVolumeUsd : Option ℚ := none
  myriadVolumeUsd : Option ℚ := none
  category : Option String := none
  mappingStatus : MappingStatus := .candidate
  resolutionSource : Option String := none
  outcomeSemantics : Option String := none
  cutoffAt : Option AwareTime := none
  timezoneName : String := "UTC"
  verifiedRoutes : Finset String := ∅
deriving DecidableEq

/-- `OpenPosition`, with all its fields. -/
structure PositionRecord where
  market : MarketRecord
  polymarketContracts : Spelled
  polymarketEntryPrice : Spelled
  predictFunContracts : Spelled
  predictFunEntryPrice : Spelled
  openedAt : AwareTime
  polymarketOrderId : String
  predictFunOrderId : String
  status : String
  polymarketUnwindAttempts : ℤ
  polymarketClosed : Bool
  predictFunClosed : Bool
  polymarketExitPrice : Option Spelled
  predictFunExitPrice : Option Spelled
  unmatchedFirstContracts : Spelled
  unmatchedSecondContracts : Spelled
  polymarketClosedContracts : Spelled
  predictFunClosedContracts : Spelled
  polymarketExitProceedsUsd : Spelled
  predictFunExitProceedsUsd : Spelled
  polymarketResidual : ResidualLeg
  predictFunResidual : ResidualLeg
deriving DecidableEq

/-! ## Writing -/

/-- A value, or `None`. -/
def orNone {α : Type} (write : α → Json) : Option α → Json
  | some value => write value
  | none => .null

/-- `str(value)`. -/
def decimalJson (value : Spelled) : Json := .text (String.ofList value.str)

/-- `value.isoformat()`. -/
def timeJson (value : AwareTime) : Json := .text (String.ofList value.val.isoFormat)

def sideJson (side : BinarySide) : Json := .text side.value

/-- The enumeration's value. -/
def statusText : MappingStatus → String
  | .candidate => "CANDIDATE"
  | .verified => "VERIFIED"
  | .rejected => "REJECTED"
  | .stale => "STALE"

/-- `_amm_to_json`. -/
def ammToJson (pool : AmmPool) : Json :=
  .ofFields [("yes_reserve", .float pool.yesReserve), ("no_reserve", .float pool.noReserve),
    ("fee_pct", .float pool.feePct)]

/-- The market of `_position_to_json`, by its keys. -/
def marketFields (market : MarketRecord) : List (String × Json) :=
  [("symbol", .text market.symbol),
    ("target_label", .text market.targetLabel),
    ("polymarket_token_id", .text market.polymarketTokenId),
    ("polymarket_side", sideJson market.polymarketSide),
    ("predict_fun_token_id", .text market.predictFunTokenId),
    ("predict_fun_side", sideJson market.predictFunSide),
    ("venue_a_label", .text market.venueALabel),
    ("venue_b_label", .text market.venueBLabel),
    ("expires_at", orNone timeJson market.expiresAt),
    ("condition_id", orNone .text market.conditionId),
    ("polymarket_market_id", orNone .text market.polymarketMarketId),
    ("polymarket_url", orNone .text market.polymarketUrl),
    ("tick_size", orNone .text market.tickSize),
    ("neg_risk", orNone .bool market.negRisk),
    ("predict_fun_neg_risk", orNone .bool market.predictFunNegRisk),
    ("predict_fun_fee_rate_bps", orNone .int market.predictFunFeeRateBps),
    ("predict_fun_price_precision", orNone .int market.predictFunPricePrecision),
    ("predict_fun_market_id", orNone .text market.predictFunMarketId),
    ("predict_fun_url", orNone .text market.predictFunUrl),
    ("predict_fun_amm_pool", orNone ammToJson market.predictFunAmmPool),
    ("myriad_market_id", orNone .text market.myriadMarketId),
    ("myriad_condition_id", orNone .text market.myriadConditionId),
    ("myriad_collateral_token", orNone .text market.myriadCollateralToken),
    ("myriad_url", orNone .text market.myriadUrl),
    ("myriad_side", sideJson market.myriadSide),
    ("rules_fingerprint", orNone .text market.rulesFingerprint),
    ("category", orNone .text market.category),
    ("mapping_status", .text (statusText market.mappingStatus)),
    ("resolution_source", orNone .text market.resolutionSource),
    ("outcome_semantics", orNone .text market.outcomeSemantics),
    ("cutoff_at", orNone timeJson market.cutoffAt),
    ("timezone_name", .text market.timezoneName),
    ("verified_routes", .array ((sortedTexts market.verifiedRoutes).map .text))]

def marketToJson (market : MarketRecord) : Json := .ofFields (marketFields market)

/-- One of `_residual_exit_snapshots_to_json`, by its keys. -/
def snapshotFields (snapshot : ExitSnapshot) : List (String × Json) :=
  [("venue_order_id", .text snapshot.venueOrderId),
    ("requested_contracts", decimalJson snapshot.requestedContracts),
    ("closed_contracts", decimalJson snapshot.closedContracts),
    ("exit_proceeds_usd", decimalJson snapshot.exitProceedsUsd),
    ("residual_contracts", decimalJson snapshot.residualContracts)]

def snapshotToJson (snapshot : ExitSnapshot) : Json := .ofFields (snapshotFields snapshot)

/-- `_position_to_json`, by its keys. -/
def positionFields (position : PositionRecord) : List (String × Json) :=
  [("market", marketToJson position.market),
    ("polymarket_contracts", decimalJson position.polymarketContracts),
    ("polymarket_entry_price", decimalJson position.polymarketEntryPrice),
    ("predict_fun_contracts", decimalJson position.predictFunContracts),
    ("predict_fun_entry_price", decimalJson position.predictFunEntryPrice),
    ("opened_at", timeJson position.openedAt),
    ("polymarket_order_id", .text position.polymarketOrderId),
    ("predict_fun_order_id", .text position.predictFunOrderId),
    ("status", .text position.status),
    ("polymarket_unwind_attempts", .int position.polymarketUnwindAttempts),
    ("polymarket_closed", .bool position.polymarketClosed),
    ("predict_fun_closed", .bool position.predictFunClosed),
    ("polymarket_exit_price", orNone decimalJson position.polymarketExitPrice),
    ("predict_fun_exit_price", orNone decimalJson position.predictFunExitPrice),
    ("unmatched_first_contracts", decimalJson position.unmatchedFirstContracts),
    ("unmatched_second_contracts", decimalJson position.unmatchedSecondContracts),
    ("polymarket_closed_contracts", decimalJson position.polymarketClosedContracts),
    ("predict_fun_closed_contracts", decimalJson position.predictFunClosedContracts),
    ("polymarket_exit_proceeds_usd", decimalJson position.polymarketExitProceedsUsd),
    ("predict_fun_exit_proceeds_usd", decimalJson position.predictFunExitProceedsUsd),
    ("polymarket_residual_exposure_contracts",
      decimalJson position.polymarketResidual.exposureContracts),
    ("predict_fun_residual_exposure_contracts",
      decimalJson position.predictFunResidual.exposureContracts),
    ("polymarket_residual_exit_order_ids",
      .array (position.polymarketResidual.exitOrderIds.map .text)),
    ("predict_fun_residual_exit_order_ids",
      .array (position.predictFunResidual.exitOrderIds.map .text)),
    ("polymarket_residual_exit_snapshots",
      .array (position.polymarketResidual.exitSnapshots.map snapshotToJson)),
    ("predict_fun_residual_exit_snapshots",
      .array (position.predictFunResidual.exitSnapshots.map snapshotToJson))]

def positionToJson (position : PositionRecord) : Json := .ofFields (positionFields position)

/-! ## Reading -/

/-- How the language writes values and reads numbers. -/
structure NumberTexts extends Texts where
  /-- `float(s)`, where it does not raise. -/
  parseFloat : String → Option ℚ

variable (texts : NumberTexts)

/-- `value[key]`. -/
def required (key : String) (value : Json) : Except Fault Json :=
  if (value.get key).isPresent then .ok (value.get key) else .error (.key key)

/-- A text, taken as it is. -/
def textOf : Json → Except Fault String
  | .text s => .ok s
  | _ => .error .untyped

/-- `value[key]`, for a field that is a text. -/
def requiredText (key : String) (value : Json) : Except Fault String := do
  textOf (← required key value)

/-- `None`, or a value that is read. -/
def unlessNone {α : Type} (read : Json → Except Fault α) (value : Json) :
    Except Fault (Option α) :=
  if value.isNone then .ok none else (read value).map some

def boolOf : Json → Except Fault Bool
  | .bool b => .ok b
  | _ => .error .untyped

/-- `int(value)`. -/
def intOf : Json → Except Fault ℤ
  | .int n => .ok n
  | .bool b => .ok (if b then 1 else 0)
  | .float q => .ok (q.num.tdiv q.den)
  | .text s => match texts.parseInt s with
      | some n => .ok n
      | none => .error (.value "invalid literal for int()")
  | _ => .error .untyped

/-- `float(value)`. -/
def floatOf : Json → Except Fault ℚ
  | .float q => .ok q
  | .int n => .ok n
  | .bool b => .ok (if b then 1 else 0)
  | .text s => match texts.parseFloat s with
      | some q => .ok q
      | none => .error (.value "could not convert string to float")
  | _ => .error .untyped

/-- `str(value.get(key, default))`. -/
def strOr (key default : String) (value : Json) : String :=
  if (value.get key).isPresent then texts.str (value.get key) else default

/-- `str(value.get(key) or default)`. -/
def strOrDefault (key default : String) (value : Json) : String :=
  if (value.get key).truth then texts.str (value.get key) else default

/-- `Decimal(str(value))`. -/
def decimalOf (value : Json) : Except Fault Spelled :=
  match Spelled.ofStr (texts.str value).toList with
  | some number => .ok number
  | none => .error .decimal

/-- `Decimal(str(value[key]))`. -/
def requiredDecimal (key : String) (value : Json) : Except Fault Spelled := do
  decimalOf texts (← required key value)

/-- `Decimal(str(value.get(key, 0)))`. -/
def decimalOrZero (key : String) (value : Json) : Except Fault Spelled :=
  if (value.get key).isPresent then decimalOf texts (value.get key) else .ok ⟨false, 0, 0⟩

/-- `int(value.get(key, 0))`. -/
def intOrZero (key : String) (value : Json) : Except Fault ℤ :=
  if (value.get key).isPresent then intOf texts (value.get key) else .ok 0

/-- `datetime.fromisoformat(value)`. -/
def timeOf (value : Json) : Except Fault AwareTime :=
  match value with
  | .text s => match fromIsoFormat s.toList with
      | some time => .ok time
      | none => .error (.value "Invalid isoformat string")
  | _ => .error .untyped

/-- `datetime.fromisoformat(value) if value else None`. -/
def timeIfAny (value : Json) : Except Fault (Option AwareTime) :=
  if value.truth then (timeOf value).map some else .ok none

/-- `BinarySide(text)`. -/
def sideOf (text : String) : Except Fault BinarySide :=
  if text = "YES" then .ok .yes
  else if text = "NO" then .ok .no
  else .error (.value (text ++ " is not a valid BinarySide"))

/-- `MappingStatus(text)`. -/
def statusOf (text : String) : Except Fault MappingStatus :=
  if text = "CANDIDATE" then .ok .candidate
  else if text = "VERIFIED" then .ok .verified
  else if text = "REJECTED" then .ok .rejected
  else if text = "STALE" then .ok .stale
  else .error (.value (text ++ " is not a valid MappingStatus"))

/-- `_amm_from_json`. -/
def ammFromJson (raw : Json) : Except Fault (Option AmmPool) :=
  if raw.isObject then do
    let yesReserve ← floatOf texts (← required "yes_reserve" raw)
    let noReserve ← floatOf texts (← required "no_reserve" raw)
    let feePct ← if (raw.get "fee_pct").isPresent then floatOf texts (raw.get "fee_pct") else .ok 0
    pure (some ⟨yesReserve, noReserve, feePct⟩)
  else .ok none

/-- `frozenset(str(value) for value in …)`. -/
def routesOf : Json → Except Fault (Finset String)
  | .missing => .ok ∅
  | .array items => .ok (items.map texts.str).toFinset
  | _ => .error .untyped

/-- The market of `_position_from_json`. -/
def marketFromJson (data : Json) : Except Fault MarketRecord := do
  let symbol ← requiredText "symbol" data
  let targetLabel ← requiredText "target_label" data
  let polymarketTokenId ← requiredText "polymarket_token_id" data
  let polymarketSide ← sideOf (← requiredText "polymarket_side" data)
  let predictFunTokenId ← requiredText "predict_fun_token_id" data
  let predictFunSide ← sideOf (← requiredText "predict_fun_side" data)
  let expiresAt ← timeIfAny (data.get "expires_at")
  let conditionId ← unlessNone textOf (data.get "condition_id")
  let polymarketMarketId ← unlessNone textOf (data.get "polymarket_market_id")
  let polymarketUrl ← unlessNone textOf (data.get "polymarket_url")
  let tickSize ← unlessNone textOf (data.get "tick_size")
  let negRisk ← unlessNone boolOf (data.get "neg_risk")
  let predictFunNegRisk ← unlessNone boolOf (data.get "predict_fun_neg_risk")
  let predictFunFeeRateBps ← unlessNone (intOf texts) (data.get "predict_fun_fee_rate_bps")
  let predictFunPricePrecision ← unlessNone (intOf texts) (data.get "predict_fun_price_precision")
  let predictFunMarketId ← unlessNone textOf (data.get "predict_fun_market_id")
  let predictFunUrl ← unlessNone textOf (data.get "predict_fun_url")
  let predictFunAmmPool ← ammFromJson texts (data.get "predict_fun_amm_pool")
  let myriadMarketId ← unlessNone textOf (data.get "myriad_market_id")
  let myriadConditionId ← unlessNone textOf (data.get "myriad_condition_id")
  let myriadCollateralToken ← unlessNone textOf (data.get "myriad_collateral_token")
  let myriadUrl ← unlessNone textOf (data.get "myriad_url")
  let myriadSide ← sideOf (strOrDefault texts "myriad_side" "NO" data)
  let rulesFingerprint ← unlessNone textOf (data.get "rules_fingerprint")
  let category ← unlessNone textOf (data.get "category")
  let mappingStatus ← statusOf (strOrDefault texts "mapping_status" "CANDIDATE" data)
  let resolutionSource ← unlessNone textOf (data.get "resolution_source")
  let outcomeSemantics ← unlessNone textOf (data.get "outcome_semantics")
  let cutoffAt ← timeIfAny (data.get "cutoff_at")
  let verifiedRoutes ← routesOf texts (data.get "verified_routes")
  pure
    { symbol := symbol
      targetLabel := targetLabel
      polymarketTokenId := polymarketTokenId
      polymarketSide := polymarketSide
      predictFunTokenId := predictFunTokenId
      predictFunSide := predictFunSide
      venueALabel := strOr texts "venue_a_label" "Polymarket" data
      venueBLabel := strOr texts "venue_b_label" "Predict.fun" data
      expiresAt := expiresAt
      conditionId := conditionId
      polymarketMarketId := polymarketMarketId
      polymarketUrl := polymarketUrl
      tickSize := tickSize
      negRisk := negRisk
      predictFunNegRisk := predictFunNegRisk
      predictFunFeeRateBps := predictFunFeeRateBps
      predictFunPricePrecision := predictFunPricePrecision
      predictFunMarketId := predictFunMarketId
      predictFunUrl := predictFunUrl
      predictFunAmmPool := predictFunAmmPool
      myriadMarketId := myriadMarketId
      myriadConditionId := myriadConditionId
      myriadCollateralToken := myriadCollateralToken
      myriadUrl := myriadUrl
      myriadSide := myriadSide
      rulesFingerprint := rulesFingerprint
      category := category
      mappingStatus := mappingStatus
      resolutionSource := resolutionSource
      outcomeSemantics := outcomeSemantics
      cutoffAt := cutoffAt
      timezoneName := strOrDefault texts "timezone_name" "UTC" data
      verifiedRoutes := verifiedRoutes }

/-- `_string_tuple`. -/
def stringTuple (field : String) : Json → Except Fault (List String)
  | .missing | .null => .ok []
  | .array items =>
      items.mapM fun item =>
        match item with
        | .text s =>
            if s = "" then .error (.value ("position payload has invalid " ++ field)) else .ok s
        | _ => .error (.value ("position payload has invalid " ++ field))
  | _ => .error (.value ("position payload has invalid " ++ field))

/-- One of `_residual_exit_snapshots_from_json`. -/
def snapshotFromJson (item : Json) : Except Fault ExitSnapshot := do
  let venueOrderId := texts.str (← required "venue_order_id" item)
  let requested ← requiredDecimal texts "requested_contracts" item
  let closed ← requiredDecimal texts "closed_contracts" item
  let proceeds ← requiredDecimal texts "exit_proceeds_usd" item
  let residual ← requiredDecimal texts "residual_contracts" item
  ExitSnapshot.init venueOrderId requested closed proceeds residual

/-- The faults that `_residual_exit_snapshots_from_json` turns into its own. -/
def asInvalid (field : String) : Fault → Fault
  | .decimal => .decimal
  | _ => .value ("position payload has invalid " ++ field)

/-- `_residual_exit_snapshots_from_json`. -/
def snapshotsFromJson (field : String) : Json → Except Fault (List ExitSnapshot)
  | .missing | .null => .ok []
  | .array items =>
      if items.all Json.isObject then
        (items.mapM (snapshotFromJson texts)).mapError (asInvalid field)
      else .error (.value ("position payload has invalid " ++ field))
  | _ => .error (.value ("position payload has invalid " ++ field))

/-- `_position_from_json`. -/
def positionFromJson (item : Json) : Except Fault PositionRecord := do
  let market ← marketFromJson texts (← required "market" item)
  let polymarketContracts ← requiredDecimal texts "polymarket_contracts" item
  let polymarketEntryPrice ← requiredDecimal texts "polymarket_entry_price" item
  let predictFunContracts ← requiredDecimal texts "predict_fun_contracts" item
  let predictFunEntryPrice ← requiredDecimal texts "predict_fun_entry_price" item
  let openedAt ← timeOf (← required "opened_at" item)
  let polymarketOrderId ← requiredText "polymarket_order_id" item
  let predictFunOrderId ← requiredText "predict_fun_order_id" item
  let polymarketUnwindAttempts ← intOrZero texts "polymarket_unwind_attempts" item
  let polymarketExitPrice ← unlessNone (decimalOf texts) (item.get "polymarket_exit_price")
  let predictFunExitPrice ← unlessNone (decimalOf texts) (item.get "predict_fun_exit_price")
  let unmatchedFirstContracts ← decimalOrZero texts "unmatched_first_contracts" item
  let unmatchedSecondContracts ← decimalOrZero texts "unmatched_second_contracts" item
  let polymarketClosedContracts ← decimalOrZero texts "polymarket_closed_contracts" item
  let predictFunClosedContracts ← decimalOrZero texts "predict_fun_closed_contracts" item
  let polymarketExitProceedsUsd ← decimalOrZero texts "polymarket_exit_proceeds_usd" item
  let predictFunExitProceedsUsd ← decimalOrZero texts "predict_fun_exit_proceeds_usd" item
  let polymarketExposure ← decimalOrZero texts "polymarket_residual_exposure_contracts" item
  let predictFunExposure ← decimalOrZero texts "predict_fun_residual_exposure_contracts" item
  let polymarketOrderIds ← stringTuple "polymarket_residual_exit_order_ids"
    (item.get "polymarket_residual_exit_order_ids")
  let predictFunOrderIds ← stringTuple "predict_fun_residual_exit_order_ids"
    (item.get "predict_fun_residual_exit_order_ids")
  let polymarketSnapshots ← snapshotsFromJson texts "polymarket_residual_exit_snapshots"
    (item.get "polymarket_residual_exit_snapshots")
  let predictFunSnapshots ← snapshotsFromJson texts "predict_fun_residual_exit_snapshots"
    (item.get "predict_fun_residual_exit_snapshots")
  let polymarketResidual ← ResidualLeg.init "polymarket_residual_exit_snapshots" polymarketExposure
    polymarketOrderIds polymarketSnapshots
  let predictFunResidual ← ResidualLeg.init "predict_fun_residual_exit_snapshots" predictFunExposure
    predictFunOrderIds predictFunSnapshots
  pure
    { market := market
      polymarketContracts := polymarketContracts
      polymarketEntryPrice := polymarketEntryPrice
      predictFunContracts := predictFunContracts
      predictFunEntryPrice := predictFunEntryPrice
      openedAt := openedAt
      polymarketOrderId := polymarketOrderId
      predictFunOrderId := predictFunOrderId
      status := strOr texts "status" "open" item
      polymarketUnwindAttempts := polymarketUnwindAttempts
      polymarketClosed := (item.get "polymarket_closed").truth
      predictFunClosed := (item.get "predict_fun_closed").truth
      polymarketExitPrice := polymarketExitPrice
      predictFunExitPrice := predictFunExitPrice
      unmatchedFirstContracts := unmatchedFirstContracts
      unmatchedSecondContracts := unmatchedSecondContracts
      polymarketClosedContracts := polymarketClosedContracts
      predictFunClosedContracts := predictFunClosedContracts
      polymarketExitProceedsUsd := polymarketExitProceedsUsd
      predictFunExitProceedsUsd := predictFunExitProceedsUsd
      polymarketResidual := polymarketResidual
      predictFunResidual := predictFunResidual }

/-! ## Reading back what was written -/

/-- An empty timezone name is read as UTC. -/
def zoneName (name : String) : String := if name = "" then "UTC" else name

/-- What is stored of a market. -/
def MarketRecord.stored (market : MarketRecord) : MarketRecord :=
  { market with
    mappingStrategy := none
    polymarketVolumeUsd := none
    predictFunVolumeUsd := none
    myriadVolumeUsd := none
    timezoneName := zoneName market.timezoneName }

/-- The position without the fields that are deliberately not stored. -/
def PositionRecord.withoutUnstored (position : PositionRecord) : PositionRecord :=
  { position with
    market :=
      { position.market with
        mappingStrategy := none
        polymarketVolumeUsd := none
        predictFunVolumeUsd := none
        myriadVolumeUsd := none } }

/-- The position with the name of a timezone for an empty one. -/
def PositionRecord.zoned (position : PositionRecord) : PositionRecord :=
  { position with
    market := { position.market with timezoneName := zoneName position.market.timezoneName } }

theorem unlessNone_orNone {α : Type} {read : Json → Except Fault α} {write : α → Json}
    (hread : ∀ value, read (write value) = .ok value)
    (hnone : ∀ value, (write value).isNone = false) (value : Option α) :
    unlessNone read (orNone write value) = .ok value := by
  cases value with
  | none => rfl
  | some value =>
    unfold unlessNone orNone
    rw [hnone, hread]
    rfl

theorem unlessNone_text (value : Option String) :
    unlessNone textOf (orNone .text value) = .ok value := by
  apply unlessNone_orNone
  · exact fun _ => rfl
  · exact fun _ => rfl

theorem unlessNone_bool (value : Option Bool) :
    unlessNone boolOf (orNone .bool value) = .ok value := by
  apply unlessNone_orNone
  · exact fun _ => rfl
  · exact fun _ => rfl

theorem unlessNone_int (value : Option ℤ) :
    unlessNone (intOf texts) (orNone .int value) = .ok value := by
  apply unlessNone_orNone
  · exact fun _ => rfl
  · exact fun _ => rfl

theorem decimalOf_decimalJson (value : Spelled) :
    decimalOf texts (decimalJson value) = .ok value := by
  have htext : (texts.str (decimalJson value)).toList = value.str := String.toList_ofList
  unfold decimalOf
  rw [htext, Spelled.ofStr_str]

theorem unlessNone_decimal (value : Option Spelled) :
    unlessNone (decimalOf texts) (orNone decimalJson value) = .ok value :=
  unlessNone_orNone (decimalOf_decimalJson texts) (fun _ => rfl) value

theorem timeOf_timeJson (value : AwareTime) : timeOf (timeJson value) = .ok value := by
  unfold timeOf timeJson
  simp only [String.toList_ofList, fromIsoFormat_isoFormat]

theorem timeIfAny_orNone (value : Option AwareTime) :
    timeIfAny (orNone timeJson value) = .ok value := by
  cases value with
  | none => rfl
  | some value =>
    have htruth : (timeJson value).truth = true := by
      show decide (String.ofList value.val.isoFormat ≠ "") = true
      rw [decide_eq_true_eq]
      intro hempty
      have hlength := congrArg (fun s => s.toList.length) hempty
      simp [WallClock.isoFormat] at hlength
    unfold timeIfAny orNone
    rw [if_pos htruth, timeOf_timeJson]
    rfl

theorem sideOf_value (side : BinarySide) : sideOf side.value = .ok side := by
  cases side with
  | yes => rfl
  | no => rfl

theorem statusOf_statusText (status : MappingStatus) :
    statusOf (statusText status) = .ok status := by
  cases status with
  | candidate => rfl
  | verified => rfl
  | rejected => rfl
  | stale => rfl

theorem ammFromJson_ammToJson (pool : Option AmmPool) :
    ammFromJson texts (orNone ammToJson pool) = .ok pool := by
  cases pool with
  | none => rfl
  | some pool => rfl

theorem routesOf_sorted (routes : Finset String) :
    routesOf texts (.array ((sortedTexts routes).map .text)) = .ok routes := by
  have hstr : ((sortedTexts routes).map Json.text).map texts.str = sortedTexts routes := by
    rw [List.map_map]
    exact List.map_id _
  show Except.ok (_ : List String).toFinset = _
  rw [hstr, sortedTexts, Finset.sort_toFinset]

theorem get_marketToJson (market : MarketRecord) :
    ∀ field ∈ marketFields market, (marketToJson market).get field.1 = field.2 := by
  apply Json.get_ofFields
  simp [marketFields]

/-! A field under its key, for what is found there. -/

variable {key : String} {value : Json}

theorem required_of_get {field : Json} (h : value.get key = field)
    (hpresent : field.isPresent = true) :
    required key value = .ok field := by
  unfold required
  rw [h, if_pos hpresent]

theorem requiredText_of_get {text : String} (h : value.get key = .text text) :
    requiredText key value = .ok text := by
  unfold requiredText
  rw [required_of_get h rfl]
  rfl

theorem strOr_of_get {text default : String} (h : value.get key = .text text) :
    strOr texts key default value = text := by
  unfold strOr
  rw [h]
  exact if_pos rfl

theorem strOrDefault_of_get {text default : String} (h : value.get key = .text text)
    (hne : text ≠ "") : strOrDefault texts key default value = text := by
  unfold strOrDefault
  rw [h, if_pos (by simp [Json.truth, hne])]
  rfl

theorem sideOf_of_get {side : BinarySide} {default : String} (h : value.get key = sideJson side) :
    sideOf (strOrDefault texts key default value) = .ok side := by
  have hne : side.value ≠ "" := by
    cases side with
    | yes => decide
    | no => decide
  rw [strOrDefault_of_get texts h hne, sideOf_value]

theorem statusOf_of_get {status : MappingStatus} {default : String}
    (h : value.get key = .text (statusText status)) :
    statusOf (strOrDefault texts key default value) = .ok status := by
  have hne : statusText status ≠ "" := by
    cases status with
    | candidate => decide
    | verified => decide
    | rejected => decide
    | stale => decide
  rw [strOrDefault_of_get texts h hne, statusOf_statusText]

/-- The timezone name of a market is read with its default. -/
theorem zoneName_of_get {name : String} (h : value.get key = .text name) :
    strOrDefault texts key "UTC" value = zoneName name := by
  unfold zoneName
  by_cases hempty : name = ""
  · unfold strOrDefault
    rw [h, hempty]
    rfl
  · rw [strOrDefault_of_get texts h hempty, if_neg hempty]

theorem bind_ok {α β : Type} {read : Except Fault α} {result : α} {next : α → Except Fault β}
    {outcome : Except Fault β} (hread : read = .ok result) (hnext : next result = outcome) :
    (read >>= next) = outcome := by
  rw [hread]
  exact hnext

/-- A market comes back as it is stored. -/
theorem marketFromJson_marketToJson (market : MarketRecord) :
    marketFromJson texts (marketToJson market) = .ok market.stored := by
  have hget := get_marketToJson market
  simp only [marketFields, List.forall_mem_cons, List.not_mem_nil, false_implies, implies_true,
    and_true] at hget
  obtain ⟨hsymbol, htarget, hfirstToken, hfirstSide, hsecondToken, hsecondSide, hvenueA, hvenueB,
    hexpires, hcondition, hmarketId, hurl, htick, hnegRisk, hsecondNegRisk, hfeeRate, hprecision,
    hsecondMarketId, hsecondUrl, hpool, hmyriadId, hmyriadCondition, hmyriadToken, hmyriadUrl,
    hmyriadSide, hrules, hcategory, hstatus, hsource, hsemantics, hcutoff, hzone, hroutes⟩ := hget
  unfold marketFromJson
  refine bind_ok (requiredText_of_get hsymbol) ?_
  refine bind_ok (requiredText_of_get htarget) ?_
  refine bind_ok (requiredText_of_get hfirstToken) ?_
  refine bind_ok (requiredText_of_get hfirstSide) ?_
  refine bind_ok (sideOf_value _) ?_
  refine bind_ok (requiredText_of_get hsecondToken) ?_
  refine bind_ok (requiredText_of_get hsecondSide) ?_
  refine bind_ok (sideOf_value _) ?_
  refine bind_ok (hexpires ▸ timeIfAny_orNone _) ?_
  refine bind_ok (hcondition ▸ unlessNone_text _) ?_
  refine bind_ok (hmarketId ▸ unlessNone_text _) ?_
  refine bind_ok (hurl ▸ unlessNone_text _) ?_
  refine bind_ok (htick ▸ unlessNone_text _) ?_
  refine bind_ok (hnegRisk ▸ unlessNone_bool _) ?_
  refine bind_ok (hsecondNegRisk ▸ unlessNone_bool _) ?_
  refine bind_ok (hfeeRate ▸ unlessNone_int texts _) ?_
  refine bind_ok (hprecision ▸ unlessNone_int texts _) ?_
  refine bind_ok (hsecondMarketId ▸ unlessNone_text _) ?_
  refine bind_ok (hsecondUrl ▸ unlessNone_text _) ?_
  refine bind_ok (hpool ▸ ammFromJson_ammToJson texts _) ?_
  refine bind_ok (hmyriadId ▸ unlessNone_text _) ?_
  refine bind_ok (hmyriadCondition ▸ unlessNone_text _) ?_
  refine bind_ok (hmyriadToken ▸ unlessNone_text _) ?_
  refine bind_ok (hmyriadUrl ▸ unlessNone_text _) ?_
  refine bind_ok (sideOf_of_get texts hmyriadSide) ?_
  refine bind_ok (hrules ▸ unlessNone_text _) ?_
  refine bind_ok (hcategory ▸ unlessNone_text _) ?_
  refine bind_ok (statusOf_of_get texts hstatus) ?_
  refine bind_ok (hsource ▸ unlessNone_text _) ?_
  refine bind_ok (hsemantics ▸ unlessNone_text _) ?_
  refine bind_ok (hcutoff ▸ timeIfAny_orNone _) ?_
  refine bind_ok (hroutes ▸ routesOf_sorted texts _) ?_
  rw [strOr_of_get texts hvenueA, strOr_of_get texts hvenueB, zoneName_of_get texts hzone]
  rfl

theorem requiredDecimal_of_get {number : Spelled} (h : value.get key = decimalJson number) :
    requiredDecimal texts key value = .ok number :=
  bind_ok (required_of_get h rfl) (decimalOf_decimalJson texts number)

theorem decimalOrZero_of_get {number : Spelled} (h : value.get key = decimalJson number) :
    decimalOrZero texts key value = .ok number := by
  have hpresent : (decimalJson number).isPresent = true := rfl
  unfold decimalOrZero
  rw [h, if_pos hpresent, decimalOf_decimalJson]

theorem intOrZero_of_get {number : ℤ} (h : value.get key = .int number) :
    intOrZero texts key value = .ok number := by
  unfold intOrZero
  rw [h]
  exact if_pos rfl

/-- A snapshot comes back. -/
theorem snapshotFromJson_snapshotToJson (snapshot : ExitSnapshot) :
    snapshotFromJson texts (snapshotToJson snapshot) = .ok snapshot := by
  have hget : ∀ field ∈ snapshotFields snapshot,
      (snapshotToJson snapshot).get field.1 = field.2 := by
    apply Json.get_ofFields
    simp [snapshotFields]
  simp only [snapshotFields, List.forall_mem_cons, List.not_mem_nil, false_implies, implies_true,
    and_true] at hget
  obtain ⟨hid, hrequested, hclosed, hproceeds, hresidual⟩ := hget
  unfold snapshotFromJson
  refine bind_ok (required_of_get hid rfl) ?_
  refine bind_ok (requiredDecimal_of_get texts hrequested) ?_
  refine bind_ok (requiredDecimal_of_get texts hclosed) ?_
  refine bind_ok (requiredDecimal_of_get texts hproceeds) ?_
  refine bind_ok (requiredDecimal_of_get texts hresidual) ?_
  exact snapshot.init_fields

/-- Items that all come back. -/
theorem mapM_map {α : Type} {read : Json → Except Fault α} {write : α → Json} {items : List α}
    (h : ∀ item ∈ items, read (write item) = .ok item) :
    (items.map write).mapM read = .ok items := by
  induction items with
  | nil => rfl
  | cons item items ih =>
    rw [List.map_cons, List.mapM_cons]
    refine bind_ok (h item (List.mem_cons_self ..)) ?_
    refine bind_ok (ih fun other hother => h other (List.mem_cons_of_mem _ hother)) ?_
    rfl

theorem snapshotsFromJson_map (field : String) (snapshots : List ExitSnapshot) :
    snapshotsFromJson texts field (.array (snapshots.map snapshotToJson)) = .ok snapshots := by
  have hobjects : (snapshots.map snapshotToJson).all Json.isObject = true := by
    rw [List.all_eq_true]
    intro item hitem
    obtain ⟨snapshot, -, rfl⟩ := List.mem_map.mp hitem
    rfl
  unfold snapshotsFromJson
  simp only
  rw [if_pos hobjects, mapM_map fun snapshot _ => snapshotFromJson_snapshotToJson texts snapshot]
  rfl

theorem stringTuple_map (field : String) (leg : ResidualLeg) :
    stringTuple field (.array (leg.exitOrderIds.map .text)) = .ok leg.exitOrderIds := by
  unfold stringTuple
  apply mapM_map
  intro orderId hmem
  exact if_neg (leg.lowered orderId hmem).1

/-- A position comes back as it is stored. -/
theorem positionFromJson_positionToJson (position : PositionRecord) :
    positionFromJson texts (positionToJson position) = .ok position.zoned.withoutUnstored := by
  have hget : ∀ field ∈ positionFields position,
      (positionToJson position).get field.1 = field.2 := by
    apply Json.get_ofFields
    simp [positionFields]
  simp only [positionFields, List.forall_mem_cons, List.not_mem_nil, false_implies, implies_true,
    and_true] at hget
  obtain ⟨hmarket, hfirst, hfirstPrice, hsecond, hsecondPrice, hopened, hfirstOrder, hsecondOrder,
    hstatus, hattempts, hfirstClosed, hsecondClosed, hfirstExit, hsecondExit, hunmatchedFirst,
    hunmatchedSecond, hfirstSold, hsecondSold, hfirstProceeds, hsecondProceeds, hfirstExposure,
    hsecondExposure, hfirstIds, hsecondIds, hfirstSnapshots, hsecondSnapshots⟩ := hget
  unfold positionFromJson
  refine bind_ok (required_of_get hmarket rfl) ?_
  refine bind_ok (marketFromJson_marketToJson texts position.market) ?_
  refine bind_ok (requiredDecimal_of_get texts hfirst) ?_
  refine bind_ok (requiredDecimal_of_get texts hfirstPrice) ?_
  refine bind_ok (requiredDecimal_of_get texts hsecond) ?_
  refine bind_ok (requiredDecimal_of_get texts hsecondPrice) ?_
  refine bind_ok (required_of_get hopened rfl) ?_
  refine bind_ok (timeOf_timeJson position.openedAt) ?_
  refine bind_ok (requiredText_of_get hfirstOrder) ?_
  refine bind_ok (requiredText_of_get hsecondOrder) ?_
  refine bind_ok (intOrZero_of_get texts hattempts) ?_
  refine bind_ok (hfirstExit ▸ unlessNone_decimal texts _) ?_
  refine bind_ok (hsecondExit ▸ unlessNone_decimal texts _) ?_
  refine bind_ok (decimalOrZero_of_get texts hunmatchedFirst) ?_
  refine bind_ok (decimalOrZero_of_get texts hunmatchedSecond) ?_
  refine bind_ok (decimalOrZero_of_get texts hfirstSold) ?_
  refine bind_ok (decimalOrZero_of_get texts hsecondSold) ?_
  refine bind_ok (decimalOrZero_of_get texts hfirstProceeds) ?_
  refine bind_ok (decimalOrZero_of_get texts hsecondProceeds) ?_
  refine bind_ok (decimalOrZero_of_get texts hfirstExposure) ?_
  refine bind_ok (decimalOrZero_of_get texts hsecondExposure) ?_
  refine bind_ok (hfirstIds ▸ stringTuple_map _ position.polymarketResidual) ?_
  refine bind_ok (hsecondIds ▸ stringTuple_map _ position.predictFunResidual) ?_
  refine bind_ok (hfirstSnapshots ▸ snapshotsFromJson_map texts _ _) ?_
  refine bind_ok (hsecondSnapshots ▸ snapshotsFromJson_map texts _ _) ?_
  refine bind_ok (position.polymarketResidual.init_fields _) ?_
  refine bind_ok (position.predictFunResidual.init_fields _) ?_
  rw [strOr_of_get texts hstatus, hfirstClosed, hsecondClosed]
  rfl

/-- **A stored position is restored** with every field that is stored, and written again as it was
written; the name of a timezone is UTC where it was empty. -/
theorem position_round_trip (position : PositionRecord) :
    positionFromJson texts (positionToJson position) = .ok position.zoned.withoutUnstored ∧
      positionToJson position.zoned.withoutUnstored = positionToJson position.zoned :=
  ⟨positionFromJson_positionToJson texts position, rfl⟩

/-- A leg without a residual exposure. -/
def noResidual : ResidualLeg where
  exposureContracts := ⟨false, 0, 0⟩
  exitOrderIds := []
  exitSnapshots := []
  lowered _ h := absurd h List.not_mem_nil
  distinct := List.nodup_nil
  distinctSnapshots := List.nodup_nil
  booked _ h := absurd h List.not_mem_nil

/-- A position in a market whose timezone has no name. -/
def unzoned : PositionRecord where
  market :=
    { symbol := "BTC"
      targetLabel := "100000"
      polymarketTokenId := "1"
      polymarketSide := .yes
      predictFunTokenId := "2"
      predictFunSide := .no
      timezoneName := "" }
  polymarketContracts := ⟨false, 10, 0⟩
  polymarketEntryPrice := ⟨false, 45, -2⟩
  predictFunContracts := ⟨false, 10, 0⟩
  predictFunEntryPrice := ⟨false, 50, -2⟩
  openedAt := ⟨⟨2025, 1, 31, 12, 0, 0, 250000, 0⟩, by decide⟩
  polymarketOrderId := "a"
  predictFunOrderId := "b"
  status := "open"
  polymarketUnwindAttempts := 0
  polymarketClosed := false
  predictFunClosed := false
  polymarketExitPrice := none
  predictFunExitPrice := none
  unmatchedFirstContracts := ⟨false, 0, 0⟩
  unmatchedSecondContracts := ⟨false, 0, 0⟩
  polymarketClosedContracts := ⟨false, 0, 0⟩
  predictFunClosedContracts := ⟨false, 0, 0⟩
  polymarketExitProceedsUsd := ⟨false, 0, 0⟩
  predictFunExitProceedsUsd := ⟨false, 0, 0⟩
  polymarketResidual := noResidual
  predictFunResidual := noResidual

/-- It does not come back without the name. -/
theorem unzoned_restored :
    ¬ ∀ texts, positionFromJson texts (positionToJson unzoned) = .ok unzoned.withoutUnstored := by
  intro h
  have hsame := h ⟨⟨fun _ => "", fun _ => none⟩, fun _ => none⟩
  rw [positionFromJson_positionToJson] at hsame
  have hzone : ("UTC" : String) = "" :=
    congrArg (fun position => position.market.timezoneName) (Except.ok.inj hsame)
  exact absurd hzone (by decide)

end ArbitrageEngine.Positions
