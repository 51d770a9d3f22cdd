/-
# ArbitrageEngine.Audit.LaunchEvidence -- does the launch check accept what the preflight recorded?

`_validate_evidence` reads the stored record of a shadow preflight before a route is funded.  It
does not trust the decisions of the preflight: it computes the required depth again, as a product of
decimals, takes the larger of the recorded and the configured minimum profit and threshold, and
compares the recorded numbers with them.

Texts of floats keep the order, so the net edge always passes and the profit passes the configured
minimum.  Three things may differ.  The preflight never compares the depth of a signed preview with
anything; its required depth is a product of floats; and a profit that reaches twice the fees may be
rounded below them when it becomes a float.
-/
import ArbitrageEngine.Audit.ShadowPreflight

namespace ArbitrageEngine.Audit.Launch

open Execution Lib
open Lib.FloatValue (number infinity nan nearest written shortest lt nearest_ne_nan written_ne_nan
  not_lt_written_nearest shortest_mono)

/-! ## Decimals with infinities -/

/-- `_decimal`. -/
def Numeral.read : Numeral → FloatValue
  | decimal d => number d
  | float x => written x

/-- `a < b` of decimals; none where the comparison raises, which it does for NaN. -/
def decimalLt (a b : FloatValue) : Option Bool :=
  if a = nan ∨ b = nan then none else some (lt a b)

/-- `max(a, b)` of decimals. -/
def decimalMax (a b : FloatValue) : Option FloatValue :=
  (decimalLt a b).map fun less => if less then b else a

/-- `value is None or value < floor`. -/
def isBelow (value : Option Numeral) (floor : FloatValue) : Option Bool :=
  match value with
  | none => some true
  | some numeral => decimalLt numeral.read floor

/-- `value or Decimal(0)`. -/
def orZero (value : Option Numeral) : FloatValue := (value.map Numeral.read).getD (number 0)

/-- `value is None or value <= 0`. -/
def isNotPositive (value : Option Numeral) : Option Bool :=
  match value with
  | none => some true
  | some numeral => (decimalLt (number 0) numeral.read).map (!·)

/-! ## The check -/

variable (config : ShadowConfig) (route : ExecutionRoute)

/-- `required_depth`, a product of decimals. -/
def ShadowConfig.evidenceDepth : Dec :=
  Dec.mul (shortest config.targetNotional.value) (shortest config.depthBuffer.value)

/-- A text if a test holds. -/
def blockedIf (test : Bool) (text : String) : List String := if test then [text] else []

/-- The blockers of a leg of a sample. -/
def legBlockers (label : String) (leg : LegEvidence) : Option (List String) := do
  let shallow ← isBelow leg.executableDepthUsd (number config.evidenceDepth)
  let shallowPreview ← isBelow leg.signedPreviewDepthUsd (number config.evidenceDepth)
  some (blockedIf shallow (label ++ ":executable_depth") ++
    blockedIf shallowPreview (label ++ ":signed_depth") ++
    blockedIf (!leg.feeVerified) (label ++ ":fee_unverified") ++
    blockedIf (leg.payloadFingerprint = "") (label ++ ":payload_fingerprint_missing"))

/-- The blockers of the economics of a sample. -/
def economicsBlockers (label : String) (economics : EconomicsEvidence) : Option (List String) := do
  let requiredProfit ←
    decimalMax (number (shortest config.minExpectedProfitUsd.value))
      (orZero economics.minimumProfitUsd)
  let requiredEdge ←
    decimalMax (number (shortest (config.thresholdFor route).value))
      (orZero economics.dynamicThreshold)
  let poor ← isBelow economics.expectedProfitUsd requiredProfit
  let narrow ← isBelow economics.netEdge requiredEdge
  let costless ← isNotPositive economics.fixedChainCostUsd
  some (blockedIf poor (label ++ ":profit_floor") ++ blockedIf narrow (label ++ ":edge_floor") ++
    blockedIf costless (label ++ ":chain_cost_missing"))

/-- The blockers of a sample; none is a sample that is no mapping. -/
def blockersOfSample (index : ℕ) : Option SampleEvidence → Option (List String)
  | none => some ["sample_" ++ toString index ++ ":invalid"]
  | some sample => do
      let label := "sample_" ++ toString index
      let first ← legBlockers config (label ++ ":first_leg") (sample.leg .first)
      let second ← legBlockers config (label ++ ":second_leg") (sample.leg .second)
      let economics ← economicsBlockers config route label sample.economics
      some (blockedIf (!sample.signedPreviewValidated) (label ++ ":signature_missing") ++ first ++
        second ++ economics)

/-- The blockers of the record apart from its samples. -/
def recordBlockers (expectedReleaseSha : String) (windowStart observedAt : Time)
    (record : EvidenceRecord) : List String :=
  let cutoff := record.cutoffAt.or record.expiresAt
  blockedIf (record.route ≠ route.name) "route_mismatch" ++
    blockedIf (record.runtimeInstanceId ≠ config.runtimeInstanceId) "runtime_instance_mismatch" ++
    blockedIf (record.releaseSha ≠ expectedReleaseSha) "release_sha_mismatch" ++
    (match record.capturedAt with
      | none => ["captured_at_invalid"]
      | some captured =>
          blockedIf (captured < windowStart) "evidence_predates_window" ++
            blockedIf (observedAt < captured) "evidence_from_future") ++
    (match record.capturedAt, cutoff with
      | some captured, some cutoff => blockedIf (cutoff ≤ captured) "market_not_current_at_capture"
      | _, _ => ["market_not_current_at_capture"]) ++
    -- both counts are zero if one of them is no number
    (match record.completedSamples, record.requiredSamples with
      | some completed, some required =>
          blockedIf (completed < config.shadowPreflightSamples ∨
            required < config.shadowPreflightSamples ∨
            record.samples.length < config.shadowPreflightSamples) "insufficient_samples"
      | _, _ =>
          blockedIf (0 < config.shadowPreflightSamples ∨
            record.samples.length < config.shadowPreflightSamples) "insufficient_samples")

/-- What the check returns. -/
structure EvidenceReport where
  accepted : Bool
  blockers : List String

/-- `_validate_evidence`; none where a comparison raises. -/
def validateEvidence (expectedReleaseSha : String) (windowStart observedAt : Time) :
    Option EvidenceRecord → Option EvidenceReport
  | none => some { accepted := false, blockers := ["evidence_missing"] }
  | some record => do
      let checked := (record.samples.take config.shadowPreflightSamples).zipIdx 1
      let ofSamples ← checked.mapM fun entry => blockersOfSample config route entry.2 entry.1
      let blockers :=
        recordBlockers config route expectedReleaseSha windowStart observedAt record ++
          ofSamples.flatten
      some
        { accepted := blockers = []
          blockers := blockers.eraseDups.mergeSort fun a b => a ≤ b }

/-! ## What the numbers of a record are compared with -/

theorem blockedIf_eq_nil {test : Bool} {text : String} :
    blockedIf test text = [] ↔ test = false := by
  cases test <;> simp [blockedIf]

theorem decimalLt_eq {a b : FloatValue} (ha : a ≠ nan) (hb : b ≠ nan) :
    decimalLt a b = some (lt a b) :=
  if_neg (not_or.mpr ⟨ha, hb⟩)

theorem decimalLt_number (a b : ℚ) : decimalLt (number a) (number b) = some (decide (a < b)) := by
  rw [decimalLt_eq (by simp) (by simp), FloatValue.lt_number]

theorem decimalMax_number (a b : ℚ) :
    decimalMax (number a) (number b) = some (number (max a b)) := by
  rw [decimalMax, decimalLt_number, Option.map_some]
  by_cases h : a < b
  · rw [decide_eq_true h, if_pos rfl, max_eq_right h.le]
  · rw [decide_eq_false h, max_eq_left (not_lt.mp h)]
    rfl

theorem isBelow_decimal (d floor : Dec) :
    isBelow (some (.decimal d)) (number floor) = some (decide (d < floor)) :=
  decimalLt_number d floor

theorem isBelow_nearest (x floor : Dec) :
    isBelow (some (.float (nearest x))) (number floor) =
      some (lt (written (nearest x)) (number floor)) :=
  decimalLt_eq (written_ne_nan (nearest_ne_nan x)) (by simp)

theorem isNotPositive_decimal {d : Dec} (h : 0 < d) :
    isNotPositive (some (.decimal d)) = some false := by
  show (decimalLt (number 0) (number d)).map (!·) = _
  rw [decimalLt_number, decide_eq_true h]
  rfl

/-! ## A sample -/

variable {power : DecimalPower} {config route}

/-- What the preflight does not promise: both books have the depth of decimals, both signed previews
have it too, and the profit reaches twice the fees as a float as well, where they are more than the
configured minimum. -/
structure PreflightAnswers.ClearsFloors (power : DecimalPower) (config : ShadowConfig)
    (route : ExecutionRoute) (answers : PreflightAnswers) : Prop where
  books : ∀ leg, config.evidenceDepth ≤ executableDepthUsd (answers.book leg)
  previews : ∀ leg, ∀ signed ∈ answers.preview leg,
    config.evidenceDepth ≤ signed.preview.availableDepthUsd
  profit : ∀ worst ∈ answers.worstCase power config route,
    Dec.mul worst.variableCost 2 ≤ shortest config.minExpectedProfitUsd.value ∨
      lt (written (nearest worst.profit)) (number (Dec.mul worst.variableCost 2)) = false

/-- A leg that was recorded is blocked by its two depths alone. -/
theorem legBlockers_of_legEvidence (config : ShadowConfig) {book : OrderBook}
    {signed : SignedPreview} {evidence : LegEvidence} (h : legEvidence book signed = some evidence)
    (hfee : signed.feeQuote.any (·.verified) = true) (label : String) :
    ∃ blockers, legBlockers config label evidence = some blockers ∧
      (blockers = [] ↔ config.evidenceDepth ≤ executableDepthUsd book ∧
        config.evidenceDepth ≤ signed.preview.availableDepthUsd) := by
  unfold legEvidence at h
  obtain ⟨fingerprint, hfingerprint, h⟩ := Option.map_eq_some_iff.mp h
  cases h
  have hsigned : fingerprint ≠ "" := by
    have hfilter := (Option.filter_eq_some_iff.mp hfingerprint).2
    simpa using hfilter
  unfold legBlockers
  simp only [isBelow_decimal, Option.bind_eq_bind, Option.bind_some]
  refine ⟨_, rfl, ?_⟩
  simp only [List.append_eq_nil_iff, blockedIf_eq_nil, decide_eq_false_iff_not, not_lt, hfee,
    hsigned, not_false_iff, Bool.not_true, and_true]

/-- The minimum profit and the edge that are asked for were asked for by the preflight. -/
theorem minimumProfit_eq {answers : PreflightAnswers} {worst : WorstCase}
    (h : answers.worstCase power config route = some worst) :
    worst.minimumProfit =
      max (shortest config.minExpectedProfitUsd.value) (Dec.mul worst.variableCost 2) := by
  unfold PreflightAnswers.worstCase at h
  obtain ⟨reserved, -, h⟩ := Option.bind_eq_some_iff.mp h
  obtain ⟨first, -, h⟩ := Option.bind_eq_some_iff.mp h
  obtain ⟨second, -, h⟩ := Option.bind_eq_some_iff.mp h
  unfold Execution.worstCase at h
  obtain ⟨firstFee, -, h⟩ := Option.bind_eq_some_iff.mp h
  obtain ⟨secondFee, -, h⟩ := Option.bind_eq_some_iff.mp h
  cases h
  rfl

/-- The configured threshold is not above the recorded one. -/
theorem shortest_threshold_le (config : ShadowConfig) (route : ExecutionRoute) :
    shortest (config.thresholdFor route).value ≤
      shortest (config.dynamicThreshold route).value := by
  refine shortest_mono (Double.onGrid_value _) (Double.onGrid_value _) ?_
  rw [ShadowConfig.dynamicThreshold, Double.value_larger]
  exact le_max_right _ _

/-- **The economics of an accepted entry are blocked by the rounding of its profit alone.** -/
theorem economicsBlockers_of_accepted {worst : WorstCase} {reserved : Dec}
    (hminimum : worst.minimumProfit =
      max (shortest config.minExpectedProfitUsd.value) (Dec.mul worst.variableCost 2))
    (haccepted : worst.accepted (config.policy route reserved) = true) (hcost : 0 < reserved)
    (label : String) :
    ∃ blockers,
      economicsBlockers config route label
          { fixedChainCostUsd := some (.decimal reserved)
            expectedProfitUsd := some (.float (nearest worst.profit))
            minimumProfitUsd := some (.decimal worst.minimumProfit)
            netEdge := some (.float (nearest worst.netSpread))
            dynamicThreshold := some (.float (number (config.dynamicThreshold route).value)) } =
        some blockers ∧
      (blockers = [] ↔
        Dec.mul worst.variableCost 2 ≤ shortest config.minExpectedProfitUsd.value ∨
          lt (written (nearest worst.profit)) (number (Dec.mul worst.variableCost 2)) = false) := by
  obtain ⟨hedge, hprofit⟩ := of_decide_eq_true haccepted
  -- the floors of the check are those of the preflight
  have hprofitFloor : max (shortest config.minExpectedProfitUsd.value) worst.minimumProfit =
      worst.minimumProfit := by
    rw [hminimum]
    exact max_eq_right (le_max_left _ _)
  have hedgeFloor : max (shortest (config.thresholdFor route).value)
      (shortest (config.dynamicThreshold route).value) =
        shortest (config.dynamicThreshold route).value :=
    max_eq_right (shortest_threshold_le config route)
  have hwide : lt (written (nearest worst.netSpread))
      (number (shortest (config.dynamicThreshold route).value)) = false :=
    not_lt_written_nearest _ hedge
  have hconfigured : lt (written (nearest worst.profit))
      (number (shortest config.minExpectedProfitUsd.value)) = false := by
    rw [hminimum] at hprofit
    exact not_lt_written_nearest _ ((le_max_left _ _).trans hprofit)
  unfold economicsBlockers
  simp only [orZero, Numeral.read, FloatValue.written_number, Option.map_some, Option.getD_some,
    decimalMax_number, hprofitFloor, hedgeFloor, isBelow_nearest, isNotPositive_decimal hcost,
    hwide, Option.bind_eq_bind, Option.bind_some]
  refine ⟨_, rfl, ?_⟩
  simp only [List.append_eq_nil_iff, blockedIf_eq_nil, and_true]
  rw [hminimum]
  rcases le_total (Dec.mul worst.variableCost 2) (shortest config.minExpectedProfitUsd.value) with
    hle | hle
  · rw [max_eq_left hle]
    exact iff_of_true hconfigured (Or.inl hle)
  · rw [max_eq_right hle]
    constructor
    · exact Or.inr
    · rintro (hge | hreaches)
      · rwa [le_antisymm hge hle]
      · exact hreaches

/-- **A recorded sample is accepted exactly if it clears the floors of the check.** -/
theorem blockersOfSample_of_recorded {answers : PreflightAnswers} {evidence : SampleEvidence}
    (h : preflightEvidence power config route answers = some evidence)
    (hcost : ∀ cost ∈ answers.reservedCostUsd, 0 < cost) (index : ℕ) :
    ∃ blockers, blockersOfSample config route index (some evidence) = some blockers ∧
      (blockers = [] ↔ answers.ClearsFloors power config route) := by
  obtain ⟨reserved, first, second, worst, hrecorded⟩ := recorded_of_preflightEvidence h
  obtain ⟨hfirst, hsecond, -⟩ := of_decide_eq_true hrecorded.previews
  obtain ⟨-, hfirstSigned, hfirstFee⟩ := of_decide_eq_true hfirst
  obtain ⟨-, hsecondSigned, hsecondFee⟩ := of_decide_eq_true hsecond
  obtain ⟨firstBlockers, hfirstBlockers, hfirstIff⟩ :=
    legBlockers_of_legEvidence config hrecorded.firstLeg hfirstFee
      ("sample_" ++ toString index ++ ":first_leg")
  obtain ⟨secondBlockers, hsecondBlockers, hsecondIff⟩ :=
    legBlockers_of_legEvidence config hrecorded.secondLeg hsecondFee
      ("sample_" ++ toString index ++ ":second_leg")
  obtain ⟨economics, heconomics, heconomicsIff⟩ :=
    economicsBlockers_of_accepted (minimumProfit_eq hrecorded.economy) hrecorded.accepted
      (hcost reserved hrecorded.cost) ("sample_" ++ toString index)
  rw [← hrecorded.economics] at heconomics
  unfold blockersOfSample
  simp only [hfirstBlockers, hsecondBlockers, heconomics, Option.bind_eq_bind, Option.bind_some]
  refine ⟨_, rfl, ?_⟩
  simp only [List.append_eq_nil_iff, blockedIf_eq_nil, hrecorded.validated, hfirstSigned,
    hsecondSigned, hfirstIff, hsecondIff, heconomicsIff, Bool.and_true, Bool.not_true, true_and]
  constructor
  · rintro ⟨⟨⟨hbook, hpreview⟩, hbook', hpreview'⟩, hprofit⟩
    refine ⟨?_, ?_, ?_⟩
    · rintro (_ | _)
      · exact hbook
      · exact hbook'
    · rintro (_ | _) signed hsigned
      · rw [hrecorded.firstPreview] at hsigned
        cases hsigned
        exact hpreview
      · rw [hrecorded.secondPreview] at hsigned
        cases hsigned
        exact hpreview'
    · intro other hother
      rw [hrecorded.economy] at hother
      cases hother
      exact hprofit
  · intro hclears
    exact ⟨⟨⟨hclears.books .first, hclears.previews .first first hrecorded.firstPreview⟩,
      hclears.books .second, hclears.previews .second second hrecorded.secondPreview⟩,
      hclears.profit worst hrecorded.economy⟩

/-! ## A record -/

/-- `_validate_evidence` accepts a record. -/
def launchAccepts (config : ShadowConfig) (route : ExecutionRoute) (expectedReleaseSha : String)
    (windowStart observedAt : Time) (record : EvidenceRecord) : Bool :=
  (validateEvidence config route expectedReleaseSha windowStart observedAt (some record)).any
    EvidenceReport.accepted

/-- Nothing but its samples blocks the payload of a guard, checked in time. -/
theorem recordBlockers_evidencePayload (route : ExecutionRoute) (releaseSha : String)
    {signal : ShadowSignal} {now windowStart observedAt cutoff : Time}
    {samples : List SampleEvidence} (hsamples : samples.length = config.shadowPreflightSamples)
    (hstart : windowStart ≤ now) (hend : now ≤ observedAt)
    (hcutoff : signal.cutoffAt.or signal.expiresAt = some cutoff) (hcurrent : now < cutoff) :
    recordBlockers config route releaseSha windowStart observedAt
      (evidencePayload config route releaseSha signal now samples) = [] := by
  unfold recordBlockers evidencePayload
  simp only [hcutoff, hsamples, List.length_map, List.append_eq_nil_iff, blockedIf_eq_nil, ne_eq,
    not_true_eq_false, decide_false, lt_irrefl, or_self, decide_eq_false_iff_not, not_lt, not_le,
    true_and, and_true]
  exact ⟨⟨hstart, hend⟩, hcurrent⟩

/-- **When the launch check accepts what the preflight recorded**: exactly if every sample clears
the floors that the preflight does not have. -/
theorem launchAccepts_iff (power : DecimalPower) (config : ShadowConfig) (route : ExecutionRoute)
    (releaseSha : String) (signal : ShadowSignal) (answers : ShadowAnswers)
    {record : EvidenceRecord} {windowStart observedAt cutoff : Time}
    (hstored : (shadowPreflightGuard power config route releaseSha signal answers).2 = some record)
    (hcost : ∀ i < config.shadowPreflightSamples,
      ∀ cost ∈ (answers.sample i).reservedCostUsd, 0 < cost)
    (hstart : windowStart ≤ answers.now) (hend : answers.now ≤ observedAt)
    (hcutoff : signal.cutoffAt.or signal.expiresAt = some cutoff)
    (hcurrent : answers.now < cutoff) :
    launchAccepts config route releaseSha windowStart observedAt record = true ↔
      ∀ i < config.shadowPreflightSamples,
        (answers.sample i).ClearsFloors power config route := by
  obtain ⟨samples, hsamples, rfl⟩ := payload_of_stored hstored
  obtain ⟨hlength, hsample⟩ := samples_of_collectSamples hsamples
  have hrecord :=
    recordBlockers_evidencePayload route releaseSha hlength hstart hend hcutoff hcurrent
  -- every sample is checked, under its number
  have htake : ((evidencePayload config route releaseSha signal answers.now samples).samples.take
      config.shadowPreflightSamples).zipIdx 1 = (samples.map some).zipIdx 1 := by
    show ((samples.map some).take _).zipIdx 1 = _
    rw [List.take_of_length_le (by rw [List.length_map, hlength])]
  have hchecked : ∀ entry ∈ (samples.map some).zipIdx 1,
      ∃ blockers, blockersOfSample config route entry.2 entry.1 = some blockers ∧
        (blockers = [] ↔ (answers.sample (entry.2 - 1)).ClearsFloors power config route) := by
    intro entry hentry
    obtain ⟨hlow, hhigh, hentry⟩ := List.mem_zipIdx hentry
    rw [List.length_map] at hhigh
    rw [hentry, List.getElem_map]
    exact blockersOfSample_of_recorded (hsample _ (by omega)) (hcost _ (by omega)) _
  obtain ⟨results, hresults, hempty⟩ := exists_flatten_of_mapM hchecked
  unfold launchAccepts validateEvidence
  simp only [htake, hresults, hrecord, Option.bind_eq_bind, Option.bind_some, Option.any_some,
    List.nil_append, decide_eq_true_eq, hempty]
  constructor
  · intro hall i hi
    have hmem : (some samples[i], i + 1) ∈ (samples.map some).zipIdx 1 := by
      rw [List.mk_mem_zipIdx_iff_le_and_getElem?_sub]
      refine ⟨by omega, ?_⟩
      rw [Nat.add_sub_cancel, List.getElem?_map, List.getElem?_eq_getElem (by omega)]
      rfl
    exact hall _ hmem
  · intro hall entry hentry
    obtain ⟨hlow, hhigh, -⟩ := List.mem_zipIdx hentry
    rw [List.length_map] at hhigh
    exact hall _ (by omega)

/-! ### Two records -/

namespace LaunchExamples

/-- Legs of ten dollars, with a depth of twelve and a half. -/
def quoteArb : ShadowConfig where
  positionSizeUsd := { value := 20, finite := by decide +kernel }
  depthBuffer := { value := 5 / 4, finite := by decide +kernel }
  minNetSpread := { value := 1 / 64, finite := by decide +kernel }
  minExpectedProfitUsd := { value := 1 / 2, finite := by decide +kernel }
  thresholdFor _ := { value := 1 / 32, finite := by decide +kernel }
  shadowPreflightSamples := 1
  runtimeInstanceId := "quote_arb"

/-- A leg that is free of fees; its preview reads a book of its own. -/
def leg (model : FeeModel) (quoted previewed : OrderBookLevel) : PricedLeg where
  quotedBook := { asks := [quoted], status := "VALID" }
  previewBook := { asks := [previewed], status := "VALID" }
  slippageCap := 24 / 1000
  minimumNotional := some 1
  normalizeLimit := id
  signature := some "0x01"
  kind := .contracts (some { model := model, verified := true })

/-- The first leg, with so many contracts left at its ask when the preview reads the book. -/
def firstLeg (left : Dec) : PricedLeg := leg .polymarketDynamic ⟨1 / 2, 100⟩ ⟨1 / 2, left⟩

def secondLeg : PricedLeg := leg .notionalBps ⟨3 / 8, 100⟩ ⟨3 / 8, 100⟩

/-- The quantity that the first limit allows for ten dollars, 19.53125 contracts. -/
def contracts : Dec := Dec.div 10 (512 / 1000)

/-- The signed preview of a leg. -/
noncomputable def signed (leg : PricedLeg) (limit : Dec) : Option SignedPreview :=
  (leg.previewBuy DecimalPower.rounded contracts limit).map fun priced =>
    { priced with signingValidated := priced.preview.payloadFingerprint.isSome }

/-- One sample, with half a dollar of chain cost. -/
noncomputable def answers (left : Dec) : ShadowAnswers where
  cooldownOver := true
  constraintsAccepted := true
  sample _ :=
    { book := fun
        | .first => (firstLeg left).quotedBook
        | .second => secondLeg.quotedBook
      containsAmmPool := fun _ => false
      otherGuards := true
      reservedCostUsd := some (1 / 2)
      preview := fun
        | .first => signed (firstLeg left) (512 / 1000)
        | .second => signed secondLeg (384 / 1000) }
  now := 100
  liveMappingEligible := true
  hasRepository := true
  stores := true

/-- A market that closes later. -/
def signal : ShadowSignal := { cutoffAt := some 1000, expiresAt := none }

/-- What the guard stores. -/
noncomputable def stored (left : Dec) : Option EvidenceRecord :=
  (shadowPreflightGuard DecimalPower.rounded quoteArb .polymarketPredict "abc123" signal
    (answers left)).2

theorem stored_full : (stored 100).isSome = true := by decide +kernel

theorem stored_shrunk : (stored 22).isSome = true := by decide +kernel

theorem launchAccepts_stored_full :
    launchAccepts quoteArb .polymarketPredict "abc123" 0 200 ((stored 100).get stored_full) =
      true := by
  decide +kernel

/-- The book is still full when the preview reads it: the sample clears the floors. -/
theorem full_clears_floors :
    launchAccepts quoteArb .polymarketPredict "abc123" 0 200 ((stored 100).get stored_full) = true ∧
      ∀ i < 1, ((answers 100).sample i).ClearsFloors DecimalPower.rounded quoteArb
        .polymarketPredict :=
  ⟨launchAccepts_stored_full,
    (launchAccepts_iff DecimalPower.rounded quoteArb .polymarketPredict "abc123" signal
      (answers 100) (Option.some_get stored_full).symm
      (fun _ _ cost hcost => by
        cases hcost
        norm_num)
      (by decide) (by decide) rfl (by decide)).mp launchAccepts_stored_full⟩

/-- The book shrank to eleven dollars before the preview read it: enough for the order, less than
the required depth.  The preflight stores the record, the launch check does not accept it. -/
theorem launch_rejects_shrunk :
    ¬ ∀ (power : DecimalPower) (config : ShadowConfig) (route : ExecutionRoute)
      (releaseSha : String) (signal : ShadowSignal) (answers : ShadowAnswers)
      (record : EvidenceRecord) (windowStart observedAt cutoff : Time),
      (shadowPreflightGuard power config route releaseSha signal answers).2 = some record →
      (∀ i < config.shadowPreflightSamples,
        ∀ cost ∈ (answers.sample i).reservedCostUsd, 0 < cost) →
      windowStart ≤ answers.now → answers.now ≤ observedAt →
      signal.cutoffAt.or signal.expiresAt = some cutoff → answers.now < cutoff →
      launchAccepts config route releaseSha windowStart observedAt record = true := by
  intro h
  have haccepts := h DecimalPower.rounded quoteArb .polymarketPredict "abc123" signal (answers 22)
    _ 0 200 1000 (Option.some_get stored_shrunk).symm
    (fun _ _ cost hcost => by
      cases hcost
      norm_num)
    (by decide) (by decide) rfl (by decide)
  have hrejects : launchAccepts quoteArb .polymarketPredict "abc123" 0 200
      ((stored 22).get stored_shrunk) = false := by
    decide +kernel
  rw [hrejects] at haccepts
  cases haccepts

end LaunchExamples

end ArbitrageEngine.Audit.Launch
