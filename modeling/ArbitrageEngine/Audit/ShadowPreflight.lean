/-
# ArbitrageEngine.Audit.ShadowPreflight -- the evidence that a preflight in shadow mode leaves

`_shadow_preflight_guard` runs the production preflight several times, as if each run were an entry,
and keeps from every run what it was decided on: the depth of the books, the depth of the signed
previews, and the worst case against its floors.  If no run was rejected, and the mapping may trade
live, the record of all runs is stored.

Numbers enter the record as texts, decimals and floats each with their own.  The floats are doubles,
and so is what the configuration says: the depth that is asked for is a product of doubles.  The
worst case is the one of `Execution.PricedPreview`.
-/
import ArbitrageEngine.Execution.PricedPreview
import ArbitrageEngine.Lib.JsonValue
import ArbitrageEngine.Lib.ShortestText
import ArbitrageEngine.Routes

namespace ArbitrageEngine.Audit

open Execution

/-- `top_of_book_ask_depth_usd`. -/
def topOfBookAskDepthUsd (book : OrderBook) (containsAmmPool : Bool) : Dec :=
  if containsAmmPool then 0
  else
    let validAsks := book.asks.filter fun level => 0 < level.price ∧ 0 < level.size
    match (validAsks.map OrderBookLevel.price).min? with
    | none => 0
    | some bestPrice =>
        Dec.mul bestPrice ((validAsks.filter fun level => level.price = bestPrice).foldl
          (fun total level => Dec.add total level.size) 0)

end ArbitrageEngine.Audit

namespace ArbitrageEngine.Audit.Launch

open Execution Lib
open Lib.FloatValue (number nearest written shortest lt)

/-! ## The configuration -/

/-- What the configuration says; its floats are finite. -/
structure ShadowConfig where
  positionSizeUsd : Double
  depthBuffer : Double
  minNetSpread : Double
  minExpectedProfitUsd : Double
  /-- `threshold_for`. -/
  thresholdFor : ExecutionRoute → Double
  shadowPreflightSamples : ℕ
  runtimeInstanceId : String

namespace ShadowConfig

variable (config : ShadowConfig)

/-- `target_notional`. -/
def targetNotional : Double := config.positionSizeUsd.half

/-- `required_depth`, a product of floats. -/
def requiredDepth : FloatValue := config.targetNotional.mul config.depthBuffer

/-- `dynamic_threshold`. -/
def dynamicThreshold (route : ExecutionRoute) : Double :=
  config.minNetSpread.larger (config.thresholdFor route)

/-- What is asked of the worst case of an entry, as decimals. -/
def policy (route : ExecutionRoute) (reservedCostUsd : Dec) : EntryPolicy where
  reservedCostUsd := reservedCostUsd
  minExpectedProfitUsd := shortest config.minExpectedProfitUsd.value
  dynamicThreshold := shortest (config.dynamicThreshold route).value

end ShadowConfig

/-! ## What a preflight is answered -/

/-- `OrderPreview` with its fees and its signing. -/
structure SignedPreview extends PricedPreview where
  signingValidated : Bool

/-- `executable`. -/
def SignedPreview.executable (signed : SignedPreview) : Bool :=
  signed.preview.blockers = [] ∧ signed.signingValidated ∧ signed.feeQuote.any (·.verified)

/-- What one run of the preflight is answered: the books it watches, the chain cost, none if no live
one is available, and the signed previews, none where a connector raises.  The guards that leave
nothing in the record are one answer: status and freshness of the books, the quotes, the
constraints, the fee quotes, and limits, spread and profit as they are quoted. -/
structure PreflightAnswers where
  book : Leg → OrderBook
  containsAmmPool : Leg → Bool
  otherGuards : Bool
  reservedCostUsd : Option Dec
  preview : Leg → Option SignedPreview

/-- `executable_depth_usd`. -/
def executableDepthUsd (book : OrderBook) : Dec :=
  (book.asks.filter fun level => 0 < level.price ∧ 0 < level.size).foldl
    (fun total level => Dec.add total (Dec.mul level.price level.size)) 0

/-! ## The record -/

/-- A number as the record spells it: `str` of a decimal or of a float. -/
inductive Numeral
  | decimal (d : Dec)
  | float (x : FloatValue)

/-- A leg of a sample; a number that is missing, or is none, is none. -/
structure LegEvidence where
  executableDepthUsd : Option Numeral
  signedPreviewDepthUsd : Option Numeral
  feeVerified : Bool
  payloadFingerprint : String

/-- The economics of a sample. -/
structure EconomicsEvidence where
  fixedChainCostUsd : Option Numeral
  expectedProfitUsd : Option Numeral
  minimumProfitUsd : Option Numeral
  netEdge : Option Numeral
  dynamicThreshold : Option Numeral

/-- `evidence` of a preflight. -/
structure SampleEvidence where
  signedPreviewValidated : Bool
  leg : Leg → LegEvidence
  economics : EconomicsEvidence

/-- `evidence_payload`, as it is stored and read back; none is what cannot be read. -/
structure EvidenceRecord where
  capturedAt : Option Time
  runtimeInstanceId : String
  releaseSha : String
  route : String
  cutoffAt : Option Time
  expiresAt : Option Time
  completedSamples : Option ℕ
  requiredSamples : Option ℕ
  samples : List (Option SampleEvidence)

/-! ## One run -/

variable (power : DecimalPower) (config : ShadowConfig) (route : ExecutionRoute)

/-- The top of a book, and all of it, have the required depth. -/
def depthAccepted (answers : PreflightAnswers) (leg : Leg) : Bool :=
  !lt (number (topOfBookAskDepthUsd (answers.book leg) (answers.containsAmmPool leg)))
      (written config.requiredDepth) ∧
    !lt (number (executableDepthUsd (answers.book leg))) (written config.requiredDepth)

/-- The checks of two signed previews before their costs are compared. -/
def signedPreviewsAccepted (first second : SignedPreview) : Bool :=
  first.executable ∧ second.executable ∧
    first.preview.priceImpactPct = 0 ∧ second.preview.priceImpactPct = 0 ∧
    first.preview.requestedContracts = second.preview.requestedContracts ∧
    0 < first.guaranteed ∧ 0 < second.guaranteed ∧
    worstCapital first.preview ≤ shortest config.targetNotional.value ∧
    worstCapital second.preview ≤ shortest config.targetNotional.value

/-- What a leg leaves in the record, `payload_fingerprint` asserted. -/
def legEvidence (book : OrderBook) (signed : SignedPreview) : Option LegEvidence :=
  (truthy signed.preview.payloadFingerprint).map fun fingerprint =>
    { executableDepthUsd := some (.decimal (executableDepthUsd book))
      signedPreviewDepthUsd := some (.decimal signed.preview.availableDepthUsd)
      feeVerified := signed.feeQuote.any (·.verified)
      payloadFingerprint := fingerprint }

/-- `_preflight_price_guard`: the evidence of an entry that is not rejected. -/
def preflightEvidence (answers : PreflightAnswers) : Option SampleEvidence := do
  let reserved ← answers.reservedCostUsd
  if answers.otherGuards ∧ 0 ≤ reserved ∧ depthAccepted config answers .first ∧
      depthAccepted config answers .second then
    let first ← answers.preview .first
    let second ← answers.preview .second
    let policy := config.policy route reserved
    let worst ← worstCase power policy first.toPricedPreview second.toPricedPreview
    if signedPreviewsAccepted config first second ∧ worst.accepted policy then
      let firstLeg ← legEvidence (answers.book .first) first
      let secondLeg ← legEvidence (answers.book .second) second
      some
        { signedPreviewValidated := first.signingValidated && second.signingValidated
          leg := fun
            | .first => firstLeg
            | .second => secondLeg
          economics :=
            { fixedChainCostUsd := some (.decimal reserved)
              expectedProfitUsd := some (.float (nearest worst.profit))
              minimumProfitUsd := some (.decimal worst.minimumProfit)
              netEdge := some (.float (nearest worst.netSpread))
              dynamicThreshold := some (.float (number (config.dynamicThreshold route).value)) } }
    else none
  else none

/-- The worst case of the previews that are answered. -/
def PreflightAnswers.worstCase (answers : PreflightAnswers) : Option WorstCase := do
  let reserved ← answers.reservedCostUsd
  let first ← answers.preview .first
  let second ← answers.preview .second
  Execution.worstCase power (config.policy route reserved) first.toPricedPreview
    second.toPricedPreview

/-- What an entry that leaves evidence was decided on. -/
structure Recorded (answers : PreflightAnswers) (evidence : SampleEvidence) (reserved : Dec)
    (first second : SignedPreview) (worst : WorstCase) : Prop where
  cost : answers.reservedCostUsd = some reserved
  firstPreview : answers.preview .first = some first
  secondPreview : answers.preview .second = some second
  economy : answers.worstCase power config route = some worst
  depth : ∀ leg, depthAccepted config answers leg = true
  previews : signedPreviewsAccepted config first second = true
  accepted : worst.accepted (config.policy route reserved) = true
  validated : evidence.signedPreviewValidated = (first.signingValidated && second.signingValidated)
  firstLeg : legEvidence (answers.book .first) first = some (evidence.leg .first)
  secondLeg : legEvidence (answers.book .second) second = some (evidence.leg .second)
  economics : evidence.economics =
    { fixedChainCostUsd := some (.decimal reserved)
      expectedProfitUsd := some (.float (nearest worst.profit))
      minimumProfitUsd := some (.decimal worst.minimumProfit)
      netEdge := some (.float (nearest worst.netSpread))
      dynamicThreshold := some (.float (number (config.dynamicThreshold route).value)) }

variable {power config route}

theorem recorded_of_preflightEvidence {answers : PreflightAnswers} {evidence : SampleEvidence}
    (h : preflightEvidence power config route answers = some evidence) :
    ∃ reserved first second worst,
      Recorded power config route answers evidence reserved first second worst := by
  unfold preflightEvidence at h
  obtain ⟨reserved, hreserved, h⟩ := Option.bind_eq_some_iff.mp h
  split at h
  · next hguards =>
      obtain ⟨-, -, hfirstDepth, hsecondDepth⟩ := hguards
      obtain ⟨first, hfirst, h⟩ := Option.bind_eq_some_iff.mp h
      obtain ⟨second, hsecond, h⟩ := Option.bind_eq_some_iff.mp h
      obtain ⟨worst, hworst, h⟩ := Option.bind_eq_some_iff.mp h
      split at h
      · next haccepted =>
          obtain ⟨firstLeg, hfirstLeg, h⟩ := Option.bind_eq_some_iff.mp h
          obtain ⟨secondLeg, hsecondLeg, h⟩ := Option.bind_eq_some_iff.mp h
          cases h
          refine ⟨reserved, first, second, worst, ?_⟩
          exact
            { cost := hreserved
              firstPreview := hfirst
              secondPreview := hsecond
              economy := by
                unfold PreflightAnswers.worstCase
                rw [hreserved, hfirst, hsecond]
                exact hworst
              depth := by
                rintro (_ | _)
                · exact hfirstDepth
                · exact hsecondDepth
              previews := haccepted.1
              accepted := haccepted.2
              validated := rfl
              firstLeg := hfirstLeg
              secondLeg := hsecondLeg
              economics := rfl }
      · cases h
  · cases h

variable (power config route)

/-! ## All runs -/

/-- What the guard is answered: the cooldown and the constraints, one answer for each sample, the
clock at the end, and what becomes of the record. -/
structure ShadowAnswers where
  cooldownOver : Bool
  constraintsAccepted : Bool
  sample : ℕ → PreflightAnswers
  now : Time
  liveMappingEligible : Bool
  hasRepository : Bool
  /-- `record_shadow_preflight_evidence` does not raise. -/
  stores : Bool

/-- What the guard is run on. -/
structure ShadowSignal where
  cutoffAt : Option Time
  expiresAt : Option Time

/-- The samples of a guard that no run rejects. -/
def collectSamples (answers : ShadowAnswers) : Option (List SampleEvidence) :=
  (List.range config.shadowPreflightSamples).mapM fun index =>
    preflightEvidence power config route (answers.sample index)

/-- `evidence_payload`. -/
def evidencePayload (releaseSha : String) (signal : ShadowSignal) (now : Time)
    (samples : List SampleEvidence) : EvidenceRecord where
  capturedAt := some now
  runtimeInstanceId := config.runtimeInstanceId
  releaseSha := releaseSha
  route := route.name
  cutoffAt := signal.cutoffAt
  expiresAt := signal.expiresAt
  completedSamples := some samples.length
  requiredSamples := some config.shadowPreflightSamples
  samples := samples.map some

/-- `_shadow_preflight_guard`: its answer, and the record that it stores. -/
def shadowPreflightGuard (releaseSha : String) (signal : ShadowSignal) (answers : ShadowAnswers) :
    Bool × Option EvidenceRecord :=
  if answers.cooldownOver ∧ answers.constraintsAccepted then
    match collectSamples power config route answers with
    | none => (false, none)
    | some samples =>
        -- an unverified mapping may go on, but leaves no record
        if ¬answers.liveMappingEligible ∨ ¬answers.hasRepository then (true, none)
        else if releaseSha = "" ∨ ¬answers.stores then (false, none)
        else (true, some (evidencePayload config route releaseSha signal answers.now samples))
  else (false, none)

variable {power config route}

/-- What the samples of a stored record were decided on. -/
theorem samples_of_collectSamples {answers : ShadowAnswers} {samples : List SampleEvidence}
    (h : collectSamples power config route answers = some samples) :
    samples.length = config.shadowPreflightSamples ∧
      ∀ (i : ℕ) (hi : i < samples.length),
        preflightEvidence power config route (answers.sample i) = some samples[i] := by
  obtain ⟨hlength, hread⟩ := getElem_of_mapM_eq_some h
  rw [List.length_range] at hlength
  refine ⟨hlength.symm, ?_⟩
  intro i hi
  have hsample := hread i (by rwa [List.length_range, hlength]) hi
  rwa [List.getElem_range] at hsample

/-- A stored record is the payload of samples that no run rejected. -/
theorem payload_of_stored {releaseSha : String} {signal : ShadowSignal} {answers : ShadowAnswers}
    {record : EvidenceRecord}
    (h : (shadowPreflightGuard power config route releaseSha signal answers).2 = some record) :
    ∃ samples, collectSamples power config route answers = some samples ∧
      record = evidencePayload config route releaseSha signal answers.now samples := by
  unfold shadowPreflightGuard at h
  split at h
  · split at h
    · cases h
    · next samples hsamples =>
        split_ifs at h
        cases h
        exact ⟨samples, hsamples, rfl⟩
  · cases h

end ArbitrageEngine.Audit.Launch
