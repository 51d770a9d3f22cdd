/-
# ArbitrageEngine.Execution.PricedPreview -- what a prepared entry may cost at worst

The economic half of `_preflight_price_guard`.  Both legs preview and sign their order; from the
signed orders the guard takes the capital and the fee each leg may cost at worst, and it returns an
entry only if the payout both orders guarantee covers them, the chain cost, and the profit and the
spread that are asked for.

An order is signed for contracts or, by the V3 connector, for a stake: then the contracts depend on
the price of the fill.  The quantity and the limits are those of `Execution.Preflight`; a preview
reads a book of its own, and its connector may round the limit to its grid.
-/
import ArbitrageEngine.Execution.Preflight
import ArbitrageEngine.Fees

namespace ArbitrageEngine.Execution

/-! ## Signing a stake -/

/-- What the V3 connector signs with: the metadata of its venue and the fee of a taker. -/
structure V3Signer where
  oddsLadderStepSize : Dec
  assetDecimals : ℕ
  minimumUnits : Dec
  takerPayoutFee : Dec

/-- `_round_v3_probability`. -/
def roundV3Probability (probability oddsLadderStepSize : Dec) : Option Dec :=
  let step := Dec.div oddsLadderStepSize 100000
  if step ≤ 0 then none
  else
    let rounded := Dec.mul ⌊Dec.div probability step⌋ step
    if rounded ≤ 0 ∨ 1 ≤ rounded then none else some rounded

/-- The loop of `_stake_for_contracts`. -/
def stakeForContracts (limitPrice : Dec) :
    List OrderBookLevel → (remaining spent : Dec) → Option Dec
  | [], remaining, spent => if Dec.epsilon < remaining then none else some spent
  | level :: rest, remaining, spent =>
      if level.price ≤ 0 ∨ limitPrice < level.price ∨ level.size ≤ 0 then
        stakeForContracts limitPrice rest remaining spent
      else
        let taken := min remaining level.size
        let spent := Dec.add spent (Dec.mul taken level.price)
        let remaining := Dec.sub remaining taken
        if remaining ≤ Dec.epsilon then some spent
        else stakeForContracts limitPrice rest remaining spent

/-- `_odds_units_to_probability` of `_probability_to_odds_units`. -/
def signedOdds (probability : Dec) : Dec :=
  Dec.div ⌊Dec.mul probability (10 ^ 20)⌋ (10 ^ 20)

/-- The stake and the odds of `_build_signed_order` for a buy, unless it raises. -/
def V3Signer.sign (signer : V3Signer) (book : OrderBook) (contracts limit : Dec) :
    Option (Dec × Dec) := do
  if contracts ≤ 0 ∨ limit ≤ 0 ∨ 1 ≤ limit then none
  else
    let exactOdds ← roundV3Probability limit signer.oddsLadderStepSize
    let stake ← stakeForContracts exactOdds book.asks contracts 0
    let stakeUnits : Dec := ⌊Dec.mul stake (10 ^ signer.assetDecimals)⌋
    if stakeUnits < signer.minimumUnits then none
    else some (Dec.div stakeUnits (10 ^ signer.assetDecimals), signedOdds exactOdds)

/-- `get_fee_quote` of the V3 connector. -/
def V3Signer.feeQuote (signer : V3Signer) : VenueFeeQuote :=
  { feeRateBps := ⌈Dec.mul signer.takerPayoutFee 10000⌉
    model := .sxPayoutProfit
    verified := true
    feeRateFraction := some signer.takerPayoutFee }

/-! ## Legs -/

/-- What the order of a leg is signed for: contracts, with the fee quote of the venue, or a stake. -/
inductive OrderKind
  | contracts (feeQuote : Option VenueFeeQuote)
  | stake (signer : V3Signer)

/-- What the environment answers about one leg: the book the guard quotes and the one the preview
reads, the slippage cap of the venue, its constraints (the minimum notional), how its connector
rounds a limit, and the fingerprint of the signed order. -/
structure PricedLeg where
  quotedBook : OrderBook
  previewBook : OrderBook
  slippageCap : Dec
  minimumNotional : Option Dec
  normalizeLimit : Dec → Dec
  signature : Option String
  kind : OrderKind

namespace PricedLeg

/-- `get_fee_quote` of the leg. -/
def feeQuote (leg : PricedLeg) : Option VenueFeeQuote :=
  match leg.kind with
  | .contracts feeQuote => feeQuote
  | .stake signer => leg.minimumNotional.map fun _ => signer.feeQuote

/-- The stake and the odds that are signed for a buy of the contracts. -/
def signedStake (leg : PricedLeg) (contracts limit : Dec) : Option (Dec × Dec) :=
  match leg.kind with
  | .contracts _ => none
  | .stake signer => signer.sign leg.previewBook contracts limit

/-- The signature of a buy of the contracts. -/
def signatureFor (leg : PricedLeg) (contracts limit : Dec) : Option String :=
  match leg.kind with
  | .contracts _ => leg.signature
  | .stake _ => (leg.signedStake contracts limit).bind fun _ => leg.signature

/-- The leg as it is quoted. -/
def quoted (leg : PricedLeg) : LegQuote :=
  { book := leg.quotedBook
    slippageCap := leg.slippageCap
    minimumNotional := leg.minimumNotional
    feeVerified := leg.feeQuote.map (·.verified)
    signature := leg.signature
    signedStake := none }

/-- The leg as a buy of the contracts is previewed on it. -/
def previewed (leg : PricedLeg) (contracts limit : Dec) : LegQuote :=
  { book := leg.previewBook
    slippageCap := leg.slippageCap
    minimumNotional := leg.minimumNotional
    feeVerified := leg.feeQuote.map (·.verified)
    signature := leg.signatureFor contracts limit
    signedStake := leg.signedStake contracts limit }

end PricedLeg

/-! ## Priced previews -/

/-- `OrderPreview` with its fees. -/
structure PricedPreview where
  preview : OrderPreview
  feeQuote : Option VenueFeeQuote
  expectedFeeUsd : Dec
  maximumFeeUsd : Option Dec
deriving DecidableEq

/-- The accumulators of `_preview_buy_from_book` after its loop. -/
def previewFill (book : OrderBook) (contracts maxPrice : Dec) : PreviewFill :=
  book.asks.foldl (PreviewFill.take maxPrice) { remaining := max 0 contracts }

variable (power : DecimalPower)

/-- `expected_fee`, which raises if the quote does not charge the fill. -/
def expectedFee (feeQuote : Option VenueFeeQuote) (filled averagePrice : Dec) : Option Dec :=
  match feeQuote with
  | none => some 0
  | some quote =>
      if quote.verified then (quote.feeForFill power filled averagePrice).toOption else some 0

/-- `executable_prices` of the V3 preview. -/
def executablePrices (book : OrderBook) (maxPrice : Dec) : List Dec :=
  (book.asks.map OrderBookLevel.price).filter fun price => 0 < price ∧ price ≤ maxPrice

/-- `maximum_fee` of the V3 preview: a stake buys the most contracts at the lowest price. -/
def maximumFee (feeQuote : Option VenueFeeQuote) (book : OrderBook) (maxPrice stake : Dec) :
    Option Dec := do
  let quote ← feeQuote
  let lowest ← (executablePrices book maxPrice).min?
  (quote.feeForFill power (Dec.div stake lowest) lowest).toOption

/-- `preview_buy`, or none if it raises. -/
def PricedLeg.previewBuy (leg : PricedLeg) (contracts maxPrice : Dec) : Option PricedPreview := do
  let limit := leg.normalizeLimit maxPrice
  let quote := leg.previewed contracts limit
  let preview := previewBuyFromBook quote contracts limit
  let expectedFee ←
    expectedFee power leg.feeQuote (previewFill leg.previewBook contracts limit).filled
      preview.averagePrice
  let signed ← signedPreview quote preview
  let maximumFee ←
    match preview.payloadFingerprint, leg.signedStake contracts limit with
    | some _, some (stake, _) =>
        (maximumFee power leg.feeQuote leg.previewBook limit stake).map some
    | _, _ => some none
  some
    { preview := signed
      feeQuote := leg.feeQuote
      expectedFeeUsd := expectedFee
      maximumFeeUsd := maximumFee }

/-- The fee a signed leg may cost at worst. -/
def PricedPreview.worstFee (preview : PricedPreview) : Option Dec :=
  match preview.maximumFeeUsd with
  | some fee => some fee
  | none =>
      preview.feeQuote.bind fun quote =>
        (quote.worstCaseFeeBetween power preview.preview.requestedContracts
          preview.preview.averagePrice preview.preview.limitPrice).toOption

/-- The contracts a signed leg guarantees. -/
def PricedPreview.guaranteed (preview : PricedPreview) : Dec :=
  preview.preview.guaranteedContracts.getD preview.preview.requestedContracts

/-! ## The guard -/

/-- What the configuration and the chain ask of an entry; the profit and the threshold are floats. -/
structure EntryPolicy where
  reservedCostUsd : Dec
  minExpectedProfitUsd : Dec
  dynamicThreshold : Dec

/-- The costs and the profit of an entry at worst. -/
structure WorstCase where
  firstFee : Dec
  secondFee : Dec
  variableCost : Dec
  allInCost : Dec
  payout : Dec
  profit : Dec
  netSpread : Dec
  minimumProfit : Dec

/-- The worst case of two signed previews. -/
def worstCase (policy : EntryPolicy) (first second : PricedPreview) : Option WorstCase := do
  let firstFee ← first.worstFee power
  let secondFee ← second.worstFee power
  let variableCost := Dec.add firstFee secondFee
  let allInCost :=
    Dec.add (Dec.add (Dec.add (worstCapital first.preview) (worstCapital second.preview))
      variableCost) policy.reservedCostUsd
  let payout := min first.guaranteed second.guaranteed
  let profit := Dec.sub payout allInCost
  some
    { firstFee := firstFee
      secondFee := secondFee
      variableCost := variableCost
      allInCost := allInCost
      payout := payout
      profit := profit
      netSpread := Dec.div profit payout
      minimumProfit := max policy.minExpectedProfitUsd (Dec.mul variableCost 2) }

/-- The checks of the worst case. -/
def WorstCase.accepted (worst : WorstCase) (policy : EntryPolicy) : Bool :=
  policy.dynamicThreshold ≤ worst.netSpread ∧ worst.minimumProfit ≤ worst.profit

/-- `PreparedEntry` with its economics: the previews it was made of, the fees and the total cost of
its plan, and the all-in cost. -/
structure PricedEntry where
  entry : PreparedEntry
  firstPreview : PricedPreview
  secondPreview : PricedPreview
  firstFeeUsd : Dec
  secondFeeUsd : Dec
  totalCostUsd : Dec
  allInCostUsd : Dec
deriving DecidableEq

/-- The checks of two previews before their costs are compared. -/
def previewsAccepted (target : Dec) (first second : PricedPreview) : Bool :=
  first.preview.executable ∧ second.preview.executable ∧
    first.preview.priceImpactPct = 0 ∧ second.preview.priceImpactPct = 0 ∧
    first.preview.requestedContracts = second.preview.requestedContracts ∧
    0 < first.guaranteed ∧ 0 < second.guaranteed ∧
    worstCapital first.preview ≤ target ∧ worstCapital second.preview ≤ target

/-- The tail of `_preflight_price_guard`, after both previews. -/
def pricedEntry (floatText : FloatText) (target : Dec) (policy : EntryPolicy)
    (first second : PricedPreview) : Option PricedEntry := do
  if previewsAccepted target first second then
    let worst ← worstCase power policy first second
    if worst.accepted policy then
      let firstLeg ← preparedLeg floatText first.preview
      let secondLeg ← preparedLeg floatText second.preview
      some
        { entry := { first := firstLeg, second := secondLeg, payoutContracts := worst.payout }
          firstPreview := first
          secondPreview := second
          firstFeeUsd := worst.firstFee
          secondFeeUsd := worst.secondFee
          totalCostUsd :=
            Dec.add (Dec.add (Dec.add (worstCapital first.preview) (worstCapital second.preview))
              worst.firstFee) worst.secondFee
          allInCostUsd := worst.allInCost }
    else none
  else none

/-- `_preflight_price_guard`; `target` is the decimal of half the position size and `guards` says
that no guard before the previews rejects the entry.  A negative chain cost is refused when the
spread is computed. -/
def pricedPriceGuard (floatText : FloatText) (target : Dec) (guards : Bool) (policy : EntryPolicy)
    (first second : PricedLeg) : Option PricedEntry := do
  let firstContracts ← orderbookBuyContracts floatText first.quotedBook target
  let secondContracts ← orderbookBuyContracts floatText second.quotedBook target
  let firstLimit ← submitLimit first.quoted
  let secondLimit ← submitLimit second.quoted
  let payout := payoutContracts target firstContracts secondContracts firstLimit secondLimit
  if guards ∧ 0 ≤ policy.reservedCostUsd then
    let firstPreview ← first.previewBuy power payout firstLimit
    let secondPreview ← second.previewBuy power payout secondLimit
    pricedEntry power floatText target policy firstPreview secondPreview
  else none

end ArbitrageEngine.Execution
