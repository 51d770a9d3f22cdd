/-
# ArbitrageEngine.Execution.Preflight -- the quantity and the prices of a prepared entry

`_preflight_price_guard` quotes both books for the target notional, takes the smallest quantity that
either book and either limit price allows, and has both legs preview and sign a buy of it.  What it
returns fixes the contracts, the limit prices and the fingerprints the entry is submitted with.

The guards that only decide whether there is an entry (freshness and depth of the books, chain cost,
spread and profit) are one answer of the environment; so is the signature of a preview, with the
stake and the odds that the V3 connector signs.
-/
import ArbitrageEngine.Decimal
import ArbitrageEngine.Execution.Orders

namespace ArbitrageEngine.Execution

/-! ## Quotes -/

/-- `OrderBookLevel`, both floats. -/
structure OrderBookLevel where
  price : Dec
  size : Dec
deriving DecidableEq

/-- `OrderBook`, as far as a buy goes. -/
structure OrderBook where
  asks : List OrderBookLevel
  status : String
deriving DecidableEq

/-- The loop of `weighted_average_fill`: what is spent and what is bought. -/
def weightedFill : List OrderBookLevel → (remaining spent size : Dec) → Dec × Dec
  | [], _, spent, size => (spent, size)
  | level :: rest, remaining, spent, size =>
      if level.price ≤ 0 ∨ level.size ≤ 0 then weightedFill rest remaining spent size
      else
        let takeNotional := min remaining (Dec.mul level.price level.size)
        let takeSize := Dec.div takeNotional level.price
        let left := Dec.sub remaining takeNotional
        if left ≤ 1 / 10 ^ 12 then (Dec.add spent takeNotional, Dec.add size takeSize)
        else weightedFill rest left (Dec.add spent takeNotional) (Dec.add size takeSize)

/-- `weighted_average_fill`: average price, contracts and notional as floats. -/
def weightedAverageFill (floatText : FloatText) (levels : List OrderBookLevel) (target : Dec) :
    Option (Dec × Dec × Dec) :=
  if target ≤ 0 then none
  else
    let (spent, size) := weightedFill levels target 0 0
    if spent ≤ 0 ∨ size ≤ 0 then none
    else if Dec.add spent (1 / 10 ^ 12) < target then none
    else some (floatText.text (Dec.div spent size), floatText.text size, floatText.text spent)

/-- `orderbook_buy_quote`: its contracts. -/
def orderbookBuyContracts (floatText : FloatText) (book : OrderBook) (target : Dec) :
    Option Dec :=
  (weightedAverageFill floatText book.asks target).map fun quote => quote.2.1

/-! ## Previews -/

/-- What the environment answers about one leg: the slippage cap of its venue, its constraints (the
minimum notional), whether its fees are verified, the fingerprint of the signed order, and the stake
and the odds signed by the V3 connector. -/
structure LegQuote where
  book : OrderBook
  slippageCap : Dec
  minimumNotional : Option Dec
  feeVerified : Option Bool
  /-- None also where signing raises, which rejects the entry just as well. -/
  signature : Option String
  signedStake : Option (Dec × Dec)

/-- `OrderPreview`, as far as the entry is made of it. -/
structure OrderPreview where
  requestedContracts : Dec
  limitPrice : Dec
  averagePrice : Dec
  notionalUsd : Dec
  availableDepthUsd : Dec
  priceImpactPct : Dec
  feeVerified : Option Bool
  payloadFingerprint : Option String
  blockers : List String
  guaranteedContracts : Option Dec := none
  maximumNotionalUsd : Option Dec := none
deriving DecidableEq

/-- `executable`. -/
def OrderPreview.executable (preview : OrderPreview) : Bool :=
  preview.blockers = [] ∧ preview.payloadFingerprint ≠ none ∧ preview.feeVerified = some true

/-- The accumulators of the loop of `_preview_buy_from_book`. -/
structure PreviewFill where
  remaining : Dec
  filled : Dec := 0
  spent : Dec := 0
  availableDepth : Dec := 0
  bestAsk : Option Dec := none

/-- One level of the loop. -/
def PreviewFill.take (maxPrice : Dec) (fill : PreviewFill) (level : OrderBookLevel) : PreviewFill :=
  if level.price ≤ 0 ∨ level.size ≤ 0 ∨ maxPrice < level.price then fill
  else
    let taken := min fill.remaining level.size
    let depth := Dec.add fill.availableDepth (Dec.mul level.price level.size)
    let bestAsk := fill.bestAsk.or (some level.price)
    if 0 < taken then
      { remaining := Dec.sub fill.remaining taken
        filled := Dec.add fill.filled taken
        spent := Dec.add fill.spent (Dec.mul taken level.price)
        availableDepth := depth
        bestAsk := bestAsk }
    else { fill with availableDepth := depth, bestAsk := bestAsk }

/-- The blockers of a preview before it is signed. -/
def previewBlockers (leg : LegQuote) (contracts maxPrice : Dec) (fill : PreviewFill) :
    List String :=
  (if contracts ≤ 0 then ["contracts_not_positive"] else []) ++
    (if maxPrice ≤ 0 ∨ 1 < maxPrice then ["limit_price_out_of_range"] else []) ++
    (if leg.minimumNotional = none then ["constraints_unavailable"] else []) ++
    (if leg.book.status ≠ "VALID" then ["orderbook_status:" ++ leg.book.status.toLower] else []) ++
    (if leg.book.asks = [] then ["asks_unavailable"] else []) ++
    (if Dec.epsilon < fill.remaining then ["insufficient_executable_depth"] else []) ++
    (if leg.minimumNotional.any (fill.spent < ·) then ["minimum_notional_not_met"] else []) ++
    (match leg.feeVerified with
      | none => ["fee_metadata_unavailable"]
      | some false => ["fee_metadata_unverified"]
      | some true => [])

/-- `_preview_buy_from_book`. -/
def previewBuyFromBook (leg : LegQuote) (contracts maxPrice : Dec) : OrderPreview :=
  let requested := max 0 contracts
  let fill := leg.book.asks.foldl (PreviewFill.take maxPrice) { remaining := requested }
  let averagePrice := if 0 < fill.filled then Dec.div fill.spent fill.filled else 0
  let blockers := previewBlockers leg contracts maxPrice fill
  let signature := if blockers = [] then truthy leg.signature else none
  { requestedContracts := requested
    limitPrice := maxPrice
    averagePrice := averagePrice
    notionalUsd := fill.spent
    availableDepthUsd := fill.availableDepth
    priceImpactPct :=
      match fill.bestAsk with
      | some best => if 0 < best then max 0 (Dec.div (Dec.sub averagePrice best) best) else 0
      | none => 0
    feeVerified := leg.feeVerified
    payloadFingerprint := signature
    blockers :=
      if blockers = [] ∧ signature = none then ["signature_preview_unavailable"] else blockers }

/-- `_preview_buy_from_book` of the V3 connector: a signed order guarantees the contracts its stake
buys at its odds.  It raises if the odds are not positive. -/
def signedPreview (leg : LegQuote) (preview : OrderPreview) : Option OrderPreview :=
  match preview.payloadFingerprint, leg.signedStake with
  | some _, some (stake, odds) =>
      if odds ≤ 0 then none
      else some
        { preview with
          guaranteedContracts := some (Dec.div stake odds)
          maximumNotionalUsd := some stake }
  | _, _ => some preview

/-! ## The entry -/

/-- What the signal and the plan of an entry fix for a leg.  The price is a float. -/
structure PreparedLeg where
  contracts : Dec
  capitalUsd : Dec
  price : Dec
  fingerprint : String
deriving DecidableEq

/-- `PreparedEntry`. -/
structure PreparedEntry where
  first : PreparedLeg
  second : PreparedLeg
  payoutContracts : Dec
deriving DecidableEq

/-- The leg of an entry. -/
def PreparedEntry.leg (entry : PreparedEntry) : Leg → PreparedLeg
  | .first => entry.first
  | .second => entry.second

/-- `first_submit_limit` and `second_submit_limit`. -/
def submitLimit (quote : LegQuote) : Option Dec :=
  quote.book.asks.head?.map fun best =>
    min (999999 / 1000000) (Dec.mul best.price (Dec.add 1 quote.slippageCap))

/-- `payout_contracts`.  A limit of zero raises in the source; here it gives no contracts. -/
def payoutContracts (target firstContracts secondContracts firstLimit secondLimit : Dec) : Dec :=
  min (min (min firstContracts secondContracts) (Dec.div target firstLimit))
    (Dec.div target secondLimit)

/-- The capital a signed leg may cost at worst. -/
def worstCapital (preview : OrderPreview) : Dec :=
  preview.maximumNotionalUsd.getD (Dec.mul preview.requestedContracts preview.limitPrice)

/-- What an executable preview fixes for its leg. -/
def preparedLeg (floatText : FloatText) (preview : OrderPreview) : Option PreparedLeg :=
  preview.payloadFingerprint.map fun fingerprint =>
    { contracts := preview.requestedContracts
      capitalUsd := worstCapital preview
      price := floatText.text preview.limitPrice
      fingerprint := fingerprint }

/-- `_preflight_price_guard`; `target` is the decimal of half the position size and `guards` says
that no other guard rejects the entry. -/
def preflightPriceGuard (floatText : FloatText) (target : Dec) (guards : Bool)
    (first second : LegQuote) : Option PreparedEntry := do
  let firstContracts ← orderbookBuyContracts floatText first.book target
  let secondContracts ← orderbookBuyContracts floatText second.book target
  let firstLimit ← submitLimit first
  let secondLimit ← submitLimit second
  let payout := payoutContracts target firstContracts secondContracts firstLimit secondLimit
  let firstPreview ← signedPreview first (previewBuyFromBook first payout firstLimit)
  let secondPreview ← signedPreview second (previewBuyFromBook second payout secondLimit)
  let firstGuaranteed := firstPreview.guaranteedContracts.getD firstPreview.requestedContracts
  let secondGuaranteed := secondPreview.guaranteedContracts.getD secondPreview.requestedContracts
  if guards ∧ firstPreview.executable ∧ secondPreview.executable ∧
      firstPreview.priceImpactPct = 0 ∧ secondPreview.priceImpactPct = 0 ∧
      firstPreview.requestedContracts = secondPreview.requestedContracts ∧
      0 < firstGuaranteed ∧ 0 < secondGuaranteed ∧
      worstCapital firstPreview ≤ target ∧ worstCapital secondPreview ≤ target then
    let firstLeg ← preparedLeg floatText firstPreview
    let secondLeg ← preparedLeg floatText secondPreview
    some
      { first := firstLeg
        second := secondLeg
        payoutContracts := min firstGuaranteed secondGuaranteed }
  else none

end ArbitrageEngine.Execution
