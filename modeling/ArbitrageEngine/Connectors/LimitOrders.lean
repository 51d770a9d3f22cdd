/-
# ArbitrageEngine.Connectors.LimitOrders -- the orders that connectors make of a caller's limit

A caller asks for some contracts at a price no worse than a limit.  Each connector brings both into
the numbers of its venue: Polymarket a price on the tick of the market, within one tick of zero and
of one; Predict.fun the amounts its SDK computes from the book; Myriad base units; Opinion a price
of some digits and an amount of quote tokens.

What is handed to the SDK of a venue is what it signs.  A caller's numbers are floats, given by the
texts that `str` makes of them.  Keys, sessions and metadata that are missing refuse a submission
before it gets here.
-/
import ArbitrageEngine.Connectors.OrderBooks
import ArbitrageEngine.Decimal
import ArbitrageEngine.Lib.Steps

namespace ArbitrageEngine.Connectors.LimitOrders

open Lib.Rounding
open MarketData (Level Book)

/-! ## Requests and orders -/

/-- The floats of the code: a larger number has no smaller text. -/
structure OrderedText extends FloatText where
  mono : Monotone text

/-- `sdk_side_name`, `side_name`, `action`. -/
inductive SideName
  | buy
  | sell
deriving DecidableEq, Repr

/-- What a caller asks for: `max_price` of a purchase, `min_price` of a sale. -/
structure OrderRequest (floats : OrderedText) where
  side : SideName
  contracts : Dec
  limit : Dec
  contracts_pos : 0 < contracts
  limit_pos : 0 < limit
  limit_lt_one : limit < 1
  contracts_float : floats.text contracts = contracts
  limit_float : floats.text limit = limit

/-- An order as it is signed or sent: the prices it names and the contracts it trades at them. -/
structure SentOrder where
  prices : List Dec
  contracts : Dec
deriving DecidableEq

/-- The exceptions that refuse a submission, by their texts. -/
inductive Refusal
  /-- "step must be positive" -/
  | step
  /-- "value must be non-negative and step must be positive" -/
  | valueOrStep
  /-- "invalid Polymarket tick size" -/
  | tickSize
  /-- "exceeds the supported 4-decimal price precision" -/
  | tickPrecision
  /-- "invalid binary-market tick size" -/
  | binaryTick
  /-- "binary-market tick size has no executable price range" -/
  | noPriceRange
  /-- "Predict.fun limit price is outside the executable range" -/
  | priceRange
  /-- "Predict.fun order contracts must be positive" -/
  | contracts
  /-- "Predict.fun market order requires a valid orderbook" -/
  | bookStatus
  /-- "Predict.fun orderbook has insufficient depth inside the hard limit price" -/
  | depth
  /-- "Predict.fun market order exceeds the hard limit price" -/
  | hardLimit
  /-- "Predict.fun market order calculation returned no executable amount" -/
  | noAmount
  /-- What the SDK of Predict.fun raises. -/
  | sdk (message : String)
  /-- "Myriad order price must be between 0 and 1" -/
  | myriadPrice
  /-- "Myriad order price must use the 0.01 tick size" -/
  | myriadTick
  /-- "Opinion order size must be positive" -/
  | opinionSize
  /-- "Opinion order price must be between 0 and 1" -/
  | opinionPrice
  /-- `decimal.InvalidOperation`. -/
  | invalidOperation
deriving DecidableEq, Repr

/-! ## Steps -/

/-- `int(x)` and `x.to_integral_value(rounding=ROUND_DOWN)`. -/
def truncate (x : Dec) : ℤ := if 0 ≤ x then ⌊x⌋ else ⌈x⌉

/-- `quantize_down`. -/
def quantizeDown (value step : Dec) : Except Refusal Dec :=
  if step ≤ 0 then .error .step else .ok (Dec.mul (truncate (Dec.div value step)) step)

/-- `quantize_up`. -/
def quantizeUp (value step : Dec) : Except Refusal Dec :=
  if value < 0 ∨ step ≤ 0 then .error .valueOrStep
  else .ok (Dec.mul ⌈Dec.div value step⌉ step)

/-- `Decimal.quantize` to some decimals. -/
def quantize (value : Dec) (places : ℕ) : Except Refusal Dec :=
  let coefficient := halfEven (value * 10 ^ places)
  if 10 ^ 28 ≤ |coefficient| then .error .invalidOperation else .ok (coefficient / 10 ^ places)

/-- `_to_units`, `_to_precision_units`. -/
def toUnits (value : Dec) (decimals : ℕ) : ℤ := truncate (Dec.mul value (10 ^ decimals))

/-! ## Polymarket -/

namespace Polymarket

/-- `_sdk_compatible_tick_size`. -/
def sdkCompatibleTickSize (tickSize : Dec) : Except Refusal Dec :=
  if tickSize ≤ 0 ∨ 1 ≤ tickSize then .error .tickSize
  else
    let normalizedTick := Dec.ctx tickSize
    if (normalizedTick * 10 ^ 4).den = 1 then .ok normalizedTick else .error .tickPrecision

/-- `_normalize_binary_order_price`. -/
def normalizeBinaryOrderPrice (price tick : Dec) (roundUp : Bool) : Except Refusal Dec :=
  if tick ≤ 0 ∨ 1 ≤ tick then .error .binaryTick
  else
    let upperBound := Dec.sub 1 tick
    if upperBound < tick then .error .noPriceRange
    else do
      let quantized ← if roundUp then quantizeUp price tick else quantizeDown price tick
      .ok (min (max quantized tick) upperBound)

/-- `_post_limit_order` up to `create_order`. -/
def postLimitOrder (floats : OrderedText) (side : SideName) (size price tickSize : Dec) :
    Except Refusal SentOrder := do
  let orderTickSize ← sdkCompatibleTickSize tickSize
  let normalizedPrice ← normalizeBinaryOrderPrice price orderTickSize (side ≠ .buy)
  .ok ⟨[floats.text normalizedPrice], size⟩

end Polymarket

/-! ## Predict.fun -/

namespace PredictFun

/-- The amounts of `get_market_order_amounts`. -/
structure SdkAmounts where
  makerAmount : ℤ
  takerAmount : ℤ
  amount : ℤ
  pricePerShare : ℤ
deriving DecidableEq

/-- `MarketHelperInput`. -/
structure MarketHelperInput where
  side : SideName
  quantityWei : ℤ
  slippageBps : ℤ
  isMinAmountOut : Bool

/-- What is known of a market: the registered price precision, the precision of the amounts, the
slippage that is configured, the book, and what the SDK computes from it. -/
structure Market where
  pricePrecision : ℕ
  precision : ℕ
  maxSlippagePct : Dec
  book : Book
  getMarketOrderAmounts : MarketHelperInput → Except Refusal SdkAmounts
  pricePrecision_le : pricePrecision ≤ 18

/-- `_normalized_limit_price`. -/
def normalizedLimitPrice (pricePrecision : ℕ) (price : Dec) (side : SideName) :
    Except Refusal Dec :=
  let tickSize : Dec := 1 / 10 ^ pricePrecision
  let steps := Dec.div price tickSize
  let normalized := Dec.mul (if side = .buy then ⌊steps⌋ else ⌈steps⌉) tickSize
  if normalized ≤ 0 ∨ 1 < normalized then .error .priceRange else .ok normalized

/-- The loop of `_require_executable_limit_depth`: does it return? -/
def coversDepth (side : SideName) (limitPrice : Dec) : List Level → (remaining : Dec) → Bool
  | [], _ => false
  | level :: rest, remaining =>
      let withinLimit := if side = .buy then level.price ≤ limitPrice else limitPrice ≤ level.price
      if level.price ≤ 0 ∨ level.size ≤ 0 ∨ ¬ withinLimit then
        coversDepth side limitPrice rest remaining
      else
        let left := Dec.sub remaining (min remaining level.size)
        if left ≤ 1 / 10 ^ 18 then true else coversDepth side limitPrice rest left

/-- `_require_executable_limit_depth`. -/
def requireExecutableLimitDepth (book : Book) (contracts limitPrice : Dec) (side : SideName) :
    Except Refusal Unit :=
  if contracts ≤ 0 then .error .contracts
  else if book.status ≠ .valid then .error .bookStatus
  else
    let levels := if side = .buy then book.asks else book.bids
    if coversDepth side limitPrice levels contracts then .ok () else .error .depth

/-- `_market_order_respects_limit`. -/
def marketOrderRespectsLimit (amounts : SdkAmounts) (limitPrice : Dec) (side : SideName) : Bool :=
  if amounts.makerAmount ≤ 0 ∨ amounts.takerAmount ≤ 0 then false
  else
    match side with
    | .buy => Dec.div amounts.makerAmount amounts.takerAmount ≤ limitPrice
    | .sell => limitPrice ≤ Dec.div amounts.takerAmount amounts.makerAmount

/-- `_build_signed_order_payload` up to the amounts that are signed. -/
def acceptedAmounts (market : Market) (side : SideName) (contracts limit : Dec) :
    Except Refusal SdkAmounts := do
  requireExecutableLimitDepth market.book contracts limit side
  let configuredSlippageBps := truncate (Dec.mul (min market.maxSlippagePct (15 / 1000)) 10000)
  let calculateAmounts (slippageBps : ℤ) : Except Refusal SdkAmounts :=
    market.getMarketOrderAmounts
      { side := side
        quantityWei := toUnits contracts market.precision
        slippageBps := slippageBps
        isMinAmountOut := side = .buy }
  let first ← calculateAmounts configuredSlippageBps
  let amounts ← if marketOrderRespectsLimit first limit side then .ok first else calculateAmounts 0
  if ¬ marketOrderRespectsLimit amounts limit side then .error .hardLimit
  else if amounts.amount ≤ 0 ∨ amounts.pricePerShare ≤ 0 then .error .noAmount
  else .ok amounts

/-- The price and the contracts of signed amounts, and `pricePerShare` of the payload. -/
def sentOrder (precision : ℕ) (side : SideName) (amounts : SdkAmounts) : SentOrder :=
  let pricePerShare : Dec := amounts.pricePerShare / 10 ^ precision
  match side with
  | .buy =>
      ⟨[amounts.makerAmount / amounts.takerAmount, pricePerShare],
        amounts.takerAmount / 10 ^ precision⟩
  | .sell =>
      ⟨[amounts.takerAmount / amounts.makerAmount, pricePerShare],
        amounts.makerAmount / 10 ^ precision⟩

/-- `_submit_sdk_order` up to the transport. -/
def submitSdkOrder (floats : OrderedText) (market : Market) (side : SideName)
    (contracts limitPrice : Dec) : Except Refusal SentOrder := do
  let normalizedPrice ← normalizedLimitPrice market.pricePrecision limitPrice side
  let amounts ← acceptedAmounts market side contracts (floats.text normalizedPrice)
  .ok (sentOrder market.precision side amounts)

end PredictFun

/-! ## Myriad -/

namespace Myriad

/-- `sign_order`, its price and its amount. -/
def signOrder (floats : OrderedText) (side : SideName) (contracts price : Dec) :
    Except Refusal SentOrder := do
  let quantized ←
    if side = .buy then quantizeDown price (1 / 100) else quantizeUp price (1 / 100)
  let amount := toUnits contracts 18
  let priceUnits := toUnits (floats.text quantized) 18
  if ¬ (1 ≤ priceUnits ∧ priceUnits ≤ 10 ^ 18) then .error .myriadPrice
  else if priceUnits % 10 ^ 16 ≠ 0 then .error .myriadTick
  else .ok ⟨[priceUnits / 10 ^ 18], amount / 10 ^ 18⟩

end Myriad

/-! ## Opinion -/

namespace Opinion

/-- The numbers of `build_order_payload`. -/
structure OrderPayload where
  price : Dec
  makerAmountInQuoteToken : Dec
  shares : Dec

/-- `build_order_payload` of a purchase or a sale. -/
def buildOrderPayload (contracts limitPrice : Dec) (pricePrecision : ℕ) :
    Except Refusal OrderPayload :=
  if contracts ≤ 0 then .error .opinionSize
  else if ¬ (0 < limitPrice ∧ limitPrice ≤ 1) then .error .opinionPrice
  else do
    let quantizedPrice ← quantize limitPrice (max 1 pricePrecision)
    let makerAmountInQuoteToken ← quantize (Dec.mul contracts quantizedPrice) 6
    let shares ← quantize contracts 6
    .ok ⟨quantizedPrice, makerAmountInQuoteToken, shares⟩

/-- `_place_order_input`: the shares are not sent, so the quote tokens and the price say how many
contracts are traded. -/
def placeOrderInput (payload : OrderPayload) : SentOrder :=
  ⟨[payload.price], payload.makerAmountInQuoteToken / payload.price⟩

/-- `_submit_order` up to `place_order`. -/
def submitOrder (contracts limitPrice : Dec) (pricePrecision : ℕ) : Except Refusal SentOrder := do
  let payload ← buildOrderPayload contracts limitPrice pricePrecision
  .ok (placeOrderInput payload)

end Opinion

/-! ## Submissions -/

/-- A connector, with what it knows of the market. -/
inductive Venue
  | polymarket (tickSize : Dec)
  | predictFun (market : PredictFun.Market)
  | myriad
  | opinion (pricePrecision : ℕ)

/-- What is sent for a request, if it is not refused. -/
def Venue.submit {floats : OrderedText} (venue : Venue) (request : OrderRequest floats) :
    Except Refusal SentOrder :=
  match venue with
  | .polymarket tickSize =>
      Polymarket.postLimitOrder floats request.side request.contracts request.limit tickSize
  | .predictFun market =>
      PredictFun.submitSdkOrder floats market request.side request.contracts request.limit
  | .myriad => Myriad.signOrder floats request.side request.contracts request.limit
  | .opinion pricePrecision =>
      Opinion.submitOrder request.contracts request.limit pricePrecision

end ArbitrageEngine.Connectors.LimitOrders
