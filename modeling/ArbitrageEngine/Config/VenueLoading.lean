/-
# ArbitrageEngine.Config.VenueLoading -- the sections of the venues, as `load_config` reads them

A file is read section by section, each value with its default and its conversion; a conversion that
raises makes the whole load fail.  A value that is converted for a field no check reads is converted
all the same.
-/
import ArbitrageEngine.Config.Records

namespace ArbitrageEngine.Config

open Lib (Dict FloatValue)

/-- The entries of an object. -/
abbrev Entries : Type := List (String × Value)

variable (lang : Language) (getenv : Environment)

/-! ## Entries and their defaults -/

/-- A literal of the source. -/
def literal (q : ℚ) : Value := .float (FloatValue.nearest q)

/-- `float(entries.get(key, default))`. -/
def floatAt (entries : Entries) (key : String) (default : ℚ) : Option FloatValue :=
  (getD entries key (literal default)).toFloat lang

/-- `int(entries.get(key, default))`. -/
def intAt (entries : Entries) (key : String) (default : ℤ) : Option ℤ :=
  (getD entries key (.int default)).toInt lang

/-- `_fraction(entries.get(key, default), ...)`. -/
def fractionAt (entries : Entries) (key : String) (default : ℚ) : Option FloatValue :=
  fraction lang (getD entries key (literal default))

/-- `bool(entries.get(key, default))`. -/
def truthAt (entries : Entries) (key : String) (default : Bool) : Bool :=
  (getD entries key (.bool default)).truth

/-- `_strict_bool(entries.get(key, default), ...)`. -/
def strictBoolAt (entries : Entries) (key : String) (default : Bool) : Option Bool :=
  strictBool lang (getD entries key (.bool default))

/-- `_optional_str(entries.get(key))`. -/
def optionalStrAt (entries : Entries) (key : String) : Option String :=
  optionalStr lang (getD entries key .null)

/-- `_str_or_default(entries.get(key), default)`. -/
def strOrDefaultAt (entries : Entries) (key default : String) : String :=
  strOrDefault lang (getD entries key .null) default

/-- `str(entries.get(key, default))`. -/
def strAt (entries : Entries) (key default : String) : String :=
  (getD entries key (.text default)).str lang

/-- `entries.get(key, {})`, of which a value is then asked for by its key. -/
def sectionAt (entries : Entries) (key : String) : Option Entries :=
  (getD entries key (.object [])).entries?

/-- `{str(key): read(value) for key, value in dict(entries.get(key, {})).items()}`. -/
def entriesAt {α : Type} (read : Value → Option α) (entries : Entries) (key : String) :
    Option (Dict String α) :=
  readEntries lang read (getD entries key (.object []))

/-- What a `for` over a value goes through. -/
def Value.iter? : Value → Option (List Value)
  | .array items => some items
  | .text s => some (s.toList.map fun c => .text (String.ofList [c]))
  | .object entries => some (entries.map fun e => .text e.1)
  | _ => none

/-! ## Networks -/

/-- `_parse_rpc_urls`, without a fallback. -/
def parseRpcUrls : Value → List String
  | .array items => (items.filter fun item => !item.isBlank).map (Value.str lang)
  | value => if value.isBlank then [] else [value.str lang]

/-- `_first_rpc_url`. -/
def firstRpcUrl (value : Value) : Option String := (parseRpcUrls lang value).head?

/-- `a or b` of an entry and a text that may be missing. -/
def orText (a : Value) (b : Option String) : Value :=
  if a.truth then a else (b.map Value.text).getD .null

/-- The `rpc_url` of a section: its own, the first of its list, or another one. -/
def rpcUrlAt (entries : Entries) (fallback : Option String) (default : String) : String :=
  strOrDefault lang
    (orText (orText (getD entries "rpc_url" .null)
      (firstRpcUrl lang (getD entries "rpc_urls" .null))) fallback) default

/-- `int(entries.get(key) or default)`. -/
def intOrAt (entries : Entries) (key : String) (default : ℤ) : Option ℤ :=
  ((getD entries key .null).orElse (.int default)).toInt lang

/-- One network of `web3_networks`. -/
def loadWeb3Network (item : Value) : Option Web3NetworkConfig := do
  let item ← item.entries?
  let chainId ← (← item.lookup "chain_id").toInt lang
  let _ ← floatAt lang item "max_slippage_pct" (15 / 1000)
  let _ ← floatAt lang item "max_priority_fee_gwei" 2
  let confirmations ← intAt lang item "confirmations" 1
  pure
    { rpcUrl := rpcUrlAt lang item none ""
      chainId := chainId
      confirmations := confirmations }

/-- `web3_networks`. -/
def loadWeb3Networks (data : Entries) : Option (Dict String Web3NetworkConfig) := do
  let networks ← sectionAt data "web3_networks"
  networks.foldlM (fun d e => do pure (d.set e.1 (← loadWeb3Network lang e.2))) Dict.empty

/-! ## Venues -/

/-- `PolymarketConfig(...)`. -/
def loadPolymarket (data : Entries) : Option PolymarketConfig := do
  let venue ← sectionAt data "polymarket"
  let _ ← intAt lang venue "chain_id" 137
  let signatureType ← intAt lang venue "signature_type" 0
  let maxSlippagePct ← fractionAt lang venue "max_slippage_pct" (15 / 1000)
  let _ ← fractionAt lang venue "trading_fee_pct" 0
  let confirmations ← intAt lang venue "confirmations" 2
  let _ ← floatAt lang venue "max_priority_fee_gwei" 30
  let redemptionGasLimit ← intAt lang venue "redemption_gas_limit" 350000
  pure
    { privateKey := optionalStrAt lang venue "private_key"
      signatureType := signatureType
      funder := optionalStrAt lang venue "funder"
      apiKey := optionalStrAt lang venue "api_key"
      apiSecret := optionalStrAt lang venue "api_secret"
      apiPassphrase := optionalStrAt lang venue "api_passphrase"
      maxSlippagePct := maxSlippagePct
      rpcUrl := strOrDefaultAt lang venue "rpc_url" "https://polygon-rpc.com"
      conditionalTokensAddress := strOrDefaultAt lang venue "conditional_tokens_address"
        "0x4D97DCd97eC945f40cF65F87097ACe5EA0476045"
      collateralTokenAddress := strOrDefaultAt lang venue "collateral_token_address"
        "0xC011a7E12a19f7B1f670d46F03B03f3342E82DFB"
      confirmations := confirmations
      redemptionGasLimit := redemptionGasLimit }

/-- `PredictFunConfig(...)`. -/
def loadPredictFun (data : Entries) (bnb : Option Web3NetworkConfig) : Option PredictFunConfig := do
  let venue ← sectionAt data "predict_fun"
  let chainId ← intOrAt lang venue "chain_id" ((bnb.map (·.chainId)).getD 56)
  let feeRateBps ← intAt lang venue "fee_rate_bps" 0
  let precision ← intAt lang venue "precision" 18
  let _ ← ((getD venue "max_priority_fee_gwei" .null).orElse (literal 2)).toFloat lang
  let _ ← intOrAt lang venue "confirmations" 1
  let maxSlippagePct ← floatAt lang venue "max_slippage_pct" (15 / 1000)
  pure
    { enabled := truthAt venue "enabled" true
      privateKey := optionalStrAt lang venue "private_key"
      rpcUrl := rpcUrlAt lang venue (bnb.map (·.rpcUrl)) "https://bsc-dataseed.binance.org"
      chainId := chainId
      network := strAt lang venue "network" "mainnet"
      apiBaseUrl := optionalStrAt lang venue "api_base_url"
      apiKey := optionalStrAt lang venue "api_key"
      marketAbiPath := optionalStrAt lang venue "market_abi_path"
      feeRateBps := feeRateBps
      precision := precision
      maxSlippagePct := maxSlippagePct }

/-- `SxBetConfig(...)`. -/
def loadSxBet (data : Entries) : Option SxBetConfig := do
  let venue ← sectionAt data "sx_bet"
  let chainId ← intAt lang venue "chain_id" 4162
  let _ ← intAt lang venue "odds_slippage" 0
  let _ ← intAt lang venue "taker_fee_bps" 0
  let _ ← floatAt lang venue "minimum_notional_usd" 1
  let maxSlippagePct ← fractionAt lang venue "max_slippage_pct" (15 / 1000)
  let allowV3Mainnet ← strictBoolAt lang venue "allow_v3_mainnet" false
  pure
    { enabled := truthAt venue "enabled" false
      apiBaseUrl := strOrDefaultAt lang venue "api_base_url" "https://api.sx.bet"
      apiKey := optionalStrAt lang venue "api_key"
      privateKey := optionalStrAt lang venue "private_key"
      rpcUrl := rpcUrlAt lang venue none "https://rpc-rollup.sx.technology"
      chainId := chainId
      wsUrl := strOrDefaultAt lang venue "ws_url" "wss://realtime.sx.bet/connection/websocket"
      maxSlippagePct := maxSlippagePct
      apiVersion := lang.lower (strAt lang venue "api_version" "v2")
      environment := lang.lower (strAt lang venue "environment" "mainnet")
      timeInForce := lang.upper (strAt lang venue "time_in_force" "FOK")
      allowV3Mainnet := allowV3Mainnet }

/-- `MyriadMarketsConfig(...)`. -/
def loadMyriadMarkets (data : Entries) (bnb : Option Web3NetworkConfig) :
    Option MyriadMarketsConfig := do
  let venue ← sectionAt data "myriad_markets"
  let chainId ← intAt lang venue "chain_id" 56
  let collateralTokens ← sectionAt venue "collateral_tokens"
  let tradingFeePct ← floatAt lang venue "trading_fee_pct" 0
  let maxSlippagePct ← floatAt lang venue "max_slippage_pct" (15 / 1000)
  let orderBookTtlMs ← intAt lang venue "order_book_ttl_ms" 300
  let websocketStaleAfterMs ← intAt lang venue "websocket_stale_after_ms" 1500
  let confirmations ← intAt lang venue "confirmations" ((bnb.map (·.confirmations)).getD 3)
  let _ ← floatAt lang venue "max_priority_fee_gwei" 2
  let redemptionGasLimit ← intAt lang venue "redemption_gas_limit" 350000
  pure
    { privateKey := optionalStrAt lang venue "private_key"
      chainId := chainId
      collateralTokens := collateralTokens.map Prod.fst
      collateralSymbol := strAt lang venue "collateral_symbol" "USDT"
      tradingFeePct := tradingFeePct
      maxSlippagePct := maxSlippagePct
      enabled := truthAt venue "enabled" false
      orderBookTtlMs := orderBookTtlMs
      websocketStaleAfterMs := websocketStaleAfterMs
      confirmations := confirmations
      redemptionGasLimit := redemptionGasLimit }

/-- `OpinionConfig(...)`. -/
def loadOpinion (data : Entries) (bnb : Option Web3NetworkConfig) : Option OpinionConfig := do
  let venue ← sectionAt data "opinion"
  let chainId ← intOrAt lang venue "chain_id" ((bnb.map (·.chainId)).getD 56)
  let takerFeeRateBps ← intAt lang venue "taker_fee_rate_bps" 400
  let minimumFeeUsd ← floatAt lang venue "minimum_fee_usd" (1 / 4)
  let minimumNotionalUsd ← floatAt lang venue "minimum_notional_usd" 5
  let _ ← fractionAt lang venue "max_slippage_pct" (15 / 1000)
  let orderBookTtlMs ← intAt lang venue "order_book_ttl_ms" 300
  let _ ← intAt lang venue "websocket_stale_after_ms" 1500
  let pricePrecision ← intAt lang venue "price_precision" 2
  let _ ← intAt lang venue "confirmations" 1
  let _ ← floatAt lang venue "max_priority_fee_gwei" 2
  let _ ← intAt lang venue "redemption_gas_limit" 350000
  let marketPageLimit ← intAt lang venue "market_page_limit" 20
  let publicRate ← floatAt lang venue "public_request_rate_per_second" 5
  let authenticatedRate ← floatAt lang venue "authenticated_request_rate_per_second" 15
  pure
    { enabled := truthAt venue "enabled" false
      apiBaseUrl := strOrDefaultAt lang venue "api_base_url" "https://openapi.opinion.trade/openapi"
      wsUrl := strOrDefaultAt lang venue "ws_url" "wss://ws.opinion.trade"
      apiKey := optionalStrAt lang venue "api_key"
      privateKey := optionalStrAt lang venue "private_key"
      rpcUrl := rpcUrlAt lang venue (bnb.map (·.rpcUrl)) "https://bsc-dataseed.binance.org"
      chainId := chainId
      takerFeeRateBps := takerFeeRateBps
      minimumFeeUsd := minimumFeeUsd
      minimumNotionalUsd := minimumNotionalUsd
      orderBookTtlMs := orderBookTtlMs
      pricePrecision := pricePrecision
      marketPageLimit := marketPageLimit
      publicRequestRatePerSecond := publicRate
      authenticatedRequestRatePerSecond := authenticatedRate }

/-- The venues and the networks they share. -/
def loadVenues (data : Entries) : Option Venues := do
  let networks ← loadWeb3Networks lang data
  let bnb := networks.get? "bnb"
  let polymarket ← loadPolymarket lang data
  let predictFun ← loadPredictFun lang data bnb
  let sxBet ← loadSxBet lang data
  let myriadMarkets ← loadMyriadMarkets lang data bnb
  let opinion ← loadOpinion lang data bnb
  pure
    { polymarket := polymarket
      predictFun := predictFun
      sxBet := sxBet
      myriadMarkets := myriadMarkets
      opinion := opinion
      web3Networks := networks }

end ArbitrageEngine.Config
