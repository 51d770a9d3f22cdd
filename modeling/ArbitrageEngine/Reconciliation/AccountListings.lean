/-
# ArbitrageEngine.Reconciliation.AccountListings -- how the connectors list an account

Reconciliation asks a venue for the open orders, the fills and the positions of the account.  Every
connector asks in its own way: page by page until a page is not full, by cursors, by offset, one
page of a fixed length, one request without a length; some take a 404 for an empty list, and each
derives the id of a fill in its own way.

A venue holds records for each listing and hands them out as it is asked; any request may fail.  Of
orders and fills the listings keep their ids here.  Amounts, prices, fees and times are read of the
record alone, and may raise (`readOrder`, `readFill`).
-/
import ArbitrageEngine.Connectors.OpinionBooks
import ArbitrageEngine.Lib.Paging
import ArbitrageEngine.Reconciliation.OrderReadings

namespace ArbitrageEngine.Reconciliation.Listings

open Execution (strip)
open Lib (Dict slice Linked)
open OrderReadings (FloatReading Json str textOr floatOf decimalOf optionalInt)
open OrderReadings.Opinion (get)

/-! ## Requests and records -/

/-- What a request raises, or the reading of a record. -/
inductive Fault
  /-- An HTTP 404. -/
  | notFound
  | other (message : String)
deriving DecidableEq

/-- `VenueOrder`, by its ids. -/
structure OrderEntry where
  clientOrderId : String
  venueOrderId : String
deriving DecidableEq

/-- `FillRecord`, by its ids. -/
structure FillEntry where
  fillId : String
  venueOrderId : String
deriving DecidableEq

/-- What a venue holds for one listing, and which requests for it fail.  Every record is a
mapping. -/
structure Shelf where
  records : List Json
  fails : ℕ → Option Fault := fun _ => none

/-- The answer to a request, unless it fails. -/
def answered {α : Type} (fails : ℕ → Option Fault) (request : ℕ) (answer : α) : Except Fault α :=
  match fails request with
  | some fault => .error fault
  | none => .ok answer

/-- The loop over the records: those that are kept, each with what is made of it. -/
def readRecords {α : Type} (keep : Json → Bool) (read : Json → Except Fault Unit)
    (entry : Json → α) (rows : List Json) : Except Fault (List α) :=
  (rows.filter keep).mapM fun row => (read row).map fun _ => entry row

/-- `positions[key] = positions.get(key, Decimal(0)) + amount`. -/
def addPosition (positions : Dict String Dec) (key : String) (amount : Dec) : Dict String Dec :=
  positions.set key (Dec.add ((positions.get? key).getD 0) amount)

/-- A loop over positions that skips the rows without a token or an amount. -/
def sumPositions (holding : Json → Option (String × Dec)) (rows : List Json) : Dict String Dec :=
  rows.foldl (fun positions row => (holding row).elim positions fun held =>
    addPosition positions held.1 held.2) Dict.empty

/-! ## Payloads -/

/-- A payload that `_extract_records` looks into: a list, or a mapping with the lists under its keys
and what is under `data`. -/
inductive Payload
  | list (items : List Json)
  | mapping (lists : String → Option (List Json)) (data : Payload)
  | other

/-- `_extract_records`. -/
def extractRecords (keys : List String) : Payload → List Json
  | .list items => items
  | .mapping lists data =>
      match keys.findSome? lists with
      | some items => items
      | none => extractRecords keys data
  | .other => []

/-- How a venue wraps the records of a page, under a key where the connector looks for them. -/
structure Envelope (keys : List String) where
  wrap : List Json → Payload
  finds : ∀ rows, extractRecords keys (wrap rows) = rows

variable (float : FloatReading)

/-- `_optional_str`. -/
def optionalStr (value : Json) : Option String :=
  if value.isBlank then none
  else if strip (str float value) = "" then none
  else some (strip (str float value))

/-- `a or b`. -/
def either (a b : Json) : Json := if a.truth then a else b

/-- `Decimal(str(value or "0"))`. -/
def decimalOrZero (value : Json) : Except Fault Dec :=
  if value.truth then
    match decimalOf float value with
    | some amount => .ok amount
    | none => .error (.other "[<class 'decimal.ConversionSyntax'>]")
  else .ok 0

/-! ## Opinion -/

namespace Opinion

/-- A result that is a mapping: its `list`, where that is one, and its `total`. -/
structure PageResult where
  list : Option (List Json)
  total : Option ℤ

/-- The loop of `_paginate`, for at most `pagesLeft` pages. -/
def paginate (limit : ℕ) (request : ℕ → Except Fault (Option PageResult)) :
    (pagesLeft page : ℕ) → (records : List Json) → Except Fault (List Json)
  | 0, _, records => .ok records
  | pagesLeft + 1, page, records =>
      match request page with
      | .error fault => .error fault
      | .ok none => .ok records
      | .ok (some payload) =>
          let batch := payload.list.getD []
          if batch.isEmpty then .ok records
          else
            let records := records ++ batch
            if payload.total.any fun total => total ≤ (records.length : ℤ) then .ok records
            else if batch.length < limit then .ok records
            else paginate limit request pagesLeft (page + 1) records

/-- `max_pages` of `_paginate`. -/
def maxPages : ℕ := 25

structure Account where
  orders : Shelf
  trades : Shelf
  positions : Shelf
  /-- Does the venue report the total? -/
  reportsTotal : Bool
  marketPageLimit : ℤ
  /-- `_account_address`. -/
  address : Option String
  readOrder : Json → Except Fault Unit
  readFill : Json → Except Fault Unit
  /-- The market metadata of the client. -/
  client : ArbitrageEngine.Opinion.Client
  /-- The time, in seconds, and how `timestamp()` writes one. -/
  now : ℤ
  stamp : ℤ → String

namespace Account

variable (account : Account)

def limit : ℕ := (max 1 (min account.marketPageLimit 20)).toNat

/-- What the venue answers. -/
def request (shelf : Shelf) (page : ℕ) : Except Fault (Option PageResult) :=
  answered shelf.fails page (some
    { list := some (slice shelf.records account.limit page)
      total := if account.reportsTotal then some shelf.records.length else none })

def listed (shelf : Shelf) : Except Fault (List Json) :=
  paginate account.limit (account.request shelf) maxPages 1 []

end Account

/-- The order id of a record. -/
def orderId (row : Json) : Option String :=
  optionalStr float (either (get "orderId" row) (get "id" row))

def orderEntry (row : Json) : OrderEntry :=
  { clientOrderId := (orderId float row).getD "", venueOrderId := (orderId float row).getD "" }

/-- `_timestamp_field`. -/
def timestampField (row : Json) : Option ℤ :=
  (["createdAt", "updatedAt", "timestamp", "filledAt"].findSome? fun key =>
    optionalInt float (get key row)).map fun seconds =>
      if 10 ^ 10 < seconds then seconds / 1000 else seconds

def Account.occurredAt (account : Account) (row : Json) : ℤ :=
  (timestampField float row).getD account.now

def Account.fillId (account : Account) (row : Json) : String :=
  (optionalStr float (get "txHash" row)).getD
    (str float (get "marketId" row) ++ ":" ++ account.stamp (account.occurredAt float row))

def Account.fillEntry (account : Account) (row : Json) : FillEntry where
  fillId := account.fillId float row
  venueOrderId := (optionalStr float (get "orderId" row)).getD (account.fillId float row)

/-- Is a trade a fill from `since` on? -/
def Account.isFill (account : Account) (since : Option ℚ) (row : Json) : Bool :=
  optionalInt float (get "status" row) = some OrderReadings.Opinion.statusFilled &&
    !since.any fun since => (account.occurredAt float row : ℚ) < since

/-- `side_for_token`. -/
def sideForToken (metadata : ArbitrageEngine.Opinion.OpinionMarketMetadata) (token : String) :
    Option BinarySide :=
  if metadata.yesTokenId = some token ∧ token ≠ "" then some .yes
  else if metadata.noTokenId = some token ∧ token ≠ "" then some .no
  else none

/-- `_cached_outcome_token`. -/
def cachedOutcomeToken (client : ArbitrageEngine.Opinion.Client) (marketId : ℤ)
    (outcomeSide : Option ℤ) : Option String :=
  match ArbitrageEngine.Opinion.sideFromOutcomeCode outcomeSide,
      client.marketMetadata.get? marketId with
  | some side, some metadata => metadata.tokenOf side
  | _, _ => none

/-- `_remember_position_metadata`. -/
def rememberPositionMetadata (client : ArbitrageEngine.Opinion.Client) (marketId : ℤ)
    (token : String) (outcomeSide : Option ℤ) : ArbitrageEngine.Opinion.Client :=
  let side := (ArbitrageEngine.Opinion.sideFromOutcomeCode outcomeSide).or
    ((client.marketMetadata.get? marketId).bind fun metadata => sideForToken metadata token)
  side.elim client fun side => client.rememberMarketMetadata marketId token side

/-- One round of the loop of `get_positions`. -/
def addRow (state : ArbitrageEngine.Opinion.Client × Dict String Dec) (row : Json) :
    ArbitrageEngine.Opinion.Client × Dict String Dec :=
  match optionalInt float (get "marketId" row),
      OrderReadings.Opinion.decimalField float ["sharesOwned", "shares"] row with
  | some marketId, some shares =>
      let outcomeSide := optionalInt float (get "outcomeSide" row)
      match (optionalStr float (get "tokenId" row)).or
          (cachedOutcomeToken state.1 marketId outcomeSide) with
      | none => state
      | some token =>
          (rememberPositionMetadata state.1 marketId token outcomeSide,
            addPosition state.2 (toString marketId ++ ":" ++ token) shares)
  | _, _ => state

namespace Account

variable (account : Account)

/-- `list_open_orders`. -/
def listOpenOrders : Except Fault (List OrderEntry) := do
  let rows ← account.listed account.orders
  readRecords (fun row => (orderId float row).isSome) account.readOrder (orderEntry float) rows

/-- `list_fills`. -/
def listFills (since : Option ℚ) : Except Fault (List FillEntry) :=
  if account.address.any (· ≠ "") then do
    let rows ← account.listed account.trades
    readRecords (account.isFill float since) account.readFill (account.fillEntry float) rows
  else .ok []

/-- `get_positions`. -/
def getPositions : Except Fault (Dict String Dec) :=
  if account.address.any (· ≠ "") then do
    let rows ← account.listed account.positions
    pure (rows.foldl (addRow float) (account.client, Dict.empty)).2
  else .ok Dict.empty

end Account

end Opinion

/-! ## Myriad and Predict.fun -/

/-- The ids of a trade of Predict.fun and Myriad. -/
def nestedFillEntry (row : Json) : FillEntry :=
  let fillId := textOr float ""
    (row.extractFirstNested ["id", "tradeId", "trade_id", "fillId", "fill_id"])
  { fillId := fillId
    venueOrderId := textOr float fillId
      (row.extractFirstNested ["orderHash", "orderId", "order_id", "hash"]) }

def nestedOrderEntry (row : Json) : OrderEntry where
  clientOrderId := ""
  venueOrderId := textOr float "" (row.extractFirstNested ["orderHash", "hash", "orderId", "id"])

/-- A request for which a 404 gives an empty listing. -/
def emptyIfNotFound {α : Type} (empty : α) : Except Fault α → Except Fault α
  | .error .notFound => .ok empty
  | result => result

namespace Myriad

def orderKeys : List String := ["orders", "items", "results"]

def eventKeys : List String := ["events", "fills", "items", "results"]

def positionKeys : List String := ["markets", "positions", "items", "results"]

structure Account where
  orders : Shelf
  events : Shelf
  positions : Shelf
  ordersIn : Envelope orderKeys
  eventsIn : Envelope eventKeys
  positionsIn : Envelope positionKeys
  address : Option String
  readOrder : Json → Except Fault Unit
  readFill : Json → Except Fault Unit

/-- The `limit` of every request, all of which ask for page 1. -/
def pageLimit : ℕ := 100

/-- The token and the shares of a row, `None` where it is skipped. -/
def holding (row : Json) : Option (String × Dec) :=
  let marketId := row.extractFirstNested ["marketId", "market_id"]
  let outcome := row.extractFirstNested ["outcomeId", "outcome_id", "outcome"]
  if marketId.isBlank ∨ outcome.isBlank then none
  else
    let normalized := if str float outcome ∈ ["0", "YES", "yes"] then "YES" else "NO"
    (decimalOf float (row.extractFirstNested
      ["shares", "amount", "quantity", "positionSize", "position_size"])).map fun shares =>
        (str float marketId ++ ":" ++ normalized, shares)

namespace Account

variable (account : Account)

/-- The records that a request for the first page gets. -/
def requested {keys : List String} (shelf : Shelf) (envelope : Envelope keys) :
    Except Fault (List Json) :=
  (answered shelf.fails 1 (envelope.wrap (slice shelf.records pageLimit 1))).map
    (extractRecords keys)

/-- `list_open_orders`. -/
def listOpenOrders : Except Fault (List OrderEntry) := do
  let rows ← requested account.orders account.ordersIn
  readRecords (fun _ => true) account.readOrder (nestedOrderEntry float) rows

/-- `list_fills`; the venue has the events from `since` on. -/
def listFills : Except Fault (List FillEntry) :=
  if account.address.any (· ≠ "") then do
    let rows ← emptyIfNotFound [] (requested account.events account.eventsIn)
    readRecords (fun _ => true) account.readFill (nestedFillEntry float) rows
  else .ok []

/-- `get_positions`. -/
def getPositions : Except Fault (Dict String Dec) :=
  if account.address.any (· ≠ "") then do
    let rows ← emptyIfNotFound [] (requested account.positions account.positionsIn)
    pure (sumPositions (holding float) rows)
  else .ok Dict.empty

end Account

end Myriad

namespace PredictFun

def orderKeys : List String := ["orders", "items", "results"]

def tradeKeys : List String := ["trades", "fills", "items", "results"]

def positionKeys : List String := ["positions", "items", "results"]

structure Account where
  orders : Shelf
  trades : Shelf
  positions : Shelf
  ordersIn : Envelope orderKeys
  tradesIn : Envelope tradeKeys
  positionsIn : Envelope positionKeys
  /-- How many records the venue puts on the page it sends unasked. -/
  firstPage : ℕ
  precision : ℕ
  readOrder : Json → Except Fault Unit
  readFill : Json → Except Fault Unit

/-- The token and the amount of a row, `None` where it is skipped. -/
def holding (precision : ℕ) (row : Json) : Option (String × Dec) :=
  let tokenId := textOr float "" (row.extractFirstNested
    ["tokenId", "token_id", "outcomeTokenId", "outcome_token_id", "onChainId", "on_chain_id",
      "assetId", "asset_id"])
  if tokenId = "" then none
  else
    (floatOf float (row.extractFirstNested
      ["size", "quantity", "shares", "amount", "balance", "positionSize", "position_size",
        "contracts"])).map fun amount =>
          (tokenId, float.text (OrderReadings.PredictFun.normalizeOrderAmount precision amount 0))

namespace Account

variable (account : Account)

def requested {keys : List String} (shelf : Shelf) (envelope : Envelope keys) :
    Except Fault (List Json) :=
  (answered shelf.fails 1 (envelope.wrap (slice shelf.records account.firstPage 1))).map
    (extractRecords keys)

/-- `list_open_orders`. -/
def listOpenOrders : Except Fault (List OrderEntry) := do
  let rows ← account.requested account.orders account.ordersIn
  readRecords (fun _ => true) account.readOrder (nestedOrderEntry float) rows

/-- `list_fills`; the venue has the trades from `since` on. -/
def listFills : Except Fault (List FillEntry) := do
  let rows ← emptyIfNotFound [] (account.requested account.trades account.tradesIn)
  readRecords (fun _ => true) account.readFill (nestedFillEntry float) rows

/-- `get_positions`. -/
def getPositions : Except Fault (Dict String Dec) := do
  let rows ← emptyIfNotFound [] (account.requested account.positions account.positionsIn)
  pure (sumPositions (holding float account.precision) rows)

end Account

end PredictFun

/-! ## SX Bet -/

/-- What a venue holds for one listing in pages linked by cursors, and which requests fail. -/
structure LinkedShelf (ρ : Type) where
  linked : Linked ρ
  fails : ℕ → Option Fault := fun _ => none

/-- The answer to a request with a cursor, or with none. -/
def LinkedShelf.request {ρ : Type} (shelf : LinkedShelf ρ) (nextKey : Option String) :
    Except Fault (List ρ × String) :=
  answered shelf.fails (shelf.linked.index nextKey) (shelf.linked.page (shelf.linked.index nextKey))

namespace SxBet

structure Account where
  /-- The trades from `since` on, and those that are not settled. -/
  trades : LinkedShelf Json
  unsettled : LinkedShelf Json
  address : Option String
  /-- The order id of a fill that was submitted in this process. -/
  submittedOrderId : String → Option String
  tokenByMarketSide : String → BinarySide → Option String
  readFill : Json → Except Fault Unit

/-- The loop of `_list_trades`, with the fuel it needs. -/
def listTrades (request : Option String → Except Fault (List Json × String)) :
    (fuel : ℕ) → (nextKey : Option String) → (trades : List Json) →
      Option (Except Fault (List Json))
  | 0, _, _ => none
  | fuel + 1, nextKey, trades =>
      match request nextKey with
      | .error fault => some (.error fault)
      | .ok (pageTrades, nextKey) =>
          let trades := trades ++ pageTrades
          if nextKey = "" then some (.ok trades)
          else listTrades request fuel (some nextKey) trades

/-- `_is_trade_confirmed`; a missing `valid` counts as true. -/
def isTradeConfirmed (row : Json) : Bool :=
  (textOr float "" (get "tradeStatus" row)).toUpper = "SUCCESS" &&
    match get "valid" row with
    | .missing => true
    | value => value.truth

/-- `_is_successful_taker_trade`. -/
def isSuccessfulTakerTrade (bettor : String) (row : Json) : Bool :=
  lower (textOr float "" (get "bettor" row)) = lower bettor && !(get "maker" row).truth &&
    isTradeConfirmed float row

def fillHash (row : Json) : String := textOr float "" (get "fillHash" row)

def Account.fillEntry (account : Account) (row : Json) : FillEntry where
  fillId := textOr float (fillHash float row) (get "id" row)
  venueOrderId := (account.submittedOrderId (fillHash float row)).getD (fillHash float row)

/-- `_trade_probability`. -/
def tradeProbability (row : Json) : Except Fault Dec := do
  let odds ← decimalOrZero float (get "odds" row)
  pure (Dec.div odds (10 ^ 20))

/-- `_trade_stake_usd`. -/
def tradeStakeUsd (row : Json) : Except Fault Dec :=
  if (get "normalizedStake" row).isBlank then do
    let stake ← decimalOrZero float (get "stake" row)
    pure (Dec.div stake (10 ^ 6))
  else
    match decimalOf float (get "normalizedStake" row) with
    | some stake => .ok stake
    | none => .error (.other "[<class 'decimal.ConversionSyntax'>]")

/-- `_trade_contracts`. -/
def tradeContracts (row : Json) : Except Fault Dec := do
  let probability ← tradeProbability float row
  if probability ≤ 0 then pure 0
  else do
    let stake ← tradeStakeUsd float row
    pure (Dec.div stake probability)

/-- The market and the side of a trade. -/
def tradeMarket (row : Json) : String × BinarySide :=
  (textOr float "" (get "marketHash" row),
    if (get "bettingOutcomeOne" row).truth then .yes else .no)

/-- An entry of `by_market`. -/
structure Exposure where
  yes : Dec := 0
  no : Dec := 0
deriving DecidableEq

def Exposure.add (exposure : Exposure) (contracts : Dec) : BinarySide → Exposure
  | .yes => { exposure with yes := Dec.add exposure.yes contracts }
  | .no => { exposure with no := Dec.add exposure.no contracts }

/-- One round of the loop over the trades in `get_positions`. -/
def addTrade (bettor : String) (byMarket : Dict String Exposure) (row : Json) :
    Except Fault (Dict String Exposure) :=
  if isSuccessfulTakerTrade float bettor row then do
    let contracts ← tradeContracts float row
    let (market, side) := tradeMarket float row
    pure (byMarket.set market (((byMarket.get? market).getD {}).add contracts side))
  else pure byMarket

/-- The token of a market and a side. -/
def Account.tokenOf (account : Account) (market : String) (side : BinarySide) : String :=
  match account.tokenByMarketSide market side with
  | some token => if token = "" then market ++ ":" ++ side.value else token
  | none => market ++ ":" ++ side.value

/-- What the exposure to a market leaves: the side that is more, and by how much. -/
def Account.netPosition (account : Account) (market : String) (exposure : Exposure) :
    Option (String × Dec) :=
  if exposure.no < exposure.yes then
    some (account.tokenOf market .yes, Dec.sub exposure.yes exposure.no)
  else if exposure.yes < exposure.no then
    some (account.tokenOf market .no, Dec.sub exposure.no exposure.yes)
  else none

namespace Account

variable (account : Account)

/-- `list_open_orders`: only takers trade here. -/
def listOpenOrders (_ : Account) : Except Fault (List OrderEntry) := .ok []

/-- `_list_trades`, with fuel for every page; without it there would be nothing. -/
def listed (shelf : LinkedShelf Json) : Except Fault (List Json) :=
  (listTrades shelf.request (shelf.linked.pages.length + 1) none []).getD (.ok [])

/-- `list_fills`. -/
def listFills : Except Fault (List FillEntry) :=
  match account.address with
  | none => .error (.other "SX Bet private_key is required for trade reconciliation")
  | some bettor => do
      let trades ← listed account.trades
      readRecords (fun row => isSuccessfulTakerTrade float bettor row && fillHash float row ≠ "")
        account.readFill (account.fillEntry float) trades

/-- `get_positions`. -/
def getPositions : Except Fault (Dict String Dec) :=
  match account.address with
  | none => .error (.other "SX Bet private_key is required for trade reconciliation")
  | some bettor => do
      let trades ← listed account.unsettled
      let byMarket ← trades.foldlM (addTrade float bettor) Dict.empty
      pure (byMarket.entries.foldl (fun positions entry =>
        (account.netPosition entry.1 entry.2).elim positions fun net =>
          positions.set net.1 net.2) Dict.empty)

end Account

end SxBet

namespace SxBetV3

/-- `_V3_MAX_RECORD_PAGES`. -/
def maxRecordPages : ℕ := 500

/-- The loop of `_list_v3_records`, for at most `pagesLeft` pages. -/
def collectRecords {ρ : Type} (path : String)
    (request : Option String → Except Fault (List ρ × String)) :
    (pagesLeft : ℕ) → (nextKey : Option String) → (seenNextKeys : List String) →
      (records : List ρ) → Except Fault (List ρ)
  | 0, _, _, _ => .error (.other s!"SX Bet V3 {path} exceeded {maxRecordPages} pages")
  | pagesLeft + 1, nextKey, seenNextKeys, records =>
      match request nextKey with
      | .error fault => .error fault
      | .ok (page, nextKey) =>
          let records := records ++ page
          if nextKey = "" then .ok records
          else if nextKey ∈ seenNextKeys then
            .error (.other s!"SX Bet V3 {path} pagination repeated a cursor")
          else
            collectRecords path request pagesLeft (some nextKey) (nextKey :: seenNextKeys) records

/-- `_list_v3_records`. -/
def listV3Records {ρ : Type} (path : String) (shelf : LinkedShelf ρ) : Except Fault (List ρ) :=
  collectRecords path shelf.request maxRecordPages none [] []

structure Account where
  orders : LinkedShelf Json
  /-- The fills from `since` on. -/
  fills : LinkedShelf ArbitrageEngine.SxBetV3.RawFill
  positions : LinkedShelf Json
  assetDecimals : ℕ
  /-- The orders that the client knows. -/
  contexts : String → Option ArbitrageEngine.SxBetV3.SubmittedOrder
  tokenByMarketSide : String → BinarySide → Option String
  readOrder : Json → Except Fault Unit

/-- Has an order odds? -/
def hasOdds (row : Json) : Except Fault Bool := do
  let odds ← decimalOrZero float (get "percentageOdds" row)
  pure (0 < Dec.div odds (10 ^ 20))

def orderEntry (row : Json) : OrderEntry where
  clientOrderId := textOr float "" (get "clientOrderId" row)
  venueOrderId := textOr float "" (get "id" row)

/-- One round of the loop of `list_open_orders`. -/
def Account.addOrder (account : Account) (orders : List OrderEntry) (row : Json) :
    Except Fault (List OrderEntry) := do
  let odds ← hasOdds float row
  if odds then do
    account.readOrder row
    pure (orders ++ [orderEntry float row])
  else pure orders

/-- The ids of a fill record. -/
def fillEntry (fill : ArbitrageEngine.SxBetV3.FillRecord) : FillEntry :=
  { fillId := fill.fillId, venueOrderId := fill.venueOrderId }

/-- What the loop over fills raises. -/
def faultOf : ArbitrageEngine.SxBetV3.FillFault → Fault
  | .runtime message => .other message
  | .residual _ _ _ => .other "SX Bet V3 fills created residual opposite exposure"

/-- The market, the token and the contracts of a position. -/
def Account.contracts (account : Account) (row : Json) : Except Fault Dec := do
  let maxWin ← decimalOrZero float (get "maxWin" row)
  let maxLoss ← decimalOrZero float (get "maxLoss" row)
  pure |Dec.sub (Dec.div maxWin (10 ^ account.assetDecimals))
    (Dec.div maxLoss (10 ^ account.assetDecimals))|

def positionMarket (row : Json) : String := textOr float "" (get "marketHash" row)

def Account.positionToken (account : Account) (row : Json) : String :=
  let side : BinarySide := if (get "isOutcomeOneMaxWin" row).truth then .yes else .no
  (account.tokenByMarketSide (positionMarket float row) side).getD
    (positionMarket float row ++ ":" ++ side.value)

/-- One round of the loop of `get_positions`. -/
def Account.addRow (account : Account) (positions : Dict String Dec) (row : Json) :
    Except Fault (Dict String Dec) := do
  let contracts ← account.contracts float row
  if positionMarket float row = "" ∨ contracts ≤ 0 then pure positions
  else pure (positions.set (account.positionToken float row) contracts)

namespace Account

variable (account : Account)

/-- `list_open_orders`. -/
def listOpenOrders : Except Fault (List OrderEntry) := do
  let rows ← listV3Records "/orders-v3" account.orders
  rows.foldlM (account.addOrder float) []

/-- `list_fills`: the ids of the records, unless residual exposures are raised. -/
def listFills : Except Fault (List FillEntry) := do
  let rows ← listV3Records "/fills-v3" account.fills
  match ArbitrageEngine.SxBetV3.listFills account.contexts account.assetDecimals rows with
  | .error fault => .error (faultOf fault)
  | .ok (fills, exposures) =>
      if exposures.isEmpty then .ok (fills.map fillEntry)
      else .error (.other "SX Bet V3 historical fills created residual opposite exposure")

/-- `get_positions`. -/
def getPositions : Except Fault (Dict String Dec) := do
  let rows ← listV3Records "/positions-v3" account.positions
  rows.foldlM (account.addRow float) Dict.empty

end Account

end SxBetV3

/-! ## Polymarket -/

namespace Polymarket

/-- The client of the venue's SDK for the account.  `get_open_orders` takes the first page if it is
asked to, and `get_trades` follows the cursors to the end. -/
structure ClobClient where
  orderPages : List (List Json)
  trades : List Json
  getOpenOrders : Bool → Except Fault (List Json)
  getTrades : Except Fault (List Json)
  firstPage : ∀ rows, getOpenOrders true = .ok rows → rows = orderPages.headD []
  allTrades : ∀ rows, getTrades = .ok rows → rows = trades

structure Account where
  sdk : ClobClient
  positions : Shelf
  profileAddress : String
  occurredAt : Json → ℚ
  readOrder : Json → Except Fault Unit
  readFill : Json → Except Fault Unit

def orderEntry (row : Json) : OrderEntry where
  clientOrderId := ""
  venueOrderId := textOr float "" (row.extractFirst ["id", "orderID", "order_id", "hash"])

def fillEntry (row : Json) : FillEntry :=
  let fillId := textOr float ""
    (row.extractFirst ["id", "trade_id", "tradeId", "match_id", "matchId"])
  { fillId := fillId
    venueOrderId := textOr float fillId
      (row.extractFirst ["order_id", "orderId", "maker_order_id", "taker_order_id"]) }

/-- `_POSITIONS_PAGE_LIMIT`. -/
def positionsPageLimit : ℕ := 500

/-- `_POSITIONS_MAX_OFFSET`. -/
def positionsMaxOffset : ℕ := 10000

/-- Is a text the number of an asset? -/
def isAsset (token : String) : Bool :=
  token ≠ "" && token.all Char.isDigit && token.length ≤ 78 &&
    token.toNat?.any fun number => 0 < number && number < 2 ^ 256

/-- `_position_from_payload`; `location` is where the row is. -/
def positionFromPayload (profileAddress location : String) (row : Json) :
    Except Fault (String × Dec) :=
  match get "proxyWallet" row with
  | .text wallet =>
      if lower wallet ≠ lower profileAddress then
        .error (.other s!"Polymarket current position has an unexpected profile at {location}")
      else
        match get "asset" row with
        | .text token =>
            if !isAsset token then
              .error (.other s!"Polymarket current position has an invalid asset at {location}")
            else
              match decimalOf float (get "size" row) with
              | none =>
                  .error (.other s!"Polymarket current position has an invalid size at {location}")
              | some size =>
                  if size < 0 then
                    .error (.other
                      s!"Polymarket current position has an invalid size at {location}")
                  else .ok (token, size)
        | _ => .error (.other s!"Polymarket current position has an invalid asset at {location}")
  | _ => .error (.other s!"Polymarket current position has an unexpected profile at {location}")

/-- What `get_positions` has collected. -/
structure Collected where
  positions : Dict String Dec := Dict.empty
  seenTokenIds : List String := []

/-- The loop over the rows of a page, from a row on. -/
def addRows (profileAddress : String) (offset : ℕ) : (rowIndex : ℕ) → Collected → List Json →
    Except Fault Collected
  | _, collected, [] => .ok collected
  | rowIndex, collected, row :: rest => do
      let (token, size) ← positionFromPayload float profileAddress
        s!"offset {offset}, row {rowIndex}" row
      if token ∈ collected.seenTokenIds then
        .error (.other ("Polymarket current positions contain duplicate asset at " ++
          s!"offset {offset}, row {rowIndex}"))
      else
        addRows profileAddress offset (rowIndex + 1)
          { positions :=
              if 0 < size then collected.positions.set token size else collected.positions
            seenTokenIds := token :: collected.seenTokenIds } rest

/-- The loop of `get_positions`; the offset may grow `windowsLeft` times more. -/
def collectPositions (profileAddress : String) (request : ℕ → Except Fault (List Json)) :
    (windowsLeft offset : ℕ) → Collected → Except Fault (Dict String Dec)
  | windowsLeft, offset, collected => do
      let page ← request offset
      let collected ← addRows float profileAddress offset 0 collected page
      if page.length < positionsPageLimit then .ok collected.positions
      else
        match windowsLeft with
        | 0 => .error (.other "Polymarket current positions exceed the supported pagination window")
        | windowsLeft + 1 =>
            collectPositions profileAddress request windowsLeft (offset + positionsPageLimit)
              collected

namespace Account

variable (account : Account)

/-- `list_open_orders`. -/
def listOpenOrders : Except Fault (List OrderEntry) := do
  let payloads ← account.sdk.getOpenOrders true
  readRecords (fun _ => true) account.readOrder (orderEntry float) payloads

/-- `list_fills`: all trades are read, and those before `since` are left out after that. -/
def listFills (since : Option ℚ) : Except Fault (List FillEntry) := do
  let payloads ← account.sdk.getTrades
  let fills ← readRecords (fun _ => true) account.readFill
    (fun row => (account.occurredAt row, fillEntry float row)) payloads
  pure ((fills.filter fun fill => !since.any fun since => fill.1 < since).map Prod.snd)

/-- `_fetch_positions_page`. -/
def fetchPositionsPage (offset : ℕ) : Except Fault (List Json) :=
  answered account.positions.fails (offset / positionsPageLimit)
    ((account.positions.records.drop offset).take positionsPageLimit)

/-- `get_positions`. -/
def getPositions : Except Fault (Dict String Dec) :=
  collectPositions float account.profileAddress account.fetchPositionsPage
    (positionsMaxOffset / positionsPageLimit) 0 {}

end Account

end Polymarket

/-! ## Every connector -/

/-- An account at one of the venues; all their connectors declare
`supports_full_reconciliation`. -/
inductive Account
  | polymarket (account : Polymarket.Account)
  | predictFun (account : PredictFun.Account)
  | myriad (account : Myriad.Account)
  | opinion (account : Opinion.Account)
  | sxBet (account : SxBet.Account)
  | sxBetV3 (account : SxBetV3.Account)

namespace Account

def listOpenOrders : Account → Except Fault (List OrderEntry)
  | polymarket account => account.listOpenOrders float
  | predictFun account => account.listOpenOrders float
  | myriad account => account.listOpenOrders float
  | opinion account => account.listOpenOrders float
  | sxBet account => account.listOpenOrders
  | sxBetV3 account => account.listOpenOrders float

/-- `list_fills`, where the connector leaves out what is before `since` itself. -/
def listFills (since : Option ℚ) : Account → Except Fault (List FillEntry)
  | polymarket account => account.listFills float since
  | predictFun account => account.listFills float
  | myriad account => account.listFills float
  | opinion account => account.listFills float since
  | sxBet account => account.listFills float
  | sxBetV3 account => account.listFills

def getPositions : Account → Except Fault (Dict String Dec)
  | polymarket account => account.getPositions float
  | predictFun account => account.getPositions float
  | myriad account => account.getPositions float
  | opinion account => account.getPositions float
  | sxBet account => account.getPositions float
  | sxBetV3 account => account.getPositions float

end Account

end ArbitrageEngine.Reconciliation.Listings
