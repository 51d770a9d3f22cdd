/-
# ArbitrageEngine.Connectors.SxBetOrders -- the orders of SX Bet V2 and their trades

A taker fill is submitted under a fill hash that the venue answers with, or under the salt of the
request where it answers without one.  The order id is made of seven parts, so that an order can be
read back from its id; a sale is a purchase of the other side, and its price is one minus the price
of that purchase.

`get_order` looks up one trade of the order, the latest, and reports it.  `list_fills` goes through
the trades of the account and files each under the order that is remembered for its fill hash, or
under the fill hash itself.
-/
import ArbitrageEngine.Lib.Leaders
import ArbitrageEngine.Positions.DecimalStr
import ArbitrageEngine.Reconciliation.OrderReadings
import Mathlib.Data.Bool.AllAny

namespace ArbitrageEngine.SxBetOrders

open Execution (ExecutionReport ExecutionStatus)
open Lib
open Reconciliation (lower)
open Reconciliation.OrderReadings (fromStatusText)
open SxBetV3 (FillRecord)

/-! ## Orders -/

/-- What an order does with the outcome it names. -/
inductive Action
  | buy
  | sell
deriving DecidableEq

def Action.value : Action → String
  | buy => "BUY"
  | sell => "SELL"

/-- The price of the purchase that is made. -/
def actualPrice (action : Action) (price : Dec) : Dec :=
  match action with
  | .buy => price
  | .sell => Dec.sub 1 price

/-- The side that is bought. -/
def actualSide (action : Action) (side : BinarySide) : BinarySide :=
  match action with
  | .buy => side
  | .sell => side.opposite

/-- An order that `_build_fill_request` accepts. -/
structure Order where
  tokenId : String
  marketHash : String
  side : BinarySide
  action : Action
  contracts : Spelled
  price : Spelled
  market_registered : marketHash ≠ ""
  contracts_pos : 0 < contracts.value
  price_pos : 0 < price.value
  price_lt_one : price.value < 1
  actual_pos : 0 < actualPrice action price.value
  actual_lt_one : actualPrice action price.value < 1

/-! ## The order id -/

/-- `_decimal_id_component`. -/
def decimalIdComponent (value : Spelled) : String :=
  if value.canonicalDecimal = "" then "0" else value.canonicalDecimal

/-- `_compose_order_id`. -/
def composeOrderId (fillHash : String) (action : Action) (side : BinarySide) (marketHash : String)
    (requestedContracts requestedPrice : Spelled) : String :=
  "sx:" ++ action.value ++ ":" ++ side.value ++ ":" ++ marketHash ++ ":" ++
    decimalIdComponent requestedContracts ++ ":" ++ decimalIdComponent requestedPrice ++ ":" ++
      fillHash

/-- `text.split(":", count)`. -/
def splitColon : ℕ → List Char → List (List Char)
  | 0, text => [text]
  | count + 1, text =>
      match text.dropWhile (· ≠ ':') with
      | [] => [text]
      | _ :: rest => text.takeWhile (· ≠ ':') :: splitColon count rest

def actionOf (text : String) : Option Action :=
  if text = "BUY" then some .buy else if text = "SELL" then some .sell else none

def sideOf (text : String) : Option BinarySide :=
  if text = "YES" then some .yes else if text = "NO" then some .no else none

/-- What `_parse_order_id` returns. -/
structure ParsedOrderId where
  action : Action
  side : BinarySide
  marketHash : String
  requestedContracts : Dec
  requestedPrice : Dec
  fillHash : String
deriving DecidableEq

/-- `_parse_order_id`. -/
def parseOrderId (orderId : String) : Option ParsedOrderId :=
  match splitColon 6 orderId.toList with
  | [front, action, side, marketHash, contracts, price, fillHash] =>
      if front ≠ "sx".toList then none
      else do
        let action ← actionOf (String.ofList action)
        let side ← sideOf (String.ofList side)
        let contracts ← Spelled.ofStr contracts
        let price ← Spelled.ofStr price
        some ⟨action, side, String.ofList marketHash, contracts.value, price.value,
          String.ofList fillHash⟩
  | _ => none

/-- `_SubmittedFill`. -/
structure SubmittedFill where
  orderId : String
  fillHash : String
  marketHash : String
  tokenId : String
  action : Action
  syntheticSide : BinarySide
  actualSide : BinarySide
  requestedContracts : Dec
  requestedPrice : Dec
  submittedAt : Time
deriving DecidableEq

/-- `_submitted_from_order_id`. -/
def submittedFromOrderId (orderId : String) : Option SubmittedFill :=
  (parseOrderId orderId).map fun parsed =>
    { orderId := orderId
      fillHash := parsed.fillHash
      marketHash := parsed.marketHash
      tokenId := ""
      action := parsed.action
      syntheticSide := parsed.side
      actualSide := actualSide parsed.action parsed.side
      requestedContracts := parsed.requestedContracts
      requestedPrice := parsed.requestedPrice
      submittedAt := 0 }

/-! ## Trades -/

/-- A trade of the account, as the venue lists it. -/
structure Trade where
  id : String
  fillHash : String
  marketHash : String
  bettor : String
  maker : Bool := false
  bettingOutcomeOne : Bool
  normalizedStake : Option Dec := none
  stake : Dec := 0
  odds : Dec
  tradeStatus : String
  valid : Bool := true
  /-- `_trade_datetime`. -/
  time : Time

namespace Trade

variable (trade : Trade)

/-- `_trade_probability`. -/
def probability : Dec := Dec.div trade.odds (10 ^ 20)

/-- `_trade_stake_usd`. -/
def stakeUsd : Dec := trade.normalizedStake.getD (Dec.div trade.stake (10 ^ 6))

/-- `_trade_contracts`. -/
def contracts : Dec :=
  if trade.probability ≤ 0 then 0 else Dec.div trade.stakeUsd trade.probability

/-- The side that was bought. -/
def side : BinarySide := if trade.bettingOutcomeOne then .yes else .no

/-- `_is_trade_confirmed`. -/
def isConfirmed : Bool := trade.tradeStatus.toUpper = "SUCCESS" && trade.valid

/-- `_is_successful_taker_trade`. -/
def isSuccessfulTaker (bettor : String) : Bool :=
  lower trade.bettor = lower bettor && !trade.maker && trade.isConfirmed

/-- `_submitted_from_trade`. -/
def submitted : Option SubmittedFill :=
  if trade.fillHash = "" then none
  else some
    { orderId := trade.fillHash
      fillHash := trade.fillHash
      marketHash := trade.marketHash
      tokenId := trade.marketHash ++ ":" ++ trade.side.value
      action := .buy
      syntheticSide := trade.side
      actualSide := trade.side
      requestedContracts := trade.contracts
      requestedPrice := trade.probability
      submittedAt := trade.time }

end Trade

/-- The amount that `_execution_report_from_trade` takes for the requested one. -/
def requestedOf (submitted : Option SubmittedFill) (trade : Trade) : Dec :=
  match submitted with
  | some s =>
      if s.action = .sell then s.requestedContracts
      else if 0 < s.requestedContracts then s.requestedContracts else trade.contracts
  | none => trade.contracts

/-- The price of a trade: of a sale, one minus that of the purchase. -/
def priceOf (submitted : Option SubmittedFill) (trade : Trade) : Dec :=
  if submitted.any fun s => s.action = .sell then max 0 (Dec.sub 1 trade.probability)
  else trade.probability

/-- `_execution_report_from_trade`. -/
def executionReportFromTrade (orderId : String) (submitted : Option SubmittedFill) (trade : Trade) :
    ExecutionReport :=
  let tradeStatus := trade.tradeStatus.toUpper
  let requested := requestedOf submitted trade
  let filled := if tradeStatus = "SUCCESS" ∧ trade.valid then trade.contracts else 0
  let status :=
    if tradeStatus = "SUCCESS" ∧ filled < requested then "partial"
    else if tradeStatus = "SUCCESS" then "filled"
    else if tradeStatus = "FAILED" then "failed"
    else "open"
  fromStatusText orderId requested filled status (priceOf submitted trade)

/-! ## What the venue answers -/

/-- The trades of an account, in the order in which the venue lists them. -/
structure Venue where
  trades : List Trade

/-- The trades of some markets, of all where none is named, from a second on. -/
def Venue.answer (venue : Venue) (marketHashes : List String) (startDate : ℤ) : List Trade :=
  venue.trades.filter fun trade =>
    (marketHashes = [] ∨ trade.marketHash ∈ marketHashes) ∧ startDate * 10 ^ 6 ≤ trade.time

/-- `_trade_query_start`. -/
def tradeQueryStart (submittedAt : Time) : Time :=
  if submittedAt ≤ 0 then submittedAt else submittedAt - 2 * 60 * 10 ^ 6

/-- `_submitted_actual_probability`. -/
def submittedActualProbability (submitted : SubmittedFill) : Dec :=
  match submitted.action with
  | .sell => max 0 (Dec.sub 1 submitted.requestedPrice)
  | .buy => submitted.requestedPrice

/-- `Decimal("0.000001")`. -/
def matchTolerance : Dec := 1 / 10 ^ 6

/-- `_trade_matches_submitted_fill`. -/
def tradeMatchesSubmittedFill (bettor : String) (submitted : SubmittedFill) (trade : Trade) :
    Bool :=
  trade.isSuccessfulTaker bettor && trade.marketHash = submitted.marketHash &&
    trade.side = submitted.actualSide &&
    Dec.absolute (Dec.sub trade.contracts submitted.requestedContracts) ≤ matchTolerance &&
    Dec.absolute (Dec.sub trade.probability (submittedActualProbability submitted)) ≤
      matchTolerance &&
    tradeQueryStart submitted.submittedAt ≤ trade.time

/-- The trades that the query of an order finds. -/
def queried (venue : Venue) (submitted : SubmittedFill) : List Trade :=
  venue.answer (if submitted.marketHash = "" then [] else [submitted.marketHash])
    (tradeQueryStart submitted.submittedAt / 10 ^ 6)

/-- The trades with the hash of the order. -/
def hashMatches (bettor : String) (venue : Venue) (submitted : SubmittedFill) : List Trade :=
  (queried venue submitted).filter fun trade =>
    trade.fillHash = submitted.fillHash && lower trade.bettor = lower bettor

/-- The trades that look like the order. -/
def likeness (bettor : String) (venue : Venue) (submitted : SubmittedFill) : List Trade :=
  (queried venue submitted).filter (tradeMatchesSubmittedFill bettor submitted)

/-- Is there no hash of the venue? -/
def saltedHash (fillHash : String) : Bool := "sx-fill:".toList.isPrefixOf fillHash.toList

/-- `_trade_datetime`, to be sorted by. -/
def Trade.date (trade : Trade) : ℚ := (trade.time : ℚ)

/-- `_find_submitted_trade`. -/
def findSubmittedTrade (bettor : String) (venue : Venue) (submitted : SubmittedFill) :
    Option Trade :=
  let found := hashMatches bettor venue submitted
  let found :=
    if found.isEmpty && saltedHash submitted.fillHash then likeness bettor venue submitted
    else found
  (byScore Trade.date found).head?

/-! ## The client -/

/-- What the client keeps of its orders. -/
structure Client where
  submittedFills : Dict String SubmittedFill := .empty
  reports : Dict String ExecutionReport := .empty

namespace Client

variable (client : Client)

/-- `_store_submitted_fill`. -/
def storeSubmittedFill (submitted : SubmittedFill) : Client :=
  { client with
    submittedFills := (client.submittedFills.set submitted.orderId submitted).set
      submitted.fillHash submitted }

/-- `_submitted_fill_for_hash`. -/
def submittedFillForHash (fillHash : String) : Option SubmittedFill :=
  (client.submittedFills.get? fillHash).or
    (client.submittedFills.values.find? fun submitted => submitted.fillHash = fillHash)

/-- The order as it is remembered, or as its id says. -/
def submittedFor (orderId : String) : Option SubmittedFill :=
  (client.submittedFills.get? orderId).or (submittedFromOrderId orderId)

/-- `forget_order`. -/
def forgetOrder (orderId : String) : Client :=
  let kept := client.submittedFills.erase orderId
  { submittedFills :=
      match client.submittedFor orderId with
      | none => kept
      | some submitted =>
          if submitted.fillHash = "" then kept
          else kept.filter fun e => e.2.fillHash ≠ submitted.fillHash
    reports := client.reports.erase orderId }

/-- `get_order`; there is no order where its id says nothing. -/
def getOrder (bettor : String) (venue : Venue) (orderId : String) :
    Option (ExecutionReport × Client) :=
  match (client.reports.get? orderId).filter fun cached => cached.status ≠ .stillOpen with
  | some cached => some (cached, client)
  | none =>
      (client.submittedFor orderId).map fun submitted =>
        let report :=
          match findSubmittedTrade bettor venue submitted with
          | none => fromStatusText orderId submitted.requestedContracts 0 "open" 0
          | some trade => executionReportFromTrade orderId (some submitted) trade
        (report, { client with reports := client.reports.set orderId report })

/-- The record of a trade in `list_fills`. -/
def fillRecord (bettor : String) (trade : Trade) : Option FillRecord :=
  if !trade.isSuccessfulTaker bettor then none
  else if trade.fillHash = "" then none
  else
    let submitted := (client.submittedFillForHash trade.fillHash).or trade.submitted
    let orderId := (submitted.map (·.orderId)).getD trade.fillHash
    let report := executionReportFromTrade orderId submitted trade
    some
      { fillId := if trade.id = "" then trade.fillHash else trade.id
        clientOrderId := ""
        venueOrderId := orderId
        venue := "SX Bet"
        quantity := report.amountFilled
        price := report.avgPrice
        fee := 0 }

/-- `list_fills`, of all times. -/
def listFills (bettor : String) (venue : Venue) : List FillRecord :=
  venue.trades.filterMap (client.fillRecord bettor)

end Client

/-- The fill hash of the answer, or the salt of the request. -/
def hashOf (answer salt : String) : String := if answer = "" then "sx-fill:" ++ salt else answer

/-- What is remembered of a submission. -/
def submittedBy (order : Order) (answer salt : String) (now : Time) : SubmittedFill where
  orderId := composeOrderId (hashOf answer salt) order.action order.side order.marketHash
    order.contracts order.price
  fillHash := hashOf answer salt
  marketHash := order.marketHash
  tokenId := order.tokenId
  action := order.action
  syntheticSide := order.side
  actualSide := actualSide order.action order.side
  requestedContracts := order.contracts.value
  requestedPrice := order.price.value
  submittedAt := now

/-- The end of `_submit_fill`: the order is remembered, an old report of its id is not. -/
def Client.remember (client : Client) (submitted : SubmittedFill) : Client :=
  let stored := client.storeSubmittedFill submitted
  { stored with reports := stored.reports.erase submitted.orderId }

/-- `_submit_fill`, with the fill hash of the answer, empty where there is none. -/
def submitFill (order : Order) (answer salt : String) (now : Time) (client : Client) :
    String × Client :=
  let submitted := submittedBy order answer salt now
  (submitted.orderId, client.remember submitted)

/-! ## The codec -/

theorem splitColon_append {part rest : List Char} (h : ∀ c ∈ part, c ≠ ':') (count : ℕ) :
    splitColon (count + 1) (part ++ ':' :: rest) = part :: splitColon count rest := by
  have hdrop : (part ++ ':' :: rest).dropWhile (· ≠ ':') = ':' :: rest := by
    rw [List.dropWhile_append_of_pos (by simpa using h)]
    simp
  have htake : (part ++ ':' :: rest).takeWhile (· ≠ ':') = part := by
    rw [List.takeWhile_append_of_pos (by simpa using h)]
    simp
  simp only [splitColon, hdrop, htake]

theorem decimalIdComponent_eq {d : Spelled} (h : 0 < d.value) :
    (decimalIdComponent d).toList = d.normalize.formatF := by
  obtain ⟨-, hsign, hlast⟩ := Spelled.normalize_spec h
  obtain ⟨e, hread, -⟩ := Spelled.ofStr_formatF hsign (by omega)
  have hne : d.canonicalDecimal ≠ "" := by
    rw [Spelled.canonicalDecimal_eq h]
    intro hempty
    have hnil : d.normalize.formatF = [] := String.ofList_injective hempty
    rw [hnil] at hread
    cases hread
  unfold decimalIdComponent
  rw [if_neg hne, Spelled.canonicalDecimal_eq h, String.toList_ofList]

/-- The text of a positive number in an order id is read as the number, rounded to the context. -/
theorem ofStr_decimalIdComponent {d : Spelled} (h : 0 < d.value) :
    ∃ e, Spelled.ofStr (decimalIdComponent d).toList = some e ∧ e.value = Dec.ctx d.value := by
  obtain ⟨hvalue, hsign, hlast⟩ := Spelled.normalize_spec h
  obtain ⟨e, hread, he⟩ := Spelled.ofStr_formatF hsign (by omega)
  rw [decimalIdComponent_eq h]
  exact ⟨e, hread, he.trans hvalue⟩

theorem decimalIdComponent_without_colon {d : Spelled} (h : 0 < d.value) :
    ∀ c ∈ (decimalIdComponent d).toList, c ≠ ':' := by
  obtain ⟨-, hsign, -⟩ := Spelled.normalize_spec h
  rw [decimalIdComponent_eq h]
  rintro c hc rfl
  rcases Spelled.mem_formatF hsign hc with hdigit | hpoint
  · cases hdigit
  · cases hpoint

/-- Texts joined by colons. -/
theorem toList_joined (a b c d e f : String) :
    ("sx:" ++ a ++ ":" ++ b ++ ":" ++ c ++ ":" ++ d ++ ":" ++ e ++ ":" ++ f).toList =
      "sx".toList ++ ':' :: (a.toList ++ ':' :: (b.toList ++ ':' :: (c.toList ++ ':' ::
        (d.toList ++ ':' :: (e.toList ++ ':' :: f.toList))))) := by
  have hcolon : ":".toList = [':'] := by decide
  have hfront : "sx:".toList = "sx".toList ++ [':'] := by decide
  simp only [String.toList_append, hcolon, hfront, List.append_assoc, List.cons_append,
    List.nil_append]

/-- An order id begins with an `s`. -/
theorem exists_composeOrderId (fillHash : String) (action : Action) (side : BinarySide)
    (marketHash : String) (contracts price : Spelled) :
    ∃ rest, (composeOrderId fillHash action side marketHash contracts price).toList =
      's' :: rest := by
  unfold composeOrderId
  rw [toList_joined]
  exact ⟨_, rfl⟩

/-- The seven parts of an order id. -/
theorem splitColon_composeOrderId {fillHash marketHash : String} {contracts price : Spelled}
    (action : Action) (side : BinarySide) (hmarket : ∀ c ∈ marketHash.toList, c ≠ ':')
    (hcontracts : 0 < contracts.value) (hprice : 0 < price.value) :
    splitColon 6 (composeOrderId fillHash action side marketHash contracts price).toList =
      ["sx".toList, action.value.toList, side.value.toList, marketHash.toList,
        (decimalIdComponent contracts).toList, (decimalIdComponent price).toList,
        fillHash.toList] := by
  have haction : ∀ c ∈ action.value.toList, c ≠ ':' := by
    cases action <;> exact List.all_iff_forall_prop.mp (by decide)
  have hside : ∀ c ∈ side.value.toList, c ≠ ':' := by
    cases side <;> exact List.all_iff_forall_prop.mp (by decide)
  have hfront : ∀ c ∈ "sx".toList, c ≠ ':' := List.all_iff_forall_prop.mp (by decide)
  unfold composeOrderId
  rw [toList_joined, splitColon_append hfront, splitColon_append haction, splitColon_append hside,
    splitColon_append hmarket, splitColon_append (decimalIdComponent_without_colon hcontracts),
    splitColon_append (decimalIdComponent_without_colon hprice)]
  rfl

/-- **The order id is read back**: the parts are what they were, the amounts rounded to the
context. -/
theorem parse_composeOrderId {fillHash marketHash : String} {contracts price : Spelled}
    (action : Action) (side : BinarySide) (hmarket : ∀ c ∈ marketHash.toList, c ≠ ':')
    (hcontracts : 0 < contracts.value) (hprice : 0 < price.value) :
    parseOrderId (composeOrderId fillHash action side marketHash contracts price) =
      some ⟨action, side, marketHash, Dec.ctx contracts.value, Dec.ctx price.value, fillHash⟩ := by
  obtain ⟨c, hc, hcvalue⟩ := ofStr_decimalIdComponent hcontracts
  obtain ⟨p, hp, hpvalue⟩ := ofStr_decimalIdComponent hprice
  have hactionOf : actionOf action.value = some action := by
    cases action <;> decide
  have hsideOf : sideOf side.value = some side := by
    cases side <;> decide
  unfold parseOrderId
  rw [splitColon_composeOrderId action side hmarket hcontracts hprice]
  dsimp only
  rw [if_neg (not_not.mpr rfl), String.ofList_toList, String.ofList_toList, String.ofList_toList,
    String.ofList_toList, hactionOf, hsideOf, hc, hp, ← hcvalue, ← hpvalue]
  rfl

/-! ## What is remembered -/

namespace Client

variable {client : Client} {s : SubmittedFill} {orderId fillHash : String}

theorem submittedFor_remember (client : Client) (s : SubmittedFill) :
    (client.remember s).submittedFor s.orderId = some s := by
  have hget : ((client.submittedFills.set s.orderId s).set s.fillHash s).get? s.orderId =
      some s := by
    by_cases hsame : s.orderId = s.fillHash
    · rw [hsame, Dict.get?_set_self]
    · rw [Dict.get?_set_of_ne _ hsame, Dict.get?_set_self]
  unfold submittedFor remember storeSubmittedFill
  rw [hget]
  rfl

theorem submittedFillForHash_remember (client : Client) (s : SubmittedFill) :
    (client.remember s).submittedFillForHash s.fillHash = some s := by
  unfold submittedFillForHash remember storeSubmittedFill
  rw [Dict.get?_set_self]
  rfl

/-- No order is found under a hash that is neither a key nor the hash of an entry. -/
theorem submittedFillForHash_eq_none_iff :
    client.submittedFillForHash fillHash = none ↔
      client.submittedFills.get? fillHash = none ∧
        ∀ e ∈ client.submittedFills.entries, e.2.fillHash ≠ fillHash := by
  unfold submittedFillForHash
  rw [Option.or_eq_none_iff, List.find?_eq_none]
  refine and_congr_right fun _ => ?_
  show (∀ x ∈ client.submittedFills.entries.map Prod.snd, _) ↔ _
  rw [List.forall_mem_map]
  simp only [decide_eq_true_eq]

theorem submittedFillForHash_remember_of_ne (h : client.submittedFillForHash fillHash = none)
    (horder : fillHash ≠ s.orderId) (hhash : fillHash ≠ s.fillHash) :
    (client.remember s).submittedFillForHash fillHash = none := by
  obtain ⟨hget, hentries⟩ := submittedFillForHash_eq_none_iff.mp h
  rw [submittedFillForHash_eq_none_iff]
  unfold remember storeSubmittedFill
  refine ⟨?_, ?_⟩
  · rw [Dict.get?_set_of_ne _ hhash, Dict.get?_set_of_ne _ horder, hget]
  · intro e he
    rcases Dict.mem_entries_set he with rfl | he
    · exact hhash.symm
    · rcases Dict.mem_entries_set he with rfl | he
      · exact hhash.symm
      · exact hentries e he

/-- What is left of the entries when an order is forgotten. -/
theorem mem_entries_forgetOrder {e : String × SubmittedFill}
    (h : e ∈ (client.forgetOrder orderId).submittedFills.entries) :
    e.1 ≠ orderId ∧ e ∈ client.submittedFills.entries ∧
      ∀ s, client.submittedFor orderId = some s → s.fillHash ≠ "" → e.2.fillHash ≠ s.fillHash := by
  unfold forgetOrder at h
  dsimp only at h
  split at h
  · next hnone =>
      obtain ⟨hmem, hkey⟩ := List.mem_filter.mp h
      refine ⟨by simpa using hkey, hmem, ?_⟩
      intro s hs
      rw [hnone] at hs
      cases hs
  · next s' hs' =>
      split at h
      · next hblank =>
          obtain ⟨hmem, hkey⟩ := List.mem_filter.mp h
          refine ⟨by simpa using hkey, hmem, ?_⟩
          intro s hs hne
          rw [hs'] at hs
          cases hs
          exact absurd hblank hne
      · obtain ⟨hkept, hhash⟩ := List.mem_filter.mp h
        obtain ⟨hmem, hkey⟩ := List.mem_filter.mp hkept
        refine ⟨by simpa using hkey, hmem, ?_⟩
        intro s hs _
        rw [hs'] at hs
        cases hs
        simpa using hhash

/-- A forgotten order is known by its id only. -/
theorem submittedFor_forgetOrder (client : Client) (orderId : String) :
    (client.forgetOrder orderId).submittedFor orderId = submittedFromOrderId orderId := by
  have hget : (client.forgetOrder orderId).submittedFills.get? orderId = none := by
    rw [Option.eq_none_iff_forall_not_mem]
    intro s hs
    exact (mem_entries_forgetOrder (Dict.get?_eq_some_iff.mp hs)).1 rfl
  unfold submittedFor
  rw [hget]
  rfl

/-- Under the hash of a forgotten order none is found. -/
theorem submittedFillForHash_forgetOrder (hs : client.submittedFor orderId = some s)
    (hne : s.fillHash ≠ "") (hkey : ∀ e ∈ client.submittedFills.entries,
      e.1 = s.fillHash → e.2.fillHash = s.fillHash) :
    (client.forgetOrder orderId).submittedFillForHash s.fillHash = none := by
  rw [submittedFillForHash_eq_none_iff]
  refine ⟨?_, fun e he => (mem_entries_forgetOrder he).2.2 s hs hne⟩
  rw [Option.eq_none_iff_forall_not_mem]
  intro other hother
  obtain ⟨-, hmem, hdiffer⟩ := mem_entries_forgetOrder (Dict.get?_eq_some_iff.mp hother)
  exact hdiffer s hs hne (hkey _ hmem rfl)

/-- Where no order is found under a hash, none is after another one is forgotten. -/
theorem submittedFillForHash_forgetOrder_of_none (h : client.submittedFillForHash fillHash = none) :
    (client.forgetOrder orderId).submittedFillForHash fillHash = none := by
  obtain ⟨hget, hentries⟩ := submittedFillForHash_eq_none_iff.mp h
  rw [submittedFillForHash_eq_none_iff]
  refine ⟨?_, fun e he => hentries e (mem_entries_forgetOrder he).2.1⟩
  rw [Option.eq_none_iff_forall_not_mem]
  intro other hother
  have hmem := (mem_entries_forgetOrder (Dict.get?_eq_some_iff.mp hother)).2.1
  rw [Dict.get?_eq_some_iff.mpr hmem] at hget
  cases hget

end Client

end ArbitrageEngine.SxBetOrders
