/-
# ArbitrageEngine.Connectors.BookMessages -- order book messages as the connectors read them

A full book and a change message are told apart by the fields that are there and by their truth.
Polymarket takes an item for a full book when both of its sides are lists; `bids or buys` passes
over an empty list, so a book with an empty side under its first name is not one.  Myriad takes a
publication for a full book when a level is left in it, and reads it once for each outcome: the
nested book of the outcome where there is one, else the levels beside it, whatever outcome the
publication names.

Messages are JSON.  How the language writes values and reads numbers is a parameter.
-/
import ArbitrageEngine.Connectors.KeptLevels
import ArbitrageEngine.Lib.JsonValue
import ArbitrageEngine.Reconciliation.OrderReadings

namespace ArbitrageEngine

open Lib MarketData

namespace BookMessages

/-! ## Reading values -/

/-- How the language writes values and reads numbers in texts. -/
structure Reading extends Texts where
  /-- `float(s)`, where it does not raise. -/
  parseFloat : String → Option ℚ
  /-- `s.upper()`. -/
  upper : String → String

variable (read : Reading)

/-- `float(value)`, where it does not raise. -/
def Reading.float : Json → Option ℚ
  | .text s => read.parseFloat s
  | .int n => some n
  | .float q => some q
  | .bool b => some (if b then 1 else 0)
  | _ => none

/-- `int(value)`, where it does not raise. -/
def Reading.integer : Json → Option ℤ
  | .text s => read.parseInt s
  | .int n => some n
  | .float q => some (q.num.tdiv q.den)
  | .bool b => some (if b then 1 else 0)
  | _ => none

/-- `a if a is not None else b`. -/
def firstNotNone (a b : Json) : Json := if a.isNone then b else a

/-- The items of a list, and nothing where there is none. -/
def itemsOf : Json → Option (List Json)
  | .array items => some items
  | _ => none

/-- `event_sequence`. -/
def eventSequence : Json → Option ℤ
  | .object _ fields =>
      let own := ["sequence", "sequence_number", "sequenceNumber", "seq", "version"].map fields
      match own.find? fun value => !value.isBlank with
      | some value => read.toTexts.int value
      | none =>
          (eventSequence (fields "data")).or <|
          (eventSequence (fields "orderbook")).or <|
          (eventSequence (fields "orderBook")).or <|
          (eventSequence (fields "book")).or <|
          (eventSequence (fields "source")).or <|
          eventSequence (fields "pub")
  | _ => none

/-- The text of a change's side, in upper case. -/
def sideText (change : Json) : String :=
  read.upper (read.str (Json.orChain [change.get "side", change.get "book_side", .text ""]))

/-- The list of changes of a message, under its three names. -/
def changesIn (message : Json) : Option (List Json) :=
  itemsOf (Json.orChain
    [message.get "changes", message.get "price_changes", message.get "priceChanges"])

end BookMessages

open BookMessages

/-! ## Polymarket -/

namespace Polymarket

variable (read : Reading)

/-- `_asset_id`. -/
def assetId (payload : Json) : String :=
  let value := Json.orChain
    [payload.get "asset_id", payload.get "assetId", payload.get "token_id", payload.get "tokenId"]
  if value.isBlank then "" else read.str value

/-- The price and the size of a level, where both are numbers. -/
def levelOf (price size : Json) : Option Level :=
  if price.isNone || size.isNone then none
  else match read.float price, read.float size with
    | some price, some size => some ⟨price, size⟩
    | _, _ => none

/-- `_level_from_payload`. -/
def levelFromPayload : Json → Option Level
  | .object _ fields =>
      levelOf read (fields "price") (firstNotNone (fields "size") (fields "quantity"))
  | .array (price :: size :: _) => levelOf read price size
  | _ => none

/-- A change that is a mapping. -/
def changeOf (change : Json) : Option Change :=
  if change.isObject then
    let token := Json.orChain
      [change.get "asset_id", change.get "assetId", change.get "token_id"]
    some {
      assetId := assetId read change
      token := if token.isNone then none else some (read.str token)
      level := levelFromPayload read change
      side := sideText read change
      sequence := eventSequence read change }
  else none

/-- What `_handle_ws_payload` reads of an item: its token, the full book of
`_order_book_from_payload` where both sides are lists, and its changes. -/
def itemOf (payload : Json) : Item where
  token := assetId read payload
  levels := do
    let bids ← itemsOf (Json.orChain [payload.get "bids", payload.get "buys"])
    let asks ← itemsOf (Json.orChain [payload.get "asks", payload.get "sells"])
    some (bids.filterMap (levelFromPayload read), asks.filterMap (levelFromPayload read))
  sequence := eventSequence read payload
  changes := (changesIn payload).map (·.filterMap (changeOf read))

end Polymarket

/-! ## Myriad -/

namespace Myriad

variable (read : Reading)

/-- `_normalize_share_amount`. -/
def normalizeShareAmount (value : ℚ) : ℚ :=
  if 10 ^ 12 ≤ |value| then value / 10 ^ Reconciliation.OrderReadings.Myriad.shareDecimals
  else value

/-- `_normalize_price`. -/
def normalizePrice (value : ℚ) : ℚ :=
  Reconciliation.OrderReadings.normalizePriceAt
    Reconciliation.OrderReadings.Myriad.priceDecimals value

/-- The price and the size of a level; `none` where a number cannot be read, which raises. -/
def levelOf (price size : Json) : Option (Option Level) :=
  if price.isNone || size.isNone then some none
  else do
    let price ← read.parseFloat (read.str price)
    let size ← read.parseFloat (read.str size)
    some (some ⟨normalizePrice price, normalizeShareAmount size⟩)

/-- `_level`. -/
def level : Json → Option (Option Level)
  | .object _ fields =>
      levelOf read (fields "price")
        (firstNotNone (firstNotNone (fields "size") (fields "quantity")) (fields "amount"))
  | .array (price :: size :: _) => levelOf read price size
  | _ => some none

/-- The levels of a side of a book.  A mapping or a text has no levels; what is neither a list nor
one of these cannot be gone through. -/
def levelsOf : Json → Option (List Level)
  | .missing | .text _ | .object .. => some []
  | .array items => (items.mapM (level read)).map (·.filterMap id)
  | _ => none

/-- The names of an outcome's book. -/
def sideKeys : BinarySide → List String
  | .yes => ["YES", "yes", "yesOrderbook", "yes_orderbook"]
  | .no => ["NO", "no", "noOrderbook", "no_orderbook"]

/-- `payload.get("orderbook") or payload.get("orderBook") or payload`. -/
def container (payload : Json) : Json :=
  Json.orChain [payload.get "orderbook", payload.get "orderBook", payload]

/-- The book of an outcome inside the container. -/
def nestedBook (payload : Json) (side : BinarySide) : Json :=
  Json.orChain ((sideKeys side).map fun key => (container payload).get key)

/-- The levels beside the outcomes' books. -/
def outerBook (payload : Json) : Json :=
  if (container payload).isObject then container payload else payload

/-- Where `_order_book_from_payload` reads the levels. -/
def bookIn (payload : Json) : Option BinarySide → Json
  | none => outerBook payload
  | some side =>
      if (nestedBook payload side).isObject then nestedBook payload side else outerBook payload

/-- `_order_book_from_payload`; `none` where it raises. -/
def orderBookOf (payload : Json) (side : Option BinarySide) : Option Book := do
  let bids ← levelsOf read ((bookIn payload side).get "bids")
  let asks ← levelsOf read ((bookIn payload side).get "asks")
  some {
    bids := sortedBids bids
    asks := sortedAsks asks
    sequence := eventSequence read payload }

/-- The outcome a change or a publication names. -/
def rawOutcome (payload : Json) : Json :=
  firstNotNone (payload.get "outcome") (payload.get "outcomeId")

/-- The outcome of a change, where one is looked for; `none` where it is not a number, which
raises. -/
def outcomeOf (side : Option BinarySide) (change : Json) : Option (Option ℤ) :=
  if side.isNone || (rawOutcome change).isNone then some none
  else (read.integer (rawOutcome change)).map some

/-- A change as the loop of `_apply_orderbook_changes` reads it; `none` where that raises.  Of a
change for the other outcome only the number is read. -/
def changeOf (side : Option BinarySide) (change : Json) : Option Change :=
  (outcomeOf read side change).bind fun outcome =>
    if outcome.any fun named => side.any fun side => named ≠ outcomeId side then
      some {
        outcome := outcome
        level := none
        side := ""
        sequence := eventSequence read change }
    else
      (level read change).map fun level => {
        outcome := outcome
        level := level
        side := sideText read change
        sequence := eventSequence read change }

/-- The changes for an outcome; what is not a mapping is skipped. -/
def changesOf (side : Option BinarySide) (changes : List Json) : Option (List Change) :=
  (changes.filter (·.isObject)).mapM (changeOf read side)

/-- `_payload_matches_channel`. -/
def payloadMatchesChannel (data : Json) (networkId marketId : ℤ) : Bool :=
  read.integer (firstNotNone (data.get "networkId") (data.get "network_id")) = some networkId &&
    read.integer (firstNotNone (data.get "marketId") (data.get "market_id")) = some marketId

/-- A publication that `_handle_ws_payload` goes on with: its channel, the market and the data. -/
def publicationIn (payload : Json) : Option (String × ℤ × Json) :=
  let push := payload.get "push"
  let channel := read.str (Json.orChain [push.get "channel", .text ""])
  let data := (push.get "pub").get "data"
  match parseOrderbookChannel read.parseInt channel with
  | none => none
  | some (networkId, marketId) =>
      if data.isObject && payloadMatchesChannel read data networkId marketId then
        some (channel, marketId, data)
      else none

/-- The book of a token after the loop body of `_handle_ws_payload`; `none` where it raises. -/
def bookAfter (data : Json) (marketId : ℤ) (tokenId : String) (cached : Option Book) :
    Option (Option Book) :=
  match parseTokenId read.parseInt tokenId with
  | none => none
  | some (tokenMarketId, side) =>
      if tokenMarketId ≠ marketId then some cached
      else do
        let book ← orderBookOf read data side
        if book.bids ≠ [] ∨ book.asks ≠ [] then some (some book)
        else match changesIn data, cached with
          | some changes, some cached => do
              let changes ← changesOf read side changes
              some (some (applyOrderbookChanges side cached changes))
          | _, _ => some cached

/-- The loop over the tokens of a channel.  A token that raises ends it, and what was stored before
stays. -/
def handleTokens (data : Json) (marketId : ℤ) (books : Dict String Book) :
    List String → Except (Dict String Book) (Dict String Book)
  | [] => .ok books
  | token :: rest =>
      match bookAfter read data marketId token (books.get? token) with
      | none => .error books
      | some none => handleTokens data marketId books rest
      | some (some book) => handleTokens data marketId (books.set token book) rest

/-- `_handle_ws_payload`, with the tokens of the channel in the order the set yields them. -/
def handleWsPayload (payload : Json) (tokens : List String) (books : Dict String Book) :
    Except (Dict String Book) (Dict String Book) :=
  match publicationIn read payload with
  | none => .ok books
  | some (_, marketId, data) => handleTokens read data marketId books tokens

/-! ## What the loop over the tokens does -/

variable {read} {data : Json} {marketId : ℤ}

/-- A book that is stored is never dropped. -/
theorem eq_none_of_bookAfter {token : String} {cached : Option Book}
    (h : bookAfter read data marketId token cached = some none) : cached = none := by
  unfold bookAfter at h
  split at h
  · cases h
  · split at h
    · exact Option.some.inj h
    · obtain ⟨book, -, h⟩ := Option.bind_eq_some_iff.mp h
      split at h
      · cases h
      · split at h
        · obtain ⟨changes, -, h⟩ := Option.bind_eq_some_iff.mp h
          cases h
        · exact Option.some.inj h

/-- Where no token raises, each token of the channel has its book after the loop body, and the books
of other tokens stay. -/
theorem get?_handleTokens {tokens : List String} (hnodup : tokens.Nodup)
    {books after : Dict String Book}
    (h : handleTokens read data marketId books tokens = .ok after) (token : String) :
    (token ∈ tokens →
        bookAfter read data marketId token (books.get? token) = some (after.get? token)) ∧
      (token ∉ tokens → after.get? token = books.get? token) := by
  induction tokens generalizing books with
  | nil =>
      cases h
      exact ⟨fun hmem => absurd hmem List.not_mem_nil, fun _ => rfl⟩
  | cons first rest ih =>
      obtain ⟨hfirst, hrest⟩ := List.nodup_cons.mp hnodup
      -- Whether the first token stores a book or not, the others see their books as they were.
      have hstep : ∀ books' : Dict String Book,
          handleTokens read data marketId books' rest = .ok after →
          bookAfter read data marketId first (books.get? first) = some (books'.get? first) →
          (∀ other, other ≠ first → books'.get? other = books.get? other) →
          (token ∈ first :: rest →
              bookAfter read data marketId token (books.get? token) = some (after.get? token)) ∧
            (token ∉ first :: rest → after.get? token = books.get? token) := by
        intro books' hafter hself hothers
        by_cases hsame : token = first
        · subst hsame
          rw [(ih hrest hafter).2 hfirst]
          exact ⟨fun _ => hself, fun hnot => absurd List.mem_cons_self hnot⟩
        · have hih := ih hrest hafter
          rw [hothers token hsame] at hih
          simpa [hsame] using hih
      unfold handleTokens at h
      split at h
      · cases h
      · next hnone =>
          apply hstep books h
          · rw [hnone, eq_none_of_bookAfter hnone]
          · exact fun other _ => rfl
      · next book hbook =>
          apply hstep _ h
          · rw [hbook, Dict.get?_set_self]
          · exact fun other hne => Dict.get?_set_of_ne _ hne _

end Myriad

end ArbitrageEngine
