/-
# ArbitrageEngine.Connectors.PredictFunStatus -- the trading status of a market gates its books

With a websocket configured, a Predict.fun book may be traded on only while the newest status of its
market is OPEN and was received on this connection.  The connector keeps the status, its timestamp,
the markets whose status the connection has confirmed, and a status on every cached book: a status
that is not OPEN, or that is malformed, marks the cached books of the market INVALID, and only a new
book replaces them.

What the connector hands out or calls ready from its own cache therefore always came in after the
last bad status (`World.Gated.books`), unless a token with a cached book is registered for another
market.  A book object that a caller still holds from before is not marked, and nothing in
`is_order_book_execution_fresh` looks at when it came in: that is the one way through the gate
(`World.HeldOver`).

Times are rationals, in seconds.  Every book carries the number of the event in which it came in.
-/
import ArbitrageEngine.Connectors.OrderBooks
import ArbitrageEngine.Connectors.PredictFunTopics
import Mathlib.Tactic.Linarith

namespace ArbitrageEngine.Connectors.PredictFun

open Lib (Dict)
open Lib.Runs
open MarketData (MarketDataStatus)

/-! ## Books and clocks -/

/-- An `OrderBook` without its levels; `receipt` is the event in which it came in. -/
structure Book where
  status : MarketDataStatus := .valid
  timestamp : ℚ
  receipt : ℕ
deriving DecidableEq

/-- `time.time()` and `time.monotonic()`. -/
structure Clock where
  wall : ℚ
  monotonic : ℚ
deriving DecidableEq

/-- `ORDER_BOOK_MAX_AGE_SECONDS`. -/
def orderBookMaxAgeSeconds : ℚ := 1

/-- `_APPLICATION_HEARTBEAT_MAX_AGE_SECONDS`. -/
def applicationHeartbeatMaxAgeSeconds : ℚ := 30

/-- `is_order_book_execution_fresh` of the base class. -/
def baseExecutionFresh (clock : Clock) (book : Book) (maxAgeSeconds : ℚ) : Prop :=
  book.status = .valid ∧ max 0 (clock.wall - book.timestamp) ≤ maxAgeSeconds

instance (clock : Clock) (book : Book) (maxAgeSeconds : ℚ) :
    Decidable (baseExecutionFresh clock book maxAgeSeconds) :=
  inferInstanceAs (Decidable (_ ∧ _))

/-! ## The client -/

/-- `PredictFunApiClient` with `ws_url` and `api_key` configured, as far as the status gate reads
it. -/
structure Client where
  /-- Is `api_base_url` configured? -/
  restConfigured : Bool
  identifiers : Dict String (String × BinarySide) := Dict.empty
  tracked : Finset String := ∅
  books : Dict String Book := Dict.empty
  bookTimestamps : Dict String ℚ := Dict.empty
  wsConnected : Bool := false
  /-- `_ws is not None and not _ws.closed`. -/
  wsOpen : Bool := false
  subscribed : Finset Topic := ∅
  sessionOrderbookMarkets : Finset String := ∅
  sessionStatusMarkets : Finset String := ∅
  heartbeatAt : Option ℚ := none
  updateTimestamps : Dict String ℕ := Dict.empty
  updateFingerprints : Dict String String := Dict.empty
  tradingStatus : Dict String String := Dict.empty
  tradingStatusTimestamps : Dict String ℕ := Dict.empty
deriving DecidableEq

namespace Client

/-- The market a token is registered for. -/
def marketOf (client : Client) (token : String) : Option String :=
  (client.identifiers.get? token).map Prod.fst

/-- `_market_status_allows_execution`; a token that is not registered has no status to wait for. -/
def marketStatusAllowsExecution (client : Client) (token : String) : Prop :=
  ∃ market ∈ client.marketOf token,
    client.tradingStatus.get? market = some "OPEN" ∧ market ∈ client.sessionStatusMarkets

/-- `_healthy_stream_confirms_book`. -/
def healthyStreamConfirmsBook (client : Client) (clock : Clock) (token : String) : Prop :=
  ∃ market ∈ client.marketOf token,
    client.wsConnected ∧ client.wsOpen ∧ token ∈ client.tracked ∧
      (∀ topic ∈ marketTopics market, topic ∈ client.subscribed) ∧
      market ∈ client.sessionOrderbookMarkets ∧ market ∈ client.sessionStatusMarkets ∧
      (∃ heartbeatAt ∈ client.heartbeatAt,
        clock.monotonic - heartbeatAt ≤ applicationHeartbeatMaxAgeSeconds) ∧
      client.tradingStatus.get? market = some "OPEN"

/-- Was the cached book of the token received a moment ago? -/
def cachedYoung (client : Client) (clock : Clock) (token : String) : Prop :=
  clock.monotonic - (client.bookTimestamps.get? token).getD 0 ≤ orderBookMaxAgeSeconds

instance (client : Client) (token : String) :
    Decidable (client.marketStatusAllowsExecution token) :=
  inferInstanceAs (Decidable (∃ market ∈ client.marketOf token, _))

instance (client : Client) (clock : Clock) (token : String) :
    Decidable (client.healthyStreamConfirmsBook clock token) :=
  inferInstanceAs (Decidable (∃ market ∈ client.marketOf token, _))

instance (client : Client) (clock : Clock) (token : String) :
    Decidable (client.cachedYoung clock token) :=
  inferInstanceAs (Decidable (_ ≤ _))

/-- `_cached_book_is_passively_fresh`. -/
def cachedBookIsPassivelyFresh (client : Client) (clock : Clock) (token : String) (book : Book) :
    Prop :=
  book.status = .valid ∧ client.marketStatusAllowsExecution token ∧
    (client.healthyStreamConfirmsBook clock token ∨ client.cachedYoung clock token)

instance (client : Client) (clock : Clock) (token : String) (book : Book) :
    Decidable (client.cachedBookIsPassivelyFresh clock token book) :=
  inferInstanceAs (Decidable (_ ∧ _))

/-- `is_order_book_execution_fresh`. -/
def isOrderBookExecutionFresh (client : Client) (clock : Clock) (token : String) (book : Book)
    (maxAgeSeconds : ℚ) : Prop :=
  client.marketStatusAllowsExecution token ∧
    (client.cachedBookIsPassivelyFresh clock token book ∨
      baseExecutionFresh clock book maxAgeSeconds)

/-- `market_data_target_ready`. -/
def marketDataTargetReady (client : Client) (clock : Clock) (token : String)
    (maxAgeSeconds : ℚ) : Prop :=
  ∃ book ∈ client.books.get? token,
    client.isOrderBookExecutionFresh clock token book maxAgeSeconds

instance (client : Client) (clock : Clock) (token : String) (book : Book) (maxAgeSeconds : ℚ) :
    Decidable (client.isOrderBookExecutionFresh clock token book maxAgeSeconds) :=
  inferInstanceAs (Decidable (_ ∧ _))

instance (client : Client) (clock : Clock) (token : String) (maxAgeSeconds : ℚ) :
    Decidable (client.marketDataTargetReady clock token maxAgeSeconds) :=
  inferInstanceAs (Decidable (∃ book ∈ client.books.get? token, _))

/-- `_execution_book_from_cache`. -/
def executionBookFromCache (client : Client) (clock : Clock) (token : String) (book : Book) :
    Book :=
  if client.healthyStreamConfirmsBook clock token then { book with timestamp := clock.wall }
  else book

/-- The status a missing entry stands for when a book is stored. -/
def storedStatusIsOpen (client : Client) (token : String) : Prop :=
  ∀ market ∈ client.marketOf token, (client.tradingStatus.get? market).getD "OPEN" = "OPEN"

instance (client : Client) (token : String) : Decidable (client.storedStatusIsOpen token) :=
  inferInstanceAs (Decidable (∀ market ∈ client.marketOf token, _))

/-- `_store_book`. -/
def storeBook (client : Client) (clock : Clock) (token : String) (book : Book)
    (confirmedAtReceipt : Bool) : Client :=
  let book := if client.storedStatusIsOpen token then book else { book with status := .invalid }
  let timestamp := if confirmedAtReceipt then clock.wall else min book.timestamp clock.wall
  { client with
    books := client.books.set token { book with timestamp := timestamp }
    bookTimestamps := client.bookTimestamps.set token clock.monotonic }

/-- The books with the status of those of the tokens replaced. -/
def markBooks (books : Dict String Book) (status : MarketDataStatus) (marked : String → Prop)
    [DecidablePred marked] : Dict String Book :=
  ⟨books.entries.map fun entry =>
      (entry.1, if marked entry.1 then { entry.2 with status := status } else entry.2),
    by
      have hkeys : (books.entries.map fun entry =>
          (entry.1, if marked entry.1 then { entry.2 with status := status } else entry.2)).map
            Prod.fst = books.entries.map Prod.fst := by
        rw [List.map_map]
        rfl
      rw [hkeys]
      exact books.nodup⟩

/-- `_mark_market_books_invalid`. -/
def markMarketBooksInvalid (client : Client) (market : String) : Client :=
  { client with
    books := markBooks client.books .invalid fun token => client.marketOf token = some market }

/-- `_mark_ws_books_stale`. -/
def markWsBooksStale (client : Client) : Client :=
  { client with books := markBooks client.books .stale fun token => token ∈ client.tracked }

/-! ## Targets and connections -/

/-- `register_market`; the subscriptions it asks for are a matter of the connection. -/
def registerMarket (client : Client) (token : String) (marketId : Option String)
    (side : BinarySide) : Client :=
  match truthy marketId with
  | none => client
  | some market =>
      if token = "" then client
      else { client with identifiers := client.identifiers.set token (market, side) }

/-- `sync_market_data_targets`: the removed tokens lose their books. -/
def syncMarketDataTargets (client : Client) (tokenIds : Finset String) : Client :=
  let normalized := tokenIds.erase ""
  let removed := client.tracked \ normalized
  { client with
    tracked := normalized
    books := client.books.filter fun entry => entry.1 ∉ removed
    bookTimestamps := client.bookTimestamps.filter fun entry => entry.1 ∉ removed }

/-- The state of a connection is reset, when it opens and when it ends. -/
def resetSession (client : Client) : Client :=
  { client with
    subscribed := ∅
    sessionOrderbookMarkets := ∅
    sessionStatusMarkets := ∅
    heartbeatAt := none }

/-- A connection opens. -/
def connect (client : Client) : Client :=
  { client with wsConnected := true, wsOpen := true }.resetSession

/-- The end of a connection. -/
def disconnect (client : Client) : Client :=
  { { client with wsConnected := false }.markWsBooksStale.resetSession with wsOpen := false }

/-- A request for a topic is acknowledged. -/
def acknowledged (client : Client) (action : Action) (topic : Topic) : Client :=
  match action, topic.channel with
  | .subscribe, _ => { client with subscribed := insert topic client.subscribed }
  | .unsubscribe, .orderbook =>
      { client with
        subscribed := client.subscribed.erase topic
        sessionOrderbookMarkets := client.sessionOrderbookMarkets.erase topic.market }
  | .unsubscribe, .tradingStatus =>
      { client with
        subscribed := client.subscribed.erase topic
        sessionStatusMarkets := client.sessionStatusMarkets.erase topic.market }

/-! ## Messages -/

/-- `str(data.get("tradingStatus") or "UNKNOWN").upper()`, for a text or nothing. -/
def statusOf (raw : Option String) : String :=
  String.ofList (((truthy raw).getD "UNKNOWN").toList.map Char.toUpper)

/-- Does the message count: is its timestamp well-formed and not older than the last one? -/
def acceptsStatus (client : Client) (market : String) (timestampMs : ℕ) : Prop :=
  (client.tradingStatusTimestamps.get? market).getD 0 ≤ timestampMs

instance (client : Client) (market : String) (timestampMs : ℕ) :
    Decidable (client.acceptsStatus market timestampMs) :=
  inferInstanceAs (Decidable (_ ≤ _))

/-- A trading-status message in `_handle_ws_message`; `none` is a malformed timestamp. -/
def handleStatus (client : Client) (market : String) (timestampMs : Option ℕ)
    (raw : Option String) : Client :=
  match timestampMs with
  | none =>
      { client with
        tradingStatus := client.tradingStatus.set market "UNKNOWN"
        sessionStatusMarkets := client.sessionStatusMarkets.erase market }.markMarketBooksInvalid
          market
  | some timestampMs =>
      if client.acceptsStatus market timestampMs then
        let client := { client with
          tradingStatusTimestamps := client.tradingStatusTimestamps.set market timestampMs
          tradingStatus := client.tradingStatus.set market (statusOf raw)
          sessionStatusMarkets := insert market client.sessionStatusMarkets }
        if statusOf raw ≠ "OPEN" then client.markMarketBooksInvalid market else client
      else client

/-- `updateTimestampMs` of an order-book message. -/
inductive UpdateTimestamp
  /-- Zero, on a book without levels. -/
  | emptySnapshot
  | epoch (ms : ℕ)
  | malformed

/-- An order-book message: which version of the protocol it is, the fingerprint of its data, and the
timestamp of the book, if the book can be read. -/
structure BookMessage where
  market : String
  version : ℤ
  fingerprint : String
  timestamp : UpdateTimestamp
  bookTimestamp : Option ℚ

/-- Has the connection already taken this very book? -/
def repeats (client : Client) (message : BookMessage) : Prop :=
  message.market ∈ client.sessionOrderbookMarkets ∧
    client.updateFingerprints.get? message.market = some message.fingerprint

instance (client : Client) (message : BookMessage) : Decidable (client.repeats message) :=
  inferInstanceAs (Decidable (_ ∧ _))

/-- What a handler leaves, and whether it raised, which ends the connection. -/
structure Handled where
  client : Client
  raised : Bool

/-- The loop that stores a message for the tokens of its market.  `priced` tells for which tokens
the prices fit the registered precision; the others raise. -/
def storeForTokens (clock : Clock) (book : Book) (priced : String → Bool) :
    List String → Client → Handled
  | [], client => ⟨client, false⟩
  | token :: rest, client =>
      if priced token then
        storeForTokens clock book priced rest
          (client.storeBook clock token
            (if client.storedStatusIsOpen token then book else { book with status := .invalid })
            false)
      else ⟨client, true⟩

/-- The tracked tokens that are registered for a market, in the order of the registrations. -/
def tokensOf (client : Client) (market : String) : List String :=
  (client.identifiers.entries.filter fun entry =>
    entry.2.1 = market ∧ entry.1 ∈ client.tracked).map Prod.fst

/-- An order-book message that is new: the books are stored. -/
def storeMessage (client : Client) (clock : Clock) (receipt : ℕ) (message : BookMessage)
    (priced : String → Bool) : Handled :=
  let client := { client with
    updateFingerprints := client.updateFingerprints.set message.market message.fingerprint }
  match message.bookTimestamp with
  | none => ⟨client, true⟩
  | some timestamp =>
      let tokens := client.tokensOf message.market
      let handled := storeForTokens clock { timestamp, receipt } priced tokens client
      if handled.raised ∨ tokens = [] then handled
      else
        ⟨{ handled.client with
            sessionOrderbookMarkets := insert message.market handled.client.sessionOrderbookMarkets },
          false⟩

/-- An order-book message in `_handle_ws_message`. -/
def handleBook (client : Client) (clock : Clock) (receipt : ℕ) (message : BookMessage)
    (priced : String → Bool) : Handled :=
  if message.version ≠ 1 then ⟨client, true⟩
  else
    match message.timestamp with
    | .malformed => ⟨client, true⟩
    | .emptySnapshot =>
        if client.repeats message then ⟨client, false⟩
        else client.storeMessage clock receipt message priced
    | .epoch ms =>
        let previous := (client.updateTimestamps.get? message.market).getD 0
        if ms < previous then ⟨client, false⟩
        else if ms = previous ∧ client.repeats message then ⟨client, false⟩
        else
          { client with updateTimestamps := client.updateTimestamps.set message.market ms }
            |>.storeMessage clock receipt message priced

end Client

/-! ## The machine -/

/-- How far a call of `watch_order_book` has come. -/
inductive Watch
  | notCalled
  /-- Waiting for the event of its token, for at most 1.5 s. -/
  | waiting (token : String)
  /-- Waiting for a book over REST, or over RPC. -/
  | fetching (token : String)
  | returned (token : String) (book : Book)
  | raised
deriving DecidableEq

/-- The client, its clocks and the calls of `watch_order_book` by number; whether the receiver of
the connection is running; and what has happened: the number of events and of connections, the
status of each market that was accepted last with the connection it came on, and the event of its
last status that was malformed or accepted and not OPEN (0 if there was none). -/
structure World where
  client : Client
  clock : Clock
  calls : ℕ → Watch := fun _ => .notCalled
  receiving : Bool := false
  events : ℕ := 0
  connection : ℕ := 0
  acceptedStatus : String → Option (String × ℕ) := fun _ => none
  lastBad : String → ℕ := fun _ => 0

/-- What can happen next. -/
inductive StatusEvent
  | clock (wall elapsed : ℚ)
  | registerMarket (token : String) (marketId : Option String) (side : BinarySide)
  | syncMarketDataTargets (tokenIds : Finset String)
  | connect
  | disconnect
  /-- The socket is closed, and the connection does not know it yet. -/
  | socketCloses
  | acknowledged (action : Action) (topic : Topic)
  | heartbeat
  | status (market : String) (timestampMs : Option ℕ) (raw : Option String)
  | book (message : Client.BookMessage) (priced : String → Bool)
  /-- A book of `_refresh_rest_books_batch` or of `_refresh_books_multicall` is stored. -/
  | batch (token : String) (timestamp : ℚ) (confirmedAtReceipt : Bool)
  /-- A call of `watch_order_book` begins. -/
  | watch (call : ℕ) (token : String)
  /-- The event of its token is set, or the time is up. -/
  | wake (call : ℕ)
  /-- Its request is answered with a book, or fails. -/
  | fetched (call : ℕ) (timestamp : Option ℚ)

namespace World

/-- The world before anything has happened. -/
def start (restConfigured : Bool) (clock : Clock) : World := ⟨{ restConfigured }, clock,
  fun _ => .notCalled, false, 0, 0, fun _ => none, fun _ => 0⟩

/-- The client changes. -/
def become (w : World) (client : Client) : World :=
  { w with client := client, events := w.events + 1 }

/-- A call comes to its next point. -/
def go (w : World) (call : ℕ) (watch : Watch) : World :=
  { w with calls := Function.update w.calls call watch, events := w.events + 1 }

/-- What a status message adds to the record. -/
def recordStatus (w : World) (market : String) (timestampMs : Option ℕ) (raw : Option String) :
    World :=
  match timestampMs with
  | none => { w with lastBad := Function.update w.lastBad market (w.events + 1) }
  | some timestampMs =>
      if w.client.acceptsStatus market timestampMs then
        { w with
          acceptedStatus :=
            Function.update w.acceptedStatus market (some (Client.statusOf raw, w.connection))
          lastBad :=
            if Client.statusOf raw ≠ "OPEN" then
              Function.update w.lastBad market (w.events + 1)
            else w.lastBad }
      else w

/-- `watch_order_book` up to where it waits, raises or returns. -/
def beginWatch (w : World) (call : ℕ) (token : String) : World :=
  let client := { w.client with tracked := insert token w.client.tracked }
  let w := { w with client := client }
  let status := (client.marketOf token).bind fun market => client.tradingStatus.get? market
  if status.isSome ∧ status ≠ some "OPEN" then w.go call .raised
  else
    match client.books.get? token with
    | some cached =>
        if client.cachedBookIsPassivelyFresh w.clock token cached then
          w.go call (.returned token (client.executionBookFromCache w.clock token cached))
        else if client.restConfigured ∧ (client.marketOf token).isSome then
          w.go call (.waiting token)
        else w.go call (.fetching token)
    | none =>
        if client.restConfigured ∧ (client.marketOf token).isSome then w.go call (.waiting token)
        else w.go call (.fetching token)

/-- `watch_order_book` after it has waited for the event. -/
def wakeWatch (w : World) (call : ℕ) (token : String) : World :=
  match w.client.books.get? token with
  | some cached =>
      if w.client.cachedBookIsPassivelyFresh w.clock token cached then
        w.go call (.returned token (w.client.executionBookFromCache w.clock token cached))
      else w.go call (.fetching token)
  | none => w.go call (.fetching token)

/-- `watch_order_book` with a book over REST or RPC. -/
def finishWatch (w : World) (call : ℕ) (token : String) (timestamp : ℚ) : World :=
  let book : Book := { timestamp, receipt := w.events + 1 }
  if w.client.marketStatusAllowsExecution token then
    { w with client := w.client.storeBook w.clock token book true }.go call (.returned token book)
  else
    match w.client.marketOf token with
    | some market => { w with client := w.client.markMarketBooksInvalid market }.go call .raised
    | none => w.go call .raised

end World

open World in
/-- One step of the event loop. -/
def StatusEvent.step (w : World) : StatusEvent → Option World
  | .clock wall elapsed =>
      if 0 ≤ elapsed then
        some { w with clock := ⟨wall, w.clock.monotonic + elapsed⟩, events := w.events + 1 }
      else none
  | .registerMarket token marketId side =>
      some (w.become (w.client.registerMarket token marketId side))
  | .syncMarketDataTargets tokenIds => some (w.become (w.client.syncMarketDataTargets tokenIds))
  | .connect =>
      if w.client.wsConnected then none
      else
        some { w with
          client := w.client.connect
          receiving := true
          connection := w.connection + 1
          events := w.events + 1 }
  | .disconnect =>
      if w.client.wsConnected then
        some { w with
          client := w.client.disconnect
          receiving := false
          events := w.events + 1 }
      else none
  | .socketCloses => some (w.become { w.client with wsOpen := false })
  | .acknowledged action topic =>
      if w.receiving then some (w.become (w.client.acknowledged action topic)) else none
  | .heartbeat =>
      if w.receiving then
        some (w.become { w.client with heartbeatAt := some w.clock.monotonic })
      else none
  | .status market timestampMs raw =>
      if w.receiving then
        some ((w.recordStatus market timestampMs raw).become
          (w.client.handleStatus market timestampMs raw))
      else none
  | .book message priced =>
      if w.receiving then
        let handled := w.client.handleBook w.clock (w.events + 1) message priced
        some ({ w with receiving := !handled.raised }.become handled.client)
      else none
  | .batch token timestamp confirmedAtReceipt =>
      if (w.client.marketOf token).isSome then
        some (w.become (w.client.storeBook w.clock token { timestamp, receipt := w.events + 1 }
          confirmedAtReceipt))
      else none
  | .watch call token =>
      match w.calls call with
      | .notCalled => some (w.beginWatch call token)
      | _ => none
  | .wake call =>
      match w.calls call with
      | .waiting token => some (w.wakeWatch call token)
      | _ => none
  | .fetched call timestamp =>
      match w.calls call, timestamp with
      | .fetching _, none => some (w.go call .raised)
      | .fetching token, some timestamp => some (w.finishWatch call token timestamp)
      | _, _ => none

/-- A registration that moves a token with a valid cached book does not move it to a market that
was closed since that book came in. -/
def StatusEvent.KeepsGate (w : World) : StatusEvent → Prop
  | .registerMarket token marketId _ =>
      ∀ market ∈ truthy marketId, ∀ book ∈ w.client.books.get? token, book.status = .valid →
        w.lastBad market < book.receipt
  | _ => True

instance (w : World) (e : StatusEvent) : Decidable (e.KeepsGate w) := by
  cases e <;> unfold StatusEvent.KeepsGate <;> infer_instance

namespace World

/-- The newest accepted status of the market of the token is OPEN and came on this connection, and
the book came in after the market's last status that was not OPEN or was malformed. -/
def Admits (w : World) (token : String) (book : Book) : Prop :=
  ∃ market ∈ w.client.marketOf token, w.client.wsConnected = true ∧
    w.acceptedStatus market = some ("OPEN", w.connection) ∧ w.lastBad market < book.receipt

/-- A valid book object from before the last bad status of an open market, which is confirmed by a
healthy stream or by a cached book that is young, or is young itself. -/
def HeldOver (w : World) (token : String) (book : Book) (maxAgeSeconds : ℚ) : Prop :=
  book.status = .valid ∧ w.client.marketStatusAllowsExecution token ∧
    (∃ market ∈ w.client.marketOf token, book.receipt ≤ w.lastBad market) ∧
    (w.client.healthyStreamConfirmsBook w.clock token ∨ w.client.cachedYoung w.clock token ∨
      max 0 (w.clock.wall - book.timestamp) ≤ maxAgeSeconds)

end World

namespace Client

/-! ## The cached books -/

@[simp]
theorem get?_markBooks (books : Dict String Book) (status : MarketDataStatus)
    (marked : String → Prop) [DecidablePred marked] (token : String) :
    (markBooks books status marked).get? token =
      (books.get? token).map fun book =>
        if marked token then { book with status := status } else book := by
  ext book
  rw [Dict.get?_eq_some_iff, Option.map_eq_some_iff, markBooks, List.mem_map]
  constructor
  · rintro ⟨entry, hentry, heq⟩
    cases heq
    exact ⟨entry.2, Dict.get?_eq_some_iff.mpr hentry, rfl⟩
  · rintro ⟨old, hold, rfl⟩
    exact ⟨(token, old), Dict.get?_eq_some_iff.mp hold, rfl⟩

/-- The valid cached book of every registered token came in after the event recorded for its
market. -/
def BooksAfter (client : Client) (lastBad : String → ℕ) : Prop :=
  ∀ token, ∀ market ∈ client.marketOf token, ∀ book ∈ client.books.get? token,
    book.status = .valid → lastBad market < book.receipt

variable {client : Client} {lastBad : String → ℕ}

/-- A stored book has the receipt of what is stored, and is valid only if that is. -/
theorem BooksAfter.storeBook (h : client.BooksAfter lastBad) (clock : Clock) (token : String)
    (book : Book) (hbook : ∀ market, lastBad market < book.receipt) (confirmedAtReceipt : Bool) :
    (client.storeBook clock token book confirmedAtReceipt).BooksAfter lastBad := by
  intro t market hmarket stored hstored hvalid
  replace hstored : (client.books.set token _).get? t = some stored := hstored
  rw [Dict.get?_set] at hstored
  split at hstored
  · cases hstored
    show lastBad market < (if client.storedStatusIsOpen token then book else _ : Book).receipt
    split <;> exact hbook market
  · exact h t market hmarket stored hstored hvalid

/-- Marking the books of a market takes them out, whatever is recorded for the market then. -/
theorem BooksAfter.markMarketBooksInvalid (h : client.BooksAfter lastBad) (market : String)
    (event : ℕ) :
    (client.markMarketBooksInvalid market).BooksAfter (Function.update lastBad market event) := by
  intro token other hother book hbook hvalid
  replace hother : client.marketOf token = some other := hother
  rw [Client.markMarketBooksInvalid, get?_markBooks, Option.mem_def, Option.map_eq_some_iff] at hbook
  obtain ⟨old, hold, rfl⟩ := hbook
  by_cases hmarked : client.marketOf token = some market
  · rw [if_pos hmarked] at hvalid
    cases hvalid
  · have hne : other ≠ market := by
      rintro rfl
      exact hmarked hother
    rw [if_neg hmarked] at hvalid ⊢
    rw [Function.update_of_ne hne]
    exact h token other hother old hold hvalid

theorem BooksAfter.markMarketBooksInvalid_same (h : client.BooksAfter lastBad) (market : String) :
    (client.markMarketBooksInvalid market).BooksAfter lastBad := by
  have hmarked := h.markMarketBooksInvalid market (lastBad market)
  rwa [Function.update_eq_self] at hmarked

/-- What only takes books away or marks them stale keeps the others as they are. -/
theorem BooksAfter.of_books {client' : Client} (h : client.BooksAfter lastBad)
    (hmarkets : client'.identifiers = client.identifiers)
    (hbooks : ∀ token, ∀ book ∈ client'.books.get? token, book.status = .valid →
      client.books.get? token = some book) : client'.BooksAfter lastBad := by
  intro token market hmarket book hbook hvalid
  refine h token market ?_ book (hbooks token book hbook hvalid) hvalid
  unfold marketOf at hmarket ⊢
  rwa [hmarkets] at hmarket

theorem BooksAfter.disconnect (h : client.BooksAfter lastBad) :
    client.disconnect.BooksAfter lastBad := by
  refine h.of_books rfl fun token book hbook hvalid => ?_
  replace hbook : (markBooks client.books .stale fun token => token ∈ client.tracked).get? token =
    some book := hbook
  rw [get?_markBooks, Option.map_eq_some_iff] at hbook
  obtain ⟨old, hold, rfl⟩ := hbook
  by_cases htracked : token ∈ client.tracked
  · rw [if_pos htracked] at hvalid
    cases hvalid
  · rw [if_neg htracked]
    exact hold

theorem BooksAfter.syncMarketDataTargets (h : client.BooksAfter lastBad)
    (tokenIds : Finset String) : (client.syncMarketDataTargets tokenIds).BooksAfter lastBad := by
  refine h.of_books rfl fun token book hbook _ => ?_
  replace hbook : (client.books.filter _).get? token = some book := hbook
  rw [Dict.get?_filter, Option.filter_eq_some_iff] at hbook
  exact hbook.1

theorem BooksAfter.registerMarket (h : client.BooksAfter lastBad) {token : String}
    {marketId : Option String} (side : BinarySide)
    (hguard : ∀ market ∈ truthy marketId, ∀ book ∈ client.books.get? token,
      book.status = .valid → lastBad market < book.receipt) :
    (client.registerMarket token marketId side).BooksAfter lastBad := by
  unfold Client.registerMarket
  cases hid : truthy marketId with
  | none => exact h
  | some market =>
      dsimp only
      split
      · exact h
      · intro t other hother book hbook hvalid
        replace hother : ((client.identifiers.set token (market, side)).get? t).map Prod.fst =
          some other := hother
        by_cases ht : t = token
        · subst ht
          rw [Dict.get?_set_self] at hother
          cases hother
          exact hguard market hid book hbook hvalid
        · rw [Dict.get?_set_of_ne _ ht] at hother
          exact h t other hother book hbook hvalid

/-! ## Order-book messages -/

/-- Two states of a client agree on everything the status gate reads but the books. -/
structure SameStatus (client client' : Client) : Prop where
  wsConnected : client'.wsConnected = client.wsConnected
  sessionStatusMarkets : client'.sessionStatusMarkets = client.sessionStatusMarkets
  tradingStatus : client'.tradingStatus = client.tradingStatus

theorem storeForTokens_sound (clock : Clock) (book : Book)
    (hbook : ∀ market, lastBad market < book.receipt) (priced : String → Bool)
    (tokens : List String) (client : Client) (h : client.BooksAfter lastBad) :
    (storeForTokens clock book priced tokens client).client.BooksAfter lastBad ∧
      SameStatus client (storeForTokens clock book priced tokens client).client := by
  induction tokens generalizing client with
  | nil => exact ⟨h, rfl, rfl, rfl⟩
  | cons token rest ih =>
      unfold storeForTokens
      split
      · have hstored := h.storeBook clock token
          (if client.storedStatusIsOpen token then book else { book with status := .invalid })
          (by split <;> exact hbook) false
        obtain ⟨hbooks, hsame⟩ := ih _ hstored
        exact ⟨hbooks, hsame.wsConnected, hsame.sessionStatusMarkets, hsame.tradingStatus⟩
      · exact ⟨h, rfl, rfl, rfl⟩

theorem storeMessage_sound {client : Client} (h : client.BooksAfter lastBad) (clock : Clock)
    {receipt : ℕ}
    (hreceipt : ∀ market, lastBad market < receipt) (message : BookMessage)
    (priced : String → Bool) :
    (client.storeMessage clock receipt message priced).client.BooksAfter lastBad ∧
      SameStatus client (client.storeMessage clock receipt message priced).client := by
  unfold storeMessage
  cases message.bookTimestamp with
  | none => exact ⟨h, rfl, rfl, rfl⟩
  | some timestamp =>
      obtain ⟨hbooks, hsame⟩ := storeForTokens_sound clock { timestamp, receipt } hreceipt
        priced
        (({ client with
            updateFingerprints := client.updateFingerprints.set message.market message.fingerprint }
          : Client).tokensOf message.market)
        { client with
          updateFingerprints := client.updateFingerprints.set message.market message.fingerprint }
        h
      dsimp only
      split
      · exact ⟨hbooks, hsame.wsConnected, hsame.sessionStatusMarkets, hsame.tradingStatus⟩
      · exact ⟨hbooks, hsame.wsConnected, hsame.sessionStatusMarkets, hsame.tradingStatus⟩

/-- An order-book message stores books that came in now, and leaves the status alone. -/
theorem handleBook_sound (h : client.BooksAfter lastBad) (clock : Clock) {receipt : ℕ}
    (hreceipt : ∀ market, lastBad market < receipt) (message : BookMessage)
    (priced : String → Bool) :
    (client.handleBook clock receipt message priced).client.BooksAfter lastBad ∧
      SameStatus client (client.handleBook clock receipt message priced).client := by
  have hkept : client.BooksAfter lastBad ∧ SameStatus client client := ⟨h, rfl, rfl, rfl⟩
  unfold handleBook
  split
  · exact hkept
  · cases message.timestamp with
    | malformed => exact hkept
    | emptySnapshot =>
        dsimp only
        split
        · exact hkept
        · exact storeMessage_sound h clock hreceipt message priced
    | epoch ms =>
        dsimp only
        split
        · exact hkept
        · split
          · exact hkept
          · have hset : ({ client with
                updateTimestamps := client.updateTimestamps.set message.market ms } :
                Client).BooksAfter lastBad := h
            obtain ⟨hbooks, hsame⟩ := storeMessage_sound hset clock hreceipt message priced
            exact ⟨hbooks, hsame.wsConnected, hsame.sessionStatusMarkets, hsame.tradingStatus⟩

end Client

namespace World

/-! ## The invariant -/

/-- What the gate rests on. -/
structure Gated (w : World) : Prop where
  lastBad : ∀ market, w.lastBad market ≤ w.events
  books : w.client.BooksAfter w.lastBad
  /-- A market whose status the session has confirmed has the status that was accepted last, on this
  connection. -/
  session : ∀ market ∈ w.client.sessionStatusMarkets, w.client.wsConnected = true ∧
    ∃ status, w.client.tradingStatus.get? market = some status ∧
      w.acceptedStatus market = some (status, w.connection)
  receiving : w.receiving = true → w.client.wsConnected = true

theorem Gated.start (restConfigured : Bool) (clock : Clock) : (start restConfigured clock).Gated :=
  ⟨fun _ => le_rfl, fun _ _ h => (nomatch h), fun _ h => absurd h (Finset.notMem_empty _),
    fun h => (nomatch h)⟩

/-- Nothing recorded is as late as the event that happens now. -/
theorem Gated.lastBad_lt {w : World} (h : w.Gated) (market : String) :
    w.lastBad market < w.events + 1 := by
  have hle := h.lastBad market
  omega

/-- The client changes its books and keeps its status. -/
theorem Gated.with_client {w : World} (h : w.Gated) (client : Client)
    (hbooks : client.BooksAfter w.lastBad) (hsame : Client.SameStatus w.client client) :
    ({ w with client := client } : World).Gated := by
  refine ⟨h.lastBad, hbooks, ?_, ?_⟩
  · intro market hmarket
    replace hmarket : market ∈ client.sessionStatusMarkets := hmarket
    show client.wsConnected = true ∧ ∃ status, client.tradingStatus.get? market = _ ∧ _
    rw [hsame.sessionStatusMarkets] at hmarket
    rw [hsame.wsConnected, hsame.tradingStatus]
    exact h.session market hmarket
  · intro hreceiving
    show client.wsConnected = true
    rw [hsame.wsConnected]
    exact h.receiving hreceiving

theorem Gated.become {w : World} (h : w.Gated) {client : Client}
    (hbooks : client.BooksAfter w.lastBad) (hsame : Client.SameStatus w.client client) :
    (w.become client).Gated :=
  have hkept := h.with_client client hbooks hsame
  ⟨fun market => (h.lastBad_lt market).le, hkept.books, hkept.session, hkept.receiving⟩

theorem Gated.go {w : World} (h : w.Gated) (call : ℕ) (watch : Watch) : (w.go call watch).Gated :=
  ⟨fun market => (h.lastBad_lt market).le, h.books, h.session, h.receiving⟩

/-- A status message: what is accepted is recorded, and a bad one takes the books of its market
out. -/
theorem Gated.status {w : World} (h : w.Gated) (hreceiving : w.receiving = true) (market : String)
    (timestampMs : Option ℕ) (raw : Option String) :
    ((w.recordStatus market timestampMs raw).become
      (w.client.handleStatus market timestampMs raw)).Gated := by
  have hbad : ∀ other, Function.update w.lastBad market (w.events + 1) other ≤ w.events + 1 := by
    intro other
    rw [Function.update_apply]
    split
    · exact le_rfl
    · exact (h.lastBad_lt other).le
  cases timestampMs with
  | none =>
      refine ⟨hbad, h.books.markMarketBooksInvalid market (w.events + 1), ?_, h.receiving⟩
      intro other hother
      replace hother : other ∈ w.client.sessionStatusMarkets.erase market := hother
      have hne := Finset.ne_of_mem_erase hother
      show _ ∧ ∃ status, (w.client.tradingStatus.set market "UNKNOWN").get? other = _ ∧ _
      rw [Dict.get?_set_of_ne _ hne]
      exact h.session other (Finset.mem_of_mem_erase hother)
  | some timestampMs =>
      unfold recordStatus Client.handleStatus
      by_cases haccepts : w.client.acceptsStatus market timestampMs
      · dsimp only
        rw [if_pos haccepts, if_pos haccepts]
        -- In the session, the market has the new status and the others have what they had.
        have hsession : ∀ other ∈ insert market w.client.sessionStatusMarkets,
            w.client.wsConnected = true ∧ ∃ status,
              (w.client.tradingStatus.set market (Client.statusOf raw)).get? other = some status ∧
                Function.update w.acceptedStatus market
                  (some (Client.statusOf raw, w.connection)) other = some (status, w.connection) := by
          intro other hother
          by_cases hne : other = market
          · subst hne
            exact ⟨h.receiving hreceiving, Client.statusOf raw, Dict.get?_set_self _ _ _,
              Function.update_self _ _ _⟩
          · rw [Dict.get?_set_of_ne _ hne, Function.update_of_ne hne]
            exact h.session other (Finset.mem_of_mem_insert_of_ne hother hne)
        by_cases hopen : Client.statusOf raw = "OPEN"
        · rw [if_neg (not_not.mpr hopen), if_neg (not_not.mpr hopen)]
          exact ⟨fun other => (h.lastBad_lt other).le, h.books, hsession, h.receiving⟩
        · rw [if_pos hopen, if_pos hopen]
          exact ⟨hbad, Client.BooksAfter.markMarketBooksInvalid h.books market (w.events + 1),
            hsession, h.receiving⟩
      · dsimp only
        rw [if_neg haccepts, if_neg haccepts]
        exact h.become h.books ⟨rfl, rfl, rfl⟩

end World

open World in
/-- Every event keeps the gate, where a registration meets its condition. -/
theorem StatusEvent.step_gated {e : StatusEvent} {w w' : World} (h : w.Gated) (hok : e.KeepsGate w)
    (hstep : e.step w = some w') : w'.Gated := by
  cases e with
  | clock wall elapsed =>
      simp only [StatusEvent.step] at hstep
      split at hstep <;> cases hstep
      exact ⟨fun market => (h.lastBad_lt market).le, h.books, h.session, h.receiving⟩
  | registerMarket token marketId side =>
      cases hstep
      refine h.become (h.books.registerMarket side hok) ?_
      unfold Client.registerMarket
      split
      · exact ⟨rfl, rfl, rfl⟩
      · split <;> exact ⟨rfl, rfl, rfl⟩
  | syncMarketDataTargets tokenIds =>
      cases hstep
      exact h.become (h.books.syncMarketDataTargets tokenIds) ⟨rfl, rfl, rfl⟩
  | connect =>
      simp only [StatusEvent.step] at hstep
      split at hstep <;> cases hstep
      exact ⟨fun market => (h.lastBad_lt market).le, h.books,
        fun _ hmem => absurd hmem (Finset.notMem_empty _), fun _ => rfl⟩
  | disconnect =>
      simp only [StatusEvent.step] at hstep
      split at hstep <;> cases hstep
      exact ⟨fun market => (h.lastBad_lt market).le, h.books.disconnect,
        fun _ hmem => absurd hmem (Finset.notMem_empty _), fun hreceiving => nomatch hreceiving⟩
  | socketCloses =>
      cases hstep
      exact h.become h.books ⟨rfl, rfl, rfl⟩
  | acknowledged action topic =>
      simp only [StatusEvent.step] at hstep
      split at hstep <;> cases hstep
      obtain ⟨channel, market⟩ := topic
      cases action with
      | subscribe => exact h.become h.books ⟨rfl, rfl, rfl⟩
      | unsubscribe =>
          cases channel with
          | orderbook => exact h.become h.books ⟨rfl, rfl, rfl⟩
          | tradingStatus =>
              exact ⟨fun market => (h.lastBad_lt market).le, h.books,
                fun other hother => h.session other (Finset.mem_of_mem_erase hother), h.receiving⟩
  | heartbeat =>
      simp only [StatusEvent.step] at hstep
      split at hstep <;> cases hstep
      exact h.become h.books ⟨rfl, rfl, rfl⟩
  | status market timestampMs raw =>
      simp only [StatusEvent.step] at hstep
      split at hstep <;> cases hstep
      next hreceiving => exact h.status hreceiving market timestampMs raw
  | book message priced =>
      simp only [StatusEvent.step] at hstep
      split at hstep <;> cases hstep
      next hreceiving =>
      obtain ⟨hbooks, hsame⟩ :=
        Client.handleBook_sound h.books w.clock h.lastBad_lt message priced
      have hkept : ({ w with
          receiving := !(w.client.handleBook w.clock (w.events + 1) message priced).raised } :
          World).Gated := ⟨h.lastBad, h.books, h.session, fun _ => h.receiving hreceiving⟩
      exact hkept.become hbooks hsame
  | batch token timestamp confirmedAtReceipt =>
      simp only [StatusEvent.step] at hstep
      split at hstep <;> cases hstep
      exact h.become (h.books.storeBook w.clock token _ h.lastBad_lt confirmedAtReceipt)
        ⟨rfl, rfl, rfl⟩
  | watch call token =>
      simp only [StatusEvent.step] at hstep
      split at hstep <;> cases hstep
      have htracked := h.with_client { w.client with tracked := insert token w.client.tracked }
        h.books ⟨rfl, rfl, rfl⟩
      unfold beginWatch
      dsimp only
      split
      · exact htracked.go call _
      · split
        · split
          · exact htracked.go call _
          · split <;> exact htracked.go call _
        · split <;> exact htracked.go call _
  | wake call =>
      simp only [StatusEvent.step] at hstep
      split at hstep <;> cases hstep
      unfold wakeWatch
      split
      · split <;> exact h.go call _
      · exact h.go call _
  | fetched call timestamp =>
      simp only [StatusEvent.step] at hstep
      split at hstep <;> cases hstep
      · exact h.go call _
      · next token timestamp _ =>
        unfold finishWatch
        dsimp only
        split
        · have hstored := h.with_client _ (h.books.storeBook w.clock token
            ⟨.valid, timestamp, w.events + 1⟩ h.lastBad_lt true) ⟨rfl, rfl, rfl⟩
          exact hstored.go call _
        · split
          · next market _ =>
              have hmarked := h.with_client _
                (Client.BooksAfter.markMarketBooksInvalid_same h.books market) ⟨rfl, rfl, rfl⟩
              exact hmarked.go call _
          · exact h.go call _

namespace World

/-! ## What the gate lets through -/

/-- While the status of its market allows execution, a token has a market whose newest accepted
status is OPEN, on this connection. -/
theorem Gated.admits_iff {w : World} (h : w.Gated) {token : String}
    (hallows : w.client.marketStatusAllowsExecution token) (book : Book) :
    w.Admits token book ↔ ∃ market ∈ w.client.marketOf token, w.lastBad market < book.receipt := by
  constructor
  · rintro ⟨market, hmarket, _, _, hafter⟩
    exact ⟨market, hmarket, hafter⟩
  · rintro ⟨market, hmarket, hafter⟩
    obtain ⟨allowed, hallowed, hopen, hsession⟩ := hallows
    have hsame : allowed = market := Option.mem_unique hallowed hmarket
    subst hsame
    obtain ⟨hconnected, status, hstatus, haccepted⟩ := h.session allowed hsession
    rw [hopen] at hstatus
    cases hstatus
    exact ⟨allowed, hmarket, hconnected, haccepted, hafter⟩

/-- A valid cached book is let through while the status allows it. -/
theorem Gated.admits_cached {w : World} (h : w.Gated) {token : String} {book : Book}
    (hcached : w.client.books.get? token = some book) (hvalid : book.status = .valid)
    (hallows : w.client.marketStatusAllowsExecution token) : w.Admits token book := by
  obtain ⟨market, hmarket, _⟩ := id hallows
  exact (h.admits_iff hallows book).mpr
    ⟨market, hmarket, h.books token market hmarket book hcached hvalid⟩

theorem receipt_executionBookFromCache (client : Client) (clock : Clock) (token : String)
    (book : Book) : (client.executionBookFromCache clock token book).receipt = book.receipt := by
  unfold Client.executionBookFromCache
  split <;> rfl

/-- What is freshly cached may be returned. -/
theorem Gated.admits_fromCache {w : World} (h : w.Gated) {token : String} {book : Book}
    (hcached : w.client.books.get? token = some book)
    (hfresh : w.client.cachedBookIsPassivelyFresh w.clock token book) :
    w.Admits token (w.client.executionBookFromCache w.clock token book) := by
  obtain ⟨market, hmarket, hconnected, haccepted, hafter⟩ :=
    h.admits_cached hcached hfresh.1 hfresh.2.1
  refine ⟨market, hmarket, hconnected, haccepted, ?_⟩
  rw [receipt_executionBookFromCache]
  exact hafter

/-- A target that is ready has a cached book that may be traded on. -/
theorem Gated.admits_ready {w : World} (h : w.Gated) {token : String} {maxAgeSeconds : ℚ}
    (hready : w.client.marketDataTargetReady w.clock token maxAgeSeconds) :
    ∃ book ∈ w.client.books.get? token, w.Admits token book := by
  obtain ⟨book, hcached, hallows, hfresh⟩ := hready
  have hvalid : book.status = .valid := by
    rcases hfresh with hpassive | hbase
    · exact hpassive.1
    · exact hbase.1
  exact ⟨book, hcached, h.admits_cached hcached hvalid hallows⟩

/-- A book object is judged fresh against the gate exactly if it is held over. -/
theorem Gated.executionFresh_iff {w : World} (h : w.Gated) (token : String) (book : Book)
    (maxAgeSeconds : ℚ) :
    (w.client.isOrderBookExecutionFresh w.clock token book maxAgeSeconds → w.Admits token book) ↔
      ¬w.HeldOver token book maxAgeSeconds := by
  have hsplit : w.client.isOrderBookExecutionFresh w.clock token book maxAgeSeconds ↔
      book.status = .valid ∧ w.client.marketStatusAllowsExecution token ∧
        (w.client.healthyStreamConfirmsBook w.clock token ∨ w.client.cachedYoung w.clock token ∨
          max 0 (w.clock.wall - book.timestamp) ≤ maxAgeSeconds) := by
    unfold Client.isOrderBookExecutionFresh Client.cachedBookIsPassivelyFresh baseExecutionFresh
    tauto
  constructor
  · rintro hadmits ⟨hvalid, hallows, ⟨market, hmarket, hbefore⟩, hconfirmed⟩
    obtain ⟨other, hother, hafter⟩ :=
      (h.admits_iff hallows book).mp (hadmits (hsplit.mpr ⟨hvalid, hallows, hconfirmed⟩))
    have hsame : other = market := Option.mem_unique hother hmarket
    subst hsame
    omega
  · intro hnot hfresh
    obtain ⟨hvalid, hallows, hconfirmed⟩ := hsplit.mp hfresh
    rw [h.admits_iff hallows]
    by_contra hnone
    obtain ⟨market, hmarket, _⟩ := id hallows
    refine hnot ⟨hvalid, hallows, ⟨market, hmarket, ?_⟩, hconfirmed⟩
    exact not_lt.mp fun hafter => hnone ⟨market, hmarket, hafter⟩

/-- The book a call has returned. -/
def Returned (w : World) (call : ℕ) (token : String) (book : Book) : Prop :=
  w.calls call = .returned token book

/-- A step from a call that had not returned to one that has. -/
theorem go_returned {w : World} {call : ℕ} {watch : Watch} {k : ℕ} {token : String} {book : Book}
    (h : (w.go call watch).Returned k token book) (hbefore : ¬w.Returned k token book) :
    watch = .returned token book := by
  replace h : Function.update w.calls call watch k = .returned token book := h
  rw [Function.update_apply] at h
  split at h
  · exact h
  · exact absurd h hbefore

end World

open World in
/-- What a call of `watch_order_book` returns passes the gate when it is returned. -/
theorem StatusEvent.admits_returned {e : StatusEvent} {w w' : World} (h : w.Gated)
    (hstep : e.step w = some w') {k : ℕ} {token : String} {book : Book}
    (hafter : w'.Returned k token book) (hbefore : ¬w.Returned k token book) :
    w'.Admits token book := by
  cases e with
  | registerMarket | syncMarketDataTargets | socketCloses =>
      cases hstep
      exact absurd hafter hbefore
  | clock | connect | disconnect | acknowledged | heartbeat | book | batch =>
      simp only [StatusEvent.step] at hstep
      split at hstep <;> cases hstep
      exact absurd hafter hbefore
  | status market timestampMs raw =>
      simp only [StatusEvent.step] at hstep
      split at hstep <;> cases hstep
      refine absurd ?_ hbefore
      unfold World.Returned World.become World.recordStatus at *
      dsimp only at hafter
      split at hafter
      · exact hafter
      · split at hafter <;> exact hafter
  | watch call watched =>
      simp only [StatusEvent.step] at hstep
      split at hstep <;> cases hstep
      have htracked := h.with_client { w.client with tracked := insert watched w.client.tracked }
        h.books ⟨rfl, rfl, rfl⟩
      -- Of all the ways a call can begin, only a fresh cached book lets it return.
      unfold beginWatch at hafter ⊢
      dsimp only at hafter ⊢
      split at hafter
      · cases go_returned hafter hbefore
      · next hstatus =>
        split at hafter
        · next cached hcached =>
          split at hafter
          · next hfresh =>
            cases go_returned hafter hbefore
            rw [if_neg hstatus, if_pos hfresh]
            exact htracked.admits_fromCache hcached hfresh
          · split at hafter <;> cases go_returned hafter hbefore
        · split at hafter <;> cases go_returned hafter hbefore
  | wake call =>
      simp only [StatusEvent.step] at hstep
      split at hstep <;> cases hstep
      unfold wakeWatch at hafter ⊢
      split at hafter
      · next cached hcached =>
        split at hafter
        · next hfresh =>
          cases go_returned hafter hbefore
          rw [if_pos hfresh]
          exact h.admits_fromCache hcached hfresh
        · cases go_returned hafter hbefore
      · cases go_returned hafter hbefore
  | fetched call timestamp =>
      simp only [StatusEvent.step] at hstep
      split at hstep <;> cases hstep
      · cases go_returned hafter hbefore
      · next fetched timestamp _ =>
        unfold finishWatch at hafter ⊢
        dsimp only at hafter ⊢
        split at hafter
        · next hallows =>
          have hbook := go_returned hafter hbefore
          cases hbook
          rw [if_pos hallows]
          obtain ⟨market, hmarket, _⟩ := id hallows
          exact (h.admits_iff hallows _).mpr ⟨market, hmarket, h.lastBad_lt market⟩
        · split at hafter <;> cases go_returned hafter hbefore

/-- **Whatever a connector with a websocket goes through, as long as no registration moves a valid
cached book to a market that was closed since: the books that `watch_order_book` returns and those
of targets that are ready pass the status gate, and a book object is judged fresh against the gate
exactly if it is held over.** -/
theorem trading_status_gate (restConfigured : Bool) (clock : Clock) {hist : List World} {w : World}
    (hrun : Run (fun w e => StatusEvent.step w e) (fun w e => e.KeepsGate w)
      (World.start restConfigured clock) hist w) :
    (∀ e w' k token book, StatusEvent.step w e = some w' → w'.Returned k token book →
        ¬w.Returned k token book → w'.Admits token book) ∧
      (∀ token maxAgeSeconds, w.client.marketDataTargetReady w.clock token maxAgeSeconds →
        ∃ book ∈ w.client.books.get? token, w.Admits token book) ∧
      ∀ token book maxAgeSeconds,
        (w.client.isOrderBookExecutionFresh w.clock token book maxAgeSeconds →
          w.Admits token book) ↔ ¬w.HeldOver token book maxAgeSeconds := by
  have hgated : w.Gated := hrun.state_invariant World.Gated (World.Gated.start restConfigured clock)
    fun _ e _ h hok hstep => e.step_gated h hok hstep
  exact ⟨fun e _ _ _ _ hstep hafter hbefore => e.admits_returned hgated hstep hafter hbefore,
    fun _ _ hready => hgated.admits_ready hready,
    fun token book maxAgeSeconds => hgated.executionFresh_iff token book maxAgeSeconds⟩

namespace StatusExamples

/-- Both topics of market 7 are subscribed, the market is open and its first book comes in. -/
def opening : List StatusEvent :=
  [.registerMarket "100" (some "7") .yes, .syncMarketDataTargets {"100"}, .connect,
    .acknowledged .subscribe ⟨.orderbook, "7"⟩, .acknowledged .subscribe ⟨.tradingStatus, "7"⟩,
    .status "7" (some 1) (some "open"), .book ⟨"7", 1, "a", .epoch 1, some 0⟩ fun _ => true]

/-- A caller gets that book; the market closes and opens again. -/
def reopening : List StatusEvent :=
  opening ++ [.watch 0 "100", .status "7" (some 2) (some "CLOSED"),
    .status "7" (some 3) (some "OPEN")]

/-- The client at the start, at time zero. -/
def initial : World := World.start true ⟨0, 0⟩

/-- The book from before the closure that the caller still holds is judged fresh, and it does not
pass the gate. -/
theorem held_book_judged_fresh : ∃ hist w book,
    Run (fun w e => StatusEvent.step w e) anyAction initial hist w ∧ w.Returned 0 "100" book ∧
      w.client.isOrderBookExecutionFresh w.clock "100" book 1 ∧ ¬w.Admits "100" book := by
  let book : Book := ⟨.valid, 0, 7⟩
  have hexec : (exec (fun w e => StatusEvent.step w e) anyAction initial reopening).map (fun w =>
      decide (w.calls 0 = .returned "100" book ∧ w.client.marketOf "100" = some "7" ∧
        w.lastBad "7" = 9 ∧ w.client.isOrderBookExecutionFresh w.clock "100" book 1)) =
      some true := by decide +kernel
  obtain ⟨w, hw, hfacts⟩ := Option.map_eq_some_iff.mp hexec
  obtain ⟨hreturned, hmarket, hlast, hfresh⟩ := of_decide_eq_true hfacts
  obtain ⟨hist, hrun⟩ := Run.of_exec hw
  refine ⟨hist, w, book, hrun, hreturned, hfresh, ?_⟩
  rintro ⟨market, hmem, _, _, hafter⟩
  rw [hmarket] at hmem
  cases hmem
  rw [hlast] at hafter
  exact absurd hafter (by decide)

theorem trading_status_gate_opening : ∃ hist w,
    Run (fun w e => StatusEvent.step w e) (fun w e => e.KeepsGate w) initial hist w ∧
      ∃ book ∈ w.client.books.get? "100", w.Admits "100" book := by
  have hexec : (exec (fun w e => StatusEvent.step w e) (fun w e => e.KeepsGate w) initial
      opening).map (fun w => decide (w.client.marketDataTargetReady w.clock "100" 1)) =
      some true := by decide +kernel
  obtain ⟨w, hw, hready⟩ := Option.map_eq_some_iff.mp hexec
  obtain ⟨hist, hrun⟩ := Run.of_exec hw
  exact ⟨hist, w, hrun, (trading_status_gate true ⟨0, 0⟩ hrun).2.1 "100" 1 (of_decide_eq_true hready)⟩

end StatusExamples

end ArbitrageEngine.Connectors.PredictFun
