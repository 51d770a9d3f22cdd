/-
# ArbitrageEngine.Connectors.SxBetBooks -- the order table of one SX Bet market

SX Bet publishes the orders of a market in publications with consecutive offsets.  The connector
keeps one order table per market.  Publications patch it, a REST snapshot replaces it, and every
book of the market is rebuilt from it.  A subscription that does not recover schedules a bootstrap:
a REST snapshot that is taken while the publications are buffered, and after which they are
replayed.  A watcher that finds no fresh book takes a snapshot of its own.

While the market is subscribed on the live connection a valid book counts as fresh, whatever its
age.  A book is *current* there if for every order it has the venue's version after at least the
publications that were out when the connection was opened, and after the last one that was received
on it.  Several steps lose this: a publication that is applied after a bootstrap failed or was
cancelled, a snapshot that a watcher asked for before what was received since, a subscription or a
buffered publication while a book from before is still valid (`Event.Safe`).  In a run of other
steps every valid book is current.
-/
import ArbitrageEngine.Connectors.OrderBooks
import ArbitrageEngine.Lib.Runs
import ArbitrageEngine.Lib.VersionedLog
import ArbitrageEngine.Models

namespace ArbitrageEngine.Connectors.SxBet

open Lib.Runs Lib.VersionedLog MarketData

/-! ## The venue -/

/-- A row about an order, in a publication or in a REST snapshot: what of it decides which version
of the order is kept.  A row without a hash is skipped, and is none. -/
structure OrderUpdate where
  orderHash : String
  updateTime : ℤ
  isActive : Bool
deriving DecidableEq

def orderSchema : Schema String OrderUpdate where
  key := OrderUpdate.orderHash
  time := OrderUpdate.updateTime
  live := OrderUpdate.isActive

structure Publication where
  offset : ℕ
  updates : List OrderUpdate
deriving DecidableEq

/-- The order table of the market: `_orders_by_market`, and of its orders `_order_update_times`. -/
abbrev OrderTable : Type := Holder String OrderUpdate

def OrderTable.empty : OrderTable := ⟨fun _ => none, fun _ => none⟩

/-! ## The client -/

/-- A book, by the orders it was built from. -/
structure OrdersBook where
  orders : String → Option OrderUpdate
  status : MarketDataStatus

/-- An entry of `_subscription_positions`.  A publication that finds no position leaves one without
an epoch. -/
structure Position where
  hasEpoch : Bool
  offset : ℕ
deriving DecidableEq

/-- What `_subscription_queue` asks of the sender. -/
inductive SubscriptionAction
  | subscribe
  | unsubscribe
deriving DecidableEq

/-- A subscription without an answer: the offset it recovers from, and how many publications were
out when it was sent. -/
structure PendingSubscription where
  since : Option ℕ
  sentAt : ℕ
deriving DecidableEq

/-- The client, as far as it concerns one market.  A side of the market is its token; `sent` is what
the sender of the connection has in its own set, `bootstrap` the running task and `cancelled` how
many cancelled ones have yet to clean up, a task by how many publications were out when it was
scheduled. -/
structure Client where
  registered : BinarySide → Bool := fun _ => false
  tracked : BinarySide → Bool := fun _ => false
  books : BinarySide → Option OrdersBook := fun _ => none
  table : OrderTable := OrderTable.empty
  position : Option Position := none
  wsConnected : Bool := false
  subscribed : Bool := false
  sent : Bool := false
  queue : List SubscriptionAction := []
  pending : List PendingSubscription := []
  bootstrap : Option ℕ := none
  cancelled : ℕ := 0
  bootstrapping : Bool := false
  buffered : List Publication := []

namespace Client

/-- Is the market in `_active_market_hashes`? -/
def isActive (client : Client) : Bool :=
  (client.tracked .yes && client.registered .yes) || (client.tracked .no && client.registered .no)

/-- The offset of the position, or 0. -/
def previousOffset (client : Client) : ℕ := (client.position.map Position.offset).getD 0

/-- `_rebuild_market_books`. -/
def rebuildMarketBooks (client : Client) : Client :=
  { client with
    books := fun side =>
      if client.registered side then some ⟨client.table.rows, .valid⟩ else client.books side }

/-- `_mark_market_books_stale`. -/
def markMarketBooksStale (client : Client) : Client :=
  { client with
    books := fun side =>
      if client.registered side then
        (client.books side).map fun book => { book with status := .stale }
      else client.books side }

/-- `_mark_books_stale`. -/
def markBooksStale (client : Client) : Client :=
  { client with
    books := fun side =>
      if client.tracked side then (client.books side).map fun book => { book with status := .stale }
      else client.books side }

/-- `_apply_sx_publication_now`. -/
def applyPublicationNow (client : Client) (publication : Publication) : Client :=
  if client.previousOffset ≠ 0 ∧ client.previousOffset + 1 < publication.offset then
    client.markMarketBooksStale
  else if publication.offset ≠ 0 ∧ publication.offset ≤ client.previousOffset then client
  else
    let taken : Client :=
      { client with
        table := client.table.takeAll orderSchema publication.updates
        position :=
          if publication.offset ≠ 0 then
            some ⟨(client.position.map Position.hasEpoch).getD false, publication.offset⟩
          else client.position }
    if client.table.changes orderSchema publication.updates then taken.rebuildMarketBooks else taken

/-- `_apply_sx_publication`. -/
def applyPublication (client : Client) (publication : Publication) : Client :=
  if !client.isActive then client
  else if client.bootstrapping then
    { client with buffered := client.buffered ++ [publication] }
  else client.applyPublicationNow publication

/-- `_bootstrap_market`, from the response on. -/
def bootstrapMarket (client : Client) (orders : List OrderUpdate) : Client :=
  rebuildMarketBooks
    { client with
      table :=
        { rows := fun orderHash =>
            orders.reverse.find? fun order => order.orderHash = orderHash && order.isActive
          times := fun orderHash =>
            (orders.reverse.find? fun order => order.orderHash = orderHash).map
              OrderUpdate.updateTime } }

/-- `_bootstrap_subscribed_market`, from the response on. -/
def bootstrapSubscribedMarket (client : Client) (orders : List OrderUpdate) : Client :=
  let stored := client.bootstrapMarket orders
  stored.buffered.foldl applyPublicationNow
    { stored with buffered := [], bootstrapping := false, bootstrap := none }

/-- `_bootstrap_subscribed_market`, where the request raises. -/
def bootstrapFails (client : Client) : Client :=
  markMarketBooksStale { client with buffered := [], bootstrapping := false, bootstrap := none }

/-- What a cancelled bootstrap does when it is resumed. -/
def cancelledCleanup (client : Client) : Client :=
  { client with buffered := [], bootstrapping := false, cancelled := client.cancelled - 1 }

/-- `_schedule_market_bootstrap`. -/
def scheduleMarketBootstrap (client : Client) (now : ℕ) : Client :=
  match client.bootstrap with
  | some _ => client
  | none => { client with bootstrapping := true, bootstrap := some now }

/-- `_cancel_market_bootstrap`. -/
def cancelMarketBootstrap (client : Client) : Client :=
  { client with
    bootstrap := none
    cancelled := if client.bootstrap.isSome then client.cancelled + 1 else client.cancelled
    bootstrapping := false
    buffered := [] }

/-- `_prune_inactive_market`. -/
def pruneInactiveMarket (client : Client) : Client :=
  { client.cancelMarketBootstrap with
    table := OrderTable.empty
    position := none
    books := fun side => if client.registered side then none else client.books side }

/-- `register_market`. -/
def registerMarket (client : Client) (side : BinarySide) : Client :=
  { client with
    registered := Function.update client.registered side true
    queue :=
      if client.wsConnected && client.tracked side then client.queue ++ [.subscribe]
      else client.queue }

/-- Has one set of sides a registered one that the other does not have? -/
def gains (client : Client) (sides others : BinarySide → Bool) : Bool :=
  (sides .yes && !others .yes && client.registered .yes) ||
    (sides .no && !others .no && client.registered .no)

/-- `sync_market_data_targets`. -/
def syncMarketDataTargets (client : Client) (targets : BinarySide → Bool) : Client :=
  let synced : Client := { client with tracked := targets }
  let pruned : Client :=
    if client.gains client.tracked targets && !synced.isActive then
      let inactive := synced.pruneInactiveMarket
      { inactive with queue := inactive.queue ++ [.unsubscribe] }
    else synced
  if pruned.wsConnected && client.gains targets client.tracked && pruned.isActive then
    { pruned with queue := pruned.queue ++ [.subscribe] }
  else pruned

/-- `_send_market_subscription`. -/
def sendMarketSubscription (client : Client) (now : ℕ) : Client :=
  { client with pending := client.pending ++ [⟨client.position.map Position.offset, now⟩] }

/-- The loop body of `_send_subscriptions`. -/
def sendSubscriptions (client : Client) (now : ℕ) : Option Client :=
  match client.queue with
  | [] => none
  | .subscribe :: rest =>
      let popped : Client := { client with queue := rest }
      some (if client.sent then popped
        else { popped.sendMarketSubscription now with sent := true })
  | .unsubscribe :: rest =>
      let popped : Client := { client with queue := rest }
      some (if client.sent then { popped with sent := false, subscribed := false } else popped)

/-- What an answer to a subscription does first: it names the epoch. -/
def confirmSubscription (client : Client) : Client :=
  { client with
    subscribed := true
    position := some ⟨true, match client.position with
      | some ⟨true, offset⟩ => offset
      | _ => 0⟩ }

/-- `_handle_centrifugo_message`, for an answer that has not recovered. -/
def subscribedAt (client : Client) (offset now : ℕ) : Client :=
  let confirmed := client.confirmSubscription
  let placed : Client :=
    if confirmed.previousOffset < offset then { confirmed with position := some ⟨true, offset⟩ }
    else confirmed
  if placed.isActive then placed.scheduleMarketBootstrap now else placed

/-- `_handle_centrifugo_message`, for an answer that has recovered. -/
def subscribedWith (client : Client) (publications : List Publication) : Client :=
  publications.foldl applyPublication client.confirmSubscription

/-- The `finally` of `_run_order_book_ws`.  A running bootstrap is awaited after it is cancelled. -/
def disconnected (client : Client) : Client :=
  markBooksStale
    { client with
      bootstrap := none
      bootstrapping := false
      buffered := []
      wsConnected := false
      subscribed := false
      sent := false
      pending := [] }

end Client

/-! ## The client and the venue -/

/-- The client, what the venue has published, and what is under way.  `openedAt` is how many
publications were out when the connection was opened, and `received` the greatest offset received on
it; a watcher waits for a book or has sent its request. -/
structure World where
  client : Client := {}
  log : List (List OrderUpdate) := []
  socketOpen : Bool := false
  openedAt : ℕ := 0
  received : ℕ := 0
  watchers : List BinarySide := []
  recoveries : List ℕ := []

namespace World

/-- The venue's publication with an offset. -/
def publication (world : World) (offset : ℕ) : Publication :=
  ⟨offset, (world.log[offset - 1]?).getD []⟩

/-- The publications after one offset and up to another. -/
def publicationsBetween (world : World) (since offset : ℕ) : List Publication :=
  (List.range' (since + 1) (offset - since)).map world.publication

/-- What every book has to reach: the publications from before the connection, and those up to the
last one received on it. -/
def required (world : World) : ℕ := max world.openedAt world.received

/-- The version of an order after `n` publications. -/
def version (world : World) (n : ℕ) (orderHash : String) : Option OrderUpdate :=
  current orderSchema (published world.log n) orderHash

/-- Are these the rows of a snapshot after `n` publications?  A snapshot has the active orders, and
may have others. -/
def IsSnapshot (world : World) (n : ℕ) (orders : List OrderUpdate) : Prop :=
  (∀ order ∈ orders, latest orderSchema (published world.log n) order.orderHash = some order) ∧
    ∀ order ∈ published world.log n,
      world.version n order.orderHash = some order → order ∈ orders

instance (world : World) (n : ℕ) (orders : List OrderUpdate) :
    Decidable (world.IsSnapshot n orders) :=
  inferInstanceAs (Decidable (_ ∧ _))

/-- `_cached_book_is_fresh`, while the market is subscribed on the live connection. -/
def hasFreshBook (world : World) (side : BinarySide) : Bool :=
  world.client.wsConnected && world.client.subscribed &&
    (world.client.books side).any fun book => book.status = .valid

end World

/-- What can happen.  Every publication is received at most once and in its order, or lost. -/
inductive Event
  /-- The venue publishes. -/
  | publish (updates : List OrderUpdate)
  | registerMarket (side : BinarySide)
  /-- `watch_order_book` is called, returns a book, asks for a snapshot, or has its answer: the
  orders after `n` publications, or an error. -/
  | watchOrderBook (side : BinarySide)
  | watchReturns (side : BinarySide)
  | recoverMarketBook (side : BinarySide)
  | recovered (request n : ℕ) (orders : List OrderUpdate)
  | recoveryFails (request : ℕ)
  | syncMarketDataTargets (targets : BinarySide → Bool)
  /-- The websocket opens, and the first subscriptions are sent; then it counts as connected. -/
  | openSocket
  | connected
  | sendSubscriptions
  /-- The venue answers a subscription. -/
  | subscribedAt (request offset : ℕ)
  | subscribedWith (request offset : ℕ)
  /-- A publication is received. -/
  | push (offset : ℕ)
  | bootstrapped (n : ℕ) (orders : List OrderUpdate)
  | bootstrapFails
  | cancelledCleanup
  | disconnected

open World in
/-- One step. -/
def step (world : World) : Event → Option World
  | .publish updates =>
      if Growing orderSchema (world.log ++ [updates]).flatten then
        some { world with log := world.log ++ [updates] }
      else none
  | .registerMarket side => some { world with client := world.client.registerMarket side }
  | .watchOrderBook side =>
      if world.client.registered side then
        some { world with
          client :=
            { world.client with tracked := Function.update world.client.tracked side true }
          watchers := world.watchers ++ [side] }
      else none
  | .watchReturns side =>
      if side ∈ world.watchers ∧ (world.client.books side).any fun book => book.status = .valid then
        some { world with watchers := world.watchers.erase side }
      else none
  | .recoverMarketBook side =>
      if side ∈ world.watchers ∧ !world.hasFreshBook side then
        some { world with
          watchers := world.watchers.erase side
          recoveries := world.recoveries ++ [world.log.length] }
      else none
  | .recovered request n orders =>
      match world.recoveries[request]? with
      | none => none
      | some sentAt =>
          if sentAt ≤ n ∧ n ≤ world.log.length ∧ world.IsSnapshot n orders then
            some { world with
              client := world.client.bootstrapMarket orders
              recoveries := world.recoveries.eraseIdx request }
          else none
  | .recoveryFails request => some { world with recoveries := world.recoveries.eraseIdx request }
  | .syncMarketDataTargets targets =>
      some { world with client := world.client.syncMarketDataTargets targets }
  | .openSocket =>
      if world.socketOpen then none
      else some { world with
        client :=
          if world.client.isActive then world.client.sendMarketSubscription world.log.length
          else world.client
        socketOpen := true
        openedAt := world.log.length
        received := 0 }
  | .connected =>
      if world.socketOpen ∧ !world.client.wsConnected then
        some { world with
          client :=
            { world.client with wsConnected := true, sent := !world.client.pending.isEmpty } }
      else none
  | .sendSubscriptions =>
      if world.client.wsConnected then
        (world.client.sendSubscriptions world.log.length).map fun client =>
          { world with client := client }
      else none
  | .subscribedAt request offset =>
      match world.client.pending[request]? with
      | none => none
      | some pending =>
          if world.client.wsConnected ∧ pending.sentAt ≤ offset ∧ offset ≤ world.log.length then
            some { world with
              client :=
                { world.client.subscribedAt offset world.log.length with
                  pending := world.client.pending.eraseIdx request } }
          else none
  | .subscribedWith request offset =>
      match world.client.pending[request]? with
      | none => none
      | some pending =>
          match pending.since with
          | none => none
          | some since =>
              if world.client.wsConnected ∧ pending.sentAt ≤ offset ∧
                  offset ≤ world.log.length then
                some { world with
                  client :=
                    { world.client.subscribedWith (world.publicationsBetween since offset) with
                      pending := world.client.pending.eraseIdx request }
                  received :=
                    if since < offset then max world.received offset else world.received }
              else none
  | .push offset =>
      if world.client.wsConnected ∧ world.required < offset ∧ offset ≤ world.log.length then
        some { world with
          client := world.client.applyPublication (world.publication offset)
          received := offset }
      else none
  | .bootstrapped n orders =>
      match world.client.bootstrap with
      | none => none
      | some sentAt =>
          if sentAt ≤ n ∧ n ≤ world.log.length ∧ world.IsSnapshot n orders then
            some { world with client := world.client.bootstrapSubscribedMarket orders }
          else none
  | .bootstrapFails =>
      if world.client.bootstrap.isSome then
        some { world with client := world.client.bootstrapFails }
      else none
  | .cancelledCleanup =>
      if world.client.cancelled = 0 then none
      else some { world with client := world.client.cancelledCleanup }
  | .disconnected =>
      if world.socketOpen then
        some { world with client := world.client.disconnected, socketOpen := false }
      else none

/-! ## What a valid book has to show -/

/-- Is some book valid? -/
def Client.HasValid (client : Client) : Prop :=
  ∃ side book, client.books side = some book ∧ book.status = .valid

/-- Has the table every order in its version after at least `n` publications? -/
def World.Reaches (world : World) (n : ℕ) : Prop :=
  Covers orderSchema world.log world.client.table n

/-- While the market is subscribed on the live connection, a valid book has every order in a version
after the publications from before the connection and those up to the last one received on it. -/
def World.BooksCurrent (world : World) : Prop :=
  world.client.wsConnected = true → world.client.subscribed = true →
    ∀ side book, world.client.books side = some book → book.status = .valid → ∀ orderHash, ∃ n,
      world.required ≤ n ∧ n ≤ world.log.length ∧
        book.orders orderHash = world.version n orderHash

/-- Publications with these offsets are later and later, and applied one after the other, starting
from a position, leave the books stale or lead to what is required: the first that is newer than the
position leaves a gap, or it follows on what was reached before. -/
def Follows (reaches : ℕ → Prop) (valid : Prop) (previous required : ℕ) (offsets : List ℕ) : Prop :=
  offsets.Pairwise (· < ·) ∧
    match offsets.filter (previous < ·) with
    | [] => valid → reaches required
    | first :: rest =>
        (previous ≠ 0 ∧ previous + 1 < first) ∨
          (reaches (first - 1) ∧ required ≤ (first :: rest).getLast (List.cons_ne_nil _ _))

/-- Received publications are ignored or buffered only while the valid books reach beyond them, and
applied only where they follow. -/
def World.Receives (world : World) (previous required : ℕ) (offsets : List ℕ) : Prop :=
  if world.client.isActive = true ∧ world.client.bootstrapping = false then
    Follows world.Reaches world.client.HasValid previous required offsets
  else world.client.HasValid → world.Reaches required

/-- When a step keeps the valid books current. -/
def Event.Safe (world : World) : Event → Prop
  -- A subscription that starts anew finds no valid book, or one with everything.
  | .subscribedAt _ _ => world.client.HasValid → world.Reaches world.required
  | .subscribedWith request offset =>
      ∀ pending, world.client.pending[request]? = some pending →
        ∀ since, pending.since = some since →
          world.Receives world.client.confirmSubscription.previousOffset
            (max world.openedAt
              (if since < offset then max world.received offset else world.received))
            (List.range' (since + 1) (offset - since))
  | .push offset => world.Receives world.client.previousOffset offset [offset]
  -- The snapshot of a watcher is not older than what was received.
  | .recovered _ n _ => world.client.subscribed = true → world.required ≤ n
  | .bootstrapped n _ =>
      Follows (· ≤ n) True world.client.previousOffset world.required
        (world.client.buffered.map Publication.offset)
  | _ => True

/-! ## Applying publications -/

/-- Every book is of a registered side, and a valid one is the table's. -/
structure Client.Coherent (client : Client) : Prop where
  rows : ∀ side book, client.books side = some book → book.status = .valid →
    book.orders = client.table.rows
  registered : ∀ side book, client.books side = some book → client.registered side = true

/-- These are publications of the venue. -/
def Genuine (log : List (List OrderUpdate)) (publications : List Publication) : Prop :=
  ∀ publication ∈ publications,
    0 < publication.offset ∧ log[publication.offset - 1]? = some publication.updates

namespace Client

variable {client : Client} {log : List (List OrderUpdate)}

theorem rebuildMarketBooks_coherent
    (h : ∀ side book, client.books side = some book → client.registered side = true) :
    client.rebuildMarketBooks.Coherent where
  rows side book hbook hvalid := by
    show book.orders = client.table.rows
    simp only [rebuildMarketBooks] at hbook
    split at hbook
    · rw [← Option.some.inj hbook]
    · next hnot => exact absurd (h side book hbook) hnot
  registered side book hbook := by
    simp only [rebuildMarketBooks] at hbook
    split at hbook
    · next hregistered => exact hregistered
    · exact h side book hbook

theorem Coherent.markMarketBooksStale (h : client.Coherent) :
    client.markMarketBooksStale.Coherent ∧ ¬client.markMarketBooksStale.HasValid := by
  have hstale : ∀ side book, client.markMarketBooksStale.books side = some book →
      client.registered side = true ∧ book.status = .stale := by
    intro side book hbook
    simp only [Client.markMarketBooksStale] at hbook
    split at hbook
    · next hregistered =>
      obtain ⟨old, _, rfl⟩ := Option.map_eq_some_iff.mp hbook
      exact ⟨hregistered, rfl⟩
    · next hnot => exact absurd (h.registered side book hbook) hnot
  refine ⟨⟨fun side book hbook hvalid => ?_, fun side book hbook => (hstale side book hbook).1⟩, ?_⟩
  · rw [(hstale side book hbook).2] at hvalid
    cases hvalid
  · rintro ⟨side, book, hbook, hvalid⟩
    rw [(hstale side book hbook).2] at hvalid
    cases hvalid

theorem Coherent.markBooksStale (h : client.Coherent) : client.markBooksStale.Coherent := by
  have hmarked : ∀ side book, client.markBooksStale.books side = some book →
      client.books side = some book ∨ client.registered side = true ∧ book.status = .stale := by
    intro side book hbook
    simp only [Client.markBooksStale] at hbook
    split at hbook
    · obtain ⟨old, hold, rfl⟩ := Option.map_eq_some_iff.mp hbook
      exact .inr ⟨h.registered side old hold, rfl⟩
    · exact .inl hbook
  refine ⟨fun side book hbook hvalid => ?_, fun side book hbook => ?_⟩
  · rcases hmarked side book hbook with hkept | ⟨_, hstale⟩
    · exact h.rows side book hkept hvalid
    · rw [hstale] at hvalid
      cases hvalid
  · rcases hmarked side book hbook with hkept | ⟨hregistered, _⟩
    · exact h.registered side book hkept
    · exact hregistered

/-- Applying publications touches the books, the table and the position only. -/
theorem applyPublicationNow_eq (client : Client) (publication : Publication) :
    ∃ books table position, client.applyPublicationNow publication =
      { client with books := books, table := table, position := position } := by
  unfold applyPublicationNow
  split
  · exact ⟨_, client.table, client.position, rfl⟩
  · split
    · exact ⟨client.books, client.table, client.position, rfl⟩
    · dsimp only
      split
      · exact ⟨_, _, _, rfl⟩
      · exact ⟨client.books, _, _, rfl⟩

theorem foldl_applyPublicationNow_eq (client : Client) (publications : List Publication) :
    ∃ books table position, publications.foldl applyPublicationNow client =
      { client with books := books, table := table, position := position } := by
  induction publications generalizing client with
  | nil => exact ⟨client.books, client.table, client.position, rfl⟩
  | cons publication rest ih =>
    obtain ⟨books, table, position, hone⟩ := client.applyPublicationNow_eq publication
    obtain ⟨books', table', position', hrest⟩ := ih (client.applyPublicationNow publication)
    refine ⟨books', table', position', ?_⟩
    rw [List.foldl_cons, hrest, hone]

theorem applyPublicationNow_of_gap {publication : Publication} (hpos : client.previousOffset ≠ 0)
    (hgap : client.previousOffset + 1 < publication.offset) :
    client.applyPublicationNow publication = client.markMarketBooksStale :=
  if_pos ⟨hpos, hgap⟩

theorem applyPublicationNow_of_old {publication : Publication} (hpos : 0 < publication.offset)
    (hold : publication.offset ≤ client.previousOffset) :
    client.applyPublicationNow publication = client := by
  unfold applyPublicationNow
  rw [if_neg (by omega), if_pos ⟨by omega, hold⟩]

/-- A publication that follows on what the table has is taken. -/
theorem applyPublicationNow_of_next (hgrow : Growing orderSchema log.flatten)
    {publication : Publication} (hcoherent : client.Coherent) (hpos : 0 < publication.offset)
    (hlog : log[publication.offset - 1]? = some publication.updates)
    (hnew : client.previousOffset < publication.offset)
    (hnext : client.previousOffset = 0 ∨ publication.offset = client.previousOffset + 1)
    (hcovers : Covers orderSchema log client.table (publication.offset - 1)) :
    (client.applyPublicationNow publication).Coherent ∧
      (client.applyPublicationNow publication).previousOffset = publication.offset ∧
      Covers orderSchema log (client.applyPublicationNow publication).table publication.offset := by
  have htaken := hcovers.take_next hgrow hlog
  rw [Nat.sub_add_cancel hpos] at htaken
  unfold applyPublicationNow
  rw [if_neg (by omega), if_neg (by omega)]
  dsimp only
  rw [if_pos (Nat.pos_iff_ne_zero.mp hpos)]
  split
  · exact ⟨rebuildMarketBooks_coherent hcoherent.registered, rfl, htaken⟩
  · next hsame =>
    have htable := Holder.takeAll_of_not_changes (Bool.eq_false_iff.mpr hsame)
    refine ⟨⟨fun side book hbook hvalid => ?_, hcoherent.registered⟩, rfl, htaken⟩
    show book.orders = (client.table.takeAll orderSchema publication.updates).rows
    rw [htable]
    exact hcoherent.rows side book hbook hvalid

/-- Behind a gap every later publication is a gap, too. -/
theorem foldl_of_gap {publications : List Publication} (hcoherent : client.Coherent)
    (hpos : client.previousOffset ≠ 0)
    (hgap : ∀ publication ∈ publications, client.previousOffset + 1 < publication.offset)
    (hstale : ¬client.HasValid) :
    (publications.foldl applyPublicationNow client).Coherent ∧
      ¬(publications.foldl applyPublicationNow client).HasValid := by
  induction publications generalizing client with
  | nil => exact ⟨hcoherent, hstale⟩
  | cons publication rest ih =>
    rw [List.foldl_cons, applyPublicationNow_of_gap hpos (hgap publication (by simp))]
    obtain ⟨hcoherent', hstale'⟩ := hcoherent.markMarketBooksStale
    exact ih hcoherent' hpos (fun other hother => hgap other (by simp [hother])) hstale'

theorem foldl_of_first_gap {publication : Publication} {rest : List Publication}
    (hcoherent : client.Coherent) (hpos : client.previousOffset ≠ 0)
    (hgap : client.previousOffset + 1 < publication.offset)
    (hlater : ∀ other ∈ rest, publication.offset < other.offset) :
    (rest.foldl applyPublicationNow (client.applyPublicationNow publication)).Coherent ∧
      ¬(rest.foldl applyPublicationNow (client.applyPublicationNow publication)).HasValid := by
  rw [applyPublicationNow_of_gap hpos hgap]
  obtain ⟨hcoherent', hstale⟩ := hcoherent.markMarketBooksStale
  refine foldl_of_gap hcoherent' hpos (fun other hother => ?_) hstale
  exact Nat.lt_trans hgap (hlater other hother)

/-- Publications after one that was taken are taken up to the first gap. -/
theorem foldl_of_next (hgrow : Growing orderSchema log.flatten) {publications : List Publication}
    (hcoherent : client.Coherent) (hgenuine : Genuine log publications)
    (hpos : client.previousOffset ≠ 0)
    (hnew : ∀ publication ∈ publications, client.previousOffset < publication.offset)
    (hlater : (publications.map Publication.offset).Pairwise (· < ·))
    (hcovers : Covers orderSchema log client.table client.previousOffset) :
    (publications.foldl applyPublicationNow client).Coherent ∧
      ((publications.foldl applyPublicationNow client).HasValid →
        Covers orderSchema log (publications.foldl applyPublicationNow client).table
          ((client.previousOffset :: publications.map Publication.offset).getLast
            (List.cons_ne_nil _ _))) := by
  induction publications generalizing client with
  | nil => exact ⟨hcoherent, fun _ => hcovers⟩
  | cons publication rest ih =>
    rw [List.map_cons, List.pairwise_cons] at hlater
    obtain ⟨hafter, hlater⟩ := hlater
    obtain ⟨hoffset, hlog⟩ := hgenuine publication (by simp)
    have hgenuine' : Genuine log rest := fun other hother => hgenuine other (by simp [hother])
    have hafter' : ∀ other ∈ rest, publication.offset < other.offset := fun other hother =>
      hafter _ (List.mem_map_of_mem hother)
    have hfirst := hnew publication (by simp)
    rw [List.foldl_cons]
    by_cases hgap : client.previousOffset + 1 < publication.offset
    · obtain ⟨hcoherent', hstale⟩ := foldl_of_first_gap hcoherent hpos hgap hafter'
      exact ⟨hcoherent', fun hvalid => absurd hvalid hstale⟩
    · have hnext : publication.offset = client.previousOffset + 1 := by omega
      have hcovers' : Covers orderSchema log client.table (publication.offset - 1) := by
        rw [hnext]
        exact hcovers
      obtain ⟨hcoherent', hprevious, htaken⟩ :=
        applyPublicationNow_of_next hgrow hcoherent hoffset hlog hfirst (.inr hnext) hcovers'
      have hlast := ih hcoherent' hgenuine' (by omega)
        (fun other hother => by rw [hprevious]; exact hafter' other hother) hlater
        (by rw [hprevious]; exact htaken)
      rw [hprevious] at hlast
      rw [List.map_cons, List.getLast_cons (List.cons_ne_nil _ _)]
      exact hlast

/-- **Publications that follow keep a valid book where it has to be.** -/
theorem foldl_of_follows (client : Client) (hgrow : Growing orderSchema log.flatten)
    {publications : List Publication} {required : ℕ} (hcoherent : client.Coherent)
    (hgenuine : Genuine log publications)
    (hfollows : Follows (Covers orderSchema log client.table) client.HasValid client.previousOffset
      required (publications.map Publication.offset)) :
    (publications.foldl applyPublicationNow client).Coherent ∧
      ((publications.foldl applyPublicationNow client).HasValid →
        Covers orderSchema log (publications.foldl applyPublicationNow client).table required) := by
  obtain ⟨hlater, hfirst⟩ := hfollows
  induction publications with
  | nil => exact ⟨hcoherent, hfirst⟩
  | cons publication rest ih =>
    obtain ⟨hoffset, hlog⟩ := hgenuine publication (by simp)
    have hgenuine' : Genuine log rest := fun other hother => hgenuine other (by simp [hother])
    rw [List.map_cons, List.pairwise_cons] at hlater
    obtain ⟨hafter, hlater⟩ := hlater
    rw [List.map_cons] at hfirst
    rw [List.foldl_cons]
    by_cases hold : publication.offset ≤ client.previousOffset
    · -- an old publication is skipped
      rw [applyPublicationNow_of_old hoffset hold]
      rw [List.filter_cons_of_neg (by simpa using hold)] at hfirst
      exact ih hgenuine' hlater hfirst
    · have hafter' : ∀ other ∈ rest, publication.offset < other.offset := fun other hother =>
        hafter _ (List.mem_map_of_mem hother)
      have hall : ∀ offset ∈ rest.map Publication.offset, client.previousOffset < offset :=
        fun offset hmem => by
          have hlt := hafter offset hmem
          omega
      have hkept : (rest.map Publication.offset).filter (client.previousOffset < ·) =
          rest.map Publication.offset :=
        List.filter_eq_self.mpr fun offset hmem => by simpa using hall offset hmem
      rw [List.filter_cons_of_pos (by simpa using hold), hkept] at hfirst
      rcases hfirst with ⟨hpos, hgap⟩ | ⟨hcovers, hrequired⟩
      · obtain ⟨hcoherent', hstale⟩ := foldl_of_first_gap hcoherent hpos hgap hafter'
        exact ⟨hcoherent', fun hvalid => absurd hvalid hstale⟩
      · by_cases hnext : client.previousOffset = 0 ∨
            publication.offset = client.previousOffset + 1
        · obtain ⟨hcoherent', hprevious, htaken⟩ :=
            applyPublicationNow_of_next hgrow hcoherent hoffset hlog (by omega) hnext hcovers
          obtain ⟨hcoherent', hlast⟩ := foldl_of_next hgrow hcoherent' hgenuine'
            (by omega)
            (fun other hother => by rw [hprevious]; exact hafter' other hother) hlater
            (by rw [hprevious]; exact htaken)
          rw [hprevious] at hlast
          exact ⟨hcoherent', fun hvalid => (hlast hvalid).mono hrequired⟩
        · have hpos : client.previousOffset ≠ 0 := fun h => hnext (.inl h)
          have hgap : client.previousOffset + 1 < publication.offset := by omega
          obtain ⟨hcoherent', hstale⟩ := foldl_of_first_gap hcoherent hpos hgap hafter'
          exact ⟨hcoherent', fun hvalid => absurd hvalid hstale⟩

/-! ## Receiving publications -/

theorem applyPublication_eq (client : Client) (publication : Publication) :
    client.applyPublication publication =
      if client.isActive = false then client
      else if client.bootstrapping = true then
        { client with buffered := client.buffered ++ [publication] }
      else client.applyPublicationNow publication := by
  unfold applyPublication
  cases client.isActive <;> simp

/-- An inactive market ignores publications. -/
theorem foldl_applyPublication_of_inactive (h : client.isActive = false)
    (publications : List Publication) : publications.foldl applyPublication client = client := by
  induction publications with
  | nil => rfl
  | cons publication rest ih => rw [List.foldl_cons, applyPublication_eq, if_pos h, ih]

theorem foldl_applyPublication_of_bootstrapping (client : Client) (h : client.isActive = true)
    (hboot : client.bootstrapping = true) (publications : List Publication) :
    publications.foldl applyPublication client =
      { client with buffered := client.buffered ++ publications } := by
  induction publications generalizing client with
  | nil => simp
  | cons publication rest ih =>
    rw [List.foldl_cons, applyPublication_eq, if_neg (by simp [h]), if_pos hboot,
      ih { client with buffered := client.buffered ++ [publication] } h hboot]
    simp

theorem foldl_applyPublication_of_live (h : client.isActive = true)
    (hboot : client.bootstrapping = false) (publications : List Publication) :
    publications.foldl applyPublication client =
      publications.foldl applyPublicationNow client := by
  induction publications generalizing client with
  | nil => rfl
  | cons publication rest ih =>
    rw [List.foldl_cons, List.foldl_cons, applyPublication_eq, if_neg (by simp [h]),
      if_neg (by simp [hboot])]
    obtain ⟨books, table, position, heq⟩ := client.applyPublicationNow_eq publication
    rw [heq]
    exact ih h hboot

end Client

/-! ## The invariant -/

/-- What every step keeps that is safe. -/
structure World.Sound (world : World) : Prop where
  growing : Growing orderSchema world.log.flatten
  coherent : world.client.Coherent
  buffered : Genuine world.log world.client.buffered
  open_of_connected : world.client.wsConnected = true → world.socketOpen = true
  connected_of_subscribed : world.client.subscribed = true → world.client.wsConnected = true
  reaches : world.client.subscribed = true → world.client.HasValid → world.Reaches world.required

theorem World.Sound.booksCurrent {world : World} (h : world.Sound) : world.BooksCurrent := by
  intro _ hsubscribed side book hbook hvalid orderHash
  obtain ⟨n, hrequired, hn, hrow, _⟩ := h.reaches hsubscribed ⟨side, book, hbook, hvalid⟩ orderHash
  exact ⟨n, hrequired, hn, by rw [h.coherent.rows side book hbook hvalid]; exact hrow⟩

theorem World.Sound.start : World.Sound {} where
  growing := ⟨by simp, by simp⟩
  coherent := ⟨(fun _ _ h => by cases h), (fun _ _ h => by cases h)⟩
  buffered := by simp [Genuine]
  open_of_connected h := by cases h
  connected_of_subscribed h := by cases h
  reaches h := by cases h

/-! ## Steps that leave the books alone -/

/-- The books and the table stay, and nothing is subscribed or buffered that was not. -/
structure Client.Frame (client client' : Client) : Prop where
  books : client'.books = client.books
  table : client'.table = client.table
  registered : ∀ side, client.registered side = true → client'.registered side = true
  buffered : ∀ publication ∈ client'.buffered, publication ∈ client.buffered
  wsConnected : client'.wsConnected = client.wsConnected
  subscribed : client'.subscribed = true → client.subscribed = true

theorem Client.Frame.refl (client : Client) : client.Frame client :=
  ⟨rfl, rfl, fun _ h => h, fun _ h => h, rfl, id⟩

theorem World.Sound.frame {world world' : World} (h : world.Sound) (hlog : world'.log = world.log)
    (hopen : world'.socketOpen = world.socketOpen) (hrequired : world'.required = world.required)
    (hframe : world.client.Frame world'.client) : world'.Sound where
  growing := by
    rw [hlog]
    exact h.growing
  coherent := by
    refine ⟨fun side book hbook hvalid => ?_, fun side book hbook => ?_⟩
    · rw [hframe.books] at hbook
      rw [hframe.table]
      exact h.coherent.rows side book hbook hvalid
    · rw [hframe.books] at hbook
      exact hframe.registered side (h.coherent.registered side book hbook)
  buffered publication hmem := by
    rw [hlog]
    exact h.buffered publication (hframe.buffered publication hmem)
  open_of_connected hconnected := by
    rw [hopen]
    exact h.open_of_connected (hframe.wsConnected ▸ hconnected)
  connected_of_subscribed hsubscribed := by
    rw [hframe.wsConnected]
    exact h.connected_of_subscribed (hframe.subscribed hsubscribed)
  reaches hsubscribed hvalid := by
    have hvalid' : world.client.HasValid := by
      unfold Client.HasValid at hvalid ⊢
      rwa [hframe.books] at hvalid
    have hreaches := h.reaches (hframe.subscribed hsubscribed) hvalid'
    unfold World.Reaches at hreaches ⊢
    rw [hlog, hframe.table, hrequired]
    exact hreaches

namespace Client

theorem frame_registerMarket (client : Client) (side : BinarySide) :
    client.Frame (client.registerMarket side) where
  books := rfl
  table := rfl
  registered other hother := by
    show Function.update client.registered side true other = true
    by_cases hsame : other = side
    · rw [hsame, Function.update_self]
    · rw [Function.update_of_ne hsame, hother]
  buffered _ h := h
  wsConnected := rfl
  subscribed := id

theorem frame_sendSubscriptions {client client' : Client} {now : ℕ}
    (h : client.sendSubscriptions now = some client') : client.Frame client' := by
  unfold sendSubscriptions at h
  split at h
  · cases h
  · rw [Option.some.injEq] at h
    split at h
    · subst h
      exact ⟨rfl, rfl, fun _ h => h, fun _ h => h, rfl, id⟩
    · subst h
      exact ⟨rfl, rfl, fun _ h => h, fun _ h => h, rfl, id⟩
  · rw [Option.some.injEq] at h
    split at h
    · subst h
      exact ⟨rfl, rfl, fun _ h => h, fun _ h => h, rfl, fun h => by cases h⟩
    · subst h
      exact ⟨rfl, rfl, fun _ h => h, fun _ h => h, rfl, id⟩

theorem frame_cancelledCleanup (client : Client) : client.Frame client.cancelledCleanup :=
  ⟨rfl, rfl, fun _ h => h, fun _ h => by simp [cancelledCleanup] at h, rfl, id⟩

/-- `sync_market_data_targets` leaves the books alone, or drops those of the market. -/
theorem syncMarketDataTargets_cases (client : Client) (targets : BinarySide → Bool) :
    client.Frame (client.syncMarketDataTargets targets) ∨
      ((∀ side, client.registered side = true →
          (client.syncMarketDataTargets targets).books side = none) ∧
        (∀ side, client.registered side = false →
          (client.syncMarketDataTargets targets).books side = client.books side) ∧
        (client.syncMarketDataTargets targets).buffered = [] ∧
        (client.syncMarketDataTargets targets).wsConnected = client.wsConnected ∧
        (client.syncMarketDataTargets targets).subscribed = client.subscribed) := by
  unfold syncMarketDataTargets
  dsimp only
  split
  · right
    split
    · exact ⟨fun _ h => if_pos h, fun _ h => if_neg (by simp [h]), rfl, rfl, rfl⟩
    · exact ⟨fun _ h => if_pos h, fun _ h => if_neg (by simp [h]), rfl, rfl, rfl⟩
  · left
    split
    · exact ⟨rfl, rfl, fun _ h => h, fun _ h => h, rfl, id⟩
    · exact ⟨rfl, rfl, fun _ h => h, fun _ h => h, rfl, id⟩

/-- An answer that has not recovered leaves the books and the table as they are. -/
theorem subscribedAt_eq (client : Client) (offset now : ℕ) :
    ∃ position bootstrap bootstrapping, client.subscribedAt offset now =
      { client with
        subscribed := true
        position := position
        bootstrap := bootstrap
        bootstrapping := bootstrapping } := by
  have hplaced : ∃ position, (if client.confirmSubscription.previousOffset < offset then
      { client.confirmSubscription with position := some ⟨true, offset⟩ }
      else client.confirmSubscription) =
        { client with subscribed := true, position := position } := by
    split
    · exact ⟨_, rfl⟩
    · exact ⟨_, rfl⟩
  obtain ⟨position, hplaced⟩ := hplaced
  unfold subscribedAt
  dsimp only
  rw [hplaced]
  split
  · unfold scheduleMarketBootstrap
    split
    · exact ⟨position, client.bootstrap, client.bootstrapping, rfl⟩
    · exact ⟨position, _, _, rfl⟩
  · exact ⟨position, client.bootstrap, client.bootstrapping, rfl⟩

end Client

namespace World

variable {world world' : World}

theorem genuine_publication {offset : ℕ} (hpos : 0 < offset) (hle : offset ≤ world.log.length) :
    0 < (world.publication offset).offset ∧
      world.log[(world.publication offset).offset - 1]? =
        some (world.publication offset).updates := by
  refine ⟨hpos, ?_⟩
  show world.log[offset - 1]? = some ((world.log[offset - 1]?).getD [])
  rw [List.getElem?_eq_getElem (by omega)]
  rfl

theorem genuine_publicationsBetween {since offset : ℕ} (hle : offset ≤ world.log.length) :
    Genuine world.log (world.publicationsBetween since offset) := by
  intro publication hmem
  obtain ⟨n, hn, rfl⟩ := List.mem_map.mp hmem
  rw [List.mem_range'_1] at hn
  exact genuine_publication (by omega) (by omega)

theorem offsets_publicationsBetween (world : World) (since offset : ℕ) :
    (world.publicationsBetween since offset).map Publication.offset =
      List.range' (since + 1) (offset - since) := by
  unfold publicationsBetween
  rw [List.map_map]
  exact List.map_id _

/-- What received publications do to a client that is coherent. -/
theorem receive (world : World) (hgrow : Growing orderSchema world.log.flatten)
    (hcoherent : world.client.Coherent) (hbuffered : Genuine world.log world.client.buffered)
    {publications : List Publication} (hgenuine : Genuine world.log publications) {required : ℕ}
    (hreceives : world.Receives world.client.previousOffset required
      (publications.map Publication.offset)) {client : Client}
    (hclient : publications.foldl Client.applyPublication world.client = client) :
    client.Coherent ∧ Genuine world.log client.buffered ∧
      client.wsConnected = world.client.wsConnected ∧
      client.subscribed = world.client.subscribed ∧
      (client.HasValid → Covers orderSchema world.log client.table required) := by
  subst hclient
  unfold Receives at hreceives
  by_cases hactive : world.client.isActive = true
  · by_cases hboot : world.client.bootstrapping = false
    · rw [if_pos ⟨hactive, hboot⟩] at hreceives
      rw [Client.foldl_applyPublication_of_live hactive hboot]
      obtain ⟨hcoherent', hreaches⟩ :=
        Client.foldl_of_follows world.client hgrow hcoherent hgenuine hreceives
      obtain ⟨books, table, position, heq⟩ :=
        world.client.foldl_applyPublicationNow_eq publications
      rw [heq] at hcoherent' hreaches ⊢
      exact ⟨hcoherent', hbuffered, rfl, rfl, hreaches⟩
    · rw [if_neg fun h => hboot h.2] at hreceives
      rw [Client.foldl_applyPublication_of_bootstrapping _ hactive (by simpa using hboot)]
      refine ⟨⟨hcoherent.rows, hcoherent.registered⟩, fun publication hmem => ?_, rfl, rfl,
        hreceives⟩
      rcases List.mem_append.mp hmem with hold | hnew
      · exact hbuffered publication hold
      · exact hgenuine publication hnew
  · rw [if_neg fun h => hactive h.1] at hreceives
    rw [Client.foldl_applyPublication_of_inactive (by simpa using hactive)]
    exact ⟨hcoherent, hbuffered, rfl, rfl, hreceives⟩

/-! ## Storing a snapshot -/

/-- The table of a snapshot after `n` publications has the versions after them. -/
theorem IsSnapshot.covers {n : ℕ} {orders : List OrderUpdate} (h : world.IsSnapshot n orders)
    (hn : n ≤ world.log.length) (client : Client) :
    Covers orderSchema world.log (client.bootstrapMarket orders).table n := by
  obtain ⟨hlatest, hlisted⟩ := h
  refine Covers.of_snapshot hn (fun orderHash => ?_) fun orderHash => ?_
  · show orders.reverse.find? (fun order => order.orderHash = orderHash && order.isActive) =
      current orderSchema (published world.log n) orderHash
    cases hfind : orders.reverse.find? fun order =>
        order.orderHash = orderHash && order.isActive with
    | some order =>
      have hmem := List.mem_of_find?_eq_some hfind
      have hmatch := List.find?_some hfind
      rw [Bool.and_eq_true_iff, decide_eq_true_iff] at hmatch
      obtain ⟨rfl, hactive⟩ := hmatch
      unfold current
      rw [hlatest order (List.mem_reverse.mp hmem)]
      exact (Option.filter_eq_some_iff.mpr ⟨rfl, hactive⟩).symm
    | none =>
      cases hcurrent : current orderSchema (published world.log n) orderHash with
      | none => rfl
      | some order =>
        obtain ⟨hsome, hactive⟩ := Option.filter_eq_some_iff.mp hcurrent
        obtain ⟨hmem, hhash⟩ := mem_of_latest hsome
        have horder : order.orderHash = orderHash := hhash
        have hin : order ∈ orders := hlisted order hmem (by rw [horder]; exact hcurrent)
        have hnot := List.find?_eq_none.mp hfind order (List.mem_reverse.mpr hin)
        have hlive : order.isActive = true := hactive
        simp [horder, hlive] at hnot
  · show (orders.reverse.find? fun order => order.orderHash = orderHash).map
        OrderUpdate.updateTime = _ ∨ _
    cases hfind : orders.reverse.find? fun order => order.orderHash = orderHash with
    | some order =>
      have hmem := List.mem_of_find?_eq_some hfind
      have hmatch := List.find?_some hfind
      rw [decide_eq_true_iff] at hmatch
      left
      rw [← hmatch, hlatest order (List.mem_reverse.mp hmem)]
      rfl
    | none =>
      right
      refine ⟨by
        show (orders.reverse.find? fun order => order.orderHash = orderHash).map _ = none
        rw [hfind]
        rfl, ?_⟩
      refine List.find?_eq_none.mpr fun order hmem => ?_
      have hnot := List.find?_eq_none.mp hfind order hmem
      simp only [decide_eq_true_eq] at hnot
      simp [hnot]

theorem bootstrapMarket_coherent {client : Client} (h : client.Coherent)
    (orders : List OrderUpdate) : (client.bootstrapMarket orders).Coherent :=
  Client.rebuildMarketBooks_coherent h.registered

/-- A bootstrap whose buffered publications follow on its snapshot leads to what is required. -/
theorem bootstrapSubscribedMarket_sound (h : world.Sound) {n : ℕ} {orders : List OrderUpdate}
    (hn : n ≤ world.log.length) (hsnapshot : world.IsSnapshot n orders)
    (hfollows : Follows (· ≤ n) True world.client.previousOffset world.required
      (world.client.buffered.map Publication.offset)) :
    World.Sound { world with client := world.client.bootstrapSubscribedMarket orders } := by
  have hcovers := hsnapshot.covers hn world.client
  obtain ⟨hlater, hfirst⟩ := hfollows
  have hfollows' : Follows
      (Covers orderSchema world.log (world.client.bootstrapMarket orders).table)
      (world.client.bootstrapMarket orders).HasValid world.client.previousOffset world.required
      (world.client.buffered.map Publication.offset) := by
    refine ⟨hlater, ?_⟩
    split
    · next hnone =>
      rw [hnone] at hfirst
      exact fun _ => hcovers.mono (hfirst trivial)
    · next first rest hsome =>
      rw [hsome] at hfirst
      exact hfirst.imp_right fun hboth => ⟨hcovers.mono hboth.1, hboth.2⟩
  have hcoherent := bootstrapMarket_coherent h.coherent orders
  obtain ⟨hcoherent', hreaches⟩ := Client.foldl_of_follows
    { world.client.bootstrapMarket orders with
      buffered := [], bootstrapping := false, bootstrap := none }
    h.growing ⟨hcoherent.rows, hcoherent.registered⟩ h.buffered hfollows'
  obtain ⟨books, table, position, heq⟩ := Client.foldl_applyPublicationNow_eq
    { world.client.bootstrapMarket orders with
      buffered := [], bootstrapping := false, bootstrap := none } world.client.buffered
  have hclient : world.client.bootstrapSubscribedMarket orders = _ := heq
  rw [heq] at hcoherent' hreaches
  rw [hclient]
  exact
    { growing := h.growing
      coherent := hcoherent'
      buffered := by simp [Genuine]
      open_of_connected := h.open_of_connected
      connected_of_subscribed := h.connected_of_subscribed
      reaches := fun _ => hreaches }

end World

/-! ## Every step -/

theorem step_publish {world : World} {updates : List OrderUpdate}
    (h : Growing orderSchema (world.log ++ [updates]).flatten) :
    step world (.publish updates) = some { world with log := world.log ++ [updates] } := if_pos h

theorem step_subscribedAt {world : World} {request offset : ℕ} {pending : PendingSubscription}
    (hpending : world.client.pending[request]? = some pending)
    (hconnected : world.client.wsConnected = true) (hsent : pending.sentAt ≤ offset)
    (hle : offset ≤ world.log.length) :
    step world (.subscribedAt request offset) =
      some { world with
        client :=
          { world.client.subscribedAt offset world.log.length with
            pending := world.client.pending.eraseIdx request } } := by
  simp only [step, hpending]
  exact if_pos ⟨hconnected, hsent, hle⟩

theorem step_bootstrapped {world : World} {sentAt n : ℕ} {orders : List OrderUpdate}
    (hboot : world.client.bootstrap = some sentAt) (hsent : sentAt ≤ n) (hn : n ≤ world.log.length)
    (hsnapshot : world.IsSnapshot n orders) :
    step world (.bootstrapped n orders) =
      some { world with client := world.client.bootstrapSubscribedMarket orders } := by
  simp only [step, hboot]
  exact if_pos ⟨hsent, hn, hsnapshot⟩

/-- It is safe to apply a publication that follows on what the table has. -/
theorem World.receives_next {world : World} {previous offset : ℕ}
    (hactive : world.client.isActive = true) (hboot : world.client.bootstrapping = false)
    (hnew : previous < offset) (hreaches : world.Reaches (offset - 1)) :
    world.Receives previous offset [offset] := by
  unfold World.Receives
  rw [if_pos ⟨hactive, hboot⟩]
  refine ⟨List.pairwise_singleton _ _, ?_⟩
  rw [List.filter_cons_of_pos (by simpa using hnew), List.filter_nil]
  exact .inr ⟨hreaches, Nat.le_refl offset⟩

/-- A safe step keeps the invariant. -/
theorem Event.step_sound (e : Event) {world world' : World} (h : world.Sound)
    (hsafe : e.Safe world) (hstep : step world e = some world') : world'.Sound := by
  cases e with
  | publish updates =>
    simp only [step, Option.ite_none_right_eq_some, Option.some.injEq] at hstep
    obtain ⟨hgrow, rfl⟩ := hstep
    refine ⟨hgrow, h.coherent, fun publication hmem => ?_, h.open_of_connected,
      h.connected_of_subscribed, fun hsubscribed hvalid => ?_⟩
    · obtain ⟨hpos, hlog⟩ := h.buffered publication hmem
      refine ⟨hpos, ?_⟩
      show (world.log ++ [updates])[publication.offset - 1]? = _
      rw [List.getElem?_append_left (List.getElem?_eq_some_iff.mp hlog).1, hlog]
    · exact (h.reaches hsubscribed hvalid).append [updates]
  | registerMarket side =>
    simp only [step, Option.some.injEq] at hstep
    subst hstep
    exact h.frame rfl rfl rfl (world.client.frame_registerMarket side)
  | watchOrderBook side =>
    simp only [step, Option.ite_none_right_eq_some, Option.some.injEq] at hstep
    obtain ⟨_, rfl⟩ := hstep
    exact h.frame rfl rfl rfl ⟨rfl, rfl, fun _ h => h, fun _ h => h, rfl, id⟩
  | watchReturns side =>
    simp only [step, Option.ite_none_right_eq_some, Option.some.injEq] at hstep
    obtain ⟨_, rfl⟩ := hstep
    exact h.frame rfl rfl rfl (Client.Frame.refl _)
  | recoverMarketBook side =>
    simp only [step, Option.ite_none_right_eq_some, Option.some.injEq] at hstep
    obtain ⟨_, rfl⟩ := hstep
    exact h.frame rfl rfl rfl (Client.Frame.refl _)
  | recovered request n orders =>
    simp only [step] at hstep
    split at hstep
    · cases hstep
    · simp only [Option.ite_none_right_eq_some, Option.some.injEq] at hstep
      obtain ⟨⟨_, hn, hsnapshot⟩, rfl⟩ := hstep
      exact
        { growing := h.growing
          coherent := World.bootstrapMarket_coherent h.coherent orders
          buffered := h.buffered
          open_of_connected := h.open_of_connected
          connected_of_subscribed := h.connected_of_subscribed
          reaches := fun hsubscribed _ =>
            (hsnapshot.covers hn world.client).mono (hsafe hsubscribed) }
  | recoveryFails request =>
    simp only [step, Option.some.injEq] at hstep
    subst hstep
    exact h.frame rfl rfl rfl (Client.Frame.refl _)
  | syncMarketDataTargets targets =>
    simp only [step, Option.some.injEq] at hstep
    subst hstep
    rcases world.client.syncMarketDataTargets_cases targets with
      hframe | ⟨hnone, hkept, hbuffered, hconnected, hsubscribed⟩
    · exact h.frame rfl rfl rfl hframe
    · -- the books of the market are dropped, and there were no others
      have hbooks : ∀ side, (world.client.syncMarketDataTargets targets).books side = none := by
        intro side
        by_cases hregistered : world.client.registered side = true
        · exact hnone side hregistered
        · rw [hkept side (by simpa using hregistered)]
          exact Option.eq_none_iff_forall_ne_some.mpr fun book hbook =>
            hregistered (h.coherent.registered side book hbook)
      refine ⟨h.growing, ⟨fun side book hbook => ?_, fun side book hbook => ?_⟩, ?_, ?_, ?_, ?_⟩
      · rw [hbooks side] at hbook
        cases hbook
      · rw [hbooks side] at hbook
        cases hbook
      · show Genuine world.log (world.client.syncMarketDataTargets targets).buffered
        rw [hbuffered]
        simp [Genuine]
      · show (world.client.syncMarketDataTargets targets).wsConnected = true → _
        rw [hconnected]
        exact h.open_of_connected
      · show (world.client.syncMarketDataTargets targets).subscribed = true →
          (world.client.syncMarketDataTargets targets).wsConnected = true
        rw [hconnected, hsubscribed]
        exact h.connected_of_subscribed
      · rintro _ ⟨side, book, hbook, _⟩
        rw [hbooks side] at hbook
        cases hbook
  | openSocket =>
    simp only [step, Option.ite_none_left_eq_some, Option.some.injEq] at hstep
    obtain ⟨hclosed, rfl⟩ := hstep
    have hnot : world.client.wsConnected ≠ true := fun hconnected =>
      hclosed (h.open_of_connected hconnected)
    split
    · refine ⟨h.growing, ⟨h.coherent.rows, h.coherent.registered⟩, h.buffered, fun _ => rfl,
        h.connected_of_subscribed, fun hsubscribed => ?_⟩
      exact absurd (h.connected_of_subscribed hsubscribed) hnot
    · refine ⟨h.growing, h.coherent, h.buffered, fun _ => rfl, h.connected_of_subscribed,
        fun hsubscribed => ?_⟩
      exact absurd (h.connected_of_subscribed hsubscribed) hnot
  | connected =>
    simp only [step, Option.ite_none_right_eq_some, Option.some.injEq] at hstep
    obtain ⟨⟨hopen, hnot⟩, rfl⟩ := hstep
    refine ⟨h.growing, ⟨h.coherent.rows, h.coherent.registered⟩, h.buffered, fun _ => hopen,
      fun _ => rfl, fun hsubscribed => ?_⟩
    have hconnected := h.connected_of_subscribed hsubscribed
    simp [hconnected] at hnot
  | sendSubscriptions =>
    simp only [step, Option.ite_none_right_eq_some] at hstep
    obtain ⟨_, hsent⟩ := hstep
    obtain ⟨client, hclient, rfl⟩ := Option.map_eq_some_iff.mp hsent
    exact h.frame rfl rfl rfl (Client.frame_sendSubscriptions hclient)
  | subscribedAt request offset =>
    simp only [step] at hstep
    split at hstep
    · cases hstep
    · simp only [Option.ite_none_right_eq_some, Option.some.injEq] at hstep
      obtain ⟨⟨hconnected, _⟩, rfl⟩ := hstep
      obtain ⟨position, bootstrap, bootstrapping, heq⟩ :=
        world.client.subscribedAt_eq offset world.log.length
      rw [heq]
      exact ⟨h.growing, ⟨h.coherent.rows, h.coherent.registered⟩, h.buffered, h.open_of_connected,
        fun _ => hconnected, fun _ => hsafe⟩
  | subscribedWith request offset =>
    simp only [step] at hstep
    split at hstep
    · cases hstep
    · next pending hpending =>
      split at hstep
      · cases hstep
      · next since hsince =>
        simp only [Option.ite_none_right_eq_some, Option.some.injEq] at hstep
        obtain ⟨⟨hconnected, _, hle⟩, rfl⟩ := hstep
        have hreceives := hsafe pending hpending since hsince
        rw [← world.offsets_publicationsBetween] at hreceives
        obtain ⟨hcoherent, hbuffered, hconnected', hsubscribed', hreaches⟩ := World.receive
          { world with client := world.client.confirmSubscription } h.growing
          ⟨h.coherent.rows, h.coherent.registered⟩ h.buffered
          (World.genuine_publicationsBetween hle) hreceives rfl
        exact ⟨h.growing, ⟨hcoherent.rows, hcoherent.registered⟩, hbuffered,
          fun _ => h.open_of_connected hconnected,
          fun _ => hconnected'.trans hconnected, fun _ => hreaches⟩
  | push offset =>
    simp only [step, Option.ite_none_right_eq_some, Option.some.injEq] at hstep
    obtain ⟨⟨hconnected, hrequired, hle⟩, rfl⟩ := hstep
    have hgenuine : Genuine world.log [world.publication offset] := by
      intro publication hmem
      rw [List.mem_singleton.mp hmem]
      exact World.genuine_publication (by omega) hle
    obtain ⟨hcoherent, hbuffered, hconnected', hsubscribed', hreaches⟩ :=
      world.receive h.growing h.coherent h.buffered hgenuine hsafe rfl
    refine ⟨h.growing, hcoherent, hbuffered, fun _ => h.open_of_connected hconnected,
      fun _ => hconnected'.trans hconnected, fun _ hvalid => ?_⟩
    have hmax : max world.openedAt offset = offset := by
      unfold World.required at hrequired
      omega
    show Covers orderSchema world.log _ (max world.openedAt offset)
    rw [hmax]
    exact hreaches hvalid
  | bootstrapped n orders =>
    simp only [step] at hstep
    split at hstep
    · cases hstep
    · simp only [Option.ite_none_right_eq_some, Option.some.injEq] at hstep
      obtain ⟨⟨_, hn, hsnapshot⟩, rfl⟩ := hstep
      exact World.bootstrapSubscribedMarket_sound h hn hsnapshot hsafe
  | bootstrapFails =>
    simp only [step, Option.ite_none_right_eq_some, Option.some.injEq] at hstep
    obtain ⟨_, rfl⟩ := hstep
    obtain ⟨hcoherent, hstale⟩ := h.coherent.markMarketBooksStale
    exact ⟨h.growing, ⟨hcoherent.rows, hcoherent.registered⟩,
      by simp [Genuine, Client.bootstrapFails, Client.markMarketBooksStale], h.open_of_connected,
      h.connected_of_subscribed, fun _ hvalid => absurd hvalid hstale⟩
  | cancelledCleanup =>
    simp only [step, Option.ite_none_left_eq_some, Option.some.injEq] at hstep
    obtain ⟨_, rfl⟩ := hstep
    exact h.frame rfl rfl rfl world.client.frame_cancelledCleanup
  | disconnected =>
    simp only [step, Option.ite_none_right_eq_some, Option.some.injEq] at hstep
    obtain ⟨_, rfl⟩ := hstep
    have hcoherent := h.coherent.markBooksStale
    exact ⟨h.growing, ⟨hcoherent.rows, hcoherent.registered⟩,
      by simp [Genuine, Client.disconnected, Client.markBooksStale], (fun h => by cases h),
      (fun h => by cases h), fun h => by cases h⟩

/-- **In a run of safe steps every valid book is current.**  A subscription that starts anew must
find no valid book that misses something, a publication must follow on what the table has or be one
that the valid books have, a watcher's snapshot must have everything received since it was asked
for, and what a bootstrap replays must follow on its snapshot. -/
theorem books_current_of_safe {hist : List World} {world : World}
    (hrun : Run step (fun world e => e.Safe world) {} hist world) : world.BooksCurrent :=
  (hrun.state_invariant World.Sound .start
    fun _ e _ hsound hsafe hstep => e.step_sound hsound hsafe hstep).booksCurrent

namespace BookExamples

def first : OrderUpdate := ⟨"0xa", 10, true⟩

def second : OrderUpdate := ⟨"0xb", 20, true⟩

def yesOnly : BinarySide → Bool := fun side => side = .yes

/-- The client with the token of one side as its target. -/
def synced : Client :=
  { registered := Function.update (fun _ => false) .yes true, tracked := yesOnly }

/-- The bootstrap has a snapshot with the first order, and the second is pushed. -/
theorem books_current_pushed :
    ∃ hist world, Run step (fun world e => e.Safe world) {} hist world ∧
      world.client.subscribed = true ∧ world.client.HasValid ∧ world.BooksCurrent := by
  have h0 : Run step (fun world e => e.Safe world) {} [] {} := .start
  have h1 := h0.next (a := Event.registerMarket .yes) trivial rfl
  have h2 : Run step (fun world e => e.Safe world) {} _ { client := synced } :=
    h1.next (a := Event.syncMarketDataTargets yesOnly) trivial rfl
  have h3 := h2.next (a := Event.publish [first]) trivial (step_publish (by decide +kernel))
  have h4 := h3.next (a := Event.openSocket) trivial rfl
  have h5 := h4.next (a := Event.connected) trivial rfl
  have h6 := h5.next (a := Event.subscribedAt 0 1) (fun ⟨_, _, h, _⟩ => by cases h)
    (step_subscribedAt rfl rfl (by decide) (by decide))
  have h7 := h6.next (a := Event.bootstrapped 1 [first]) ⟨by decide, fun _ => by decide⟩
    (step_bootstrapped rfl (by decide) (by decide) (by decide +kernel))
  have h8 := h7.next (a := Event.publish [second]) trivial (step_publish (by decide +kernel))
  -- what the table has after the bootstrap is what the invariant says of the valid book
  have hsound := h8.state_invariant World.Sound .start
    fun _ e _ hsound hsafe hstep => e.step_sound hsound hsafe hstep
  have hreaches := hsound.reaches rfl ⟨.yes, _, rfl, rfl⟩
  have h9 := h8.next (a := Event.push 2) (World.receives_next rfl rfl (by decide) hreaches) rfl
  exact ⟨_, _, h9, rfl, ⟨.yes, _, rfl, rfl⟩, books_current_of_safe h9⟩

/-- The bootstrap fails, and the second order is pushed. -/
def afterFailure : List Event :=
  [.registerMarket .yes, .syncMarketDataTargets yesOnly, .publish [first], .openSocket, .connected,
    .subscribedAt 0 1, .bootstrapFails, .publish [second], .push 2]

/-- The publication is applied to a table that was never filled: the book is valid and lacks an
order that was listed before the connection. -/
theorem patched_book_lacks_order :
    ∃ hist world, Run step anyAction {} hist world ∧ ¬world.BooksCurrent := by
  have hexec : ((exec step anyAction {} afterFailure).any fun world =>
      world.client.wsConnected && world.client.subscribed && decide (world.required = 2) &&
        decide (world.log = [[first], [second]]) &&
        (world.client.books .yes).any fun book =>
          decide (book.status = .valid) && decide (book.orders "0xa" = none)) = true := by
    decide +kernel
  obtain ⟨world, hworld, hfields⟩ := (Option.any_eq_true _ _).mp hexec
  obtain ⟨hist, hrun⟩ := Run.of_exec hworld
  refine ⟨hist, world, hrun, fun hcurrent => ?_⟩
  simp only [Bool.and_eq_true_iff, decide_eq_true_iff] at hfields
  obtain ⟨⟨⟨⟨hconnected, hsubscribed⟩, hrequired⟩, hlog⟩, hany⟩ := hfields
  obtain ⟨book, hbook, hbookFields⟩ := (Option.any_eq_true _ _).mp hany
  simp only [Bool.and_eq_true_iff, decide_eq_true_iff] at hbookFields
  obtain ⟨hvalid, hmissing⟩ := hbookFields
  obtain ⟨n, hn, hle, hversion⟩ := hcurrent hconnected hsubscribed .yes book hbook hvalid "0xa"
  rw [hrequired] at hn
  rw [hlog] at hle
  have htwo : n = 2 := Nat.le_antisymm hle hn
  rw [hmissing, World.version, hlog, htwo] at hversion
  revert hversion
  decide +kernel

end BookExamples

end ArbitrageEngine.Connectors.SxBet
