/-
# ArbitrageEngine.Connectors.SxBetV3Books -- the two books of one SX Bet V3 market

SX Bet V3 publishes whole books.  A REST snapshot and a publication are applied in the same way: the
version has to be newer than the last one, or the same while a book is stale, and then the books of
both sides are built from the one payload.  When the connection is lost, or is to be renewed, the
books are marked stale, and become valid again with what is applied next.

Only the books of tracked tokens are marked.  The book of the other side stays valid over the
reconnect where its token is not tracked, and is served as soon as it is watched.
-/
import ArbitrageEngine.Connectors.OrderBooks
import ArbitrageEngine.Connectors.SxBetV3Fills
import ArbitrageEngine.Lib.DigitText
import ArbitrageEngine.Lib.Runs
import Mathlib.Data.String.Basic
import Mathlib.Logic.Function.Basic

namespace ArbitrageEngine.SxBetV3

open Lib.Runs MarketData

/-! ## Payloads -/

/-- A level of a payload; none is a text that is no number, and a missing field is 0. -/
structure RawLevel where
  percentageOdds : Option Dec
  size : Option Dec
deriving DecidableEq

/-- A payload with the books of a market. -/
structure BookPayload where
  /-- Does `marketHash` name the market, up to case? -/
  sameMarket : Bool := true
  version : String
  outcomeOne : Option (List RawLevel)
  outcomeTwo : Option (List RawLevel)
deriving DecidableEq

/-- The book of a side, with the version in its `raw_payload`. -/
structure VersionedBook where
  bids : List Level
  asks : List Level
  version : String
  status : MarketDataStatus := .valid
deriving DecidableEq

/-- `_v3_maker_levels`; none is the error for a text that is no number. -/
def makerLevels (assetDecimals : ℕ) (asAsk : Bool) : List RawLevel → Option (List Level)
  | [] => some []
  | raw :: rest =>
      match raw.percentageOdds, raw.size with
      | some odds, some size =>
          let makerProbability := oddsUnitsToProbability odds
          let makerStake := fromBaseUnits size assetDecimals
          if makerProbability ≤ 0 ∨ 1 ≤ makerProbability ∨ makerStake ≤ 0 then
            makerLevels assetDecimals asAsk rest
          else
            (makerLevels assetDecimals asAsk rest).map fun levels =>
              ⟨if asAsk then Dec.sub 1 makerProbability else makerProbability,
                Dec.div makerStake makerProbability⟩ :: levels
      | _, _ => none

/-- `_order_book_from_v3_maker_snapshot`. -/
def orderBookFromSnapshot (assetDecimals : ℕ) (payload : BookPayload) (side : BinarySide) :
    Option VersionedBook :=
  let (desired, opposite) :=
    match side with
    | .yes => (payload.outcomeOne, payload.outcomeTwo)
    | .no => (payload.outcomeTwo, payload.outcomeOne)
  (makerLevels assetDecimals false (desired.getD [])).bind fun bids =>
    (makerLevels assetDecimals true (opposite.getD [])).map fun asks =>
      { bids := sortedBids bids
        asks := sortedAsks asks
        version := payload.version }

/-! ## The client -/

/-- What is registered for the market: the side that was registered first, the sides with a token
of their own -- an internal one stands for the other -- and the decimals of the asset. -/
structure Market where
  first : BinarySide
  listed : BinarySide → Bool
  assetDecimals : ℕ

/-- What `_subscription_queue` asks of the sender. -/
inductive SubscriptionAction
  | subscribe
  | unsubscribe
deriving DecidableEq

/-- The client, as far as it concerns the market.  `tracked` are the sides whose token is tracked,
`sent` is what the sender has in its own set, and `pending` says of each subscription without an
answer whether it recovers.  A message that raises ends the loop that receives; the connection
counts as connected until that has cleaned up. -/
structure Client where
  tracked : BinarySide → Bool := fun _ => false
  books : BinarySide → Option VersionedBook := fun _ => none
  /-- The entry of `_book_versions`. -/
  version : Option String := none
  /-- The entry of `_subscription_positions`. -/
  position : Option (String × ℕ) := none
  receiving : Bool := false
  wsConnected : Bool := false
  subscribed : Bool := false
  sent : Bool := false
  queue : List SubscriptionAction := []
  pending : List Bool := []
  /-- Is a task in `_bootstrap_tasks`? -/
  bootstrapping : Bool := false
  /-- The calls of `watch_order_book` that wait for a snapshot. -/
  watchers : List BinarySide := []

/-- A publication; none is a payload that is no object. -/
structure Publication where
  offset : ℕ
  data : Option BookPayload

/-- How a payload is taken. -/
inductive Taken
  | applied
  | refused
  | raised
deriving DecidableEq

namespace Client

variable (market : Market) (client : Client)

/-- Is the market in `_active_market_hashes`? -/
def isActive : Bool :=
  (client.tracked .yes && market.listed .yes) || (client.tracked .no && market.listed .no)

/-- `_market_books_are_stale`. -/
def marketBooksAreStale : Bool :=
  [BinarySide.yes, .no].any fun side => (client.books side).any fun book => book.status = .stale

/-- `_mark_market_books_stale`. -/
def markMarketBooksStale : Client :=
  { client with
    books := fun side => (client.books side).map fun book => { book with status := .stale } }

/-- `_mark_books_stale`. -/
def markBooksStale : Client :=
  { client with
    books := fun side =>
      if client.tracked side && market.listed side then
        (client.books side).map fun book => { book with status := .stale }
      else client.books side }

/-- The loop of `_apply_book_snapshot` over the sides of the market. -/
def storeBooks (payload : BookPayload) : List BinarySide → Client → Client × Taken
  | [], client => (client, .applied)
  | side :: rest, client =>
      match orderBookFromSnapshot market.assetDecimals payload side with
      | none => (client, .raised)
      | some book =>
          storeBooks payload rest
            { client with books := Function.update client.books side (some book) }

/-- Is the version of a payload too old? -/
def outdated (version : String) : Bool :=
  client.version.any fun current =>
    decide (version < current) || (decide (version = current) && !client.marketBooksAreStale)

/-- `_apply_book_snapshot`. -/
def applyBookSnapshot (payload : BookPayload) : Client × Taken :=
  if !payload.sameMarket then (client, .raised)
  else if payload.version = "" then (client, .raised)
  else if client.outdated payload.version then (client, .refused)
  else if payload.outcomeOne = none ∨ payload.outcomeTwo = none then (client, .raised)
  else
    storeBooks market payload [market.first, market.first.opposite]
      { client with version := some payload.version }

/-- The offset of the position, or 0. -/
def previousOffset : ℕ := (client.position.map Prod.snd).getD 0

/-- `_apply_publication`. -/
def applyPublication (publication : Publication) : Client × Taken :=
  if !client.isActive market then (client, .refused)
  else if publication.offset ≠ 0 ∧ publication.offset ≤ client.previousOffset then
    (client, .refused)
  else
    match publication.data with
    | none => (client.markMarketBooksStale, .refused)
    | some payload =>
        let (taken, result) := client.applyBookSnapshot market payload
        if result = .raised ∨ publication.offset = 0 then (taken, result)
        else
          ({ taken with
              position :=
                some ((client.position.map Prod.fst).getD "", publication.offset) }, result)

/-- `_prune_market`. -/
def pruneMarket : Client :=
  { client with
    bootstrapping := false
    version := none
    position := none
    books := fun _ => none }

/-- `sync_market_data_targets`. -/
def syncMarketDataTargets (targets : BinarySide → Bool) : Client :=
  let synced : Client := { client with tracked := targets }
  if client.isActive market && !synced.isActive market then
    { synced.pruneMarket with queue := client.queue ++ [.unsubscribe] }
  else if client.wsConnected && !client.isActive market && synced.isActive market then
    { synced with queue := client.queue ++ [.subscribe] }
  else synced

/-- `_send_market_subscription`. -/
def sendMarketSubscription : Client :=
  { client with pending := client.pending ++ [client.position.isSome], sent := true }

/-- The loop body of `_send_subscriptions`. -/
def sendSubscriptions : Option Client :=
  match client.queue with
  | [] => none
  | .subscribe :: rest =>
      let popped : Client := { client with queue := rest }
      some (if client.sent then popped else popped.sendMarketSubscription)
  | .unsubscribe :: rest =>
      let popped : Client := { client with queue := rest }
      some (if client.sent then { popped with sent := false, subscribed := false } else popped)

/-- What an answer to a subscription does first: it names the epoch. -/
def confirmSubscription (epoch : String) : Client :=
  { client with
    subscribed := true
    position :=
      if epoch = "" then client.position
      else
        some (epoch, match client.position with
          | some (oldEpoch, offset) => if oldEpoch = epoch then offset else 0
          | none => 0) }

/-- `_handle_centrifugo_message`, for an answer that has not recovered. -/
def subscribedAt (epoch : String) (offset : ℕ) : Client :=
  let confirmed := client.confirmSubscription epoch
  let current := confirmed.position.getD (epoch, 0)
  { confirmed with
    position := some (if current.1 = "" then epoch else current.1, max current.2 offset)
    bootstrapping := client.bootstrapping || client.isActive market }

/-- The `finally` of `_run_order_book_ws`. -/
def disconnected : Client :=
  markBooksStale market
    { client with
      receiving := false
      wsConnected := false
      subscribed := false
      sent := false
      pending := [] }

/-- `_cached_book_is_fresh`; `recent` says whether the book was built in the last two seconds. -/
def cachedBook (side : BinarySide) (recent : Bool) : Option VersionedBook :=
  (client.books side).filter fun book =>
    book.status = .valid && ((client.wsConnected && client.subscribed) || recent)

end Client

/-! ## Runs -/

/-- The client, and what has happened to it: the payload of the last books that were stored, the
versions of the books stored since the last reconnect, and the versions that were accepted since the
market was last dropped, the newest first. -/
structure World where
  client : Client := {}
  source : Option BookPayload := none
  confirmed : List String := []
  accepted : List String := []

namespace World

variable (market : Market) (world : World)

/-- The world after a payload was taken. -/
def take (payload : BookPayload) (client : Client) (result : Taken) : World :=
  { client := client
    source := if result = .applied then some payload else world.source
    confirmed :=
      if result = .applied then payload.version :: world.confirmed else world.confirmed
    accepted :=
      if client.version = world.client.version then world.accepted
      else payload.version :: world.accepted }

/-- A snapshot is applied. -/
def applySnapshot (payload : BookPayload) : World × Taken :=
  let (client, result) := world.client.applyBookSnapshot market payload
  (world.take payload client result, result)

/-- A publication is applied. -/
def applyPublication (publication : Publication) : World × Taken :=
  let (client, result) := world.client.applyPublication market publication
  match publication.data with
  | none => ({ world with client := client }, result)
  | some payload => (world.take payload client result, result)

/-- The publications of an answer that has recovered, up to the first that raises. -/
def applyPublications : List Publication → World → World × Taken
  | [], world => (world, .applied)
  | publication :: rest, world =>
      match world.applyPublication market publication with
      | (taken, .raised) => (taken, .raised)
      | (taken, _) => applyPublications rest taken

/-- The connection is lost, or renewed: what was confirmed before counts no longer. -/
def reconnecting (client : Client) : World := { world with client := client, confirmed := [] }

/-- A message that raises is the last one of its connection. -/
def received (result : World × Taken) : World :=
  if result.2 = .raised then
    { result.1 with client := { result.1.client with receiving := false } }
  else result.1

end World

/-- What can happen. -/
inductive Event
  /-- `watch_order_book` is called; `recent` says whether the book is recent. -/
  | watchOrderBook (side : BinarySide) (recent : Bool)
  /-- A watcher has its snapshot, or an error. -/
  | recovered (payload : Option BookPayload)
  | bootstrapped (payload : Option BookPayload)
  | syncMarketDataTargets (targets : BinarySide → Bool)
  | connected
  | sendSubscriptions
  /-- The venue answers a subscription. -/
  | subscribedAt (request : ℕ) (epoch : String) (offset : ℕ)
  | subscribedWith (request : ℕ) (epoch : String) (publications : List Publication)
  | push (publication : Publication)
  | disconnected
  | reconnectMarketData

/-- One step. -/
def step (market : Market) (world : World) : Event → Option World
  | .watchOrderBook side recent =>
      if market.listed side then
        some { world with
          client :=
            { world.client with
              tracked := Function.update world.client.tracked side true
              watchers :=
                if (world.client.cachedBook side recent).isSome then world.client.watchers
                else world.client.watchers ++ [side] } }
      else none
  | .recovered payload =>
      match world.client.watchers with
      | [] => none
      | _ :: rest =>
          let waiting : World := { world with client := { world.client with watchers := rest } }
          match payload with
          | none => some waiting
          | some payload => some (waiting.applySnapshot market payload).1
  | .bootstrapped payload =>
      if world.client.bootstrapping then
        let done : World :=
          { world with client := { world.client with bootstrapping := false } }
        match payload with
        | none => some { done with client := done.client.markMarketBooksStale }
        | some payload =>
            match done.applySnapshot market payload with
            | (taken, .raised) => some { taken with client := taken.client.markMarketBooksStale }
            | (taken, _) => some taken
      else none
  | .syncMarketDataTargets targets =>
      let synced := world.client.syncMarketDataTargets market targets
      some { world with
        client := synced
        accepted := if synced.version = none then [] else world.accepted }
  | .connected =>
      if world.client.wsConnected then none
      else
        let sent :=
          if world.client.isActive market then world.client.sendMarketSubscription
          else world.client
        some { world with client := { sent with receiving := true, wsConnected := true } }
  | .sendSubscriptions =>
      if world.client.wsConnected then
        world.client.sendSubscriptions.map fun client => { world with client := client }
      else none
  | .subscribedAt request epoch offset =>
      if world.client.receiving ∧ request < world.client.pending.length then
        some { world with
          client :=
            { world.client.subscribedAt market epoch offset with
              pending := world.client.pending.eraseIdx request } }
      else none
  | .subscribedWith request epoch publications =>
      if world.client.receiving ∧ world.client.pending[request]? = some true then
        let confirmed : World :=
          { world with
            client :=
              { world.client.confirmSubscription epoch with
                pending := world.client.pending.eraseIdx request } }
        some (World.received (World.applyPublications market publications confirmed))
      else none
  | .push publication =>
      if world.client.receiving then
        some (World.received (world.applyPublication market publication))
      else none
  | .disconnected => some (world.reconnecting (world.client.disconnected market))
  | .reconnectMarketData => some (world.reconnecting (world.client.markBooksStale market))

/-! ## What is asked of the books -/

/-- The books of both sides are built from one payload, the accepted versions do not fall, and a
book that is served as valid has a version that was stored since the last reconnect. -/
structure World.Trusted (market : Market) (world : World) : Prop where
  samePayload : ∀ side book, world.client.books side = some book →
    ∃ payload built, world.source = some payload ∧
      orderBookFromSnapshot market.assetDecimals payload side = some built ∧
      book = { built with status := book.status }
  versions : world.accepted.Pairwise fun newer older => older ≤ newer
  latest : world.accepted.head? = world.client.version
  confirmed : ∀ side recent book, market.listed side = true →
    world.client.cachedBook side recent = some book → book.version ∈ world.confirmed

/-- Every valid book of a side with a token is the book of a tracked one. -/
def Client.ValidTracked (market : Market) (client : Client) : Prop :=
  ∀ side book, market.listed side = true → client.books side = some book →
    book.status = .valid → client.tracked side = true

/-- A step that does not reconnect while a valid book is not tracked. -/
def Event.Safe (market : Market) (world : World) : Event → Prop
  | .disconnected | .reconnectMarketData => world.client.ValidTracked market
  | _ => True

/-! ## One payload for both books -/

/-- Whether the levels of a list are numbers does not depend on what they are read as. -/
theorem isSome_makerLevels (assetDecimals : ℕ) (asAsk asAsk' : Bool) (levels : List RawLevel) :
    (makerLevels assetDecimals asAsk levels).isSome =
      (makerLevels assetDecimals asAsk' levels).isSome := by
  induction levels with
  | nil => rfl
  | cons raw rest ih =>
      unfold makerLevels
      cases raw.percentageOdds with
      | none => rfl
      | some odds =>
          cases raw.size with
          | none => rfl
          | some size =>
              dsimp only
              split
              · exact ih
              · simpa using ih

/-- A payload gives books for both sides, or for none. -/
theorem isSome_orderBookFromSnapshot (assetDecimals : ℕ) (payload : BookPayload)
    (side : BinarySide) :
    (orderBookFromSnapshot assetDecimals payload side.opposite).isSome =
      (orderBookFromSnapshot assetDecimals payload side).isSome := by
  have hone := isSome_makerLevels assetDecimals true false (payload.outcomeOne.getD [])
  have htwo := isSome_makerLevels assetDecimals true false (payload.outcomeTwo.getD [])
  unfold orderBookFromSnapshot
  cases side with
  | yes =>
      dsimp only [BinarySide.opposite]
      cases hbids : makerLevels assetDecimals false (payload.outcomeOne.getD []) with
      | none => simp_all
      | some bids =>
          cases hasks : makerLevels assetDecimals false (payload.outcomeTwo.getD []) with
          | none => simp_all
          | some asks => simp_all
  | no =>
      dsimp only [BinarySide.opposite]
      cases hbids : makerLevels assetDecimals false (payload.outcomeOne.getD []) with
      | none => simp_all
      | some bids =>
          cases hasks : makerLevels assetDecimals false (payload.outcomeTwo.getD []) with
          | none => simp_all
          | some asks => simp_all

section Taking

variable {market : Market} {client client' : Client} {payload : BookPayload} {result : Taken}

/-- The payload is newer than what was accepted, or the same. -/
def Current (client : Client) (payload : BookPayload) : Prop :=
  ∀ current, client.version = some current → current ≤ payload.version

/-- What taking a payload makes of the books and of the version. -/
inductive Takes (market : Market) (client : Client) (payload : BookPayload) (client' : Client) :
    Taken → Prop
  | kept {result : Taken} (hresult : result ≠ .applied) (hbooks : client'.books = client.books)
      (hversion : client'.version = client.version) : Takes market client payload client' result
  /-- The version is noted before the levels are read. -/
  | noted (hcurrent : Current client payload) (hbooks : client'.books = client.books)
      (hversion : client'.version = some payload.version) :
      Takes market client payload client' .raised
  | stored (hcurrent : Current client payload)
      (hbuilt : ∀ side, (orderBookFromSnapshot market.assetDecimals payload side).isSome)
      (hbooks : client'.books = orderBookFromSnapshot market.assetDecimals payload)
      (hversion : client'.version = some payload.version) :
      Takes market client payload client' .applied

theorem current_of_not_outdated (h : client.outdated payload.version = false) :
    Current client payload := by
  intro current hcurrent
  unfold Client.outdated at h
  rw [hcurrent] at h
  simp only [Option.any_some, Bool.or_eq_false_iff, decide_eq_false_iff_not] at h
  exact not_lt.mp h.1

theorem storeBooks_takes (hcurrent : Current client payload) :
    Takes market client payload
      (Client.storeBooks market payload [market.first, market.first.opposite]
        { client with version := some payload.version }).1
      (Client.storeBooks market payload [market.first, market.first.opposite]
        { client with version := some payload.version }).2 := by
  have hsides := isSome_orderBookFromSnapshot market.assetDecimals payload market.first
  simp only [Client.storeBooks]
  cases hfirst : orderBookFromSnapshot market.assetDecimals payload market.first with
  | none => exact .noted hcurrent rfl rfl
  | some book =>
      rw [hfirst] at hsides
      obtain ⟨other, hother⟩ := Option.isSome_iff_exists.mp hsides
      rw [hother]
      have hall : ∀ side, side = market.first ∨ side = market.first.opposite := by
        intro side
        cases side <;> cases market.first <;> simp [BinarySide.opposite]
      refine .stored hcurrent ?_ ?_ rfl
      · intro side
        rcases hall side with rfl | rfl
        · rw [hfirst]
          rfl
        · rw [hother]
          rfl
      · funext side
        dsimp only
        by_cases hlast : side = market.first.opposite
        · rw [hlast, Function.update_self, hother]
        · have hside : side = market.first := (hall side).resolve_right hlast
          rw [Function.update_of_ne hlast, hside, Function.update_self, hfirst]

/-- What `_apply_book_snapshot` does. -/
theorem applyBookSnapshot_takes (market : Market) (client : Client) (payload : BookPayload) :
    Takes market client payload (client.applyBookSnapshot market payload).1
      (client.applyBookSnapshot market payload).2 := by
  unfold Client.applyBookSnapshot
  split
  · exact .kept nofun rfl rfl
  · split
    · exact .kept nofun rfl rfl
    · split
      · exact .kept nofun rfl rfl
      · next houtdated =>
          split
          · exact .kept nofun rfl rfl
          · exact storeBooks_takes (current_of_not_outdated (Bool.eq_false_iff.mpr houtdated))

theorem Takes.position (h : Takes market client payload client' result)
    (position : Option (String × ℕ)) :
    Takes market client payload { client' with position := position } result := by
  cases h with
  | kept hresult hbooks hversion => exact .kept hresult hbooks hversion
  | noted hcurrent hbooks hversion => exact .noted hcurrent hbooks hversion
  | stored hcurrent hbuilt hbooks hversion => exact .stored hcurrent hbuilt hbooks hversion

/-- What `_apply_publication` does with a payload. -/
theorem applyPublication_takes (market : Market) (client : Client) (offset : ℕ)
    (payload : BookPayload) :
    Takes market client payload (client.applyPublication market ⟨offset, some payload⟩).1
      (client.applyPublication market ⟨offset, some payload⟩).2 := by
  unfold Client.applyPublication
  split
  · exact .kept nofun rfl rfl
  · split
    · exact .kept nofun rfl rfl
    · have htakes := applyBookSnapshot_takes market client payload
      dsimp only
      split
      · exact htakes
      · exact htakes.position _

end Taking

/-! ## The invariant -/

/-- What holds of every world: every valid book of a side with a token counts, whether it would be
served now or not. -/
structure World.Sound (market : Market) (world : World) : Prop where
  samePayload : ∀ side book, world.client.books side = some book →
    ∃ payload built, world.source = some payload ∧
      orderBookFromSnapshot market.assetDecimals payload side = some built ∧
      book = { built with status := book.status }
  versions : world.accepted.Pairwise fun newer older => older ≤ newer
  latest : world.accepted.head? = world.client.version
  valid : ∀ side book, market.listed side = true → world.client.books side = some book →
    book.status = .valid → book.version ∈ world.confirmed

variable {market : Market} {world : World}

theorem World.Sound.trusted (h : world.Sound market) : world.Trusted market where
  samePayload := h.samePayload
  versions := h.versions
  latest := h.latest
  confirmed := by
    intro side recent book hlisted hserved
    obtain ⟨hbook, hfresh⟩ := Option.filter_eq_some_iff.mp hserved
    rw [Bool.and_eq_true_iff] at hfresh
    exact h.valid side book hlisted hbook (of_decide_eq_true hfresh.1)

/-- A client that has neither books nor a version. -/
theorem World.Sound.start {client : Client} (hbooks : client.books = fun _ => none)
    (hversion : client.version = none) : World.Sound market { client := client } where
  samePayload := by
    intro side book hbook
    rw [show client.books side = none from congrFun hbooks side] at hbook
    cases hbook
  versions := .nil
  latest := hversion.symm
  valid := by
    intro side book _ hbook
    rw [show client.books side = none from congrFun hbooks side] at hbook
    cases hbook

/-- The fields of the client besides the books and the version play no role. -/
theorem World.Sound.frame (h : world.Sound market) {client : Client}
    (hbooks : client.books = world.client.books)
    (hversion : client.version = world.client.version) :
    World.Sound market { world with client := client } where
  samePayload := by
    intro side book hbook
    exact h.samePayload side book (by rw [← hbooks]; exact hbook)
  versions := h.versions
  latest := h.latest.trans hversion.symm
  valid := by
    intro side book hlisted hbook
    exact h.valid side book hlisted (by rw [← hbooks]; exact hbook)

/-- Taking a payload. -/
theorem World.Sound.take (h : world.Sound market) {payload : BookPayload} {client : Client}
    {result : Taken} (htakes : Takes market world.client payload client result) :
    (world.take payload client result).Sound market := by
  have hversions : Current world.client payload →
      client.version = some payload.version →
        (world.take payload client result).accepted.Pairwise (fun newer older => older ≤ newer) ∧
          (world.take payload client result).accepted.head? = client.version := by
    intro hcurrent hversion
    unfold World.take
    dsimp only
    split
    · next hsame => exact ⟨h.versions, h.latest.trans hsame.symm⟩
    · refine ⟨List.pairwise_cons.mpr ⟨?_, h.versions⟩, hversion.symm⟩
      intro older holder
      -- the newest of the accepted versions is the current one
      cases haccepted : world.accepted with
      | nil =>
          rw [haccepted] at holder
          cases holder
      | cons newest rest =>
          have hlatest := h.latest
          have hpairwise := h.versions
          rw [haccepted] at holder hlatest hpairwise
          have hnewest : newest ≤ payload.version := hcurrent newest hlatest.symm
          rcases List.mem_cons.mp holder with rfl | hrest
          · exact hnewest
          · exact le_trans ((List.pairwise_cons.mp hpairwise).1 older hrest) hnewest
  cases htakes with
  | kept hresult hbooks hversion =>
      unfold World.take
      rw [if_neg hresult, if_neg hresult, if_pos hversion]
      exact h.frame hbooks hversion
  | noted hcurrent hbooks hversion =>
      obtain ⟨hpairwise, hlatest⟩ := hversions hcurrent hversion
      refine ⟨?_, hpairwise, hlatest, ?_⟩
      · intro side book hbook
        exact h.samePayload side book (by rw [← hbooks]; exact hbook)
      · intro side book hlisted hbook
        exact h.valid side book hlisted (by rw [← hbooks]; exact hbook)
  | stored hcurrent hbuilt hbooks hversion =>
      obtain ⟨hpairwise, hlatest⟩ := hversions hcurrent hversion
      have hbuilt : ∀ side book, client.books side = some book →
          orderBookFromSnapshot market.assetDecimals payload side = some book := by
        intro side book hbook
        rw [← hbooks]
        exact hbook
      refine ⟨?_, hpairwise, hlatest, ?_⟩
      · intro side book hbook
        exact ⟨payload, book, rfl, hbuilt side book hbook, rfl⟩
      · intro side book _ hbook _
        have hmade := hbuilt side book hbook
        -- a book carries the version of its payload
        have hbookVersion : book.version = payload.version := by
          unfold orderBookFromSnapshot at hmade
          obtain ⟨bids, -, hasks⟩ := Option.bind_eq_some_iff.mp hmade
          obtain ⟨asks, -, rfl⟩ := Option.map_eq_some_iff.mp hasks
          rfl
        rw [hbookVersion]
        exact List.mem_cons_self

/-- All books of the market are marked stale. -/
theorem World.Sound.markMarketBooksStale (h : world.Sound market) :
    World.Sound market { world with client := world.client.markMarketBooksStale } where
  samePayload := by
    intro side book hbook
    obtain ⟨old, hold, rfl⟩ := Option.map_eq_some_iff.mp hbook
    obtain ⟨payload, built, hsource, hbuilt, heq⟩ := h.samePayload side old hold
    refine ⟨payload, built, hsource, hbuilt, ?_⟩
    rw [heq]
  versions := h.versions
  latest := h.latest
  valid := by
    intro side book _ hbook hvalid
    obtain ⟨old, -, rfl⟩ := Option.map_eq_some_iff.mp hbook
    cases hvalid

/-- The books of the tracked tokens are marked stale, and there is no other valid one. -/
theorem World.Sound.markBooksStale (h : world.Sound market)
    (htracked : world.client.ValidTracked market) :
    (world.reconnecting (world.client.markBooksStale market)).Sound market := by
  have hbooks : ∀ side book, (world.client.markBooksStale market).books side = some book →
      ∃ old, world.client.books side = some old ∧
        (book = { old with status := .stale } ∨
          (book = old ∧ (world.client.tracked side && market.listed side) = false)) := by
    intro side book hbook
    unfold Client.markBooksStale at hbook
    dsimp only at hbook
    split at hbook
    · obtain ⟨old, hold, rfl⟩ := Option.map_eq_some_iff.mp hbook
      exact ⟨old, hold, Or.inl rfl⟩
    · next huntracked => exact ⟨book, hbook, Or.inr ⟨rfl, Bool.eq_false_iff.mpr huntracked⟩⟩
  refine ⟨?_, h.versions, h.latest, ?_⟩
  · intro side book hbook
    obtain ⟨old, hold, heq⟩ := hbooks side book hbook
    obtain ⟨payload, built, hsource, hbuilt, hstatus⟩ := h.samePayload side old hold
    refine ⟨payload, built, hsource, hbuilt, ?_⟩
    rcases heq with rfl | ⟨rfl, -⟩
    · rw [hstatus]
    · exact hstatus
  · intro side book hlisted hbook hvalid
    obtain ⟨old, hold, rfl | ⟨rfl, huntracked⟩⟩ := hbooks side book hbook
    · cases hvalid
    · rw [htracked side book hlisted hold hvalid, hlisted] at huntracked
      cases huntracked

/-- The connection is given up in the same way. -/
theorem World.Sound.disconnected (h : world.Sound market)
    (htracked : world.client.ValidTracked market) :
    (world.reconnecting (world.client.disconnected market)).Sound market := by
  have hclosed : World.Sound market
      { world with
        client :=
          { world.client with
            receiving := false
            wsConnected := false
            subscribed := false
            sent := false
            pending := [] } } := h.frame rfl rfl
  exact hclosed.markBooksStale htracked

/-- One message. -/
theorem World.Sound.applyPublication (h : world.Sound market) (publication : Publication) :
    (world.applyPublication market publication).1.Sound market := by
  obtain ⟨offset, data⟩ := publication
  cases data with
  | some payload => exact h.take (applyPublication_takes market world.client offset payload)
  | none =>
      unfold World.applyPublication Client.applyPublication
      dsimp only
      split
      · exact h.frame rfl rfl
      · split
        · exact h.frame rfl rfl
        · exact h.markMarketBooksStale

theorem World.Sound.applyPublications (publications : List Publication) :
    ∀ {world : World}, world.Sound market →
      (World.applyPublications market publications world).1.Sound market := by
  induction publications with
  | nil => intro world h; exact h
  | cons publication rest ih =>
      intro world h
      have hone := h.applyPublication publication
      unfold World.applyPublications
      cases happlied : world.applyPublication market publication with
      | mk taken result =>
          rw [happlied] at hone
          cases result with
          | raised => exact hone
          | applied | refused => exact ih hone

theorem World.Sound.received {result : World × Taken} (h : result.1.Sound market) :
    (World.received result).Sound market := by
  unfold World.received
  split
  · exact h.frame rfl rfl
  · exact h

theorem World.Sound.applySnapshot (h : world.Sound market) (payload : BookPayload) :
    (world.applySnapshot market payload).1.Sound market :=
  h.take (applyBookSnapshot_takes market world.client payload)

/-- Other targets: the market is kept, or dropped with its books and its version. -/
theorem World.Sound.syncMarketDataTargets (h : world.Sound market) (targets : BinarySide → Bool) :
    World.Sound market
      { world with
        client := world.client.syncMarketDataTargets market targets
        accepted :=
          if (world.client.syncMarketDataTargets market targets).version = none then []
          else world.accepted } := by
  have hkept : ∀ client : Client, client.books = world.client.books →
      client.version = world.client.version →
        World.Sound market
          { world with
            client := client
            accepted := if client.version = none then [] else world.accepted } := by
    intro client hbooks hversion
    have hframe := h.frame hbooks hversion
    split
    · next hnone =>
        refine ⟨hframe.samePayload, .nil, hnone.symm, hframe.valid⟩
    · exact hframe
  unfold Client.syncMarketDataTargets
  dsimp only
  split
  · refine ⟨?_, .nil, rfl, ?_⟩
    · intro side book hbook
      cases hbook
    · intro side book _ hbook
      cases hbook
  · split
    · exact hkept _ rfl rfl
    · exact hkept _ rfl rfl

/-- **A safe step keeps the invariant.** -/
theorem World.Sound.step (h : world.Sound market) {e : Event} (hsafe : e.Safe market world)
    {world' : World} (hstep : step market world e = some world') : world'.Sound market := by
  cases e with
  | watchOrderBook side recent =>
      simp only [SxBetV3.step, Option.ite_none_right_eq_some, Option.some.injEq] at hstep
      obtain ⟨-, rfl⟩ := hstep
      exact h.frame rfl rfl
  | recovered payload =>
      dsimp only [SxBetV3.step] at hstep
      cases hwatchers : world.client.watchers with
      | nil =>
          rw [hwatchers] at hstep
          cases hstep
      | cons side rest =>
          rw [hwatchers] at hstep
          have hwaiting : World.Sound market
              { world with client := { world.client with watchers := rest } } := h.frame rfl rfl
          cases payload with
          | none =>
              cases hstep
              exact hwaiting
          | some payload =>
              cases hstep
              exact hwaiting.applySnapshot payload
  | bootstrapped payload =>
      simp only [SxBetV3.step, Option.ite_none_right_eq_some] at hstep
      obtain ⟨-, hstep⟩ := hstep
      have hdone : World.Sound market
          { world with client := { world.client with bootstrapping := false } } := h.frame rfl rfl
      cases payload with
      | none =>
          cases hstep
          exact hdone.markMarketBooksStale
      | some payload =>
          have hone := hdone.applySnapshot payload
          dsimp only at hstep
          split at hstep
          · next taken htaken =>
              cases hstep
              rw [htaken] at hone
              exact hone.markMarketBooksStale
          · next taken result _ htaken =>
              cases hstep
              rw [htaken] at hone
              exact hone
  | syncMarketDataTargets targets =>
      cases hstep
      exact h.syncMarketDataTargets targets
  | connected =>
      dsimp only [SxBetV3.step] at hstep
      split at hstep
      · cases hstep
      · cases hstep
        split
        · exact h.frame rfl rfl
        · exact h.frame rfl rfl
  | sendSubscriptions =>
      simp only [SxBetV3.step, Option.ite_none_right_eq_some] at hstep
      obtain ⟨-, hstep⟩ := hstep
      obtain ⟨client, hsent, rfl⟩ := Option.map_eq_some_iff.mp hstep
      unfold Client.sendSubscriptions at hsent
      split at hsent
      · cases hsent
      · cases hsent
        split
        · exact h.frame rfl rfl
        · exact h.frame rfl rfl
      · cases hsent
        split
        · exact h.frame rfl rfl
        · exact h.frame rfl rfl
  | subscribedAt request epoch offset =>
      simp only [SxBetV3.step, Option.ite_none_right_eq_some, Option.some.injEq] at hstep
      obtain ⟨-, rfl⟩ := hstep
      exact h.frame rfl rfl
  | subscribedWith request epoch publications =>
      simp only [SxBetV3.step, Option.ite_none_right_eq_some, Option.some.injEq] at hstep
      obtain ⟨-, rfl⟩ := hstep
      have hconfirmed : World.Sound market
          { world with
            client :=
              { world.client.confirmSubscription epoch with
                pending := world.client.pending.eraseIdx request } } := h.frame rfl rfl
      exact (World.Sound.applyPublications publications hconfirmed).received
  | push publication =>
      simp only [SxBetV3.step, Option.ite_none_right_eq_some, Option.some.injEq] at hstep
      obtain ⟨-, rfl⟩ := hstep
      exact (h.applyPublication publication).received
  | disconnected =>
      cases hstep
      exact h.disconnected hsafe
  | reconnectMarketData =>
      cases hstep
      exact h.markBooksStale hsafe

/-! ## The books of a run -/

/-- A version of so many digits. -/
def FixedWidth (width : ℕ) (version : String) : Prop :=
  version.toList.length = width ∧ ∀ c ∈ version.toList, c.isDigit = true

/-- `_version_as_sequence`, of a version of digits. -/
def versionAsSequence (version : String) : ℕ := Nat.ofDigitChars 10 version.toList 0

theorem versionAsSequence_le {width : ℕ} {older newer : String} (holder : FixedWidth width older)
    (hnewer : FixedWidth width newer) (h : older ≤ newer) :
    versionAsSequence older ≤ versionAsSequence newer := by
  rw [String.le_iff_toList_le] at h
  have hwidth : older.toList.length = newer.toList.length := holder.1.trans hnewer.1.symm
  exact Lib.DigitText.ofDigitChars_le hwidth holder.2 hnewer.2 (not_lt.mpr h)

/-- **In a run that reconnects only while every valid book is tracked, the books can be trusted**:
both sides come from the payload that was stored last, the accepted versions do not fall -- as
texts, and as numbers where all have one width -- and what is served as valid was stored since the
last reconnect. -/
theorem books_trusted (market : Market) {hist : List World} {world : World}
    (hrun : Run (step market) (fun world e => e.Safe market world) {} hist world) :
    world.Trusted market ∧
      ∀ width, (∀ version ∈ world.accepted, FixedWidth width version) →
        world.accepted.Pairwise fun newer older =>
          versionAsSequence older ≤ versionAsSequence newer := by
  have hsound : world.Sound market :=
    hrun.state_invariant (World.Sound market) (World.Sound.start rfl rfl)
      fun _ _ _ hsound hsafe hstep => hsound.step hsafe hstep
  refine ⟨hsound.trusted, fun width hwidth => ?_⟩
  apply hsound.versions.imp_of_mem
  intro newer older hnewer holder hle
  exact versionAsSequence_le (hwidth older holder) (hwidth newer hnewer) hle

namespace BookExamples

/-- A market both sides of which have a token. -/
def bothListed : Market := ⟨.yes, fun _ => true, 6⟩

/-- A payload with one maker on the second outcome. -/
def payload (version : String) : BookPayload where
  version := version
  outcomeOne := some []
  outcomeTwo := some [⟨some (45 * 10 ^ 18), some 4500000⟩]

/-- Only the first side is watched; the connection is lost before the first snapshot's version is
confirmed again. -/
def reconnected : List Event :=
  [.watchOrderBook .yes false, .recovered (some (payload "001")), .connected, .disconnected,
    .connected, .subscribedAt 0 "e" 7, .watchOrderBook .no false]

/-- The book of the other side is served as valid on the new connection, and nothing was stored on
it. -/
theorem untracked_book_served :
    ∃ hist world, Run (step bothListed) anyAction {} hist world ∧ ¬ world.Trusted bothListed := by
  have hexec : ((exec (step bothListed) anyAction {} reconnected).any fun world =>
      (world.client.cachedBook .no false).isSome && decide (world.confirmed = [])) = true := by
    decide +kernel
  obtain ⟨world, hworld, hfields⟩ := (Option.any_eq_true _ _).mp hexec
  obtain ⟨hist, hrun⟩ := Run.of_exec hworld
  refine ⟨hist, world, hrun, fun htrusted => ?_⟩
  simp only [Bool.and_eq_true, decide_eq_true_eq] at hfields
  obtain ⟨book, hserved⟩ := Option.isSome_iff_exists.mp hfields.1
  have hconfirmed := htrusted.confirmed .no false book rfl hserved
  rw [hfields.2] at hconfirmed
  cases hconfirmed

/-- A payload without makers. -/
def emptyPayload (version : String) : BookPayload := ⟨true, version, some [], some []⟩

/-- Both sides are watched, the connection is lost, and the same version is applied again. -/
theorem watched_books_trusted :
    ∃ hist world, Run (step bothListed) (fun world e => e.Safe bothListed world) {} hist world ∧
      world.confirmed = ["001"] ∧ world.Trusted bothListed := by
  have h0 : Run (step bothListed) (fun world e => e.Safe bothListed world) {} [] {} := .start
  have h1 := h0.next (a := Event.watchOrderBook .yes false) trivial rfl
  have h2 := h1.next (a := Event.watchOrderBook .no false) trivial rfl
  have h3 := h2.next (a := Event.recovered (some (emptyPayload "001"))) trivial rfl
  have h4 := h3.next (a := Event.connected) trivial rfl
  have h5 := h4.next (a := Event.disconnected) (fun side _ _ _ _ => by cases side <;> rfl) rfl
  have h6 := h5.next (a := Event.recovered (some (emptyPayload "001"))) trivial rfl
  exact ⟨_, _, h6, by decide +kernel, (books_trusted bothListed h6).1⟩

end BookExamples

end ArbitrageEngine.SxBetV3
