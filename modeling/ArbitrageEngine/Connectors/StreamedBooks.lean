/-
# ArbitrageEngine.Connectors.StreamedBooks -- the order book streams of Polymarket and Myriad

What each connector does with a message: which tokens it is for, which of them get a full book and
which have their cached book changed.  Polymarket reads the tokens off the message; a Myriad channel
is a market, and the message is read once for each outcome of it.

A message that raises ends the connection, so the messages here are those that do not.  A REST
request is dropped with its target, so its response is for a target.
-/
import ArbitrageEngine.Connectors.DeltaBooks

namespace ArbitrageEngine

open Lib Lib.Replay Lib.Runs MarketData

/-! ## Polymarket -/

namespace Polymarket

/-- One item of a payload.  `token` is its `_asset_id`, `levels` its bids and asks where it has both
lists, `changes` the list under its three names. -/
structure Item where
  token : String := ""
  levels : Option (List Level × List Level) := none
  sequence : Option ℤ := none
  changes : Option (List Change) := none
deriving DecidableEq

/-- `_order_book_from_payload`, and the book of `_fetch_order_book_http`, which has no sequence. -/
def orderBookFromPayload (bids asks : List Level) (sequence : Option ℤ) : Book where
  bids := (sortedBids bids).take 10
  asks := (sortedAsks asks).take 10
  sequence := sequence

/-- `_apply_price_changes`. -/
def applyPriceChanges (tokenId : String) : Book → List Change → Book :=
  applyChanges (fun change => change.token.all (· = tokenId)) (List.take 10)

/-- The tokens a change message names, its own included. -/
def namedTokens (item : Item) (changes : List Change) : List String :=
  (item.token :: changes.map (·.assetId)).filter (· ≠ "")

/-- `_handle_ws_payload` for one item. -/
def handleItem (cache : BookCache) (item : Item) : Delivery :=
  match item.levels with
  | some (bids, asks) =>
      if (cache.targets.get? item.token).isSome then
        .full item.token (orderBookFromPayload bids asks item.sequence)
      else handleChanges cache item
  | none => handleChanges cache item
where
  /-- What is not a full book of a target. -/
  handleChanges (cache : BookCache) (item : Item) : Delivery :=
    let changes := item.changes.getD []
    { treatment := fun _ => if item.changes.isSome then .change else .nothing
      changes := changes
      tokens := cache.targets.keys.filter (· ∈ namedTokens item changes)
      nodup := cache.targets.nodup.filter _ }

inductive Event
  | item (item : Item)
  /-- `_fetch_order_book_http` has its response. -/
  | restSnapshot (tokenId : String) (bids asks : List Level)
  /-- `_register_token`, which `watch_order_book` calls. -/
  | register (tokenId : String)
  | syncMarketDataTargets (tokenIds : List String)
  | disconnected

def action (cache : BookCache) : Event → Option CacheAction
  | .item item => some (.deliver (handleItem cache item))
  | .restSnapshot tokenId bids asks =>
      if (cache.targets.get? tokenId).isSome then
        some (.deliver (.full tokenId (orderBookFromPayload bids asks none)))
      else none
  | .register tokenId => some (.register tokenId)
  | .syncMarketDataTargets tokenIds =>
      some (.retarget ((tokenIds.filter (· ≠ "")).foldl (fun targets tokenId =>
        targets.set tokenId ()) (Dict.empty : TokenSet)))
  | .disconnected => some .lose

theorem addressed_action {s : Watched} {event : Event} {act : CacheAction}
    (h : action s.cache event = some act) : s.Addressed act := by
  cases event with
  | item item =>
      cases h
      have hchanges : ∀ token ∈ (handleItem.handleChanges s.cache item).tokens,
          (s.cache.targets.get? token).isSome := by
        intro token hmem
        rw [← Dict.mem_keys_iff]
        exact (List.mem_filter.mp hmem).1
      intro token hmem
      unfold handleItem at hmem
      split at hmem
      · split at hmem
        · next htarget =>
            rw [List.mem_singleton.mp hmem]
            exact htarget
        · exact hchanges token hmem
      · exact hchanges token hmem
  | restSnapshot tokenId bids asks =>
      simp only [action, Option.ite_none_right_eq_some] at h
      obtain ⟨htarget, h⟩ := h
      cases h
      intro token hmem
      rw [List.mem_singleton.mp hmem]
      exact htarget
  | register tokenId => cases h; trivial
  | syncMarketDataTargets tokenIds => cases h; trivial
  | disconnected => cases h; trivial

end Polymarket

/-! ## Myriad -/

namespace Myriad

/-- The levels of a book in a payload. -/
structure RawBook where
  bids : List Level := []
  asks : List Level := []
deriving DecidableEq

/-- The data of a publication: its market, the books it may carry for either outcome and for itself,
its number and its changes. -/
structure Publication where
  channel : String
  networkId : Option ℤ
  marketId : Option ℤ
  yesBook : Option RawBook := none
  noBook : Option RawBook := none
  ownBook : RawBook := {}
  sequence : Option ℤ := none
  changes : Option (List Change) := none
deriving DecidableEq

/-- `_order_book_from_payload`. -/
def orderBookFromPayload (data : Publication) (side : Option BinarySide) : Book :=
  let book := match side with
    | some .yes => data.yesBook.getD data.ownBook
    | some .no => data.noBook.getD data.ownBook
    | none => data.ownBook
  { bids := sortedBids book.bids, asks := sortedAsks book.asks, sequence := data.sequence }

/-- `_outcome_id`. -/
def outcomeId : BinarySide → ℤ
  | .yes => 0
  | .no => 1

/-- `_apply_orderbook_changes`. -/
def applyOrderbookChanges (outcomeSide : Option BinarySide) : Book → List Change → Book :=
  applyChanges (fun change => match outcomeSide, change.outcome with
    | some side, some outcome => outcome = outcomeId side
    | _, _ => true) id

section Texts

-- What `int` makes of a text.
variable (int : String → Option ℤ)

/-- `_parse_token_id`; `none` where it raises. -/
def parseTokenId (tokenId : String) : Option (ℤ × Option BinarySide) :=
  let characters := tokenId.toList
  match characters.dropWhile (· ≠ ':') with
  | [] => (int tokenId).map (·, none)
  | _ :: rawSide =>
      let side := if String.ofList rawSide = "YES" then some BinarySide.yes
        else if String.ofList rawSide = "NO" then some BinarySide.no
        else none
      match int (String.ofList (characters.takeWhile (· ≠ ':'))), side with
      | some marketId, some side => some (marketId, some side)
      | _, _ => none

/-- `_parse_orderbook_channel`. -/
def parseOrderbookChannel (channel : String) : Option (ℤ × ℤ) :=
  match (channel.toList.splitOn ':').map String.ofList with
  | [kind, network, market] =>
      if kind = "orderbook" then
        match int network, int market with
        | some networkId, some marketId => some (networkId, marketId)
        | _, _ => none
      else none
  | _ => none

variable (chainId : ℤ)

/-- The channel of a market. -/
def channelOf (marketId : ℤ) : String :=
  "orderbook:" ++ toString chainId ++ ":" ++ toString marketId

/-- `_channel_tokens[channel]`: every target is filed under the channel of its market. -/
def channelTokens (cache : BookCache) (channel : String) : List String :=
  cache.targets.keys.filter fun tokenId =>
    (parseTokenId int tokenId).any fun parsed => channelOf chainId parsed.1 = channel

/-- The body of the loop of `_handle_ws_payload`. -/
def treatment (data : Publication) (expectedMarketId : ℤ) (tokenId : String) : Treatment :=
  match parseTokenId int tokenId with
  | none => .nothing
  | some (tokenMarketId, side) =>
      if tokenMarketId ≠ expectedMarketId then .nothing
      else
        let book := orderBookFromPayload data side
        if book.bids ≠ [] ∨ book.asks ≠ [] then .snapshot book
        else if data.changes.isSome then .change else .nothing

/-- `_handle_ws_payload`, after the push was taken apart. -/
def handlePublication (cache : BookCache) (data : Publication) : Delivery :=
  match parseOrderbookChannel int data.channel with
  | none => ⟨fun _ => .nothing, [], [], List.nodup_nil⟩
  | some (networkId, marketId) =>
      -- `_payload_matches_channel`
      if data.networkId = some networkId ∧ data.marketId = some marketId then
        { treatment := treatment int data marketId
          changes := data.changes.getD []
          tokens := channelTokens int chainId cache data.channel
          nodup := cache.targets.nodup.filter _ }
      else ⟨fun _ => .nothing, [], [], List.nodup_nil⟩

/-- The book of a token is changed for the token's outcome. -/
def applyFor (tokenId : String) : Book → List Change → Book :=
  applyOrderbookChanges ((parseTokenId int tokenId).bind (·.2))

inductive Event
  | publication (data : Publication)
  /-- `_request_and_store_order_book` stores its response. -/
  | restSnapshot (tokenId : String) (book : Book)
  /-- `watch_order_book`. -/
  | register (tokenId : String)
  | syncMarketDataTargets (tokenIds : List String)
  | disconnected

/-- The targets after `sync_market_data_targets`; a token that does not parse raises, and those
after it are not added. -/
def syncedTargets (targets : TokenSet) (tokenIds : List String) : TokenSet :=
  let normalized := tokenIds.filter (· ≠ "")
  let kept : TokenSet := targets.filter fun entry => entry.1 ∈ normalized
  let added := (normalized.filter fun tokenId => (targets.get? tokenId).isNone).takeWhile
    fun tokenId => (parseTokenId int tokenId).isSome
  added.foldl (fun targets tokenId => targets.set tokenId ()) kept

def action (cache : BookCache) : Event → Option CacheAction
  | .publication data => some (.deliver (handlePublication int chainId cache data))
  | .restSnapshot tokenId book =>
      if (cache.targets.get? tokenId).isSome then some (.deliver (.full tokenId book)) else none
  | .register tokenId =>
      if (parseTokenId int tokenId).isSome then some (.register tokenId) else none
  | .syncMarketDataTargets tokenIds => some (.retarget (syncedTargets int cache.targets tokenIds))
  | .disconnected => some .lose

variable {int chainId}

theorem addressed_action {s : Watched} {event : Event} {act : CacheAction}
    (h : action int chainId s.cache event = some act) : s.Addressed act := by
  cases event with
  | publication data =>
      cases h
      intro token hmem
      unfold handlePublication at hmem
      split at hmem
      · cases hmem
      · split at hmem
        · rw [← Dict.mem_keys_iff]
          exact (List.mem_filter.mp hmem).1
        · cases hmem
  | restSnapshot tokenId book =>
      simp only [action, Option.ite_none_right_eq_some] at h
      obtain ⟨htarget, h⟩ := h
      cases h
      intro token hmem
      rw [List.mem_singleton.mp hmem]
      exact htarget
  | register tokenId =>
      simp only [action, Option.ite_none_right_eq_some] at h
      obtain ⟨-, h⟩ := h
      cases h
      trivial
  | syncMarketDataTargets tokenIds => cases h; trivial
  | disconnected => cases h; trivial

end Texts

end Myriad

/-! ## Runs -/

namespace MarketData

variable {ε : Type}

/-- The machine of a connector: an event acts on the cache if it is possible there. -/
def eventStep (apply : String → Book → List Change → Book)
    (action : BookCache → ε → Option CacheAction) (s : Watched) (event : ε) : Option Watched :=
  (action s.cache event).map (s.take apply)

/-- The changes of the event can be placed on the books they reach. -/
def Admitted (action : BookCache → ε → Option CacheAction) (s : Watched) (event : ε) : Prop :=
  ∀ act, action s.cache event = some act → s.Placed act

instance (action : BookCache → ε → Option CacheAction) (s : Watched) (event : ε) :
    Decidable (Admitted action s event) :=
  match h : action s.cache event with
  | none => isTrue fun act hact => by rw [h] at hact; cases hact
  | some act => decidable_of_iff (s.Placed act)
      ⟨fun hplaced act' hact => by rw [h] at hact; cases hact; exact hplaced,
        fun hall => hall act h⟩

/-- Every valid book is a full book of this connection with the messages of its token applied, from
the number after the full book's own up to the number of the book, without a gap. -/
def Continuous (apply : String → Book → List Change → Book) (s : Watched) : Prop :=
  ∀ token book, s.cache.books.get? token = some book → book.status = .valid →
    ∃ full ∈ s.log.snapshotsOf token, ∃ applied : List (List Change),
      (∀ message ∈ applied, message ∈ s.log.messagesOf token)
        ∧ Consecutive full.sequence (applied.map nextSequence)
        ∧ applied.foldl (apply token) full = book
        ∧ ∀ first last k, full.sequence = some first → book.sequence = some last → first < k →
          k ≤ last → ∃ message ∈ applied, nextSequence message = some k

/-- A step that makes a book valid again stores a full book of its token. -/
def RestoredByFullBook (s s' : Watched) : Prop :=
  ∀ token book book', s.cache.books.get? token = some book → book.status ≠ .valid →
    s'.cache.books.get? token = some book' → book'.status = .valid →
    ∃ added, s'.log.snapshots = added ++ s.log.snapshots ∧ (token, book') ∈ added

section

variable {apply : String → Book → List Change → Book}
  {action : BookCache → ε → Option CacheAction}

theorem positions_of_deltaRule {rule : Book → List Change → Book} (h : DeltaRule rule) :
    Positions rule Book.sequence nextSequence := by
  intro state message k hk
  rw [h.sequence, hk]
  rfl

/-- The run lemma of both connectors. -/
theorem good_of_run (hrule : ∀ token, DeltaRule (apply token))
    (haddressed : ∀ (s : Watched) event act, action s.cache event = some act → s.Addressed act)
    {hist : List Watched} {s : Watched}
    (h : Run (eventStep apply action) (Admitted action) {} hist s) : s.Good apply := by
  refine h.state_invariant (Watched.Good apply) Watched.good_start ?_
  intro s event s' hgood hok hstep
  obtain ⟨act, hact, rfl⟩ := Option.map_eq_some_iff.mp hstep
  exact hgood.take hrule act (haddressed s event act hact) (hok act hact)

theorem Watched.Good.continuous (hrule : ∀ token, DeltaRule (apply token)) {s : Watched}
    (h : s.Good apply) : Continuous apply s :=
  fun token book hbook hvalid =>
    (h.tracked token book hbook hvalid).exists_gapless (positions_of_deltaRule (hrule token))

theorem Watched.Good.restoredByFullBook (hrule : ∀ token, DeltaRule (apply token))
    {s s' : Watched} (h : s.Good apply) {event : ε} (hok : Admitted action s event)
    (hstep : eventStep apply action s event = some s') : RestoredByFullBook s s' := by
  obtain ⟨act, hact, rfl⟩ := Option.map_eq_some_iff.mp hstep
  intro token book book' hbook hstatus hbook' hvalid
  exact h.restored hrule act (hok act hact) hbook hstatus hbook' hvalid

end

theorem deltaRule_polymarket (token : String) : DeltaRule (Polymarket.applyPriceChanges token) :=
  deltaRule_applyChanges _ _

theorem deltaRule_myriad (int : String → Option ℤ) (token : String) :
    DeltaRule (Myriad.applyFor int token) :=
  deltaRule_applyChanges _ _

/-- **Streamed books are continuous.**  In every run of either connector whose change messages can be
placed on the books they reach, a valid book is a full book of this connection with all later
messages applied up to its own number, and a book that is not valid becomes valid by a full book
only. -/
theorem streamed_books_continuous (int : String → Option ℤ) (chainId : ℤ) :
    (∀ hist s, Run (eventStep Polymarket.applyPriceChanges Polymarket.action)
        (Admitted Polymarket.action) {} hist s →
      Continuous Polymarket.applyPriceChanges s
        ∧ ∀ event s', Admitted Polymarket.action s event →
          eventStep Polymarket.applyPriceChanges Polymarket.action s event = some s' →
          RestoredByFullBook s s')
      ∧ (∀ hist s, Run (eventStep (Myriad.applyFor int) (Myriad.action int chainId))
          (Admitted (Myriad.action int chainId)) {} hist s →
        Continuous (Myriad.applyFor int) s
          ∧ ∀ event s', Admitted (Myriad.action int chainId) s event →
            eventStep (Myriad.applyFor int) (Myriad.action int chainId) s event = some s' →
            RestoredByFullBook s s') := by
  constructor
  · intro hist s hrun
    have hgood := good_of_run deltaRule_polymarket
      (fun _ _ _ hact => Polymarket.addressed_action hact) hrun
    refine ⟨hgood.continuous deltaRule_polymarket, ?_⟩
    intro event s' hok hstep
    exact hgood.restoredByFullBook deltaRule_polymarket hok hstep
  · intro hist s hrun
    have hgood := good_of_run (deltaRule_myriad int)
      (fun _ _ _ hact => Myriad.addressed_action hact) hrun
    refine ⟨hgood.continuous (deltaRule_myriad int), ?_⟩
    intro event s' hok hstep
    exact hgood.restoredByFullBook (deltaRule_myriad int) hok hstep

namespace Examples

/-! ### A gap, a lost connection and a stream in order -/

/-- A Polymarket change message for token `t`. -/
def numbered (sequence : ℤ) : Polymarket.Item where
  token := "t"
  changes := some [⟨"t", some "t", none, some ⟨45 / 100, 7⟩, "BUY", some sequence⟩]

/-- A full Polymarket book of token `t` with number 1. -/
def polymarketBook : Polymarket.Item where
  token := "t"
  levels := some ([⟨44 / 100, 10⟩], [⟨46 / 100, 5⟩])
  sequence := some 1

/-- Message 2 is lost. -/
def gap : List Polymarket.Event :=
  [.register "t", .item polymarketBook, .item (numbered 3), .item (numbered 4)]

/-- The same with the messages in order. -/
def inOrder : List Polymarket.Event :=
  [.register "t", .item polymarketBook, .item (numbered 2), .item (numbered 3)]

/-- `int` on the texts below. -/
def int (text : String) : Option ℤ :=
  if text = "56" then some 56 else if text = "7" then some 7 else none

/-- A Myriad publication of market 7. -/
def published (book : Myriad.RawBook) (sequence : Option ℤ) (changes : Option (List Change)) :
    Myriad.Publication where
  channel := "orderbook:56:7"
  networkId := some 56
  marketId := some 7
  ownBook := book
  sequence := sequence
  changes := changes

/-- The connection is lost between the full book and the next change. -/
def lost : List Myriad.Event :=
  [.register "7:YES", .publication (published ⟨[⟨44 / 100, 10⟩], []⟩ (some 1) none), .disconnected,
    .publication (published {} none
      (some [⟨"", none, some 0, some ⟨45 / 100, 7⟩, "BUY", some 2⟩]))]

/-- After a gap the next message in order makes the Polymarket book valid again, and after a lost
connection the next message makes the Myriad book valid again. -/
theorem streamed_books_discontinuous :
    (∃ s, exec (eventStep Polymarket.applyPriceChanges Polymarket.action) anyAction {} gap = some s
      ∧ ¬ Continuous Polymarket.applyPriceChanges s)
      ∧ ∃ s, exec (eventStep (Myriad.applyFor int) (Myriad.action int 56)) anyAction {} lost = some s
        ∧ ¬ Continuous (Myriad.applyFor int) s := by
  constructor
  · refine ⟨(exec (eventStep Polymarket.applyPriceChanges Polymarket.action) anyAction {} gap).get
      (by decide +kernel), (Option.some_get _).symm, ?_⟩
    intro h
    obtain ⟨full, hfull, applied, happlied, -, -, hcovered⟩ := h "t"
      ⟨[⟨45 / 100, 7⟩, ⟨44 / 100, 10⟩], [⟨46 / 100, 5⟩], some 4, .valid⟩ (by decide +kernel) rfl
    -- The full book has number 1, so message 2 would have been applied; it was not received.
    have hsequence : ∀ full ∈ ((exec (eventStep Polymarket.applyPriceChanges Polymarket.action)
        anyAction {} gap).get (by decide +kernel)).log.snapshotsOf "t", full.sequence = some 1 := by
      decide +kernel
    have hmissing : ∀ message ∈ ((exec (eventStep Polymarket.applyPriceChanges Polymarket.action)
        anyAction {} gap).get (by decide +kernel)).log.messagesOf "t",
        nextSequence message ≠ some 2 := by
      decide +kernel
    obtain ⟨message, hmem, hnumber⟩ :=
      hcovered 1 4 2 (hsequence full hfull) rfl (by omega) (by omega)
    exact hmissing message (happlied message hmem) hnumber
  · refine ⟨(exec (eventStep (Myriad.applyFor int) (Myriad.action int 56)) anyAction {} lost).get
      (by decide +kernel), (Option.some_get _).symm, ?_⟩
    intro h
    obtain ⟨full, hfull, -⟩ := h "7:YES"
      ⟨[⟨45 / 100, 7⟩, ⟨44 / 100, 10⟩], [], some 2, .valid⟩ (by decide +kernel) rfl
    have hnone : ((exec (eventStep (Myriad.applyFor int) (Myriad.action int 56)) anyAction {}
        lost).get (by decide +kernel)).log.snapshotsOf "7:YES" = [] := by decide +kernel
    rw [hnone] at hfull
    cases hfull

/-- A run in order has a valid book, and it is continuous. -/
theorem streamed_books_in_order :
    ∃ s, exec (eventStep Polymarket.applyPriceChanges Polymarket.action)
        (Admitted Polymarket.action) {} inOrder = some s
      ∧ Continuous Polymarket.applyPriceChanges s ∧ s.cache.books.get? "t"
        = some ⟨[⟨45 / 100, 7⟩, ⟨44 / 100, 10⟩], [⟨46 / 100, 5⟩], some 3, .valid⟩ := by
  have hbook : (exec (eventStep Polymarket.applyPriceChanges Polymarket.action)
      (Admitted Polymarket.action) {} inOrder).map (fun s => s.cache.books.get? "t")
        = some (some ⟨[⟨45 / 100, 7⟩, ⟨44 / 100, 10⟩], [⟨46 / 100, 5⟩], some 3, .valid⟩) := by
    decide +kernel
  obtain ⟨s, hs, hget⟩ := Option.map_eq_some_iff.mp hbook
  obtain ⟨hist, hrun⟩ := Run.of_exec hs
  exact ⟨s, hs, ((streamed_books_continuous int 56).1 hist s hrun).1, hget⟩

end Examples

end MarketData

end ArbitrageEngine
