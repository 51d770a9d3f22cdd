/-
# ArbitrageEngine.Connectors.OpinionBooks -- REST snapshots and depth pushes of one book

Opinion books are seeded by REST only.  A depth push names one level of one outcome of a market and
is applied to whatever books of that market are cached.  Two things go wrong there.  A push makes a
new book, and a new book is valid: a book that a disconnect made stale, or that a push without a
side made invalid, is valid again after the next push.  And a push that names neither a token nor
an outcome is applied to both outcomes.

Where neither happens, a valid book had a REST snapshot since the connection was last lost and since
it was last invalidated, and a push changes the book of the outcome it describes and no other.
-/
import ArbitrageEngine.Connectors.OrderBooks
import ArbitrageEngine.Execution.Residual
import ArbitrageEngine.Lib.Runs

namespace ArbitrageEngine.Opinion

open Lib Lib.Runs MarketData

/-! ## Payloads -/

/-- One entry of a push, after `_optional_float`; an entry that is no mapping has no numbers.
`side` is the text of `side` or `bookSide`. -/
structure DepthEntry where
  price : Option ℚ
  size : Option ℚ
  side : String
deriving DecidableEq

/-- `_level`. -/
def level (price size : Option ℚ) : Option Level :=
  match price, size with
  | some price, some size =>
      if price ≤ 0 ∨ 1 < price ∨ size < 0 then none else some ⟨price, size⟩
  | _, _ => none

def DepthEntry.level (entry : DepthEntry) : Option Level := Opinion.level entry.price entry.size

/-- A message of the stream.  `messageType` is its `msgType`, or else its `channel`; the entries are
its `changes`, or else the message itself. -/
structure DepthPush where
  messageType : Option String
  marketId : Option ℤ
  tokenId : Option String
  outcomeSide : Option ℤ
  entries : List DepthEntry
  sequence : Option ℤ
deriving DecidableEq

/-- A message of another kind than a depth update. -/
def DepthPush.isOtherMessage (push : DepthPush) : Bool :=
  match push.messageType with
  | none => false
  | some messageType => messageType ≠ "market.depth.diff"

/-- A REST snapshot: the prices and sizes of both sides. -/
structure SnapshotPayload where
  bids : List (Option ℚ × Option ℚ)
  asks : List (Option ℚ × Option ℚ)
  sequence : Option ℤ
deriving DecidableEq

/-- `order_book_from_payload`; a payload that is no mapping gives an invalid book. -/
def orderBookFromPayload : Option SnapshotPayload → Book
  | none => { bids := [], asks := [], status := .invalid }
  | some payload =>
      { bids := sortedBids (payload.bids.filterMap fun item => level item.1 item.2)
        asks := sortedAsks (payload.asks.filterMap fun item => level item.1 item.2)
        sequence := payload.sequence }

/-- `side_from_outcome_code`. -/
def sideFromOutcomeCode (code : Option ℤ) : Option BinarySide :=
  if code = some 1 then some .yes else if code = some 2 then some .no else none

section Texts

-- What `str.lower` and `int` make of a text.
variable (lower : String → String) (int : String → Option ℤ)

/-- `_diff_side`. -/
def DepthEntry.diffSide (entry : DepthEntry) : Option BookSide :=
  let raw := lower (Execution.strip entry.side)
  if raw ∈ ["bid", "bids", "buy"] then some .bids
  else if raw ∈ ["ask", "asks", "sell"] then some .asks
  else none

/-- `parse_execution_token`; `none` where it raises. -/
def parseExecutionToken (tokenId : String) : Option (ℤ × String) :=
  let raw := (Execution.strip tokenId).toList
  match raw.dropWhile (· ≠ ':') with
  | [] | [_] => none
  | _ :: outcomePart =>
      (int (String.ofList (raw.takeWhile (· ≠ ':')))).map fun marketId =>
        (marketId, String.ofList outcomePart)

/-- The loop of `apply_depth_diff`: the sizes and whether a level was applied, or nothing once a
level has no usable side. -/
def applyEntries : List DepthEntry → Sizes → Bool → Option (Sizes × Bool)
  | [], sizes, applied => some (sizes, applied)
  | entry :: rest, sizes, applied =>
      match entry.level with
      | none => applyEntries rest sizes applied
      | some level =>
          match entry.diffSide lower with
          | none => none
          | some side => applyEntries rest (sizes.write side level) true

/-- `apply_depth_diff`. -/
def applyDepthDiff (book : Book) (push : DepthPush) : Book :=
  match applyEntries lower push.entries (Sizes.ofBook book) false with
  | none => { book with status := .invalid }
  | some (_, false) => book
  | some (sizes, true) =>
      { bids := sizes.sortedBids, asks := sizes.sortedAsks, sequence := push.sequence }

/-! ## The client -/

/-- `OpinionMarketMetadata`, as far as a push is resolved with it. -/
structure OpinionMarketMetadata where
  yesTokenId : Option String
  noTokenId : Option String
deriving DecidableEq

/-- The outcome token a side stands for. -/
def OpinionMarketMetadata.tokenOf (metadata : OpinionMarketMetadata) : BinarySide → Option String
  | .yes => metadata.yesTokenId
  | .no => metadata.noTokenId

/-- The market data fields of `OpinionClient`. -/
structure Client where
  books : Dict String Book := Dict.empty
  marketTokens : Dict ℤ TokenSet := Dict.empty
  marketMetadata : Dict ℤ OpinionMarketMetadata := Dict.empty
  wsConnected : Bool := false

namespace Client

def storeBook (client : Client) (tokenId : String) (book : Book) : Client :=
  { client with books := client.books.set tokenId book }

/-- The tokens of a market with targets. -/
def tokensOf (client : Client) (marketId : ℤ) : TokenSet :=
  (client.marketTokens.get? marketId).getD Dict.empty

/-- `_push_outcome_token`: the outcome token a push describes, no token where it describes none, or
`_UNRESOLVED_OUTCOME`. -/
inductive PushOutcome
  | token (outcome : String)
  | unnamed
  | unresolved
deriving DecidableEq

def pushOutcomeToken (client : Client) (marketId : ℤ) (push : DepthPush) : PushOutcome :=
  match push.tokenId with
  | some outcome => .token outcome
  | none =>
      match sideFromOutcomeCode push.outcomeSide with
      | none => .unnamed
      | some side =>
          match (client.marketMetadata.get? marketId).bind (·.tokenOf side) with
          | none => .unresolved
          | some outcome => .token outcome

/-- Does a push with this outcome pass the `continue`s of the loop for the token? -/
def addresses (marketId : ℤ) (outcome : PushOutcome) (tokenId : String) : Bool :=
  match parseExecutionToken int tokenId with
  | none => false
  | some (tokenMarketId, tokenOutcome) =>
      tokenMarketId = marketId && match outcome with
        | .token outcome => outcome = tokenOutcome
        | .unnamed => true
        | .unresolved => false

/-- The body of the loop over the tokens of the market. -/
def pushTo (marketId : ℤ) (outcome : PushOutcome) (push : DepthPush) (client : Client)
    (tokenId : String) : Client :=
  if addresses int marketId outcome tokenId then
    match client.books.get? tokenId with
    | none => client
    | some cached => client.storeBook tokenId (applyDepthDiff lower cached push)
  else client

/-- `_handle_ws_payload`. -/
def handleWsPayload (client : Client) (push : DepthPush) : Client :=
  if push.isOtherMessage then client
  else match push.marketId with
    | none => client
    | some marketId =>
        match client.pushOutcomeToken marketId push with
        | .unresolved => client
        | outcome =>
            (client.tokensOf marketId).keys.foldl (pushTo lower int marketId outcome push) client

/-- The body of the loop of `_mark_books_stale`. -/
def markStale (client : Client) (entry : String × Book) : Client :=
  if entry.2.status = .valid then
    { client with books := client.books.set entry.1 { entry.2 with status := .stale } }
  else client

/-- `_mark_books_stale`. -/
def markBooksStale (client : Client) : Client := client.books.entries.foldl markStale client

/-- `parse_execution_token` and `_ensure_token_subscription`; what does not parse raises before. -/
def ensureTokenSubscription (client : Client) (tokenId : String) : Client :=
  match parseExecutionToken int tokenId with
  | none => client
  | some (marketId, _) =>
      { client with
        marketTokens := client.marketTokens.set marketId ((client.tokensOf marketId).set tokenId ()) }

/-- `_remove_token_subscription`. -/
def removeTokenSubscription (client : Client) (tokenId : String) : Client :=
  match parseExecutionToken int tokenId with
  | none => client
  | some (marketId, _) =>
      match client.marketTokens.get? marketId with
      | none => client
      | some tokens =>
          let remaining := tokens.erase tokenId
          { client with
            marketTokens :=
              if remaining.entries.isEmpty then client.marketTokens.erase marketId
              else client.marketTokens.set marketId remaining }

/-- The subscription and the book of a token that is no target any more. -/
def dropTarget (client : Client) (tokenId : String) : Client :=
  let remaining := client.removeTokenSubscription int tokenId
  { remaining with books := remaining.books.erase tokenId }

/-- `_active_tokens`. -/
def activeTokens (client : Client) : List String := client.marketTokens.values.flatMap Dict.keys

/-- `sync_market_data_targets`, with the new targets in the order the set gives them.  A token that
does not parse raises, and the targets after it are not subscribed. -/
def syncMarketDataTargets (client : Client) (tokenIds : List String) : Client :=
  let current := client.activeTokens
  let kept := (current.filter (· ∉ tokenIds)).foldl (dropTarget int) client
  let added := (tokenIds.filter (· ∉ current)).takeWhile fun tokenId =>
    (parseExecutionToken int tokenId).isSome
  added.foldl (ensureTokenSubscription int) kept

/-- `_remember_market_metadata`. -/
def rememberMarketMetadata (client : Client) (marketId : ℤ) (outcomeToken : String)
    (side : BinarySide) : Client :=
  let metadata := (client.marketMetadata.get? marketId).getD ⟨none, none⟩
  { client with
    marketMetadata := client.marketMetadata.set marketId (match side with
      | .yes => { metadata with yesTokenId := some outcomeToken }
      | .no => { metadata with noTokenId := some outcomeToken }) }

end Client

/-! ## What a push does to one book -/

/-- Some level of the push has no usable side. -/
def DepthPush.lacksSide (push : DepthPush) : Bool :=
  push.entries.any fun entry => entry.level.isSome && (entry.diffSide lower).isNone

/-- Some entry of the push is a level. -/
def DepthPush.carriesLevel (push : DepthPush) : Bool :=
  push.entries.any fun entry => entry.level.isSome

theorem applyEntries_eq_none (entries : List DepthEntry) (sizes : Sizes) (applied : Bool) :
    applyEntries lower entries sizes applied = none ↔
      (entries.any fun entry => entry.level.isSome && (entry.diffSide lower).isNone) = true := by
  induction entries generalizing sizes applied with
  | nil => simp [applyEntries]
  | cons entry rest ih =>
      rw [List.any_cons, applyEntries]
      match entry.level, entry.diffSide lower with
      | none, _ => simpa using ih sizes applied
      | some _, none => simp
      | some level, some side => simpa using ih (sizes.write side level) true

theorem applied_of_applyEntries (entries : List DepthEntry) (sizes : Sizes) (applied : Bool)
    {sizes' : Sizes} {applied' : Bool}
    (h : applyEntries lower entries sizes applied = some (sizes', applied')) :
    applied' = (applied || entries.any fun entry => entry.level.isSome) := by
  induction entries generalizing sizes applied with
  | nil =>
      rw [applyEntries] at h
      cases h
      simp
  | cons entry rest ih =>
      rw [applyEntries] at h
      rw [List.any_cons]
      match hlevel : entry.level, hside : entry.diffSide lower with
      | none, _ =>
          rw [hlevel] at h
          simpa using ih sizes applied h
      | some _, none =>
          rw [hlevel, hside] at h
          exact absurd h (by simp)
      | some level, some side =>
          rw [hlevel, hside] at h
          simpa using ih _ true h

variable {lower int}

/-- The status of a book after a push was applied to it. -/
theorem status_applyDepthDiff (book : Book) (push : DepthPush) :
    (applyDepthDiff lower book push).status =
      if push.lacksSide lower then .invalid
      else if push.carriesLevel then .valid
      else book.status := by
  unfold applyDepthDiff
  split
  · next hnone =>
      have hside : push.lacksSide lower = true :=
        (applyEntries_eq_none lower push.entries _ _).mp hnone
      rw [if_pos hside]
  · next happlied =>
      have hflag := applied_of_applyEntries lower push.entries _ _ happlied
      have hside : push.lacksSide lower ≠ true := fun h => by
        rw [(applyEntries_eq_none lower push.entries _ _).mpr h] at happlied
        cases happlied
      have hlevel : push.carriesLevel = false := (hflag.trans (Bool.false_or _)).symm
      simp [hside, hlevel]
  · next happlied =>
      have hflag := applied_of_applyEntries lower push.entries _ _ happlied
      have hside : push.lacksSide lower ≠ true := fun h => by
        rw [(applyEntries_eq_none lower push.entries _ _).mpr h] at happlied
        cases happlied
      have hlevel : push.carriesLevel = true := (hflag.trans (Bool.false_or _)).symm
      simp [hside, hlevel]

/-- A push that carries no level leaves a book as it is. -/
theorem applyDepthDiff_of_not_carriesLevel (book : Book) {push : DepthPush}
    (h : push.carriesLevel = false) : applyDepthDiff lower book push = book := by
  unfold applyDepthDiff
  split
  · next hnone =>
      have hside := (applyEntries_eq_none lower push.entries _ _).mp hnone
      obtain ⟨entry, hmem, hentry⟩ := List.any_eq_true.mp hside
      have hlevel : push.carriesLevel = true :=
        List.any_eq_true.mpr ⟨entry, hmem, (Bool.and_eq_true_iff.mp hentry).1⟩
      rw [hlevel] at h
      cases h
  · rfl
  · next happlied =>
      have hflag := applied_of_applyEntries lower push.entries _ _ happlied
      rw [Bool.false_or] at hflag
      exact absurd (hflag.trans h) (by simp)

namespace Client

/-! ## What a push does to the cache -/

variable (lower int) in
/-- Is a push applied to the book of a token, where one is cached? -/
def reaches (client : Client) (push : DepthPush) (tokenId : String) : Bool :=
  !push.isOtherMessage && match push.marketId with
    | none => false
    | some marketId =>
        tokenId ∈ (client.tokensOf marketId).keys
          && addresses int marketId (client.pushOutcomeToken marketId push) tokenId

theorem get?_pushTo (marketId : ℤ) (outcome : PushOutcome) (push : DepthPush) (client : Client)
    (tokenId other : String) :
    (pushTo lower int marketId outcome push client tokenId).books.get? other =
      if other = tokenId ∧ addresses int marketId outcome tokenId = true then
        (client.books.get? other).map fun book => applyDepthDiff lower book push
      else client.books.get? other := by
  unfold pushTo
  by_cases haddressed : addresses int marketId outcome tokenId = true
  · rw [if_pos haddressed]
    by_cases hsame : other = tokenId
    · subst hsame
      rw [if_pos ⟨rfl, haddressed⟩]
      cases hcached : client.books.get? other with
      | none => simpa using hcached
      | some cached => simp [storeBook]
    · rw [if_neg fun h => hsame h.1]
      cases client.books.get? tokenId with
      | none => rfl
      | some cached => exact Dict.get?_set_of_ne _ hsame _
  · rw [if_neg haddressed, if_neg fun h => haddressed h.2]

variable (lower int) in
/-- The loop over tokens that are all different applies the push once to each it addresses. -/
theorem get?_foldl_pushTo (marketId : ℤ) (outcome : PushOutcome) (push : DepthPush)
    (tokens : List String) (hnodup : tokens.Nodup) (client : Client) (other : String) :
    (tokens.foldl (pushTo lower int marketId outcome push) client).books.get? other =
      if other ∈ tokens ∧ addresses int marketId outcome other = true then
        (client.books.get? other).map fun book => applyDepthDiff lower book push
      else client.books.get? other := by
  induction tokens generalizing client with
  | nil => simp
  | cons tokenId rest ih =>
      obtain ⟨hnotin, hrest⟩ := List.nodup_cons.mp hnodup
      rw [List.foldl_cons, ih hrest, get?_pushTo]
      by_cases hsame : other = tokenId
      · subst hsame
        simp [hnotin]
      · simp [hsame]

theorem get?_handleWsPayload (client : Client) (push : DepthPush) (tokenId : String) :
    (client.handleWsPayload lower int push).books.get? tokenId =
      if client.reaches int push tokenId then
        (client.books.get? tokenId).map fun book => applyDepthDiff lower book push
      else client.books.get? tokenId := by
  unfold handleWsPayload reaches
  cases push.isOtherMessage with
  | true => simp
  | false =>
      cases push.marketId with
      | none => simp
      | some marketId =>
          have hloop := get?_foldl_pushTo lower int marketId
            (client.pushOutcomeToken marketId push) push _ (client.tokensOf marketId).nodup client
            tokenId
          cases houtcome : client.pushOutcomeToken marketId push with
          | unresolved =>
              have hnone : addresses int marketId .unresolved tokenId = false := by
                unfold addresses
                split <;> simp
              simp [hnone, houtcome]
          | unnamed =>
              rw [houtcome] at hloop
              simpa [houtcome, Dict.keys] using hloop
          | token outcome =>
              rw [houtcome] at hloop
              simpa [houtcome, Dict.keys] using hloop

/-- A loop over entries that include every valid book leaves no book valid. -/
theorem status_foldl_markStale (entries : List (String × Book)) (client : Client)
    (hall : ∀ tokenId book, client.books.get? tokenId = some book → book.status = .valid →
      (tokenId, book) ∈ entries) {tokenId : String} {book : Book}
    (h : (entries.foldl markStale client).books.get? tokenId = some book) :
    book.status ≠ .valid := by
  induction entries generalizing client with
  | nil => exact fun hvalid => absurd (hall tokenId book h hvalid) List.not_mem_nil
  | cons entry rest ih =>
      refine ih (client.markStale entry) ?_ h
      intro token cached hcached hvalid
      unfold markStale at hcached
      split at hcached
      · rw [Dict.get?_set] at hcached
        split at hcached
        · cases hcached
          cases hvalid
        · next hne =>
            rcases List.mem_cons.mp (hall token cached hcached hvalid) with heq | hrest
            · exact absurd (congrArg Prod.fst heq) hne
            · exact hrest
      · next hentry =>
          rcases List.mem_cons.mp (hall token cached hcached hvalid) with heq | hrest
          · exact absurd (heq ▸ hvalid) hentry
          · exact hrest

/-- Marking the books leaves none valid. -/
theorem status_markBooksStale (client : Client) {tokenId : String} {book : Book}
    (h : client.markBooksStale.books.get? tokenId = some book) : book.status ≠ .valid :=
  status_foldl_markStale client.books.entries client
    (fun _ _ hcached _ => Dict.get?_eq_some_iff.mp hcached) h

theorem books_ensureTokenSubscription (client : Client) (tokenId : String) :
    (client.ensureTokenSubscription int tokenId).books = client.books := by
  unfold ensureTokenSubscription
  split <;> rfl

theorem books_foldl_ensure (added : List String) (client : Client) :
    (added.foldl (ensureTokenSubscription int) client).books = client.books := by
  induction added generalizing client with
  | nil => rfl
  | cons token rest ih => rw [List.foldl_cons, ih, books_ensureTokenSubscription]

theorem get?_dropTarget (client : Client) (dropped : String) {tokenId : String} {book : Book}
    (h : (client.dropTarget int dropped).books.get? tokenId = some book) :
    client.books.get? tokenId = some book := by
  have hbooks : (client.removeTokenSubscription int dropped).books = client.books := by
    unfold removeTokenSubscription
    split
    · rfl
    · split <;> rfl
  simp only [dropTarget, hbooks] at h
  by_cases hsame : tokenId = dropped
  · rw [hsame, Dict.get?_erase_self] at h
    cases h
  · rwa [Dict.get?_erase_of_ne _ hsame] at h

theorem get?_foldl_dropTarget (dropped : List String) (client : Client) {tokenId : String}
    {book : Book} (h : (dropped.foldl (dropTarget int) client).books.get? tokenId = some book) :
    client.books.get? tokenId = some book := by
  induction dropped generalizing client with
  | nil => exact h
  | cons token rest ih =>
      rw [List.foldl_cons] at h
      have hrest := ih (client.dropTarget int token) h
      exact get?_dropTarget client token hrest

/-- New targets bring no book, and what they leave is as it was. -/
theorem get?_syncMarketDataTargets (client : Client) (tokenIds : List String) {tokenId : String}
    {book : Book} (h : (client.syncMarketDataTargets int tokenIds).books.get? tokenId = some book) :
    client.books.get? tokenId = some book := by
  rw [syncMarketDataTargets, books_foldl_ensure] at h
  exact get?_foldl_dropTarget _ client h

end Client

/-! ## Runs -/

/-- What happens to the market data of the client. -/
inductive Event
  | depthPush (push : DepthPush)
  /-- `_fetch_and_store_order_book` has its response; `none` is a payload that is no mapping. -/
  | restSnapshot (tokenId : String) (payload : Option SnapshotPayload)
  /-- A call that wants the book of a token: `watch_order_book`, or a refresh. -/
  | subscribe (tokenId : String)
  | syncTargets (tokenIds : List String)
  /-- `get_market_metadata` has its response. -/
  | learnMetadata (marketId : ℤ) (metadata : OpinionMarketMetadata)
  | rememberMetadata (marketId : ℤ) (outcomeToken : String) (side : BinarySide)
  | connected
  | disconnected

/-- The client, and the tokens that had a REST snapshot stored since the connection was last lost
and since a push without a usable side last invalidated their book. -/
structure Watched where
  client : Client
  snapshotted : Finset String

namespace Watched

variable (lower int)

/-- What an event does to the client. -/
def nextClient (client : Client) : Event → Option Client
  | .depthPush push => if client.wsConnected then some (client.handleWsPayload lower int push) else none
  | .restSnapshot tokenId payload => some (client.storeBook tokenId (orderBookFromPayload payload))
  | .subscribe tokenId => some (client.ensureTokenSubscription int tokenId)
  | .syncTargets tokenIds => some (client.syncMarketDataTargets int tokenIds)
  | .learnMetadata marketId metadata =>
      some { client with marketMetadata := client.marketMetadata.set marketId metadata }
  | .rememberMetadata marketId outcomeToken side =>
      some (client.rememberMarketMetadata marketId outcomeToken side)
  | .connected => some { client with wsConnected := true }
  | .disconnected => some { client.markBooksStale with wsConnected := false }

/-- What an event does to the tokens with a snapshot. -/
def nextSnapshotted (s : Watched) : Event → Finset String
  | .depthPush push =>
      if push.lacksSide lower then
        s.snapshotted.filter fun tokenId => s.client.reaches int push tokenId = false
      else s.snapshotted
  | .restSnapshot tokenId (some _) => insert tokenId s.snapshotted
  | .disconnected => ∅
  | _ => s.snapshotted

def step (s : Watched) (event : Event) : Option Watched :=
  (nextClient lower int s.client event).map fun client =>
    ⟨client, nextSnapshotted lower int s event⟩

/-- The outcome a push describes: the token it names, or the cached token of the side it names. -/
def described (client : Client) (marketId : ℤ) (push : DepthPush) : Option String :=
  push.tokenId.or ((sideFromOutcomeCode push.outcomeSide).bind fun side =>
    (client.marketMetadata.get? marketId).bind (·.tokenOf side))

/-- A push that carries a level reaches a cached book only if it names its outcome, and only if that
book is valid, unless it lacks a side. -/
def Admitted (s : Watched) : Event → Prop
  | .depthPush push => push.carriesLevel = true → ∀ entry ∈ s.client.books.entries,
      s.client.reaches int push entry.1 = true →
        (push.tokenId.isSome ∨ (sideFromOutcomeCode push.outcomeSide).isSome)
          ∧ (entry.2.status = .valid ∨ push.lacksSide lower = true)
  | _ => True

instance (s : Watched) : ∀ event, Decidable (Admitted lower int s event)
  | .depthPush push => inferInstanceAs (Decidable (push.carriesLevel = true →
      ∀ entry ∈ s.client.books.entries, s.client.reaches int push entry.1 = true →
        (push.tokenId.isSome ∨ (sideFromOutcomeCode push.outcomeSide).isSome)
          ∧ (entry.2.status = .valid ∨ push.lacksSide lower = true)))
  | .restSnapshot _ _ | .subscribe _ | .syncTargets _ | .learnMetadata _ _
  | .rememberMetadata _ _ _ | .connected | .disconnected => inferInstanceAs (Decidable True)

/-- Every valid book has its snapshot. -/
def Tracked (s : Watched) : Prop :=
  ∀ tokenId book, s.client.books.get? tokenId = some book → book.status = .valid →
    tokenId ∈ s.snapshotted

variable {lower int}

/-- Books that were there before keep what is known of them where the tokens do. -/
theorem Tracked.mono {s s' : Watched} (h : Tracked s)
    (hbooks : ∀ tokenId book, s'.client.books.get? tokenId = some book →
      s.client.books.get? tokenId = some book)
    (hsnapshotted : s'.snapshotted = s.snapshotted) : Tracked s' := by
  intro tokenId book hbook hvalid
  rw [hsnapshotted]
  exact h tokenId book (hbooks tokenId book hbook) hvalid

/-- An admitted push keeps every valid book its snapshot. -/
theorem Tracked.depthPush {s : Watched} (h : Tracked s) (push : DepthPush)
    (hok : Admitted lower int s (.depthPush push)) :
    Tracked ⟨s.client.handleWsPayload lower int push,
      nextSnapshotted lower int s (.depthPush push)⟩ := by
  intro tokenId book hbook hvalid
  simp only [Client.get?_handleWsPayload] at hbook
  by_cases hreached : s.client.reaches int push tokenId = true
  · rw [if_pos hreached] at hbook
    obtain ⟨cached, hcached, rfl⟩ := Option.map_eq_some_iff.mp hbook
    rw [status_applyDepthDiff] at hvalid
    by_cases hside : push.lacksSide lower = true
    · rw [if_pos hside] at hvalid
      cases hvalid
    · -- The book was valid before, or the push changed nothing.
      have hbefore : cached.status = .valid := by
        by_cases hlevel : push.carriesLevel = true
        · have hentry := Dict.get?_eq_some_iff.mp hcached
          exact (hok hlevel _ hentry hreached).2.resolve_right hside
        · rwa [if_neg hside, if_neg hlevel] at hvalid
      show tokenId ∈ nextSnapshotted lower int s (.depthPush push)
      rw [nextSnapshotted, if_neg hside]
      exact h tokenId cached hcached hbefore
  · rw [if_neg hreached] at hbook
    have hmem := h tokenId book hbook hvalid
    show tokenId ∈ nextSnapshotted lower int s (.depthPush push)
    simp only [nextSnapshotted]
    split
    · simpa [hmem] using hreached
    · exact hmem

theorem Tracked.step {s s' : Watched} {event : Event} (h : Tracked s)
    (hok : Admitted lower int s event) (hstep : step lower int s event = some s') : Tracked s' := by
  obtain ⟨client, hclient, rfl⟩ := Option.map_eq_some_iff.mp hstep
  cases event with
  | depthPush push =>
      simp only [nextClient, Option.ite_none_right_eq_some] at hclient
      obtain ⟨-, hclient⟩ := hclient
      cases hclient
      exact h.depthPush push hok
  | restSnapshot tokenId payload =>
      cases hclient
      intro token book hbook hvalid
      by_cases hsame : token = tokenId
      · subst hsame
        rw [Client.storeBook, Dict.get?_set_self] at hbook
        cases hbook
        cases payload with
        | none => cases hvalid
        | some payload => exact Finset.mem_insert_self token _
      · rw [Client.storeBook, Dict.get?_set_of_ne _ hsame] at hbook
        have hmem := h token book hbook hvalid
        cases payload with
        | none => exact hmem
        | some payload => exact Finset.mem_insert_of_mem hmem
  | subscribe tokenId =>
      cases hclient
      refine h.mono ?_ rfl
      intro token book hbook
      rwa [Client.books_ensureTokenSubscription] at hbook
  | syncTargets tokenIds =>
      cases hclient
      exact h.mono (fun _ _ => Client.get?_syncMarketDataTargets s.client tokenIds) rfl
  | learnMetadata marketId metadata =>
      cases hclient
      exact h.mono (fun _ _ hbook => hbook) rfl
  | rememberMetadata marketId outcomeToken side =>
      cases hclient
      exact h.mono (fun _ _ hbook => hbook) rfl
  | connected =>
      cases hclient
      exact h.mono (fun _ _ hbook => hbook) rfl
  | disconnected =>
      cases hclient
      intro token book hbook hvalid
      exact absurd hvalid (Client.status_markBooksStale s.client hbook)

/-- A token that a push with a described outcome addresses is the token of that outcome. -/
theorem described_of_addresses {client : Client} {push : DepthPush} {marketId : ℤ}
    {tokenId : String}
    (hnamed : push.tokenId.isSome ∨ (sideFromOutcomeCode push.outcomeSide).isSome)
    (h : Client.addresses int marketId (client.pushOutcomeToken marketId push) tokenId = true) :
    ∃ outcome, described client marketId push = some outcome
      ∧ parseExecutionToken int tokenId = some (marketId, outcome) := by
  unfold Client.addresses at h
  split at h
  · cases h
  · next tokenMarketId tokenOutcome hparse =>
      rw [Bool.and_eq_true, decide_eq_true_eq] at h
      obtain ⟨rfl, houtcome⟩ := h
      refine ⟨tokenOutcome, ?_, hparse⟩
      unfold Client.pushOutcomeToken at houtcome
      unfold described
      cases htoken : push.tokenId with
      | some outcome =>
          rw [htoken] at houtcome
          simpa using houtcome
      | none =>
          rw [htoken] at houtcome hnamed
          cases hside : sideFromOutcomeCode push.outcomeSide with
          | none =>
              rw [hside] at hnamed
              simp at hnamed
          | some side =>
              rw [hside] at houtcome
              cases hresolved : (client.marketMetadata.get? tokenMarketId).bind (·.tokenOf side) with
              | none => simp [hresolved] at houtcome
              | some outcome =>
                  simp only [hresolved, decide_eq_true_eq] at houtcome
                  simp [hresolved, houtcome]

/-- An admitted push changes only books of the outcome it describes. -/
theorem changed_described {s s' : Watched} {push : DepthPush}
    (hok : Admitted lower int s (.depthPush push))
    (hstep : Watched.step lower int s (.depthPush push) = some s') {tokenId : String}
    (hchanged : s'.client.books.get? tokenId ≠ s.client.books.get? tokenId) :
    ∃ marketId outcome, push.marketId = some marketId
      ∧ described s.client marketId push = some outcome
      ∧ parseExecutionToken int tokenId = some (marketId, outcome) := by
  obtain ⟨client, hclient, rfl⟩ := Option.map_eq_some_iff.mp hstep
  simp only [nextClient, Option.ite_none_right_eq_some] at hclient
  obtain ⟨-, hclient⟩ := hclient
  cases hclient
  simp only [Client.get?_handleWsPayload] at hchanged
  split at hchanged
  · next hreached =>
      obtain ⟨cached, hcached⟩ : ∃ cached, s.client.books.get? tokenId = some cached := by
        cases hcached : s.client.books.get? tokenId with
        | none => simp [hcached] at hchanged
        | some cached => exact ⟨cached, rfl⟩
      have hlevel : push.carriesLevel = true := by
        by_contra hnone
        rw [hcached, Option.map_some, applyDepthDiff_of_not_carriesLevel cached
          (Bool.eq_false_iff.mpr hnone)] at hchanged
        exact hchanged rfl
      have hnamed := (hok hlevel _ (Dict.get?_eq_some_iff.mp hcached) hreached).1
      unfold Client.reaches at hreached
      rw [Bool.and_eq_true] at hreached
      cases hmarket : push.marketId with
      | none => simp [hmarket] at hreached
      | some marketId =>
          simp only [hmarket, Bool.and_eq_true] at hreached
          obtain ⟨outcome, hdescribed, hparse⟩ := described_of_addresses hnamed hreached.2.2
          exact ⟨marketId, outcome, rfl, hdescribed, hparse⟩
  · exact absurd rfl hchanged

/-- A client without books. -/
def start : Watched := ⟨{}, ∅⟩

/-- **Opinion books.**  In every run whose pushes are admitted, a valid book had a REST snapshot
stored since its last disconnect and its last invalidation; and a push changes books of the one
outcome it describes only, so that a push that describes none changes none. -/
theorem opinion_books {hist : List Watched} {s : Watched}
    (h : Run (step lower int) (Admitted lower int) start hist s) :
    Tracked s ∧ ∀ push s', Admitted lower int s (.depthPush push) →
      step lower int s (.depthPush push) = some s' →
      ∀ tokenId, s'.client.books.get? tokenId ≠ s.client.books.get? tokenId →
        ∃ marketId outcome, push.marketId = some marketId
          ∧ described s.client marketId push = some outcome
          ∧ parseExecutionToken int tokenId = some (marketId, outcome) := by
  refine ⟨?_, ?_⟩
  · refine h.state_invariant Tracked ?_ fun _ _ _ ht hok hstep => ht.step hok hstep
    intro tokenId book hbook
    cases hbook
  · intro push s' hok hstep tokenId hchanged
    exact changed_described hok hstep hchanged

end Watched

end Texts

namespace Watched.Examples

/-! ### One market with both outcomes -/

/-- `int` on the texts below. -/
def int (text : String) : Option ℤ := if text = "813" then some 813 else none

/-- A bid of ten at 0.44, for the outcome that is named. -/
def bid (tokenId : Option String) : DepthPush where
  messageType := some "market.depth.diff"
  marketId := some 813
  tokenId := tokenId
  outcomeSide := none
  entries := [⟨some (44 / 100), some 10, "bids"⟩]
  sequence := none

/-- A snapshot with one bid. -/
def snapshot : SnapshotPayload := ⟨[(some (40 / 100), some 1)], [], none⟩

/-- Both outcomes are targets and have their snapshots. -/
def primed : List Event :=
  [.connected, .syncTargets ["813:yes", "813:no"], .restSnapshot "813:yes" (some snapshot),
    .restSnapshot "813:no" (some snapshot)]

/-- A push before the outcome's next snapshot after a lost connection. -/
def pushedEarly : List Event :=
  primed ++ [.disconnected, .connected, .depthPush (bid (some "yes"))]

/-- The same with the snapshot before the push. -/
def pushedLate : List Event :=
  primed ++ [.depthPush (bid (some "yes")), .disconnected, .connected,
    .restSnapshot "813:yes" (some snapshot), .depthPush (bid (some "yes"))]

/-- A push after a reconnect makes a stale book valid, with no snapshot since the disconnect; and a
push that describes no outcome changes both books. -/
theorem opinion_books_fail :
    (∃ s, exec (step String.toLower int) anyAction start pushedEarly = some s ∧ ¬ Tracked s)
    ∧ (∃ s s', exec (step String.toLower int) anyAction start primed = some s
      ∧ step String.toLower int s (.depthPush (bid none)) = some s'
      ∧ described s.client 813 (bid none) = none
      ∧ s'.client.books.get? "813:yes" ≠ s.client.books.get? "813:yes"
      ∧ s'.client.books.get? "813:no" ≠ s.client.books.get? "813:no") := by
  constructor
  · refine ⟨(exec (step String.toLower int) anyAction start pushedEarly).get (by decide +kernel),
      (Option.some_get _).symm, ?_⟩
    intro h
    have hmem := h "813:yes" ⟨[⟨44 / 100, 10⟩, ⟨40 / 100, 1⟩], [], none, .valid⟩
      (by decide +kernel) rfl
    revert hmem
    decide +kernel
  · refine ⟨(exec (step String.toLower int) anyAction start primed).get (by decide +kernel),
      (step String.toLower int ((exec (step String.toLower int) anyAction start primed).get
        (by decide +kernel)) (.depthPush (bid none))).get (by decide +kernel),
      (Option.some_get _).symm, (Option.some_get _).symm, ?_⟩
    decide +kernel

/-- A run with a lost connection in which the pushes are admitted: the book is valid again only
after its snapshot. -/
theorem opinion_books_after_reconnect :
    ∃ s, exec (step String.toLower int) (Admitted String.toLower int) start pushedLate = some s
      ∧ Tracked s ∧ s.client.books.get? "813:yes"
        = some ⟨[⟨44 / 100, 10⟩, ⟨40 / 100, 1⟩], [], none, .valid⟩ := by
  have hbook : (exec (step String.toLower int) (Admitted String.toLower int) start pushedLate).map
      (fun s => s.client.books.get? "813:yes")
        = some (some ⟨[⟨44 / 100, 10⟩, ⟨40 / 100, 1⟩], [], none, .valid⟩) := by decide +kernel
  obtain ⟨s, hs, hget⟩ := Option.map_eq_some_iff.mp hbook
  obtain ⟨hist, hrun⟩ := Run.of_exec hs
  exact ⟨s, hs, (opinion_books hrun).1, hget⟩

end Watched.Examples

end ArbitrageEngine.Opinion
