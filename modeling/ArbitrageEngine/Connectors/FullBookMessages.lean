/-
# ArbitrageEngine.Connectors.FullBookMessages -- does a full book replace the stored one?

A full book of a token is stored as it came, unless the connector does not see it as one.
Polymarket passes over a book with an empty side, and keeps ten levels of a side.  Myriad passes
over a book without any level, and gives the levels outside the nested books to both outcomes of the
market, whatever outcome the publication names.
-/
import ArbitrageEngine.Connectors.BookMessages

namespace ArbitrageEngine

open Lib MarketData BookMessages

namespace MarketData

/-- The book has exactly these levels. -/
def Book.HasLevels (book : Book) (bids asks : List Level) : Prop :=
  book.bids.Perm bids ∧ book.asks.Perm asks

theorem sortedBids_perm (levels : List Level) : (sortedBids levels).Perm levels :=
  List.perm_insertionSort _ _

theorem sortedAsks_perm (levels : List Level) : (sortedAsks levels).Perm levels :=
  List.perm_insertionSort _ _

end MarketData

/-! ## Polymarket -/

namespace Polymarket

variable {read : Reading}

/-- The list of a side under one of its two names, the other being absent. -/
def SideUnder (payload : Json) (name other : String) (items : List Json) : Prop :=
  (payload.get name = .array items ∧ payload.get other = .missing) ∨
    (payload.get name = .missing ∧ payload.get other = .array items)

/-- A full book of a token: a list of bids, a list of asks, and no changes. -/
structure FullMessage (read : Reading) (payload : Json) (token : String)
    (bids asks : List Json) : Prop where
  token : assetId read payload = token
  bids : SideUnder payload "bids" "buys" bids
  asks : SideUnder payload "asks" "sells" asks
  noChanges : changesIn payload = none

/-- A side is seen: it is not empty, or it is under its second name. -/
def SideSeen (payload : Json) (name : String) (items : List Json) : Prop :=
  items ≠ [] ∨ (payload.get name).isPresent = false

theorem itemsOf_orChain {payload : Json} {name other : String} {items : List Json}
    (h : SideUnder payload name other items) :
    (SideSeen payload name items →
        itemsOf (Json.orChain [payload.get name, payload.get other]) = some items) ∧
      (¬ SideSeen payload name items →
        itemsOf (Json.orChain [payload.get name, payload.get other]) = none) := by
  unfold SideSeen
  rcases h with ⟨hname, hother⟩ | ⟨hname, hother⟩
  · rw [hname, hother]
    cases items with
    | nil => simp [Json.orChain, Json.truth, itemsOf, Json.isPresent]
    | cons item rest => simp [Json.orChain, Json.truth, itemsOf]
  · rw [hname, hother]
    simp [Json.orChain, Json.truth, itemsOf, Json.isPresent]

/-- The ten best levels of the message on either side. -/
def HasBest (book : Book) (bids asks : List Level) : Prop :=
  book.bids = (sortedBids bids).take 10 ∧ book.asks = (sortedAsks asks).take 10

/-- The message's levels replace the stored book, and no other book changes. -/
def Replaces (before after : Dict String Book) (token : String) (bids asks : List Level) : Prop :=
  (∃ book, after.get? token = some book ∧ HasBest book bids asks) ∧
    ∀ other, other ≠ token → after.get? other = before.get? other

/-- A full book replaces the stored one exactly when both sides are seen, or its levels are stored
already. -/
theorem replaces_iff {cache : BookCache} {payload : Json} {token : String} {bids asks : List Json}
    (htarget : (cache.targets.get? token).isSome)
    (hfull : FullMessage read payload token bids asks) :
    Replaces cache.books (handled cache (itemOf read payload)).books token
        (bids.filterMap (levelFromPayload read)) (asks.filterMap (levelFromPayload read)) ↔
      (SideSeen payload "bids" bids ∧ SideSeen payload "asks" asks) ∨
        ∃ book, cache.books.get? token = some book ∧
          HasBest book (bids.filterMap (levelFromPayload read))
            (asks.filterMap (levelFromPayload read)) := by
  have htoken : (itemOf read payload).token = token := hfull.token
  have hbids := itemsOf_orChain hfull.bids
  have hasks := itemsOf_orChain hfull.asks
  by_cases hseen : SideSeen payload "bids" bids ∧ SideSeen payload "asks" asks
  · have hlevels : (itemOf read payload).levels = some (bids.filterMap (levelFromPayload read),
        asks.filterMap (levelFromPayload read)) := by
      simp [itemOf, hbids.1 hseen.1, hasks.1 hseen.2]
    have hbooks := @books_handled_snapshot cache _ _ _ hlevels (htoken ▸ htarget)
    rw [htoken] at hbooks
    have hself := Dict.get?_set_self cache.books token (uncutSnapshot
      (bids.filterMap (levelFromPayload read)) (asks.filterMap (levelFromPayload read))
      (itemOf read payload).sequence).best
    rw [← hbooks] at hself
    refine iff_of_true ⟨⟨_, hself, rfl, rfl⟩, fun other hne => ?_⟩ (.inl hseen)
    rw [hbooks]
    exact Dict.get?_set_of_ne _ hne _
  · -- A side that is not seen leaves a message without a full book and without changes.
    have hlevels : (itemOf read payload).ChangesOnly := by
      unfold Item.ChangesOnly
      by_cases hbidsSeen : SideSeen payload "bids" bids
      · have hasksSeen : ¬ SideSeen payload "asks" asks := fun h => hseen ⟨hbidsSeen, h⟩
        simp [itemOf, hasks.2 hasksSeen]
      · simp [itemOf, hbids.2 hbidsSeen]
    have hsame : ∀ other, (handled cache (itemOf read payload)).books.get? other =
        cache.books.get? other := by
      intro other
      have hdelivery : handleItem cache (itemOf read payload) =
          handleItem.handleChanges cache (itemOf read payload) := by
        rw [handleItem, hlevels]
      show ((handleItem cache (itemOf read payload)).tokens.foldl
        (treat applyPriceChanges _ _) _).get? other = _
      rw [get?_foldl_treat _ _ _ _ (handleItem cache (itemOf read payload)).nodup, hdelivery]
      simp [handleItem.handleChanges, itemOf, hfull.noChanges, Treatment.after]
    simp only [Replaces, hsame]
    constructor
    · exact fun h => .inr h.1
    · rintro (h | h)
      · exact absurd h hseen
      · exact ⟨h, fun _ _ => trivial⟩

end Polymarket

/-! ## Myriad -/

namespace Myriad

variable {read : Reading} {payload data : Json} {channel : String} {marketId : ℤ}

/-- The publication is for the other outcome: it names one that is not this, or has the other's
nested book. -/
def ForOther (read : Reading) (data : Json) (side : BinarySide) : Prop :=
  (read.integer (rawOutcome data)).any (· ≠ outcomeId side) = true ∨
    (nestedBook data side.opposite).isObject = true

/-- The book that a publication carries for an outcome: its nested book, or else the levels beside
it unless they are the other outcome's.  A token without an outcome has the levels beside. -/
def Carries (read : Reading) (data : Json) : Option BinarySide → Json → Prop
  | none, book => book = outerBook data
  | some side, book =>
      ((nestedBook data side).isObject ∧ book = nestedBook data side) ∨
        (¬ (nestedBook data side).isObject ∧ ¬ ForOther read data side ∧ book = outerBook data)

/-- The publication is a full book for the outcome, with these levels. -/
def FullFor (read : Reading) (data : Json) (side : Option BinarySide) (bids asks : List Level) :
    Prop :=
  ∃ book, Carries read data side book ∧
    ((itemsOf (book.get "bids")).isSome ∨ (itemsOf (book.get "asks")).isSome) ∧
    levelsOf read (book.get "bids") = some bids ∧ levelsOf read (book.get "asks") = some asks

/-- The publication is a full book for this token. -/
def FullForToken (read : Reading) (data : Json) (marketId : ℤ) (token : String) : Prop :=
  ∃ side bids asks, parseTokenId read.parseInt token = some (marketId, side) ∧
    FullFor read data side bids asks

/-- The levels replace the token's stored book, and the books of the tokens the publication is not
for do not change. -/
def Replaces (read : Reading) (data : Json) (marketId : ℤ) (before after : Dict String Book)
    (token : String) (bids asks : List Level) : Prop :=
  (∃ book, after.get? token = some book ∧ book.HasLevels bids asks) ∧
    ∀ other, ¬ FullForToken read data marketId other → after.get? other = before.get? other

/-- The levels beside the nested books do not change the book of this token: it has a nested book of
its own, there are no such levels, or they are stored already. -/
def Spared (read : Reading) (data : Json) (side : BinarySide) (cached : Option Book) : Prop :=
  (nestedBook data side).isObject ∨ ∀ outer, orderBookOf read data none = some outer →
    outer.HasLevels [] [] ∨ cached = some outer

/-- There is a level, or the stored book has none either; and each token on the channel that the
publication is not for is spared. -/
def Replaceable (read : Reading) (data : Json) (marketId : ℤ) (tokens : List String)
    (before : Dict String Book) (token : String) (bids asks : List Level) : Prop :=
  (bids = [] ∧ asks = [] → ∃ book, before.get? token = some book ∧ book.HasLevels [] []) ∧
    ∀ other ∈ tokens, ∀ side, parseTokenId read.parseInt other = some (marketId, some side) →
      ForOther read data side → Spared read data side (before.get? other)

theorem hasLevels_nil {book : Book} : book.HasLevels [] [] ↔ book.bids = [] ∧ book.asks = [] := by
  simp [Book.HasLevels]

/-- Without changes, the loop body stores the book it reads if that has a level. -/
theorem bookAfter_of_noChanges (hchanges : changesIn data = none) {token : String}
    {side : Option BinarySide} (hparse : parseTokenId read.parseInt token = some (marketId, side))
    {cached after : Option Book} (h : bookAfter read data marketId token cached = some after) :
    ∃ book, orderBookOf read data side = some book ∧
      (book.HasLevels [] [] → after = cached) ∧ (¬ book.HasLevels [] [] → after = some book) := by
  simp only [bookAfter, hparse, ne_eq, not_true_eq_false, if_false, hchanges] at h
  obtain ⟨book, hbook, h⟩ := Option.bind_eq_some_iff.mp h
  refine ⟨book, hbook, ?_⟩
  rw [hasLevels_nil]
  split at h
  · next hlevels =>
      cases h
      refine ⟨fun hnone => ?_, fun _ => rfl⟩
      exact absurd hlevels (by simp [hnone.1, hnone.2])
  · next hnone =>
      cases h
      refine ⟨fun _ => rfl, fun hlevels => ?_⟩
      exact absurd (by simpa [not_or] using hnone) hlevels

/-- The book that is read has the levels that were read. -/
theorem hasLevels_of_orderBookOf {side : Option BinarySide} {book : Book} {bids asks : List Level}
    (hbook : orderBookOf read data side = some book)
    (hbids : levelsOf read ((bookIn data side).get "bids") = some bids)
    (hasks : levelsOf read ((bookIn data side).get "asks") = some asks) :
    book.HasLevels bids asks := by
  simp only [orderBookOf, hbids, hasks, Option.bind_eq_bind, Option.bind_some,
    Option.some.injEq] at hbook
  rw [← hbook]
  exact ⟨sortedBids_perm bids, sortedAsks_perm asks⟩

theorem hasLevels_nil_iff {book : Book} {bids asks : List Level} (h : book.HasLevels bids asks) :
    book.HasLevels [] [] ↔ bids = [] ∧ asks = [] := by
  unfold Book.HasLevels
  constructor
  · rintro ⟨hbids, hasks⟩
    exact ⟨(h.1.symm.trans hbids).eq_nil, (h.2.symm.trans hasks).eq_nil⟩
  · rintro ⟨rfl, rfl⟩
    exact h

/-- A side that is read but is no list has no levels. -/
theorem levelsOf_eq_nil {value : Json} (h : ¬ (itemsOf value).isSome) {levels : List Level}
    (hlevels : levelsOf read value = some levels) : levels = [] := by
  cases value with
  | array items => exact absurd rfl h
  | missing => exact (Option.some.inj hlevels).symm
  | text s => exact (Option.some.inj hlevels).symm
  | object isEmpty fields => exact (Option.some.inj hlevels).symm
  | null => cases hlevels
  | bool b => cases hlevels
  | int n => cases hlevels
  | float q => cases hlevels

theorem orderBookOf_eq_some {side : Option BinarySide} {book : Book}
    (h : orderBookOf read data side = some book) :
    ∃ bids asks, levelsOf read ((bookIn data side).get "bids") = some bids ∧
      levelsOf read ((bookIn data side).get "asks") = some asks ∧ book.HasLevels bids asks := by
  obtain ⟨bids, hbids, hrest⟩ := Option.bind_eq_some_iff.mp h
  obtain ⟨asks, hasks, -⟩ := Option.bind_eq_some_iff.mp hrest
  exact ⟨bids, asks, hbids, hasks, hasLevels_of_orderBookOf h hbids hasks⟩

/-- What a publication carries for an outcome is what the connector reads for it. -/
theorem Carries.eq_bookIn {side : Option BinarySide} {book : Json}
    (h : Carries read data side book) : book = bookIn data side := by
  cases side with
  | none => exact h
  | some side =>
      rcases h with ⟨hnested, hbook⟩ | ⟨hnested, -, hbook⟩
      · simp [bookIn, hnested, hbook]
      · simp [bookIn, hnested, hbook]

/-- What is carried for an outcome is a full book, or it has no levels. -/
theorem Carries.full_or_empty {side : Option BinarySide} {carried : Json}
    (h : Carries read data side carried) {book : Book}
    (hbook : orderBookOf read data side = some book) :
    (∃ bids asks, FullFor read data side bids asks) ∨ book.HasLevels [] [] := by
  obtain ⟨bids, asks, hbids, hasks, hlevels⟩ := orderBookOf_eq_some hbook
  rw [← h.eq_bookIn] at hbids hasks
  by_cases hlists : (itemsOf (carried.get "bids")).isSome ∨ (itemsOf (carried.get "asks")).isSome
  · exact .inl ⟨bids, asks, carried, h, hlists, hbids, hasks⟩
  · rw [not_or] at hlists
    rw [levelsOf_eq_nil hlists.1 hbids, levelsOf_eq_nil hlists.2 hasks] at hlevels
    exact .inr hlevels

/-- A full book replaces the stored one exactly when it has a level, or there is none to replace,
and the tokens it is not for are spared. -/
theorem replaces_iff {tokens : List String} {before after : Dict String Book} {token : String}
    {side : Option BinarySide} {bids asks : List Level}
    (hpublication : publicationIn read payload = some (channel, marketId, data))
    (hchanges : changesIn data = none) (hnodup : tokens.Nodup) (hmem : token ∈ tokens)
    (hparse : parseTokenId read.parseInt token = some (marketId, side))
    (hfull : FullFor read data side bids asks)
    (hafter : handleWsPayload read payload tokens before = .ok after) :
    Replaces read data marketId before after token bids asks ↔
      Replaceable read data marketId tokens before token bids asks := by
  simp only [handleWsPayload, hpublication] at hafter
  have hself : (∃ book, after.get? token = some book ∧ book.HasLevels bids asks) ↔
      (bids = [] ∧ asks = [] →
        ∃ book, before.get? token = some book ∧ book.HasLevels [] []) := by
    obtain ⟨carried, hcarries, -, hbids, hasks⟩ := hfull
    obtain ⟨book, hbook, hempty, hlevels⟩ := bookAfter_of_noChanges hchanges hparse
      ((get?_handleTokens hnodup hafter token).1 hmem)
    rw [hcarries.eq_bookIn] at hbids hasks
    have hhas := hasLevels_of_orderBookOf hbook hbids hasks
    by_cases hnone : bids = [] ∧ asks = []
    · rw [hempty ((hasLevels_nil_iff hhas).mpr hnone)]
      obtain ⟨rfl, rfl⟩ := hnone
      simp
    · rw [hlevels (fun h => hnone ((hasLevels_nil_iff hhas).mp h))]
      exact iff_of_true ⟨book, rfl, hhas⟩ fun h => absurd h hnone
  refine and_congr hself ?_
  constructor
  · -- The levels beside the nested books reach the token, so they have to be stored already.
    intro hothers other hother otherSide hotherParse hforOther
    by_cases hnested : (nestedBook data otherSide).isObject = true
    · exact .inl hnested
    refine .inr fun outer houter => ?_
    have hnotFull : ¬ FullForToken read data marketId other := by
      rintro ⟨side', bids', asks', hparse', book', hcarries, -⟩
      rw [hotherParse] at hparse'
      cases hparse'
      rcases hcarries with ⟨h, -⟩ | ⟨-, h, -⟩
      · exact hnested h
      · exact h hforOther
    obtain ⟨book, hbook, -, hlevels⟩ := bookAfter_of_noChanges hchanges hotherParse
      ((get?_handleTokens hnodup hafter other).1 hother)
    have hsame : book = outer := by
      have hread : orderBookOf read data (some otherSide) = orderBookOf read data none := by
        simp [orderBookOf, bookIn, hnested]
      rw [hread, houter] at hbook
      exact (Option.some.inj hbook).symm
    subst hsame
    by_cases hnone : book.HasLevels [] []
    · exact .inl hnone
    · exact .inr (by rw [← hothers other hnotFull, hlevels hnone])
  · intro hspared other hnotFull
    obtain ⟨hin, hout⟩ := get?_handleTokens hnodup hafter other
    by_cases hother : other ∈ tokens
    · have hbookAfter := hin hother
      cases hotherParse : parseTokenId read.parseInt other with
      | none =>
          rw [bookAfter, hotherParse] at hbookAfter
          cases hbookAfter
      | some parsed =>
          obtain ⟨tokenMarketId, otherSide⟩ := parsed
          by_cases hmarket : tokenMarketId = marketId
          · subst hmarket
            obtain ⟨book, hbook, hempty, hlevels⟩ :=
              bookAfter_of_noChanges hchanges hotherParse hbookAfter
            -- What is carried for the token and is not a full book has no levels.
            have hcarried : ∀ carried, Carries read data otherSide carried →
                book.HasLevels [] [] := by
              intro carried hcarries
              rcases hcarries.full_or_empty hbook with ⟨bids', asks', hfull'⟩ | hnone
              · exact absurd ⟨otherSide, bids', asks', hotherParse, hfull'⟩ hnotFull
              · exact hnone
            cases otherSide with
            | none => exact hempty (hcarried _ rfl)
            | some otherSide =>
                by_cases hnested : (nestedBook data otherSide).isObject = true
                · exact hempty (hcarried _ (.inl ⟨hnested, rfl⟩))
                by_cases hforOther : ForOther read data otherSide
                · have hread : orderBookOf read data none = some book := by
                    rw [← hbook]
                    simp [orderBookOf, bookIn, hnested]
                  rcases hspared other hother otherSide hotherParse hforOther with h | h
                  · exact absurd h hnested
                  rcases h book hread with hnone | hstored
                  · exact hempty hnone
                  · by_cases hnone : book.HasLevels [] []
                    · exact hempty hnone
                    · rw [hlevels hnone, hstored]
                · exact hempty (hcarried _ (.inr ⟨hnested, hforOther, rfl⟩))
          · rw [bookAfter, hotherParse] at hbookAfter
            simpa [hmarket, eq_comm] using hbookAfter
    · exact hout hother

end Myriad

namespace BookMessages

/-- **A full book replaces the stored one.**  For Polymarket, a full book of a target with two sides
that are seen is stored with its ten best levels a side, and no other book changes.  For Myriad, a
full book with a level is stored with exactly its levels, and the books it is not for are unchanged,
where those are spared the levels beside the nested books. -/
theorem full_book_replaces (read : Reading) :
    (∀ (cache : BookCache) (payload : Json) (token : String) (bids asks : List Json),
      (cache.targets.get? token).isSome → Polymarket.FullMessage read payload token bids asks →
      Polymarket.SideSeen payload "bids" bids → Polymarket.SideSeen payload "asks" asks →
      Polymarket.Replaces cache.books
        (Polymarket.handled cache (Polymarket.itemOf read payload)).books token
        (bids.filterMap (Polymarket.levelFromPayload read))
        (asks.filterMap (Polymarket.levelFromPayload read)))
      ∧ ∀ (payload data : Json) (channel : String) (marketId : ℤ) (tokens : List String)
          (before after : Dict String Book) (token : String) (side : Option BinarySide)
          (bids asks : List Level),
        Myriad.publicationIn read payload = some (channel, marketId, data) →
        changesIn data = none → tokens.Nodup → token ∈ tokens →
        Myriad.parseTokenId read.parseInt token = some (marketId, side) →
        Myriad.FullFor read data side bids asks →
        Myriad.handleWsPayload read payload tokens before = .ok after →
        ¬ (bids = [] ∧ asks = []) →
        (∀ other ∈ tokens, ∀ side,
          Myriad.parseTokenId read.parseInt other = some (marketId, some side) →
          Myriad.ForOther read data side → Myriad.Spared read data side (before.get? other)) →
        Myriad.Replaces read data marketId before after token bids asks := by
  constructor
  · intro cache payload token bids asks htarget hfull hbids hasks
    exact (Polymarket.replaces_iff htarget hfull).mpr (.inl ⟨hbids, hasks⟩)
  · intro payload data channel marketId tokens before after token side bids asks hpublication
      hchanges hnodup hmem hparse hfull hafter hlevel hspared
    exact (Myriad.replaces_iff hpublication hchanges hnodup hmem hparse hfull hafter).mpr
      ⟨fun hnone => absurd hnone hlevel, hspared⟩

namespace FullBookExamples

/-- The texts of the messages below. -/
def reading : Reading where
  render _ := ""
  parseInt text := if text = "56" then some 56 else if text = "7" then some 7 else none
  parseFloat text := if text = "0.25" then some (1 / 4) else if text = "0.26" then some (13 / 50)
    else if text = "3" then some 3 else none
  upper text := text

/-- The stored book of the token. -/
def stored : Book := { bids := [⟨1 / 5, 10⟩], asks := [⟨3 / 5, 10⟩] }

def polymarketCache : BookCache where
  books := (Dict.empty : Dict String Book).set "t" stored
  targets := (Dict.empty : TokenSet).set "t" ()

/-- A full Polymarket book. -/
def polymarketBook (bids asks : List Json) : Json :=
  Json.ofFields [("asset_id", .text "t"), ("bids", .array bids), ("asks", .array asks)]

def ask : Json := Json.ofFields [("price", .text "0.25"), ("size", .text "3")]

def bid : Json := Json.ofFields [("price", .text "0.26"), ("size", .text "3")]

/-- A Myriad publication of market 7. -/
def published (data : List (String × Json)) : Json :=
  Json.ofFields (("networkId", .int 56) :: ("marketId", .int 7) :: data)

def push (data : Json) : Json :=
  Json.ofFields [("push", Json.ofFields [("channel", .text "orderbook:56:7"),
    ("pub", Json.ofFields [("data", data)])])]

def myriadBooks : Dict String Book :=
  ((Dict.empty : Dict String Book).set "7:YES" stored).set "7:NO" stored

/-- A full book of outcome `NO`. -/
def noBook : Json :=
  published [("outcomeId", .int 1), ("bids", .array [bid]), ("asks", .array [ask])]

theorem fullMessage_polymarketBook (bids asks : List Json) :
    Polymarket.FullMessage reading (polymarketBook bids asks) "t" bids asks where
  token := rfl
  bids := .inl ⟨rfl, rfl⟩
  asks := .inl ⟨rfl, rfl⟩
  noChanges := rfl

/-- The book of outcome `NO` is not for the other outcome. -/
theorem not_forOther_noBook : ¬ Myriad.ForOther reading noBook .no := by
  rintro (h | h)
  · revert h
    decide
  · revert h
    decide

theorem fullFor_noBook : Myriad.FullFor reading noBook (some .no)
    [⟨13 / 50, 3⟩] [⟨1 / 4, 3⟩] := by
  exact ⟨noBook, .inr ⟨by decide, not_forOther_noBook, rfl⟩, .inl rfl, by decide +kernel,
    by decide +kernel⟩

/-- Eleven bids, at a cent each. -/
def elevenBids : List Json :=
  (List.range 11).map fun i => .array [.float ((20 + i) / 100), .int 3]

/-- A full book of outcome `NO` without levels. -/
def emptyBook : Json :=
  published [("outcomeId", .int 1), ("bids", .array []), ("asks", .array [])]

/-- Of a Polymarket book with eleven bids ten are stored, and a Myriad book of outcome `NO` becomes
the book of outcome `YES` too.  A Polymarket book without bids and a Myriad book without levels
leave the stored book as it is. -/
theorem full_book_not_exact :
    (¬ ∀ (read : Reading) (cache : BookCache) (payload : Json) (token : String)
      (bids asks : List Json), (cache.targets.get? token).isSome →
      Polymarket.FullMessage read payload token bids asks →
      (∃ book, (Polymarket.handled cache (Polymarket.itemOf read payload)).books.get? token =
          some book ∧ book.HasLevels (bids.filterMap (Polymarket.levelFromPayload read))
            (asks.filterMap (Polymarket.levelFromPayload read))) ∧
        ∀ other, other ≠ token →
          (Polymarket.handled cache (Polymarket.itemOf read payload)).books.get? other =
            cache.books.get? other)
      ∧ (¬ ∀ (read : Reading) (payload data : Json) (channel : String) (marketId : ℤ)
          (tokens : List String) (before after : Dict String Book) (token : String)
          (side : Option BinarySide) (bids asks : List Level),
        Myriad.publicationIn read payload = some (channel, marketId, data) →
        changesIn data = none → tokens.Nodup → token ∈ tokens →
        Myriad.parseTokenId read.parseInt token = some (marketId, side) →
        Myriad.FullFor read data side bids asks →
        Myriad.handleWsPayload read payload tokens before = .ok after →
        Myriad.Replaces read data marketId before after token bids asks)
      ∧ (Polymarket.handled polymarketCache
          (Polymarket.itemOf reading (polymarketBook [] [ask]))).books.get? "t" = some stored
      ∧ Myriad.handleWsPayload reading (push emptyBook) ["7:NO"] myriadBooks = .ok myriadBooks := by
  refine ⟨?_, ?_, by decide +kernel, rfl⟩
  · intro h
    obtain ⟨⟨book, hbook, hbids, -⟩, -⟩ := h reading polymarketCache
      (polymarketBook elevenBids [ask]) "t" elevenBids [ask] (by decide +kernel)
      (fullMessage_polymarketBook elevenBids [ask])
    have hlength : ((Polymarket.handled polymarketCache (Polymarket.itemOf reading
        (polymarketBook elevenBids [ask]))).books.get? "t").map (·.bids.length) = some 10 := by
      decide +kernel
    rw [hbook] at hlength
    have heleven : (elevenBids.filterMap (Polymarket.levelFromPayload reading)).length = 11 := by
      decide +kernel
    have hten : book.bids.length = 10 := Option.some.inj hlength
    have hsame := hbids.length_eq
    rw [heleven] at hsame
    omega
  · intro h
    obtain ⟨-, hothers⟩ := h reading (push noBook) noBook "orderbook:56:7" 7 ["7:YES", "7:NO"]
      myriadBooks _ "7:NO" (some .no) [⟨13 / 50, 3⟩] [⟨1 / 4, 3⟩] rfl rfl (by decide) (by decide)
      (by decide +kernel) fullFor_noBook rfl
    have hsame := hothers "7:YES" (by
      rintro ⟨side, bids, asks, hparse, book, hcarries, -⟩
      have hyes : Myriad.parseTokenId reading.parseInt "7:YES" = some (7, some .yes) := by
        decide +kernel
      rw [hyes] at hparse
      cases hparse
      rcases hcarries with ⟨hnested, -⟩ | ⟨-, hother, -⟩
      · revert hnested
        decide
      · exact hother (.inl (by decide)))
    revert hsame
    decide +kernel

/-- A Polymarket book with both sides is stored, and so is a Myriad book where the other outcome is
not wanted. -/
theorem full_book_stored :
    Polymarket.Replaces polymarketCache.books
        (Polymarket.handled polymarketCache
          (Polymarket.itemOf reading (polymarketBook [bid] [ask]))).books "t"
        ([bid].filterMap (Polymarket.levelFromPayload reading))
        ([ask].filterMap (Polymarket.levelFromPayload reading))
      ∧ ∃ after, Myriad.handleWsPayload reading (push noBook) ["7:NO"] myriadBooks = .ok after
        ∧ Myriad.Replaces reading noBook 7 myriadBooks after "7:NO" [⟨13 / 50, 3⟩]
          [⟨1 / 4, 3⟩] := by
  constructor
  · exact (full_book_replaces reading).1 polymarketCache _ "t" [bid] [ask] (by decide +kernel)
      (fullMessage_polymarketBook [bid] [ask]) (.inl (List.cons_ne_nil _ _))
      (.inl (List.cons_ne_nil _ _))
  · refine ⟨_, rfl, ?_⟩
    apply (full_book_replaces reading).2 (push noBook) noBook "orderbook:56:7" 7 ["7:NO"]
      myriadBooks _ "7:NO" (some .no) [⟨13 / 50, 3⟩] [⟨1 / 4, 3⟩] rfl rfl (by decide) (by decide)
      (by decide +kernel) fullFor_noBook rfl
    · exact fun h => List.cons_ne_nil _ _ h.1
    · intro other hother side hparse hforOther
      have hno : Myriad.parseTokenId reading.parseInt "7:NO" = some (7, some .no) := by
        decide +kernel
      rw [List.mem_singleton.mp hother, hno] at hparse
      cases hparse
      exact absurd hforOther not_forOther_noBook

end FullBookExamples

end BookMessages

end ArbitrageEngine
