/-
# ArbitrageEngine.Connectors.OutcomeIsolation -- publications of one outcome of a Myriad market

A publication on a market's channel is read once for each outcome that is wanted.  The nested books
and the changes that name an outcome go to that outcome only.  The levels beside the nested books,
and the changes that name no outcome, go to both: the outcome the publication names as a whole is
not looked at.
-/
import ArbitrageEngine.Connectors.FullBookMessages

namespace ArbitrageEngine

open Lib MarketData BookMessages

namespace MarketData

/-! ## Changes that change nothing -/

/-- In strict order, a price has one level. -/
theorem lastSize_eq_some_iff {side : BookSide} {levels : List Level}
    (h : Ranked (fun level : Level => side.rank level.price) levels) {price size : ℚ} :
    lastSize levels price = some size ↔ (⟨price, size⟩ : Level) ∈ levels := by
  constructor
  · intro hlast
    obtain ⟨level, hfind, rfl⟩ := Option.map_eq_some_iff.mp hlast
    have hprice : level.price = price := by simpa using List.find?_some hfind
    rw [← hprice]
    exact List.mem_reverse.mp (List.mem_of_find?_eq_some hfind)
  · intro hmem
    obtain ⟨found, hfound⟩ := Option.isSome_iff_exists.mp
      (lastSize_isSome.mpr (List.mem_map_of_mem (f := Level.price) hmem))
    obtain ⟨level, hfind, rfl⟩ := Option.map_eq_some_iff.mp hfound
    have hprice : level.price = price := by simpa using List.find?_some hfind
    have hsame : level = ⟨price, size⟩ := by
      apply h.eq_of_rank_eq (List.mem_reverse.mp (List.mem_of_find?_eq_some hfind)) hmem
      rw [hprice]
    rw [hfound, hsame]

/-- What is written at a price is what is there already. -/
def Repeats (levels changed : List Level) : Prop :=
  ∀ price size, lastSize changed price = some size → standing size = lastSize levels price

theorem levelsAfter_eq_iff (side : BookSide) (levels changed : List Level) :
    levelsAfter side levels changed = levels ↔
      Ranked (fun level : Level => side.rank level.price) levels ∧ Repeats levels changed := by
  constructor
  · intro heq
    have hranked : Ranked (fun level : Level => side.rank level.price) levels :=
      heq ▸ ranked_levelsAfter side levels changed
    refine ⟨hranked, fun price size hsize => ?_⟩
    have hafter : sizeAfter levels changed price = standing size := by
      simp [sizeAfter, hsize]
    rw [← hafter]
    apply Option.ext
    intro stored
    rw [lastSize_eq_some_iff hranked]
    conv_rhs => rw [← heq]
    rw [mem_levelsAfter]
  · rintro ⟨hranked, hrepeats⟩
    apply (ranked_levelsAfter side levels changed).eq_of_mem_iff hranked
    intro level
    rw [mem_levelsAfter, ← lastSize_eq_some_iff hranked, sizeAfter]
    cases hsize : lastSize changed level.price with
    | none => rfl
    | some size =>
        show standing size = some level.size ↔ _
        rw [hrepeats level.price size hsize]

/-- The levels of a book. -/
def Book.levels (book : Book) : List Level × List Level := (book.bids, book.asks)

/-- Changed levels are the levels there were exactly when both sides are in order and what applies
repeats them. -/
theorem levels_applyChanges_eq_iff (applies : Change → Bool) (book : Book) (changes : List Change) :
    (applyChanges applies id book changes).levels = book.levels ↔
      ∀ side : BookSide, Ranked (fun level : Level => side.rank level.price) (book.side side) ∧
        Repeats (book.side side) (written applies side changes) := by
  have hside : ∀ side : BookSide, (applyChanges applies id book changes).side side =
      levelsAfter side (book.side side) (written applies side changes) := by
    intro side
    rw [levelsAfter, show Sizes.byPrice (book.side side) = (Sizes.ofBook book).side side by
      cases side <;> rfl, ← side_writeChanges]
    cases side <;> rfl
  simp only [← levelsAfter_eq_iff, ← hside]
  constructor
  · intro heq side
    cases side with
    | bids => exact congrArg Prod.fst heq
    | asks => exact congrArg Prod.snd heq
  · intro hall
    exact Prod.ext (hall .bids) (hall .asks)

theorem Book.eq_iff {book other : Book} : book = other ↔ book.levels = other.levels ∧
    book.sequence = other.sequence ∧ book.status = other.status := by
  cases book
  cases other
  simp [Book.levels, and_assoc]

/-- Changes keep number and status when they have no number and the book is valid, or when they
repeat the number of an invalid book. -/
theorem applyChanges_number_iff (applies : Change → Bool) (kept : List Level → List Level)
    (book : Book) (changes : List Change) :
    (applyChanges applies kept book changes).sequence = book.sequence ∧
        (applyChanges applies kept book changes).status = book.status ↔
      (nextSequence changes = none ∧ book.status = .valid) ∨
        (∃ number, nextSequence changes = some number ∧ book.sequence = some number ∧
          book.status = .invalid) := by
  simp only [applyChanges]
  cases hnext : nextSequence changes with
  | none => simp [validSequence, eq_comm]
  | some number =>
      cases hsequence : book.sequence with
      | none => simp
      | some last =>
          by_cases hsame : number = last
          · subst hsame
            simp [validSequence, eq_comm]
          · have hne : last ≠ number := fun h => hsame h.symm
            simp [hsame, hne]

end MarketData

namespace Myriad

variable {read : Reading} {payload data : Json} {channel : String} {marketId : ℤ}

/-- The publication names the outcome: as a whole, by a nested book, or in a change. -/
def Names (read : Reading) (data : Json) (side : BinarySide) : Prop :=
  read.integer (rawOutcome data) = some (outcomeId side) ∨
    (nestedBook data side).isObject = true ∨
    ∃ changes, changesIn data = some changes ∧ ∃ change ∈ changes, change.isObject = true ∧
      read.integer (rawOutcome change) = some (outcomeId side)

/-- The changes that name no outcome. -/
def unnamed (change : Change) : Bool := change.outcome.isNone

/-- Nothing in the publication changes the levels stored for an outcome that it does not name.  The
levels beside the nested books are stored already; or there are none, and the changes that name no
outcome repeat what is stored, each price once. -/
structure LeavesLevels (read : Reading) (data : Json) (side : BinarySide) (cached : Option Book) :
    Prop where
  beside : ∀ outer, orderBookOf read data none = some outer → ¬ outer.HasLevels [] [] →
    ∃ book, cached = some book ∧ book.levels = outer.levels
  changes : ∀ outer raw changes book, orderBookOf read data none = some outer →
    outer.HasLevels [] [] → changesIn data = some raw →
    changesOf read (some side) raw = some changes → cached = some book →
    ∀ bookSide : BookSide,
      Ranked (fun level : Level => bookSide.rank level.price) (book.side bookSide) ∧
        Repeats (book.side bookSide) (written unnamed bookSide changes)

/-- Number and status stored for the outcome are those the publication leaves: its own with the
levels beside, the greatest of its changes' with them. -/
structure LeavesNumber (read : Reading) (data : Json) (side : BinarySide) (cached : Option Book) :
    Prop where
  beside : ∀ outer book, orderBookOf read data none = some outer → ¬ outer.HasLevels [] [] →
    cached = some book → book.sequence = eventSequence read data ∧ book.status = .valid
  changes : ∀ outer raw changes book, orderBookOf read data none = some outer →
    outer.HasLevels [] [] → changesIn data = some raw →
    changesOf read (some side) raw = some changes → cached = some book →
    (nextSequence changes = none ∧ book.status = .valid) ∨
      (∃ number, nextSequence changes = some number ∧ book.sequence = some number ∧
        book.status = .invalid)

/-- The outcome of a change is the one its mapping names. -/
theorem outcome_of_changeOf {side : BinarySide} {raw : Json} {change : Change}
    (h : changeOf read (some side) raw = some change) {named : ℤ}
    (hnamed : change.outcome = some named) : read.integer (rawOutcome raw) = some named := by
  obtain ⟨outcome, houtcome, h⟩ := Option.bind_eq_some_iff.mp h
  have hsame : change.outcome = outcome := by
    split at h
    · cases h
      rfl
    · obtain ⟨level, -, h⟩ := Option.map_eq_some_iff.mp h
      rw [← h]
  rw [hnamed] at hsame
  subst hsame
  unfold outcomeOf at houtcome
  split at houtcome
  · cases houtcome
  · obtain ⟨value, hvalue, heq⟩ := Option.map_eq_some_iff.mp houtcome
    cases heq
    exact hvalue

/-- Of changes read for an outcome, none names it unless the publication does. -/
theorem outcome_of_changesOf {side : BinarySide} {raw : List Json} {changes : List Change}
    (hraw : changesIn data = some raw) (hnames : ¬ Names read data side)
    (h : changesOf read (some side) raw = some changes) :
    ∀ change ∈ changes, change.outcome ≠ some (outcomeId side) := by
  intro change hmem hnamed
  obtain ⟨item, hitem, hread⟩ := exists_of_mapM_eq_some h change hmem
  obtain ⟨hraw', hobject⟩ := List.mem_filter.mp hitem
  exact hnames (.inr (.inr ⟨raw, hraw, item, hraw', hobject, outcome_of_changeOf hread hnamed⟩))

/-- Does the change apply to the outcome's book? -/
def appliesTo (side : BinarySide) (change : Change) : Bool :=
  change.outcome.all (· = outcomeId side)

theorem applyOrderbookChanges_some (side : BinarySide) (book : Book) (changes : List Change) :
    applyOrderbookChanges (some side) book changes =
      applyChanges (appliesTo side) id book changes := by
  unfold applyOrderbookChanges
  congr 1
  funext change
  unfold appliesTo
  cases change.outcome <;> rfl

/-- What is written for an outcome that is not named is what names no outcome. -/
theorem written_of_not_named {side : BinarySide} {changes : List Change}
    (h : ∀ change ∈ changes, change.outcome ≠ some (outcomeId side)) (bookSide : BookSide) :
    written (appliesTo side) bookSide changes = written unnamed bookSide changes := by
  apply List.filterMap_congr
  intro change hmem
  have hne := h change hmem
  cases houtcome : change.outcome with
  | none => simp [unnamed, appliesTo, houtcome]
  | some outcome =>
      rw [houtcome] at hne
      have hother : outcome ≠ outcomeId side := fun heq => hne (congrArg some heq)
      simp [unnamed, appliesTo, houtcome, hother]

/-- For an outcome without a nested book, the levels beside the nested books are read. -/
theorem orderBookOf_of_not_nested {side : BinarySide}
    (h : ¬ (nestedBook data side).isObject = true) :
    orderBookOf read data (some side) = orderBookOf read data none := by
  simp [orderBookOf, bookIn, h]

/-- Where there are levels beside the nested books, they are stored. -/
theorem beside_iff {side : BinarySide} {outer : Book}
    (houter : orderBookOf read data none = some outer) (hlevels : ¬ outer.HasLevels [] [])
    (cached : Option Book) :
    ((some outer).map Book.levels = cached.map Book.levels ↔ LeavesLevels read data side cached) ∧
      (some outer = cached ↔
        LeavesLevels read data side cached ∧ LeavesNumber read data side cached) := by
  have hnumber : outer.sequence = eventSequence read data ∧ outer.status = .valid := by
    obtain ⟨bids, -, hrest⟩ := Option.bind_eq_some_iff.mp houter
    obtain ⟨asks, -, hrest⟩ := Option.bind_eq_some_iff.mp hrest
    cases hrest
    exact ⟨rfl, rfl⟩
  have hleaves : LeavesLevels read data side cached ↔
      ∃ book, cached = some book ∧ book.levels = outer.levels := by
    constructor
    · exact fun h => h.beside outer houter hlevels
    · intro h
      refine ⟨fun other hother _ => ?_, fun other _ _ _ hother hnone => ?_⟩
      · cases houter.symm.trans hother
        exact h
      · cases houter.symm.trans hother
        exact absurd hnone hlevels
  rw [hleaves]
  constructor
  · rw [eq_comm, Option.map_some, Option.map_eq_some_iff]
  · constructor
    · rintro rfl
      refine ⟨⟨outer, rfl, rfl⟩, fun other book hother _ hbook => ?_,
        fun other _ _ _ hother hnone => ?_⟩
      · cases houter.symm.trans hother
        cases hbook
        exact hnumber
      · cases houter.symm.trans hother
        exact absurd hnone hlevels
    · rintro ⟨⟨book, rfl, hsame⟩, hleavesNumber⟩
      obtain ⟨hsequence, hstatus⟩ := hleavesNumber.beside outer book houter hlevels rfl
      rw [Option.some.injEq, Book.eq_iff, hsame, hsequence, hstatus]
      exact ⟨rfl, hnumber⟩

/-- Where there are none, the changes that name no outcome are applied. -/
theorem changes_iff {side : BinarySide} (hnames : ¬ Names read data side) {outer book : Book}
    (houter : orderBookOf read data none = some outer) (hlevels : outer.HasLevels [] [])
    {raw : List Json} {changes : List Change} (hraw : changesIn data = some raw)
    (hchanges : changesOf read (some side) raw = some changes) :
    ((applyOrderbookChanges (some side) book changes).levels = book.levels ↔
        LeavesLevels read data side (some book)) ∧
      (applyOrderbookChanges (some side) book changes = book ↔
        LeavesLevels read data side (some book) ∧ LeavesNumber read data side (some book)) := by
  have hwritten := written_of_not_named (outcome_of_changesOf hraw hnames hchanges)
  have hleaves : LeavesLevels read data side (some book) ↔ ∀ bookSide : BookSide,
      Ranked (fun level : Level => bookSide.rank level.price) (book.side bookSide) ∧
        Repeats (book.side bookSide) (written unnamed bookSide changes) := by
    constructor
    · exact fun h => h.changes outer raw changes book houter hlevels hraw hchanges rfl
    · intro h
      refine ⟨fun other hother hsome => ?_,
        fun _ raw' changes' book' _ _ hraw' hchanges' hbook => ?_⟩
      · cases houter.symm.trans hother
        exact absurd hlevels hsome
      · cases hraw.symm.trans hraw'
        cases hchanges.symm.trans hchanges'
        cases hbook
        exact h
  have hnumber : LeavesNumber read data side (some book) ↔
      (nextSequence changes = none ∧ book.status = .valid) ∨
        (∃ number, nextSequence changes = some number ∧ book.sequence = some number ∧
          book.status = .invalid) := by
    constructor
    · exact fun h => h.changes outer raw changes book houter hlevels hraw hchanges rfl
    · intro h
      refine ⟨fun other _ hother hsome => ?_,
        fun _ raw' changes' book' _ _ hraw' hchanges' hbook => ?_⟩
      · cases houter.symm.trans hother
        exact absurd hlevels hsome
      · cases hraw.symm.trans hraw'
        cases hchanges.symm.trans hchanges'
        cases hbook
        exact h
  rw [Book.eq_iff, hleaves, hnumber, applyOrderbookChanges_some, levels_applyChanges_eq_iff,
    applyChanges_number_iff]
  simp only [hwritten, and_self]

/-- The book of an outcome that the publication does not name, after the loop body. -/
theorem bookAfter_not_named {side : BinarySide} (hnames : ¬ Names read data side) {token : String}
    (hparse : parseTokenId read.parseInt token = some (marketId, some side))
    {cached after : Option Book} (h : bookAfter read data marketId token cached = some after) :
    (after.map Book.levels = cached.map Book.levels ↔ LeavesLevels read data side cached) ∧
      (after = cached ↔
        LeavesLevels read data side cached ∧ LeavesNumber read data side cached) := by
  have hnested : ¬ (nestedBook data side).isObject = true := fun h => hnames (.inr (.inl h))
  simp only [bookAfter, hparse, ne_eq, not_true_eq_false, if_false,
    orderBookOf_of_not_nested hnested] at h
  obtain ⟨outer, houter, h⟩ := Option.bind_eq_some_iff.mp h
  by_cases hlevels : outer.HasLevels [] []
  · rw [hasLevels_nil] at hlevels
    simp only [hlevels, not_true_eq_false, or_self, if_false] at h
    rw [← hasLevels_nil] at hlevels
    -- Without changes, or without a book to change, nothing is stored.
    have hnothing : (∀ raw book, changesIn data = some raw → cached = some book → False) →
        after = cached → (after.map Book.levels = cached.map Book.levels ↔
          LeavesLevels read data side cached) ∧ (after = cached ↔
          LeavesLevels read data side cached ∧ LeavesNumber read data side cached) := by
      rintro hno rfl
      have hleaves : LeavesLevels read data side after :=
        ⟨fun other hother hsome =>
          absurd (Option.some.inj (houter.symm.trans hother) ▸ hlevels) hsome,
          fun _ raw _ book _ _ hraw _ hbook => absurd hbook (hno raw book hraw)⟩
      have hleavesNumber : LeavesNumber read data side after :=
        ⟨fun other _ hother hsome =>
          absurd (Option.some.inj (houter.symm.trans hother) ▸ hlevels) hsome,
          fun _ raw _ book _ _ hraw _ hbook => absurd hbook (hno raw book hraw)⟩
      exact ⟨iff_of_true rfl hleaves, iff_of_true rfl ⟨hleaves, hleavesNumber⟩⟩
    cases hraw : changesIn data with
    | none =>
        rw [hraw] at h
        refine hnothing (fun raw book hsome _ => ?_) (Option.some.inj h).symm
        rw [hraw] at hsome
        cases hsome
    | some raw =>
        rw [hraw] at h
        cases cached with
        | none => exact hnothing (fun _ book _ hsome => by cases hsome) (Option.some.inj h).symm
        | some book =>
            obtain ⟨changes, hchanges, h⟩ := Option.bind_eq_some_iff.mp h
            cases h
            simp only [Option.map_some, Option.some.injEq]
            exact changes_iff hnames houter hlevels hraw hchanges
  · have hsome : outer.bids ≠ [] ∨ outer.asks ≠ [] := by
      rw [hasLevels_nil] at hlevels
      by_contra hnone
      rw [not_or, not_not, not_not] at hnone
      exact hlevels hnone
    rw [if_pos (by simpa using hsome)] at h
    cases h
    exact beside_iff houter hlevels cached

/-- **Outcomes of a market are isolated where nothing reaches both.**  A publication on the channel
of a market that does not name an outcome leaves the levels stored for that outcome exactly when
what it has for no outcome is stored there already, and leaves the whole book exactly when number
and status are too. -/
theorem other_outcome_unchanged_iff {tokens : List String} {before after : Dict String Book}
    {token : String} {side : BinarySide}
    (hpublication : publicationIn read payload = some (channel, marketId, data))
    (hnodup : tokens.Nodup) (hmem : token ∈ tokens)
    (hparse : parseTokenId read.parseInt token = some (marketId, some side))
    (hnames : ¬ Names read data side)
    (hafter : handleWsPayload read payload tokens before = .ok after) :
    ((after.get? token).map Book.levels = (before.get? token).map Book.levels ↔
        LeavesLevels read data side (before.get? token)) ∧
      (after.get? token = before.get? token ↔
        LeavesLevels read data side (before.get? token) ∧
          LeavesNumber read data side (before.get? token)) := by
  simp only [handleWsPayload, hpublication] at hafter
  exact bookAfter_not_named hnames hparse ((get?_handleTokens hnodup hafter token).1 hmem)

namespace IsolationExamples

open FullBookExamples

/-- An ask of outcome `NO` changes. -/
def noChange : Json :=
  published [("changes", .array [Json.ofFields [("outcome", .int 1), ("side", .text "ASK"),
    ("price", .text "0.25"), ("size", .text "3")]])]

/-- A book of outcome `NO` becomes the book of outcome `YES`. -/
theorem other_outcome_changed :
    ¬ ∀ (read : Reading) (payload data : Json) (channel : String) (marketId : ℤ)
      (tokens : List String) (before after : Dict String Book) (token other : String)
      (named : BinarySide), publicationIn read payload = some (channel, marketId, data) →
      tokens.Nodup → token ∈ tokens → other ∈ tokens →
      parseTokenId read.parseInt token = some (marketId, some named) →
      parseTokenId read.parseInt other = some (marketId, some named.opposite) →
      Names read data named → ¬ Names read data named.opposite →
      handleWsPayload read payload tokens before = .ok after →
      (after.get? other).map Book.levels = (before.get? other).map Book.levels := by
  intro h
  have hsame := h reading (push noBook) noBook "orderbook:56:7" 7 ["7:YES", "7:NO"] myriadBooks _
    "7:NO" "7:YES" .no rfl (by decide) (by decide) (by decide) (by decide +kernel)
    (by decide +kernel) (.inl (by decide)) ?_ rfl
  · revert hsame
    decide +kernel
  · rintro (houtcome | hnested | ⟨changes, hchanges, -⟩)
    · revert houtcome
      decide
    · revert hnested
      decide
    · cases hchanges

/-- A change that names outcome `NO` leaves the book of outcome `YES`. -/
theorem other_outcome_kept :
    ∃ after, handleWsPayload reading (push noChange) ["7:YES", "7:NO"] myriadBooks = .ok after ∧
      after.get? "7:YES" = myriadBooks.get? "7:YES" := by
  refine ⟨_, rfl, ?_⟩
  have hempty : ∀ outer, orderBookOf reading noChange none = some outer →
      outer.HasLevels [] [] := by
    intro outer houter
    cases houter
    exact ⟨.nil, .nil⟩
  apply ((@other_outcome_unchanged_iff reading (push noChange) noChange "orderbook:56:7" 7
    ["7:YES", "7:NO"] myriadBooks _ "7:YES" .yes rfl (by decide) (by decide) (by decide +kernel)
    ?_ rfl).2).mpr
  · refine ⟨⟨fun outer houter hsome => absurd (hempty outer houter) hsome, ?_⟩,
      ⟨fun outer _ houter hsome => absurd (hempty outer houter) hsome, ?_⟩⟩
    · intro outer raw changes book _ _ hraw hchanges hbook bookSide
      cases hraw
      cases hchanges
      cases hbook
      cases bookSide with
      | bids => exact ⟨List.pairwise_singleton _ _, fun _ _ h => by cases h⟩
      | asks => exact ⟨List.pairwise_singleton _ _, fun _ _ h => by cases h⟩
    · intro outer raw changes book _ _ hraw hchanges hbook
      cases hraw
      cases hchanges
      cases hbook
      exact .inl ⟨rfl, rfl⟩
  · rintro (houtcome | hnested | ⟨changes, hchanges, change, hmem, -, hnamed⟩)
    · revert houtcome
      decide
    · revert hnested
      decide
    · cases hchanges
      rw [List.mem_singleton.mp hmem] at hnamed
      revert hnamed
      decide

end IsolationExamples

end Myriad

end ArbitrageEngine
