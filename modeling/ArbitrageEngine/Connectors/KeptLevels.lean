/-
# ArbitrageEngine.Connectors.KeptLevels -- the ten levels a Polymarket book keeps

A full book is cut to ten levels a side when it is stored, and so is every changed book.  What was
cut off is forgotten: when better levels are removed, nothing moves up.  The Myriad connector
applies changes with the same loop and keeps every level.

So the stored book is compared with the book that keeps every level.  Both agree on the ten best
levels as long as no message lets a level that is not stored get among them, and not after one does.
-/
import ArbitrageEngine.Connectors.StreamedBooks
import ArbitrageEngine.Lib.BestEntries

namespace ArbitrageEngine

open Lib Lib.Replay

namespace MarketData

/-! ## The sides of a book -/

def Book.side (book : Book) : BookSide → List Level
  | .bids => book.bids
  | .asks => book.asks

def Sizes.side (sizes : Sizes) : BookSide → Dict ℚ ℚ
  | .bids => sizes.bids
  | .asks => sizes.asks

/-- The best price of a side has the least rank. -/
def BookSide.rank : BookSide → ℚ → ℚ
  | .bids, price => -price
  | .asks, price => price

/-- The levels of a side, from the best one on. -/
def BookSide.sorted : BookSide → List Level → List Level
  | .bids => sortedBids
  | .asks => sortedAsks

/-- The size of the last level with this price. -/
def lastSize (levels : List Level) (price : ℚ) : Option ℚ :=
  (levels.reverse.find? fun level => level.price = price).map (·.size)

/-- The levels that a message writes to a side. -/
def written (applies : Change → Bool) (side : BookSide) (changes : List Change) : List Level :=
  changes.filterMap fun change =>
    if applies change ∧ change.bookSide = some side then change.level else none

theorem lastSize_concat (levels : List Level) (level : Level) (price : ℚ) :
    lastSize (levels ++ [level]) price =
      if level.price = price then some level.size else lastSize levels price := by
  unfold lastSize
  rw [List.reverse_append, List.reverse_singleton, List.singleton_append, List.find?_cons]
  by_cases h : level.price = price <;> simp [h]

theorem lastSize_isSome {levels : List Level} {price : ℚ} :
    (lastSize levels price).isSome ↔ price ∈ levels.map (·.price) := by
  unfold lastSize
  rw [Option.isSome_map, List.find?_isSome]
  simp

/-! ## Levels by price -/

theorem get?_byPrice (levels : List Level) (price : ℚ) :
    (Sizes.byPrice levels).get? price = lastSize levels price := by
  induction levels using List.reverseRecOn with
  | nil => rfl
  | append_singleton levels level ih =>
      rw [Sizes.byPrice, List.foldl_append, lastSize_concat]
      show ((Sizes.byPrice levels).set level.price level.size).get? price = _
      rw [Dict.get?_set, ih]
      simp only [eq_comm]

/-- What a size does when it is written: one that is not positive removes its price. -/
def standing (size : ℚ) : Option ℚ := if size ≤ 0 then none else some size

theorem get?_writePrice (sizes : Dict ℚ ℚ) (level : Level) (price : ℚ) :
    (Sizes.writePrice sizes level).get? price =
      if level.price = price then standing level.size else sizes.get? price := by
  unfold Sizes.writePrice standing
  by_cases hsame : level.price = price
  · subst hsame
    split <;> simp
  · have hne : price ≠ level.price := fun h => hsame h.symm
    split <;> simp [hne]

theorem get?_foldl_writePrice (changed : List Level) (sizes : Dict ℚ ℚ) (price : ℚ) :
    (changed.foldl Sizes.writePrice sizes).get? price =
      match lastSize changed price with
      | some size => standing size
      | none => sizes.get? price := by
  induction changed using List.reverseRecOn with
  | nil => rfl
  | append_singleton changed level ih =>
      rw [List.foldl_append, List.foldl_cons, List.foldl_nil, get?_writePrice, lastSize_concat]
      by_cases hsame : level.price = price
      · simp [hsame]
      · simp [hsame, ih]

theorem written_cons (applies : Change → Bool) (side : BookSide) (change : Change)
    (rest : List Change) : written applies side (change :: rest) =
      (if applies change ∧ change.bookSide = some side then change.level else none).toList
        ++ written applies side rest := by
  unfold written
  rw [List.filterMap_cons]
  split <;> simp [*]

theorem side_writeChanges (applies : Change → Bool) (changes : List Change) (side : BookSide)
    (sizes : Sizes) : (writeChanges applies changes sizes).side side =
      (written applies side changes).foldl Sizes.writePrice (sizes.side side) := by
  induction changes generalizing sizes with
  | nil => rfl
  | cons change rest ih =>
      rw [written_cons, List.foldl_append, writeChanges, List.foldl_cons]
      show (writeChanges applies rest _).side side = _
      rw [ih]
      congr 1
      cases happlies : applies change with
      | false => simp
      | true =>
          cases hlevel : change.level with
          | none => simp
          | some level =>
              cases hside : change.bookSide with
              | none => simp
              | some other => cases side <;> cases other <;> simp [Sizes.write, Sizes.side]

theorem mem_levels {sizes : Dict ℚ ℚ} {level : Level} :
    level ∈ Sizes.levels sizes ↔ sizes.get? level.price = some level.size := by
  rw [Dict.get?_eq_some_iff, Sizes.levels, List.mem_map]
  constructor
  · rintro ⟨entry, hentry, rfl⟩
    exact hentry
  · intro hentry
    exact ⟨_, hentry, rfl⟩

theorem sorted_perm (side : BookSide) (levels : List Level) : (side.sorted levels).Perm levels := by
  cases side with
  | bids => exact List.perm_insertionSort _ _
  | asks => exact List.perm_insertionSort _ _

/-- Sorted levels by price are in strict order. -/
theorem ranked_sorted (side : BookSide) (sizes : Dict ℚ ℚ) :
    Ranked (fun level : Level => side.rank level.price) (side.sorted (Sizes.levels sizes)) := by
  have hprices : ((Sizes.levels sizes).map (·.price)).Nodup := by
    rw [Sizes.levels, List.map_map]
    exact sizes.nodup
  have hdistinct : (side.sorted (Sizes.levels sizes)).Pairwise fun a b => a.price ≠ b.price := by
    rw [← List.pairwise_map (f := Level.price) (R := (· ≠ ·))]
    exact ((sorted_perm side _).map _).nodup_iff.mpr hprices
  have hsorted : (side.sorted (Sizes.levels sizes)).Pairwise fun a b =>
      side.rank a.price ≤ side.rank b.price := by
    cases side with
    | bids =>
        have : Std.Total fun a b : Level => b.price ≤ a.price := ⟨fun a b => le_total _ _⟩
        have : IsTrans Level fun a b => b.price ≤ a.price := ⟨fun a b c hab hbc => hbc.trans hab⟩
        exact (List.pairwise_insertionSort _ _).imp fun h => neg_le_neg h
    | asks =>
        have : Std.Total fun a b : Level => a.price ≤ b.price := ⟨fun a b => le_total _ _⟩
        have : IsTrans Level fun a b => a.price ≤ b.price := ⟨fun a b c hab hbc => hab.trans hbc⟩
        exact List.pairwise_insertionSort _ _
  refine (hsorted.and hdistinct).imp ?_
  rintro a b ⟨hle, hne⟩
  apply lt_of_le_of_ne hle
  cases side with
  | bids => exact fun heq => hne (neg_injective heq)
  | asks => exact hne

/-! ## Which levels are among the best -/

/-- The size at a price once these levels were read and the changed ones written. -/
def sizeAfter (levels changed : List Level) (price : ℚ) : Option ℚ :=
  match lastSize changed price with
  | some size => standing size
  | none => lastSize levels price

/-- The levels of a side after a message. -/
def levelsAfter (side : BookSide) (levels changed : List Level) : List Level :=
  side.sorted (Sizes.levels (changed.foldl Sizes.writePrice (Sizes.byPrice levels)))

/-- Does a price that had a level, or that the message writes, have one after the message? -/
def stands (changed : List Level) (price : ℚ) : Bool := (lastSize changed price).all (0 < ·)

/-- The prices of these levels and of the message that stand after it. -/
def standingPrices (levels changed : List Level) : List ℚ :=
  ((levels ++ changed).map (·.price)).dedup.filter (stands changed)

/-- Nothing that is not stored gets among the ten best.  Where the first ten levels of a side do not
show the size that all of them show at a price, and the message does not write that price, ten
better prices stand that are stored or written. -/
def NothingSurfaces (side : BookSide) (before changed : List Level) : Prop :=
  ∀ level ∈ before, lastSize (before.take 10) level.price ≠ lastSize before level.price →
    lastSize changed level.price = none →
      10 ≤ ahead side.rank (standingPrices (before.take 10) changed) (side.rank level.price)

instance (side : BookSide) (before changed : List Level) :
    Decidable (NothingSurfaces side before changed) :=
  inferInstanceAs (Decidable (∀ level ∈ before, _ → _ → _))

theorem mem_levelsAfter {side : BookSide} {levels changed : List Level} {level : Level} :
    level ∈ levelsAfter side levels changed ↔
      sizeAfter levels changed level.price = some level.size := by
  rw [levelsAfter, (sorted_perm side _).mem_iff, mem_levels, get?_foldl_writePrice, get?_byPrice]
  rfl

theorem mem_standingPrices {levels changed : List Level} {price : ℚ} :
    price ∈ standingPrices levels changed ↔ (sizeAfter levels changed price).isSome := by
  rw [standingPrices, List.mem_filter, List.mem_dedup, List.map_append, List.mem_append,
    ← lastSize_isSome, ← lastSize_isSome, stands, sizeAfter]
  cases hchanged : lastSize changed price with
  | none => simp
  | some size =>
      by_cases hpositive : 0 < size
      · simp [standing, hpositive, not_le.mpr hpositive]
      · simp [standing, hpositive, not_lt.mp hpositive]

theorem ranked_levelsAfter (side : BookSide) (levels changed : List Level) :
    Ranked (fun level : Level => side.rank level.price) (levelsAfter side levels changed) :=
  ranked_sorted side _

/-- The levels after a message stand at the standing prices. -/
theorem ahead_levelsAfter (side : BookSide) (levels changed : List Level) (bound : ℚ) :
    ahead (fun level : Level => side.rank level.price) (levelsAfter side levels changed) bound =
      ahead side.rank (standingPrices levels changed) bound := by
  have hperm : ((levelsAfter side levels changed).map (·.price)).Perm
      (standingPrices levels changed) := by
    apply (List.perm_ext_iff_of_nodup ?_ ?_).mpr
    · intro price
      rw [mem_standingPrices, List.mem_map, Option.isSome_iff_exists]
      constructor
      · rintro ⟨level, hlevel, rfl⟩
        exact ⟨level.size, mem_levelsAfter.mp hlevel⟩
      · rintro ⟨size, hsize⟩
        exact ⟨⟨price, size⟩, mem_levelsAfter.mpr hsize, rfl⟩
    · apply List.Nodup.of_map side.rank
      rw [List.map_map]
      exact (ranked_levelsAfter side levels changed).nodup_map
    · exact (List.nodup_dedup _).filter _
  rw [ahead, ahead, ← hperm.countP_eq, List.countP_map]
  rfl

/-- **The step.**  The first ten levels, changed by the message, have the ten best of all levels
changed by it exactly when nothing surfaces. -/
theorem take_levelsAfter_iff (side : BookSide) (before changed : List Level) :
    (levelsAfter side (before.take 10) changed).take 10 = (levelsAfter side before changed).take 10
      ↔ NothingSurfaces side before changed := by
  have hkept : ∀ price, (lastSize (before.take 10) price).isSome →
      (lastSize before price).isSome := by
    intro price h
    rw [lastSize_isSome] at h ⊢
    exact ((List.take_sublist 10 before).map _).subset h
  have hranks : ∀ a ∈ levelsAfter side (before.take 10) changed,
      ∃ b ∈ levelsAfter side before changed, side.rank b.price = side.rank a.price := by
    intro a ha
    have hsome : (sizeAfter before changed a.price).isSome := by
      have hsize := mem_levelsAfter.mp ha
      unfold sizeAfter at hsize ⊢
      cases hchanged : lastSize changed a.price with
      | some size => simp [hchanged] at hsize ⊢; simp [hsize]
      | none =>
          rw [hchanged] at hsize
          exact hkept a.price (Option.isSome_iff_exists.mpr ⟨_, hsize⟩)
    obtain ⟨size, hsize⟩ := Option.isSome_iff_exists.mp hsome
    exact ⟨⟨a.price, size⟩, mem_levelsAfter.mpr hsize, rfl⟩
  rw [Ranked.take_eq_take_iff (ranked_levelsAfter side _ _) (ranked_levelsAfter side _ _) hranks]
  simp only [ahead_levelsAfter]
  constructor
  · intro hall level hlevel hhidden hunwritten
    obtain ⟨size, hsize⟩ := Option.isSome_iff_exists.mp
      (lastSize_isSome.mpr (List.mem_map_of_mem hlevel))
    apply hall ⟨level.price, size⟩
    · rw [mem_levelsAfter]
      simpa [sizeAfter, hunwritten] using hsize
    · rw [mem_levelsAfter]
      simpa [sizeAfter, hunwritten, ← hsize] using hhidden
  · intro hall a ha hnot
    rw [mem_levelsAfter] at ha hnot
    have hunwritten : lastSize changed a.price = none := by
      by_contra hwritten
      obtain ⟨size, hsize⟩ := Option.ne_none_iff_exists'.mp hwritten
      apply hnot
      rw [← ha]
      simp [sizeAfter, hsize]
    simp only [sizeAfter, hunwritten] at ha hnot
    have hmem : a.price ∈ before.map (·.price) :=
      lastSize_isSome.mp (Option.isSome_iff_exists.mpr ⟨_, ha⟩)
    obtain ⟨level, hlevel, hprice⟩ := List.mem_map.mp hmem
    have hprice : level.price = a.price := hprice
    have hten := hall level hlevel (by rw [hprice, ha]; exact hnot) (hprice ▸ hunwritten)
    rwa [hprice] at hten

/-- The ten best levels of either side. -/
def Book.best (book : Book) : Book :=
  { book with bids := book.bids.take 10, asks := book.asks.take 10 }

theorem applyChanges_best_eq_iff (applies : Change → Bool) (book : Book)
    (changes : List Change) :
    applyChanges applies (List.take 10) book.best changes =
        (applyChanges applies id book changes).best ↔
      ∀ side, NothingSurfaces side (book.side side) (written applies side changes) := by
  have hside : ∀ side, ∀ kept : Book, side.sorted (Sizes.levels
      ((writeChanges applies changes (Sizes.ofBook kept)).side side)) =
        levelsAfter side (kept.side side) (written applies side changes) := by
    intro side kept
    rw [side_writeChanges, levelsAfter]
    cases side <;> rfl
  have hbids := take_levelsAfter_iff .bids book.bids (written applies .bids changes)
  have hasks := take_levelsAfter_iff .asks book.asks (written applies .asks changes)
  rw [← show (Book.best book).side .bids = book.bids.take 10 from rfl, ← hside .bids,
    ← show book.side .bids = book.bids from rfl, ← hside .bids] at hbids
  rw [← show (Book.best book).side .asks = book.asks.take 10 from rfl, ← hside .asks,
    ← show book.side .asks = book.asks from rfl, ← hside .asks] at hasks
  constructor
  · intro heq side
    cases side with
    | bids => exact hbids.mp (congrArg Book.bids heq)
    | asks => exact hasks.mp (congrArg Book.asks heq)
  · intro hall
    exact (Book.mk.injEq ..).mpr ⟨hbids.mpr (hall .bids), hasks.mpr (hall .asks), rfl, rfl⟩

end MarketData

/-! ## The stored book over a stream -/

namespace Polymarket

open MarketData

/-- The loop body of `_handle_ws_payload`. -/
def handled (cache : BookCache) (item : Item) : BookCache :=
  ((⟨cache, {}⟩ : Watched).take applyPriceChanges (.deliver (handleItem cache item))).cache

/-- `_handle_ws_payload`: the items of a payload one after another. -/
def handleWsPayload (cache : BookCache) (items : List Item) : BookCache := items.foldl handled cache

/-- A message without a full book: it can only change books. -/
def Item.ChangesOnly (item : Item) : Prop := item.levels = none

/-- The changes of the message reach the book of the token. -/
def Item.reaches (item : Item) (token : String) : Bool :=
  item.changes.isSome && token ∈ namedTokens item (item.changes.getD [])

/-- Does the change apply to the token's book? -/
def appliesTo (token : String) (change : Change) : Bool := change.token.all (· = token)

/-- A full book with all its levels. -/
def uncutSnapshot (bids asks : List Level) (sequence : Option ℤ) : Book where
  bids := sortedBids bids
  asks := sortedAsks asks
  sequence := sequence

/-- The token's book with all its levels, after the message. -/
def uncutChanged (token : String) (book : Book) (item : Item) : Book :=
  if item.reaches token then
    applyChanges (appliesTo token) id book (item.changes.getD [])
  else book

/-- The token's book with all its levels, after a full book and the messages that came then. -/
def uncut (token : String) (snapshot : Book) (messages : List Item) : Book :=
  messages.foldl (uncutChanged token) snapshot

/-- The message lets no level of the token's book that is not stored get among the ten best. -/
def LeavesBest (token : String) (book : Book) (message : Item) : Prop :=
  message.reaches token = true → ∀ side, NothingSurfaces side (book.side side)
    (written (appliesTo token) side (message.changes.getD []))

theorem handleWsPayload_concat (cache : BookCache) (items : List Item) (item : Item) :
    handleWsPayload cache (items ++ [item]) = handled (handleWsPayload cache items) item :=
  List.foldl_append

theorem targets_handleWsPayload (cache : BookCache) (items : List Item) :
    (handleWsPayload cache items).targets = cache.targets := by
  induction items generalizing cache with
  | nil => rfl
  | cons item rest ih => exact ih (handled cache item)

/-- A full book of a target is stored with its ten best levels. -/
theorem books_handled_snapshot {cache : BookCache} {item : Item} {bids asks : List Level}
    (hlevels : item.levels = some (bids, asks))
    (htarget : (cache.targets.get? item.token).isSome) :
    (handled cache item).books =
      cache.books.set item.token (uncutSnapshot bids asks item.sequence).best := by
  have hdelivery : handleItem cache item =
      .full item.token (orderBookFromPayload bids asks item.sequence) := by
    rw [handleItem, hlevels]
    exact if_pos htarget
  rw [handled, Watched.take, hdelivery]
  rfl

/-- A message without a full book changes the book of a target if it reaches it. -/
theorem get?_handled_changes {cache : BookCache} {item : Item} {token : String}
    (hchanges : item.ChangesOnly) (htarget : (cache.targets.get? token).isSome) :
    (handled cache item).books.get? token =
      if item.reaches token then
        (cache.books.get? token).map fun book =>
          applyPriceChanges token book (item.changes.getD [])
      else cache.books.get? token := by
  have hdelivery : handleItem cache item = handleItem.handleChanges cache item := by
    rw [handleItem, hchanges]
  have hmem : token ∈ cache.targets.keys := Dict.mem_keys_iff.mpr htarget
  show ((handleItem cache item).tokens.foldl (treat applyPriceChanges _ _) _).get? token = _
  rw [get?_foldl_treat _ _ _ _ (handleItem cache item).nodup, hdelivery]
  simp only [handleItem.handleChanges, List.mem_filter, hmem, true_and, decide_eq_true_eq,
    Item.reaches, Bool.and_eq_true]
  by_cases hsome : item.changes.isSome
  · simp [hsome, Treatment.after]
  · simp [hsome, Treatment.after]

theorem uncut_concat (token : String) (snapshot : Book) (messages : List Item) (message : Item) :
    uncut token snapshot (messages ++ [message]) =
      uncutChanged token (uncut token snapshot messages) message :=
  List.foldl_append

/-- **Where the stored book has the ten best levels.**  After a full book of a target and any
messages that change books, the stored book is the ten best levels of the book with all levels, at
every point of the stream, exactly when no message lets a level that is not stored get among them. -/
theorem stored_best_iff {cache : BookCache} {snapshot : Item} {bids asks : List Level}
    {messages : List Item} (hsnapshot : snapshot.levels = some (bids, asks))
    (htarget : (cache.targets.get? snapshot.token).isSome)
    (hmessages : ∀ message ∈ messages, message.ChangesOnly) :
    (∀ seen, seen <+: messages →
        (handleWsPayload cache (snapshot :: seen)).books.get? snapshot.token = some
          (uncut snapshot.token (uncutSnapshot bids asks snapshot.sequence) seen).best)
      ↔ ∀ seen message, seen ++ [message] <+: messages →
          LeavesBest snapshot.token
            (uncut snapshot.token (uncutSnapshot bids asks snapshot.sequence) seen) message := by
  -- Where both agree before a message, they agree after it if nothing surfaces, and only then.
  have hstep : ∀ seen message, seen ++ [message] <+: messages →
      (handleWsPayload cache (snapshot :: seen)).books.get? snapshot.token = some
        (uncut snapshot.token (uncutSnapshot bids asks snapshot.sequence) seen).best →
      ((handleWsPayload cache (snapshot :: (seen ++ [message]))).books.get? snapshot.token = some
          (uncut snapshot.token (uncutSnapshot bids asks snapshot.sequence)
            (seen ++ [message])).best ↔
        LeavesBest snapshot.token
          (uncut snapshot.token (uncutSnapshot bids asks snapshot.sequence) seen) message) := by
    intro seen message hnext hbefore
    have hmem : message ∈ messages :=
      List.IsPrefix.subset hnext (List.mem_append_right _ (List.mem_singleton_self message))
    have hchanges : message.ChangesOnly := hmessages message hmem
    have htarget' : ((handleWsPayload cache (snapshot :: seen)).targets.get?
        snapshot.token).isSome := by
      rw [targets_handleWsPayload]
      exact htarget
    rw [← List.cons_append, handleWsPayload_concat, get?_handled_changes hchanges htarget',
      hbefore, uncut_concat, uncutChanged, LeavesBest]
    by_cases hreaches : message.reaches snapshot.token
    · simp only [hreaches, if_true, Option.map_some, Option.some.injEq, true_imp_iff]
      exact applyChanges_best_eq_iff (appliesTo snapshot.token) _ _
    · simp [hreaches]
  constructor
  · intro hagree seen message hnext
    have hseen : seen <+: messages := (List.prefix_append seen [message]).trans hnext
    exact (hstep seen message hnext (hagree seen hseen)).mp (hagree _ hnext)
  · intro hleaves seen
    induction seen using List.reverseRecOn with
    | nil =>
        intro _
        show (handled cache snapshot).books.get? snapshot.token = _
        rw [books_handled_snapshot hsnapshot htarget]
        exact Dict.get?_set_self _ _ _
    | append_singleton seen message ih =>
        intro hnext
        have hseen : seen <+: messages := (List.prefix_append seen [message]).trans hnext
        exact (hstep seen message hnext (ih hseen)).mpr (hleaves seen message hnext)

namespace KeptLevelExamples

/-- The connector wants books of token `t`. -/
def wanted : BookCache := { targets := (Dict.empty : TokenSet).set "t" () }

/-- Eleven asks, one at each cent from 0.30 on. -/
def snapshot : Item where
  token := "t"
  levels := some ([⟨1 / 5, 10⟩], (List.range 11).map fun i => ⟨(30 + i) / 100, 10⟩)
  sequence := some 1

/-- The ask at this price gets this size. -/
def asked (price size : ℚ) (sequence : ℤ) : Item where
  token := "t"
  changes := some [⟨"t", some "t", none, some ⟨price, size⟩, "SELL", some sequence⟩]

/-- The best ask is removed, and the ask at 0.40 is not seen again. -/
theorem best_ten_forgotten : ¬ ∀ (cache : BookCache) (snapshot : Item) (bids asks : List Level)
    (messages : List Item), snapshot.levels = some (bids, asks) →
    (cache.targets.get? snapshot.token).isSome → (∀ message ∈ messages, message.ChangesOnly) →
    Consecutive snapshot.sequence (messages.map fun m => nextSequence (m.changes.getD [])) →
    (handleWsPayload cache (snapshot :: messages)).books.get? snapshot.token = some
      (uncut snapshot.token (uncutSnapshot bids asks snapshot.sequence) messages).best := by
  intro h
  have hfails := h wanted snapshot _ _ [asked (3 / 10) 0 2] rfl (by decide +kernel)
    (by intro message hmem; rw [List.mem_singleton.mp hmem]; rfl) ⟨by decide +kernel, trivial⟩
  revert hfails
  decide +kernel

/-- The untruncated book of the snapshot with some messages applied. -/
def whole (seen : List Item) : Book :=
  uncut "t" (uncutSnapshot [⟨1 / 5, 10⟩] ((List.range 11).map fun i => ⟨(30 + i) / 100, 10⟩)
    (some 1)) seen

/-- The best ask changes its size and a better one comes: both agree throughout. -/
theorem best_ten_kept :
    (handleWsPayload wanted [snapshot]).books.get? "t" = some (whole []).best
      ∧ (handleWsPayload wanted [snapshot, asked (3 / 10) 5 2]).books.get? "t"
        = some (whole [asked (3 / 10) 5 2]).best
      ∧ (handleWsPayload wanted [snapshot, asked (3 / 10) 5 2, asked (7 / 25) 4 3]).books.get? "t"
        = some (whole [asked (3 / 10) 5 2, asked (7 / 25) 4 3]).best := by
  have hleaves : ∀ pair ∈ [([], asked (3 / 10) 5 2), ([asked (3 / 10) 5 2], asked (7 / 25) 4 3)],
      ∀ side ∈ [BookSide.bids, BookSide.asks],
        NothingSurfaces side ((uncut "t" (uncutSnapshot [⟨1 / 5, 10⟩]
          ((List.range 11).map fun i => ⟨(30 + i) / 100, 10⟩) (some 1)) pair.1).side side)
          (written (appliesTo "t") side (pair.2.changes.getD [])) := by
    decide +kernel
  have hthroughout : ∀ seen, seen <+: [asked (3 / 10) 5 2, asked (7 / 25) 4 3] →
      (handleWsPayload wanted (snapshot :: seen)).books.get? "t" = some (whole seen).best := by
    apply (@stored_best_iff wanted snapshot _ _ _ rfl (by decide +kernel) ?_).mpr
    · intro seen message hnext _ side
      have hside : side ∈ [BookSide.bids, BookSide.asks] := by cases side <;> decide
      have hpair : (seen, message) ∈
          [([], asked (3 / 10) 5 2), ([asked (3 / 10) 5 2], asked (7 / 25) 4 3)] := by
        obtain ⟨rest, hrest⟩ := hnext
        match seen, hrest with
        | [], hrest => cases hrest; simp
        | [first], hrest => cases hrest; simp
        | _ :: _ :: _ :: _, hrest => simp at hrest
        | [_, _], hrest => simp at hrest
      exact hleaves _ hpair side hside
    · intro message hmem
      rcases List.mem_cons.mp hmem with rfl | hmem
      · rfl
      · rw [List.mem_singleton.mp hmem]
        rfl
  refine ⟨hthroughout [] ?_, hthroughout [_] ?_, hthroughout [_, _] ?_⟩
  · exact List.nil_prefix
  · exact ⟨[_], rfl⟩
  · exact List.prefix_refl _

end KeptLevelExamples

end Polymarket

end ArbitrageEngine
