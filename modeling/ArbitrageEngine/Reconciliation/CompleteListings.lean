/-
# ArbitrageEngine.Reconciliation.CompleteListings -- what the listings of an account leave out

A listing that does not raise has what the connector is made to list: every open order, every fill
and the sum of the positions of every token, each record once, whatever pages the venue needs.  That
is so for the listings by cursor and by offset, and for the others as long as the records fit on the
pages that are asked for.  By design, Polymarket's open orders are those of the first page, SX Bet
has none, and a 404 for the fills or positions of Predict.fun and Myriad means that there are none.

Different fills have different ids if the field that the connector reads for the id has a value in
each of them, and different ones.
-/
import ArbitrageEngine.Reconciliation.AccountListings

namespace ArbitrageEngine.Reconciliation.Listings

open Lib (Dict slice Linked)
open Lib.Effect (exists_of_bind_ok)
open OrderReadings (FloatReading Json str textOr floatOf decimalOf optionalInt)
open OrderReadings.Opinion (get)

/-! ## Requests and records -/

theorem eq_of_answered {α : Type} {fails : ℕ → Option Fault} {request : ℕ} {answer result : α}
    (h : answered fails request answer = .ok result) : result = answer := by
  unfold answered at h
  split at h
  · cases h
  · exact (Except.ok.inj h).symm

/-- What is read of some records are the entries of those that are kept, in their order. -/
theorem eq_of_readRecords {α : Type} {keep : Json → Bool} {read : Json → Except Fault Unit}
    {entry : Json → α} {rows : List Json} {entries : List α}
    (h : readRecords keep read entry rows = .ok entries) :
    entries = (rows.filter keep).map entry := by
  unfold readRecords at h
  generalize rows.filter keep = kept at h ⊢
  induction kept generalizing entries with
  | nil =>
    cases h
    rfl
  | cons row rest ih =>
    rw [List.mapM_cons] at h
    obtain ⟨first, hfirst, h⟩ := exists_of_bind_ok h
    obtain ⟨others, hothers, h⟩ := exists_of_bind_ok h
    have hentry : first = entry row := by
      cases hread : read row with
      | error fault =>
        rw [hread] at hfirst
        cases hfirst
      | ok value =>
        rw [hread] at hfirst
        exact (Except.ok.inj hfirst).symm
    rw [← Except.ok.inj h, hentry, ih hothers, List.map_cons]

theorem eq_of_readRecords_all {α : Type} {read : Json → Except Fault Unit} {entry : Json → α}
    {rows : List Json} {entries : List α}
    (h : readRecords (fun _ => true) read entry rows = .ok entries) : entries = rows.map entry := by
  rw [eq_of_readRecords h, List.filter_eq_self.mpr fun _ _ => rfl]

/-! ## Sums -/

/-- The sum of the amounts of a token, in their order, if there are any. -/
def tally (held : List (String × Dec)) (token : String) : Option Dec :=
  match held.filter fun pair => pair.1 = token with
  | [] => none
  | own => some (own.foldl (fun sum pair => Dec.add sum pair.2) 0)

theorem get?_addPositions (held : List (String × Dec)) (token : String)
    (positions : Dict String Dec) :
    (held.foldl (fun positions pair => addPosition positions pair.1 pair.2) positions).get? token =
      match held.filter fun pair => pair.1 = token with
      | [] => positions.get? token
      | own => some (own.foldl (fun sum pair => Dec.add sum pair.2)
          ((positions.get? token).getD 0)) := by
  induction held generalizing positions with
  | nil => rfl
  | cons pair rest ih =>
    rw [List.foldl_cons, ih]
    by_cases hown : pair.1 = token
    · have hget : (addPosition positions pair.1 pair.2).get? token =
          some (Dec.add ((positions.get? token).getD 0) pair.2) := by
        subst hown
        exact Dict.get?_set_self _ _ _
      rw [List.filter_cons_of_pos (by simpa using hown), hget]
      cases rest.filter fun pair => pair.1 = token with
      | nil => rfl
      | cons own others => rfl
    · have hget : (addPosition positions pair.1 pair.2).get? token = positions.get? token :=
        Dict.get?_set_of_ne _ (fun h => hown h.symm) _
      rw [List.filter_cons_of_neg (by simpa using hown), hget]

/-- A loop that skips some is one over the others. -/
theorem foldl_elim {α β γ : Type} (read : α → Option β) (add : γ → β → γ) (rows : List α)
    (start : γ) :
    rows.foldl (fun sum row => (read row).elim sum (add sum)) start =
      (rows.filterMap read).foldl add start := by
  rw [List.foldl_filterMap]
  congr 1
  funext sum row
  cases read row <;> rfl

/-- A loop that skips no row sums up what is held of every token. -/
theorem get?_sumPositions {holding : Json → Option (String × Dec)} (rows : List Json)
    (token : String) :
    (sumPositions holding rows).get? token = tally (rows.filterMap holding) token := by
  unfold sumPositions
  rw [foldl_elim holding fun positions pair => addPosition positions pair.1 pair.2,
    get?_addPositions]
  unfold tally
  cases (rows.filterMap holding).filter fun pair => pair.1 = token with
  | nil => rfl
  | cons own others => rfl

/-! ## Pages -/

theorem Opinion.Account.limit_pos (account : Opinion.Account) : 0 < account.limit := by
  unfold Opinion.Account.limit
  omega

/-- `_paginate` gets the records of the pages it asks for, or all there are. -/
theorem Opinion.eq_of_paginate {account : Opinion.Account} {shelf : Shelf} (pagesLeft : ℕ) :
    ∀ {page : ℕ} {rows : List Json},
      Opinion.paginate account.limit (account.request shelf) pagesLeft (page + 1)
        (shelf.records.take (page * account.limit)) = .ok rows →
      rows = shelf.records.take ((page + pagesLeft) * account.limit) := by
  induction pagesLeft with
  | zero =>
    intro page rows h
    exact (Except.ok.inj h).symm
  | succ pagesLeft ih =>
    intro page rows h
    have hmono : (page + 1) * account.limit ≤ (page + (pagesLeft + 1)) * account.limit :=
      Nat.mul_le_mul_right _ (by omega)
    -- what has all records is what is wanted, however many pages were left
    have hall : ∀ {m : ℕ}, m * account.limit ≤ (page + (pagesLeft + 1)) * account.limit →
        shelf.records.length ≤ m * account.limit →
        shelf.records.take (m * account.limit) =
          shelf.records.take ((page + (pagesLeft + 1)) * account.limit) := by
      intro m hm hle
      rw [List.take_of_length_le hle, List.take_of_length_le (Nat.le_trans hle hm)]
    simp only [paginate, Account.request] at h
    cases hanswer : answered shelf.fails (page + 1) (some
        { list := some (slice shelf.records account.limit (page + 1))
          total := if account.reportsTotal then some (shelf.records.length : ℤ) else none :
            PageResult }) with
    | error fault =>
      rw [hanswer] at h
      cases h
    | ok result =>
      have hresult := eq_of_answered hanswer
      subst hresult
      rw [hanswer] at h
      simp only [Option.getD_some, Lib.take_append_slice] at h
      have hreported : ∀ total ∈ (if account.reportsTotal then some (shelf.records.length : ℤ)
          else none), total = shelf.records.length := by
        intro total htotal
        split at htotal
        · exact (Option.some.inj htotal).symm
        · cases htotal
      generalize (if account.reportsTotal then some (shelf.records.length : ℤ) else none) =
        reported at h hreported
      split at h
      · next hempty =>
        rw [List.isEmpty_iff] at hempty
        have hle : shelf.records.length ≤ page * account.limit := by
          have hlength := congrArg List.length hempty
          have hpos : 0 < account.limit := account.limit_pos
          simp only [slice, Nat.add_sub_cancel, List.length_take, List.length_drop,
            List.length_nil] at hlength
          omega
        rw [← Except.ok.inj h]
        exact hall (Nat.mul_le_mul_right _ (by omega)) hle
      · split at h
        · next htotal =>
          rw [← Except.ok.inj h]
          refine hall hmono ?_
          obtain ⟨total, hsome, hle⟩ := (Option.any_eq_true _ _).mp htotal
          rw [hreported total hsome, decide_eq_true_eq, Nat.cast_le, List.length_take] at hle
          omega
        · split at h
          · next hshort =>
            have hlast := Lib.take_of_slice_short hshort
            rw [← Except.ok.inj h]
            refine hall hmono ?_
            have hlength := congrArg List.length hlast
            rw [List.length_take] at hlength
            omega
          · rw [ih h, Nat.add_assoc, Nat.add_comm 1 pagesLeft]

theorem Opinion.Account.eq_of_listed {account : Opinion.Account} {shelf : Shelf} {rows : List Json}
    (hfits : shelf.records.length ≤ Opinion.maxPages * account.limit)
    (h : account.listed shelf = .ok rows) : rows = shelf.records := by
  have hall : rows = shelf.records.take ((0 + Opinion.maxPages) * account.limit) :=
    Opinion.eq_of_paginate Opinion.maxPages (by
      rw [Nat.zero_mul, List.take_zero]
      exact h)
  rw [hall, Nat.zero_add, List.take_of_length_le hfits]

theorem eq_of_envelope {keys : List String} {shelf : Shelf} {envelope : Envelope keys} {limit : ℕ}
    {rows : List Json} (hfits : shelf.records.length ≤ limit)
    (h : (answered shelf.fails 1 (envelope.wrap (slice shelf.records limit 1))).map
      (extractRecords keys) = .ok rows) : rows = shelf.records := by
  cases hanswer : answered shelf.fails 1 (envelope.wrap (slice shelf.records limit 1)) with
  | error fault =>
    rw [hanswer] at h
    cases h
  | ok payload =>
    rw [hanswer] at h
    rw [← Except.ok.inj h, eq_of_answered hanswer, envelope.finds, Lib.slice_one,
      List.take_of_length_le hfits]

/-- A 404 gives the empty listing, and every other answer what it says. -/
theorem emptyIfNotFound_eq_ok {α : Type} {empty result : α} {answer : Except Fault α}
    (h : emptyIfNotFound empty answer = .ok result) :
    answer = .error .notFound ∧ result = empty ∨ answer = .ok result := by
  unfold emptyIfNotFound at h
  split at h
  · exact .inl ⟨rfl, (Except.ok.inj h).symm⟩
  · exact .inr h

theorem answered_eq_notFound {α : Type} {fails : ℕ → Option Fault} {request : ℕ} {answer : α} :
    answered fails request answer = .error .notFound ↔ fails request = some .notFound := by
  unfold answered
  split
  · next fault hfault =>
    rw [hfault, Option.some.injEq]
    exact ⟨fun h => Except.error.inj h, fun h => by rw [h]⟩
  · next hnone =>
    rw [hnone]
    exact ⟨(fun h => by cases h), fun h => by cases h⟩

/-- The records that a listing which takes a 404 for an empty list is made to return. -/
def Shelf.recordsOrNone (shelf : Shelf) : List Json :=
  if shelf.fails 1 = some .notFound then [] else shelf.records

theorem eq_of_emptyIfNotFound {keys : List String} {shelf : Shelf} {envelope : Envelope keys}
    {limit : ℕ} {rows : List Json} (hfits : shelf.records.length ≤ limit)
    (h : emptyIfNotFound [] ((answered shelf.fails 1
      (envelope.wrap (slice shelf.records limit 1))).map (extractRecords keys)) = .ok rows) :
    rows = shelf.recordsOrNone := by
  unfold Shelf.recordsOrNone
  by_cases hmissing : shelf.fails 1 = some .notFound
  · rw [if_pos hmissing]
    rw [answered_eq_notFound.mpr hmissing] at h
    exact (Except.ok.inj h).symm
  · rw [if_neg hmissing]
    rcases emptyIfNotFound_eq_ok h with ⟨hanswer, _⟩ | hanswer
    · cases hasked : answered shelf.fails 1 (envelope.wrap (slice shelf.records limit 1)) with
      | error fault =>
        rw [hasked] at hanswer
        have hfault : fault = .notFound := Except.error.inj hanswer
        rw [hfault] at hasked
        exact absurd (answered_eq_notFound.mp hasked) hmissing
      | ok payload =>
        rw [hasked] at hanswer
        cases hanswer
    · exact eq_of_envelope hfits hanswer

/-! ## Cursors -/

section Cursors

variable {ρ : Type} {shelf : LinkedShelf ρ} {nextKey : Option String} {i : ℕ}

/-- Asked for a page, the venue sends its records and the cursor of the next. -/
theorem LinkedShelf.request_eq_ok (hindex : shelf.linked.index nextKey = i)
    {answer : List ρ × String} (h : shelf.request nextKey = .ok answer) :
    answer = shelf.linked.page i := by
  unfold LinkedShelf.request at h
  rw [hindex] at h
  exact eq_of_answered h

theorem SxBetV3.eq_of_collectRecords {path : String} (pagesLeft : ℕ) :
    ∀ {nextKey : Option String} {i : ℕ} {seen : List String} {records rows : List ρ},
      shelf.linked.index nextKey = i →
      SxBetV3.collectRecords path shelf.request pagesLeft nextKey seen records = .ok rows →
      rows = records ++ (shelf.linked.pages.drop i).flatten := by
  induction pagesLeft with
  | zero =>
    intro nextKey i seen records rows _ h
    cases h
  | succ pagesLeft ih =>
    intro nextKey i seen records rows hindex h
    unfold collectRecords at h
    cases hanswer : shelf.request nextKey with
    | error fault =>
      rw [hanswer] at h
      cases h
    | ok answer =>
      have hpage := LinkedShelf.request_eq_ok hindex hanswer
      subst hpage
      rw [hanswer] at h
      have hnext := shelf.linked.index_next i
      rw [shelf.linked.flatten_drop i]
      dsimp only at h
      split at h
      · next hlast =>
        rw [if_pos hlast] at hnext
        rw [List.drop_eq_nil_of_le hnext, ← Except.ok.inj h]
        simp
      · next hmore =>
        rw [if_neg hmore] at hnext
        split at h
        · cases h
        · rw [ih hnext h, List.append_assoc]

/-- `_list_v3_records` gets every record, or raises. -/
theorem SxBetV3.eq_of_listV3Records {path : String} {rows : List ρ}
    (h : SxBetV3.listV3Records path shelf = .ok rows) : rows = shelf.linked.records := by
  have hall := SxBetV3.eq_of_collectRecords SxBetV3.maxRecordPages rfl h
  simpa [Linked.records] using hall

end Cursors

namespace SxBet

variable {shelf : LinkedShelf Json}

theorem eq_of_listTrades (fuel : ℕ) :
    ∀ {nextKey : Option String} {i : ℕ} {trades rows : List Json},
      shelf.linked.index nextKey = i →
      listTrades shelf.request fuel nextKey trades = some (.ok rows) →
      rows = trades ++ (shelf.linked.pages.drop i).flatten := by
  induction fuel with
  | zero =>
    intro nextKey i trades rows _ h
    cases h
  | succ fuel ih =>
    intro nextKey i trades rows hindex h
    unfold listTrades at h
    cases hanswer : shelf.request nextKey with
    | error fault =>
      rw [hanswer] at h
      cases h
    | ok answer =>
      have hpage := LinkedShelf.request_eq_ok hindex hanswer
      subst hpage
      rw [hanswer] at h
      have hnext := shelf.linked.index_next i
      rw [shelf.linked.flatten_drop i]
      dsimp only at h
      split at h
      · next hlast =>
        rw [if_pos hlast] at hnext
        rw [List.drop_eq_nil_of_le hnext, ← Except.ok.inj (Option.some.inj h)]
        simp
      · next hmore =>
        rw [if_neg hmore] at hnext
        rw [ih hnext h, List.append_assoc]

/-- With fuel for the pages that are left, the loop comes to an end. -/
theorem listTrades_isSome (fuel : ℕ) :
    ∀ {nextKey : Option String} {i : ℕ} {trades : List Json},
      shelf.linked.index nextKey = i → 0 < fuel → shelf.linked.pages.length ≤ i + fuel →
      (listTrades shelf.request fuel nextKey trades).isSome := by
  induction fuel with
  | zero =>
    intro nextKey i trades _ hfuel
    omega
  | succ fuel ih =>
    intro nextKey i trades hindex _ hle
    unfold listTrades
    cases hanswer : shelf.request nextKey with
    | error fault => rfl
    | ok answer =>
      have hpage := LinkedShelf.request_eq_ok hindex hanswer
      subst hpage
      have hnext := shelf.linked.index_next i
      dsimp only
      split
      · rfl
      · next hmore =>
        rw [if_neg hmore] at hnext
        have hlast : ¬shelf.linked.pages.length ≤ i + 1 := fun hle' => hmore (by
          unfold Linked.page
          exact if_neg (by omega))
        exact ih hnext (by omega) (by omega)

/-- `_list_trades` gets every trade, or raises. -/
theorem Account.eq_of_listed {rows : List Json} (h : Account.listed shelf = .ok rows) :
    rows = shelf.linked.records := by
  have hsome : (listTrades shelf.request (shelf.linked.pages.length + 1) none []).isSome :=
    listTrades_isSome _ rfl (by omega) (by omega)
  obtain ⟨result, hresult⟩ := Option.isSome_iff_exists.mp hsome
  unfold Account.listed at h
  rw [hresult, Option.getD_some] at h
  rw [h] at hresult
  have hall := eq_of_listTrades _ rfl hresult
  simpa [Linked.records] using hall

end SxBet

/-! ## The positions of SX Bet -/

namespace SxBet

/-- The trades that count, each with its market, its side and its contracts. -/
def traded (float : FloatReading) (bettor : String) (rows : List Json) :
    List ((String × BinarySide) × Dec) :=
  (rows.filter (isSuccessfulTakerTrade float bettor)).map fun row =>
    (tradeMarket float row, (tradeContracts float row).toOption.getD 0)

/-- The exposure to a market: the sums over its trades. -/
def exposureTo (trades : List ((String × BinarySide) × Dec)) (market : String)
    (before : Exposure) : Exposure :=
  (trades.filter fun trade => trade.1.1 = market).foldl
    (fun exposure trade => exposure.add trade.2 trade.1.2) before

/-- The loop over the trades sums up the exposure to every market that was traded. -/
theorem get?_foldlM_addTrade {float : FloatReading} {bettor : String} {rows : List Json}
    {byMarket byMarket' : Dict String Exposure}
    (h : rows.foldlM (addTrade float bettor) byMarket = .ok byMarket') (market : String) :
    byMarket'.get? market =
      if (traded float bettor rows).any (fun trade => trade.1.1 = market) then
        some (exposureTo (traded float bettor rows) market ((byMarket.get? market).getD {}))
      else byMarket.get? market := by
  induction rows generalizing byMarket with
  | nil =>
    cases h
    rfl
  | cons row rest ih =>
    rw [List.foldlM_cons] at h
    obtain ⟨next, hnext, h⟩ := exists_of_bind_ok h
    rw [ih h]
    unfold addTrade at hnext
    by_cases hsuccess : isSuccessfulTakerTrade float bettor row = true
    · rw [if_pos hsuccess] at hnext
      obtain ⟨contracts, hcontracts, hnext⟩ := exists_of_bind_ok hnext
      have htraded : traded float bettor (row :: rest) =
          (tradeMarket float row, contracts) :: traded float bettor rest := by
        unfold traded
        rw [List.filter_cons_of_pos hsuccess, List.map_cons, hcontracts]
        rfl
      have hvalue : next = byMarket.set (tradeMarket float row).1
          (((byMarket.get? (tradeMarket float row).1).getD {}).add contracts
            (tradeMarket float row).2) := (Except.ok.inj hnext).symm
      rw [htraded, List.any_cons, hvalue]
      by_cases hown : (tradeMarket float row).1 = market
      · rw [hown, Dict.get?_set_self]
        simp only [decide_true, Bool.true_or, if_true, Option.getD_some]
        have hexposure : ∀ before, exposureTo ((tradeMarket float row, contracts) ::
            traded float bettor rest) market before =
              exposureTo (traded float bettor rest) market
                (before.add contracts (tradeMarket float row).2) := by
          intro before
          unfold exposureTo
          rw [List.filter_cons_of_pos (by simpa using hown), List.foldl_cons]
        rw [hexposure]
        split
        · rfl
        · next hnone =>
          have hempty : (traded float bettor rest).filter (fun trade => trade.1.1 = market) = [] :=
            List.filter_eq_nil_iff.mpr fun trade hmem hmarket =>
              hnone (List.any_eq_true.mpr ⟨trade, hmem, hmarket⟩)
          unfold exposureTo
          rw [hempty]
          rfl
      · rw [Dict.get?_set_of_ne _ fun heq => hown heq.symm]
        have hexposure : ∀ before, exposureTo ((tradeMarket float row, contracts) ::
            traded float bettor rest) market before =
              exposureTo (traded float bettor rest) market before := by
          intro before
          unfold exposureTo
          rw [List.filter_cons_of_neg (by simpa using hown)]
        simp only [hexposure, hown, decide_false, Bool.false_or]
    · rw [if_neg hsuccess] at hnext
      rw [← Except.ok.inj hnext]
      have htraded : traded float bettor (row :: rest) = traded float bettor rest := by
        unfold traded
        rw [List.filter_cons_of_neg hsuccess]
      rw [htraded]

end SxBet

/-- Pairs with different keys, written one after the other, are what a dictionary has. -/
theorem get?_foldl_set (held : List (String × Dec)) (hnodup : (held.map Prod.fst).Nodup)
    (positions : Dict String Dec) (token : String) (amount : Dec) :
    (held.foldl (fun positions pair => positions.set pair.1 pair.2) positions).get? token =
        some amount ↔
      (token, amount) ∈ held ∨
        token ∉ held.map Prod.fst ∧ positions.get? token = some amount := by
  induction held generalizing positions with
  | nil => simp
  | cons pair rest ih =>
    rw [List.map_cons, List.nodup_cons] at hnodup
    obtain ⟨hnot, hnodup⟩ := hnodup
    rw [List.foldl_cons, ih hnodup, List.map_cons, List.mem_cons, List.mem_cons, not_or]
    by_cases hown : token = pair.1
    · subst hown
      rw [Dict.get?_set_self]
      constructor
      · rintro (hmem | ⟨_, hsome⟩)
        · exact .inl (.inr hmem)
        · exact .inl (.inl (by rw [← Option.some.inj hsome]))
      · rintro ((hpair | hmem) | ⟨⟨hne, _⟩, _⟩)
        · exact .inr ⟨hnot, by rw [← hpair]⟩
        · exact absurd (List.mem_map_of_mem (f := Prod.fst) hmem) hnot
        · exact absurd rfl hne
    · rw [Dict.get?_set_of_ne _ hown]
      constructor
      · rintro (hmem | ⟨hnone, hsome⟩)
        · exact .inl (.inr hmem)
        · exact .inr ⟨⟨hown, hnone⟩, hsome⟩
      · rintro ((hpair | hmem) | ⟨⟨_, hnone⟩, hsome⟩)
        · exact absurd (congrArg Prod.fst hpair) hown
        · exact .inl hmem
        · exact .inr ⟨hnone, hsome⟩

/-- What the markets leave are positions of different tokens, if no token stands for two. -/
theorem SxBet.netPositions_nodup {account : SxBet.Account}
    (hmarket : ∀ market other side otherSide,
      account.tokenOf market side = account.tokenOf other otherSide → market = other)
    (byMarket : Dict String SxBet.Exposure) :
    ((byMarket.entries.filterMap fun entry =>
      account.netPosition entry.1 entry.2).map Prod.fst).Nodup := by
  have htoken : ∀ {market : String} {exposure : SxBet.Exposure} {pair : String × Dec},
      account.netPosition market exposure = some pair →
        ∃ side, pair.1 = account.tokenOf market side := by
    intro market exposure pair h
    unfold SxBet.Account.netPosition at h
    split at h
    · exact ⟨.yes, by rw [← Option.some.inj h]⟩
    · split at h
      · exact ⟨.no, by rw [← Option.some.inj h]⟩
      · cases h
  have hnodup := byMarket.nodup
  rw [List.Nodup, List.pairwise_map] at hnodup ⊢
  rw [List.pairwise_filterMap]
  refine hnodup.imp fun {entry other} hne pair hpair otherPair hother hsame => hne ?_
  obtain ⟨side, hside⟩ := htoken hpair
  obtain ⟨otherSide, hotherSide⟩ := htoken hother
  exact hmarket _ _ side otherSide (hside ▸ hotherSide ▸ hsame)

/-! ## The listings of SX Bet V3 -/

namespace SxBetV3

variable {float : FloatReading} {account : Account}

/-- Orders with odds are all listed. -/
theorem eq_of_addOrders {rows : List Json} (hodds : ∀ row ∈ rows, hasOdds float row ≠ .ok false)
    {before orders : List OrderEntry}
    (h : rows.foldlM (account.addOrder float) before = .ok orders) :
    orders = before ++ rows.map (orderEntry float) := by
  induction rows generalizing before with
  | nil =>
    cases h
    simp
  | cons row rest ih =>
    rw [List.foldlM_cons] at h
    obtain ⟨next, hnext, h⟩ := exists_of_bind_ok h
    unfold Account.addOrder at hnext
    obtain ⟨odds, hrow, hnext⟩ := exists_of_bind_ok hnext
    cases odds with
    | false => exact absurd hrow (hodds row (by simp))
    | true =>
      rw [if_pos rfl] at hnext
      obtain ⟨_, _, hnext⟩ := exists_of_bind_ok hnext
      rw [ih (fun other hmem => hodds other (by simp [hmem])) h, ← Except.ok.inj hnext]
      simp

/-- Is a fill one that cannot be reverted any more? -/
def locked (row : ArbitrageEngine.SxBetV3.RawFill) : Bool :=
  match ArbitrageEngine.SxBetV3.v3FillStatus row with
  | .ok status => status.irreversible
  | .error _ => false

/-- A round of the loop over fills adds the record of the fill, if it counts. -/
theorem entries_of_listFill {contexts : String → Option ArbitrageEngine.SxBetV3.SubmittedOrder}
    {decimals : ℕ} {listing listing' : ArbitrageEngine.SxBetV3.FillListing}
    {row : ArbitrageEngine.SxBetV3.RawFill}
    (h : ArbitrageEngine.SxBetV3.listFill contexts decimals listing row = .ok listing') :
    listing'.fills.map fillEntry = listing.fills.map fillEntry ++
      if locked row = true ∧ 0 < row.odds then [⟨row.id, row.orderId⟩] else [] := by
  unfold ArbitrageEngine.SxBetV3.listFill at h
  unfold locked
  cases hstatus : ArbitrageEngine.SxBetV3.v3FillStatus row with
  | error fault =>
    rw [hstatus] at h
    cases h
  | ok status =>
    simp only [hstatus, bind, Except.bind, pure, Except.pure] at h
    dsimp only
    split at h
    · next hskipped =>
      rw [← Except.ok.inj h, if_neg, List.append_nil]
      rintro ⟨hlocked, hodds⟩
      rcases hskipped with hfalse | hle
      · rw [hfalse] at hlocked
        cases hlocked
      · exact absurd hodds (not_lt.mpr hle)
    · next hkept =>
      rw [not_or, Bool.not_eq_false, not_le] at hkept
      rw [if_pos hkept]
      repeat' split at h
      all_goals first
        | cases h; done
        | cases h
          rw [List.map_append]
          rfl

/-- The listed fills are those that count, in their order. -/
theorem entries_of_listFills {contexts : String → Option ArbitrageEngine.SxBetV3.SubmittedOrder}
    {decimals : ℕ} {rows : List ArbitrageEngine.SxBetV3.RawFill}
    (hodds : ∀ row ∈ rows, locked row = true → 0 < row.odds)
    {listing listing' : ArbitrageEngine.SxBetV3.FillListing}
    (h : rows.foldlM (ArbitrageEngine.SxBetV3.listFill contexts decimals) listing = .ok listing') :
    listing'.fills.map fillEntry = listing.fills.map fillEntry ++
      (rows.filter locked).map fun row => ⟨row.id, row.orderId⟩ := by
  induction rows generalizing listing with
  | nil =>
    cases h
    simp
  | cons row rest ih =>
    rw [List.foldlM_cons] at h
    obtain ⟨next, hnext, h⟩ := exists_of_bind_ok h
    rw [ih (fun other hmem => hodds other (by simp [hmem])) h, entries_of_listFill hnext]
    by_cases hlocked : locked row = true
    · rw [if_pos ⟨hlocked, hodds row (by simp) hlocked⟩, List.filter_cons_of_pos hlocked]
      simp
    · rw [if_neg fun hboth => hlocked hboth.1, List.filter_cons_of_neg hlocked]
      simp

/-- What a row holds, if that is something. -/
def held (float : FloatReading) (account : Account) (row : Json) : Option (String × Dec) :=
  match account.contracts float row with
  | .ok contracts =>
      if contracts ≤ 0 then none else some (account.positionToken float row, contracts)
  | .error _ => none

theorem eq_of_addRows {rows : List Json} (hmarket : ∀ row ∈ rows, positionMarket float row ≠ "")
    {before positions : Dict String Dec}
    (h : rows.foldlM (account.addRow float) before = .ok positions) :
    positions = (rows.filterMap (held float account)).foldl
      (fun positions pair => positions.set pair.1 pair.2) before := by
  induction rows generalizing before with
  | nil =>
    cases h
    rfl
  | cons row rest ih =>
    rw [List.foldlM_cons] at h
    obtain ⟨next, hnext, h⟩ := exists_of_bind_ok h
    unfold Account.addRow at hnext
    obtain ⟨contracts, hrow, hnext⟩ := exists_of_bind_ok hnext
    rw [ih (fun other hmem => hmarket other (by simp [hmem])) h]
    by_cases hnone : contracts ≤ 0
    · have hheld : held float account row = none := by
        simp only [held, hrow, if_pos hnone]
      rw [if_pos (.inr hnone)] at hnext
      rw [List.filterMap_cons_none hheld, ← Except.ok.inj hnext]
    · have hheld : held float account row = some (account.positionToken float row, contracts) := by
        simp only [held, hrow, if_neg hnone]
      rw [if_neg fun hor => hor.elim (hmarket row (by simp)) hnone] at hnext
      rw [List.filterMap_cons_some hheld, List.foldl_cons, ← Except.ok.inj hnext]

theorem fst_of_held {row : Json} {pair : String × Dec} (h : held float account row = some pair) :
    pair.1 = account.positionToken float row := by
  unfold held at h
  split at h
  · split at h
    · cases h
    · rw [← Option.some.inj h]
  · cases h

/-- The keys of what the rows hold are tokens of theirs, in their order. -/
theorem held_sublist (rows : List Json) :
    ((rows.filterMap (held float account)).map Prod.fst).Sublist
      (rows.map (account.positionToken float)) := by
  induction rows with
  | nil => exact List.Sublist.slnil
  | cons row rest ih =>
    rw [List.map_cons]
    cases hheld : held float account row with
    | none =>
      rw [List.filterMap_cons_none hheld]
      exact ih.cons _
    | some pair =>
      rw [List.filterMap_cons_some hheld, List.map_cons, fst_of_held hheld]
      exact ih.cons_cons _

end SxBetV3

/-! ## The positions of Polymarket and Opinion -/

namespace Polymarket

variable {float : FloatReading} {profile : String}

/-- A row is read alike wherever it is. -/
theorem positionFromPayload_anywhere {location other : String} {row : Json} {held : String × Dec}
    (h : positionFromPayload float profile location row = .ok held) :
    positionFromPayload float profile other row = .ok held := by
  unfold positionFromPayload at h ⊢
  repeat' split at h
  all_goals first
    | cases h; done
    | simp_all

/-- What a row says to hold. -/
def Says (float : FloatReading) (profile : String) (row : Json) (held : String × Dec) : Prop :=
  positionFromPayload float profile "" row = .ok held

theorem Says.unique {row : Json} {held other : String × Dec} (h : Says float profile row held)
    (h' : Says float profile row other) : held = other :=
  Except.ok.inj (h.symm.trans h')

/-- What was collected is what the rows so far say. -/
structure Collects (float : FloatReading) (profile : String) (rows : List Json)
    (collected : Collected) : Prop where
  seen : ∀ token, token ∈ collected.seenTokenIds ↔
    ∃ row ∈ rows, ∃ size, Says float profile row (token, size)
  positions : ∀ token size, collected.positions.get? token = some size ↔
    0 < size ∧ ∃ row ∈ rows, Says float profile row (token, size)

theorem Collects.start : Collects float profile [] {} where
  seen token := by simp
  positions token size := by simp

theorem Collects.add {rows : List Json} {collected : Collected}
    (h : Collects float profile rows collected) {row : Json} {token : String} {size : Dec}
    (hgives : Says float profile row (token, size)) (hnew : token ∉ collected.seenTokenIds) :
    Collects float profile (rows ++ [row])
      { positions := if 0 < size then collected.positions.set token size else collected.positions
        seenTokenIds := token :: collected.seenTokenIds } where
  seen other := by
    rw [List.mem_cons, h.seen other]
    constructor
    · rintro (rfl | ⟨old, hold, amount, hgives'⟩)
      · exact ⟨row, by simp, size, hgives⟩
      · exact ⟨old, by simp [hold], amount, hgives'⟩
    · rintro ⟨some, hmem, amount, hgives'⟩
      rcases List.mem_append.mp hmem with hold | hlast
      · exact .inr ⟨some, hold, amount, hgives'⟩
      · rw [List.mem_singleton.mp hlast] at hgives'
        exact .inl (congrArg Prod.fst (hgives'.unique hgives))
  positions other amount := by
    have hget : (if 0 < size then collected.positions.set token size
        else collected.positions).get? other = some amount ↔
          collected.positions.get? other = some amount ∨
            other = token ∧ amount = size ∧ 0 < size := by
      have hnone : collected.positions.get? token = none := by
        rw [Option.eq_none_iff_forall_ne_some]
        intro amount hsome
        obtain ⟨_, old, hold, hgives'⟩ := (h.positions token amount).mp hsome
        exact hnew ((h.seen token).mpr ⟨old, hold, amount, hgives'⟩)
      by_cases hpos : 0 < size
      · rw [if_pos hpos, Dict.get?_set]
        by_cases hsame : other = token
        · subst hsame
          rw [if_pos rfl, hnone]
          simp [hpos, eq_comm]
        · simp [hsame]
      · rw [if_neg hpos]
        simp [hpos]
    show (if 0 < size then collected.positions.set token size
      else collected.positions).get? other = some amount ↔ _
    rw [hget, h.positions other amount]
    constructor
    · rintro (⟨hpos, old, hold, hgives'⟩ | ⟨rfl, rfl, hpos⟩)
      · exact ⟨hpos, old, by simp [hold], hgives'⟩
      · exact ⟨hpos, row, by simp, hgives⟩
    · rintro ⟨hpos, some, hmem, hgives'⟩
      rcases List.mem_append.mp hmem with hold | hlast
      · exact .inl ⟨hpos, some, hold, hgives'⟩
      · rw [List.mem_singleton.mp hlast] at hgives'
        have hpair := hgives'.unique hgives
        rw [Prod.mk.injEq] at hpair
        exact .inr ⟨hpair.1, hpair.2, hpair.2 ▸ hpos⟩

theorem Collects.addRows {page : List Json} {offset : ℕ} :
    ∀ {rowIndex : ℕ} {rows : List Json} {collected collected' : Collected},
      Collects float profile rows collected →
      Polymarket.addRows float profile offset rowIndex collected page = .ok collected' →
      Collects float profile (rows ++ page) collected' := by
  induction page with
  | nil =>
    intro rowIndex rows collected collected' h hadd
    rw [List.append_nil, ← Except.ok.inj hadd]
    exact h
  | cons row rest ih =>
    intro rowIndex rows collected collected' h hadd
    unfold Polymarket.addRows at hadd
    obtain ⟨⟨token, size⟩, hread, hadd⟩ := exists_of_bind_ok hadd
    dsimp only at hadd
    split at hadd
    · cases hadd
    · next hnew =>
      have hrest := ih (h.add (positionFromPayload_anywhere hread) hnew) hadd
      rwa [List.append_assoc, List.singleton_append] at hrest

/-- The loop over the pages collects what all rows say, or raises. -/
theorem eq_of_collectPositions {account : Account} (windowsLeft : ℕ) :
    ∀ {offset : ℕ} {collected : Collected} {positions : Dict String Dec},
      Collects float profile (account.positions.records.take offset) collected →
      collectPositions float profile account.fetchPositionsPage windowsLeft offset collected =
        .ok positions →
      ∀ token size, positions.get? token = some size ↔
        0 < size ∧ ∃ row ∈ account.positions.records, Says float profile row (token, size) := by
  induction windowsLeft with
  | zero =>
    intro offset collected positions h hcollect
    unfold collectPositions at hcollect
    obtain ⟨page, hpage, hcollect⟩ := exists_of_bind_ok hcollect
    obtain ⟨collected', hadd, hcollect⟩ := exists_of_bind_ok hcollect
    have hrows := h.addRows hadd
    rw [eq_of_answered hpage, ← List.take_add] at hrows
    split at hcollect
    · next hshort =>
      rw [eq_of_answered hpage, List.length_take, List.length_drop] at hshort
      rw [List.take_of_length_le (by omega)] at hrows
      rw [← Except.ok.inj hcollect]
      exact hrows.positions
    · cases hcollect
  | succ windowsLeft ih =>
    intro offset collected positions h hcollect
    unfold collectPositions at hcollect
    obtain ⟨page, hpage, hcollect⟩ := exists_of_bind_ok hcollect
    obtain ⟨collected', hadd, hcollect⟩ := exists_of_bind_ok hcollect
    have hrows := h.addRows hadd
    rw [eq_of_answered hpage, ← List.take_add] at hrows
    split at hcollect
    · next hshort =>
      rw [eq_of_answered hpage, List.length_take, List.length_drop] at hshort
      rw [List.take_of_length_le (by omega)] at hrows
      rw [← Except.ok.inj hcollect]
      exact hrows.positions
    · exact ih hrows hcollect

end Polymarket

namespace Opinion

variable {float : FloatReading}

/-- What a row with a token of its own holds. -/
def held (float : FloatReading) (row : Json) : Option (String × Dec) := do
  let marketId ← optionalInt float (get "marketId" row)
  let shares ← OrderReadings.Opinion.decimalField float ["sharesOwned", "shares"] row
  let token ← optionalStr float (get "tokenId" row)
  pure (toString marketId ++ ":" ++ token, shares)

/-- Rows with tokens of their own are summed up, whatever the client knows of the markets. -/
theorem eq_of_addRows {rows : List Json} (hheld : ∀ row ∈ rows, (held float row).isSome)
    (client : ArbitrageEngine.Opinion.Client) (positions : Dict String Dec) :
    (rows.foldl (addRow float) (client, positions)).2 =
      (rows.filterMap (held float)).foldl
        (fun positions pair => addPosition positions pair.1 pair.2) positions := by
  induction rows generalizing client positions with
  | nil => rfl
  | cons row rest ih =>
    obtain ⟨pair, hpair⟩ := Option.isSome_iff_exists.mp (hheld row (by simp))
    obtain ⟨marketId, hmarket, hpair'⟩ := Option.bind_eq_some_iff.mp hpair
    obtain ⟨shares, hshares, hpair'⟩ := Option.bind_eq_some_iff.mp hpair'
    obtain ⟨token, htoken, hpair'⟩ := Option.bind_eq_some_iff.mp hpair'
    have hrow : ∃ client', addRow float (client, positions) row =
        (client', addPosition positions pair.1 pair.2) := by
      unfold addRow
      simp only [hmarket, hshares, htoken, Option.some_or]
      rw [← Option.some.inj hpair']
      exact ⟨_, rfl⟩
    obtain ⟨client', hrow⟩ := hrow
    rw [List.foldl_cons, hrow, ih (fun other hmem => hheld other (by simp [hmem])),
      List.filterMap_cons_some hpair, List.foldl_cons]

end Opinion

/-! ## What the connectors are made to list -/

/-- `str(value)` of what counts as there. -/
def named (float : FloatReading) (value : Json) : Option String :=
  if value.truth then some (str float value) else none

namespace Account

/-- The open orders that `list_open_orders` is made to return. -/
def openOrders (float : FloatReading) : Account → List OrderEntry
  -- by design those of the first page
  | polymarket account => (account.sdk.orderPages.headD []).map (Polymarket.orderEntry float)
  | predictFun account => account.orders.records.map (nestedOrderEntry float)
  | myriad account => account.orders.records.map (nestedOrderEntry float)
  | opinion account => account.orders.records.map (Opinion.orderEntry float)
  -- by design there are none: every order takes what is there
  | sxBet _ => []
  | sxBetV3 account => account.orders.linked.records.map (SxBetV3.orderEntry float)

/-- The orders fit on the pages that are asked for, and every record is one of an order. -/
def OrdersFit (float : FloatReading) : Account → Prop
  | polymarket _ | sxBet _ => True
  | predictFun account => account.orders.records.length ≤ account.firstPage
  | myriad account => account.orders.records.length ≤ Myriad.pageLimit
  | opinion account =>
      account.orders.records.length ≤ Opinion.maxPages * account.limit ∧
        ∀ row ∈ account.orders.records, (Opinion.orderId float row).isSome
  | sxBetV3 account => ∀ row ∈ account.orders.linked.records, SxBetV3.hasOdds float row ≠ .ok false

/-- The fills that `list_fills` is made to return, each with the id that the venue gives it in the
field that is read for it. -/
def fills (float : FloatReading) (since : Option ℚ) : Account → List (Option String × FillEntry)
  | polymarket account =>
      (account.sdk.trades.filter fun row =>
        !since.any fun since => account.occurredAt row < since).map fun row =>
          (named float (row.extractFirst ["id", "trade_id", "tradeId", "match_id", "matchId"]),
            Polymarket.fillEntry float row)
  | predictFun account =>
      account.trades.recordsOrNone.map fun row =>
        (named float (row.extractFirstNested ["id", "tradeId", "trade_id", "fillId", "fill_id"]),
          nestedFillEntry float row)
  | myriad account =>
      if account.address.any (· ≠ "") then
        account.events.recordsOrNone.map fun row =>
          (named float (row.extractFirstNested ["id", "tradeId", "trade_id", "fillId", "fill_id"]),
            nestedFillEntry float row)
      else []
  | opinion account =>
      if account.address.any (· ≠ "") then
        (account.trades.records.filter (account.isFill float since)).map fun row =>
          (optionalStr float (get "txHash" row), account.fillEntry float row)
      else []
  | sxBet account =>
      match account.address with
      | none => []
      | some bettor =>
          (account.trades.linked.records.filter
            (SxBet.isSuccessfulTakerTrade float bettor)).map fun row =>
              (named float (get "id" row), account.fillEntry float row)
  | sxBetV3 account =>
      (account.fills.linked.records.filter SxBetV3.locked).map fun row =>
        (if row.id = "" then none else some row.id, ⟨row.id, row.orderId⟩)

/-- The fills fit on the pages that are asked for, and none lacks what it is skipped without. -/
def FillsFit (float : FloatReading) : Account → Prop
  | polymarket _ => True
  | predictFun account => account.trades.records.length ≤ account.firstPage
  | myriad account => account.events.records.length ≤ Myriad.pageLimit
  | opinion account => account.trades.records.length ≤ Opinion.maxPages * account.limit
  | sxBet account =>
      ∀ bettor ∈ account.address, ∀ row ∈ account.trades.linked.records,
        SxBet.isSuccessfulTakerTrade float bettor row → SxBet.fillHash float row ≠ ""
  | sxBetV3 account =>
      ∀ row ∈ account.fills.linked.records, SxBetV3.locked row → 0 < row.odds

/-- The venue gives every fill an id, and different fills different ones. -/
def NamesFills (float : FloatReading) (since : Option ℚ) (account : Account) : Prop :=
  ((account.fills float since).map Prod.fst).Nodup ∧
    ∀ fill ∈ account.fills float since, fill.1.isSome

/-- The account holds an amount of a token. -/
def Holds (float : FloatReading) (token : String) (amount : Dec) : Account → Prop
  | polymarket account =>
      0 < amount ∧ ∃ row ∈ account.positions.records,
        Polymarket.Says float account.profileAddress row (token, amount)
  | predictFun account =>
      tally (account.positions.recordsOrNone.filterMap
        (PredictFun.holding float account.precision)) token = some amount
  | myriad account =>
      account.address.any (· ≠ "") ∧
        tally (account.positions.recordsOrNone.filterMap (Myriad.holding float)) token = some amount
  | opinion account =>
      account.address.any (· ≠ "") ∧
        tally (account.positions.records.filterMap (Opinion.held float)) token = some amount
  | sxBet account =>
      ∃ bettor ∈ account.address, ∃ market,
        (SxBet.traded float bettor account.unsettled.linked.records).any
            (fun trade => trade.1.1 = market) ∧
          account.netPosition market
            (SxBet.exposureTo (SxBet.traded float bettor account.unsettled.linked.records) market
              {}) = some (token, amount)
  | sxBetV3 account =>
      ∃ row ∈ account.positions.linked.records,
        SxBetV3.held float account row = some (token, amount)

/-- The positions fit on the pages that are asked for.  Opinion's name their tokens; SX Bet has one
market for every token, and the new API one position for every token. -/
def PositionsFit (float : FloatReading) : Account → Prop
  | polymarket _ => True
  | predictFun account => account.positions.records.length ≤ account.firstPage
  | myriad account => account.positions.records.length ≤ Myriad.pageLimit
  | opinion account =>
      account.positions.records.length ≤ Opinion.maxPages * account.limit ∧
        ∀ row ∈ account.positions.records, (Opinion.held float row).isSome
  | sxBet account =>
      ∀ market other side otherSide, account.tokenOf market side = account.tokenOf other otherSide →
        market = other
  | sxBetV3 account =>
      (∀ row ∈ account.positions.linked.records, SxBetV3.positionMarket float row ≠ "") ∧
        (account.positions.linked.records.map (account.positionToken float)).Nodup

/-! ## Every listing -/

variable {float : FloatReading} {since : Option ℚ} {account : Account}

theorem openOrders_complete (hfits : account.OrdersFit float) {orders : List OrderEntry}
    (h : account.listOpenOrders float = .ok orders) : orders = account.openOrders float := by
  cases account with
  | polymarket account =>
    obtain ⟨rows, hrows, h⟩ := exists_of_bind_ok h
    rw [eq_of_readRecords_all h, account.sdk.firstPage rows hrows]
    rfl
  | predictFun account =>
    obtain ⟨rows, hrows, h⟩ := exists_of_bind_ok h
    rw [eq_of_readRecords_all h, eq_of_envelope hfits hrows]
    rfl
  | myriad account =>
    obtain ⟨rows, hrows, h⟩ := exists_of_bind_ok h
    rw [eq_of_readRecords_all h, eq_of_envelope hfits hrows]
    rfl
  | opinion account =>
    obtain ⟨rows, hrows, h⟩ := exists_of_bind_ok h
    rw [eq_of_readRecords h, Opinion.Account.eq_of_listed hfits.1 hrows,
      List.filter_eq_self.mpr hfits.2]
    rfl
  | sxBet account => exact (Except.ok.inj h).symm
  | sxBetV3 account =>
    obtain ⟨rows, hrows, h⟩ := exists_of_bind_ok h
    rw [SxBetV3.eq_of_listV3Records hrows] at h
    exact (SxBetV3.eq_of_addOrders hfits h).trans (List.nil_append _)

theorem fills_complete (hfits : account.FillsFit float) {fills : List FillEntry}
    (h : account.listFills float since = .ok fills) :
    fills = (account.fills float since).map Prod.snd := by
  cases account with
  | polymarket account =>
    obtain ⟨rows, hrows, h⟩ := exists_of_bind_ok h
    obtain ⟨read, hread, h⟩ := exists_of_bind_ok h
    rw [← Except.ok.inj h, eq_of_readRecords_all hread, account.sdk.allTrades rows hrows,
      List.filter_map, List.map_map]
    show _ = List.map Prod.snd (List.map _ _)
    rw [List.map_map]
    rfl
  | predictFun account =>
    obtain ⟨rows, hrows, h⟩ := exists_of_bind_ok h
    rw [eq_of_readRecords_all h, eq_of_emptyIfNotFound hfits hrows]
    show _ = List.map Prod.snd (List.map _ _)
    rw [List.map_map]
    rfl
  | myriad account =>
    simp only [listFills, Myriad.Account.listFills] at h
    show _ = List.map Prod.snd (if _ then _ else _)
    split at h
    · next haddress =>
      obtain ⟨rows, hrows, h⟩ := exists_of_bind_ok h
      rw [if_pos haddress, eq_of_readRecords_all h, eq_of_emptyIfNotFound hfits hrows,
        List.map_map]
      rfl
    · next hnone =>
      rw [if_neg hnone]
      exact (Except.ok.inj h).symm
  | opinion account =>
    simp only [listFills, Opinion.Account.listFills] at h
    show _ = List.map Prod.snd (if _ then _ else _)
    split at h
    · next haddress =>
      obtain ⟨rows, hrows, h⟩ := exists_of_bind_ok h
      rw [if_pos haddress, eq_of_readRecords h, Opinion.Account.eq_of_listed hfits hrows,
        List.map_map]
      rfl
    · next hnone =>
      rw [if_neg hnone]
      exact (Except.ok.inj h).symm
  | sxBet account =>
    simp only [listFills, SxBet.Account.listFills] at h
    cases haddress : account.address with
    | none =>
      rw [haddress] at h
      cases h
    | some bettor =>
      rw [haddress] at h
      obtain ⟨rows, hrows, h⟩ := exists_of_bind_ok h
      have hkept : (account.trades.linked.records.filter fun row =>
          SxBet.isSuccessfulTakerTrade float bettor row && SxBet.fillHash float row ≠ "") =
            account.trades.linked.records.filter (SxBet.isSuccessfulTakerTrade float bettor) := by
        refine List.filter_congr fun row hmem => ?_
        by_cases hsuccess : SxBet.isSuccessfulTakerTrade float bettor row = true
        · have hhash := hfits bettor haddress row hmem hsuccess
          simp [hsuccess, hhash]
        · simp [hsuccess]
      rw [eq_of_readRecords h, SxBet.Account.eq_of_listed hrows, hkept]
      simp only [Account.fills, haddress, List.map_map]
      rfl
  | sxBetV3 account =>
    obtain ⟨rows, hrows, h⟩ := exists_of_bind_ok h
    have hall := SxBetV3.eq_of_listV3Records hrows
    subst hall
    cases hlist : ArbitrageEngine.SxBetV3.listFills account.contexts account.assetDecimals
        account.fills.linked.records with
    | error fault =>
      rw [hlist] at h
      cases h
    | ok result =>
      obtain ⟨records, exposures⟩ := result
      rw [hlist] at h
      dsimp only at h
      split at h
      · obtain ⟨listing, hlisting, hpair⟩ := exists_of_bind_ok hlist
        have hentries := SxBetV3.entries_of_listFills hfits hlisting
        rw [← Except.ok.inj h]
        have hrecords : listing.fills = records := congrArg Prod.fst (Except.ok.inj hpair)
        rw [← hrecords, hentries]
        show _ = List.map Prod.snd (List.map _ _)
        rw [List.map_map]
        rfl
      · cases h

theorem textOr_of_named {value : Json} {id : String} (h : named float value = some id)
    (default : String) : textOr float default value = id := by
  unfold named at h
  unfold textOr
  split at h
  · next htruth => rw [if_pos htruth, Option.some.inj h]
  · cases h

/-- A fill has the id that the venue gives it. -/
theorem fillId_of_named {fill : Option String × FillEntry} (hmem : fill ∈ account.fills float since)
    {id : String} (hnamed : fill.1 = some id) : fill.2.fillId = id := by
  cases account with
  | polymarket account =>
    obtain ⟨row, _, rfl⟩ := List.mem_map.mp hmem
    exact textOr_of_named hnamed ""
  | predictFun account =>
    obtain ⟨row, _, rfl⟩ := List.mem_map.mp hmem
    exact textOr_of_named hnamed ""
  | myriad account =>
    simp only [fills] at hmem
    split at hmem
    · obtain ⟨row, _, rfl⟩ := List.mem_map.mp hmem
      exact textOr_of_named hnamed ""
    · cases hmem
  | opinion account =>
    simp only [fills] at hmem
    split at hmem
    · obtain ⟨row, _, rfl⟩ := List.mem_map.mp hmem
      show (optionalStr float (get "txHash" row)).getD _ = id
      rw [show optionalStr float (get "txHash" row) = some id from hnamed]
      rfl
    · cases hmem
  | sxBet account =>
    simp only [fills] at hmem
    split at hmem
    · cases hmem
    · obtain ⟨row, _, rfl⟩ := List.mem_map.mp hmem
      exact textOr_of_named hnamed _
  | sxBetV3 account =>
    obtain ⟨row, _, rfl⟩ := List.mem_map.mp hmem
    dsimp only at hnamed ⊢
    split at hnamed
    · cases hnamed
    · exact Option.some.inj hnamed

/-- Fills that the venue names have different ids. -/
theorem fillIds_nodup (hnames : account.NamesFills float since) :
    (((account.fills float since).map Prod.snd).map FillEntry.fillId).Nodup := by
  obtain ⟨hnodup, hsome⟩ := hnames
  have hsame : (account.fills float since).map Prod.fst =
      (((account.fills float since).map Prod.snd).map FillEntry.fillId).map some := by
    rw [List.map_map, List.map_map]
    refine List.map_congr_left fun fill hmem => ?_
    obtain ⟨id, hid⟩ := Option.isSome_iff_exists.mp (hsome fill hmem)
    rw [hid]
    exact congrArg some (fillId_of_named hmem hid).symm
  rw [hsame] at hnodup
  exact hnodup.of_map _

theorem positions_complete (hfits : account.PositionsFit float) {positions : Dict String Dec}
    (h : account.getPositions float = .ok positions) (token : String) (amount : Dec) :
    positions.get? token = some amount ↔ account.Holds float token amount := by
  cases account with
  | polymarket account =>
    exact Polymarket.eq_of_collectPositions _ Polymarket.Collects.start h token amount
  | predictFun account =>
    obtain ⟨rows, hrows, h⟩ := exists_of_bind_ok h
    rw [← Except.ok.inj h, eq_of_emptyIfNotFound hfits hrows, get?_sumPositions]
    rfl
  | myriad account =>
    simp only [getPositions, Myriad.Account.getPositions] at h
    show _ ↔ _ ∧ _
    split at h
    · next haddress =>
      obtain ⟨rows, hrows, h⟩ := exists_of_bind_ok h
      rw [← Except.ok.inj h, eq_of_emptyIfNotFound hfits hrows, get?_sumPositions]
      exact (and_iff_right haddress).symm
    · next hnone =>
      rw [← Except.ok.inj h]
      exact ⟨(fun hget => by cases hget), fun hboth => absurd hboth.1 hnone⟩
  | opinion account =>
    simp only [getPositions, Opinion.Account.getPositions] at h
    show _ ↔ _ ∧ _
    split at h
    · next haddress =>
      obtain ⟨rows, hrows, h⟩ := exists_of_bind_ok h
      have hall := Opinion.Account.eq_of_listed hfits.1 hrows
      subst hall
      rw [← Except.ok.inj h, Opinion.eq_of_addRows hfits.2, get?_addPositions,
        and_iff_right haddress]
      unfold tally
      cases (account.positions.records.filterMap (Opinion.held float)).filter
          fun pair => pair.1 = token with
      | nil => exact Iff.rfl
      | cons own others => exact Iff.rfl
    · next hnone =>
      rw [← Except.ok.inj h]
      exact ⟨(fun hget => by cases hget), fun hboth => absurd hboth.1 hnone⟩
  | sxBet account =>
    simp only [getPositions, SxBet.Account.getPositions] at h
    simp only [Holds]
    cases haddress : account.address with
    | none =>
      rw [haddress] at h
      cases h
    | some bettor =>
      rw [haddress] at h
      obtain ⟨rows, hrows, hrest⟩ := exists_of_bind_ok h
      obtain ⟨byMarket, hby, hnet⟩ := exists_of_bind_ok hrest
      rw [SxBet.Account.eq_of_listed hrows] at hby
      rw [← Except.ok.inj hnet, foldl_elim (fun entry : String × SxBet.Exposure =>
            account.netPosition entry.1 entry.2)
          fun (positions : Dict String Dec) pair => positions.set pair.1 pair.2,
        get?_foldl_set _ (SxBet.netPositions_nodup hfits byMarket)]
      simp only [Option.mem_some_iff, exists_eq_left', Dict.get?_empty, reduceCtorEq, and_false,
        or_false, List.mem_filterMap]
      refine ⟨fun ⟨entry, hentry, hnet⟩ => ?_, fun ⟨market, htraded, hnet⟩ => ?_⟩
      · have hget := SxBet.get?_foldlM_addTrade hby entry.1
        rw [Dict.get?_eq_some_iff.mpr hentry] at hget
        split at hget
        · next htraded =>
          refine ⟨entry.1, htraded, ?_⟩
          rw [Option.some.inj hget] at hnet
          exact hnet
        · cases hget
      · have hget := SxBet.get?_foldlM_addTrade hby market
        rw [if_pos htraded] at hget
        exact ⟨_, Dict.get?_eq_some_iff.mp hget, hnet⟩
  | sxBetV3 account =>
    obtain ⟨rows, hrows, h⟩ := exists_of_bind_ok h
    rw [SxBetV3.eq_of_listV3Records hrows] at h
    rw [SxBetV3.eq_of_addRows hfits.1 h,
      get?_foldl_set _ (hfits.2.sublist (SxBetV3.held_sublist _))]
    simp only [Dict.get?_empty, reduceCtorEq, and_false, or_false, List.mem_filterMap]
    rfl

/-- **Listings are complete or raise.**  Whatever the pages, a listing that does not raise has the
open orders, the fills and the positions that the connector is made to list, each once; fills that
the venue names get different ids. -/
theorem listings_complete (float : FloatReading) (since : Option ℚ) (account : Account) :
    (account.OrdersFit float → ∀ orders, account.listOpenOrders float = .ok orders →
      orders = account.openOrders float) ∧
    (account.FillsFit float → ∀ fills, account.listFills float since = .ok fills →
      fills = (account.fills float since).map Prod.snd ∧
        (account.NamesFills float since → (fills.map FillEntry.fillId).Nodup)) ∧
    (account.PositionsFit float → ∀ positions, account.getPositions float = .ok positions →
      ∀ token amount, positions.get? token = some amount ↔ account.Holds float token amount) := by
  refine ⟨fun hfits orders h => openOrders_complete hfits h, fun hfits fills h => ?_,
    fun hfits positions h => positions_complete hfits h⟩
  have hfills := fills_complete hfits h
  refine ⟨hfills, fun hnames => ?_⟩
  rw [hfills]
  exact fillIds_nodup hnames

end Account

namespace ListingExamples

/-- Two texts are read as integers, and none as other numbers. -/
def reading : FloatReading :=
  { OrderReadings.ReadingExamples.reading with
    parseInt := fun s => if s = "2" then some 2 else if s = "7" then some 7 else none }

/-- A mapping with some values. -/
def mapping (values : List (String × Json)) : Json :=
  .object false fun key => (values.lookup key).getD .missing

/-- An account at Opinion with two orders, two fills and two positions, one on a page. -/
def paged : Opinion.Account where
  orders := { records := [mapping [("orderId", .text "a")], mapping [("orderId", .text "b")]] }
  trades :=
    { records :=
        [mapping [("status", .text "2"), ("txHash", .text "0x1")],
          mapping [("status", .text "2"), ("txHash", .text "0x2")]] }
  positions :=
    { records :=
        [mapping [("marketId", .text "7"), ("sharesOwned", .num 3), ("tokenId", .text "y")],
          mapping [("marketId", .text "7"), ("sharesOwned", .num 4), ("tokenId", .text "y")]] }
  reportsTotal := false
  marketPageLimit := 1
  address := some "0xabc"
  readOrder := fun _ => .ok ()
  readFill := fun _ => .ok ()
  client := {}
  now := 0
  stamp := fun _ => ""

/-- Both of everything is listed, and the shares are summed up. -/
theorem listings_complete_paged :
    (∀ orders, (Account.opinion paged).listOpenOrders reading = .ok orders →
      orders = [⟨"a", "a"⟩, ⟨"b", "b"⟩]) ∧
    (∀ fills, (Account.opinion paged).listFills reading none = .ok fills →
      fills = [⟨"0x1", "0x1"⟩, ⟨"0x2", "0x2"⟩] ∧ (fills.map FillEntry.fillId).Nodup) ∧
    ∀ positions, (Account.opinion paged).getPositions reading = .ok positions →
      positions.get? "7:y" = some 7 := by
  obtain ⟨horders, hfills, hpositions⟩ :=
    Account.listings_complete reading none (.opinion paged)
  refine ⟨fun orders h => ?_, fun fills h => ?_, fun positions h => ?_⟩
  · rw [horders ⟨by decide +kernel, by decide +kernel⟩ orders h]
    decide +kernel
  · obtain ⟨hall, hnodup⟩ := hfills (by decide +kernel : 2 ≤ 25 * paged.limit) fills h
    refine ⟨?_, hnodup ⟨by decide +kernel, by decide +kernel⟩⟩
    rw [hall]
    decide +kernel
  · rw [hpositions ⟨by decide +kernel, by decide +kernel⟩ positions h]
    exact ⟨by decide +kernel, by decide +kernel⟩

/-- An account at Polymarket with open orders on two pages. -/
def twoPages : Polymarket.Account where
  sdk :=
    { orderPages := [[mapping [("id", .text "a")]], [mapping [("id", .text "b")]]]
      trades := []
      getOpenOrders := fun onlyFirstPage =>
        .ok (mapping [("id", .text "a")] :: if onlyFirstPage then [] else
          [mapping [("id", .text "b")]])
      getTrades := .ok []
      firstPage := fun _ h => (Except.ok.inj h).symm
      allTrades := fun _ h => (Except.ok.inj h).symm }
  positions := { records := [] }
  profileAddress := ""
  occurredAt := fun _ => 0
  readOrder := fun _ => .ok ()
  readFill := fun _ => .ok ()

/-- Only the orders of the first page are listed, and nothing is raised. -/
theorem open_orders_second_page :
    (Account.polymarket twoPages).listOpenOrders reading = .ok [⟨"", "a"⟩] ∧
      twoPages.sdk.orderPages.flatten.map (Polymarket.orderEntry reading) =
        [⟨"", "a"⟩, ⟨"", "b"⟩] :=
  ⟨rfl, by decide +kernel⟩

end ListingExamples

end ArbitrageEngine.Reconciliation.Listings
