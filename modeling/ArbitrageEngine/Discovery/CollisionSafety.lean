/-
# ArbitrageEngine.Discovery.CollisionSafety -- the markets that are kept are told apart

The ids of the raw catalogue that are in doubt are found before the category filter, the shared
tokens after it.  Which markets are kept does not depend on the order of the rows; no other row of
the raw catalogue, well formed or not, filtered out or not, claims the id or a token of a kept
market in its canonical spelling, and no two kept markets share a token up to letter case.

Ids are compared as they are spelled, and so are the tokens of rows that the filter takes out.
-/
import ArbitrageEngine.Discovery.OutcomeTokens

namespace ArbitrageEngine.PredictCatalogue

open Lib

variable (texts : CatalogueTexts)

/-- The markets kept of a raw catalogue, with a filter on its rows. -/
def keptMarkets (rows : List Row) (keep : Row → Bool) : List (String × Row) :=
  collisionSafeCatalogCandidates texts (rows.filter keep) (poisonedMarketIds texts rows)

variable {texts}

/-! ## What the indexes say -/

variable (texts) in
theorem claimedMarketIds_nodup (row : Row) : (claimedMarketIds texts row).Nodup :=
  List.nodup_dedup _

variable (texts) in
theorem claimedTokenIds_nodup (row : Row) : (claimedTokenIds texts row).Nodup :=
  List.nodup_dedup _

/-- The id of a market is claimed by it. -/
theorem claimed_of_predictMarketId {row : Row} {id : String}
    (h : predictMarketId texts row = some id) : id ∈ claimedMarketIds texts row := by
  unfold predictMarketId at h
  unfold claimedMarketIds
  rw [List.mem_dedup, List.mem_filterMap]
  split at h
  · next first rest hread =>
      split at h
      · cases h
        exact exists_of_mapM_eq_some hread _ List.mem_cons_self
      · cases h
  · cases h

/-- A key that two rows claim. -/
def Shared (claims : Row → List String) (rows : List Row) (key : String) : Prop :=
  1 < rows.countP fun row => key ∈ claims row

/-- A group of more than one row is that of a shared key. -/
theorem shared_of_mem_groups {claims : Row → List String} (hclaims : ∀ row, (claims row).Nodup)
    {rows : List Row} {e : String × List Row}
    (h : e ∈ ((Dict.index claims rows).entries.filter fun e => 1 < e.2.length)) :
    Shared claims rows e.1 ∧ e.2 = rows.filter fun row => e.1 ∈ claims row := by
  obtain ⟨key, group⟩ := e
  obtain ⟨hmem, hlength⟩ := List.mem_filter.mp h
  have hlength : 1 < group.length := by simpa using hlength
  have hgroup : group ≠ [] := by
    rintro rfl
    simp at hlength
  have hfilter := (Dict.mem_entries_index claims hclaims hgroup rows).mp hmem
  refine ⟨?_, hfilter.symm⟩
  show 1 < rows.countP _
  rw [List.countP_eq_length_filter, hfilter]
  exact hlength

/-- The group of a shared key has more than one row. -/
theorem mem_groups {claims : Row → List String} (hclaims : ∀ row, (claims row).Nodup)
    {rows : List Row} {key : String} (hshared : Shared claims rows key) :
    (key, rows.filter fun row => key ∈ claims row) ∈
      ((Dict.index claims rows).entries.filter fun e => 1 < e.2.length) := by
  have hlength : 1 < (rows.filter fun row => key ∈ claims row).length := by
    rw [← List.countP_eq_length_filter]
    exact hshared
  have hgroup : (rows.filter fun row => decide (key ∈ claims row)) ≠ [] := by
    intro hnil
    rw [hnil] at hlength
    simp at hlength
  refine List.mem_filter.mpr ⟨?_, by simpa using hlength⟩
  exact (Dict.mem_entries_index claims hclaims hgroup rows).mpr rfl

/-- **The ids in doubt**: those of rows whose id is, those that two rows claim, and those of rows
that claim a token that another row claims. -/
theorem mem_poisoned_iff {rows : List Row} {id : String} :
    id ∈ poisonedMarketIds texts rows ↔
      (∃ row ∈ rows, predictMarketId texts row = none ∧ id ∈ claimedMarketIds texts row) ∨
        Shared (claimedMarketIds texts) rows id ∨
          ∃ row ∈ rows, id ∈ claimedMarketIds texts row ∧
            ∃ token ∈ claimedTokenIds texts row, Shared (claimedTokenIds texts) rows token := by
  unfold poisonedMarketIds
  dsimp only
  rw [List.mem_append, List.mem_append, or_assoc]
  refine or_congr ?_ (or_congr ?_ ?_)
  · simp only [List.mem_flatMap, List.mem_filter, decide_eq_true_eq, and_assoc]
  · rw [List.mem_map]
    constructor
    · rintro ⟨e, he, rfl⟩
      exact (shared_of_mem_groups (claimedMarketIds_nodup texts) he).1
    · intro hshared
      exact ⟨_, mem_groups (claimedMarketIds_nodup texts) hshared, rfl⟩
  · rw [List.mem_flatMap]
    constructor
    · rintro ⟨row, hrow, hid⟩
      obtain ⟨group, hgroup, hrow⟩ := List.mem_flatten.mp hrow
      obtain ⟨hvalue, hlength⟩ := List.mem_filter.mp hgroup
      obtain ⟨e, he, rfl⟩ := List.mem_map.mp hvalue
      obtain ⟨hshared, hfilter⟩ :=
        shared_of_mem_groups (claimedTokenIds_nodup texts) (List.mem_filter.mpr ⟨he, hlength⟩)
      rw [hfilter, List.mem_filter] at hrow
      exact ⟨row, hrow.1, hid, e.1, by simpa using hrow.2, hshared⟩
    · rintro ⟨row, hrow, hid, token, htoken, hshared⟩
      obtain ⟨he, hlength⟩ :=
        List.mem_filter.mp (mem_groups (claimedTokenIds_nodup texts) hshared)
      have hin : row ∈ rows.filter fun row => token ∈ claimedTokenIds texts row :=
        List.mem_filter.mpr ⟨hrow, by simpa using htoken⟩
      refine ⟨row, List.mem_flatten.mpr ⟨_, List.mem_filter.mpr ⟨?_, hlength⟩, hin⟩, hid⟩
      exact List.mem_map.mpr ⟨_, he, rfl⟩

/-! ## Which markets are kept -/

variable (texts) in
/-- A row is the only one of its id. -/
def Only (rows : List Row) (e : String × Row) : Prop :=
  (rows.filter fun row => predictMarketId texts row = some e.1) = [e.2]

theorem Only.mem {rows : List Row} {e : String × Row} (h : Only texts rows e) :
    e.2 ∈ rows ∧ predictMarketId texts e.2 = some e.1 := by
  have hmem : e.2 ∈ rows.filter fun row => predictMarketId texts row = some e.1 := by
    have hsingle : (rows.filter fun row => predictMarketId texts row = some e.1) = [e.2] := h
    rw [hsingle]
    exact List.mem_singleton_self e.2
  obtain ⟨hrow, hid⟩ := List.mem_filter.mp hmem
  exact ⟨hrow, by simpa using hid⟩

/-- What the index of the ids has under an id. -/
theorem mem_idGroups_iff {rows : List Row} {id : String} {group : List Row} (hgroup : group ≠ []) :
    (id, group) ∈ (Dict.index (fun row => (predictMarketId texts row).toList) rows).entries ↔
      (rows.filter fun row => predictMarketId texts row = some id) = group := by
  have hnodup : ∀ row : Row, (predictMarketId texts row).toList.Nodup := by
    intro row
    cases predictMarketId texts row <;> simp
  rw [Dict.mem_entries_index _ hnodup hgroup]
  simp only [Option.mem_toList]

theorem mem_uniqueRows_iff {rows : List Row} {e : String × Row} :
    e ∈ uniqueRows texts rows ↔ Only texts rows e := by
  obtain ⟨id, row⟩ := e
  unfold uniqueRows
  rw [List.mem_filterMap]
  constructor
  · rintro ⟨⟨key, group⟩, hmem, hone⟩
    split at hone
    · next row' hgroup =>
        cases hone
        have hgroup : group = [row] := hgroup
        subst hgroup
        exact (mem_idGroups_iff (List.cons_ne_nil _ _)).mp hmem
    · cases hone
  · intro honly
    exact ⟨(id, [row]), (mem_idGroups_iff (List.cons_ne_nil _ _)).mpr honly, rfl⟩

/-- No row is in the list of unique rows twice. -/
theorem uniqueRows_nodup (rows : List Row) : (uniqueRows texts rows).Nodup := by
  unfold uniqueRows
  refine List.Nodup.filterMap ?_ ?_
  · rintro ⟨key, group⟩ ⟨key', group'⟩ e he he'
    rcases group with _ | ⟨row, _ | ⟨_, _⟩⟩
    · cases he
    · rcases group' with _ | ⟨row', _ | ⟨_, _⟩⟩
      · cases he'
      · cases he
        cases he'
        rfl
      · cases he'
    · cases he
  · exact (Dict.index _ rows).nodup.of_map _

/-- **The kept markets**: the only rows of their ids, not in doubt, with tokens that no other such
row has. -/
theorem mem_kept_iff {rows : List Row} {keep : Row → Bool} {e : String × Row} :
    e ∈ keptMarkets texts rows keep ↔
      Only texts (rows.filter keep) e ∧ specTokens texts e.2 ≠ [] ∧
        (∀ token ∈ specTokens texts e.2, ∀ e', Only texts (rows.filter keep) e' →
          token ∈ specTokens texts e'.2 → e' = e) ∧ e.1 ∉ poisonedMarketIds texts rows := by
  unfold keptMarkets collisionSafeCatalogCandidates
  dsimp only
  rw [List.mem_filter, mem_uniqueRows_iff, decide_eq_true_eq]
  refine and_congr_right fun honly => and_congr_right fun _ => and_congr_left fun _ => ?_
  have hnodup : ∀ e : String × Row, (specTokens texts e.2).Nodup := fun e => List.nodup_dedup _
  refine forall₂_congr fun token htoken => ?_
  have hunique : e ∈ uniqueRows texts (rows.filter keep) := mem_uniqueRows_iff.mpr honly
  refine (Dict.length_listAt_le_one_iff _ hnodup (uniqueRows_nodup _) hunique htoken).trans ?_
  exact forall_congr' fun e' => imp_congr_left mem_uniqueRows_iff

/-! ## The order of the rows -/

theorem Shared.perm {claims : Row → List String} {rows rows' : List Row} (h : rows.Perm rows')
    {key : String} : Shared claims rows key ↔ Shared claims rows' key := by
  unfold Shared
  rw [h.countP_eq]

theorem mem_poisoned_perm {rows rows' : List Row} (h : rows.Perm rows') {id : String} :
    id ∈ poisonedMarketIds texts rows ↔ id ∈ poisonedMarketIds texts rows' := by
  simp only [mem_poisoned_iff, Shared.perm h, h.mem_iff]

theorem Only.perm {rows rows' : List Row} (h : rows.Perm rows') {e : String × Row} :
    Only texts rows e ↔ Only texts rows' e := by
  have hfilter := h.filter fun row => predictMarketId texts row = some e.1
  unfold Only
  constructor
  · intro honly
    rw [honly] at hfilter
    exact List.perm_singleton.mp hfilter.symm
  · intro honly
    rw [honly] at hfilter
    exact List.perm_singleton.mp hfilter

/-- Which markets are kept does not depend on the order of the rows. -/
theorem mem_kept_perm {rows rows' : List Row} (h : rows.Perm rows') (keep : Row → Bool)
    (e : String × Row) : e ∈ keptMarkets texts rows keep ↔ e ∈ keptMarkets texts rows' keep := by
  have hfilter := h.filter keep
  simp only [mem_kept_iff, Only.perm hfilter, mem_poisoned_perm h]

/-! ## Other rows of the raw catalogue -/

/-- What a row and another one claim is shared. -/
theorem shared_of_two {claims : Row → List String} {before after : List Row} {row other : Row}
    {key : String} (hrow : key ∈ claims row) (hmem : other ∈ before ++ after)
    (hother : key ∈ claims other) : Shared claims (before ++ row :: after) key := by
  have hperm : (before ++ row :: after).Perm (row :: (before ++ after)) := List.perm_middle
  rw [Shared.perm hperm]
  show 1 < (row :: (before ++ after)).countP _
  rw [List.countP_cons_of_pos (by simpa using hrow)]
  have hpos : 0 < (before ++ after).countP fun row => key ∈ claims row :=
    List.countP_pos_iff.mpr ⟨other, hmem, by simpa using hother⟩
  omega

/-- A kept market is in the raw catalogue, under its id. -/
theorem kept_row {rows : List Row} {keep : Row → Bool} {id : String} {row : Row}
    (h : (id, row) ∈ keptMarkets texts rows keep) :
    row ∈ rows ∧ predictMarketId texts row = some id := by
  obtain ⟨hrow, hid⟩ := (mem_kept_iff.mp h).1.mem
  exact ⟨(List.mem_filter.mp hrow).1, hid⟩

/-- The only row of a kept id is kept. -/
theorem mem_kept_of_id {rows : List Row} {keep : Row → Bool} {id : String} {row : Row}
    (hid : id ∈ (keptMarkets texts rows keep).map Prod.fst)
    (hone : ∀ other ∈ rows, predictMarketId texts other = some id → other = row) :
    (id, row) ∈ keptMarkets texts rows keep := by
  obtain ⟨⟨id', row'⟩, hmem, rfl⟩ := List.mem_map.mp hid
  obtain ⟨hrow, hid'⟩ := kept_row hmem
  rw [← hone row' hrow hid']
  exact hmem

/-- No other row claims the id or a token of a kept market. -/
theorem kept_unclaimed {rows : List Row} {keep : Row → Bool} {id : String} {row : Row}
    (h : (id, row) ∈ keptMarkets texts rows keep) {before after : List Row}
    (hrows : rows = before ++ row :: after) {other : Row} (hother : other ∈ before ++ after) :
    id ∉ claimedMarketIds texts other ∧
      ∀ token ∈ claimedTokenIds texts row, token ∉ claimedTokenIds texts other := by
  obtain ⟨hrow, hid⟩ := kept_row h
  have hclaimed := claimed_of_predictMarketId hid
  have hclean : id ∉ poisonedMarketIds texts rows := (mem_kept_iff.mp h).2.2.2
  rw [mem_poisoned_iff] at hclean
  refine ⟨?_, ?_⟩
  · intro hothers
    apply hclean
    refine .inr (.inl ?_)
    rw [hrows]
    exact shared_of_two hclaimed hother hothers
  · intro token htoken hothers
    apply hclean
    refine .inr (.inr ⟨row, hrow, hclaimed, token, htoken, ?_⟩)
    rw [hrows]
    exact shared_of_two htoken hother hothers

/-! ## The tokens of kept markets -/

/-- The key of a spec's token is among those that are compared. -/
theorem key_mem_specTokens (hlaw : texts.Lawful) {row : Row} {spec : Spec}
    (h : spec ∈ marketSpecsFromPayload texts row) :
    texts.tokenKey spec.predictFunTokenId ∈ specTokens texts row := by
  obtain ⟨-, hgives⟩ := (specs_spec row hlaw).1 spec h
  obtain ⟨value, hvalue⟩ := hgives.canonical
  have hne := (tokenKey_of_canonical hlaw hvalue).1
  unfold specTokens
  refine List.mem_dedup.mpr (List.mem_map.mpr ⟨spec.predictFunTokenId, ?_, rfl⟩)
  exact List.mem_filter.mpr ⟨List.mem_map.mpr ⟨spec, h, rfl⟩, by simpa using hne⟩

/-- The specs of a row have different tokens. -/
theorem specKeys_nodup (hlaw : texts.Lawful) (row : Row) :
    ((marketSpecsFromPayload texts row).map fun spec =>
      texts.tokenKey spec.predictFunTokenId).Nodup := by
  obtain ⟨hgives, hsides⟩ := specs_spec row hlaw
  refine List.Nodup.map_on ?_ (List.Nodup.of_map _ hsides)
  intro spec hspec spec' hspec' hsame
  obtain ⟨hclear, hspecGives⟩ := hgives spec hspec
  have hside := (tokenKey_eq_iff hlaw hclear hspecGives (hgives spec' hspec').2).mp hsame
  exact List.inj_on_of_nodup_map hsides hspec hspec' hside

/-- What is promised of a kept market. -/
structure ToldApart (texts : CatalogueTexts) (rows : List Row) (kept : List (String × Row))
    (id : String) (row : Row) : Prop where
  /-- No other row of the raw catalogue claims its id or one of its tokens. -/
  unclaimed : ∀ before after, rows = before ++ row :: after → ∀ other ∈ before ++ after,
    id ∉ claimedMarketIds texts other ∧
      ∀ token ∈ claimedTokenIds texts row, token ∉ claimedTokenIds texts other
  /-- No other kept market has one of its tokens, in whatever letter case. -/
  apart : ∀ e ∈ kept, e ≠ (id, row) → ∀ spec ∈ marketSpecsFromPayload texts row,
    ∀ spec' ∈ marketSpecsFromPayload texts e.2,
      texts.tokenKey spec.predictFunTokenId ≠ texts.tokenKey spec'.predictFunTokenId
  traded : marketSpecsFromPayload texts row ≠ []
  distinct : ((marketSpecsFromPayload texts row).map fun spec =>
    texts.tokenKey spec.predictFunTokenId).Nodup
  /-- The token of a spec is one that the payload gives to its side. -/
  given : ∀ spec ∈ marketSpecsFromPayload texts row,
    Gives texts row spec.predictFunSide spec.predictFunTokenId
  /-- All that the payload gives to the side is this token, in whatever letter case. -/
  only : ∀ spec ∈ marketSpecsFromPayload texts row, ∀ token,
    Gives texts row spec.predictFunSide token →
      texts.tokenKey token = texts.tokenKey spec.predictFunTokenId
  /-- `_token_id_for_market` returns this token, in whatever letter case, or none. -/
  again : ∀ spec ∈ marketSpecsFromPayload texts row, ∀ token,
    tokenIdForMarket texts row spec = some token →
      texts.tokenKey token = texts.tokenKey spec.predictFunTokenId

/-- **Collision safety**: which markets are kept does not depend on the order of the rows, and each
is told apart from all other rows. -/
theorem kept_told_apart (hlaw : texts.Lawful) (rows : List Row) (keep : Row → Bool) :
    (∀ rows', rows.Perm rows' → ∀ e,
      e ∈ keptMarkets texts rows keep ↔ e ∈ keptMarkets texts rows' keep) ∧
      ∀ id row, (id, row) ∈ keptMarkets texts rows keep →
        ToldApart texts rows (keptMarkets texts rows keep) id row := by
  refine ⟨fun rows' hperm e => mem_kept_perm hperm keep e, ?_⟩
  intro id row hkept
  obtain ⟨honly, htokens, hapart, hclean⟩ := mem_kept_iff.mp hkept
  have hgives := (specs_spec row hlaw).1
  have honlyToken : ∀ spec ∈ marketSpecsFromPayload texts row, ∀ token,
      Gives texts row spec.predictFunSide token →
        texts.tokenKey token = texts.tokenKey spec.predictFunTokenId := by
    intro spec hspec token htoken
    obtain ⟨hclear, hspecGives⟩ := hgives spec hspec
    exact (tokenKey_eq_iff hlaw hclear htoken hspecGives).mpr rfl
  refine ⟨?_, ?_, ?_, specKeys_nodup hlaw row, fun spec hspec => (hgives spec hspec).2,
    honlyToken, ?_⟩
  · exact fun before after hrows other hother => kept_unclaimed hkept hrows hother
  · intro e he hne spec hspec spec' hspec' hsame
    have hkey' := key_mem_specTokens hlaw hspec'
    rw [← hsame] at hkey'
    exact hne (hapart _ (key_mem_specTokens hlaw hspec) e (mem_kept_iff.mp he).1 hkey')
  · intro hnil
    apply htokens
    simp [specTokens, hnil]
  · exact fun spec hspec token htoken =>
      honlyToken spec hspec token (gives_tokenIdForMarket hlaw htoken)

/-! ## Plain texts -/

/-- The tables of plain ASCII texts and numerals, without dates. -/
def CatalogueTexts.ascii : CatalogueTexts where
  render := fun value =>
    match value with
    | .int n => toString n
    | _ => ""
  parseInt := fun s =>
    if s ≠ "" ∧ s.toList.all Char.isDigit then
      some (Nat.ofDigits 10 (s.toList.map Titles.Unicode.ascii.digitValue).reverse : ℕ)
    else none
  unicode := .ascii
  upper := fun s => String.ofList (s.toList.map Char.toUpper)
  lower := fun s => String.ofList (s.toList.map Char.toLower)
  isDigits := fun s => s.toList.all Char.isDigit && s ≠ ""
  fromTimestamp := fun _ => none
  fromIso := fun _ => none

/-- A capital letter comes of itself or of the small letter. -/
theorem eq_of_toUpper {c capital : Char} (small : Char) (h : c.toUpper = capital)
    (hsmall : capital.val + 32 = small.val) : c = capital ∨ c = small := by
  unfold Char.toUpper at h
  split at h
  · right
    apply Char.ext
    rw [← hsmall, ← h]
    dsimp only
    generalize hdistance : 'A'.val - 'a'.val = distance
    have hzero : distance + 32 = 0 := by
      rw [← hdistance]
      decide
    rw [UInt32.add_assoc, hzero]
    exact (UInt32.add_zero _).symm
  · exact .inl h

theorem ascii_yes {s : String} (h : CatalogueTexts.ascii.upper s = "YES") :
    s ∈ ["YES", "YEs", "YeS", "Yes", "yES", "yEs", "yeS", "yes"] := by
  have hlist : s.toList.map Char.toUpper = ['Y', 'E', 'S'] := by
    have hchars := congrArg String.toList h
    simpa [CatalogueTexts.ascii] using hchars
  obtain ⟨a, rest, hs, ha, hrest⟩ := List.map_eq_cons_iff.mp hlist
  obtain ⟨b, rest, rfl, hb, hrest⟩ := List.map_eq_cons_iff.mp hrest
  obtain ⟨c, rest, rfl, hc, hrest⟩ := List.map_eq_cons_iff.mp hrest
  obtain rfl := List.map_eq_nil_iff.mp hrest
  have hs : s = String.ofList [a, b, c] := by
    rw [← hs, String.ofList_toList]
  rcases eq_of_toUpper 'y' ha (by decide) with rfl | rfl <;>
    rcases eq_of_toUpper 'e' hb (by decide) with rfl | rfl <;>
      rcases eq_of_toUpper 's' hc (by decide) with rfl | rfl <;>
        (subst hs; decide)

theorem ascii_no {s : String} (h : CatalogueTexts.ascii.upper s = "NO") :
    s ∈ ["NO", "No", "nO", "no"] := by
  have hlist : s.toList.map Char.toUpper = ['N', 'O'] := by
    have hchars := congrArg String.toList h
    simpa [CatalogueTexts.ascii] using hchars
  obtain ⟨a, rest, hs, ha, hrest⟩ := List.map_eq_cons_iff.mp hlist
  obtain ⟨b, rest, rfl, hb, hrest⟩ := List.map_eq_cons_iff.mp hrest
  obtain rfl := List.map_eq_nil_iff.mp hrest
  have hs : s = String.ofList [a, b] := by
    rw [← hs, String.ofList_toList]
  rcases eq_of_toUpper 'n' ha (by decide) with rfl | rfl <;>
    rcases eq_of_toUpper 'o' hb (by decide) with rfl | rfl <;>
      (subst hs; decide)

theorem ascii_lawful : CatalogueTexts.ascii.Lawful where
  fold_ne := by
    intro text hne hfold
    exact hne (List.map_eq_nil_iff.mp hfold)
  digit := by
    intro c hc
    show [' ', '\t', '\n', '\r'].contains c = false
    rw [List.contains_eq_mem, decide_eq_false_iff_not]
    intro hspace
    simp only [List.mem_cons, List.not_mem_nil, or_false] at hspace
    rcases hspace with rfl | rfl | rfl | rfl <;> cases hc
  side := by
    have hyes : ∀ s ∈ ["YES", "YEs", "YeS", "Yes", "yES", "yEs", "yeS", "yes"],
        CatalogueTexts.ascii.upper (CatalogueTexts.ascii.strip s) = "YES" ∧
          labelSide (CatalogueTexts.ascii.normalize (CatalogueTexts.ascii.strip s)) = [.yes] := by
      decide +kernel
    have hno : ∀ s ∈ ["NO", "No", "nO", "no"],
        CatalogueTexts.ascii.upper (CatalogueTexts.ascii.strip s) = "NO" ∧
          labelSide (CatalogueTexts.ascii.normalize (CatalogueTexts.ascii.strip s)) = [.no] := by
      decide +kernel
    intro s side h
    cases side with
    | yes => exact hyes s (ascii_yes h)
    | no => exact hno s (ascii_no h)

namespace CollisionExamples

/-- A row with direct tokens. -/
def directRow (id title yesToken noToken : String) : Row :=
  .ofFields [("id", .text id), ("title", .text title), ("yesTokenId", .text yesToken),
    ("noTokenId", .text noToken)]

def rain : Row := directRow "007" "Will it rain?" "0xA1" "0xA2"

def snow : Row := directRow "8" "Will it snow?" "0xb1" "0xB2"

theorem rain_told_apart :
    ("7", rain) ∈ keptMarkets .ascii [rain, snow] (fun _ => true) ∧
      ToldApart .ascii [rain, snow] (keptMarkets .ascii [rain, snow] fun _ => true) "7" rain := by
  have hkept : ("7", rain) ∈ keptMarkets .ascii [rain, snow] (fun _ => true) := by
    have hother : predictMarketId .ascii snow ≠ some "7" := by decide +kernel
    refine mem_kept_of_id (by decide +kernel) ?_
    intro row hrow hid
    rcases List.mem_cons.mp hrow with rfl | hrow
    · rfl
    · rw [List.mem_singleton.mp hrow] at hid
      exact absurd hid hother
  exact ⟨hkept, (kept_told_apart ascii_lawful [rain, snow] fun _ => true).2 "7" rain hkept⟩

def smallId : Row := directRow "rain-a" "Will it rain?" "0xa1" "0xa2"

def capitalId : Row := directRow "RAIN-A" "Will it snow?" "0xb1" "0xb2"

/-- A market with two spellings of a token, and sides that no label is compared with. -/
def spelledTwice : Row :=
  .ofFields [("id", .text "7"), ("title", .text "Will it rain?"), ("yesTokenId", .text "0xA1"),
    ("outcomes", .array [
      .ofFields [("name", .text "Yes"), ("side", .text "yes "), ("tokenId", .text "0xa1"),
        ("indexSet", .int 1)],
      .ofFields [("name", .text "No"), ("side", .text "no "), ("tokenId", .text "0xa2"),
        ("indexSet", .int 2)]])]

/-- Ids that differ in letter case only are different ids: a market is kept though another row has
its id in capital letters.  And `_token_id_for_market` may return the spelling that the spec has
not. -/
theorem letter_case_matters :
    (("rain-a", smallId) ∈ keptMarkets .ascii [smallId, capitalId] (fun _ => true) ∧
      "RAIN-A" ∈ claimedMarketIds .ascii capitalId ∧
      CatalogueTexts.ascii.fold "RAIN-A" = CatalogueTexts.ascii.fold "rain-a") ∧
    ∃ spec ∈ marketSpecsFromPayload .ascii spelledTwice, spec.predictFunTokenId = "0xa1" ∧
      tokenIdForMarket .ascii spelledTwice spec = some "0xA1" := by
  refine ⟨⟨?_, by decide +kernel, by decide +kernel⟩, ?_⟩
  · have hother : predictMarketId .ascii capitalId ≠ some "rain-a" := by decide +kernel
    refine mem_kept_of_id (by decide +kernel) ?_
    intro row hrow hid
    rcases List.mem_cons.mp hrow with rfl | hrow
    · rfl
    · rw [List.mem_singleton.mp hrow] at hid
      exact absurd hid hother
  · decide +kernel

end CollisionExamples

end ArbitrageEngine.PredictCatalogue
