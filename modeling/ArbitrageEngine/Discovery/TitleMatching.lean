/-
# ArbitrageEngine.Discovery.TitleMatching -- Predict.fun markets found by their title

A market without an id of Predict.fun is looked for by its title.  Candidates are filed under the
set of the words of their titles, the words of direction and comparison left out; of those under the
expected title's set, within half an hour of its expiry, the one of the highest score is taken,
unless another one is as good.

The set forgets the order of the words, how often each stands, and whether the title speaks of more
or of less.  So a title of another meaning is taken exactly where it leads and nothing competes.
-/
import ArbitrageEngine.Discovery.CollisionSafety
import ArbitrageEngine.Lib.Leaders
import Mathlib.Data.Finset.Dedup
import Mathlib.Data.List.Destutter

namespace ArbitrageEngine.PredictCatalogue

open Lib

/-- The tables, with the measure of titles. -/
structure TitleTexts extends CatalogueTexts where
  /-- `text_similarity`, the exact value of the floating-point number. -/
  similarity : String → String → ℚ

variable (texts : TitleTexts)

/-! ## Titles -/

/-- The words that `normalize_text` joins. -/
def titleWords (title : String) : List (List Char) := Titles.normalWords texts.unicode title.toList

/-- `BENIGN_TITLE_VARIANTS`. -/
def benignTitleVariants : List (List Char) :=
  ["above", "below", "over", "under", "exceed", "exceeds", "exceeding", "greater", "less", "more",
    "than"].map String.toList

/-- `_strict_title_key`. -/
def strictTitleKey (title : String) : Finset (List Char) :=
  ((titleWords texts title).filter fun word => word ∉ benignTitleVariants).toFinset

/-- `0.85`. -/
def strictScore : ℚ := 7656119366529843 / 2 ^ 53

/-- `0.01`.  Scores lie between `0.85` and `1`, where the difference of two is exact. -/
def ambiguityMargin : ℚ := 5764607523034235 / 2 ^ 59

/-- `_strict_title_score`. -/
def strictTitleScore (expectedTitle candidateTitle : String) : ℚ :=
  let expectedNormalized := texts.normalize expectedTitle
  let candidateNormalized := texts.normalize candidateTitle
  if expectedNormalized = "" ∨ candidateNormalized = "" then 0
  else if expectedNormalized = candidateNormalized then 1
  else if strictTitleKey texts expectedTitle ≠ strictTitleKey texts candidateTitle then 0
  else max strictScore (texts.similarity expectedTitle candidateTitle)

/-- The title a market without an id is looked for by. -/
def expectedTitle (market : Spec) : String :=
  if texts.normalize market.symbol = texts.normalize market.targetLabel then market.symbol
  else market.symbol ++ " " ++ market.targetLabel

/-- `_first_str(candidate, ("question", "title", "name")) or ""`. -/
def candidateTitle (candidate : Row) : String :=
  (firstStr texts.toCatalogueTexts candidate ["question", "title", "name"]).getD ""

/-! ## The best candidate -/

/-- `expires_raw` of a candidate, read. -/
def candidateExpiry (candidate : Row) : Option Time :=
  (truthy (firstStr texts.toCatalogueTexts candidate
    ["expiresAt", "expires_at", "endDate", "end_date", "expiry"])).bind
      (parseDatetime texts.toCatalogueTexts)

/-- Within half an hour of the expiry of the market, where it has one. -/
def expiryFits (market : Spec) (candidate : Row) : Bool :=
  match market.expiresAt, candidateExpiry texts candidate with
  | none, _ => true
  | some _, none => false
  | some left, some right => |left - right| ≤ 1800 * 10 ^ 6

def candidateIdKeys : List String := ["id", "marketId", "market_id", "conditionId", "condition_id"]

/-- An entry of `matches`. -/
structure TitleMatch where
  score : ℚ
  candidateId : String
  candidate : Row

/-- `matches` of `_best_candidate`. -/
def titleMatches (candidates : List Row) (market : Spec) : List TitleMatch :=
  candidates.filterMap fun candidate =>
    let score :=
      strictTitleScore texts (expectedTitle texts market) (candidateTitle texts candidate)
    if score < strictScore then none
    else if expiryFits texts market candidate then
      some ⟨score, (firstStr texts.toCatalogueTexts candidate candidateIdKeys).getD "", candidate⟩
    else none

/-- Another match is as good. -/
def ambiguous (first second : TitleMatch) : Prop :=
  first.candidateId ≠ second.candidateId ∧ |first.score - second.score| ≤ ambiguityMargin

instance (first second : TitleMatch) : Decidable (ambiguous first second) :=
  inferInstanceAs (Decidable (_ ∧ _))

/-- `_best_candidate`. -/
def bestCandidate (candidates : List Row) (market : Spec) : Option Row :=
  let exact := (truthy market.predictFunMarketId).bind fun id => candidates.find? fun candidate =>
    firstStr texts.toCatalogueTexts candidate candidateIdKeys = some id
  match exact with
  | some candidate => some candidate
  | none =>
      match byScore TitleMatch.score (titleMatches texts candidates market) with
      | [] => none
      | [first] => some first.candidate
      | first :: second :: _ => if ambiguous first second then none else some first.candidate

/-! ## The resolver -/

/-- `candidates_by_title_key`. -/
def candidatesByTitleKey (candidatesById : List (String × Row)) :
    Dict (Finset (List Char)) (List Row) :=
  Dict.index
    (fun candidate =>
      let key := strictTitleKey texts (candidateTitle texts candidate)
      if key = ∅ then [] else [key])
    (candidatesById.map Prod.snd)

/-- `selected_candidate` of a market. -/
def selectedCandidate (candidatesById : List (String × Row)) (market : Spec) : Option Row :=
  let persisted := (truthy market.predictFunMarketId).getD ""
  match candidatesById.find? fun e => e.1 = persisted with
  | some e => some e.2
  | none =>
      -- A persisted id is never migrated to another market.
      if truthy market.predictFunMarketId = none then
        bestCandidate texts
          ((candidatesByTitleKey texts candidatesById).listAt
            (strictTitleKey texts (expectedTitle texts market))) market
      else none

/-- The candidate and the token a market is resolved to. -/
def resolution (candidatesById : List (String × Row)) (market : Spec) : Option (Row × String) :=
  (selectedCandidate texts candidatesById market).bind fun candidate =>
    (tokenIdForMarket texts.toCatalogueTexts candidate market).map fun token => (candidate, token)

/-- `_clear_predict_execution_metadata`. -/
def clearPredictExecutionMetadata (market : Spec) : Spec :=
  { market with
    predictFunTokenId := ""
    predictFunFeeRateBps := none
    mappingStatus := if market.mappingStatus = .verified then .stale else market.mappingStatus }

/-- `_resolve_market_specs`. -/
def resolveMarketSpecs (rows : List Row) (markets : List Spec) (poisoned : List String) :
    List Spec :=
  let candidatesById := collisionSafeCatalogCandidates texts.toCatalogueTexts rows poisoned
  markets.map fun market =>
    if market.venueBLabel ≠ "Predict.fun" then market
    else
      match resolution texts candidatesById market with
      | none => clearPredictExecutionMetadata market
      | some (candidate, tokenId) =>
          { market with
            predictFunTokenId := tokenId
            predictFunMarketId := (truthy (predictMarketId texts.toCatalogueTexts candidate)).or
              market.predictFunMarketId
            predictFunFeeRateBps :=
              optionalInt texts.toCatalogueTexts candidate ["feeRateBps", "fee_rate_bps"]
            category := (truthy market.category).or
              (marketCategory texts.toCatalogueTexts candidate)
            resolutionSource := (truthy market.resolutionSource).or
              (resolutionSource texts.toCatalogueTexts candidate)
            outcomeSemantics := (truthy market.outcomeSemantics).or
              (firstStr texts.toCatalogueTexts candidate
                ["rules", "description", "resolutionRules"])
            cutoffAt := market.cutoffAt.or market.expiresAt }

/-! ## What titles say -/

/-- More, or less. -/
inductive Direction
  | up
  | down
deriving DecidableEq

/-- The direction of a word, where it has one. -/
def directionOf (word : List Char) : Option Direction :=
  if String.ofList word ∈
      ["above", "over", "exceed", "exceeds", "exceeding", "greater", "more"] then some .up
  else if String.ofList word ∈ ["below", "under", "less"] then some .down
  else none

/-- The words of a title in their order, without those that may be removed or replaced. -/
def coreWords (title : String) : List (List Char) :=
  (titleWords texts title).filter fun word => word ∉ benignTitleVariants

/-- The directions of a title in their order, each said once. -/
def directions (title : String) : List Direction :=
  ((titleWords texts title).filterMap directionOf).destutter (· ≠ ·)

/-- Titles of one meaning: the same words in the same order, words of comparison removed or
replaced, and the same directions unless one title leaves them out. -/
def SameMeaning (expected candidate : String) : Prop :=
  coreWords texts expected = coreWords texts candidate ∧
    (directions texts expected = [] ∨ directions texts candidate = [] ∨
      directions texts expected = directions texts candidate)

instance (expected candidate : String) : Decidable (SameMeaning texts expected candidate) :=
  inferInstanceAs (Decidable (_ ∧ _))

/-- The candidates of a catalogue that compete for a market: the set of their words is the expected
one, and they expire with it. -/
def competitors (candidatesById : List (String × Row)) (market : Spec) : List TitleMatch :=
  titleMatches texts ((candidatesById.map Prod.snd).filter fun candidate =>
    strictTitleKey texts (candidateTitle texts candidate) ≠ ∅ ∧
      strictTitleKey texts (candidateTitle texts candidate) =
        strictTitleKey texts (expectedTitle texts market)) market

variable {texts}

/-! ## Who is selected -/

/-- The id of a kept market is not empty. -/
theorem canonicalMarketId_ne {texts : CatalogueTexts} {value : Json} {id : String}
    (h : canonicalMarketId texts value = some id) : id ≠ "" := by
  unfold canonicalMarketId at h
  obtain ⟨raw, -, h⟩ := Option.bind_eq_some_iff.mp h
  dsimp only at h
  split at h
  · cases h
  · next hblank =>
      split at h
      · split at h
        · cases h
          rw [Nat.toString_eq_repr]
          exact Nat.repr_ne_empty
        · cases h
      · cases h
        exact hblank

theorem predictMarketId_ne {texts : CatalogueTexts} {row : Row} {id : String}
    (h : predictMarketId texts row = some id) : id ≠ "" := by
  have hclaimed := claimed_of_predictMarketId h
  unfold claimedMarketIds at hclaimed
  rw [List.mem_dedup, List.mem_filterMap] at hclaimed
  obtain ⟨value, -, hvalue⟩ := hclaimed
  exact canonicalMarketId_ne hvalue

/-- No candidate has the empty id. -/
theorem find_empty_id {texts : CatalogueTexts} (rows : List Row) (poisoned : List String) :
    ((collisionSafeCatalogCandidates texts rows poisoned).find? fun e => e.1 = "") = none := by
  rw [List.find?_eq_none]
  rintro ⟨id, row⟩ hmem hid
  have hid : id = "" := by simpa using hid
  subst hid
  exact predictMarketId_ne (mem_uniqueRows_iff.mp (List.mem_filter.mp hmem).1).mem.2 rfl

/-- Who competes is in the catalogue. -/
theorem candidate_mem_of_competitor {rows : List Row} {poisoned : List String} {market : Spec}
    {m : TitleMatch} (h : m ∈ competitors texts
      (collisionSafeCatalogCandidates texts.toCatalogueTexts rows poisoned) market) :
    m.candidate ∈ rows := by
  unfold competitors titleMatches at h
  obtain ⟨candidate, hcandidate, h⟩ := List.mem_filterMap.mp h
  have hm : m.candidate = candidate := by
    dsimp only at h
    split at h
    · cases h
    · split at h
      · exact (congrArg TitleMatch.candidate (Option.some.inj h)).symm
      · cases h
  obtain ⟨⟨id, row⟩, hmem, rfl⟩ := List.mem_map.mp (List.mem_filter.mp hcandidate).1
  rw [hm]
  exact (mem_uniqueRows_iff.mp (List.mem_filter.mp hmem).1).mem.1

/-- What is filed under the key of a title. -/
theorem listAt_titleKey (candidatesById : List (String × Row)) (title : String) :
    (candidatesByTitleKey texts candidatesById).listAt (strictTitleKey texts title) =
      (candidatesById.map Prod.snd).filter fun candidate =>
        strictTitleKey texts (candidateTitle texts candidate) ≠ ∅ ∧
          strictTitleKey texts (candidateTitle texts candidate) = strictTitleKey texts title := by
  unfold candidatesByTitleKey
  rw [Dict.listAt_index]
  · apply List.filter_congr
    intro candidate _
    by_cases hempty : strictTitleKey texts (candidateTitle texts candidate) = ∅
    · simp [hempty]
    · simp [hempty, eq_comm]
  · intro candidate
    dsimp only
    split
    · exact List.nodup_nil
    · exact List.nodup_singleton _

/-- Without an id, the search by title decides. -/
theorem selectedCandidate_eq {rows : List Row} {poisoned : List String} {market : Spec}
    (hno : truthy market.predictFunMarketId = none) :
    selectedCandidate texts
        (collisionSafeCatalogCandidates texts.toCatalogueTexts rows poisoned) market =
      match byScore TitleMatch.score (competitors texts
        (collisionSafeCatalogCandidates texts.toCatalogueTexts rows poisoned) market) with
      | [] => none
      | [first] => some first.candidate
      | first :: second :: _ => if ambiguous first second then none else some first.candidate := by
  unfold selectedCandidate bestCandidate competitors
  rw [hno]
  dsimp only [Option.getD_none, Option.bind_none]
  rw [find_empty_id, listAt_titleKey]
  simp only [if_true]

/-- **Who is selected**: the competitor that leads, where none that leads the others is as good. -/
theorem selectedCandidate_eq_some_iff {rows : List Row} {poisoned : List String} {market : Spec}
    (hno : truthy market.predictFunMarketId = none) {row : Row} :
    selectedCandidate texts
        (collisionSafeCatalogCandidates texts.toCatalogueTexts rows poisoned) market = some row ↔
      ∃ first rest, Leads TitleMatch.score (competitors texts
          (collisionSafeCatalogCandidates texts.toCatalogueTexts rows poisoned) market) first rest ∧
        first.candidate = row ∧
        ∀ second rest', Leads TitleMatch.score rest second rest' → ¬ ambiguous first second := by
  rw [selectedCandidate_eq hno]
  cases hsort : byScore TitleMatch.score (competitors texts
      (collisionSafeCatalogCandidates texts.toCatalogueTexts rows poisoned) market) with
  | nil =>
      have hempty := byScore_eq_nil_iff.mp hsort
      refine ⟨fun h => (by cases h), ?_⟩
      rintro ⟨first, rest, hleads, -⟩
      have hmem := hleads.mem
      rw [hempty] at hmem
      cases hmem
  | cons first sorted =>
      obtain ⟨rest, hleads, hrest⟩ := byScore_eq_cons_iff.mp hsort
      -- Only one leads.
      have hone : ∀ first' rest', Leads TitleMatch.score (competitors texts
          (collisionSafeCatalogCandidates texts.toCatalogueTexts rows poisoned) market)
            first' rest' → first' = first ∧ byScore TitleMatch.score rest' = sorted := by
        intro first' rest' hleads'
        have hsort' := byScore_of_leads hleads'
        rw [hsort] at hsort'
        cases hsort'
        exact ⟨rfl, rfl⟩
      cases hsorted : sorted with
      | nil =>
          constructor
          · intro h
            refine ⟨first, rest, hleads, Option.some.inj h, ?_⟩
            intro second rest' hsecond
            have hempty := byScore_of_leads hsecond
            rw [← hrest, hsorted] at hempty
            cases hempty
          · rintro ⟨first', rest', hleads', rfl, -⟩
            rw [(hone first' rest' hleads').1]
      | cons second others =>
          show (if ambiguous first second then none else some first.candidate) = some row ↔ _
          constructor
          · intro h
            split at h
            · cases h
            · next hclear =>
                refine ⟨first, rest, hleads, Option.some.inj h, ?_⟩
                intro second' rest' hsecond
                have hsame := byScore_of_leads hsecond
                rw [← hrest, hsorted] at hsame
                cases hsame
                exact hclear
          · rintro ⟨first', rest', hleads', rfl, hclear⟩
            obtain ⟨rfl, hsame⟩ := hone first' rest' hleads'
            rw [hsorted] at hsame
            obtain ⟨rest'', hsecond, -⟩ := byScore_eq_cons_iff.mp hsame
            rw [if_neg (hclear second rest'' hsecond)]

/-- **The search by title, exactly**: a market without an id is resolved to titles of the expected
meaning only, if and only if a competitor of another meaning that leads has no token for the market
or one that leads the others is as good. -/
theorem title_match_sound_iff (texts : TitleTexts) (rows : List Row) (poisoned : List String)
    (market : Spec) (hno : truthy market.predictFunMarketId = none) :
    (∀ row token, resolution texts
        (collisionSafeCatalogCandidates texts.toCatalogueTexts rows poisoned) market =
          some (row, token) →
        SameMeaning texts (expectedTitle texts market) (candidateTitle texts row)) ↔
      ∀ first rest, Leads TitleMatch.score (competitors texts
          (collisionSafeCatalogCandidates texts.toCatalogueTexts rows poisoned) market) first rest →
        ¬ SameMeaning texts (expectedTitle texts market) (candidateTitle texts first.candidate) →
        tokenIdForMarket texts.toCatalogueTexts first.candidate market = none ∨
          ∃ second rest', Leads TitleMatch.score rest second rest' ∧ ambiguous first second := by
  constructor
  · intro hsound first rest hleads hother
    by_contra hloses
    obtain ⟨htoken, hclear⟩ := not_or.mp hloses
    obtain ⟨token, htoken⟩ := Option.ne_none_iff_exists'.mp htoken
    have hselected := (selectedCandidate_eq_some_iff hno).mpr
      ⟨first, rest, hleads, rfl, fun second rest' hsecond hambiguous =>
        hclear ⟨second, rest', hsecond, hambiguous⟩⟩
    apply hother
    apply hsound first.candidate token
    unfold resolution
    rw [hselected]
    simp [htoken]
  · intro hloses row token hresolved
    unfold resolution at hresolved
    obtain ⟨candidate, hselected, htoken⟩ := Option.bind_eq_some_iff.mp hresolved
    obtain ⟨token', htoken, hpair⟩ := Option.map_eq_some_iff.mp htoken
    cases hpair
    obtain ⟨first, rest, hleads, rfl, hclear⟩ := (selectedCandidate_eq_some_iff hno).mp hselected
    by_contra hother
    rcases hloses first rest hleads hother with hnone | ⟨second, rest', hsecond, hambiguous⟩
    · rw [htoken] at hnone
      cases hnone
    · exact hclear second rest' hsecond hambiguous

namespace TitleMatchingExamples

open CollisionExamples

/-- The tables of plain texts; the measure is that of `btc above 100` and `btc below 100`. -/
def plain : TitleTexts where
  toCatalogueTexts := .ascii
  similarity := fun _ _ => 6928614811339225 / 2 ^ 53

/-- A market of a title, without an id. -/
def untraded (title : String) : Spec where
  symbol := title
  targetLabel := title
  polymarketTokenId := "101"
  polymarketSide := .yes
  predictFunTokenId := ""
  predictFunSide := .no

def above : Spec := untraded "BTC above 100"

def below : Row := directRow "7" "BTC below 100" "0xa1" "0xa2"

/-- A market that hedges `above` is resolved to the token of `below`. -/
theorem above_resolved_to_below :
    ¬ ∀ row token, resolution plain
      (collisionSafeCatalogCandidates plain.toCatalogueTexts [below]
        (poisonedMarketIds plain.toCatalogueTexts [below])) above = some (row, token) →
      SameMeaning plain (expectedTitle plain above) (candidateTitle plain row) := by
  intro hsound
  have hresolved : (resolution plain
      (collisionSafeCatalogCandidates plain.toCatalogueTexts [below]
        (poisonedMarketIds plain.toCatalogueTexts [below])) above).map
          (fun found => (candidateTitle plain found.1, found.2)) =
        some ("BTC below 100", "0xa2") := by
    decide +kernel
  obtain ⟨⟨row, token⟩, hfound, hpair⟩ := Option.map_eq_some_iff.mp hresolved
  have hsame := hsound row token hfound
  rw [(Prod.mk.inj hpair).1] at hsame
  revert hsame
  decide +kernel

def exceeds : Row := directRow "7" "BTC exceeds 100" "0xa1" "0xa2"

/-- Another word for the same direction. -/
theorem above_resolved_to_exceeds :
    truthy above.predictFunMarketId = none ∧
      ∀ row token, resolution plain
        (collisionSafeCatalogCandidates plain.toCatalogueTexts [exceeds] []) above =
          some (row, token) →
        SameMeaning plain (expectedTitle plain above) (candidateTitle plain row) := by
  refine ⟨by decide, (title_match_sound_iff plain [exceeds] [] above (by decide)).mpr ?_⟩
  intro first rest hleads hother
  have hrow := List.mem_singleton.mp (candidate_mem_of_competitor hleads.mem)
  rw [hrow] at hother
  exact absurd (by decide +kernel) hother

end TitleMatchingExamples

end ArbitrageEngine.PredictCatalogue
