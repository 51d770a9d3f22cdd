/-
# ArbitrageEngine.Discovery.SnapshotSearch -- a market looked up in the Polymarket catalogue

`_best_candidate_from_snapshot_with_strategy`.  A market with a Polymarket id is looked up by it.
Otherwise the only candidate in the expiry window with the market's normal title is taken; where
there is none, or more than one, a market of SX Bet is compared by the sports event it speaks of,
and any other market by the similarity of the texts.

The comparison of events does not scan the catalogue: it looks at the candidates whose title has all
words of three or more letters of the participants, found through the shortest list of the index of
title words.
-/
import ArbitrageEngine.Discovery.GammaSnapshot
import ArbitrageEngine.Discovery.SportsMatching

namespace ArbitrageEngine.Gamma

open Lib
open Discovery (SportsMarketIdentity onlyToken containsContiguousWords)

/-- A market that is resolved. -/
abbrev Market : Type := Discovery.Candidate

/-- How a candidate was found. -/
inductive Strategy
  | exactId
  | exactTitle
  | structuredSports
  | semantic
  | unresolved
deriving DecidableEq

variable (texts : GammaTexts)

/-! ## The token of the outcome -/

/-- The tokens of the outcomes with a property. -/
def tokensWhere (p : Payload) (holds : String → Bool) : List String :=
  (((parseStringList texts (p.get "outcomes")).zip (parseStringList texts (p.get "clobTokenIds"))
    ).filter fun pair => holds pair.1).map Prod.snd

/-- `not token_ids or len(token_ids) != len(outcomes)`. -/
def unpaired (p : Payload) : Prop :=
  parseStringList texts (p.get "clobTokenIds") = [] ∨
    (parseStringList texts (p.get "clobTokenIds")).length ≠
      (parseStringList texts (p.get "outcomes")).length

instance (p : Payload) : Decidable (unpaired texts p) := inferInstanceAs (Decidable (_ ∨ _))

/-- `_token_id_for_side`. -/
def tokenIdForSide (p : Payload) (side : BinarySide) : Option String :=
  if unpaired texts p then none
  else onlyToken (tokensWhere texts p fun outcome =>
    texts.upper (texts.strip outcome) = side.value)

/-- `_token_id_for_market`. -/
def tokenIdForMarket (p : Payload) (market : Market) : Option String :=
  match tokenIdForSide texts p market.polymarketSide with
  | some token => some token
  | none =>
      let expectedLabel := texts.normalize market.targetLabel
      if unpaired texts p ∨ expectedLabel = "" then none
      else
        let labelMatches := tokensWhere texts p fun outcome =>
          texts.normalize outcome = expectedLabel
        if labelMatches = [] ∧ market.venueBLabel = "Myriad" ∧
            (truthy market.polymarketMarketId).isSome then
          onlyToken (tokensWhere texts p fun outcome =>
            containsContiguousWords (Discovery.words (texts.normalize outcome))
              (Discovery.words expectedLabel))
        else onlyToken labelMatches

/-! ## The title and the expiry -/

/-- `_matching_title`. -/
def matchingTitle (market : Market) : String :=
  if (market.venueBLabel = "Myriad" ∨ market.venueBLabel = "SX Bet") ∧ market.symbol ≠ "" then
    market.symbol
  else if market.targetLabel ≠ "" then market.targetLabel else market.symbol

/-- `_expiry_window_seconds_for_market`; `sports` says whether the category is `sports`. -/
def expiryWindowSeconds (sports : Market → Bool) (market : Market) : ℤ :=
  if sports market ∨ market.venueBLabel = "SX Bet" then 7 * 24 * 60 * 60 else 1800

/-- `_IMMUTABLE_MATCH_EXPIRY_WINDOW_SECONDS`. -/
def immutableMatchExpiryWindowSeconds : ℤ := 36 * 60 * 60

/-- `_expiry_matches`. -/
def expiryMatches (market : Market) (p : Payload) (windowSeconds : ℤ) : Bool :=
  match market.expiresAt with
  | none => true
  | some sourceExpiry =>
      (candidateExpiry texts p).any fun expiry =>
        |sourceExpiry - expiry| ≤ windowSeconds * 10 ^ 6

/-! ## The sports event -/

/-- The event of a market. -/
def sourceIdentity (market : Market) : Option SportsMarketIdentity :=
  Sports.sportsMarketIdentity texts.unicode market.symbol.toList (some market.targetLabel.toList)
    none (market.outcomeSemantics.map String.toList)

/-- `_structured_outcome_labels`. -/
def structuredOutcomeLabels (p : Payload) (expectedSubject : String) : Option (String × String) :=
  match parseStringList texts (p.get "outcomes") with
  | [first, second] =>
      if texts.strip first = "" ∨ texts.strip second = "" then none
      else
        let expected := texts.normalize expectedSubject
        if expected ≠ "" ∧ texts.normalize second = expected ∧ texts.normalize first ≠ expected then
          some (second, first)
        else some (first, second)
  | _ => none

/-- The event of a candidate. -/
def candidateIdentity (market : Market) (p : Payload) : Option SportsMarketIdentity :=
  let labels := structuredOutcomeLabels texts p market.targetLabel
  Sports.sportsMarketIdentity texts.unicode (p.title texts).toList
    (labels.map fun pair => pair.1.toList) (labels.map fun pair => pair.2.toList)
    ((outcomeSemantics texts p).map String.toList)

/-- The tests a candidate has to pass: a token for the market, and the same event. -/
def structuredMatch (market : Market) (source : SportsMarketIdentity) (p : Payload) : Bool :=
  (tokenIdForMarket texts p market).isSome &&
    Sports.structuredSportsMatch (some source) (candidateIdentity texts market p) market.expiresAt
      (candidateExpiry texts p)

/-- `{term for participant in participants for term in participant.split() if len(term) >= 3}`. -/
def participantTerms (participants : List String) : List String :=
  (participants.flatMap fun participant =>
    ((Titles.split texts.unicode participant.toList).map String.ofList).filter fun term =>
      3 ≤ term.length).dedup

/-- `min(groups, key=len)`: the first of the shortest. -/
def shortest : List (List Payload) → List Payload
  | [] => []
  | [group] => group
  | group :: rest =>
      let other := shortest rest
      if other.length < group.length then other else group

/-- `_structured_sports_candidate_pool`, with the terms in the order of the set. -/
def structuredSportsCandidatePool (snapshot : Snapshot) (terms : List String) : List Payload :=
  if terms = [] then []
  else
    let populated := (terms.map snapshot.byTitleTerm.listAt).filter fun group => group ≠ []
    (shortest populated).filter fun p => terms ⊆ p.titleTerms texts

/-- `unique = {str(candidate["id"]): candidate for candidate in matches}` and the only value. -/
def onlyCandidate (found : List Payload) : Option Payload :=
  match (found.map fun p => p.marketId texts).dedup with
  | [_] => found.getLast?
  | _ => none

/-- `_best_structured_sports_candidate`. -/
def bestStructuredSportsCandidate (snapshot : Snapshot) (market : Market) : Option Payload :=
  match sourceIdentity texts market with
  | none => none
  | some source =>
      onlyCandidate texts
        ((structuredSportsCandidatePool texts snapshot
          (participantTerms texts source.participants)).filter
            (structuredMatch texts market source))

/-! ## The search -/

/-- `candidate = by_id.get(id) or by_condition_id.get(id)` of a market that has an id. -/
def candidateById (snapshot : Snapshot) (market : Market) : Option Payload :=
  (truthy market.polymarketMarketId).bind fun id =>
    (snapshot.byId.get? id).or (snapshot.byConditionId.get? id)

/-- The candidates with the normal title of a market, in the expiry window. -/
def exactCandidates (sports : Market → Bool) (snapshot : Snapshot) (market : Market) :
    List Payload :=
  (snapshot.byTitle.listAt (texts.normalize (matchingTitle market))).filter fun p =>
    expiryMatches texts market p (expiryWindowSeconds sports market)

/-- A candidate that was found by a strategy, if any. -/
def foundBy (strategy : Strategy) (found : Option Payload) : Option Payload × Strategy :=
  if found.isSome then (found, strategy) else (none, .unresolved)

/-- `_best_candidate_from_snapshot_with_strategy`.  `semantic` is `_best_semantic_candidate`, which
no market of SX Bet or Predict.fun reaches. -/
def bestCandidate (sports : Market → Bool) (semantic : Snapshot → Market → Option Payload)
    (snapshot : Snapshot) (market : Market) : Option Payload × Strategy :=
  match candidateById snapshot market with
  | some candidate =>
      let window := max immutableMatchExpiryWindowSeconds (expiryWindowSeconds sports market)
      if expiryMatches texts market candidate window then (some candidate, .exactId)
      else (none, .unresolved)
  | none =>
      match exactCandidates texts sports snapshot market with
      | [candidate] => (some candidate, .exactTitle)
      | _ =>
          if market.venueBLabel = "SX Bet" then
            foundBy .structuredSports (bestStructuredSportsCandidate texts snapshot market)
          else if market.venueBLabel = "Predict.fun" then (none, .unresolved)
          else foundBy .semantic (semantic snapshot market)

theorem foundBy_eq_iff {strategy strategy' : Strategy} {found : Option Payload} {p : Payload} :
    foundBy strategy found = (some p, strategy') ↔ found = some p ∧ strategy = strategy' := by
  cases found with
  | none => simp [foundBy]
  | some q => simp [foundBy]

/-! ## Lists of the index -/

/-- The shortest list is one of them. -/
theorem shortest_mem : ∀ {groups : List (List Payload)}, groups ≠ [] → shortest groups ∈ groups
  | [], h => absurd rfl h
  | [group], _ => by simp [shortest]
  | group :: next :: rest, _ => by
      have ih := shortest_mem (List.cons_ne_nil next rest)
      simp only [shortest]
      split
      · exact List.mem_cons_of_mem _ ih
      · exact List.mem_cons_self

variable {texts}

/-- What the index of title words has under a word. -/
theorem listAt_byTitleTerm (now : Time) (payloads : List Payload) (term : String) :
    (buildSnapshot texts now payloads).byTitleTerm.listAt term =
      (buildSnapshot texts now payloads).markets.filter fun p => term ∈ p.titleTerms texts :=
  Dict.listAt_index _ (fun _ => List.nodup_dedup _) term _

/-- What the index of titles has under a title. -/
theorem listAt_byTitle (now : Time) (payloads : List Payload) (title : String) :
    (buildSnapshot texts now payloads).byTitle.listAt title =
      (buildSnapshot texts now payloads).markets.filter fun p => title = p.normalTitle texts := by
  show (Dict.index (fun p : Payload => [p.normalTitle texts]) _).listAt title = _
  rw [Dict.listAt_index _ (fun _ => List.nodup_singleton _)]
  apply List.filter_congr
  intro p _
  simp

/-- **The pool**: the candidates whose title has all the words, whatever the order of the words and
whichever list was the shortest. -/
theorem pool_eq (now : Time) (payloads : List Payload) {terms : List String} (hterms : terms ≠ []) :
    structuredSportsCandidatePool texts (buildSnapshot texts now payloads) terms =
      (buildSnapshot texts now payloads).markets.filter fun p => terms ⊆ p.titleTerms texts := by
  unfold structuredSportsCandidatePool
  rw [if_neg hterms]
  simp only
  by_cases hpopulated : (terms.map (buildSnapshot texts now payloads).byTitleTerm.listAt).filter
      (fun group => group ≠ []) = []
  · -- No word is in any title: the pool is empty, and so is what it is compared with.
    rw [hpopulated]
    symm
    apply List.filter_eq_nil_iff.mpr
    intro p hp hsubset
    obtain ⟨term, hterm⟩ := List.exists_mem_of_ne_nil terms hterms
    have hmem : p ∈ (buildSnapshot texts now payloads).byTitleTerm.listAt term := by
      rw [listAt_byTitleTerm]
      exact List.mem_filter.mpr ⟨hp, by simpa using (of_decide_eq_true hsubset) hterm⟩
    have hgroup := List.filter_eq_nil_iff.mp hpopulated _ (List.mem_map_of_mem hterm)
    exact hgroup (by simpa using List.ne_nil_of_mem hmem)
  · obtain ⟨term, hterm, hshortest⟩ : ∃ term ∈ terms,
        (buildSnapshot texts now payloads).byTitleTerm.listAt term =
          shortest ((terms.map (buildSnapshot texts now payloads).byTitleTerm.listAt).filter
            fun group => group ≠ []) := by
      have hmem := List.mem_of_mem_filter (shortest_mem hpopulated)
      exact List.mem_map.mp hmem
    rw [← hshortest, listAt_byTitleTerm, List.filter_filter]
    apply List.filter_congr
    intro p _
    by_cases hsubset : terms ⊆ p.titleTerms texts
    · simp [hsubset, hsubset hterm]
    · simp [hsubset]

end ArbitrageEngine.Gamma
