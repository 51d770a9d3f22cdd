/-
# ArbitrageEngine.Discovery.Enrichment -- the resolvers of a discovery cycle

A cycle of `_resolve_scan_all_snapshot_with_caches` takes the markets of all catalogues and passes
them through four resolvers.  Gamma finds the Polymarket leg and drops what it does not find; SX
Bet, Opinion and Myriad look for the market in their own catalogue, by an id, by the sports event or
by the similarity of titles, and leave it as it is where they find nothing.  SX Bet and Opinion
write what they find into the generic second leg, the `predict_fun_*` fields, whatever is there;
Myriad has fields of its own.

The catalogues are those the cycle has parsed.  What the code computes from texts alone -- their
normal form, their similarity, the sports event a title speaks of -- is a parameter, and so is the
search in the Polymarket snapshot.  Public addresses and volumes are left out.
-/
import ArbitrageEngine.Models

namespace ArbitrageEngine.Discovery

/-! ## Texts -/

/-- `MarketText`: an entry of a catalogue. -/
structure MarketText where
  marketId : String
  title : String
  expiresAt : Time
  yesLabel : String := "YES"
  noLabel : String := "NO"
  externalMarketId : Option String := none
  category : Option String := none
  resolutionSource : Option String := none
  outcomeSemantics : Option String := none
  conditionId : Option String := none
  collateralToken : Option String := none
deriving DecidableEq

/-- `SportsMarketIdentity`. -/
structure SportsMarketIdentity where
  kind : String
  participants : List String
  subject : String
  line : Option Dec
  period : Option String
  competition : Option String
deriving DecidableEq

/-- What is computed from texts. -/
structure TextFunctions where
  /-- `normalize_text`. -/
  normalize : String → String
  /-- `text_similarity`. -/
  similarity : String → String → ℚ
  /-- `value.strip().upper()`; no label of Myriad has white space around. -/
  upper : String → String
  /-- `normalize_category`. -/
  category : String → String
  /-- `sports_market_identity`, of a title, the two labels and the rules. -/
  sportsIdentity : String → Option String → Option String → Option String →
    Option SportsMarketIdentity
  /-- `_proposition_title` of SX Bet. -/
  propositionTitle : MarketText → String

/-- The fields of `MarketSpec` that only discovery writes. -/
structure Candidate extends MarketSpec where
  myriadConditionId : Option String := none
  myriadSide : BinarySide := .no
  mappingStrategy : Option String := none
deriving DecidableEq

/-- `_earliest_cutoff`. -/
def earliestCutoff (values : List (Option Time)) : Option Time := values.reduceOption.min?

/-- `a or b` of optional texts. -/
def orText (a b : Option String) : Option String := (truthy a).or b

variable (text : TextFunctions)

/-! ## Titles that are alike -/

/-- The entries of a catalogue under an id, where a later one replaces an earlier one. -/
def lastWith (p : MarketText → Bool) (catalogue : List MarketText) : Option MarketText :=
  (catalogue.filter p).getLast?

/-- `_opposite_or_same_side`. -/
def oppositeOrSameSide (leftYesLabel rightYesLabel : String) : BinarySide :=
  if 85 / 100 ≤ text.similarity leftYesLabel rightYesLabel then .no else .yes

/-- The loop of `SemanticMarketMatcher.match` for one title: the first of the most similar. -/
def bestMatch (minSimilarity : ℚ) (expiryWindowSeconds : ℤ) (title : String) (expiresAt : Time)
    (catalogue : List MarketText) : Option (MarketText × ℚ) :=
  catalogue.foldl
    (fun best right =>
      if expiryWindowSeconds * 10 ^ 6 < |expiresAt - right.expiresAt| then best
      else
        let similarity := text.similarity title right.title
        if similarity < minSimilarity then best
        else if best.all fun (_, other) => other < similarity then some (right, similarity)
        else best)
    none

/-- `_expiry_window_seconds_for_market`. -/
def expiryWindowSeconds (market : Candidate) : ℤ :=
  if text.category (market.category.getD "") = "sports" ∨ market.venueBLabel = "SX Bet" then
    7 * 24 * 60 * 60
  else 1800

/-- `_min_similarity_for_market`. -/
def minSimilarity (market : Candidate) : ℚ :=
  if market.venueBLabel = "SX Bet" then 78 / 100 else 85 / 100

/-- The best match of a title and the side it is bought on. -/
def semanticMatch (market : Candidate) (title : String) (expiresAt : Time)
    (catalogue : List MarketText) : Option (MarketText × BinarySide) :=
  (bestMatch text (minSimilarity market) (expiryWindowSeconds text market) title expiresAt
    catalogue).map fun (right, _) => (right, oppositeOrSameSide text "YES" right.yesLabel)

/-! ## Gamma -/

/-- A market of the Polymarket snapshot. -/
structure GammaPayload where
  id : String
  conditionId : String
  clobTokenIds : List String
  outcomes : List String
  expiry : Option Time := none
  category : Option String := none
  resolutionSource : Option String := none
  outcomeSemantics : Option String := none
deriving DecidableEq

/-- The entries of the parallel lists whose outcome has a property. -/
def GammaPayload.tokensWhere (candidate : GammaPayload) (p : String → Bool) : List String :=
  ((candidate.outcomes.zip candidate.clobTokenIds).filter fun (outcome, _) => p outcome).map
    Prod.snd

/-- The one token of a list, if it is not empty. -/
def onlyToken : List String → Option String
  | [token] => truthy (some token)
  | _ => none

/-- `_token_id_for_side`. -/
def tokenIdForSide (candidate : GammaPayload) (side : BinarySide) : Option String :=
  if candidate.clobTokenIds = [] ∨ candidate.clobTokenIds.length ≠ candidate.outcomes.length then
    none
  else onlyToken (candidate.tokensWhere fun outcome => text.upper outcome = side.value)

/-- `value.split(separator)`. -/
def split (separator : Char) (value : String) : List String :=
  (value.toList.splitOn separator).map String.ofList

/-- `value.split()` of a normalized text. -/
def words (value : String) : List String := (split ' ' value).filter (· ≠ "")

/-- `_contains_contiguous_words`. -/
def containsContiguousWords (words expected : List String) : Bool :=
  expected ≠ [] ∧ expected <:+: words

/-- `_token_id_for_market`. -/
def tokenIdForMarket (candidate : GammaPayload) (market : Candidate) : Option String :=
  match tokenIdForSide text candidate market.polymarketSide with
  | some token => some token
  | none =>
      let expectedLabel := text.normalize market.targetLabel
      if candidate.clobTokenIds = [] ∨
          candidate.clobTokenIds.length ≠ candidate.outcomes.length then none
      else if expectedLabel = "" then none
      else
        let labelMatches :=
          candidate.tokensWhere fun outcome => text.normalize outcome = expectedLabel
        if labelMatches = [] ∧ market.venueBLabel = "Myriad" ∧
            (truthy market.polymarketMarketId).isSome then
          onlyToken (candidate.tokensWhere fun outcome =>
            containsContiguousWords (words (text.normalize outcome)) (words expectedLabel))
        else onlyToken labelMatches

/-- `_needs_resolution`. -/
def needsResolution (market : Candidate) : Bool :=
  market.polymarketTokenId = "" ∨ market.polymarketTokenId = "replace-with-token-id"

/-- One round of `_resolve_scan_all`: a market that raises is left out.  `search` is
`_best_candidate_from_snapshot_with_strategy`. -/
def resolveGamma (search : Candidate → Option (GammaPayload × String)) (market : Candidate) :
    Option Candidate :=
  if needsResolution market then do
    let (candidate, strategy) ← search market
    let tokenId ← tokenIdForMarket text candidate market
    some { market with
      polymarketTokenId := tokenId
      polymarketMarketId := some candidate.id
      conditionId := some candidate.conditionId
      expiresAt := market.expiresAt.or candidate.expiry
      category := orText market.category candidate.category
      resolutionSource := orText market.resolutionSource candidate.resolutionSource
      outcomeSemantics := orText market.outcomeSemantics candidate.outcomeSemantics
      cutoffAt := market.cutoffAt.or candidate.expiry
      mappingStrategy := some strategy }
  else some market

/-! ## SX Bet -/

/-- `SxBetConfig`, as far as discovery reads it. -/
structure SxBetConfig where
  isV3 : Bool
  takerFeeBps : ℤ

namespace SxBet

/-- `_sx_token_id`. -/
def tokenId (marketHash : String) (side : BinarySide) : String := marketHash ++ ":" ++ side.value

/-- What both kinds of match write. -/
def withMatch (market : Candidate) (found : MarketText) (side : BinarySide) : Candidate :=
  { market with
    predictFunTokenId := tokenId found.marketId side
    predictFunSide := side
    venueBLabel := "SX Bet"
    predictFunMarketId := some found.marketId
    category := orText market.category found.category
    resolutionSource := orText market.resolutionSource found.resolutionSource
    outcomeSemantics := orText market.outcomeSemantics found.outcomeSemantics
    cutoffAt := earliestCutoff [market.cutoffAt, market.expiresAt, some found.expiresAt] }

/-- `_apply_exact_market`. -/
def applyExactMarket (market : Candidate) (exactMarket : MarketText) (side : BinarySide) :
    Candidate :=
  { withMatch market exactMarket side with mappingStrategy := some "exact_id" }

/-- The replacement for a structured match. -/
def applyStructuredMatch (config : SxBetConfig) (market : Candidate) (found : MarketText)
    (side : BinarySide) : Candidate :=
  { withMatch market found side with
    predictFunFeeRateBps := if config.isV3 then none else some config.takerFeeBps
    mappingStrategy := some "structured_sports" }

/-- `_market_sports_identity` and `_candidate_sports_identity`. -/
def marketIdentity (market : Candidate) : Option SportsMarketIdentity :=
  text.sportsIdentity market.symbol (some market.targetLabel) none market.outcomeSemantics

def candidateIdentity (candidate : MarketText) : Option SportsMarketIdentity :=
  text.sportsIdentity (text.propositionTitle candidate) (some candidate.yesLabel)
    (some candidate.noLabel) candidate.outcomeSemantics

/-- `_OUTRIGHT_CUTOFF_WINDOW_SECONDS` and `_STANDARD_CUTOFF_WINDOW_SECONDS`. -/
def cutoffWindowSeconds (kind : String) : ℤ :=
  if kind = "outright" then 72 * 60 * 60 else 12 * 60 * 60

/-- `structured_sports_match`. -/
def structuredSportsMatch (left right : SportsMarketIdentity) (leftCutoff : Option Time)
    (rightCutoff : Time) : Bool :=
  left.kind = right.kind ∧ left.participants = right.participants ∧ left.subject = right.subject ∧
    left.line = right.line ∧ left.period = right.period ∧
    (left.kind = "outright" → left.competition = right.competition) ∧
    ((truthy left.competition).isSome → (truthy right.competition).isSome →
      left.competition = right.competition) ∧
    leftCutoff.any fun cutoff => |cutoff - rightCutoff| ≤ cutoffWindowSeconds left.kind * 10 ^ 6

/-- The entries of the bucket of the market's event that match it. -/
def structuredMatches (catalogue : List MarketText) (market : Candidate) : List MarketText :=
  match marketIdentity text market with
  | none => []
  | some identity =>
      catalogue.filter fun candidate =>
        (candidateIdentity text candidate).any fun other =>
          structuredSportsMatch identity other market.expiresAt candidate.expiresAt

/-- `_hedge_side_for_target`. -/
def hedgeSideForTarget (targetLabel : String) (candidate : MarketText) : Option BinarySide :=
  let target := text.normalize targetLabel
  if target = text.normalize candidate.yesLabel then some .no
  else if target = text.normalize candidate.noLabel then some .yes
  else none

/-- One round of `_resolve_market_specs`. -/
def resolveMarket (config : SxBetConfig) (catalogue : List MarketText) (market : Candidate) :
    Candidate :=
  if market.venueBLabel = "SX Bet" ∧ market.predictFunTokenId ≠ "" then market
  else if market.expiresAt = none then market
  else
    match catalogue.find? fun candidate =>
      candidate.marketId = market.predictFunMarketId.getD "" with
    | some exactMarket => applyExactMarket market exactMarket market.predictFunSide
    | none =>
        match structuredMatches text catalogue market with
        | [found] =>
            match hedgeSideForTarget text market.targetLabel found with
            | some side => applyStructuredMatch config market found side
            | none => market
        | _ => market

/-- `_market_specs_from_text`. -/
def marketSpecsFromText (market : MarketText) : List Candidate :=
  [(market.yesLabel, BinarySide.yes, "yes"), (market.noLabel, .no, "no")].map
    fun (targetLabel, side, name) =>
      { symbol := text.propositionTitle market
        targetLabel := targetLabel
        polymarketTokenId := ""
        polymarketSide := side
        predictFunTokenId := tokenId market.marketId side.opposite
        predictFunSide := side.opposite
        venueBLabel := "SX Bet"
        expiresAt := some market.expiresAt
        predictFunMarketId := some market.marketId
        predictFunFeeRateBps := some 0
        rulesFingerprint := some ("sx:" ++ market.marketId ++ ":" ++ name)
        category := market.category
        resolutionSource := market.resolutionSource
        outcomeSemantics := market.outcomeSemantics
        cutoffAt := some market.expiresAt }

end SxBet

/-! ## Opinion -/

namespace Opinion

/-- `execution_token` of the outcome a side buys; `_opinion_token_id`. -/
def tokenId (market : MarketText) (side : BinarySide) : Option String :=
  match split '|' (market.collateralToken.getD "") with
  | [yesToken, noToken] =>
      if yesToken = "" ∨ noToken = "" then none
      else
        some (market.marketId ++ ":" ++
          match side with
          | .yes => yesToken
          | .no => noToken)
  | _ => none

/-- `_apply_opinion_market`. -/
def applyOpinionMarket (market : Candidate) (discovered : MarketText) (side : BinarySide)
    (mappingStrategy : String) : Candidate :=
  match tokenId discovered side with
  | none => market
  | some token =>
      { market with
        predictFunTokenId := token
        predictFunSide := side
        venueBLabel := "Opinion"
        predictFunMarketId := some discovered.marketId
        category := orText market.category discovered.category
        resolutionSource := orText market.resolutionSource discovered.resolutionSource
        outcomeSemantics := orText market.outcomeSemantics discovered.outcomeSemantics
        cutoffAt := earliestCutoff [market.cutoffAt, market.expiresAt, some discovered.expiresAt]
        mappingStrategy := some mappingStrategy }

/-- `by_id` and `by_condition_id`. -/
def byId (catalogue : List MarketText) (market : Candidate) : Option MarketText :=
  lastWith (fun candidate => candidate.marketId = market.predictFunMarketId.getD "") catalogue

def byConditionId (catalogue : List MarketText) (market : Candidate) : Option MarketText :=
  lastWith (fun candidate => candidate.conditionId = some (market.conditionId.getD "")) catalogue

/-- The title of `_source_market_text`. -/
def sourceTitle (market : Candidate) : String :=
  if market.venueBLabel = "SX Bet" then market.symbol
  else market.symbol ++ " " ++ market.targetLabel

/-- One round of `_resolve_market_specs`. -/
def resolveMarket (catalogue : List MarketText) (market : Candidate) : Candidate :=
  if market.venueBLabel = "Opinion" ∧ market.predictFunTokenId ≠ "" then market
  else
    match market.expiresAt with
    | none => market
    | some expiresAt =>
        match (byId catalogue market).or (byConditionId catalogue market) with
        | some exact => applyOpinionMarket market exact market.polymarketSide.opposite "exact_id"
        | none =>
            match semanticMatch text market (sourceTitle market) expiresAt catalogue with
            | some (found, side) => applyOpinionMarket market found side "semantic_title"
            | none => market

/-- `_market_specs_from_text`. -/
def marketSpecsFromText (market : MarketText) : List Candidate :=
  match tokenId market .yes, tokenId market .no with
  | some yesToken, some noToken =>
      [(market.yesLabel, BinarySide.yes, noToken, "yes"), (market.noLabel, .no, yesToken, "no")].map
        fun (targetLabel, side, hedgeToken, name) =>
          { symbol := market.title
            targetLabel := targetLabel
            polymarketTokenId := ""
            polymarketSide := side
            predictFunTokenId := hedgeToken
            predictFunSide := side.opposite
            venueBLabel := "Opinion"
            expiresAt := some market.expiresAt
            predictFunMarketId := some market.marketId
            rulesFingerprint := some ("opinion:" ++ market.marketId ++ ":" ++ name)
            category := market.category
            resolutionSource := market.resolutionSource
            outcomeSemantics := market.outcomeSemantics
            cutoffAt := some market.expiresAt }
  | _, _ => []

end Opinion

/-! ## Myriad -/

namespace Myriad

/-- `_merge_existing_myriad_metadata`. -/
def mergeExistingMetadata (market : Candidate) (discovered : MarketText) : Candidate :=
  { market with
    myriadConditionId := orText market.myriadConditionId discovered.conditionId
    myriadCollateralToken := orText market.myriadCollateralToken discovered.collateralToken
    category := orText market.category discovered.category
    resolutionSource := orText market.resolutionSource discovered.resolutionSource
    outcomeSemantics := orText market.outcomeSemantics discovered.outcomeSemantics
    cutoffAt := earliestCutoff [market.cutoffAt, market.expiresAt, some discovered.expiresAt] }

/-- `_merge_discovered_myriad_market`. -/
def mergeDiscoveredMarket (market : Candidate) (discovered : MarketText) (side : BinarySide) :
    Candidate :=
  { mergeExistingMetadata market discovered with
    myriadMarketId := orText market.myriadMarketId (some discovered.marketId)
    myriadSide := side }

/-- The title of `_source_market_text`. -/
def sourceTitle (market : Candidate) : String :=
  if market.venueBLabel = "SX Bet" ∧ market.symbol ≠ "" then market.symbol
  else market.symbol ++ " " ++ market.targetLabel

/-- One round of `_resolve_market_specs`. -/
def resolveMarket (catalogue : List MarketText) (market : Candidate) : Candidate :=
  match (truthy market.myriadMarketId).filter fun id => !id.startsWith "replace-with" with
  | some id =>
      match lastWith (fun candidate => candidate.marketId = id) catalogue with
      | some exactMarket => mergeExistingMetadata market exactMarket
      | none => market
  | none =>
      match market.expiresAt with
      | none => market
      | some expiresAt =>
          match lastWith (fun candidate =>
            candidate.externalMarketId = some (market.polymarketMarketId.getD "")) catalogue with
          | some exactExternal =>
              mergeDiscoveredMarket market exactExternal market.polymarketSide.opposite
          | none =>
              match semanticMatch text market (sourceTitle market) expiresAt catalogue with
              | some (found, side) => mergeDiscoveredMarket market found side
              | none => market

/-- `_market_specs_from_text`. -/
def marketSpecsFromText (market : MarketText) : List Candidate :=
  let standardLabels :=
    text.upper market.yesLabel = BinarySide.yes.value ∧
      text.upper market.noLabel = BinarySide.no.value
  [(market.yesLabel, BinarySide.yes, ""), (market.noLabel, .no, ":reverse")].map
    fun (label, side, suffix) =>
      { symbol := market.title
        targetLabel := if standardLabels then market.title else label
        polymarketTokenId := ""
        polymarketSide := side
        polymarketMarketId := market.externalMarketId
        predictFunTokenId := ""
        predictFunSide := side.opposite
        venueBLabel := "Myriad"
        expiresAt := some market.expiresAt
        myriadMarketId := some market.marketId
        myriadConditionId := market.conditionId
        myriadCollateralToken := market.collateralToken
        myriadSide := side.opposite
        rulesFingerprint := some ("myriad:" ++ market.marketId ++ suffix)
        category := market.category
        resolutionSource := market.resolutionSource
        outcomeSemantics := market.outcomeSemantics
        cutoffAt := some market.expiresAt }

end Myriad

/-! ## The cycle -/

/-- What a cycle works with; a catalogue is `none` where it is not available. -/
structure Cycle where
  text : TextFunctions
  sxConfig : SxBetConfig
  search : Candidate → Option (GammaPayload × String)
  sxBet : Option (List MarketText)
  opinion : Option (List MarketText)
  myriad : Option (List MarketText)

namespace Cycle

variable (cycle : Cycle)

/-- The four steps, of one market. -/
def gammaStep (market : Candidate) : Option Candidate :=
  resolveGamma cycle.text cycle.search market

def sxStep (market : Candidate) : Candidate :=
  cycle.sxBet.elim market fun catalogue =>
    SxBet.resolveMarket cycle.text cycle.sxConfig catalogue market

def opinionStep (market : Candidate) : Candidate :=
  cycle.opinion.elim market fun catalogue => Opinion.resolveMarket cycle.text catalogue market

def myriadStep (market : Candidate) : Candidate :=
  cycle.myriad.elim market fun catalogue => Myriad.resolveMarket cycle.text catalogue market

/-- `resolve` of a catalogue while all markets are scanned: without markets it gives its own. -/
def resolveCatalogue (catalogue : Option (List MarketText)) (seeds : MarketText → List Candidate)
    (step : Candidate → Candidate) (markets : List Candidate) : List Candidate :=
  match catalogue with
  | none => markets
  | some entries => if markets = [] then entries.flatMap seeds else markets.map step

/-- The enrichment steps of `_resolve_scan_all_snapshot_with_caches`. -/
def enrich (markets : List Candidate) : List Candidate :=
  let markets := markets.filterMap cycle.gammaStep
  let markets := resolveCatalogue cycle.sxBet (SxBet.marketSpecsFromText cycle.text) cycle.sxStep
    markets
  let markets := resolveCatalogue cycle.opinion Opinion.marketSpecsFromText cycle.opinionStep
    markets
  resolveCatalogue cycle.myriad (Myriad.marketSpecsFromText cycle.text) cycle.myriadStep markets

end Cycle

end ArbitrageEngine.Discovery
