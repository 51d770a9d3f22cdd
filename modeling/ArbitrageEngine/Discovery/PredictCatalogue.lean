/-
# ArbitrageEngine.Discovery.PredictCatalogue -- the catalogue of Predict.fun

`predict_fun_discovery.py`, from the raw rows to the markets that may be traded.  Ids and tokens come
under several keys and in several spellings: numerals are read as numbers, other texts are kept as
they are, and two tokens are the same where they differ in white space around or in letter case only.
A row is a market where its id is not in doubt and its two outcomes have one token each.

Rows of the raw catalogue that claim the same id or the same token poison each other; of the rows
that are left after a filter, those whose id is unique and whose tokens no other one has are kept.
-/
import ArbitrageEngine.Discovery.Enrichment
import ArbitrageEngine.Discovery.TitleText
import ArbitrageEngine.Lib.Indexes
import ArbitrageEngine.Lib.JsonValue
import Mathlib.Data.List.Dedup

namespace ArbitrageEngine.PredictCatalogue

open Lib

/-- A row of the catalogue. -/
abbrev Row : Type := Json

/-- A market made from a row. -/
abbrev Spec : Type := Discovery.Candidate

/-- What the language makes of values and texts. -/
structure CatalogueTexts extends Texts where
  unicode : Titles.Unicode
  /-- `text.upper()`. -/
  upper : String → String
  /-- `text.lower()`. -/
  lower : String → String
  /-- `text.isdigit()`. -/
  isDigits : String → Bool
  /-- `datetime.fromtimestamp(seconds, tz=UTC)`, where it does not raise. -/
  fromTimestamp : ℤ → Option Time
  /-- `datetime.fromisoformat(text)` in UTC, where it does not raise. -/
  fromIso : String → Option Time

variable (texts : CatalogueTexts)

namespace CatalogueTexts

/-- `text.strip()`. -/
def strip (s : String) : String := String.ofList (Titles.strip texts.unicode s.toList)

/-- `normalize_text`. -/
def normalize (s : String) : String := String.ofList (Titles.normalizeText texts.unicode s.toList)

/-- `token_id.strip().casefold()`. -/
def tokenKey (s : String) : List Char :=
  texts.unicode.casefold (Titles.strip texts.unicode s.toList)

/-- `token_id.casefold()`. -/
def fold (s : String) : List Char := texts.unicode.casefold s.toList

/-- `int(text)` of a text that is `[+-]?\d+`. -/
def wholeNumber (text : List Char) : Option ℤ :=
  let digits := match text with
    | '-' :: rest => rest
    | '+' :: rest => rest
    | rest => rest
  if digits = [] ∨ ¬ digits.all texts.unicode.isDigit then none
  else
    let value : ℤ := Nat.ofDigits 10 (digits.map texts.unicode.digitValue).reverse
    some (if text.head? = some '-' then -value else value)

end CatalogueTexts

/-! ## Ids and tokens -/

/-- `_canonical_market_id`. -/
def canonicalMarketId (value : Json) : Option String :=
  let raw := match value with
    | .text s => some s
    | .int n => some (texts.str (.int n))
    | _ => none
  raw.bind fun raw =>
    let text := texts.strip raw
    if text = "" then none
    else
      match texts.wholeNumber text.toList with
      | some number => if 0 ≤ number then some (toString number.toNat) else none
      | none => some text

/-- `_MAX_UINT256`. -/
def maxUint256 : ℤ := 2 ^ 256 - 1

/-- `_canonical_token_id`. -/
def canonicalTokenId : Json → Option String
  | .text raw =>
      let text := texts.strip raw
      if text = "" then none
      else
        match texts.wholeNumber text.toList with
        | some number =>
            if 0 ≤ number ∧ number ≤ maxUint256 then some (toString number.toNat) else none
        | none => some text
  | _ => none

/-- What is under the keys that are there. -/
def present (row : Json) (keys : List String) : List Json :=
  (keys.map fun key => row.get key).filter Json.isPresent

def marketIdKeys : List String := ["id", "marketId", "market_id"]

/-- `_predict_market_id`. -/
def predictMarketId (row : Row) : Option String :=
  match (present row marketIdKeys).mapM (canonicalMarketId texts) with
  | some (first :: rest) => if rest.all fun id => id = first then some first else none
  | _ => none

/-- `_claimed_predict_market_ids`. -/
def claimedMarketIds (row : Row) : List String :=
  ((present row marketIdKeys).filterMap (canonicalMarketId texts)).dedup

def outcomeTokenKeys : List String :=
  ["tokenId", "token_id", "onChainId", "on_chain_id", "assetId", "asset_id"]

/-- The keys of a side: its name in small letters, with each ending. -/
def directKeys : BinarySide → List String
  | .yes => ["yesTokenId", "yes_token_id", "yesToken", "yes_token"]
  | .no => ["noTokenId", "no_token_id", "noToken", "no_token"]

/-- The keys that hold the outcomes. -/
def containerKeys : List String := ["outcomes", "tokens", "assets"]

/-- The objects in a list, and none in any other value. -/
def objectsIn : Json → List Json
  | .array items => items.filter Json.isObject
  | _ => []

/-- `_claimed_predict_token_ids`. -/
def claimedTokenIds (row : Row) : List String :=
  let direct := present row (directKeys .yes ++ directKeys .no)
  let listed := containerKeys.flatMap fun key =>
    (objectsIn (row.get key)).flatMap fun outcome => present outcome outcomeTokenKeys
  ((direct ++ listed).filterMap (canonicalTokenId texts)).dedup

/-- `_direct_token_ids_for_side`. -/
def directTokenIdsForSide (row : Row) (side : BinarySide) : Option (List String) :=
  (present row (directKeys side)).mapM (canonicalTokenId texts)

/-- Are all tokens the same, up to white space around and letter case? -/
def sameTokens (tokens : List String) : Bool :=
  match tokens with
  | [] => true
  | first :: rest => rest.all fun token => texts.tokenKey token = texts.tokenKey first

/-- `_direct_token_id_for_side`. -/
def directTokenIdForSide (row : Row) (side : BinarySide) : Option String :=
  match directTokenIdsForSide texts row side with
  | some tokens => if sameTokens texts tokens then tokens.head? else none
  | none => none

/-! ## Outcomes -/

/-- `_raw_outcomes`. -/
def rawOutcomes (row : Row) : Option (List Json) :=
  match present row containerKeys with
  | [.array items] => some items
  | _ => none

/-- `_iter_outcomes`. -/
def iterOutcomes (row : Row) : List Json := ((rawOutcomes row).getD []).filter Json.isObject

/-- `_consistent_outcome_token_id`. -/
def consistentOutcomeTokenId (outcome : Json) : Option String :=
  match (present outcome outcomeTokenKeys).mapM (canonicalTokenId texts) with
  | some (first :: rest) =>
      if rest.all fun token => texts.fold token = texts.fold first then some first else none
  | _ => none

/-- A text that is not blank, stripped. -/
def strippedLabel : Json → Option String
  | .text s => if texts.strip s = "" then none else some (texts.strip s)
  | _ => none

/-- `_consistent_outcome_label`. -/
def consistentOutcomeLabel (outcome : Json) : Option String :=
  match (present outcome ["name", "label", "outcome"]).mapM (strippedLabel texts) with
  | none => none
  | some [] => strippedLabel texts (outcome.get "side")
  | some (first :: rest) =>
      if texts.normalize first ≠ "" ∧
          (rest.all fun label => texts.normalize label = texts.normalize first) then some first
      else none

/-- `_consistent_outcome_index_set`: `none` where it is not valid. -/
def consistentOutcomeIndexSet (outcome : Json) : Option (Option ℤ) :=
  match (present outcome ["indexSet", "index_set"]).mapM texts.int with
  | none => none
  | some [] => some none
  | some (first :: rest) =>
      if (rest.all fun n => n = first) ∧ (first = 1 ∨ first = 2) then some (some first) else none

/-- `BinarySide(value)`, where it does not raise. -/
def sideOf (value : String) : Option BinarySide :=
  if value = "YES" then some .yes else if value = "NO" then some .no else none

/-- `_ParsedBinaryOutcome`. -/
structure ParsedBinaryOutcome where
  label : String
  normalizedLabel : String
  tokenId : String
  side : BinarySide
  indexSet : Option ℤ
deriving DecidableEq

/-- What the key `side` says: `none` where it is there and no side. -/
def statedSide (outcome : Json) : Option (List BinarySide) :=
  match outcome.get "side" with
  | .missing => some []
  | .text s =>
      if texts.strip s = "" then none
      else (sideOf (texts.upper (texts.strip s))).map fun side => [side]
  | _ => none

/-- What a normal label says. -/
def labelSide (normalizedLabel : String) : List BinarySide :=
  if normalizedLabel = "yes" then [.yes] else if normalizedLabel = "no" then [.no] else []

/-- What an index set says. -/
def indexSide : Option ℤ → List BinarySide
  | none => []
  | some n => [if n = 1 then .yes else .no]

/-- A round of the loop of `_parse_binary_outcomes`. -/
def parseOutcome (outcome : Json) : Option ParsedBinaryOutcome := do
  let label ← consistentOutcomeLabel texts outcome
  let tokenId ← consistentOutcomeTokenId texts outcome
  let indexSet ← consistentOutcomeIndexSet texts outcome
  let stated ← statedSide texts outcome
  let normalizedLabel := texts.normalize label
  match (stated ++ labelSide normalizedLabel ++ indexSide indexSet).dedup with
  | [side] => some ⟨label, normalizedLabel, tokenId, side, indexSet⟩
  | _ => none

/-- The two outcomes are different ones. -/
def apart (a b : ParsedBinaryOutcome) : Prop :=
  a.side ≠ b.side ∧ a.normalizedLabel ≠ b.normalizedLabel ∧
    texts.tokenKey a.tokenId ≠ texts.tokenKey b.tokenId ∧
    (a.indexSet = none ∧ b.indexSet = none ∨ a.indexSet = some 1 ∧ b.indexSet = some 2 ∨
      a.indexSet = some 2 ∧ b.indexSet = some 1)

instance (a b : ParsedBinaryOutcome) : Decidable (apart texts a b) :=
  inferInstanceAs (Decidable (_ ∧ _))

/-- `_parse_binary_outcomes`. -/
def parseBinaryOutcomes (row : Row) : Option (ParsedBinaryOutcome × ParsedBinaryOutcome) :=
  match rawOutcomes row with
  | some [first, second] =>
      if first.isObject ∧ second.isObject then do
        let a ← parseOutcome texts first
        let b ← parseOutcome texts second
        if apart texts a b then some (a, b) else none
      else none
  | _ => none

/-- The outcome of a side. -/
def outcomeOf (outcomes : ParsedBinaryOutcome × ParsedBinaryOutcome) (side : BinarySide) :
    ParsedBinaryOutcome :=
  if outcomes.2.side = side then outcomes.2 else outcomes.1

/-- A side whose direct token and whose outcome's token differ. -/
def contradicted (row : Row) (outcomes : ParsedBinaryOutcome × ParsedBinaryOutcome)
    (side : BinarySide) : Bool :=
  (truthy (directTokenIdForSide texts row side)).any fun direct =>
    let key := texts.tokenKey (outcomeOf outcomes side).tokenId
    key ≠ [] ∧ texts.tokenKey direct ≠ key

/-- `_has_unambiguous_binary_outcomes`. -/
def hasUnambiguousBinaryOutcomes (row : Row) : Bool :=
  let sidesClear := [BinarySide.yes, .no].all fun side =>
    (directTokenIdsForSide texts row side).any (sameTokens texts)
  let directYes := directTokenIdForSide texts row .yes
  let directNo := directTokenIdForSide texts row .no
  let directSame := (truthy directYes).any fun yes => (truthy directNo).any fun no =>
    texts.tokenKey yes = texts.tokenKey no
  sidesClear && !directSame &&
    match present row containerKeys with
    | [] => directYes.isSome && directNo.isSome
    | [.array _] =>
        match parseBinaryOutcomes texts row with
        | none => false
        | some outcomes =>
            [BinarySide.yes, .no].all fun side => !contradicted texts row outcomes side
    | _ => false

/-- The label of an outcome as `_labeled_outcome_token_id_for_side` compares it. -/
def upperLabel (outcome : Json) : String :=
  texts.upper (texts.str (.orChain
    [outcome.get "side", outcome.get "name", outcome.get "label", outcome.get "outcome",
      .text ""]))

/-- `_labeled_outcome_token_id_for_side`. -/
def labeledOutcomeTokenIdForSide (row : Row) (side : BinarySide) : Option String :=
  ((iterOutcomes row).find? fun outcome => upperLabel texts outcome = side.value).bind
    (consistentOutcomeTokenId texts)

/-- `_token_id_for_side`. -/
def tokenIdForSide (row : Row) (side : BinarySide) : Option String :=
  (truthy (directTokenIdForSide texts row side)).or (labeledOutcomeTokenIdForSide texts row side)

/-! ## The specs of a row -/

/-- `_first_str`. -/
def firstStr (row : Json) (keys : List String) : Option String :=
  keys.findSome? fun key =>
    if (row.get key).isBlank then none else some (texts.str (row.get key))

/-- `_optional_int`. -/
def optionalInt (row : Json) (keys : List String) : Option ℤ :=
  ((keys.map fun key => row.get key).find? fun value => !value.isBlank).bind texts.int

/-- `_parse_datetime`. -/
def parseDatetime (raw : String) : Option Time :=
  if texts.isDigits raw then
    (texts.parseInt raw).bind fun timestamp =>
      texts.fromTimestamp (if 10000000000 < timestamp then timestamp / 1000 else timestamp)
  else
    texts.fromIso (String.ofList (raw.toList.flatMap fun c =>
      if c = 'Z' then "+00:00".toList else [c]))

/-- `_polymarket_condition_id`. -/
def polymarketConditionId (row : Row) : Option String :=
  let listed := match row.get "polymarketConditionIds" with
    | .array items => (items.find? fun item => !item.isBlank).map texts.str
    | _ => none
  (firstStr texts row ["polymarketConditionId", "polymarket_condition_id"]).or listed

/-- `_resolution_source`. -/
def resolutionSource (row : Row) : Option String :=
  let named (mark : String) (keys : List String) : List String :=
    ((firstStr texts row keys).map fun value => mark ++ value).toList
  let components := named "resolver:" ["resolverAddress", "resolver_address"] ++
    named "oracle_question:" ["oracleQuestionId", "oracle_question_id"]
  (firstStr texts row ["resolutionSource", "resolution_source", "oracle"]).or
    (if components = [] then none else some (";".intercalate components))

/-- `_recognized_category_slug`. -/
def recognizedCategorySlug (value : String) : Option String :=
  let words := (Regex.findAll Titles.plainWord (texts.lower value).toList).map String.ofList
  if words.any fun word => word ∈ ["crypto", "cryptocurrency", "bitcoin", "btc", "ethereum", "eth",
      "solana", "xrp"] then some "crypto"
  else if words.any fun word => word ∈ ["esport", "esports", "football", "soccer", "sport",
      "sports"] then some "sports"
  else none

/-- `_market_category`. -/
def marketCategory (row : Row) : Option String :=
  let startsWith (mark value : String) : Bool :=
    mark.toList.isPrefixOf (texts.upper (texts.strip value)).toList
  let variantData := Json.orChain [row.get "variantData", row.get "variant_data"]
  let variant := if variantData.isObject then firstStr texts variantData ["type"] else none
  let marketType := firstStr texts row ["marketType", "market_type"]
  let topic := match row.get "topics" with
    | .array topics => topics.findSome? fun (topic : Json) =>
        match topic with
        | .text s => if texts.strip s = "" then none else some (texts.strip s)
        | _ => none
    | _ => none
  let tag := match row.get "tags" with
    | .array tags => tags.findSome? fun (tag : Json) =>
        if tag.isObject then firstStr texts tag ["name", "label", "slug"]
        else if tag.isBlank then none else truthy (some (texts.str tag))
    | _ => none
  if let some direct := firstStr texts row ["category", "group"] then some direct
  else if variant.any (startsWith "CRYPTO_") then some "crypto"
  else if variant.any (startsWith "SPORTS_") then some "sports"
  else if marketType.any (startsWith "SPORTS_") then some "sports"
  else if (row.get "team").isObject then some "sports"
  else ((firstStr texts row ["categorySlug", "category_slug"]).bind
    (recognizedCategorySlug texts)).or (topic.or tag)

/-- One orientation of a row. -/
structure Orientation where
  targetLabel : String
  polymarketSide : BinarySide
  tokenId : String
  side : BinarySide
  fingerprint : String

/-- The spec of an orientation, with what all orientations of the row have. -/
def specOf (row : Row) (marketId title : String) (o : Orientation) : Spec :=
  let expiresAt := (truthy (firstStr texts row
    ["expiresAt", "expires_at", "endDate", "end_date", "expiry"])).bind (parseDatetime texts)
  { symbol := title
    targetLabel := o.targetLabel
    polymarketTokenId := ""
    polymarketSide := o.polymarketSide
    predictFunTokenId := o.tokenId
    predictFunSide := o.side
    expiresAt := expiresAt
    conditionId := polymarketConditionId texts row
    polymarketMarketId := polymarketConditionId texts row
    predictFunFeeRateBps := optionalInt texts row ["feeRateBps", "fee_rate_bps"]
    predictFunMarketId := some marketId
    rulesFingerprint := some o.fingerprint
    category := marketCategory texts row
    resolutionSource := resolutionSource texts row
    outcomeSemantics := firstStr texts row ["rules", "description", "resolutionRules"]
    cutoffAt := expiresAt }

/-- `any(outcome.normalized_label not in {"yes", "no"} for outcome in parsed_outcomes)`. -/
def namedOutcomes (row : Row) : Bool :=
  (parseBinaryOutcomes texts row).any fun outcomes =>
    [outcomes.1, outcomes.2].any fun o => o.normalizedLabel ≠ "yes" ∧ o.normalizedLabel ≠ "no"

/-- The orientations of `_market_specs_from_payload`. -/
def orientations (row : Row) (marketId title : String) : List Orientation :=
  let noTokenId := if namedOutcomes texts row then none else tokenIdForSide texts row .no
  let yesTokenId := if namedOutcomes texts row then none else tokenIdForSide texts row .yes
  match truthy noTokenId with
  | some noToken =>
      ⟨title, .yes, noToken, .no, "predict:" ++ marketId⟩ ::
        ((truthy yesTokenId).map fun yesToken =>
          (⟨title, .no, yesToken, .yes, "predict:" ++ marketId ++ ":reverse"⟩ : Orientation)).toList
  | none =>
      match parseBinaryOutcomes texts row with
      | none => []
      | some (a, b) =>
          -- Both outcomes have an index set, or none has.
          if a.indexSet = none then []
          else
            let (yes, no) := if a.indexSet = some 1 then (a, b) else (b, a)
            [⟨yes.label, .yes, no.tokenId, .no, "predict:" ++ marketId ++ ":" ++ yes.label⟩,
              ⟨no.label, .no, yes.tokenId, .yes, "predict:" ++ marketId ++ ":" ++ no.label⟩]

/-- `_market_specs_from_payload`. -/
def marketSpecsFromPayload (row : Row) : List Spec :=
  match truthy (predictMarketId texts row),
    truthy (firstStr texts row ["question", "title", "name", "slug"]) with
  | some marketId, some title =>
      if hasUnambiguousBinaryOutcomes texts row then
        (orientations texts row marketId title).map (specOf texts row marketId title)
      else []
  | _, _ => []

/-- `_token_id_for_market`. -/
def tokenIdForMarket (row : Row) (market : Spec) : Option String :=
  if ¬ hasUnambiguousBinaryOutcomes texts row then none
  else
    match parseBinaryOutcomes texts row, namedOutcomes texts row with
    | some outcomes, true =>
        if outcomes.1.indexSet = none ∨ outcomes.2.indexSet = none then none
        else if (outcomeOf outcomes market.predictFunSide.opposite).normalizedLabel ≠
            texts.normalize market.targetLabel then none
        else some (outcomeOf outcomes market.predictFunSide).tokenId
    | _, _ =>
        match truthy (tokenIdForSide texts row market.predictFunSide) with
        | none => none
        | some token =>
            if (truthy (tokenIdForSide texts row market.predictFunSide.opposite)).any
                fun opposite => texts.fold token = texts.fold opposite then none
            else some token

/-! ## Collisions -/

/-- `_raw_catalog_poisoned_market_ids`. -/
def poisonedMarketIds (rows : List Row) : List String :=
  let claimedBy := Dict.index (claimedMarketIds texts) rows
  let tokenRows := Dict.index (claimedTokenIds texts) rows
  let malformed := rows.filter fun row => predictMarketId texts row = none
  let shared := (tokenRows.values.filter fun group => 1 < group.length).flatten
  malformed.flatMap (claimedMarketIds texts) ++
    (claimedBy.entries.filter fun e => 1 < e.2.length).map Prod.fst ++
    shared.flatMap (claimedMarketIds texts)

/-- The rows whose id no other row has, under their ids. -/
def uniqueRows (rows : List Row) : List (String × Row) :=
  (Dict.index (fun row => (predictMarketId texts row).toList) rows).entries.filterMap fun e =>
    match e.2 with
    | [row] => some (e.1, row)
    | _ => none

/-- The tokens of the specs of a row, as they are compared. -/
def specTokens (row : Row) : List (List Char) :=
  (((marketSpecsFromPayload texts row).map (·.predictFunTokenId)).filter fun token =>
    token ≠ "").map texts.tokenKey |>.dedup

/-- `_collision_safe_catalog_candidates`. -/
def collisionSafeCatalogCandidates (rows : List Row) (poisoned : List String) :
    List (String × Row) :=
  let candidates := uniqueRows texts rows
  let tokenMarketIds := Dict.index (fun e => specTokens texts e.2) candidates
  candidates.filter fun e =>
    specTokens texts e.2 ≠ [] ∧
      (∀ token ∈ specTokens texts e.2, (tokenMarketIds.listAt token).length ≤ 1) ∧ e.1 ∉ poisoned

end ArbitrageEngine.PredictCatalogue
