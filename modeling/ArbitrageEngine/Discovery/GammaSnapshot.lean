/-
# ArbitrageEngine.Discovery.GammaSnapshot -- the catalogue of Polymarket

`_build_snapshot` of the Gamma resolver.  The payloads that can be traded are folded into one
candidate for each market id and then into one for each condition id; what is left is filed under
its ids, its title and the longer words of the title, and the ids of the markets that lost are
pointed at the winner.

Of two payloads the one with the better score is preferred; where neither score is better, the one
whose dumped text is greater.  The dump is the text of a read-only mapping and follows the order of
the keys, which the decoded fields do not have, so it is kept beside them.  Decoded numbers are
finite; a volume that is a text may be an infinity or not a number.
-/
import ArbitrageEngine.Discovery.TitleText
import ArbitrageEngine.Lib.Contest
import ArbitrageEngine.Lib.FloatOrder
import ArbitrageEngine.Lib.Indexes
import ArbitrageEngine.Lib.JsonValue
import ArbitrageEngine.Models
import Mathlib.Data.List.Dedup
import Mathlib.Data.String.Basic

namespace ArbitrageEngine.Gamma

open Lib

/-- What the language makes of values and texts. -/
structure GammaTexts extends Texts where
  unicode : Titles.Unicode
  /-- `text.lower()`. -/
  lower : String → String
  /-- `text.upper()`. -/
  upper : String → String
  /-- `json.loads(text)`, where it does not raise. -/
  loads : String → Option Json
  /-- `float(value)`, where it does not raise. -/
  float : Json → Option FloatValue
  /-- `datetime.fromisoformat(text)` in UTC, where it does not raise. -/
  fromIso : String → Option Time

/-- The texts of plain ASCII payloads with whole numbers and one date. -/
def GammaTexts.plain : GammaTexts where
  render := fun _ => ""
  parseInt := fun _ => none
  unicode := .ascii
  lower := fun s => String.ofList (s.toList.map Char.toLower)
  upper := fun s => String.ofList (s.toList.map Char.toUpper)
  loads := fun _ => none
  float := fun value =>
    match value with
    | .int n => some (.number n)
    | _ => none
  fromIso := fun s => if s = "2030-01-01T00:00:00+00:00" then some 1893456000000000 else none

/-- A payload: its fields, and the text `json.dumps(payload, default=str)` makes of it. -/
structure Payload where
  fields : Json
  dumped : String

variable (texts : GammaTexts)

/-! ## Reading a payload -/

namespace GammaTexts

/-- `text.strip()`. -/
def strip (s : String) : String := String.ofList (Titles.strip texts.unicode s.toList)

/-- `normalize_text`. -/
def normalize (s : String) : String := String.ofList (Titles.normalizeText texts.unicode s.toList)

end GammaTexts

namespace Payload

/-- `payload.get(key)`. -/
def get (p : Payload) (key : String) : Json := p.fields.get key

/-- `str(payload["id"])`. -/
def marketId (p : Payload) : String := texts.str (p.get "id")

/-- `str(payload.get("conditionId") or payload.get("condition_id") or "")`. -/
def conditionId (p : Payload) : String :=
  texts.str (.orChain [p.get "conditionId", p.get "condition_id", .text ""])

/-- `_candidate_title`. -/
def title (p : Payload) : String :=
  texts.str (.orChain [p.get "question", p.get "title", p.get "name", .text ""])

/-- `normalize_text(_candidate_title(payload))`. -/
def normalTitle (p : Payload) : String := texts.normalize (p.title texts)

/-- `_candidate_title_terms`. -/
def titleTerms (p : Payload) : List String :=
  ((((Titles.split texts.unicode (p.normalTitle texts).toList).map String.ofList).filter
    fun term => 3 ≤ term.length)).dedup

end Payload

/-- `_parse_string_list` and `_parse_token_ids`. -/
def parseStringList : Json → List String
  | .text raw =>
      match texts.loads raw with
      | some (.array items) => items.map texts.str
      | _ => []
  | .array items => items.map texts.str
  | _ => []

/-- `_optional_bool`. -/
def optionalBool (p : Payload) (keys : List String) : Option Bool :=
  keys.findSome? fun key =>
    match p.get key with
    | .bool b => some b
    | .text s =>
        let lower := texts.lower s
        if lower ∈ ["true", "false", "1", "0"] then some (lower ∈ ["true", "1"]) else none
    | _ => none

/-- `text.replace("Z", "+00:00")`. -/
def zuluReplaced (s : String) : String :=
  String.ofList (s.toList.flatMap fun c => if c = 'Z' then "+00:00".toList else [c])

/-- `_parse_optional_datetime`. -/
def parseOptionalDatetime : Json → Option Time
  | .text raw => if raw = "" then none else texts.fromIso (zuluReplaced raw)
  | _ => none

/-- `_candidate_expiry`. -/
def candidateExpiry (p : Payload) : Option Time :=
  let sportsStart := parseOptionalDatetime texts
    (.orChain [p.get "gameStartTime", p.get "game_start_time"])
  let isSportsMarket :=
    (Json.orChain [p.get "sportsMarketType", p.get "sports_market_type"]).truth
  let eventStart := match p.get "events" with
    | .array events =>
        if isSportsMarket then
          events.findSome? fun (event : Json) =>
            if event.isObject then
              parseOptionalDatetime texts (.orChain [event.get "gameStartTime",
                event.get "game_start_time", event.get "startTime"])
            else none
        else none
    | _ => none
  sportsStart.or (eventStart.or (parseOptionalDatetime texts
    (.orChain [p.get "endDate", p.get "endDateIso", p.get "end_date_iso", p.get "end_date"])))

/-- `str(value).strip() if value not in (None, "") else None`. -/
def strippedText (value : Json) : Option String :=
  if value.isBlank then none else some (texts.strip (texts.str value))

/-- `_resolution_source`. -/
def resolutionSource (p : Payload) : Option String :=
  strippedText texts (.orChain [p.get "resolutionSource", p.get "resolution_source",
    p.get "oracle"])

/-- `_outcome_semantics`. -/
def outcomeSemantics (p : Payload) : Option String :=
  strippedText texts (.orChain [p.get "description", p.get "rules", p.get "resolutionRules"])

/-- `_polymarket_public_url`. -/
def polymarketPublicUrl (p : Payload) : Option String :=
  let direct := ["url", "marketUrl", "market_url"].findSome? fun key =>
    match p.get key with
    | .text value =>
        if "https://".toList.isPrefixOf value.toList || "http://".toList.isPrefixOf value.toList
        then some value else none
    | _ => none
  let named := Json.orChain [p.get "eventSlug", p.get "event_slug"]
  let listed := match p.get "events" with
    | .array events =>
        (events.find? fun (event : Json) => event.isObject && (event.get "slug").truth).map
          (Json.get "slug")
    | _ => none
  let eventSlug := if named.truth then named else listed.getD named
  let slug := Json.orChain [eventSlug, p.get "slug"]
  direct.or
    (if slug.truth then some ("https://polymarket.com/event/" ++ texts.str slug) else none)

/-- `_market_volume`. -/
def marketVolume (p : Payload) : Option FloatValue :=
  ["volumeClob", "volumeNum", "volume", "volume24hr"].findSome? fun key =>
    if (p.get key).isBlank then none else texts.float (p.get key)

/-- `_is_valid_candidate`. -/
def isValidCandidate (now : Time) (p : Payload) : Bool :=
  let marketId := texts.strip (texts.str (.orChain [p.get "id", .text ""]))
  let conditionId := texts.strip (p.conditionId texts)
  let tokenIds := parseStringList texts (p.get "clobTokenIds")
  let outcomes := parseStringList texts (p.get "outcomes")
  marketId ≠ "" ∧ conditionId ≠ "" ∧ p.normalTitle texts ≠ "" ∧
    ((candidateExpiry texts p).any fun expiry => now < expiry) ∧
    optionalBool texts p ["active"] = some true ∧
    optionalBool texts p ["closed"] = some false ∧
    optionalBool texts p ["acceptingOrders", "accepting_orders"] = some true ∧
    optionalBool texts p ["enableOrderBook", "enable_order_book"] = some true ∧
    optionalBool texts p ["archived"] ≠ some true ∧
    tokenIds ≠ [] ∧ tokenIds.length = outcomes.length ∧ (∀ token ∈ tokenIds, token ≠ "") ∧
    ∀ outcome ∈ outcomes, outcome ≠ ""

/-! ## Which of two payloads is preferred -/

/-- A truth value as a score. -/
def flag (b : Bool) : FloatValue := .number (if b then 1 else 0)

/-- `_market_volume(candidate) or -1.0`. -/
def volumeScore (p : Payload) : FloatValue :=
  match marketVolume texts p with
  | none => .number (-1)
  | some volume => if volume = .number 0 then .number (-1) else volume

/-- `_candidate_dedup_score`. -/
def candidateDedupScore (p : Payload) : List FloatValue :=
  [ .number (parseStringList texts (p.get "clobTokenIds")).length,
    .number (parseStringList texts (p.get "outcomes")).length,
    flag (truthy (polymarketPublicUrl texts p)).isSome,
    flag (truthy (outcomeSemantics texts p)).isSome,
    flag (truthy (resolutionSource texts p)).isSome,
    volumeScore texts p,
    .number (p.title texts).length ]

/-- `_prefer_duplicate_candidate`. -/
def preferDuplicateCandidate (left right : Payload) : Payload :=
  let leftScore := candidateDedupScore texts left
  let rightScore := candidateDedupScore texts right
  if FloatValue.tupleLt leftScore rightScore then right
  else if FloatValue.tupleLt rightScore leftScore then left
  else if left.dumped < right.dumped then right else left

/-! ## The snapshot -/

/-- `_GammaSnapshot`. -/
structure Snapshot where
  markets : List Payload
  byId : Dict String Payload
  byConditionId : Dict String Payload
  byTitle : Dict String (List Payload)
  byTitleTerm : Dict String (List Payload)

/-- `deduped_by_id` and `ordered_market_ids`. -/
structure Deduped where
  byId : Dict String Payload := .empty
  order : List String := []

/-- A round of the first loop, for a valid payload. -/
def dedupe (s : Deduped) (candidate : Payload) : Deduped :=
  let marketId := candidate.marketId texts
  match s.byId.get? marketId with
  | none => ⟨s.byId.set marketId candidate, s.order ++ [marketId]⟩
  | some existing =>
      { s with byId := s.byId.set marketId (preferDuplicateCandidate texts existing candidate) }

/-- The first loop. -/
def dedupeAll (now : Time) (payloads : List Payload) : Deduped :=
  (payloads.filter (isValidCandidate texts now)).foldl (dedupe texts) {}

/-- `deduped_by_id[market_id]`; the loops ask for ids they have only. -/
def Deduped.at (s : Deduped) (marketId : String) : Payload :=
  (s.byId.get? marketId).getD ⟨.missing, ""⟩

/-- A round of the second loop.  `champion` is `best_market_id_by_condition` and `wonBy` is
`best_market_id_by_id`. -/
def chooseBest (deduped : Deduped) (s : Contest String String) (marketId : String) :
    Contest String String :=
  let candidate := deduped.at marketId
  let conditionId := candidate.conditionId texts
  match s.champion.get? conditionId with
  | none => ⟨s.champion.set conditionId marketId, s.wonBy.set marketId marketId⟩
  | some existingMarketId =>
      let preferred := preferDuplicateCandidate texts (deduped.at existingMarketId) candidate
      let preferredMarketId := preferred.marketId texts
      ⟨s.champion.set conditionId preferredMarketId,
        (s.wonBy.set existingMarketId preferredMarketId).set marketId preferredMarketId⟩

/-- The second loop. -/
def chooseAll (deduped : Deduped) : Contest String String :=
  deduped.order.foldl (chooseBest texts deduped) {}

/-- The ids that the third loop does not pass over. -/
def keptIds (deduped : Deduped) (best : Contest String String) : List String :=
  deduped.order.filter fun marketId => (best.wonBy.get? marketId).getD marketId = marketId

/-- `_build_snapshot` at a time. -/
def buildSnapshot (now : Time) (payloads : List Payload) : Snapshot :=
  let deduped := dedupeAll texts now payloads
  let best := chooseAll texts deduped
  let kept := keptIds deduped best
  let valid := kept.map deduped.at
  let byId := Dict.setAll id deduped.at kept .empty
  { markets := valid
    byId := Contest.resolve best.wonBy.entries byId
    byConditionId := Dict.setAll (fun p => p.conditionId texts) id valid .empty
    byTitle := Dict.index (fun p => [p.normalTitle texts]) valid
    byTitleTerm := Dict.index (fun p => p.titleTerms texts) valid }

end ArbitrageEngine.Gamma
