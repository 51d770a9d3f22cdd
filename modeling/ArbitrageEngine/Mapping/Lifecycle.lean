/-
# ArbitrageEngine.Mapping.Lifecycle -- discovery batches and operator decisions on mapping rows

`upsert_market_candidates` writes one mapping row for every pair of venues a discovered market is
listed on.  A row it creates is a candidate; only an operator makes it verified.  A batch that
carries other rules for a verified row makes it stale, and so does one that carries another match
strategy, unless it carries none, or fills in `exact_id` where the row has none.

A batch is worked off in chunks of 128, each in a transaction of its own, and between its awaits other
batches and operators go on.  Without `mark_seen`, an item that the process has persisted before
under the same signature is skipped; the rows it would have been compared with are not looked at.

Rows of canonical markets and instruments are left out: no mapping is read or written through them.
What the texts are made of (hashes, JSON, white space, dates) is a parameter.
-/
import ArbitrageEngine.Execution.Residual
import ArbitrageEngine.Lib.Runs
import ArbitrageEngine.Mapping.Join
import Mathlib.Data.List.Sort

namespace ArbitrageEngine.Mapping

open Lib Lib.Runs

/-! ## Candidates -/

/-- A market of a discovery snapshot: `MarketSpec` with the fields only persistence reads. -/
structure DiscoveredMarket where
  market : MarketSpec
  mappingStrategy : Option String := none
  timezoneName : String := "UTC"

/-- What the texts are made of: `hashlib.sha256(text).hexdigest()`, `json.dumps` of a mapping,
`" ".join(text.lower().split())` and `isoformat`. -/
structure TextFunctions where
  sha256 : String → String
  json : List (String × String) → String
  collapse : String → String
  isoformat : Time → String

/-- `_PreparedMarketCandidate`, as far as mapping rows and the cache go. -/
structure PreparedMarketCandidate where
  mappingStrategy : Option String
  canonicalFingerprint : String
  canonicalId : String
  identities : Dict String String
  cacheKey : String
  persistenceSignature : String
deriving DecidableEq

section Texts

variable (texts : TextFunctions)

/-- `_stable_id`. -/
def stableId (parts : List String) : String := texts.sha256 ("\x1f".intercalate parts)

/-- `market_mapping.rules_fingerprint`. -/
def rulesFingerprint (title resolutionSource : String) (cutoffAt : Time)
    (outcomeSemantics timezoneName : String) : String :=
  texts.sha256 (texts.json [
    ("title", texts.collapse title),
    ("resolution_source", texts.collapse resolutionSource),
    ("cutoff_at", texts.isoformat cutoffAt),
    ("outcome_semantics", texts.collapse outcomeSemantics),
    ("timezone", timezoneName)])

/-- `_normalized_rules_fingerprint`. -/
def normalizedRulesFingerprint (value : String) : String :=
  if value.length ≤ 64 then value else texts.sha256 value

/-- `_canonical_market_title`. -/
def canonicalMarketTitle (market : MarketSpec) : String :=
  Execution.strip (if market.symbol ≠ "" then market.symbol else market.targetLabel)

/-- `_venue_tokens`. -/
def venueTokens (market : MarketSpec) (venue : String) : String × String :=
  let sided (token : String) (side : BinarySide) : String × String :=
    if side = .yes then (token, "") else ("", token)
  if venue = market.venueALabel then sided market.polymarketTokenId market.polymarketSide
  else if venue = market.venueBLabel ∧ venue ≠ "Myriad" then
    sided market.predictFunTokenId market.predictFunSide
  else match truthy market.myriadMarketId with
    | none => ("", "")
    | some marketId => (marketId ++ ":YES", marketId ++ ":NO")

/-- The venues of a market in alphabetical order, each with its id and its tokens. -/
def identityParts (market : MarketSpec) (identities : Dict String String) : List String :=
  (identities.entries.insertionSort fun a b => a.1 ≤ b.1).flatMap fun entry =>
    let tokens := venueTokens market entry.1
    [entry.1, entry.2, tokens.1, tokens.2]

/-- `_market_candidate_cache_key`. -/
def marketCandidateCacheKey (market : MarketSpec) (identities : Dict String String) : String :=
  stableId texts ("market-candidate" :: market.targetLabel :: identityParts market identities)

/-- `_market_candidate_persistence_signature`. -/
def marketCandidatePersistenceSignature (discovered : DiscoveredMarket) (cutoff : Time)
    (canonicalTitle canonicalFingerprint canonicalId : String) (identities : Dict String String) :
    String :=
  let market := discovered.market
  stableId texts (["market-candidate-signature", canonicalId, canonicalTitle, canonicalFingerprint,
    texts.isoformat cutoff, market.category.getD "", market.resolutionSource.getD "",
    market.outcomeSemantics.getD "", discovered.timezoneName, discovered.mappingStrategy.getD ""]
      ++ identityParts market identities)

/-- The body of the loop of `_prepare_market_candidate_batch`; a market without a cutoff is left
out. -/
def prepareMarketCandidate (discovered : DiscoveredMarket) : Option PreparedMarketCandidate :=
  let market := discovered.market
  (market.cutoffAt.or market.expiresAt).map fun cutoff =>
    let canonicalTitle := canonicalMarketTitle market
    let canonicalFingerprint := normalizedRulesFingerprint texts
      (rulesFingerprint texts canonicalTitle ((truthy market.resolutionSource).getD "unknown") cutoff
        ((truthy market.outcomeSemantics).getD "unknown") discovered.timezoneName)
    let canonicalId := stableId texts ["canonical", canonicalFingerprint]
    let identities := marketIdentities market
    { mappingStrategy := discovered.mappingStrategy
      canonicalFingerprint := canonicalFingerprint
      canonicalId := canonicalId
      identities := identities
      cacheKey := marketCandidateCacheKey texts market identities
      persistenceSignature := marketCandidatePersistenceSignature texts discovered cutoff
        canonicalTitle canonicalFingerprint canonicalId identities }

/-! ## Mapping rows -/

/-- `MarketMappingRow`. -/
structure MarketMappingRow where
  canonicalMarketId : String
  leftVenue : String
  leftMarketId : String
  rightVenue : String
  rightMarketId : String
  status : MappingStatus
  rulesFingerprint : String
  matchStrategy : Option String
  verifiedAt : Option Time := none
  verifiedBy : Option String := none
  lastDiscoveredAt : Option Time := none
  createdAt : Time
  updatedAt : Time
deriving DecidableEq

/-- The three assignments that end a verification. -/
def MarketMappingRow.markStale (row : MarketMappingRow) : MarketMappingRow :=
  { row with status := .stale, verifiedAt := none, verifiedBy := none }

/-- A row for a pair that has none. -/
def newMapping (now : Time) (markSeen : Bool) (item : PreparedMarketCandidate)
    (pair : VenueMarket × VenueMarket) : MarketMappingRow where
  canonicalMarketId := item.canonicalId
  leftVenue := pair.1.venue
  leftMarketId := pair.1.marketId
  rightVenue := pair.2.venue
  rightMarketId := pair.2.marketId
  status := .candidate
  rulesFingerprint := item.canonicalFingerprint
  matchStrategy := item.mappingStrategy
  lastDiscoveredAt := if markSeen then some now else none
  createdAt := now
  updatedAt := now

/-- The rules of the item on a row. -/
def applyRules (item : PreparedMarketCandidate) (row : MarketMappingRow) : MarketMappingRow :=
  if row.rulesFingerprint ≠ item.canonicalFingerprint then
    { row.markStale with
      canonicalMarketId := item.canonicalId
      rulesFingerprint := item.canonicalFingerprint }
  else row

/-- Does the item name a strategy the row does not have? -/
def bringsStrategy (item : PreparedMarketCandidate) (row : MarketMappingRow) : Bool :=
  item.mappingStrategy ≠ none ∧ row.matchStrategy ≠ item.mappingStrategy

/-- The strategy of the item on a row.  A verified row without a strategy takes `exact_id` and stays
verified. -/
def applyStrategy (item : PreparedMarketCandidate) (row : MarketMappingRow) : MarketMappingRow :=
  if bringsStrategy item row then
    let judged :=
      if row.status = .verified ∧
          ((row.matchStrategy = none ∧ item.mappingStrategy ≠ some "exact_id") ∨
            (row.matchStrategy ≠ none ∧ row.matchStrategy ≠ item.mappingStrategy)) then
        row.markStale
      else row
    { judged with matchStrategy := item.mappingStrategy }
  else row

/-- What the loop does to a row that exists. -/
def refreshMapping (now : Time) (markSeen : Bool) (item : PreparedMarketCandidate)
    (row : MarketMappingRow) : MarketMappingRow :=
  let judged := applyStrategy item (applyRules item row)
  let changed := row.rulesFingerprint ≠ item.canonicalFingerprint
    ∨ bringsStrategy item (applyRules item row)
  { judged with
    lastDiscoveredAt := if markSeen then some now else judged.lastDiscoveredAt
    updatedAt := if changed then now else judged.updatedAt }

/-- The key of a pair. -/
def mappingId (pair : VenueMarket × VenueMarket) : String :=
  stableId texts [pair.1.venue, pair.1.marketId, pair.2.venue, pair.2.marketId]

/-- The pairs of an item, in the order of the nested loops. -/
def PreparedMarketCandidate.pairs (item : PreparedMarketCandidate) :
    List (VenueMarket × VenueMarket) :=
  (orderedPairs (item.identities.entries.map fun entry => VenueMarket.mk entry.1 entry.2)).filter
    fun pair => pair.1.marketId ≠ "" ∧ pair.2.marketId ≠ ""

/-- The innermost body of the loops. -/
def upsertMapping (now : Time) (markSeen : Bool) (mappings : Dict String MarketMappingRow)
    (write : PreparedMarketCandidate × (VenueMarket × VenueMarket)) :
    Dict String MarketMappingRow :=
  let id := mappingId texts write.2
  match mappings.get? id with
  | none => mappings.set id (newMapping now markSeen write.1 write.2)
  | some row => mappings.set id (refreshMapping now markSeen write.1 row)

/-- The pairs the prepared items are written for. -/
def mappingWrites (prepared : List PreparedMarketCandidate) :
    List (PreparedMarketCandidate × (VenueMarket × VenueMarket)) :=
  prepared.flatMap fun item => item.pairs.map fun pair => (item, pair)

/-- The transaction of a chunk. -/
def upsertMappings (now : Time) (markSeen : Bool) (mappings : Dict String MarketMappingRow)
    (prepared : List PreparedMarketCandidate) : Dict String MarketMappingRow :=
  (mappingWrites prepared).foldl (upsertMapping texts now markSeen) mappings

/-! ## The store -/

/-- A call of `upsert_market_candidates`: the chunks it has left, and the items of the first one once
they are prepared. -/
structure Batch where
  chunks : List (List DiscoveredMarket)
  markSeen : Bool
  prepared : Option (List PreparedMarketCandidate) := none

/-- The mapping table, the signatures of the process and its batches; and what the rows had when an
operator last verified them. -/
structure MappingStore where
  mappings : Dict String MarketMappingRow := .empty
  signatures : Dict String String := .empty
  batches : List Batch := []
  verifiedAs : Dict String (String × Option String) := .empty

/-- `_MARKET_CANDIDATE_UPSERT_CHUNK_SIZE`. -/
def upsertChunkSize : ℕ := 128

inductive MappingEvent
  | upsert (markets : List DiscoveredMarket) (markSeen : Bool)
  /-- A batch prepares its next chunk and leaves out what the process has persisted. -/
  | prepare (index : ℕ)
  /-- The transaction of a batch commits, or raises and ends the batch. -/
  | finish (index : ℕ) (now : Time) (commits : Bool)
  | setMappingStatus (mappingId : String) (status : MappingStatus) (operator : Option String)
      (now : Time)
  /-- The process starts again. -/
  | restart

/-- The items of a chunk that are written. -/
def unpersisted (signatures : Dict String String) (markSeen : Bool)
    (markets : List DiscoveredMarket) : List PreparedMarketCandidate :=
  (markets.filterMap (prepareMarketCandidate texts)).filter fun item =>
    markSeen || signatures.get? item.cacheKey ≠ some item.persistenceSignature

/-- `set_mapping_status` of a row. -/
def MarketMappingRow.setStatus (row : MarketMappingRow) (status : MappingStatus)
    (operator : Option String) (now : Time) : MarketMappingRow :=
  { row with
    status := status
    verifiedAt := if status = .verified then some now else none
    verifiedBy := if status = .verified then operator else none
    updatedAt := now }

namespace MappingStore

/-- A batch goes on to its next chunk. -/
def nextChunk (batch : Batch) : Batch := { batch with chunks := batch.chunks.tail, prepared := none }

def step (s : MappingStore) : MappingEvent → Option MappingStore
  | .upsert markets markSeen =>
      some { s with
        batches := s.batches ++ [{ chunks := markets.toChunks upsertChunkSize, markSeen := markSeen }] }
  | .prepare index =>
      match s.batches[index]? with
      | some { chunks := markets :: rest, markSeen := markSeen, prepared := none } =>
          let items := unpersisted texts s.signatures markSeen markets
          let batch : Batch := { chunks := markets :: rest, markSeen := markSeen }
          some { s with
            batches := s.batches.set index
              (if items.isEmpty then nextChunk batch else { batch with prepared := some items }) }
      | _ => none
  | .finish index now commits =>
      match s.batches[index]? with
      | some { chunks := chunks, markSeen := markSeen, prepared := some items } =>
          if commits then
            some { s with
              mappings := upsertMappings texts now markSeen s.mappings items
              signatures := items.foldl (fun (signatures : Dict String String) item =>
                signatures.set item.cacheKey item.persistenceSignature) s.signatures
              batches := s.batches.set index (nextChunk { chunks := chunks, markSeen := markSeen }) }
          else some { s with batches := s.batches.eraseIdx index }
      | _ => none
  | .setMappingStatus id status operator now =>
      match s.mappings.get? id with
      | none => none
      | some row =>
          some { s with
            mappings := s.mappings.set id (row.setStatus status operator now)
            verifiedAs :=
              if status = .verified then s.verifiedAs.set id (row.rulesFingerprint, row.matchStrategy)
              else s.verifiedAs }
  | .restart => some { s with signatures := .empty, batches := [] }

end MappingStore

/-! ## One row -/

/-- The strategy a row was verified with, or `exact_id` filled in where it had none. -/
def KeptStrategy (verified current : Option String) : Prop :=
  current = verified ∨ verified = none ∧ current = some "exact_id"

theorem KeptStrategy.trans {a b c : Option String} (hab : KeptStrategy a b)
    (hbc : KeptStrategy b c) : KeptStrategy a c := by
  rcases hab with rfl | ⟨rfl, rfl⟩
  · exact hbc
  · rcases hbc with rfl | ⟨hnone, -⟩
    · exact .inr ⟨rfl, rfl⟩
    · cases hnone

/-- A later row that is verified was verified before, with the same rules and strategy. -/
structure Kept (row later : MarketMappingRow) : Prop where
  status : row.status = .verified
  rules : later.rulesFingerprint = row.rulesFingerprint
  strategy : KeptStrategy row.matchStrategy later.matchStrategy

theorem Kept.trans {a b c : MarketMappingRow} (hab : Kept a b) (hbc : Kept b c) : Kept a c :=
  ⟨hab.status, hbc.rules.trans hab.rules, hab.strategy.trans hbc.strategy⟩

/-- A stale row without traces of its verification. -/
def MarketMappingRow.Ended (row : MarketMappingRow) : Prop :=
  row.status = .stale ∧ row.verifiedAt = none ∧ row.verifiedBy = none

/-- The item carries other rules than the row has, or another strategy: it names one that the row
does not have, and it does not fill in `exact_id`. -/
def Disagrees (item : PreparedMarketCandidate) (row : MarketMappingRow) : Prop :=
  row.rulesFingerprint ≠ item.canonicalFingerprint
    ∨ (item.mappingStrategy ≠ none ∧ row.matchStrategy ≠ item.mappingStrategy
      ∧ ¬ (row.matchStrategy = none ∧ item.mappingStrategy = some "exact_id"))

instance (item : PreparedMarketCandidate) (row : MarketMappingRow) :
    Decidable (Disagrees item row) :=
  inferInstanceAs (Decidable (_ ∨ _))

theorem ended_markStale (row : MarketMappingRow) : row.markStale.Ended := ⟨rfl, rfl, rfl⟩

/-- The rules of an item: a row that has them is as it was, another is ended. -/
theorem applyRules_cases (item : PreparedMarketCandidate) (row : MarketMappingRow) :
    (row.rulesFingerprint = item.canonicalFingerprint ∧ applyRules item row = row)
      ∨ (row.rulesFingerprint ≠ item.canonicalFingerprint ∧ (applyRules item row).Ended) := by
  unfold applyRules
  by_cases h : row.rulesFingerprint = item.canonicalFingerprint
  · rw [if_neg (not_not.mpr h)]
    exact .inl ⟨h, rfl⟩
  · rw [if_pos h]
    exact .inr ⟨h, rfl, rfl, rfl⟩

/-- The strategy of an item: a verified row is as it was, takes `exact_id`, or is ended; another
keeps its status and what is recorded of its verification. -/
theorem applyStrategy_cases (item : PreparedMarketCandidate) (row : MarketMappingRow) :
    (applyStrategy item row = row ∧ bringsStrategy item row = false)
      ∨ (row.status = .verified ∧ row.matchStrategy = none
          ∧ item.mappingStrategy = some "exact_id"
          ∧ applyStrategy item row = { row with matchStrategy := some "exact_id" })
      ∨ (row.status = .verified ∧ bringsStrategy item row = true ∧ (applyStrategy item row).Ended)
      ∨ (row.status ≠ .verified
          ∧ applyStrategy item row = { row with matchStrategy := item.mappingStrategy }) := by
  unfold applyStrategy
  cases hbrings : bringsStrategy item row with
  | false => exact .inl ⟨rfl, rfl⟩
  | true =>
      right
      rw [if_pos rfl]
      by_cases hstatus : row.status = .verified
      · by_cases hjudged : (row.matchStrategy = none ∧ item.mappingStrategy ≠ some "exact_id") ∨
            (row.matchStrategy ≠ none ∧ row.matchStrategy ≠ item.mappingStrategy)
        · refine .inr (.inl ⟨hstatus, rfl, ?_⟩)
          rw [if_pos ⟨hstatus, hjudged⟩]
          exact ⟨rfl, rfl, rfl⟩
        · left
          -- The strategies differ, so the row has none and the item fills in `exact_id`.
          simp only [bringsStrategy, decide_eq_true_eq] at hbrings
          obtain ⟨hnone, hexact⟩ := not_or.mp hjudged
          have hempty : row.matchStrategy = none := by
            by_contra hsome
            exact hexact ⟨hsome, hbrings.2⟩
          have hfilled : item.mappingStrategy = some "exact_id" := by
            by_contra hother
            exact hnone ⟨hempty, hother⟩
          refine ⟨hstatus, hempty, hfilled, ?_⟩
          rw [if_neg fun h => hjudged h.2, hfilled]
      · refine .inr (.inr ⟨hstatus, ?_⟩)
        rw [if_neg fun h => hstatus h.1]

/-- What the loop changes besides is when the row was seen and updated. -/
theorem refreshMapping_fields (now : Time) (markSeen : Bool) (item : PreparedMarketCandidate)
    (row : MarketMappingRow) :
    let judged := applyStrategy item (applyRules item row)
    let later := refreshMapping now markSeen item row
    later.status = judged.status ∧ later.rulesFingerprint = judged.rulesFingerprint
      ∧ later.matchStrategy = judged.matchStrategy ∧ later.verifiedAt = judged.verifiedAt
      ∧ later.verifiedBy = judged.verifiedBy :=
  ⟨rfl, rfl, rfl, rfl, rfl⟩

/-- An ended row stays ended. -/
theorem refreshMapping_ended (now : Time) (markSeen : Bool) (item : PreparedMarketCandidate)
    {row : MarketMappingRow} (h : row.Ended) : (refreshMapping now markSeen item row).Ended := by
  have hrules : (applyRules item row).Ended := by
    rcases applyRules_cases item row with ⟨-, heq⟩ | ⟨-, hended⟩
    · rwa [heq]
    · exact hended
  have hstatus : (applyRules item row).status ≠ .verified := by
    rw [hrules.1]
    exact fun h => by cases h
  have hstrategy : (applyStrategy item (applyRules item row)).Ended := by
    rcases applyStrategy_cases item (applyRules item row) with
      ⟨heq, -⟩ | ⟨hverified, -⟩ | ⟨hverified, -⟩ | ⟨-, heq⟩
    · rwa [heq]
    · exact absurd hverified hstatus
    · exact absurd hverified hstatus
    · rw [heq]
      exact hrules
  exact hstrategy

/-- A verified row that an item leaves verified is kept. -/
theorem refreshMapping_kept (now : Time) (markSeen : Bool) (item : PreparedMarketCandidate)
    {row : MarketMappingRow} (h : (refreshMapping now markSeen item row).status = .verified) :
    Kept row (refreshMapping now markSeen item row) := by
  obtain ⟨hstatus, hrules, hstrategy, -⟩ := refreshMapping_fields now markSeen item row
  rw [hstatus] at h
  have hsame : applyRules item row = row := by
    rcases applyRules_cases item row with ⟨-, heq⟩ | ⟨-, hended⟩
    · exact heq
    · have hstill : (applyStrategy item (applyRules item row)).status = .stale := by
        rcases applyStrategy_cases item (applyRules item row) with
          ⟨heq, -⟩ | ⟨hverified, -⟩ | ⟨-, -, hended'⟩ | ⟨-, heq⟩
        · rw [heq]
          exact hended.1
        · rw [hended.1] at hverified
          cases hverified
        · exact hended'.1
        · rw [heq]
          exact hended.1
      rw [hstill] at h
      cases h
  rw [hsame] at h hrules hstrategy
  rcases applyStrategy_cases item row with
    ⟨heq, -⟩ | ⟨hverified, hnone, -, heq⟩ | ⟨-, -, hended⟩ | ⟨hnot, heq⟩
  · rw [heq] at h hrules hstrategy
    exact ⟨h, hrules, .inl hstrategy⟩
  · rw [heq] at hrules hstrategy
    exact ⟨hverified, hrules, .inr ⟨hnone, hstrategy⟩⟩
  · rw [hended.1] at h
    cases h
  · rw [heq] at h
    exact absurd h hnot

/-- A verified row stays verified or is ended. -/
theorem refreshMapping_verified (now : Time) (markSeen : Bool) (item : PreparedMarketCandidate)
    {row : MarketMappingRow} (h : row.status = .verified) :
    (refreshMapping now markSeen item row).status = .verified
      ∨ (refreshMapping now markSeen item row).Ended := by
  rcases applyRules_cases item row with ⟨-, heq⟩ | ⟨-, hended⟩
  · rcases applyStrategy_cases item row with
      ⟨hsame, -⟩ | ⟨-, -, -, hfilled⟩ | ⟨-, -, hended⟩ | ⟨hnot, -⟩
    · left
      show (applyStrategy item (applyRules item row)).status = .verified
      rw [heq, hsame]
      exact h
    · left
      show (applyStrategy item (applyRules item row)).status = .verified
      rw [heq, hfilled]
      exact h
    · right
      show (applyStrategy item (applyRules item row)).Ended
      rw [heq]
      exact hended
    · exact absurd h hnot
  · right
    have hagain := refreshMapping_ended now markSeen item hended
    -- The rules agree now, so a second look changes nothing about them.
    have hrules : applyRules item (applyRules item row) = applyRules item row := by
      have hfingerprint : (applyRules item row).rulesFingerprint = item.canonicalFingerprint := by
        unfold applyRules
        split
        · rfl
        · next hsame => exact not_not.mp hsame
      exact if_neg (not_not.mpr hfingerprint)
    have hagain' : (applyStrategy item (applyRules item (applyRules item row))).Ended := hagain
    rw [hrules] at hagain'
    exact hagain'

/-- A row an item disagrees with is not verified after it. -/
theorem refreshMapping_disagrees (now : Time) (markSeen : Bool) (item : PreparedMarketCandidate)
    {row : MarketMappingRow} (h : Disagrees item row) :
    (refreshMapping now markSeen item row).status ≠ .verified := by
  intro hverified
  have hstatus : (applyStrategy item (applyRules item row)).status = .verified := hverified
  rcases applyRules_cases item row with ⟨hrules, heq⟩ | ⟨hrules, hended⟩
  · rw [heq] at hstatus
    obtain ⟨hnamed, hdiffers, hexact⟩ := h.resolve_left (not_not.mpr hrules)
    rcases applyStrategy_cases item row with
      ⟨-, hbrings⟩ | ⟨-, hnone, hfilled, -⟩ | ⟨-, -, hended⟩ | ⟨hnot, hsame⟩
    · simp [bringsStrategy, hnamed, hdiffers] at hbrings
    · exact hexact ⟨hnone, hfilled⟩
    · rw [hended.1] at hstatus
      cases hstatus
    · rw [hsame] at hstatus
      exact hnot hstatus
  · have hkept := refreshMapping_kept now markSeen item hverified
    have hfingerprint : (refreshMapping now markSeen item row).rulesFingerprint
        = item.canonicalFingerprint := by
      show (applyStrategy item (applyRules item row)).rulesFingerprint = item.canonicalFingerprint
      have hnew : (applyRules item row).rulesFingerprint = item.canonicalFingerprint := by
        unfold applyRules
        rw [if_pos hrules]
      rcases applyStrategy_cases item (applyRules item row) with
        ⟨hsame, -⟩ | ⟨-, -, -, hsame⟩ | ⟨-, -, hended'⟩ | ⟨-, hsame⟩
      · rw [hsame, hnew]
      · rw [hsame]
        exact hnew
      · rw [hended'.1] at hstatus
        cases hstatus
      · rw [hsame]
        exact hnew
    exact hrules (hkept.rules.symm.trans hfingerprint)

/-! ## One transaction -/

/-- No write makes a row verified, and a row that stays verified is kept. -/
def KeptTable (before after : Dict String MarketMappingRow) : Prop :=
  ∀ id later, after.get? id = some later → later.status = .verified →
    ∃ row, before.get? id = some row ∧ Kept row later

theorem KeptTable.refl (mappings : Dict String MarketMappingRow) : KeptTable mappings mappings :=
  fun _ later h hverified => ⟨later, h, hverified, rfl, .inl rfl⟩

theorem KeptTable.trans {a b c : Dict String MarketMappingRow} (hab : KeptTable a b)
    (hbc : KeptTable b c) : KeptTable a c := by
  intro id later h hverified
  obtain ⟨middle, hmiddle, hkept⟩ := hbc id later h hverified
  obtain ⟨row, hrow, hkept'⟩ := hab id middle hmiddle hkept.status
  exact ⟨row, hrow, hkept'.trans hkept⟩

variable {texts} {now : Time} {markSeen : Bool}

theorem get?_upsertMapping (mappings : Dict String MarketMappingRow)
    (write : PreparedMarketCandidate × (VenueMarket × VenueMarket)) (id : String) :
    (upsertMapping texts now markSeen mappings write).get? id =
      if id = mappingId texts write.2 then
        some (match mappings.get? id with
          | none => newMapping now markSeen write.1 write.2
          | some row => refreshMapping now markSeen write.1 row)
      else mappings.get? id := by
  simp only [upsertMapping]
  by_cases hsame : id = mappingId texts write.2
  · rw [if_pos hsame, ← hsame]
    cases mappings.get? id <;> simp
  · rw [if_neg hsame]
    cases mappings.get? (mappingId texts write.2) <;> simp [hsame]

theorem keptTable_upsertMapping (mappings : Dict String MarketMappingRow)
    (write : PreparedMarketCandidate × (VenueMarket × VenueMarket)) :
    KeptTable mappings (upsertMapping texts now markSeen mappings write) := by
  intro id later h hverified
  rw [get?_upsertMapping] at h
  split at h
  · cases hrow : mappings.get? id with
    | none =>
        rw [hrow] at h
        cases h
        cases hverified
    | some row =>
        rw [hrow] at h
        cases h
        exact ⟨row, rfl, refreshMapping_kept now markSeen write.1 hverified⟩
  · exact ⟨later, h, hverified, rfl, .inl rfl⟩

theorem keptTable_foldl
    (writes : List (PreparedMarketCandidate × (VenueMarket × VenueMarket)))
    (mappings : Dict String MarketMappingRow) :
    KeptTable mappings (writes.foldl (upsertMapping texts now markSeen) mappings) := by
  induction writes generalizing mappings with
  | nil => exact .refl mappings
  | cons write rest ih =>
      rw [List.foldl_cons]
      exact (keptTable_upsertMapping mappings write).trans (ih _)

/-- The row is ended. -/
def EndedIn (mappings : Dict String MarketMappingRow) (id : String) : Prop :=
  ∃ row, mappings.get? id = some row ∧ row.Ended

theorem endedIn_upsertMapping {mappings : Dict String MarketMappingRow} {id : String}
    (h : EndedIn mappings id) (write : PreparedMarketCandidate × (VenueMarket × VenueMarket)) :
    EndedIn (upsertMapping texts now markSeen mappings write) id := by
  obtain ⟨row, hrow, hended⟩ := h
  unfold EndedIn
  rw [get?_upsertMapping, hrow]
  split
  · exact ⟨_, rfl, refreshMapping_ended now markSeen write.1 hended⟩
  · exact ⟨row, rfl, hended⟩

theorem endedIn_foldl (writes : List (PreparedMarketCandidate × (VenueMarket × VenueMarket)))
    {mappings : Dict String MarketMappingRow} {id : String} (h : EndedIn mappings id) :
    EndedIn (writes.foldl (upsertMapping texts now markSeen) mappings) id := by
  induction writes generalizing mappings with
  | nil => exact h
  | cons write rest ih => exact ih (endedIn_upsertMapping h write)

/-- What disagrees with a verified row disagrees with what is kept of it. -/
theorem Disagrees.of_kept {item : PreparedMarketCandidate} {row later : MarketMappingRow}
    (h : Disagrees item row) (hkept : Kept row later) : Disagrees item later := by
  rcases h with hrules | ⟨hnamed, hdiffers, hexact⟩
  · exact .inl (hkept.rules.symm ▸ hrules)
  · right
    rcases hkept.strategy with hsame | ⟨hnone, hfilled⟩
    · rw [hsame]
      exact ⟨hnamed, hdiffers, hexact⟩
    · refine ⟨hnamed, ?_, ?_⟩
      · rw [hfilled]
        exact fun heq => hexact ⟨hnone, heq.symm⟩
      · rw [hfilled]
        exact fun h => by cases h.1

/-- A transaction with an item that disagrees with a verified row ends the row. -/
theorem endedIn_of_disagrees
    (writes : List (PreparedMarketCandidate × (VenueMarket × VenueMarket)))
    {mappings : Dict String MarketMappingRow} {id : String} {row : MarketMappingRow}
    (hrow : mappings.get? id = some row) (hverified : row.status = .verified)
    {write : PreparedMarketCandidate × (VenueMarket × VenueMarket)} (hmem : write ∈ writes)
    (hid : mappingId texts write.2 = id) (hdisagrees : Disagrees write.1 row) :
    EndedIn (writes.foldl (upsertMapping texts now markSeen) mappings) id := by
  induction writes generalizing mappings row with
  | nil => cases hmem
  | cons first rest ih =>
      rw [List.foldl_cons]
      by_cases hfirst : id = mappingId texts first.2
      · have hnext : (upsertMapping texts now markSeen mappings first).get? id
            = some (refreshMapping now markSeen first.1 row) := by
          rw [get?_upsertMapping, if_pos hfirst, hrow]
        rcases refreshMapping_verified now markSeen first.1 hverified with hstill | hended
        · -- Verified still, so it was not this item that disagrees.
          have hkept := refreshMapping_kept now markSeen first.1 hstill
          refine ih hnext hstill ?_ (hdisagrees.of_kept hkept)
          rcases List.mem_cons.mp hmem with heq | hrest
          · rw [heq] at hdisagrees
            exact absurd hstill (refreshMapping_disagrees now markSeen first.1 hdisagrees)
          · exact hrest
        · exact endedIn_foldl rest ⟨_, hnext, hended⟩
      · have hnext : (upsertMapping texts now markSeen mappings first).get? id = some row := by
          rw [get?_upsertMapping, if_neg hfirst, hrow]
        refine ih hnext hverified ?_ hdisagrees
        rcases List.mem_cons.mp hmem with heq | hrest
        · exact absurd (heq ▸ hid.symm) hfirst
        · exact hrest

/-! ## Whole runs -/

/-- Every verified row has the rules and the strategy it was last verified with, or had no strategy
then and has `exact_id` now. -/
def AsVerified (s : MappingStore) : Prop :=
  ∀ id row, s.mappings.get? id = some row → row.status = .verified →
    ∃ rules strategy, s.verifiedAs.get? id = some (rules, strategy)
      ∧ row.rulesFingerprint = rules ∧ KeptStrategy strategy row.matchStrategy

/-- An operator's decision, as opposed to what discovery and the process do. -/
def MappingEvent.isDecision : MappingEvent → Bool
  | setMappingStatus _ _ _ _ => true
  | _ => false

/-- What the transaction of a batch leaves in the table. -/
theorem mappings_finish {s s' : MappingStore} {index : ℕ}
    (h : MappingStore.step texts s (.finish index now true) = some s') :
    ∃ batch items, s.batches[index]? = some batch ∧ batch.prepared = some items
      ∧ s'.mappings = upsertMappings texts now batch.markSeen s.mappings items := by
  simp only [MappingStore.step] at h
  split at h
  · next chunks markSeen items hbatch =>
      cases h
      exact ⟨_, items, hbatch, rfl, rfl⟩
  · cases h

/-- Discovery verifies nothing. -/
theorem keptTable_step {s s' : MappingStore} {event : MappingEvent}
    (h : MappingStore.step texts s event = some s') (hevent : event.isDecision = false) :
    KeptTable s.mappings s'.mappings ∧ s'.verifiedAs = s.verifiedAs := by
  cases event with
  | upsert markets markSeen =>
      cases h
      exact ⟨.refl _, rfl⟩
  | prepare index =>
      simp only [MappingStore.step] at h
      split at h
      · cases h
        exact ⟨.refl _, rfl⟩
      · cases h
  | finish index now commits =>
      cases commits with
      | true =>
          obtain ⟨batch, items, -, -, hmappings⟩ := mappings_finish h
          refine ⟨hmappings ▸ keptTable_foldl _ _, ?_⟩
          simp only [MappingStore.step] at h
          split at h
          · cases h
            rfl
          · cases h
      | false =>
          simp only [MappingStore.step] at h
          split at h
          · cases h
            exact ⟨.refl _, rfl⟩
          · cases h
  | setMappingStatus id status operator now => cases hevent
  | restart =>
      cases h
      exact ⟨.refl _, rfl⟩

theorem AsVerified.step {s s' : MappingStore} (hs : AsVerified s) {event : MappingEvent}
    (h : MappingStore.step texts s event = some s') : AsVerified s' := by
  intro id later hlater hverified
  cases hevent : event.isDecision with
  | false =>
      obtain ⟨hkept, hsame⟩ := keptTable_step h hevent
      obtain ⟨row, hrow, hrowKept⟩ := hkept id later hlater hverified
      obtain ⟨rules, strategy, hget, hrules, hstrategy⟩ := hs id row hrow hrowKept.status
      exact ⟨rules, strategy, hsame ▸ hget, hrowKept.rules.trans hrules,
        hstrategy.trans hrowKept.strategy⟩
  | true =>
      cases event with
      | setMappingStatus decided status operator now =>
          simp only [MappingStore.step] at h
          split at h
          · cases h
          · next row hrow =>
              cases h
              simp only [Dict.get?_set] at hlater
              split at hlater
              · next hid =>
                  cases hlater
                  have hstatus : status = .verified := hverified
                  refine ⟨row.rulesFingerprint, row.matchStrategy, ?_, rfl, .inl rfl⟩
                  show (if status = .verified then s.verifiedAs.set decided
                    (row.rulesFingerprint, row.matchStrategy) else s.verifiedAs).get? id = _
                  rw [if_pos hstatus, hid, Dict.get?_set_self]
              · next hid =>
                  obtain ⟨rules, strategy, hget, hrest⟩ := hs id later hlater hverified
                  refine ⟨rules, strategy, ?_, hrest⟩
                  show (if status = .verified then s.verifiedAs.set decided
                    (row.rulesFingerprint, row.matchStrategy) else s.verifiedAs).get? id = _
                  split
                  · rw [Dict.get?_set_of_ne _ hid, hget]
                  · exact hget
      | upsert markets markSeen => cases hevent
      | prepare index => cases hevent
      | finish index now commits => cases hevent
      | restart => cases hevent

variable (texts) in
/-- **The life of a mapping.**  In every run of batches, operators' decisions and restarts: a
verified row has the rules and the strategy of its last verification, or took `exact_id` where it
had none; discovery verifies no row; a transaction with an item that disagrees with a verified row
makes it stale and clears its verification; and a row is created as a candidate. -/
theorem mapping_lifecycle {hist : List MappingStore} {s : MappingStore}
    (h : Run (MappingStore.step texts) anyAction {} hist s) :
    AsVerified s
      ∧ (∀ event s', MappingStore.step texts s event = some s' → event.isDecision = false →
          ∀ id later, s'.mappings.get? id = some later → later.status = .verified →
            ∃ row, s.mappings.get? id = some row ∧ row.status = .verified)
      ∧ (∀ index now batch items s', s.batches[index]? = some batch → batch.prepared = some items →
          MappingStore.step texts s (.finish index now true) = some s' →
          ∀ id row, s.mappings.get? id = some row → row.status = .verified →
          ∀ item ∈ items, ∀ pair ∈ item.pairs, mappingId texts pair = id → Disagrees item row →
            ∃ later, s'.mappings.get? id = some later ∧ later.status = .stale
              ∧ later.verifiedAt = none ∧ later.verifiedBy = none)
      ∧ (∀ now markSeen mappings write, mappings.get? (mappingId texts write.2) = none →
          ∃ row, (upsertMapping texts now markSeen mappings write).get? (mappingId texts write.2)
              = some row
            ∧ row.status = .candidate ∧ row.verifiedAt = none ∧ row.verifiedBy = none) := by
  refine ⟨?_, ?_, ?_, ?_⟩
  · refine h.state_invariant AsVerified ?_ fun s _ s' hs _ hstep => hs.step hstep
    intro id row hrow
    cases hrow
  · intro event s' hstep hevent id later hlater hverified
    obtain ⟨row, hrow, hkept⟩ := (keptTable_step hstep hevent).1 id later hlater hverified
    exact ⟨row, hrow, hkept.status⟩
  · intro index now batch items s' hbatch hprepared hstep id row hrow hverified item hitem pair
      hpair hid hdisagrees
    obtain ⟨batch', items', hbatch', hprepared', hmappings⟩ := mappings_finish hstep
    rw [hbatch] at hbatch'
    cases hbatch'
    rw [hprepared] at hprepared'
    cases hprepared'
    rw [hmappings]
    have hwrite : (item, pair) ∈ mappingWrites items :=
      List.mem_flatMap.mpr ⟨item, hitem, List.mem_map_of_mem hpair⟩
    exact endedIn_of_disagrees _ hrow hverified hwrite hid hdisagrees
  · intro now markSeen mappings write hnone
    rw [get?_upsertMapping, if_pos rfl, hnone]
    exact ⟨_, rfl, rfl, rfl, rfl⟩

end Texts

namespace LifecycleExamples

/-! ### One pair, verified -/

/-- Texts that keep apart what is different. -/
def texts : TextFunctions where
  sha256 text := text
  json fields := "|".intercalate (fields.map Prod.snd)
  collapse text := text
  isoformat _ := "2026-01-01"

/-- A market of the pair, from a source with a label and rules of its own. -/
def discovered (label source : String) (strategy : Option String) : DiscoveredMarket where
  market := {
    symbol := "BTC", targetLabel := label
    polymarketTokenId := "p", polymarketSide := .yes
    predictFunTokenId := "q", predictFunSide := .no
    cutoffAt := some 0
    polymarketMarketId := some "m1", predictFunMarketId := some "m2"
    resolutionSource := some source }
  mappingStrategy := strategy

/-- The key of the pair. -/
def key : String := mappingId texts (⟨"Polymarket", "m1"⟩, ⟨"Predict.fun", "m2"⟩)

/-- One batch, from the call to its commit. -/
def batch (index : ℕ) (markets : List DiscoveredMarket) : List MappingEvent :=
  [.upsert markets false, .prepare index, .finish index 0 true]

/-- A batch, and the verification of what it left. -/
def verifiedAfter (markets : List DiscoveredMarket) : List MappingEvent :=
  batch 0 markets ++ [.setMappingStatus key .verified (some "operator") 1]

/-- What a run leaves of the row: its status, rules and strategy, and the rules and the strategy of
its last verification. -/
def summary (events : List MappingEvent) :
    Option (Option (MappingStatus × String × Option String) × Option (String × Option String)) :=
  (exec (MappingStore.step texts) anyAction {} events).map fun s =>
    ((s.mappings.get? key).map fun row => (row.status, row.rulesFingerprint, row.matchStrategy),
      s.verifiedAs.get? key)

/-- The rules of the pair as a source has them. -/
def rules (source : String) : String := "BTC|" ++ source ++ "|2026-01-01|unknown|UTC"

/-- A verified row without a strategy takes `exact_id` and stays verified; one with a strategy stays
verified when a batch carries none; and when the other of two sources is persisted again unchanged,
it is skipped and the row stays verified though the rules differ. -/
theorem mapping_lifecycle_differs :
    summary (verifiedAfter [discovered "a" "s" none] ++ batch 1 [discovered "a" "s" (some "exact_id")])
        = some (some (.verified, rules "s", some "exact_id"), some (rules "s", none))
      ∧ summary (verifiedAfter [discovered "a" "s" (some "semantic")]
          ++ batch 1 [discovered "a" "s" none])
        = some (some (.verified, rules "s", some "semantic"), some (rules "s", some "semantic"))
      ∧ summary (verifiedAfter [discovered "a" "s" none, discovered "b" "t" none]
          ++ [.upsert [discovered "a" "s" none] false, .prepare 1])
        = some (some (.verified, rules "t", none), some (rules "t", none)) := by
  refine ⟨?_, ?_, ?_⟩ <;> decide +kernel

/-- A batch with other rules, up to its transaction. -/
def disagreeing : List MappingEvent :=
  verifiedAfter [discovered "a" "s" none] ++ [.upsert [discovered "a" "t" none] false, .prepare 1]

/-- The item it carries. -/
def carried : PreparedMarketCandidate :=
  (prepareMarketCandidate texts (discovered "a" "t" none)).get (by decide +kernel)

/-- Its transaction makes the verified row stale. -/
theorem mapping_lifecycle_stale :
    ∃ s s' later, exec (MappingStore.step texts) anyAction {} disagreeing = some s
      ∧ MappingStore.step texts s (.finish 1 2 true) = some s'
      ∧ s'.mappings.get? key = some later ∧ later.status = .stale
      ∧ later.verifiedAt = none ∧ later.verifiedBy = none := by
  have hrow : (exec (MappingStore.step texts) anyAction {} disagreeing).map (fun s =>
      (s.mappings.get? key).map fun row => (row.status, decide (Disagrees carried row)))
        = some (some (.verified, true)) := by decide +kernel
  have hprepared : (exec (MappingStore.step texts) anyAction {} disagreeing).map (fun s =>
      s.batches[1]?.bind (·.prepared)) = some (some [carried]) := by decide +kernel
  have hfinishes : ((exec (MappingStore.step texts) anyAction {} disagreeing).bind fun s =>
      MappingStore.step texts s (.finish 1 2 true)).isSome := by decide +kernel
  obtain ⟨s, hs, hrow⟩ := Option.map_eq_some_iff.mp hrow
  obtain ⟨row, hget, hstatus⟩ := Option.map_eq_some_iff.mp hrow
  rw [hs, Option.map_some] at hprepared
  obtain ⟨batch, hbatch, hitems⟩ := Option.bind_eq_some_iff.mp (Option.some.inj hprepared)
  rw [hs, Option.bind_some] at hfinishes
  obtain ⟨s', hs'⟩ := Option.isSome_iff_exists.mp hfinishes
  obtain ⟨hist, hrun⟩ := Run.of_exec hs
  have hpair : (⟨"Polymarket", "m1"⟩, ⟨"Predict.fun", "m2"⟩) ∈ carried.pairs := by decide +kernel
  obtain ⟨later, hlater⟩ := (mapping_lifecycle texts hrun).2.2.1 1 2 batch [carried] s' hbatch hitems
    hs' key row hget (congrArg Prod.fst hstatus) carried List.mem_cons_self _ hpair rfl
    (of_decide_eq_true (congrArg Prod.snd hstatus))
  exact ⟨s, s', later, hs, hs', hlater⟩

end LifecycleExamples

end ArbitrageEngine.Mapping
