/-
# ArbitrageEngine.Mapping.Join -- the join of discovered markets with verified mappings

`_apply_verified_mapping_snapshot` builds two tables from the verified mappings, one under the
ordered pair of market ids (in both orders) and one under the rules fingerprint, and looks every
pair of a market's own ids up in the first.  The venues of a mapping are not part of the key: they
only name the route.
-/
import ArbitrageEngine.Routes

namespace ArbitrageEngine.Mapping

/-! ## Mappings and their metadata -/

/-- The fields of `MarketMapping` the join reads. -/
structure MarketMapping where
  canonicalMarketId : String
  leftVenue : String
  leftMarketId : String
  rightVenue : String
  rightMarketId : String
  rulesFingerprint : String
deriving DecidableEq

/-- The metadata of a canonical market: resolution source, outcome semantics, category, cutoff. -/
structure CanonicalMetadata where
  source : String
  semantics : String
  category : String
  cutoff : Time
deriving DecidableEq

/-- A market of a venue. -/
structure VenueMarket where
  venue : String
  marketId : String
deriving DecidableEq

/-- The market a mapping names on its left. -/
def MarketMapping.left (mapping : MarketMapping) : VenueMarket :=
  ⟨mapping.leftVenue, mapping.leftMarketId⟩

/-- The market a mapping names on its right. -/
def MarketMapping.right (mapping : MarketMapping) : VenueMarket :=
  ⟨mapping.rightVenue, mapping.rightMarketId⟩

/-- The metadata of a mapping read at `now`: what the table has for its canonical market, or the
default. -/
def mappingMetadata (canonicalMetadata : Lib.Dict String CanonicalMetadata)
    (mapping : MarketMapping) (now : Time) : CanonicalMetadata :=
  (canonicalMetadata.get? mapping.canonicalMarketId).getD ⟨"unknown", "unknown", "unknown", now⟩

/-- What `route_pairs` holds under a route: the fingerprint and the metadata of a mapping. -/
structure VerifiedMetadata where
  fingerprint : String
  canonical : CanonicalMetadata
deriving DecidableEq

/-! ## The tables -/

/-- `route_pairs` and `metadata_by_fingerprint`. -/
structure JoinTables where
  routePairs : Lib.Dict (String × String) (Lib.Dict String VerifiedMetadata)
  metadataByFingerprint : Lib.Dict String CanonicalMetadata

/-- `route_pairs.setdefault(pair, {})[route] = metadata`. -/
def addRoute (routePairs : Lib.Dict (String × String) (Lib.Dict String VerifiedMetadata))
    (pair : String × String) (route : String) (metadata : VerifiedMetadata) :
    Lib.Dict (String × String) (Lib.Dict String VerifiedMetadata) :=
  routePairs.set pair (((routePairs.get? pair).getD .empty).set route metadata)

/-- `d.setdefault(key, value)`. -/
def setDefault (d : Lib.Dict String CanonicalMetadata) (key : String) (value : CanonicalMetadata) :
    Lib.Dict String CanonicalMetadata :=
  if (d.get? key).isSome then d else d.set key value

section Join

variable (lower strip : String → String) (canonicalMetadata : Lib.Dict String CanonicalMetadata)

/-- The route a mapping verifies. -/
def MarketMapping.route (mapping : MarketMapping) : String :=
  routeName lower mapping.leftVenue mapping.rightVenue

/-- One round of the loop over the mappings, with the clock at that round. -/
def addMapping (tables : JoinTables) (entry : MarketMapping × Time) : JoinTables :=
  let mapping := entry.1
  let route := mapping.route lower
  let canonical := mappingMetadata canonicalMetadata mapping entry.2
  let metadata := ⟨mapping.rulesFingerprint, canonical⟩
  { routePairs :=
      addRoute (addRoute tables.routePairs (mapping.leftMarketId, mapping.rightMarketId) route
        metadata) (mapping.rightMarketId, mapping.leftMarketId) route metadata
    metadataByFingerprint :=
      setDefault tables.metadataByFingerprint mapping.rulesFingerprint canonical }

/-- The tables of a list of mappings, each with the clock at its round. -/
def joinTables (mappings : List (MarketMapping × Time)) : JoinTables :=
  mappings.foldl (addMapping lower canonicalMetadata) ⟨.empty, .empty⟩

/-! ## One market -/

/-- `_first_leg_market_id`. -/
def firstLegMarketId (market : MarketSpec) : Option String :=
  if market.venueALabel = "Polymarket" then
    (truthy market.polymarketMarketId).or market.conditionId
  else
    (truthy market.polymarketMarketId).or
      ((truthy market.predictFunMarketId).or market.conditionId)

/-- `_market_identities`: the id of the market on each of its venues. -/
def marketIdentities (market : MarketSpec) : Lib.Dict String String :=
  let first : Lib.Dict String String :=
    match truthy (firstLegMarketId market) with
    | some marketId => Lib.Dict.empty.set market.venueALabel marketId
    | none => .empty
  let second :=
    match truthy market.predictFunMarketId with
    | some marketId =>
        if market.venueBLabel ≠ "Myriad" then first.set market.venueBLabel marketId else first
    | none => first
  match truthy market.myriadMarketId with
  | some marketId => second.set "Myriad" marketId
  | none => second

/-- The markets a market stands for, in the order of its identities. -/
def ownMarkets (market : MarketSpec) : List VenueMarket :=
  (marketIdentities market).entries.map fun entry => ⟨entry.1, entry.2⟩

/-- The pairs `(xs[i], xs[j])` with `i < j`, in the order of the nested loops. -/
def orderedPairs {α : Type} : List α → List (α × α)
  | [] => []
  | x :: xs => xs.map (fun y => (x, y)) ++ orderedPairs xs

/-- The locals of the loop body. -/
structure Verified where
  routes : Finset String
  fingerprint : Option String
  source : Option String
  semantics : Option String
  category : Option String
  cutoff : Option Time

/-- `_missing_verified_metadata`. -/
def missingVerifiedMetadata (value : Option String) : Bool :=
  match truthy value with
  | none => true
  | some value => lower (strip value) = "unknown"

/-- `_known_verified_metadata`. -/
def knownVerifiedMetadata (value : String) : Option String :=
  if missingVerifiedMetadata lower strip (some value) then none else some value

/-- One text field is filled where it is missing. -/
def fillText (current : Option String) (value : String) : Option String :=
  if missingVerifiedMetadata lower strip current then knownVerifiedMetadata lower strip value
  else current

/-- The missing metadata is filled from `canonical`. -/
def fillMetadata (verified : Verified) (canonical : CanonicalMetadata) : Verified :=
  { verified with
    source := fillText lower strip verified.source canonical.source
    semantics := fillText lower strip verified.semantics canonical.semantics
    category := fillText lower strip verified.category canonical.category
    cutoff := verified.cutoff.or (some canonical.cutoff) }

/-- The body of the inner loop over pairs of venues. -/
def matchPair (tables : JoinTables) (verified : Verified) (pair : VenueMarket × VenueMarket) :
    Verified :=
  let matched := (tables.routePairs.get? (pair.1.marketId, pair.2.marketId)).getD .empty
  let routed := { verified with routes := verified.routes ∪ matched.keys.toFinset }
  match matched.values.head? with
  | none => routed
  | some metadata =>
      fillMetadata lower strip
        { routed with fingerprint := routed.fingerprint.or (some metadata.fingerprint) }
        metadata.canonical

/-- The metadata of the verified fingerprint, after the loops. -/
def matchFingerprint (tables : JoinTables) (verified : Verified) : Verified :=
  match (truthy verified.fingerprint).bind tables.metadataByFingerprint.get? with
  | none => verified
  | some canonical => fillMetadata lower strip verified canonical

/-- The locals before the loops. -/
def initialVerified (market : MarketSpec) : Verified where
  routes := market.verifiedRoutes
  fingerprint := market.rulesFingerprint
  source := market.resolutionSource
  semantics := market.outcomeSemantics
  category := market.category
  cutoff := market.cutoffAt

/-- The locals after the loops over pairs of venues. -/
def matchPairs (tables : JoinTables) (market : MarketSpec) : Verified :=
  (orderedPairs (ownMarkets market)).foldl (matchPair lower strip tables) (initialVerified market)

/-- The market with the verified locals written back. -/
def withVerified (market : MarketSpec) (verified : Verified) : MarketSpec :=
  { market with
    verifiedRoutes := verified.routes
    mappingStatus := if verified.routes = ∅ then market.mappingStatus else .verified
    rulesFingerprint := verified.fingerprint
    resolutionSource := verified.source
    outcomeSemantics := verified.semantics
    category := verified.category
    cutoffAt := verified.cutoff }

/-- The body of the loop over the markets. -/
def joinMarket (tables : JoinTables) (market : MarketSpec) : MarketSpec :=
  withVerified market
    (matchFingerprint lower strip tables (matchPairs lower strip tables market))

/-- `_apply_verified_mapping_snapshot`. -/
def applyVerifiedMappingSnapshot (markets : List MarketSpec)
    (mappings : List (MarketMapping × Time)) : List MarketSpec :=
  markets.map (joinMarket lower strip (joinTables lower canonicalMetadata mappings))

end Join

end ArbitrageEngine.Mapping
