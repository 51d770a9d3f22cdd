/-
# ArbitrageEngine.Mapping.Soundness -- what the join may put into a market

Everything the loops over pairs put into a market comes from a mapping whose two ids are the ids of
the market on two of its venues, in some order.  Whether that mapping is about those venues is not
checked: it is where no id is shared between venues (`NoCollision`), and a numeric id of one venue
that is also an id of another breaks it.

The metadata has a second origin, by design: the first mapping with the market's verified rules
fingerprint, whatever its ids.
-/
import ArbitrageEngine.Mapping.Join
import Mathlib.Data.List.Forall2

namespace ArbitrageEngine.Mapping

/-! ## Origins -/

/-- The mapping names the two markets, in some order. -/
def MarketMapping.Pairs (mapping : MarketMapping) (pair : VenueMarket × VenueMarket) : Prop :=
  (mapping.left = pair.1 ∧ mapping.right = pair.2) ∨
    (mapping.left = pair.2 ∧ mapping.right = pair.1)

instance (mapping : MarketMapping) (pair : VenueMarket × VenueMarket) :
    Decidable (mapping.Pairs pair) := inferInstanceAs (Decidable (_ ∨ _))

/-- The mapping has the ids of the two markets, in some order. -/
def MarketMapping.SharesIds (mapping : MarketMapping) (pair : VenueMarket × VenueMarket) : Prop :=
  (mapping.leftMarketId = pair.1.marketId ∧ mapping.rightMarketId = pair.2.marketId) ∨
    (mapping.leftMarketId = pair.2.marketId ∧ mapping.rightMarketId = pair.1.marketId)

instance (mapping : MarketMapping) (pair : VenueMarket × VenueMarket) :
    Decidable (mapping.SharesIds pair) := inferInstanceAs (Decidable (_ ∨ _))

/-- The mapping pairs two of the markets that `market` stands for. -/
def OwnMapping (market : MarketSpec) (mapping : MarketMapping) : Prop :=
  ∃ pair ∈ orderedPairs (ownMarkets market), mapping.Pairs pair

instance (market : MarketSpec) (mapping : MarketMapping) : Decidable (OwnMapping market mapping) :=
  inferInstanceAs (Decidable (∃ pair ∈ orderedPairs (ownMarkets market), mapping.Pairs pair))

/-- No mapping has the ids of two of the market's venues without being about these venues. -/
def NoCollision (mappings : List (MarketMapping × Time)) (market : MarketSpec) : Prop :=
  ∀ entry ∈ mappings, ∀ pair ∈ orderedPairs (ownMarkets market),
    entry.1.SharesIds pair → entry.1.Pairs pair

instance (mappings : List (MarketMapping × Time)) (market : MarketSpec) :
    Decidable (NoCollision mappings market) :=
  inferInstanceAs (Decidable (∀ entry ∈ mappings, ∀ pair ∈ orderedPairs (ownMarkets market),
    entry.1.SharesIds pair → entry.1.Pairs pair))

section Join

variable {lower strip : String → String} {canonicalMetadata : Lib.Dict String CanonicalMetadata}
  {mappings : List (MarketMapping × Time)} {market : MarketSpec}

/-- A text field is as it was, or the known part of the field of some metadata with origin `O`. -/
def TextFrom (lower strip : String → String) (O : CanonicalMetadata → Prop)
    (field : CanonicalMetadata → String) (old new : Option String) : Prop :=
  new = old ∨ ∃ canonical, O canonical ∧ new = knownVerifiedMetadata lower strip (field canonical)

/-- A value is as it was, or one that satisfies `P`. -/
def ValueFrom {α : Type} (P : α → Prop) (old new : Option α) : Prop :=
  new = old ∨ ∃ value, P value ∧ new = some value

/-- The verified metadata of a market is as it was or has origin `O`. -/
structure MetadataFrom (lower strip : String → String) (O : CanonicalMetadata → Prop)
    (market : MarketSpec) (verified : Verified) : Prop where
  source : TextFrom lower strip O (·.source) market.resolutionSource verified.source
  semantics : TextFrom lower strip O (·.semantics) market.outcomeSemantics verified.semantics
  category : TextFrom lower strip O (·.category) market.category verified.category
  cutoff : ValueFrom (fun cutoff => ∃ canonical, O canonical ∧ cutoff = canonical.cutoff)
    market.cutoffAt verified.cutoff

theorem TextFrom.fill {O : CanonicalMetadata → Prop} {field : CanonicalMetadata → String}
    {old current : Option String} (h : TextFrom lower strip O field old current)
    {canonical : CanonicalMetadata} (hO : O canonical) :
    TextFrom lower strip O field old (fillText lower strip current (field canonical)) := by
  unfold fillText
  split
  · exact .inr ⟨canonical, hO, rfl⟩
  · exact h

theorem TextFrom.mono {O O' : CanonicalMetadata → Prop} {field : CanonicalMetadata → String}
    {old new : Option String} (h : TextFrom lower strip O field old new)
    (hO : ∀ canonical, O canonical → O' canonical) : TextFrom lower strip O' field old new := by
  rcases h with h | ⟨canonical, hcanonical, h⟩
  · exact .inl h
  · exact .inr ⟨canonical, hO canonical hcanonical, h⟩

theorem ValueFrom.mono {α : Type} {P P' : α → Prop} {old new : Option α} (h : ValueFrom P old new)
    (hP : ∀ value, P value → P' value) : ValueFrom P' old new :=
  h.imp_right fun ⟨value, hvalue, heq⟩ => ⟨value, hP value hvalue, heq⟩

/-- A missing value is filled with one that satisfies `P`. -/
theorem ValueFrom.or {α : Type} {P : α → Prop} {old current : Option α}
    (h : ValueFrom P old current) {value : α} (hvalue : P value) :
    ValueFrom P old (current.or (some value)) := by
  cases hcurrent : current with
  | none => exact .inr ⟨value, hvalue, rfl⟩
  | some kept =>
      rw [Option.some_or, ← hcurrent]
      exact h

theorem MetadataFrom.mono {O O' : CanonicalMetadata → Prop} {verified : Verified}
    (h : MetadataFrom lower strip O market verified)
    (hO : ∀ canonical, O canonical → O' canonical) :
    MetadataFrom lower strip O' market verified where
  source := h.source.mono hO
  semantics := h.semantics.mono hO
  category := h.category.mono hO
  cutoff := h.cutoff.mono fun _ ⟨canonical, hcanonical, heq⟩ =>
    ⟨canonical, hO canonical hcanonical, heq⟩

/-- Filling from metadata with origin `O`. -/
theorem MetadataFrom.fill {O : CanonicalMetadata → Prop} {verified : Verified}
    (h : MetadataFrom lower strip O market verified) {canonical : CanonicalMetadata}
    (hO : O canonical) :
    MetadataFrom lower strip O market (fillMetadata lower strip verified canonical) where
  source := h.source.fill hO
  semantics := h.semantics.fill hO
  category := h.category.fill hO
  cutoff := h.cutoff.or ⟨canonical, hO, rfl⟩

/-! ## The tables -/

/-- Where an entry of `route_pairs` comes from. -/
def PairEntryFrom (lower : String → String) (canonicalMetadata : Lib.Dict String CanonicalMetadata)
    (mappings : List (MarketMapping × Time)) (pair : String × String)
    (entry : String × VerifiedMetadata) : Prop :=
  ∃ source ∈ mappings, source.1.route lower = entry.1 ∧
    entry.2 = ⟨source.1.rulesFingerprint, mappingMetadata canonicalMetadata source.1 source.2⟩ ∧
    (pair = (source.1.leftMarketId, source.1.rightMarketId) ∨
      pair = (source.1.rightMarketId, source.1.leftMarketId))

/-- Every entry of `route_pairs` satisfies `P`. -/
def PairEntries (P : String × String → String × VerifiedMetadata → Prop)
    (routePairs : Lib.Dict (String × String) (Lib.Dict String VerifiedMetadata)) : Prop :=
  ∀ pair matched, routePairs.get? pair = some matched → ∀ entry ∈ matched.entries, P pair entry

theorem PairEntries.addRoute {P : String × String → String × VerifiedMetadata → Prop}
    {routePairs : Lib.Dict (String × String) (Lib.Dict String VerifiedMetadata)}
    (h : PairEntries P routePairs) {pair : String × String} {route : String}
    {metadata : VerifiedMetadata} (hnew : P pair (route, metadata)) :
    PairEntries P (addRoute routePairs pair route metadata) := by
  intro pair' matched hmatched entry hentry
  rw [Mapping.addRoute, Lib.Dict.get?_set] at hmatched
  split at hmatched
  · next hpair =>
      cases hmatched
      rw [hpair]
      rcases Lib.Dict.mem_entries_set hentry with rfl | hold
      · exact hnew
      · cases hbefore : routePairs.get? pair with
        | none =>
            rw [hbefore] at hold
            exact absurd hold List.not_mem_nil
        | some before =>
            rw [hbefore] at hold
            exact h pair before hbefore entry hold
  · exact h pair' matched hmatched entry hentry

theorem routePairs_from :
    PairEntries (PairEntryFrom lower canonicalMetadata mappings)
      (joinTables lower canonicalMetadata mappings).routePairs := by
  -- The loop adds two entries for a mapping of the list to a table of such entries.
  have hloop : ∀ (rest : List (MarketMapping × Time)) (tables : JoinTables),
      (∀ source ∈ rest, source ∈ mappings) →
      PairEntries (PairEntryFrom lower canonicalMetadata mappings) tables.routePairs →
      PairEntries (PairEntryFrom lower canonicalMetadata mappings)
        (rest.foldl (addMapping lower canonicalMetadata) tables).routePairs := by
    intro rest
    induction rest with
    | nil => exact fun _ _ h => h
    | cons source rest ih =>
        intro tables hmem h
        refine ih _ (fun s hs => hmem s (List.mem_cons_of_mem _ hs)) ?_
        have hsource := hmem source List.mem_cons_self
        exact (h.addRoute ⟨source, hsource, rfl, rfl, .inl rfl⟩).addRoute
          ⟨source, hsource, rfl, rfl, .inr rfl⟩
  refine hloop mappings ⟨.empty, .empty⟩ (fun _ h => h) ?_
  intro pair matched hmatched
  cases hmatched

/-- The metadata under a fingerprint is that of the first mapping with this fingerprint. -/
theorem metadataByFingerprint_get? (fingerprint : String) :
    (joinTables lower canonicalMetadata mappings).metadataByFingerprint.get? fingerprint =
      (mappings.find? fun source => source.1.rulesFingerprint = fingerprint).map fun source =>
        mappingMetadata canonicalMetadata source.1 source.2 := by
  have hset : ∀ (d : Lib.Dict String CanonicalMetadata) (key : String) (value : CanonicalMetadata),
      (setDefault d key value).get? fingerprint =
        (d.get? fingerprint).or (if key = fingerprint then some value else none) := by
    intro d key value
    unfold setDefault
    by_cases hkey : key = fingerprint
    · subst hkey
      cases hd : d.get? key <;> simp [hd]
    · have hkey' : fingerprint ≠ key := fun h => hkey h.symm
      cases hd : d.get? key <;> simp [hkey, hkey']
  have hloop : ∀ (rest : List (MarketMapping × Time)) (tables : JoinTables),
      (rest.foldl (addMapping lower canonicalMetadata) tables).metadataByFingerprint.get?
          fingerprint =
        (tables.metadataByFingerprint.get? fingerprint).or
          ((rest.find? fun source => source.1.rulesFingerprint = fingerprint).map fun source =>
            mappingMetadata canonicalMetadata source.1 source.2) := by
    intro rest
    induction rest with
    | nil => intro tables; simp
    | cons source rest ih =>
        intro tables
        rw [List.foldl_cons, ih]
        show ((setDefault _ _ _).get? fingerprint).or _ = _
        rw [hset, Option.or_assoc]
        by_cases hsource : source.1.rulesFingerprint = fingerprint <;> simp [hsource]
  have h := hloop mappings ⟨.empty, .empty⟩
  rw [Lib.Dict.get?_empty, Option.none_or] at h
  exact h

/-! ## The loops over pairs -/

/-- Metadata of a mapping that has the ids of two of the market's venues. -/
def PairMetadata (canonicalMetadata : Lib.Dict String CanonicalMetadata)
    (mappings : List (MarketMapping × Time)) (market : MarketSpec)
    (canonical : CanonicalMetadata) : Prop :=
  ∃ source ∈ mappings, (∃ pair ∈ orderedPairs (ownMarkets market), source.1.SharesIds pair) ∧
    canonical = mappingMetadata canonicalMetadata source.1 source.2

/-- What the loops over pairs keep: everything new comes from a mapping with the ids of a pair. -/
structure PairsSound (lower strip : String → String)
    (canonicalMetadata : Lib.Dict String CanonicalMetadata)
    (mappings : List (MarketMapping × Time)) (market : MarketSpec) (verified : Verified) :
    Prop where
  routes : ∀ route ∈ verified.routes, route ∈ market.verifiedRoutes ∨
    ∃ source ∈ mappings, source.1.route lower = route ∧
      ∃ pair ∈ orderedPairs (ownMarkets market), source.1.SharesIds pair
  fingerprint : ValueFrom (fun fingerprint => ∃ source ∈ mappings,
      fingerprint = source.1.rulesFingerprint ∧
        ∃ pair ∈ orderedPairs (ownMarkets market), source.1.SharesIds pair)
    market.rulesFingerprint verified.fingerprint
  metadata :
    MetadataFrom lower strip (PairMetadata canonicalMetadata mappings market) market verified

theorem pairsSound_initial :
    PairsSound lower strip canonicalMetadata mappings market (initialVerified market) where
  routes := fun _ h => .inl h
  fingerprint := .inl rfl
  metadata := ⟨.inl rfl, .inl rfl, .inl rfl, .inl rfl⟩

/-- An entry matched for a pair comes from a mapping with the ids of the pair. -/
theorem sharesIds_of_entry {pair : VenueMarket × VenueMarket} {entry : String × VerifiedMetadata}
    (h : PairEntryFrom lower canonicalMetadata mappings (pair.1.marketId, pair.2.marketId) entry) :
    ∃ source ∈ mappings, source.1.SharesIds pair ∧ source.1.route lower = entry.1 ∧
      entry.2 =
        ⟨source.1.rulesFingerprint, mappingMetadata canonicalMetadata source.1 source.2⟩ := by
  obtain ⟨source, hsource, hroute, hmetadata, hids⟩ := h
  refine ⟨source, hsource, ?_, hroute, hmetadata⟩
  rcases hids with hids | hids
  · exact .inl ⟨(congrArg Prod.fst hids).symm, (congrArg Prod.snd hids).symm⟩
  · exact .inr ⟨(congrArg Prod.snd hids).symm, (congrArg Prod.fst hids).symm⟩

/-- One round of the inner loop. -/
theorem PairsSound.matchPair {verified : Verified}
    (h : PairsSound lower strip canonicalMetadata mappings market verified)
    {pair : VenueMarket × VenueMarket} (hpair : pair ∈ orderedPairs (ownMarkets market)) :
    PairsSound lower strip canonicalMetadata mappings market
      (matchPair lower strip (joinTables lower canonicalMetadata mappings) verified pair) := by
  set matched := (((joinTables lower canonicalMetadata mappings).routePairs.get?
    (pair.1.marketId, pair.2.marketId)).getD .empty) with hmatched
  have hfrom : ∀ entry ∈ matched.entries, ∃ source ∈ mappings, source.1.SharesIds pair ∧
      source.1.route lower = entry.1 ∧ entry.2 =
        ⟨source.1.rulesFingerprint, mappingMetadata canonicalMetadata source.1 source.2⟩ := by
    intro entry hentry
    cases hget : (joinTables lower canonicalMetadata mappings).routePairs.get?
        (pair.1.marketId, pair.2.marketId) with
    | none =>
        rw [hget] at hmatched
        rw [hmatched] at hentry
        exact absurd hentry List.not_mem_nil
    | some found =>
        rw [hget] at hmatched
        rw [hmatched] at hentry
        exact sharesIds_of_entry (routePairs_from _ _ hget entry hentry)
  have hrouted : PairsSound lower strip canonicalMetadata mappings market
      { verified with routes := verified.routes ∪ matched.keys.toFinset } := by
    refine ⟨?_, h.fingerprint, h.metadata.source, h.metadata.semantics, h.metadata.category,
      h.metadata.cutoff⟩
    intro route hroute
    rcases Finset.mem_union.mp hroute with hold | hnew
    · exact h.routes route hold
    · obtain ⟨entry, hentry, rfl⟩ := List.mem_map.mp (List.mem_toFinset.mp hnew)
      obtain ⟨source, hsource, hids, hname, _⟩ := hfrom entry hentry
      exact .inr ⟨source, hsource, hname, pair, hpair, hids⟩
  unfold Mapping.matchPair
  rw [← hmatched]
  dsimp only
  cases hhead : matched.values.head? with
  | none => exact hrouted
  | some metadata =>
      obtain ⟨entry, hentry, rfl⟩ :=
        List.mem_map.mp (List.mem_of_mem_head? (hhead ▸ rfl : metadata ∈ matched.values.head?))
      obtain ⟨source, hsource, hids, _, hmetadata⟩ := hfrom entry hentry
      refine ⟨hrouted.routes, ?_, MetadataFrom.fill ?_ ?_⟩
      · exact h.fingerprint.or ⟨source, hsource, by rw [hmetadata], pair, hpair, hids⟩
      · exact ⟨h.metadata.source, h.metadata.semantics, h.metadata.category, h.metadata.cutoff⟩
      · exact ⟨source, hsource, ⟨pair, hpair, hids⟩, by rw [hmetadata]⟩

/-- All rounds of the loops. -/
theorem pairsSound_matchPairs :
    PairsSound lower strip canonicalMetadata mappings market
      (matchPairs lower strip (joinTables lower canonicalMetadata mappings) market) := by
  have hloop : ∀ (pairs : List (VenueMarket × VenueMarket)) (verified : Verified),
      (∀ pair ∈ pairs, pair ∈ orderedPairs (ownMarkets market)) →
      PairsSound lower strip canonicalMetadata mappings market verified →
      PairsSound lower strip canonicalMetadata mappings market
        (pairs.foldl (Mapping.matchPair lower strip (joinTables lower canonicalMetadata mappings))
          verified) := by
    intro pairs
    induction pairs with
    | nil => exact fun _ _ h => h
    | cons pair pairs ih =>
        intro verified hmem h
        exact ih _ (fun p hp => hmem p (List.mem_cons_of_mem _ hp))
          (h.matchPair (hmem pair List.mem_cons_self))
  exact hloop _ _ (fun _ h => h) pairsSound_initial

/-! ## The join -/

/-- Where the metadata of a market may come from: a mapping of its own markets, or the first
mapping with its fingerprint. -/
def OwnMetadata (canonicalMetadata : Lib.Dict String CanonicalMetadata)
    (mappings : List (MarketMapping × Time)) (market : MarketSpec) (fingerprint : Option String)
    (canonical : CanonicalMetadata) : Prop :=
  ∃ source ∈ mappings, canonical = mappingMetadata canonicalMetadata source.1 source.2 ∧
    (OwnMapping market source.1 ∨
      ∃ verified, fingerprint = some verified ∧
        mappings.find? (fun other => other.1.rulesFingerprint = verified) = some source)

/-- `market'` is `market` with routes, fingerprint and metadata of its own mappings. -/
structure Joined (lower strip : String → String)
    (canonicalMetadata : Lib.Dict String CanonicalMetadata)
    (mappings : List (MarketMapping × Time)) (market market' : MarketSpec) : Prop where
  routes : ∀ route ∈ market'.verifiedRoutes,
    ∃ source ∈ mappings, source.1.route lower = route ∧ OwnMapping market source.1
  status : market'.mappingStatus = .verified → market.mappingStatus = .verified ∨
    ∃ source ∈ mappings, OwnMapping market source.1
  fingerprint : ValueFrom (fun fingerprint => ∃ source ∈ mappings,
      fingerprint = source.1.rulesFingerprint ∧ OwnMapping market source.1)
    market.rulesFingerprint market'.rulesFingerprint
  metadata : MetadataFrom lower strip
    (OwnMetadata canonicalMetadata mappings market market'.rulesFingerprint) market
    (initialVerified market')

/-- The metadata of the verified fingerprint is that of the first mapping that has it. -/
theorem matchFingerprint_metadata {verified : Verified}
    (h : MetadataFrom lower strip
      (OwnMetadata canonicalMetadata mappings market verified.fingerprint) market verified) :
    (matchFingerprint lower strip (joinTables lower canonicalMetadata mappings)
        verified).fingerprint = verified.fingerprint ∧
      MetadataFrom lower strip
        (OwnMetadata canonicalMetadata mappings market verified.fingerprint) market
        (matchFingerprint lower strip (joinTables lower canonicalMetadata mappings) verified) := by
  unfold matchFingerprint
  split
  · exact ⟨rfl, h⟩
  · next canonical hcanonical =>
      obtain ⟨fingerprint, hfingerprint, hget⟩ := Option.bind_eq_some_iff.mp hcanonical
      have hverified : verified.fingerprint = some fingerprint :=
        (Option.filter_eq_some_iff.mp hfingerprint).1
      rw [metadataByFingerprint_get?] at hget
      obtain ⟨source, hfind, rfl⟩ := Option.map_eq_some_iff.mp hget
      exact ⟨rfl, h.fill ⟨source, List.mem_of_find?_eq_some hfind, rfl,
        .inr ⟨fingerprint, hverified, hfind⟩⟩⟩

/-- One market: with no collision of ids, what the loops over pairs found is the market's own. -/
theorem joinMarket_joined (hstart : market.verifiedRoutes = ∅)
    (hids : NoCollision mappings market) :
    Joined lower strip canonicalMetadata mappings market
      (joinMarket lower strip (joinTables lower canonicalMetadata mappings) market) := by
  set verified := matchPairs lower strip (joinTables lower canonicalMetadata mappings) market
    with hverified
  have hpairs : PairsSound lower strip canonicalMetadata mappings market verified :=
    pairsSound_matchPairs
  have hown : ∀ source ∈ mappings,
      (∃ pair ∈ orderedPairs (ownMarkets market), source.1.SharesIds pair) →
        OwnMapping market source.1 := by
    rintro source hsource ⟨pair, hpair, hshares⟩
    exact ⟨pair, hpair, hids source hsource pair hpair hshares⟩
  have hroutes : ∀ route ∈ verified.routes,
      ∃ source ∈ mappings, source.1.route lower = route ∧ OwnMapping market source.1 := by
    intro route hroute
    rcases hpairs.routes route hroute with hold | ⟨source, hsource, hname, hshares⟩
    · rw [hstart] at hold
      exact absurd hold (Finset.notMem_empty route)
    · exact ⟨source, hsource, hname, hown source hsource hshares⟩
  have hmetadata : MetadataFrom lower strip
      (OwnMetadata canonicalMetadata mappings market verified.fingerprint) market verified :=
    hpairs.metadata.mono fun canonical ⟨source, hsource, hshares, heq⟩ =>
      ⟨source, hsource, heq, .inl (hown source hsource hshares)⟩
  obtain ⟨hfingerprint, hfilled⟩ := matchFingerprint_metadata hmetadata
  -- The lookup by fingerprint leaves the routes as the loops left them.
  have hsame : (matchFingerprint lower strip (joinTables lower canonicalMetadata mappings)
      verified).routes = verified.routes := by
    unfold matchFingerprint
    split <;> rfl
  refine ⟨?_, ?_, ?_, ?_⟩
  · intro route hroute
    exact hroutes route (hsame ▸ hroute)
  · intro hstatus
    by_cases hempty : verified.routes = ∅
    · refine .inl ?_
      change (if _ = ∅ then market.mappingStatus else MappingStatus.verified) = _ at hstatus
      rw [hsame, if_pos hempty] at hstatus
      exact hstatus
    · obtain ⟨route, hroute⟩ := Finset.nonempty_iff_ne_empty.mpr hempty
      obtain ⟨source, hsource, _, hownsource⟩ := hroutes route hroute
      exact .inr ⟨source, hsource, hownsource⟩
  · show ValueFrom _ _ (matchFingerprint lower strip _ verified).fingerprint
    rw [hfingerprint]
    exact hpairs.fingerprint.mono fun _ ⟨source, hsource, heq, hshares⟩ =>
      ⟨source, hsource, heq, hown source hsource hshares⟩
  · show MetadataFrom lower strip (OwnMetadata canonicalMetadata mappings market
      (matchFingerprint lower strip _ verified).fingerprint) market _
    rw [hfingerprint]
    exact ⟨hfilled.source, hfilled.semantics, hfilled.category, hfilled.cutoff⟩

/-- **Join soundness.**  Where no mapping has the ids of two of a market's venues without being
about these venues, every market of the snapshot gets routes and a fingerprint of mappings of its
own markets only, and metadata of those or of the first mapping with its fingerprint. -/
theorem applyVerifiedMappingSnapshot_joined {markets : List MarketSpec}
    (hstart : ∀ market ∈ markets, market.verifiedRoutes = ∅)
    (hids : ∀ market ∈ markets, NoCollision mappings market) :
    List.Forall₂ (Joined lower strip canonicalMetadata mappings) markets
      (applyVerifiedMappingSnapshot lower strip canonicalMetadata markets mappings) := by
  refine List.forall₂_map_right_iff.mpr (List.forall₂_same.mpr ?_)
  intro market hmarket
  exact joinMarket_joined (hstart market hmarket) (hids market hmarket)

end Join

/-! ## Own and foreign mappings -/

/-- A market of two venues with the ids `firstId` and `secondId`. -/
def discovered (venueALabel firstId venueBLabel secondId : String)
    (rulesFingerprint : Option String) : MarketSpec where
  symbol := "BTC"
  targetLabel := "100k"
  polymarketTokenId := "1"
  polymarketSide := .yes
  predictFunTokenId := "2"
  predictFunSide := .no
  venueALabel := venueALabel
  venueBLabel := venueBLabel
  polymarketMarketId := some firstId
  predictFunMarketId := some secondId
  rulesFingerprint := rulesFingerprint

/-- The metadata of one canonical market. -/
def knownMetadata : Lib.Dict String CanonicalMetadata :=
  Lib.Dict.empty.set "btc" ⟨"chainlink", "binary", "crypto", 7⟩

/-- A Polymarket / Predict.fun market and its mapping. -/
theorem applyVerifiedMappingSnapshot_joined_own :
    (applyVerifiedMappingSnapshot String.toLower id knownMetadata
        [discovered "Polymarket" "12" "Predict.fun" "34" none]
        [(⟨"btc", "Predict.fun", "34", "Polymarket", "12", "fp"⟩, 0)]).map
          (fun market => (market.verifiedRoutes, market.resolutionSource)) =
      [({"polymarket_predict"}, some "chainlink")] ∧
    List.Forall₂ (Joined String.toLower id knownMetadata
        [(⟨"btc", "Predict.fun", "34", "Polymarket", "12", "fp"⟩, 0)])
      [discovered "Polymarket" "12" "Predict.fun" "34" none]
      (applyVerifiedMappingSnapshot String.toLower id knownMetadata
        [discovered "Polymarket" "12" "Predict.fun" "34" none]
        [(⟨"btc", "Predict.fun", "34", "Polymarket", "12", "fp"⟩, 0)]) :=
  ⟨by decide +kernel,
    applyVerifiedMappingSnapshot_joined (by decide +kernel) (by decide +kernel)⟩

/-- A mapping of SX Bet and Myriad verifies a Polymarket / Opinion market with the same two ids,
and a mapping with other ids fills the metadata of a market with its fingerprint. -/
theorem foreign_mapping_joins :
    ((applyVerifiedMappingSnapshot String.toLower id knownMetadata
        [discovered "Polymarket" "12" "Opinion" "34" none]
        [(⟨"btc", "SX Bet", "12", "Myriad", "34", "fp"⟩, 0)]).map
          (fun market => (market.verifiedRoutes, market.mappingStatus, market.rulesFingerprint)) =
        [({"sx_myriad"}, .verified, some "fp")] ∧
      ¬ OwnMapping (discovered "Polymarket" "12" "Opinion" "34" none)
        ⟨"btc", "SX Bet", "12", "Myriad", "34", "fp"⟩) ∧
    (applyVerifiedMappingSnapshot String.toLower id knownMetadata
        [discovered "Polymarket" "12" "Opinion" "34" (some "fp")]
        [(⟨"btc", "Polymarket", "55", "Opinion", "66", "fp"⟩, 0)]).map (·.resolutionSource) =
        [some "chainlink"] ∧
      ¬ OwnMapping (discovered "Polymarket" "12" "Opinion" "34" (some "fp"))
        ⟨"btc", "Polymarket", "55", "Opinion", "66", "fp"⟩ := by decide +kernel

end ArbitrageEngine.Mapping
