/-
# ArbitrageEngine.Discovery.SportsSoundness -- is it the same bet?

What the search returns for a market of SX Bet, compared by the two sports events.  The comparison
of events finds only candidates of the same bet.  The exact title is taken before it, and equal normal
titles do not mean equal bets: the normal form has neither signs nor decimal points, and the labels
are not looked at (`sports_match_sound_iff`).

The comparison of events loses the candidates whose title lacks a longer word of a participant, and
every candidate where no participant has such a word (`indexed_scan_iff`).
-/
import ArbitrageEngine.Discovery.SnapshotLoops
import ArbitrageEngine.Discovery.SnapshotSearch

namespace ArbitrageEngine.Gamma

open Lib
open Discovery (SportsMarketIdentity)

variable {texts : GammaTexts}

/-! ## The same bet -/

/-- Two events agree in kind, participants, subject, signed line and period. -/
structure SameBet (i j : SportsMarketIdentity) : Prop where
  kind : i.kind = j.kind
  participants : i.participants = j.participants
  subject : i.subject = j.subject
  line : i.line = j.line
  period : i.period = j.period

theorem sameBet_of_structuredSportsMatch {i j : SportsMarketIdentity} {leftCutoff rightCutoff}
    (h : Sports.structuredSportsMatch (some i) (some j) leftCutoff rightCutoff = true) :
    SameBet i j := by
  cases rightCutoff with
  | none => simp [Sports.structuredSportsMatch] at h
  | some cutoff =>
      simp only [Sports.structuredSportsMatch, Discovery.SxBet.structuredSportsMatch,
        decide_eq_true_eq] at h
      obtain ⟨hkind, hparticipants, hsubject, hline, hperiod, -⟩ := h
      exact ⟨hkind, hparticipants, hsubject, hline, hperiod⟩

variable (texts)

/-- The events of a market and a candidate are the same bet, where both are known. -/
def AgreeWith (market : Market) (p : Payload) : Prop :=
  ∀ i j, sourceIdentity texts market = some i → candidateIdentity texts market p = some j →
    SameBet i j

/-- What is found by the title or by the event is the same bet. -/
def SportsSound (sports : Market → Bool) (semantic : Snapshot → Market → Option Payload)
    (snapshot : Snapshot) (market : Market) : Prop :=
  ∀ p strategy, bestCandidate texts sports semantic snapshot market = (some p, strategy) →
    strategy = .exactTitle ∨ strategy = .structuredSports → AgreeWith texts market p

/-- The market is not looked up by an id, and this is the only candidate with its normal title in
the expiry window. -/
def Namesake (sports : Market → Bool) (snapshot : Snapshot) (market : Market) (p : Payload) :
    Prop :=
  candidateById snapshot market = none ∧
    (snapshot.markets.filter fun q =>
      texts.normalize (matchingTitle market) = q.normalTitle texts ∧
        expiryMatches texts market q (expiryWindowSeconds sports market)) = [p]

variable {texts}

/-- What the comparison of events finds passed it. -/
theorem structuredMatch_of_best {snapshot : Snapshot} {market : Market} {p : Payload}
    (h : bestStructuredSportsCandidate texts snapshot market = some p) :
    ∃ source, sourceIdentity texts market = some source ∧
      structuredMatch texts market source p = true := by
  unfold bestStructuredSportsCandidate at h
  cases hsource : sourceIdentity texts market with
  | none => simp [hsource] at h
  | some source =>
      simp only [hsource, onlyCandidate] at h
      split at h
      · exact ⟨source, rfl, (List.mem_filter.mp (List.mem_of_getLast? h)).2⟩
      · cases h

/-- **The comparison of events is sound.** -/
theorem agreeWith_of_structuredMatch {market : Market} {source : SportsMarketIdentity} {p : Payload}
    (hsource : sourceIdentity texts market = some source)
    (h : structuredMatch texts market source p = true) : AgreeWith texts market p := by
  intro i j hi hj
  rw [hsource] at hi
  cases hi
  have hmatch := (Bool.and_eq_true _ _).mp h
  rw [hj] at hmatch
  exact sameBet_of_structuredSportsMatch hmatch.2

theorem exactCandidates_eq (sports : Market → Bool) (now : Time) (payloads : List Payload)
    (market : Market) :
    exactCandidates texts sports (buildSnapshot texts now payloads) market =
      (buildSnapshot texts now payloads).markets.filter fun q =>
        texts.normalize (matchingTitle market) = q.normalTitle texts ∧
          expiryMatches texts market q (expiryWindowSeconds sports market) := by
  unfold exactCandidates
  rw [listAt_byTitle, List.filter_filter]
  apply List.filter_congr
  intro q _
  rw [Bool.and_comm, Bool.decide_and, Bool.decide_eq_true]

/-- The title is what a namesake is found by. -/
theorem bestCandidate_of_namesake {sports : Market → Bool}
    {semantic : Snapshot → Market → Option Payload} {now : Time} {payloads : List Payload}
    {market : Market} {p : Payload}
    (h : Namesake texts sports (buildSnapshot texts now payloads) market p) :
    bestCandidate texts sports semantic (buildSnapshot texts now payloads) market =
      (some p, .exactTitle) := by
  obtain ⟨hid, hexact⟩ := h
  unfold bestCandidate
  rw [hid, exactCandidates_eq, hexact]

/-- What is found by the title or by the event was not found by an id. -/
theorem candidateById_of_bestCandidate {sports : Market → Bool}
    {semantic : Snapshot → Market → Option Payload} {snapshot : Snapshot} {market : Market}
    {p : Payload} {strategy : Strategy}
    (h : bestCandidate texts sports semantic snapshot market = (some p, strategy))
    (hstrategy : strategy ≠ .exactId) : candidateById snapshot market = none := by
  unfold bestCandidate at h
  cases hid : candidateById snapshot market with
  | none => rfl
  | some candidate =>
      simp only [hid] at h
      split at h
      · exact absurd (Prod.mk.inj h).2.symm hstrategy
      · exact absurd (Prod.mk.inj h).1 (by simp)

/-- What is found by the title is a namesake. -/
theorem namesake_of_exactTitle {sports : Market → Bool}
    {semantic : Snapshot → Market → Option Payload} {now : Time} {payloads : List Payload}
    {market : Market} {p : Payload}
    (h : bestCandidate texts sports semantic (buildSnapshot texts now payloads) market =
      (some p, .exactTitle)) :
    Namesake texts sports (buildSnapshot texts now payloads) market p := by
  have hid := candidateById_of_bestCandidate h (by simp)
  refine ⟨hid, ?_⟩
  rw [← exactCandidates_eq]
  unfold bestCandidate at h
  simp only [hid] at h
  split at h
  · next candidate hexact =>
      rw [hexact, Option.some.inj (Prod.mk.inj h).1]
  · split at h
    · exact absurd (foundBy_eq_iff.mp h).2 (by simp)
    · split at h
      · exact absurd (Prod.mk.inj h).1 (by simp)
      · exact absurd (foundBy_eq_iff.mp h).2 (by simp)

/-- What is found by the event passed the comparison. -/
theorem structured_of_bestCandidate {sports : Market → Bool}
    {semantic : Snapshot → Market → Option Payload} {snapshot : Snapshot} {market : Market}
    {p : Payload}
    (h : bestCandidate texts sports semantic snapshot market = (some p, .structuredSports)) :
    bestStructuredSportsCandidate texts snapshot market = some p := by
  have hid := candidateById_of_bestCandidate h (by simp)
  unfold bestCandidate at h
  simp only [hid] at h
  split at h
  · exact absurd (Prod.mk.inj h).2 (by simp)
  · split at h
    · exact (foundBy_eq_iff.mp h).1
    · split at h
      · exact absurd (Prod.mk.inj h).1 (by simp)
      · exact absurd (foundBy_eq_iff.mp h).2 (by simp)

/-- **Sports matches, exactly**: what the search returns for a market is the same bet, unless the
market has a namesake in the catalogue that is another one. -/
theorem sports_match_sound_iff (texts : GammaTexts) (sports : Market → Bool)
    (semantic : Snapshot → Market → Option Payload) (now : Time) (payloads : List Payload)
    (market : Market) :
    SportsSound texts sports semantic (buildSnapshot texts now payloads) market ↔
      ∀ p, Namesake texts sports (buildSnapshot texts now payloads) market p →
        AgreeWith texts market p := by
  constructor
  · intro h p hnamesake
    exact h p .exactTitle (bestCandidate_of_namesake hnamesake) (.inl rfl)
  · intro h p strategy hfound hstrategy
    rcases hstrategy with rfl | rfl
    · exact h p (namesake_of_exactTitle hfound)
    · obtain ⟨source, hsource, hmatch⟩ :=
        structuredMatch_of_best (structured_of_bestCandidate hfound)
      exact agreeWith_of_structuredMatch hsource hmatch

namespace SportsSoundnessExamples

/-- A market of SX Bet, bought on its label. -/
def sxMarket (symbol targetLabel : String) : Market where
  symbol := symbol
  targetLabel := targetLabel
  polymarketTokenId := ""
  polymarketSide := .yes
  predictFunTokenId := "0x1:NO"
  predictFunSide := .no
  venueBLabel := "SX Bet"
  expiresAt := some 1893456000000000

/-- A candidate of Polymarket. -/
def candidate (question : String) (outcomes : List String) : Payload where
  fields := .ofFields [("id", .text "1"), ("conditionId", .text "0xc"),
    ("question", .text question), ("endDate", .text "2030-01-01T00:00:00Z"),
    ("active", .bool true), ("closed", .bool false), ("acceptingOrders", .bool true),
    ("enableOrderBook", .bool true), ("clobTokenIds", .array [.text "7", .text "8"]),
    ("outcomes", .array (outcomes.map Json.text))]
  dumped := question

def underdog : Market := sxMarket "Will Lakers cover -3.5 vs Celtics?" "Lakers"

def favourite : Payload := candidate "Will Lakers cover +3.5 vs Celtics?" ["Yes", "No"]

/-- The other handicap has the same normal title, and is taken for the market. -/
theorem opposite_line_matched :
    ¬ SportsSound .plain (fun _ => true) (fun _ _ => none)
      (buildSnapshot .plain 0 [favourite]) underdog := by
  intro hsound
  have hfound : (bestCandidate .plain (fun _ => true) (fun _ _ => none)
      (buildSnapshot .plain 0 [favourite]) underdog).1.isSome = true ∧
      (bestCandidate .plain (fun _ => true) (fun _ _ => none)
        (buildSnapshot .plain 0 [favourite]) underdog).2 = .exactTitle := by
    decide +kernel
  obtain ⟨hsome, hstrategy⟩ := hfound
  obtain ⟨p, hp⟩ := Option.isSome_iff_exists.mp hsome
  have hbest : bestCandidate .plain (fun _ => true) (fun _ _ => none)
      (buildSnapshot .plain 0 [favourite]) underdog = (some p, .exactTitle) :=
    Prod.ext hp hstrategy
  have hmem : p ∈ (buildSnapshot .plain 0 [favourite]).markets := by
    have hnamesake := (namesake_of_exactTitle hbest).2
    exact List.mem_of_mem_filter (hnamesake ▸ List.mem_singleton_self p)
  have hpeq : p = favourite :=
    List.mem_singleton.mp (List.mem_of_mem_filter (valid_of_mem_markets hmem))
  have hlines : (sourceIdentity .plain underdog).map (·.line) = some (some (-7 / 2)) ∧
      (candidateIdentity .plain underdog favourite).map (·.line) = some (some (7 / 2)) := by
    decide +kernel
  obtain ⟨i, hi, hline⟩ := Option.map_eq_some_iff.mp hlines.1
  obtain ⟨j, hj, hline'⟩ := Option.map_eq_some_iff.mp hlines.2
  have hagree := (hsound p .exactTitle hbest (.inl rfl) i j hi (hpeq ▸ hj)).line
  rw [hline, hline'] at hagree
  norm_num at hagree

end SportsSoundnessExamples

/-! ## The indexed scan -/

/-- The candidates of a list that pass the tests. -/
def scan (texts : GammaTexts) (market : Market) (source : SportsMarketIdentity)
    (candidates : List Payload) : List Payload :=
  candidates.filter (structuredMatch texts market source)

/-- The pool of a market's event. -/
def poolOf (texts : GammaTexts) (snapshot : Snapshot) (source : SportsMarketIdentity) :
    List Payload :=
  structuredSportsCandidatePool texts snapshot (participantTerms texts source.participants)

theorem bestStructuredSportsCandidate_eq {snapshot : Snapshot} {market : Market}
    {source : SportsMarketIdentity} (hsource : sourceIdentity texts market = some source) :
    bestStructuredSportsCandidate texts snapshot market =
      onlyCandidate texts (scan texts market source (poolOf texts snapshot source)) := by
  simp [bestStructuredSportsCandidate, hsource, scan, poolOf]

theorem mem_poolOf_iff {now : Time} {payloads : List Payload} {source : SportsMarketIdentity}
    {p : Payload} :
    p ∈ poolOf texts (buildSnapshot texts now payloads) source ↔
      p ∈ (buildSnapshot texts now payloads).markets ∧
        participantTerms texts source.participants ≠ [] ∧
          participantTerms texts source.participants ⊆ p.titleTerms texts := by
  unfold poolOf
  by_cases hterms : participantTerms texts source.participants = []
  · simp [structuredSportsCandidatePool, hterms]
  · rw [pool_eq now payloads hterms]
    simp [hterms]

/-- The indexed scan is the full one, as a list, where it loses nothing. -/
theorem scan_poolOf_eq {now : Time} {payloads : List Payload} {market : Market}
    {source : SportsMarketIdentity}
    (h : ∀ p ∈ scan texts market source (buildSnapshot texts now payloads).markets,
      participantTerms texts source.participants ≠ [] ∧
        participantTerms texts source.participants ⊆ p.titleTerms texts) :
    scan texts market source (poolOf texts (buildSnapshot texts now payloads) source) =
      scan texts market source (buildSnapshot texts now payloads).markets := by
  by_cases hterms : participantTerms texts source.participants = []
  · -- Without a longer word the pool is empty; then no candidate passes.
    have hnone : scan texts market source (buildSnapshot texts now payloads).markets = [] := by
      apply List.eq_nil_iff_forall_not_mem.mpr
      intro p hp
      exact (h p hp).1 hterms
    rw [hnone]
    simp [scan, poolOf, structuredSportsCandidatePool, hterms]
  · unfold scan poolOf
    rw [pool_eq now payloads hterms, List.filter_filter]
    apply List.filter_congr
    intro p hp
    by_cases hmatch : structuredMatch texts market source p = true
    · have hsubset := (h p (List.mem_filter.mpr ⟨hp, hmatch⟩)).2
      simp [hmatch, hsubset]
    · simp [hmatch]

/-- **The index, exactly**: the candidates that pass the tests are the same in the pool and in the
whole catalogue, and so is the unique match, if and only if every candidate that passes has all
longer words of the participants in its title, and there is such a word. -/
theorem indexed_scan_iff (texts : GammaTexts) (now : Time) (payloads : List Payload)
    (market : Market) (source : SportsMarketIdentity)
    (hsource : sourceIdentity texts market = some source) :
    ((∀ p, p ∈ scan texts market source (poolOf texts (buildSnapshot texts now payloads) source) ↔
        p ∈ scan texts market source (buildSnapshot texts now payloads).markets) ∧
      bestStructuredSportsCandidate texts (buildSnapshot texts now payloads) market =
        onlyCandidate texts (scan texts market source (buildSnapshot texts now payloads).markets)) ↔
      ∀ p ∈ scan texts market source (buildSnapshot texts now payloads).markets,
        participantTerms texts source.participants ≠ [] ∧
          participantTerms texts source.participants ⊆ p.titleTerms texts := by
  constructor
  · rintro ⟨hsame, -⟩ p hp
    have hpool := List.mem_of_mem_filter ((hsame p).mpr hp)
    exact (mem_poolOf_iff.mp hpool).2
  · intro h
    have heq := scan_poolOf_eq h
    refine ⟨fun p => by rw [heq], ?_⟩
    rw [bestStructuredSportsCandidate_eq hsource, heq]

namespace SportsSoundnessExamples

def shortNames : Market := sxMarket "Will T1 beat OG?" "T1"

def shortTitle : Payload := candidate "T1 vs OG" ["T1", "OG"]

/-- Names of two letters: the candidate passes the tests and is not in the pool. -/
theorem short_names_lost :
    ∃ source, sourceIdentity .plain shortNames = some source ∧
      ¬ ((∀ p, p ∈ scan .plain shortNames source
            (poolOf .plain (buildSnapshot .plain 0 [shortTitle]) source) ↔
          p ∈ scan .plain shortNames source (buildSnapshot .plain 0 [shortTitle]).markets) ∧
        bestStructuredSportsCandidate .plain (buildSnapshot .plain 0 [shortTitle]) shortNames =
          onlyCandidate .plain
            (scan .plain shortNames source (buildSnapshot .plain 0 [shortTitle]).markets)) := by
  have hcounts : ((sourceIdentity .plain shortNames).map fun source =>
      ((scan .plain shortNames source (buildSnapshot .plain 0 [shortTitle]).markets).length,
        (scan .plain shortNames source
          (poolOf .plain (buildSnapshot .plain 0 [shortTitle]) source)).length)) =
        some (1, 0) := by
    decide +kernel
  obtain ⟨source, hsource, hlengths⟩ := Option.map_eq_some_iff.mp hcounts
  obtain ⟨hfull, hpool⟩ := Prod.mk.inj hlengths
  refine ⟨source, hsource, ?_⟩
  rintro ⟨hsame, -⟩
  obtain ⟨p, hp⟩ := List.exists_mem_of_length_pos (hfull ▸ Nat.one_pos)
  have hmem := (hsame p).mpr hp
  rw [List.length_eq_zero_iff.mp hpool] at hmem
  cases hmem

def longNames : Market := sxMarket "Will Lakers beat Celtics?" "Lakers"

def longTitle : Payload := candidate "Lakers vs Celtics" ["Lakers", "Celtics"]

/-- The event of the market with longer names. -/
def lakersBeatCeltics : SportsMarketIdentity where
  kind := "moneyline"
  participants := ["celtics", "lakers"]
  subject := "lakers"
  line := none
  period := none
  competition := none

/-- Longer names: the candidate is found through the index. -/
theorem long_names_found :
    bestStructuredSportsCandidate .plain (buildSnapshot .plain 0 [longTitle]) longNames =
      onlyCandidate .plain
        (scan .plain longNames lakersBeatCeltics (buildSnapshot .plain 0 [longTitle]).markets) := by
  have hsource : sourceIdentity .plain longNames = some lakersBeatCeltics := by decide +kernel
  have hterms : participantTerms .plain lakersBeatCeltics.participants ≠ [] ∧
      participantTerms .plain lakersBeatCeltics.participants ⊆ longTitle.titleTerms .plain := by
    decide +kernel
  refine ((indexed_scan_iff .plain 0 [longTitle] longNames lakersBeatCeltics hsource).mpr ?_).2
  intro p hp
  have hmem := List.mem_of_mem_filter (valid_of_mem_markets (List.mem_of_mem_filter hp))
  rw [List.mem_singleton.mp hmem]
  exact hterms

end SportsSoundnessExamples

end ArbitrageEngine.Gamma
