/-
# ArbitrageEngine.Discovery.SecondLegs -- who writes the generic second leg

Predict.fun, SX Bet and Opinion share the `predict_fun_*` fields of a market, and the resolvers of
SX Bet and Opinion run over the markets of all venues.  Each passes over the legs of its own label
alone.  A leg of another venue is replaced as soon as something matches: an id of the other venue
that happens to be one of its own, the sports event, or the title.

The id under `predict_fun_market_id` is one of the venue of the label, for the two are written
together.
-/
import ArbitrageEngine.Discovery.Enrichment

namespace ArbitrageEngine.Discovery

/-! ## Second legs -/

/-- Two markets have the same second leg. -/
structure SameSecondLeg (a b : Candidate) : Prop where
  venueBLabel : b.venueBLabel = a.venueBLabel
  predictFunTokenId : b.predictFunTokenId = a.predictFunTokenId
  predictFunSide : b.predictFunSide = a.predictFunSide
  predictFunMarketId : b.predictFunMarketId = a.predictFunMarketId

theorem SameSecondLeg.refl (a : Candidate) : SameSecondLeg a a := ⟨rfl, rfl, rfl, rfl⟩

theorem SameSecondLeg.trans {a b c : Candidate} (hab : SameSecondLeg a b)
    (hbc : SameSecondLeg b c) : SameSecondLeg a c :=
  ⟨hbc.venueBLabel.trans hab.venueBLabel, hbc.predictFunTokenId.trans hab.predictFunTokenId,
    hbc.predictFunSide.trans hab.predictFunSide,
    hbc.predictFunMarketId.trans hab.predictFunMarketId⟩

theorem SameSecondLeg.symm {a b : Candidate} (hab : SameSecondLeg a b) : SameSecondLeg b a :=
  ⟨hab.venueBLabel.symm, hab.predictFunTokenId.symm, hab.predictFunSide.symm,
    hab.predictFunMarketId.symm⟩

/-- The second leg holds an execution token of one of the venues that share it. -/
def Held (market : Candidate) : Prop :=
  market.predictFunTokenId ≠ "" ∧ market.venueBLabel ∈ ["Predict.fun", "SX Bet", "Opinion"]

theorem resolveGamma_sameSecondLeg {text : TextFunctions}
    {search : Candidate → Option (GammaPayload × String)} {market found : Candidate}
    (h : resolveGamma text search market = some found) : SameSecondLeg market found := by
  unfold resolveGamma at h
  split at h
  · obtain ⟨⟨candidate, strategy⟩, _, h⟩ := Option.bind_eq_some_iff.mp h
    obtain ⟨token, _, h⟩ := Option.bind_eq_some_iff.mp h
    cases h
    exact ⟨rfl, rfl, rfl, rfl⟩
  · cases h
    exact .refl market

/-- Myriad has fields of its own. -/
theorem Myriad.resolveMarket_sameSecondLeg (text : TextFunctions) (catalogue : List MarketText)
    (market : Candidate) : SameSecondLeg market (Myriad.resolveMarket text catalogue market) := by
  unfold Myriad.resolveMarket
  split
  · split
    · exact ⟨rfl, rfl, rfl, rfl⟩
    · exact .refl market
  · split
    · exact .refl market
    · split
      · exact ⟨rfl, rfl, rfl, rfl⟩
      · split
        · exact ⟨rfl, rfl, rfl, rfl⟩
        · exact .refl market

/-! ## What the resolvers find -/

namespace SxBet

variable (text : TextFunctions) (config : SxBetConfig) (catalogue : List MarketText)
  (market : Candidate)

/-- The entry whose id is the one under `predict_fun_market_id`. -/
def byId : Option MarketText :=
  catalogue.find? fun candidate => candidate.marketId = market.predictFunMarketId.getD ""

/-- The resolver passes the market over. -/
def Skips : Prop :=
  (market.venueBLabel = "SX Bet" ∧ market.predictFunTokenId ≠ "") ∨ market.expiresAt = none

/-- The resolver finds the market: under its id, or as the only match of its sports event, one of
whose labels is the target. -/
def Finds : Prop :=
  ¬ Skips market ∧
    ((byId catalogue market).isSome ∨
      ∃ found, structuredMatches text catalogue market = [found] ∧
        (hedgeSideForTarget text market.targetLabel found).isSome)

theorem resolveMarket_of_not_finds (h : ¬ Finds text catalogue market) :
    resolveMarket text config catalogue market = market := by
  unfold resolveMarket
  by_cases hown : market.venueBLabel = "SX Bet" ∧ market.predictFunTokenId ≠ ""
  · rw [if_pos hown]
  by_cases hexpiry : market.expiresAt = none
  · rw [if_neg hown, if_pos hexpiry]
  rw [if_neg hown, if_neg hexpiry]
  have hskips : ¬ Skips market := fun h => h.elim hown hexpiry
  have hnone : ¬ ((byId catalogue market).isSome ∨
      ∃ found, structuredMatches text catalogue market = [found] ∧
        (hedgeSideForTarget text market.targetLabel found).isSome) := fun hsome => h ⟨hskips, hsome⟩
  push Not at hnone
  obtain ⟨hid, hstructured⟩ := hnone
  have hid : byId catalogue market = none := by simpa using hid
  unfold byId at hid
  rw [hid]
  split
  · next hexact => cases hexact
  · split
    · next found hfound =>
      have hside := hstructured found hfound
      split
      · next hsome => simp [hsome] at hside
      · rfl
    · rfl

/-- What is found is written with the label of SX Bet. -/
theorem resolveMarket_of_finds (h : Finds text catalogue market) :
    (resolveMarket text config catalogue market).venueBLabel = "SX Bet" := by
  obtain ⟨hskips, hfinds⟩ := h
  have hown : ¬ (market.venueBLabel = "SX Bet" ∧ market.predictFunTokenId ≠ "") :=
    fun h => hskips (.inl h)
  have hexpiry : ¬ market.expiresAt = none := fun h => hskips (.inr h)
  unfold resolveMarket
  rw [if_neg hown, if_neg hexpiry]
  split
  · rfl
  · next hid =>
    rcases hfinds with hsome | ⟨found, hfound, hside⟩
    · unfold byId at hsome
      simp [hid] at hsome
    · obtain ⟨side, hside⟩ := Option.isSome_iff_exists.mp hside
      rw [hfound]
      simp only [hside]
      rfl

end SxBet

namespace Opinion

variable (text : TextFunctions) (catalogue : List MarketText) (market : Candidate)

/-- The resolver passes the market over. -/
def Skips : Prop :=
  (market.venueBLabel = "Opinion" ∧ market.predictFunTokenId ≠ "") ∨ market.expiresAt = none

/-- The entry the resolver takes, the side and the strategy: by the id, by the condition id the
entry declares, or by the title. -/
def selected : Option (MarketText × BinarySide × String) :=
  market.expiresAt.bind fun expiresAt =>
    match (byId catalogue market).or (byConditionId catalogue market) with
    | some exact => some (exact, market.polymarketSide.opposite, "exact_id")
    | none =>
        (semanticMatch text market (sourceTitle market) expiresAt catalogue).map
          fun (found, side) => (found, side, "semantic_title")

/-- The resolver takes an entry that has tokens. -/
def Finds : Prop :=
  ¬ Skips market ∧ ∃ found side strategy,
    selected text catalogue market = some (found, side, strategy) ∧ (tokenId found side).isSome

theorem resolveMarket_of_skips (h : Skips market) :
    resolveMarket text catalogue market = market := by
  unfold resolveMarket
  split
  · rfl
  · next hown =>
    have hexpiry : market.expiresAt = none := h.resolve_left hown
    rw [hexpiry]

theorem resolveMarket_of_selected (h : ¬ Skips market) :
    resolveMarket text catalogue market =
      (selected text catalogue market).elim market fun (found, side, strategy) =>
        applyOpinionMarket market found side strategy := by
  have hown : ¬ (market.venueBLabel = "Opinion" ∧ market.predictFunTokenId ≠ "") :=
    fun hown => h (.inl hown)
  unfold resolveMarket selected
  rw [if_neg hown]
  cases hexpiry : market.expiresAt with
  | none => exact absurd (.inr hexpiry) h
  | some expiresAt =>
    cases hexact : (byId catalogue market).or (byConditionId catalogue market) with
    | some exact => rfl
    | none =>
      rw [Option.bind_some]
      dsimp only
      cases semanticMatch text market (sourceTitle market) expiresAt catalogue with
      | none => rfl
      | some found => rfl

theorem applyOpinionMarket_of_tokenId {found : MarketText} {side : BinarySide} {token : String}
    (strategy : String) (h : tokenId found side = some token) :
    (applyOpinionMarket market found side strategy).venueBLabel = "Opinion" ∧
      (applyOpinionMarket market found side strategy).predictFunTokenId = token ∧
      (applyOpinionMarket market found side strategy).predictFunSide = side ∧
      (applyOpinionMarket market found side strategy).predictFunMarketId = some found.marketId ∧
      (applyOpinionMarket market found side strategy).mappingStrategy = some strategy := by
  unfold applyOpinionMarket
  rw [h]
  exact ⟨rfl, rfl, rfl, rfl, rfl⟩

theorem applyOpinionMarket_of_none {found : MarketText} {side : BinarySide} (strategy : String)
    (h : tokenId found side = none) : applyOpinionMarket market found side strategy = market := by
  unfold applyOpinionMarket
  rw [h]

theorem resolveMarket_of_not_finds (h : ¬ Finds text catalogue market) :
    resolveMarket text catalogue market = market := by
  by_cases hskips : Skips market
  · exact resolveMarket_of_skips text catalogue market hskips
  · rw [resolveMarket_of_selected text catalogue market hskips]
    cases hselected : selected text catalogue market with
    | none => rfl
    | some match' =>
      obtain ⟨found, side, strategy⟩ := match'
      have hnone : tokenId found side = none := by
        rw [← Option.not_isSome_iff_eq_none]
        exact fun hsome => h ⟨hskips, found, side, strategy, hselected, hsome⟩
      exact applyOpinionMarket_of_none market strategy hnone

/-- What is found is written with the label of Opinion. -/
theorem resolveMarket_of_finds (h : Finds text catalogue market) :
    (resolveMarket text catalogue market).venueBLabel = "Opinion" := by
  obtain ⟨hskips, found, side, strategy, hselected, hsome⟩ := h
  obtain ⟨token, htoken⟩ := Option.isSome_iff_exists.mp hsome
  rw [resolveMarket_of_selected text catalogue market hskips, hselected]
  exact (applyOpinionMarket_of_tokenId market strategy htoken).1

end Opinion

/-! ## A market on its way -/

namespace Cycle

variable (cycle : Cycle)

/-- As which market a market leaves the steps, if Gamma does not drop it. -/
def leaves (market : Candidate) : Option Candidate :=
  (cycle.gammaStep market).map fun found =>
    cycle.myriadStep (cycle.opinionStep (cycle.sxStep found))

/-- The markets that enter the steps of SX Bet and of Opinion. -/
def sxInput (markets : List Candidate) : List Candidate := markets.filterMap cycle.gammaStep

def opinionInput (markets : List Candidate) : List Candidate :=
  resolveCatalogue cycle.sxBet (SxBet.marketSpecsFromText cycle.text) cycle.sxStep
    (cycle.sxInput markets)

theorem sxStep_of_none (h : cycle.sxBet = none) (market : Candidate) :
    cycle.sxStep market = market := by
  unfold sxStep
  rw [h]
  rfl

theorem opinionStep_of_none (h : cycle.opinion = none) (market : Candidate) :
    cycle.opinionStep market = market := by
  unfold opinionStep
  rw [h]
  rfl

theorem myriadStep_of_none (h : cycle.myriad = none) (market : Candidate) :
    cycle.myriadStep market = market := by
  unfold myriadStep
  rw [h]
  rfl

/-- SX Bet and Opinion find the market, where their catalogue is there. -/
def SxFinds (market : Candidate) : Prop :=
  ∃ catalogue ∈ cycle.sxBet, SxBet.Finds cycle.text catalogue market

def OpinionFinds (market : Candidate) : Prop :=
  ∃ catalogue ∈ cycle.opinion, Opinion.Finds cycle.text catalogue market

theorem sxStep_of_not_finds {market : Candidate} (h : ¬ cycle.SxFinds market) :
    cycle.sxStep market = market := by
  cases hcatalogue : cycle.sxBet with
  | none => exact cycle.sxStep_of_none hcatalogue market
  | some catalogue =>
    unfold sxStep
    rw [hcatalogue]
    exact SxBet.resolveMarket_of_not_finds _ _ _ _ fun hfinds => h ⟨catalogue, hcatalogue, hfinds⟩

theorem sxStep_of_finds {market : Candidate} (h : cycle.SxFinds market) :
    (cycle.sxStep market).venueBLabel = "SX Bet" := by
  obtain ⟨catalogue, hcatalogue, hfinds⟩ := h
  unfold sxStep
  rw [hcatalogue]
  exact SxBet.resolveMarket_of_finds _ _ _ _ hfinds

theorem opinionStep_of_not_finds {market : Candidate} (h : ¬ cycle.OpinionFinds market) :
    cycle.opinionStep market = market := by
  cases hcatalogue : cycle.opinion with
  | none => exact cycle.opinionStep_of_none hcatalogue market
  | some catalogue =>
    unfold opinionStep
    rw [hcatalogue]
    exact Opinion.resolveMarket_of_not_finds _ _ _ fun hfinds => h ⟨catalogue, hcatalogue, hfinds⟩

theorem opinionStep_of_finds {market : Candidate} (h : cycle.OpinionFinds market) :
    (cycle.opinionStep market).venueBLabel = "Opinion" := by
  obtain ⟨catalogue, hcatalogue, hfinds⟩ := h
  unfold opinionStep
  rw [hcatalogue]
  exact Opinion.resolveMarket_of_finds _ _ _ hfinds

theorem myriadStep_sameSecondLeg (market : Candidate) :
    SameSecondLeg market (cycle.myriadStep market) := by
  cases hcatalogue : cycle.myriad with
  | none => rw [cycle.myriadStep_of_none hcatalogue]; exact .refl market
  | some catalogue =>
    unfold myriadStep
    rw [hcatalogue]
    exact Myriad.resolveMarket_sameSecondLeg _ _ _

/-! ## Kept legs and exact ids -/

/-- A market that enters with a held second leg, and leaves, leaves with that leg. -/
def KeepsSecondLegs (markets : List Candidate) : Prop :=
  ∀ market ∈ markets, Held market → ∀ out ∈ cycle.leaves market, SameSecondLeg market out

/-- The step rewrites the market and reports an exact id. -/
def ReportsExact (step : Candidate → Candidate) (market : Candidate) : Prop :=
  step market ≠ market ∧ (step market).mappingStrategy = some "exact_id"

/-- An exact id was compared with an id of the same venue, or with the condition id the entry
declares. -/
structure OwnIds (markets : List Candidate) : Prop where
  sxBet : ∀ market ∈ cycle.sxInput markets, ReportsExact cycle.sxStep market →
    market.venueBLabel = "SX Bet"
  opinion : ∀ market ∈ cycle.opinionInput markets, ReportsExact cycle.opinionStep market →
    market.venueBLabel = "Opinion" ∨ ∃ catalogue ∈ cycle.opinion,
      Opinion.byId catalogue market = none ∧ (Opinion.byConditionId catalogue market).isSome

/-- Opinion finds the leg of a market again. -/
def FindsAgain (leg market : Candidate) : Prop :=
  ∃ catalogue ∈ cycle.opinion, ∃ found side strategy,
    Opinion.selected cycle.text catalogue market = some (found, side, strategy) ∧
      Opinion.tokenId found side = some leg.predictFunTokenId ∧ leg.predictFunSide = side ∧
      leg.predictFunMarketId = some found.marketId

/-- Neither SX Bet nor Opinion finds the market in its own catalogue; what SX Bet makes of a leg of
Opinion may be undone by Opinion. -/
def Undisturbed (market : Candidate) : Prop :=
  if market.venueBLabel = "Opinion" then
    cycle.SxFinds market → cycle.FindsAgain market (cycle.sxStep market)
  else ¬ cycle.SxFinds market ∧ ¬ cycle.OpinionFinds market

/-- No entry of SX Bet or Opinion has the id of a market of another venue, where the resolver looks
for it; entries of Opinion without tokens do not count. -/
structure IdsApart (markets : List Candidate) : Prop where
  sxBet : ∀ market ∈ cycle.sxInput markets, market.venueBLabel ≠ "SX Bet" →
    market.expiresAt ≠ none → ∀ catalogue ∈ cycle.sxBet, SxBet.byId catalogue market = none
  opinion : ∀ market ∈ cycle.opinionInput markets, market.venueBLabel ≠ "Opinion" →
    market.expiresAt ≠ none → ∀ catalogue ∈ cycle.opinion,
      ∀ entry ∈ Opinion.byId catalogue market,
        Opinion.tokenId entry market.polymarketSide.opposite = none

theorem sxFinds_not_own {market : Candidate} (h : cycle.SxFinds market)
    (hheld : market.predictFunTokenId ≠ "") : market.venueBLabel ≠ "SX Bet" := by
  obtain ⟨_, _, hskips, _⟩ := h
  exact fun hlabel => hskips (.inl ⟨hlabel, hheld⟩)

theorem sxStep_expiresAt (market : Candidate) :
    (cycle.sxStep market).expiresAt = market.expiresAt := by
  unfold sxStep
  cases cycle.sxBet with
  | none => rfl
  | some catalogue =>
    show (SxBet.resolveMarket _ _ _ _).expiresAt = _
    unfold SxBet.resolveMarket
    split_ifs
    · rfl
    · rfl
    · split
      · rfl
      · split
        · split <;> rfl
        · rfl

/-- SX Bet writes the leg of an Opinion market, and Opinion writes it back just when it finds it
again. -/
theorem sameSecondLeg_findsAgain {market : Candidate} (hlabel : market.venueBLabel = "Opinion")
    (hfinds : cycle.SxFinds market) :
    SameSecondLeg market (cycle.opinionStep (cycle.sxStep market)) ↔
      cycle.FindsAgain market (cycle.sxStep market) := by
  have hsx := cycle.sxStep_of_finds hfinds
  have hskips : ¬ Opinion.Skips (cycle.sxStep market) := by
    obtain ⟨_, _, hnot, _⟩ := hfinds
    rintro (⟨hopinion, _⟩ | hexpiry)
    · exact absurd (hsx.symm.trans hopinion) (by decide)
    · rw [sxStep_expiresAt] at hexpiry
      exact hnot (.inr hexpiry)
  constructor
  · intro hsame
    by_cases hopinion : cycle.OpinionFinds (cycle.sxStep market)
    · obtain ⟨catalogue, hcatalogue, _, found, side, strategy, hselected, hsome⟩ := hopinion
      obtain ⟨token, htoken⟩ := Option.isSome_iff_exists.mp hsome
      have hstep : cycle.opinionStep (cycle.sxStep market) =
          Opinion.applyOpinionMarket (cycle.sxStep market) found side strategy := by
        unfold opinionStep
        rw [hcatalogue, Option.elim_some, Opinion.resolveMarket_of_selected _ _ _ hskips,
          hselected, Option.elim_some]
      obtain ⟨_, htoken', hside, hid, _⟩ :=
        Opinion.applyOpinionMarket_of_tokenId (cycle.sxStep market) strategy htoken
      rw [hstep] at hsame
      refine ⟨catalogue, hcatalogue, found, side, strategy, hselected, ?_, ?_, ?_⟩
      · rw [htoken, ← htoken', hsame.predictFunTokenId]
      · rw [← hside, hsame.predictFunSide]
      · rw [← hid, hsame.predictFunMarketId]
    · rw [cycle.opinionStep_of_not_finds hopinion] at hsame
      have hboth := hsame.venueBLabel.symm.trans hsx
      exact absurd (hlabel.symm.trans hboth) (by decide)
  · rintro ⟨catalogue, hcatalogue, found, side, strategy, hselected, htoken, hside, hid⟩
    have hstep : cycle.opinionStep (cycle.sxStep market) =
        Opinion.applyOpinionMarket (cycle.sxStep market) found side strategy := by
      unfold opinionStep
      rw [hcatalogue, Option.elim_some, Opinion.resolveMarket_of_selected _ _ _ hskips,
        hselected, Option.elim_some]
    obtain ⟨hvenue, htoken', hside', hid', _⟩ :=
      Opinion.applyOpinionMarket_of_tokenId (cycle.sxStep market) strategy htoken
    rw [hstep]
    exact ⟨hvenue.trans hlabel.symm, htoken', hside'.trans hside.symm, hid'.trans hid.symm⟩

/-- The two steps keep a held leg just when nothing disturbs it. -/
theorem sameSecondLeg_iff {market : Candidate} (hheld : Held market) :
    SameSecondLeg market (cycle.opinionStep (cycle.sxStep market)) ↔ cycle.Undisturbed market := by
  unfold Undisturbed
  by_cases hlabel : market.venueBLabel = "Opinion"
  · rw [if_pos hlabel]
    by_cases hfinds : cycle.SxFinds market
    · rw [cycle.sameSecondLeg_findsAgain hlabel hfinds]
      exact ⟨fun h _ => h, fun h => h hfinds⟩
    · have hpassed : ¬ cycle.OpinionFinds market := by
        rintro ⟨_, _, hskips, _⟩
        exact hskips (.inl ⟨hlabel, hheld.1⟩)
      rw [cycle.sxStep_of_not_finds hfinds, cycle.opinionStep_of_not_finds hpassed]
      exact iff_of_true (.refl market) fun h => absurd h hfinds
  · rw [if_neg hlabel]
    by_cases hfinds : cycle.SxFinds market
    · refine iff_of_false (fun hsame => ?_) fun h => h.1 hfinds
      have hforeign := cycle.sxFinds_not_own hfinds hheld.1
      by_cases hopinion : cycle.OpinionFinds (cycle.sxStep market)
      · exact hlabel (hsame.venueBLabel.symm.trans (cycle.opinionStep_of_finds hopinion))
      · rw [cycle.opinionStep_of_not_finds hopinion] at hsame
        exact hforeign (hsame.venueBLabel.symm.trans (cycle.sxStep_of_finds hfinds))
    · rw [cycle.sxStep_of_not_finds hfinds]
      by_cases hopinion : cycle.OpinionFinds market
      · refine iff_of_false (fun hsame => ?_) fun h => h.2 hopinion
        exact hlabel (hsame.venueBLabel.symm.trans (cycle.opinionStep_of_finds hopinion))
      · rw [cycle.opinionStep_of_not_finds hopinion]
        exact iff_of_true (.refl market) ⟨hfinds, hopinion⟩

theorem keepsSecondLegs_iff (markets : List Candidate) :
    cycle.KeepsSecondLegs markets ↔
      ∀ market ∈ markets, Held market → ∀ found ∈ cycle.gammaStep market,
        cycle.Undisturbed found := by
  refine forall₂_congr fun market _ => forall_congr' fun hheld => ?_
  unfold leaves
  cases hfound : cycle.gammaStep market with
  | none => simp
  | some found =>
    have hgamma : SameSecondLeg market found := resolveGamma_sameSecondLeg hfound
    have hheld' : Held found := by
      unfold Held
      rw [hgamma.predictFunTokenId, hgamma.venueBLabel]
      exact hheld
    have hmyriad := cycle.myriadStep_sameSecondLeg (cycle.opinionStep (cycle.sxStep found))
    simp only [Option.map_some, Option.mem_some_iff, forall_eq']
    rw [← cycle.sameSecondLeg_iff hheld']
    exact ⟨fun h => hgamma.symm.trans (h.trans hmyriad.symm),
      fun h => hgamma.trans (h.trans hmyriad)⟩

/-- SX Bet reports an exact id of another venue's market just when it has the id. -/
theorem sxReportsExact_iff {market : Candidate} (hlabel : market.venueBLabel ≠ "SX Bet") :
    ReportsExact cycle.sxStep market ↔
      market.expiresAt ≠ none ∧ ∃ catalogue ∈ cycle.sxBet,
        (SxBet.byId catalogue market).isSome := by
  have hown : ¬ (market.venueBLabel = "SX Bet" ∧ market.predictFunTokenId ≠ "") :=
    fun h => hlabel h.1
  unfold ReportsExact sxStep
  cases hcatalogue : cycle.sxBet with
  | none => simp
  | some catalogue =>
    simp only [Option.elim_some, Option.mem_some_iff, exists_eq_left']
    unfold SxBet.resolveMarket
    rw [if_neg hown]
    by_cases hexpiry : market.expiresAt = none
    · rw [if_pos hexpiry]
      exact iff_of_false (fun h => h.1 rfl) fun h => h.1 hexpiry
    rw [if_neg hexpiry]
    cases hid : SxBet.byId catalogue market with
    | some exactMarket =>
      unfold SxBet.byId at hid
      rw [hid]
      refine iff_of_true ⟨fun hsame => ?_, rfl⟩ ⟨hexpiry, rfl⟩
      exact hlabel (congrArg (fun other : Candidate => other.venueBLabel) hsame).symm
    | none =>
      unfold SxBet.byId at hid
      rw [hid]
      refine iff_of_false ?_ (by simp)
      rintro ⟨hne, hexact⟩
      revert hne hexact
      dsimp only
      split
      · split
        · intro _ hexact
          exact absurd hexact (by simp [SxBet.applyStructuredMatch])
        · exact fun hne _ => hne rfl
      · exact fun hne _ => hne rfl

/-- Opinion reports an exact id of another venue's market just when it has an entry with tokens
under the id or the condition id. -/
theorem opinionReportsExact_iff {market : Candidate} (hlabel : market.venueBLabel ≠ "Opinion") :
    ReportsExact cycle.opinionStep market ↔
      market.expiresAt ≠ none ∧ ∃ catalogue ∈ cycle.opinion,
        ∃ entry ∈ (Opinion.byId catalogue market).or (Opinion.byConditionId catalogue market),
          (Opinion.tokenId entry market.polymarketSide.opposite).isSome := by
  unfold ReportsExact opinionStep
  cases hcatalogue : cycle.opinion with
  | none => simp
  | some catalogue =>
    simp only [Option.elim_some, Option.mem_some_iff, exists_eq_left']
    by_cases hexpiry : market.expiresAt = none
    · rw [Opinion.resolveMarket_of_skips _ _ _ (.inr hexpiry)]
      exact iff_of_false (fun h => h.1 rfl) fun h => h.1 hexpiry
    have hskips : ¬ Opinion.Skips market := fun h => h.elim (fun h => hlabel h.1) hexpiry
    rw [Opinion.resolveMarket_of_selected _ _ _ hskips]
    obtain ⟨expiresAt, hsome⟩ := Option.ne_none_iff_exists'.mp hexpiry
    unfold Opinion.selected
    rw [hsome, Option.bind_some]
    cases hexact : (Opinion.byId catalogue market).or (Opinion.byConditionId catalogue market) with
    | some entry =>
      simp only [Option.elim_some, Option.mem_some_iff, exists_eq_left']
      cases htoken : Opinion.tokenId entry market.polymarketSide.opposite with
      | none =>
        rw [Opinion.applyOpinionMarket_of_none market "exact_id" htoken]
        exact iff_of_false (fun h => h.1 rfl) (by simp)
      | some token =>
        obtain ⟨hvenue, _, _, _, hstrategy⟩ :=
          Opinion.applyOpinionMarket_of_tokenId market "exact_id" htoken
        refine iff_of_true ⟨fun hsame => ?_, hstrategy⟩ ⟨by simp, rfl⟩
        rw [hsame] at hvenue
        exact hlabel hvenue
    | none =>
      refine iff_of_false ?_ (by simp)
      dsimp only
      cases semanticMatch cycle.text market (Opinion.sourceTitle market) expiresAt catalogue with
      | none => exact fun h => h.1 rfl
      | some match' =>
        obtain ⟨found, side⟩ := match'
        simp only [Option.map_some, Option.elim_some]
        cases htoken : Opinion.tokenId found side with
        | none =>
          rw [Opinion.applyOpinionMarket_of_none market "semantic_title" htoken]
          exact fun h => h.1 rfl
        | some token =>
          obtain ⟨_, _, _, _, hstrategy⟩ :=
            Opinion.applyOpinionMarket_of_tokenId market "semantic_title" htoken
          rw [hstrategy]
          exact fun h => absurd h.2 (by decide)

theorem ownIds_iff (markets : List Candidate) :
    cycle.OwnIds markets ↔ cycle.IdsApart markets := by
  constructor
  · rintro ⟨hsx, hopinion⟩
    refine ⟨?_, ?_⟩
    · intro market hmarket hlabel hexpiry catalogue hcatalogue
      rw [← Option.not_isSome_iff_eq_none]
      intro hsome
      exact hlabel (hsx market hmarket
        ((cycle.sxReportsExact_iff hlabel).mpr ⟨hexpiry, catalogue, hcatalogue, hsome⟩))
    · intro market hmarket hlabel hexpiry catalogue hcatalogue entry hentry
      rw [← Option.not_isSome_iff_eq_none]
      intro htoken
      have hreports := (cycle.opinionReportsExact_iff hlabel).mpr
        ⟨hexpiry, catalogue, hcatalogue, entry, by rw [hentry]; rfl, htoken⟩
      obtain hown | ⟨other, hother, hnone, _⟩ := hopinion market hmarket hreports
      · exact hlabel hown
      · cases hcatalogue.symm.trans hother
        exact absurd (hentry.symm.trans hnone) (by simp)
  · rintro ⟨hsx, hopinion⟩
    refine ⟨?_, ?_⟩
    · intro market hmarket hreports
      by_contra hlabel
      obtain ⟨hexpiry, catalogue, hcatalogue, hsome⟩ :=
        (cycle.sxReportsExact_iff hlabel).mp hreports
      rw [hsx market hmarket hlabel hexpiry catalogue hcatalogue] at hsome
      exact absurd hsome (by simp)
    · intro market hmarket hreports
      by_contra hnot
      push Not at hnot
      obtain ⟨hlabel, hforeign⟩ := hnot
      obtain ⟨hexpiry, catalogue, hcatalogue, entry, hentry, htoken⟩ :=
        (cycle.opinionReportsExact_iff hlabel).mp hreports
      cases hid : Opinion.byId catalogue market with
      | some own =>
        rw [hid] at hentry
        cases hentry
        rw [hopinion market hmarket hlabel hexpiry catalogue hcatalogue _ hid] at htoken
        exact absurd htoken (by simp)
      | none =>
        rw [hid] at hentry
        have hentry : Opinion.byConditionId catalogue market = some entry := hentry
        exact absurd (by rw [hentry]; rfl) (hforeign catalogue hcatalogue hid)

/-- **Second legs across venues.**  Held second legs leave the enrichment as they entered, and exact
ids are ids of the venue that reports them, just when no held leg is disturbed and the ids of the
venues do not meet. -/
theorem second_legs_kept_iff (markets : List Candidate) :
    cycle.KeepsSecondLegs markets ∧ cycle.OwnIds markets ↔
      (∀ market ∈ markets, Held market → ∀ found ∈ cycle.gammaStep market,
        cycle.Undisturbed found) ∧ cycle.IdsApart markets :=
  and_congr (cycle.keepsSecondLegs_iff markets) (cycle.ownIds_iff markets)

end Cycle

/-! ## A coincidence of ids -/

namespace SecondLegExamples

/-- A market of Predict.fun whose Polymarket leg is known. -/
def predictMarket : Candidate where
  symbol := "Will it rain?"
  targetLabel := "Will it rain?"
  polymarketTokenId := "rain-yes"
  polymarketSide := .yes
  predictFunTokenId := "rain-no"
  predictFunSide := .no
  expiresAt := some 1000
  predictFunMarketId := some "42"

/-- Another question, to which Opinion has given the same number. -/
def opinionMarket : MarketText where
  marketId := "42"
  title := "Will the team win?"
  expiresAt := 9000
  collateralToken := some "win-yes|win-no"

/-- A cycle in which nothing is alike but the ids. -/
def cycle : Cycle where
  text :=
    { normalize := id, similarity := fun a b => if a = b then 1 else 0, upper := id, category := id
      sportsIdentity := fun _ _ _ _ => none, propositionTitle := MarketText.title }
  sxConfig := { isV3 := true, takerFeeBps := 0 }
  search := fun _ => none
  sxBet := some []
  opinion := some [opinionMarket]
  myriad := none

theorem predict_leg_taken_by_opinion :
    ¬ ∀ (cycle : Cycle) (markets : List Candidate),
      cycle.KeepsSecondLegs markets ∧ cycle.OwnIds markets := by
  intro h
  have hsame := (h cycle [predictMarket]).1 predictMarket (by simp) ⟨by decide, by decide⟩
    ((cycle.leaves predictMarket).get (by decide +kernel)) (by simp)
  exact absurd hsame.venueBLabel (by decide +kernel)

end SecondLegExamples

end ArbitrageEngine.Discovery
