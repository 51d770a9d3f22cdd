/-
# ArbitrageEngine.Discovery.Deduplication -- one market for each identity

A cycle of discovery passes the markets of all catalogues through the resolvers and merges those that
are the same market: the ones with the same Polymarket token or, where that is missing, with the same
titles, the same id and the same expiry.  Each of them may know a part of the others' legs only.  Two
that name different second legs, or different Myriad markets, make the identity ambiguous, and it is
dropped.
-/
import ArbitrageEngine.Discovery.CrossVenueMarkets
import ArbitrageEngine.Discovery.Enrichment
import ArbitrageEngine.Lib.KeyedMerge

namespace ArbitrageEngine.Discovery

open Engine Lib

/-! ## Markets -/

/-- A market with everything that discovery writes. -/
structure CataloguedMarket extends FlaggedMarket where
  polymarketUrl : Option String := none
  tickSize : Option String := none
  predictFunPricePrecision : Option ℤ := none
  predictFunUrl : Option String := none
  myriadConditionId : Option String := none
  myriadUrl : Option String := none
  polymarketVolumeUsd : Option Dec := none
  predictFunVolumeUsd : Option Dec := none
  myriadVolumeUsd : Option Dec := none
deriving DecidableEq

/-- The maximum of the values that are there. -/
def maxVolume (values : List (Option Dec)) : Option Dec := values.reduceOption.max?

section Keys

variable (texts : MatchTexts)

/-- `unresolved_identity`. -/
def unresolvedIdentity (market : CataloguedMarket) : String :=
  ((truthy market.predictFunMarketId).or ((truthy (some market.predictFunTokenId)).or
    ((truthy market.myriadMarketId).or (truthy market.conditionId)))).getD ""

/-- `key`. -/
def identityKey (market : CataloguedMarket) : String :=
  let expiry := (market.expiresAt.map texts.isoformat).getD ""
  if market.polymarketTokenId ≠ "" then market.polymarketTokenId
  else
    let label := if market.targetLabel ≠ "" then market.targetLabel else market.symbol
    texts.normalizeText market.symbol ++ ":" ++ texts.normalizeText label ++ ":" ++
      unresolvedIdentity market ++ ":" ++ expiry

end Keys

/-! ## Merging -/

/-- `predict_conflict`. -/
def PredictConflict (existing market : CataloguedMarket) : Prop :=
  existing.predictFunTokenId ≠ "" ∧ market.predictFunTokenId ≠ "" ∧
    (existing.predictFunTokenId ≠ market.predictFunTokenId ∨
      existing.venueBLabel ≠ market.venueBLabel)

/-- `myriad_conflict`. -/
def MyriadConflict (existing market : CataloguedMarket) : Prop :=
  truthy existing.myriadMarketId ≠ none ∧ truthy market.myriadMarketId ≠ none ∧
    existing.myriadMarketId ≠ market.myriadMarketId

/-- Two markets without a conflict. -/
def NoConflict (existing market : CataloguedMarket) : Prop :=
  ¬ (PredictConflict existing market ∨ MyriadConflict existing market)

instance : DecidableRel PredictConflict := fun existing market => by
  unfold PredictConflict; infer_instance

instance : DecidableRel MyriadConflict := fun existing market => by
  unfold MyriadConflict; infer_instance

instance : DecidableRel NoConflict := fun existing market => by
  unfold NoConflict; infer_instance

/-- The `replace` of a market that was found with what another one adds to it. -/
def mergeMarkets (existing market : CataloguedMarket) : CataloguedMarket :=
  { existing with
    predictFunTokenId :=
      if existing.predictFunTokenId ≠ "" then existing.predictFunTokenId
      else market.predictFunTokenId
    predictFunSide :=
      if existing.predictFunTokenId ≠ "" then existing.predictFunSide else market.predictFunSide
    venueBLabel :=
      if existing.predictFunTokenId ≠ "" then existing.venueBLabel else market.venueBLabel
    predictFunMarketId := orText existing.predictFunMarketId market.predictFunMarketId
    predictFunUrl := orText existing.predictFunUrl market.predictFunUrl
    predictFunNegRisk := existing.predictFunNegRisk.or market.predictFunNegRisk
    predictFunFeeRateBps := existing.predictFunFeeRateBps.or market.predictFunFeeRateBps
    predictFunPricePrecision :=
      existing.predictFunPricePrecision.or market.predictFunPricePrecision
    myriadMarketId := orText existing.myriadMarketId market.myriadMarketId
    myriadConditionId := orText existing.myriadConditionId market.myriadConditionId
    myriadCollateralToken := orText existing.myriadCollateralToken market.myriadCollateralToken
    myriadUrl := orText existing.myriadUrl market.myriadUrl
    myriadSide :=
      if truthy existing.myriadMarketId ≠ none then existing.myriadSide else market.myriadSide
    polymarketUrl := orText existing.polymarketUrl market.polymarketUrl
    polymarketVolumeUsd := maxVolume [existing.polymarketVolumeUsd, market.polymarketVolumeUsd]
    predictFunVolumeUsd := maxVolume [existing.predictFunVolumeUsd, market.predictFunVolumeUsd]
    myriadVolumeUsd := maxVolume [existing.myriadVolumeUsd, market.myriadVolumeUsd] }

/-- `merged` and `ambiguous` after the loop of `_deduplicate_markets`. -/
def mergedMarkets (texts : MatchTexts) (markets : List CataloguedMarket) :
    KeyedMerge String CataloguedMarket :=
  KeyedMerge.collect (identityKey texts) NoConflict mergeMarkets markets

/-- The entries that `_deduplicate_markets` returns the values of. -/
def keptMarkets (texts : MatchTexts) (markets : List CataloguedMarket) :
    List (String × CataloguedMarket) :=
  KeyedMerge.kept (identityKey texts) NoConflict mergeMarkets markets

/-- `_deduplicate_markets`. -/
def deduplicateMarkets (texts : MatchTexts) (markets : List CataloguedMarket) :
    List CataloguedMarket :=
  (keptMarkets texts markets).map Prod.snd

/-! ## Agreement -/

/-- Two markets name the same second leg and the same Myriad market, where both name one. -/
structure SameLegs (a b : CataloguedMarket) : Prop where
  predictFun : a.predictFunTokenId ≠ "" → b.predictFunTokenId ≠ "" →
    a.predictFunTokenId = b.predictFunTokenId ∧ a.venueBLabel = b.venueBLabel
  myriad : ∀ marketId, truthy a.myriadMarketId = some marketId →
    ∀ other, truthy b.myriadMarketId = some other → marketId = other

theorem noConflict_iff {a b : CataloguedMarket} : NoConflict a b ↔ SameLegs a b := by
  constructor
  · intro h
    constructor
    · intro ha hb
      by_contra hne
      exact h (Or.inl ⟨ha, hb, by tauto⟩)
    · intro marketId ha other hb
      by_contra hne
      refine h (Or.inr ⟨by simp [ha], by simp [hb], fun heq => hne ?_⟩)
      rw [heq, hb] at ha
      exact (Option.some.inj ha).symm
  · rintro h (⟨ha, hb, hne⟩ | ⟨ha, hb, hne⟩)
    · obtain ⟨htoken, hlabel⟩ := h.predictFun ha hb
      exact hne.elim (fun ht => ht htoken) (fun hl => hl hlabel)
    · obtain ⟨marketId, hma⟩ := Option.ne_none_iff_exists'.mp ha
      obtain ⟨other, hmb⟩ := Option.ne_none_iff_exists'.mp hb
      have hsame : marketId = other := h.myriad marketId hma other hmb
      -- a market id that counts is the one that is there
      have hraw : ∀ {value : Option String} {id : String}, truthy value = some id →
          value = some id := fun hid => (Option.filter_eq_some_iff.mp hid).1
      exact hne ((hraw hma).trans (hsame ▸ (hraw hmb).symm))

theorem SameLegs.symm {a b : CataloguedMarket} (h : SameLegs a b) : SameLegs b a where
  predictFun := by
    intro hb ha
    obtain ⟨htoken, hlabel⟩ := h.predictFun ha hb
    exact ⟨htoken.symm, hlabel.symm⟩
  myriad := by
    intro marketId hb other ha
    exact (h.myriad other ha marketId hb).symm

theorem truthy_orText (a b : Option String) : truthy (orText a b) = (truthy a).or (truthy b) := by
  unfold orText
  cases ha : truthy a with
  | none => rfl
  | some value =>
      have hne : value ≠ "" := by simpa using (Option.filter_eq_some_iff.mp ha).2
      simp [truthy, hne]

/-- What is merged from two markets that agree has the legs of both. -/
theorem sameLegs_mergeMarkets {a b c : CataloguedMarket} (h : SameLegs a b) :
    SameLegs (mergeMarkets a b) c ↔ SameLegs a c ∧ SameLegs b c := by
  constructor
  · intro hmerged
    refine ⟨⟨?_, ?_⟩, ⟨?_, ?_⟩⟩
    · intro ha hc
      have hpredict := hmerged.predictFun
      simp only [mergeMarkets, if_pos ha] at hpredict
      exact hpredict ha hc
    · intro marketId ha other hc
      refine hmerged.myriad marketId ?_ other hc
      simp only [mergeMarkets, truthy_orText, ha, Option.some_or]
    · intro hb hc
      have hpredict := hmerged.predictFun
      by_cases ha : a.predictFunTokenId = ""
      · simp only [mergeMarkets, ha, ne_eq, not_true_eq_false, if_false] at hpredict
        exact hpredict hb hc
      · simp only [mergeMarkets, if_pos ha] at hpredict
        obtain ⟨htoken, hlabel⟩ := h.predictFun ha hb
        obtain ⟨htokenC, hlabelC⟩ := hpredict ha hc
        exact ⟨htoken.symm.trans htokenC, hlabel.symm.trans hlabelC⟩
    · intro marketId hb other hc
      cases ha : truthy a.myriadMarketId with
      | none =>
          refine hmerged.myriad marketId ?_ other hc
          simp only [mergeMarkets, truthy_orText, ha, hb, Option.none_or]
      | some first =>
          have hsame : first = other := by
            refine hmerged.myriad first ?_ other hc
            simp only [mergeMarkets, truthy_orText, ha, Option.some_or]
          exact (h.myriad first ha marketId hb).symm.trans hsame
  · rintro ⟨hac, hbc⟩
    constructor
    · by_cases ha : a.predictFunTokenId = ""
      · simp only [mergeMarkets, ha, ne_eq, not_true_eq_false, if_false]
        exact hbc.predictFun
      · simp only [mergeMarkets, if_pos ha]
        exact hac.predictFun
    · intro marketId hmerged other hc
      simp only [mergeMarkets, truthy_orText] at hmerged
      rcases Option.or_eq_some_iff.mp hmerged with ha | ⟨-, hb⟩
      · exact hac.myriad marketId ha other hc
      · exact hbc.myriad marketId hb other hc

/-- Markets are merged as the library asks for. -/
theorem merges_markets : KeyedMerge.Merges NoConflict mergeMarkets where
  symm h := noConflict_iff.mpr (noConflict_iff.mp h).symm
  merge_iff h := by
    rw [noConflict_iff, noConflict_iff, noConflict_iff]
    exact sameLegs_mergeMarkets (noConflict_iff.mp h)

/-! ## The keys of merged markets -/

variable {texts : MatchTexts}

/-! ## The order of the markets -/

/-- All markets of a list agree where they name a Predict.fun token or a Myriad market. -/
def AllAgree (markets : List CataloguedMarket) : Prop :=
  markets.Pairwise SameLegs

theorem allAgree_of_pairwise {markets : List CataloguedMarket}
    (h : markets.Pairwise NoConflict) : AllAgree markets :=
  h.imp fun hpair => noConflict_iff.mp hpair

/-- A market that Gamma found, with a second leg or without. -/
def anchoredMarket (predictFunTokenId : String) : CataloguedMarket where
  symbol := "Fed cuts in March"
  targetLabel := "YES"
  polymarketTokenId := "71"
  polymarketSide := .yes
  predictFunTokenId := predictFunTokenId
  predictFunSide := .no

end ArbitrageEngine.Discovery
