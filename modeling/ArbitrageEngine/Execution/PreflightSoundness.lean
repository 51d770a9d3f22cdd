/-
# ArbitrageEngine.Execution.PreflightSoundness -- a prepared entry pays what the guard computed

Both orders of a prepared entry may fill at any price from the lowest executable ask up to their
signed limit.  Whatever the prices, the legs spend and are charged no more than the worst case of
the guard, and deliver no less than the payout it assumed; so the profit and the spread that were
asked for hold of every complete fill.  The guard computes in the decimal context, whose roundings
cost at most one part in `10 ^ 25` of the delivered contracts.
-/
import ArbitrageEngine.Execution.PricedPreview

namespace ArbitrageEngine.Execution

open Lib.Relative

/-! ## Complete fills -/

/-- What was signed: contracts up to a limit price, or a stake at limit odds. -/
inductive SignedOrder
  | contracts (amount limit : Dec)
  | stake (amount odds : Dec)

/-- The limit price of an order. -/
def SignedOrder.limit : SignedOrder → Dec
  | .contracts _ limit => limit
  | .stake _ odds => odds

/-- The contracts of a complete fill at a price. -/
def SignedOrder.delivered : SignedOrder → Dec → Dec
  | .contracts amount _, _ => amount
  | .stake amount _, price => amount / price

/-- What a complete fill at a price costs. -/
def SignedOrder.spend : SignedOrder → Dec → Dec
  | .contracts amount _, price => amount * price
  | .stake amount _, _ => amount

/-- The order a preview was signed for. -/
def PricedLeg.signedOrder (leg : PricedLeg) (preview : PricedPreview) : SignedOrder :=
  match leg.signedStake preview.preview.requestedContracts preview.preview.limitPrice with
  | some (stake, odds) => .stake stake odds
  | none => .contracts preview.preview.requestedContracts preview.preview.limitPrice

/-- A level that a buy up to `maxPrice` can take. -/
def OrderBookLevel.Executable (maxPrice : Dec) (level : OrderBookLevel) : Prop :=
  0 < level.price ∧ 0 < level.size ∧ level.price ≤ maxPrice

instance (maxPrice : Dec) (level : OrderBookLevel) : Decidable (level.Executable maxPrice) :=
  inferInstanceAs (Decidable (_ ∧ _ ∧ _))

/-- A price the signed order may fill at: not below the lowest executable ask, not above the signed
limit. -/
def PricedLeg.MayFillAt (leg : PricedLeg) (preview : PricedPreview) (price : Dec) : Prop :=
  (∃ level ∈ leg.previewBook.asks,
    level.Executable preview.preview.limitPrice ∧ level.price ≤ price) ∧
      price ≤ (leg.signedOrder preview).limit

/-- What a complete fill of a leg delivers, spends and is charged. -/
structure FilledLeg where
  delivered : Dec
  spend : Dec
  fee : Dec
deriving DecidableEq

/-- A complete fill at a price, with the fee that the verified quote of the preview charges. -/
def PricedLeg.fillAt (power : DecimalPower) (leg : PricedLeg) (preview : PricedPreview)
    (price : Dec) : Option FilledLeg := do
  let order := leg.signedOrder preview
  let quote ← preview.feeQuote
  let fee ← (quote.feeForFill power (order.delivered price) price).toOption
  some { delivered := order.delivered price, spend := order.spend price, fee := fee }

/-- Asks in ascending order, as every connector stores them. -/
def OrderBook.Ascending (book : OrderBook) : Prop :=
  book.asks.Pairwise fun level next => level.price ≤ next.price

instance (book : OrderBook) : Decidable book.Ascending :=
  inferInstanceAs (Decidable (book.asks.Pairwise _))

/-- What a filled entry owes its guard, up to a relative error: the profit, the spread and the cost
up to that part of the delivered contracts, each spend up to that part of the target. -/
structure Honoured (policy : EntryPolicy) (target allInCost error : Dec) (first second : FilledLeg) :
    Prop where
  profit :
    max policy.minExpectedProfitUsd (2 * (first.fee + second.fee)) ≤
      min first.delivered second.delivered - (first.spend + second.spend) -
          (first.fee + second.fee) - policy.reservedCostUsd +
        error * (first.delivered + second.delivered)
  spread :
    policy.dynamicThreshold * min first.delivered second.delivered ≤
      min first.delivered second.delivered - (first.spend + second.spend) -
          (first.fee + second.fee) - policy.reservedCostUsd +
        error * (first.delivered + second.delivered)
  cost :
    first.spend + second.spend + (first.fee + second.fee) + policy.reservedCostUsd ≤
      allInCost + error * (first.delivered + second.delivered)
  firstSpend : first.spend ≤ target + error * target
  secondSpend : second.spend ≤ target + error * target

/-! ## What a preview computes -/

theorem PreviewFill.take_bestAsk (maxPrice : Dec) (fill : PreviewFill) (level : OrderBookLevel) :
    (fill.take maxPrice level).bestAsk =
      if level.Executable maxPrice then fill.bestAsk.or (some level.price) else fill.bestAsk := by
  by_cases h : level.Executable maxPrice
  · obtain ⟨hprice, hsize, hmax⟩ := h
    rw [if_pos ⟨hprice, hsize, hmax⟩, PreviewFill.take,
      if_neg (by rw [not_or, not_or]; exact ⟨hprice.not_ge, hsize.not_ge, hmax.not_gt⟩)]
    simp only
    split <;> rfl
  · rw [if_neg h, PreviewFill.take, if_pos]
    by_contra hnot
    rw [not_or, not_or, not_le, not_le, not_lt] at hnot
    exact h hnot

theorem foldl_take_bestAsk (maxPrice : Dec) (levels : List OrderBookLevel) (fill : PreviewFill) :
    (levels.foldl (PreviewFill.take maxPrice) fill).bestAsk =
      fill.bestAsk.or ((levels.find? fun level => level.Executable maxPrice).map (·.price)) := by
  induction levels generalizing fill with
  | nil => simp
  | cons level rest ih =>
    rw [List.foldl_cons, ih, PreviewFill.take_bestAsk]
    by_cases h : level.Executable maxPrice
    · rw [if_pos h, List.find?_cons_of_pos (by simpa using h)]
      cases fill.bestAsk <;> rfl
    · rw [if_neg h, List.find?_cons_of_neg (by simpa using h)]

/-- In an ascending book the first executable ask is the lowest. -/
theorem OrderBook.Ascending.find_le {book : OrderBook} (h : book.Ascending) {maxPrice : Dec}
    {level : OrderBookLevel} (hmem : level ∈ book.asks) (hexec : level.Executable maxPrice) :
    ∃ best, book.asks.find? (fun level => level.Executable maxPrice) = some best ∧
      best.Executable maxPrice ∧ best.price ≤ level.price := by
  obtain ⟨best, hbest⟩ : ∃ best, book.asks.find? (fun level => level.Executable maxPrice) = some best := by
    rw [← Option.isSome_iff_exists, List.find?_isSome]
    exact ⟨level, hmem, by simpa using hexec⟩
  refine ⟨best, hbest, by simpa using List.find?_some hbest, ?_⟩
  -- every level before the first executable one is not executable
  obtain ⟨-, before, after, hsplit, hbefore⟩ := List.find?_eq_some_iff_append.mp hbest
  rw [OrderBook.Ascending, hsplit, List.pairwise_append] at h
  rw [hsplit, List.mem_append, List.mem_cons] at hmem
  rcases hmem with hmem | rfl | hmem
  · have hnot := hbefore level hmem
    simp [hexec] at hnot
  · exact le_rfl
  · exact (List.pairwise_cons.mp h.2.1).1 level hmem

/-- Without price impact the average price is not above the first executable ask. -/
theorem average_le_of_no_impact (quote : LegQuote) (contracts maxPrice : Dec)
    {best : OrderBookLevel} (hexec : best.Executable maxPrice)
    (hbest : quote.book.asks.find? (fun level => level.Executable maxPrice) = some best)
    (h : (previewBuyFromBook quote contracts maxPrice).priceImpactPct = 0) :
    (previewBuyFromBook quote contracts maxPrice).averagePrice ≤ best.price := by
  have hask : (quote.book.asks.foldl (PreviewFill.take maxPrice)
      { remaining := max 0 contracts }).bestAsk = some best.price := by
    rw [foldl_take_bestAsk, hbest]
    rfl
  have himpact : (previewBuyFromBook quote contracts maxPrice).priceImpactPct =
      max 0 (Dec.div (Dec.sub (previewBuyFromBook quote contracts maxPrice).averagePrice best.price)
        best.price) := by
    simp only [previewBuyFromBook, hask, if_pos hexec.1]
  rw [h] at himpact
  by_contra hnot
  set average := (previewBuyFromBook quote contracts maxPrice).averagePrice
  have hpos : 0 < Dec.sub average best.price := Dec.ctx_pos (by linarith)
  have hpos : 0 < Dec.div (Dec.sub average best.price) best.price :=
    Dec.ctx_pos (div_pos hpos hexec.1)
  rw [max_eq_right hpos.le] at himpact
  exact hpos.ne himpact

/-- What an unblocked preview says about its order. -/
theorem contracts_pos_of_unblocked {quote : LegQuote} {contracts maxPrice : Dec}
    (h : (previewBuyFromBook quote contracts maxPrice).blockers = []) :
    (previewBuyFromBook quote contracts maxPrice).requestedContracts = contracts ∧ 0 < contracts := by
  have hpos : 0 < contracts := by
    by_contra hnot
    simp [previewBuyFromBook, previewBlockers, not_lt.mp hnot] at h
  exact ⟨max_eq_right hpos.le, hpos⟩

/-- Signing a stake changes only what the order guarantees and may cost. -/
theorem signedPreview_eq {quote : LegQuote} {preview signed : OrderPreview}
    (h : signedPreview quote preview = some signed) :
    signed = { preview with
      guaranteedContracts := signed.guaranteedContracts
      maximumNotionalUsd := signed.maximumNotionalUsd } := by
  rw [signedPreview] at h
  split at h
  · split at h
    · cases h
    · cases h
      rfl
  · cases h
    rfl

variable {power : DecimalPower}

/-- What `preview_buy` returns, in terms of the preview of the book. -/
theorem previewBuy_cases {leg : PricedLeg} {contracts maxPrice : Dec} {preview : PricedPreview}
    (h : leg.previewBuy power contracts maxPrice = some preview) :
    ∃ limit, ∃ base, base = previewBuyFromBook (leg.previewed contracts limit) contracts limit ∧
      preview.feeQuote = leg.feeQuote ∧
      signedPreview (leg.previewed contracts limit) base = some preview.preview ∧
      (match base.payloadFingerprint, leg.signedStake contracts limit with
        | some _, some (stake, _) =>
            (maximumFee power leg.feeQuote leg.previewBook limit stake).map some
        | _, _ => some none) = some preview.maximumFeeUsd := by
  simp only [PricedLeg.previewBuy, Option.bind_eq_bind] at h
  obtain ⟨expected, -, h⟩ := Option.bind_eq_some_iff.mp h
  obtain ⟨signed, hsigned, h⟩ := Option.bind_eq_some_iff.mp h
  refine ⟨leg.normalizeLimit maxPrice, _, rfl, ?_⟩
  cases hpayload : (previewBuyFromBook (leg.previewed contracts (leg.normalizeLimit maxPrice))
      contracts (leg.normalizeLimit maxPrice)).payloadFingerprint with
  | none =>
    simp only [hpayload] at h ⊢
    obtain rfl := Option.some.inj h
    exact ⟨rfl, hsigned, rfl⟩
  | some payload =>
    cases hstake : leg.signedStake contracts (leg.normalizeLimit maxPrice) with
    | none =>
      simp only [hpayload, hstake] at h ⊢
      obtain rfl := Option.some.inj h
      exact ⟨rfl, hsigned, rfl⟩
    | some signedStake =>
      simp only [hpayload, hstake] at h ⊢
      obtain ⟨maximum, hmaximum, heq⟩ := Option.bind_eq_some_iff.mp h
      obtain rfl := Option.some.inj heq
      exact ⟨rfl, hsigned, hmaximum⟩

/-! ## One leg -/

/-- What the worst case of a leg promises about a complete fill of it. -/
structure LegBound (filled : FilledLeg) (guaranteed capital worstFee : Dec) : Prop where
  delivered_pos : 0 < filled.delivered
  spend_nonneg : 0 ≤ filled.spend
  fee_nonneg : 0 ≤ filled.fee
  capital_nonneg : 0 ≤ capital
  worstFee_nonneg : 0 ≤ worstFee
  guaranteed_le : guaranteed ≤ Dec.slack ^ 1 * filled.delivered
  spend_le : filled.spend ≤ Dec.slack ^ 1 * capital
  fee_le : filled.fee ≤ Dec.slack ^ 10 * worstFee + filled.delivered / 10 ^ 26

/-- The previews of a leg: what was signed is what was previewed. -/
theorem preview_of_executable {leg : PricedLeg} {contracts maxPrice : Dec} {preview : PricedPreview}
    (hpreview : leg.previewBuy power contracts maxPrice = some preview)
    (hexecutable : preview.preview.executable = true) :
    ∃ contracts limit fingerprint base,
      base = previewBuyFromBook (leg.previewed contracts limit) contracts limit ∧ 0 < contracts ∧
      base.payloadFingerprint = some fingerprint ∧
      preview.preview.requestedContracts = contracts ∧ preview.preview.limitPrice = limit ∧
      preview.preview.averagePrice = base.averagePrice ∧
      preview.preview.priceImpactPct = base.priceImpactPct ∧ preview.feeQuote = leg.feeQuote ∧
      signedPreview (leg.previewed contracts limit) base = some preview.preview ∧
      (match leg.signedStake contracts limit with
        | some (stake, _) =>
            (maximumFee power leg.feeQuote leg.previewBook limit stake).map some
        | none => some none) = some preview.maximumFeeUsd := by
  obtain ⟨limit, base, hbase, hquote, hsigned, hmaximum⟩ := previewBuy_cases hpreview
  have hsame := signedPreview_eq hsigned
  simp only [OrderPreview.executable, Bool.decide_and, Bool.and_eq_true, decide_eq_true_eq]
    at hexecutable
  obtain ⟨hblockers, hpayload, -⟩ := hexecutable
  rw [hsame] at hblockers hpayload
  obtain ⟨hrequested, hpos⟩ := contracts_pos_of_unblocked (hbase ▸ hblockers :
    (previewBuyFromBook (leg.previewed contracts limit) contracts limit).blockers = [])
  obtain ⟨fingerprint, hfingerprint⟩ : ∃ fingerprint, base.payloadFingerprint = some fingerprint :=
    Option.ne_none_iff_exists'.mp hpayload
  refine ⟨contracts, limit, fingerprint, base, hbase, hpos, hfingerprint, ?_, ?_, ?_, ?_, hquote,
    hsigned, ?_⟩
  · rw [hsame, hbase]
    exact hrequested
  · rw [hsame, hbase]
    rfl
  · rw [hsame]
  · rw [hsame]
  · cases hstake : leg.signedStake contracts limit with
    | none =>
      simp only [hfingerprint, hstake] at hmaximum
      exact hmaximum
    | some signed =>
      obtain ⟨stake, odds⟩ := signed
      simp only [hfingerprint, hstake] at hmaximum
      exact hmaximum

/-- A leg that is signed for contracts. -/
theorem contracts_legBound {leg : PricedLeg} {contracts maxPrice worstFee price : Dec}
    {preview : PricedPreview} (hbook : leg.previewBook.Ascending)
    (hpreview : leg.previewBuy power contracts maxPrice = some preview)
    (hexecutable : preview.preview.executable = true) (himpact : preview.preview.priceImpactPct = 0)
    (hworst : preview.worstFee power = some worstFee)
    (hstake : leg.signedStake preview.preview.requestedContracts preview.preview.limitPrice = none)
    (hprice : leg.MayFillAt preview price) :
    ∃ filled, leg.fillAt power preview price = some filled ∧
      LegBound filled preview.guaranteed (worstCapital preview.preview) worstFee := by
  obtain ⟨contracts, limit, fingerprint, base, hbase, hpos, hpayload, hrequested, hlimit, haverage,
    himpact', hquote, hsigned, hmaximum⟩ := preview_of_executable hpreview hexecutable
  rw [hrequested, hlimit] at hstake
  have hsame : preview.preview = base := by
    have hnone : (leg.previewed contracts limit).signedStake = none := hstake
    rw [signedPreview, hpayload, hnone] at hsigned
    cases hsigned
    rfl
  simp only [hstake] at hmaximum
  have hmaximum : preview.maximumFeeUsd = none := (Option.some.inj hmaximum).symm
  have horder : leg.signedOrder preview = .contracts contracts limit := by
    rw [PricedLeg.signedOrder, hrequested, hlimit, hstake]
  -- the lowest executable ask is the first one, and the average is not above it
  obtain ⟨⟨level, hmem, hexec, hlevel⟩, hprice_le⟩ := hprice
  rw [hlimit] at hexec
  rw [horder] at hprice_le
  obtain ⟨best, hbest, hbest_exec, hbest_le⟩ := hbook.find_le hmem hexec
  have hbelow : base.averagePrice ≤ price := by
    rw [hbase]
    refine (average_le_of_no_impact (leg.previewed contracts limit) contracts limit hbest_exec hbest
      ?_).trans (hbest_le.trans hlevel)
    rw [← hbase, ← himpact', himpact]
  rw [PricedPreview.worstFee, hmaximum] at hworst
  obtain ⟨quote, hquote', hworst⟩ := Option.bind_eq_some_iff.mp hworst
  rw [hrequested, hlimit, haverage] at hworst
  cases hok : quote.worstCaseFeeBetween power contracts base.averagePrice limit with
  | error => simp [hok, Except.toOption] at hworst
  | ok worst =>
  have hworst : worst = worstFee := by simpa [hok, Except.toOption] using hworst
  subst hworst
  obtain ⟨hworst_nonneg, hcharges, haverage_nonneg, hlimit_one, hfee⟩ :=
    VenueFeeQuote.fee_le_worstCase power hpos.le hok hbelow hprice_le
  have hprice_nonneg : 0 ≤ price := haverage_nonneg.trans hbelow
  have hprice_one : price ≤ 1 := hprice_le.trans hlimit_one
  have hcapital : worstCapital preview.preview = Dec.mul contracts limit := by
    have hnone : preview.preview.maximumNotionalUsd = none := by
      rw [hsame, hbase]
      rfl
    rw [worstCapital, hnone, hrequested, hlimit]
    rfl
  have hguaranteed : preview.guaranteed = contracts := by
    have hnone : preview.preview.guaranteedContracts = none := by
      rw [hsame, hbase]
      rfl
    rw [PricedPreview.guaranteed, hnone, hrequested]
    rfl
  have hnotional : contracts * price ≤ Dec.slack ^ 1 * Dec.mul contracts limit := by
    have hlimit_nonneg : 0 ≤ limit := hprice_nonneg.trans hprice_le
    have hexact := (Dec.ctx_within (mul_nonneg hpos.le hlimit_nonneg)).2
    exact (mul_le_mul_of_nonneg_left hprice_le hpos.le).trans hexact
  refine ⟨⟨contracts, contracts * price, quote.amount power contracts price⟩, ?_, ?_⟩
  · simp only [PricedLeg.fillAt, horder, hquote', SignedOrder.delivered, SignedOrder.spend,
      Option.bind_eq_bind, Option.bind_some, Except.toOption,
      hcharges.feeForFill power hprice_nonneg hprice_one]
  · rw [hcapital, hguaranteed]
    exact
      { delivered_pos := hpos
        spend_nonneg := mul_nonneg hpos.le hprice_nonneg
        fee_nonneg := VenueFeeQuote.amount_nonneg power hpos.le hcharges hprice_nonneg hprice_one
        capital_nonneg := Dec.mul_nonneg hpos.le (hprice_nonneg.trans hprice_le)
        worstFee_nonneg := hworst_nonneg
        guaranteed_le := by
          rw [pow_one]
          exact le_mul_of_one_le_left hpos.le Dec.one_le_slack
        spend_le := hnotional
        fee_le := hfee }

/-! ### A stake -/

/-- Odds the connector signs are a probability. -/
theorem signedOdds_le_one {probability : Dec} (h : probability ≤ 1) : signedOdds probability ≤ 1 := by
  have hone : Dec.ctx 1 = 1 := Dec.exact_of_fits ⟨1, 0, by norm_num, by norm_num⟩
  have hpow : Dec.ctx (10 ^ 20) = 10 ^ 20 := Dec.exact_of_fits ⟨1, 20, by norm_num, by norm_num⟩
  have hunits : Dec.mul probability (10 ^ 20) ≤ 10 ^ 20 := by
    have h : Dec.ctx (probability * 10 ^ 20) ≤ Dec.ctx (10 ^ 20) := Dec.ctx_mono (by linarith)
    rwa [hpow] at h
  have hfloor : ((⌊Dec.mul probability (10 ^ 20)⌋ : ℤ) : Dec) ≤ 10 ^ 20 :=
    (Int.floor_le _).trans hunits
  have h : signedOdds probability ≤ Dec.ctx 1 := by
    refine Dec.ctx_mono ?_
    rw [div_le_one (by norm_num)]
    exact hfloor
  rwa [hone] at h

theorem V3Signer.sign_odds_le_one {signer : V3Signer} {book : OrderBook}
    {contracts limit stake odds : Dec} (h : signer.sign book contracts limit = some (stake, odds)) :
    odds ≤ 1 := by
  rw [V3Signer.sign] at h
  split at h
  · cases h
  · simp only [Option.bind_eq_bind] at h
    obtain ⟨exactOdds, hround, h⟩ := Option.bind_eq_some_iff.mp h
    obtain ⟨spent, -, h⟩ := Option.bind_eq_some_iff.mp h
    split at h
    · cases h
    · cases h
      simp only [roundV3Probability] at hround
      split_ifs at hround with hstep hrange
      cases hround
      rw [not_or, not_le, not_le] at hrange
      exact signedOdds_le_one hrange.2.le

/-- A payout fee is largest where the stake buys the most contracts. -/
theorem payoutFee_le {quote : VenueFeeQuote} {stake lowest price : Dec} (hstake : 0 ≤ stake)
    (hrate : 0 ≤ quote.rate) (hlowest : 0 < lowest) (hle : lowest ≤ price) (hone : price ≤ 1) :
    quote.payoutFee (stake / price) price ≤
      Dec.slack ^ 10 * quote.payoutFee (Dec.div stake lowest) lowest := by
  have hprice : 0 < price := hlowest.trans_le hle
  have hcontracts : 0 ≤ stake / price := div_nonneg hstake hprice.le
  have hmost : 0 ≤ Dec.div stake lowest := Dec.ctx_nonneg (div_nonneg hstake hlowest.le)
  have hlowest_one : lowest ≤ 1 := hle.trans hone
  have hexact : stake / price * (1 - price) * quote.rate ≤
      stake / lowest * (1 - lowest) * quote.rate := by
    refine mul_le_mul_of_nonneg_right ?_ hrate
    exact mul_le_mul (div_le_div_of_nonneg_left hstake hlowest hle) (by linarith) (by linarith)
      (div_nonneg hstake hlowest.le)
  have hround : stake / lowest * (1 - lowest) * quote.rate ≤
      Dec.slack ^ 1 * (Dec.div stake lowest * (1 - lowest) * quote.rate) := by
    have h := (Dec.ctx_within (div_nonneg hstake hlowest.le)).2
    have hfactor : 0 ≤ (1 - lowest) * quote.rate := mul_nonneg (by linarith) hrate
    have hmul := mul_le_mul_of_nonneg_right h hfactor
    rw [← mul_assoc, mul_assoc _ _ quote.rate, mul_assoc (Dec.slack ^ 1)] at *
    simpa only [Dec.div, mul_assoc] using hmul
  have hleft := (VenueFeeQuote.payoutFee_within quote hcontracts hrate hone).1
  have hright := (VenueFeeQuote.payoutFee_within quote hmost hrate hlowest_one).2
  have hfee : 0 ≤ quote.payoutFee (Dec.div stake lowest) lowest :=
    Dec.mul_nonneg (Dec.mul_nonneg hmost (VenueFeeQuote.sub_nonneg_of_le hlowest_one)) hrate
  calc quote.payoutFee (stake / price) price
      ≤ Dec.slack ^ 3 * (stake / price * (1 - price) * quote.rate) := hleft
    _ ≤ Dec.slack ^ 3 * (Dec.slack ^ 1 * (Dec.div stake lowest * (1 - lowest) * quote.rate)) :=
        mul_le_mul_of_nonneg_left (hexact.trans hround) (Dec.slack_pow_nonneg 3)
    _ ≤ Dec.slack ^ 3 *
          (Dec.slack ^ 1 * (Dec.slack ^ 3 * quote.payoutFee (Dec.div stake lowest) lowest)) := by
        refine mul_le_mul_of_nonneg_left ?_ (Dec.slack_pow_nonneg 3)
        exact mul_le_mul_of_nonneg_left hright (Dec.slack_pow_nonneg 1)
    _ = Dec.slack ^ 7 * quote.payoutFee (Dec.div stake lowest) lowest := by ring
    _ ≤ Dec.slack ^ 10 * quote.payoutFee (Dec.div stake lowest) lowest :=
        mul_le_mul_of_nonneg_right (pow_le_pow_right₀ Dec.one_le_slack (by omega)) hfee

/-- A leg that is signed for a stake. -/
theorem stake_legBound {leg : PricedLeg} {contracts maxPrice worstFee price stake odds : Dec}
    {preview : PricedPreview}
    (hpreview : leg.previewBuy power contracts maxPrice = some preview)
    (hexecutable : preview.preview.executable = true) (hguaranteed : 0 < preview.guaranteed)
    (hworst : preview.worstFee power = some worstFee)
    (hstake : leg.signedStake preview.preview.requestedContracts preview.preview.limitPrice =
      some (stake, odds))
    (hprice : leg.MayFillAt preview price) :
    ∃ filled, leg.fillAt power preview price = some filled ∧
      LegBound filled preview.guaranteed (worstCapital preview.preview) worstFee := by
  obtain ⟨contracts, limit, fingerprint, base, hbase, hpos, hpayload, hrequested, hlimit, haverage,
    himpact', hquote, hsigned, hmaximum⟩ := preview_of_executable hpreview hexecutable
  have horder : leg.signedOrder preview = .stake stake odds := by
    rw [PricedLeg.signedOrder, hstake]
  rw [hrequested, hlimit] at hstake
  simp only [hstake] at hmaximum
  obtain ⟨maximum, hmaximum, heq⟩ := Option.map_eq_some_iff.mp hmaximum
  rw [PricedPreview.worstFee, ← heq] at hworst
  have hmaximum_eq : maximum = worstFee := Option.some.inj hworst
  subst hmaximum_eq
  -- the fee quote is the connector's own, and the maximum was charged by it
  obtain ⟨signer, hkind⟩ : ∃ signer, leg.kind = .stake signer := by
    cases hkind : leg.kind with
    | contracts => simp [PricedLeg.signedStake, hkind] at hstake
    | stake signer => exact ⟨signer, rfl⟩
  have hodds : odds ≤ 1 := by
    have h : signer.sign leg.previewBook contracts limit = some (stake, odds) := by
      simpa [PricedLeg.signedStake, hkind] using hstake
    exact signer.sign_odds_le_one h
  simp only [maximumFee, Option.bind_eq_bind] at hmaximum
  obtain ⟨quote, hfeeQuote, hmaximum⟩ := Option.bind_eq_some_iff.mp hmaximum
  obtain ⟨lowest, hlowest, hmaximum⟩ := Option.bind_eq_some_iff.mp hmaximum
  have hmodel : quote.model = .sxPayoutProfit := by
    rw [PricedLeg.feeQuote, hkind] at hfeeQuote
    obtain ⟨-, -, heq⟩ := Option.map_eq_some_iff.mp hfeeQuote
    rw [← heq]
    rfl
  cases hok : quote.feeForFill power (Dec.div stake lowest) lowest with
  | error => simp [hok, Except.toOption] at hmaximum
  | ok fee =>
  have hfee : fee = maximum := by simpa [hok, Except.toOption] using hmaximum
  subst hfee
  obtain ⟨hcharges, -, hlowest_one, hamount⟩ := VenueFeeQuote.charges_of_feeForFill power hok
  -- the lowest executable price is below every price the order may fill at
  obtain ⟨⟨level, hmem, hexec, hlevel⟩, hprice_le⟩ := hprice
  rw [hlimit] at hexec
  rw [horder] at hprice_le
  obtain ⟨hlowest_mem, hlowest_le⟩ := List.min?_eq_some_iff.mp hlowest
  have hlowest_pos : 0 < lowest := by
    have h := (List.mem_filter.mp hlowest_mem).2
    simp only [Bool.decide_and, Bool.and_eq_true, decide_eq_true_eq] at h
    exact h.1
  have hlevel_mem : level.price ∈ executablePrices leg.previewBook limit := by
    refine List.mem_filter.mpr ⟨List.mem_map.mpr ⟨level, hmem, rfl⟩, ?_⟩
    simp only [Bool.decide_and, Bool.and_eq_true, decide_eq_true_eq]
    exact ⟨hexec.1, hexec.2.2⟩
  have hbelow : lowest ≤ price := (hlowest_le _ hlevel_mem).trans hlevel
  have hprice_pos : 0 < price := hlowest_pos.trans_le hbelow
  have hprice_one : price ≤ 1 := (show price ≤ odds from hprice_le).trans hodds
  -- the preview guarantees what the stake buys at its odds
  have hsignedStake : (leg.previewed contracts limit).signedStake = some (stake, odds) := hstake
  simp only [signedPreview, hpayload, hsignedStake] at hsigned
  split at hsigned
  · cases hsigned
  next hodds_pos =>
  have hodds_pos : 0 < odds := not_le.mp hodds_pos
  have hsame := Option.some.inj hsigned
  have hcapital : worstCapital preview.preview = stake := by
    rw [worstCapital, ← hsame]
    rfl
  have hguaranteed_eq : preview.guaranteed = Dec.div stake odds := by
    rw [PricedPreview.guaranteed, ← hsame]
    rfl
  rw [hguaranteed_eq] at hguaranteed
  have hquotient : 0 ≤ stake / odds := Dec.nonneg_of_ctx_nonneg hguaranteed.le
  have hstake_pos : 0 < stake := by
    have hnonneg : 0 ≤ stake := by
      rw [← div_mul_cancel₀ stake hodds_pos.ne']
      exact mul_nonneg hquotient hodds_pos.le
    refine lt_of_le_of_ne hnonneg ?_
    intro hzero
    rw [← hzero, Dec.div, zero_div, Dec.ctx_zero] at hguaranteed
    exact lt_irrefl 0 hguaranteed
  have hdelivered : 0 < stake / price := div_pos hstake_pos hprice_pos
  have hcharges' : quote.Charges (stake / price) :=
    { hcharges with minimumFee := fun h => absurd h (by simp [hmodel]) }
  have hamount' (contracts price : Dec) :
      quote.amount power contracts price = quote.payoutFee contracts price := by
    rw [VenueFeeQuote.amount, hmodel]
  have hfee := payoutFee_le hstake_pos.le hcharges.rate_nonneg hlowest_pos hbelow hprice_one
  have hmost : 0 ≤ Dec.div stake lowest := Dec.ctx_nonneg (div_nonneg hstake_pos.le hlowest_pos.le)
  rw [hamount] at *
  refine ⟨⟨stake / price, stake, quote.amount power (stake / price) price⟩, ?_, ?_⟩
  · simp only [PricedLeg.fillAt, horder, hquote, hfeeQuote, SignedOrder.delivered, SignedOrder.spend,
      Option.bind_eq_bind, Option.bind_some, Except.toOption,
      hcharges'.feeForFill power hprice_pos.le hprice_one]
  · rw [hcapital, hguaranteed_eq]
    exact
      { delivered_pos := hdelivered
        spend_nonneg := hstake_pos.le
        fee_nonneg := VenueFeeQuote.amount_nonneg power hdelivered.le hcharges' hprice_pos.le hprice_one
        capital_nonneg := hstake_pos.le
        worstFee_nonneg :=
          VenueFeeQuote.amount_nonneg power hmost hcharges hlowest_pos.le hlowest_one
        guaranteed_le := by
          have hround := (Dec.ctx_within hquotient).1
          refine hround.trans (mul_le_mul_of_nonneg_left ?_ (Dec.slack_pow_nonneg 1))
          exact div_le_div_of_nonneg_left hstake_pos.le hprice_pos hprice_le
        spend_le := by
          rw [pow_one]
          exact le_mul_of_one_le_left hstake_pos.le Dec.one_le_slack
        fee_le := by
          rw [hamount', hamount']
          have hrest : 0 ≤ stake / price / 10 ^ 26 := div_nonneg hdelivered.le (by norm_num)
          linarith }

/-! ## Both legs -/

/-- A bound by powers of the slack as a bound with an error. -/
theorem le_add_of_slack {k : ℕ} {x y c : Dec} (h : x ≤ Dec.slack ^ k * y)
    (hc : Dec.slack ^ k ≤ 1 + c) (hy : 0 ≤ y) : x ≤ y + c * y := by
  have hmul := mul_le_mul_of_nonneg_right hc hy
  linarith

/-- The worst case of the guard, from the bounds of its legs. -/
structure WorstBounds (policy : EntryPolicy) (worst : WorstCase) (firstCapital secondCapital : Dec) :
    Prop where
  payout_pos : 0 < worst.payout
  cost_nonneg : 0 ≤ worst.allInCost
  cost_le : worst.allInCost ≤ worst.payout
  total_le :
    firstCapital + secondCapital + (worst.firstFee + worst.secondFee) + policy.reservedCostUsd ≤
      Dec.slack ^ 3 * worst.allInCost
  minimum_le :
    policy.minExpectedProfitUsd ≤ Dec.slack ^ 1 * (worst.payout - worst.allInCost)
  fees_le :
    2 * (worst.firstFee + worst.secondFee) ≤ Dec.slack ^ 3 * (worst.payout - worst.allInCost)
  threshold_le :
    policy.dynamicThreshold * worst.payout ≤ Dec.slack ^ 2 * (worst.payout - worst.allInCost)

theorem worstBounds_of_accepted {policy : EntryPolicy} {first second : PricedPreview}
    {worst : WorstCase} (h : worstCase power policy first second = some worst)
    (haccepted : worst.accepted policy = true) (hcost : 0 ≤ policy.reservedCostUsd)
    (hfirst : 0 < first.guaranteed) (hsecond : 0 < second.guaranteed)
    (hfirstCapital : 0 ≤ worstCapital first.preview)
    (hsecondCapital : 0 ≤ worstCapital second.preview)
    (hfirstFee : 0 ≤ worst.firstFee) (hsecondFee : 0 ≤ worst.secondFee) :
    WorstBounds policy worst (worstCapital first.preview) (worstCapital second.preview) := by
  simp only [worstCase, Option.bind_eq_bind] at h
  obtain ⟨firstFee, -, h⟩ := Option.bind_eq_some_iff.mp h
  obtain ⟨secondFee, -, h⟩ := Option.bind_eq_some_iff.mp h
  simp only [WorstCase.accepted, Bool.decide_and, Bool.and_eq_true, decide_eq_true_eq] at haccepted
  obtain ⟨hthreshold, hprofit⟩ := haccepted
  cases h
  simp only at hthreshold hprofit hfirstFee hsecondFee ⊢
  set w := worstCapital first.preview
  set w' := worstCapital second.preview
  set variableCost := Dec.add firstFee secondFee with hvariable
  have hvariable_nonneg : 0 ≤ variableCost := Dec.add_nonneg hfirstFee hsecondFee
  have hcapital_nonneg : 0 ≤ Dec.add w w' := Dec.add_nonneg hfirstCapital hsecondCapital
  have hcosts_nonneg : 0 ≤ Dec.add (Dec.add w w') variableCost :=
    Dec.add_nonneg hcapital_nonneg hvariable_nonneg
  set allInCost := Dec.add (Dec.add (Dec.add w w') variableCost) policy.reservedCostUsd
  set payout := min first.guaranteed second.guaranteed
  have hpayout : 0 < payout := lt_min hfirst hsecond
  have hminimum : policy.minExpectedProfitUsd ≤ Dec.sub payout allInCost :=
    (le_max_left _ _).trans hprofit
  have htwice : Dec.mul variableCost 2 ≤ Dec.sub payout allInCost :=
    (le_max_right _ _).trans hprofit
  have hrest : 0 ≤ payout - allInCost :=
    Dec.nonneg_of_ctx_nonneg ((Dec.mul_nonneg hvariable_nonneg zero_le_two).trans htwice)
  have hround : Dec.sub payout allInCost ≤ Dec.slack ^ 1 * (payout - allInCost) :=
    (Dec.ctx_within hrest).1
  have hfees : firstFee + secondFee ≤ Dec.slack ^ 1 * variableCost :=
    (Dec.ctx_within (Left.add_nonneg hfirstFee hsecondFee)).2
  refine
    { payout_pos := hpayout
      cost_nonneg := Dec.add_nonneg hcosts_nonneg hcost
      cost_le := by linarith
      total_le := ?_
      minimum_le := hminimum.trans hround
      fees_le := ?_
      threshold_le := ?_ }
  · have hcapital := Dec.add_within hfirstCapital hsecondCapital (.refl Dec.slack w) (.refl _ w')
    have hvariable := Dec.add_within hfirstFee hsecondFee (.refl Dec.slack firstFee) (.refl _ secondFee)
    have hcosts := Dec.add_within hcapital_nonneg hvariable_nonneg hcapital hvariable
    have hreserved := (Within.refl Dec.slack policy.reservedCostUsd).mono (l := 1 + (1 + 0))
      Dec.one_le_slack (by omega) hcost
    have h := Dec.add_within hcosts_nonneg hcost hcosts hreserved
    exact h.2
  · have hexact : variableCost * 2 ≤ Dec.slack ^ 1 * Dec.mul variableCost 2 :=
      (Dec.ctx_within (mul_nonneg hvariable_nonneg zero_le_two)).2
    calc 2 * (firstFee + secondFee) ≤ 2 * (Dec.slack ^ 1 * variableCost) := by linarith
      _ = Dec.slack ^ 1 * (variableCost * 2) := by ring
      _ ≤ Dec.slack ^ 1 * (Dec.slack ^ 1 * (Dec.slack ^ 1 * (payout - allInCost))) := by
          refine mul_le_mul_of_nonneg_left (hexact.trans ?_) (Dec.slack_pow_nonneg 1)
          exact mul_le_mul_of_nonneg_left (htwice.trans hround) (Dec.slack_pow_nonneg 1)
      _ = Dec.slack ^ 3 * (payout - allInCost) := by ring
  · have hprofit_nonneg : 0 ≤ Dec.sub payout allInCost := Dec.ctx_nonneg hrest
    have hquotient : Dec.div (Dec.sub payout allInCost) payout ≤
        Dec.slack ^ 1 * (Dec.sub payout allInCost / payout) :=
      (Dec.ctx_within (div_nonneg hprofit_nonneg hpayout.le)).1
    have hmul := mul_le_mul_of_nonneg_right (hthreshold.trans hquotient) hpayout.le
    rw [mul_assoc, div_mul_cancel₀ _ hpayout.ne'] at hmul
    have hslack := mul_le_mul_of_nonneg_left hround (Dec.slack_pow_nonneg 1)
    calc policy.dynamicThreshold * payout ≤ Dec.slack ^ 1 * Dec.sub payout allInCost := hmul
      _ ≤ Dec.slack ^ 1 * (Dec.slack ^ 1 * (payout - allInCost)) := hslack
      _ = Dec.slack ^ 2 * (payout - allInCost) := by ring

/-- The bounds of both legs and of the worst case honour the guard. -/
theorem honoured_of_bounds {policy : EntryPolicy} {target : Dec} {worst : WorstCase}
    {a b : FilledLeg} {firstGuaranteed secondGuaranteed firstCapital secondCapital : Dec}
    (hworst : WorstBounds policy worst firstCapital secondCapital)
    (hpayout : worst.payout = min firstGuaranteed secondGuaranteed)
    (ha : LegBound a firstGuaranteed firstCapital worst.firstFee)
    (hb : LegBound b secondGuaranteed secondCapital worst.secondFee)
    (hfirst : firstCapital ≤ target) (hsecond : secondCapital ≤ target)
    (hcost : 0 ≤ policy.reservedCostUsd) :
    Honoured policy target worst.allInCost (1 / 10 ^ 25) a b := by
  have hslack1 : Dec.slack ^ 1 ≤ 1 + 1 / 10 ^ 27 := by norm_num [Dec.slack]
  have hslack3 : Dec.slack ^ 3 ≤ 1 + 4 / 10 ^ 27 := by norm_num [Dec.slack]
  have hslack13 : Dec.slack ^ 13 ≤ 1 + 2 / 10 ^ 26 := by norm_num [Dec.slack]
  have ha_pos := ha.delivered_pos
  have hb_pos := hb.delivered_pos
  set D := min a.delivered b.delivered with hD
  set total := a.delivered + b.delivered with htotal
  have hD_pos : 0 < D := lt_min ha_pos hb_pos
  have hD_le : 2 * D ≤ total := by
    have hleft : D ≤ a.delivered := min_le_left _ _
    have hright : D ≤ b.delivered := min_le_right _ _
    linarith
  have hG_pos := hworst.payout_pos
  have hA_nonneg := hworst.cost_nonneg
  have hA_le := hworst.cost_le
  set G := worst.payout
  set A := worst.allInCost
  -- the payout of the guard is delivered
  have hG_le : G ≤ D + 1 / 10 ^ 27 * D := by
    refine le_add_of_slack ?_ hslack1 hD_pos.le
    rw [hpayout, hD, mul_min_of_nonneg _ _ (Dec.slack_pow_nonneg 1)]
    exact min_le_min ha.guaranteed_le hb.guaranteed_le
  have hG_total : G ≤ total := by linarith
  have hfees_nonneg := Left.add_nonneg ha.worstFee_nonneg hb.worstFee_nonneg
  have hcapital_nonneg := Left.add_nonneg ha.capital_nonneg hb.capital_nonneg
  set F := worst.firstFee + worst.secondFee
  set W := firstCapital + secondCapital
  -- what is spent and charged, against the costs of the worst case
  have hfee : a.fee + b.fee ≤ Dec.slack ^ 10 * F + total / 10 ^ 26 := by
    have h := ha.fee_le
    have h' := hb.fee_le
    linarith
  have hspend : a.spend + b.spend ≤ Dec.slack ^ 1 * W := by
    have h := ha.spend_le
    have h' := hb.spend_le
    linarith
  have hpowers : Dec.slack ^ 1 ≤ Dec.slack ^ 10 := pow_le_pow_right₀ Dec.one_le_slack (by omega)
  have hone : (1 : Dec) ≤ Dec.slack ^ 10 := one_le_pow₀ Dec.one_le_slack
  have hC : a.spend + b.spend + (a.fee + b.fee) + policy.reservedCostUsd ≤
      A + 2 / 10 ^ 26 * A + total / 10 ^ 26 := by
    have hspend' := mul_le_mul_of_nonneg_right hpowers hcapital_nonneg
    have hcost' := mul_le_mul_of_nonneg_right hone hcost
    have hsum := mul_le_mul_of_nonneg_left hworst.total_le (Dec.slack_pow_nonneg 10)
    have hpower : Dec.slack ^ 10 * (Dec.slack ^ 3 * A) = Dec.slack ^ 13 * A := by ring
    have hA := mul_le_mul_of_nonneg_right hslack13 hA_nonneg
    rw [hpower] at hsum
    linarith
  have hrest_nonneg : 0 ≤ G - A := by linarith
  have hrest_le : G - A ≤ total := by linarith
  refine
    { profit := max_le ?_ ?_
      spread := ?_
      cost := by linarith
      firstSpend := ?_
      secondSpend := ?_ }
  · have hm := le_add_of_slack hworst.minimum_le hslack1 hrest_nonneg
    linarith
  · have hfees : 2 * F ≤ (G - A) + 4 / 10 ^ 27 * (G - A) :=
      le_add_of_slack hworst.fees_le hslack3 hrest_nonneg
    have hpow : Dec.slack ^ 10 * F ≤ F + 2 / 10 ^ 26 * F := by
      refine le_add_of_slack le_rfl ?_ hfees_nonneg
      norm_num [Dec.slack]
    linarith
  · have hslack2 : Dec.slack ^ 2 ≤ 1 + 3 / 10 ^ 27 := by norm_num [Dec.slack]
    have ht := le_add_of_slack hworst.threshold_le hslack2 hrest_nonneg
    rcases le_or_gt policy.dynamicThreshold 0 with hneg | hpos
    · have h : policy.dynamicThreshold * D ≤ 0 := mul_nonpos_of_nonpos_of_nonneg hneg hD_pos.le
      linarith
    rcases le_total D G with hle | hle
    · have h := mul_le_mul_of_nonneg_left hle hpos.le
      linarith
    · -- what is delivered beyond the payout pays more than its share
      have hthreshold : policy.dynamicThreshold ≤ 1 + 3 / 10 ^ 27 := by
        have h : policy.dynamicThreshold * G ≤ (1 + 3 / 10 ^ 27) * G := by linarith
        exact le_of_mul_le_mul_right h hG_pos
      have h := mul_le_mul_of_nonneg_right hthreshold (sub_nonneg.mpr hle)
      linarith
  · have h := le_add_of_slack ha.spend_le hslack1 ha.capital_nonneg
    have hcapital := ha.capital_nonneg
    linarith
  · have h := le_add_of_slack hb.spend_le hslack1 hb.capital_nonneg
    have hcapital := hb.capital_nonneg
    linarith

/-- A leg of either kind. -/
theorem legBound {leg : PricedLeg} {contracts maxPrice worstFee price : Dec}
    {preview : PricedPreview} (hbook : leg.previewBook.Ascending)
    (hpreview : leg.previewBuy power contracts maxPrice = some preview)
    (hexecutable : preview.preview.executable = true) (himpact : preview.preview.priceImpactPct = 0)
    (hguaranteed : 0 < preview.guaranteed) (hworst : preview.worstFee power = some worstFee)
    (hprice : leg.MayFillAt preview price) :
    ∃ filled, leg.fillAt power preview price = some filled ∧
      LegBound filled preview.guaranteed (worstCapital preview.preview) worstFee := by
  cases hstake :
      leg.signedStake preview.preview.requestedContracts preview.preview.limitPrice with
  | none => exact contracts_legBound hbook hpreview hexecutable himpact hworst hstake hprice
  | some signed =>
    obtain ⟨stake, odds⟩ := signed
    exact stake_legBound hpreview hexecutable hguaranteed hworst hstake hprice

/-- What an entry was accepted with. -/
theorem pricedPriceGuard_cases {floatText : FloatText} {target : Dec} {guards : Bool}
    {policy : EntryPolicy} {first second : PricedLeg} {entry : PricedEntry}
    (h : pricedPriceGuard power floatText target guards policy first second = some entry) :
    ∃ payout firstLimit secondLimit worst, 0 ≤ policy.reservedCostUsd ∧
      first.previewBuy power payout firstLimit = some entry.firstPreview ∧
      second.previewBuy power payout secondLimit = some entry.secondPreview ∧
      previewsAccepted target entry.firstPreview entry.secondPreview = true ∧
      worstCase power policy entry.firstPreview entry.secondPreview = some worst ∧
      worst.accepted policy = true ∧ entry.allInCostUsd = worst.allInCost := by
  simp only [pricedPriceGuard, Option.bind_eq_bind] at h
  obtain ⟨firstContracts, -, h⟩ := Option.bind_eq_some_iff.mp h
  obtain ⟨secondContracts, -, h⟩ := Option.bind_eq_some_iff.mp h
  obtain ⟨firstLimit, -, h⟩ := Option.bind_eq_some_iff.mp h
  obtain ⟨secondLimit, -, h⟩ := Option.bind_eq_some_iff.mp h
  split at h
  · next hguards =>
    obtain ⟨firstPreview, hfirst, h⟩ := Option.bind_eq_some_iff.mp h
    obtain ⟨secondPreview, hsecond, h⟩ := Option.bind_eq_some_iff.mp h
    simp only [pricedEntry, Option.bind_eq_bind] at h
    split at h
    · next hpreviews =>
      obtain ⟨worst, hworst, h⟩ := Option.bind_eq_some_iff.mp h
      split at h
      · next haccepted =>
        obtain ⟨firstLeg, -, h⟩ := Option.bind_eq_some_iff.mp h
        obtain ⟨secondLeg, -, h⟩ := Option.bind_eq_some_iff.mp h
        cases h
        exact ⟨_, _, _, worst, hguards.2, hfirst, hsecond, hpreviews, hworst, haccepted, rfl⟩
      · cases h
    · cases h
  · cases h

/-- Where the previews read the books that were quoted and no limit is rounded, the entry is the one
of `preflightPriceGuard`. -/
theorem preflightPriceGuard_of_priced {floatText : FloatText} {target : Dec} {guards : Bool}
    {policy : EntryPolicy} {first second : PricedLeg} {entry : PricedEntry}
    (hfirst : first.previewBook = first.quotedBook ∧ first.normalizeLimit = id)
    (hsecond : second.previewBook = second.quotedBook ∧ second.normalizeLimit = id)
    (h : pricedPriceGuard power floatText target guards policy first second = some entry) :
    ∃ payout firstLimit secondLimit,
      preflightPriceGuard floatText target guards (first.previewed payout firstLimit)
        (second.previewed payout secondLimit) = some entry.entry := by
  simp only [pricedPriceGuard, Option.bind_eq_bind] at h
  obtain ⟨firstContracts, hfirstContracts, h⟩ := Option.bind_eq_some_iff.mp h
  obtain ⟨secondContracts, hsecondContracts, h⟩ := Option.bind_eq_some_iff.mp h
  obtain ⟨firstLimit, hfirstLimit, h⟩ := Option.bind_eq_some_iff.mp h
  obtain ⟨secondLimit, hsecondLimit, h⟩ := Option.bind_eq_some_iff.mp h
  split at h
  swap
  · cases h
  next hguards =>
  obtain ⟨firstPreview, hfirstPreview, h⟩ := Option.bind_eq_some_iff.mp h
  obtain ⟨secondPreview, hsecondPreview, h⟩ := Option.bind_eq_some_iff.mp h
  simp only [pricedEntry, Option.bind_eq_bind] at h
  split at h
  swap
  · cases h
  next hpreviews =>
  obtain ⟨worst, hworst, h⟩ := Option.bind_eq_some_iff.mp h
  split at h
  swap
  · cases h
  obtain ⟨firstLeg, hfirstLeg, h⟩ := Option.bind_eq_some_iff.mp h
  obtain ⟨secondLeg, hsecondLeg, h⟩ := Option.bind_eq_some_iff.mp h
  cases h
  set payout := payoutContracts target firstContracts secondContracts firstLimit secondLimit
  refine ⟨payout, firstLimit, secondLimit, ?_⟩
  have hsigned {leg : PricedLeg} {limit : Dec} {preview : PricedPreview}
      (hid : leg.normalizeLimit = id) (h : leg.previewBuy power payout limit = some preview) :
      signedPreview (leg.previewed payout limit)
        (previewBuyFromBook (leg.previewed payout limit) payout limit) = some preview.preview := by
    simp only [PricedLeg.previewBuy, Option.bind_eq_bind, hid, id_eq] at h
    obtain ⟨expected, -, h⟩ := Option.bind_eq_some_iff.mp h
    obtain ⟨signed, hsigned, h⟩ := Option.bind_eq_some_iff.mp h
    rw [hsigned]
    split at h
    · obtain ⟨maximum, -, heq⟩ := Option.bind_eq_some_iff.mp h
      cases heq
      rfl
    · cases h
      rfl
  have hbook : (first.previewed payout firstLimit).book = first.quotedBook := hfirst.1
  have hbook' : (second.previewed payout secondLimit).book = second.quotedBook := hsecond.1
  have hlimit : submitLimit (first.previewed payout firstLimit) = some firstLimit := by
    rw [← hfirstLimit, submitLimit, submitLimit, hbook]
    rfl
  have hlimit' : submitLimit (second.previewed payout secondLimit) = some secondLimit := by
    rw [← hsecondLimit, submitLimit, submitLimit, hbook']
    rfl
  have hpayout : worst.payout = min firstPreview.guaranteed secondPreview.guaranteed := by
    simp only [worstCase, Option.bind_eq_bind] at hworst
    obtain ⟨firstFee, -, hworst⟩ := Option.bind_eq_some_iff.mp hworst
    obtain ⟨secondFee, -, hworst⟩ := Option.bind_eq_some_iff.mp hworst
    cases hworst
    rfl
  simp only [previewsAccepted, Bool.decide_and, Bool.and_eq_true, decide_eq_true_eq] at hpreviews
  simp only [preflightPriceGuard, hbook, hbook', hlimit, hlimit', hfirstContracts, hsecondContracts,
    Option.bind_eq_bind, Option.bind_some]
  rw [hsigned hfirst.2 hfirstPreview, Option.bind_some, hsigned hsecond.2 hsecondPreview,
    Option.bind_some, if_pos ⟨hguards.1, hpreviews⟩, hfirstLeg, Option.bind_some, hsecondLeg,
    Option.bind_some, hpayout]
  rfl

/-- **A prepared entry honours its guard**: at every price the signed orders may fill at, both fills
are charged by the verified quotes, and what they deliver, spend and cost keeps the profit, the
spread, the all-in cost and the target the guard computed, up to one part in `10 ^ 25`. -/
theorem preflight_honoured (power : DecimalPower) (floatText : FloatText) (target : Dec)
    (guards : Bool) (policy : EntryPolicy) (first second : PricedLeg) (entry : PricedEntry)
    (h : pricedPriceGuard power floatText target guards policy first second = some entry)
    (hfirst : first.previewBook.Ascending) (hsecond : second.previewBook.Ascending) (p q : Dec)
    (hp : first.MayFillAt entry.firstPreview p) (hq : second.MayFillAt entry.secondPreview q) :
    ∃ a b, first.fillAt power entry.firstPreview p = some a ∧
      second.fillAt power entry.secondPreview q = some b ∧
      Honoured policy target entry.allInCostUsd (1 / 10 ^ 25) a b := by
  obtain ⟨payout, firstLimit, secondLimit, worst, hcost, hfirstPreview, hsecondPreview, hpreviews,
    hworst, haccepted, hallIn⟩ := pricedPriceGuard_cases h
  simp only [previewsAccepted, Bool.decide_and, Bool.and_eq_true, decide_eq_true_eq] at hpreviews
  obtain ⟨hexecutable, hexecutable', himpact, himpact', -, hguaranteed, hguaranteed', hcapital,
    hcapital'⟩ := hpreviews
  have hfees : entry.firstPreview.worstFee power = some worst.firstFee ∧
      entry.secondPreview.worstFee power = some worst.secondFee ∧
      worst.payout = min entry.firstPreview.guaranteed entry.secondPreview.guaranteed := by
    simp only [worstCase, Option.bind_eq_bind] at hworst
    obtain ⟨firstFee, hfirstFee, hworst⟩ := Option.bind_eq_some_iff.mp hworst
    obtain ⟨secondFee, hsecondFee, hworst⟩ := Option.bind_eq_some_iff.mp hworst
    cases hworst
    exact ⟨hfirstFee, hsecondFee, rfl⟩
  obtain ⟨hfirstFee, hsecondFee, hpayout⟩ := hfees
  obtain ⟨a, ha, hbound⟩ := legBound hfirst hfirstPreview hexecutable himpact hguaranteed hfirstFee hp
  obtain ⟨b, hb, hbound'⟩ :=
    legBound hsecond hsecondPreview hexecutable' himpact' hguaranteed' hsecondFee hq
  have hbounds := worstBounds_of_accepted hworst haccepted hcost hguaranteed hguaranteed'
    hbound.capital_nonneg hbound'.capital_nonneg hbound.worstFee_nonneg hbound'.worstFee_nonneg
  refine ⟨a, b, ha, hb, ?_⟩
  rw [hallIn]
  exact honoured_of_bounds hbounds hpayout hbound hbound' hcapital hcapital' hcost

/-! ### Entries -/

instance (leg : PricedLeg) (preview : PricedPreview) (price : Dec) :
    Decidable (leg.MayFillAt preview price) :=
  inferInstanceAs (Decidable ((∃ level ∈ leg.previewBook.asks, _) ∧ _))

namespace PreflightExamples

/-- A book of one ask. -/
def book (price : Dec) : OrderBook := { asks := [⟨price, 1000⟩], status := "VALID" }

/-- A leg on that book whose connector takes the limit as it is. -/
def leg (price : Dec) (kind : OrderKind) : PricedLeg :=
  { quotedBook := book price
    previewBook := book price
    slippageCap := 0
    minimumNotional := some 1
    normalizeLimit := id
    signature := some "0x01"
    kind := kind }

/-- A venue that charges by its price curve. -/
def curveLeg : PricedLeg :=
  leg (1 / 2) (.contracts (some
    { feeRateBps := 200, model := .polymarketDynamic, verified := true }))

/-- A venue that signs a stake. -/
def stakeLeg : PricedLeg :=
  leg (2 / 5) (.stake
    { oddsLadderStepSize := 125
      assetDecimals := 6
      minimumUnits := 1000000
      takerPayoutFee := 1 / 50 })

/-- A venue without fees, at a price that does not divide the target. -/
def freeLeg (price : Dec) : PricedLeg :=
  leg price (.contracts (some { model := .zeroFee, verified := true }))

/-- Half a dollar of profit and a spread of two percent. -/
def policy : EntryPolicy :=
  { reservedCostUsd := 1 / 20, minExpectedProfitUsd := 1 / 2, dynamicThreshold := 1 / 50 }

/-- The entry of two legs for a target of ten dollars. -/
noncomputable def entry (first second : PricedLeg) : Option PricedEntry :=
  pricedPriceGuard DecimalPower.rounded FloatText.digits17 10 true policy first second

theorem curve_entry : (entry curveLeg stakeLeg).isSome = true := by decide +kernel

theorem free_entry : (entry (freeLeg (7 / 10)) (freeLeg (1 / 10))).isSome = true := by
  decide +kernel

/-- The entry of the curve and the stake fills at its asks. -/
theorem preflight_honoured_entry :
    ∃ a b,
      curveLeg.fillAt DecimalPower.rounded ((entry curveLeg stakeLeg).get curve_entry).firstPreview
        (1 / 2) = some a ∧
      stakeLeg.fillAt DecimalPower.rounded ((entry curveLeg stakeLeg).get curve_entry).secondPreview
        (2 / 5) = some b ∧
      Honoured policy 10 ((entry curveLeg stakeLeg).get curve_entry).allInCostUsd (1 / 10 ^ 25) a b :=
  preflight_honoured DecimalPower.rounded FloatText.digits17 10 true policy curveLeg stakeLeg
    ((entry curveLeg stakeLeg).get curve_entry) (Option.some_get curve_entry).symm
    (by decide +kernel) (by decide +kernel) (1 / 2) (2 / 5) (by decide +kernel) (by decide +kernel)

/-- Without the error it fails: the quantity is rounded to 28 digits, here upwards, and at its limit
price it costs more than the target. -/
theorem preflight_not_exact :
    ¬ ∀ (power : DecimalPower) (floatText : FloatText) (target : Dec) (guards : Bool)
      (policy : EntryPolicy) (first second : PricedLeg) (entry : PricedEntry),
      pricedPriceGuard power floatText target guards policy first second = some entry →
      first.previewBook.Ascending → second.previewBook.Ascending → ∀ p q,
      first.MayFillAt entry.firstPreview p → second.MayFillAt entry.secondPreview q →
      ∃ a b, first.fillAt power entry.firstPreview p = some a ∧
        second.fillAt power entry.secondPreview q = some b ∧
        Honoured policy target entry.allInCostUsd 0 a b := by
  intro h
  obtain ⟨a, b, ha, -, hhonoured⟩ := h DecimalPower.rounded FloatText.digits17 10 true policy
    (freeLeg (7 / 10)) (freeLeg (1 / 10)) _ (Option.some_get free_entry).symm (by decide +kernel)
    (by decide +kernel) (7 / 10) (1 / 10) (by decide +kernel) (by decide +kernel)
  have hspend : ((freeLeg (7 / 10)).fillAt DecimalPower.rounded
      ((entry (freeLeg (7 / 10)) (freeLeg (1 / 10))).get free_entry).firstPreview (7 / 10)).any
        (fun filled => 10 < filled.spend) = true := by decide +kernel
  rw [ha] at hspend
  have hlt : 10 < a.spend := by simpa using hspend
  have hle := hhonoured.firstSpend
  linarith

end PreflightExamples

end ArbitrageEngine.Execution
