/-
# ArbitrageEngine.Execution.Authorization -- from the claim of a prepared order to its submission

An entry claims the prepared order of each leg with the contracts of its plan, as a decimal, and
later submits the leg with the same contracts as a float.  The connector compares both with the
contracts it signed, so the submission matches the order it was authorized for exactly when the
quantity survives the float.
-/
import ArbitrageEngine.Connectors.SxBetV3
import ArbitrageEngine.Execution.ExitLeg
import ArbitrageEngine.Execution.Preflight

namespace ArbitrageEngine.Execution

open Lib.Effect SxBetV3

/-! ## The two calls of an entry -/

/-- Where and with what digest an entry is submitted. -/
structure EntryVenue where
  digest : String → Payload → String
  floatText : FloatText
  router : Router
  market : MarketSpec

namespace EntryVenue

variable (venue : EntryVenue)

/-- The claim of a leg in `_execute_production`. -/
def claimLeg (clock : Clock) (leg : Leg) (prepared : PreparedLeg) (deadline : Option Dec) :
    SxBetV3.Effect (Option String) :=
  claimPreparedOrder venue.digest clock (some prepared.fingerprint)
    (buyTerms (venue.router.tokenId venue.market leg) (venue.router.side venue.market leg)
      prepared.contracts prepared.price) deadline

/-- The buy of a leg in `_submit_entry_leg`, with `contracts=float(contracts)`. -/
def buyLeg (clock : Clock) (leg : Leg) (prepared : PreparedLeg) (clientOrderId : Option String)
    (deadline : Option Dec) : SxBetV3.Effect (Option PreparedOrder) :=
  buyWithOrderIdPersistence venue.digest clock (venue.router.tokenId venue.market leg)
    (venue.router.side venue.market leg) (venue.floatText.text prepared.contracts) prepared.price
    clientOrderId (some prepared.fingerprint) deadline

end EntryVenue

/-! ## What else the connector does -/

/-- What other tasks do with the connector. -/
inductive CacheAction
  | store (clock : Clock) (prepared : PreparedOrder)
  | claim (clock : Clock) (fingerprint : Option String) (terms : OrderTerms) (deadline : Option Dec)
  | release (fingerprint : Option String)
  | submit (clock : Clock) (terms : OrderTerms) (clientOrderId fingerprint : Option String)
      (deadline : Option Dec)

/-- The claimed order an action may take. -/
def CacheAction.takes : CacheAction → Option String
  | store _ _ => none
  | claim _ fingerprint _ _ => fingerprint
  | release fingerprint => fingerprint
  | submit _ _ _ fingerprint _ => fingerprint

/-- The caches after an action, also when it raises. -/
def CacheAction.run (digest : String → Payload → String) (connector : Connector) :
    CacheAction → Connector
  | store clock prepared => storePreparedOrder clock prepared connector
  | claim clock fingerprint terms deadline =>
      finalState (claimPreparedOrder digest clock fingerprint terms deadline) connector
  | release fingerprint => finalState (releasePreparedOrder fingerprint) connector
  | submit clock terms clientOrderId fingerprint deadline =>
      finalState (submitTakerOrder digest clock terms clientOrderId fingerprint deadline) connector

/-! ## A claimed order stays claimed -/

section Claimed

variable {digest : String → Payload → String} {fingerprint : String} {prepared : PreparedOrder}

/-- This order is claimed under its fingerprint. -/
def Claimed (fingerprint : String) (prepared : PreparedOrder) (connector : Connector) : Prop :=
  connector.claimed.get? fingerprint = some prepared

theorem consume_keeps_claimed {clock : Clock} {other : Option String} {terms : OrderTerms}
    (h : other ≠ some fingerprint) :
    Keeps (Claimed fingerprint prepared) (consumePreparedOrder digest clock other terms) := by
  cases other with
  | none => exact Keeps.pure _
  | some other =>
      have hne : fingerprint ≠ other := fun heq => h (heq ▸ rfl)
      refine Keeps.bind (Keeps.modify fun _ hc => hc) fun _ => ?_
      refine Spec.bind (R := fun _ => Claimed fingerprint prepared) ?_ fun taken => ?_
      · intro connector hc
        show Claimed fingerprint prepared (takePreparedOrder other connector).2
        unfold takePreparedOrder
        split
        · exact (connector.claimed.get?_erase_of_ne hne).trans hc
        · exact hc
      · cases taken with
        | none => exact Keeps.throw _
        | some taken => exact Keeps.ite (Keeps.throw _) (Keeps.ite (Keeps.throw _) (Keeps.pure _))

/-- The checks of the clock change nothing and do not speak of the terms. -/
theorem assertSubmissionWindow_spec {I : Connector → Prop} (clock : Clock)
    (deadline : Option Dec) :
    Spec I (assertSubmissionWindow clock deadline) (fun _ => I)
      fun exc connector => exc ≠ .mismatch ∧ I connector := by
  cases deadline with
  | none => exact Spec.pure fun _ h => h
  | some deadline =>
      show Spec I (ite _ _ _) _ _
      split
      · exact Spec.throw fun _ h => ⟨nofun, h⟩
      · split
        · exact Spec.throw fun _ h => ⟨nofun, h⟩
        · exact Spec.pure fun _ h => h

theorem assertSignedOrderExpiry_spec {I : Connector → Prop} (clock : Clock) (payload : Payload) :
    Spec I (assertSignedOrderExpiry clock payload) (fun _ => I)
      fun exc connector => exc ≠ .mismatch ∧ I connector := by
  unfold assertSignedOrderExpiry
  cases payload.expiry with
  | none => exact Spec.throw fun _ h => ⟨nofun, h⟩
  | some expiry =>
      show Spec I (ite _ _ _) _ _
      split
      · exact Spec.throw fun _ h => ⟨nofun, h⟩
      · exact Spec.pure fun _ h => h

/-- Both checks, one after the other. -/
theorem checks_spec {I : Connector → Prop} {α : Type} {f : SxBetV3.Effect α}
    {Q : α → Connector → Prop} {E : Rejection → Connector → Prop} (clock : Clock)
    (deadline : Option Dec) (payload : Payload) (hf : Spec I f Q E)
    (hrefused : ∀ exc connector, exc ≠ .mismatch → I connector → E exc connector) :
    Spec I (do
      assertSubmissionWindow clock deadline
      assertSignedOrderExpiry clock payload
      f) Q E := by
  refine Spec.bind (Spec.conseq (assertSubmissionWindow_spec clock deadline) (fun _ h => h)
    (fun _ _ h => h) fun exc connector h => hrefused exc connector h.1 h.2) fun _ => ?_
  exact Spec.bind (Spec.conseq (assertSignedOrderExpiry_spec clock payload) (fun _ h => h)
    (fun _ _ h => h) fun exc connector h => hrefused exc connector h.1 h.2) fun _ => hf

theorem claim_keeps_claimed {clock : Clock} {other : Option String} {terms : OrderTerms}
    {deadline : Option Dec} (h : other ≠ some fingerprint) :
    Keeps (Claimed fingerprint prepared)
      (claimPreparedOrder digest clock other terms deadline) := by
  refine Keeps.ite (Keeps.throw _) (Keeps.bind (consume_keeps_claimed h) fun taken => ?_)
  match other, taken with
  | some other, some taken =>
      have hne : fingerprint ≠ other := fun heq => h (heq ▸ rfl)
      refine checks_spec _ _ _ ?_ fun _ _ _ hc => hc
      refine Keeps.bind (Keeps.modify fun connector hc => ?_) fun _ => Keeps.pure _
      exact (connector.claimed.get?_set_of_ne hne _).trans hc
  | some _, none => exact Keeps.pure _
  | none, some _ => exact Keeps.pure _
  | none, none => exact Keeps.pure _

theorem submit_keeps_claimed {clock : Clock} {terms : OrderTerms}
    {clientOrderId other : Option String} {deadline : Option Dec} (h : other ≠ some fingerprint) :
    Keeps (Claimed fingerprint prepared)
      (submitTakerOrder digest clock terms clientOrderId other deadline) := by
  refine Keeps.bind (consume_keeps_claimed h) fun taken => Keeps.ite (Keeps.throw _) ?_
  cases taken with
  | none => exact Keeps.pure _
  | some taken =>
      exact Keeps.ite (Keeps.throw _) (checks_spec _ _ _ (Keeps.pure _) fun _ _ _ hc => hc)

/-- An action that does not take the order leaves it claimed. -/
theorem CacheAction.run_claimed {connector : Connector} {action : CacheAction}
    (h : action.takes ≠ some fingerprint) (hc : Claimed fingerprint prepared connector) :
    Claimed fingerprint prepared (action.run digest connector) := by
  cases action with
  | store _ _ => exact hc
  | claim clock other terms deadline => exact Spec.finalState (claim_keeps_claimed h) hc
  | submit clock terms clientOrderId other deadline =>
      exact Spec.finalState (submit_keeps_claimed h) hc
  | release other =>
      cases other with
      | none => exact hc
      | some other =>
          have hne : fingerprint ≠ other := fun heq => h (heq ▸ rfl)
          exact (connector.claimed.get?_erase_of_ne hne).trans hc

theorem CacheAction.runs_claimed :
    ∀ (actions : List CacheAction) (connector : Connector),
      (∀ action ∈ actions, action.takes ≠ some fingerprint) →
      Claimed fingerprint prepared connector →
      Claimed fingerprint prepared (actions.foldl (CacheAction.run digest) connector)
  | [], _, _, hc => hc
  | action :: rest, _, h, hc =>
      runs_claimed rest _ (fun other hother => h other (List.mem_cons_of_mem _ hother))
        (run_claimed (h action List.mem_cons_self) hc)

/-! ## Claims and submissions -/

variable {terms : OrderTerms}

/-- A consumed order has the terms asked for and the fingerprint it was found under. -/
theorem consume_spec (clock : Clock) :
    Spec (fun _ => True) (consumePreparedOrder digest clock (some fingerprint) terms)
      (fun taken _ => ∃ prepared, taken = some prepared ∧ prepared.submitted.terms = terms ∧
        digest prepared.submitted.orderId prepared.payload = fingerprint) fun _ _ => True := by
  refine Spec.bind (R := fun _ _ => True) (Spec.modify fun _ _ => trivial) fun _ => ?_
  refine Spec.bind (R := fun _ _ => True) (fun _ _ => trivial) fun taken => ?_
  cases taken with
  | none => exact Spec.throw fun _ _ => trivial
  | some prepared =>
      show Spec _ (ite _ _ _) _ _
      split
      · exact Spec.throw fun _ _ => trivial
      · next hterms =>
          split
          · exact Spec.throw fun _ _ => trivial
          · next hdigest =>
              exact Spec.pure fun _ _ =>
                ⟨prepared, rfl, not_not.mp hterms, not_not.mp hdigest⟩

/-- A claim that succeeds leaves an order claimed that has the terms it asked for. -/
theorem claimed_of_claim {clock : Clock} {deadline : Option Dec} {connector : Connector}
    (h : raised (claimPreparedOrder digest clock (some fingerprint) terms deadline) connector =
      none) :
    ∃ prepared, prepared.submitted.terms = terms ∧
      digest prepared.submitted.orderId prepared.payload = fingerprint ∧
      Claimed fingerprint prepared
        (finalState (claimPreparedOrder digest clock (some fingerprint) terms deadline)
          connector) := by
  have hspec : Spec (fun _ => True)
      (claimPreparedOrder digest clock (some fingerprint) terms deadline)
      (fun _ connector => ∃ prepared, prepared.submitted.terms = terms ∧
        digest prepared.submitted.orderId prepared.payload = fingerprint ∧
        Claimed fingerprint prepared connector) fun _ _ => True := by
    unfold claimPreparedOrder
    split
    · exact Spec.throw fun _ _ => trivial
    · refine Spec.bind (consume_spec clock) fun taken => ?_
      rintro connector ⟨prepared, rfl, hterms, hdigest⟩
      refine checks_spec (I := fun _ => True) clock deadline prepared.payload ?_
        (fun _ _ _ _ => trivial) connector trivial
      refine Spec.bind (R := fun _ => Claimed fingerprint prepared)
        (Spec.modify fun connector _ => connector.claimed.get?_set_self _ _) fun _ => ?_
      exact Spec.pure fun _ hc => ⟨prepared, hterms, hdigest, hc⟩
  exact hspec.of_returns trivial h

/-- A claimed order is consumed if it has the terms asked for, and refused as a mismatch if not. -/
theorem consume_claimed_spec {clock : Clock}
    (hdigest : digest prepared.submitted.orderId prepared.payload = fingerprint) :
    Spec (Claimed fingerprint prepared)
      (consumePreparedOrder digest clock (some fingerprint) terms)
      (fun taken _ => taken = some prepared ∧ prepared.submitted.terms = terms)
      fun exc _ => exc = .mismatch ∧ prepared.submitted.terms ≠ terms := by
  refine Spec.bind (R := fun _ => Claimed fingerprint prepared) (Spec.modify fun _ hc => hc)
    fun _ => ?_
  refine Spec.bind (R := fun taken _ => taken = some prepared ∧ True) ?_ fun taken =>
    Spec.assume fun htaken => ?_
  · intro connector hc
    show (takePreparedOrder fingerprint connector).1 = some prepared ∧ True
    unfold takePreparedOrder
    rw [hc]
    exact ⟨rfl, trivial⟩
  · subst htaken
    show Spec _ (if prepared.submitted.terms ≠ terms then throw Rejection.mismatch
      else if digest prepared.submitted.orderId prepared.payload ≠ fingerprint then
        throw Rejection.invalidFingerprint
      else pure (some prepared) : SxBetV3.Effect (Option PreparedOrder)) _ _
    rw [if_neg (not_not_intro hdigest)]
    split
    · next hterms => exact Spec.throw fun _ _ => ⟨rfl, hterms⟩
    · next hterms => exact Spec.pure fun _ _ => ⟨rfl, not_not.mp hterms⟩

/-- The submission of a claimed order is refused as a mismatch exactly if its terms differ. -/
theorem submit_claimed_mismatch_iff {clock : Clock} {clientOrderId : Option String}
    {deadline : Option Dec} {connector : Connector}
    (hdigest : digest prepared.submitted.orderId prepared.payload = fingerprint)
    (hc : Claimed fingerprint prepared connector) :
    raised (submitTakerOrder digest clock terms clientOrderId (some fingerprint) deadline)
        connector = some .mismatch ↔ prepared.submitted.terms ≠ terms := by
  have hspec : Spec (Claimed fingerprint prepared)
      (submitTakerOrder digest clock terms clientOrderId (some fingerprint) deadline)
      (fun _ _ => prepared.submitted.terms = terms)
      fun exc _ => exc = .mismatch ↔ prepared.submitted.terms ≠ terms := by
    refine Spec.bind (Spec.conseq (consume_claimed_spec hdigest) (fun _ h => h) (fun _ _ h => h)
      fun exc _ h => ⟨fun _ => h.2, fun _ => h.1⟩) fun taken => ?_
    refine Spec.conseq (Spec.assume fun htaken => ?_) (fun _ h => ⟨h, trivial⟩) (fun _ _ h => h)
      fun _ _ h => h
    obtain ⟨rfl, hterms⟩ := htaken
    -- Whatever else refuses the order is not a mismatch, and its terms are the ones asked for.
    have hother : ∀ exc : Rejection, exc ≠ .mismatch →
        (exc = .mismatch ↔ prepared.submitted.terms ≠ terms) :=
      fun exc hexc => ⟨fun h => absurd h hexc, fun h => absurd hterms h⟩
    show Spec (fun _ => True) (ite _ _ _) _ _
    split
    · exact Spec.throw fun _ _ => hother _ nofun
    · show Spec _ (ite _ _ _) _ _
      split
      · exact Spec.throw fun _ _ => hother _ nofun
      · exact checks_spec _ _ _ (Spec.pure fun _ _ => hterms) fun exc _ hexc _ => hother exc hexc
  have hraised := hspec.of_raised hc
  split at hraised
  · next hnone =>
      rw [hnone]
      simp [hraised]
  · next exc hsome =>
      rw [hsome, Option.some.injEq]
      exact hraised

end Claimed

/-! ## The quantity of an entry -/

/-- The contracts of an entry, from the books, the limits and the target. -/
def entryContracts (floatText : FloatText) (target : Dec) (first second : LegQuote) :
    Option Dec := do
  let firstContracts ← orderbookBuyContracts floatText first.book target
  let secondContracts ← orderbookBuyContracts floatText second.book target
  let firstLimit ← submitLimit first
  let secondLimit ← submitLimit second
  pure (payoutContracts target firstContracts secondContracts firstLimit secondLimit)

/-- A preview that is executable asks for the contracts it was called with. -/
theorem requestedContracts_of_executable {leg : LegQuote} {contracts maxPrice : Dec}
    {preview : OrderPreview}
    (hsigned : signedPreview leg (previewBuyFromBook leg contracts maxPrice) = some preview)
    (h : preview.executable = true) : preview.requestedContracts = contracts := by
  have hbase : preview.requestedContracts = max 0 contracts ∧
      preview.blockers = (previewBuyFromBook leg contracts maxPrice).blockers := by
    unfold signedPreview at hsigned
    split at hsigned
    · split at hsigned
      · cases hsigned
      · cases hsigned
        exact ⟨rfl, rfl⟩
    · cases hsigned
      exact ⟨rfl, rfl⟩
  have hpositive : 0 < contracts := by
    by_contra hle
    simp only [OrderPreview.executable, decide_eq_true_eq] at h
    rw [hbase.2] at h
    simp [previewBuyFromBook, previewBlockers, not_lt.mp hle] at h
  rw [hbase.1, max_eq_right hpositive.le]

/-- Both legs of an entry are for the contracts its books, limits and target give. -/
theorem preflight_contracts {floatText : FloatText} {target : Dec} {guards : Bool}
    {first second : LegQuote} {entry : PreparedEntry}
    (h : preflightPriceGuard floatText target guards first second = some entry) (leg : Leg) :
    entryContracts floatText target first second = some (entry.leg leg).contracts := by
  simp only [preflightPriceGuard, Option.bind_eq_bind, Option.bind_eq_some_iff,
    Option.ite_none_right_eq_some] at h
  obtain ⟨firstContracts, hfirstContracts, secondContracts, hsecondContracts, firstLimit,
    hfirstLimit, secondLimit, hsecondLimit, firstPreview, hfirst, secondPreview, hsecond, hguards,
    firstLeg, hfirstLeg, secondLeg, hsecondLeg, hentry⟩ := h
  have hcontracts : entryContracts floatText target first second =
      some (payoutContracts target firstContracts secondContracts firstLimit secondLimit) := by
    simp [entryContracts, hfirstContracts, hsecondContracts, hfirstLimit, hsecondLimit]
  have hleg : ∀ {preview : OrderPreview} {prepared : PreparedLeg},
      preparedLeg floatText preview = some prepared →
      prepared.contracts = preview.requestedContracts := by
    intro preview prepared hprepared
    obtain ⟨fingerprint, _, rfl⟩ := Option.map_eq_some_iff.mp hprepared
    rfl
  cases hentry
  rw [hcontracts, Option.some.injEq]
  cases leg with
  | first =>
      exact (requestedContracts_of_executable hfirst hguards.2.1).symm.trans
        (hleg hfirstLeg).symm
  | second =>
      exact (requestedContracts_of_executable hsecond hguards.2.2.1).symm.trans
        (hleg hsecondLeg).symm

/-- **An authorized entry against its own order.**  The preflight built an entry, the claim of a leg
succeeded, and any other orders were stored, claimed, released and submitted in between: the
submission of the leg is not refused as a mismatch if and only if its contracts survive the
float. -/
theorem authorized_buy_matches_iff {venue : EntryVenue} {target : Dec} {guards : Bool}
    {first second : LegQuote} {entry : PreparedEntry} {leg : Leg} {connector : Connector}
    {claimClock buyClock : Clock} {claimDeadline buyDeadline : Option Dec}
    {others : List CacheAction} {clientOrderId : Option String}
    (hentry : preflightPriceGuard venue.floatText target guards first second = some entry)
    (hclaim : raised (venue.claimLeg claimClock leg (entry.leg leg) claimDeadline) connector = none)
    (hothers : ∀ action ∈ others, action.takes ≠ some (entry.leg leg).fingerprint) :
    raised (venue.buyLeg buyClock leg (entry.leg leg) clientOrderId buyDeadline)
        (others.foldl (CacheAction.run venue.digest)
          (finalState (venue.claimLeg claimClock leg (entry.leg leg) claimDeadline) connector)) ≠
      some .mismatch ↔
      ∃ contracts, entryContracts venue.floatText target first second = some contracts ∧
        venue.floatText.text contracts = contracts := by
  have hcontracts := preflight_contracts hentry leg
  obtain ⟨prepared, hterms, hdigest, hclaimed⟩ := claimed_of_claim hclaim
  have hstill := @CacheAction.runs_claimed venue.digest _ _ others _ hothers hclaimed
  have hbuy : raised (venue.buyLeg buyClock leg (entry.leg leg) clientOrderId buyDeadline)
      (others.foldl (CacheAction.run venue.digest)
        (finalState (venue.claimLeg claimClock leg (entry.leg leg) claimDeadline) connector)) =
      some .mismatch ↔ _ := submit_claimed_mismatch_iff hdigest hstill
  rw [Ne, hbuy, hterms, not_not, hcontracts]
  -- The two terms differ in their contracts alone.
  constructor
  · intro heq
    exact ⟨_, rfl, (congrArg OrderTerms.contracts heq).symm⟩
  · rintro ⟨contracts, hsome, htext⟩
    cases hsome
    rw [htext]

/-! ## Two entries -/

/-- Opposite outcomes at Polymarket and SX Bet, with the texts of floats cut after 17 digits. -/
def polymarketSxVenue : EntryVenue where
  digest := fun orderId payload => orderId ++ ":" ++ payload.signedText
  floatText := .digits17
  router := ⟨.polymarketSx, true⟩
  market :=
    { symbol := "BTC"
      targetLabel := "up"
      polymarketTokenId := "polymarket-token"
      polymarketSide := .yes
      predictFunTokenId := "sx-token"
      predictFunSide := .no
      venueALabel := "Polymarket"
      venueBLabel := "SX Bet" }

/-- A leg with one ask of a thousand contracts, whose preview is signed. -/
def legAt (ask slippageCap : Dec) (fingerprint : String) : LegQuote where
  book := ⟨[⟨ask, 1000⟩], "VALID"⟩
  slippageCap := slippageCap
  minimumNotional := some 1
  feeVerified := some true
  signature := some fingerprint
  signedStake := none

/-- The cache after the preview of the second leg. -/
def previewedConnector (contracts price : Dec) : Connector where
  prepared := Lib.Dict.empty.set "sx:order"
    { payload := ⟨some 1000, "order"⟩
      submitted := ⟨"sx", buyTerms "sx-token" .no contracts price, 25⟩
      fingerprint := "sx:order"
      preparedAtMonotonic := 0 }
  claimed := .empty

/-- A time at which nothing has run out. -/
def clockAt (seconds : Dec) : Clock := ⟨seconds, seconds⟩

/-- Fifty contracts at one half survive the float. -/
theorem authorized_buy_matches_half :
    ∃ entry, preflightPriceGuard polymarketSxVenue.floatText 25 true (legAt (1 / 2) 0 "polymarket")
        (legAt (1 / 2) 0 "sx:order") = some entry ∧
      raised (polymarketSxVenue.buyLeg (clockAt 2) .second (entry.leg .second) none (some 900))
        (finalState (polymarketSxVenue.claimLeg (clockAt 1) .second (entry.leg .second) (some 900))
          (previewedConnector 50 (1 / 2))) ≠ some .mismatch := by
  let entry : PreparedEntry :=
    ⟨⟨50, 25, 1 / 2, "polymarket"⟩, ⟨50, 25, 1 / 2, "sx:order"⟩, 50⟩
  have hentry : preflightPriceGuard polymarketSxVenue.floatText 25 true
      (legAt (1 / 2) 0 "polymarket") (legAt (1 / 2) 0 "sx:order") = some entry := by
    decide +kernel
  have hclaim : raised (polymarketSxVenue.claimLeg (clockAt 1) .second (entry.leg .second)
      (some 900)) (previewedConnector 50 (1 / 2)) = none := by decide +kernel
  have hcontracts : entryContracts polymarketSxVenue.floatText 25 (legAt (1 / 2) 0 "polymarket")
      (legAt (1 / 2) 0 "sx:order") = some 50 := by decide +kernel
  have hfloat : polymarketSxVenue.floatText.text 50 = 50 := by decide +kernel
  have hmatches := (@authorized_buy_matches_iff polymarketSxVenue 25 true _ _ entry .second _ _
    (clockAt 2) _ (some 900) [] none hentry hclaim fun _ h => absurd h List.not_mem_nil).mpr ⟨50, hcontracts, hfloat⟩
  rw [List.foldl_nil] at hmatches
  exact ⟨entry, hentry, hmatches⟩

/-- At an ask of 0.45 and a cap of 0.015 the contracts have 28 digits: the claim of the entry
succeeds, and its submission is refused as a mismatch. -/
theorem authorized_buy_refused :
    ∃ entry, preflightPriceGuard polymarketSxVenue.floatText 25 true
        (legAt (3 / 10) (15 / 1000) "polymarket") (legAt (45 / 100) (15 / 1000) "sx:order") =
        some entry ∧
      raised (polymarketSxVenue.claimLeg (clockAt 1) .second (entry.leg .second) (some 900))
        (previewedConnector (entry.leg .second).contracts (entry.leg .second).price) = none ∧
      raised (polymarketSxVenue.buyLeg (clockAt 2) .second (entry.leg .second) none (some 900))
        (finalState
          (polymarketSxVenue.claimLeg (clockAt 1) .second (entry.leg .second) (some 900))
          (previewedConnector (entry.leg .second).contracts (entry.leg .second).price)) =
        some .mismatch := by
  let contracts : Dec := 1094690749863163656267104543 / 20000000000000000000000000
  let entry : PreparedEntry :=
    ⟨⟨contracts, Dec.mul contracts (609 / 2000), 609 / 2000, "polymarket"⟩,
      ⟨contracts, 25, 1827 / 4000, "sx:order"⟩, contracts⟩
  exact ⟨entry, by decide +kernel, by decide +kernel, by decide +kernel⟩

end ArbitrageEngine.Execution
