/-
# ArbitrageEngine.Reconciliation.SxBetAgreement -- when SX Bet V2 reports an order as it lists it

The report of an order is about one trade, the listing about all.  They agree where the order is
still remembered under the venue's fill hash and no trade but the latest has contracts; once the
order is forgotten, or the venue has answered without a hash, the listing knows no order and files
every trade under its hash.
-/
import ArbitrageEngine.Connectors.SxBetOrders

namespace ArbitrageEngine.SxBetOrders

open Execution (ExecutionReport ExecutionStatus)
open Lib
open Reconciliation (lower)
open Reconciliation.OrderReadings (booked fromStatusText fromStatusText_amountFilled
  fromStatusText_avgPrice)
open SxBetV3 (FillRecord)

/-! ## What the venue promises -/

/-- A fill hash of the venue. -/
def HexHash (fillHash : String) : Prop := "0x".toList <+: fillHash.toList

/-- What happens between a submission and the readings. -/
inductive Since
  | nothing
  | restarted
  | forgotten
deriving DecidableEq

namespace Client

/-- The client after a submission and what has happened since. -/
def afterwards (client : Client) (s : SubmittedFill) : Since → Client
  | .nothing => client.remember s
  | .restarted => {}
  | .forgotten => (client.remember s).forgetOrder s.orderId

theorem submittedFor_restarted (client : Client) (s : SubmittedFill) :
    (client.afterwards s .restarted).submittedFor s.orderId = submittedFromOrderId s.orderId := rfl

/-- No report is kept of the order. -/
theorem reports_afterwards (client : Client) (s : SubmittedFill) (since : Since) :
    (client.afterwards s since).reports.get? s.orderId = none := by
  cases since with
  | nothing => exact Dict.get?_erase_self _ _
  | restarted => rfl
  | forgotten => exact Dict.get?_erase_self _ _

/-- After a restart or when the order is forgotten, none is found under its hash. -/
theorem submittedFillForHash_afterwards {client : Client} {s : SubmittedFill} {since : Since}
    (hsince : since ≠ .nothing) (hne : s.fillHash ≠ "") :
    (client.afterwards s since).submittedFillForHash s.fillHash = none := by
  cases since with
  | nothing => exact absurd rfl hsince
  | restarted => rfl
  | forgotten =>
      refine submittedFillForHash_forgetOrder (submittedFor_remember client s) hne ?_
      intro e he hkey
      have hget : (client.remember s).submittedFills.get? s.fillHash = some s :=
        Dict.get?_set_self _ _ _
      rw [← hkey, Dict.get?_eq_some_iff.mpr he] at hget
      rw [Option.some.inj hget]

end Client

/-- The trades of a fill hash. -/
def Venue.tradesOf (venue : Venue) (fillHash : String) : List Trade :=
  venue.trades.filter fun trade => trade.fillHash = fillHash

/-- What is known of a submission and of the trades that the venue records for it. -/
structure Recorded (bettor : String) (order : Order) (answer fillHash : String) (now : Time)
    (client : Client) (venue : Venue) : Prop where
  /-- A market hash has no colon. -/
  market : ∀ c ∈ order.marketHash.toList, c ≠ ':'
  /-- The clock is past the first two minutes of its time. -/
  clock : 2 * 60 * 10 ^ 6 ≤ now
  /-- The answer has the fill hash, or none. -/
  answered : answer = "" ∨ answer = fillHash
  hash : HexHash fillHash
  hashes : ∀ trade ∈ venue.trades, trade.fillHash = "" ∨ HexHash trade.fillHash
  /-- The fill hash is new. -/
  fresh : client.submittedFillForHash fillHash = none
  /-- The trades of the order are those of a taker, in its market, not before it was submitted. -/
  trades : ∀ trade ∈ venue.tradesOf fillHash, trade.marketHash = order.marketHash ∧
    lower trade.bettor = lower bettor ∧ trade.maker = false ∧ now - 2 * 60 * 10 ^ 6 ≤ trade.time

/-- The records of the trades of a fill hash. -/
def recordsOf (bettor : String) (venue : Venue) (client : Client) (fillHash : String) :
    List FillRecord :=
  (venue.tradesOf fillHash).filterMap (client.fillRecord bettor)

theorem mem_listFills {bettor fillHash : String} {venue : Venue} {client : Client} {trade : Trade}
    {record : FillRecord} (hmem : trade ∈ venue.tradesOf fillHash)
    (hrecord : client.fillRecord bettor trade = some record) :
    record ∈ client.listFills bettor venue :=
  List.mem_filterMap.mpr ⟨trade, (List.mem_filter.mp hmem).1, hrecord⟩

/-- The report of an order agrees with the listing of its trades. -/
structure Agrees (bettor : String) (venue : Venue) (client : Client) (fillHash orderId : String)
    (report : ExecutionReport) : Prop where
  /-- Every successful trade is listed for the order. -/
  attributed : ∀ trade ∈ venue.tradesOf fillHash, trade.isSuccessfulTaker bettor = true →
    ∃ record ∈ client.listFills bettor venue,
      client.fillRecord bettor trade = some record ∧ record.venueOrderId = orderId
  quantity : ((recordsOf bettor venue client fillHash).map (·.quantity)).sum = report.amountFilled
  /-- The average price, each quantity counted. -/
  price : ((recordsOf bettor venue client fillHash).map fun r => r.quantity * r.price).sum =
    report.avgPrice * ((recordsOf bettor venue client fillHash).map (·.quantity)).sum

/-! ## What the client knows of the order -/

section Known

variable {bettor answer fillHash salt : String} {order : Order} {now : Time} {client : Client}
  {venue : Venue}

/-- The order read back from its id. -/
def readBack (order : Order) (answer salt : String) : SubmittedFill :=
  { submittedBy order answer salt 0 with
    tokenId := ""
    requestedContracts := Dec.ctx order.contracts.value
    requestedPrice := Dec.ctx order.price.value }

theorem submittedFromOrderId_eq (answer salt : String) (now : Time)
    (hmarket : ∀ c ∈ order.marketHash.toList, c ≠ ':') :
    submittedFromOrderId (submittedBy order answer salt now).orderId =
      some (readBack order answer salt) := by
  unfold submittedFromOrderId
  show (parseOrderId (composeOrderId (hashOf answer salt) order.action order.side order.marketHash
    order.contracts order.price)).map _ = _
  rw [parse_composeOrderId order.action order.side hmarket order.contracts_pos order.price_pos]
  rfl

/-- A hash of the venue does not begin with an `s`. -/
theorem HexHash.front {text : String} (h : HexHash text) (rest : List Char) :
    text.toList ≠ 's' :: rest := by
  obtain ⟨others, hothers⟩ := h
  intro hs
  rw [hs] at hothers
  cases hothers

/-- The order id is not a hash of the venue. -/
theorem orderId_ne (hhash : HexHash fillHash) :
    (submittedBy order answer salt now).orderId ≠ fillHash := by
  obtain ⟨rest, hrest⟩ := exists_composeOrderId (hashOf answer salt) order.action order.side
    order.marketHash order.contracts order.price
  intro hsame
  apply hhash.front rest
  rw [← hsame]
  exact hrest

/-- A salt is not a hash of the venue. -/
theorem salted_ne (hhash : HexHash fillHash) : "sx-fill:" ++ salt ≠ fillHash := by
  intro hsame
  apply hhash.front ("x-fill:".toList ++ salt.toList)
  rw [← hsame, String.toList_append]
  rfl

/-- The submission, as it is remembered and as it is read back. -/
structure Stands (order : Order) (answer salt : String) (now : Time) (s : SubmittedFill) :
    Prop where
  orderId : s.orderId = (submittedBy order answer salt now).orderId
  fillHash : s.fillHash = hashOf answer salt
  marketHash : s.marketHash = order.marketHash
  requested : 0 < s.requestedContracts
  start : tradeQueryStart s.submittedAt ≤ now - 2 * 60 * 10 ^ 6

theorem stands_submittedBy (hclock : 2 * 60 * 10 ^ 6 ≤ now) :
    Stands order answer salt now (submittedBy order answer salt now) := by
  refine ⟨rfl, rfl, rfl, order.contracts_pos, ?_⟩
  show tradeQueryStart now ≤ _
  have hpos : ¬ now ≤ 0 := not_le.mpr (lt_of_lt_of_le (by norm_num) hclock)
  unfold tradeQueryStart
  rw [if_neg hpos]

theorem stands_readBack (hclock : 2 * 60 * 10 ^ 6 ≤ now) :
    Stands order answer salt now (readBack order answer salt) := by
  refine ⟨rfl, rfl, rfl, Dec.ctx_pos order.contracts_pos, ?_⟩
  show tradeQueryStart 0 ≤ _
  unfold tradeQueryStart
  rw [if_pos le_rfl]
  exact sub_nonneg.mpr hclock

/-- What the client knows of the order by its id. -/
def knownBy (order : Order) (answer salt : String) (now : Time) : Since → SubmittedFill
  | .nothing => submittedBy order answer salt now
  | .restarted | .forgotten => readBack order answer salt

theorem stands_knownBy (hclock : 2 * 60 * 10 ^ 6 ≤ now) (since : Since) :
    Stands order answer salt now (knownBy order answer salt now since) := by
  cases since with
  | nothing => exact stands_submittedBy hclock
  | restarted => exact stands_readBack hclock
  | forgotten => exact stands_readBack hclock

/-- The order is known by its id, whatever has happened since. -/
theorem submittedFor_after (client : Client) (since : Since)
    (hmarket : ∀ c ∈ order.marketHash.toList, c ≠ ':') :
    (client.afterwards (submittedBy order answer salt now) since).submittedFor
        (submittedBy order answer salt now).orderId =
      some (knownBy order answer salt now since) := by
  have hback := submittedFromOrderId_eq answer salt now hmarket
  cases since with
  | nothing => exact Client.submittedFor_remember client _
  | restarted => exact (Client.submittedFor_restarted client _).trans hback
  | forgotten => exact (Client.submittedFor_forgetOrder _ _).trans hback

/-- Under the hash of the venue the order is found only where the hash was answered and nothing has
happened since. -/
theorem submittedFillForHash_after (since : Since)
    (h : Recorded bettor order answer fillHash now client venue) :
    (client.afterwards (submittedBy order answer salt now) since).submittedFillForHash fillHash =
      if answer ≠ "" ∧ since = .nothing then some (submittedBy order answer salt now)
      else none := by
  by_cases hanswer : answer = ""
  · rw [if_neg (fun hboth => hboth.1 hanswer)]
    have hother : fillHash ≠ (submittedBy order answer salt now).fillHash := by
      show fillHash ≠ hashOf answer salt
      unfold hashOf
      rw [if_pos hanswer]
      exact (salted_ne h.hash).symm
    have hremember := Client.submittedFillForHash_remember_of_ne h.fresh
      (orderId_ne h.hash).symm hother
    cases since with
    | nothing => exact hremember
    | restarted => rfl
    | forgotten => exact Client.submittedFillForHash_forgetOrder_of_none hremember
  · have hhash : (submittedBy order answer salt now).fillHash = fillHash := by
      show hashOf answer salt = fillHash
      unfold hashOf
      rw [if_neg hanswer]
      exact h.answered.resolve_left hanswer
    by_cases hsince : since = .nothing
    · rw [if_pos ⟨hanswer, hsince⟩, ← hhash, hsince]
      exact Client.submittedFillForHash_remember client _
    · have hne : (submittedBy order answer salt now).fillHash ≠ "" := by
        rw [hhash, ← h.answered.resolve_left hanswer]
        exact hanswer
      rw [if_neg (fun hboth => hsince hboth.2), ← hhash]
      exact Client.submittedFillForHash_afterwards hsince hne

/-! ## The trade that is found -/

theorem hashOf_of_answer (h : Recorded bettor order answer fillHash now client venue)
    (hanswer : answer ≠ "") (salt : String) : hashOf answer salt = fillHash := by
  unfold hashOf
  rw [if_neg hanswer]
  exact h.answered.resolve_left hanswer

/-- The query of an order finds its trades. -/
theorem mem_queried (h : Recorded bettor order answer fillHash now client venue) {s : SubmittedFill}
    (hs : Stands order answer salt now s) {trade : Trade} (hmem : trade ∈ venue.tradesOf fillHash) :
    (((if s.marketHash = "" then [] else [s.marketHash]) = [] ∨
        trade.marketHash ∈ (if s.marketHash = "" then [] else [s.marketHash])) ∧
      tradeQueryStart s.submittedAt / 10 ^ 6 * 10 ^ 6 ≤ trade.time) ∧
      lower trade.bettor = lower bettor := by
  obtain ⟨hmarket, hbettor, -, htime⟩ := h.trades trade hmem
  refine ⟨⟨?_, ?_⟩, hbettor⟩
  · rw [hs.marketHash, if_neg order.market_registered, hmarket]
    exact .inr (List.mem_singleton_self _)
  · calc tradeQueryStart s.submittedAt / 10 ^ 6 * 10 ^ 6
        ≤ tradeQueryStart s.submittedAt := Int.ediv_mul_le _ (by norm_num)
      _ ≤ now - 2 * 60 * 10 ^ 6 := hs.start
      _ ≤ trade.time := htime

/-- The trades with the hash of an order. -/
theorem hashMatches_eq (h : Recorded bettor order answer fillHash now client venue)
    {s : SubmittedFill} (hs : Stands order answer salt now s) :
    hashMatches bettor venue s = if answer = "" then [] else venue.tradesOf fillHash := by
  unfold hashMatches queried Venue.answer
  rw [List.filter_filter]
  by_cases hanswer : answer = ""
  · rw [if_pos hanswer]
    -- No trade has a salt for its hash.
    apply List.filter_eq_nil_iff.mpr
    intro trade htrade hfound
    simp only [Bool.and_eq_true, decide_eq_true_eq] at hfound
    have hsalted : trade.fillHash = "sx-fill:" ++ salt := by
      rw [hfound.1.1, hs.fillHash, hashOf, if_pos hanswer]
    rcases h.hashes trade htrade with hblank | hhash
    · rw [hblank] at hsalted
      have hchars := congrArg String.toList hsalted
      rw [String.toList_append] at hchars
      cases hchars
    · exact salted_ne hhash hsalted.symm
  · rw [if_neg hanswer]
    unfold Venue.tradesOf
    apply List.filter_congr
    intro trade htrade
    have hhash : s.fillHash = fillHash := hs.fillHash.trans (hashOf_of_answer h hanswer salt)
    rw [Bool.eq_iff_iff]
    simp only [Bool.and_eq_true, decide_eq_true_eq, hhash]
    constructor
    · exact fun hfound => hfound.1.1
    · intro hsame
      have hmem : trade ∈ venue.tradesOf fillHash :=
        List.mem_filter.mpr ⟨htrade, by simpa using hsame⟩
      obtain ⟨hquery, hbettor⟩ := mem_queried h hs hmem
      exact ⟨⟨hsame, hbettor⟩, hquery⟩

/-- Where the trade of an order is looked for. -/
def pool (bettor answer fillHash : String) (venue : Venue) (s : SubmittedFill) : List Trade :=
  if answer = "" then likeness bettor venue s else venue.tradesOf fillHash

theorem findSubmittedTrade_eq (h : Recorded bettor order answer fillHash now client venue)
    {s : SubmittedFill} (hs : Stands order answer salt now s) :
    findSubmittedTrade bettor venue s =
      (byScore Trade.date (pool bettor answer fillHash venue s)).head? := by
  unfold findSubmittedTrade pool
  rw [hashMatches_eq h hs, hs.fillHash]
  by_cases hanswer : answer = ""
  · have hsalted : saltedHash (hashOf answer salt) = true := by
      unfold saltedHash hashOf
      rw [if_pos hanswer, String.toList_append]
      exact List.isPrefixOf_iff_prefix.mpr (List.prefix_append _ _)
    rw [hsalted, if_pos hanswer, if_pos hanswer]
    rfl
  · have hsalted : saltedHash (hashOf answer salt) = false := by
      rw [hashOf_of_answer h hanswer]
      unfold saltedHash
      rw [Bool.eq_false_iff]
      intro hprefix
      obtain ⟨rest, hrest⟩ := List.isPrefixOf_iff_prefix.mp hprefix
      exact h.hash.front _ hrest.symm
    dsimp only
    rw [hsalted, if_neg hanswer, if_neg hanswer, Bool.and_false]
    rfl

/-! ## Amounts -/

theorem booked_zero (requested : Dec) : booked requested 0 = 0 := by
  unfold booked
  rw [max_self]
  exact min_eq_left (le_max_left 0 requested)

theorem booked_nonneg (requested filled : Dec) : 0 ≤ booked requested filled :=
  le_min (le_max_left 0 filled) (le_max_left 0 requested)

/-- Nothing is booked where nothing is filled. -/
theorem booked_eq_zero_iff {requested : Dec} (h : 0 < requested) (filled : Dec) :
    booked requested filled = 0 ↔ filled ≤ 0 := by
  unfold booked
  rw [max_eq_right h.le]
  constructor
  · intro hzero
    by_contra hpos
    rw [max_eq_right (not_le.mp hpos).le] at hzero
    rcases min_choice filled requested with hmin | hmin
    · rw [hmin] at hzero
      exact hpos hzero.le
    · rw [hmin] at hzero
      exact h.ne' hzero
  · intro hnone
    rw [max_eq_left hnone]
    exact min_eq_left h.le

/-- What a trade adds to the filled amount of an order. -/
def share (bettor : String) (s : SubmittedFill) (trade : Trade) : Dec :=
  if trade.isSuccessfulTaker bettor then booked s.requestedContracts trade.contracts else 0

theorem share_nonneg (bettor : String) (s : SubmittedFill) (trade : Trade) :
    0 ≤ share bettor s trade := by
  unfold share
  split
  · exact booked_nonneg _ _
  · exact le_rfl

theorem share_eq_zero_iff {s : SubmittedFill} (hs : 0 < s.requestedContracts) (trade : Trade) :
    share bettor s trade = 0 ↔
      (trade.isSuccessfulTaker bettor = true → trade.contracts ≤ 0) := by
  unfold share
  split
  · next hsuccess => simp [booked_eq_zero_iff hs, hsuccess]
  · next hsuccess => simp [hsuccess]

theorem requestedOf_of_pos {s : SubmittedFill} (hs : 0 < s.requestedContracts) (trade : Trade) :
    requestedOf (some s) trade = s.requestedContracts := by
  unfold requestedOf
  simp [hs]

/-- A trade of the account as a taker is reported with its share. -/
theorem amountFilled_report {s : SubmittedFill} (hs : 0 < s.requestedContracts) {trade : Trade}
    (hbettor : lower trade.bettor = lower bettor) (hmaker : trade.maker = false)
    (orderId : String) :
    (executionReportFromTrade orderId (some s) trade).amountFilled = share bettor s trade := by
  unfold executionReportFromTrade
  dsimp only
  rw [fromStatusText_amountFilled, requestedOf_of_pos hs]
  unfold share Trade.isSuccessfulTaker Trade.isConfirmed
  by_cases hsuccess : trade.tradeStatus.toUpper = "SUCCESS" ∧ trade.valid = true
  · simp [hbettor, hmaker, hsuccess]
  · rw [if_neg hsuccess, booked_zero]
    simp only [not_and] at hsuccess
    by_cases hstatus : trade.tradeStatus.toUpper = "SUCCESS"
    · simp [hbettor, hmaker, hstatus, hsuccess hstatus]
    · simp [hbettor, hmaker, hstatus]

/-! ## The listing of the trades -/

/-- The price of a trade, as it is reported and listed. -/
def reportedPrice (s : SubmittedFill) (trade : Trade) : Dec := max 0 (priceOf (some s) trade)

theorem avgPrice_report (orderId : String) (s : SubmittedFill) (trade : Trade) :
    (executionReportFromTrade orderId (some s) trade).avgPrice = reportedPrice s trade := by
  unfold executionReportFromTrade
  dsimp only
  rw [fromStatusText_avgPrice]
  rfl

theorem fillRecord_of_failed {known : Client} {trade : Trade}
    (h : ¬ trade.isSuccessfulTaker bettor = true) : known.fillRecord bettor trade = none := by
  unfold Client.fillRecord
  simp [h]

/-- A successful trade of an order that is found under its hash. -/
theorem fillRecord_of_known {known : Client} {s : SubmittedFill} (hs : 0 < s.requestedContracts)
    {trade : Trade} (hfound : known.submittedFillForHash trade.fillHash = some s)
    (hne : trade.fillHash ≠ "") (hsuccess : trade.isSuccessfulTaker bettor = true) :
    ∃ record, known.fillRecord bettor trade = some record ∧ record.venueOrderId = s.orderId ∧
      record.quantity = share bettor s trade ∧ record.price = reportedPrice s trade := by
  unfold Client.fillRecord
  rw [if_neg (by simp [hsuccess]), if_neg hne]
  dsimp only
  rw [hfound, Option.some_or]
  have htaker := hsuccess
  simp only [Trade.isSuccessfulTaker, Bool.and_eq_true, decide_eq_true_eq,
    Bool.not_eq_true'] at htaker
  exact ⟨_, rfl, rfl, amountFilled_report hs htaker.1.1 htaker.1.2 s.orderId,
    avgPrice_report s.orderId s trade⟩

/-- A successful trade of an order that is not found is listed under its hash. -/
theorem fillRecord_of_unknown {known : Client} {trade : Trade}
    (hfound : known.submittedFillForHash trade.fillHash = none) (hne : trade.fillHash ≠ "")
    (hsuccess : trade.isSuccessfulTaker bettor = true) :
    ∃ record, known.fillRecord bettor trade = some record ∧
      record.venueOrderId = trade.fillHash := by
  unfold Client.fillRecord
  rw [if_neg (by simp [hsuccess]), if_neg hne]
  dsimp only
  rw [hfound]
  refine ⟨_, rfl, ?_⟩
  unfold Trade.submitted
  rw [if_neg hne]
  rfl

/-- The quantities that are listed for an order are the shares of its trades. -/
theorem sum_records {known : Client} {s : SubmittedFill} (hs : 0 < s.requestedContracts)
    (l : List Trade) (hl : ∀ trade ∈ l,
      known.submittedFillForHash trade.fillHash = some s ∧ trade.fillHash ≠ "") :
    ((l.filterMap (known.fillRecord bettor)).map (·.quantity)).sum =
        (l.map (share bettor s)).sum ∧
      ((l.filterMap (known.fillRecord bettor)).map fun r => r.quantity * r.price).sum =
        (l.map fun trade => share bettor s trade * reportedPrice s trade).sum := by
  induction l with
  | nil => exact ⟨rfl, rfl⟩
  | cons trade rest ih =>
      obtain ⟨hquantity, hprice⟩ := ih fun t ht => hl t (List.mem_cons_of_mem _ ht)
      obtain ⟨hfound, hne⟩ := hl trade List.mem_cons_self
      by_cases hsuccess : trade.isSuccessfulTaker bettor = true
      · obtain ⟨record, hrecord, -, hq, hp⟩ := fillRecord_of_known hs hfound hne hsuccess
        rw [List.filterMap_cons_some hrecord]
        simp only [List.map_cons, List.sum_cons, hq, hp, hquantity, hprice]
        exact ⟨trivial, trivial⟩
      · have hzero : share bettor s trade = 0 := if_neg hsuccess
        rw [List.filterMap_cons_none (fillRecord_of_failed hsuccess)]
        simp only [List.map_cons, List.sum_cons, hquantity, hprice, hzero, zero_add, zero_mul]
        exact ⟨trivial, trivial⟩

/-- The sum over a list of which a member leads. -/
theorem sum_of_leads {score : Trade → ℚ} {l rest : List Trade} {first : Trade}
    (h : Leads score l first rest) (f : Trade → Dec) :
    (l.map f).sum = f first + (rest.map f).sum := by
  obtain ⟨before, after, rfl, rfl, -⟩ := h
  simp only [List.map_append, List.map_cons, List.sum_append, List.sum_cons]
  ring

/-- Shares add up to nothing where each is none. -/
theorem sum_share_eq_zero_iff {s : SubmittedFill} (hs : 0 < s.requestedContracts)
    (l : List Trade) : (l.map (share bettor s)).sum = 0 ↔
      ∀ trade ∈ l, trade.isSuccessfulTaker bettor = true → trade.contracts ≤ 0 := by
  induction l with
  | nil => simp
  | cons trade rest ih =>
      have hrest : 0 ≤ (rest.map (share bettor s)).sum := by
        apply List.sum_nonneg
        intro x hx
        obtain ⟨t, -, rfl⟩ := List.mem_map.mp hx
        exact share_nonneg bettor s t
      rw [List.map_cons, List.sum_cons,
        add_eq_zero_iff_of_nonneg (share_nonneg bettor s trade) hrest, share_eq_zero_iff hs, ih,
        List.forall_mem_cons]

/-! ## The report of an order -/

/-- What `get_order` reports of an order. -/
def reportOf (bettor : String) (venue : Venue) (orderId : String) (s : SubmittedFill) :
    ExecutionReport :=
  match findSubmittedTrade bettor venue s with
  | none => fromStatusText orderId s.requestedContracts 0 "open" 0
  | some trade => executionReportFromTrade orderId (some s) trade

theorem getOrder_eq (bettor : String) (venue : Venue) {known : Client} {orderId : String}
    {s : SubmittedFill} (hreports : known.reports.get? orderId = none)
    (hs : known.submittedFor orderId = some s) :
    ∃ known', known.getOrder bettor venue orderId =
      some (reportOf bettor venue orderId s, known') := by
  unfold Client.getOrder
  rw [hreports, hs]
  exact ⟨_, rfl⟩

/-- The readings of the order agree. -/
def ReadingsAgree (bettor : String) (venue : Venue) (known : Client) (fillHash orderId : String) :
    Prop :=
  ∃ report known', known.getOrder bettor venue orderId = some (report, known') ∧
    Agrees bettor venue known fillHash orderId report

theorem readingsAgree_iff {known : Client} {orderId : String} {s : SubmittedFill}
    (hreports : known.reports.get? orderId = none) (hs : known.submittedFor orderId = some s) :
    ReadingsAgree bettor venue known fillHash orderId ↔
      Agrees bettor venue known fillHash orderId (reportOf bettor venue orderId s) := by
  obtain ⟨known', hget⟩ := getOrder_eq bettor venue hreports hs
  constructor
  · rintro ⟨report, known'', hread, hagrees⟩
    rw [hget] at hread
    rw [(Prod.mk.inj (Option.some.inj hread)).1]
    exact hagrees
  · exact fun hagrees => ⟨_, known', hget, hagrees⟩

/-- The filled amount of the report of an order. -/
theorem amountFilled_reportOf (h : Recorded bettor order answer fillHash now client venue)
    {s : SubmittedFill} (hs : Stands order answer salt now s) (orderId : String) :
    (pool bettor answer fillHash venue s = [] ∧
        (reportOf bettor venue orderId s).amountFilled = 0) ∨
      ∃ first rest, Leads Trade.date (pool bettor answer fillHash venue s) first rest ∧
        (reportOf bettor venue orderId s).amountFilled = share bettor s first ∧
        (reportOf bettor venue orderId s).avgPrice = reportedPrice s first := by
  unfold reportOf
  rw [findSubmittedTrade_eq h hs]
  by_cases hpool : pool bettor answer fillHash venue s = []
  · refine .inl ⟨hpool, ?_⟩
    rw [byScore_eq_nil_iff.mpr hpool]
    show (fromStatusText orderId s.requestedContracts 0 "open" 0).amountFilled = 0
    rw [fromStatusText_amountFilled, booked_zero]
  · obtain ⟨first, rest, hleads⟩ := @exists_leads _ Trade.date _ hpool
    refine .inr ⟨first, rest, hleads, ?_⟩
    rw [byScore_of_leads hleads]
    refine ⟨?_, avgPrice_report orderId s first⟩
    -- Those of the order are the account's, and so are those that look like it.
    have htaker : lower first.bettor = lower bettor ∧ first.maker = false := by
      have hmem := hleads.mem
      unfold pool at hmem
      split at hmem
      · have hlike := (List.mem_filter.mp hmem).2
        simp only [tradeMatchesSubmittedFill, Trade.isSuccessfulTaker, Bool.and_eq_true,
          decide_eq_true_eq, Bool.not_eq_true'] at hlike
        exact hlike.1.1.1.1.1.1
      · exact ⟨(h.trades first hmem).2.1, (h.trades first hmem).2.2.1⟩
    exact amountFilled_report hs.requested htaker.1 htaker.2 orderId

/-! ## When the readings agree -/

/-- Every trade of an order has its hash. -/
theorem fillHash_of_mem {trade : Trade} (hmem : trade ∈ venue.tradesOf fillHash) :
    trade.fillHash = fillHash := by
  simpa using (List.mem_filter.mp hmem).2

theorem HexHash.ne_blank (h : HexHash fillHash) : fillHash ≠ "" := by
  rintro rfl
  obtain ⟨rest, hrest⟩ := h
  cases hrest

/-- The listing of an order that is found under its hash agrees with the report of the latest trade
where no other trade has contracts. -/
theorem agrees_of_leads {known : Client} {s : SubmittedFill} (hs : 0 < s.requestedContracts)
    {report : ExecutionReport} {first : Trade} {rest : List Trade}
    (hall : ∀ trade ∈ venue.tradesOf fillHash,
      known.submittedFillForHash trade.fillHash = some s ∧ trade.fillHash ≠ "")
    (hleads : Leads Trade.date (venue.tradesOf fillHash) first rest)
    (hfilled : report.amountFilled = share bettor s first)
    (havg : report.avgPrice = reportedPrice s first) :
    Agrees bettor venue known fillHash s.orderId report ↔
      ∀ trade ∈ rest, trade.isSuccessfulTaker bettor = true → trade.contracts ≤ 0 := by
  obtain ⟨hquantities, hprices⟩ := @sum_records bettor known s hs _ hall
  rw [← sum_share_eq_zero_iff hs]
  have hsum := sum_of_leads hleads (share bettor s)
  constructor
  · intro hagrees
    have hquantity := hagrees.quantity
    unfold recordsOf at hquantity
    rw [hquantities, hsum, hfilled] at hquantity
    linarith
  · intro hzero
    have hshares : (((venue.tradesOf fillHash).filterMap (known.fillRecord bettor)).map
        (·.quantity)).sum = share bettor s first := by
      rw [hquantities, hsum, hzero, add_zero]
    -- The others add no quantity, so their prices do not count.
    have hrest : (rest.map fun trade => share bettor s trade * reportedPrice s trade).sum = 0 := by
      have hnone := (sum_share_eq_zero_iff hs rest).mp hzero
      apply List.sum_eq_zero
      intro x hx
      obtain ⟨trade, hmem, rfl⟩ := List.mem_map.mp hx
      rw [(share_eq_zero_iff hs trade).mpr (hnone trade hmem), zero_mul]
    refine ⟨?_, ?_, ?_⟩
    · intro trade hmem hsuccess
      obtain ⟨hfound, hne⟩ := hall trade hmem
      obtain ⟨record, hrecord, horder, -⟩ := fillRecord_of_known hs hfound hne hsuccess
      exact ⟨record, mem_listFills hmem hrecord, hrecord, horder⟩
    · unfold recordsOf
      rw [hshares, hfilled]
    · unfold recordsOf
      rw [hshares, hprices, havg,
        sum_of_leads hleads fun trade => share bettor s trade * reportedPrice s trade, hrest]
      ring

/-- An order that is found under its hash. -/
theorem agrees_of_known_iff (h : Recorded bettor order answer fillHash now client venue)
    {known : Client} {s : SubmittedFill} (hs : Stands order answer salt now s)
    (hanswer : answer ≠ "") (hfound : known.submittedFillForHash fillHash = some s) :
    Agrees bettor venue known fillHash s.orderId (reportOf bettor venue s.orderId s) ↔
      ∀ first rest, Leads Trade.date (venue.tradesOf fillHash) first rest →
        ∀ trade ∈ rest, trade.isSuccessfulTaker bettor = true → trade.contracts ≤ 0 := by
  have hall : ∀ trade ∈ venue.tradesOf fillHash,
      known.submittedFillForHash trade.fillHash = some s ∧ trade.fillHash ≠ "" := by
    intro trade hmem
    rw [fillHash_of_mem hmem]
    exact ⟨hfound, h.hash.ne_blank⟩
  have hpool : pool bettor answer fillHash venue s = venue.tradesOf fillHash := if_neg hanswer
  rcases amountFilled_reportOf h hs s.orderId with ⟨hnil, hzero⟩ | ⟨first, rest, hleads, hreport⟩
  · rw [hpool] at hnil
    have hrecords : recordsOf bettor venue known fillHash = [] := by
      unfold recordsOf
      rw [hnil, List.filterMap_nil]
    constructor
    · intro _ first rest hleads
      have hmem := hleads.mem
      rw [hnil] at hmem
      cases hmem
    · intro _
      refine ⟨?_, ?_, ?_⟩
      · intro trade hmem
        rw [hnil] at hmem
        cases hmem
      · rw [hrecords, hzero]
        rfl
      · rw [hrecords]
        exact (mul_zero _).symm
  · rw [hpool] at hleads
    rw [agrees_of_leads hs.requested hall hleads hreport.1 hreport.2,
      ← sum_share_eq_zero_iff hs.requested]
    -- Whoever leads, the rest has the same shares.
    constructor
    · intro hrest first' rest' hleads'
      have hsame := (byScore_of_leads hleads).symm.trans (byScore_of_leads hleads')
      have hsum := (sum_of_leads hleads (share bettor s)).symm.trans
        (sum_of_leads hleads' (share bettor s))
      rw [(List.cons.inj hsame).1] at hsum
      rw [← sum_share_eq_zero_iff hs.requested, ← add_left_cancel hsum]
      exact hrest
    · intro hall'
      rw [sum_share_eq_zero_iff hs.requested]
      exact hall' first rest hleads

/-- The trades of an order that is not found under its hash are listed under the hash. -/
theorem agrees_of_unknown_iff {known : Client} {orderId : String} {report : ExecutionReport}
    (hhash : HexHash fillHash) (hne : orderId ≠ fillHash)
    (hfound : known.submittedFillForHash fillHash = none) :
    Agrees bettor venue known fillHash orderId report ↔
      (∀ trade ∈ venue.tradesOf fillHash, ¬ trade.isSuccessfulTaker bettor = true) ∧
        report.amountFilled = 0 := by
  have hrecords (hnone : ∀ trade ∈ venue.tradesOf fillHash,
      ¬ trade.isSuccessfulTaker bettor = true) : recordsOf bettor venue known fillHash = [] := by
    unfold recordsOf
    rw [List.filterMap_eq_nil_iff]
    exact fun trade hmem => fillRecord_of_failed (hnone trade hmem)
  constructor
  · intro hagrees
    have hnone : ∀ trade ∈ venue.tradesOf fillHash,
        ¬ trade.isSuccessfulTaker bettor = true := by
      intro trade hmem hsuccess
      obtain ⟨record, -, hrecord, horder⟩ := hagrees.attributed trade hmem hsuccess
      have hsame := fillHash_of_mem hmem
      obtain ⟨record', hrecord', horder'⟩ := @fillRecord_of_unknown bettor known trade
        (by rw [hsame]; exact hfound) (by rw [hsame]; exact hhash.ne_blank) hsuccess
      rw [hrecord] at hrecord'
      apply hne
      rw [← horder, Option.some.inj hrecord', horder', hsame]
    refine ⟨hnone, ?_⟩
    have hquantity := hagrees.quantity
    rw [hrecords hnone] at hquantity
    exact hquantity.symm
  · rintro ⟨hnone, hzero⟩
    refine ⟨?_, ?_, ?_⟩
    · exact fun trade hmem hsuccess => absurd hsuccess (hnone trade hmem)
    · rw [hrecords hnone, hzero]
      rfl
    · rw [hrecords hnone]
      exact (mul_zero _).symm

/-- Nothing is reported as filled of an order without a successful trade, unless a trade that looks
like it leads. -/
theorem amountFilled_eq_zero_iff (h : Recorded bettor order answer fillHash now client venue)
    {s : SubmittedFill} (hs : Stands order answer salt now s) (orderId : String)
    (hnone : ∀ trade ∈ venue.tradesOf fillHash, ¬ trade.isSuccessfulTaker bettor = true) :
    (reportOf bettor venue orderId s).amountFilled = 0 ↔
      (answer = "" → ∀ first rest, Leads Trade.date (likeness bettor venue s) first rest →
        first.contracts ≤ 0) := by
  by_cases hanswer : answer = ""
  · have hpool : pool bettor answer fillHash venue s = likeness bettor venue s := if_pos hanswer
    have hreported := amountFilled_reportOf h hs orderId
    rw [hpool] at hreported
    rcases hreported with ⟨hnil, hzero⟩ | ⟨first, rest, hleads, hreport, -⟩
    · refine iff_of_true hzero ?_
      intro _ first rest hleads
      have hmem := hleads.mem
      rw [hnil] at hmem
      cases hmem
    · have hsuccess : first.isSuccessfulTaker bettor = true := by
        have hlike := (List.mem_filter.mp hleads.mem).2
        simp only [tradeMatchesSubmittedFill, Bool.and_eq_true] at hlike
        exact hlike.1.1.1.1.1
      rw [hreport, share_eq_zero_iff hs.requested]
      constructor
      · intro hcontracts _ first' rest' hleads'
        have hsame := (byScore_of_leads hleads).symm.trans (byScore_of_leads hleads')
        rw [← (List.cons.inj hsame).1]
        exact hcontracts hsuccess
      · exact fun hall _ => hall hanswer first rest hleads
  · have hpool : pool bettor answer fillHash venue s = venue.tradesOf fillHash := if_neg hanswer
    refine iff_of_true ?_ (fun hblank => absurd hblank hanswer)
    rcases amountFilled_reportOf h hs orderId with ⟨-, hzero⟩ | ⟨first, rest, hleads, hreport, -⟩
    · exact hzero
    · rw [hpool] at hleads
      rw [hreport]
      exact if_neg (hnone first hleads.mem)

/-- **When the report of an order agrees with the listing of its trades**: where the order is
remembered under the hash that was answered, if and only if no trade but the latest has contracts;
where it is not, if and only if no trade is successful and none that looks like it is reported. -/
theorem readings_agree_iff (h : Recorded bettor order answer fillHash now client venue)
    (salt : String) (since : Since) :
    ReadingsAgree bettor venue (client.afterwards (submittedBy order answer salt now) since)
        fillHash (submitFill order answer salt now client).1 ↔
      if answer ≠ "" ∧ since = .nothing then
        ∀ first rest, Leads Trade.date (venue.tradesOf fillHash) first rest →
          ∀ trade ∈ rest, trade.isSuccessfulTaker bettor = true → trade.contracts ≤ 0
      else
        (∀ trade ∈ venue.tradesOf fillHash, ¬ trade.isSuccessfulTaker bettor = true) ∧
          (answer = "" → ∀ first rest,
            Leads Trade.date (likeness bettor venue (knownBy order answer salt now since)) first
              rest → first.contracts ≤ 0) := by
  have hstands := @stands_knownBy answer salt order now h.clock since
  have hhash :=
    @submittedFillForHash_after bettor answer fillHash salt order now client venue since h
  refine (readingsAgree_iff (Client.reports_afterwards client _ since)
    (submittedFor_after client since h.market)).trans ?_
  show Agrees bettor venue _ fillHash (submittedBy order answer salt now).orderId _ ↔ _
  split
  · next hknown =>
      rw [if_pos hknown] at hhash
      obtain ⟨hanswer, rfl⟩ := hknown
      exact agrees_of_known_iff h (stands_submittedBy h.clock) hanswer hhash
  · next hunknown =>
      rw [if_neg hunknown] at hhash
      refine (agrees_of_unknown_iff h.hash (orderId_ne h.hash) hhash).trans ?_
      exact and_congr_right fun hnone => amountFilled_eq_zero_iff h hstands _ hnone

end Known

namespace AgreementExamples

/-- Twenty contracts at a half. -/
def twenty : Order where
  tokenId := "0xmarket:YES"
  marketHash := "0xmarket"
  side := .yes
  action := .buy
  contracts := ⟨false, 20, 0⟩
  price := ⟨false, 5, -1⟩
  market_registered := by decide
  contracts_pos := by decide +kernel
  price_pos := by decide +kernel
  price_lt_one := by decide +kernel
  actual_pos := by decide +kernel
  actual_lt_one := by decide +kernel

/-- The order is submitted five minutes after the beginning of time. -/
def submission : Time := 300 * 10 ^ 6

/-- A trade of ten dollars at a half. -/
def bought (id status : String) (second : ℤ) : Trade where
  id := id
  fillHash := "0xfill"
  marketHash := "0xmarket"
  bettor := "0xaccount"
  bettingOutcomeOne := true
  normalizedStake := some 10
  odds := 5 * 10 ^ 19
  tradeStatus := status
  time := second * 10 ^ 6

/-- A fill that failed and was done again. -/
def retried : Venue := ⟨[bought "1" "FAILED" 301, bought "2" "SUCCESS" 302]⟩

/-- A fill in two trades. -/
def halved : Venue := ⟨[bought "1" "SUCCESS" 301, bought "2" "SUCCESS" 302]⟩

theorem recorded {venue : Venue} (h : ∀ trade ∈ venue.trades, trade.fillHash = "0xfill" ∧
      trade.marketHash = "0xmarket" ∧ trade.bettor = "0xaccount" ∧ trade.maker = false ∧
      submission ≤ trade.time) :
    Recorded "0xaccount" twenty "0xfill" "0xfill" submission {} venue := by
  have hhash : HexHash "0xfill" := by
    unfold HexHash
    decide
  refine ⟨List.all_iff_forall_prop.mp (by decide), by decide, .inr rfl, hhash, ?_, rfl, ?_⟩
  · intro trade hmem
    rw [(h trade hmem).1]
    exact .inr hhash
  · intro trade hmem
    obtain ⟨-, hmarket, hbettor, hmaker, htime⟩ := h trade (List.mem_filter.mp hmem).1
    exact ⟨hmarket, congrArg lower hbettor, hmaker, le_trans (by decide) htime⟩

theorem retried_recorded :
    Recorded "0xaccount" twenty "0xfill" "0xfill" submission {} retried :=
  recorded (by decide)

theorem halved_recorded : Recorded "0xaccount" twenty "0xfill" "0xfill" submission {} halved :=
  recorded (by decide)

/-- The trade that failed is not counted. -/
theorem retried_agree :
    Recorded "0xaccount" twenty "0xfill" "0xfill" submission {} retried ∧
      ReadingsAgree "0xaccount" retried
        (({} : Client).afterwards (submittedBy twenty "0xfill" "salt" submission) .nothing)
        "0xfill" (submitFill twenty "0xfill" "salt" submission {}).1 := by
  refine ⟨retried_recorded, (readings_agree_iff retried_recorded "salt" .nothing).mpr ?_⟩
  rw [if_pos (by decide)]
  rintro first rest ⟨before, after, htrades, rfl, -, hafter⟩ trade hmem hsuccess
  have hboth : [bought "1" "FAILED" 301, bought "2" "SUCCESS" 302] = before ++ first :: after :=
    htrades
  match before, hboth with
  | [], hboth =>
      -- The second trade is later.
      obtain ⟨rfl, rfl⟩ := List.cons.inj hboth
      have hlater := hafter _ List.mem_cons_self
      exact absurd hlater (by decide +kernel)
  | _ :: before, hboth =>
      obtain ⟨rfl, hsecond⟩ := List.cons.inj hboth
      rcases before with _ | ⟨other, before⟩
      · obtain ⟨-, rfl⟩ := List.cons.inj hsecond
        rw [List.append_nil, List.mem_singleton] at hmem
        rw [hmem] at hsuccess
        exact absurd hsuccess (by decide +kernel)
      · have hnone : before ++ first :: after = [] := (List.cons.inj hsecond).2.symm
        exact absurd hnone (List.append_ne_nil_of_right_ne_nil _ (List.cons_ne_nil _ _))

/-- After a restart the trades of an order are listed under their hash; a fill in two trades is
reported by half. -/
theorem restarted_and_halved_disagree :
    (Recorded "0xaccount" twenty "0xfill" "0xfill" submission {} retried ∧
      ¬ ReadingsAgree "0xaccount" retried
        (({} : Client).afterwards (submittedBy twenty "0xfill" "salt" submission) .restarted)
        "0xfill" (submitFill twenty "0xfill" "salt" submission {}).1) ∧
    (Recorded "0xaccount" twenty "0xfill" "0xfill" submission {} halved ∧
      ¬ ReadingsAgree "0xaccount" halved
        (({} : Client).afterwards (submittedBy twenty "0xfill" "salt" submission) .nothing)
        "0xfill" (submitFill twenty "0xfill" "salt" submission {}).1) := by
  refine ⟨⟨retried_recorded, ?_⟩, ⟨halved_recorded, ?_⟩⟩
  · intro hagree
    have hknown := @submittedFor_after "0xfill" "salt" twenty submission {} .restarted
      retried_recorded.market
    have hagrees := (readingsAgree_iff (Client.reports_afterwards {} _ .restarted) hknown).mp hagree
    have hnone := ((agrees_of_unknown_iff retried_recorded.hash (orderId_ne retried_recorded.hash)
      rfl).mp hagrees).1
    have hmem : bought "2" "SUCCESS" 302 ∈ retried.tradesOf "0xfill" :=
      List.mem_cons_of_mem _ (List.mem_singleton_self _)
    exact hnone _ hmem (by decide +kernel)
  · intro hagree
    have hhash := @submittedFillForHash_after _ _ _ "salt" _ _ _ _ .nothing halved_recorded
    rw [if_pos (by decide)] at hhash
    have hknown := @submittedFor_after "0xfill" "salt" twenty submission {} .nothing
      halved_recorded.market
    have hagrees := (readingsAgree_iff (Client.reports_afterwards {} _ .nothing) hknown).mp hagree
    have hrest := (agrees_of_known_iff halved_recorded
      (stands_submittedBy halved_recorded.clock) (by decide) hhash).mp hagrees
    have hleads : Leads Trade.date (halved.tradesOf "0xfill") (bought "2" "SUCCESS" 302)
        [bought "1" "SUCCESS" 301] := by
      refine ⟨[bought "1" "SUCCESS" 301], [], rfl, rfl, ?_, by simp⟩
      intro trade hmem
      rw [List.mem_singleton.mp hmem]
      decide +kernel
    have hcontracts := hrest _ _ hleads _ (List.mem_singleton_self _) (by decide +kernel)
    exact absurd hcontracts (by decide +kernel)

end AgreementExamples

end ArbitrageEngine.SxBetOrders
