/-
# ArbitrageEngine.Reconciliation.SafeRetirement -- the operator's retirement of unresolved intents

`orders retire-safe-unresolved --confirm YES` reviews the unresolved intents against what is stored
and what the venues answer, and sets those to CANCELLED for which nothing speaks.

A listing that raises counts as an empty one, and so does a venue without a review client.  An
intent with an order id is then still asked for at the venue; for an intent without one there is no
further question, and the listings are not searched for its orders, which could only show up under
an id nobody knows.  Positions are looked for under the order id alone, among those of the enabled
routes.

Neither `VenueOrder` nor `FillRecord` names a token; the listed records here do, for the venue has
each order on one.
-/
import ArbitrageEngine.Reconciliation.ExternalBaseline
import ArbitrageEngine.Routes

namespace ArbitrageEngine.Reconciliation.SafeRetirement

open Execution (ExecutionStatus OrderIntent OrderIntentStatus strip)

/-! ## What the command reads -/

/-- A row of `order_intents`, with its age in minutes when the review looks at it. -/
structure OrderRow extends OrderIntent where
  ageMinutes : ℚ
deriving DecidableEq

/-- An order of `list_open_orders`, and the token the venue has it on. -/
structure ListedOrder where
  venueOrderId : String
  status : OrderIntentStatus
  tokenId : String
deriving DecidableEq

/-- A fill of `list_fills`, and the token the venue has it on. -/
structure ListedFill where
  fillId : String
  venueOrderId : String
  tokenId : String
deriving DecidableEq

/-- A row of `fills`. -/
structure StoredFill where
  fillId : String
  clientOrderId : String
deriving DecidableEq

/-- What a venue answers; `none` and `.error` are exceptions. -/
structure VenueAnswers where
  openOrders : Option (List ListedOrder)
  fills : Option (List ListedFill)
  getOrder : String → Except String ExecutionStatus

/-- One run of the command. -/
structure Command where
  intents : List OrderRow
  /-- The client order id is the primary key. -/
  keyed : (intents.map fun row => row.clientOrderId).Nodup
  positions : List OpenPosition
  fills : List StoredFill
  enabledRoutes : List String
  orderIntentRoutes : List String
  answers : String → VenueAnswers
  olderThanMinutes : ℚ
  confirmed : Bool

namespace OrderRow

/-- The venue order id, where there is one that is not empty. -/
def orderId? (row : OrderRow) : Option String := truthy row.venueOrderId

/-- `_is_synthetic_order_row`. -/
def isSynthetic (row : OrderRow) : Bool :=
  (row.marketKey.startsWith "integration:" ∨ row.marketKey.startsWith "restart:") ∧
    row.tokenId ∈ ["integration-token", "restart-token"]

end OrderRow

/-- `route_key`. -/
def routeKey (leftVenue rightVenue : String) : String :=
  let plain := fun venue : String =>
    String.ofList ((lower (strip venue)).toList.map fun c => if c = '.' then '_' else c)
  venueAlias plain leftVenue ++ "_" ++ venueAlias plain rightVenue

namespace Command

variable (command : Command)

/-- `unresolved_order_intents`. -/
def unresolvedOrderIntents : List OrderRow :=
  command.intents.filter fun row =>
    row.status ∉ [OrderIntentStatus.filled, .cancelled] ∧
      (command.orderIntentRoutes = [] ∨ row.route ∈ command.orderIntentRoutes)

/-- `load_positions`. -/
def loadPositions : List OpenPosition :=
  command.positions.filter fun position =>
    command.enabledRoutes = [] ∨
      routeKey position.market.venueALabel position.market.venueBLabel ∈ command.enabledRoutes

/-- `fills_for_client_order_ids`, of one of them. -/
def storedFills (row : OrderRow) : List StoredFill :=
  command.fills.filter fun fill => fill.clientOrderId = row.clientOrderId

/-- `_build_order_review_clients`: has the venue a client? -/
def hasClient (venue : String) : Bool := venue ∈ ["Polymarket", "Predict.fun", "SX Bet", "Myriad"]

/-- The listings of the venue, where they were read. -/
def readOpenOrders (venue : String) : Option (List ListedOrder) :=
  if hasClient venue then (command.answers venue).openOrders else none

def readFills (venue : String) : Option (List ListedFill) :=
  if hasClient venue then (command.answers venue).fills else none

/-! ## The review -/

/-- `_linked_positions_for_intent`. -/
def linkedPositions (row : OrderRow) (positions : List OpenPosition) : List String :=
  match row.orderId? with
  | none => []
  | some orderId =>
      (positions.filter fun position =>
        (row.venue = position.market.venueALabel ∧ position.polymarketOrderId = orderId) ∨
          (row.venue = position.market.venueBLabel ∧ position.predictFunOrderId = orderId)).map
        fun position => positionKey position.market

/-- `"404" in error`. -/
def mentions404 (error : String) : Bool :=
  error.toList.tails.any fun rest => "404".toList.isPrefixOf rest

/-- The statuses that may be retired. -/
def safeStatuses : List OrderIntentStatus :=
  [.prepared, .submitting, .acknowledged, .cancelPending, .unknown, .manualReview]

/-- `OrderIntentStatus.value`. -/
def intentStatusValue : OrderIntentStatus → String
  | .prepared => "PREPARED"
  | .submitting => "SUBMITTING"
  | .acknowledged => "ACKNOWLEDGED"
  | .partlyFilled => "PARTIAL"
  | .filled => "FILLED"
  | .cancelPending => "CANCEL_PENDING"
  | .cancelled => "CANCELLED"
  | .unknown => "UNKNOWN"
  | .manualReview => "MANUAL_REVIEW"

/-- `ExecutionStatus.value`. -/
def executionStatusValue : ExecutionStatus → String
  | .stillOpen => "OPEN"
  | .partlyFilled => "PARTIAL"
  | .filled => "FILLED"
  | .cancelled => "CANCELLED"
  | .expired => "EXPIRED"

/-- What the review finds out about an intent. -/
structure Findings where
  linkedPositionKeys : List String
  dbFillCount : ℕ
  venueFillCount : ℕ
  openOrderPresent : Bool
  venueStatus : Option String
  venueError : Option String
  synthetic : Bool

/-- `_safe_retire_reason`. -/
def safeRetireReason (row : OrderRow) (olderThanMinutes : ℚ) (found : Findings) : Option String :=
  if max 0 row.ageMinutes < olderThanMinutes then none
  else if found.linkedPositionKeys ≠ [] ∨ found.dbFillCount ≠ 0 ∨ found.venueFillCount ≠ 0 ∨
      found.openOrderPresent then none
  else if ∃ error ∈ found.venueError, mentions404 error = false then none
  else if row.status ∉ safeStatuses then none
  else if found.synthetic then some "synthetic_artifact_without_fill_or_position_evidence"
  else if row.orderId? = none then
    some "missing_venue_order_id_without_fill_or_position_evidence"
  else if found.venueStatus = some (intentStatusValue .cancelled) then
    some "venue_cancelled_without_fill_or_position_evidence"
  else if ∃ status ∈ found.venueStatus, status ∈ ["OPEN", "PARTIAL", "FILLED"] then none
  else if ∃ error ∈ found.venueError, mentions404 error = true then
    some "venue_order_missing_without_fill_or_position_evidence"
  else none

/-- One round of the loop of `_review_unresolved_orders`. -/
def findings (row : OrderRow) : Findings :=
  let openOrder := row.orderId?.bind fun orderId =>
    (((command.readOpenOrders row.venue).getD []).filter
      fun order => order.venueOrderId = orderId).getLast?
  let venueFills := row.orderId?.elim [] fun orderId =>
    ((command.readFills row.venue).getD []).filter fun fill => fill.venueOrderId = orderId
  let report : Option (Except String ExecutionStatus) :=
    match row.orderId?, openOrder with
    | some orderId, none =>
        if hasClient row.venue then some ((command.answers row.venue).getOrder orderId) else none
    | _, _ => none
  { linkedPositionKeys := linkedPositions row command.loadPositions
    dbFillCount := (command.storedFills row).length
    venueFillCount := venueFills.length
    openOrderPresent := openOrder.isSome
    venueStatus :=
      match openOrder, report with
      | some order, _ => some (intentStatusValue order.status)
      | none, some (.ok status) => some (executionStatusValue status)
      | none, _ => none
    venueError :=
      match report with
      | some (.error text) => some text
      | _ => none
    synthetic := row.isSynthetic }

/-- `safe_retire_reason` of an intent. -/
def reason (row : OrderRow) : Option String :=
  safeRetireReason row command.olderThanMinutes (command.findings row)

/-- `_review_unresolved_orders`: the intents with what was found and the reason. -/
def reviewUnresolvedOrders : List (OrderRow × Findings × Option String) :=
  command.unresolvedOrderIntents.map fun row => (row, command.findings row, command.reason row)

/-! ## The retirement -/

/-- A call of `update_order_intent`. -/
structure Retirement where
  clientOrderId : String
  venueOrderId : Option String
  error : String

/-- `_retire_safe_unresolved_orders`: the updates it makes. -/
def retireSafeUnresolved : List Retirement :=
  if command.confirmed then
    command.reviewUnresolvedOrders.filterMap fun (row, _, reason) =>
      reason.map fun reason =>
        { clientOrderId := row.clientOrderId
          venueOrderId := row.orderId?
          error := "operator safe retirement: " ++ reason }
  else []

/-- `update_order_intent`, of the row under the key. -/
def Retirement.update (retirement : Retirement) (row : OrderRow) : OrderRow :=
  if row.clientOrderId = retirement.clientOrderId then
    { row with
      status := .cancelled
      venueOrderId := retirement.venueOrderId.or row.venueOrderId }
  else row

/-- The row after the command. -/
def after (row : OrderRow) : OrderRow :=
  command.retireSafeUnresolved.foldl (fun row retirement => retirement.update row) row

end Command

namespace Command

variable (command : Command)

/-! ## What the command sets to CANCELLED -/

theorem mem_retireSafeUnresolved {retirement : Retirement} :
    retirement ∈ command.retireSafeUnresolved ↔
      command.confirmed = true ∧ ∃ row ∈ command.unresolvedOrderIntents,
        ∃ reason ∈ command.reason row,
          retirement = ⟨row.clientOrderId, row.orderId?, "operator safe retirement: " ++ reason⟩ := by
  unfold retireSafeUnresolved reviewUnresolvedOrders
  split
  · next hconfirmed =>
    simp only [hconfirmed, true_and, List.mem_filterMap, List.mem_map]
    constructor
    · rintro ⟨_, ⟨row, hrow, rfl⟩, hreason⟩
      obtain ⟨reason, hsome, rfl⟩ := Option.map_eq_some_iff.mp hreason
      exact ⟨row, hrow, reason, hsome, rfl⟩
    · rintro ⟨row, hrow, reason, hsome, rfl⟩
      exact ⟨_, ⟨row, hrow, rfl⟩, Option.map_eq_some_iff.mpr ⟨reason, hsome, rfl⟩⟩
  · next hdry => simp [hdry]

theorem update_clientOrderId (retirement : Retirement) (row : OrderRow) :
    (retirement.update row).clientOrderId = row.clientOrderId := by
  unfold Retirement.update
  split <;> rfl

/-- A row ends with CANCELLED if it had it before, or one of the updates is its own. -/
theorem foldl_update_status (retirements : List Retirement) (row : OrderRow) :
    (retirements.foldl (fun row retirement => retirement.update row) row).status = .cancelled ↔
      row.status = .cancelled ∨ ∃ retirement ∈ retirements,
        retirement.clientOrderId = row.clientOrderId := by
  induction retirements generalizing row with
  | nil => simp
  | cons retirement rest ih =>
    rw [List.foldl_cons, ih, update_clientOrderId]
    unfold Retirement.update
    by_cases hown : row.clientOrderId = retirement.clientOrderId
    · simp [hown]
    · simp [hown, Ne.symm hown]

/-- The key tells stored rows apart. -/
theorem eq_of_clientOrderId {a b : OrderRow} (ha : a ∈ command.intents) (hb : b ∈ command.intents)
    (h : a.clientOrderId = b.clientOrderId) : a = b :=
  List.inj_on_of_nodup_map command.keyed ha hb h

/-- The command sets a stored intent to CANCELLED just when it is confirmed, the intent is
unresolved and there is a reason for it. -/
theorem after_status {row : OrderRow} (hrow : row ∈ command.intents)
    (hstatus : row.status ≠ .cancelled) :
    (command.after row).status = .cancelled ↔
      command.confirmed = true ∧ row ∈ command.unresolvedOrderIntents ∧
        (command.reason row).isSome := by
  unfold after
  rw [foldl_update_status]
  constructor
  · rintro (h | ⟨retirement, hmem, hkey⟩)
    · exact absurd h hstatus
    · obtain ⟨hconfirmed, other, hother, reason, hreason, rfl⟩ :=
        command.mem_retireSafeUnresolved.mp hmem
      have hsame : other = row :=
        command.eq_of_clientOrderId (List.mem_of_mem_filter hother) hrow hkey
      subst hsame
      exact ⟨hconfirmed, hother, Option.isSome_iff_exists.mpr ⟨reason, hreason⟩⟩
  · rintro ⟨hconfirmed, hunresolved, hsome⟩
    obtain ⟨reason, hreason⟩ := Option.isSome_iff_exists.mp hsome
    exact .inr ⟨_, command.mem_retireSafeUnresolved.mpr
      ⟨hconfirmed, row, hunresolved, reason, hreason, rfl⟩, rfl⟩

/-! ## What speaks for an intent -/

/-- The position holds, or may come to hold, what the intent buys or sells. -/
def HoldsLeg (row : OrderRow) (position : OpenPosition) : Prop :=
  positionKey position.market = row.marketKey ∧
    ((row.venue = position.market.venueALabel ∧ row.tokenId = position.market.polymarketTokenId) ∨
      (row.venue = position.market.venueBLabel ∧
        row.tokenId = position.market.predictFunTokenId)) ∧
    position.status ∈ ["open", "entry_pending", "unwind_pending"]

/-- No stored intent of the venue has the order id. -/
def Untracked (venue venueOrderId : String) : Prop :=
  ∀ row ∈ command.intents, row.venue = venue → row.venueOrderId ≠ some venueOrderId

/-- An order or fill on a token, under its order id, may belong to the intent. -/
def MayBelong (row : OrderRow) (venueOrderId tokenId : String) : Prop :=
  match row.orderId? with
  | some orderId => venueOrderId = orderId
  | none => command.Untracked row.venue venueOrderId ∧ tokenId = row.tokenId

/-- The listings were read, and nothing listed or stored may belong to the intent. -/
structure Cleared (row : OrderRow) : Prop where
  openOrders : ∃ orders, command.readOpenOrders row.venue = some orders ∧
    ∀ order ∈ orders, ¬ command.MayBelong row order.venueOrderId order.tokenId
  venueFills : ∃ fills, command.readFills row.venue = some fills ∧
    ∀ fill ∈ fills, ¬ command.MayBelong row fill.venueOrderId fill.tokenId
  storedFills : command.storedFills row = []
  positions : ∀ position ∈ command.positions, ¬ HoldsLeg row position

/-- Only cleared intents are set to CANCELLED, those of tests apart. -/
def RetiresSafely : Prop :=
  ∀ row ∈ command.intents, row.status ≠ .cancelled → (command.after row).status = .cancelled →
    row.isSynthetic = false → command.Cleared row

/-! ## When the retirement is safe -/

/-- The intent is old, in a status that may be retired, and without stored fills. -/
structure Stale (row : OrderRow) : Prop where
  old : command.olderThanMinutes ≤ max 0 row.ageMinutes
  status : row.status ∈ safeStatuses
  storedFills : command.storedFills row = []

/-- As far as its listings were read, the venue shows nothing under the order id and says that the
order is cancelled or, in the words of the exception, not there; no position of the enabled routes
has the id. -/
structure Disowned (row : OrderRow) (orderId : String) : Prop where
  openOrders : ∀ orders ∈ command.readOpenOrders row.venue, ∀ order ∈ orders,
    order.venueOrderId ≠ orderId
  venueFills : ∀ fills ∈ command.readFills row.venue, ∀ fill ∈ fills, fill.venueOrderId ≠ orderId
  linked : linkedPositions row command.loadPositions = []
  client : hasClient row.venue = true
  answer : (command.answers row.venue).getOrder orderId = .ok .cancelled ∨
    ∃ error, (command.answers row.venue).getOrder orderId = .error error ∧
      mentions404 error = true

/-- The evidence the command does without: both listings were read, none of the stored positions
holds the leg, and for an intent without an order id no untracked order or fill is on its token. -/
structure Evidence (row : OrderRow) : Prop where
  openOrders : ∃ orders, command.readOpenOrders row.venue = some orders ∧
    (row.orderId? = none → ∀ order ∈ orders, command.Untracked row.venue order.venueOrderId →
      order.tokenId ≠ row.tokenId)
  venueFills : ∃ fills, command.readFills row.venue = some fills ∧
    (row.orderId? = none → ∀ fill ∈ fills, command.Untracked row.venue fill.venueOrderId →
      fill.tokenId ≠ row.tokenId)
  positions : ∀ position ∈ command.positions, ¬ HoldsLeg row position

/-- Without an order id, only the age, the status and the stored fills count. -/
theorem reason_of_noOrderId {row : OrderRow} (hid : row.orderId? = none)
    (hreal : row.isSynthetic = false) :
    (command.reason row).isSome ↔ command.Stale row := by
  have hfindings : command.findings row =
      { linkedPositionKeys := [], dbFillCount := (command.storedFills row).length
        venueFillCount := 0, openOrderPresent := false, venueStatus := none, venueError := none
        synthetic := false } := by
    simp [findings, linkedPositions, hid, hreal]
  unfold reason safeRetireReason
  rw [hfindings]
  by_cases hold : max 0 row.ageMinutes < command.olderThanMinutes
  · rw [if_pos hold]
    exact iff_of_false (by simp) fun h => absurd h.old hold.not_ge
  by_cases hfills : command.storedFills row = []
  · by_cases hstatus : row.status ∈ safeStatuses
    · have hstale : command.Stale row := ⟨not_lt.mp hold, hstatus, hfills⟩
      simp [hold, hfills, hstatus, hid, hstale]
    · exact iff_of_false (by simp [hold, hfills, hstatus]) fun h => hstatus h.status
  · exact iff_of_false (by simp [hold, hfills]) fun h => hfills h.storedFills

/-- A listing that was not read shows nothing. -/
theorem filter_getD_eq_nil_iff {α : Type} {listing : Option (List α)} {p : α → Bool} :
    (listing.getD []).filter p = [] ↔ ∀ items ∈ listing, ∀ item ∈ items, ¬ p item = true := by
  cases listing with
  | none => simp
  | some items => simp [List.filter_eq_nil_iff]

/-- What is found out about an intent with an order id that is not among the open orders. -/
theorem findings_of_orderId {row : OrderRow} {orderId : String} (hid : row.orderId? = some orderId)
    (hopen : ∀ orders ∈ command.readOpenOrders row.venue, ∀ order ∈ orders,
      order.venueOrderId ≠ orderId) :
    command.findings row =
      { linkedPositionKeys := linkedPositions row command.loadPositions
        dbFillCount := (command.storedFills row).length
        venueFillCount := (((command.readFills row.venue).getD []).filter
          fun fill => fill.venueOrderId = orderId).length
        openOrderPresent := false
        venueStatus :=
          if hasClient row.venue then
            ((command.answers row.venue).getOrder orderId).toOption.map executionStatusValue
          else none
        venueError :=
          if hasClient row.venue then
            match (command.answers row.venue).getOrder orderId with
            | .error text => some text
            | .ok _ => none
          else none
        synthetic := row.isSynthetic } := by
  have hnone : ((command.readOpenOrders row.venue).getD []).filter
      (fun order => order.venueOrderId = orderId) = [] :=
    filter_getD_eq_nil_iff.mpr (by simpa using hopen)
  unfold findings
  simp only [hid, Option.bind_some, Option.elim_some, hnone, List.getLast?_nil, Option.isSome_none]
  cases hclient : hasClient row.venue with
  | false => rfl
  | true =>
    cases (command.answers row.venue).getOrder orderId with
    | ok status => rfl
    | error text => rfl

/-- With an order id, the venue is asked for the order. -/
theorem reason_of_orderId {row : OrderRow} {orderId : String} (hid : row.orderId? = some orderId)
    (hreal : row.isSynthetic = false) :
    (command.reason row).isSome ↔ command.Stale row ∧ command.Disowned row orderId := by
  by_cases hopen : ∀ orders ∈ command.readOpenOrders row.venue, ∀ order ∈ orders,
      order.venueOrderId ≠ orderId
  swap
  · refine iff_of_false ?_ fun h => hopen h.2.openOrders
    have hpresent : (command.findings row).openOrderPresent = true := by
      have hne := mt filter_getD_eq_nil_iff.mp (by simpa using hopen :
        ¬ ∀ orders ∈ command.readOpenOrders row.venue, ∀ order ∈ orders,
          ¬ decide (order.venueOrderId = orderId) = true)
      simpa [findings, hid, List.getLast?_isSome] using hne
    simp [reason, safeRetireReason, hpresent]
  unfold reason safeRetireReason
  rw [command.findings_of_orderId hid hopen]
  by_cases hold : max 0 row.ageMinutes < command.olderThanMinutes
  · rw [if_pos hold]
    exact iff_of_false (by simp) fun h => absurd h.1.old hold.not_ge
  by_cases hlinked : linkedPositions row command.loadPositions = []
  swap
  · exact iff_of_false (by simp [hold, hlinked]) fun h => hlinked h.2.linked
  by_cases hstored : command.storedFills row = []
  swap
  · exact iff_of_false (by simp [hold, hstored]) fun h => hstored h.1.storedFills
  by_cases hfills : ∀ fills ∈ command.readFills row.venue, ∀ fill ∈ fills,
      fill.venueOrderId ≠ orderId
  swap
  · refine iff_of_false ?_ fun h => hfills h.2.venueFills
    have hne := mt filter_getD_eq_nil_iff.mp (by simpa using hfills :
      ¬ ∀ fills ∈ command.readFills row.venue, ∀ fill ∈ fills,
        ¬ decide (fill.venueOrderId = orderId) = true)
    simp [hold, hne]
  by_cases hstatus : row.status ∈ safeStatuses
  swap
  · exact iff_of_false (by simp [hold, hstatus]) fun h => hstatus h.1.status
  have hstale : command.Stale row := ⟨not_lt.mp hold, hstatus, hstored⟩
  have hnofills : ((command.readFills row.venue).getD []).filter
      (fun fill => fill.venueOrderId = orderId) = [] :=
    filter_getD_eq_nil_iff.mpr (by simpa using hfills)
  cases hclient : hasClient row.venue with
  | false =>
    refine iff_of_false ?_ fun h => absurd h.2.client (by simp [hclient])
    simp [hid, hreal]
  | true =>
    cases hanswer : (command.answers row.venue).getOrder orderId with
    | ok status =>
      have hdisowned : command.Disowned row orderId ↔ status = .cancelled := by
        constructor
        · intro h
          rcases h.answer with h | ⟨_, h, _⟩
          · exact Except.ok.inj (hanswer.symm.trans h)
          · exact absurd (hanswer.symm.trans h) (by simp)
        · rintro rfl
          exact ⟨hopen, hfills, hlinked, hclient, .inl hanswer⟩
      rw [hdisowned]
      cases status <;>
        simp [hold, hlinked, hstored, hnofills, hstatus, hid, hreal, hstale, Except.toOption,
          executionStatusValue, intentStatusValue]
    | error text =>
      have hdisowned : command.Disowned row orderId ↔ mentions404 text = true := by
        constructor
        · intro h
          rcases h.answer with h | ⟨_, h, h404⟩
          · exact absurd (hanswer.symm.trans h) (by simp)
          · rwa [Except.error.inj (hanswer.symm.trans h)]
        · intro h
          exact ⟨hopen, hfills, hlinked, hclient, .inr ⟨text, hanswer, h⟩⟩
      rw [hdisowned]
      cases h404 : mentions404 text <;>
        simp [hold, hlinked, hstored, hnofills, hstatus, hid, hreal, hstale, Except.toOption, h404]

/-- There is a reason for an intent just when it is stale and, if it has an order id, the venue
disowns it. -/
theorem reason_isSome {row : OrderRow} (hreal : row.isSynthetic = false) :
    (command.reason row).isSome ↔
      command.Stale row ∧ ∀ orderId ∈ row.orderId?, command.Disowned row orderId := by
  cases hid : row.orderId? with
  | none =>
    rw [command.reason_of_noOrderId hid hreal]
    simp
  | some orderId =>
    rw [command.reason_of_orderId hid hreal]
    simp

/-- What a retired intent lacks to be cleared is the evidence. -/
theorem cleared_iff {row : OrderRow} (hstale : command.Stale row)
    (hdisowned : ∀ orderId ∈ row.orderId?, command.Disowned row orderId) :
    command.Cleared row ↔ command.Evidence row := by
  cases hid : row.orderId? with
  | none =>
    constructor
    · rintro ⟨⟨orders, horders, hnone⟩, ⟨fills, hfills, hnofill⟩, _, hpositions⟩
      simp only [MayBelong, hid, not_and] at hnone hnofill
      exact ⟨⟨orders, horders, fun _ => hnone⟩, ⟨fills, hfills, fun _ => hnofill⟩, hpositions⟩
    · rintro ⟨⟨orders, horders, hnone⟩, ⟨fills, hfills, hnofill⟩, hpositions⟩
      refine ⟨⟨orders, horders, ?_⟩, ⟨fills, hfills, ?_⟩, hstale.storedFills, hpositions⟩
      · simp only [MayBelong, hid, not_and]
        exact hnone hid
      · simp only [MayBelong, hid, not_and]
        exact hnofill hid
  | some orderId =>
    have hshown := hdisowned orderId (by simp [hid])
    constructor
    · rintro ⟨⟨orders, horders, _⟩, ⟨fills, hfills, _⟩, _, hpositions⟩
      exact ⟨⟨orders, horders, by simp [hid]⟩, ⟨fills, hfills, by simp [hid]⟩, hpositions⟩
    · rintro ⟨⟨orders, horders, _⟩, ⟨fills, hfills, _⟩, hpositions⟩
      refine ⟨⟨orders, horders, ?_⟩, ⟨fills, hfills, ?_⟩, hstale.storedFills, hpositions⟩
      · simp only [MayBelong, hid]
        exact hshown.openOrders orders horders
      · simp only [MayBelong, hid]
        exact hshown.venueFills fills hfills

/-- **Safe retirement.**  The command retires safely just when there is evidence on every
unresolved intent that is stale and that its venue, if it has an order id, disowns. -/
theorem retiresSafely_iff :
    command.RetiresSafely ↔
      (command.confirmed = true → ∀ row ∈ command.unresolvedOrderIntents,
        row.isSynthetic = false → command.Stale row →
        (∀ orderId ∈ row.orderId?, command.Disowned row orderId) → command.Evidence row) := by
  constructor
  · intro hsafe hconfirmed row hrow hreal hstale hdisowned
    have hstored : row ∈ command.intents := List.mem_of_mem_filter hrow
    have hstatus : row.status ≠ .cancelled := by
      intro h
      have hkept := List.of_mem_filter hrow
      simp [h] at hkept
    have hreason := (command.reason_isSome hreal).mpr ⟨hstale, hdisowned⟩
    have hafter := (command.after_status hstored hstatus).mpr ⟨hconfirmed, hrow, hreason⟩
    exact (command.cleared_iff hstale hdisowned).mp (hsafe row hstored hstatus hafter hreal)
  · intro h row hrow hstatus hafter hreal
    obtain ⟨hconfirmed, hunresolved, hreason⟩ := (command.after_status hrow hstatus).mp hafter
    obtain ⟨hstale, hdisowned⟩ := (command.reason_isSome hreal).mp hreason
    exact (command.cleared_iff hstale hdisowned).mpr
      (h hconfirmed row hunresolved hreal hstale hdisowned)

end Command

namespace RetirementExamples

/-- An order whose submission went unanswered. -/
def unanswered : OrderRow where
  clientOrderId := "entry-a"
  route := "polymarket_myriad"
  marketKey := "rules:Polymarket:yes-token:YES:Myriad:no-token:NO"
  venue := "Polymarket"
  tokenId := "yes-token"
  binarySide := .yes
  action := "BUY"
  quantity := 10
  limitPrice := 1 / 2
  status := .unknown
  ageMinutes := 60

/-- The venue is down: both listings raise. -/
def venueDown : Command where
  intents := [unanswered]
  keyed := by simp
  positions := []
  fills := []
  enabledRoutes := ["polymarket_myriad"]
  orderIntentRoutes := ["polymarket_myriad", "Polymarket:Myriad"]
  answers := fun _ => ⟨none, none, fun _ => .error "503"⟩
  olderThanMinutes := 30
  confirmed := true

/-- The intent is retired although nothing was read. -/
theorem unanswered_retired_unread : ¬ ∀ command : Command, command.RetiresSafely := by
  intro h
  have hcleared := h venueDown unanswered (by simp [venueDown]) (by decide)
    (by decide +kernel) (by decide +kernel)
  obtain ⟨orders, horders, _⟩ := hcleared.openOrders
  exact absurd horders (by simp [Command.readOpenOrders, venueDown])

end RetirementExamples

end ArbitrageEngine.Reconciliation.SafeRetirement
