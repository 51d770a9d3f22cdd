/-
# ArbitrageEngine.Settlement.Intents -- the durable table of redemption intents

The table has two unique indices, the redemption id and the triple (position key, venue, condition
id).  Both are fields of `RedemptionTable`, so a table that violates one cannot be built: creating
an intent over an existing id or triple is the `IntegrityError` branch, and an update rewrites the
status, the hash, the error and the time of one row and neither of its keys.
-/
import ArbitrageEngine.Models

namespace ArbitrageEngine.Settlement

/-! ## Intents -/

/-- The columns of the unique index `uq_redemption_position_venue_condition`. -/
structure RedemptionKey where
  positionKey : String
  venue : String
  conditionId : String
deriving DecidableEq

/-- `SettlementRequest`. -/
structure SettlementRequest where
  positionKey : String
  venue : String
  marketId : String
  conditionId : String
  collateralToken : String
  expectedContracts : Dec
deriving DecidableEq

/-- The key the service looks an intent up by. -/
def SettlementRequest.key (request : SettlementRequest) : RedemptionKey where
  positionKey := request.positionKey
  venue := request.venue
  conditionId := request.conditionId

/-- `RedemptionReport`. -/
structure RedemptionReport where
  status : RedemptionIntentStatus
  txHash : Option String := none
  error : Option String := none
deriving DecidableEq

/-- `RedemptionIntent`, and a row of `redemption_intents`. -/
structure RedemptionIntent where
  redemptionId : String
  positionKey : String
  venue : String
  marketId : String
  conditionId : String
  collateralToken : String
  expectedContracts : Dec
  status : RedemptionIntentStatus := .pending
  txHash : Option String := none
  lastError : Option String := none
  updatedAt : Time
deriving DecidableEq

namespace RedemptionIntent

/-- The unique triple of a row. -/
def key (intent : RedemptionIntent) : RedemptionKey where
  positionKey := intent.positionKey
  venue := intent.venue
  conditionId := intent.conditionId

/-- The candidate `_process_redemption` builds for a request. -/
def candidate (request : SettlementRequest) (redemptionId : String) (now : Time) :
    RedemptionIntent where
  redemptionId := redemptionId
  positionKey := request.positionKey
  venue := request.venue
  marketId := request.marketId
  conditionId := request.conditionId
  collateralToken := request.collateralToken
  expectedContracts := request.expectedContracts
  updatedAt := now

/-- The row `create_redemption_intent` writes: the quantity is a `MONEY` column. -/
def stored (intent : RedemptionIntent) : RedemptionIntent :=
  { intent with expectedContracts := Dec.money intent.expectedContracts }

/-- The row after `update_redemption_intent`: a missing hash keeps the old one, a missing error
clears the old one. -/
def updated (intent : RedemptionIntent) (status : RedemptionIntentStatus)
    (txHash error : Option String) (now : Time) : RedemptionIntent :=
  { intent with
    status := status
    txHash := txHash.or intent.txHash
    lastError := error
    updatedAt := now }

@[simp]
theorem candidate_key (request : SettlementRequest) (redemptionId : String) (now : Time) :
    (candidate request redemptionId now).key = request.key := rfl

@[simp]
theorem stored_key (intent : RedemptionIntent) : intent.stored.key = intent.key := rfl

@[simp]
theorem stored_status (intent : RedemptionIntent) : intent.stored.status = intent.status := rfl

@[simp]
theorem updated_redemptionId (intent : RedemptionIntent) (status : RedemptionIntentStatus)
    (txHash error : Option String) (now : Time) :
    (intent.updated status txHash error now).redemptionId = intent.redemptionId := rfl

@[simp]
theorem updated_key (intent : RedemptionIntent) (status : RedemptionIntentStatus)
    (txHash error : Option String) (now : Time) :
    (intent.updated status txHash error now).key = intent.key := rfl

@[simp]
theorem updated_status (intent : RedemptionIntent) (status : RedemptionIntentStatus)
    (txHash error : Option String) (now : Time) :
    (intent.updated status txHash error now).status = status := rfl

end RedemptionIntent

/-! ## The table -/

/-- `redemption_intents` with its primary key and its unique index. -/
structure RedemptionTable where
  rows : List RedemptionIntent
  ids_nodup : (rows.map RedemptionIntent.redemptionId).Nodup
  keys_nodup : (rows.map RedemptionIntent.key).Nodup
deriving DecidableEq

namespace RedemptionTable

/-- The table before the first intent. -/
def empty : RedemptionTable := ⟨[], List.nodup_nil, List.nodup_nil⟩

/-- `get_redemption_intent`. -/
def lookup (table : RedemptionTable) (key : RedemptionKey) : Option RedemptionIntent :=
  table.rows.find? fun row => row.key = key

/-- `session.get(RedemptionIntentRow, redemption_id)`. -/
def byId (table : RedemptionTable) (redemptionId : String) : Option RedemptionIntent :=
  table.rows.find? fun row => row.redemptionId = redemptionId

/-- `create_redemption_intent`: an insert that violates an index changes nothing. -/
def create (table : RedemptionTable) (intent : RedemptionIntent) : RedemptionTable :=
  if h : intent.redemptionId ∉ table.rows.map RedemptionIntent.redemptionId ∧
      intent.key ∉ table.rows.map RedemptionIntent.key then
    { rows := table.rows ++ [intent.stored]
      ids_nodup := by
        rw [List.map_append, List.nodup_append]
        refine ⟨table.ids_nodup, List.nodup_singleton _, ?_⟩
        rintro a ha b hb rfl
        rw [List.map_singleton, List.mem_singleton] at hb
        exact h.1 (hb ▸ ha)
      keys_nodup := by
        rw [List.map_append, List.nodup_append]
        refine ⟨table.keys_nodup, List.nodup_singleton _, ?_⟩
        rintro a ha b hb rfl
        rw [List.map_singleton, List.mem_singleton] at hb
        exact h.2 (hb ▸ ha) }
  else table

/-- The rows after the row with this id was given its new columns. -/
def rewrite (redemptionId : String) (status : RedemptionIntentStatus) (txHash error : Option String)
    (now : Time) (rows : List RedemptionIntent) : List RedemptionIntent :=
  rows.map fun row =>
    if row.redemptionId = redemptionId then row.updated status txHash error now else row

/-- A rewrite keeps every column an update keeps. -/
theorem map_rewrite {β : Type} {column : RedemptionIntent → β}
    (hcolumn : ∀ row status txHash error now,
      column (RedemptionIntent.updated row status txHash error now) = column row)
    (redemptionId : String) (status : RedemptionIntentStatus) (txHash error : Option String)
    (now : Time) (rows : List RedemptionIntent) :
    (rewrite redemptionId status txHash error now rows).map column = rows.map column := by
  rw [rewrite, List.map_map]
  refine List.map_congr_left fun row _ => ?_
  show column (if row.redemptionId = redemptionId then _ else _) = column row
  split
  · exact hcolumn row status txHash error now
  · rfl

/-- The write of `update_redemption_intent`. -/
def update (table : RedemptionTable) (redemptionId : String) (status : RedemptionIntentStatus)
    (txHash error : Option String) (now : Time) : RedemptionTable where
  rows := rewrite redemptionId status txHash error now table.rows
  ids_nodup := by
    rw [map_rewrite fun _ _ _ _ _ => rfl]
    exact table.ids_nodup
  keys_nodup := by
    rw [map_rewrite fun _ _ _ _ _ => rfl]
    exact table.keys_nodup

/-! ## Lookups and updates -/

theorem eq_of_id {table : RedemptionTable} {row row' : RedemptionIntent} (h : row ∈ table.rows)
    (h' : row' ∈ table.rows) (hid : row.redemptionId = row'.redemptionId) : row = row' :=
  List.inj_on_of_nodup_map table.ids_nodup h h' hid

theorem eq_of_key {table : RedemptionTable} {row row' : RedemptionIntent} (h : row ∈ table.rows)
    (h' : row' ∈ table.rows) (hkey : row.key = row'.key) : row = row' :=
  List.inj_on_of_nodup_map table.keys_nodup h h' hkey

theorem mem_of_lookup {table : RedemptionTable} {key : RedemptionKey} {row : RedemptionIntent}
    (h : table.lookup key = some row) : row ∈ table.rows ∧ row.key = key :=
  ⟨List.mem_of_find?_eq_some h, by simpa using List.find?_some h⟩

theorem mem_of_byId {table : RedemptionTable} {redemptionId : String} {row : RedemptionIntent}
    (h : table.byId redemptionId = some row) :
    row ∈ table.rows ∧ row.redemptionId = redemptionId :=
  ⟨List.mem_of_find?_eq_some h, by simpa using List.find?_some h⟩

/-- A row survives the creation of another one. -/
theorem mem_create {table : RedemptionTable} {row : RedemptionIntent} (h : row ∈ table.rows)
    (intent : RedemptionIntent) : row ∈ (table.create intent).rows := by
  unfold create
  split
  · exact List.mem_append_left _ h
  · exact h

/-- The updated row is in the updated table. -/
theorem updated_mem {table : RedemptionTable} {row : RedemptionIntent} (h : row ∈ table.rows)
    (status : RedemptionIntentStatus) (txHash error : Option String) (now : Time) :
    row.updated status txHash error now ∈
      (table.update row.redemptionId status txHash error now).rows :=
  List.mem_map.mpr ⟨row, h, if_pos rfl⟩

/-- A row under another id is still in the updated table. -/
theorem mem_update_of_ne {table : RedemptionTable} {row : RedemptionIntent} (h : row ∈ table.rows)
    {redemptionId : String} (hid : row.redemptionId ≠ redemptionId)
    (status : RedemptionIntentStatus) (txHash error : Option String) (now : Time) :
    row ∈ (table.update redemptionId status txHash error now).rows :=
  List.mem_map.mpr ⟨row, h, if_neg hid⟩

end RedemptionTable

end ArbitrageEngine.Settlement
