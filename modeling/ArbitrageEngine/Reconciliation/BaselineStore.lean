/-
# ArbitrageEngine.Reconciliation.BaselineStore -- baselines in the database

An accepted baseline is a row with its scope and one item for each position and fill reference.  The
quantity of an item goes through a `MONEY` column, and loading recomputes the payload from what the
column gives back and compares its digest with the manifest of the row.

So a baseline loads again exactly if its manifest is written in lower case and the column keeps the
28 digits of every quantity (`loads_iff_of_fresh`).  In a run whose activations are of that kind all
active rows load, and each with the payload that was accepted.
-/
import ArbitrageEngine.Lib.Dict
import ArbitrageEngine.Lib.Runs
import ArbitrageEngine.Reconciliation.ExternalBaseline

namespace ArbitrageEngine.Reconciliation

open ArbitrageEngine.Execution (strip)
open Lib (Dict)
open Lib.Runs

/-! ## The tables -/

/-- `ExternalAccountBaseline`. -/
structure ExternalAccountBaseline extends BaselineContents where
  manifestSha256 : String
  capturedAt : ℕ
  operator : String
  revokedAt : Option ℕ := none
deriving DecidableEq

/-- `item_type`. -/
inductive BaselineItemType
  | position
  | fillRef
deriving DecidableEq

/-- `ExternalAccountBaselineItemRow`, without the manifest it belongs to. -/
structure BaselineItemRow where
  itemType : BaselineItemType
  itemKey : String
  quantity : Option Spelled
deriving DecidableEq

/-- `ExternalAccountBaselineRow`; the items that refer to it are kept with it, as the foreign key
promises. -/
structure BaselineRow where
  runtimeInstanceId : String
  venue : String
  accountFingerprint : String
  operator : String
  capturedAt : ℕ
  revokedAt : Option ℕ
  revokedBy : Option String
  items : List BaselineItemRow
deriving DecidableEq

/-- The rows by manifest. -/
abbrev BaselineRows : Type := Dict String BaselineRow

/-- The order in which the database returns the items of a row (`ORDER BY item_type, item_key`, in
its own collation). -/
structure ItemOrder where
  order : List BaselineItemRow → List BaselineItemRow
  perm : ∀ items, (order items).Perm items

/-! ## Loading -/

/-- Positions and fill references of the items, or the error of `_external_baseline_from_rows`. -/
def readItems : List BaselineItemRow → Except String (List (String × Spelled) × List String)
  | [] => .ok ([], [])
  | item :: rest =>
    match item.itemType, item.quantity with
    | .position, some quantity =>
      (readItems rest).map fun read => ((item.itemKey, quantity) :: read.1, read.2)
    | .fillRef, none => (readItems rest).map fun read => (read.1, item.itemKey :: read.2)
    | _, _ => .error "stored external baseline contains an invalid item"

/-- `tuple(sorted(positions))`; the keys of a row differ, so the quantities are never compared. -/
def sortedPositions (positions : List (String × Spelled)) : List (String × Spelled) :=
  positions.insertionSort (fun a b => a.1 ≤ b.1)

/-- The contents of a row with the given items. -/
def rowContents (row : BaselineRow) (positions : List (String × Spelled))
    (fillRefs : List String) : BaselineContents where
  runtimeInstanceId := row.runtimeInstanceId
  venue := row.venue
  accountFingerprint := row.accountFingerprint
  positions := positions
  fillRefs := fillRefs

variable (sha256 : String → String)

/-- `_external_baseline_from_rows`. -/
def externalBaselineFromRows (manifest : String) (row : BaselineRow)
    (items : List BaselineItemRow) : Except String ExternalAccountBaseline := do
  let read ← readItems items
  let payload ← canonicalPayload (rowContents row read.1 read.2)
  if manifestSha256 sha256 payload ≠ manifest then
    .error "stored external baseline failed its integrity check"
  else
    return {
      rowContents row (sortedPositions read.1) (sortFillRefs read.2) with
      manifestSha256 := manifest
      capturedAt := row.capturedAt
      operator := row.operator
      revokedAt := row.revokedAt }

/-- The row is the active one of the runtime and the venue. -/
def isActive (runtime venue : String) (entry : String × BaselineRow) : Bool :=
  entry.2.runtimeInstanceId = runtime ∧ entry.2.venue = venue ∧ entry.2.revokedAt = none

/-- The active row, if there is one. -/
def activeRow (runtime venue : String) (rows : BaselineRows) : Option (String × BaselineRow) :=
  rows.entries.find? (isActive runtime venue)

/-- `active_external_account_baseline` of the repository of a runtime. -/
def activeExternalAccountBaseline (order : ItemOrder) (runtime venue : String)
    (rows : BaselineRows) : Except String (Option ExternalAccountBaseline) :=
  match activeRow runtime venue rows with
  | none => .ok none
  | some (manifest, row) =>
    (externalBaselineFromRows sha256 manifest row (order.order row.items)).map some

/-! ## Activation and revocation -/

/-- The items of a new row; a quantity is stored as its column rounds it. -/
def itemsOf (c : BaselineContents) : List BaselineItemRow :=
  (c.positions.map fun position =>
    { itemType := .position, itemKey := position.1, quantity := some position.2.stored }) ++
  c.fillRefs.map fun fillRef => { itemType := .fillRef, itemKey := fillRef, quantity := none }

/-- The row of a baseline that was not stored before. -/
def freshRow (baseline : ExternalAccountBaseline) : BaselineRow where
  runtimeInstanceId := baseline.runtimeInstanceId
  venue := baseline.venue
  accountFingerprint := baseline.accountFingerprint
  operator := baseline.operator
  capturedAt := baseline.capturedAt
  revokedAt := none
  revokedBy := none
  items := itemsOf baseline.toBaselineContents

/-- A stored row that is activated again; it keeps its items. -/
def revivedRow (existing : BaselineRow) (baseline : ExternalAccountBaseline) : BaselineRow :=
  { existing with
    revokedAt := none
    revokedBy := none
    capturedAt := baseline.capturedAt
    operator := baseline.operator }

/-- `activate_external_account_baseline`: whether a row was written or revived, and the rows.  A
write that the database refuses is rolled back, so it is not a step of its own. -/
def activate (runtime : String) (baseline : ExternalAccountBaseline) (rows : BaselineRows) :
    Except String (Bool × BaselineRows) := do
  if baseline.runtimeInstanceId ≠ runtime then
    .error "external baseline runtime instance does not match repository scope"
  else
    let payload ← canonicalPayload baseline.toBaselineContents
    if manifestSha256 sha256 payload ≠ lower baseline.manifestSha256 then
      .error "external baseline manifest digest does not match its contents"
    else
      match activeRow runtime baseline.venue rows with
      | some (manifest, _) =>
        if manifest = baseline.manifestSha256 then return (false, rows)
        else
          .error ("an active external baseline already exists for this runtime and venue; " ++
            "revoke it first")
      | none =>
        match rows.get? baseline.manifestSha256 with
        | some existing =>
          if existing.runtimeInstanceId ≠ baseline.runtimeInstanceId ∨
              existing.venue ≠ baseline.venue ∨
              existing.accountFingerprint ≠ baseline.accountFingerprint then
            .error "external baseline manifest is already bound to a different account scope"
          else
            return (true, rows.set baseline.manifestSha256 (revivedRow existing baseline))
        | none => return (true, rows.set baseline.manifestSha256 (freshRow baseline))

/-- `revoke_external_account_baseline` at the time `now`. -/
def revoke (runtime venue operator manifest : String) (now : ℕ) (rows : BaselineRows) :
    Except String (Bool × BaselineRows) :=
  let normalizedOperator := strip operator
  let normalizedManifest := lower (strip manifest)
  if normalizedOperator = "" then .error "operator is required to revoke an external baseline"
  else if normalizedManifest.length ≠ 64 then
    .error "external baseline manifest SHA-256 is required for revocation"
  else
    match activeRow runtime venue rows with
    | none => .ok (false, rows)
    | some (stored, row) =>
      if stored ≠ normalizedManifest then
        .error "active external baseline changed since revocation preview"
      else
        .ok (true, rows.set stored
          { row with revokedAt := some now, revokedBy := some normalizedOperator })

/-! ## Runs -/

/-- A call to the repository of some runtime. -/
inductive BaselineCall
  | activate (runtime : String) (baseline : ExternalAccountBaseline)
  | revoke (runtime venue operator manifest : String) (now : ℕ)

/-- The rows after an accepted call; a refused one leaves them. -/
def rowsAfter (rows : BaselineRows) : Except String (Bool × BaselineRows) → BaselineRows
  | .ok (_, rows') => rows'
  | .error _ => rows

/-- One call. -/
def baselineStep (rows : BaselineRows) : BaselineCall → Option BaselineRows
  | .activate runtime baseline => some (rowsAfter rows (activate sha256 runtime baseline rows))
  | .revoke runtime venue operator manifest now =>
    some (rowsAfter rows (revoke runtime venue operator manifest now rows))

/-- The column keeps the 28 digits of every quantity. -/
def KeepsDigits (c : BaselineContents) : Prop :=
  ∀ p ∈ c.positions, Dec.ctx (Dec.money p.2.value) = Dec.ctx p.2.value

instance (c : BaselineContents) : Decidable (KeepsDigits c) :=
  inferInstanceAs (Decidable (∀ p ∈ c.positions, _))

/-- The manifest is in lower case and the column keeps the digits. -/
structure Storable (baseline : ExternalAccountBaseline) : Prop where
  lower : lower baseline.manifestSha256 = baseline.manifestSha256
  digits : KeepsDigits baseline.toBaselineContents

/-- An activation of a baseline that has a payload is one of a storable baseline, and the text of
the payload is one of `texts`. -/
def StorableCall (texts : Set String) (_ : BaselineRows) : BaselineCall → Prop
  | .activate _ baseline =>
    ∀ p, canonicalPayload baseline.toBaselineContents = .ok p →
      Storable baseline ∧ canonicalJson p ∈ texts
  | .revoke .. => True

/-! ## What a call does -/

variable {sha256} {rows rows' : BaselineRows} {runtime venue : String}
  {baseline : ExternalAccountBaseline} {texts : Set String}

/-- What an accepted activation does: nothing if the baseline is the active one, and otherwise a
stored row is revived or a new one written. -/
theorem activate_cases {accepted : Bool}
    (h : activate sha256 runtime baseline rows = .ok (accepted, rows')) :
    baseline.runtimeInstanceId = runtime ∧
    (∃ p, canonicalPayload baseline.toBaselineContents = .ok p ∧
      manifestSha256 sha256 p = lower baseline.manifestSha256) ∧
    ((rows' = rows ∧
        ∃ row, activeRow runtime baseline.venue rows = some (baseline.manifestSha256, row)) ∨
      (activeRow runtime baseline.venue rows = none ∧
        ∃ existing, rows.get? baseline.manifestSha256 = some existing ∧
          existing.runtimeInstanceId = baseline.runtimeInstanceId ∧
          existing.venue = baseline.venue ∧
          rows' = rows.set baseline.manifestSha256 (revivedRow existing baseline)) ∨
      (activeRow runtime baseline.venue rows = none ∧
        rows.get? baseline.manifestSha256 = none ∧
        rows' = rows.set baseline.manifestSha256 (freshRow baseline))) := by
  simp only [activate] at h
  by_cases hruntime : baseline.runtimeInstanceId = runtime
  · rw [if_neg (not_not.mpr hruntime)] at h
    cases hp : canonicalPayload baseline.toBaselineContents with
    | error e =>
      rw [hp] at h
      cases h
    | ok p =>
      rw [hp] at h
      by_cases hdigest : manifestSha256 sha256 p = lower baseline.manifestSha256
      · refine ⟨hruntime, ⟨p, rfl, hdigest⟩, ?_⟩
        cases hactive : activeRow runtime baseline.venue rows with
        | some found =>
          obtain ⟨m, row⟩ := found
          simp only [bind, Except.bind, hdigest, hactive, ne_eq, not_true_eq_false, if_false] at h
          split at h
          · next heq =>
            cases h
            exact .inl ⟨rfl, row, by rw [heq]⟩
          · cases h
        | none =>
          cases hexisting : rows.get? baseline.manifestSha256 with
          | some existing =>
            simp only [bind, Except.bind, hdigest, hactive, hexisting, ne_eq, not_true_eq_false,
              if_false] at h
            split at h
            · cases h
            · next hscope =>
              cases h
              simp only [not_or, not_not] at hscope
              exact .inr (.inl ⟨rfl, existing, rfl, hscope.1, hscope.2.1, rfl⟩)
          | none =>
            simp only [bind, Except.bind, hdigest, hactive, hexisting, ne_eq, not_true_eq_false,
              if_false] at h
            cases h
            exact .inr (.inr ⟨rfl, rfl, rfl⟩)
      · simp only [bind, Except.bind, ne_eq, hdigest, not_false_eq_true, if_true] at h
        cases h
  · rw [if_pos hruntime] at h
    cases h

/-- What an accepted revocation does: nothing without an active row, and otherwise that row is
marked. -/
theorem revoke_cases {operator manifest : String} {now : ℕ} {revoked : Bool}
    (h : revoke runtime venue operator manifest now rows = .ok (revoked, rows')) :
    rows' = rows ∨ ∃ m row, activeRow runtime venue rows = some (m, row) ∧
      rows' = rows.set m { row with revokedAt := some now, revokedBy := some (strip operator) } := by
  simp only [revoke] at h
  split at h
  · cases h
  split at h
  · cases h
  cases hactive : activeRow runtime venue rows with
  | none =>
    rw [hactive] at h
    cases h
    exact .inl rfl
  | some found =>
    obtain ⟨m, row⟩ := found
    simp only [hactive] at h
    split at h
    · cases h
    · cases h
      exact .inr ⟨m, row, rfl, rfl⟩

theorem activeRow_mem {found : String × BaselineRow}
    (h : activeRow runtime venue rows = some found) :
    found ∈ rows.entries ∧ isActive runtime venue found = true :=
  ⟨List.mem_of_find?_eq_some h, List.find?_some h⟩

theorem activeRow_none (h : activeRow runtime venue rows = none) {e : String × BaselineRow}
    (he : e ∈ rows.entries) : isActive runtime venue e = false := by
  simpa using List.find?_eq_none.mp h e he

/-- The only active row of a scope is the one that is found. -/
theorem activeRow_eq_some {e : String × BaselineRow} (he : e ∈ rows.entries)
    (hactive : isActive runtime venue e = true)
    (hunique : ∀ e' ∈ rows.entries, isActive runtime venue e' = true → e' = e) :
    activeRow runtime venue rows = some e := by
  have hsome : (activeRow runtime venue rows).isSome := List.find?_isSome.mpr ⟨e, he, hactive⟩
  obtain ⟨e', he'⟩ := Option.isSome_iff_exists.mp hsome
  obtain ⟨hmem, hactive'⟩ := activeRow_mem he'
  rw [he', hunique e' hmem hactive']

/-- A row that is written where none was active is found. -/
theorem activeRow_set (h : activeRow runtime venue rows = none) {m : String} {row : BaselineRow}
    (hactive : isActive runtime venue (m, row) = true) :
    activeRow runtime venue (rows.set m row) = some (m, row) := by
  refine activeRow_eq_some ?_ hactive ?_
  · exact Dict.get?_eq_some_iff.mp (Dict.get?_set_self rows m row)
  · intro e' he' hactive'
    rcases Dict.mem_entries_set he' with rfl | hold
    · rfl
    · rw [activeRow_none h hold] at hactive'
      cases hactive'

/-! ## Reading back -/

/-- An item that can be read: a position with a quantity or a reference without one. -/
def BaselineItemRow.Readable (item : BaselineItemRow) : Prop :=
  match item.itemType with
  | .position => item.quantity.isSome
  | .fillRef => item.quantity = none

/-- The positions among the items. -/
def positionsOf (items : List BaselineItemRow) : List (String × Spelled) :=
  items.filterMap fun item =>
    if item.itemType = .position then item.quantity.map fun quantity => (item.itemKey, quantity)
    else none

/-- The fill references among the items. -/
def fillRefsOf (items : List BaselineItemRow) : List String :=
  items.filterMap fun item => if item.itemType = .fillRef then some item.itemKey else none

theorem readItems_readable {items : List BaselineItemRow} (h : ∀ item ∈ items, item.Readable) :
    readItems items = .ok (positionsOf items, fillRefsOf items) := by
  induction items with
  | nil => rfl
  | cons item rest ih =>
    rw [List.forall_mem_cons] at h
    obtain ⟨itemType, itemKey, quantity⟩ := item
    have ih := ih h.2
    cases itemType with
    | position =>
      obtain ⟨q, rfl⟩ := Option.isSome_iff_exists.mp h.1
      simp only [readItems, ih]
      rfl
    | fillRef =>
      obtain rfl : quantity = none := h.1
      simp only [readItems, ih]
      rfl

/-- What a row stores. -/
def storedContents (row : BaselineRow) : BaselineContents :=
  rowContents row (positionsOf row.items) (fillRefsOf row.items)

/-- **A row with readable items loads a payload exactly if it stores it and its manifest is the
digest of it.** -/
theorem externalBaselineFromRows_iff (order : ItemOrder) {m : String} {row : BaselineRow}
    (hreadable : ∀ item ∈ row.items, item.Readable) {p : BaselinePayload} :
    (∃ loaded, externalBaselineFromRows sha256 m row (order.order row.items) = .ok loaded ∧
        canonicalPayload loaded.toBaselineContents = .ok p) ↔
      canonicalPayload (storedContents row) = .ok p ∧ manifestSha256 sha256 p = m := by
  have hperm := order.perm row.items
  have hread := readItems_readable fun item hitem => hreadable item (hperm.mem_iff.mp hitem)
  -- the order of the database and the sorting of the result are reorderings
  have hstored : (canonicalPayload (rowContents row (positionsOf (order.order row.items))
      (fillRefsOf (order.order row.items)))).toOption =
        (canonicalPayload (storedContents row)).toOption :=
    Respelled.canonicalPayload ⟨rfl, rfl, rfl, (hperm.filterMap _).map _, hperm.filterMap _⟩
  have hsorted : (canonicalPayload (rowContents row
      (sortedPositions (positionsOf (order.order row.items)))
      (sortFillRefs (fillRefsOf (order.order row.items))))).toOption =
        (canonicalPayload (rowContents row (positionsOf (order.order row.items))
          (fillRefsOf (order.order row.items)))).toOption :=
    Respelled.canonicalPayload
      ⟨rfl, rfl, rfl, (List.perm_insertionSort _ _).map _, List.perm_insertionSort _ _⟩
  rw [← toOption_eq_some_iff (x := canonicalPayload (storedContents row)), ← hstored,
    toOption_eq_some_iff]
  simp only [externalBaselineFromRows, hread, bind, Except.bind]
  constructor
  · rintro ⟨loaded, hloaded, hpayload⟩
    cases hq : canonicalPayload (rowContents row (positionsOf (order.order row.items))
        (fillRefsOf (order.order row.items))) with
    | error e =>
      rw [hq] at hloaded
      cases hloaded
    | ok q =>
      simp only [hq] at hloaded
      split at hloaded
      · cases hloaded
      · next hdigest =>
        cases hloaded
        have hpq : (canonicalPayload (rowContents row (positionsOf (order.order row.items))
            (fillRefsOf (order.order row.items)))).toOption = some p :=
          hsorted ▸ toOption_eq_some_iff.mpr hpayload
        rw [toOption_eq_some_iff, hq] at hpq
        cases hpq
        exact ⟨rfl, not_not.mp hdigest⟩
  · rintro ⟨hp, hdigest⟩
    have hpayload := toOption_eq_some_iff.mp (hsorted.trans (toOption_eq_some_iff.mpr hp))
    simp only [hp, hdigest, ne_eq, not_true_eq_false, if_false]
    exact ⟨_, rfl, hpayload⟩

/-- A payload with another digest fails the integrity check. -/
theorem externalBaselineFromRows_tampered {m : String} {row : BaselineRow}
    {items : List BaselineItemRow} {positions : List (String × Spelled)} {fillRefs : List String}
    {p : BaselinePayload} (hread : readItems items = .ok (positions, fillRefs))
    (hp : canonicalPayload (rowContents row positions fillRefs) = .ok p)
    (hdigest : manifestSha256 sha256 p ≠ m) :
    externalBaselineFromRows sha256 m row items =
      .error "stored external baseline failed its integrity check" := by
  simp only [externalBaselineFromRows, hread, hp, bind, Except.bind]
  exact if_pos hdigest

theorem externalBaselineFromRows_manifest {m : String} {row : BaselineRow}
    {items : List BaselineItemRow} {loaded : ExternalAccountBaseline}
    (h : externalBaselineFromRows sha256 m row items = .ok loaded) :
    loaded.manifestSha256 = m := by
  simp only [externalBaselineFromRows, bind, Except.bind] at h
  split at h
  · cases h
  split at h
  · cases h
  split at h
  · cases h
  · cases h
    rfl

/-! ## The column -/

/-- What is stored of a baseline. -/
def storedAs (c : BaselineContents) : BaselineContents :=
  { c with positions := c.positions.map fun position => (position.1, position.2.stored) }

theorem readable_itemsOf (c : BaselineContents) : ∀ item ∈ itemsOf c, item.Readable := by
  intro item hitem
  rcases List.mem_append.mp hitem with hitem | hitem
  · obtain ⟨position, -, rfl⟩ := List.mem_map.mp hitem
    exact rfl
  · obtain ⟨fillRef, -, rfl⟩ := List.mem_map.mp hitem
    exact rfl

theorem storedContents_freshRow (baseline : ExternalAccountBaseline) :
    storedContents (freshRow baseline) = storedAs baseline.toBaselineContents := by
  have hpositions : positionsOf (itemsOf baseline.toBaselineContents) =
      (storedAs baseline.toBaselineContents).positions := by
    simp [positionsOf, itemsOf, storedAs, List.filterMap_map]
  have hrefs : fillRefsOf (itemsOf baseline.toBaselineContents) = baseline.fillRefs := by
    simp [fillRefsOf, itemsOf, List.filterMap_map]
  simp only [storedContents, freshRow, rowContents, hpositions, hrefs]
  rfl

variable {c : BaselineContents}

/-- A column that keeps the digits of the quantities keeps the baseline well formed. -/
theorem WellFormed.storedAs (h : WellFormed c) (hkeeps : KeepsDigits c) :
    WellFormed (storedAs c) where
  runtime := h.runtime
  venue := h.venue
  fingerprint := h.fingerprint
  tokens := by
    intro q hq
    obtain ⟨p, hp, rfl⟩ := List.mem_map.mp hq
    exact h.tokens p hp
  quantities := by
    intro q hq
    obtain ⟨p, hp, rfl⟩ := List.mem_map.mp hq
    have hpos : 0 < Dec.ctx (Dec.money p.2.value) :=
      hkeeps p hp ▸ Dec.ctx_pos (h.quantities p hp)
    show 0 < p.2.stored.value
    rw [Spelled.value_stored]
    by_contra hle
    have hzero : Dec.money p.2.value = 0 :=
      le_antisymm (not_lt.mp hle) (Dec.money_nonneg (h.quantities p hp).le)
    rw [hzero, Dec.ctx_zero] at hpos
    exact lt_irrefl _ hpos
  tokens_nodup := by
    rw [Reconciliation.storedAs, List.map_map]
    exact h.tokens_nodup
  refs := h.refs
  refs_nodup := h.refs_nodup

/-- An entry as it is stored. -/
theorem mem_roundedEntries_storedAs {e : String × Dec} :
    e ∈ roundedEntries (storedAs c) ↔
      ∃ p ∈ c.positions, e = (strip p.1, Dec.ctx (Dec.money p.2.value)) := by
  constructor
  · rintro ⟨q, hq, rfl⟩
    obtain ⟨p, hp, rfl⟩ := List.mem_map.mp hq
    exact ⟨p, hp, by rw [Spelled.value_stored]⟩
  · rintro ⟨p, hp, rfl⟩
    exact ⟨_, List.mem_map_of_mem hp, by rw [Spelled.value_stored]⟩

/-- **What is stored of a baseline has its payload exactly if the column keeps the digits.** -/
theorem canonicalPayload_storedAs_iff {p : BaselinePayload} (h : canonicalPayload c = .ok p) :
    canonicalPayload (storedAs c) = .ok p ↔ KeepsDigits c := by
  obtain ⟨hc, rfl⟩ := canonicalPayload_ok_iff.mp h
  rw [canonicalPayload_ok_iff]
  constructor
  · rintro ⟨hstored, heq⟩
    have hentries := ((payloadOf_eq_iff hc hstored).mp heq).entries
    intro p hp
    -- the entry of the token is stored, and no other entry has the token
    have hmem : (strip p.1, Dec.ctx p.2.value) ∈ roundedEntries (storedAs c) :=
      hentries ▸ ⟨p, hp, rfl⟩
    obtain ⟨q, hq, hpq⟩ := mem_roundedEntries_storedAs.mp hmem
    obtain ⟨htoken, hvalue⟩ := Prod.mk.inj hpq
    obtain rfl := List.inj_on_of_nodup_map hc.tokens_nodup hp hq htoken
    exact hvalue.symm
  · intro hkeeps
    have hstored := hc.storedAs hkeeps
    refine ⟨hstored, (payloadOf_eq_iff hc hstored).mpr ⟨rfl, rfl, rfl, ?_, rfl⟩⟩
    ext e
    rw [mem_roundedEntries_storedAs]
    constructor
    · rintro ⟨p, hp, rfl⟩
      exact ⟨p, hp, by rw [hkeeps p hp]⟩
    · rintro ⟨p, hp, rfl⟩
      exact ⟨p, hp, by rw [hkeeps p hp]⟩

/-! ## Every active row loads -/

/-- A row that loads: readable items, and a payload of one of the texts that the manifest is the
digest of. -/
def LoadsBack (sha256 : String → String) (texts : Set String) (m : String) (row : BaselineRow) :
    Prop :=
  (∀ item ∈ row.items, item.Readable) ∧
    ∃ p, canonicalPayload (storedContents row) = .ok p ∧ canonicalJson p ∈ texts ∧
      manifestSha256 sha256 p = m

/-- Every row loads, and no scope has two active rows. -/
structure SoundRows (sha256 : String → String) (texts : Set String) (rows : BaselineRows) :
    Prop where
  loads : ∀ m row, rows.get? m = some row → LoadsBack sha256 texts m row
  unique : ∀ e ∈ rows.entries, ∀ e' ∈ rows.entries, ∀ runtime venue,
    isActive runtime venue e = true → isActive runtime venue e' = true → e = e'

theorem SoundRows.empty : SoundRows sha256 texts Dict.empty where
  loads := fun _ _ h => by cases h
  unique := fun _ he => by cases he

/-- Writing a row that loads, active only where no row is active. -/
theorem SoundRows.set (h : SoundRows sha256 texts rows) {m : String} {row : BaselineRow}
    (hloads : LoadsBack sha256 texts m row)
    (hfree : ∀ runtime venue, isActive runtime venue (m, row) = true →
      activeRow runtime venue rows = none) :
    SoundRows sha256 texts (rows.set m row) where
  loads := by
    intro k found hfound
    rw [Dict.get?_set] at hfound
    split at hfound
    · next hk =>
      cases hfound
      exact hk ▸ hloads
    · exact h.loads k found hfound
  unique := by
    intro e he e' he' runtime venue hactive hactive'
    rcases Dict.mem_entries_set he with rfl | hold
    · rcases Dict.mem_entries_set he' with rfl | hold'
      · rfl
      · rw [activeRow_none (hfree runtime venue hactive) hold'] at hactive'
        cases hactive'
    · rcases Dict.mem_entries_set he' with rfl | hold'
      · rw [activeRow_none (hfree runtime venue hactive') hold] at hactive
        cases hactive
      · exact h.unique e hold e' hold' runtime venue hactive hactive'

theorem isActive_iff {m : String} {row : BaselineRow} :
    isActive runtime venue (m, row) = true ↔
      row.runtimeInstanceId = runtime ∧ row.venue = venue ∧ row.revokedAt = none := by
  simp [isActive]

/-- A storable baseline is stored as a row that loads. -/
theorem loadsBack_freshRow {p : BaselinePayload}
    (hp : canonicalPayload baseline.toBaselineContents = .ok p)
    (hdigest : manifestSha256 sha256 p = lower baseline.manifestSha256)
    (hstorable : Storable baseline) (htext : canonicalJson p ∈ texts) :
    LoadsBack sha256 texts baseline.manifestSha256 (freshRow baseline) := by
  refine ⟨readable_itemsOf _, p, ?_, htext, hdigest.trans hstorable.lower⟩
  rw [storedContents_freshRow]
  exact (canonicalPayload_storedAs_iff hp).mpr hstorable.digits

/-- A call keeps the rows sound. -/
theorem baselineStep_sound {call : BaselineCall} (h : SoundRows sha256 texts rows)
    (hcall : StorableCall texts rows call) (hstep : baselineStep sha256 rows call = some rows') :
    SoundRows sha256 texts rows' := by
  cases call with
  | activate runtime baseline =>
    cases hstep
    cases hresult : activate sha256 runtime baseline rows with
    | error e => exact h
    | ok result =>
      obtain ⟨accepted, after⟩ := result
      obtain ⟨hruntime, ⟨p, hp, hdigest⟩, hcases⟩ := activate_cases hresult
      obtain ⟨hstorable, htext⟩ := hcall p hp
      show SoundRows sha256 texts after
      rcases hcases with ⟨rfl, -⟩ | ⟨hnone, existing, hexisting, hscope, hvenue, rfl⟩ |
        ⟨hnone, -, rfl⟩
      · exact h
      · -- the items of the row are the ones that loaded before
        refine h.set (h.loads _ existing hexisting) ?_
        intro r v hactive
        obtain ⟨hr, hv, -⟩ := isActive_iff.mp hactive
        rw [← hr, ← hv]
        show activeRow existing.runtimeInstanceId existing.venue rows = none
        rw [hscope, hvenue, hruntime]
        exact hnone
      · refine h.set (loadsBack_freshRow hp hdigest hstorable htext) ?_
        intro r v hactive
        obtain ⟨hr, hv, -⟩ := isActive_iff.mp hactive
        rw [← hr, ← hv]
        show activeRow baseline.runtimeInstanceId baseline.venue rows = none
        rw [hruntime]
        exact hnone
  | revoke runtime venue operator manifest now =>
    cases hstep
    cases hresult : revoke runtime venue operator manifest now rows with
    | error e => exact h
    | ok result =>
      obtain ⟨revoked, after⟩ := result
      show SoundRows sha256 texts after
      rcases revoke_cases hresult with rfl | ⟨m, row, hfound, rfl⟩
      · exact h
      · have hmem := (activeRow_mem hfound).1
        refine h.set (h.loads m row (Dict.get?_eq_some_iff.mpr hmem)) ?_
        intro r v hactive
        cases (isActive_iff.mp hactive).2.2

/-- In a run of storable activations the rows stay sound. -/
theorem run_sound {hist : List BaselineRows}
    (hrun : Run (baselineStep sha256) (StorableCall texts) Dict.empty hist rows) :
    SoundRows sha256 texts rows :=
  hrun.state_invariant _ .empty fun _ _ _ hI hok hstep => baselineStep_sound hI hok hstep

/-- An active row that loads is what `active_external_account_baseline` returns. -/
theorem loads_of_activeRow (order : ItemOrder) {m : String} {row : BaselineRow}
    (hactive : activeRow runtime venue rows = some (m, row))
    (hloads : LoadsBack sha256 texts m row) :
    ∃ loaded p, activeExternalAccountBaseline sha256 order runtime venue rows = .ok (some loaded) ∧
      loaded.manifestSha256 = m ∧ canonicalPayload loaded.toBaselineContents = .ok p ∧
      canonicalJson p ∈ texts ∧ manifestSha256 sha256 p = m := by
  obtain ⟨hreadable, p, hp, htext, hdigest⟩ := hloads
  obtain ⟨loaded, hloaded, hpayload⟩ :=
    (externalBaselineFromRows_iff order hreadable).mpr ⟨hp, hdigest⟩
  refine ⟨loaded, p, ?_, externalBaselineFromRows_manifest hloaded, hpayload, htext, hdigest⟩
  simp only [activeExternalAccountBaseline, hactive, hloaded]
  rfl

/-- After an accepted activation the row of the manifest is the active one. -/
theorem activate_active {accepted : Bool}
    (h : activate sha256 runtime baseline rows = .ok (accepted, rows')) :
    ∃ row, activeRow runtime baseline.venue rows' = some (baseline.manifestSha256, row) := by
  obtain ⟨hruntime, -, hcases⟩ := activate_cases h
  rcases hcases with ⟨rfl, row, hrow⟩ | ⟨hnone, existing, -, hscope, hvenue, rfl⟩ | ⟨hnone, -, rfl⟩
  · exact ⟨row, hrow⟩
  · exact ⟨_, activeRow_set hnone
      (isActive_iff.mpr ⟨hscope.trans hruntime, hvenue, rfl⟩)⟩
  · exact ⟨_, activeRow_set hnone (isActive_iff.mpr ⟨hruntime, rfl, rfl⟩)⟩

/-- A baseline that is written as a new row loads with its payload exactly if it is storable. -/
theorem loads_iff_of_fresh (order : ItemOrder) {accepted : Bool}
    (h : activate sha256 runtime baseline rows = .ok (accepted, rows'))
    (hnone : activeRow runtime baseline.venue rows = none)
    (hfresh : rows.get? baseline.manifestSha256 = none) :
    (∃ loaded, activeExternalAccountBaseline sha256 order runtime baseline.venue rows' =
          .ok (some loaded) ∧
        canonicalPayload loaded.toBaselineContents =
          canonicalPayload baseline.toBaselineContents) ↔
      Storable baseline := by
  obtain ⟨hruntime, ⟨p, hp, hdigest⟩, hcases⟩ := activate_cases h
  have hrows : rows' = rows.set baseline.manifestSha256 (freshRow baseline) := by
    rcases hcases with ⟨-, row, hrow⟩ | ⟨-, existing, hexisting, -⟩ | ⟨-, -, hrows⟩
    · rw [hrow] at hnone
      cases hnone
    · rw [hexisting] at hfresh
      cases hfresh
    · exact hrows
  subst hrows
  have hactive : activeRow runtime baseline.venue
      (rows.set baseline.manifestSha256 (freshRow baseline)) =
        some (baseline.manifestSha256, freshRow baseline) :=
    activeRow_set hnone (isActive_iff.mpr ⟨hruntime, rfl, rfl⟩)
  have hiff := @externalBaselineFromRows_iff sha256 order baseline.manifestSha256
    (freshRow baseline) (readable_itemsOf _) p
  rw [storedContents_freshRow, canonicalPayload_storedAs_iff hp] at hiff
  have hload : ∀ loaded, activeExternalAccountBaseline sha256 order runtime baseline.venue
      (rows.set baseline.manifestSha256 (freshRow baseline)) = .ok (some loaded) ↔
        externalBaselineFromRows sha256 baseline.manifestSha256 (freshRow baseline)
          (order.order (freshRow baseline).items) = .ok loaded := by
    intro loaded
    simp only [activeExternalAccountBaseline, hactive]
    cases externalBaselineFromRows sha256 baseline.manifestSha256 (freshRow baseline)
      (order.order (freshRow baseline).items) <;> simp [Except.map]
  simp only [hload, hp]
  rw [hiff, hdigest]
  exact ⟨fun h => ⟨h.2, h.1⟩, fun h => ⟨h.digits, h.lower⟩⟩

variable (sha256 texts) in
/-- **The canonical payload forgets order and spelling and nothing before the 29th digit; in a run of
storable activations, without two texts of one digest, every active row loads, and an accepted
baseline loads with its own payload.  A new row loads exactly if its baseline is storable.** -/
theorem external_baseline_canonical (hcollision : Set.InjOn sha256 texts) (order : ItemOrder) :
    (∀ c c', Respelled c c' → (canonicalPayload c).toOption = (canonicalPayload c').toOption) ∧
    (∀ c c' p p', canonicalPayload c = .ok p → canonicalPayload c' = .ok p' →
      (p = p' ↔ SameContents c c') ∧ (canonicalJson p = canonicalJson p' ↔ p = p')) ∧
    (∀ hist rows, Run (baselineStep sha256) (StorableCall texts) Dict.empty hist rows →
      (∀ m row, rows.get? m = some row → row.revokedAt = none →
        ∃ loaded p,
          activeExternalAccountBaseline sha256 order row.runtimeInstanceId row.venue rows =
            .ok (some loaded) ∧
          loaded.manifestSha256 = m ∧ canonicalPayload loaded.toBaselineContents = .ok p ∧
          canonicalJson p ∈ texts ∧ manifestSha256 sha256 p = m) ∧
      ∀ runtime baseline accepted rows',
        StorableCall texts rows (.activate runtime baseline) →
        activate sha256 runtime baseline rows = .ok (accepted, rows') →
        ∃ loaded,
          activeExternalAccountBaseline sha256 order runtime baseline.venue rows' =
            .ok (some loaded) ∧
          canonicalPayload loaded.toBaselineContents =
            canonicalPayload baseline.toBaselineContents) ∧
    ∀ runtime baseline accepted rows rows',
      activate sha256 runtime baseline rows = .ok (accepted, rows') →
      activeRow runtime baseline.venue rows = none →
      rows.get? baseline.manifestSha256 = none →
      ((∃ loaded,
          activeExternalAccountBaseline sha256 order runtime baseline.venue rows' =
            .ok (some loaded) ∧
          canonicalPayload loaded.toBaselineContents =
            canonicalPayload baseline.toBaselineContents) ↔
        Storable baseline) := by
  refine ⟨fun c c' h => h.canonicalPayload, ?_, ?_, fun runtime baseline accepted rows rows' =>
    loads_iff_of_fresh order⟩
  · intro c c' p p' hp hp'
    obtain ⟨hc, rfl⟩ := canonicalPayload_ok_iff.mp hp
    obtain ⟨hc', rfl⟩ := canonicalPayload_ok_iff.mp hp'
    exact ⟨payloadOf_eq_iff hc hc', canonicalJson_injective.eq_iff⟩
  · intro hist rows hrun
    have hsound := run_sound hrun
    constructor
    · intro m row hrow hactive
      have hmem := Dict.get?_eq_some_iff.mp hrow
      have hself := isActive_iff (m := m).mpr ⟨rfl, rfl, hactive⟩
      have hfound := activeRow_eq_some hmem hself
        fun e' he' hactive' => hsound.unique e' he' _ hmem _ _ hactive' hself
      exact loads_of_activeRow order hfound (hsound.loads m row hrow)
    · intro runtime baseline accepted rows' hcall haccepted
      obtain ⟨-, ⟨p, hp, hdigest⟩, -⟩ := activate_cases haccepted
      obtain ⟨hstorable, htext⟩ := hcall p hp
      have hstep : baselineStep sha256 rows (.activate runtime baseline) = some rows' := by
        simp only [baselineStep, haccepted, rowsAfter]
      have hsound' := baselineStep_sound hsound hcall hstep
      obtain ⟨row, hfound⟩ := activate_active haccepted
      have hrow := Dict.get?_eq_some_iff.mpr (activeRow_mem hfound).1
      obtain ⟨loaded, q, hloaded, -, hq, hqtext, hqdigest⟩ :=
        loads_of_activeRow order hfound (hsound'.loads _ _ hrow)
      -- both payloads have the digest that is the manifest
      have htexts : canonicalJson q = canonicalJson p :=
        hcollision hqtext htext (hqdigest.trans (hdigest.trans hstorable.lower).symm)
      exact ⟨loaded, hloaded, by rw [hq, hp, canonicalJson_injective htexts]⟩

/-! ## Examples -/

namespace BaselineExamples

/-- The digest of an account. -/
def account : String := "abababababababababababababababababababababababababababababababab"

/-- Contents of an account on one venue. -/
def contents (positions : List (String × Spelled)) (fillRefs : List String) : BaselineContents :=
  { runtimeInstanceId := "main", venue := "Opinion", accountFingerprint := account
    positions := positions, fillRefs := fillRefs }

/-- Two positions and a reference, and the same respelled. -/
def held : BaselineContents := contents [("7", ⟨false, 250, -2⟩), ("12", ⟨false, 1, 0⟩)] ["f\"1"]

def heldRespelled : BaselineContents :=
  contents [("12", ⟨false, 1000, -3⟩), ("7", ⟨false, 25, -1⟩)] ["f\"1"]

def heldPayload : BaselinePayload :=
  ⟨"main", "Opinion", account, [("12", "1"), ("7", "2.5")], ["f\"1"]⟩

def heldManifest : String := "f8088ea322347c14f9144d4a215021079423e753ede124f26250d4c1095efc74"

/-- A third to 28 digits, and what the column keeps of it. -/
def third : BaselineContents := contents [("7", ⟨false, 3333333333333333333333333333, -28⟩)] []

def thirdPayload : BaselinePayload :=
  ⟨"main", "Opinion", account, [("7", "0.3333333333333333333333333333")], []⟩

def thirdManifest : String := "a69819b5aabaa12bafb25c96e00cd4f3f491401d74ecce31615b21ee6384ef43"

def cutPayload : BaselinePayload :=
  ⟨"main", "Opinion", account, [("7", "0.333333333333333333")], []⟩

/-- The digests of the texts of the two payloads. -/
def digest (text : String) : String :=
  if text = canonicalJson heldPayload then heldManifest
  else if text = canonicalJson thirdPayload then thirdManifest
  else ""

/-- A baseline under a manifest. -/
def submitted (c : BaselineContents) (manifest : String) : ExternalAccountBaseline :=
  { c with manifestSha256 := manifest, capturedAt := 0, operator := "op" }

/-- The order of the keys. -/
def byKey : ItemOrder where
  order := fun items => items.insertionSort fun a b => a.itemKey ≤ b.itemKey
  perm := fun items => List.perm_insertionSort _ items

theorem canonicalPayload_held : canonicalPayload held = .ok heldPayload := by decide +kernel

theorem canonicalPayload_third : canonicalPayload third = .ok thirdPayload := by decide +kernel

theorem canonicalPayload_cut : canonicalPayload (storedAs third) = .ok cutPayload := by
  decide +kernel

theorem canonicalPayload_one : canonicalPayload (contents [("7", ⟨false, 1, 0⟩)] []) =
    .ok ⟨"main", "Opinion", account, [("7", "1")], []⟩ := by decide +kernel

theorem canonicalPayload_almost_one :
    canonicalPayload (contents [("7", ⟨false, 10000000000000000000000000001, -28⟩)] []) =
      .ok ⟨"main", "Opinion", account, [("7", "1")], []⟩ := by decide +kernel

theorem digest_held : manifestSha256 digest heldPayload = heldManifest := by
  rw [manifestSha256, digest, if_pos rfl]

theorem digest_third : manifestSha256 digest thirdPayload = thirdManifest := by
  have hne : canonicalJson thirdPayload ≠ canonicalJson heldPayload :=
    canonicalJson_injective.ne (by decide)
  rw [manifestSha256, digest, if_neg hne, if_pos rfl]

theorem digest_cut : manifestSha256 digest cutPayload = "" := by
  have hheld : canonicalJson cutPayload ≠ canonicalJson heldPayload :=
    canonicalJson_injective.ne (by decide)
  have hthird : canonicalJson cutPayload ≠ canonicalJson thirdPayload :=
    canonicalJson_injective.ne (by decide)
  rw [manifestSha256, digest, if_neg hheld, if_neg hthird]

/-- On an empty database a baseline with the right manifest becomes a new row. -/
theorem activate_empty {c : BaselineContents} {p : BaselinePayload} {manifest : String}
    (hruntime : c.runtimeInstanceId = "main") (hp : canonicalPayload c = .ok p)
    (hdigest : manifestSha256 digest p = lower manifest) :
    activate digest "main" (submitted c manifest) Dict.empty =
      .ok (true, Dict.empty.set manifest (freshRow (submitted c manifest))) := by
  simp only [activate, submitted, hruntime, hp, hdigest, bind, Except.bind, ne_eq,
    not_true_eq_false, if_false]
  rfl

/-- The general statement at the first baseline: it is accepted and loads, with the payload of its
other spelling. -/
theorem external_baseline_canonical_held :
    ∃ rows', activate digest "main" (submitted held heldManifest) Dict.empty = .ok (true, rows') ∧
      ∃ loaded,
        activeExternalAccountBaseline digest byKey "main" "Opinion" rows' = .ok (some loaded) ∧
        (canonicalPayload loaded.toBaselineContents).toOption =
          (canonicalPayload heldRespelled).toOption := by
  have hone : Set.InjOn digest {canonicalJson heldPayload} := Set.injOn_singleton _ _
  obtain ⟨hrespelled, -, hruns, -⟩ := external_baseline_canonical digest _ hone byKey
  have hlower : lower heldManifest = heldManifest := by decide +kernel
  have haccepted := activate_empty rfl canonicalPayload_held (digest_held.trans hlower.symm)
  have hcall : StorableCall {canonicalJson heldPayload} Dict.empty
      (.activate "main" (submitted held heldManifest)) := by
    intro p hp
    obtain rfl : heldPayload = p := Except.ok.inj (canonicalPayload_held.symm.trans hp)
    exact ⟨⟨hlower, by decide +kernel⟩, rfl⟩
  obtain ⟨loaded, hloaded, hpayload⟩ := (hruns [] Dict.empty .start).2 _ _ _ _ hcall haccepted
  refine ⟨_, haccepted, loaded, hloaded, ?_⟩
  rw [hpayload]
  exact hrespelled _ _ ⟨rfl, rfl, rfl, by decide +kernel, List.Perm.refl _⟩

/-- Two quantities that differ in the 29th digit have one payload, and a baseline with 28 decimals
is accepted and then refused when it is loaded. -/
theorem payloads_collide_and_third_unloadable :
    (canonicalPayload (contents [("7", ⟨false, 1, 0⟩)] []) =
        canonicalPayload (contents [("7", ⟨false, 10000000000000000000000000001, -28⟩)] []) ∧
      canonicalPayload (contents [("7", ⟨false, 1, 0⟩)] []) =
        .ok ⟨"main", "Opinion", account, [("7", "1")], []⟩ ∧
      (⟨false, 1, 0⟩ : Spelled).value ≠
        (⟨false, 10000000000000000000000000001, -28⟩ : Spelled).value) ∧
    ∃ rows', activate digest "main" (submitted third thirdManifest) Dict.empty =
        .ok (true, rows') ∧
      activeExternalAccountBaseline digest byKey "main" "Opinion" rows' =
        .error "stored external baseline failed its integrity check" := by
  refine ⟨⟨canonicalPayload_one.trans canonicalPayload_almost_one.symm, canonicalPayload_one,
    by decide +kernel⟩, ?_⟩
  have hlower : lower thirdManifest = thirdManifest := by decide +kernel
  refine ⟨_, activate_empty rfl canonicalPayload_third (digest_third.trans hlower.symm), ?_⟩
  have hread : readItems (byKey.order (itemsOf third)) = .ok ((storedAs third).positions, []) := by
    decide +kernel
  have hactive : activeRow "main" "Opinion" (Dict.empty.set thirdManifest
      (freshRow (submitted third thirdManifest))) =
        some (thirdManifest, freshRow (submitted third thirdManifest)) :=
    activeRow_set rfl (isActive_iff.mpr ⟨rfl, rfl, rfl⟩)
  have hfails : externalBaselineFromRows digest thirdManifest
      (freshRow (submitted third thirdManifest)) (byKey.order (itemsOf third)) =
        .error "stored external baseline failed its integrity check" :=
    externalBaselineFromRows_tampered hread canonicalPayload_cut
      (digest_cut ▸ (by decide : "" ≠ thirdManifest))
  simp only [activeExternalAccountBaseline, hactive]
  rw [show (freshRow (submitted third thirdManifest)).items = itemsOf third from rfl, hfails]
  rfl

end BaselineExamples

end ArbitrageEngine.Reconciliation
