/-
# ArbitrageEngine.Reconciliation.ExternalBaseline -- the canonical payload of an account baseline

What an account held before the engine traded on it is written down as a baseline: positions that
are not the engine's, and references of fills that are not its own.  The baseline is identified by
the digest of a canonical payload, in which tokens and references are stripped, sorted and without
repetition, and quantities are written in canonical decimal text.

The payload of a valid baseline says exactly which stripped tokens and references it has and which
28 digits their quantities start with (`payloadOf_eq_iff`), and its JSON text, which is what gets
hashed, says exactly which payload it is (`canonicalJson_injective`).
-/
import ArbitrageEngine.DecimalText
import ArbitrageEngine.Execution.Residual
import ArbitrageEngine.Lib.JsonText
import Mathlib.Data.List.Sort
import Mathlib.Data.String.Basic

namespace ArbitrageEngine.Reconciliation

open ArbitrageEngine.Execution (strip)
open Lib.JsonText

/-! ## The payload -/

/-- The arguments of `canonical_external_baseline_payload`. -/
structure BaselineContents where
  runtimeInstanceId : String
  venue : String
  accountFingerprint : String
  positions : List (String × Spelled)
  fillRefs : List String
deriving DecidableEq

/-- The canonical payload; its `schema_version` is always 1. -/
@[ext]
structure BaselinePayload where
  runtimeInstanceId : String
  venue : String
  accountFingerprint : String
  positions : List (String × String)
  fillRefs : List String
deriving DecidableEq

/-- `str.lower`; what is compared with its result is ASCII. -/
def lower (s : String) : String := String.ofList (s.toList.map Char.toLower)

/-- `account_fingerprint_value.strip().lower()`. -/
def normalizedFingerprint (value : String) : String := lower (strip value)

/-- A SHA-256 digest in lower-case hexadecimal digits. -/
def IsDigest (s : String) : Prop :=
  s.length = 64 ∧ ∀ c ∈ s.toList, c ∈ "0123456789abcdef".toList

instance (s : String) : Decidable (IsDigest s) :=
  -- over the letters of `s`, not over all characters
  have : Decidable (∀ c ∈ s.toList, c ∈ "0123456789abcdef".toList) :=
    List.decidableBAll (fun c => c ∈ "0123456789abcdef".toList) s.toList
  inferInstanceAs (Decidable (_ ∧ _))

/-- A stripped token id or fill reference that is stored as an item key. -/
def ValidKey (key : String) : Prop := key ≠ "" ∧ key.length ≤ 256

instance (key : String) : Decidable (ValidKey key) := inferInstanceAs (Decidable (_ ∧ _))

/-- The texts of the errors of one loop over the items. -/
structure ItemErrors where
  invalid : String
  duplicate : String → String

/-- The loop over positions and the loop over fill references: strip the key, refuse an empty, long
or repeated one, check the rest of the item and write it down. -/
def normalizeItems {α β : Type} (errors : ItemErrors) (key : α → String)
    (check : String → α → Option String) (render : String → α → β) :
    List String → List α → Except String (List β)
  | _, [] => .ok []
  | seen, item :: rest =>
    let itemKey := strip (key item)
    if ¬ValidKey itemKey then .error errors.invalid
    else if itemKey ∈ seen then .error (errors.duplicate itemKey)
    else
      match check itemKey item with
      | some message => .error message
      | none =>
        (normalizeItems errors key check render (itemKey :: seen) rest).map
          (render itemKey item :: ·)

/-- The loop over `positions`. -/
def normalizedPositions (positions : List (String × Spelled)) :
    Except String (List (String × String)) :=
  normalizeItems
    { invalid := "external position token id is invalid"
      duplicate := fun tokenId => "duplicate external position token id: " ++ tokenId }
    Prod.fst
    (fun tokenId item =>
      if item.2.value ≤ 0 then
        some ("external position quantity must be positive for token " ++ tokenId)
      else none)
    (fun tokenId item => (tokenId, item.2.canonicalDecimal)) [] positions

/-- The loop over `fill_refs`. -/
def normalizedFillRefs (fillRefs : List String) : Except String (List String) :=
  normalizeItems
    { invalid := "external fill reference is invalid"
      duplicate := fun fillRef => "duplicate external fill reference: " ++ fillRef }
    id (fun _ _ => none) (fun fillRef _ => fillRef) [] fillRefs

/-- `normalized_positions.sort(key=token_id)`. -/
def sortPositions (positions : List (String × String)) : List (String × String) :=
  positions.insertionSort (fun a b => a.1 ≤ b.1)

/-- `normalized_fill_refs.sort()`. -/
def sortFillRefs (fillRefs : List String) : List String := fillRefs.insertionSort (· ≤ ·)

/-- `canonical_external_baseline_payload`. -/
def canonicalPayload (c : BaselineContents) : Except String BaselinePayload :=
  let runtime := strip c.runtimeInstanceId
  let venue := strip c.venue
  let fingerprint := normalizedFingerprint c.accountFingerprint
  if runtime = "" ∨ venue = "" then .error "runtime instance and venue are required"
  else if ¬IsDigest fingerprint then .error "account fingerprint must be a SHA-256 digest"
  else do
    let positions ← normalizedPositions c.positions
    let fillRefs ← normalizedFillRefs c.fillRefs
    return {
      runtimeInstanceId := runtime
      venue := venue
      accountFingerprint := fingerprint
      positions := sortPositions positions
      fillRefs := sortFillRefs fillRefs }

/-! ## What the loops accept -/

/-- The loop succeeds exactly if every item passes and no key repeats, and then writes all items
down in order. -/
theorem normalizeItems_ok_iff {α β : Type} {errors : ItemErrors} {key : α → String}
    {check : String → α → Option String} {render : String → α → β} {items : List α} :
    ∀ {seen : List String} {out : List β},
      normalizeItems errors key check render seen items = .ok out ↔
        (∀ item ∈ items, ValidKey (strip (key item)) ∧ strip (key item) ∉ seen ∧
          check (strip (key item)) item = none) ∧
        (items.map fun item => strip (key item)).Nodup ∧
        out = items.map fun item => render (strip (key item)) item := by
  induction items with
  | nil =>
    intro seen out
    simp [normalizeItems, eq_comm]
  | cons item rest ih =>
    intro seen out
    simp only [normalizeItems]
    by_cases hvalid : ValidKey (strip (key item))
    · rw [if_neg (not_not.mpr hvalid)]
      by_cases hseen : strip (key item) ∈ seen
      · rw [if_pos hseen]
        simp only [List.forall_mem_cons, reduceCtorEq, false_iff]
        exact fun h => h.1.1.2.1 hseen
      rw [if_neg hseen]
      cases hcheck : check (strip (key item)) item with
      | some message =>
        simp only [List.forall_mem_cons, hcheck, reduceCtorEq, false_iff]
        exact fun h => h.1.1.2.2.elim
      | none =>
        simp only [List.forall_mem_cons, List.map_cons, List.nodup_cons, hcheck]
        constructor
        · intro h
          cases hrest : normalizeItems errors key check render (strip (key item) :: seen) rest with
          | error e =>
            rw [hrest] at h
            cases h
          | ok out' =>
            rw [hrest] at h
            cases h
            obtain ⟨hall, hnodup, rfl⟩ := ih.mp hrest
            refine ⟨⟨⟨hvalid, hseen, trivial⟩, fun i hi => ?_⟩, ⟨?_, hnodup⟩, rfl⟩
            · obtain ⟨hv, hs, hc⟩ := hall i hi
              exact ⟨hv, fun h => hs (List.mem_cons_of_mem _ h), hc⟩
            · intro hmem
              obtain ⟨i, hi, heq⟩ := List.mem_map.mp hmem
              exact (hall i hi).2.1 (heq ▸ List.mem_cons_self)
        · rintro ⟨⟨-, hall⟩, ⟨hfresh, hnodup⟩, rfl⟩
          have hitems : ∀ i ∈ rest, ValidKey (strip (key i)) ∧
              strip (key i) ∉ strip (key item) :: seen ∧ check (strip (key i)) i = none := by
            intro i hi
            obtain ⟨hv, hs, hc⟩ := hall i hi
            refine ⟨hv, ?_, hc⟩
            intro hmem
            rcases List.mem_cons.mp hmem with heq | hmem
            · exact hfresh (heq ▸ List.mem_map_of_mem hi)
            · exact hs hmem
          rw [ih.mpr ⟨hitems, hnodup, rfl⟩]
          rfl
    · rw [if_pos hvalid]
      simp only [List.forall_mem_cons, reduceCtorEq, false_iff]
      exact fun h => hvalid h.1.1.1

/-- What a baseline must satisfy to have a payload. -/
structure WellFormed (c : BaselineContents) : Prop where
  runtime : strip c.runtimeInstanceId ≠ ""
  venue : strip c.venue ≠ ""
  fingerprint : IsDigest (normalizedFingerprint c.accountFingerprint)
  tokens : ∀ p ∈ c.positions, ValidKey (strip p.1)
  quantities : ∀ p ∈ c.positions, 0 < p.2.value
  tokens_nodup : (c.positions.map fun p => strip p.1).Nodup
  refs : ∀ r ∈ c.fillRefs, ValidKey (strip r)
  refs_nodup : (c.fillRefs.map strip).Nodup

/-- The payload of a well-formed baseline. -/
def payloadOf (c : BaselineContents) : BaselinePayload where
  runtimeInstanceId := strip c.runtimeInstanceId
  venue := strip c.venue
  accountFingerprint := normalizedFingerprint c.accountFingerprint
  positions := sortPositions (c.positions.map fun p => (strip p.1, p.2.canonicalDecimal))
  fillRefs := sortFillRefs (c.fillRefs.map strip)

theorem normalizedPositions_ok_iff {positions : List (String × Spelled)}
    {out : List (String × String)} :
    normalizedPositions positions = .ok out ↔
      (∀ p ∈ positions, ValidKey (strip p.1) ∧ 0 < p.2.value) ∧
      (positions.map fun p => strip p.1).Nodup ∧
      out = positions.map fun p => (strip p.1, p.2.canonicalDecimal) := by
  rw [normalizedPositions, normalizeItems_ok_iff]
  simp

theorem normalizedFillRefs_ok_iff {fillRefs out : List String} :
    normalizedFillRefs fillRefs = .ok out ↔
      (∀ r ∈ fillRefs, ValidKey (strip r)) ∧ (fillRefs.map strip).Nodup ∧
      out = fillRefs.map strip := by
  rw [normalizedFillRefs, normalizeItems_ok_iff]
  simp

/-- **A baseline has a payload exactly if it is well formed.** -/
theorem canonicalPayload_ok_iff {c : BaselineContents} {p : BaselinePayload} :
    canonicalPayload c = .ok p ↔ WellFormed c ∧ p = payloadOf c := by
  simp only [canonicalPayload]
  by_cases hscope : strip c.runtimeInstanceId = "" ∨ strip c.venue = ""
  · rw [if_pos hscope]
    simp only [reduceCtorEq, false_iff]
    rintro ⟨h, -⟩
    exact hscope.elim h.runtime h.venue
  rw [if_neg hscope]
  by_cases hdigest : IsDigest (normalizedFingerprint c.accountFingerprint)
  · rw [if_neg (not_not.mpr hdigest)]
    rw [not_or] at hscope
    constructor
    · intro h
      cases hpos : normalizedPositions c.positions with
      | error e => rw [hpos] at h; cases h
      | ok positions =>
        cases hrefs : normalizedFillRefs c.fillRefs with
        | error e => rw [hpos, hrefs] at h; cases h
        | ok refs =>
          rw [hpos, hrefs] at h
          cases h
          obtain ⟨hall, hnodup, rfl⟩ := normalizedPositions_ok_iff.mp hpos
          obtain ⟨hrall, hrnodup, rfl⟩ := normalizedFillRefs_ok_iff.mp hrefs
          exact ⟨{ runtime := hscope.1, venue := hscope.2, fingerprint := hdigest
                   tokens := fun p hp => (hall p hp).1, quantities := fun p hp => (hall p hp).2
                   tokens_nodup := hnodup, refs := hrall, refs_nodup := hrnodup }, rfl⟩
    · rintro ⟨h, rfl⟩
      rw [normalizedPositions_ok_iff.mpr
          ⟨fun p hp => ⟨h.tokens p hp, h.quantities p hp⟩, h.tokens_nodup, rfl⟩,
        normalizedFillRefs_ok_iff.mpr ⟨h.refs, h.refs_nodup, rfl⟩]
      rfl
  · rw [if_pos hdigest]
    simp only [reduceCtorEq, false_iff]
    exact fun h => hdigest h.1.fingerprint

/-! ## What the payload determines -/

/-- Lists in which the order relates equal elements only have one sorted form exactly if they are
permutations of each other. -/
theorem insertionSort_eq_iff {α : Type} {r : α → α → Prop} [DecidableRel r] [Std.Total r]
    [IsTrans α r] {l l' : List α} (hanti : ∀ a ∈ l, ∀ b ∈ l, r a b → r b a → a = b) :
    l.insertionSort r = l'.insertionSort r ↔ l.Perm l' := by
  constructor
  · intro h
    exact (List.perm_insertionSort r l).symm.trans (h ▸ List.perm_insertionSort r l')
  · intro hperm
    have hsorted : (l.insertionSort r).Perm (l'.insertionSort r) :=
      (List.perm_insertionSort r l).trans (hperm.trans (List.perm_insertionSort r l').symm)
    refine List.Perm.eq_of_pairwise ?_ (List.pairwise_insertionSort r l)
      (List.pairwise_insertionSort r l') hsorted
    intro a b ha hb
    rw [List.mem_insertionSort] at ha hb
    exact hanti a ha b (hperm.mem_iff.mpr hb)

instance total_fst_le : Std.Total fun a b : String × String => a.1 ≤ b.1 := ⟨fun a b => le_total a.1 b.1⟩

instance trans_fst_le : IsTrans (String × String) fun a b => a.1 ≤ b.1 := ⟨fun _ _ _ => le_trans⟩

/-- The entries as the payload sees them: stripped token and the quantity of 28 digits. -/
def roundedEntries (c : BaselineContents) : Set (String × Dec) :=
  {e | ∃ p ∈ c.positions, e = (strip p.1, Dec.ctx p.2.value)}

/-- The stripped fill references. -/
def refSet (c : BaselineContents) : Set String := {r | r ∈ c.fillRefs.map strip}

/-- Two baselines agree in everything the payload sees. -/
structure SameContents (c c' : BaselineContents) : Prop where
  runtime : strip c.runtimeInstanceId = strip c'.runtimeInstanceId
  venue : strip c.venue = strip c'.venue
  fingerprint : normalizedFingerprint c.accountFingerprint =
    normalizedFingerprint c'.accountFingerprint
  entries : roundedEntries c = roundedEntries c'
  refs : refSet c = refSet c'

variable {c c' : BaselineContents}

/-- The positions as they are written down. -/
def writtenPositions (c : BaselineContents) : List (String × String) :=
  c.positions.map fun p => (strip p.1, p.2.canonicalDecimal)

theorem WellFormed.written_keys_nodup (h : WellFormed c) :
    ((writtenPositions c).map Prod.fst).Nodup := by
  rw [writtenPositions, List.map_map]
  exact h.tokens_nodup

/-- The written positions of two baselines are the same up to order exactly if their rounded entries
are the same. -/
theorem writtenPositions_perm_iff (h : WellFormed c) (h' : WellFormed c') :
    (writtenPositions c).Perm (writtenPositions c') ↔ roundedEntries c = roundedEntries c' := by
  rw [List.perm_ext_iff_of_nodup h.written_keys_nodup.of_map h'.written_keys_nodup.of_map]
  -- an entry of one list has its counterpart in the other
  have hsub : ∀ {d d' : BaselineContents}, WellFormed d → WellFormed d' →
      ((∀ e, e ∈ writtenPositions d → e ∈ writtenPositions d') ↔
        roundedEntries d ⊆ roundedEntries d') := by
    intro d d' hd hd'
    constructor
    · rintro hmem _ ⟨p, hp, rfl⟩
      obtain ⟨q, hq, heq⟩ := List.mem_map.mp (hmem _ (List.mem_map_of_mem hp))
      obtain ⟨htoken, htext⟩ := Prod.mk.inj heq
      have hvalue := (Spelled.canonicalDecimal_eq_iff (hd'.quantities q hq)
        (hd.quantities p hp)).mp htext
      exact ⟨q, hq, by rw [htoken, hvalue]⟩
    · intro hsub e he
      obtain ⟨p, hp, rfl⟩ := List.mem_map.mp he
      obtain ⟨q, hq, heq⟩ := hsub ⟨p, hp, rfl⟩
      obtain ⟨htoken, hvalue⟩ := Prod.mk.inj heq
      have htext := (Spelled.canonicalDecimal_eq_iff (hd.quantities p hp)
        (hd'.quantities q hq)).mpr hvalue
      exact List.mem_map.mpr ⟨q, hq, by rw [htoken, htext]⟩
  rw [Set.Subset.antisymm_iff, ← hsub h h', ← hsub h' h]
  exact ⟨fun hiff => ⟨fun e => (hiff e).mp, fun e => (hiff e).mpr⟩,
    fun hboth e => ⟨hboth.1 e, hboth.2 e⟩⟩

theorem refs_perm_iff (h : WellFormed c) (h' : WellFormed c') :
    (c.fillRefs.map strip).Perm (c'.fillRefs.map strip) ↔ refSet c = refSet c' := by
  rw [List.perm_ext_iff_of_nodup h.refs_nodup h'.refs_nodup, Set.ext_iff]
  rfl

/-- **The payload determines the scope, the references and the entries up to the 28th digit, and
nothing else of a baseline.** -/
theorem payloadOf_eq_iff (h : WellFormed c) (h' : WellFormed c') :
    payloadOf c = payloadOf c' ↔ SameContents c c' := by
  have hpositions : sortPositions (writtenPositions c) = sortPositions (writtenPositions c') ↔
      roundedEntries c = roundedEntries c' := by
    rw [← writtenPositions_perm_iff h h']
    refine insertionSort_eq_iff ?_
    intro a ha b hb hab hba
    exact List.inj_on_of_nodup_map h.written_keys_nodup ha hb (le_antisymm hab hba)
  have hrefs : sortFillRefs (c.fillRefs.map strip) = sortFillRefs (c'.fillRefs.map strip) ↔
      refSet c = refSet c' := by
    rw [← refs_perm_iff h h']
    exact insertionSort_eq_iff fun a _ b _ => le_antisymm
  simp only [payloadOf, BaselinePayload.mk.injEq]
  rw [← writtenPositions, ← writtenPositions, hpositions, hrefs]
  exact ⟨fun ⟨h1, h2, h3, h4, h5⟩ => ⟨h1, h2, h3, h4, h5⟩,
    fun ⟨h1, h2, h3, h4, h5⟩ => ⟨h1, h2, h3, h4, h5⟩⟩

/-! ## Order and spelling -/

/-- The same scope, and the same items in another order and with other spellings of the quantities. -/
structure Respelled (c c' : BaselineContents) : Prop where
  runtime : c.runtimeInstanceId = c'.runtimeInstanceId
  venue : c.venue = c'.venue
  fingerprint : c.accountFingerprint = c'.accountFingerprint
  positions : (c.positions.map fun p => (p.1, p.2.value)).Perm
    (c'.positions.map fun p => (p.1, p.2.value))
  refs : c.fillRefs.Perm c'.fillRefs

theorem Respelled.symm (h : Respelled c c') : Respelled c' c :=
  ⟨h.runtime.symm, h.venue.symm, h.fingerprint.symm, h.positions.symm, h.refs.symm⟩

/-- Every entry of the one is an entry of the other. -/
theorem Respelled.counterpart (h : Respelled c c') {p : String × Spelled} (hp : p ∈ c.positions) :
    ∃ q ∈ c'.positions, q.1 = p.1 ∧ q.2.value = p.2.value := by
  have hmem := h.positions.subset
    (List.mem_map_of_mem (f := fun p : String × Spelled => (p.1, p.2.value)) hp)
  obtain ⟨q, hq, heq⟩ := List.mem_map.mp hmem
  exact ⟨q, hq, (Prod.mk.inj heq).1, (Prod.mk.inj heq).2⟩

theorem Respelled.wellFormed (h : Respelled c c') (hc : WellFormed c) : WellFormed c' where
  runtime := h.runtime ▸ hc.runtime
  venue := h.venue ▸ hc.venue
  fingerprint := h.fingerprint ▸ hc.fingerprint
  tokens := by
    intro q hq
    obtain ⟨p, hp, htoken, -⟩ := h.symm.counterpart hq
    exact htoken ▸ hc.tokens p hp
  quantities := by
    intro q hq
    obtain ⟨p, hp, -, hvalue⟩ := h.symm.counterpart hq
    exact hvalue ▸ hc.quantities p hp
  tokens_nodup := by
    have hperm := h.positions.map fun e : String × Dec => strip e.1
    rw [List.map_map, List.map_map] at hperm
    exact hperm.nodup_iff.mp hc.tokens_nodup
  refs := fun r hr => hc.refs r (h.refs.mem_iff.mpr hr)
  refs_nodup := (h.refs.map strip).nodup_iff.mp hc.refs_nodup

theorem Respelled.sameContents (h : Respelled c c') : SameContents c c' where
  runtime := by rw [h.runtime]
  venue := by rw [h.venue]
  fingerprint := by rw [h.fingerprint]
  entries := by
    apply Set.Subset.antisymm
    · rintro _ ⟨p, hp, rfl⟩
      obtain ⟨q, hq, htoken, hvalue⟩ := h.counterpart hp
      exact ⟨q, hq, by rw [htoken, hvalue]⟩
    · rintro _ ⟨p, hp, rfl⟩
      obtain ⟨q, hq, htoken, hvalue⟩ := h.symm.counterpart hp
      exact ⟨q, hq, by rw [htoken, hvalue]⟩
  refs := by
    ext r
    exact (h.refs.map strip).mem_iff

theorem toOption_eq_some_iff {α : Type} {x : Except String α} {a : α} :
    x.toOption = some a ↔ x = .ok a := by
  cases x <;> simp [Except.toOption]

/-- **The payload does not depend on the order of the items or the spelling of the quantities.** -/
theorem Respelled.canonicalPayload (h : Respelled c c') :
    (canonicalPayload c).toOption = (canonicalPayload c').toOption := by
  have hiff : ∀ p, (Reconciliation.canonicalPayload c) = .ok p ↔
      (Reconciliation.canonicalPayload c') = .ok p := by
    intro p
    rw [canonicalPayload_ok_iff, canonicalPayload_ok_iff]
    constructor
    · rintro ⟨hc, rfl⟩
      exact ⟨h.wellFormed hc, (payloadOf_eq_iff hc (h.wellFormed hc)).mpr h.sameContents⟩
    · rintro ⟨hc', rfl⟩
      have hc := h.symm.wellFormed hc'
      exact ⟨hc, (payloadOf_eq_iff hc' hc).mpr h.symm.sameContents⟩
  ext p
  rw [toOption_eq_some_iff, toOption_eq_some_iff]
  exact hiff p

/-! ## The text that is hashed -/

/-- One object of the list of positions; its keys are sorted. -/
def positionJson (position : String × String) : List Char :=
  '{' :: string "quantity" ++ ':' :: string position.2 ++
    ',' :: string "token_id" ++ ':' :: string position.1 ++ ['}']

/-- `json.dumps(payload, ensure_ascii=False, sort_keys=True, separators=(",", ":"))`. -/
def canonicalJson (p : BaselinePayload) : String :=
  String.ofList
    ('{' :: string "account_fingerprint" ++ ':' :: string p.accountFingerprint ++
      ',' :: string "fill_refs" ++ ':' :: array string p.fillRefs ++
      ',' :: string "positions" ++ ':' :: array positionJson p.positions ++
      ',' :: string "runtime_instance_id" ++ ':' :: string p.runtimeInstanceId ++
      ',' :: string "schema_version" ++ ':' :: '1' ::
      ',' :: string "venue" ++ ':' :: string p.venue ++ ['}'])

example : canonicalJson ⟨"main", "Opinion", "ab", [("7", "2.5")], ["f\"1"]⟩ =
    "\x7b\"account_fingerprint\":\"ab\",\"fill_refs\":[\"f\\\"1\"],\"positions\":" ++
      "[\x7b\"quantity\":\"2.5\",\"token_id\":\"7\"\x7d],\"runtime_instance_id\":\"main\"," ++
      "\"schema_version\":1,\"venue\":\"Opinion\"\x7d" := by decide +kernel

theorem selfDelimiting_positionJson : SelfDelimiting positionJson := by
  intro p q rest rest' heq
  simp only [positionJson, List.append_assoc, List.cons_append, List.nil_append,
    List.cons.injEq, true_and, List.append_cancel_left_eq] at heq
  obtain ⟨hquantity, heq⟩ := selfDelimiting_string _ _ _ _ heq
  simp only [List.cons.injEq, true_and, List.append_cancel_left_eq] at heq
  obtain ⟨htoken, heq⟩ := selfDelimiting_string _ _ _ _ heq
  exact ⟨Prod.ext htoken hquantity, (List.cons.inj heq).2⟩

theorem neverStarts_positionJson : NeverStarts ']' positionJson :=
  fun _ => ⟨'{', _, rfl, by decide⟩

/-- **Different payloads have different texts.** -/
theorem canonicalJson_injective : Function.Injective canonicalJson := by
  intro p q heq
  have heq := String.ofList_injective heq
  simp only [List.append_assoc, List.cons_append, List.cons.injEq, true_and,
    List.append_cancel_left_eq] at heq
  -- the members one after another, each up to its own end
  obtain ⟨hfingerprint, heq⟩ := selfDelimiting_string _ _ _ _ heq
  simp only [List.cons.injEq, true_and, List.append_cancel_left_eq] at heq
  have hrefsText := selfDelimiting_string.array (neverStarts_string (by decide : '"' ≠ ']'))
  obtain ⟨hrefs, heq⟩ := hrefsText _ _ _ _ heq
  simp only [List.cons.injEq, true_and, List.append_cancel_left_eq] at heq
  have hpositionsText := selfDelimiting_positionJson.array neverStarts_positionJson
  obtain ⟨hpositions, heq⟩ := hpositionsText _ _ _ _ heq
  simp only [List.cons.injEq, true_and, List.append_cancel_left_eq] at heq
  obtain ⟨hruntime, heq⟩ := selfDelimiting_string _ _ _ _ heq
  simp only [List.cons.injEq, true_and, List.append_cancel_left_eq] at heq
  obtain ⟨hvenue, -⟩ := selfDelimiting_string _ _ _ _ heq
  exact BaselinePayload.ext hruntime hvenue hfingerprint hpositions hrefs

/-- `external_baseline_manifest_sha256`, for the hexadecimal digest of a text. -/
def manifestSha256 (sha256 : String → String) (p : BaselinePayload) : String :=
  sha256 (canonicalJson p)

end ArbitrageEngine.Reconciliation
