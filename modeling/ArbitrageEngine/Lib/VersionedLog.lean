/-
# ArbitrageEngine.Lib.VersionedLog -- a table kept by versioned updates

A source publishes blocks of updates.  An update names a key, has a time, and either gives the key a
live row or ends it; for each key the times grow along the log.  A holder keeps the live rows, and
for the keys it has heard of the time of the last update, and takes an update only if it is newer.

`Covers n` says that the holder's row of every key is the source's after some number of blocks, at
least `n`; that number may differ from key to key.  A snapshot of the source after `n` blocks covers
`n` (`Covers.of_snapshot`), also if the holder forgets the times of the keys that are not live; and
a holder that covers `n` covers `n + 1` once it has taken the next block (`Covers.take_next`), which
it may have seen in part before.
-/
import Mathlib.Data.List.Induction
import Mathlib.Data.Int.Order.Basic
import Mathlib.Logic.Function.Basic

namespace ArbitrageEngine.Lib.VersionedLog

universe u v

/-- How updates are read. -/
structure Schema (κ : Type u) (υ : Type v) where
  key : υ → κ
  time : υ → ℤ
  live : υ → Bool

/-- What a holder keeps. -/
structure Holder (κ : Type u) (υ : Type v) where
  rows : κ → Option υ
  times : κ → Option ℤ

variable {κ : Type u} {υ : Type v} [DecidableEq κ] (schema : Schema κ υ)

/-! ## The source -/

/-- The last update of a key. -/
def latest (updates : List υ) (k : κ) : Option υ :=
  (updates.filter fun x => schema.key x = k).getLast?

/-- The live row of a key. -/
def current (updates : List υ) (k : κ) : Option υ := (latest schema updates k).filter schema.live

/-- Times are natural numbers, and grow for each key. -/
structure Growing (updates : List υ) : Prop where
  nonneg : ∀ x ∈ updates, 0 ≤ schema.time x
  later : updates.Pairwise fun x y => schema.key x = schema.key y → schema.time x < schema.time y

omit [DecidableEq κ] in
theorem growing_iff {updates : List υ} : Growing schema updates ↔
    (∀ x ∈ updates, 0 ≤ schema.time x) ∧
      updates.Pairwise fun x y => schema.key x = schema.key y → schema.time x < schema.time y :=
  ⟨fun h => ⟨h.nonneg, h.later⟩, fun h => ⟨h.1, h.2⟩⟩

instance (updates : List υ) : Decidable (Growing schema updates) :=
  decidable_of_iff _ (growing_iff schema).symm

/-- The updates of the first `n` blocks. -/
def published (log : List (List υ)) (n : ℕ) : List υ := (log.take n).flatten

/-! ## The holder -/

variable {schema} in
/-- Is the update newer than what is known of its key? -/
def Holder.isNewer (schema : Schema κ υ) (holder : Holder κ υ) (x : υ) : Bool :=
  (holder.times (schema.key x)).getD (-1) < schema.time x

/-- Take an update. -/
def Holder.take (holder : Holder κ υ) (x : υ) : Holder κ υ :=
  if holder.isNewer schema x then
    { rows := Function.update holder.rows (schema.key x) (if schema.live x then some x else none)
      times := Function.update holder.times (schema.key x) (some (schema.time x)) }
  else holder

/-- Take a block. -/
def Holder.takeAll (holder : Holder κ υ) (block : List υ) : Holder κ υ :=
  block.foldl (Holder.take schema) holder

/-- Does a block change anything? -/
def Holder.changes (holder : Holder κ υ) : List υ → Bool
  | [] => false
  | x :: rest => holder.isNewer schema x || Holder.changes (holder.take schema x) rest

/-- The holder's row of every key is that of the source after at least `n` blocks, and so is the
time, where it knows one. -/
def Covers (log : List (List υ)) (holder : Holder κ υ) (n : ℕ) : Prop :=
  ∀ k, ∃ m, n ≤ m ∧ m ≤ log.length ∧
    holder.rows k = current schema (published log m) k ∧
    (holder.times k = (latest schema (published log m) k).map schema.time ∨
      holder.times k = none ∧ holder.rows k = none)

variable {schema} {log : List (List υ)} {holder : Holder κ υ} {n : ℕ}

/-! ## Facts about the source -/

theorem latest_append_of_none {xs ys : List υ} {k : κ} (h : latest schema ys k = none) :
    latest schema (xs ++ ys) k = latest schema xs k := by
  unfold latest at h ⊢
  rw [List.getLast?_eq_none_iff] at h
  rw [List.filter_append, h, List.append_nil]

theorem latest_append_of_some {xs ys : List υ} {k : κ} {y : υ} (h : latest schema ys k = some y) :
    latest schema (xs ++ ys) k = some y := by
  unfold latest at h ⊢
  rw [List.filter_append, List.getLast?_append, h]
  rfl

theorem mem_of_latest {xs : List υ} {k : κ} {y : υ} (h : latest schema xs k = some y) :
    y ∈ xs ∧ schema.key y = k := by
  have hmem := List.mem_of_getLast? h
  simpa using hmem

/-- The last update of a key is the newest. -/
theorem time_le_latest {xs : List υ} (hgrow : Growing schema xs) {x : υ} (hx : x ∈ xs) :
    ∃ y, latest schema xs (schema.key x) = some y ∧ schema.time x ≤ schema.time y := by
  induction xs using List.reverseRecOn with
  | nil => simp at hx
  | append_singleton front last ih =>
    obtain ⟨hnonneg, hlater⟩ := hgrow
    rw [List.pairwise_append] at hlater
    by_cases hkey : schema.key last = schema.key x
    · refine ⟨last, latest_append_of_some (by simp [latest, hkey]), ?_⟩
      rcases List.mem_append.mp hx with hfront | hlast
      · exact Int.le_of_lt (hlater.2.2 x hfront last (by simp) hkey.symm)
      · rw [List.mem_singleton.mp hlast]
    · have hfront : x ∈ front := by
        rcases List.mem_append.mp hx with hfront | hlast
        · exact hfront
        · exact absurd (congrArg schema.key (List.mem_singleton.mp hlast)).symm hkey
      obtain ⟨y, hy, hle⟩ :=
        ih ⟨fun z hz => hnonneg z (List.mem_append_left _ hz), hlater.1⟩ hfront
      exact ⟨y, (latest_append_of_none (by simp [latest, hkey])).trans hy, hle⟩

theorem published_succ {block : List υ} (h : log[n]? = some block) :
    published log (n + 1) = published log n ++ block := by
  unfold published
  rw [List.take_add_one, h]
  simp

/-- What was published before is a front part of what was published later. -/
theorem published_front {m : ℕ} (h : n ≤ m) : published log n <+: published log m := by
  unfold published
  obtain ⟨rest, hrest⟩ : log.take n <+: log.take m := List.take_prefix_take_left h
  rw [← hrest, List.flatten_append]
  exact List.prefix_append _ _

theorem published_append_of_le {more : List (List υ)} (h : n ≤ log.length) :
    published (log ++ more) n = published log n := by
  unfold published
  rw [List.take_append_of_le_length h]

omit [DecidableEq κ] in
theorem Growing.of_prefix {xs ys : List υ} (h : Growing schema ys) (hfrontOf : xs <+: ys) :
    Growing schema xs :=
  ⟨fun x hx => h.nonneg x (hfrontOf.subset hx), h.later.sublist hfrontOf.sublist⟩

/-! ## Taking a block -/

theorem Holder.take_of_ne (holder : Holder κ υ) {x : υ} {k : κ} (h : schema.key x ≠ k) :
    (holder.take schema x).rows k = holder.rows k ∧
      (holder.take schema x).times k = holder.times k := by
  unfold Holder.take
  split
  · exact ⟨Function.update_of_ne h.symm _ _, Function.update_of_ne h.symm _ _⟩
  · exact ⟨rfl, rfl⟩

/-- Updates of a key that are not newer leave its row alone. -/
theorem Holder.takeAll_of_old {block : List υ} {k : κ}
    (hold : ∀ x ∈ block, schema.key x = k → schema.time x ≤ (holder.times k).getD (-1)) :
    (holder.takeAll schema block).rows k = holder.rows k ∧
      (holder.takeAll schema block).times k = holder.times k := by
  induction block generalizing holder with
  | nil => exact ⟨rfl, rfl⟩
  | cons x rest ih =>
    show ((holder.take schema x).takeAll schema rest).rows k = _ ∧
      ((holder.take schema x).takeAll schema rest).times k = _
    have hsame : (holder.take schema x).rows k = holder.rows k ∧
        (holder.take schema x).times k = holder.times k := by
      by_cases hkey : schema.key x = k
      · have hnot : holder.isNewer schema x = false := by
          have hle := hold x (by simp) hkey
          subst hkey
          simpa [Holder.isNewer] using hle
        simp [Holder.take, hnot]
      · exact holder.take_of_ne hkey
    have hrest : ∀ y ∈ rest, schema.key y = k →
        schema.time y ≤ ((holder.take schema x).times k).getD (-1) := fun y hy hkey => by
      rw [hsame.2]
      exact hold y (by simp [hy]) hkey
    obtain ⟨hrows, htimes⟩ := ih hrest
    exact ⟨hrows.trans hsame.1, htimes.trans hsame.2⟩

/-- Newer updates of a key leave it with the last of them. -/
theorem Holder.takeAll_of_newer {block : List υ} {k : κ} (hgrow : Growing schema block)
    (hnew : ∀ x ∈ block, schema.key x = k → (holder.times k).getD (-1) < schema.time x) :
    match latest schema block k with
    | none => (holder.takeAll schema block).rows k = holder.rows k ∧
        (holder.takeAll schema block).times k = holder.times k
    | some y => (holder.takeAll schema block).rows k = (some y).filter schema.live ∧
        (holder.takeAll schema block).times k = some (schema.time y) := by
  induction block using List.reverseRecOn with
  | nil => exact ⟨rfl, rfl⟩
  | append_singleton front last ih =>
    have hfront : Growing schema front := hgrow.of_prefix (List.prefix_append _ _)
    have ih := ih hfront fun x hx => hnew x (List.mem_append_left _ hx)
    have hall : holder.takeAll schema (front ++ [last]) =
        (holder.takeAll schema front).take schema last := by
      simp [Holder.takeAll, List.foldl_append]
    rw [hall]
    by_cases hkey : schema.key last = k
    · have hlatest : latest schema (front ++ [last]) k = some last :=
        latest_append_of_some (by simp [latest, hkey])
      have hnewer : (holder.takeAll schema front).isNewer schema last = true := by
        unfold Holder.isNewer
        rw [hkey]
        cases hbefore : latest schema front k with
        | none =>
          rw [hbefore] at ih
          rw [ih.2]
          simpa using hnew last (by simp) hkey
        | some y =>
          rw [hbefore] at ih
          obtain ⟨hy, hykey⟩ := mem_of_latest hbefore
          have hlt := (List.pairwise_append.mp hgrow.later).2.2 y hy last (by simp)
            (hykey.trans hkey.symm)
          simpa [ih.2] using hlt
      rw [hlatest]
      subst hkey
      simp only [Holder.take, if_pos hnewer, Function.update_self, Option.filter_some]
      exact ⟨trivial, trivial⟩
    · have hlatest : latest schema (front ++ [last]) k = latest schema front k :=
        latest_append_of_none (by simp [latest, hkey])
      obtain ⟨hrows, htimes⟩ := (holder.takeAll schema front).take_of_ne hkey
      rw [hlatest, hrows, htimes]
      exact ih

/-- A block that changes nothing leaves the holder as it is. -/
theorem Holder.takeAll_of_not_changes {block : List υ} (h : holder.changes schema block = false) :
    holder.takeAll schema block = holder := by
  induction block generalizing holder with
  | nil => rfl
  | cons x rest ih =>
    unfold Holder.changes at h
    rw [Bool.or_eq_false_iff] at h
    have hsame : holder.take schema x = holder := by
      unfold Holder.take
      rw [h.1]
      rfl
    show (holder.take schema x).takeAll schema rest = holder
    rw [hsame] at h ⊢
    exact ih h.2

/-! ## What a holder covers -/

theorem Covers.mono {m : ℕ} (h : Covers schema log holder n) (hle : m ≤ n) :
    Covers schema log holder m := fun k => by
  obtain ⟨j, hj, hrest⟩ := h k
  exact ⟨j, Nat.le_trans hle hj, hrest⟩

/-- More blocks change nothing about those there were. -/
theorem Covers.append (h : Covers schema log holder n) (more : List (List υ)) :
    Covers schema (log ++ more) holder n := fun k => by
  obtain ⟨m, hn, hm, hrow, htime⟩ := h k
  refine ⟨m, hn, ?_, ?_, ?_⟩
  · rw [List.length_append]
    omega
  · rw [published_append_of_le hm]
    exact hrow
  · rw [published_append_of_le hm]
    exact htime

/-- A snapshot after `n` blocks, which may forget the times of keys that are not live. -/
theorem Covers.of_snapshot (hn : n ≤ log.length)
    (hrows : ∀ k, holder.rows k = current schema (published log n) k)
    (htimes : ∀ k, holder.times k = (latest schema (published log n) k).map schema.time ∨
      holder.times k = none ∧ holder.rows k = none) :
    Covers schema log holder n :=
  fun k => ⟨n, Nat.le_refl n, hn, hrows k, htimes k⟩

/-- A holder that covers `n` blocks covers one more when it has taken the next one. -/
theorem Covers.take_next {block : List υ} (hgrow : Growing schema log.flatten)
    (h : Covers schema log holder n) (hblock : log[n]? = some block) :
    Covers schema log (holder.takeAll schema block) (n + 1) := fun k => by
  obtain ⟨m, hn, hm, hrow, htime⟩ := h k
  have hlen : n < log.length := (List.getElem?_eq_some_iff.mp hblock).1
  have hsucc := published_succ hblock
  have hpublished : ∀ j, Growing schema (published log j) := fun j =>
    hgrow.of_prefix (by
      have hfrontOf := List.prefix_append (published log j) (log.drop j).flatten
      unfold published at hfrontOf ⊢
      rwa [← List.flatten_append, List.take_append_drop] at hfrontOf)
  have hgrow' : Growing schema block := by
    have hall := hpublished (n + 1)
    rw [hsucc] at hall
    exact ⟨fun x hx => hall.nonneg x (List.mem_append_right _ hx),
      (List.pairwise_append.mp hall.later).2.1⟩
  -- the block is newer than what the holder knows of the key, or it is not
  by_cases hahead : n < m ∧ holder.times k ≠ none
  · obtain ⟨hahead, hknown⟩ := hahead
    have htime : holder.times k = (latest schema (published log m) k).map schema.time :=
      htime.resolve_right fun h => hknown h.1
    have hold : ∀ x ∈ block, schema.key x = k → schema.time x ≤ (holder.times k).getD (-1) := by
      intro x hx hkey
      have hmem : x ∈ published log m :=
        (published_front (Nat.succ_le_of_lt hahead)).subset (by
          rw [hsucc]
          exact List.mem_append_right _ hx)
      obtain ⟨y, hy, hle⟩ := time_le_latest (hpublished m) hmem
      rw [hkey] at hy
      rw [htime, hy]
      exact hle
    obtain ⟨hrows, htimes⟩ := Holder.takeAll_of_old hold
    exact ⟨m, hahead, hm, hrows.trans hrow, .inl (htimes.trans htime)⟩
  · have hnew : ∀ x ∈ block, schema.key x = k → (holder.times k).getD (-1) < schema.time x := by
      intro x hx hkey
      by_cases hknown : holder.times k = none
      · rw [hknown]
        have hzero := hgrow'.nonneg x hx
        show (-1 : ℤ) < _
        omega
      · have hmn : m = n := by
          have hnot : ¬ n < m := fun hlt => hahead ⟨hlt, hknown⟩
          omega
        subst hmn
        have htime : holder.times k = (latest schema (published log m) k).map schema.time :=
          htime.resolve_right fun h => hknown h.1
        rw [htime]
        cases hlatest : latest schema (published log m) k with
        | none => rw [hlatest] at htime; exact absurd htime hknown
        | some y =>
          obtain ⟨hy, hykey⟩ := mem_of_latest hlatest
          have hall := (hpublished (m + 1)).later
          rw [hsucc] at hall
          exact (List.pairwise_append.mp hall).2.2 y hy x hx (hykey.trans hkey.symm)
    have htaken := Holder.takeAll_of_newer hgrow' hnew
    cases hlatest : latest schema block k with
    | some y =>
      rw [hlatest] at htaken
      have hsource : latest schema (published log (n + 1)) k = some y := by
        rw [hsucc]
        exact latest_append_of_some hlatest
      refine ⟨n + 1, Nat.le_refl _, hlen, ?_, .inl ?_⟩
      · rw [htaken.1, current, hsource]
      · rw [htaken.2, hsource]
        rfl
    | none =>
      rw [hlatest] at htaken
      obtain ⟨hrows, htimes⟩ := htaken
      rcases Nat.lt_or_ge n m with hlt | hge
      · refine ⟨m, hlt, hm, hrows.trans hrow, ?_⟩
        rw [hrows, htimes]
        exact htime
      · have hmn : m = n := Nat.le_antisymm hge hn
        subst hmn
        have hsource : latest schema (published log (m + 1)) k =
            latest schema (published log m) k := by
          rw [hsucc]
          exact latest_append_of_none hlatest
        refine ⟨m + 1, Nat.le_refl _, hlen, ?_, ?_⟩
        · rw [hrows, hrow, current, current, hsource]
        · rw [hrows, htimes, hsource]
          exact htime

end ArbitrageEngine.Lib.VersionedLog
