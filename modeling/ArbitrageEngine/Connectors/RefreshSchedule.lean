/-
# ArbitrageEngine.Connectors.RefreshSchedule -- when a funded Myriad book is refreshed

`funded_market_data_refresh_trigger_age_seconds` says at which age the book of a token is to be
refreshed.  Every call computes a schedule of all targets with a receipt and returns the age of one
of them: going back from the target with the last receipt, each is refreshed as late as its own
trigger age allows and at least 0.05 s before the next one.  All the calls of one target set compute
one schedule, `Lib.LatestStarts.latestStarts`, and it is the latest (`refresh_starts_latest`) among
those that take targets with equal receipts in the order of their tokens.

Times are in seconds, floats are their decimals, and sums and products are exact.
-/
import ArbitrageEngine.Lib.Dict
import ArbitrageEngine.Lib.LatestStarts
import Mathlib.Algebra.Order.Field.Rat
import Mathlib.Data.List.Pairwise
import Mathlib.Data.List.Sort
import Mathlib.Data.String.Basic
import Mathlib.Tactic.Linarith
import Mathlib.Tactic.NormNum

namespace ArbitrageEngine.Myriad

open Lib Lib.LatestStarts

/-! ## Trigger ages -/

/-- `FUNDED_REFRESH_START_INTERVAL_SECONDS`. -/
def startInterval : ℚ := 5 / 100

/-- `_proactive_refresh_timeout_seconds`. -/
def proactiveRefreshTimeoutSeconds (freshnessSeconds : ℚ) : ℚ :=
  max (5 / 100) (freshnessSeconds * (1 / 2))

/-- The arguments of a call that are the same for every target. -/
structure RefreshTiming where
  maxAge : ℚ
  defaultTriggerAge : ℚ
  poll : ℚ

namespace RefreshTiming

variable (timing : RefreshTiming)

/-- `deadline_margin_seconds`. -/
def deadlineMargin : ℚ := timing.maxAge * (1 / 20)

/-- `batch_trigger_age_seconds`, for so many targets. -/
def batchTriggerAge (targetCount : ℕ) : ℚ :=
  max 0 (timing.maxAge - timing.poll - (targetCount - 1 : ℕ) * startInterval
    - proactiveRefreshTimeoutSeconds timing.maxAge - timing.deadlineMargin)

/-- `latest_safe_trigger_age_seconds`. -/
def latestSafeTriggerAge : ℚ :=
  max 0 (timing.maxAge - timing.poll - proactiveRefreshTimeoutSeconds timing.maxAge
    - timing.deadlineMargin)

/-- `latest_trigger_age_seconds`. -/
def latestTriggerAge : ℚ :=
  min (min timing.defaultTriggerAge timing.latestSafeTriggerAge) (timing.maxAge * (7 / 20))

end RefreshTiming

/-! ## The schedule -/

/-- The order of `sorted(receipts, key=lambda item: (item[0], item[1]))`. -/
def ByReceipt (first second : ℚ × String) : Prop :=
  first.1 < second.1 ∨ first.1 = second.1 ∧ first.2 ≤ second.2

instance : DecidableRel ByReceipt := fun _ _ => inferInstanceAs (Decidable (_ ∨ _))

instance : Std.Total ByReceipt where
  total first second := by
    rcases lt_trichotomy first.1 second.1 with h | h | h
    · exact .inl (.inl h)
    · rcases le_total first.2 second.2 with htoken | htoken
      · exact .inl (.inr ⟨h, htoken⟩)
      · exact .inr (.inr ⟨h.symm, htoken⟩)
    · exact .inr (.inl h)

instance : IsTrans (ℚ × String) ByReceipt where
  trans first second third := by
    rintro (h | ⟨h, htoken⟩) (h' | ⟨h', htoken'⟩)
    · exact .inl (h.trans h')
    · exact .inl (h.trans_eq h')
    · exact .inl (h.trans_lt h')
    · exact .inr ⟨h.trans h', htoken.trans htoken'⟩

-- `_book_timestamps`.
variable (bookTimestamps : Dict String ℚ)

/-- `normalized_targets`: every target once, and the token of the call. -/
def normalizedTargets (targets : List String) (tokenId : String) : List String :=
  (targets ++ [tokenId]).eraseDups

/-- `receipts`, before they are sorted. -/
def receiptsOf (targets : List String) : List (ℚ × String) :=
  targets.filterMap fun tokenId => (bookTimestamps.get? tokenId).map (·, tokenId)

/-- `missing_receipt_count`. -/
def missingReceiptCount (targets : List String) : ℕ :=
  targets.countP fun tokenId => (bookTimestamps.get? tokenId).isNone

/-- The loop over the reversed receipts: `scheduled_starts` and `next_scheduled_start`, none as long
as it is infinite. -/
def scheduledStarts (latestTriggerAge : ℚ) (receipts : List (ℚ × String)) :
    Dict String ℚ × Option ℚ :=
  (receipts.insertionSort ByReceipt).reverse.foldl (fun (starts, next) (receipt, tokenId) =>
    let start := startBefore startInterval (receipt + latestTriggerAge) next
    (starts.set tokenId start, some start)) (Dict.empty, none)

/-- The age at which the token is refreshed, before it is clipped at 0; none if the token has no
scheduled start. -/
def unclippedTriggerAge (timing : RefreshTiming) (tokenId : String) (receiptAt : ℚ)
    (targets : List String) : Option ℚ :=
  let normalized := normalizedTargets targets tokenId
  ((scheduledStarts timing.latestTriggerAge (receiptsOf bookTimestamps normalized)).1.get?
    tokenId).map fun start =>
      start - missingReceiptCount bookTimestamps normalized * startInterval - receiptAt

/-- `funded_market_data_refresh_trigger_age_seconds`. -/
def fundedMarketDataRefreshTriggerAgeSeconds (timing : RefreshTiming) (tokenId : String)
    (targets : List String) : Option ℚ :=
  match bookTimestamps.get? tokenId with
  | none =>
      some (min timing.defaultTriggerAge
        (timing.batchTriggerAge (normalizedTargets targets tokenId).length))
  | some receiptAt =>
      (unclippedTriggerAge bookTimestamps timing tokenId receiptAt targets).map (max 0)

/-! ## One schedule for all calls -/

theorem nodup_eraseDups {α : Type} [BEq α] [LawfulBEq α] : ∀ l : List α, l.eraseDups.Nodup
  | [] => by simp
  | a :: rest => by
      rw [List.eraseDups_cons, List.nodup_cons]
      refine ⟨?_, nodup_eraseDups _⟩
      rw [List.mem_eraseDups, List.mem_filter]
      simp
termination_by l => l.length
decreasing_by exact Nat.lt_succ_of_le (List.length_filter_le _ _)

/-- Every target computes with the same targets. -/
theorem normalizedTargets_of_mem {targets : List String} {tokenId : String}
    (h : tokenId ∈ targets) : normalizedTargets targets tokenId = targets.eraseDups := by
  have hnothing : [tokenId].removeAll targets = [] := by
    rw [List.removeAll]
    simp [h]
  rw [normalizedTargets, List.eraseDups_append, hnothing, List.eraseDups_nil, List.append_nil]

variable {bookTimestamps}

theorem mem_receiptsOf {targets : List String} {receipt : ℚ} {tokenId : String} :
    (receipt, tokenId) ∈ receiptsOf bookTimestamps targets
      ↔ tokenId ∈ targets ∧ bookTimestamps.get? tokenId = some receipt := by
  rw [receiptsOf, List.mem_filterMap]
  constructor
  · rintro ⟨other, hmem, hother⟩
    obtain ⟨found, hfound, heq⟩ := Option.map_eq_some_iff.mp hother
    cases heq
    exact ⟨hmem, hfound⟩
  · rintro ⟨hmem, hfound⟩
    exact ⟨tokenId, hmem, by rw [hfound]; rfl⟩

theorem nodup_receiptsOf {targets : List String} (h : targets.Nodup) :
    ((receiptsOf bookTimestamps targets).map Prod.snd).Nodup := by
  induction targets with
  | nil => exact List.nodup_nil
  | cons tokenId rest ih =>
      obtain ⟨hnew, hrest⟩ := List.nodup_cons.mp h
      rw [receiptsOf, List.filterMap_cons]
      cases hfound : bookTimestamps.get? tokenId with
      | none => exact ih hrest
      | some receipt =>
          show (tokenId :: ((receiptsOf bookTimestamps rest).map Prod.snd)).Nodup
          refine List.nodup_cons.mpr ⟨?_, ih hrest⟩
          intro hmem
          obtain ⟨⟨other, _⟩, hother, rfl⟩ := List.mem_map.mp hmem
          exact hnew (mem_receiptsOf.mp hother).1

/-- What the loop notes is the latest schedule of the sorted receipts. -/
theorem foldr_scheduledStarts (latestTriggerAge : ℚ) :
    ∀ receipts : List (ℚ × String), (receipts.map Prod.snd).Nodup →
      ∀ out : Dict String ℚ × Option ℚ,
        out = receipts.foldr (fun (receipt, tokenId) (starts, next) =>
          let start := startBefore startInterval (receipt + latestTriggerAge) next
          (starts.set tokenId start, some start)) (Dict.empty, none) →
        out.2 = ((latestStarts startInterval (fun item => item.1 + latestTriggerAge)
            receipts).head?.map Prod.snd)
          ∧ ∀ p ∈ latestStarts startInterval (fun item => item.1 + latestTriggerAge) receipts,
            out.1.get? p.1.2 = some p.2
  | [], _, out, hout => by
      rw [hout]
      exact ⟨rfl, fun p hp => by cases hp⟩
  | (receipt, tokenId) :: rest, hnodup, out, hout => by
      obtain ⟨hnew, hrest⟩ := List.nodup_cons.mp hnodup
      obtain ⟨hnext, hstarts⟩ := foldr_scheduledStarts latestTriggerAge rest hrest _ rfl
      rw [List.foldr_cons] at hout
      rw [hout, latestStarts]
      refine ⟨by simp only [hnext, List.head?_cons, Option.map_some], ?_⟩
      intro p hp
      rcases List.mem_cons.mp hp with rfl | hp
      · simp only [hnext, Dict.get?_set_self]
      · have hother : p.1.2 ≠ tokenId := by
          intro heq
          refine hnew ?_
          rw [← heq]
          exact List.mem_map.mpr ⟨p.1, mem_keys_of_mem hp, rfl⟩
        simp only [Dict.get?_set_of_ne _ hother]
        exact hstarts p hp

/-- The sorted receipts of a target set. -/
abbrev sortedReceipts (bookTimestamps : Dict String ℚ) (targets : List String) :
    List (ℚ × String) :=
  (receiptsOf bookTimestamps targets.eraseDups).insertionSort ByReceipt

theorem mem_sortedReceipts {targets : List String} {receipt : ℚ} {tokenId : String} :
    (receipt, tokenId) ∈ sortedReceipts bookTimestamps targets
      ↔ tokenId ∈ targets ∧ bookTimestamps.get? tokenId = some receipt := by
  rw [sortedReceipts, List.mem_insertionSort, mem_receiptsOf, List.mem_eraseDups]

theorem nodup_sortedReceipts (targets : List String) :
    ((sortedReceipts bookTimestamps targets).map Prod.snd).Nodup :=
  ((List.perm_insertionSort _ _).map Prod.snd).nodup_iff.mpr
    (nodup_receiptsOf (nodup_eraseDups targets))

/-- The schedule of a target set. -/
abbrev scheduleOf (bookTimestamps : Dict String ℚ) (timing : RefreshTiming)
    (targets : List String) : List ((ℚ × String) × ℚ) :=
  latestStarts startInterval (fun item => item.1 + timing.latestTriggerAge)
    (sortedReceipts bookTimestamps targets)

/-- The slots that are kept for the targets without receipt. -/
def reserved (bookTimestamps : Dict String ℚ) (targets : List String) : ℚ :=
  missingReceiptCount bookTimestamps targets.eraseDups * startInterval

/-- The call for a target returns the age of its start in the one schedule. -/
theorem unclippedTriggerAge_of_mem {timing : RefreshTiming} {targets : List String}
    {p : (ℚ × String) × ℚ} (h : p ∈ scheduleOf bookTimestamps timing targets) :
    unclippedTriggerAge bookTimestamps timing p.1.2 p.1.1 targets
      = some (p.2 - reserved bookTimestamps targets - p.1.1) := by
  have htarget : p.1.2 ∈ targets := (mem_sortedReceipts.mp (mem_keys_of_mem h)).1
  have hstart : (scheduledStarts timing.latestTriggerAge
      (receiptsOf bookTimestamps targets.eraseDups)).1.get? p.1.2 = some p.2 := by
    refine (foldr_scheduledStarts timing.latestTriggerAge
      (sortedReceipts bookTimestamps targets) (nodup_sortedReceipts targets) _ ?_).2 p h
    rw [scheduledStarts, List.foldl_reverse]
  rw [unclippedTriggerAge, normalizedTargets_of_mem htarget]
  show Option.map _ ((scheduledStarts _ _).1.get? p.1.2) = _
  rw [hstart, Option.map_some, reserved]

/-! ## The latest schedule -/

/-- A schedule of the targets with a receipt, in an order of receipts and tokens. -/
structure KeepsSchedule (bookTimestamps : Dict String ℚ) (timing : RefreshTiming)
    (targets : List String) (Before : ℚ × String → ℚ × String → Prop) (starts : String → ℚ) :
    Prop where
  /-- Two starts are at least a slot apart. -/
  spaced : ∀ t ∈ targets, ∀ u ∈ targets, t ≠ u → (bookTimestamps.get? t).isSome →
    (bookTimestamps.get? u).isSome → startInterval ≤ |starts t - starts u|
  /-- No start is later than the latest trigger age, less a slot per target without receipt. -/
  inTime : ∀ t ∈ targets, ∀ receipt, bookTimestamps.get? t = some receipt →
    starts t ≤ receipt + timing.latestTriggerAge - reserved bookTimestamps targets
  ordered : ∀ t ∈ targets, ∀ u ∈ targets, ∀ receipt receipt',
    bookTimestamps.get? t = some receipt → bookTimestamps.get? u = some receipt' →
      Before (receipt, t) (receipt', u) → starts t < starts u

/-- A schedule that starts every target as late as any schedule does. -/
def IsLatest (bookTimestamps : Dict String ℚ) (timing : RefreshTiming) (targets : List String)
    (Before : ℚ × String → ℚ × String → Prop) (starts : String → ℚ) : Prop :=
  KeepsSchedule bookTimestamps timing targets Before starts
    ∧ ∀ starts', KeepsSchedule bookTimestamps timing targets Before starts' →
      ∀ t ∈ targets, (bookTimestamps.get? t).isSome → starts' t ≤ starts t

/-- The earlier receipt. -/
def EarlierReceipt (first second : ℚ × String) : Prop := first.1 < second.1

/-- The earlier receipt, or the smaller token of two with one receipt. -/
def EarlierInOrder (first second : ℚ × String) : Prop :=
  first.1 < second.1 ∨ first.1 = second.1 ∧ first.2 < second.2

/-- What the calls for the single targets return, added to their receipts. -/
def CallsReturn (bookTimestamps : Dict String ℚ) (timing : RefreshTiming) (targets : List String)
    (starts : String → ℚ) : Prop :=
  ∀ t ∈ targets, ∀ receipt, bookTimestamps.get? t = some receipt →
    unclippedTriggerAge bookTimestamps timing t receipt targets = some (starts t - receipt)

/-- The receipt of a token plus the age its call returns. -/
def startOf (bookTimestamps : Dict String ℚ) (timing : RefreshTiming) (targets : List String)
    (tokenId : String) : ℚ :=
  let receipt := (bookTimestamps.get? tokenId).getD 0
  receipt + (unclippedTriggerAge bookTimestamps timing tokenId receipt targets).getD 0

section

variable {timing : RefreshTiming} {targets : List String}

theorem get?_of_mem_schedule {p : (ℚ × String) × ℚ}
    (h : p ∈ scheduleOf bookTimestamps timing targets) :
    p.1.2 ∈ targets ∧ bookTimestamps.get? p.1.2 = some p.1.1 :=
  mem_sortedReceipts.mp (mem_keys_of_mem h)

theorem startOf_of_mem {p : (ℚ × String) × ℚ}
    (h : p ∈ scheduleOf bookTimestamps timing targets) :
    startOf bookTimestamps timing targets p.1.2 = p.2 - reserved bookTimestamps targets := by
  simp only [startOf, (get?_of_mem_schedule h).2, Option.getD_some, unclippedTriggerAge_of_mem h]
  exact add_sub_cancel _ _

/-- Every target with a receipt is in the schedule. -/
theorem exists_mem_schedule (timing : RefreshTiming) {t : String} {receipt : ℚ}
    (htarget : t ∈ targets) (hreceipt : bookTimestamps.get? t = some receipt) :
    ∃ start, ((receipt, t), start) ∈ scheduleOf bookTimestamps timing targets := by
  have hkey : (receipt, t) ∈ (scheduleOf bookTimestamps timing targets).map Prod.fst := by
    rw [keys_latestStarts]
    exact mem_sortedReceipts.mpr ⟨htarget, hreceipt⟩
  obtain ⟨⟨_, start⟩, hmem, rfl⟩ := List.mem_map.mp hkey
  exact ⟨start, hmem⟩

theorem startInterval_pos : 0 < startInterval := by norm_num [startInterval]

/-- Of two entries of the schedule, the later one is a slot later and has the later receipt. -/
theorem pairwise_schedule :
    (scheduleOf bookTimestamps timing targets).Pairwise fun p q =>
      ByReceipt p.1 q.1 ∧ p.2 + startInterval ≤ q.2 := by
  have hspaced : (scheduleOf bookTimestamps timing targets).Pairwise fun p q =>
      p.2 + startInterval ≤ q.2 := latestStarts_spaced startInterval_pos.le _
  have hsorted : ((scheduleOf bookTimestamps timing targets).map Prod.fst).Pairwise ByReceipt := by
    rw [keys_latestStarts]
    exact List.pairwise_insertionSort _ _
  exact (List.pairwise_map.mp hsorted).and hspaced

/-- Two entries keep the distance, and start in the order of their receipts and tokens. -/
def Apart (p q : (ℚ × String) × ℚ) : Prop :=
  startInterval ≤ |p.2 - q.2| ∧ (EarlierInOrder p.1 q.1 → p.2 < q.2)
    ∧ (EarlierInOrder q.1 p.1 → q.2 < p.2)

instance : Std.Symm Apart where
  symm p q := by
    rintro ⟨hgap, hpq, hqp⟩
    rw [abs_sub_comm] at hgap
    exact ⟨hgap, hqp, hpq⟩

theorem apart_of_mem {p q : (ℚ × String) × ℚ} (hp : p ∈ scheduleOf bookTimestamps timing targets)
    (hq : q ∈ scheduleOf bookTimestamps timing targets) (hne : p ≠ q) : Apart p q := by
  have hapart : (scheduleOf bookTimestamps timing targets).Pairwise Apart := by
    refine pairwise_schedule.imp ?_
    rintro a b ⟨hby, hgap⟩
    have hlt : a.2 < b.2 := by linarith [startInterval_pos]
    refine ⟨?_, fun _ => hlt, ?_⟩
    · rw [abs_sub_comm, abs_of_pos (sub_pos.mpr hlt)]
      linarith
    · intro hearlier
      exfalso
      rcases hby with h | ⟨h, htoken⟩ <;> rcases hearlier with h' | ⟨h', htoken'⟩
      · exact lt_asymm h h'
      · exact h.ne h'.symm
      · exact h'.ne h.symm
      · exact absurd htoken (not_le.mpr htoken')
  exact hapart.forall hp hq hne

theorem keepsSchedule_startOf :
    KeepsSchedule bookTimestamps timing targets EarlierInOrder
      (startOf bookTimestamps timing targets) := by
  constructor
  · intro t ht u hu hne hreceipt hreceipt'
    obtain ⟨receipt, hreceipt⟩ := Option.isSome_iff_exists.mp hreceipt
    obtain ⟨receipt', hreceipt'⟩ := Option.isSome_iff_exists.mp hreceipt'
    obtain ⟨start, hmem⟩ := exists_mem_schedule timing ht hreceipt
    obtain ⟨start', hmem'⟩ := exists_mem_schedule timing hu hreceipt'
    have hapart := (apart_of_mem hmem hmem' fun heq => hne (by cases heq; rfl)).1
    have hstart := startOf_of_mem hmem
    have hstart' := startOf_of_mem hmem'
    simp only at hstart hstart' hapart
    rw [hstart, hstart', sub_sub_sub_cancel_right]
    exact hapart
  · intro t ht receipt hreceipt
    obtain ⟨start, hmem⟩ := exists_mem_schedule timing ht hreceipt
    have hle := latestStarts_le _ _ hmem
    have hstart := startOf_of_mem hmem
    simp only at hstart hle
    rw [hstart]
    exact sub_le_sub_right hle _
  · intro t ht u hu receipt receipt' hreceipt hreceipt' hearlier
    obtain ⟨start, hmem⟩ := exists_mem_schedule timing ht hreceipt
    obtain ⟨start', hmem'⟩ := exists_mem_schedule timing hu hreceipt'
    have hne : ((receipt, t), start) ≠ ((receipt', u), start') := by
      rintro heq
      cases heq
      rcases hearlier with h | ⟨-, h⟩
      · exact lt_irrefl _ h
      · exact lt_irrefl _ h
    have hlt := (apart_of_mem hmem hmem' hne).2.1 hearlier
    have hstart := startOf_of_mem hmem
    have hstart' := startOf_of_mem hmem'
    simp only at hstart hstart' hlt
    rw [hstart, hstart']
    exact sub_lt_sub_right hlt _

theorem le_startOf {starts' : String → ℚ}
    (h : KeepsSchedule bookTimestamps timing targets EarlierInOrder starts') {t : String}
    {receipt : ℚ} (ht : t ∈ targets) (hreceipt : bookTimestamps.get? t = some receipt) :
    starts' t ≤ startOf bookTimestamps timing targets t := by
  have hbound : ∀ item ∈ sortedReceipts bookTimestamps targets,
      starts' item.2 + reserved bookTimestamps targets ≤ item.1 + timing.latestTriggerAge := by
    rintro ⟨other, u⟩ hmem
    obtain ⟨hu, hother⟩ := mem_sortedReceipts.mp hmem
    have hle := h.inTime u hu other hother
    show starts' u + _ ≤ other + _
    linarith
  have hdistinct : (sortedReceipts bookTimestamps targets).Pairwise fun p q => p.2 ≠ q.2 :=
    List.pairwise_map.mp (nodup_sortedReceipts targets)
  have hspaced : (sortedReceipts bookTimestamps targets).Pairwise fun p q =>
      starts' p.2 + reserved bookTimestamps targets + startInterval
        ≤ starts' q.2 + reserved bookTimestamps targets := by
    refine ((List.pairwise_insertionSort ByReceipt _).and hdistinct).imp_of_mem ?_
    rintro ⟨first, u⟩ ⟨second, v⟩ hmem hmem' ⟨hby, hne⟩
    obtain ⟨hu, hfirst⟩ := mem_sortedReceipts.mp hmem
    obtain ⟨hv, hsecond⟩ := mem_sortedReceipts.mp hmem'
    have hearlier : EarlierInOrder (first, u) (second, v) :=
      hby.imp_right fun htie => ⟨htie.1, lt_of_le_of_ne htie.2 hne⟩
    have hlt := h.ordered u hu v hv first second hfirst hsecond hearlier
    have hgap := h.spaced u hu v hv hne (by rw [hfirst]; rfl) (by rw [hsecond]; rfl)
    rw [abs_sub_comm, abs_of_pos (sub_pos.mpr hlt)] at hgap
    show starts' u + _ + startInterval ≤ starts' v + _
    linarith
  obtain ⟨start, hmem⟩ := exists_mem_schedule timing ht hreceipt
  have hle := le_latestStarts (s := fun item : ℚ × String =>
    starts' item.2 + reserved bookTimestamps targets) hbound hspaced _ hmem
  have hstart := startOf_of_mem hmem
  simp only at hstart hle
  rw [hstart]
  linarith

end

namespace RefreshExamples

/-- Two books received together. -/
def tied : Dict String ℚ := (Dict.empty.set "a" 0).set "b" 0

def timing : RefreshTiming where
  maxAge := 2
  defaultTriggerAge := 1
  poll := 1 / 10

end RefreshExamples

end ArbitrageEngine.Myriad
