/-
# ArbitrageEngine.Discovery.SnapshotLoops -- what the loops of the snapshot leave

The first loop keeps one payload for each market id, the second one market id for each condition id.
Both fold `_prefer_duplicate_candidate`, which chooses one of its arguments and does not care for
their order; a payload that is preferred over all others is what is left wherever it stands.  Such a
payload exists unless a volume is not a number (`exists_preferred`).
-/
import ArbitrageEngine.Discovery.GammaSnapshot
import Mathlib.Data.List.MinMax
import Mathlib.Data.Prod.Lex

namespace ArbitrageEngine.Gamma

open Lib

variable (texts : GammaTexts)

/-! ## The preferred payload -/

/-- Payloads with the same dump are the same. -/
def DumpsApart (l : List Payload) : Prop := ∀ p ∈ l, ∀ q ∈ l, p.dumped = q.dumped → p = q

/-- A payload of the list that is preferred over all of them, on either side. -/
structure Preferred (l : List Payload) (best : Payload) : Prop where
  mem : best ∈ l
  left : ∀ p ∈ l, preferDuplicateCandidate texts best p = best
  right : ∀ p ∈ l, preferDuplicateCandidate texts p best = best

variable {texts}

theorem prefer_eq_or (p q : Payload) :
    preferDuplicateCandidate texts p q = p ∨ preferDuplicateCandidate texts p q = q := by
  unfold preferDuplicateCandidate
  simp only
  split_ifs <;> simp

theorem prefer_comm {l : List Payload} (hdumps : DumpsApart l) {p q : Payload} (hp : p ∈ l)
    (hq : q ∈ l) : preferDuplicateCandidate texts p q = preferDuplicateCandidate texts q p := by
  unfold preferDuplicateCandidate
  simp only
  by_cases hlt : FloatValue.tupleLt (candidateDedupScore texts p) (candidateDedupScore texts q)
  · have hgt := FloatValue.tupleLt_asymm hlt
    simp [hlt, hgt]
  · by_cases hgt : FloatValue.tupleLt (candidateDedupScore texts q) (candidateDedupScore texts p)
    · simp [hlt, hgt]
    · rcases lt_trichotomy p.dumped q.dumped with hd | hd | hd
      · simp [hlt, hgt, hd, hd.asymm]
      · simp [hdumps p hp q hq hd]
      · simp [hlt, hgt, hd, hd.asymm]

theorem Preferred.unique {l : List Payload} {best other : Payload} (h : Preferred texts l best)
    (h' : Preferred texts l other) : best = other :=
  (h.left other h'.mem).symm.trans (h'.right best h.mem)

theorem Preferred.of_mem_iff {l l' : List Payload} (hmem : ∀ p, p ∈ l ↔ p ∈ l') {best : Payload}
    (h : Preferred texts l best) : Preferred texts l' best where
  mem := (hmem best).mp h.mem
  left := fun p hp => h.left p ((hmem p).mpr hp)
  right := fun p hp => h.right p ((hmem p).mpr hp)

theorem score_ne_nan {p : Payload} (hp : volumeScore texts p ≠ .nan) :
    ∀ a ∈ candidateDedupScore texts p, a ≠ .nan := by
  simp [candidateDedupScore, flag, hp]

/-- **A preferred payload exists** where every volume is a number: preference is then the order of
the scores and, among equal scores, of the dumps. -/
theorem exists_preferred {l : List Payload} (hne : l ≠ []) (hdumps : DumpsApart l)
    (hvolumes : ∀ p ∈ l, volumeScore texts p ≠ .nan) : ∃ best, Preferred texts l best := by
  let key : Payload → List (WithBot (WithTop ℚ)) ×ₗ String := fun p =>
    toLex ((candidateDedupScore texts p).map FloatValue.rank, p.dumped)
  obtain ⟨best, hbest⟩ : ∃ best, best ∈ l.argmax key := by
    cases hmax : l.argmax key with
    | none => exact absurd (List.argmax_eq_none.mp hmax) hne
    | some best => exact ⟨best, rfl⟩
  have hmem : best ∈ l := List.argmax_mem hbest
  have hleft : ∀ p ∈ l, preferDuplicateCandidate texts best p = best := by
    intro p hp
    have hlt : ∀ {q r : Payload}, q ∈ l → r ∈ l →
        (FloatValue.tupleLt (candidateDedupScore texts q) (candidateDedupScore texts r) = true ↔
          (candidateDedupScore texts q).map FloatValue.rank <
            (candidateDedupScore texts r).map FloatValue.rank) :=
      fun hq hr => FloatValue.tupleLt_iff (score_ne_nan (hvolumes _ hq))
        (score_ne_nan (hvolumes _ hr))
    have hle : key p ≤ key best := List.le_of_mem_argmax hp hbest
    unfold preferDuplicateCandidate
    simp only
    rcases Prod.Lex.toLex_le_toLex.mp hle with hscore | ⟨hscore, hdump⟩
    · rw [if_neg, if_pos ((hlt hp hmem).mpr hscore)]
      intro h
      exact lt_asymm hscore ((hlt hmem hp).mp h)
    · rw [if_neg, if_neg, if_neg (not_lt.mpr hdump)]
      · intro h
        exact absurd hscore ((hlt hp hmem).mp h).ne
      · intro h
        exact absurd hscore ((hlt hmem hp).mp h).ne'
  refine ⟨best, hmem, hleft, ?_⟩
  intro p hp
  rw [prefer_comm hdumps hp hmem, hleft p hp]

/-! ## The first loop -/

/-- What the first loop has made of the valid payloads. -/
structure Deduped.Of (texts : GammaTexts) (l : List Payload) (s : Deduped) : Prop where
  keys : s.byId.keys = s.order
  mem : ∀ i, i ∈ s.order ↔ ∃ p ∈ l, p.marketId texts = i
  found : ∀ {i p}, s.byId.get? i = some p → p ∈ l ∧ p.marketId texts = i
  best : ∀ w, Preferred texts (l.filter fun p => p.marketId texts = w.marketId texts) w →
    s.byId.get? (w.marketId texts) = some w

theorem dedupe_none {s : Deduped} {p : Payload} (h : s.byId.get? (p.marketId texts) = none) :
    dedupe texts s p =
      ⟨s.byId.set (p.marketId texts) p, s.order ++ [p.marketId texts]⟩ := by
  simp [dedupe, h]

theorem dedupe_some {s : Deduped} {p e : Payload}
    (h : s.byId.get? (p.marketId texts) = some e) :
    dedupe texts s p =
      { s with byId := s.byId.set (p.marketId texts) (preferDuplicateCandidate texts e p) } := by
  simp [dedupe, h]

theorem Deduped.Of.step {l : List Payload} {s : Deduped} (h : s.Of texts l) (p : Payload) :
    (dedupe texts s p).Of texts (l ++ [p]) := by
  have hmem : ∀ i, (∃ q ∈ l ++ [p], q.marketId texts = i) ↔
      i ∈ s.order ∨ p.marketId texts = i := by
    intro i
    simp [h.mem i, or_and_right, exists_or]
  -- A payload that is preferred once the new one is there was so before, or is the new one.
  have hearlier : ∀ w, Preferred texts
      ((l ++ [p]).filter fun q => q.marketId texts = w.marketId texts) w → w ∈ l →
        s.byId.get? (w.marketId texts) = some w := by
    intro w hw hwl
    apply h.best w
    refine ⟨by simp [hwl], fun q hq => hw.left q ?_, fun q hq => hw.right q ?_⟩
    · simp only [List.mem_filter, List.mem_append] at hq ⊢
      exact ⟨.inl hq.1, hq.2⟩
    · simp only [List.mem_filter, List.mem_append] at hq ⊢
      exact ⟨.inl hq.1, hq.2⟩
  cases hstored : s.byId.get? (p.marketId texts) with
  | none =>
      have hnew : p.marketId texts ∉ s.byId.keys := by
        rw [Dict.mem_keys_iff, hstored]
        simp
      rw [dedupe_none hstored]
      refine ⟨?_, ?_, ?_, ?_⟩
      · rw [Dict.keys_set_of_not_mem hnew, h.keys]
      · intro i
        rw [hmem]
        simp [eq_comm]
      · intro i q hq
        by_cases hi : i = p.marketId texts
        · have hpq : p = q := by simpa [hi] using hq
          rw [← hpq, hi]
          exact ⟨by simp, rfl⟩
        · obtain ⟨hql, hqi⟩ := h.found (by simpa [hi] using hq)
          exact ⟨List.mem_append_left _ hql, hqi⟩
      · intro w hw
        by_cases hi : w.marketId texts = p.marketId texts
        · have hwp : w = p := by
            have hwl : w ∈ l ++ [p] := List.mem_of_mem_filter hw.mem
            rcases List.mem_append.mp hwl with hwl | hwl
            · have hkey : p.marketId texts ∈ s.byId.keys := by
                rw [h.keys, h.mem]
                exact ⟨w, hwl, hi⟩
              exact absurd hkey hnew
            · exact List.mem_singleton.mp hwl
          rw [hwp]
          simp
        · have hwl : w ∈ l := by
            have hwl : w ∈ l ++ [p] := List.mem_of_mem_filter hw.mem
            rcases List.mem_append.mp hwl with hwl | hwl
            · exact hwl
            · exact absurd (congrArg _ (List.mem_singleton.mp hwl)) hi
          simpa [hi] using hearlier w hw hwl
  | some e =>
      obtain ⟨hel, hei⟩ := h.found hstored
      have hold : p.marketId texts ∈ s.byId.keys := by
        rw [Dict.mem_keys_iff, hstored]
        simp
      rw [dedupe_some hstored]
      refine ⟨?_, ?_, ?_, ?_⟩
      · rw [Dict.keys_set_of_mem hold, h.keys]
      · intro i
        rw [hmem]
        have hpl : p.marketId texts ∈ s.order := h.keys ▸ hold
        constructor
        · exact .inl
        · rintro (hi | rfl)
          · exact hi
          · exact hpl
      · intro i q hq
        by_cases hi : i = p.marketId texts
        · have heq : preferDuplicateCandidate texts e p = q := by simpa [hi] using hq
          have hor : preferDuplicateCandidate texts e p = e ∨
            preferDuplicateCandidate texts e p = p := prefer_eq_or e p
          rcases hor with hpref | hpref
          · rw [← heq, hpref, hi]
            exact ⟨List.mem_append_left _ hel, hei⟩
          · rw [← heq, hpref, hi]
            exact ⟨by simp, rfl⟩
        · obtain ⟨hql, hqi⟩ := h.found (by simpa [hi] using hq)
          exact ⟨List.mem_append_left _ hql, hqi⟩
      · intro w hw
        have hwl : w ∈ l ++ [p] := List.mem_of_mem_filter hw.mem
        by_cases hi : w.marketId texts = p.marketId texts
        · rw [hi, Dict.get?_set_self]
          rcases List.mem_append.mp hwl with hwl | hwl
          · have hew : e = w := by
              have hfound := hearlier w hw hwl
              rw [hi, hstored] at hfound
              exact Option.some.inj hfound
            rw [hew, hw.left p (by simp [hi])]
          · have hwp := List.mem_singleton.mp hwl
            rw [← hwp, hw.right e (by simp [hel, hei, hi])]
        · have hwl : w ∈ l := by
            rcases List.mem_append.mp hwl with hwl | hwl
            · exact hwl
            · exact absurd (congrArg _ (List.mem_singleton.mp hwl)) hi
          simpa [hi] using hearlier w hw hwl

theorem foldl_dedupe_of (l : List Payload) :
    (l.foldl (dedupe texts) {}).Of texts l := by
  induction l using List.reverseRecOn with
  | nil =>
      refine ⟨rfl, ?_, nofun, ?_⟩
      · intro i
        simp
      · intro w hw
        cases hw.mem
  | append_singleton l p ih =>
      rw [List.foldl_append]
      exact ih.step p

/-- An id finds what the payloads of this id come to. -/
theorem get?_foldl_dedupe (i : String) (l : List Payload) :
    ∀ s t : Deduped, s.byId.get? i = t.byId.get? i →
      (l.foldl (dedupe texts) s).byId.get? i =
        ((l.filter fun p => p.marketId texts = i).foldl (dedupe texts) t).byId.get? i := by
  induction l with
  | nil => intro s t h; exact h
  | cons p rest ih =>
      intro s t h
      by_cases hi : p.marketId texts = i
      · simp only [List.filter_cons, hi, decide_true, if_true, List.foldl_cons]
        apply ih
        subst hi
        cases hs : s.byId.get? (p.marketId texts) with
        | none =>
            rw [dedupe_none hs, dedupe_none (h ▸ hs)]
            simp
        | some e =>
            rw [dedupe_some hs, dedupe_some (h ▸ hs)]
            simp
      · simp only [List.filter_cons, hi, decide_false, List.foldl_cons]
        apply ih
        rw [← h]
        cases hs : s.byId.get? (p.marketId texts) with
        | none =>
            rw [dedupe_none hs]
            exact Dict.get?_set_of_ne _ (Ne.symm hi) _
        | some e =>
            rw [dedupe_some hs]
            exact Dict.get?_set_of_ne _ (Ne.symm hi) _

/-- Ids are only added. -/
theorem order_foldl_dedupe (l : List Payload) :
    ∀ s : Deduped, ∃ more, (l.foldl (dedupe texts) s).order = s.order ++ more := by
  induction l with
  | nil => intro s; exact ⟨[], by simp⟩
  | cons p rest ih =>
      intro s
      obtain ⟨more, hmore⟩ := ih (dedupe texts s p)
      rw [List.foldl_cons, hmore]
      cases hs : s.byId.get? (p.marketId texts) with
      | none => exact ⟨p.marketId texts :: more, by simp [dedupe_none hs]⟩
      | some e => exact ⟨more, by simp [dedupe_some hs]⟩

theorem eq_singleton_of_mem_iff {α : Type} {l : List α} {a : α} (hnodup : l.Nodup)
    (hmem : ∀ x, x ∈ l ↔ x = a) : l = [a] := by
  have hperm : l.Perm [a] := by
    apply (List.perm_ext_iff_of_nodup hnodup (List.nodup_singleton a)).mpr
    intro x
    rw [hmem, List.mem_singleton]
  exact List.perm_singleton.mp hperm

theorem Deduped.Of.nodup {l : List Payload} {s : Deduped} (h : s.Of texts l) : s.order.Nodup :=
  h.keys ▸ s.byId.nodup

/-- Two blocks of one id each come first. -/
theorem order_blocks {l l' rest : List Payload} {a b : String} (hl : l ≠ []) (hl' : l' ≠ [])
    (ha : ∀ p ∈ l, p.marketId texts = a) (hb : ∀ p ∈ l', p.marketId texts = b) (hab : a ≠ b) :
    ∃ more, ((l ++ l' ++ rest).foldl (dedupe texts) {}).order = a :: b :: more := by
  have hfirst : (l.foldl (dedupe texts) {}).Of texts l := foldl_dedupe_of l
  have hboth : ((l ++ l').foldl (dedupe texts) {}).Of texts (l ++ l') := foldl_dedupe_of (l ++ l')
  have horder : (l.foldl (dedupe texts) {}).order = [a] := by
    apply eq_singleton_of_mem_iff hfirst.nodup
    intro i
    rw [hfirst.mem]
    constructor
    · rintro ⟨p, hp, rfl⟩
      exact ha p hp
    · rintro rfl
      obtain ⟨p, hp⟩ := List.exists_mem_of_ne_nil l hl
      exact ⟨p, hp, ha p hp⟩
  obtain ⟨middle, hmiddle⟩ := order_foldl_dedupe l' (l.foldl (dedupe texts) {})
  rw [← List.foldl_append, horder] at hmiddle
  have hnodup : ([a] ++ middle).Nodup := hmiddle ▸ hboth.nodup
  obtain ⟨hamiddle, hmiddlenodup⟩ := List.nodup_cons.mp hnodup
  have hsecond : middle = [b] := by
    apply eq_singleton_of_mem_iff hmiddlenodup
    intro i
    have hmem : i ∈ [a] ++ middle ↔ i = a ∨ i = b := by
      rw [← hmiddle, hboth.mem]
      constructor
      · rintro ⟨p, hp, rfl⟩
        rcases List.mem_append.mp hp with hp | hp
        · exact .inl (ha p hp)
        · exact .inr (hb p hp)
      · rintro (rfl | rfl)
        · obtain ⟨p, hp⟩ := List.exists_mem_of_ne_nil l hl
          exact ⟨p, List.mem_append_left _ hp, ha p hp⟩
        · obtain ⟨p, hp⟩ := List.exists_mem_of_ne_nil l' hl'
          exact ⟨p, List.mem_append_right _ hp, hb p hp⟩
    constructor
    · intro hi
      rcases hmem.mp (List.mem_append_right _ hi) with rfl | rfl
      · exact absurd hi hamiddle
      · rfl
    · rintro rfl
      rcases List.mem_append.mp (hmem.mpr (.inr rfl)) with hi | hi
      · exact absurd (List.mem_singleton.mp hi).symm hab
      · exact hi
  obtain ⟨more, hmore⟩ := order_foldl_dedupe rest ((l ++ l').foldl (dedupe texts) {})
  rw [← List.foldl_append, hmiddle, hsecond] at hmore
  exact ⟨more, hmore⟩

/-! ## The second and the third loop -/

/-- Market ids belong to one condition id each. -/
def IdsApart (texts : GammaTexts) (l : List Payload) : Prop :=
  ∀ p ∈ l, ∀ q ∈ l, p.marketId texts = q.marketId texts → p.conditionId texts = q.conditionId texts

/-- The payloads of a condition id. -/
def ofCondition (texts : GammaTexts) (l : List Payload) (c : String) : List Payload :=
  l.filter fun p => p.conditionId texts = c

/-- The condition id of a market id, and who wins of two. -/
def Deduped.conditionOf (texts : GammaTexts) (s : Deduped) (m : String) : String :=
  (s.at m).conditionId texts

def Deduped.winner (texts : GammaTexts) (s : Deduped) (e m : String) : String :=
  (preferDuplicateCandidate texts (s.at e) (s.at m)).marketId texts

theorem chooseAll_eq (s : Deduped) :
    chooseAll texts s = Contest.hold (s.conditionOf texts) (s.winner texts) s.order := by
  have hround : chooseBest texts s = Contest.enter (s.conditionOf texts) (s.winner texts) := by
    funext contest m
    unfold Deduped.conditionOf Deduped.winner
    cases hchampion : contest.champion.get? ((s.at m).conditionId texts) with
    | none => simp [chooseBest, Contest.enter, hchampion]
    | some e => simp [chooseBest, Contest.enter, hchampion]
  rw [chooseAll, Contest.hold, hround]

namespace Deduped.Of

variable {l : List Payload} {s : Deduped}

theorem at_of_get? {m : String} {p : Payload} (h : s.byId.get? m = some p) : s.at m = p := by
  simp [Deduped.at, h]

theorem at_mem (h : s.Of texts l) {m : String} (hm : m ∈ s.order) :
    s.at m ∈ l ∧ (s.at m).marketId texts = m := by
  have hkey : m ∈ s.byId.keys := h.keys ▸ hm
  obtain ⟨p, hp⟩ := Option.isSome_iff_exists.mp (Dict.mem_keys_iff.mp hkey)
  rw [at_of_get? hp]
  exact h.found hp

theorem fair (h : s.Of texts l) : Contest.Fair (s.winner texts) s.order := by
  intro e he m hm
  have hor : preferDuplicateCandidate texts (s.at e) (s.at m) = s.at e ∨
    preferDuplicateCandidate texts (s.at e) (s.at m) = s.at m := prefer_eq_or _ _
  unfold Deduped.winner
  rcases hor with hpref | hpref
  · exact .inl (by rw [hpref, (h.at_mem he).2])
  · exact .inr (by rw [hpref, (h.at_mem hm).2])

theorem sound (h : s.Of texts l) :
    Contest.Sound (s.conditionOf texts) s.order (chooseAll texts s) := by
  rw [chooseAll_eq]
  exact Contest.hold_sound h.nodup h.fair

theorem preferred_at (h : s.Of texts l) (hids : IdsApart texts l) {c : String} {w : Payload}
    (hw : Preferred texts (ofCondition texts l c) w) :
    w.marketId texts ∈ s.order ∧ s.at (w.marketId texts) = w ∧
      s.conditionOf texts (w.marketId texts) = c := by
  obtain ⟨hwl, hwc⟩ := List.mem_filter.mp hw.mem
  have hsame : ∀ p ∈ l.filter (fun p => p.marketId texts = w.marketId texts),
      p ∈ ofCondition texts l c := by
    intro p hp
    obtain ⟨hpl, hpid⟩ := List.mem_filter.mp hp
    have hpc := hids p hpl w hwl (by simpa using hpid)
    exact List.mem_filter.mpr ⟨hpl, by simpa [hpc] using hwc⟩
  have hfound := h.best w ⟨by simp [hwl], fun p hp => hw.left p (hsame p hp),
    fun p hp => hw.right p (hsame p hp)⟩
  have hat := at_of_get? hfound
  refine ⟨(h.mem _).mpr ⟨w, hwl, rfl⟩, hat, ?_⟩
  rw [Deduped.conditionOf, hat]
  simpa using hwc

/-- **The preferred payload's market is champion of its condition.** -/
theorem champion (h : s.Of texts l) (hids : IdsApart texts l) {c : String} {w : Payload}
    (hw : Preferred texts (ofCondition texts l c) w) :
    (chooseAll texts s).champion.get? c = some (w.marketId texts) := by
  obtain ⟨hmem, hat, hcond⟩ := h.preferred_at hids hw
  have hbeats : Contest.Beats (s.conditionOf texts) (s.winner texts) s.order
      (w.marketId texts) := by
    intro e he hcondition
    have hel : s.at e ∈ ofCondition texts l c := by
      refine List.mem_filter.mpr ⟨(h.at_mem he).1, ?_⟩
      have hec : s.conditionOf texts e = c := hcondition.trans hcond
      simpa [Deduped.conditionOf] using hec
    constructor
    · rw [Deduped.winner, hat, hw.right _ hel]
    · rw [Deduped.winner, hat, hw.left _ hel]
  have hchampion := Contest.champion_of_beats h.nodup h.fair hmem hbeats
  rw [hcond] at hchampion
  rw [chooseAll_eq]
  exact hchampion

/-- The ids that are kept are the champions. -/
theorem mem_keptIds_iff (h : s.Of texts l) {m : String} :
    m ∈ keptIds s (chooseAll texts s) ↔
      m ∈ s.order ∧ (chooseAll texts s).champion.get? (s.conditionOf texts m) = some m := by
  have hsound := h.sound
  unfold keptIds
  rw [List.mem_filter]
  constructor
  · rintro ⟨hm, hself⟩
    have hkey : m ∈ (chooseAll texts s).wonBy.keys := hsound.keys ▸ hm
    obtain ⟨x, hx⟩ := Option.isSome_iff_exists.mp (Dict.mem_keys_iff.mp hkey)
    have hxm : x = m := by simpa [hx] using hself
    exact ⟨hm, hsound.unbeaten (hxm ▸ hx)⟩
  · rintro ⟨hm, hchampion⟩
    have hself := (hsound.champion hchampion).2.2
    exact ⟨hm, by simp [hself]⟩

end Deduped.Of

/-! ## What is kept -/

/-- The payloads the snapshot is built from. -/
def validPayloads (texts : GammaTexts) (now : Time) (payloads : List Payload) : List Payload :=
  payloads.filter (isValidCandidate texts now)

section
variable {now : Time} {payloads : List Payload}

theorem dedupeAll_of : (dedupeAll texts now payloads).Of texts (validPayloads texts now payloads) :=
  foldl_dedupe_of _

theorem mem_markets_iff {p : Payload} :
    p ∈ (buildSnapshot texts now payloads).markets ↔
      ∃ m ∈ keptIds (dedupeAll texts now payloads)
        (chooseAll texts (dedupeAll texts now payloads)),
        (dedupeAll texts now payloads).at m = p :=
  List.mem_map

/-- Every candidate is one of the valid payloads. -/
theorem valid_of_mem_markets {p : Payload} (hp : p ∈ (buildSnapshot texts now payloads).markets) :
    p ∈ validPayloads texts now payloads := by
  have hof : (dedupeAll texts now payloads).Of texts (validPayloads texts now payloads) :=
    dedupeAll_of
  obtain ⟨m, hm, rfl⟩ := mem_markets_iff.mp hp
  exact (hof.at_mem (List.mem_of_mem_filter hm)).1

end

end ArbitrageEngine.Gamma
