/-
# ArbitrageEngine.Discovery.SnapshotOrder -- when the snapshot does not depend on the order

A condition id that several markets share is represented by one candidate, and the ids of the others
are pointed at it.  The notes on who lost to whom are read once, so an id whose winner lost later is
pointed at nothing.  With two market ids the only loser lost to the winner, whatever the order; with
three there is always an order in which one of them is dropped (`deduplicated_iff`).
-/
import ArbitrageEngine.Discovery.SnapshotLoops

namespace ArbitrageEngine.Gamma

open Lib

/-! ## What the snapshot is for -/

variable (texts : GammaTexts)

/-- One candidate for each condition id, the preferred one, which all its ids find. -/
structure Deduplicated (now : Time) (payloads : List Payload) (s : Snapshot) : Prop where
  only : ∀ p ∈ s.markets, p ∈ validPayloads texts now payloads
  kept : ∀ c, ofCondition texts (validPayloads texts now payloads) c ≠ [] → ∃ best,
    Preferred texts (ofCondition texts (validPayloads texts now payloads) c) best ∧
    ofCondition texts s.markets c = [best] ∧
    s.byConditionId.get? c = some best ∧
    ∀ p ∈ ofCondition texts (validPayloads texts now payloads) c,
      s.byId.get? (p.marketId texts) = some best
  noCondition : ∀ c, ofCondition texts (validPayloads texts now payloads) c = [] →
    s.byConditionId.get? c = none
  noId : ∀ i, (∀ p ∈ validPayloads texts now payloads, p.marketId texts ≠ i) →
    s.byId.get? i = none

/-- Two snapshots that differ in the order of their candidates only. -/
structure SameSnapshot (s s' : Snapshot) : Prop where
  markets : s.markets.Perm s'.markets
  byId : ∀ i, s.byId.get? i = s'.byId.get? i
  byConditionId : ∀ c, s.byConditionId.get? c = s'.byConditionId.get? c
  byTitle : ∀ t, (s.byTitle.listAt t).Perm (s'.byTitle.listAt t)
  byTitleTerm : ∀ t, (s.byTitleTerm.listAt t).Perm (s'.byTitleTerm.listAt t)

/-- At most two market ids. -/
def AtMostTwoIds (l : List Payload) : Prop :=
  ∀ p ∈ l, ∀ q ∈ l, ∀ r ∈ l, p.marketId texts = q.marketId texts ∨
    p.marketId texts = r.marketId texts ∨ q.marketId texts = r.marketId texts

/-- Every condition id has at most two market ids and a payload that is preferred over all. -/
def Settled (now : Time) (payloads : List Payload) : Prop :=
  ∀ c, ofCondition texts (validPayloads texts now payloads) c ≠ [] →
    AtMostTwoIds texts (ofCondition texts (validPayloads texts now payloads) c) ∧
    ∃ best, Preferred texts (ofCondition texts (validPayloads texts now payloads) c) best

variable {texts}

section Built
variable {now : Time} {payloads : List Payload}

theorem nodup_markets : (buildSnapshot texts now payloads).markets.Nodup := by
  have hof : (dedupeAll texts now payloads).Of texts (validPayloads texts now payloads) :=
    dedupeAll_of
  apply List.Nodup.map_on
  · intro m hm m' hm' heq
    rw [← (hof.at_mem (List.mem_of_mem_filter hm)).2, heq,
      (hof.at_mem (List.mem_of_mem_filter hm')).2]
  · exact hof.nodup.filter _

/-- The kept candidates, where every condition has a preferred payload. -/
theorem mem_markets_iff_preferred (hids : IdsApart texts (validPayloads texts now payloads))
    {c : String} {w : Payload}
    (hw : Preferred texts (ofCondition texts (validPayloads texts now payloads) c) w)
    {p : Payload} (hp : p.conditionId texts = c) :
    p ∈ (buildSnapshot texts now payloads).markets ↔ p = w := by
  have hof : (dedupeAll texts now payloads).Of texts (validPayloads texts now payloads) :=
    dedupeAll_of
  have hchampion := hof.champion hids hw
  obtain ⟨hmem, hat, hcond⟩ := hof.preferred_at hids hw
  rw [mem_markets_iff]
  constructor
  · rintro ⟨m, hm, rfl⟩
    obtain ⟨-, hself⟩ := hof.mem_keptIds_iff.mp hm
    have hcm : (dedupeAll texts now payloads).conditionOf texts m = c := hp
    rw [hcm, hchampion] at hself
    rw [← hat, Option.some.inj hself]
  · rintro rfl
    refine ⟨p.marketId texts, hof.mem_keptIds_iff.mpr ⟨hmem, ?_⟩, hat⟩
    rw [hcond]
    exact hchampion

theorem mem_ofCondition {l : List Payload} {c : String} {p : Payload} :
    p ∈ ofCondition texts l c ↔ p ∈ l ∧ p.conditionId texts = c := by
  simp [ofCondition]

/-- The candidates as they are found under ids before the notes are read. -/
def directIds (texts : GammaTexts) (now : Time) (payloads : List Payload) : Dict String Payload :=
  let deduped := dedupeAll texts now payloads
  Dict.setAll id deduped.at (keptIds deduped (chooseAll texts deduped)) .empty

theorem byId_buildSnapshot : (buildSnapshot texts now payloads).byId =
    Contest.resolve (chooseAll texts (dedupeAll texts now payloads)).wonBy.entries
      (directIds texts now payloads) := rfl

theorem get?_directIds_of_kept {m : String}
    (hm : m ∈ keptIds (dedupeAll texts now payloads)
      (chooseAll texts (dedupeAll texts now payloads))) :
    (directIds texts now payloads).get? m = some ((dedupeAll texts now payloads).at m) := by
  apply Dict.get?_setAll
  · exact ⟨m, hm, rfl⟩
  · intro b _ hb
    exact congrArg _ hb

theorem get?_directIds_of_not_kept {m : String}
    (hm : m ∉ keptIds (dedupeAll texts now payloads)
      (chooseAll texts (dedupeAll texts now payloads))) :
    (directIds texts now payloads).get? m = none := by
  unfold directIds
  rw [Dict.get?_setAll_of_not_mem]
  · exact Dict.get?_empty m
  · rintro b hb rfl
    exact hm hb

/-- An id without a valid payload is not found. -/
theorem byId_none {i : String}
    (hi : ∀ p ∈ validPayloads texts now payloads, p.marketId texts ≠ i) :
    (buildSnapshot texts now payloads).byId.get? i = none := by
  have hof : (dedupeAll texts now payloads).Of texts (validPayloads texts now payloads) :=
    dedupeAll_of
  have horder : i ∉ (dedupeAll texts now payloads).order := by
    rw [hof.mem]
    rintro ⟨p, hp, rfl⟩
    exact hi p hp rfl
  have hkeys : i ∉ (chooseAll texts (dedupeAll texts now payloads)).wonBy.entries.map Prod.fst := by
    intro hmem
    have hkey : i ∈ (chooseAll texts (dedupeAll texts now payloads)).wonBy.keys := hmem
    rw [hof.sound.keys] at hkey
    exact horder hkey
  rw [byId_buildSnapshot, Contest.resolve_of_not_mem _ _ hkeys, get?_directIds_of_not_kept]
  intro hkept
  exact horder (List.mem_of_mem_filter hkept)

/-- With at most two ids every note names the champion. -/
theorem wonBy_of_settled (hids : IdsApart texts (validPayloads texts now payloads)) {c : String}
    (htwo : AtMostTwoIds texts (ofCondition texts (validPayloads texts now payloads) c))
    {w : Payload}
    (hw : Preferred texts (ofCondition texts (validPayloads texts now payloads) c) w) {m : String}
    (hm : m ∈ (dedupeAll texts now payloads).order)
    (hcond : (dedupeAll texts now payloads).conditionOf texts m = c) :
    (chooseAll texts (dedupeAll texts now payloads)).wonBy.get? m = some (w.marketId texts) := by
  have hof : (dedupeAll texts now payloads).Of texts (validPayloads texts now payloads) :=
    dedupeAll_of
  obtain ⟨-, -, hwc⟩ := hof.preferred_at hids hw
  have hchampion := hof.champion hids hw
  rw [← hwc] at hchampion
  have hcandidate : ∀ x ∈ (dedupeAll texts now payloads).order,
      (dedupeAll texts now payloads).conditionOf texts x = c →
        (dedupeAll texts now payloads).at x ∈
          ofCondition texts (validPayloads texts now payloads) c :=
    fun x hx hxc => mem_ofCondition.mpr ⟨(hof.at_mem hx).1, hxc⟩
  apply Contest.wonBy_of_pair hof.sound hchampion ?_ hm (hcond.trans hwc.symm)
  intro x hx y hy hxc hyc hxw hyw
  have hpx := hcandidate x hx (hxc.trans hwc)
  have hpy := hcandidate y hy (hyc.trans hwc)
  have hcases := htwo w hw.mem _ hpx _ hpy
  rw [(hof.at_mem hx).2, (hof.at_mem hy).2] at hcases
  rcases hcases with h | h | h
  · exact absurd h.symm hxw
  · exact absurd h.symm hyw
  · exact h

/-- Every id of a condition finds its preferred payload. -/
theorem byId_of_settled (hids : IdsApart texts (validPayloads texts now payloads))
    (h : Settled texts now payloads) {c : String} {w : Payload}
    (hw : Preferred texts (ofCondition texts (validPayloads texts now payloads) c) w)
    {p : Payload} (hp : p ∈ ofCondition texts (validPayloads texts now payloads) c) :
    (buildSnapshot texts now payloads).byId.get? (p.marketId texts) = some w := by
  have hof : (dedupeAll texts now payloads).Of texts (validPayloads texts now payloads) :=
    dedupeAll_of
  have hsound := hof.sound
  -- What a note says, and that its target is kept.
  have hnote : ∀ note ∈ (chooseAll texts (dedupeAll texts now payloads)).wonBy.entries,
      ∃ best, Preferred texts (ofCondition texts (validPayloads texts now payloads)
          ((dedupeAll texts now payloads).conditionOf texts note.1)) best ∧
        note.2 = best.marketId texts := by
    intro note hentry
    have hget := Dict.get?_eq_some_iff.mpr hentry
    have hm : note.1 ∈ (dedupeAll texts now payloads).order := by
      rw [← hsound.keys, Dict.mem_keys_iff, hget]
      rfl
    have hcandidate : (dedupeAll texts now payloads).at note.1 ∈
        ofCondition texts (validPayloads texts now payloads)
          ((dedupeAll texts now payloads).conditionOf texts note.1) :=
      mem_ofCondition.mpr ⟨(hof.at_mem hm).1, rfl⟩
    obtain ⟨htwo, best, hbest⟩ := h _ (List.ne_nil_of_mem hcandidate)
    refine ⟨best, hbest, ?_⟩
    rw [wonBy_of_settled hids htwo hbest hm rfl] at hget
    exact (Option.some.inj hget).symm
  have hkept : ∀ {c : String} {best : Payload},
      Preferred texts (ofCondition texts (validPayloads texts now payloads) c) best →
        (directIds texts now payloads).get? (best.marketId texts) = some best := by
    intro c best hbest
    obtain ⟨hmem, hat, hcond⟩ := hof.preferred_at hids hbest
    have hkept : best.marketId texts ∈ keptIds (dedupeAll texts now payloads)
        (chooseAll texts (dedupeAll texts now payloads)) := by
      refine hof.mem_keptIds_iff.mpr ⟨hmem, ?_⟩
      rw [hcond]
      exact hof.champion hids hbest
    rw [get?_directIds_of_kept hkept, hat]
  obtain ⟨hpl, hpc⟩ := mem_ofCondition.mp hp
  have hm : p.marketId texts ∈ (dedupeAll texts now payloads).order := (hof.mem _).mpr ⟨p, hpl, rfl⟩
  have hcond : (dedupeAll texts now payloads).conditionOf texts (p.marketId texts) = c := by
    obtain ⟨hat, hid⟩ := hof.at_mem hm
    rw [← hpc]
    exact hids _ hat p hpl hid
  have hne : ofCondition texts (validPayloads texts now payloads) c ≠ [] := List.ne_nil_of_mem hp
  have hentry := Dict.get?_eq_some_iff.mp (wonBy_of_settled hids (h c hne).1 hw hm hcond)
  rw [byId_buildSnapshot]
  have hresolved := Contest.resolve_of_fixed
    (chooseAll texts (dedupeAll texts now payloads)).wonBy.entries (directIds texts now payloads)
    (chooseAll texts (dedupeAll texts now payloads)).wonBy.nodup ?_ ?_ _ hentry
  · rw [hresolved, hkept hw]
  · intro note hnotemem
    obtain ⟨best, hbest, htarget⟩ := hnote note hnotemem
    rw [htarget, hkept hbest]
    rfl
  · intro note hnotemem other hothermem heq
    obtain ⟨best, hbest, htarget⟩ := hnote note hnotemem
    obtain ⟨best', hbest', htarget'⟩ := hnote other hothermem
    obtain ⟨-, -, hsame⟩ := hof.preferred_at hids hbest
    rw [heq, htarget, hsame] at hbest'
    rw [htarget', htarget, hbest'.unique hbest]

/-- **Settled payloads are deduplicated**, in whatever order they come. -/
theorem deduplicated_of_settled (hids : IdsApart texts (validPayloads texts now payloads))
    (h : Settled texts now payloads) :
    Deduplicated texts now payloads (buildSnapshot texts now payloads) := by
  refine ⟨fun p hp => valid_of_mem_markets hp, ?_, ?_, fun i hi => byId_none hi⟩
  · intro c hc
    obtain ⟨-, w, hw⟩ := h c hc
    have hmarket : ∀ p, p.conditionId texts = c →
        (p ∈ (buildSnapshot texts now payloads).markets ↔ p = w) :=
      fun p hp => mem_markets_iff_preferred hids hw hp
    have hwc : w.conditionId texts = c := (mem_ofCondition.mp hw.mem).2
    refine ⟨w, hw, ?_, ?_, fun p hp => byId_of_settled hids h hw hp⟩
    · apply eq_singleton_of_mem_iff (nodup_markets.filter _)
      intro p
      constructor
      · intro hp
        obtain ⟨hp, hpc⟩ := mem_ofCondition.mp hp
        exact (hmarket p hpc).mp hp
      · rintro rfl
        exact mem_ofCondition.mpr ⟨(hmarket p hwc).mpr rfl, hwc⟩
    · apply Dict.get?_setAll
      · exact ⟨w, (hmarket w hwc).mpr rfl, hwc⟩
      · intro p hp hpc
        exact (hmarket p hpc).mp hp
  · intro c hc
    have hnone : ∀ p ∈ (buildSnapshot texts now payloads).markets, p.conditionId texts ≠ c := by
      rintro p hp rfl
      have hmem : p ∈ ofCondition texts (validPayloads texts now payloads) (p.conditionId texts) :=
        mem_ofCondition.mpr ⟨valid_of_mem_markets hp, rfl⟩
      rw [hc] at hmem
      cases hmem
    show (Dict.setAll (fun p => p.conditionId texts) id (buildSnapshot texts now payloads).markets
      .empty).get? c = none
    rw [Dict.get?_setAll_of_not_mem _ _ hnone]
    rfl

/-- **A third id is dropped.**  The valid payloads of two ids come first, the first id loses to the
second, and the condition goes to neither: the first id finds nothing. -/
theorem byId_dropped {l l' rest : List Payload} {a b c : String} {w : Payload}
    (hvalid : validPayloads texts now payloads = l ++ l' ++ rest)
    (hids : IdsApart texts (validPayloads texts now payloads)) (hl : l ≠ []) (hl' : l' ≠ [])
    (ha : ∀ p ∈ l, p.marketId texts = a) (hb : ∀ p ∈ l', p.marketId texts = b) (hab : a ≠ b)
    (hca : ∀ p ∈ l, p.conditionId texts = c) (hcb : ∀ p ∈ l', p.conditionId texts = c)
    (hlost : (dedupeAll texts now payloads).winner texts a b = b)
    (hw : Preferred texts (ofCondition texts (validPayloads texts now payloads) c) w)
    (hwb : w.marketId texts ≠ b) :
    (buildSnapshot texts now payloads).byId.get? a = none := by
  have hof : (dedupeAll texts now payloads).Of texts (validPayloads texts now payloads) :=
    dedupeAll_of
  have hsound := hof.sound
  obtain ⟨more, horder⟩ : ∃ more, (dedupeAll texts now payloads).order = a :: b :: more := by
    have hall : dedupeAll texts now payloads = (l ++ l' ++ rest).foldl (dedupe texts) {} := by
      rw [← hvalid]
      rfl
    rw [hall]
    exact order_blocks hl hl' ha hb hab
  have hcondition : ∀ {block : List Payload} {i : String}, block ≠ [] →
      (∀ p ∈ block, p ∈ validPayloads texts now payloads) →
      (∀ p ∈ block, p.marketId texts = i) → (∀ p ∈ block, p.conditionId texts = c) →
        (dedupeAll texts now payloads).conditionOf texts i = c := by
    intro block i hne hmem hid hcond
    obtain ⟨p, hp⟩ := List.exists_mem_of_ne_nil block hne
    obtain ⟨hat, hati⟩ := hof.at_mem ((hof.mem i).mpr ⟨p, hmem p hp, hid p hp⟩)
    rw [← hcond p hp]
    exact hids _ hat p (hmem p hp) (hati.trans (hid p hp).symm)
  have hconda : (dedupeAll texts now payloads).conditionOf texts a = c :=
    hcondition hl (by intro p hp; rw [hvalid]; simp [hp]) ha hca
  have hcondb : (dedupeAll texts now payloads).conditionOf texts b = c :=
    hcondition hl' (by intro p hp; rw [hvalid]; simp [hp]) hb hcb
  have hnote : (chooseAll texts (dedupeAll texts now payloads)).wonBy.get? a = some b := by
    rw [chooseAll_eq, horder]
    exact Contest.wonBy_first (horder ▸ hof.nodup) (horder ▸ hof.fair) (hconda.trans hcondb.symm)
      hlost
  have hchampion := hof.champion hids hw
  have hnotb : b ∉ keptIds (dedupeAll texts now payloads)
      (chooseAll texts (dedupeAll texts now payloads)) := by
    intro hkept
    have hself := (hof.mem_keptIds_iff.mp hkept).2
    rw [hcondb, hchampion] at hself
    exact hwb (Option.some.inj hself)
  have hnota : a ∉ keptIds (dedupeAll texts now payloads)
      (chooseAll texts (dedupeAll texts now payloads)) := by
    intro hkept
    have hself := (hof.mem_keptIds_iff.mp hkept).2
    have hown := (hsound.champion hself).2.2
    rw [hnote] at hown
    exact hab (Option.some.inj hown).symm
  -- The first note is that of the first id, and its target is not found yet.
  obtain ⟨entries, hentries⟩ : ∃ entries,
      (chooseAll texts (dedupeAll texts now payloads)).wonBy.entries = (a, b) :: entries := by
    have hkeys := hsound.keys
    rw [horder] at hkeys
    cases hlist : (chooseAll texts (dedupeAll texts now payloads)).wonBy.entries with
    | nil => simp [Dict.keys, hlist] at hkeys
    | cons first entries =>
        have hfirst : first.1 = a := by
          simp only [Dict.keys, hlist, List.map_cons, List.cons.injEq] at hkeys
          exact hkeys.1
        have hget := Dict.get?_eq_some_iff.mpr
          (show (first.1, first.2) ∈ (chooseAll texts (dedupeAll texts now payloads)).wonBy.entries
            by rw [hlist]; exact List.mem_cons_self)
        rw [hfirst, hnote] at hget
        exact ⟨entries, by rw [Option.some.inj hget, ← hfirst]⟩
  have hrest : a ∉ entries.map Prod.fst := by
    have hnodup := (chooseAll texts (dedupeAll texts now payloads)).wonBy.nodup
    rw [hentries] at hnodup
    exact (List.nodup_cons.mp hnodup).1
  have hskip : Contest.resolve ((a, b) :: entries) (directIds texts now payloads) =
      Contest.resolve entries (directIds texts now payloads) := by
    simp [Contest.resolve, get?_directIds_of_not_kept hnotb]
  rw [byId_buildSnapshot, hentries, hskip, Contest.resolve_of_not_mem _ _ hrest,
    get?_directIds_of_not_kept hnota]

end Built

/-! ## Every order of the payloads -/

section Orders
variable {now : Time} {payloads : List Payload}

theorem mem_validPayloads_of_perm {reordered : List Payload} (h : reordered.Perm payloads)
    (p : Payload) :
    p ∈ validPayloads texts now reordered ↔ p ∈ validPayloads texts now payloads :=
  (h.filter _).mem_iff

theorem mem_ofCondition_of_perm {reordered : List Payload} (h : reordered.Perm payloads)
    (c : String) (p : Payload) :
    p ∈ ofCondition texts (validPayloads texts now reordered) c ↔
      p ∈ ofCondition texts (validPayloads texts now payloads) c :=
  ((h.filter _).filter _).mem_iff

/-- What a snapshot is for does not depend on the order of the payloads. -/
theorem Deduplicated.of_perm {reordered : List Payload} (h : reordered.Perm payloads)
    {s : Snapshot} (hs : Deduplicated texts now reordered s) :
    Deduplicated texts now payloads s := by
  have hmem := @mem_validPayloads_of_perm texts now payloads reordered h
  have hcond := @mem_ofCondition_of_perm texts now payloads reordered h
  have hnil : ∀ c, ofCondition texts (validPayloads texts now reordered) c = [] ↔
      ofCondition texts (validPayloads texts now payloads) c = [] := by
    intro c
    simp only [List.eq_nil_iff_forall_not_mem, hcond]
  refine ⟨fun p hp => (hmem p).mp (hs.only p hp), ?_, ?_, ?_⟩
  · intro c hc
    obtain ⟨best, hbest, hone, hfound, hall⟩ := hs.kept c (mt (hnil c).mp hc)
    exact ⟨best, hbest.of_mem_iff (hcond c), hone, hfound,
      fun p hp => hall p ((hcond c p).mpr hp)⟩
  · intro c hc
    exact hs.noCondition c ((hnil c).mpr hc)
  · intro i hi
    exact hs.noId i fun p hp => hi p ((hmem p).mp hp)

theorem Settled.of_perm {reordered : List Payload} (h : reordered.Perm payloads)
    (hs : Settled texts now payloads) : Settled texts now reordered := by
  have hcond := @mem_ofCondition_of_perm texts now payloads reordered h
  intro c hc
  have hne : ofCondition texts (validPayloads texts now payloads) c ≠ [] := by
    obtain ⟨p, hp⟩ := List.exists_mem_of_ne_nil _ hc
    exact List.ne_nil_of_mem ((hcond c p).mp hp)
  obtain ⟨htwo, best, hbest⟩ := hs c hne
  refine ⟨?_, best, hbest.of_mem_iff fun p => (hcond c p).symm⟩
  intro p hp q hq r hr
  exact htwo p ((hcond c p).mp hp) q ((hcond c q).mp hq) r ((hcond c r).mp hr)

theorem IdsApart.of_perm {reordered : List Payload} (h : reordered.Perm payloads)
    (hids : IdsApart texts (validPayloads texts now payloads)) :
    IdsApart texts (validPayloads texts now reordered) := by
  have hmem := @mem_validPayloads_of_perm texts now payloads reordered h
  intro p hp q hq
  exact hids p ((hmem p).mp hp) q ((hmem q).mp hq)

/-- A snapshot that is deduplicated is determined, up to the order of its candidates. -/
theorem mem_markets_of_deduplicated {s : Snapshot} (hs : Deduplicated texts now payloads s)
    (p : Payload) :
    p ∈ s.markets ↔ Preferred texts
      (ofCondition texts (validPayloads texts now payloads) (p.conditionId texts)) p := by
  have hcase : p ∈ validPayloads texts now payloads → (p ∈ s.markets ↔ Preferred texts
      (ofCondition texts (validPayloads texts now payloads) (p.conditionId texts)) p) := by
    intro hp
    have hmem : p ∈ ofCondition texts (validPayloads texts now payloads) (p.conditionId texts) :=
      mem_ofCondition.mpr ⟨hp, rfl⟩
    obtain ⟨best, hbest, hone, -, -⟩ := hs.kept _ (List.ne_nil_of_mem hmem)
    have hiff : p ∈ s.markets ↔ p = best := by
      have hmarket : p ∈ ofCondition texts s.markets (p.conditionId texts) ↔ p ∈ s.markets := by
        simp [mem_ofCondition]
      rw [← hmarket, hone, List.mem_singleton]
    rw [hiff]
    constructor
    · intro hpb
      exact hpb ▸ hbest
    · intro hpref
      exact hpref.unique hbest
  constructor
  · intro hp
    exact (hcase (hs.only p hp)).mp hp
  · intro hp
    exact (hcase (mem_ofCondition.mp hp.mem).1).mpr hp

/-- Two deduplicated snapshots differ in the order of their candidates only. -/
theorem sameSnapshot {reordered : List Payload}
    (hs : Deduplicated texts now payloads (buildSnapshot texts now payloads))
    (hs' : Deduplicated texts now payloads (buildSnapshot texts now reordered)) :
    SameSnapshot (buildSnapshot texts now payloads) (buildSnapshot texts now reordered) := by
  have hmarkets : (buildSnapshot texts now payloads).markets.Perm
      (buildSnapshot texts now reordered).markets := by
    apply (List.perm_ext_iff_of_nodup nodup_markets nodup_markets).mpr
    intro p
    rw [mem_markets_of_deduplicated hs, mem_markets_of_deduplicated hs']
  refine ⟨hmarkets, ?_, ?_, ?_, ?_⟩
  · intro i
    by_cases hi : ∃ p ∈ validPayloads texts now payloads, p.marketId texts = i
    · obtain ⟨p, hp, rfl⟩ := hi
      have hmem : p ∈ ofCondition texts (validPayloads texts now payloads) (p.conditionId texts) :=
        mem_ofCondition.mpr ⟨hp, rfl⟩
      obtain ⟨best, hbest, -, -, hall⟩ := hs.kept _ (List.ne_nil_of_mem hmem)
      obtain ⟨best', hbest', -, -, hall'⟩ := hs'.kept _ (List.ne_nil_of_mem hmem)
      rw [hall p hmem, hall' p hmem, hbest.unique hbest']
    · have hnone : ∀ p ∈ validPayloads texts now payloads, p.marketId texts ≠ i :=
        fun p hp hpi => hi ⟨p, hp, hpi⟩
      rw [hs.noId i hnone, hs'.noId i hnone]
  · intro c
    by_cases hc : ofCondition texts (validPayloads texts now payloads) c = []
    · rw [hs.noCondition c hc, hs'.noCondition c hc]
    · obtain ⟨best, hbest, -, hfound, -⟩ := hs.kept c hc
      obtain ⟨best', hbest', -, hfound', -⟩ := hs'.kept c hc
      rw [hfound, hfound', hbest.unique hbest']
  · intro t
    have hkeys : ∀ p : Payload, [p.normalTitle texts].Nodup := fun p => List.nodup_singleton _
    show ((Dict.index _ _).listAt t).Perm ((Dict.index _ _).listAt t)
    rw [Dict.listAt_index _ hkeys, Dict.listAt_index _ hkeys]
    exact hmarkets.filter _
  · intro t
    have hkeys : ∀ p : Payload, (p.titleTerms texts).Nodup := fun p => List.nodup_dedup _
    show ((Dict.index _ _).listAt t).Perm ((Dict.index _ _).listAt t)
    rw [Dict.listAt_index _ hkeys, Dict.listAt_index _ hkeys]
    exact hmarkets.filter _

/-- What an id comes to is a matter of its own payloads. -/
theorem at_of_block {l : List Payload} {a : String}
    (hl : (validPayloads texts now payloads).filter (fun p => p.marketId texts = a) = l) :
    (dedupeAll texts now payloads).at a = (l.foldl (dedupe texts) {}).at a := by
  have hget : (dedupeAll texts now payloads).byId.get? a =
      (l.foldl (dedupe texts) {}).byId.get? a := by
    rw [← hl]
    exact get?_foldl_dedupe a (validPayloads texts now payloads) {} {} rfl
  unfold Deduped.at
  rw [hget]

/-! ### Two ids first -/

/-- The payloads of one id, then those of another, then all others. -/
structure Blocks (texts : GammaTexts) (now : Time) (payloads : List Payload) (a b : String)
    (l l' rest : List Payload) : Prop where
  perm : (l ++ l' ++ rest).Perm payloads
  first : ∀ r, r ∈ l ↔ r ∈ validPayloads texts now payloads ∧ r.marketId texts = a
  second : ∀ r, r ∈ l' ↔ r ∈ validPayloads texts now payloads ∧ r.marketId texts = b
  others : ∀ r ∈ rest, isValidCandidate texts now r = true →
    r.marketId texts ≠ a ∧ r.marketId texts ≠ b

theorem exists_blocks (now : Time) (payloads : List Payload) {a b : String} (hab : a ≠ b) :
    ∃ l l' rest, Blocks texts now payloads a b l l' rest := by
  let isFirst : Payload → Bool := fun r =>
    isValidCandidate texts now r && decide (r.marketId texts = a)
  let isSecond : Payload → Bool := fun r =>
    isValidCandidate texts now r && decide (r.marketId texts = b)
  let others := payloads.filter fun r => !isFirst r
  refine ⟨payloads.filter isFirst, others.filter isSecond, others.filter fun r => !isSecond r,
    ?_, ?_, ?_, ?_⟩
  · rw [List.append_assoc]
    exact ((List.filter_append_perm isSecond others).append_left _).trans
      (List.filter_append_perm isFirst payloads)
  · intro r
    simp [validPayloads, isFirst, and_assoc]
  · intro r
    simp only [validPayloads, others, isFirst, isSecond, List.mem_filter, Bool.and_eq_true,
      Bool.not_eq_true', Bool.and_eq_false_iff, decide_eq_true_eq, decide_eq_false_iff_not]
    constructor
    · rintro ⟨⟨hr, -⟩, hvalid, hb⟩
      exact ⟨⟨hr, hvalid⟩, hb⟩
    · rintro ⟨⟨hr, hvalid⟩, hb⟩
      exact ⟨⟨hr, .inr fun ha => hab (ha.symm.trans hb)⟩, hvalid, hb⟩
  · intro r hr hvalid
    obtain ⟨hr, hsecond⟩ := List.mem_filter.mp hr
    have hfirst := (List.mem_filter.mp hr).2
    simp only [isFirst, isSecond, hvalid, Bool.true_and, Bool.not_eq_true',
      decide_eq_false_iff_not] at hfirst hsecond
    exact ⟨hfirst, hsecond⟩

namespace Blocks

variable {a b : String} {l l' rest : List Payload}

theorem swap (h : Blocks texts now payloads a b l l' rest) :
    Blocks texts now payloads b a l' l rest where
  perm := (List.perm_append_comm.append_right rest).trans h.perm
  first := h.second
  second := h.first
  others := fun r hr hvalid => (h.others r hr hvalid).symm

theorem valid (h : Blocks texts now payloads a b l l' rest) :
    validPayloads texts now (l ++ l' ++ rest) =
      l ++ l' ++ rest.filter (isValidCandidate texts now) := by
  have hl : l.filter (isValidCandidate texts now) = l :=
    List.filter_eq_self.mpr fun r hr => (List.mem_filter.mp ((h.first r).mp hr).1).2
  have hl' : l'.filter (isValidCandidate texts now) = l' :=
    List.filter_eq_self.mpr fun r hr => (List.mem_filter.mp ((h.second r).mp hr).1).2
  unfold validPayloads
  rw [List.filter_append, List.filter_append, hl, hl']

/-- The first id comes to the same wherever its block is. -/
theorem at_first (h : Blocks texts now payloads a b l l' rest) (hab : a ≠ b) :
    (dedupeAll texts now (l ++ l' ++ rest)).at a = (l.foldl (dedupe texts) {}).at a := by
  apply at_of_block
  have hl : l.filter (fun r => r.marketId texts = a) = l := by
    apply List.filter_eq_self.mpr
    intro r hr
    simpa using ((h.first r).mp hr).2
  have hl' : l'.filter (fun r => r.marketId texts = a) = [] := by
    apply List.filter_eq_nil_iff.mpr
    intro r hr ha
    exact hab ((by simpa using ha : r.marketId texts = a).symm.trans ((h.second r).mp hr).2)
  have hrest : (rest.filter (isValidCandidate texts now)).filter
      (fun r => r.marketId texts = a) = [] := by
    apply List.filter_eq_nil_iff.mpr
    intro r hr ha
    obtain ⟨hr, hvalid⟩ := List.mem_filter.mp hr
    exact (h.others r hr hvalid).1 (by simpa using ha)
  rw [h.valid, List.filter_append, List.filter_append, hl, hl', hrest]
  simp

theorem at_second (h : Blocks texts now payloads a b l l' rest) (hab : a ≠ b) :
    (dedupeAll texts now (l ++ l' ++ rest)).at b = (l'.foldl (dedupe texts) {}).at b := by
  apply at_of_block
  have hl : l.filter (fun r => r.marketId texts = b) = [] := by
    apply List.filter_eq_nil_iff.mpr
    intro r hr hb
    exact hab (((h.first r).mp hr).2.symm.trans (by simpa using hb))
  have hl' : l'.filter (fun r => r.marketId texts = b) = l' := by
    apply List.filter_eq_self.mpr
    intro r hr
    simpa using ((h.second r).mp hr).2
  have hrest : (rest.filter (isValidCandidate texts now)).filter
      (fun r => r.marketId texts = b) = [] := by
    apply List.filter_eq_nil_iff.mpr
    intro r hr hb
    obtain ⟨hr, hvalid⟩ := List.mem_filter.mp hr
    exact (h.others r hr hvalid).2 (by simpa using hb)
  rw [h.valid, List.filter_append, List.filter_append, hl, hl', hrest]
  simp

/-- The first id is dropped where it loses to the second. -/
theorem dropped (h : Blocks texts now payloads a b l l' rest) (hab : a ≠ b)
    (hids : IdsApart texts (validPayloads texts now payloads)) {c : String} {p q w : Payload}
    (hp : p ∈ ofCondition texts (validPayloads texts now payloads) c)
    (hq : q ∈ ofCondition texts (validPayloads texts now payloads) c)
    (hpa : p.marketId texts = a) (hqb : q.marketId texts = b)
    (hw : Preferred texts (ofCondition texts (validPayloads texts now payloads) c) w)
    (hwb : w.marketId texts ≠ b)
    (hlost : (preferDuplicateCandidate texts ((l.foldl (dedupe texts) {}).at a)
      ((l'.foldl (dedupe texts) {}).at b)).marketId texts = b) :
    (buildSnapshot texts now (l ++ l' ++ rest)).byId.get? a = none := by
  obtain ⟨hpv, hpc⟩ := mem_ofCondition.mp hp
  obtain ⟨hqv, hqc⟩ := mem_ofCondition.mp hq
  have hca : ∀ r ∈ l, r.conditionId texts = c := by
    intro r hr
    obtain ⟨hrv, hra⟩ := (h.first r).mp hr
    rw [← hpc]
    exact hids r hrv p hpv (hra.trans hpa.symm)
  have hcb : ∀ r ∈ l', r.conditionId texts = c := by
    intro r hr
    obtain ⟨hrv, hrb⟩ := (h.second r).mp hr
    rw [← hqc]
    exact hids r hrv q hqv (hrb.trans hqb.symm)
  apply byId_dropped h.valid (hids.of_perm h.perm)
    (List.ne_nil_of_mem ((h.first p).mpr ⟨hpv, hpa⟩))
    (List.ne_nil_of_mem ((h.second q).mpr ⟨hqv, hqb⟩))
    (fun r hr => ((h.first r).mp hr).2) (fun r hr => ((h.second r).mp hr).2) hab hca hcb ?_
    (hw.of_mem_iff fun r => (mem_ofCondition_of_perm h.perm c r).symm) hwb
  rw [Deduped.winner, h.at_first hab, h.at_second hab]
  exact hlost

end Blocks

/-- **In some order an id is dropped**: of two ids that are not that of the preferred payload, one
loses to the other where their payloads come first. -/
theorem exists_dropped (hids : IdsApart texts (validPayloads texts now payloads))
    (hdumps : DumpsApart (validPayloads texts now payloads)) {c : String} {p q w : Payload}
    (hp : p ∈ ofCondition texts (validPayloads texts now payloads) c)
    (hq : q ∈ ofCondition texts (validPayloads texts now payloads) c)
    (hpq : p.marketId texts ≠ q.marketId texts)
    (hw : Preferred texts (ofCondition texts (validPayloads texts now payloads) c) w)
    (hwp : w.marketId texts ≠ p.marketId texts) (hwq : w.marketId texts ≠ q.marketId texts) :
    ∃ reordered, reordered.Perm payloads ∧
      ∃ r ∈ ofCondition texts (validPayloads texts now payloads) c,
        (buildSnapshot texts now reordered).byId.get? (r.marketId texts) = none := by
  obtain ⟨l, l', rest, h⟩ : ∃ l l' rest,
      Blocks texts now payloads (p.marketId texts) (q.marketId texts) l l' rest :=
    exists_blocks now payloads hpq
  have hpv := (mem_ofCondition.mp hp).1
  have hqv := (mem_ofCondition.mp hq).1
  have hof : (l.foldl (dedupe texts) {}).Of texts l := foldl_dedupe_of l
  have hof' : (l'.foldl (dedupe texts) {}).Of texts l' := foldl_dedupe_of l'
  obtain ⟨hat, hatp⟩ := hof.at_mem
    ((hof.mem (p.marketId texts)).mpr ⟨p, (h.first p).mpr ⟨hpv, rfl⟩, rfl⟩)
  obtain ⟨hat', hatq⟩ := hof'.at_mem
    ((hof'.mem (q.marketId texts)).mpr ⟨q, (h.second q).mpr ⟨hqv, rfl⟩, rfl⟩)
  rcases @prefer_eq_or texts ((l.foldl (dedupe texts) {}).at (p.marketId texts))
    ((l'.foldl (dedupe texts) {}).at (q.marketId texts)) with hfirst | hsecond
  · -- The first id wins: the second one is dropped where it comes before it.
    rw [prefer_comm hdumps ((h.first _).mp hat).1 ((h.second _).mp hat').1] at hfirst
    refine ⟨l' ++ l ++ rest, h.swap.perm, q, hq, ?_⟩
    exact h.swap.dropped hpq.symm hids hq hp rfl rfl hw hwp (by rw [hfirst, hatp])
  · refine ⟨l ++ l' ++ rest, h.perm, p, hp, ?_⟩
    exact h.dropped hpq hids hp hq rfl rfl hw hwq (by rw [hsecond, hatq])

/-! ## The whole claim -/

/-- **Deduplication, exactly**: whatever the order of the payloads, each condition id has one
candidate, the preferred one, which all its ids find, and the snapshot is the same; exactly where
every condition id has at most two market ids and a payload that is preferred over all others. -/
theorem deduplicated_iff (texts : GammaTexts) (now : Time) (payloads : List Payload)
    (hids : IdsApart texts (validPayloads texts now payloads))
    (hdumps : DumpsApart (validPayloads texts now payloads)) :
    (∀ reordered, reordered.Perm payloads →
      Deduplicated texts now payloads (buildSnapshot texts now reordered) ∧
      SameSnapshot (buildSnapshot texts now payloads) (buildSnapshot texts now reordered)) ↔
    Settled texts now payloads := by
  constructor
  · intro h c hc
    obtain ⟨hown, -⟩ := h payloads (List.Perm.refl payloads)
    obtain ⟨w, hw, -, -, -⟩ := hown.kept c hc
    refine ⟨?_, w, hw⟩
    -- Two ids beside that of the preferred payload would lose one of them in some order.
    have hnone : ∀ p ∈ ofCondition texts (validPayloads texts now payloads) c,
        ∀ q ∈ ofCondition texts (validPayloads texts now payloads) c,
          p.marketId texts ≠ q.marketId texts → w.marketId texts ≠ p.marketId texts →
            w.marketId texts ≠ q.marketId texts → False := by
      intro p hp q hq hpq hwp hwq
      obtain ⟨reordered, hperm, r, hr, hdropped⟩ :=
        exists_dropped hids hdumps hp hq hpq hw hwp hwq
      obtain ⟨best, -, -, -, hfound⟩ := (h reordered hperm).1.kept c hc
      rw [hfound r hr] at hdropped
      cases hdropped
    intro p hp q hq r hr
    by_contra hdistinct
    obtain ⟨hpq, hpr, hqr⟩ : p.marketId texts ≠ q.marketId texts ∧
        p.marketId texts ≠ r.marketId texts ∧ q.marketId texts ≠ r.marketId texts := by
      simpa [not_or] using hdistinct
    by_cases hwp : w.marketId texts = p.marketId texts
    · exact hnone q hq r hr hqr (hwp ▸ hpq) (hwp ▸ hpr)
    · by_cases hwq : w.marketId texts = q.marketId texts
      · exact hnone p hp r hr hpr hwp (hwq ▸ hqr)
      · exact hnone p hp q hq hpq hwp hwq
  · intro h reordered hperm
    have hs := deduplicated_of_settled hids h
    have hs' := (deduplicated_of_settled (hids.of_perm hperm) (h.of_perm hperm)).of_perm hperm
    exact ⟨hs', sameSnapshot hs hs'⟩

end Orders

namespace SnapshotOrderExamples

/-- A market of one condition id. -/
def market (id : String) (volume : ℤ) : Payload where
  fields := .ofFields [("id", .text id), ("conditionId", .text "0xc"), ("question", .text "Rain?"),
    ("endDate", .text "2030-01-01T00:00:00Z"), ("active", .bool true), ("closed", .bool false),
    ("acceptingOrders", .bool true), ("enableOrderBook", .bool true),
    ("clobTokenIds", .array [.text "7", .text "8"]),
    ("outcomes", .array [.text "Yes", .text "No"]), ("volumeNum", .int volume)]
  dumped := "\"mappingproxy(\x7b'id': '" ++ id ++
    "', 'conditionId': '0xc', 'question': 'Rain?', 'endDate': '2030-01-01T00:00:00Z', " ++
    "'active': True, 'closed': False, " ++
    "'acceptingOrders': True, 'enableOrderBook': True, 'clobTokenIds': ['7', '8'], " ++
    "'outcomes': ['Yes', 'No'], 'volumeNum': " ++ toString volume ++ "\x7d)\""

def pair : List Payload := [market "1" 10, market "2" 20]

def three : List Payload := [market "1" 10, market "2" 20, market "3" 30]

theorem mem_three {p : Payload} :
    p ∈ three ↔ p = market "1" 10 ∨ p = market "2" 20 ∨ p = market "3" 30 := by
  simp [three]

theorem valid_three {p : Payload} (h : p ∈ three) : isValidCandidate .plain 0 p = true := by
  rcases mem_three.mp h with rfl | rfl | rfl <;> decide +kernel

theorem condition_three {p : Payload} (h : p ∈ three) : p.conditionId .plain = "0xc" := by
  rcases mem_three.mp h with rfl | rfl | rfl <;> rfl

theorem dumps_three : DumpsApart three := by
  intro p hp q hq hdumped
  rcases mem_three.mp hp with rfl | rfl | rfl <;> rcases mem_three.mp hq with rfl | rfl | rfl <;>
    first
      | rfl
      | exact absurd hdumped (by decide)

theorem ids_three : IdsApart .plain three := by
  intro p hp q hq _
  rw [condition_three hp, condition_three hq]

theorem volume_three {p : Payload} (h : p ∈ three) : volumeScore .plain p ≠ .nan := by
  rcases mem_three.mp h with rfl | rfl | rfl <;> decide +kernel

theorem pair_subset : pair ⊆ three := by
  intro p hp
  simp only [pair, List.mem_cons, List.not_mem_nil, or_false] at hp
  rcases hp with rfl | rfl <;> simp [three]

theorem valid_eq {l : List Payload} (h : l ⊆ three) : validPayloads .plain 0 l = l :=
  List.filter_eq_self.mpr fun _ hp => valid_three (h hp)

/-- Two markets of one condition id are deduplicated in both orders. -/
theorem pair_deduplicated :
    Deduplicated .plain 0 pair (buildSnapshot .plain 0 pair.reverse) ∧
      SameSnapshot (buildSnapshot .plain 0 pair) (buildSnapshot .plain 0 pair.reverse) := by
  have hvalid := valid_eq pair_subset
  refine (deduplicated_iff .plain 0 pair ?_ ?_).mpr ?_ pair.reverse (List.reverse_perm pair)
  · rw [hvalid]
    exact fun p hp q hq => ids_three p (pair_subset hp) q (pair_subset hq)
  · rw [hvalid]
    exact fun p hp q hq => dumps_three p (pair_subset hp) q (pair_subset hq)
  · intro c hc
    have hmem : ∀ p ∈ ofCondition .plain (validPayloads .plain 0 pair) c,
        p = market "1" 10 ∨ p = market "2" 20 := by
      intro p hp
      have hpair := (mem_ofCondition.mp hp).1
      rw [hvalid] at hpair
      simpa [pair] using hpair
    have hthree : ∀ p ∈ ofCondition .plain (validPayloads .plain 0 pair) c, p ∈ three := by
      intro p hp
      rcases hmem p hp with rfl | rfl <;> simp [three]
    constructor
    · intro p hp q hq r hr
      rcases hmem p hp with rfl | rfl <;> rcases hmem q hq with rfl | rfl <;>
        rcases hmem r hr with rfl | rfl <;> simp
    · exact exists_preferred hc
        (fun p hp q hq => dumps_three p (hthree p hp) q (hthree q hq))
        fun p hp => volume_three (hthree p hp)

/-- Three markets of one condition id, each with more volume than the one before: the first id is
not found at all, although the snapshot has a candidate for its condition. -/
theorem first_of_three_dropped :
    IdsApart .plain (validPayloads .plain 0 three) ∧
    DumpsApart (validPayloads .plain 0 three) ∧
    ¬ Deduplicated .plain 0 three (buildSnapshot .plain 0 three) := by
  have hvalid := valid_eq (List.Subset.refl three)
  have hnone : (buildSnapshot .plain 0 three).byId.get? "1" = none := by
    have hdropped : ((buildSnapshot .plain 0 three).byId.get? "1").isNone = true := by
      decide +kernel
    simpa using hdropped
  rw [hvalid]
  refine ⟨ids_three, dumps_three, ?_⟩
  intro h
  have hmem : market "1" 10 ∈ ofCondition .plain (validPayloads .plain 0 three) "0xc" :=
    mem_ofCondition.mpr ⟨hvalid ▸ List.mem_cons_self, rfl⟩
  obtain ⟨best, -, -, -, hall⟩ := h.kept "0xc" (List.ne_nil_of_mem hmem)
  have hfound := hall _ hmem
  have hid : (market "1" 10).marketId .plain = "1" := rfl
  rw [hid, hnone] at hfound
  cases hfound

end SnapshotOrderExamples

end ArbitrageEngine.Gamma
