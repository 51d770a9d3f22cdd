/-
# ArbitrageEngine.Lib.Contest -- a champion for each group

Members enter one after the other.  The first of a group is its champion; each later one meets the
champion of that time, and the better of the two is champion from then on.  For every member it is
noted who won its last meeting.

The last note of a member is not the champion: who lost early points to a winner that may have lost
since, and that one's note points further.  Reading the notes once, in the order of entry, follows
one step of such a chain only.
-/
import ArbitrageEngine.Lib.Indexes
import Mathlib.Data.List.Induction

namespace ArbitrageEngine.Lib

/-- The champion of each group, and who won the last meeting of each member. -/
structure Contest (κ ι : Type) where
  champion : Dict κ ι := .empty
  wonBy : Dict ι ι := .empty

namespace Contest

variable {κ ι : Type} [DecidableEq κ] [DecidableEq ι]
variable (group : ι → κ) (winner : ι → ι → ι)

/-- A member enters. -/
def enter (s : Contest κ ι) (m : ι) : Contest κ ι :=
  match s.champion.get? (group m) with
  | none => ⟨s.champion.set (group m) m, s.wonBy.set m m⟩
  | some e =>
      ⟨s.champion.set (group m) (winner e m), (s.wonBy.set e (winner e m)).set m (winner e m)⟩

/-- All members enter. -/
def hold (l : List ι) : Contest κ ι := l.foldl (enter group winner) {}

variable {group winner}

theorem hold_append_singleton (l : List ι) (m : ι) :
    hold group winner (l ++ [m]) = (hold group winner l).enter group winner m := by
  simp [hold]

/-! ## What holds at any time -/

/-- What the notes say of those that have entered. -/
structure Sound (group : ι → κ) (seen : List ι) (s : Contest κ ι) : Prop where
  keys : s.wonBy.keys = seen
  taken : ∀ m ∈ seen, (s.champion.get? (group m)).isSome
  champion : ∀ {c e}, s.champion.get? c = some e →
    e ∈ seen ∧ group e = c ∧ s.wonBy.get? e = some e
  rival : ∀ {m x}, s.wonBy.get? m = some x → x ∈ seen ∧ group x = group m
  unbeaten : ∀ {m}, s.wonBy.get? m = some m → s.champion.get? (group m) = some m

theorem Sound.start : Sound group [] ({} : Contest κ ι) where
  keys := rfl
  taken := nofun
  champion := nofun
  rival := nofun
  unbeaten := nofun

/-- One of the two wins: what a meeting needs. -/
def Fair (winner : ι → ι → ι) (l : List ι) : Prop :=
  ∀ e ∈ l, ∀ m ∈ l, winner e m = e ∨ winner e m = m

/-- The first of a group. -/
theorem Sound.enter_first {seen : List ι} {s : Contest κ ι} (h : Sound group seen s) {m : ι}
    (hm : m ∉ seen) (hnone : s.champion.get? (group m) = none) :
    Sound group (seen ++ [m]) (s.enter group winner m) := by
  have hkey : m ∉ s.wonBy.keys := h.keys ▸ hm
  have henter : s.enter group winner m =
      ⟨s.champion.set (group m) m, s.wonBy.set m m⟩ := by
    simp [enter, hnone]
  have hother : ∀ x ∈ seen, group x ≠ group m := by
    intro x hx hgroup
    have htaken := h.taken x hx
    rw [hgroup, hnone] at htaken
    cases htaken
  have hne : ∀ x ∈ seen, x ≠ m := fun x hx heq => hm (heq ▸ hx)
  rw [henter]
  refine ⟨?_, ?_, ?_, ?_, ?_⟩
  · rw [Dict.keys_set_of_not_mem hkey, h.keys]
  · intro x hx
    rcases List.mem_append.mp hx with hx | hx
    · simpa [hother x hx] using h.taken x hx
    · rw [List.mem_singleton.mp hx]
      simp
  · intro c e hc
    by_cases hcm : c = group m
    · have he : m = e := by simpa [hcm] using hc
      subst he
      exact ⟨by simp, hcm.symm, by simp⟩
    · have hold : s.champion.get? c = some e := by simpa [hcm] using hc
      obtain ⟨he, hgroup, hwon⟩ := h.champion hold
      exact ⟨List.mem_append_left _ he, hgroup, by simpa [hne e he] using hwon⟩
  · intro x y hx
    by_cases hxm : x = m
    · have hy : m = y := by simpa [hxm] using hx
      subst hy
      exact ⟨by simp, by rw [hxm]⟩
    · have hold : s.wonBy.get? x = some y := by simpa [hxm] using hx
      obtain ⟨hy, hgroup⟩ := h.rival hold
      exact ⟨List.mem_append_left _ hy, hgroup⟩
  · intro x hx
    by_cases hxm : x = m
    · subst hxm
      simp
    · have hold : s.wonBy.get? x = some x := by simpa [hxm] using hx
      simpa [hother x (h.rival hold).1] using h.unbeaten hold

/-- A later one meets the champion. -/
theorem Sound.enter_later {seen : List ι} {s : Contest κ ι} (h : Sound group seen s) {m e : ι}
    (hm : m ∉ seen) (hsome : s.champion.get? (group m) = some e)
    (hwinner : winner e m = e ∨ winner e m = m) :
    Sound group (seen ++ [m]) (s.enter group winner m) := by
  obtain ⟨he, hgroup, -⟩ := h.champion hsome
  have hne : ∀ x ∈ seen, x ≠ m := fun x hx heq => hm (heq ▸ hx)
  have hem : e ≠ m := hne e he
  have henter : s.enter group winner m =
      ⟨s.champion.set (group m) (winner e m),
        (s.wonBy.set e (winner e m)).set m (winner e m)⟩ := by
    simp [enter, hsome]
  have hkeys : (s.wonBy.set e (winner e m)).keys = seen := by
    rw [Dict.keys_set_of_mem (h.keys ▸ he), h.keys]
  have hmem : winner e m ∈ seen ++ [m] := by
    rcases hwinner with hw | hw <;> simp [hw, he]
  have hsame : group (winner e m) = group m := by
    rcases hwinner with hw | hw <;> simp [hw, hgroup]
  rw [henter]
  refine ⟨?_, ?_, ?_, ?_, ?_⟩
  · rw [Dict.keys_set_of_not_mem (hkeys ▸ hm), hkeys]
  · intro x hx
    rcases List.mem_append.mp hx with hx | hx
    · by_cases hxm : group x = group m
      · simp [hxm]
      · simpa [hxm] using h.taken x hx
    · rw [List.mem_singleton.mp hx]
      simp
  · intro c y hc
    by_cases hcm : c = group m
    · have hy : winner e m = y := by simpa [hcm] using hc
      subst hy
      refine ⟨hmem, hsame.trans hcm.symm, ?_⟩
      rcases hwinner with hw | hw
      · simp [hw, hem]
      · simp [hw]
    · have hold : s.champion.get? c = some y := by simpa [hcm] using hc
      obtain ⟨hy, hgroupy, hwon⟩ := h.champion hold
      have hye : y ≠ e := by
        intro heq
        exact hcm (by rw [← hgroupy, heq, hgroup])
      exact ⟨List.mem_append_left _ hy, hgroupy, by simpa [hne y hy, hye] using hwon⟩
  · intro x y hx
    by_cases hxm : x = m
    · have hy : winner e m = y := by simpa [hxm] using hx
      rw [← hy, hxm]
      exact ⟨hmem, hsame⟩
    · by_cases hxe : x = e
      · have hy : winner e m = y := by simpa [hxm, hxe, hem] using hx
        rw [← hy, hxe, hgroup]
        exact ⟨hmem, hsame⟩
      · have hold : s.wonBy.get? x = some y := by simpa [hxm, hxe] using hx
        obtain ⟨hy, hgroupy⟩ := h.rival hold
        exact ⟨List.mem_append_left _ hy, hgroupy⟩
  · intro x hx
    by_cases hxm : x = m
    · have hw : winner e m = m := by simpa [hxm] using hx
      simp [hxm, hw]
    · by_cases hxe : x = e
      · have hw : winner e m = e := by simpa [hxm, hxe, hem] using hx
        simp [hxe, hw, hgroup]
      · have hold : s.wonBy.get? x = some x := by simpa [hxm, hxe] using hx
        have hchampion := h.unbeaten hold
        have hgroupx : group x ≠ group m := by
          intro heq
          rw [heq, hsome] at hchampion
          exact hxe (Option.some.inj hchampion).symm
        simpa [hgroupx] using hchampion

theorem Sound.enter {seen : List ι} {s : Contest κ ι} (h : Sound group seen s) {m : ι}
    (hm : m ∉ seen) (hwinner : ∀ e ∈ seen, winner e m = e ∨ winner e m = m) :
    Sound group (seen ++ [m]) (s.enter group winner m) := by
  cases hchampion : s.champion.get? (group m) with
  | none => exact h.enter_first hm hchampion
  | some e => exact h.enter_later hm hchampion (hwinner e (h.champion hchampion).1)

omit [DecidableEq ι] in
theorem Fair.of_append {l l' : List ι} (h : Fair winner (l ++ l')) : Fair winner l :=
  fun e he m hm => h e (List.mem_append_left _ he) m (List.mem_append_left _ hm)

theorem hold_sound {l : List ι} (hnodup : l.Nodup) (hfair : Fair winner l) :
    Sound group l (hold group winner l) := by
  induction l using List.reverseRecOn with
  | nil => exact .start
  | append_singleton l m ih =>
      obtain ⟨hl, -, hdisjoint⟩ := List.nodup_append.mp hnodup
      rw [hold_append_singleton]
      refine (ih hl hfair.of_append).enter (fun hm => hdisjoint m hm m (by simp) rfl) ?_
      intro e he
      exact hfair e (List.mem_append_left _ he) m (by simp)

/-! ## Who is champion -/

/-- A member that wins every meeting with its group. -/
def Beats (group : ι → κ) (winner : ι → ι → ι) (l : List ι) (w : ι) : Prop :=
  ∀ e ∈ l, group e = group w → winner e w = w ∧ winner w e = w

/-- **Who beats all is champion**, whenever it enters. -/
theorem champion_of_beats {l : List ι} (hnodup : l.Nodup) (hfair : Fair winner l) {w : ι}
    (hmem : w ∈ l) (hbeats : Beats group winner l w) :
    (hold group winner l).champion.get? (group w) = some w := by
  induction l using List.reverseRecOn with
  | nil => cases hmem
  | append_singleton l m ih =>
      obtain ⟨hl, -, hdisjoint⟩ := List.nodup_append.mp hnodup
      have hsound : Sound group l (Contest.hold group winner l) := hold_sound hl hfair.of_append
      have hold : ∀ e ∈ l, group e = group w → winner e w = w ∧ winner w e = w :=
        fun e he => hbeats e (List.mem_append_left _ he)
      rw [hold_append_singleton]
      by_cases hmw : m = w
      · subst hmw
        cases hchampion : (Contest.hold group winner l).champion.get? (group m) with
        | none => simp [enter, hchampion]
        | some e =>
            obtain ⟨he, hgroup, -⟩ := hsound.champion hchampion
            simp [enter, hchampion, (hold e he hgroup).1]
      · have hwl : w ∈ l := by
          rcases List.mem_append.mp hmem with hw | hw
          · exact hw
          · exact absurd (List.mem_singleton.mp hw).symm hmw
        have hchampion := ih hl hfair.of_append hwl hold
        by_cases hgroup : group m = group w
        · have hbeaten := (hbeats m (by simp) hgroup).2
          simp [enter, hgroup, hchampion, hbeaten]
        · unfold enter
          split
          · simpa [Ne.symm hgroup] using hchampion
          · simpa [Ne.symm hgroup] using hchampion

/-- Where only one other member is in the group, every note of it names the champion. -/
theorem wonBy_of_pair {l : List ι} {s : Contest κ ι} (h : Sound group l s) {w : ι}
    (hchampion : s.champion.get? (group w) = some w)
    (hpair : ∀ x ∈ l, ∀ y ∈ l, group x = group w → group y = group w → x ≠ w → y ≠ w → x = y)
    {m : ι} (hm : m ∈ l) (hgroup : group m = group w) : s.wonBy.get? m = some w := by
  have hkey : m ∈ s.wonBy.keys := h.keys ▸ hm
  obtain ⟨x, hx⟩ := Option.isSome_iff_exists.mp (Dict.mem_keys_iff.mp hkey)
  obtain ⟨hxl, hgroupx⟩ := h.rival hx
  by_cases hxw : x = w
  · rw [hx, hxw]
  · by_cases hmw : m = w
    · subst hmw
      exact (h.champion hchampion).2.2
    · have heq := hpair x hxl m hm (hgroupx.trans hgroup) hgroup hxw hmw
      subst heq
      have hself := h.unbeaten hx
      rw [hgroup, hchampion] at hself
      exact absurd (Option.some.inj hself).symm hxw

/-- **A note that points at a loser**: the first lost to the second, and stays noted so, whoever
beats the second later. -/
theorem wonBy_first {a b : ι} {rest : List ι} (hnodup : (a :: b :: rest).Nodup)
    (hfair : Fair winner (a :: b :: rest)) (hgroup : group a = group b) (hlost : winner a b = b) :
    (hold group winner (a :: b :: rest)).wonBy.get? a = some b := by
  have hab : a ≠ b := by
    intro heq
    simp [heq] at hnodup
  -- From the second entry on, the first member is not champion and its note is not touched.
  have hstay : (hold group winner (a :: b :: rest)).wonBy.get? a = some b ∧
      (hold group winner (a :: b :: rest)).champion.get? (group a) ≠ some a := by
    induction rest using List.reverseRecOn with
    | nil => simp [hold, enter, hgroup, hlost, hab, hab.symm]
    | append_singleton rest m ih =>
        have hlist : a :: b :: (rest ++ [m]) = (a :: b :: rest) ++ [m] := rfl
        rw [hlist] at hnodup hfair ⊢
        obtain ⟨hl, -, hdisjoint⟩ := List.nodup_append.mp hnodup
        have hma : a ≠ m := hdisjoint a (by simp) m (by simp)
        obtain ⟨hwon, hchampion⟩ := ih hl hfair.of_append
        have hsound : Sound group (a :: b :: rest) (hold group winner (a :: b :: rest)) :=
          hold_sound hl hfair.of_append
        rw [hold_append_singleton]
        cases hentry : (hold group winner (a :: b :: rest)).champion.get? (group m) with
        | none =>
            have hother : group a ≠ group m := by
              intro heq
              have htaken := hsound.taken a (by simp)
              rw [heq, hentry] at htaken
              cases htaken
            simpa [enter, hentry, hma, hother] using ⟨hwon, hchampion⟩
        | some e =>
            have hea : a ≠ e := by
              intro heq
              subst heq
              have hgroupa := (hsound.champion hentry).2.1
              exact hchampion (hgroupa ▸ hentry)
            refine ⟨by simpa [enter, hentry, hma, hea] using hwon, ?_⟩
            by_cases hother : group a = group m
            · rcases hfair e (List.mem_append_left _ (hsound.champion hentry).1) m (by simp) with
                hw | hw
              · simpa [enter, hentry, hother, hw] using hea.symm
              · simpa [enter, hentry, hother, hw] using hma.symm
            · simpa [enter, hentry, hother] using hchampion
  exact hstay.1

/-! ## Reading the notes once -/

variable {α : Type}

/-- `found[alias] = found[target]` for every note whose target is found, in their order. -/
def resolve (notes : List (ι × ι)) (found : Dict ι α) : Dict ι α :=
  notes.foldl
    (fun found note =>
      match found.get? note.2 with
      | none => found
      | some a => found.set note.1 a)
    found

/-- Who has no note keeps what is found. -/
theorem resolve_of_not_mem {m : ι} (notes : List (ι × ι)) :
    ∀ found : Dict ι α, m ∉ notes.map Prod.fst →
      (resolve notes found).get? m = found.get? m := by
  induction notes with
  | nil => intro found _; rfl
  | cons note rest ih =>
      intro found hm
      obtain ⟨hfirst, hrest⟩ := not_or.mp (mt List.mem_cons.mpr hm)
      rw [resolve, List.foldl_cons]
      split
      · exact ih found hrest
      · rw [← resolve, ih _ hrest, Dict.get?_set_of_ne _ hfirst]

/-- Where every target is found and is its own target, every note is resolved. -/
theorem resolve_of_fixed (notes : List (ι × ι)) :
    ∀ found : Dict ι α, (notes.map Prod.fst).Nodup →
      (∀ note ∈ notes, (found.get? note.2).isSome) →
      (∀ note ∈ notes, ∀ other ∈ notes, other.1 = note.2 → other.2 = note.2) →
      ∀ note ∈ notes, (resolve notes found).get? note.1 = found.get? note.2 := by
  induction notes with
  | nil => intro found _ _ _ note hnote; cases hnote
  | cons first rest ih =>
      intro found hnodup hfound hfixed note hnote
      obtain ⟨hfirst, hrest⟩ := List.nodup_cons.mp hnodup
      obtain ⟨a, ha⟩ := Option.isSome_iff_exists.mp (hfound first List.mem_cons_self)
      -- Writing the first note changes no target.
      have hkeep : ∀ other ∈ first :: rest,
          (found.set first.1 a).get? other.2 = found.get? other.2 := by
        intro other hother
        by_cases htarget : other.2 = first.1
        · have hself := hfixed other hother first List.mem_cons_self htarget.symm
          rw [htarget, Dict.get?_set_self, ← ha, hself, htarget]
        · exact Dict.get?_set_of_ne _ htarget a
      have hstep : resolve (first :: rest) found = resolve rest (found.set first.1 a) := by
        simp [resolve, ha]
      rw [hstep]
      rcases List.mem_cons.mp hnote with rfl | hnote
      · rw [resolve_of_not_mem rest _ hfirst, Dict.get?_set_self, ha]
      · rw [ih _ hrest ?_ ?_ note hnote, hkeep note (List.mem_cons_of_mem _ hnote)]
        · intro other hother
          rw [hkeep other (List.mem_cons_of_mem _ hother)]
          exact hfound other (List.mem_cons_of_mem _ hother)
        · intro other hother another hanother
          exact hfixed other (List.mem_cons_of_mem _ hother) another
            (List.mem_cons_of_mem _ hanother)

end Contest

end ArbitrageEngine.Lib
