/-
# ArbitrageEngine.Lib.Replay -- states rebuilt from a base and numbered messages

A receiver holds a state that was built from a full state, its base, by applying numbered messages.
`Replayed` says that no message is missing in between: the numbers that were applied are the one
after the base's position, the one after that, and so on.  A base without a position can be held as
it is, but nothing is known to follow it.

`Replayed.next` is the rule for one more message, and `Replayed.exists_gapless` reads the result:
every number between the positions of the base and of the state was applied.
-/
import Mathlib.Data.List.Basic
import Mathlib.Data.Int.Cast.Basic

namespace ArbitrageEngine.Lib.Replay

universe u v

variable {β : Type u} {μ : Type v}

/-! ## Consecutive numbers -/

/-- The numbers go on from a position one by one. -/
def Consecutive : Option ℤ → List (Option ℤ) → Prop
  | _, [] => True
  | some n, some m :: rest => m = n + 1 ∧ Consecutive (some m) rest
  | some _, none :: _ => False
  | none, _ :: _ => False

theorem Consecutive.exists_position {position : Option ℤ} {first : Option ℤ}
    {rest : List (Option ℤ)} (h : Consecutive position (first :: rest)) :
    ∃ n, position = some n ∧ first = some (n + 1) ∧ Consecutive (some (n + 1)) rest := by
  match position, first, h with
  | some n, some m, h =>
      obtain ⟨rfl, hrest⟩ := h
      exact ⟨n, rfl, rfl, hrest⟩

/-- Every number up to the length of the list is in it. -/
theorem Consecutive.mem {numbers : List (Option ℤ)} {n k : ℤ}
    (h : Consecutive (some n) numbers) (hlow : n < k) (hhigh : k ≤ n + numbers.length) :
    some k ∈ numbers := by
  induction numbers generalizing n with
  | nil =>
      rw [List.length_nil] at hhigh
      omega
  | cons first rest ih =>
      obtain ⟨n', hn, rfl, hrest⟩ := h.exists_position
      cases hn
      rw [List.length_cons] at hhigh
      by_cases hk : k = n + 1
      · rw [hk]
        exact List.mem_cons_self
      · apply List.mem_cons_of_mem
        apply ih hrest
        · omega
        · push_cast at hhigh
          omega

/-! ## Replayed states -/

variable (apply : β → μ → β) (position : β → Option ℤ) (number : μ → Option ℤ)

/-- The state is one of the bases with messages applied that continue it without a gap. -/
def Replayed (bases : List β) (messages : List μ) (state : β) : Prop :=
  ∃ base ∈ bases, ∃ applied : List μ, (∀ message ∈ applied, message ∈ messages)
    ∧ Consecutive (position base) (applied.map number) ∧ applied.foldl apply base = state

variable {apply position number} {bases bases' : List β} {messages messages' : List μ} {state : β}

/-- A base is rebuilt from itself. -/
theorem Replayed.base (h : state ∈ bases) : Replayed apply position number bases messages state :=
  ⟨state, h, [], by simp, trivial, rfl⟩

theorem Replayed.mono (h : Replayed apply position number bases messages state)
    (hbases : ∀ base ∈ bases, base ∈ bases') (hmessages : ∀ m ∈ messages, m ∈ messages') :
    Replayed apply position number bases' messages' state := by
  obtain ⟨base, hbase, applied, happlied, hnumbers, hfold⟩ := h
  exact ⟨base, hbases base hbase, applied, fun m hm => hmessages m (happlied m hm), hnumbers, hfold⟩

/-- A message that is applied leaves the state at its number. -/
def Positions (apply : β → μ → β) (position : β → Option ℤ) (number : μ → Option ℤ) : Prop :=
  ∀ state message k, number message = some k → position (apply state message) = some k

/-- The position after messages without a gap is their count past the base's. -/
theorem position_foldl (hpositions : Positions apply position number) {base : β} {n : ℤ}
    (hbase : position base = some n) {applied : List μ}
    (h : Consecutive (some n) (applied.map number)) :
    position (applied.foldl apply base) = some (n + applied.length) := by
  induction applied generalizing base n with
  | nil => simpa using hbase
  | cons message rest ih =>
      obtain ⟨n', hn, hnumber, hrest⟩ := Consecutive.exists_position h
      cases hn
      rw [List.foldl_cons, ih (hpositions base message _ hnumber) hrest, List.length_cons]
      congr 1
      push_cast
      omega

theorem Consecutive.concat {start : Option ℤ} {numbers : List (Option ℤ)} {n : ℤ}
    (h : Consecutive start numbers) (hstart : start = some n) :
    Consecutive start (numbers ++ [some (n + numbers.length + 1)]) := by
  induction numbers generalizing start n with
  | nil =>
      rw [hstart]
      exact ⟨by simp, trivial⟩
  | cons first rest ih =>
      obtain ⟨n', rfl, rfl, hrest⟩ := h.exists_position
      cases hstart
      refine ⟨rfl, ?_⟩
      have hlast := ih hrest rfl
      have hnumber : n + 1 + (rest.length : ℤ) + 1 = n + ((some (n + 1) :: rest).length : ℤ) + 1 := by
        rw [List.length_cons]
        push_cast
        omega
      rw [hnumber] at hlast
      exact hlast

/-- One more message with the next number. -/
theorem Replayed.next (hpositions : Positions apply position number)
    (h : Replayed apply position number bases messages state) {n : ℤ}
    (hposition : position state = some n) {message : μ} (hmem : message ∈ messages)
    (hnumber : number message = some (n + 1)) :
    Replayed apply position number bases messages (apply state message) := by
  obtain ⟨base, hbase, applied, happlied, hnumbers, rfl⟩ := h
  refine ⟨base, hbase, applied ++ [message], ?_, ?_, by rw [List.foldl_append]; rfl⟩
  · intro m hm
    rcases List.mem_append.mp hm with hold | hlast
    · exact happlied m hold
    · exact List.mem_singleton.mp hlast ▸ hmem
  · rw [List.map_append, List.map_singleton, hnumber]
    cases applied with
    | nil =>
        show Consecutive (position base) [some (n + 1)]
        rw [show position base = some n from hposition]
        exact ⟨rfl, trivial⟩
    | cons first rest =>
        -- The base has a position, since a message follows it.
        obtain ⟨b, hb, -, -⟩ := Consecutive.exists_position hnumbers
        have hlast : position ((first :: rest).foldl apply base)
            = some (b + (first :: rest).length) := by
          rw [hb] at hnumbers
          exact position_foldl hpositions hb hnumbers
        rw [hlast] at hposition
        cases hposition
        have hconcat := hnumbers.concat hb
        rwa [List.length_map] at hconcat

/-- Every number between the positions of the base and of the state was applied. -/
theorem Replayed.exists_gapless (hpositions : Positions apply position number)
    (h : Replayed apply position number bases messages state) :
    ∃ base ∈ bases, ∃ applied : List μ, (∀ message ∈ applied, message ∈ messages)
      ∧ Consecutive (position base) (applied.map number) ∧ applied.foldl apply base = state
      ∧ ∀ n m k, position base = some n → position state = some m → n < k → k ≤ m →
        ∃ message ∈ applied, number message = some k := by
  obtain ⟨base, hbase, applied, happlied, hnumbers, rfl⟩ := h
  refine ⟨base, hbase, applied, happlied, hnumbers, rfl, ?_⟩
  intro n m k hn hm hlow hhigh
  rw [hn] at hnumbers
  rw [position_foldl hpositions hn hnumbers] at hm
  cases hm
  have hmem := hnumbers.mem hlow (by rwa [List.length_map])
  exact List.mem_map.mp hmem

end ArbitrageEngine.Lib.Replay
