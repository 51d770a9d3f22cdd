/-
# ArbitrageEngine.Lib.SwitchQueue -- queued requests to switch keys on and off

A list of switches takes a set of keys to the set after them; of several switches of one key the
last one counts (`mem_after`).  A queue *settles on* a set if applying the queue to it changes
nothing: whatever the queue still holds for a key ends where the set has the key.  Two rules keep a
queue in step with a set that changes: what leads from the old set to the new one may be appended
(`after_append_of_settled`), and of a queue that leads to a set, a switch that does not end in the
set may be dropped from the front (`after_drop_superseded`).
-/
import Mathlib.Data.Finset.Basic
import Mathlib.Data.Finset.SDiff

namespace ArbitrageEngine.Lib.SwitchQueue

/-! ## Switches -/

/-- A request to switch a key on or off. -/
structure Switch (κ : Type) where
  on : Bool
  key : κ
deriving DecidableEq

variable {κ : Type} [DecidableEq κ]

/-- The set after one switch. -/
def Switch.act (s : Finset κ) (r : Switch κ) : Finset κ :=
  if r.on then insert r.key s else s.erase r.key

/-- The set after some switches, in order. -/
def after (s : Finset κ) (requests : List (Switch κ)) : Finset κ := requests.foldl Switch.act s

/-- The last switch of a key. -/
def lastFor (requests : List (Switch κ)) (key : κ) : Option Bool :=
  match requests with
  | [] => none
  | r :: rest => (lastFor rest key).or (if r.key = key then some r.on else none)

@[simp]
theorem after_nil (s : Finset κ) : after s [] = s := rfl

@[simp]
theorem after_cons (s : Finset κ) (r : Switch κ) (rest : List (Switch κ)) :
    after s (r :: rest) = after (r.act s) rest := rfl

theorem after_append (s : Finset κ) (first second : List (Switch κ)) :
    after s (first ++ second) = after (after s first) second := List.foldl_append

theorem mem_act {s : Finset κ} {r : Switch κ} {key : κ} :
    key ∈ r.act s ↔ if r.key = key then r.on = true else key ∈ s := by
  unfold Switch.act
  by_cases hon : r.on = true
  · rw [if_pos hon]
    by_cases hkey : r.key = key
    · simp [hkey, hon]
    · simp [hkey, Ne.symm hkey]
  · rw [if_neg hon]
    by_cases hkey : r.key = key
    · simp [hkey, hon]
    · simp [hkey, Ne.symm hkey]

/-- The last switch of a key decides, and without one the key stays as it was. -/
theorem mem_after {s : Finset κ} {requests : List (Switch κ)} {key : κ} :
    key ∈ after s requests ↔ (lastFor requests key).elim (key ∈ s) (· = true) := by
  induction requests generalizing s with
  | nil => simp [lastFor]
  | cons r rest ih =>
      rw [after_cons, ih, lastFor]
      cases lastFor rest key with
      | some on => simp
      | none =>
          rw [Option.none_or, Option.elim_none, mem_act]
          by_cases hkey : r.key = key <;> simp [hkey]

theorem mem_after_of_some {s : Finset κ} {requests : List (Switch κ)} {key : κ} {on : Bool}
    (h : lastFor requests key = some on) : key ∈ after s requests ↔ on = true := by
  rw [mem_after, h, Option.elim_some]

theorem mem_after_of_none {s : Finset κ} {requests : List (Switch κ)} {key : κ}
    (h : lastFor requests key = none) : key ∈ after s requests ↔ key ∈ s := by
  rw [mem_after, h, Option.elim_none]

/-- From the empty set, the keys that are on are those whose last switch was on. -/
theorem mem_after_empty {requests : List (Switch κ)} {key : κ} :
    key ∈ after ∅ requests ↔ lastFor requests key = some true := by
  cases h : lastFor requests key with
  | none => simp [mem_after_of_none h]
  | some on => simp [mem_after_of_some h]

/-! ## Many keys at once -/

/-- Switches of many keys the same way. -/
def all (on : Bool) (keys : List κ) : List (Switch κ) := keys.map (⟨on, ·⟩)

theorem lastFor_all {on : Bool} {keys : List κ} {key : κ} :
    lastFor (all on keys) key = if key ∈ keys then some on else none := by
  induction keys with
  | nil => rfl
  | cons first rest ih =>
      show (lastFor (all on rest) key).or (if first = key then some on else none) = _
      rw [ih]
      by_cases hrest : key ∈ rest
      · simp [hrest]
      · by_cases hfirst : first = key
        · subst hfirst
          simp [hrest]
        · simp [hrest, hfirst, Ne.symm hfirst]

theorem mem_after_on {s : Finset κ} {keys : List κ} {key : κ} :
    key ∈ after s (all true keys) ↔ key ∈ keys ∨ key ∈ s := by
  rw [mem_after, lastFor_all]
  by_cases hkey : key ∈ keys <;> simp [hkey]

theorem mem_after_off {s : Finset κ} {keys : List κ} {key : κ} :
    key ∈ after s (all false keys) ↔ key ∉ keys ∧ key ∈ s := by
  rw [mem_after, lastFor_all]
  by_cases hkey : key ∈ keys <;> simp [hkey]

/-- Keys that are on already may be switched on once more. -/
theorem after_on_of_subset {s : Finset κ} {keys : List κ} (h : ∀ key ∈ keys, key ∈ s) :
    after s (all true keys) = s := by
  ext key
  rw [mem_after_on]
  exact ⟨fun hkey => hkey.elim (h key) id, .inr⟩

/-- A set is reached from another by switching off what is missing and on what is new. -/
theorem after_off_on {s target : Finset κ} {removed added : List κ}
    (hremoved : ∀ key, key ∈ removed ↔ key ∈ s ∧ key ∉ target)
    (hadded : ∀ key, key ∈ added ↔ key ∈ target ∧ key ∉ s) :
    after s (all false removed ++ all true added) = target := by
  ext key
  rw [after_append, mem_after_on, mem_after_off, hremoved, hadded]
  by_cases hs : key ∈ s <;> by_cases ht : key ∈ target <;> simp [hs, ht]

/-! ## Queues that settle -/

/-- Requests applied twice do what they do once. -/
theorem after_after (s : Finset κ) (requests : List (Switch κ)) :
    after (after s requests) requests = after s requests := by
  ext key
  cases h : lastFor requests key with
  | none => rw [mem_after_of_none h]
  | some on => rw [mem_after_of_some h, mem_after_of_some h]

/-- A queue that settles on a set settles on the next one, once it has been appended what leads
from the one to the other. -/
theorem after_append_of_settled {s target : Finset κ} {queue requests : List (Switch κ)}
    (hqueue : after s queue = s) (hrequests : after s requests = target) :
    after target (queue ++ requests) = target := by
  ext key
  rw [after_append]
  cases hlast : lastFor requests key with
  | some on => rw [mem_after_of_some hlast, ← hrequests, mem_after_of_some hlast]
  | none =>
      have hsame : key ∈ target ↔ key ∈ s := by rw [← hrequests, mem_after_of_none hlast]
      rw [mem_after_of_none hlast, hsame]
      cases hold : lastFor queue key with
      | none => rw [mem_after_of_none hold, hsame]
      | some on => rw [mem_after_of_some hold, ← mem_after_of_some (s := s) hold, hqueue]

/-- If the key does not end up on, switching it on in front is superseded by the rest. -/
theorem after_drop_superseded {s : Finset κ} {key : κ} {rest : List (Switch κ)}
    (h : key ∉ after s (⟨true, key⟩ :: rest)) : after s (⟨true, key⟩ :: rest) = after s rest := by
  have hlast : lastFor rest key ≠ none := by
    intro hnone
    refine h ?_
    rw [after_cons, mem_after_of_none hnone, mem_act, if_pos rfl]
  obtain ⟨on, hon⟩ := Option.ne_none_iff_exists'.mp hlast
  ext other
  rw [after_cons]
  cases hother : lastFor rest other with
  | some _ => rw [mem_after_of_some hother, mem_after_of_some hother]
  | none =>
      have hne : key ≠ other := by
        rintro rfl
        rw [hon] at hother
        cases hother
      rw [mem_after_of_none hother, mem_after_of_none hother, mem_act, if_neg hne]

end ArbitrageEngine.Lib.SwitchQueue
