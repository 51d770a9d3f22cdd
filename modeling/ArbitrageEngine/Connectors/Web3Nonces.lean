/-
# ArbitrageEngine.Connectors.Web3Nonces -- the nonces of concurrent transactions

`AsyncNonceManager` hands out transaction nonces under a lock: from a local counter, or, after a
reset, from the pending count of the node together with a floor above every nonce that is reserved
or may have been broadcast.  `send_transaction` reserves a nonce while it builds the transaction,
marks it submitted after every attempt to broadcast, and otherwise releases it and resets the
counter.

The machine below interleaves any number of such calls with a node that accepts transactions and
answers counts.  Two transactions that were broadcast never share a nonce (`Safe`).  A nonce
that was given up is handed out again before any larger one as long as it still can be: the floor
must not be above it and the counter must have been reset (`InOrder`).
-/
import ArbitrageEngine.Lib.Dict
import ArbitrageEngine.Lib.Runs
import Mathlib.Data.Finset.Lattice.Fold
import Mathlib.Order.Lattice.Nat

namespace ArbitrageEngine.Connectors.Web3

open Lib (Dict)
open Lib.Runs

/-! ## The manager -/

/-- `AsyncNonceManager`. -/
structure AsyncNonceManager where
  nextNonce : Option ℕ := none
  reserved : Finset ℕ := ∅
  submitted : Dict ℕ String := Dict.empty

namespace AsyncNonceManager

/-- The nonces that are reserved or may have been broadcast. -/
def held (manager : AsyncNonceManager) : Finset ℕ :=
  manager.reserved ∪ manager.submitted.keys.toFinset

/-- `local_floor`: one above the largest held nonce. -/
def localFloor (manager : AsyncNonceManager) : ℕ := manager.held.sup (· + 1)

/-- The end of `next_nonce`: hand out `nonce` and count on. -/
def handOut (manager : AsyncNonceManager) (nonce : ℕ) : AsyncNonceManager :=
  { manager with nextNonce := some (nonce + 1), reserved := insert nonce manager.reserved }

/-- `mark_submitted`. -/
def markSubmitted (manager : AsyncNonceManager) (nonce : ℕ) (txHash : String) : AsyncNonceManager :=
  { manager with
    reserved := manager.reserved.erase nonce
    submitted := manager.submitted.set nonce txHash }

/-- `release`. -/
def release (manager : AsyncNonceManager) (nonce : ℕ) : AsyncNonceManager :=
  { manager with reserved := manager.reserved.erase nonce }

/-- `mark_finalized`. -/
def markFinalized (manager : AsyncNonceManager) (txHash : String) : AsyncNonceManager :=
  { manager with submitted := manager.submitted.filter fun entry => entry.2 ≠ txHash }

/-- `reset`. -/
def reset (manager : AsyncNonceManager) : AsyncNonceManager := { manager with nextNonce := none }

end AsyncNonceManager

/-! ## Calls of `send_transaction` -/

/-- Where a call is suspended; the nonce is the one it holds. -/
inductive Phase
  /-- Not called yet, or waiting for the latest block. -/
  | starting
  /-- Waiting for the lock in `next_nonce`. -/
  | reserving
  /-- Holding the lock while the node counts; the nonces the node had accepted at the request. -/
  | counting (acceptedAtRequest : Finset ℕ)
  /-- Waiting for the gas estimate. -/
  | estimating (nonce : ℕ)
  /-- Waiting for `send_raw_transaction`. -/
  | broadcasting (nonce : ℕ)
  /-- Waiting for the lock in `mark_submitted`; after a failure the counter is reset next. -/
  | marking (nonce : ℕ) (txHash : String) (failed : Bool)
  /-- Waiting for the lock in `release`. -/
  | releasing (nonce : ℕ)
  /-- Waiting for the lock in `reset`; `gaveUp` if the call held a nonce it did not broadcast. -/
  | resetting (gaveUp : Bool)
  | finished
deriving DecidableEq

/-- The manager, the calls by number, the node, and what has happened: the broadcasts with their
call and nonce, the nonces that were handed out and given up without a broadcast since, and every
hand-out with those that were given up then. -/
structure World where
  manager : AsyncNonceManager := {}
  phase : ℕ → Phase := fun _ => .starting
  locked : Bool := false
  accepted : Finset ℕ := ∅
  sent : List (ℕ × ℕ) := []
  givenUp : Finset ℕ := ∅
  handed : List (ℕ × Finset ℕ) := []

/-- What can happen next. -/
inductive Event
  /-- The latest block of a call is there, or cannot be read. -/
  | block (call : ℕ) (ok : Bool)
  /-- A call enters `next_nonce`. -/
  | enter (call : ℕ)
  /-- The node answers a count, or every endpoint fails. -/
  | count (call : ℕ) (pending : Option ℕ)
  /-- The gas estimate fails. -/
  | estimateFails (call : ℕ)
  /-- The estimate is there (or was given), but signing fails. -/
  | signFails (call : ℕ)
  /-- The transaction is signed and its broadcast begins. -/
  | broadcast (call : ℕ)
  /-- The broadcast returns a hash, or fails on every endpoint. -/
  | answered (call : ℕ) (txHash : Option String)
  /-- `mark_submitted`, `release` and `reset` of a call. -/
  | mark (call : ℕ)
  | release (call : ℕ)
  | reset (call : ℕ)
  /-- The node accepts a transaction with a nonce. -/
  | accept (nonce : ℕ)
  /-- A receipt with enough confirmations: `mark_finalized`. -/
  | finalize (txHash : String)

namespace World

/-- The transaction with the nonce is mined: all transactions up to it were accepted. -/
def Mined (accepted : Finset ℕ) (nonce : ℕ) : Prop := ∀ i ∈ Finset.range (nonce + 1), i ∈ accepted

instance (accepted : Finset ℕ) (nonce : ℕ) : Decidable (Mined accepted nonce) :=
  inferInstanceAs (Decidable (∀ i ∈ _, _))

/-- A call goes on to the next phase. -/
def go (w : World) (call : ℕ) (phase : Phase) : World :=
  { w with phase := Function.update w.phase call phase }

/-- A call is handed a nonce. -/
def handOut (w : World) (call nonce : ℕ) : World :=
  { w with
    manager := w.manager.handOut nonce
    phase := Function.update w.phase call (.estimating nonce)
    givenUp := w.givenUp.erase nonce
    handed := (nonce, w.givenUp) :: w.handed }

/-- `next_nonce` with the lock: hand out the counter, or ask the node. -/
def enterNextNonce (w : World) (call : ℕ) : World :=
  match w.manager.nextNonce with
  | some nonce => w.handOut call nonce
  | none => { w.go call (.counting w.accepted) with locked := true }

/-- One event, if it can happen. -/
def step (w : World) : Event → Option World
  | .block call ok =>
    if w.phase call = .starting then
      some (w.go call (if ok then .reserving else .resetting false))
    else none
  | .enter call =>
    if w.phase call = .reserving ∧ w.locked = false then some (w.enterNextNonce call) else none
  | .count call answer =>
    match w.phase call with
    | .counting acceptedAtRequest =>
      match answer with
      | some pending =>
        -- the count is at least the number of contiguous transactions the node had accepted
        if Mined acceptedAtRequest pending then none
        else
          some { w.handOut call (max pending w.manager.localFloor) with locked := false }
      | none => some { w.go call (.resetting false) with locked := false }
    | _ => none
  | .estimateFails call =>
    match w.phase call with
    -- the caller does not know the nonce yet, so it stays reserved
    | .estimating nonce =>
      some { w.go call (.resetting true) with givenUp := insert nonce w.givenUp }
    | _ => none
  | .signFails call =>
    match w.phase call with
    | .estimating nonce => some (w.go call (.releasing nonce))
    | _ => none
  | .broadcast call =>
    match w.phase call with
    | .estimating nonce =>
      some { w.go call (.broadcasting nonce) with sent := (call, nonce) :: w.sent }
    | _ => none
  | .answered call txHash =>
    match w.phase call with
    | .broadcasting nonce =>
      some (w.go call
        (match txHash with
        | some txHash => .marking nonce txHash false
        | none => .marking nonce ("unknown:" ++ toString nonce) true))
    | _ => none
  | .mark call =>
    match w.phase call with
    | .marking nonce txHash failed =>
      if w.locked then none
      else
        some { w.go call (if failed then .resetting false else .finished) with
          manager := w.manager.markSubmitted nonce txHash }
    | _ => none
  | .release call =>
    match w.phase call with
    | .releasing nonce =>
      if w.locked then none
      else
        some { w.go call (.resetting true) with
          manager := w.manager.release nonce
          givenUp := insert nonce w.givenUp }
    | _ => none
  | .reset call =>
    match w.phase call with
    | .resetting _ =>
      if w.locked then none
      else some { w.go call .finished with manager := w.manager.reset }
    | _ => none
  | .accept nonce => some { w with accepted := insert nonce w.accepted }
  | .finalize txHash =>
    -- a receipt is only given for a mined transaction
    if w.locked = false ∧ ∀ entry ∈ w.manager.submitted.entries,
        entry.2 = txHash → Mined w.accepted entry.1 then
      some { w with manager := w.manager.markFinalized txHash }
    else none

end World

/-! ## Held nonces -/

namespace AsyncNonceManager

variable {manager : AsyncNonceManager} {n nonce : ℕ} {txHash : String}

theorem mem_held : n ∈ manager.held ↔ n ∈ manager.reserved ∨ n ∈ manager.submitted.keys := by
  simp [held]

/-- A held nonce is below the floor. -/
theorem lt_localFloor (h : n ∈ manager.held) : n < manager.localFloor :=
  Nat.lt_of_succ_le (Finset.le_sup (f := (· + 1)) h)

/-- The floor is not above what all held nonces are below. -/
theorem localFloor_le {k : ℕ} : manager.localFloor ≤ k ↔ ∀ n ∈ manager.held, n < k :=
  Finset.sup_le_iff

theorem held_handOut : (manager.handOut nonce).held = insert nonce manager.held := by
  simp [held, handOut, Finset.insert_union]

/-- Marking a nonce as submitted keeps every held nonce held. -/
theorem held_markSubmitted (h : n ∈ manager.held) : n ∈ (manager.markSubmitted nonce txHash).held := by
  rw [mem_held] at h ⊢
  simp only [markSubmitted, Finset.mem_erase, Dict.mem_keys_iff, Dict.get?_set]
  rw [Dict.mem_keys_iff] at h
  by_cases hn : n = nonce
  · simp [hn]
  · rcases h with h | h
    · exact .inl ⟨hn, h⟩
    · right
      split
      · rfl
      · exact h

theorem held_markSubmitted_subset (h : n ∈ (manager.markSubmitted nonce txHash).held)
    (hnonce : nonce ∈ manager.held) : n ∈ manager.held := by
  rw [mem_held] at h
  simp only [markSubmitted, Finset.mem_erase, Dict.mem_keys_iff, Dict.get?_set] at h
  rcases h with h | h
  · exact mem_held.mpr (.inl h.2)
  · split at h
    · next heq => exact heq ▸ hnonce
    · exact mem_held.mpr (.inr (Dict.mem_keys_iff.mpr h))

/-- Releasing a nonce takes no other nonce out. -/
theorem held_release (h : n ∈ manager.held) (hne : n ≠ nonce) : n ∈ (manager.release nonce).held := by
  rw [mem_held] at h ⊢
  exact h.imp (fun h => Finset.mem_erase.mpr ⟨hne, h⟩) id

theorem held_release_subset (h : n ∈ (manager.release nonce).held) : n ∈ manager.held := by
  rw [mem_held] at h ⊢
  exact h.imp (fun h => Finset.mem_of_mem_erase h) id

/-- A final receipt takes out the nonces under its hash only. -/
theorem held_markFinalized (h : n ∈ manager.held) :
    n ∈ (manager.markFinalized txHash).held ∨ (n, txHash) ∈ manager.submitted.entries := by
  rw [mem_held] at h ⊢
  rcases h with h | h
  · exact .inl (.inl h)
  · obtain ⟨value, hvalue⟩ := Option.isSome_iff_exists.mp (Dict.mem_keys_iff.mp h)
    by_cases heq : value = txHash
    · exact .inr (Dict.get?_eq_some_iff.mp (heq ▸ hvalue))
    · refine .inl (.inr (Dict.mem_keys_iff.mpr ?_))
      simp [markFinalized, Dict.get?_filter, hvalue, heq]

theorem held_markFinalized_subset (h : n ∈ (manager.markFinalized txHash).held) :
    n ∈ manager.held := by
  rw [mem_held] at h ⊢
  refine h.imp id fun h => ?_
  rw [Dict.mem_keys_iff] at h ⊢
  simp only [markFinalized, Dict.get?_filter] at h
  exact Option.isSome_of_isSome_filter _ _ h

end AsyncNonceManager

/-! ## No nonce is broadcast twice -/

/-- The nonce a call holds. -/
def Phase.nonce? : Phase → Option ℕ
  | .estimating nonce | .broadcasting nonce | .marking nonce _ _ | .releasing nonce => some nonce
  | _ => none

/-- The nonce a call holds that no transaction was broadcast with. -/
def Phase.unsent? : Phase → Option ℕ
  | .estimating nonce | .releasing nonce => some nonce
  | _ => none

/-- What keeps broadcast nonces apart.  The counter is above every nonce that is held or was
broadcast; a broadcast nonce that is no longer held is mined, so the next count is above it. -/
structure Safe (manager : AsyncNonceManager) (phase : ℕ → Phase) (locked : Bool)
    (accepted : Finset ℕ) (sent : List (ℕ × ℕ)) : Prop where
  reserved : ∀ call n, (phase call).nonce? = some n → n ∈ manager.reserved
  distinct : ∀ call call' n, (phase call).nonce? = some n → (phase call').nonce? = some n →
    call = call'
  unsent : ∀ call n, (phase call).unsent? = some n → ∀ e ∈ sent, e.2 ≠ n
  covered : ∀ e ∈ sent, e.2 ∈ manager.held ∨ World.Mined accepted e.2
  counter : ∀ k, manager.nextNonce = some k →
    (∀ n ∈ manager.held, n < k) ∧ ∀ e ∈ sent, e.2 < k
  counting : ∀ call A, phase call = .counting A → manager.nextNonce = none ∧ locked = true ∧
    (∀ call' A', phase call' = .counting A' → call' = call) ∧
    ∀ e ∈ sent, e.2 ∈ manager.held ∨ World.Mined A e.2
  nodup : (sent.map Prod.snd).Nodup

section

variable {manager : AsyncNonceManager} {phase : ℕ → Phase} {locked : Bool} {accepted : Finset ℕ}
  {sent : List (ℕ × ℕ)} {call nonce : ℕ} {p : Phase}

theorem update_eq_or (phase : ℕ → Phase) (call call' : ℕ) (p : Phase) :
    (call' = call ∧ Function.update phase call p call' = p) ∨
      (call' ≠ call ∧ Function.update phase call p call' = phase call') := by
  by_cases h : call' = call
  · exact .inl ⟨h, by rw [h, Function.update_self]⟩
  · exact .inr ⟨h, Function.update_of_ne h _ _⟩

/-- A call that gets no new nonce and does not ask the node keeps the invariant; it may have freed
the lock. -/
theorem Safe.go (h : Safe manager phase locked accepted sent) (call : ℕ) (p : Phase)
    (hnonce : ∀ n, p.nonce? = some n → (phase call).nonce? = some n)
    (hunsent : ∀ n, p.unsent? = some n → (phase call).unsent? = some n)
    (hcounting : ∀ A, p ≠ .counting A) {locked' : Bool}
    (hlock : locked' = locked ∨ ∃ A, phase call = .counting A) :
    Safe manager (Function.update phase call p) locked' accepted sent where
  reserved := by
    intro call' n hn
    rcases update_eq_or phase call call' p with ⟨rfl, heq⟩ | ⟨-, heq⟩
    · exact h.reserved _ n (hnonce n (heq ▸ hn))
    · exact h.reserved call' n (heq ▸ hn)
  distinct := by
    intro c c' n hc hc'
    have hold : ∀ c, ((Function.update phase call p) c).nonce? = some n →
        (phase c).nonce? = some n := by
      intro c hc
      rcases update_eq_or phase call c p with ⟨rfl, heq⟩ | ⟨-, heq⟩
      · exact hnonce n (heq ▸ hc)
      · exact heq ▸ hc
    exact h.distinct c c' n (hold c hc) (hold c' hc')
  unsent := by
    intro call' n hn
    rcases update_eq_or phase call call' p with ⟨rfl, heq⟩ | ⟨-, heq⟩
    · exact h.unsent _ n (hunsent n (heq ▸ hn))
    · exact h.unsent call' n (heq ▸ hn)
  covered := h.covered
  counter := h.counter
  counting := by
    intro call' A hA
    rcases update_eq_or phase call call' p with ⟨rfl, heq⟩ | ⟨hne, heq⟩
    · exact absurd (heq ▸ hA) (hcounting A)
    · obtain ⟨hnext, hlocked, hunique, hmined⟩ := h.counting call' A (heq ▸ hA)
      refine ⟨hnext, ?_, ?_, hmined⟩
      · rcases hlock with rfl | ⟨A', hA'⟩
        · exact hlocked
        · exact absurd (hunique call A' hA').symm hne
      · intro c A' hc
        rcases update_eq_or phase call c p with ⟨rfl, heq'⟩ | ⟨-, heq'⟩
        · exact absurd (heq' ▸ hc) (hcounting A')
        · exact hunique c A' (heq' ▸ hc)
  nodup := h.nodup

/-- When a call lets go of its nonce, no other call holds it. -/
theorem Safe.holds_other (h : Safe manager phase locked accepted sent)
    (hold : (phase call).nonce? = some nonce) (hdrops : ∀ n, p.nonce? ≠ some n) {c n : ℕ}
    (hn : (Function.update phase call p c).nonce? = some n) : n ≠ nonce := by
  rintro rfl
  rcases update_eq_or phase call c p with ⟨-, heq⟩ | ⟨hne, heq⟩
  · exact hdrops n (heq ▸ hn)
  · exact hne (h.distinct c call n (heq ▸ hn) hold)

/-- A nonce above everything that is held or was broadcast may be handed out. -/
theorem Safe.handOut (h : Safe manager phase locked accepted sent)
    (hheld : ∀ n ∈ manager.held, n < nonce) (hsent : ∀ e ∈ sent, e.2 < nonce)
    (hfree : ∀ call' A, phase call' = .counting A → call' = call) :
    Safe (manager.handOut nonce) (Function.update phase call (.estimating nonce)) false accepted
      sent where
  reserved := by
    intro call' n hn
    rcases update_eq_or phase call call' (.estimating nonce) with ⟨-, heq⟩ | ⟨-, heq⟩
    · rw [heq] at hn
      cases hn
      exact Finset.mem_insert_self _ _
    · exact Finset.mem_insert_of_mem (h.reserved call' n (heq ▸ hn))
  distinct := by
    have hnew : ∀ c, (phase c).nonce? ≠ some nonce := by
      intro c hc
      exact lt_irrefl _ (hheld _ (AsyncNonceManager.mem_held.mpr (.inl (h.reserved c nonce hc))))
    intro c c' n hc hc'
    rcases update_eq_or phase call c (.estimating nonce) with ⟨hcall, heq⟩ | ⟨-, heq⟩ <;>
      rcases update_eq_or phase call c' (.estimating nonce) with ⟨hcall', heq'⟩ | ⟨-, heq'⟩
    · exact hcall.trans hcall'.symm
    · rw [heq] at hc
      cases hc
      exact absurd (heq' ▸ hc') (hnew c')
    · rw [heq'] at hc'
      cases hc'
      exact absurd (heq ▸ hc) (hnew c)
    · exact h.distinct c c' n (heq ▸ hc) (heq' ▸ hc')
  unsent := by
    intro call' n hn e he
    rcases update_eq_or phase call call' (.estimating nonce) with ⟨-, heq⟩ | ⟨-, heq⟩
    · rw [heq] at hn
      cases hn
      exact (hsent e he).ne
    · exact h.unsent call' n (heq ▸ hn) e he
  covered := by
    intro e he
    rw [AsyncNonceManager.held_handOut]
    exact (h.covered e he).imp (fun h => Finset.mem_insert_of_mem h) id
  counter := by
    intro k hk
    cases hk
    rw [AsyncNonceManager.held_handOut]
    constructor
    · intro n hn
      rcases Finset.mem_insert.mp hn with rfl | hn
      · omega
      · have := hheld n hn
        omega
    · intro e he
      have := hsent e he
      omega
  counting := by
    intro call' A hA
    rcases update_eq_or phase call call' (.estimating nonce) with ⟨-, heq⟩ | ⟨hne, heq⟩
    · rw [heq] at hA
      cases hA
    · exact absurd (hfree call' A (heq ▸ hA)) hne
  nodup := h.nodup

/-- The broadcast begins. -/
theorem Safe.broadcast (h : Safe manager phase locked accepted sent)
    (hphase : phase call = .estimating nonce) :
    Safe manager (Function.update phase call (.broadcasting nonce)) locked accepted
      ((call, nonce) :: sent) := by
  have hold : (phase call).nonce? = some nonce := by rw [hphase]; rfl
  have hheld : nonce ∈ manager.held :=
    AsyncNonceManager.mem_held.mpr (.inl (h.reserved call nonce hold))
  have hfresh : ∀ e ∈ sent, e.2 ≠ nonce := h.unsent call nonce (by rw [hphase]; rfl)
  have hgo := h.go call (.broadcasting nonce)
    (fun n hn => hn ▸ hold) (fun n hn => by cases hn) (fun A hA => by cases hA) (.inl rfl)
  refine { hgo with unsent := ?_, covered := ?_, counter := ?_, counting := ?_, nodup := ?_ }
  · intro call' n hn e he
    rcases List.mem_cons.mp he with rfl | he
    · -- another call that holds the nonce would be this one, which broadcasts it
      rintro rfl
      rcases update_eq_or phase call call' (.broadcasting nonce) with ⟨-, heq⟩ | ⟨hne, heq⟩
      · rw [heq] at hn
        cases hn
      · rw [heq] at hn
        have hn' : (phase call').nonce? = some nonce := by
          cases hphase' : phase call' <;> rw [hphase'] at hn <;> cases hn <;> rfl
        exact hne (h.distinct call' call nonce hn' hold)
    · exact hgo.unsent call' n hn e he
  · intro e he
    rcases List.mem_cons.mp he with rfl | he
    · exact .inl hheld
    · exact h.covered e he
  · intro k hk
    obtain ⟨hbelow, hsent⟩ := h.counter k hk
    refine ⟨hbelow, fun e he => ?_⟩
    rcases List.mem_cons.mp he with rfl | he
    · exact hbelow nonce hheld
    · exact hsent e he
  · intro call' A hA
    obtain ⟨hnext, hlocked, hunique, hmined⟩ := hgo.counting call' A hA
    refine ⟨hnext, hlocked, hunique, fun e he => ?_⟩
    rcases List.mem_cons.mp he with rfl | he
    · exact .inl hheld
    · exact hmined e he
  · rw [List.map_cons, List.nodup_cons]
    refine ⟨fun hmem => ?_, h.nodup⟩
    obtain ⟨e, he, heq⟩ := List.mem_map.mp hmem
    exact hfresh e he heq

/-- The manager changes while nobody counts: nothing that is reserved by a call is dropped, nothing
new is held, and what is dropped was never broadcast or is mined. -/
theorem Safe.manage (h : Safe manager phase false accepted sent) (manager' : AsyncNonceManager)
    (hreserved : ∀ c n, (phase c).nonce? = some n → n ∈ manager'.reserved)
    (hheld : ∀ n ∈ manager.held, n ∈ manager'.held ∨ (∀ e ∈ sent, e.2 ≠ n) ∨
      World.Mined accepted n)
    (hsubset : ∀ n ∈ manager'.held, n ∈ manager.held)
    (hnext : manager'.nextNonce = manager.nextNonce ∨ manager'.nextNonce = none) :
    Safe manager' phase false accepted sent where
  reserved := hreserved
  distinct := h.distinct
  unsent := h.unsent
  covered := by
    intro e he
    rcases h.covered e he with hin | hmined
    · rcases hheld e.2 hin with hin | hnever | hmined
      · exact .inl hin
      · exact absurd rfl (hnever e he)
      · exact .inr hmined
    · exact .inr hmined
  counter := by
    intro k hk
    rcases hnext with heq | heq
    · obtain ⟨hbelow, hsent⟩ := h.counter k (heq ▸ hk)
      exact ⟨fun n hn => hbelow n (hsubset n hn), hsent⟩
    · rw [heq] at hk
      cases hk
  counting := by
    intro call A hA
    cases (h.counting call A hA).2.1
  nodup := h.nodup

/-- The node accepts a transaction. -/
theorem Safe.accept (h : Safe manager phase locked accepted sent) :
    Safe manager phase locked (insert nonce accepted) sent :=
  { h with covered := fun e he => (h.covered e he).imp id fun hmined i hi =>
      Finset.mem_insert_of_mem (hmined i hi) }

/-- The node is asked for its count. -/
theorem Safe.ask (h : Safe manager phase false accepted sent)
    (hnext : manager.nextNonce = none) :
    Safe manager (Function.update phase call (.counting accepted)) true accepted sent := by
  have hnobody : ∀ c A, phase c ≠ .counting A := fun c A hA => by
    cases (h.counting c A hA).2.1
  refine { h with reserved := ?_, distinct := ?_, unsent := ?_, counting := ?_ }
  · intro c n hn
    rcases update_eq_or phase call c (.counting accepted) with ⟨-, heq⟩ | ⟨-, heq⟩
    · rw [heq] at hn
      cases hn
    · exact h.reserved c n (heq ▸ hn)
  · intro c c' n hc hc'
    rcases update_eq_or phase call c (.counting accepted) with ⟨-, heq⟩ | ⟨-, heq⟩
    · rw [heq] at hc
      cases hc
    rcases update_eq_or phase call c' (.counting accepted) with ⟨-, heq'⟩ | ⟨-, heq'⟩
    · rw [heq'] at hc'
      cases hc'
    exact h.distinct c c' n (heq ▸ hc) (heq' ▸ hc')
  · intro c n hn
    rcases update_eq_or phase call c (.counting accepted) with ⟨-, heq⟩ | ⟨-, heq⟩
    · rw [heq] at hn
      cases hn
    · exact h.unsent c n (heq ▸ hn)
  · intro c A hA
    rcases update_eq_or phase call c (.counting accepted) with ⟨hc, heq⟩ | ⟨-, heq⟩
    · rw [heq] at hA
      cases hA
      refine ⟨hnext, rfl, ?_, h.covered⟩
      intro c' A' hA'
      rcases update_eq_or phase call c' (.counting accepted) with ⟨hc', -⟩ | ⟨-, heq'⟩
      · exact hc'.trans hc.symm
      · exact absurd (heq' ▸ hA') (hnobody c' A')
    · exact absurd (heq ▸ hA) (hnobody c A)

end

/-- The invariant of a world. -/
def World.IsSafe (w : World) : Prop := Safe w.manager w.phase w.locked w.accepted w.sent

theorem World.isSafe_start (accepted : Finset ℕ) : World.IsSafe { accepted := accepted } where
  reserved := fun _ _ h => by cases h
  distinct := fun _ _ _ h => by cases h
  unsent := fun _ _ h => by cases h
  covered := fun _ h => by cases h
  counter := fun _ h => by cases h
  counting := fun _ _ h => by cases h
  nodup := List.nodup_nil

/-- An event keeps the invariant. -/
theorem World.step_safe {w w' : World} {event : Event} (h : w.IsSafe)
    (hstep : w.step event = some w') : w'.IsSafe := by
  cases event with
  | block call ok =>
    simp only [World.step, Option.ite_none_right_eq_some] at hstep
    obtain ⟨-, hstep⟩ := hstep
    cases hstep
    cases ok
    · exact h.go _ _ (fun n hn => by cases hn) (fun n hn => by cases hn) (fun A hA => by cases hA)
        (.inl rfl)
    · exact h.go _ _ (fun n hn => by cases hn) (fun n hn => by cases hn) (fun A hA => by cases hA)
        (.inl rfl)
  | enter call =>
    simp only [World.step, Option.ite_none_right_eq_some] at hstep
    obtain ⟨⟨-, hunlocked⟩, hstep⟩ := hstep
    have hfree : ∀ c A, w.phase c = .counting A → c = call := fun c A hA => by
      have hlocked := (h.counting c A hA).2.1
      rw [hunlocked] at hlocked
      cases hlocked
    unfold World.enterNextNonce at hstep
    split at hstep
    · next nonce hnext =>
      cases hstep
      obtain ⟨hheld, hsent⟩ := h.counter nonce hnext
      have hnew := h.handOut hheld hsent hfree
      rw [← hunlocked] at hnew
      exact hnew
    · next hnext =>
      cases hstep
      unfold World.IsSafe at h
      rw [hunlocked] at h
      exact h.ask hnext
  | count call answer =>
    simp only [World.step] at hstep
    split at hstep
    · next A hphase =>
      obtain ⟨-, -, hunique, hmined⟩ := h.counting call A hphase
      split at hstep
      · next pending =>
        split at hstep
        · cases hstep
        · next hpending =>
          cases hstep
          refine h.handOut ?_ ?_ hunique
          · intro n hn
            exact lt_max_of_lt_right (AsyncNonceManager.lt_localFloor hn)
          · intro e he
            rcases hmined e he with hheld | hin
            · exact lt_max_of_lt_right (AsyncNonceManager.lt_localFloor hheld)
            · -- a mined transaction is counted
              refine lt_max_of_lt_left (Nat.lt_of_not_le fun hle => hpending ?_)
              intro i hi
              rw [Finset.mem_range] at hi
              exact hin i (Finset.mem_range.mpr (by omega))
      · cases hstep
        exact h.go _ _ (fun n hn => by cases hn) (fun n hn => by cases hn)
          (fun A hA => by cases hA) (.inr ⟨A, hphase⟩)
    · cases hstep
  | estimateFails call =>
    simp only [World.step] at hstep
    split at hstep
    · cases hstep
      exact h.go _ _ (fun n hn => by cases hn) (fun n hn => by cases hn) (fun A hA => by cases hA)
        (.inl rfl)
    · cases hstep
  | signFails call =>
    simp only [World.step] at hstep
    split at hstep
    · next nonce hphase =>
      cases hstep
      exact h.go _ _ (fun n hn => by rw [hphase]; exact hn) (fun n hn => by rw [hphase]; exact hn)
        (fun A hA => by cases hA) (.inl rfl)
    · cases hstep
  | broadcast call =>
    simp only [World.step] at hstep
    split at hstep
    · next nonce hphase =>
      cases hstep
      exact h.broadcast hphase
    · cases hstep
  | answered call txHash =>
    simp only [World.step] at hstep
    split at hstep
    · next nonce hphase =>
      cases hstep
      cases txHash with
      | some txHash =>
        exact h.go _ _ (fun n hn => by rw [hphase]; exact hn) (fun n hn => by cases hn)
          (fun A hA => by cases hA) (.inl rfl)
      | none =>
        exact h.go _ _ (fun n hn => by rw [hphase]; exact hn) (fun n hn => by cases hn)
          (fun A hA => by cases hA) (.inl rfl)
    · cases hstep
  | mark call =>
    simp only [World.step] at hstep
    split at hstep
    · next nonce txHash failed hphase =>
      split at hstep
      · cases hstep
      · next hunlocked =>
        cases hstep
        unfold World.IsSafe at h
        rw [Bool.not_eq_true] at hunlocked
        rw [hunlocked] at h
        have hold : (w.phase call).nonce? = some nonce := by rw [hphase]; rfl
        have hheld : nonce ∈ w.manager.held :=
          AsyncNonceManager.mem_held.mpr (.inl (h.reserved call nonce hold))
        have hdrops : ∀ n, (if failed then Phase.resetting false else .finished).nonce? ≠ some n := by
          intro n hn
          cases failed <;> cases hn
        have hgo := h.go call (if failed then .resetting false else .finished)
          (fun n hn => absurd hn (hdrops n)) (fun n hn => by cases failed <;> cases hn)
          (fun A hA => by cases failed <;> cases hA) (.inl rfl)
        have hkept := hgo.manage (w.manager.markSubmitted nonce txHash)
          (fun c n hn => Finset.mem_erase.mpr
            ⟨h.holds_other hold hdrops hn, hgo.reserved c n hn⟩)
          (fun n hn => .inl (AsyncNonceManager.held_markSubmitted hn))
          (fun n hn => AsyncNonceManager.held_markSubmitted_subset hn hheld) (.inl rfl)
        show Safe _ _ w.locked _ _
        rw [hunlocked]
        exact hkept
    · cases hstep
  | release call =>
    simp only [World.step] at hstep
    split at hstep
    · next nonce hphase =>
      split at hstep
      · cases hstep
      · next hunlocked =>
        cases hstep
        unfold World.IsSafe at h
        rw [Bool.not_eq_true] at hunlocked
        rw [hunlocked] at h
        have hold : (w.phase call).nonce? = some nonce := by rw [hphase]; rfl
        have hnever : ∀ e ∈ w.sent, e.2 ≠ nonce := h.unsent call nonce (by rw [hphase]; rfl)
        have hdrops : ∀ n, (Phase.resetting true).nonce? ≠ some n := by
          intro n hn
          cases hn
        have hgo := h.go call (.resetting true)
          (fun n hn => absurd hn (hdrops n)) (fun n hn => by cases hn)
          (fun A hA => by cases hA) (.inl rfl)
        have hkept := hgo.manage (w.manager.release nonce)
          (fun c n hn => Finset.mem_erase.mpr
            ⟨h.holds_other hold hdrops hn, hgo.reserved c n hn⟩)
          (fun n hn => by
            by_cases heq : n = nonce
            · exact .inr (.inl (heq ▸ hnever))
            · exact .inl (AsyncNonceManager.held_release hn heq))
          (fun n hn => AsyncNonceManager.held_release_subset hn) (.inl rfl)
        rw [← hunlocked] at hkept
        exact hkept
    · cases hstep
  | reset call =>
    simp only [World.step] at hstep
    split at hstep
    · split at hstep
      · cases hstep
      · next hunlocked =>
        cases hstep
        unfold World.IsSafe at h
        rw [Bool.not_eq_true] at hunlocked
        rw [hunlocked] at h
        have hgo := h.go call (.finished) (fun n hn => by cases hn)
          (fun n hn => by cases hn) (fun A hA => by cases hA) (.inl rfl)
        have hkept := hgo.manage (w.manager.reset) hgo.reserved
          (fun n hn => .inl hn) (fun n hn => hn) (.inr rfl)
        rw [← hunlocked] at hkept
        exact hkept
    · cases hstep
  | accept nonce =>
    cases hstep
    exact h.accept
  | finalize txHash =>
    simp only [World.step, Option.ite_none_right_eq_some] at hstep
    obtain ⟨⟨hunlocked, hmined⟩, hstep⟩ := hstep
    cases hstep
    unfold World.IsSafe at h
    rw [hunlocked] at h
    have hkept := h.manage (w.manager.markFinalized txHash) h.reserved
      (fun n hn => (AsyncNonceManager.held_markFinalized hn).imp id
        fun hin => .inr (hmined _ hin rfl))
      (fun n hn => AsyncNonceManager.held_markFinalized_subset hn) (.inl rfl)
    rw [← hunlocked] at hkept
    exact hkept

/-! ## Given up nonces come first -/

/-- A nonce can still be handed out before every larger one: the counter is not used while a call
that gave a nonce up has yet to reset it, and a count is read only when every given up nonce is
above all held ones (so it is not reserved any more itself) and not below the count. -/
def InOrder (w : World) : Event → Prop
  | .enter _ => w.manager.nextNonce ≠ none → ∀ call, w.phase call ≠ .resetting true
  | .count _ (some pending) =>
    ∀ n ∈ w.givenUp, pending ≤ n ∧ ∀ m ∈ w.manager.held, m < n
  | _ => True

/-- Hand-outs skipped no nonce that was given up, and the counter skips none either unless a reset is
still to come. -/
structure World.Ordered (w : World) : Prop where
  handed : ∀ entry ∈ w.handed, ∀ n ∈ entry.2, entry.1 ≤ n
  counter : ∀ n ∈ w.givenUp, ∀ k, w.manager.nextNonce = some k →
    k ≤ n ∨ ∃ call, w.phase call = .resetting true

/-- A nonce that is not above a given up one may be handed out. -/
theorem World.Ordered.handOut {w : World} (h : w.Ordered) (call nonce : ℕ)
    (hle : ∀ n ∈ w.givenUp, nonce ≤ n) : (w.handOut call nonce).Ordered where
  handed := by
    intro entry hentry
    rcases List.mem_cons.mp hentry with rfl | hentry
    · exact hle
    · exact h.handed entry hentry
  counter := by
    intro n hn k hk
    cases hk
    obtain ⟨hne, hn⟩ := Finset.mem_erase.mp hn
    have hle := hle n hn
    exact .inl (by omega)

/-- The call that moves was not about to reset the counter, so whoever was still is. -/
theorem World.Ordered.go {w : World} (h : w.Ordered) (call : ℕ) (p : Phase)
    (hphase : w.phase call ≠ .resetting true) : (w.go call p).Ordered where
  handed := h.handed
  counter := by
    intro n hn k hk
    refine (h.counter n hn k hk).imp id fun ⟨c, hc⟩ => ⟨c, ?_⟩
    rcases update_eq_or w.phase call c p with ⟨rfl, -⟩ | ⟨-, heq⟩
    · exact absurd hc hphase
    · exact heq.trans hc

/-- A call gives its nonce up and has yet to reset the counter. -/
theorem World.Ordered.giveUp {w : World} (h : w.Ordered) (call nonce : ℕ) :
    World.Ordered { w.go call (.resetting true) with givenUp := insert nonce w.givenUp } where
  handed := h.handed
  counter := fun _ _ _ _ => .inr ⟨call, Function.update_self ..⟩

/-- An event in order keeps the order. -/
theorem World.step_ordered {w w' : World} {event : Event} (h : w.Ordered)
    (hguard : InOrder w event) (hstep : w.step event = some w') : w'.Ordered := by
  cases event with
  | block call ok =>
    simp only [World.step, Option.ite_none_right_eq_some] at hstep
    obtain ⟨hphase, hstep⟩ := hstep
    cases hstep
    exact h.go _ _ (by rw [hphase]; exact fun heq => by cases heq)
  | enter call =>
    simp only [World.step, Option.ite_none_right_eq_some] at hstep
    obtain ⟨⟨hphase, -⟩, hstep⟩ := hstep
    unfold World.enterNextNonce at hstep
    split at hstep
    · next nonce hnext =>
      cases hstep
      have hnobody := hguard (by rw [hnext]; exact Option.some_ne_none _)
      refine h.handOut call nonce fun n hn => ?_
      rcases h.counter n hn nonce hnext with hle | ⟨c, hc⟩
      · exact hle
      · exact absurd hc (hnobody c)
    · cases hstep
      have hgo := h.go call (.counting w.accepted)
        (by rw [hphase]; exact fun heq => by cases heq)
      exact ⟨hgo.handed, hgo.counter⟩
  | count call answer =>
    simp only [World.step] at hstep
    split at hstep
    · next A hphase =>
      split at hstep
      · next pending =>
        split at hstep
        · cases hstep
        · cases hstep
          have hnew := h.handOut call (max pending w.manager.localFloor) fun n hn =>
            max_le (hguard n hn).1 (AsyncNonceManager.localFloor_le.mpr (hguard n hn).2)
          exact ⟨hnew.handed, hnew.counter⟩
      · cases hstep
        have hgo := h.go call (.resetting false)
          (by rw [hphase]; exact fun heq => by cases heq)
        exact ⟨hgo.handed, hgo.counter⟩
    · cases hstep
  | estimateFails call =>
    simp only [World.step] at hstep
    split at hstep
    · next nonce hphase =>
      cases hstep
      exact h.giveUp call nonce
    · cases hstep
  | signFails call =>
    simp only [World.step] at hstep
    split at hstep
    · next nonce hphase =>
      cases hstep
      exact h.go _ _ (by rw [hphase]; exact fun heq => by cases heq)
    · cases hstep
  | broadcast call =>
    simp only [World.step] at hstep
    split at hstep
    · next nonce hphase =>
      cases hstep
      have hgo := h.go call (.broadcasting nonce)
        (by rw [hphase]; exact fun heq => by cases heq)
      exact ⟨hgo.handed, hgo.counter⟩
    · cases hstep
  | answered call txHash =>
    simp only [World.step] at hstep
    split at hstep
    · next nonce hphase =>
      cases hstep
      exact h.go _ _ (by rw [hphase]; exact fun heq => by cases heq)
    · cases hstep
  | mark call =>
    simp only [World.step] at hstep
    split at hstep
    · next nonce txHash failed hphase =>
      split at hstep
      · cases hstep
      · cases hstep
        have hgo := h.go call (if failed then .resetting false else .finished)
          (by rw [hphase]; exact fun heq => by cases heq)
        exact ⟨hgo.handed, hgo.counter⟩
    · cases hstep
  | release call =>
    simp only [World.step] at hstep
    split at hstep
    · next nonce hphase =>
      split at hstep
      · cases hstep
      · cases hstep
        have hgave := h.giveUp call nonce
        exact ⟨hgave.handed, hgave.counter⟩
    · cases hstep
  | reset call =>
    simp only [World.step] at hstep
    split at hstep
    · split at hstep
      · cases hstep
      · cases hstep
        exact ⟨h.handed, fun _ _ _ hk => by cases hk⟩
    · cases hstep
  | accept nonce =>
    cases hstep
    exact ⟨h.handed, h.counter⟩
  | finalize txHash =>
    simp only [World.step, Option.ite_none_right_eq_some] at hstep
    obtain ⟨-, hstep⟩ := hstep
    cases hstep
    exact ⟨h.handed, h.counter⟩

/-- **Nonces.**  However calls interleave and fail, no two broadcast transactions share a nonce.  In
a run in order every hand-out respects the nonces given up before, and a count respects them exactly
if it is in order. -/
theorem nonces_unique_and_in_order (accepted : Finset ℕ) :
    (∀ hist w, Run World.step anyAction { accepted := accepted } hist w →
      (w.sent.map Prod.snd).Nodup) ∧
    (∀ hist w, Run World.step InOrder { accepted := accepted } hist w →
      ∀ entry ∈ w.handed, ∀ n ∈ entry.2, entry.1 ≤ n) ∧
    ∀ (w w' : World) (call pending : ℕ),
      w.step (.count call (some pending)) = some w' →
      ∃ nonce, w'.handed = (nonce, w.givenUp) :: w.handed ∧
        ((∀ n ∈ w.givenUp, nonce ≤ n) ↔ InOrder w (.count call (some pending))) := by
  refine ⟨fun hist w hrun => ?_, fun hist w hrun => ?_, fun w w' call pending hstep => ?_⟩
  · have hsafe : w.IsSafe := hrun.state_invariant _ (World.isSafe_start accepted)
      fun _ _ _ h _ hstep => World.step_safe h hstep
    exact hsafe.nodup
  · have hstart : World.Ordered { accepted := accepted } :=
      ⟨fun _ hentry => absurd hentry List.not_mem_nil,
        fun _ hn => absurd hn (Finset.notMem_empty _)⟩
    have hordered : w.Ordered := hrun.state_invariant _ hstart
      fun _ _ _ h hguard hstep => World.step_ordered h hguard hstep
    exact hordered.handed
  · simp only [World.step] at hstep
    split at hstep
    · split at hstep
      · cases hstep
      · cases hstep
        refine ⟨_, rfl, ?_⟩
        simp only [InOrder, max_le_iff, AsyncNonceManager.localFloor_le]
    · cases hstep

namespace NonceExamples

/-- The account has used five nonces. -/
def fresh : World := { accepted := Finset.range 5 }

/-- A call up to its nonce, with the counter reset. -/
def started (call pending : ℕ) : List Event :=
  [.block call true, .enter call, .count call (some pending)]

/-- A call whose gas estimate fails, and the call after it. -/
def estimateFails : List Event :=
  started 0 5 ++ [.estimateFails 0, .reset 0] ++ started 1 5

/-- A signature fails while a later nonce is reserved. -/
def laterReserved : List Event :=
  started 0 5 ++ [.block 1 true, .enter 1, .signFails 0, .release 0, .reset 0] ++ started 2 5

/-- The general statement where a signature fails and a second call follows: the run is in order, and
the nonce that was given up is the one that is handed out and broadcast. -/
theorem nonces_unique_and_in_order_signatureFails :
    ∃ hist w, Run World.step InOrder fresh hist w ∧ w.handed = [(5, {5}), (5, ∅)] ∧
      w.sent = [(1, 5)] ∧ ∀ entry ∈ w.handed, ∀ n ∈ entry.2, entry.1 ≤ n := by
  have hstart : Run World.step InOrder fresh [] fresh := .start
  have hfirst := ((hstart.next (a := Event.block 0 true) (by trivial) rfl).next
    (a := Event.enter 0) (fun h => absurd rfl h) rfl).next
    (a := Event.count 0 (some 5)) (fun n hn => absurd hn (Finset.notMem_empty n)) rfl
  have hfailed := ((hfirst.next (a := Event.signFails 0) (by trivial) rfl).next
    (a := Event.release 0) (by trivial) rfl).next (a := Event.reset 0) (by trivial) rfl
  have hasked := (hfailed.next (a := Event.block 1 true) (by trivial) rfl).next
    (a := Event.enter 1) (fun h => absurd rfl h) rfl
  -- the node has seen nothing of the first call, and nothing is held
  have hcount : ∀ n ∈ insert 5 (∅ : Finset ℕ), 5 ≤ n ∧
      ∀ m ∈ (∅ : Finset ℕ) ∪ (Dict.empty : Dict ℕ String).keys.toFinset, m < n := by decide
  have hrun := (hasked.next (a := Event.count 1 (some 5)) hcount rfl).next
    (a := Event.broadcast 1) (by trivial) rfl
  exact ⟨_, _, hrun, rfl, rfl, (nonces_unique_and_in_order (Finset.range 5)).2.1 _ _ hrun⟩

/-- After a failed gas estimate, and after a failed signature below a reserved nonce, a larger nonce
is handed out and the one given up is not. -/
theorem given_up_nonces_skipped :
    (∃ hist w, Run World.step anyAction fresh hist w ∧ w.handed = [(6, {5}), (5, ∅)]) ∧
      ∃ hist w, Run World.step anyAction fresh hist w ∧
        w.handed = [(7, {5}), (6, ∅), (5, ∅)] := by
  constructor
  · have h : (exec World.step anyAction fresh estimateFails).map World.handed =
        some [(6, {5}), (5, ∅)] := by decide +kernel
    obtain ⟨w, hw, hhanded⟩ := Option.map_eq_some_iff.mp h
    obtain ⟨hist, hrun⟩ := Run.of_exec hw
    exact ⟨hist, w, hrun, hhanded⟩
  · have h : (exec World.step anyAction fresh laterReserved).map World.handed =
        some [(7, {5}), (6, ∅), (5, ∅)] := by decide +kernel
    obtain ⟨w, hw, hhanded⟩ := Option.map_eq_some_iff.mp h
    obtain ⟨hist, hrun⟩ := Run.of_exec hw
    exact ⟨hist, w, hrun, hhanded⟩

end NonceExamples

end ArbitrageEngine.Connectors.Web3
