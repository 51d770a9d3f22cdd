/-
# ArbitrageEngine.Settlement.Invariant -- what the table of intents says about the submissions

A key whose redemption was submitted has a row that is not PENDING, and a CONFIRMED row stays
CONFIRMED.  `Inv` states the first with room for one exempt key, the row that a PENDING report was
just written to, and carries the keys that one pass already knows to be CONFIRMED.
-/
import ArbitrageEngine.Settlement.Service

namespace ArbitrageEngine.Settlement

/-! ## The invariant -/

/-- The key has a CONFIRMED row. -/
def RedemptionTable.Confirmed (table : RedemptionTable) (key : RedemptionKey) : Prop :=
  ∃ row ∈ table.rows, row.key = key ∧ row.status = .confirmed

/-- The key has a row, and its row is not PENDING. -/
def RedemptionTable.Guarded (table : RedemptionTable) (key : RedemptionKey) : Prop :=
  ∃ row ∈ table.rows, row.key = key ∧ row.status ≠ .pending

/-- The row being worked on. -/
def RedemptionTable.Working (table : RedemptionTable) (key : RedemptionKey)
    (redemptionId : String) : Prop :=
  ∃ row ∈ table.rows, row.redemptionId = redemptionId ∧ row.key = key ∧ row.status ≠ .confirmed

/-- The redemption intent of this leg of the position is CONFIRMED in the table. -/
def LegConfirmed (table : RedemptionTable) (position : OpenPosition) (venue : String)
    (contracts : Dec) : Prop :=
  ∃ request, settlementRequest position venue contracts = some request ∧
    table.Confirmed request.key

/-- The redemption intents of both venues of the position are CONFIRMED in the table. -/
def BothConfirmed (table : RedemptionTable) (position : OpenPosition) : Prop :=
  LegConfirmed table position position.market.venueALabel position.polymarketContracts ∧
    LegConfirmed table position position.market.venueBLabel position.predictFunContracts

/-- What every await of a pass keeps.  The row of `exempt` may be PENDING although its redemption
was submitted; the rows of `known` are CONFIRMED. -/
structure Inv (exempt : Option RedemptionKey) (known : List RedemptionKey) (w : World) : Prop where
  redeemed_nodup : w.redeemed.Nodup
  redeemed_guarded : ∀ key ∈ w.redeemed, some key ≠ exempt → w.intents.Guarded key
  known_confirmed : ∀ key ∈ known, w.intents.Confirmed key
  removed_confirmed : ∀ entry ∈ w.removed, BothConfirmed entry.2 entry.1

/-- Before the first pass: any table of intents, any positions, nothing submitted or removed. -/
def World.initial (intents : RedemptionTable) (positions : Lib.Dict String OpenPosition)
    (ledger : PositionLedger) : World where
  intents := intents
  positions := positions
  audits := []
  ledger := ledger
  redeemed := []
  removed := []

theorem inv_initial (intents : RedemptionTable) (positions : Lib.Dict String OpenPosition)
    (ledger : PositionLedger) : Inv none [] (World.initial intents positions ledger) where
  redeemed_nodup := List.nodup_nil
  redeemed_guarded := fun _ h => absurd h List.not_mem_nil
  known_confirmed := fun _ h => absurd h List.not_mem_nil
  removed_confirmed := fun _ h => absurd h List.not_mem_nil

theorem Inv.forget {exempt : Option RedemptionKey} {known : List RedemptionKey} {w : World}
    (h : Inv exempt known w) : Inv exempt [] w where
  redeemed_nodup := h.redeemed_nodup
  redeemed_guarded := h.redeemed_guarded
  known_confirmed := fun _ hkey => absurd hkey List.not_mem_nil
  removed_confirmed := h.removed_confirmed

theorem Inv.learn {exempt : Option RedemptionKey} {known : List RedemptionKey} {w : World}
    (h : Inv exempt known w) {key : RedemptionKey} (hkey : w.intents.Confirmed key) :
    Inv exempt (key :: known) w where
  redeemed_nodup := h.redeemed_nodup
  redeemed_guarded := h.redeemed_guarded
  known_confirmed := by
    intro k hk
    rcases List.mem_cons.mp hk with rfl | hk
    · exact hkey
    · exact h.known_confirmed k hk
  removed_confirmed := h.removed_confirmed

/-! ## Updates and creations -/

/-- The world after a committed update. -/
def World.updated (w : World) (redemptionId : String) (status : RedemptionIntentStatus)
    (txHash error : Option String) (now : Time) : World :=
  { w with intents := w.intents.update redemptionId status txHash error now }

section Update

variable {table : RedemptionTable} {key key' : RedemptionKey} {redemptionId : String}
  (status : RedemptionIntentStatus) (txHash error : Option String) (now : Time)

/-- The row being worked on gets the new status. -/
theorem RedemptionTable.Working.updated (h : table.Working key redemptionId) :
    ∃ row ∈ (table.update redemptionId status txHash error now).rows,
      row.redemptionId = redemptionId ∧ row.key = key ∧ row.status = status := by
  obtain ⟨row, hrow, rfl, hkey, _⟩ := h
  exact ⟨row.updated status txHash error now,
    RedemptionTable.updated_mem hrow status txHash error now, rfl, hkey, rfl⟩

/-- A CONFIRMED row is not the row being worked on, so it stays CONFIRMED. -/
theorem RedemptionTable.Confirmed.update (h : table.Confirmed key')
    (hwork : table.Working key redemptionId) :
    (table.update redemptionId status txHash error now).Confirmed key' := by
  obtain ⟨row, hrow, hkey, hstatus⟩ := h
  obtain ⟨row', hrow', rfl, _, hstatus'⟩ := hwork
  have hid : row.redemptionId ≠ row'.redemptionId := by
    intro hid
    rw [RedemptionTable.eq_of_id hrow hrow' hid] at hstatus
    exact hstatus' hstatus
  exact ⟨row, RedemptionTable.mem_update_of_ne hrow hid status txHash error now, hkey, hstatus⟩

/-- The rows of other keys keep their status. -/
theorem RedemptionTable.Guarded.update_of_ne (h : table.Guarded key')
    (hwork : table.Working key redemptionId) (hne : key' ≠ key) :
    (table.update redemptionId status txHash error now).Guarded key' := by
  obtain ⟨row, hrow, hkey, hstatus⟩ := h
  obtain ⟨row', hrow', rfl, hkey', _⟩ := hwork
  have hid : row.redemptionId ≠ row'.redemptionId := by
    intro hid
    rw [RedemptionTable.eq_of_id hrow hrow' hid] at hkey
    exact hne (hkey.symm.trans hkey')
  exact ⟨row, RedemptionTable.mem_update_of_ne hrow hid status txHash error now, hkey, hstatus⟩

end Update

section InvUpdate

variable {exempt : Option RedemptionKey} {known : List RedemptionKey} {w : World}
  {key : RedemptionKey} {redemptionId : String} {status : RedemptionIntentStatus}

/-- After any update, only the row that was updated needs an exemption. -/
theorem Inv.update (h : Inv exempt known w) (hexempt : exempt = none ∨ exempt = some key)
    (hwork : w.intents.Working key redemptionId) (status : RedemptionIntentStatus)
    (txHash error : Option String) (now : Time) :
    Inv (some key) known (w.updated redemptionId status txHash error now) where
  redeemed_nodup := h.redeemed_nodup
  redeemed_guarded := by
    intro key' hkey' hne
    have hkeys : key' ≠ key := fun heq => hne (congrArg some heq)
    have hnot : some key' ≠ exempt := by
      rcases hexempt with rfl | rfl
      · exact Option.some_ne_none key'
      · exact hne
    exact (h.redeemed_guarded key' hkey' hnot).update_of_ne status txHash error now hwork hkeys
  known_confirmed := fun key' hkey' =>
    (h.known_confirmed key' hkey').update status txHash error now hwork
  removed_confirmed := h.removed_confirmed

/-- An update to anything but PENDING ends the exemption. -/
theorem Inv.settle (h : Inv exempt known w) (hexempt : exempt = none ∨ exempt = some key)
    (hwork : w.intents.Working key redemptionId) (hstatus : status ≠ .pending)
    (txHash error : Option String) (now : Time) :
    Inv none known (w.updated redemptionId status txHash error now) where
  redeemed_nodup := h.redeemed_nodup
  redeemed_guarded := by
    intro key' hkey' _
    by_cases hkeys : key' = key
    · obtain ⟨row, hrow, _, hkey, hrowstatus⟩ := hwork.updated status txHash error now
      exact ⟨row, hrow, hkey.trans hkeys.symm, hrowstatus ▸ hstatus⟩
    · have hne : some key' ≠ some key := fun heq => hkeys (Option.some.inj heq)
      exact (h.update hexempt hwork status txHash error now).redeemed_guarded key' hkey' hne
  known_confirmed := (h.update hexempt hwork status txHash error now).known_confirmed
  removed_confirmed := h.removed_confirmed

/-- Creating an intent keeps every row. -/
theorem Inv.create (h : Inv exempt known w) (intent : RedemptionIntent) :
    Inv exempt known { w with intents := w.intents.create intent } where
  redeemed_nodup := h.redeemed_nodup
  redeemed_guarded := by
    intro key hkey hne
    obtain ⟨row, hrow, hrest⟩ := h.redeemed_guarded key hkey hne
    exact ⟨row, RedemptionTable.mem_create hrow intent, hrest⟩
  known_confirmed := by
    intro key hkey
    obtain ⟨row, hrow, hrest⟩ := h.known_confirmed key hkey
    exact ⟨row, RedemptionTable.mem_create hrow intent, hrest⟩
  removed_confirmed := h.removed_confirmed

/-- A submission of a key that was not submitted before, over a row that is not PENDING. -/
theorem Inv.submit (h : Inv none known w) (hnew : key ∉ w.redeemed)
    (hguard : w.intents.Guarded key) :
    Inv none known { w with redeemed := w.redeemed ++ [key] } where
  redeemed_nodup := by
    refine List.nodup_append.mpr ⟨h.redeemed_nodup, List.nodup_singleton _, ?_⟩
    rintro a ha b hb rfl
    rw [List.mem_singleton] at hb
    exact hnew (hb ▸ ha)
  redeemed_guarded := by
    intro key' hkey' hne
    rcases List.mem_append.mp hkey' with hold | hlast
    · exact h.redeemed_guarded key' hold hne
    · rw [List.mem_singleton.mp hlast]
      exact hguard
  known_confirmed := h.known_confirmed
  removed_confirmed := h.removed_confirmed

end InvUpdate

/-- A key whose row is PENDING was not submitted. -/
theorem not_redeemed_of_pending {known : List RedemptionKey} {w : World} (h : Inv none known w)
    {row : RedemptionIntent} (hrow : row ∈ w.intents.rows) (hpending : row.status = .pending) :
    row.key ∉ w.redeemed := by
  intro hmem
  obtain ⟨row', hrow', hkey', hstatus'⟩ :=
    h.redeemed_guarded row.key hmem (Option.some_ne_none row.key)
  rw [RedemptionTable.eq_of_key hrow' hrow hkey'] at hstatus'
  exact hstatus' hpending

end ArbitrageEngine.Settlement
