/-
# ArbitrageEngine.Lib.PagedReads -- loops that read one page after another from a server

A server answers the first request, the second, and so on, each with a payload or a fault; nothing
is assumed of its payloads.  A `Reading` asks for a page, takes the records of the payload, and goes
on, stops or raises by what the payload says.  What such a loop owes is `Complete`: it ends after
finitely many requests, and if it returns, the last payload announced no further page and the result
is made of the records of all pages, in the order in which they were read.

`complete_iff` splits that into the two things a loop has to be looked at for: does some request end
it, and does it stop at payloads only that announce nothing.  A bound on the pages answers the first
(`ends_of_bounded`).
-/
import Mathlib.Data.List.Basic
import Mathlib.Order.Basic

namespace ArbitrageEngine.Lib

universe u v w

/-- What a loop does after a page. -/
inductive Turn (σ ε : Type)
  | raises (fault : ε)
  | stops
  | next (state : σ)

/-- A loop over the pages of a server. -/
structure Reading (π σ ε ρ α : Type) where
  start : σ
  /-- What the payload says, for the state of the loop. -/
  turn : σ → π → Turn σ ε
  records : π → List ρ
  /-- What is returned of the records after the loop. -/
  finish : List ρ → Except ε α

namespace Reading

variable {π σ ε ρ α : Type} (reading : Reading π σ ε ρ α) (server : ℕ → Except ε π)

/-- The loop, from the request with this number on. -/
def readFrom : (fuel request : ℕ) → σ → List ρ → Option (Except ε α)
  | 0, _, _, _ => none
  | fuel + 1, request, state, collected =>
      match server request with
      | .error fault => some (.error fault)
      | .ok page =>
          match reading.turn state page with
          | .raises fault => some (.error fault)
          | .stops => some (reading.finish (collected ++ reading.records page))
          | .next state' =>
              readFrom fuel (request + 1) state' (collected ++ reading.records page)

/-- The loop, with at most so many requests. -/
def read (requests : ℕ) : Option (Except ε α) :=
  reading.readFrom server requests 0 reading.start []

/-- These are the payloads of all requests of the loop, `last` of the last one. -/
structure Reads (earlier : List π) (last : π) : Prop where
  answers : ∀ i page, earlier[i]? = some page → server i = .ok page
  last : server earlier.length = .ok last
  asks : reading.read server earlier.length = none
  ends : reading.read server (earlier.length + 1) ≠ none

/-- The loop ends, and what it returns is whole.  `announces` says of a payload whether it announces
a further page after the earlier ones. -/
structure Complete (announces : List π → π → Prop) : Prop where
  ends : ∃ requests, reading.read server requests ≠ none
  whole : ∀ requests result, reading.read server requests = some (.ok result) →
    ∃ earlier last, reading.Reads server earlier last ∧ ¬ announces earlier last ∧
      reading.finish ((earlier ++ [last]).flatMap reading.records) = .ok result

/-! ## How far a loop has come -/

/-- The loop has gone on after each of these pages. -/
inductive Going : List π → σ → Prop
  | start : Going [] reading.start
  | turn {earlier : List π} {state state' : σ} {page : π} (going : Going earlier state)
      (answer : server earlier.length = .ok page)
      (next : reading.turn state page = .next state') : Going (earlier ++ [page]) state'

/-- The next request ends the loop. -/
def EndsAt (request : ℕ) (state : σ) : Prop :=
  ∀ page, server request = .ok page → ∀ state', reading.turn state page ≠ .next state'

variable {reading server} {earlier : List π} {state : σ} {last page : π}

/-- As long as it goes on, the loop has not ended. -/
theorem Going.readFrom (hgoing : reading.Going server earlier state) (more : ℕ) :
    reading.read server (earlier.length + more) =
      reading.readFrom server more earlier.length state (earlier.flatMap reading.records) := by
  induction hgoing generalizing more with
  | start =>
    rw [List.length_nil, Nat.zero_add]
    rfl
  | @turn earlier state state' page hgoing hanswer hnext ih =>
    have hlength : (earlier ++ [page]).length + more = earlier.length + (more + 1) := by
      rw [List.length_append, List.length_singleton]
      omega
    rw [hlength, ih]
    simp only [Reading.readFrom, hanswer, hnext, List.length_append, List.length_singleton,
      List.flatMap_append, List.flatMap_singleton]

theorem Going.read_eq_none (hgoing : reading.Going server earlier state) :
    reading.read server earlier.length = none := hgoing.readFrom 0

theorem Going.answers (hgoing : reading.Going server earlier state) :
    ∀ i page, earlier[i]? = some page → server i = .ok page := by
  induction hgoing with
  | start => nofun
  | @turn earlier state state' last hgoing hanswer hnext ih =>
    intro i page hpage
    by_cases hlt : i < earlier.length
    · rw [List.getElem?_append_left hlt] at hpage
      exact ih i page hpage
    · rw [List.getElem?_append_right (Nat.le_of_not_lt hlt)] at hpage
      obtain ⟨hsub, rfl⟩ : i - earlier.length = 0 ∧ last = page := by
        simpa [List.getElem?_singleton] using hpage
      rwa [show i = earlier.length by omega]

/-- What the loop returns where it stops. -/
theorem Going.read_stop (hgoing : reading.Going server earlier state)
    (hanswer : server earlier.length = .ok last) (hstop : reading.turn state last = .stops) :
    reading.read server (earlier.length + 1) =
      some (reading.finish ((earlier ++ [last]).flatMap reading.records)) := by
  rw [hgoing.readFrom 1]
  simp only [Reading.readFrom, hanswer, hstop, List.flatMap_append, List.flatMap_singleton]

/-- The payloads of a loop that stops. -/
theorem Going.reads (hgoing : reading.Going server earlier state)
    (hanswer : server earlier.length = .ok last) (hstop : reading.turn state last = .stops) :
    reading.Reads server earlier last where
  answers := hgoing.answers
  last := hanswer
  asks := hgoing.read_eq_none
  ends := by
    rw [hgoing.read_stop hanswer hstop]
    nofun

/-- A loop that ends goes on for some pages, and then a request ends it. -/
theorem readFrom_ends {more : ℕ} (hgoing : reading.Going server earlier state)
    (h : reading.readFrom server more earlier.length state (earlier.flatMap reading.records) ≠
      none) :
    ∃ earlier state, reading.Going server earlier state ∧
      reading.EndsAt server earlier.length state := by
  induction more generalizing earlier state with
  | zero => exact absurd rfl h
  | succ more ih =>
    by_cases hends : reading.EndsAt server earlier.length state
    · exact ⟨earlier, state, hgoing, hends⟩
    · unfold EndsAt at hends
      push Not at hends
      obtain ⟨page, hanswer, state', hnext⟩ := hends
      apply ih (hgoing.turn hanswer hnext)
      simp only [Reading.readFrom, hanswer, hnext] at h
      simpa only [List.length_append, List.length_singleton, List.flatMap_append,
        List.flatMap_singleton] using h

/-- A request that ends the loop. -/
theorem Going.read_ends (hgoing : reading.Going server earlier state)
    (hends : reading.EndsAt server earlier.length state) :
    reading.read server (earlier.length + 1) ≠ none := by
  rw [hgoing.readFrom 1, Reading.readFrom]
  cases hanswer : server earlier.length with
  | error fault => nofun
  | ok page =>
    cases hturn : reading.turn state page with
    | raises fault => simp [hturn]
    | stops => simp [hturn]
    | next state' => exact absurd hturn (hends page hanswer state')

/-- A loop ends where some request ends it. -/
theorem ends_iff : (∃ requests, reading.read server requests ≠ none) ↔
    ∃ earlier state, reading.Going server earlier state ∧
      reading.EndsAt server earlier.length state := by
  constructor
  · rintro ⟨requests, h⟩
    exact readFrom_ends .start h
  · rintro ⟨earlier, state, hgoing, hends⟩
    exact ⟨_, hgoing.read_ends hends⟩

/-- A loop that returns has stopped at a page. -/
theorem readFrom_ok {more : ℕ} {result : α} (hgoing : reading.Going server earlier state)
    (h : reading.readFrom server more earlier.length state (earlier.flatMap reading.records) =
      some (.ok result)) :
    ∃ earlier state last, reading.Going server earlier state ∧
      server earlier.length = .ok last ∧ reading.turn state last = .stops ∧
      reading.finish ((earlier ++ [last]).flatMap reading.records) = .ok result := by
  induction more generalizing earlier state with
  | zero => cases h
  | succ more ih =>
    rw [Reading.readFrom] at h
    cases hanswer : server earlier.length with
    | error fault =>
      rw [hanswer] at h
      cases h
    | ok page =>
      simp only [hanswer] at h
      cases hturn : reading.turn state page with
      | raises fault =>
        rw [hturn] at h
        cases h
      | stops =>
        simp only [hturn, Option.some.injEq] at h
        refine ⟨earlier, state, page, hgoing, hanswer, hturn, ?_⟩
        rw [List.flatMap_append, List.flatMap_singleton]
        exact h
      | next state' =>
        simp only [hturn] at h
        apply ih (hgoing.turn hanswer hturn)
        simpa only [List.length_append, List.length_singleton, List.flatMap_append,
          List.flatMap_singleton] using h

/-- More requests than it needs change nothing. -/
theorem readFrom_succ {more request : ℕ} {state : σ} {collected : List ρ} {result : Except ε α}
    (h : reading.readFrom server more request state collected = some result) :
    reading.readFrom server (more + 1) request state collected = some result := by
  induction more generalizing request state collected with
  | zero => cases h
  | succ more ih =>
    rw [Reading.readFrom] at h ⊢
    cases hanswer : server request with
    | error fault =>
      rw [hanswer] at h
      exact h
    | ok page =>
      simp only [hanswer] at h ⊢
      cases hturn : reading.turn state page with
      | raises fault =>
        rw [hturn] at h
        exact h
      | stops =>
        rw [hturn] at h
        exact h
      | next state' =>
        simp only [hturn] at h ⊢
        exact ih h

theorem read_mono {requests more : ℕ} (hle : requests ≤ more)
    (h : reading.read server requests ≠ none) : reading.read server more ≠ none := by
  induction hle with
  | refl => exact h
  | step hle ih =>
    obtain ⟨result, hresult⟩ := Option.ne_none_iff_exists'.mp ih
    unfold Reading.read
    rw [readFrom_succ hresult]
    nofun

/-- The loop makes the same requests each time. -/
theorem Reads.unique {earlier' : List π} {last' : π} (hreads : reading.Reads server earlier last)
    (hreads' : reading.Reads server earlier' last') : earlier = earlier' ∧ last = last' := by
  have hlength : earlier.length = earlier'.length := by
    by_contra hne
    rcases Nat.lt_or_gt_of_ne hne with hlt | hlt
    · exact read_mono hlt hreads.ends hreads'.asks
    · exact read_mono hlt hreads'.ends hreads.asks
  have hsame : earlier = earlier' := by
    apply List.ext_getElem hlength
    intro i hi hi'
    have hpage := hreads.answers i _ (List.getElem?_eq_getElem hi)
    rw [hreads'.answers i _ (List.getElem?_eq_getElem hi')] at hpage
    exact (Except.ok.inj hpage).symm
  refine ⟨hsame, ?_⟩
  have hlast := hreads.last
  rw [hsame, hreads'.last] at hlast
  exact (Except.ok.inj hlast).symm

variable {announces : List π → π → Prop}

/-- **What makes a loop complete**: some request ends it, and it returns at payloads only that
announce no further page. -/
theorem complete_iff : reading.Complete server announces ↔
    (∃ earlier state, reading.Going server earlier state ∧
      reading.EndsAt server earlier.length state) ∧
    ∀ earlier state last result, reading.Going server earlier state →
      server earlier.length = .ok last → reading.turn state last = .stops →
      reading.finish ((earlier ++ [last]).flatMap reading.records) = .ok result →
      ¬ announces earlier last := by
  constructor
  · intro hcomplete
    refine ⟨ends_iff.mp hcomplete.ends, ?_⟩
    intro earlier state last result hgoing hanswer hstop hresult
    obtain ⟨earlier', last', hreads, hnone, -⟩ := hcomplete.whole _ result (by
      rw [hgoing.read_stop hanswer hstop, hresult])
    obtain ⟨rfl, rfl⟩ := hreads.unique (hgoing.reads hanswer hstop)
    exact hnone
  · rintro ⟨hends, hstops⟩
    refine ⟨ends_iff.mpr hends, ?_⟩
    intro requests result h
    obtain ⟨earlier, state, last, hgoing, hanswer, hstop, hresult⟩ := readFrom_ok .start h
    exact ⟨earlier, last, hgoing.reads hanswer hstop,
      hstops earlier state last result hgoing hanswer hstop hresult, hresult⟩

/-! ## What ends a loop -/

/-- A loop that no request ends goes on over any number of pages. -/
theorem going_of_not_ends (h : ∀ earlier state, reading.Going server earlier state →
      ¬ reading.EndsAt server earlier.length state) (n : ℕ) :
    ∃ earlier state, reading.Going server earlier state ∧ earlier.length = n := by
  induction n with
  | zero => exact ⟨[], reading.start, .start, rfl⟩
  | succ n ih =>
    obtain ⟨earlier, state, hgoing, hlength⟩ := ih
    have hnot := h earlier state hgoing
    unfold EndsAt at hnot
    push Not at hnot
    obtain ⟨page, hanswer, state', hnext⟩ := hnot
    refine ⟨earlier ++ [page], state', hgoing.turn hanswer hnext, ?_⟩
    rw [List.length_append, List.length_singleton, hlength]

/-- Where the number of a request and its payload decide whether the loop goes on, the loop ends if
and only if it ever gets a fault or such a payload. -/
theorem ends_iff_of {Ends : ℕ → π → Prop}
    (hends : ∀ earlier state, reading.Going server earlier state → ∀ page,
      (∀ state', reading.turn state page ≠ .next state') ↔ Ends earlier.length page) :
    (∃ earlier state, reading.Going server earlier state ∧
      reading.EndsAt server earlier.length state) ↔
      ∃ request, ∀ page, server request = .ok page → Ends request page := by
  constructor
  · rintro ⟨earlier, state, hgoing, hend⟩
    exact ⟨earlier.length, fun page hpage =>
      (hends earlier state hgoing page).mp (hend page hpage)⟩
  · rintro ⟨request, hrequest⟩
    by_contra hnone
    push Not at hnone
    obtain ⟨earlier, state, hgoing, rfl⟩ := going_of_not_ends hnone request
    exact hnone earlier state hgoing fun page hpage =>
      (hends earlier state hgoing page).mpr (hrequest page hpage)

end Reading

/-! ## A bound on the pages -/

namespace Reading

variable {π σ ε ρ α : Type}

/-- The loop raises where it would go on after so many pages. -/
def bounded (limit : ℕ) (fault : ε) (reading : Reading π σ ε ρ α) :
    Reading π (ℕ × σ) ε ρ α where
  start := (0, reading.start)
  turn state page :=
    match reading.turn state.2 page with
    | .raises fault => .raises fault
    | .stops => .stops
    | .next state' => if state.1 + 1 < limit then .next (state.1 + 1, state') else .raises fault
  records := reading.records
  finish := reading.finish

variable {limit : ℕ} {fault : ε} {reading : Reading π σ ε ρ α} {server : ℕ → Except ε π}
  {earlier : List π} {state : ℕ × σ} {page : π}

theorem bounded_next {state' : ℕ × σ}
    (h : (bounded limit fault reading).turn state page = .next state') :
    reading.turn state.2 page = .next state'.2 ∧ state'.1 = state.1 + 1 ∧ state'.1 < limit := by
  unfold bounded at h
  simp only at h
  cases hturn : reading.turn state.2 page with
  | raises fault =>
    rw [hturn] at h
    cases h
  | stops =>
    rw [hturn] at h
    cases h
  | next next =>
    simp only [hturn] at h
    split at h
    · next hlt =>
      cases h
      exact ⟨rfl, rfl, hlt⟩
    · cases h

theorem bounded_stops :
    (bounded limit fault reading).turn state page = .stops ↔
      reading.turn state.2 page = .stops := by
  unfold bounded
  simp only
  cases hturn : reading.turn state.2 page with
  | raises fault => simp
  | stops => simp
  | next next =>
    simp only [reduceCtorEq, iff_false]
    split
    · nofun
    · nofun

/-- A bounded loop goes on as the loop does, and within the bound. -/
theorem Going.of_bounded (hlimit : 0 < limit)
    (hgoing : (bounded limit fault reading).Going server earlier state) :
    reading.Going server earlier state.2 ∧ state.1 = earlier.length ∧ earlier.length < limit := by
  induction hgoing with
  | start => exact ⟨.start, rfl, hlimit⟩
  | turn hgoing hanswer hnext ih =>
    obtain ⟨hgoing', hcount, -⟩ := ih
    obtain ⟨hnext', hcount', hlt⟩ := bounded_next hnext
    rw [List.length_append, List.length_singleton]
    exact ⟨hgoing'.turn hanswer hnext', by omega, by omega⟩

/-- And the bounded loop goes on where the loop does, within the bound. -/
theorem Going.bounded {state : σ} (hgoing : reading.Going server earlier state)
    (hlt : earlier.length < limit) :
    (bounded limit fault reading).Going server earlier (earlier.length, state) := by
  induction hgoing with
  | start => exact .start
  | @turn earlier state state' page hgoing hanswer hnext ih =>
    rw [List.length_append, List.length_singleton] at hlt ⊢
    apply (ih (by omega)).turn hanswer
    unfold Reading.bounded
    simp only [hnext]
    exact if_pos hlt

/-- A bounded loop ends. -/
theorem ends_of_bounded (hlimit : 0 < limit) :
    ∃ earlier state, (bounded limit fault reading).Going server earlier state ∧
      (bounded limit fault reading).EndsAt server earlier.length state := by
  by_contra hnone
  push Not at hnone
  obtain ⟨earlier, state, hgoing, hlength⟩ := going_of_not_ends hnone limit
  obtain ⟨-, -, hlt⟩ := hgoing.of_bounded hlimit
  omega

end Reading

end ArbitrageEngine.Lib
