/-
# ArbitrageEngine.Connectors.BookVersions -- REST responses against the stream

A connector caches one book of a token and writes it from two sides: REST responses, which take
their time, and the messages of its stream.  The venue's book has versions, and a book is modelled
by the version it carries and by the write that cached it, which is its identity.

Myriad looks whether the cached book is still the one it was when the request was sent; Polymarket,
Predict.fun and Opinion store every response.  No stream handler looks at what REST cached since the
message before.  So the cached version falls exactly when a response of those three is older than a
book cached since its request, or when a message is older than a response cached since the message
before it.  Messages that a connector drops before it stores them change nothing and are no events.
-/
import ArbitrageEngine.Lib.Runs
import Mathlib.Tactic.Linarith

namespace ArbitrageEngine

open Lib.Runs

/-! ## The cache of one token -/

namespace MarketData

/-- A cached book: the version it carries, and which write cached it. -/
structure CachedBook where
  version : ℕ
  write : ℕ
deriving DecidableEq

/-- The cached book, and how often it was written. -/
structure VersionCache where
  book : Option CachedBook := none
  writes : ℕ := 0
deriving DecidableEq

/-- `_update_book` or `_store_book`. -/
def VersionCache.store (cache : VersionCache) (version : ℕ) : VersionCache :=
  ⟨some ⟨version, cache.writes⟩, cache.writes + 1⟩

/-- A REST request under way: the venue's version when it was sent, the cached book at that moment,
and the greatest version cached since. -/
structure Request where
  sentAt : ℕ
  bookBefore : Option CachedBook
  writtenSince : ℕ := 0
deriving DecidableEq

end MarketData

open MarketData

/-! ## What the connectors do with a response -/

/-- `_fetch_order_book_http`. -/
def Polymarket.fetchOrderBookHttp (cache : VersionCache) (_ : Request) (version : ℕ) :
    VersionCache :=
  cache.store version

/-- `watch_order_book`, after `_watch_order_book_rest`. -/
def PredictFun.watchOrderBook (cache : VersionCache) (_ : Request) (version : ℕ) : VersionCache :=
  cache.store version

/-- `_fetch_and_store_order_book`. -/
def Opinion.fetchAndStoreOrderBook (cache : VersionCache) (_ : Request) (version : ℕ) :
    VersionCache :=
  cache.store version

/-- `_request_and_store_order_book` of a target. -/
def Myriad.requestAndStoreOrderBook (cache : VersionCache) (request : Request) (version : ℕ) :
    VersionCache :=
  if cache.book ≠ request.bookBefore ∧ cache.book.isSome then cache else cache.store version

namespace MarketData

inductive Venue
  | polymarket
  | predictFun
  | opinion
  | myriad
deriving DecidableEq, Repr

namespace Venue

def storeResponse : Venue → VersionCache → Request → ℕ → VersionCache
  | polymarket => Polymarket.fetchOrderBookHttp
  | predictFun => PredictFun.watchOrderBook
  | opinion => Opinion.fetchAndStoreOrderBook
  | myriad => Myriad.requestAndStoreOrderBook

/-- One request for a token at a time: further calls of `watch_order_book` await the same task. -/
def singleFlight : Venue → Bool
  | polymarket | opinion => true
  | predictFun | myriad => false

/-- Does the connector look at what was cached since the request? -/
def looksBack : Venue → Bool
  | myriad => true
  | polymarket | predictFun | opinion => false

end Venue

/-! ## Runs of one connection -/

/-- One token: the venue's version, the cache, the requests under way, the version of the last
message and the greatest version a response cached since that message. -/
structure VersionedFeed where
  current : ℕ := 0
  cache : VersionCache := {}
  requests : List Request := []
  streamed : ℕ := 0
  restSince : ℕ := 0
deriving DecidableEq

inductive FeedEvent
  /-- The venue's book goes on to a version. -/
  | advance (version : ℕ)
  /-- A call of `watch_order_book`, or a refresh, sends a request. -/
  | request
  /-- The response of one of the requests. -/
  | response (index version : ℕ)
  | message (version : ℕ)
deriving DecidableEq

namespace VersionedFeed

/-- The requests after a book of this version was cached. -/
def noteWrite (requests : List Request) (version : ℕ) : List Request :=
  requests.map fun request => { request with writtenSince := max request.writtenSince version }

/-- A response carries a version at least the one its request was sent at, and messages come in the
order of their versions. -/
def step (venue : Venue) (feed : VersionedFeed) : FeedEvent → Option VersionedFeed
  | .advance version =>
      if feed.current ≤ version then some { feed with current := version } else none
  | .request =>
      if venue.singleFlight = true ∧ feed.requests ≠ [] then none
      else some { feed with requests := feed.requests ++ [⟨feed.current, feed.cache.book, 0⟩] }
  | .response index version =>
      match feed.requests[index]? with
      | none => none
      | some request =>
          if request.sentAt ≤ version ∧ version ≤ feed.current then
            let cache := venue.storeResponse feed.cache request version
            let others := feed.requests.eraseIdx index
            if cache = feed.cache then some { feed with requests := others }
            else some { feed with
              cache := cache
              requests := noteWrite others version
              restSince := max feed.restSince version }
          else none
  | .message version =>
      if feed.streamed ≤ version ∧ version ≤ feed.current then
        some { feed with
          cache := feed.cache.store version
          requests := noteWrite feed.requests version
          streamed := version
          restSince := 0 }
      else none

/-- A response is not older than a book cached since its request, unless the connector looks itself;
and a message is not older than a response cached since the message before it. -/
def Admitted (venue : Venue) (feed : VersionedFeed) : FeedEvent → Prop
  | .response index version => venue.looksBack = true ∨
      (feed.requests[index]?).all (fun request => request.writtenSince ≤ version) = true
  | .message version => feed.restSince ≤ version
  | _ => True

instance (venue : Venue) (feed : VersionedFeed) : ∀ event, Decidable (feed.Admitted venue event)
  | .response index version => inferInstanceAs (Decidable (venue.looksBack = true ∨
      (feed.requests[index]?).all (fun request => request.writtenSince ≤ version) = true))
  | .message version => inferInstanceAs (Decidable (feed.restSince ≤ version))
  | .advance _ | .request => inferInstanceAs (Decidable True)

/-- The cached book stays, or is replaced by one that is no older. -/
def Keeps (before after : VersionedFeed) : Prop :=
  ∀ book, before.cache.book = some book →
    ∃ book', after.cache.book = some book' ∧ book.version ≤ book'.version

theorem Keeps.rfl (feed : VersionedFeed) : Keeps feed feed := fun book h => ⟨book, h, le_refl _⟩

theorem Keeps.trans {a b c : VersionedFeed} (hab : Keeps a b) (hbc : Keeps b c) : Keeps a c := by
  intro book hbook
  obtain ⟨book₁, h₁, hle₁⟩ := hab book hbook
  obtain ⟨book₂, h₂, hle₂⟩ := hbc book₁ h₁
  exact ⟨book₂, h₂, hle₁.trans hle₂⟩

/-! ## The invariant -/

/-- The version of the cached book, zero without one. -/
def version (cache : VersionCache) : ℕ := (cache.book.map (·.version)).getD 0

@[simp]
theorem version_store (cache : VersionCache) (v : ℕ) : version (cache.store v) = v := rfl

theorem version_of_book {cache : VersionCache} {book : CachedBook} (h : cache.book = some book) :
    version cache = book.version := by
  simp [version, h]

/-- What a request knows of the cached version. -/
structure RequestOk (feed : VersionedFeed) (request : Request) : Prop where
  sent : request.sentAt ≤ feed.current
  before : ∀ book, request.bookBefore = some book → book.version ≤ request.sentAt
  upper : version feed.cache ≤ max request.sentAt request.writtenSince
  lower : request.writtenSince ≤ version feed.cache

/-- The cached version is bounded by what was written since any request and any message, and it has
reached all of that. -/
structure Ordered (feed : VersionedFeed) : Prop where
  stored : version feed.cache ≤ feed.current
  requests : ∀ request ∈ feed.requests, RequestOk feed request
  upper : version feed.cache ≤ max feed.streamed feed.restSince
  lower : feed.restSince ≤ version feed.cache

theorem ordered_start : Ordered {} where
  stored := le_refl _
  requests _ h := by cases h
  upper := Nat.zero_le _
  lower := le_refl _

/-- A write of a version that is no older, with the note of it. -/
theorem RequestOk.write {feed feed' : VersionedFeed} {request : Request}
    (h : RequestOk feed request) (hcurrent : feed'.current = feed.current) {v : ℕ}
    (hcache : feed'.cache = feed.cache.store v) (hle : version feed.cache ≤ v) :
    RequestOk feed' { request with writtenSince := max request.writtenSince v } where
  sent := hcurrent ▸ h.sent
  before := h.before
  upper := by
    show version feed'.cache ≤ max request.sentAt (max request.writtenSince v)
    rw [hcache, version_store]
    omega
  lower := by
    show max request.writtenSince v ≤ version feed'.cache
    have hlower := h.lower
    rw [hcache, version_store]
    omega

theorem mem_noteWrite {requests : List Request} {v : ℕ} {request : Request}
    (h : request ∈ noteWrite requests v) :
    ∃ old ∈ requests, request = { old with writtenSince := max old.writtenSince v } := by
  obtain ⟨old, hold, rfl⟩ := List.mem_map.mp h
  exact ⟨old, hold, rfl⟩

variable {venue : Venue} {feed feed' : VersionedFeed}

/-- What a response does: nothing but its request is gone, or its version is cached. -/
theorem response_cases {index v : ℕ} (h : step venue feed (.response index v) = some feed') :
    ∃ request, feed.requests[index]? = some request ∧ request.sentAt ≤ v ∧ v ≤ feed.current
      ∧ ((feed' = { feed with requests := feed.requests.eraseIdx index }
            ∧ venue.storeResponse feed.cache request v = feed.cache)
        ∨ (feed' = { feed with
              cache := feed.cache.store v
              requests := noteWrite (feed.requests.eraseIdx index) v
              restSince := max feed.restSince v }
            ∧ venue.storeResponse feed.cache request v = feed.cache.store v)) := by
  have hchoice : ∀ request, venue.storeResponse feed.cache request v = feed.cache
      ∨ venue.storeResponse feed.cache request v = feed.cache.store v := by
    intro request
    cases venue with
    | polymarket => exact .inr rfl
    | predictFun => exact .inr rfl
    | opinion => exact .inr rfl
    | myriad =>
        show Myriad.requestAndStoreOrderBook feed.cache request v = feed.cache
          ∨ Myriad.requestAndStoreOrderBook feed.cache request v = feed.cache.store v
        unfold Myriad.requestAndStoreOrderBook
        split
        · exact .inl rfl
        · exact .inr rfl
  simp only [step] at h
  split at h
  · cases h
  · next request hrequest =>
      split at h
      · next hbounds =>
          refine ⟨request, hrequest, hbounds.1, hbounds.2, ?_⟩
          split at h
          · next hsame => exact .inl ⟨(Option.some.inj h).symm, hsame⟩
          · next hnew =>
              have hstore := (hchoice request).resolve_left hnew
              rw [hstore] at h
              exact .inr ⟨(Option.some.inj h).symm, hstore⟩
      · cases h

/-- A response that is cached is no older than the cached book, where it is admitted. -/
theorem version_le_of_response (h : Ordered feed) {index v : ℕ} {request : Request}
    (hrequest : feed.requests[index]? = some request) (hsent : request.sentAt ≤ v)
    (hok : feed.Admitted venue (.response index v))
    (hstore : venue.storeResponse feed.cache request v = feed.cache.store v) :
    version feed.cache ≤ v := by
  have hknown := h.requests request (List.mem_of_getElem? hrequest)
  rcases hok with hlooks | hsince
  · -- Myriad: the cached book is the one of the request, or there is none.
    cases venue with
    | myriad =>
        have hguard : ¬ (feed.cache.book ≠ request.bookBefore ∧ feed.cache.book.isSome) := by
          intro hboth
          have hsame : Myriad.requestAndStoreOrderBook feed.cache request v = feed.cache :=
            if_pos hboth
          have hwrites := congrArg VersionCache.writes (hsame.symm.trans hstore)
          exact absurd hwrites (Nat.ne_of_lt (Nat.lt_succ_self _))
        rw [not_and_or, not_not, Bool.not_eq_true, Option.isSome_eq_false_iff] at hguard
        rcases hguard with hbefore | hnone
        · cases hbook : feed.cache.book with
          | none => simp [version, hbook]
          | some book =>
              rw [version_of_book hbook]
              exact (hknown.before book (hbefore ▸ hbook)).trans hsent
        · have hempty := Option.isNone_iff_eq_none.mp hnone
          simp [version, hempty]
    | polymarket => cases hlooks
    | predictFun => cases hlooks
    | opinion => cases hlooks
  · rw [hrequest, Option.all_some, decide_eq_true_eq] at hsince
    have hupper := hknown.upper
    omega

/-- A write of a version that is no older keeps the cached version from falling. -/
theorem keeps_of_store {v : ℕ} (hcache : feed'.cache = feed.cache.store v)
    (hle : version feed.cache ≤ v) : Keeps feed feed' := by
  intro book hbook
  rw [version_of_book hbook] at hle
  exact ⟨⟨v, feed.cache.writes⟩, by rw [hcache]; rfl, hle⟩

/-- A write of an older version makes it fall. -/
theorem not_keeps_of_store {v : ℕ} (hcache : feed'.cache = feed.cache.store v)
    (hlt : v < version feed.cache) : ¬ Keeps feed feed' := by
  intro hkeeps
  cases hbook : feed.cache.book with
  | none => simp [version, hbook] at hlt
  | some book =>
      obtain ⟨book', hbook', hle⟩ := hkeeps book hbook
      rw [hcache] at hbook'
      cases hbook'
      rw [version_of_book hbook] at hlt
      exact absurd hlt (not_lt.mpr hle)

/-- One admitted step keeps the order. -/
theorem Ordered.step (h : Ordered feed) {event : FeedEvent} (hok : feed.Admitted venue event)
    (hstep : VersionedFeed.step venue feed event = some feed') :
    Ordered feed' ∧ Keeps feed feed' := by
  cases event with
  | advance v =>
      simp only [VersionedFeed.step, Option.ite_none_right_eq_some] at hstep
      obtain ⟨hle, hstep⟩ := hstep
      cases hstep
      refine ⟨⟨h.stored.trans hle, ?_, h.upper, h.lower⟩, Keeps.rfl feed⟩
      intro request hmem
      have hold := h.requests request hmem
      exact ⟨hold.sent.trans hle, hold.before, hold.upper, hold.lower⟩
  | request =>
      simp only [VersionedFeed.step, Option.ite_none_left_eq_some] at hstep
      obtain ⟨-, hstep⟩ := hstep
      cases hstep
      refine ⟨⟨h.stored, ?_, h.upper, h.lower⟩, Keeps.rfl feed⟩
      intro request hmem
      rcases List.mem_append.mp hmem with hold | hnew
      · have hok := h.requests request hold
        exact ⟨hok.sent, hok.before, hok.upper, hok.lower⟩
      · rw [List.mem_singleton.mp hnew]
        refine ⟨le_refl _, ?_, h.stored.trans (le_max_left _ _), Nat.zero_le _⟩
        intro book hbook
        rw [← version_of_book hbook]
        exact h.stored
  | response index v =>
      obtain ⟨request, hrequest, hsent, hcurrent, ⟨rfl, -⟩ | ⟨rfl, hstore⟩⟩ := response_cases hstep
      · refine ⟨⟨h.stored, ?_, h.upper, h.lower⟩, Keeps.rfl feed⟩
        intro other hmem
        have hold := h.requests other ((List.eraseIdx_sublist _ _).mem hmem)
        exact ⟨hold.sent, hold.before, hold.upper, hold.lower⟩
      · have hle := version_le_of_response h hrequest hsent hok hstore
        refine ⟨⟨hcurrent, ?_, ?_, ?_⟩, keeps_of_store rfl hle⟩
        · intro other hmem
          obtain ⟨old, hold, rfl⟩ := mem_noteWrite hmem
          have hknown := h.requests old ((List.eraseIdx_sublist _ _).mem hold)
          exact hknown.write (by rfl) (by rfl) hle
        · show v ≤ max feed.streamed (max feed.restSince v)
          omega
        · show max feed.restSince v ≤ v
          have hlower := h.lower
          omega
  | message v =>
      simp only [VersionedFeed.step, Option.ite_none_right_eq_some] at hstep
      obtain ⟨⟨hstreamed, hcurrent⟩, hstep⟩ := hstep
      cases hstep
      have hsince : feed.restSince ≤ v := hok
      have hle : version feed.cache ≤ v := by
        have hupper := h.upper
        omega
      refine ⟨⟨hcurrent, ?_, ?_, Nat.zero_le _⟩, keeps_of_store rfl hle⟩
      · intro request hmem
        obtain ⟨old, hold, rfl⟩ := mem_noteWrite hmem
        exact (h.requests old hold).write (by rfl) (by rfl) hle
      · show v ≤ max v 0
        omega

/-- A step that is not admitted makes the cached version fall. -/
theorem Ordered.not_keeps (h : Ordered feed) {event : FeedEvent}
    (hnot : ¬ feed.Admitted venue event)
    (hstep : VersionedFeed.step venue feed event = some feed') : ¬ Keeps feed feed' := by
  cases event with
  | advance v => exact absurd trivial hnot
  | request => exact absurd trivial hnot
  | response index v =>
      obtain ⟨request, hrequest, hsent, hcurrent, hcase⟩ := response_cases hstep
      obtain ⟨hlooks, hsince⟩ := not_or.mp hnot
      rw [hrequest, Option.all_some, decide_eq_true_eq, not_le] at hsince
      have hlower := (h.requests request (List.mem_of_getElem? hrequest)).lower
      have hstore : venue.storeResponse feed.cache request v = feed.cache.store v := by
        cases venue with
        | polymarket => rfl
        | predictFun => rfl
        | opinion => rfl
        | myriad => exact absurd rfl hlooks
      rcases hcase with ⟨-, hsame⟩ | ⟨rfl, -⟩
      · have hwrites := congrArg VersionCache.writes (hsame.symm.trans hstore)
        exact absurd hwrites (Nat.ne_of_lt (Nat.lt_succ_self _))
      · exact not_keeps_of_store rfl (hsince.trans_le hlower)
  | message v =>
      simp only [VersionedFeed.step, Option.ite_none_right_eq_some] at hstep
      obtain ⟨-, hstep⟩ := hstep
      cases hstep
      have hsince : v < feed.restSince := not_le.mp hnot
      exact not_keeps_of_store rfl (hsince.trans_le h.lower)

/-! ## Whole runs -/

/-- **The cached version.**  In every run of a connection whose steps are admitted the cached version
never falls, from any state of the run on; and in every state of such a run a further step keeps it
exactly when it is admitted. -/
theorem cached_version_monotone (venue : Venue) {hist : List VersionedFeed}
    (h : Run (step venue) (fun feed event => feed.Admitted venue event) {} hist feed) :
    (∀ earlier ∈ hist, Keeps earlier feed)
      ∧ ∀ event after, step venue feed event = some after →
        (feed.Admitted venue event ↔ Keeps feed after) := by
  have hinvariant : Ordered feed ∧ ∀ earlier ∈ hist, Keeps earlier feed := by
    refine h.invariant (fun hist feed => Ordered feed ∧ ∀ earlier ∈ hist, Keeps earlier feed)
      ⟨ordered_start, fun _ hmem => absurd hmem List.not_mem_nil⟩ ?_
    intro hist s event s' hs hok hstep
    obtain ⟨hordered, hkeeps⟩ := hs.1.step hok hstep
    refine ⟨hordered, ?_⟩
    intro earlier hmem
    rcases List.mem_cons.mp hmem with rfl | hold
    · exact hkeeps
    · exact (hs.2 earlier hold).trans hkeeps
  refine ⟨hinvariant.2, ?_⟩
  intro event after hstep
  constructor
  · exact fun hok => (hinvariant.1.step hok hstep).2
  · intro hkeeps
    by_contra hnot
    exact hinvariant.1.not_keeps hnot hstep hkeeps

/-! ### A late response and a late message -/

/-- Version 2 is streamed while a request sent at version 1 is under way. -/
def lateResponse : List FeedEvent := [.advance 1, .request, .advance 2, .message 2]

/-- Version 2 is cached by REST while the message of version 1 is under way. -/
def lateMessage : List FeedEvent := [.advance 1, .request, .advance 2, .response 0 2]

/-- The response of version 1 replaces version 2 but for Myriad, and the message of version 1
replaces it for all four. -/
theorem cached_version_falls :
    (∀ venue, venue ≠ Venue.myriad → ∃ s s',
        exec (step venue) anyAction {} lateResponse = some s
          ∧ step venue s (.response 0 1) = some s' ∧ ¬ Keeps s s')
      ∧ ∀ venue, ∃ s s', exec (step venue) anyAction {} lateMessage = some s
        ∧ step venue s (.message 1) = some s' ∧ ¬ Keeps s s' := by
  have hfalls : ∀ s s' : VersionedFeed, (∃ write, s.cache.book = some ⟨2, write⟩) →
      (∃ write, s'.cache.book = some ⟨1, write⟩) → ¬ Keeps s s' := by
    intro s s' hs hs' hkeeps
    obtain ⟨write, hbook⟩ := hs
    obtain ⟨write', hbook'⟩ := hs'
    obtain ⟨book, hlast, hle⟩ := hkeeps _ hbook
    rw [hbook'] at hlast
    cases hlast
    have htwo : 2 ≤ 1 := hle
    omega
  constructor
  · intro venue hvenue
    cases venue with
    | myriad => exact absurd rfl hvenue
    | polymarket => exact ⟨_, _, rfl, rfl, hfalls _ _ ⟨_, rfl⟩ ⟨_, rfl⟩⟩
    | predictFun => exact ⟨_, _, rfl, rfl, hfalls _ _ ⟨_, rfl⟩ ⟨_, rfl⟩⟩
    | opinion => exact ⟨_, _, rfl, rfl, hfalls _ _ ⟨_, rfl⟩ ⟨_, rfl⟩⟩
  · intro venue
    cases venue with
    | myriad => exact ⟨_, _, rfl, rfl, hfalls _ _ ⟨_, rfl⟩ ⟨_, rfl⟩⟩
    | polymarket => exact ⟨_, _, rfl, rfl, hfalls _ _ ⟨_, rfl⟩ ⟨_, rfl⟩⟩
    | predictFun => exact ⟨_, _, rfl, rfl, hfalls _ _ ⟨_, rfl⟩ ⟨_, rfl⟩⟩
    | opinion => exact ⟨_, _, rfl, rfl, hfalls _ _ ⟨_, rfl⟩ ⟨_, rfl⟩⟩

/-- Myriad drops the late response of version 1, so version 2 stays. -/
theorem cached_version_kept_by_myriad : ∃ s,
    exec (step .myriad) (fun feed event => feed.Admitted .myriad event) {}
        (lateResponse ++ [.response 0 1]) = some s
      ∧ s.cache.book = some ⟨2, 0⟩
      ∧ ∀ event after, step .myriad s event = some after →
        (s.Admitted .myriad event ↔ Keeps s after) := by
  have hbook : (exec (step .myriad) (fun feed event => feed.Admitted .myriad event) {}
      (lateResponse ++ [.response 0 1])).map (fun s => s.cache.book) = some (some ⟨2, 0⟩) := by
    decide +kernel
  obtain ⟨s, hs, hget⟩ := Option.map_eq_some_iff.mp hbook
  obtain ⟨hist, hrun⟩ := Run.of_exec hs
  exact ⟨s, hs, hget, (cached_version_monotone .myriad hrun).2⟩

end VersionedFeed

end MarketData

end ArbitrageEngine
