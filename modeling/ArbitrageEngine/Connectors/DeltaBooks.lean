/-
# ArbitrageEngine.Connectors.DeltaBooks -- books kept up to date by numbered changes

Polymarket and Myriad send full books and change messages.  Both connectors apply a change message
with the same rule: the new book takes the message's number and is valid when the number follows the
one before, or when either is unknown; what the status was before plays no role.

So a book that became invalid by a gap, or stale by a disconnect, is valid again after the next
message in order, and a message that cannot be placed is trusted.  Where a change message reaches
only books it can be placed on, a valid book is a full book of this connection with every message
since applied: that is the invariant here, and the connectors instantiate it.
-/
import ArbitrageEngine.Connectors.OrderBooks
import ArbitrageEngine.Lib.Replay
import ArbitrageEngine.Lib.Runs
import ArbitrageEngine.Models

namespace ArbitrageEngine.MarketData

open Lib Lib.Replay Lib.Runs

/-! ## Change messages -/

/-- One change of a message, an entry that is a mapping.  `assetId` and `token` are the two ways
Polymarket reads its token (`_asset_id`, empty where it names none, and the narrower look of
`_apply_price_changes`), `outcome` is Myriad's; `side` is its text in upper case. -/
structure Change where
  assetId : String := ""
  token : Option String := none
  outcome : Option ℤ := none
  level : Option Level
  side : String
  sequence : Option ℤ
deriving DecidableEq

/-- The side a change is written to. -/
def Change.bookSide (change : Change) : Option BookSide :=
  if change.side ∈ ["BUY", "BID", "BIDS"] then some .bids
  else if change.side ∈ ["SELL", "ASK", "ASKS"] then some .asks
  else none

/-- The loop over the changes; one that does not apply, or has no level or side, is skipped. -/
def writeChanges (applies : Change → Bool) (changes : List Change) (sizes : Sizes) : Sizes :=
  changes.foldl (fun sizes change =>
    if applies change then
      match change.level, change.bookSide with
      | some level, some side => sizes.write side level
      | _, _ => sizes
    else sizes) sizes

/-- `next_sequence`: the greatest number in the message. -/
def nextSequence (changes : List Change) : Option ℤ := (changes.filterMap (·.sequence)).max?

/-- `valid_sequence`. -/
def validSequence (sequence next : Option ℤ) : Bool :=
  match sequence, next with
  | some sequence, some next => next = sequence + 1
  | _, _ => true

/-- What `_apply_price_changes` and `_apply_orderbook_changes` share: which changes apply, and how
many levels of a side are kept, is the connector's. -/
def applyChanges (applies : Change → Bool) (kept : List Level → List Level) (book : Book)
    (changes : List Change) : Book :=
  let sizes := writeChanges applies changes (Sizes.ofBook book)
  let next := nextSequence changes
  { bids := kept sizes.sortedBids
    asks := kept sizes.sortedAsks
    sequence := next.or book.sequence
    status := if validSequence book.sequence next then .valid else .invalid }

/-! ## The cache -/

/-- What a message does to the book of one token: it brings a full book, it changes the cached book
if there is one, or it is not for that token. -/
inductive Treatment
  | snapshot (book : Book)
  | change
  | nothing
deriving DecidableEq

-- How a message changes the book of each token.
variable (apply : String → Book → List Change → Book)

/-- The loop over the tokens of a message. -/
def treat (treatment : String → Treatment) (changes : List Change) (books : Dict String Book)
    (token : String) : Dict String Book :=
  match treatment token with
  | .snapshot book => books.set token book
  | .change =>
      match books.get? token with
      | none => books
      | some cached => books.set token (apply token cached changes)
  | .nothing => books

/-- `_mark_books_stale`, over the tokens that are targets. -/
def markBooksStale (targets : TokenSet) (books : Dict String Book) : Dict String Book :=
  books.entries.foldl (fun books entry =>
    if (targets.get? entry.1).isSome then books.set entry.1 { entry.2 with status := .stale }
    else books) books

/-- The book of a token after its treatment. -/
def Treatment.after (treatment : Treatment) (token : String) (changes : List Change)
    (cached : Option Book) : Option Book :=
  match treatment with
  | .snapshot book => some book
  | .change => cached.map fun book => apply token book changes
  | .nothing => cached

theorem get?_treat (treatment : String → Treatment) (changes : List Change)
    (books : Dict String Book) (token other : String) :
    (treat apply treatment changes books token).get? other =
      if other = token then (treatment token).after apply token changes (books.get? token)
      else books.get? other := by
  unfold treat Treatment.after
  by_cases hsame : other = token
  · subst hsame
    rw [if_pos rfl]
    match treatment other with
    | .snapshot book => simp
    | .change => cases hcached : books.get? other <;> simp [hcached]
    | .nothing => rfl
  · rw [if_neg hsame]
    match treatment token with
    | .snapshot book => simp [hsame]
    | .change => cases hcached : books.get? token <;> simp [hsame]
    | .nothing => rfl

/-- A loop over tokens that are all different treats each of them once. -/
theorem get?_foldl_treat (treatment : String → Treatment) (changes : List Change)
    (tokens : List String) (hnodup : tokens.Nodup) (books : Dict String Book) (other : String) :
    (tokens.foldl (treat apply treatment changes) books).get? other =
      if other ∈ tokens then (treatment other).after apply other changes (books.get? other)
      else books.get? other := by
  induction tokens generalizing books with
  | nil => simp
  | cons token rest ih =>
      obtain ⟨hnotin, hrest⟩ := List.nodup_cons.mp hnodup
      rw [List.foldl_cons, ih hrest, get?_treat]
      by_cases hsame : other = token
      · subst hsame
        simp [hnotin]
      · simp [hsame]

/-- Marking the books leaves no valid book of a target, and other books as they were. -/
theorem status_markBooksStale {targets : TokenSet} {books : Dict String Book}
    (htargets : ∀ token, (books.get? token).isSome → (targets.get? token).isSome)
    {token : String} {book : Book} (h : (markBooksStale targets books).get? token = some book) :
    book.status ≠ .valid := by
  -- The valid books are always among the entries the loop has yet to reach.
  have hloop : ∀ (entries : List (String × Book)) (marked : Dict String Book),
      (∀ entry ∈ entries, (targets.get? entry.1).isSome) →
      (∀ token book, marked.get? token = some book → book.status = .valid →
        (token, book) ∈ entries) →
      ∀ token book, (entries.foldl (fun books entry =>
        if (targets.get? entry.1).isSome then books.set entry.1 { entry.2 with status := .stale }
        else books) marked).get? token = some book → book.status ≠ .valid := by
    intro entries
    induction entries with
    | nil => exact fun marked _ hall token book hbook hvalid =>
        absurd (hall token book hbook hvalid) List.not_mem_nil
    | cons entry rest ih =>
        intro marked hmem hall
        rw [List.foldl_cons, if_pos (hmem entry List.mem_cons_self)]
        apply ih
        · exact fun e he => hmem e (List.mem_cons_of_mem _ he)
        · intro token book hbook hvalid
          rw [Dict.get?_set] at hbook
          split at hbook
          · cases hbook
            cases hvalid
          · next hne =>
              rcases List.mem_cons.mp (hall token book hbook hvalid) with heq | hrest
              · exact absurd (congrArg Prod.fst heq) hne
              · exact hrest
  refine hloop books.entries books ?_ ?_ token book h
  · intro entry hentry
    apply htargets
    rw [← Dict.mem_keys_iff]
    exact List.mem_map_of_mem hentry
  · exact fun token book hbook _ => Dict.get?_eq_some_iff.mp hbook

theorem isSome_markBooksStale {targets : TokenSet} {books : Dict String Book} {token : String}
    (h : ((markBooksStale targets books).get? token).isSome) : (books.get? token).isSome := by
  have hloop : ∀ (entries : List (String × Book)) (marked : Dict String Book),
      (∀ entry ∈ entries, (books.get? entry.1).isSome) →
      (∀ token, (marked.get? token).isSome → (books.get? token).isSome) →
      ∀ token, ((entries.foldl (fun books entry =>
        if (targets.get? entry.1).isSome then books.set entry.1 { entry.2 with status := .stale }
        else books) marked).get? token).isSome → (books.get? token).isSome := by
    intro entries
    induction entries with
    | nil => exact fun marked _ hall token h => hall token h
    | cons entry rest ih =>
        intro marked hmem hall
        rw [List.foldl_cons]
        apply ih
        · exact fun e he => hmem e (List.mem_cons_of_mem _ he)
        · intro token htoken
          split at htoken
          · rw [Dict.get?_set] at htoken
            split at htoken
            · next heq => exact heq ▸ hmem entry List.mem_cons_self
            · exact hall token htoken
          · exact hall token htoken
  refine hloop books.entries books ?_ (fun _ h => h) token h
  intro entry hentry
  rw [← Dict.mem_keys_iff]
  exact List.mem_map_of_mem hentry

/-! ## What a valid book is -/

/-- The full books and the change messages received since the connection was last lost, each with a
token it is for. -/
structure StreamLog where
  snapshots : List (String × Book) := []
  messages : List (String × List Change) := []

namespace StreamLog

def snapshotsOf (log : StreamLog) (token : String) : List Book :=
  (log.snapshots.filter (·.1 = token)).map Prod.snd

def messagesOf (log : StreamLog) (token : String) : List (List Change) :=
  (log.messages.filter (·.1 = token)).map Prod.snd

/-- The log after a message that is treated by these tokens. -/
def record (log : StreamLog) (treatment : String → Treatment) (changes : List Change)
    (tokens : List String) : StreamLog where
  snapshots := (tokens.filterMap fun token => match treatment token with
    | .snapshot book => some (token, book)
    | _ => none) ++ log.snapshots
  messages := (tokens.filterMap fun token => match treatment token with
    | .change => some (token, changes)
    | _ => none) ++ log.messages

theorem mem_snapshotsOf {log : StreamLog} {token : String} {book : Book} :
    book ∈ log.snapshotsOf token ↔ (token, book) ∈ log.snapshots := by
  simp [snapshotsOf]

theorem mem_messagesOf {log : StreamLog} {token : String} {changes : List Change} :
    changes ∈ log.messagesOf token ↔ (token, changes) ∈ log.messages := by
  simp [messagesOf]

end StreamLog

/-- The book is a full book of this connection with every message since applied. -/
def Rebuilt (log : StreamLog) (token : String) (book : Book) : Prop :=
  Replayed (apply token) Book.sequence nextSequence (log.snapshotsOf token) (log.messagesOf token)
    book

/-- Every valid book is rebuilt. -/
def Tracked (books : Dict String Book) (log : StreamLog) : Prop :=
  ∀ token book, books.get? token = some book → book.status = .valid → Rebuilt apply log token book

/-- Can a change message be placed on this book?  Both are numbered, and where the message is the
next one the book is valid. -/
def placeable (book : Book) (changes : List Change) : Bool :=
  match book.sequence, nextSequence changes with
  | some sequence, some next => next ≠ sequence + 1 || book.status = .valid
  | _, _ => false

/-- The rule of both connectors for the number and the status of a changed book. -/
structure DeltaRule (apply : Book → List Change → Book) : Prop where
  sequence : ∀ book changes, (apply book changes).sequence = (nextSequence changes).or book.sequence
  status : ∀ book changes, (apply book changes).status =
    if validSequence book.sequence (nextSequence changes) then .valid else .invalid

theorem deltaRule_applyChanges (applies : Change → Bool) (kept : List Level → List Level) :
    DeltaRule (applyChanges applies kept) :=
  ⟨fun _ _ => rfl, fun _ _ => rfl⟩

variable {apply} {books books' : Dict String Book} {log log' : StreamLog}

/-- Books that were there before stay rebuilt. -/
theorem Tracked.mono (h : Tracked apply books log)
    (hbooks : ∀ token book, books'.get? token = some book → books.get? token = some book) :
    Tracked apply books' log :=
  fun token book hbook hvalid => h token book (hbooks token book hbook) hvalid

/-- Without a valid book there is nothing to rebuild. -/
theorem Tracked.of_none_valid
    (h : ∀ token book, books.get? token = some book → book.status ≠ .valid) :
    Tracked apply books log :=
  fun token book hbook hvalid => absurd hvalid (h token book hbook)

theorem Rebuilt.mono {token : String} {book : Book} (h : Rebuilt apply log token book)
    (hsnapshots : ∀ e ∈ log.snapshots, e ∈ log'.snapshots)
    (hmessages : ∀ e ∈ log.messages, e ∈ log'.messages) : Rebuilt apply log' token book := by
  refine Replayed.mono h ?_ ?_
  · intro base hbase
    rw [StreamLog.mem_snapshotsOf] at hbase ⊢
    exact hsnapshots _ hbase
  · intro changes hchanges
    rw [StreamLog.mem_messagesOf] at hchanges ⊢
    exact hmessages _ hchanges

/-- A message that can be placed where it reaches keeps every valid book rebuilt. -/
theorem Tracked.treated (hrule : ∀ token, DeltaRule (apply token)) (h : Tracked apply books log)
    (treatment : String → Treatment) (changes : List Change) {tokens : List String}
    (hnodup : tokens.Nodup)
    (hplaced : ∀ token ∈ tokens, treatment token = .change → ∀ book,
      books.get? token = some book → placeable book changes = true) :
    Tracked apply (tokens.foldl (treat apply treatment changes) books)
      (log.record treatment changes tokens) := by
  intro token book hbook hvalid
  have hsnapshots : ∀ e ∈ log.snapshots, e ∈ (log.record treatment changes tokens).snapshots :=
    fun _ he => List.mem_append_right _ he
  have hmessages : ∀ e ∈ log.messages, e ∈ (log.record treatment changes tokens).messages :=
    fun _ he => List.mem_append_right _ he
  rw [get?_foldl_treat apply treatment changes tokens hnodup] at hbook
  split at hbook
  · next hmem =>
      cases htreatment : treatment token with
      | snapshot full =>
          rw [htreatment] at hbook
          cases hbook
          apply Replayed.base
          rw [StreamLog.mem_snapshotsOf]
          apply List.mem_append_left
          exact List.mem_filterMap.mpr ⟨token, hmem, by simp [htreatment]⟩
      | change =>
          rw [htreatment] at hbook
          obtain ⟨cached, hcached, rfl⟩ := Option.map_eq_some_iff.mp hbook
          have hplace := hplaced token hmem htreatment cached hcached
          rw [(hrule token).status] at hvalid
          unfold placeable at hplace
          split at hplace
          · next sequence next hsequence hnext =>
              -- A valid result means that the message was the next one.
              rw [hsequence, hnext] at hvalid
              simp only [validSequence, decide_eq_true_eq] at hvalid
              have hfollows : next = sequence + 1 := by
                by_contra hne
                rw [if_neg hne] at hvalid
                cases hvalid
              have hbefore : cached.status = .valid := by simpa [hfollows] using hplace
              have hold := (h token cached hcached hbefore).mono hsnapshots hmessages
              refine Replayed.next ?_ hold hsequence ?_ (hfollows ▸ hnext)
              · intro state message k hk
                rw [(hrule token).sequence, hk]
                rfl
              · rw [StreamLog.mem_messagesOf]
                apply List.mem_append_left
                exact List.mem_filterMap.mpr ⟨token, hmem, by simp [htreatment]⟩
          · cases hplace
      | nothing =>
          rw [htreatment] at hbook
          exact (h token book hbook hvalid).mono hsnapshots hmessages
  · exact (h token book hbook hvalid).mono hsnapshots hmessages

/-! ## The machine of a connector -/

/-- The market data of a connector: the cached books and the tokens it wants books of. -/
structure BookCache where
  books : Dict String Book := Dict.empty
  targets : TokenSet := Dict.empty

/-- What one message does, token by token. -/
structure Delivery where
  treatment : String → Treatment
  changes : List Change
  tokens : List String
  nodup : tokens.Nodup

/-- A full book of one token. -/
def Delivery.full (token : String) (book : Book) : Delivery :=
  ⟨fun _ => .snapshot book, [], [token], List.nodup_singleton token⟩

/-- What can happen to the cache. -/
inductive CacheAction
  | deliver (delivery : Delivery)
  | register (token : String)
  /-- The targets are replaced, and the books of the tokens that are none any more are dropped. -/
  | retarget (targets : TokenSet)
  /-- The connection is lost. -/
  | lose

/-- A cache, with the messages received since the connection was last lost. -/
structure Watched where
  cache : BookCache := {}
  log : StreamLog := {}

namespace Watched

variable (apply)

def take (s : Watched) : CacheAction → Watched
  | .deliver delivery =>
      { cache := { s.cache with
          books := delivery.tokens.foldl (treat apply delivery.treatment delivery.changes)
            s.cache.books }
        log := s.log.record delivery.treatment delivery.changes delivery.tokens }
  | .register token =>
      { s with cache := { s.cache with targets := s.cache.targets.set token () } }
  | .retarget targets =>
      { s with
        cache := {
          books := s.cache.books.filter fun entry =>
            (s.cache.targets.get? entry.1).isNone || (targets.get? entry.1).isSome
          targets := targets } }
  | .lose => { cache := { s.cache with books := markBooksStale s.cache.targets s.cache.books }
               log := {} }

/-- A delivery is to targets only. -/
def Addressed (s : Watched) : CacheAction → Prop
  | .deliver delivery => ∀ token ∈ delivery.tokens, (s.cache.targets.get? token).isSome
  | _ => True

/-- The changes of a delivery can be placed on the cached books they reach. -/
def Placed (s : Watched) : CacheAction → Prop
  | .deliver delivery => ∀ token ∈ delivery.tokens, delivery.treatment token = .change →
      ((s.cache.books.get? token).all fun book => placeable book delivery.changes) = true
  | _ => True

instance (s : Watched) : ∀ action, Decidable (s.Placed action)
  | .deliver delivery => inferInstanceAs (Decidable (∀ token ∈ delivery.tokens,
      delivery.treatment token = .change →
        ((s.cache.books.get? token).all fun book => placeable book delivery.changes) = true))
  | .register _ | .retarget _ | .lose => inferInstanceAs (Decidable True)

/-- Valid books are rebuilt, and only targets have books. -/
structure Good (s : Watched) : Prop where
  tracked : Tracked apply s.cache.books s.log
  targeted : ∀ token, (s.cache.books.get? token).isSome → (s.cache.targets.get? token).isSome

variable {apply} {s : Watched}

theorem good_start : Good apply {} where
  tracked _ _ h := by cases h
  targeted _ h := by cases h

theorem Good.take (hrule : ∀ token, DeltaRule (apply token)) (h : Good apply s)
    (action : CacheAction) (haddressed : s.Addressed action) (hplaced : s.Placed action) :
    Good apply (s.take apply action) := by
  cases action with
  | deliver delivery =>
      have hreached : ∀ token ∈ delivery.tokens, delivery.treatment token = .change → ∀ book,
          s.cache.books.get? token = some book → placeable book delivery.changes = true := by
        intro token hmem htreatment book hbook
        have hall := hplaced token hmem htreatment
        rwa [hbook, Option.all_some] at hall
      refine ⟨h.tracked.treated hrule _ _ delivery.nodup hreached, ?_⟩
      intro token htoken
      rw [Watched.take, get?_foldl_treat apply _ _ _ delivery.nodup] at htoken
      split at htoken
      · next hmem => exact haddressed token hmem
      · exact h.targeted token htoken
  | register token =>
      refine ⟨h.tracked, ?_⟩
      intro other hother
      show ((s.cache.targets.set token ()).get? other).isSome
      rw [Dict.get?_set]
      split
      · rfl
      · exact h.targeted other hother
  | retarget targets =>
      refine ⟨h.tracked.mono ?_, ?_⟩
      · intro token book hbook
        rw [Watched.take, Dict.get?_filter, Option.filter_eq_some_iff] at hbook
        exact hbook.1
      · intro token htoken
        obtain ⟨book, hbook⟩ := Option.isSome_iff_exists.mp htoken
        rw [Watched.take, Dict.get?_filter, Option.filter_eq_some_iff] at hbook
        have hold := h.targeted token (Option.isSome_iff_exists.mpr ⟨book, hbook.1⟩)
        have hkept := hbook.2
        rw [Bool.or_eq_true, Option.isNone_iff_eq_none] at hkept
        rcases hkept with hnone | hsome
        · rw [hnone] at hold
          cases hold
        · exact hsome
  | lose =>
      refine ⟨.of_none_valid fun token book hbook => status_markBooksStale h.targeted hbook, ?_⟩
      exact fun token htoken => h.targeted token (isSome_markBooksStale htoken)

/-- A book that is not valid becomes valid by a full book only. -/
theorem Good.restored (hrule : ∀ token, DeltaRule (apply token)) (h : Good apply s)
    (action : CacheAction) (hplaced : s.Placed action) {token : String} {book book' : Book}
    (hbook : s.cache.books.get? token = some book) (hstatus : book.status ≠ .valid)
    (hbook' : (s.take apply action).cache.books.get? token = some book')
    (hvalid : book'.status = .valid) :
    ∃ added, (s.take apply action).log.snapshots = added ++ s.log.snapshots
      ∧ (token, book') ∈ added := by
  -- Nothing else restores the status.
  have hsame : book' = book → False := fun heq => hstatus (heq ▸ hvalid)
  cases action with
  | deliver delivery =>
      refine ⟨_, rfl, ?_⟩
      rw [Watched.take, get?_foldl_treat apply _ _ _ delivery.nodup] at hbook'
      split at hbook'
      · next hmem =>
          cases htreatment : delivery.treatment token with
          | snapshot full =>
              rw [htreatment] at hbook'
              cases hbook'
              exact List.mem_filterMap.mpr ⟨token, hmem, by simp [htreatment]⟩
          | change =>
              rw [htreatment, Treatment.after, hbook] at hbook'
              cases hbook'
              have hplace := hplaced token hmem htreatment
              rw [hbook, Option.all_some] at hplace
              rw [(hrule token).status] at hvalid
              unfold placeable at hplace
              split at hplace
              · next sequence next hsequence hnext =>
                  rw [hsequence, hnext] at hvalid
                  simp [validSequence, hstatus] at hplace hvalid
                  exact absurd hvalid hplace
              · cases hplace
          | nothing =>
              rw [htreatment, Treatment.after, hbook] at hbook'
              exact (hsame (Option.some.inj hbook').symm).elim
      · rw [hbook] at hbook'
        exact (hsame (Option.some.inj hbook').symm).elim
  | register other =>
      rw [show (s.take apply (.register other)).cache.books = s.cache.books from rfl, hbook] at hbook'
      exact (hsame (Option.some.inj hbook').symm).elim
  | retarget targets =>
      rw [Watched.take, Dict.get?_filter, Option.filter_eq_some_iff, hbook] at hbook'
      exact (hsame (Option.some.inj hbook'.1).symm).elim
  | lose => exact absurd hvalid (status_markBooksStale h.targeted hbook')

end Watched

end ArbitrageEngine.MarketData
