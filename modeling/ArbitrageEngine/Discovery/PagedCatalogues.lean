/-
# ArbitrageEngine.Discovery.PagedCatalogues -- the catalogues that are read page by page

Seven loops read a list that a venue hands out in pages: the catalogues of Predict.fun, SX Bet,
Myriad, Opinion and of Polymarket's order book, the fee catalogue of Myriad, and the trades of SX
Bet.  Each has its own way to tell the last page: a cursor that is missing, a flag, a count of
pages, a total, a batch that is short.  A payload may be any JSON value.

The loops of SX Bet's and of Polymarket's catalogue always end and never stop early.  Those of
Myriad and of the trades have no bound on the pages; Opinion's stops at a short batch whatever total
is announced, and Predict.fun's at a page that names no other cursor than its own.
-/
import ArbitrageEngine.Execution.Residual
import ArbitrageEngine.Lib.JsonValue
import ArbitrageEngine.Lib.PagedReads

namespace ArbitrageEngine.Catalogues

open Execution (strip)
open Lib (Json Texts Turn Reading Dict)

/-- What a fetch raises. -/
inductive Fault
  | runtime (message : String)
  /-- A request that failed. -/
  | request
  /-- A `ValueError` or `TypeError` of the language. -/
  | value
deriving DecidableEq

/-! ## Records and announcements -/

/-- The records of a payload: a list, or what is under the first of the keys that has a list, or has
records deeper down. -/
def recordsUnder (keys : List String) : Json → List Json
  | .array items => items.filter Json.isObject
  | .object _ fields =>
      (keys.findSome? fun key =>
        let found := recordsUnder keys (fields key)
        match fields key with
        | .array _ => some found
        | .object .. => if found.isEmpty then none else some found
        | _ => none).getD []
  | _ => []

/-- `_extract_market_list`. -/
def extractMarketList : Json → List Json := recordsUnder ["markets", "data", "items", "results"]

variable (texts : Texts)

/-- `int(str(value)) > page`, where nothing else is said of a text that is no number. -/
def isBeyond (value : Json) (page : ℕ) (unreadable : Except Fault Bool) : Except Fault Bool :=
  match texts.int value with
  | some number => .ok ((page : ℤ) < number)
  | none => unreadable

/-- What `_has_next_page` of the two catalogues does with the keys of its containers, and with a
text that is no number. -/
def hasNextPage (containers : List String) (unreadable : Except Fault Bool) (payload : Json)
    (page : ℕ) : Except Fault Bool :=
  let pagination := Json.orChain (containers.map fun key => payload.get key)
  if pagination.isObject = false then .ok false
  else
    let flag := pagination.firstPresent ["hasNext", "has_next", "hasNextPage", "has_next_page"]
    if flag.isPresent then .ok flag.truth
    else
      let nextPage := Json.orChain [pagination.get "nextPage", pagination.get "next_page"]
      if nextPage.isBlank = false then isBeyond texts nextPage page unreadable
      else
        let totalPages := Json.orChain [pagination.get "totalPages", pagination.get "total_pages"]
        if totalPages.isBlank = false then isBeyond texts totalPages page unreadable
        else .ok false

/-- The answers to the requests before the last, and the last answer. -/
theorem answers_concat {server : ℕ → Except Fault Json} {pages : List Json} {last : Json}
    (h : ∀ i page, (pages ++ [last])[i]? = some page → server i = .ok page) :
    (∀ i page, pages[i]? = some page → server i = .ok page) ∧
      server pages.length = .ok last := by
  refine ⟨fun i page hpage => h i page ?_, h _ last List.getElem?_concat_length⟩
  rw [List.getElem?_append_left (List.getElem?_eq_some_iff.mp hpage).1]
  exact hpage

/-! ## Predict.fun -/

namespace PredictFun

/-- `_MAX_MARKET_PAGES`. -/
def maxMarketPages : ℕ := 500

/-- The mappings in which `_next_cursor` looks for flags and cursors. -/
def containers (payload : Json) : List Json :=
  payload :: ["data", "pageInfo", "page_info", "pagination"].flatMap fun key =>
    let value := payload.get key
    if value.isObject then
      value :: (["pageInfo", "page_info", "pagination"].map fun nested => value.get nested).filter
        Json.isObject
    else []

/-- The flag of a container, where it is a bool. -/
def pageState (container : Json) : Option Bool :=
  match container.firstPresent ["hasNextPage", "has_next_page", "hasNext"] with
  | .bool state => some state
  | _ => none

/-- The cursors of a container. -/
def cursorsOf (container : Json) : List String :=
  ((["nextCursor", "next_cursor", "endCursor", "end_cursor", "after", "cursor"].map fun key =>
    let value := container.get key
    if value.isObject then
      Json.orChain [value.get "after", value.get "next", value.get "endCursor"]
    else value).filter fun value => !value.isBlank).map texts.str

/-- `_next_cursor`. -/
def nextCursor (payload : Json) (current : Option String) : Except Fault (Option String) :=
  if payload.isObject = false then .ok none
  else
    let containers := containers payload
    let states := containers.filterMap pageState
    if true ∈ states ∧ false ∈ states then
      .error (.runtime "Predict.fun market discovery pagination returned conflicting page state")
    else if true ∈ states then
      let candidates := (containers.filter fun container => pageState container = some true).flatMap
        (cursorsOf texts)
      match candidates.find? fun cursor => some cursor ≠ current with
      | some cursor => .ok (some cursor)
      | none =>
          if candidates.isEmpty then
            .error (.runtime "Predict.fun market discovery pagination omitted the next cursor")
          else
            .error (.runtime "Predict.fun market discovery pagination repeated the current cursor")
    else if false ∈ states then .ok none
    else .ok ((containers.flatMap (cursorsOf texts)).find? fun cursor => some cursor ≠ current)

/-- Each page names a cursor that no page before it named. -/
inductive Chain : List Json → List String → Prop
  | nil : Chain [] []
  | concat {pages : List Json} {cursors : List String} {page : Json} {cursor : String}
      (chain : Chain pages cursors)
      (names : nextCursor texts page cursors.getLast? = .ok (some cursor))
      (fresh : cursor ∉ cursors) : Chain (pages ++ [page]) (cursors ++ [cursor])

/-- What the loop of `_fetch_markets` remembers. -/
structure Cursors where
  after : Option String := none
  seen : List String := []

/-- One round of the loop. -/
def turn (state : Cursors) (payload : Json) : Turn Cursors Fault :=
  match nextCursor texts payload state.after with
  | .error fault => .raises fault
  | .ok none => .stops
  | .ok (some cursor) =>
      if cursor ∈ state.seen then
        .raises (.runtime "Predict.fun market discovery pagination repeated a cursor")
      else .next ⟨some cursor, state.seen ++ [cursor]⟩

/-- `_fetch_markets`, with no cached payloads. -/
def fetchMarkets (url : String) : Reading Json (ℕ × Cursors) Fault Json (List Json) :=
  .bounded maxMarketPages (.runtime "Predict.fun market discovery exceeded 500 pages")
    { start := {}
      turn := turn texts
      records := extractMarketList
      finish := fun markets =>
        if markets.isEmpty then
          .error (.runtime ("Predict.fun markets API returned no market records from " ++ url))
        else .ok markets }

/-- A payload announces a further page: by a flag, or without one by a cursor. -/
def Announces (payload : Json) : Prop :=
  payload.isObject ∧
    (true ∈ (containers payload).filterMap pageState ∨
      (containers payload).filterMap pageState = [] ∧
        (containers payload).flatMap (cursorsOf texts) ≠ [])

/-- A payload without a flag names this cursor and no other. -/
def NamesOnly (payload : Json) (current : Option String) : Prop :=
  payload.isObject ∧ (containers payload).filterMap pageState = [] ∧
    (containers payload).flatMap (cursorsOf texts) ≠ [] ∧
    ∀ cursor ∈ (containers payload).flatMap (cursorsOf texts), some cursor = current

/-- After pages that each name a new cursor comes one that names the last of these again, without a
flag, and there are records. -/
def Repeats (server : ℕ → Except Fault Json) : Prop :=
  ∃ earlier cursors last, Chain texts earlier cursors ∧ earlier.length < maxMarketPages ∧
    (∀ i page, earlier[i]? = some page → server i = .ok page) ∧
    server earlier.length = .ok last ∧ NamesOnly texts last cursors.getLast? ∧
    (earlier ++ [last]).flatMap extractMarketList ≠ []

variable {texts} {server : ℕ → Except Fault Json} {url : String}

theorem turn_eq_stops {state : Cursors} {payload : Json} :
    turn texts state payload = .stops ↔ nextCursor texts payload state.after = .ok none := by
  unfold turn
  cases hcursor : nextCursor texts payload state.after with
  | error fault => simp
  | ok cursor =>
    cases cursor with
    | none => simp
    | some cursor =>
      simp only [Except.ok.injEq, reduceCtorEq, iff_false]
      split
      · nofun
      · nofun

theorem turn_eq_next {state state' : Cursors} {payload : Json} :
    turn texts state payload = .next state' ↔
      ∃ cursor, nextCursor texts payload state.after = .ok (some cursor) ∧ cursor ∉ state.seen ∧
        state' = ⟨some cursor, state.seen ++ [cursor]⟩ := by
  unfold turn
  cases hcursor : nextCursor texts payload state.after with
  | error fault => simp
  | ok cursor =>
    cases cursor with
    | none => simp
    | some cursor =>
      simp only [Except.ok.injEq, Option.some.injEq, exists_eq_left']
      by_cases hseen : cursor ∈ state.seen
      · simp [hseen]
      · simp [hseen, eq_comm]

/-- The loop stops at a payload that announces a further page only where it names the cursor of the
request alone. -/
theorem stops_announcing {payload : Json} {current : Option String} :
    nextCursor texts payload current = .ok none ∧ Announces texts payload ↔
      NamesOnly texts payload current := by
  unfold nextCursor Announces NamesOnly
  by_cases hobject : payload.isObject = true
  · have hstates : (containers payload).filterMap pageState = [] ↔
        ¬ true ∈ (containers payload).filterMap pageState ∧
          ¬ false ∈ (containers payload).filterMap pageState := by
      rw [List.eq_nil_iff_forall_not_mem, Bool.forall_bool, and_comm]
    simp only [hobject, Bool.true_eq_false, if_false, true_and]
    by_cases htrue : true ∈ (containers payload).filterMap pageState
    · have hflagged : (containers payload).filterMap pageState ≠ [] := List.ne_nil_of_mem htrue
      simp only [htrue, true_and, if_true, hflagged, false_and, or_false, and_true, iff_false]
      split
      · nofun
      · split
        · nofun
        · split
          · nofun
          · nofun
    · by_cases hfalse : false ∈ (containers payload).filterMap pageState
      · have hflagged : (containers payload).filterMap pageState ≠ [] := List.ne_nil_of_mem hfalse
        simp [htrue, hflagged]
      · rw [hstates]
        simp only [htrue, hfalse, if_false, not_false_eq_true, and_self, true_and,
          false_or, Except.ok.injEq, List.find?_eq_none, decide_not, Bool.not_eq_eq_eq_not,
          Bool.not_true, decide_eq_false_iff_not, not_not]
        exact and_comm
  · simp [hobject]

/-- The loop goes on over pages that each name a new cursor. -/
theorem chain_of_going {earlier : List Json} {state : ℕ × Cursors}
    (hgoing : (fetchMarkets texts url).Going server earlier state) :
    Chain texts earlier state.2.seen ∧ state.2.after = state.2.seen.getLast? ∧
      earlier.length < maxMarketPages := by
  obtain ⟨hinner, -, hlength⟩ := hgoing.of_bounded (by decide)
  suffices h : Chain texts earlier state.2.seen ∧ state.2.after = state.2.seen.getLast? from
    ⟨h.1, h.2, hlength⟩
  clear hlength hgoing
  generalize state.2 = inner at hinner
  induction hinner with
  | start => exact ⟨.nil, rfl⟩
  | turn hgoing hanswer hnext ih =>
    obtain ⟨cursor, hcursor, hfresh, rfl⟩ := turn_eq_next.mp hnext
    rw [ih.2] at hcursor
    refine ⟨ih.1.concat hcursor hfresh, ?_⟩
    rw [List.getLast?_concat]

/-- And over all such pages, within the bound. -/
theorem going_of_chain {earlier : List Json} {cursors : List String}
    (hchain : Chain texts earlier cursors) (hlength : earlier.length < maxMarketPages)
    (hanswers : ∀ i page, earlier[i]? = some page → server i = .ok page) :
    (fetchMarkets texts url).Going server earlier
      (earlier.length, ⟨cursors.getLast?, cursors⟩) := by
  apply Reading.Going.bounded _ hlength
  clear hlength
  induction hchain with
  | nil => exact .start
  | @concat pages cursors page cursor hchain hnames hfresh ih =>
    obtain ⟨hearlier, hpage⟩ := answers_concat hanswers
    apply (ih hearlier).turn hpage
    rw [List.getLast?_concat]
    exact turn_eq_next.mpr ⟨cursor, hnames, hfresh, rfl⟩

theorem fetchMarkets_complete :
    (fetchMarkets texts url).Complete server (fun _ => Announces texts) ↔
      ¬ Repeats texts server := by
  rw [Reading.complete_iff]
  constructor
  · rintro ⟨-, hstops⟩ ⟨earlier, cursors, last, hchain, hlength, hanswers, hlast, honly, hrecords⟩
    obtain ⟨hstop, hannounces⟩ := stops_announcing.mpr honly
    refine hstops earlier _ last ((earlier ++ [last]).flatMap extractMarketList)
      (going_of_chain hchain hlength hanswers) hlast ?_ ?_ hannounces
    · exact Reading.bounded_stops.mpr (turn_eq_stops.mpr hstop)
    · exact if_neg (by rw [List.isEmpty_iff]; exact hrecords)
  · intro hrepeats
    refine ⟨Reading.ends_of_bounded (by decide), ?_⟩
    intro earlier state last result hgoing hanswer hstop hresult hannounces
    obtain ⟨hchain, hafter, hlength⟩ := chain_of_going hgoing
    have hnone := turn_eq_stops.mp (Reading.bounded_stops.mp hstop)
    rw [hafter] at hnone
    refine hrepeats ⟨earlier, _, last, hchain, hlength, hgoing.answers, hanswer,
      stops_announcing.mp ⟨hnone, hannounces⟩, ?_⟩
    intro hnil
    have hraises : (fetchMarkets texts url).finish
        ((earlier ++ [last]).flatMap (fetchMarkets texts url).records) =
          .error (.runtime ("Predict.fun markets API returned no market records from " ++ url)) :=
      if_pos (by rw [List.isEmpty_iff]; exact hnil)
    rw [hraises] at hresult
    cases hresult

end PredictFun

/-! ## SX Bet -/

namespace SxBet

/-- `_MAX_MARKET_PAGES`. -/
def maxMarketPages : ℕ := 500

/-- What `_fetch_market_page` makes of a payload that is no mapping. -/
def wrapped (payload : Json) : Json :=
  if payload.isObject then payload else Json.ofFields [("data", payload)]

/-- `_next_pagination_key`; the empty text stands for none. -/
def nextPaginationKey (payload : Json) : String :=
  let data := payload.get "data"
  let containers := payload :: if data.isObject then [data] else []
  let keys := containers.map fun container =>
    Json.orChain [container.get "nextKey", container.get "next_key", container.get "paginationKey"]
  ((keys.find? fun key => !key.isBlank).map texts.str).getD ""

/-- `_has_next_page`. -/
def hasNextPage : Json → ℕ → Except Fault Bool :=
  Catalogues.hasNextPage texts ["pagination", "pageInfo", "page_info", "data"] (.ok false)

/-- What the loop of `_fetch_markets` remembers: the number of the page, and the keys seen. -/
structure Keys where
  page : ℕ := 1
  seen : List String := []

/-- One round of the loop. -/
def turn (state : Keys) (payload : Json) : Turn Keys Fault :=
  let key := nextPaginationKey texts (wrapped payload)
  if key ≠ "" then
    if key ∈ state.seen then
      .raises (.runtime "SX Bet market discovery pagination repeated a cursor")
    else .next ⟨state.page + 1, key :: state.seen⟩
  else
    match hasNextPage texts (wrapped payload) state.page with
    | .error fault => .raises fault
    | .ok true =>
        .raises (.runtime
          "SX Bet market discovery advertised another page without the required nextKey cursor")
    | .ok false => .stops

/-- `_fetch_markets`, with no cached payloads. -/
def fetchMarkets : Reading Json (ℕ × Keys) Fault Json (List Json) :=
  .bounded maxMarketPages (.runtime "SX Bet market discovery exceeded 500 pages")
    { start := {}
      turn := turn texts
      records := fun payload => extractMarketList (wrapped payload)
      finish := .ok }

/-- A payload announces a further page: by a key, or by what it says of its pages. -/
def Announces (page : ℕ) (payload : Json) : Prop :=
  nextPaginationKey texts (wrapped payload) ≠ "" ∨
    hasNextPage texts (wrapped payload) page = .ok true

/-- The records of a payload of `_list_trades`, unless they cannot be iterated over. -/
def tradesOf (payload : Json) : Except Fault (List Json) :=
  match (payload.get "data").get "trades" with
  | .array items => .ok (items.filter Json.isObject)
  | .null | .bool _ | .int _ | .float _ => .error .value
  | .missing | .text _ | .object .. => .ok []

/-- `str(data.get("nextKey") or "") or None` of a payload; the empty text stands for none. -/
def nextKey (payload : Json) : String :=
  let key := (payload.get "data").get "nextKey"
  if key.truth then texts.str key else ""

/-- One round of the loop of `_list_trades`; a payload without `data` leaves the key as it was. -/
def tradesTurn (key : String) (payload : Json) : Turn String Fault :=
  if (payload.get "data").isObject then
    match tradesOf payload with
    | .error fault => .raises fault
    | .ok _ => if nextKey texts payload = "" then .stops else .next (nextKey texts payload)
  else if key = "" then .stops
  else .next key

/-- `_list_trades`. -/
def listTrades : Reading Json String Fault Json (List Json) where
  start := ""
  turn := tradesTurn texts
  records payload := (tradesOf payload).toOption.getD []
  finish := .ok

/-- A payload of trades ends the loop, where it is the one of this request. -/
def EndsTrades (request : ℕ) (payload : Json) : Prop :=
  if (payload.get "data").isObject then
    nextKey texts payload = "" ∨ tradesOf payload = .error .value
  else request = 0

variable {texts} {server : ℕ → Except Fault Json}

theorem turn_eq_stops {state : Keys} {payload : Json} :
    turn texts state payload = .stops ↔
      nextPaginationKey texts (wrapped payload) = "" ∧
        hasNextPage texts (wrapped payload) state.page = .ok false := by
  unfold turn
  by_cases hkey : nextPaginationKey texts (wrapped payload) = ""
  · simp only [hkey, ne_eq, not_true_eq_false, if_false, true_and]
    cases hnext : hasNextPage texts (wrapped payload) state.page with
    | error fault => simp
    | ok more =>
      cases more with
      | true => simp
      | false => simp
  · simp only [hkey, ne_eq, not_false_eq_true, if_true, false_and, iff_false]
    split
    · nofun
    · nofun

/-- The loop counts its pages. -/
theorem page_of_going {earlier : List Json} {state : ℕ × Keys}
    (hgoing : (fetchMarkets texts).Going server earlier state) :
    state.2.page = earlier.length + 1 := by
  obtain ⟨hinner, -, -⟩ := hgoing.of_bounded (by decide)
  clear hgoing
  generalize state.2 = inner at hinner
  induction hinner with
  | start => rfl
  | @turn earlier state state' page hgoing hanswer hnext ih =>
    have hpage : state'.page = state.page + 1 := by
      replace hnext : turn texts state page = .next state' := hnext
      unfold turn at hnext
      by_cases hkey : nextPaginationKey texts (wrapped page) = ""
      · simp only [hkey, ne_eq, not_true_eq_false, if_false] at hnext
        split at hnext <;> cases hnext
      · simp only [hkey, ne_eq, not_false_eq_true, if_true] at hnext
        split at hnext
        · cases hnext
        · cases hnext
          rfl
    rw [List.length_append, List.length_singleton, hpage, ih]

theorem fetchMarkets_complete : (fetchMarkets texts).Complete server
    (fun earlier => Announces texts (earlier.length + 1)) := by
  rw [Reading.complete_iff]
  refine ⟨Reading.ends_of_bounded (by decide), ?_⟩
  intro earlier state last result hgoing hanswer hstop hresult hannounces
  obtain ⟨hkey, hnext⟩ := turn_eq_stops.mp (Reading.bounded_stops.mp hstop)
  rw [page_of_going hgoing] at hnext
  obtain hkey' | hnext' := hannounces
  · exact hkey' hkey
  · rw [hnext] at hnext'
    cases hnext'

/-- After a page the key is empty only where the loop has ended. -/
theorem key_of_going {earlier : List Json} {key : String}
    (hgoing : (listTrades texts).Going server earlier key) : key = "" ↔ earlier.length = 0 := by
  induction hgoing with
  | start => exact ⟨fun _ => rfl, fun _ => rfl⟩
  | @turn earlier key key' page hgoing hanswer hnext ih =>
    have hkey : key' ≠ "" := by
      replace hnext : tradesTurn texts key page = .next key' := hnext
      unfold tradesTurn at hnext
      split at hnext
      · split at hnext
        · cases hnext
        · split at hnext
          · cases hnext
          · next hnonempty =>
            cases hnext
            exact hnonempty
      · split at hnext
        · cases hnext
        · next hnonempty =>
          cases hnext
          exact hnonempty
    simp [hkey]

theorem tradesTurn_ends {key : String} {request : ℕ} (hkey : key = "" ↔ request = 0)
    (payload : Json) :
    (∀ key', tradesTurn texts key payload ≠ .next key') ↔ EndsTrades texts request payload := by
  unfold tradesTurn EndsTrades
  by_cases hdata : (payload.get "data").isObject = true
  · rw [if_pos hdata, if_pos hdata]
    cases htrades : tradesOf payload with
    | error fault =>
      have hvalue : fault = .value := by
        unfold tradesOf at htrades
        split at htrades <;> cases htrades <;> rfl
      simp [hvalue]
    | ok trades =>
      by_cases hnext : nextKey texts payload = ""
      · simp [hnext]
      · simp [hnext]
  · rw [if_neg hdata, if_neg hdata]
    by_cases hempty : key = ""
    · simp [hempty, hkey.mp hempty]
    · have hlater : request ≠ 0 := fun h => hempty (hkey.mpr h)
      simp [hempty, hlater]

/-- A payload without data has no key. -/
theorem nextKey_of_not_data {payload : Json} (h : ¬ (payload.get "data").isObject = true) :
    nextKey texts payload = "" := by
  unfold nextKey
  rw [Json.get_of_not_object h]
  rfl

theorem listTrades_complete :
    (listTrades texts).Complete server (fun _ payload => nextKey texts payload ≠ "") ↔
      ∃ request, ∀ payload, server request = .ok payload → EndsTrades texts request payload := by
  have hends : (∃ earlier key, (listTrades texts).Going server earlier key ∧
      (listTrades texts).EndsAt server earlier.length key) ↔
        ∃ request, ∀ payload, server request = .ok payload → EndsTrades texts request payload :=
    Reading.ends_iff_of fun earlier key hgoing payload =>
      tradesTurn_ends (key_of_going hgoing) payload
  rw [Reading.complete_iff, hends]
  apply and_iff_left
  intro earlier key last result hgoing hanswer hstop hresult hkey
  replace hstop : tradesTurn texts key last = .stops := hstop
  by_cases hdata : (last.get "data").isObject = true
  · unfold tradesTurn at hstop
    rw [if_pos hdata] at hstop
    split at hstop
    · cases hstop
    · rw [if_neg hkey] at hstop
      cases hstop
  · exact hkey (nextKey_of_not_data hdata)

end SxBet

/-! ## Polymarket's order book -/

namespace Clob

/-- `_MAX_CLOB_PAGES`. -/
def maxClobPages : ℕ := 199

/-- The data and the next cursor of a page, where `_fetch_clob_page` does not raise. -/
def page (payload : Json) : Except Fault (List Json × Option String) :=
  if payload.isObject = false then
    .error (.runtime "Polymarket CLOB returned a malformed catalog response")
  else
    match payload.get "data", payload.get "next_cursor" with
    | .array data, .text cursor =>
        if data.all Json.isObject then .ok (data, some cursor)
        else .error (.runtime "Polymarket CLOB returned a malformed catalog page")
    | .array data, .null | .array data, .missing =>
        if data.all Json.isObject then .ok (data, none)
        else .error (.runtime "Polymarket CLOB returned a malformed catalog page")
    | _, _ => .error (.runtime "Polymarket CLOB returned a malformed catalog page")

/-- A cursor that ends the catalogue. -/
def isEnd (cursor : Option String) : Bool :=
  cursor = none || cursor = some "" || cursor = some "LTE="

/-- `str(value or "")`. -/
def textOrEmpty (value : Json) : String := if value.truth then texts.str value else ""

/-- `_adapt_clob_candidate`. -/
def adaptClobCandidate (payload : Json) : Json :=
  let tokenRows := match payload.get "tokens" with
    | .array items => items.filter Json.isObject
    | _ => []
  let conditionId := textOrEmpty texts (payload.get "condition_id")
  .object false fun key =>
    match key with
    | "id" | "conditionId" => .text conditionId
    | "endDateIso" => (payload.get "end_date_iso").orNull
    | "clobTokenIds" =>
        .array (tokenRows.map fun item => .text (textOrEmpty texts (item.get "token_id")))
    | "outcomes" =>
        .array (tokenRows.map fun item => .text (textOrEmpty texts (item.get "outcome")))
    | "acceptingOrders" => (payload.get "accepting_orders").orNull
    | "enableOrderBook" => (payload.get "enable_order_book").orNull
    | "negRisk" => (payload.get "neg_risk").orNull
    | "slug" => (payload.get "market_slug").orNull
    | key => payload.get key

/-- One round of the loop of `_fetch_clob_markets`, which remembers the cursors seen. -/
def turn (seen : List String) (payload : Json) : Turn (List String) Fault :=
  match page payload with
  | .error fault => .raises fault
  | .ok (_, cursor) =>
      if isEnd cursor then .stops
      else if cursor.getD "" ∈ seen then
        .raises (.runtime "Polymarket CLOB pagination repeated a cursor")
      else .next (cursor.getD "" :: seen)

/-- `_fetch_clob_markets`. -/
def fetchClobMarkets : Reading Json (ℕ × List String) Fault Json (List Json) :=
  .bounded maxClobPages (.runtime "Polymarket CLOB pagination exceeded 199 pages")
    { start := []
      turn := turn
      records := fun payload =>
        ((page payload).toOption.getD ([], none)).1.map (adaptClobCandidate texts)
      finish := .ok }

/-- A payload announces a further page: by a cursor that is not the end. -/
def Announces (payload : Json) : Prop :=
  ∃ cursor, payload.get "next_cursor" = .text cursor ∧ cursor ≠ "" ∧ cursor ≠ "LTE="

variable {texts} {server : ℕ → Except Fault Json}

theorem page_cursor {payload : Json} {data : List Json} {cursor : Option String}
    (h : page payload = .ok (data, cursor)) :
    cursor = match payload.get "next_cursor" with
      | .text cursor => some cursor
      | _ => none := by
  unfold page at h
  split at h
  · cases h
  split at h
  · next hdata hcursor =>
    split at h
    · cases h
      rw [hcursor]
    · cases h
  · next hdata hcursor =>
    split at h
    · cases h
      rw [hcursor]
    · cases h
  · next hdata hcursor =>
    split at h
    · cases h
      rw [hcursor]
    · cases h
  · cases h

theorem fetchClobMarkets_complete :
    (fetchClobMarkets texts).Complete server (fun _ => Announces) := by
  rw [Reading.complete_iff]
  refine ⟨Reading.ends_of_bounded (by decide), ?_⟩
  rintro earlier state last result hgoing hanswer hstop hresult ⟨cursor, hcursor, hempty, hend⟩
  replace hstop : turn state.2 last = .stops := Reading.bounded_stops.mp hstop
  unfold turn at hstop
  cases hpage : page last with
  | error fault =>
    rw [hpage] at hstop
    cases hstop
  | ok read =>
    have hread : read.2 = some cursor := by
      rw [page_cursor hpage, hcursor]
    simp only [hpage, hread] at hstop
    rw [if_neg (by simp [isEnd, hempty, hend])] at hstop
    split at hstop <;> cases hstop

end Clob

/-! ## Opinion -/

namespace Opinion

/-- `_MAX_MARKET_PAGES`. -/
def maxMarketPages : ℕ := 500

/-- `_optional_int`. -/
def optionalInt (value : Json) : Option ℤ :=
  if value.isBlank then none else texts.parseInt (strip (texts.str value))

/-- `_optional_str`. -/
def optionalStr (value : Json) : Option String :=
  if value.isBlank then none
  else if strip (texts.str value) = "" then none
  else some (strip (texts.str value))

/-- `unwrap_envelope`, without the keys that its last message lists. -/
def unwrapEnvelope (payload : Json) : Except Fault Json :=
  if payload.isObject = false then
    .error (.runtime ("Opinion API returned unsupported payload for /market: " ++
      texts.render payload))
  else
    match [("errno", "errmsg"), ("code", "msg")].find? fun keys =>
        (payload.get keys.1).isPresent with
    | none => .error (.runtime "Opinion API response for /market carried no status code")
    | some (codeKey, messageKey) =>
        match optionalInt texts (payload.get codeKey) with
        | none | some 0 => .ok (payload.get "result")
        | some code =>
            let message := (optionalStr texts (payload.get messageKey)).getD "unknown error"
            .error (.runtime ("Opinion API error for /market: " ++ codeKey ++ "=" ++
              toString code ++ " " ++ messageKey ++ "=" ++ message))

/-- The list of a payload, where it is one. -/
def batch (payload : Json) : List Json :=
  match (unwrapEnvelope texts payload).toOption.getD .missing |>.get "list" with
  | .array items => items
  | _ => []

/-- The total of a payload. -/
def total (payload : Json) : Option ℤ :=
  optionalInt texts ((unwrapEnvelope texts payload).toOption.getD .missing |>.get "total")

/-- The ids of the markets of a payload. -/
def marketIds (payload : Json) : List String :=
  (((batch texts payload).filter Json.isObject).map fun item => item.get "marketId").filterMap
    fun identity => if identity.isNone then none else some (texts.str identity)

/-- One round of the loop of `_fetch_markets`, which remembers the ids seen. -/
def turn (limit : ℕ) (seen : Finset String) (payload : Json) : Turn (Finset String) Fault :=
  match unwrapEnvelope texts payload with
  | .error fault => .raises fault
  | .ok _ =>
      if (batch texts payload).isEmpty then .stops
      else
        let seen := seen ∪ (marketIds texts payload).toFinset
        if (total texts payload).any fun total => total ≤ (seen.card : ℤ) then .stops
        else if (batch texts payload).length < limit then .stops
        else .next seen

/-- The `limit` of the requests. -/
def limit (marketPageLimit : ℤ) : ℕ := (max 1 (min marketPageLimit 20)).toNat

/-- `_fetch_markets`, with no cached payloads. -/
def fetchMarkets (marketPageLimit : ℤ) :
    Reading Json (ℕ × Finset String) Fault Json (List Json) :=
  .bounded maxMarketPages (.runtime "Opinion market discovery exceeded 500 pages")
    { start := ∅
      turn := turn texts (limit marketPageLimit)
      records := fun payload => (batch texts payload).filter Json.isObject
      finish := .ok }

/-- The ids of the markets of several payloads. -/
def idsOf (payloads : List Json) : Finset String :=
  (payloads.flatMap (marketIds texts)).toFinset

/-- A payload announces a further page: by a total that the markets read so far do not reach. -/
def Announces (earlier : List Json) (payload : Json) : Prop :=
  ∃ count, total texts payload = some count ∧
    ((idsOf texts (earlier ++ [payload])).card : ℤ) < count

/-- A payload without an error whose batch is not full. -/
def Short (marketPageLimit : ℤ) (payload : Json) : Prop :=
  (unwrapEnvelope texts payload).toOption.isSome ∧
    (batch texts payload).length < limit marketPageLimit

/-- The markets read so far reach the total of the payload. -/
def Reached (pages : List Json) (page : Json) : Prop :=
  ∃ count, total texts page = some count ∧ count ≤ ((idsOf texts (pages ++ [page])).card : ℤ)

/-- Each payload has a full batch, and the markets read so far do not reach its total. -/
inductive FullPages (marketPageLimit : ℤ) : List Json → Prop
  | nil : FullPages marketPageLimit []
  | concat {pages : List Json} {page : Json} (full : FullPages marketPageLimit pages)
      (readable : (unwrapEnvelope texts page).toOption.isSome)
      (batchFull : limit marketPageLimit ≤ (batch texts page).length)
      (short : ∀ count, total texts page = some count →
        ((idsOf texts (pages ++ [page])).card : ℤ) < count) :
      FullPages marketPageLimit (pages ++ [page])

/-- After full pages comes a batch that is not full, although its total is not reached. -/
def Truncates (marketPageLimit : ℤ) (server : ℕ → Except Fault Json) : Prop :=
  ∃ earlier last, FullPages texts marketPageLimit earlier ∧ earlier.length < maxMarketPages ∧
    (∀ i page, earlier[i]? = some page → server i = .ok page) ∧
    server earlier.length = .ok last ∧ Short texts marketPageLimit last ∧
    Announces texts earlier last

variable {texts} {server : ℕ → Except Fault Json} {marketPageLimit : ℤ}

theorem limit_pos (marketPageLimit : ℤ) : 0 < limit marketPageLimit := by
  unfold limit
  omega

theorem idsOf_concat (pages : List Json) (page : Json) :
    idsOf texts (pages ++ [page]) = idsOf texts pages ∪ (marketIds texts page).toFinset := by
  unfold idsOf
  rw [List.flatMap_append, List.flatMap_singleton, List.toFinset_append]

theorem not_reached_iff {pages : List Json} {page : Json} :
    ¬ Reached texts pages page ↔ ∀ count, total texts page = some count →
      ((idsOf texts (pages ++ [page])).card : ℤ) < count := by
  unfold Reached
  push Not
  rfl

/-- A round over a payload without an error. -/
theorem turn_of_ok {pages : List Json} {page : Json} {result : Json}
    (hunwrap : unwrapEnvelope texts page = .ok result) :
    (Reached texts pages page ∨ (batch texts page).length < limit marketPageLimit →
      turn texts (limit marketPageLimit) (idsOf texts pages) page = .stops) ∧
    (¬ Reached texts pages page → limit marketPageLimit ≤ (batch texts page).length →
      turn texts (limit marketPageLimit) (idsOf texts pages) page =
        .next (idsOf texts (pages ++ [page]))) := by
  have hreached : ((total texts page).any fun count =>
      count ≤ ((idsOf texts pages ∪ (marketIds texts page).toFinset).card : ℤ)) = true ↔
        Reached texts pages page := by
    unfold Reached
    rw [idsOf_concat]
    cases total texts page with
    | none => simp
    | some count => simp
  unfold turn
  simp only [hunwrap]
  by_cases hempty : (batch texts page).isEmpty = true
  · -- an empty batch is short, for the limit is positive
    have hlength : (batch texts page).length = 0 := by
      rw [List.isEmpty_iff.mp hempty]
      rfl
    have hlimit := limit_pos marketPageLimit
    rw [if_pos hempty]
    exact ⟨fun _ => rfl, fun _ hle => by omega⟩
  · rw [if_neg hempty]
    refine ⟨fun hstop => ?_, fun hnot hle => ?_⟩
    · by_cases hany : Reached texts pages page
      · rw [if_pos (hreached.mpr hany)]
      · rw [if_neg (mt hreached.mp hany), if_pos (hstop.resolve_left hany)]
    · rw [if_neg (mt hreached.mp hnot), if_neg (not_lt.mpr hle), idsOf_concat]

/-- The loop has gone on over full pages, and remembers their ids. -/
theorem full_of_going {earlier : List Json} {state : ℕ × Finset String}
    (hgoing : (fetchMarkets texts marketPageLimit).Going server earlier state) :
    FullPages texts marketPageLimit earlier ∧ state.2 = idsOf texts earlier ∧
      earlier.length < maxMarketPages := by
  obtain ⟨hinner, -, hlength⟩ := hgoing.of_bounded (by decide)
  suffices h : FullPages texts marketPageLimit earlier ∧ state.2 = idsOf texts earlier from
    ⟨h.1, h.2, hlength⟩
  clear hlength hgoing
  generalize state.2 = seen at hinner
  induction hinner with
  | start => exact ⟨.nil, rfl⟩
  | @turn earlier seen seen' page hgoing hanswer hnext ih =>
    obtain ⟨hfull, rfl⟩ := ih
    replace hnext : turn texts (limit marketPageLimit) (idsOf texts earlier) page =
      .next seen' := hnext
    cases hunwrap : unwrapEnvelope texts page with
    | error fault =>
      unfold turn at hnext
      rw [hunwrap] at hnext
      cases hnext
    | ok result =>
      obtain ⟨hstops, hgoes⟩ := turn_of_ok hunwrap
      have hgo : ¬ (Reached texts earlier page ∨
          (batch texts page).length < limit marketPageLimit) := by
        intro hstop
        rw [hstops hstop] at hnext
        cases hnext
      obtain ⟨hnot, hle⟩ := not_or.mp hgo
      rw [hgoes hnot (not_lt.mp hle)] at hnext
      cases hnext
      refine ⟨hfull.concat ?_ (not_lt.mp hle) (not_reached_iff.mp hnot), rfl⟩
      rw [hunwrap]
      rfl

/-- And it goes on over all full pages, within the bound. -/
theorem going_of_full {earlier : List Json} (hfull : FullPages texts marketPageLimit earlier)
    (hlength : earlier.length < maxMarketPages)
    (hanswers : ∀ i page, earlier[i]? = some page → server i = .ok page) :
    (fetchMarkets texts marketPageLimit).Going server earlier
      (earlier.length, idsOf texts earlier) := by
  apply Reading.Going.bounded _ hlength
  clear hlength
  induction hfull with
  | nil => exact .start
  | @concat pages page hfull hreadable hle hshort ih =>
    obtain ⟨hearlier, hpage⟩ := answers_concat hanswers
    apply (ih hearlier).turn hpage
    cases hunwrap : unwrapEnvelope texts page with
    | error fault =>
      rw [hunwrap] at hreadable
      cases hreadable
    | ok result => exact (turn_of_ok hunwrap).2 (not_reached_iff.mpr hshort) hle

/-- The loop stops short of the total at batches only that are not full. -/
theorem stops_announcing {pages : List Json} {page : Json} :
    turn texts (limit marketPageLimit) (idsOf texts pages) page = .stops ∧
        Announces texts pages page ↔
      Short texts marketPageLimit page ∧ Announces texts pages page := by
  apply and_congr_left
  rintro ⟨count, hcount, hlt⟩
  have hnot : ¬ Reached texts pages page := by
    rintro ⟨count', hcount', hle⟩
    rw [hcount] at hcount'
    cases hcount'
    omega
  unfold Short
  cases hunwrap : unwrapEnvelope texts page with
  | error fault =>
    unfold turn
    rw [hunwrap]
    simp [Except.toOption]
  | ok result =>
    obtain ⟨hstops, hgoes⟩ := turn_of_ok hunwrap
    constructor
    · intro hstop
      refine ⟨rfl, ?_⟩
      by_contra hle
      rw [hgoes hnot (not_lt.mp hle)] at hstop
      cases hstop
    · rintro ⟨-, hshort⟩
      exact hstops (.inr hshort)

theorem fetchMarkets_complete :
    (fetchMarkets texts marketPageLimit).Complete server (Announces texts) ↔
      ¬ Truncates texts marketPageLimit server := by
  rw [Reading.complete_iff]
  constructor
  · rintro ⟨-, hstops⟩ ⟨earlier, last, hfull, hlength, hanswers, hlast, hshort, hannounces⟩
    refine hstops earlier _ last _ (going_of_full hfull hlength hanswers) hlast ?_ rfl hannounces
    exact Reading.bounded_stops.mpr (stops_announcing.mpr ⟨hshort, hannounces⟩).1
  · intro htruncates
    refine ⟨Reading.ends_of_bounded (by decide), ?_⟩
    intro earlier state last result hgoing hanswer hstop hresult hannounces
    obtain ⟨hfull, hseen, hlength⟩ := full_of_going hgoing
    replace hstop : turn texts (limit marketPageLimit) state.2 last = .stops :=
      Reading.bounded_stops.mp hstop
    rw [hseen] at hstop
    exact htruncates ⟨earlier, last, hfull, hlength, hgoing.answers, hanswer,
      (stops_announcing.mp ⟨hstop, hannounces⟩).1, hannounces⟩

end Opinion

/-! ## Myriad -/

namespace Myriad

/-- `_has_next_page`. -/
def hasNextPage : Json → ℕ → Except Fault Bool :=
  Catalogues.hasNextPage texts ["pagination", "pageInfo", "page_info"] (.error .value)

/-- A payload of the catalogue announces a further page. -/
def Announces (page : ℕ) (payload : Json) : Prop := hasNextPage texts payload page = .ok true

/-- One round of the loop of `_fetch_markets`, which remembers the number of the page. -/
def turn (page : ℕ) (payload : Json) : Turn ℕ Fault :=
  match hasNextPage texts payload page with
  | .error fault => .raises fault
  | .ok true => .next (page + 1)
  | .ok false => .stops

/-- `_fetch_markets`, with no cached payloads. -/
def fetchMarkets : Reading Json ℕ Fault Json (List Json) where
  start := 1
  turn := turn texts
  records := extractMarketList
  finish := .ok

/-- `_myriad_market_items`. -/
def marketItems : Json → List Json := recordsUnder ["data", "markets", "items", "results"]

/-- `_myriad_has_next_page`. -/
def feesHaveNextPage (payload : Json) (page itemCount : ℕ) : Bool :=
  let pagination := payload.get "pagination"
  match pagination.get "hasNext" with
  | .bool hasNext => hasNext
  | _ =>
      let totalPages := pagination.get "totalPages"
      match if totalPages.isNone then none else texts.int totalPages with
      | some count => (page : ℤ) < count
      | none => 100 ≤ itemCount

/-- The table of the fee payloads, by the ids of their markets. -/
def feePayloads (items : List Json) : Dict ℤ Json :=
  items.foldl (fun table market =>
    match texts.int (market.get "id") with
    | some marketId => table.set marketId market
    | none => table) Dict.empty

/-- One round of the loop over the fee catalogue; `_request_json` raises unless it gets a
mapping. -/
def feesTurn (page : ℕ) (payload : Json) : Turn ℕ Fault :=
  if payload.isObject = false then
    .raises (.runtime ("Myriad API returned unsupported payload: " ++ texts.render payload))
  else if feesHaveNextPage texts payload page (marketItems payload).length then .next (page + 1)
  else .stops

/-- The loop of `_order_book_fee_payload` over the fee catalogue. -/
def feeCatalogue : Reading Json ℕ Fault Json (Dict ℤ Json) where
  start := 1
  turn := feesTurn texts
  records := marketItems
  finish items := .ok (feePayloads texts items)

/-- A payload of the fee catalogue announces a further page. -/
def FeesAnnounce (page : ℕ) (payload : Json) : Prop :=
  payload.isObject ∧ feesHaveNextPage texts payload page (marketItems payload).length

variable {texts} {server : ℕ → Except Fault Json}

/-- A loop that counts its pages and goes on where they announce a further one. -/
theorem counting_complete {α : Type} {reading : Reading Json ℕ Fault Json α}
    {announces : ℕ → Json → Prop} (hstart : reading.start = 1)
    (hgoes : ∀ page payload page', reading.turn page payload = .next page' →
      announces page payload ∧ page' = page + 1)
    (hannounces : ∀ page payload, announces page payload →
      reading.turn page payload = .next (page + 1)) :
    reading.Complete server (fun earlier => announces (earlier.length + 1)) ↔
      ∃ request, ∀ payload, server request = .ok payload → ¬ announces (request + 1) payload := by
  have hpage : ∀ earlier page, reading.Going server earlier page → page = earlier.length + 1 := by
    intro earlier page hgoing
    induction hgoing with
    | start => exact hstart
    | turn hgoing hanswer hnext ih =>
      rw [(hgoes _ _ _ hnext).2, ih, List.length_append, List.length_singleton]
  have hends : (∃ earlier page, reading.Going server earlier page ∧
      reading.EndsAt server earlier.length page) ↔ ∃ request, ∀ payload,
        server request = .ok payload → ¬ announces (request + 1) payload := by
    refine Reading.ends_iff_of fun earlier page hgoing payload => ?_
    rw [← hpage earlier page hgoing]
    constructor
    · intro hnot hannounce
      exact hnot _ (hannounces page payload hannounce)
    · intro hnot page' hnext
      exact hnot (hgoes page payload page' hnext).1
  rw [Reading.complete_iff, hends]
  apply and_iff_left
  intro earlier page last result hgoing hanswer hstop hresult hannounce
  rw [← hpage earlier page hgoing] at hannounce
  rw [hannounces page last hannounce] at hstop
  cases hstop

theorem fetchMarkets_complete :
    (fetchMarkets texts).Complete server (fun earlier => Announces texts (earlier.length + 1)) ↔
      ∃ request, ∀ payload, server request = .ok payload →
        ¬ Announces texts (request + 1) payload := by
  apply counting_complete rfl
  · intro page payload page' hnext
    replace hnext : turn texts page payload = .next page' := hnext
    unfold turn at hnext
    split at hnext
    · cases hnext
    · next hmore =>
      cases hnext
      exact ⟨hmore, rfl⟩
    · cases hnext
  · intro page payload hmore
    show turn texts page payload = .next (page + 1)
    unfold turn
    rw [show hasNextPage texts payload page = .ok true from hmore]

theorem feeCatalogue_complete :
    (feeCatalogue texts).Complete server
        (fun earlier => FeesAnnounce texts (earlier.length + 1)) ↔
      ∃ request, ∀ payload, server request = .ok payload →
        ¬ FeesAnnounce texts (request + 1) payload := by
  apply counting_complete rfl
  · intro page payload page' hnext
    replace hnext : feesTurn texts page payload = .next page' := hnext
    unfold feesTurn at hnext
    split at hnext
    · cases hnext
    · next hobject =>
      split at hnext
      · next hmore =>
        cases hnext
        exact ⟨⟨Bool.eq_true_of_not_eq_false hobject, hmore⟩, rfl⟩
      · cases hnext
  · rintro page payload ⟨hobject, hmore⟩
    show feesTurn texts page payload = .next (page + 1)
    unfold feesTurn
    rw [if_neg (by simp [hobject]), if_pos hmore]

end Myriad

/-! ## All loops -/

/-- **Which reads end and are whole**: those of SX Bet's and of Polymarket's catalogue for every
server; Predict.fun's and Opinion's unless they take a page for the last that is not; the two of
Myriad and the trades where the server fails at some time or announces no further page. -/
theorem paged_reads_complete (texts : Texts) (url : String) (marketPageLimit : ℤ)
    (server : ℕ → Except Fault Json) :
    ((PredictFun.fetchMarkets texts url).Complete server (fun _ => PredictFun.Announces texts) ↔
        ¬ PredictFun.Repeats texts server) ∧
      (SxBet.fetchMarkets texts).Complete server
        (fun earlier => SxBet.Announces texts (earlier.length + 1)) ∧
      (Clob.fetchClobMarkets texts).Complete server (fun _ => Clob.Announces) ∧
      ((Opinion.fetchMarkets texts marketPageLimit).Complete server (Opinion.Announces texts) ↔
        ¬ Opinion.Truncates texts marketPageLimit server) ∧
      ((Myriad.fetchMarkets texts).Complete server
          (fun earlier => Myriad.Announces texts (earlier.length + 1)) ↔
        ∃ request, ∀ payload, server request = .ok payload →
          ¬ Myriad.Announces texts (request + 1) payload) ∧
      ((Myriad.feeCatalogue texts).Complete server
          (fun earlier => Myriad.FeesAnnounce texts (earlier.length + 1)) ↔
        ∃ request, ∀ payload, server request = .ok payload →
          ¬ Myriad.FeesAnnounce texts (request + 1) payload) ∧
      ((SxBet.listTrades texts).Complete server
          (fun _ payload => SxBet.nextKey texts payload ≠ "") ↔
        ∃ request, ∀ payload, server request = .ok payload →
          SxBet.EndsTrades texts request payload) :=
  ⟨PredictFun.fetchMarkets_complete, SxBet.fetchMarkets_complete, Clob.fetchClobMarkets_complete,
    Opinion.fetchMarkets_complete, Myriad.fetchMarkets_complete, Myriad.feeCatalogue_complete,
    SxBet.listTrades_complete⟩

/-- A page of Myriad without markets that announces a further one. -/
def emptyPage : Json :=
  .ofFields [("data", .array []), ("pagination", .ofFields [("hasNext", .bool true)])]

/-- The catalogue of Myriad is read for ever from a server that sends nothing else. -/
theorem catalogue_never_ends :
    ¬ ∀ texts, (Myriad.fetchMarkets texts).Complete (fun _ => .ok emptyPage)
        (fun earlier => Myriad.Announces texts (earlier.length + 1)) := by
  intro h
  obtain ⟨request, hrequest⟩ := Myriad.fetchMarkets_complete.mp (h ⟨fun _ => "", fun _ => none⟩)
  exact hrequest emptyPage rfl rfl

end ArbitrageEngine.Catalogues
