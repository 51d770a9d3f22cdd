/-
# ArbitrageEngine.Connectors.PredictFunTopics -- which topics Predict.fun is subscribed to

Every registered market has two websocket topics.  The connector wants both topics of the market of
every tracked token, and works towards that by requests: `register_market` and
`sync_market_data_targets` queue them, a sender task takes them from the queue, drops those that are
superseded, and sends the others, and an ACK moves the topic and looks again whether it is wanted.

A topic is *addressed* if it is as it is wanted or something that is under way will look at it
again: a request for it awaits its ACK, or the right request is queued, in the hands of the sender,
or among the first subscriptions of the connection.  Sender steps, ACKs and
`sync_market_data_targets` keep every topic addressed.  `watch_order_book` tracks a token without
queueing anything, and `register_market` forgets the old market of a token, so these two keep it
only under a condition (`Event.Addresses`).
-/
import ArbitrageEngine.Lib.Dict
import ArbitrageEngine.Lib.Runs
import ArbitrageEngine.Models
import Mathlib.Data.Finset.Sort
import Mathlib.Data.String.Basic

namespace ArbitrageEngine.Connectors.PredictFun

open Lib (Dict)
open Lib.Runs

/-! ## Topics and requests -/

inductive Channel
  | orderbook
  | tradingStatus
deriving DecidableEq

/-- `predictOrderbook/{market_id}` or `predictTradingStatus/{market_id}`. -/
structure Topic where
  channel : Channel
  market : String
deriving DecidableEq

/-- The method of a request. -/
inductive Action
  | subscribe
  | unsubscribe
deriving DecidableEq

/-- The action that brings a topic to where it is wanted. -/
def Action.towards (wanted : Bool) : Action := if wanted then .subscribe else .unsubscribe

/-- The two topics of a market, in the order in which they are queued and sent. -/
def marketTopics (market : String) : List Topic := [⟨.orderbook, market⟩, ⟨.tradingStatus, market⟩]

theorem mem_marketTopics {topic : Topic} {market : String} :
    topic ∈ marketTopics market ↔ topic.market = market := by
  obtain ⟨channel, topicMarket⟩ := topic
  cases channel <;> simp [marketTopics]

/-- What the sender task of a connection is doing. -/
inductive Sender
  /-- Not started: these topics of the first subscriptions are still to be sent. -/
  | starting (rest : List Topic)
  /-- Waiting for the queue. -/
  | idle
  /-- Has taken a request from the queue and not looked at it yet. -/
  | holding (action : Action) (topic : Topic)
  /-- Waiting for `send_json`. -/
  | sending
deriving DecidableEq

/-- A websocket connection of `PredictFunApiClient`: the part of its state that decides about
subscriptions. -/
structure Connection where
  /-- `_market_identifiers`. -/
  identifiers : Dict String (String × BinarySide) := Dict.empty
  /-- `_tracked_tokens`. -/
  tracked : Finset String := ∅
  /-- `_ws_subscription_queue`; it outlives the connections. -/
  queue : List (Action × Topic) := []
  /-- `_ws_subscribed_topics`. -/
  subscribed : Finset Topic := ∅
  /-- `_ws_pending_requests`. -/
  pending : Dict ℕ (Action × Topic) := Dict.empty
  /-- `request_id`, the next one. -/
  requestId : ℕ := 1
  sender : Sender := .starting []
deriving DecidableEq

namespace Connection

/-- The market a token is registered for. -/
def marketOf (c : Connection) (token : String) : Option String :=
  (c.identifiers.get? token).map Prod.fst

/-- `_market_has_tracked_token`. -/
def MarketHasTrackedToken (c : Connection) (market : String) : Prop :=
  ∃ token ∈ c.tracked, c.marketOf token = some market

instance (c : Connection) (market : String) : Decidable (c.MarketHasTrackedToken market) :=
  inferInstanceAs (Decidable (∃ token ∈ c.tracked, _))

/-- The markets of a set of tokens; those that are not registered have none. -/
def marketsOf (c : Connection) (tokens : Finset String) : Finset String :=
  tokens.biUnion fun token => (c.marketOf token).toFinset

theorem mem_marketsOf {c : Connection} {tokens : Finset String} {market : String} :
    market ∈ c.marketsOf tokens ↔ ∃ token ∈ tokens, c.marketOf token = some market := by
  simp [marketsOf]

/-- `_desired_ws_topics`. -/
def desiredTopics (c : Connection) : Finset Topic :=
  (c.marketsOf c.tracked).biUnion fun market => (marketTopics market).toFinset

theorem mem_desiredTopics {c : Connection} {topic : Topic} :
    topic ∈ c.desiredTopics ↔ c.MarketHasTrackedToken topic.market := by
  simp [desiredTopics, mem_marketsOf, mem_marketTopics, MarketHasTrackedToken]

/-- Is the topic wanted? -/
def wants (c : Connection) (topic : Topic) : Bool := topic ∈ c.desiredTopics

theorem wants_iff {c : Connection} {topic : Topic} :
    c.wants topic = true ↔ c.MarketHasTrackedToken topic.market := by
  rw [wants, decide_eq_true_iff, mem_desiredTopics]

/-! ## Operations -/

/-- `_queue_market_topics`. -/
def queueMarketTopics (c : Connection) (action : Action) (market : String) : Connection :=
  { c with queue := c.queue ++ (marketTopics market).map (action, ·) }

/-- `register_market`, on an open connection; the metadata of fees and prices is kept elsewhere. -/
def registerMarket (c : Connection) (token : String) (marketId : Option String)
    (side : BinarySide) : Connection :=
  match truthy marketId with
  | none => c
  | some market =>
      if token = "" then c
      else
        let c := { c with identifiers := c.identifiers.set token (market, side) }
        if token ∈ c.tracked then c.queueMarketTopics .subscribe market else c

/-- What `watch_order_book` does to the targets. -/
def watchOrderBook (c : Connection) (token : String) : Connection :=
  { c with tracked := insert token c.tracked }

/-- The loop of `sync_market_data_targets` over the removed tokens, in the order of the set. -/
def queueRemoved (c : Connection) (removed : List String) : Connection :=
  removed.foldl (fun c token =>
    match c.marketOf token with
    | none => c
    | some market =>
        if c.MarketHasTrackedToken market then c else c.queueMarketTopics .unsubscribe market) c

/-- `sync_market_data_targets`, on an open connection.  `removed` lists the set of removed tokens in
the order in which it is iterated. -/
def syncMarketDataTargets (c : Connection) (tokenIds : Finset String) (removed : List String) :
    Connection :=
  let normalized := tokenIds.erase ""
  let added := normalized \ c.tracked
  let c := queueRemoved { c with tracked := normalized } removed
  (sortedTexts (c.marketsOf added)).foldl (fun c market => c.queueMarketTopics .subscribe market) c

/-- `_record_ws_pending_request`, with the request that is sent next. -/
def recordPending (c : Connection) (action : Action) (topic : Topic) : Connection :=
  { c with pending := c.pending.set c.requestId (action, topic), requestId := c.requestId + 1 }

/-- Does a request for the topic await its ACK? -/
def Pending (c : Connection) (topic : Topic) : Prop :=
  ∃ request ∈ c.pending.values, request.2 = topic

instance (c : Connection) (topic : Topic) : Decidable (c.Pending topic) :=
  inferInstanceAs (Decidable (∃ request ∈ c.pending.values, _))

/-- The loop body of `_send_ws_subscriptions`, once it has a request. -/
def senderDecides (c : Connection) (action : Action) (topic : Topic) : Connection :=
  if action ≠ Action.towards (c.wants topic) ∨ c.Pending topic ∨
      (action = .subscribe ∧ topic ∈ c.subscribed) ∨
      (action = .unsubscribe ∧ topic ∉ c.subscribed) then
    { c with sender := .idle }
  else { c.recordPending action topic with sender := .sending }

/-- `_reconcile_ws_topic`. -/
def reconcileTopic (c : Connection) (topic : Topic) : Connection :=
  let action := Action.towards (c.wants topic)
  if (c.wants topic ↔ topic ∈ c.subscribed) ∨ (action, topic) ∈ c.pending.values then c
  else { c with queue := c.queue ++ [(action, topic)] }

/-- A successful answer to a request in `_handle_ws_message`. -/
def acknowledge (c : Connection) (requestId : ℕ) : Connection :=
  match c.pending.get? requestId with
  | none => c
  | some (action, topic) =>
      let c := { c with
        pending := c.pending.erase requestId
        subscribed :=
          match action with
          | .subscribe => insert topic c.subscribed
          | .unsubscribe => c.subscribed.erase topic }
      c.reconcileTopic topic

/-- The connection is opened: nothing is subscribed or pending, and the topics of the tracked
markets are to be sent. -/
def opened (c : Connection) : Connection :=
  { c with
    subscribed := ∅
    pending := Dict.empty
    requestId := 1
    sender := .starting ((sortedTexts (c.marketsOf c.tracked)).flatMap marketTopics) }

end Connection

/-! ## The machine -/

/-- What can happen on an open connection. -/
inductive Event
  | registerMarket (token : String) (marketId : Option String) (side : BinarySide)
  | watchOrderBook (token : String)
  | syncMarketDataTargets (tokenIds : Finset String) (removed : List String)
  /-- The next of the first subscriptions is recorded, and its sending begins. -/
  | firstSend
  /-- The first subscriptions are sent; sender and receiver start. -/
  | senderStarts
  /-- The sender takes a request from the queue. -/
  | senderTakes
  /-- The sender drops the request, or records it and begins to send it. -/
  | senderDecides
  /-- `send_json` returns. -/
  | senderSent
  /-- An answer with `success` arrives. -/
  | ack (requestId : ℕ)

/-- One step of the event loop.  The receiver runs once the sender has started. -/
def Event.step (c : Connection) : Event → Option Connection
  | .registerMarket token marketId side => some (c.registerMarket token marketId side)
  | .watchOrderBook token => some (c.watchOrderBook token)
  | .syncMarketDataTargets tokenIds removed =>
      if removed.Nodup ∧ removed.toFinset = c.tracked \ tokenIds.erase "" then
        some (c.syncMarketDataTargets tokenIds removed)
      else none
  | .firstSend =>
      match c.sender with
      | .starting (topic :: rest) =>
          some { c.recordPending .subscribe topic with sender := .starting rest }
      | _ => none
  | .senderStarts =>
      match c.sender with
      | .starting [] => some { c with sender := .idle }
      | _ => none
  | .senderTakes =>
      match c.sender, c.queue with
      | .idle, (action, topic) :: rest =>
          some { c with queue := rest, sender := .holding action topic }
      | _, _ => none
  | .senderDecides =>
      match c.sender with
      | .holding action topic => some (c.senderDecides action topic)
      | _ => none
  | .senderSent =>
      match c.sender with
      | .sending => some { c with sender := .idle }
      | _ => none
  | .ack requestId =>
      match c.sender with
      | .starting _ => none
      | _ => some (c.acknowledge requestId)

namespace Connection

/-- The queue is empty, the sender is idle and no request awaits its ACK. -/
structure Quiescent (c : Connection) : Prop where
  queue : c.queue = []
  sender : c.sender = .idle
  pending : c.pending.entries = []

/-- Will the sender come to the request without the queue? -/
def SenderHas (c : Connection) (action : Action) (topic : Topic) : Prop :=
  match c.sender with
  | .starting rest => topic ∈ rest
  | .holding held heldTopic => held = action ∧ heldTopic = topic
  | .idle | .sending => False

/-- The topic is as wanted, or something under way will look at it. -/
def Addressed (c : Connection) (topic : Topic) (wanted : Bool) : Prop :=
  (wanted ↔ topic ∈ c.subscribed) ∨ c.Pending topic ∨ (Action.towards wanted, topic) ∈ c.queue ∨
    c.SenderHas (Action.towards wanted) topic

instance (c : Connection) (action : Action) (topic : Topic) :
    Decidable (c.SenderHas action topic) := by
  unfold SenderHas
  split <;> infer_instance

instance (c : Connection) (topic : Topic) (wanted : Bool) : Decidable (c.Addressed topic wanted) :=
  inferInstanceAs (Decidable (_ ∨ _ ∨ _ ∨ _))

end Connection

/-- When a change of targets leaves every topic addressed.  Only tracking a token by watching it,
and registering a tracked token anew, can fail it. -/
def Event.Addresses (c : Connection) : Event → Prop
  | .watchOrderBook token =>
      ∀ market ∈ c.marketOf token, ¬c.MarketHasTrackedToken market →
        ∀ topic ∈ marketTopics market, c.Addressed topic true
  | .registerMarket token marketId side =>
      ∀ old ∈ c.marketOf token, token ∈ c.tracked →
        ¬(c.registerMarket token marketId side).MarketHasTrackedToken old →
          ∀ topic ∈ marketTopics old, c.Addressed topic false
  | _ => True

instance (c : Connection) (e : Event) : Decidable (e.Addresses c) := by
  cases e <;> unfold Event.Addresses <;> infer_instance

namespace Connection

/-! ## What is addressed -/

theorem pending_iff {c : Connection} {topic : Topic} :
    c.Pending topic ↔ ∃ id action, c.pending.get? id = some (action, topic) := by
  constructor
  · rintro ⟨⟨action, _⟩, hmem, rfl⟩
    obtain ⟨⟨id, _⟩, hentry, rfl⟩ := List.mem_map.mp hmem
    exact ⟨id, action, Dict.get?_eq_some_iff.mpr hentry⟩
  · rintro ⟨id, action, hget⟩
    exact ⟨(action, topic), List.mem_map.mpr ⟨_, Dict.get?_eq_some_iff.mp hget, rfl⟩, rfl⟩

/-- At rest, an addressed topic is subscribed exactly if it is wanted. -/
theorem Addressed.of_quiescent {c : Connection} (hq : c.Quiescent) {topic : Topic} {wanted : Bool} :
    c.Addressed topic wanted ↔ (wanted ↔ topic ∈ c.subscribed) := by
  have hpending : ¬c.Pending topic := by
    rintro ⟨request, hmem, _⟩
    simp [Dict.values, hq.pending] at hmem
  simp [Addressed, SenderHas, hpending, hq.queue, hq.sender]

theorem senderHas_starting {c : Connection} {rest : List Topic} (h : c.sender = .starting rest)
    {action : Action} {topic : Topic} : c.SenderHas action topic ↔ topic ∈ rest := by
  rw [SenderHas, h]

theorem senderHas_holding {c : Connection} {held action : Action} {heldTopic topic : Topic}
    (h : c.sender = .holding held heldTopic) :
    c.SenderHas action topic ↔ held = action ∧ heldTopic = topic := by
  rw [SenderHas, h]

/-- `c'` differs from `c` in the targets, and by requests added to the queue. -/
structure Queues (c c' : Connection) : Prop where
  subscribed : c'.subscribed = c.subscribed
  pending : c'.pending = c.pending
  requestId : c'.requestId = c.requestId
  sender : c'.sender = c.sender
  queue : ∀ request ∈ c.queue, request ∈ c'.queue

theorem Queues.addressed {c c' : Connection} (h : Queues c c') {topic : Topic} {wanted : Bool}
    (ha : c.Addressed topic wanted) : c'.Addressed topic wanted := by
  unfold Addressed Pending SenderHas at *
  rw [h.subscribed, h.pending, h.sender]
  rcases ha with hsub | hpending | hqueue | hsender
  · exact .inl hsub
  · exact .inr (.inl hpending)
  · exact .inr (.inr (.inl (h.queue _ hqueue)))
  · exact .inr (.inr (.inr hsender))

/-- A queued request addresses its topic. -/
theorem addressed_of_queue {c : Connection} {topic : Topic} {wanted : Bool}
    (h : (Action.towards wanted, topic) ∈ c.queue) : c.Addressed topic wanted :=
  .inr (.inr (.inl h))

/-- Where the market of a topic keeps or lacks a tracked token, the topic is wanted as before. -/
theorem wants_congr {c c' : Connection} {topic : Topic}
    (h : c.MarketHasTrackedToken topic.market ↔ c'.MarketHasTrackedToken topic.market) :
    c.wants topic = c'.wants topic := by
  rw [Bool.eq_iff_iff, wants_iff, wants_iff, h]

theorem wants_eq_true {c : Connection} {topic : Topic}
    (h : c.MarketHasTrackedToken topic.market) : c.wants topic = true := wants_iff.mpr h

theorem wants_eq_false {c : Connection} {topic : Topic}
    (h : ¬c.MarketHasTrackedToken topic.market) : c.wants topic = false := by
  rw [Bool.eq_false_iff]
  exact fun hw => h (wants_iff.mp hw)

/-! ## Requests that are queued -/

/-- The requests that a removed token leads to. -/
def removalRequests (c : Connection) (token : String) : List (Action × Topic) :=
  match c.marketOf token with
  | none => []
  | some market =>
      if c.MarketHasTrackedToken market then []
      else (marketTopics market).map (Action.unsubscribe, ·)

theorem queueRemoved_eq (c : Connection) (removed : List String) :
    queueRemoved c removed = { c with queue := c.queue ++ removed.flatMap c.removalRequests } := by
  induction removed generalizing c with
  | nil => simp [queueRemoved]
  | cons token rest ih =>
      -- The first token only adds its requests, which the others do not look at.
      have hhead : queueRemoved c (token :: rest) =
          queueRemoved { c with queue := c.queue ++ c.removalRequests token } rest := by
        unfold queueRemoved removalRequests
        rw [List.foldl_cons]
        congr 1
        cases hmarket : c.marketOf token with
        | none => simp
        | some market => by_cases h : c.MarketHasTrackedToken market <;>
            simp [h, queueMarketTopics]
      rw [hhead, ih, List.flatMap_cons, ← List.append_assoc]
      rfl

theorem queueAdded_eq (c : Connection) (markets : List String) :
    markets.foldl (fun c market => c.queueMarketTopics .subscribe market) c =
      { c with
        queue := c.queue ++
          markets.flatMap fun market => (marketTopics market).map (Action.subscribe, ·) } := by
  induction markets generalizing c with
  | nil => simp
  | cons market rest ih =>
      rw [List.foldl_cons, ih, List.flatMap_cons, ← List.append_assoc]
      rfl

/-- The queue after a sync: the unsubscriptions of the removed tokens and the subscriptions of the
added ones. -/
theorem syncMarketDataTargets_eq (c : Connection) (tokenIds : Finset String)
    (removed : List String) :
    c.syncMarketDataTargets tokenIds removed =
      { c with
        tracked := tokenIds.erase ""
        queue := c.queue ++
          removed.flatMap ({ c with tracked := tokenIds.erase "" } : Connection).removalRequests ++
          (sortedTexts (c.marketsOf (tokenIds.erase "" \ c.tracked))).flatMap fun market =>
            (marketTopics market).map (Action.subscribe, ·) } := by
  simp only [syncMarketDataTargets, queueRemoved_eq, queueAdded_eq]
  rfl

/-! ## Changes of the targets -/

/-- `register_market` does nothing, or writes the market and asks for its topics. -/
theorem registerMarket_cases (c : Connection) (token : String) (marketId : Option String)
    (side : BinarySide) :
    c.registerMarket token marketId side = c ∨ ∃ market,
      c.registerMarket token marketId side =
        { c with
          identifiers := c.identifiers.set token (market, side)
          queue := c.queue ++
            if token ∈ c.tracked then (marketTopics market).map (Action.subscribe, ·) else [] } := by
  unfold registerMarket
  cases truthy marketId with
  | none => exact .inl rfl
  | some market =>
      by_cases htoken : token = ""
      · exact .inl (if_pos htoken)
      · refine .inr ⟨market, ?_⟩
        by_cases htracked : token ∈ c.tracked
        · simp [htoken, htracked, queueMarketTopics]
        · simp [htoken, htracked]

theorem queues_registerMarket (c : Connection) (token : String) (marketId : Option String)
    (side : BinarySide) : Queues c (c.registerMarket token marketId side) := by
  rcases registerMarket_cases c token marketId side with heq | ⟨market, heq⟩
  · rw [heq]
    exact ⟨rfl, rfl, rfl, rfl, fun _ h => h⟩
  · rw [heq]
    exact ⟨rfl, rfl, rfl, rfl, fun _ h => List.mem_append_left _ h⟩

theorem registerMarket_addressed {c : Connection} {token : String} {marketId : Option String}
    {side : BinarySide} (hok : Event.Addresses c (.registerMarket token marketId side))
    {topic : Topic} (h : c.Addressed topic (c.wants topic)) :
    (c.registerMarket token marketId side).Addressed topic
      ((c.registerMarket token marketId side).wants topic) := by
  have hqueues := queues_registerMarket c token marketId side
  have hguard := hok topic.market
  rcases registerMarket_cases c token marketId side with heq | ⟨market, heq⟩
  · rw [heq]
    exact h
  · set c' := c.registerMarket token marketId side with hc'
    have hother : ∀ t, t ≠ token → c'.marketOf t = c.marketOf t := by
      intro t ht
      rw [heq, marketOf, marketOf]
      show ((c.identifiers.set token (market, side)).get? t).map Prod.fst = _
      rw [Dict.get?_set_of_ne _ ht]
    have htracked : c'.tracked = c.tracked := by rw [heq]
    by_cases hbefore : c.MarketHasTrackedToken topic.market <;>
      by_cases hafter : c'.MarketHasTrackedToken topic.market
    · rw [← wants_congr (iff_of_true hbefore hafter)]
      exact hqueues.addressed h
    · -- Only the token that is registered anew can have lost the market.
      obtain ⟨t, ht, hmarket⟩ := hbefore
      have htoken : t = token := by
        by_contra hne
        exact hafter ⟨t, htracked ▸ ht, (hother t hne).trans hmarket⟩
      subst htoken
      rw [wants_eq_false hafter]
      exact hqueues.addressed (hguard hmarket ht hafter topic (mem_marketTopics.mpr rfl))
    · obtain ⟨t, ht, hmarket⟩ := hafter
      have htoken : t = token := by
        by_contra hne
        exact hbefore ⟨t, htracked ▸ ht, (hother t hne).symm.trans hmarket⟩
      subst htoken
      have heqMarket : market = topic.market := by
        rw [heq, marketOf] at hmarket
        simpa using hmarket
      rw [wants_eq_true ⟨t, ht, hmarket⟩]
      refine addressed_of_queue ?_
      rw [heq]
      refine List.mem_append_right _ ?_
      rw [if_pos (htracked ▸ ht)]
      exact List.mem_map.mpr ⟨topic, mem_marketTopics.mpr heqMarket.symm, rfl⟩
    · rw [← wants_congr (iff_of_false hbefore hafter)]
      exact hqueues.addressed h

theorem watchOrderBook_addressed {c : Connection} {token : String}
    (hok : Event.Addresses c (.watchOrderBook token)) {topic : Topic}
    (h : c.Addressed topic (c.wants topic)) :
    (c.watchOrderBook token).Addressed topic ((c.watchOrderBook token).wants topic) := by
  have hqueues : Queues c (c.watchOrderBook token) := ⟨rfl, rfl, rfl, rfl, fun _ h => h⟩
  by_cases hbefore : c.MarketHasTrackedToken topic.market
  · have hafter : (c.watchOrderBook token).MarketHasTrackedToken topic.market := by
      obtain ⟨t, ht, hmarket⟩ := hbefore
      exact ⟨t, Finset.mem_insert_of_mem ht, hmarket⟩
    rw [← wants_congr (iff_of_true hbefore hafter)]
    exact hqueues.addressed h
  · by_cases hafter : (c.watchOrderBook token).MarketHasTrackedToken topic.market
    · obtain ⟨t, ht, hmarket⟩ := hafter
      have htoken : t = token := by
        rcases Finset.mem_insert.mp ht with heq | ht
        · exact heq
        · exact absurd ⟨t, ht, hmarket⟩ hbefore
      subst htoken
      rw [wants_eq_true ⟨t, ht, hmarket⟩]
      exact hqueues.addressed (hok _ hmarket hbefore topic (mem_marketTopics.mpr rfl))
    · rw [← wants_congr (iff_of_false hbefore hafter)]
      exact hqueues.addressed h

/-- A sync queues what it changes. -/
theorem syncMarketDataTargets_addressed {c : Connection} {tokenIds : Finset String}
    {removed : List String} (hremoved : removed.toFinset = c.tracked \ tokenIds.erase "")
    {topic : Topic} (h : c.Addressed topic (c.wants topic)) :
    (c.syncMarketDataTargets tokenIds removed).Addressed topic
      ((c.syncMarketDataTargets tokenIds removed).wants topic) := by
  have heq := syncMarketDataTargets_eq c tokenIds removed
  set c' := c.syncMarketDataTargets tokenIds removed
  have hqueues : Queues c c' := by
    rw [heq]
    exact ⟨rfl, rfl, rfl, rfl,
      fun _ h => List.mem_append_left _ (List.mem_append_left _ h)⟩
  have htracked : c'.tracked = tokenIds.erase "" := by rw [heq]
  have hmarketOf : ∀ t, c'.marketOf t = c.marketOf t := by
    intro t
    rw [heq]
    rfl
  by_cases hbefore : c.MarketHasTrackedToken topic.market <;>
    by_cases hafter : c'.MarketHasTrackedToken topic.market
  · rw [← wants_congr (iff_of_true hbefore hafter)]
    exact hqueues.addressed h
  · -- The tokens that kept the market are removed, and each of them asks for the unsubscription.
    obtain ⟨t, ht, hmarket⟩ := hbefore
    have hmem : t ∈ removed := by
      rw [← List.mem_toFinset, hremoved, Finset.mem_sdiff]
      refine ⟨ht, fun hkept => hafter ⟨t, htracked ▸ hkept, (hmarketOf t).trans hmarket⟩⟩
    rw [wants_eq_false hafter]
    refine addressed_of_queue ?_
    rw [heq] at hafter ⊢
    refine List.mem_append_left _ (List.mem_append_right _ ?_)
    refine List.mem_flatMap.mpr ⟨t, hmem, ?_⟩
    have hrequests : ({ c with tracked := tokenIds.erase "" } : Connection).removalRequests t =
        (marketTopics topic.market).map (Action.unsubscribe, ·) := by
      unfold removalRequests
      rw [show ({ c with tracked := tokenIds.erase "" } : Connection).marketOf t =
        some topic.market from hmarket]
      exact if_neg hafter
    rw [hrequests]
    exact List.mem_map.mpr ⟨topic, mem_marketTopics.mpr rfl, rfl⟩
  · obtain ⟨t, ht, hmarket⟩ := hafter
    have hadded : t ∈ tokenIds.erase "" \ c.tracked := by
      rw [Finset.mem_sdiff]
      exact ⟨htracked ▸ ht, fun hold => hbefore ⟨t, hold, (hmarketOf t).symm.trans hmarket⟩⟩
    rw [wants_eq_true ⟨t, ht, hmarket⟩]
    refine addressed_of_queue ?_
    rw [heq]
    refine List.mem_append_right _ (List.mem_flatMap.mpr ⟨topic.market, ?_, ?_⟩)
    · rw [mem_sortedTexts, mem_marketsOf]
      exact ⟨t, hadded, (hmarketOf t).symm.trans hmarket⟩
    · exact List.mem_map.mpr ⟨topic, mem_marketTopics.mpr rfl, rfl⟩
  · rw [← wants_congr (iff_of_false hbefore hafter)]
    exact hqueues.addressed h

/-! ## Sender steps and ACKs -/

theorem pending_recordPending {c : Connection} (hfresh : c.pending.get? c.requestId = none)
    {action : Action} {sent topic : Topic} :
    (c.recordPending action sent).Pending topic ↔ c.Pending topic ∨ topic = sent := by
  rw [pending_iff, pending_iff]
  show (∃ id a, (c.pending.set c.requestId (action, sent)).get? id = some (a, topic)) ↔ _
  constructor
  · rintro ⟨id, a, hget⟩
    rw [Dict.get?_set] at hget
    split at hget
    · cases hget
      exact .inr rfl
    · exact .inl ⟨id, a, hget⟩
  · rintro (⟨id, a, hget⟩ | rfl)
    · have hne : id ≠ c.requestId := by
        rintro rfl
        rw [hfresh] at hget
        cases hget
      exact ⟨id, a, by rw [Dict.get?_set_of_ne _ hne, hget]⟩
    · exact ⟨c.requestId, action, Dict.get?_set_self _ _ _⟩

/-- A request the sender drops was not what its topic waits for. -/
theorem senderDecides_addressed_iff {c : Connection} {action : Action} {held topic : Topic}
    (hsender : c.sender = .holding action held) (hfresh : c.pending.get? c.requestId = none) :
    (c.senderDecides action held).Addressed topic (c.wants topic) ↔
      c.Addressed topic (c.wants topic) := by
  have hhas : c.SenderHas (Action.towards (c.wants topic)) topic ↔
      action = Action.towards (c.wants topic) ∧ held = topic := senderHas_holding hsender
  unfold senderDecides
  split
  · next hdrop =>
      show (_ ∨ _ ∨ _ ∨ False) ↔ c.Addressed topic (c.wants topic)
      unfold Addressed
      rw [hhas]
      constructor
      · tauto
      · rintro (hsub | hpending | hqueue | ⟨rfl, rfl⟩)
        · exact .inl hsub
        · exact .inr (.inl hpending)
        · exact .inr (.inr (.inl hqueue))
        · -- The held request is the right one, so the topic is pending or already there.
          rcases hdrop with hne | hpending | ⟨hact, hsub⟩ | ⟨hact, hsub⟩
          · exact absurd rfl hne
          · exact .inr (.inl hpending)
          · refine .inl (iff_of_true ?_ hsub)
            by_contra hw
            simp [Action.towards, hw] at hact
          · refine .inl (iff_of_false ?_ hsub)
            intro hw
            simp [Action.towards, hw] at hact
  · next hsend =>
      have hact : action = Action.towards (c.wants held) := by
        by_contra hne
        exact hsend (.inl hne)
      show (_ ∨ (c.recordPending action held).Pending topic ∨ _ ∨ False) ↔
        c.Addressed topic (c.wants topic)
      unfold Addressed
      rw [pending_recordPending hfresh, hhas]
      constructor
      · rintro (hsub | (hpending | rfl) | hqueue | hfalse)
        · exact .inl hsub
        · exact .inr (.inl hpending)
        · exact .inr (.inr (.inr ⟨hact, rfl⟩))
        · exact .inr (.inr (.inl hqueue))
        · exact hfalse.elim
      · rintro (hsub | hpending | hqueue | ⟨_, rfl⟩)
        · exact .inl hsub
        · exact .inr (.inl (.inl hpending))
        · exact .inr (.inr (.inl hqueue))
        · exact .inr (.inl (.inr rfl))

/-- `_reconcile_ws_topic` does nothing, because the topic is as wanted or asked for, or queues the
request that the topic waits for. -/
theorem reconcileTopic_cases (c : Connection) (topic : Topic) :
    (c.reconcileTopic topic = c ∧ c.Addressed topic (c.wants topic)) ∨
      c.reconcileTopic topic =
        { c with queue := c.queue ++ [(Action.towards (c.wants topic), topic)] } := by
  by_cases h : (c.wants topic ↔ topic ∈ c.subscribed) ∨
      (Action.towards (c.wants topic), topic) ∈ c.pending.values
  · refine .inl ⟨if_pos h, ?_⟩
    rcases h with hsub | hpending
    · exact .inl hsub
    · exact .inr (.inl ⟨_, hpending, rfl⟩)
  · exact .inr (if_neg h)

theorem queues_reconcileTopic (c : Connection) (topic : Topic) :
    Queues c (c.reconcileTopic topic) := by
  rcases reconcileTopic_cases c topic with ⟨heq, _⟩ | heq
  · rw [heq]
    exact ⟨rfl, rfl, rfl, rfl, fun _ h => h⟩
  · rw [heq]
    exact ⟨rfl, rfl, rfl, rfl, fun _ h => List.mem_append_left _ h⟩

theorem reconcileTopic_targets (c : Connection) (topic : Topic) :
    (c.reconcileTopic topic).identifiers = c.identifiers ∧
      (c.reconcileTopic topic).tracked = c.tracked := by
  rcases reconcileTopic_cases c topic with ⟨heq, _⟩ | heq <;> rw [heq] <;> exact ⟨rfl, rfl⟩

/-- Reconciling a topic addresses it. -/
theorem reconcileTopic_addressed (c : Connection) (topic : Topic) :
    (c.reconcileTopic topic).Addressed topic (c.wants topic) := by
  rcases reconcileTopic_cases c topic with ⟨heq, haddressed⟩ | heq
  · rw [heq]
    exact haddressed
  · rw [heq]
    exact addressed_of_queue (List.mem_append_right _ (List.mem_singleton.mpr rfl))

/-- Reconciling a topic leaves the other topics as they are. -/
theorem reconcileTopic_addressed_of_ne (c : Connection) {topic other : Topic} (hne : other ≠ topic)
    (wanted : Bool) :
    (c.reconcileTopic topic).Addressed other wanted ↔ c.Addressed other wanted := by
  rcases reconcileTopic_cases c topic with ⟨heq, _⟩ | heq
  · rw [heq]
  · have hqueue : (Action.towards wanted, other) ∈ (c.reconcileTopic topic).queue ↔
        (Action.towards wanted, other) ∈ c.queue := by
      rw [heq]
      simp [hne]
    rw [heq] at hqueue ⊢
    exact or_congr Iff.rfl (or_congr Iff.rfl (or_congr hqueue Iff.rfl))

theorem acknowledge_addressed_iff (c : Connection) (requestId : ℕ) (topic : Topic) :
    (c.acknowledge requestId).Addressed topic (c.wants topic) ↔
      c.Addressed topic (c.wants topic) := by
  unfold acknowledge
  cases hget : c.pending.get? requestId with
  | none => exact Iff.rfl
  | some request =>
      obtain ⟨action, acked⟩ := request
      by_cases hne : topic = acked
      · subst hne
        refine iff_of_true (reconcileTopic_addressed _ topic) ?_
        exact .inr (.inl (pending_iff.mpr ⟨requestId, action, hget⟩))
      · -- The request that leaves the table is about another topic.
        refine (reconcileTopic_addressed_of_ne _ hne _).trans ?_
        refine or_congr ?_ (or_congr ?_ Iff.rfl)
        · cases action <;> simp [hne]
        · rw [pending_iff, pending_iff]
          refine exists_congr fun id => exists_congr fun a => ?_
          show (c.pending.erase requestId).get? id = _ ↔ _
          by_cases hid : id = requestId
          · subst hid
            rw [Dict.get?_erase_self, hget]
            simp [Ne.symm hne]
          · rw [Dict.get?_erase_of_ne _ hid]

/-! ## Runs -/

/-- The numbers in the table of pending requests were given out. -/
def Numbered (c : Connection) : Prop := ∀ id request, c.pending.get? id = some request →
  id < c.requestId

theorem Numbered.fresh {c : Connection} (h : c.Numbered) : c.pending.get? c.requestId = none := by
  by_contra hsome
  obtain ⟨request, hget⟩ := Option.ne_none_iff_exists'.mp hsome
  exact lt_irrefl _ (h _ _ hget)

theorem Numbered.recordPending {c : Connection} (h : c.Numbered) (action : Action) (topic : Topic) :
    (c.recordPending action topic).Numbered := by
  intro id request hget
  show id < c.requestId + 1
  replace hget : (c.pending.set c.requestId (action, topic)).get? id = some request := hget
  rw [Dict.get?_set] at hget
  split at hget
  · omega
  · have hid := h id request hget
    omega

theorem Queues.numbered {c c' : Connection} (h : Queues c c') (hn : c.Numbered) : c'.Numbered := by
  unfold Numbered
  rw [h.pending, h.requestId]
  exact hn

theorem Numbered.acknowledge {c : Connection} (h : c.Numbered) (requestId : ℕ) :
    (c.acknowledge requestId).Numbered := by
  unfold Connection.acknowledge
  cases c.pending.get? requestId with
  | none => exact h
  | some request =>
      refine (queues_reconcileTopic _ request.2).numbered fun id other hget => ?_
      refine h id other ?_
      replace hget : (c.pending.erase requestId).get? id = some other := hget
      by_cases hid : id = requestId
      · rw [hid, Dict.get?_erase_self] at hget
        cases hget
      · rwa [Dict.get?_erase_of_ne _ hid] at hget

end Connection

/-- The steps of the sender and of the receiver. -/
def Event.Work : Event → Prop
  | .registerMarket .. | .watchOrderBook _ | .syncMarketDataTargets .. => False
  | .firstSend | .senderStarts | .senderTakes | .senderDecides | .senderSent | .ack _ => True

open Connection

/-- What is wanted changes with the targets only. -/
theorem Event.Work.wants {e : Event} (he : e.Work) {c c' : Connection} (h : e.step c = some c')
    (topic : Topic) : c'.wants topic = c.wants topic := by
  have htargets : c'.identifiers = c.identifiers ∧ c'.tracked = c.tracked := by
    cases e with
    | registerMarket | watchOrderBook | syncMarketDataTargets => exact he.elim
    | firstSend | senderStarts | senderTakes | senderSent =>
        simp only [Event.step] at h
        split at h <;> cases h
        exact ⟨rfl, rfl⟩
    | senderDecides =>
        simp only [Event.step] at h
        split at h <;> cases h
        unfold Connection.senderDecides
        split <;> exact ⟨rfl, rfl⟩
    | ack requestId =>
        simp only [Event.step] at h
        split at h <;> cases h
        unfold Connection.acknowledge
        split
        · exact ⟨rfl, rfl⟩
        · next action acked _ => exact reconcileTopic_targets _ acked
  unfold Connection.wants desiredTopics marketsOf marketOf
  rw [htargets.1, htargets.2]

/-- No step of the sender or the receiver makes a difference to whether a topic is addressed. -/
theorem Event.Work.addressed_step_iff {e : Event} (he : e.Work) {c c' : Connection} (hn : c.Numbered)
    (h : e.step c = some c') (topic : Topic) :
    c'.Addressed topic (c'.wants topic) ↔ c.Addressed topic (c.wants topic) := by
  rw [he.wants h]
  cases e with
  | registerMarket | watchOrderBook | syncMarketDataTargets => exact he.elim
  | firstSend =>
      simp only [Event.step] at h
      split at h <;> cases h
      next sent rest hsender =>
      show ((c.wants topic ↔ topic ∈ c.subscribed) ∨ (c.recordPending .subscribe sent).Pending topic ∨
        (_, topic) ∈ c.queue ∨ topic ∈ rest) ↔ _
      rw [pending_recordPending hn.fresh, Addressed, senderHas_starting hsender, List.mem_cons]
      tauto
  | senderStarts =>
      simp only [Event.step] at h
      split at h <;> cases h
      next hsender =>
      show (_ ∨ _ ∨ _ ∨ False) ↔ _
      rw [Addressed, senderHas_starting hsender]
      exact or_congr Iff.rfl (or_congr Iff.rfl (or_congr Iff.rfl (by simp)))
  | senderTakes =>
      simp only [Event.step] at h
      split at h <;> cases h
      next action taken rest hsender hqueue =>
      have hidle : ¬c.SenderHas (Action.towards (c.wants topic)) topic := by
        rw [SenderHas, hsender]
        exact id
      show ((c.wants topic ↔ topic ∈ c.subscribed) ∨ c.Pending topic ∨ (_, topic) ∈ rest ∨
        (action = _ ∧ taken = topic)) ↔ _
      rw [Addressed, hqueue, List.mem_cons, Prod.mk.injEq]
      constructor
      · rintro (hsub | hpending | hrest | ⟨rfl, rfl⟩)
        · exact .inl hsub
        · exact .inr (.inl hpending)
        · exact .inr (.inr (.inl (.inr hrest)))
        · exact .inr (.inr (.inl (.inl ⟨rfl, rfl⟩)))
      · rintro (hsub | hpending | (⟨hact, rfl⟩ | hrest) | hfalse)
        · exact .inl hsub
        · exact .inr (.inl hpending)
        · exact .inr (.inr (.inr ⟨hact.symm, rfl⟩))
        · exact .inr (.inr (.inl hrest))
        · exact absurd hfalse hidle
  | senderDecides =>
      simp only [Event.step] at h
      split at h <;> cases h
      next action held hsender =>
      exact senderDecides_addressed_iff hsender hn.fresh
  | senderSent =>
      simp only [Event.step] at h
      split at h <;> cases h
      next hsender =>
      show (_ ∨ _ ∨ _ ∨ False) ↔ _
      rw [Addressed, SenderHas, hsender]
      exact Iff.rfl
  | ack requestId =>
      simp only [Event.step] at h
      split at h <;> cases h
      exact acknowledge_addressed_iff c requestId topic

/-- The invariant of a connection. -/
structure Connection.Settling (c : Connection) : Prop where
  addressed : ∀ topic, c.Addressed topic (c.wants topic)
  numbered : c.Numbered

theorem Event.step_numbered {e : Event} {c c' : Connection} (hn : c.Numbered)
    (h : e.step c = some c') : c'.Numbered := by
  cases e with
  | registerMarket token marketId side =>
      cases h
      exact (queues_registerMarket c token marketId side).numbered hn
  | watchOrderBook token =>
      cases h
      exact hn
  | syncMarketDataTargets tokenIds removed =>
      simp only [Event.step] at h
      split at h <;> cases h
      rw [syncMarketDataTargets_eq]
      exact hn
  | firstSend =>
      simp only [Event.step] at h
      split at h <;> cases h
      exact hn.recordPending _ _
  | senderDecides =>
      simp only [Event.step] at h
      split at h <;> cases h
      unfold Connection.senderDecides
      split
      · exact hn
      · exact hn.recordPending _ _
  | senderStarts | senderTakes | senderSent =>
      simp only [Event.step] at h
      split at h <;> cases h
      exact hn
  | ack requestId =>
      simp only [Event.step] at h
      split at h <;> cases h
      exact hn.acknowledge requestId

/-- Every step keeps the topics addressed, where a change of the targets meets its condition. -/
theorem Event.step_settling {e : Event} {c c' : Connection} (hs : c.Settling) (hok : e.Addresses c)
    (h : e.step c = some c') : c'.Settling := by
  refine ⟨fun topic => ?_, e.step_numbered hs.numbered h⟩
  have hwork : e.Work → c'.Addressed topic (c'.wants topic) := fun he =>
    (he.addressed_step_iff hs.numbered h topic).mpr (hs.addressed topic)
  cases e with
  | registerMarket token marketId side =>
      cases h
      exact registerMarket_addressed hok (hs.addressed topic)
  | watchOrderBook token =>
      cases h
      exact watchOrderBook_addressed hok (hs.addressed topic)
  | syncMarketDataTargets tokenIds removed =>
      simp only [Event.step] at h
      split at h <;> cases h
      next hremoved => exact syncMarketDataTargets_addressed hremoved.2 (hs.addressed topic)
  | firstSend | senderStarts | senderTakes | senderDecides | senderSent | ack =>
      exact hwork trivial

/-- A connection starts with every wanted topic among its first subscriptions. -/
theorem Connection.settling_opened (c : Connection) : c.opened.Settling := by
  refine ⟨fun topic => ?_, fun id request hget => ?_⟩
  · by_cases hw : c.opened.wants topic = true
    · refine .inr (.inr (.inr ?_))
      show topic ∈ (sortedTexts (c.marketsOf c.tracked)).flatMap marketTopics
      refine List.mem_flatMap.mpr ⟨topic.market, ?_, mem_marketTopics.mpr rfl⟩
      rw [mem_sortedTexts, mem_marketsOf]
      exact wants_iff.mp hw
    · exact .inl (iff_of_false hw (Finset.notMem_empty topic))
  · cases hget

/-- A change of the targets that misses its condition leaves a topic that nothing will look at. -/
theorem Event.unaddressed_of_not_addresses {e : Event} {c c' : Connection} (hok : ¬e.Addresses c)
    (h : e.step c = some c') : ∃ topic, ¬c'.Addressed topic (c'.wants topic) := by
  cases e with
  | watchOrderBook token =>
      cases h
      simp only [Event.Addresses, not_forall] at hok
      obtain ⟨market, hmarket, _, topic, htopic, hnot⟩ := hok
      rw [mem_marketTopics] at htopic
      refine ⟨topic, ?_⟩
      have hwants : (c.watchOrderBook token).wants topic = true :=
        wants_eq_true ⟨token, Finset.mem_insert_self _ _, htopic ▸ hmarket⟩
      rw [hwants]
      exact hnot
  | registerMarket token marketId side =>
      cases h
      simp only [Event.Addresses, not_forall] at hok
      obtain ⟨old, _, _, hafter, topic, htopic, hnot⟩ := hok
      rw [mem_marketTopics] at htopic
      refine ⟨topic, ?_⟩
      rw [wants_eq_false (htopic ▸ hafter)]
      rcases registerMarket_cases c token marketId side with heq | ⟨market, heq⟩
      · rw [heq]
        exact hnot
      · -- What is queued are subscriptions, and the topic waits for the opposite.
        rw [heq]
        rintro (hsub | hpending | hqueue | hsender)
        · exact hnot (.inl hsub)
        · exact hnot (.inr (.inl hpending))
        · rcases List.mem_append.mp hqueue with hqueue | hnew
          · exact hnot (.inr (.inr (.inl hqueue)))
          · split at hnew <;> simp [Action.towards] at hnew
        · exact hnot (.inr (.inr (.inr hsender)))
  | syncMarketDataTargets | firstSend | senderStarts | senderTakes | senderDecides | senderSent
  | ack => exact absurd trivial hok

/-- The sender and the receiver do not repair a topic that is not addressed. -/
theorem unaddressed_of_work {c c' : Connection} (hn : c.Numbered) {topic : Topic}
    (hnot : ¬c.Addressed topic (c.wants topic)) {hist : List Connection}
    (hrun : Run (fun c e => Event.step c e) (fun _ e => e.Work) c hist c') :
    ¬c'.Addressed topic (c'.wants topic) := by
  have h : c'.Numbered ∧ ¬c'.Addressed topic (c'.wants topic) := by
    refine hrun.state_invariant (fun c => c.Numbered ∧ ¬c.Addressed topic (c.wants topic))
      ⟨hn, hnot⟩ ?_
    intro d e d' ⟨hd, hdnot⟩ he hstep
    exact ⟨e.step_numbered hd hstep, fun ha => hdnot ((he.addressed_step_iff hd hstep topic).mp ha)⟩
  exact h.2

/-- **On a connection whose changes of the targets meet their condition, the subscribed topics are
the wanted ones whenever it comes to rest; and after the first change that does not, it comes to
rest only with a topic that is subscribed although it is not wanted, or the other way round.** -/
theorem subscriptions_converge (before : Connection) {hist : List Connection} {c : Connection}
    (hrun : Run (fun c e => Event.step c e) (fun c e => e.Addresses c) before.opened hist c) :
    (c.Quiescent → c.subscribed = c.desiredTopics) ∧
      ∀ e c', ¬e.Addresses c → Event.step c e = some c' → ∃ topic, ∀ hist' rest,
        Run (fun c e => Event.step c e) (fun _ e => e.Work) c' hist' rest → rest.Quiescent →
          ¬(topic ∈ rest.desiredTopics ↔ topic ∈ rest.subscribed) := by
  have hsettling : c.Settling :=
    hrun.state_invariant Connection.Settling before.settling_opened
      fun _ e _ hs hok hstep => e.step_settling hs hok hstep
  constructor
  · intro hq
    ext topic
    have haddressed := (Addressed.of_quiescent hq).mp (hsettling.addressed topic)
    rw [← haddressed, Connection.wants, decide_eq_true_iff]
  · intro e c' hok hstep
    obtain ⟨topic, hnot⟩ := e.unaddressed_of_not_addresses hok hstep
    refine ⟨topic, fun hist' rest hwork hq hiff => ?_⟩
    refine unaddressed_of_work (e.step_numbered hsettling.numbered hstep) hnot hwork ?_
    rw [Addressed.of_quiescent hq, Connection.wants, decide_eq_true_iff]
    exact hiff

namespace TopicExamples

/-- The token of market 7 is registered and not tracked. -/
def registered : Connection := { identifiers := Dict.empty.set "100" ("7", .yes) }

/-- The connection after the first thing to happen: nothing is to be sent, and the sender starts. -/
def started : Connection := { registered with sender := .idle }

theorem registered_starts : Event.step registered.opened .senderStarts = some started := by
  have hopened : registered.opened = registered := by
    simp [opened, registered, marketsOf]
  rw [hopened]
  rfl

/-- The connection after `watch_order_book`. -/
def watched : Connection := { registered with tracked := {"100"}, sender := .idle }

/-- A token that is watched is never subscribed: the connection is at rest, wants both topics of the
market and has neither. -/
theorem watched_not_subscribed :
    ∃ hist, Run (fun c e => Event.step c e) anyAction registered.opened hist watched ∧
      watched.Quiescent ∧ watched.subscribed ≠ watched.desiredTopics := by
  have hopened : Run (fun c e => Event.step c e) anyAction registered.opened [] registered.opened :=
    .start
  have hstart := hopened.next (a := Event.senderStarts) trivial registered_starts
  refine ⟨_, hstart.next (a := Event.watchOrderBook "100") trivial rfl, ⟨rfl, rfl, rfl⟩, ?_⟩
  decide +kernel

/-- The connection after the token is synced. -/
def syncedQueue : Connection :=
  { registered with
    tracked := {"100"}
    queue := (marketTopics "7").map (Action.subscribe, ·)
    sender := .idle }

theorem started_syncs :
    Event.step started (.syncMarketDataTargets {"100"} []) = some syncedQueue := by
  have hadded :
      sortedTexts (started.marketsOf (({"100"} : Finset String).erase "" \ started.tracked)) =
        ["7"] := by
    have hmarkets : started.marketsOf (({"100"} : Finset String).erase "" \ started.tracked) =
        {"7"} := by decide +kernel
    rw [hmarkets, sortedTexts, Finset.sort_singleton]
  rw [Event.step, if_pos (by decide +kernel), syncMarketDataTargets_eq, hadded]
  decide +kernel

/-- The two requests are sent and acknowledged, the second one first. -/
def requests : List Event :=
  [.senderTakes, .senderDecides, .senderSent, .senderTakes, .senderDecides, .senderSent,
    .ack 2, .ack 1]

/-- The connection after `requests`. -/
def subscribed : Connection :=
  { registered with
    tracked := {"100"}
    subscribed := {⟨.orderbook, "7"⟩, ⟨.tradingStatus, "7"⟩}
    requestId := 3
    sender := .idle }

theorem subscriptions_converge_synced : subscribed.subscribed = subscribed.desiredTopics := by
  have hexec : exec (fun c e => Event.step c e) (fun c e => e.Addresses c) syncedQueue requests =
      some subscribed := by decide +kernel
  have hopened : Run (fun c e => Event.step c e) (fun c e => e.Addresses c) registered.opened []
      registered.opened := .start
  have hstart := hopened.next (a := Event.senderStarts) trivial registered_starts
  have hsynced := hstart.next (a := Event.syncMarketDataTargets {"100"} []) trivial started_syncs
  obtain ⟨hist, hrun, _⟩ := hsynced.append_exec hexec
  exact (subscriptions_converge registered hrun).1 ⟨rfl, rfl, rfl⟩

end TopicExamples

end ArbitrageEngine.Connectors.PredictFun
