/-
# ArbitrageEngine.Connectors.Subscriptions -- subscriptions without acknowledgements

Polymarket, Myriad and Opinion subscribe alike.  A change of the targets changes the set of desired
keys (tokens, channels or markets) and queues a request for every key that came or went; the queue
outlives the connections.  A new connection subscribes what is desired at that moment, outside the
queue, and then its sender takes the requests one by one, skips those that change nothing or are
superseded, sends the others, and notes what it believes subscribed.  No answer is awaited.

`Subscribing` is what differs between the three, with the one fact the queue needs: the requests a
call queues lead from the old desired set to the new one.  Two equations then hold in every state:
the queue settles on the desired set, and what the sender believes, once the message under way and
the queue are applied to it, is the desired set (`Client.InStep`).
-/
import ArbitrageEngine.Connectors.OpinionBooks
import ArbitrageEngine.Connectors.StreamedBooks
import ArbitrageEngine.Lib.SwitchQueue

namespace ArbitrageEngine.Subscriptions

open Lib Lib.Runs Lib.SwitchQueue

/-! ## Clients -/

/-- A message to the venue: these keys are subscribed, or unsubscribed. -/
structure Message (κ : Type) where
  on : Bool
  keys : List κ
deriving DecidableEq

def Message.switches {κ : Type} (message : Message κ) : List (Switch κ) :=
  all message.on message.keys

/-- What the sender of a connection is doing. -/
inductive Sender (κ : Type)
  /-- Not started: these subscriptions of the snapshot are still to be sent, a list for each
  message. -/
  | starting (rest : List (List κ))
  /-- Waiting for the queue. -/
  | idle
  /-- Waiting for `send_json`. -/
  | sending (request : Switch κ)
  /-- `send_json` raised, and the task is gone. -/
  | failed
deriving DecidableEq

/-- One websocket connection. -/
structure Connection (κ : Type) where
  /-- `subscribed`. -/
  believed : Finset κ
  sender : Sender κ
  /-- The messages sent so far. -/
  log : List (Message κ) := []
deriving DecidableEq

/-- The part of a client that decides about its subscriptions. -/
structure Client (τ κ : Type) where
  targets : τ
  /-- `_subscription_queue`. -/
  queue : List (Switch κ) := []
  connection : Option (Connection κ) := none
deriving DecidableEq

/-- How a connector keeps its targets and opens a connection. -/
structure Subscribing (τ κ ι : Type) [DecidableEq κ] where
  noTargets : τ
  desired : τ → Finset κ
  /-- What a call does to the targets, and what it queues; none if there is no such call. -/
  call : τ → ι → Option (τ × List (Switch κ))
  /-- The messages that subscribe a snapshot of the desired keys. -/
  firstMessages : List κ → List (List κ)
  /-- Is `subscribed` the whole snapshot from the start, or is it added to with each message? -/
  believesAtOnce : Bool
  /-- What a call queues leads from the old desired keys to the new ones. -/
  leads : ∀ {targets i targets' requests}, call targets i = some (targets', requests) →
    after (desired targets) requests = desired targets'
  /-- The first messages are about the keys of the snapshot. -/
  covers : ∀ snapshot key, key ∈ (firstMessages snapshot).flatten ↔ key ∈ snapshot

/-! ## Steps -/

/-- What can happen to a client. -/
inductive Event (κ ι : Type)
  /-- `_register_token`, `watch_order_book` or `sync_market_data_targets`. -/
  | call (i : ι)
  /-- A connection is open; `snapshot` lists the desired keys as the set is iterated. -/
  | opened (snapshot : List κ)
  /-- The next of the first messages is sent. -/
  | firstSent
  /-- `_send_subscriptions` starts. -/
  | senderStarts
  /-- The sender gets a request, and skips it or begins to send it. -/
  | senderTakes
  /-- `send_json` returns. -/
  | senderSent
  /-- `send_json` raises. -/
  | senderFails
  /-- The connection is gone, and with it the sender. -/
  | closed

section Steps

variable {κ : Type} [DecidableEq κ]

/-- The loop body of `_send_subscriptions`, once it has a request. -/
def senderDecides (desired : Finset κ) (connection : Connection κ) (request : Switch κ) :
    Connection κ :=
  if request.on then
    if request.key ∈ connection.believed ∨ request.key ∉ desired then connection
    else { connection with sender := .sending request }
  else
    if request.key ∉ connection.believed then connection
    else { connection with sender := .sending request }

/-- The rest of the loop body, after `send_json`. -/
def senderSent (connection : Connection κ) (request : Switch κ) : Connection κ where
  believed := request.act connection.believed
  sender := .idle
  log := connection.log ++ [⟨request.on, [request.key]⟩]

namespace Subscribing

variable {τ ι : Type} (S : Subscribing τ κ ι)

def newClient : Client τ κ := { targets := S.noTargets }

/-- The connection after the handshake. -/
def opened (snapshot : List κ) : Connection κ where
  believed := if S.believesAtOnce then snapshot.toFinset else ∅
  sender := .starting (S.firstMessages snapshot)

/-- After one of the first messages. -/
def firstSent (connection : Connection κ) (keys : List κ) (rest : List (List κ)) :
    Connection κ where
  believed :=
    if S.believesAtOnce then connection.believed else connection.believed ∪ keys.toFinset
  sender := .starting rest
  log := connection.log ++ [⟨true, keys⟩]

/-- One step of the event loop. -/
def step (c : Client τ κ) : Event κ ι → Option (Client τ κ)
  | .call i => (S.call c.targets i).map fun (targets, requests) =>
      { c with targets := targets, queue := c.queue ++ requests }
  | .opened snapshot =>
      if c.connection = none ∧ snapshot.Nodup ∧ snapshot.toFinset = S.desired c.targets then
        some { c with connection := some (S.opened snapshot) }
      else none
  | .firstSent => do
      let connection ← c.connection
      match connection.sender with
      | .starting (keys :: rest) =>
          some { c with connection := some (S.firstSent connection keys rest) }
      | _ => none
  | .senderStarts => do
      let connection ← c.connection
      match connection.sender with
      | .starting [] => some { c with connection := some { connection with sender := .idle } }
      | _ => none
  | .senderTakes => do
      let connection ← c.connection
      match connection.sender, c.queue with
      | .idle, request :: rest =>
          some { c with
            queue := rest
            connection := some (senderDecides (S.desired c.targets) connection request) }
      | _, _ => none
  | .senderSent => do
      let connection ← c.connection
      match connection.sender with
      | .sending request =>
          some { c with connection := some (senderSent connection request) }
      | _ => none
  | .senderFails => do
      let connection ← c.connection
      match connection.sender with
      | .sending _ => some { c with connection := some { connection with sender := .failed } }
      | _ => none
  | .closed =>
      match c.connection with
      | none => none
      | some _ => some { c with connection := none }

end Subscribing

/-! ## What is under way -/

/-- What the sender will have sent when it looks at the queue again. -/
def Sender.underway : Sender κ → List (Switch κ)
  | .starting rest => all true rest.flatten
  | .sending request => [request]
  | .idle | .failed => []

/-- What the venue was asked so far, key by key. -/
def Connection.sent (connection : Connection κ) : List (Switch κ) :=
  connection.log.flatMap Message.switches

omit [DecidableEq κ] in
theorem sent_append (connection : Connection κ) (believed : Finset κ) (sender : Sender κ)
    (message : Message κ) :
    Connection.sent ⟨believed, sender, connection.log ++ [message]⟩
      = connection.sent ++ message.switches := by
  simp [Connection.sent]

/-- What the sender believes follows the desired keys and what was sent. -/
structure Connection.InStep (atOnce : Bool) (desired : Finset κ) (queue : List (Switch κ))
    (connection : Connection κ) : Prop where
  /-- The message under way and the queue lead to the desired keys. -/
  desired : after (after connection.believed connection.sender.underway) queue = desired
  /-- What was sent and is under way is what is believed. -/
  sent : after connection.believed connection.sender.underway
    = after ∅ (connection.sent ++ connection.sender.underway)
  /-- A snapshot that is believed at once is believed before it is sent. -/
  snapshot : atOnce = true → ∀ rest, connection.sender = .starting rest →
    ∀ key ∈ rest.flatten, key ∈ connection.believed

namespace Connection.InStep

variable {atOnce : Bool} {desired : Finset κ} {queue : List (Switch κ)} {connection : Connection κ}

/-- A call queues what leads to the new desired keys. -/
theorem call (h : connection.InStep atOnce desired queue) {desired' : Finset κ}
    {requests : List (Switch κ)} (hleads : after desired requests = desired') :
    connection.InStep atOnce desired' (queue ++ requests) where
  desired := by rw [after_append, h.desired, hleads]
  sent := h.sent
  snapshot := h.snapshot

/-- The sender takes a request: what it sends is under way, and what it skips changes nothing. -/
theorem senderDecides {request : Switch κ} {rest : List (Switch κ)}
    (h : connection.InStep atOnce desired (request :: rest)) (hidle : connection.sender = .idle) :
    (Subscriptions.senderDecides desired connection request).InStep atOnce desired rest := by
  have hlead : after connection.believed (request :: rest) = desired := by
    have := h.desired
    rwa [hidle] at this
  have hsent : connection.believed = after ∅ connection.sent := by
    have := h.sent
    rw [hidle] at this
    simpa [Sender.underway] using this
  have hskip (hrest : after connection.believed rest = desired) :
      connection.InStep atOnce desired rest := by
    refine ⟨?_, h.sent, h.snapshot⟩
    rw [hidle]
    exact hrest
  have hsend : InStep atOnce desired rest { connection with sender := .sending request } := by
    refine ⟨hlead, ?_, fun _ _ hstarting => by cases hstarting⟩
    show after connection.believed [request] = after ∅ (connection.sent ++ [request])
    rw [after_append, ← hsent]
  unfold Subscriptions.senderDecides
  obtain ⟨on, key⟩ := request
  cases on with
  | true =>
      rw [if_pos rfl]
      by_cases hbelieved : key ∈ connection.believed
      · rw [if_pos (.inl hbelieved)]
        refine hskip ?_
        have hsame : Switch.act connection.believed ⟨true, key⟩ = connection.believed :=
          Finset.insert_eq_of_mem hbelieved
        rw [← hlead, after_cons, hsame]
      · by_cases hwanted : key ∈ desired
        · rw [if_neg (not_or.mpr ⟨hbelieved, not_not.mpr hwanted⟩)]
          exact hsend
        · -- The key is not desired, so a later request in the queue takes it back.
          rw [if_pos (.inr hwanted)]
          refine hskip ?_
          rw [← hlead] at hwanted
          rw [← after_drop_superseded hwanted, hlead]
  | false =>
      rw [if_neg Bool.false_ne_true]
      by_cases hbelieved : key ∈ connection.believed
      · rw [if_neg (not_not.mpr hbelieved)]
        exact hsend
      · rw [if_pos hbelieved]
        refine hskip ?_
        have hsame : Switch.act connection.believed ⟨false, key⟩ = connection.believed :=
          Finset.erase_eq_of_notMem hbelieved
        rw [← hlead, after_cons, hsame]

theorem senderSent (h : connection.InStep atOnce desired queue) {request : Switch κ}
    (hsending : connection.sender = .sending request) :
    (Subscriptions.senderSent connection request).InStep atOnce desired queue := by
  have hdesired := h.desired
  have hsent := h.sent
  rw [hsending] at hdesired hsent
  refine ⟨hdesired, ?_, fun _ _ hstarting => by cases hstarting⟩
  show request.act connection.believed = after ∅ (Connection.sent _ ++ [])
  rw [List.append_nil, Subscriptions.senderSent, sent_append]
  exact hsent

theorem senderStarts (h : connection.InStep atOnce desired queue)
    (hstarting : connection.sender = .starting []) :
    InStep atOnce desired queue { connection with sender := .idle } := by
  have hdesired := h.desired
  have hsent := h.sent
  rw [hstarting] at hdesired hsent
  exact ⟨hdesired, hsent, fun _ _ hidle => by cases hidle⟩

end Connection.InStep

namespace Subscribing

variable {τ ι : Type} (S : Subscribing τ κ ι)

/-- A new connection is in step with a queue that settles on the desired keys. -/
theorem inStep_opened {desired : Finset κ} {queue : List (Switch κ)} {snapshot : List κ}
    (hqueue : after desired queue = desired) (hsnapshot : snapshot.toFinset = desired) :
    (S.opened snapshot).InStep S.believesAtOnce desired queue := by
  have hall : after ∅ (all true (S.firstMessages snapshot).flatten) = desired := by
    ext key
    rw [mem_after_on, S.covers, ← hsnapshot]
    simp
  have hbelieved : after (S.opened snapshot).believed
      (all true (S.firstMessages snapshot).flatten) = desired := by
    by_cases honce : S.believesAtOnce = true
    · have hfull : (S.opened snapshot).believed = desired := by
        rw [opened, if_pos honce, hsnapshot]
      rw [hfull, after_on_of_subset]
      intro key hkey
      rw [S.covers] at hkey
      rw [← hsnapshot]
      exact List.mem_toFinset.mpr hkey
    · have hempty : (S.opened snapshot).believed = ∅ := by rw [opened, if_neg honce]
      rw [hempty, hall]
  constructor
  · show after (after (S.opened snapshot).believed (all true _)) queue = desired
    rw [hbelieved, hqueue]
  · show after (S.opened snapshot).believed (all true _) = after ∅ ([] ++ all true _)
    rw [hbelieved, List.nil_append, hall]
  · intro honce rest hrest key hkey
    cases hrest
    rw [S.covers] at hkey
    rw [opened, if_pos honce]
    exact List.mem_toFinset.mpr hkey

theorem inStep_firstSent {desired : Finset κ} {queue : List (Switch κ)}
    {connection : Connection κ} {keys : List κ} {rest : List (List κ)}
    (h : connection.InStep S.believesAtOnce desired queue)
    (hstarting : connection.sender = .starting (keys :: rest)) :
    (S.firstSent connection keys rest).InStep S.believesAtOnce desired queue := by
  have hsplit : all true (keys :: rest).flatten = all true keys ++ all true rest.flatten := by
    simp [all]
  have hsnapshot : S.believesAtOnce = true → ∀ key ∈ (keys :: rest).flatten,
      key ∈ connection.believed := fun honce => h.snapshot honce _ hstarting
  -- With this message noted, what is believed in the end is the same.
  have hsame : after (S.firstSent connection keys rest).believed (all true rest.flatten)
      = after connection.believed (all true (keys :: rest).flatten) := by
    by_cases honce : S.believesAtOnce = true
    · rw [firstSent, if_pos honce, after_on_of_subset (hsnapshot honce), after_on_of_subset]
      intro key hkey
      exact hsnapshot honce key (List.mem_append_right _ hkey)
    · have hadded : connection.believed ∪ keys.toFinset
          = after connection.believed (all true keys) := by
        ext key
        rw [mem_after_on, Finset.mem_union, List.mem_toFinset, or_comm]
      rw [firstSent, if_neg honce, hsplit, after_append, ← hadded]
  have hdesired := h.desired
  have hsent := h.sent
  rw [hstarting] at hdesired hsent
  constructor
  · show after (after _ (all true rest.flatten)) queue = desired
    rw [hsame]
    exact hdesired
  · show after _ (all true rest.flatten) = after ∅ (Connection.sent _ ++ all true rest.flatten)
    rw [hsame, firstSent, sent_append, List.append_assoc]
    show _ = after ∅ (connection.sent ++ (all true keys ++ all true rest.flatten))
    rw [← hsplit]
    exact hsent
  · intro honce rest' hrest key hkey
    cases hrest
    rw [firstSent, if_pos honce]
    exact hsnapshot honce key (List.mem_append_right _ hkey)

/-! ## Runs -/

/-- The queue settles on the desired keys, and a connection with a living sender is in step. -/
structure InStep (c : Client τ κ) : Prop where
  queue : after (S.desired c.targets) c.queue = S.desired c.targets
  connection : ∀ connection ∈ c.connection, connection.sender ≠ .failed →
    connection.InStep S.believesAtOnce (S.desired c.targets) c.queue

theorem inStep_newClient : S.InStep S.newClient :=
  ⟨rfl, fun _ hmem => by cases hmem⟩

/-- The requests that are left settle on the desired keys as well. -/
theorem queue_of_cons {desired : Finset κ} {request : Switch κ} {rest : List (Switch κ)}
    (h : after desired (request :: rest) = desired) : after desired rest = desired := by
  rw [after_cons] at h
  calc after desired rest = after (after (request.act desired) rest) rest := by rw [h]
    _ = after (request.act desired) rest := after_after _ _
    _ = desired := h

theorem InStep.step {c c' : Client τ κ} {event : Event κ ι} (h : S.InStep c)
    (hstep : S.step c event = some c') : S.InStep c' := by
  cases event with
  | call i =>
      obtain ⟨⟨targets, requests⟩, hcall, rfl⟩ := Option.map_eq_some_iff.mp hstep
      have hleads := S.leads hcall
      exact ⟨after_append_of_settled h.queue hleads,
        fun connection hmem halive => (h.connection connection hmem halive).call hleads⟩
  | opened snapshot =>
      obtain ⟨⟨-, -, hsnapshot⟩, hc'⟩ := Option.ite_none_right_eq_some.mp hstep
      cases hc'
      refine ⟨h.queue, ?_⟩
      rintro _ ⟨⟩ -
      exact S.inStep_opened h.queue hsnapshot
  | firstSent =>
      obtain ⟨connection, hconnection, hstep⟩ := Option.bind_eq_some_iff.mp hstep
      split at hstep
      · next keys rest hstarting =>
          cases hstep
          refine ⟨h.queue, ?_⟩
          rintro _ ⟨⟩ -
          have halive := h.connection connection hconnection (by rw [hstarting]; intro h; cases h)
          exact S.inStep_firstSent halive hstarting
      · cases hstep
  | senderStarts =>
      obtain ⟨connection, hconnection, hstep⟩ := Option.bind_eq_some_iff.mp hstep
      split at hstep
      · next hstarting =>
          cases hstep
          refine ⟨h.queue, ?_⟩
          rintro _ ⟨⟩ -
          have halive := h.connection connection hconnection (by rw [hstarting]; intro h; cases h)
          exact halive.senderStarts hstarting
      · cases hstep
  | senderTakes =>
      obtain ⟨connection, hconnection, hstep⟩ := Option.bind_eq_some_iff.mp hstep
      split at hstep
      · next request rest hidle hqueue =>
          cases hstep
          have hsettled := h.queue
          rw [hqueue] at hsettled
          refine ⟨queue_of_cons hsettled, ?_⟩
          rintro _ ⟨⟩ -
          have halive := h.connection connection hconnection (by rw [hidle]; intro h; cases h)
          rw [hqueue] at halive
          exact halive.senderDecides hidle
      · cases hstep
  | senderSent =>
      obtain ⟨connection, hconnection, hstep⟩ := Option.bind_eq_some_iff.mp hstep
      split at hstep
      · next request hsending =>
          cases hstep
          refine ⟨h.queue, ?_⟩
          rintro _ ⟨⟩ -
          have halive := h.connection connection hconnection (by rw [hsending]; intro h; cases h)
          exact halive.senderSent hsending
      · cases hstep
  | senderFails =>
      obtain ⟨connection, hconnection, hstep⟩ := Option.bind_eq_some_iff.mp hstep
      split at hstep
      · cases hstep
        refine ⟨h.queue, ?_⟩
        rintro _ ⟨⟩ halive
        exact absurd rfl halive
      · cases hstep
  | closed =>
      simp only [Subscribing.step] at hstep
      split at hstep
      · cases hstep
      · cases hstep
        exact ⟨h.queue, fun _ hmem => by cases hmem⟩

theorem inStep_of_run {hist : List (Client τ κ)} {c : Client τ κ}
    (h : Run S.step anyAction S.newClient hist c) : S.InStep c :=
  h.state_invariant S.InStep S.inStep_newClient fun _ _ _ hinStep _ hstep => hinStep.step S hstep

/-- In every run, over any number of connections: when the queue is empty and the sender idle, the
sender believes subscribed what is desired, and these are the keys whose last message subscribed
them. -/
def Settles : Prop :=
  ∀ hist c, Run S.step anyAction S.newClient hist c → ∀ connection ∈ c.connection,
    c.queue = [] → connection.sender = .idle →
      connection.believed = S.desired c.targets
        ∧ ∀ key, lastFor connection.sent key = some true ↔ key ∈ S.desired c.targets

theorem settles : S.Settles := by
  intro hist c hrun connection hmem hqueue hidle
  have halive := (S.inStep_of_run hrun).connection connection hmem
    (by rw [hidle]; intro h; cases h)
  have hdesired := halive.desired
  have hsent := halive.sent
  rw [hidle] at hdesired hsent
  rw [hqueue] at hdesired
  have hbelieved : connection.believed = S.desired c.targets := hdesired
  refine ⟨hbelieved, ?_⟩
  intro key
  rw [← mem_after_empty, ← hbelieved]
  simp only [Sender.underway, after_nil, List.append_nil] at hsent
  rw [hsent]

end Subscribing

end Steps

/-! ## Targets -/

/-- A call that changes the targets: `watch_order_book` of a token, or `sync_market_data_targets`
with the removed and added tokens in the order the sets give them. -/
inductive TargetCall
  | watch (tokenId : String)
  | sync (tokenIds : Finset String) (removed added : List String)

/-- The list goes through the set. -/
def Lists (tokens : List String) (s : Finset String) : Prop := tokens.Nodup ∧ tokens.toFinset = s

instance (tokens : List String) (s : Finset String) : Decidable (Lists tokens s) :=
  inferInstanceAs (Decidable (_ ∧ _))

theorem Lists.mem_iff {tokens : List String} {s : Finset String} (h : Lists tokens s)
    {tokenId : String} : tokenId ∈ tokens ↔ tokenId ∈ s := by
  rw [← h.2, List.mem_toFinset]

/-- Tokens filed under keys that are subscribed as long as they have a token: `_channel_tokens` and
`_desired_channels` of Myriad, `_market_tokens` and `_desired_markets` of Opinion. -/
structure GroupedTargets (κ : Type) where
  tokens : Dict κ (Finset String) := Dict.empty
  desired : Finset κ := ∅
deriving DecidableEq

namespace GroupedTargets

variable {κ : Type} [DecidableEq κ]

/-- `_active_tokens`. -/
def activeTokens (t : GroupedTargets κ) : Finset String := t.tokens.values.foldr (· ∪ ·) ∅

/-- `_ensure_token_subscription`. -/
def ensureTokenSubscription (t : GroupedTargets κ) (key : κ) (tokenId : String) :
    GroupedTargets κ × List (Switch κ) :=
  let tokens := t.tokens.set key (insert tokenId ((t.tokens.get? key).getD ∅))
  if key ∈ t.desired then ({ t with tokens := tokens }, [])
  else (⟨tokens, insert key t.desired⟩, [⟨true, key⟩])

/-- `_remove_token_subscription`. -/
def removeTokenSubscription (t : GroupedTargets κ) (key : κ) (tokenId : String) :
    GroupedTargets κ × List (Switch κ) :=
  match t.tokens.get? key with
  | none => (t, [])
  | some tokens =>
      let remaining := tokens.erase tokenId
      if remaining = ∅ then
        if key ∈ t.desired then
          (⟨t.tokens.erase key, t.desired.erase key⟩, [⟨false, key⟩])
        else ({ t with tokens := t.tokens.erase key }, [])
      else ({ t with tokens := t.tokens.set key remaining }, [])

section Keys

-- The key of a token; none where parsing it raises.
variable (keyOf : String → Option κ)

/-- A loop over tokens, with what it queues and whether it came to its end. -/
def forTokens (change : GroupedTargets κ → κ → String → GroupedTargets κ × List (Switch κ)) :
    GroupedTargets κ → List String → (GroupedTargets κ × List (Switch κ)) × Bool
  | t, [] => ((t, []), true)
  | t, tokenId :: rest =>
      match keyOf tokenId with
      | none => ((t, []), false)
      | some key =>
          let (t', requests) := change t key tokenId
          let ((t'', requests'), finished) := forTokens change t' rest
          ((t'', requests ++ requests'), finished)

/-- The two loops of `sync_market_data_targets`; what raises in the first leaves out the second. -/
def syncMarketDataTargets (t : GroupedTargets κ) (removed added : List String) :
    GroupedTargets κ × List (Switch κ) :=
  match forTokens keyOf removeTokenSubscription t removed with
  | (out, false) => out
  | ((t', requests), true) =>
      let ((t'', requests'), _) := forTokens keyOf ensureTokenSubscription t' added
      (t'', requests ++ requests')

/-- The calls; `kept` are the tokens of a `sync_market_data_targets` that count. -/
def call (kept : Finset String → Finset String) (t : GroupedTargets κ) :
    TargetCall → Option (GroupedTargets κ × List (Switch κ))
  | .watch tokenId => (keyOf tokenId).map fun key => t.ensureTokenSubscription key tokenId
  | .sync tokenIds removed added =>
      if Lists removed (t.activeTokens \ kept tokenIds)
          ∧ Lists added (kept tokenIds \ t.activeTokens) then
        some (t.syncMarketDataTargets keyOf removed added)
      else none

variable {keyOf}

theorem leads_ensureTokenSubscription (t : GroupedTargets κ) (key : κ) (tokenId : String) :
    after t.desired (t.ensureTokenSubscription key tokenId).2
      = (t.ensureTokenSubscription key tokenId).1.desired := by
  unfold ensureTokenSubscription
  split <;> rfl

theorem leads_removeTokenSubscription (t : GroupedTargets κ) (key : κ) (tokenId : String) :
    after t.desired (t.removeTokenSubscription key tokenId).2
      = (t.removeTokenSubscription key tokenId).1.desired := by
  unfold removeTokenSubscription
  cases t.tokens.get? key with
  | none => rfl
  | some tokens =>
      by_cases hlast : tokens.erase tokenId = ∅
      · by_cases hdesired : key ∈ t.desired
        · simp only [hlast, hdesired, if_true]
          rfl
        · simp only [hlast, hdesired, if_true, if_false]
          rfl
      · simp only [hlast, if_false]
        rfl

theorem leads_forTokens
    {change : GroupedTargets κ → κ → String → GroupedTargets κ × List (Switch κ)}
    (hchange : ∀ t key tokenId, after t.desired (change t key tokenId).2
      = (change t key tokenId).1.desired) (tokens : List String) (t : GroupedTargets κ) :
    after t.desired (forTokens keyOf change t tokens).1.2
      = (forTokens keyOf change t tokens).1.1.desired := by
  induction tokens generalizing t with
  | nil => rfl
  | cons tokenId rest ih =>
      rw [forTokens]
      cases keyOf tokenId with
      | none => rfl
      | some key =>
          show after t.desired (_ ++ _) = _
          rw [after_append, hchange, ih]

theorem leads_syncMarketDataTargets (t : GroupedTargets κ) (removed added : List String) :
    after t.desired (t.syncMarketDataTargets keyOf removed added).2
      = (t.syncMarketDataTargets keyOf removed added).1.desired := by
  have hremoved := @leads_forTokens _ _ keyOf _ leads_removeTokenSubscription removed t
  unfold syncMarketDataTargets
  split
  · next out hout =>
      rw [hout] at hremoved
      exact hremoved
  · next t' requests hout =>
      rw [hout] at hremoved
      show after t.desired (requests ++ _) = _
      rw [after_append, hremoved]
      exact leads_forTokens leads_ensureTokenSubscription added t'

theorem leads_call {kept : Finset String → Finset String} {t t' : GroupedTargets κ}
    {i : TargetCall} {requests : List (Switch κ)} (h : call keyOf kept t i = some (t', requests)) :
    after t.desired requests = t'.desired := by
  cases i with
  | watch tokenId =>
      obtain ⟨key, -, hout⟩ := Option.map_eq_some_iff.mp h
      have hleads := leads_ensureTokenSubscription t key tokenId
      rwa [hout] at hleads
  | sync tokenIds removed added =>
      obtain ⟨-, hout⟩ := Option.ite_none_right_eq_some.mp h
      have hleads := @leads_syncMarketDataTargets _ _ keyOf t removed added
      rwa [Option.some.inj hout] at hleads

end Keys

end GroupedTargets

/-! ## The connectors -/

namespace Polymarket

/-- `_register_token`. -/
def registerToken (desired : Finset String) (tokenId : String) :
    Finset String × List (Switch String) :=
  if tokenId ∈ desired then (desired, []) else (insert tokenId desired, [⟨true, tokenId⟩])

def call (desired : Finset String) : TargetCall → Option (Finset String × List (Switch String))
  | .watch tokenId => some (registerToken desired tokenId)
  | .sync tokenIds removed added =>
      let normalized := tokenIds.erase ""
      if Lists removed (desired \ normalized) ∧ Lists added (normalized \ desired) then
        some (normalized, all false removed ++ all true added)
      else none

theorem leads_call {desired desired' : Finset String} {i : TargetCall}
    {requests : List (Switch String)} (h : call desired i = some (desired', requests)) :
    after desired requests = desired' := by
  cases i with
  | watch tokenId =>
      have hout : registerToken desired tokenId = (desired', requests) := Option.some.inj h
      unfold registerToken at hout
      split at hout <;> cases hout <;> rfl
  | sync tokenIds removed added =>
      obtain ⟨⟨hremoved, hadded⟩, hout⟩ := Option.ite_none_right_eq_some.mp h
      cases hout
      refine after_off_on ?_ ?_
      · intro tokenId
        rw [hremoved.mem_iff, Finset.mem_sdiff]
      · intro tokenId
        rw [hadded.mem_iff, Finset.mem_sdiff]

/-- `_register_token`, `sync_market_data_targets`, `_run_order_book_ws` and `_send_subscriptions`:
the snapshot is one message, and there is none for an empty one. -/
def subscribing : Subscribing (Finset String) String TargetCall where
  noTargets := ∅
  desired := id
  call := call
  firstMessages := fun snapshot => if snapshot = [] then [] else [snapshot.mergeSort]
  believesAtOnce := true
  leads := leads_call
  covers := by
    intro snapshot key
    split
    · next hempty => simp [hempty]
    · simp [List.mem_mergeSort]

end Polymarket

namespace Myriad

/-- The channel of a token. -/
def channelFor (int : String → Option ℤ) (chainId : ℤ) (tokenId : String) : Option String :=
  (ArbitrageEngine.Myriad.parseTokenId int tokenId).map fun parsed =>
    ArbitrageEngine.Myriad.channelOf chainId parsed.1

/-- `_ensure_token_subscription`, `sync_market_data_targets`, `_run_orderbook_ws` and
`_send_subscriptions`: the snapshot is believed before its messages are sent. -/
def subscribing (int : String → Option ℤ) (chainId : ℤ) :
    Subscribing (GroupedTargets String) String TargetCall where
  noTargets := {}
  desired := GroupedTargets.desired
  call := GroupedTargets.call (channelFor int chainId) (·.erase "")
  firstMessages := fun snapshot => snapshot.map ([·])
  believesAtOnce := true
  leads := GroupedTargets.leads_call
  covers := by simp

end Myriad

namespace Opinion

/-- The market of a token. -/
def marketOf (int : String → Option ℤ) (tokenId : String) : Option ℤ :=
  (ArbitrageEngine.Opinion.parseExecutionToken int tokenId).map (·.1)

/-- `_ensure_token_subscription`, `sync_market_data_targets`, `_run_depth_ws` and
`_send_subscriptions`: a market is believed subscribed once its message is sent. -/
def subscribing (int : String → Option ℤ) : Subscribing (GroupedTargets ℤ) ℤ TargetCall where
  noTargets := {}
  desired := GroupedTargets.desired
  call := GroupedTargets.call (marketOf int) id
  firstMessages := fun snapshot => snapshot.map ([·])
  believesAtOnce := false
  leads := GroupedTargets.leads_call
  covers := by simp

end Opinion

/-- **Subscriptions settle.**  In every run of each of the three connectors, over any number of
connections: whenever the queue is empty and the sender idle, the sender believes subscribed what is
desired, and the last message of a key was a subscription exactly if the key is desired. -/
theorem subscriptions_settle (int : String → Option ℤ) (chainId : ℤ) :
    Polymarket.subscribing.Settles ∧ (Myriad.subscribing int chainId).Settles
      ∧ (Opinion.subscribing int).Settles :=
  ⟨Polymarket.subscribing.settles, (Myriad.subscribing int chainId).settles,
    (Opinion.subscribing int).settles⟩

/-- `int` on the market of the example. -/
def one (text : String) : Option ℤ := if text = "1" then some 1 else none

-- A market is removed and added again around a lost connection: both requests are still queued
-- when the next connection has subscribed the market, and the sender goes through them.
example : (exec (Opinion.subscribing one).step anyAction (Opinion.subscribing one).newClient
    [.call (.watch "1:x"), .opened [1], .firstSent, .senderStarts, .senderTakes,
      .call (.sync ∅ ["1:x"] []), .closed, .call (.watch "1:x"), .opened [1], .firstSent,
      .senderStarts, .senderTakes, .senderSent, .senderTakes, .senderSent]).map
    (fun c => (c.queue, c.connection))
      = some ([], some ⟨{1}, .idle, [⟨true, [1]⟩, ⟨false, [1]⟩, ⟨true, [1]⟩]⟩) := by
  decide +kernel

end ArbitrageEngine.Subscriptions
