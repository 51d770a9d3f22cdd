/-
# ArbitrageEngine.Connectors.TransportGuard -- the last check before an order leaves

An entry order may leave only while the engine is ready: no risk pause, the runtime and the
discovery snapshot ready, the canary window open.  The router hands the connectors a guard that
checks this, to be called right before the transport.  In between nothing else may run: a call that
suspends there lets another task pause the engine, and the order leaves all the same.

A call of `buy_with_order_id_persistence` is a program over what the guard reads and what was
transmitted.  Wherever other tasks can run, what they leave of the readiness is a parameter of the
call (`letOthersRun`), and so is the answer of every awaited call, so that a statement about all
parameters is about every interleaving.

Predict.fun, Myriad and SX Bet V3 transmit only while ready, on every path and for every attempt
(`Keeps TransmittedReady`).  Opinion, the default of the base class that SX Bet V2 takes, and the
worker thread of Polymarket let other tasks run between guard and transport, and transmit while
ready exactly if those leave the engine ready.
-/
import ArbitrageEngine.Lib.Effect

namespace ArbitrageEngine.Connectors.Transport

open Lib Lib.Effect

/-! ## Readiness -/

/-- What `assert_pre_transport_ready` reads. -/
structure Readiness where
  canaryWindowOpen : Bool
  riskPaused : Bool
  entryReady : Bool
  snapshotReady : Bool
deriving DecidableEq

/-- `_entry_runtime_ready_for_market`. -/
def Readiness.entryRuntimeReady (r : Readiness) : Bool :=
  !r.riskPaused && r.entryReady && r.snapshotReady

/-- Does the guard pass? -/
def Readiness.holds (r : Readiness) : Bool := r.canaryWindowOpen && r.entryRuntimeReady

/-- The readiness, and whether it held at each transport call that has begun, newest first. -/
structure Loop where
  readiness : Readiness
  transmitted : List Bool := []
deriving DecidableEq

inductive Exc
  | submissionRejected (reason : String)
  | httpError (status : ℕ)
  | failed (reason : String)
  | cancelled
  /-- The program has not come further yet. -/
  | stillWaiting
deriving DecidableEq

/-- `except BaseException`. -/
def Exc.caughtAll : Exc → Option Exc
  | .stillWaiting => none
  | exc => some exc

/-- `except Exception`. -/
def Exc.caught : Exc → Option Exc
  | .cancelled | .stillWaiting => none
  | exc => some exc

/-- A program of the event loop. -/
abbrev Call : Type → Type := EStateM Exc Loop

/-- Other tasks run, and may leave another readiness. -/
def letOthersRun (others : Option Readiness) : Call Unit :=
  modify fun s => { s with readiness := others.getD s.readiness }

/-- An awaited call: what other tasks leave meanwhile, and how it ends. -/
structure Awaited (α : Type) where
  others : Option Readiness := none
  answer : Except Exc α

def awaiting {α : Type} (call : Awaited α) : Call α := do
  letOthersRun call.others
  await call.answer

/-- A computation without a suspension, which may raise. -/
def compute {α : Type} (result : Except Exc α) : Call α := await result

/-- `assert_pre_transport_ready`. -/
def preTransportGuard : Call Unit := do
  let s ← get
  if s.readiness.canaryWindowOpen = false then
    throw (.submissionRejected "funded canary entry deadline elapsed immediately before transport")
  if s.readiness.entryRuntimeReady = false then
    throw (.submissionRejected "entry readiness lost immediately before transport")

/-- The transport call of the order begins. -/
def transmit : Call Unit :=
  modify fun s => { s with transmitted := s.readiness.holds :: s.transmitted }

/-! ## Predict.fun -/

namespace PredictFun

/-- How `POST /v1/orders` is answered. -/
inductive Response
  /-- 401 or 403; the body is read before another attempt. -/
  | unauthorized (read : Awaited Unit)
  /-- Another error status, or a failing transport. -/
  | failed (exc : Exc)
  /-- The body, which may be `null`. -/
  | payload (body : Option (Except Exc String))

/-- One round of the loop of `_request_json`: the headers, for which a token may have to be fetched,
the semaphore, and the answer. -/
structure Attempt where
  headers : Awaited Unit
  semaphore : Option Readiness
  response : Awaited Response

/-- `_request_json` for the order; the answer is looked at by the caller.  The rounds that are still
to come are the list. -/
def requestJson (authFailuresRemaining : ℕ) : List Attempt → Call (Except Exc String)
  | [] => throw .stillWaiting
  | attempt :: rest => do
      awaiting attempt.headers
      letOthersRun attempt.semaphore
      preTransportGuard
      transmit
      match ← awaiting attempt.response with
      | .unauthorized read =>
          if 0 < authFailuresRemaining then do
            awaiting read
            requestJson (authFailuresRemaining - 1) rest
          else throw (.failed "raise_for_status")
      | .failed exc => throw exc
      -- A body that is `null` is no payload, and the loop goes round again.
      | .payload none => requestJson authFailuresRemaining rest
      | .payload (some orderId) => pure orderId

/-- What a submission meets. -/
structure Submission where
  /-- The key, the API, the price, and the fee of the token. -/
  configured : Except Exc Unit
  book : Awaited Unit
  signedOrder : Except Exc Unit
  attempts : List Attempt
  persisted : Awaited Unit

/-- `_submit_sdk_order`. -/
def submitSdkOrder (env : Submission) : Call String := do
  compute env.configured
  awaiting env.book
  compute env.signedOrder
  let response ← requestJson 1 env.attempts
  compute response

/-- `buy_with_order_id_persistence`. -/
def buyWithOrderIdPersistence (env : Submission) : Call String := do
  let orderId ← submitSdkOrder env
  awaiting env.persisted
  pure orderId

end PredictFun

/-! ## Myriad -/

namespace Myriad

structure Submission where
  token : Except Exc Unit
  /-- The lock of `_next_nonce`. -/
  nonceLock : Option Readiness
  signedOrder : Except Exc Unit
  response : Awaited (Except Exc String)
  persisted : Awaited Unit

/-- `sign_order`. -/
def signOrder (env : Submission) : Call Unit := do
  letOthersRun env.nonceLock
  compute env.signedOrder

/-- `place_order`. -/
def placeOrder (env : Submission) : Call String := do
  preTransportGuard
  transmit
  let orderId ← awaiting env.response
  compute orderId

/-- `buy_with_order_id_persistence`. -/
def buyWithOrderIdPersistence (env : Submission) : Call String := do
  compute env.token
  signOrder env
  let orderId ← placeOrder env
  awaiting env.persisted
  pure orderId

end Myriad

/-! ## SX Bet V3 -/

namespace SxBetV3

structure Submission where
  /-- A prepared order, or what has to be awaited to sign one: the proxy, the fees, the book, the
  order and the decimals. -/
  prepared : Except Exc Bool
  signing : List (Awaited Unit)
  /-- Submission window and expiry of the signed order, at the three places they are checked. -/
  window : Except Exc Unit
  tracked : Awaited Unit
  persisted : Awaited Unit
  dropped : Awaited Unit
  windowPersisted : Except Exc Unit
  semaphore : Option Readiness
  windowTransport : Except Exc Unit
  response : Awaited (Except Exc String)
  /-- `_recover_unknown_submission`. -/
  recovered : Awaited Bool
  stored : Awaited Unit

/-- `assert_transport_window`. -/
def assertTransportWindow (env : Submission) : Call Unit := do
  compute env.windowTransport
  preTransportGuard

/-- `_request_json` for `POST /orders-v3`: one attempt. -/
def requestJson (env : Submission) : Call (Except Exc String) := do
  letOthersRun env.semaphore
  assertTransportWindow env
  transmit
  awaiting env.response

/-- `_V3_DEFINITE_POST_REJECTION_STATUSES`. -/
def definitePostRejectionStatuses : List ℕ := [400, 401, 403, 404, 405, 413, 415, 422]

/-- Does the exception prove that there is no order? -/
def definitelyRejected : Exc → Bool
  | .submissionRejected _ => true
  | .httpError status => status ∈ definitePostRejectionStatuses
  | _ => false

/-- `_drop_submitted_order`, and the exception goes on. -/
def dropAndRaise (env : Submission) {α : Type} (exc : Exc) : Call α := do
  awaiting env.dropped
  throw exc

/-- `persist_order_id`; whatever it raises, the order is dropped. -/
def persistOrderId (env : Submission) : Call Unit := do
  match ← attempt Exc.caughtAll (awaiting env.persisted) with
  | .error exc => dropAndRaise env exc
  | .ok () => pure ()

/-- What follows the request: an order that was rejected is dropped, one whose fate is unknown is
looked for, and a response is read outside of the handlers. -/
def settleRequest (env : Submission) : Except Exc (Except Exc String) → Call String
  | .error exc =>
      if definitelyRejected exc then dropAndRaise env exc
      else do
        let recovered ← awaiting env.recovered
        if recovered then pure "order" else throw (.failed "submission outcome is unknown")
  | .ok (.error (.submissionRejected reason)) => dropAndRaise env (.submissionRejected reason)
  | .ok (.error exc) => throw exc
  | .ok (.ok orderId) => do
      awaiting env.stored
      pure orderId

/-- `_submit_taker_order`. -/
def submitTakerOrder (env : Submission) : Call String := do
  let prepared ← compute env.prepared
  whenever (prepared = false) (env.signing.forM awaiting)
  compute env.window
  awaiting env.tracked
  persistOrderId env
  let response ← attempt Exc.caught do
    compute env.windowPersisted
    requestJson env
  settleRequest env response

end SxBetV3

/-! ## Opinion -/

namespace Opinion

structure Submission where
  deadlineElapsed : Bool
  token : Except Exc Unit
  /-- Private key and API key. -/
  keys : Except Exc Unit
  clobLock : Option Readiness
  /-- Is there a client already? -/
  clobClient : Bool
  /-- The import and the constructor of the SDK's client. -/
  constructed : Except Exc Unit
  tradingEnabled : Awaited Unit
  payload : Except Exc Unit
  /-- Until the worker thread begins with `place_order`. -/
  handOff : Option Readiness
  placed : Awaited (Except Exc String)
  persisted : Awaited Unit

/-- `_get_clob_client`. -/
def getClobClient (env : Submission) : Call Unit := do
  letOthersRun env.clobLock
  if env.clobClient then pure ()
  else do
    compute env.constructed
    awaiting env.tradingEnabled

/-- `_submit_order` up to `place_order`. -/
def prepareOrder (env : Submission) : Call Unit := do
  compute env.token
  compute env.keys
  getClobClient env
  compute env.payload

/-- `_submit_order`. -/
def submitOrder (env : Submission) : Call String := do
  prepareOrder env
  letOthersRun env.handOff
  transmit
  let orderId ← awaiting env.placed
  compute orderId

/-- `buy_with_order_id_persistence`. -/
def buyWithOrderIdPersistence (env : Submission) : Call String := do
  if env.deadlineElapsed then
    throw (.submissionRejected "Opinion submission deadline elapsed before transport")
  preTransportGuard
  let orderId ← submitOrder env
  awaiting env.persisted
  pure orderId

end Opinion

/-! ## SX Bet V2, by the default of the base class -/

namespace SxBet

structure Submission where
  /-- The key, and the market and side of the token. -/
  registered : Except Exc Unit
  /-- `_metadata`, where it is not cached. -/
  metadata : Option (Awaited Unit)
  /-- Account, contracts and price. -/
  priced : Except Exc Unit
  /-- `_base_token_address`, with the metadata cached, and the signature. -/
  signed : Except Exc Unit
  semaphore : Option Readiness
  response : Awaited String
  persisted : Awaited Unit

/-- `_build_fill_request`. -/
def buildFillRequest (env : Submission) : Call Unit := do
  compute env.registered
  match env.metadata with
  | some request => awaiting request
  | none => pure ()
  compute env.priced
  compute env.signed

/-- `_submit_fill`, with `_request_json` for `POST /orders/fill/v2`. -/
def submitFill (env : Submission) : Call String := do
  buildFillRequest env
  letOthersRun env.semaphore
  transmit
  awaiting env.response

/-- `buy_with_order_id_persistence` of the base class. -/
def buyWithOrderIdPersistence (env : Submission) : Call String := do
  preTransportGuard
  let orderId ← submitFill env
  awaiting env.persisted
  pure orderId

end SxBet

/-! ## Polymarket -/

namespace Polymarket

/-- The steps of the worker thread; the event loop runs beside it all the time. -/
structure Submission where
  privateKey : Except Exc Unit
  imported : Awaited Unit
  sdkCallLock : Option Readiness
  sdkClient : Awaited Unit
  orderOptions : Awaited Unit
  signedOrder : Awaited Unit
  /-- Between the guard and `post_order`. -/
  beforePost : Option Readiness
  response : Awaited (Except Exc String)
  persisted : Awaited Unit

/-- `_post_limit_order`, in its thread. -/
def postLimitOrder (env : Submission) : Call String := do
  awaiting env.imported
  letOthersRun env.sdkCallLock
  awaiting env.sdkClient
  awaiting env.orderOptions
  awaiting env.signedOrder
  preTransportGuard
  letOthersRun env.beforePost
  transmit
  let orderId ← awaiting env.response
  compute orderId

/-- `buy_with_order_id_persistence`. -/
def buyWithOrderIdPersistence (env : Submission) : Call String := do
  compute env.privateKey
  let orderId ← postLimitOrder env
  awaiting env.persisted
  pure orderId

end Polymarket

/-! ## Transmissions while ready -/

/-- Every transport call began while the engine was ready. -/
def TransmittedReady (s : Loop) : Prop := ∀ ready ∈ s.transmitted, ready = true

instance (s : Loop) : Decidable (TransmittedReady s) :=
  inferInstanceAs (Decidable (∀ ready ∈ s.transmitted, _))

/-- The program transmits nothing. -/
def Silent {α : Type} (m : Call α) : Prop :=
  ∀ transmitted, Keeps (fun s => s.transmitted = transmitted) m

variable {α β : Type}

theorem Silent.keeps {m : Call α} (h : Silent m) : Keeps TransmittedReady m := by
  refine Spec.of_state fun s hs => ?_
  refine Spec.conseq (h s.transmitted) (fun t ht => congrArg Loop.transmitted ht) ?_ ?_
  · intro _ t ht
    unfold TransmittedReady
    rw [ht]
    exact hs
  · intro _ t ht
    unfold TransmittedReady
    rw [ht]
    exact hs

theorem silent_letOthersRun (others : Option Readiness) : Silent (letOthersRun others) :=
  fun _ => Keeps.modify fun _ hs => hs

theorem silent_compute (result : Except Exc α) : Silent (compute result) :=
  fun _ => Keeps.await result

theorem Silent.bind {m : Call α} {f : α → Call β} (hm : Silent m) (hf : ∀ a, Silent (f a)) :
    Silent (m >>= f) := fun transmitted => Keeps.bind (hm transmitted) fun a => hf a transmitted

theorem Silent.pure (a : α) : Silent (pure a : Call α) := fun _ => Keeps.pure a

theorem Silent.throw (exc : Exc) : Silent (throw exc : Call α) := fun _ => Keeps.throw exc

theorem silent_awaiting (call : Awaited α) : Silent (awaiting call) :=
  (silent_letOthersRun call.others).bind fun _ => silent_compute call.answer

/-- The end of a submission: the order's id is computed, persisted and returned. -/
theorem silent_persist (persisted : Awaited Unit) (orderId : String) :
    Silent (awaiting persisted >>= fun _ => (Pure.pure orderId : Call String)) :=
  (silent_awaiting persisted).bind fun _ => Silent.pure orderId

/-- The guard lets nothing through but a ready engine. -/
theorem preTransportGuard_eq (s : Loop) :
    (s.readiness.holds = true ∧ preTransportGuard s = .ok () s) ∨
      (s.readiness.holds = false ∧ ∃ exc, preTransportGuard s = .error exc s) := by
  obtain ⟨⟨window, paused, ready, snapshot⟩, transmitted⟩ := s
  cases window
  · exact .inr ⟨rfl, _, rfl⟩
  · have hguard : preTransportGuard ⟨⟨true, paused, ready, snapshot⟩, transmitted⟩ =
        (if Readiness.entryRuntimeReady ⟨true, paused, ready, snapshot⟩ = false then
          (throw (.submissionRejected "entry readiness lost immediately before transport") :
            Call Unit)
        else pure ()) ⟨⟨true, paused, ready, snapshot⟩, transmitted⟩ := rfl
    rw [hguard]
    by_cases hready : Readiness.entryRuntimeReady ⟨true, paused, ready, snapshot⟩ = true
    · refine .inl ⟨hready, ?_⟩
      rw [if_neg (by simpa using hready)]
      rfl
    · refine .inr ⟨by simpa [Readiness.holds] using hready,
        .submissionRejected "entry readiness lost immediately before transport", ?_⟩
      rw [if_pos (by simpa using hready)]
      rfl

theorem silent_preTransportGuard : Silent preTransportGuard := by
  intro transmitted s hs
  rcases preTransportGuard_eq s with ⟨_, heq⟩ | ⟨_, exc, heq⟩ <;> rw [heq] <;> exact hs

/-- Right behind the guard, the transport call begins while the engine is ready. -/
theorem keeps_guard_transmit {m : Call α} (hm : Keeps TransmittedReady m) :
    Keeps TransmittedReady (preTransportGuard >>= fun _ => transmit >>= fun _ => m) := by
  refine Spec.bind (R := fun _ s => TransmittedReady s ∧ s.readiness.holds = true) ?_ fun _ =>
    Spec.bind (R := fun _ => TransmittedReady) ?_ fun _ => hm
  · intro s hs
    rcases preTransportGuard_eq s with ⟨hready, heq⟩ | ⟨_, exc, heq⟩
    · rw [heq]
      exact ⟨hs, hready⟩
    · rw [heq]
      exact hs
  · refine Spec.modify fun s hs ready hmem => ?_
    rcases List.mem_cons.mp hmem with rfl | hmem
    · exact hs.2
    · exact hs.1 ready hmem

/-! ## The connectors that are always ready -/

namespace PredictFun

theorem keeps_requestJson (attempts : List Attempt) (authFailuresRemaining : ℕ) :
    Keeps TransmittedReady (requestJson authFailuresRemaining attempts) := by
  induction attempts generalizing authFailuresRemaining with
  | nil => exact Keeps.throw _
  | cons attempt rest ih =>
      refine Keeps.bind (silent_awaiting _).keeps fun _ =>
        Keeps.bind (silent_letOthersRun _).keeps fun _ => keeps_guard_transmit ?_
      refine Keeps.bind (silent_awaiting _).keeps fun response => ?_
      cases response with
      | unauthorized read =>
          exact Keeps.ite (Keeps.bind (silent_awaiting read).keeps fun _ => ih _) (Keeps.throw _)
      | failed exc => exact Keeps.throw exc
      | payload body =>
          cases body with
          | none => exact ih authFailuresRemaining
          | some orderId => exact Keeps.pure orderId

theorem keeps_buyWithOrderIdPersistence (env : Submission) :
    Keeps TransmittedReady (buyWithOrderIdPersistence env) := by
  refine Keeps.bind ?_ fun orderId => (silent_persist env.persisted orderId).keeps
  refine Keeps.bind (silent_compute _).keeps fun _ => Keeps.bind (silent_awaiting _).keeps fun _ =>
    Keeps.bind (silent_compute _).keeps fun _ => ?_
  exact Keeps.bind (keeps_requestJson _ _) fun _ => (silent_compute _).keeps

end PredictFun

namespace Myriad

theorem keeps_buyWithOrderIdPersistence (env : Submission) :
    Keeps TransmittedReady (buyWithOrderIdPersistence env) := by
  have hsign : Silent (signOrder env) :=
    (silent_letOthersRun _).bind fun _ => silent_compute _
  have hplace : Keeps TransmittedReady (placeOrder env) :=
    keeps_guard_transmit ((silent_awaiting _).bind fun _ => silent_compute _).keeps
  exact Keeps.bind (silent_compute _).keeps fun _ => Keeps.bind hsign.keeps fun _ =>
    Keeps.bind hplace fun orderId => (silent_persist env.persisted orderId).keeps

end Myriad

namespace SxBetV3

theorem keeps_requestJson (env : Submission) : Keeps TransmittedReady (requestJson env) := by
  refine Keeps.bind (silent_letOthersRun _).keeps fun _ => ?_
  show Keeps TransmittedReady
    ((compute env.windowTransport >>= fun _ => preTransportGuard) >>= fun _ =>
      transmit >>= fun _ => awaiting env.response)
  rw [bind_assoc]
  exact Keeps.bind (silent_compute _).keeps fun _ =>
    keeps_guard_transmit (silent_awaiting _).keeps

theorem silent_dropAndRaise (env : Submission) (exc : Exc) :
    Silent (dropAndRaise env exc : Call α) :=
  (silent_awaiting _).bind fun _ => Silent.throw exc

theorem keeps_persistOrderId (env : Submission) :
    Keeps TransmittedReady (persistOrderId env) := by
  refine Keeps.bind (Keeps.attempt (silent_awaiting _).keeps) fun persisted => ?_
  cases persisted with
  | error exc => exact (silent_dropAndRaise env exc).keeps
  | ok _ => exact Keeps.pure _

theorem keeps_settleRequest (env : Submission) (response : Except Exc (Except Exc String)) :
    Keeps TransmittedReady (settleRequest env response) := by
  refine Silent.keeps ?_
  unfold settleRequest
  split
  · split
    · exact silent_dropAndRaise env _
    · refine (silent_awaiting _).bind fun recovered => ?_
      split
      · exact Silent.pure _
      · exact Silent.throw _
  · exact silent_dropAndRaise env _
  · exact Silent.throw _
  · exact (silent_awaiting _).bind fun _ => Silent.pure _

theorem keeps_submitTakerOrder (env : Submission) :
    Keeps TransmittedReady (submitTakerOrder env) := by
  refine Keeps.bind (silent_compute _).keeps fun prepared => Keeps.bind ?_ fun _ =>
    Keeps.bind (silent_compute _).keeps fun _ => Keeps.bind (silent_awaiting _).keeps fun _ =>
      Keeps.bind (keeps_persistOrderId env) fun _ => Keeps.bind ?_ fun response =>
        keeps_settleRequest env response
  · exact Keeps.whenever (Keeps.forM _ fun call _ => (silent_awaiting call).keeps)
  · exact Keeps.attempt (Keeps.bind (silent_compute _).keeps fun _ => keeps_requestJson env)

end SxBetV3

/-! ## The connectors that let other tasks run in between -/

/-- What a program transmits that ends silently. -/
theorem transmitted_bind {m : Call α} {f : α → Call β} (hf : ∀ a, Silent (f a)) (s : Loop) :
    (finalState (m >>= f) s).transmitted = (finalState m s).transmitted := by
  have hbind : finalState (m >>= f) s =
      match m s with
      | .ok a t => finalState (f a) t
      | .error _ t => t := by
    show finalState (EStateM.bind m f) s = _
    unfold finalState EStateM.bind
    cases m s <;> rfl
  rw [hbind]
  unfold finalState
  cases hm : m s with
  | ok a t => exact (hf a t.transmitted).finalState rfl
  | error exc t => rfl

theorem bind_eq_ok {m : Call Unit} {f : Unit → Call β} {s t : Loop} {b : β} :
    (m >>= f) s = .ok b t ↔ ∃ u, m s = .ok () u ∧ f () u = .ok b t := by
  show EStateM.bind m f s = _ ↔ _
  unfold EStateM.bind
  cases m s <;> simp

theorem throw_eq_ok {exc : Exc} {s t : Loop} {a : α} :
    (throw exc : Call α) s = .ok a t ↔ False := by
  show EStateM.Result.error exc s = _ ↔ _
  simp

theorem compute_eq_ok {result : Except Exc α} {s t : Loop} {a : α} :
    compute result s = .ok a t ↔ result = .ok a ∧ t = s := by
  cases result with
  | ok value =>
      show EStateM.Result.ok value s = _ ↔ _
      simp [eq_comm]
  | error exc =>
      show EStateM.Result.error exc s = _ ↔ _
      simp

theorem letOthersRun_eq_ok {others : Option Readiness} {s t : Loop} :
    letOthersRun others s = .ok () t ↔ t = { s with readiness := others.getD s.readiness } := by
  show EStateM.Result.ok PUnit.unit _ = _ ↔ _
  simp [eq_comm]

theorem awaiting_eq_ok {call : Awaited α} {s t : Loop} {a : α} :
    awaiting call s = .ok a t ↔
      call.answer = .ok a ∧ t = { s with readiness := call.others.getD s.readiness } := by
  show compute call.answer { s with readiness := call.others.getD s.readiness } = _ ↔ _
  exact compute_eq_ok

theorem preTransportGuard_eq_ok {s t : Loop} :
    preTransportGuard s = .ok () t ↔ s.readiness.holds = true ∧ t = s := by
  rcases preTransportGuard_eq s with ⟨hready, heq⟩ | ⟨hready, exc, heq⟩
  · rw [heq]
    simp [hready, eq_comm]
  · rw [heq]
    simp [hready]

/-- A transport call behind a program that transmits nothing begins while ready exactly if the
engine is ready where the program ends. -/
theorem transmittedReady_iff {before : Call Unit} {after : Call α} (hbefore : Silent before)
    (hafter : Silent after) {s : Loop} (hs : s.transmitted = []) :
    TransmittedReady (finalState (before >>= fun _ => transmit >>= fun _ => after) s) ↔
      ∀ t, before s = .ok () t → t.readiness.holds = true := by
  have hkept := hbefore [] s hs
  cases hrun : before s with
  | ok _ t =>
      rw [hrun] at hkept
      have hfinal : finalState (before >>= fun _ => transmit >>= fun _ => after) s =
          finalState after { t with transmitted := t.readiness.holds :: t.transmitted } := by
        show finalState (EStateM.bind before _) s = _
        unfold finalState EStateM.bind
        rw [hrun]
        rfl
      have htransmitted := (hafter [t.readiness.holds]).finalState
        (s := { t with transmitted := t.readiness.holds :: t.transmitted })
        (congrArg (t.readiness.holds :: ·) hkept)
      rw [hfinal, TransmittedReady, htransmitted]
      simp
  | error exc t =>
      rw [hrun] at hkept
      have hfinal : finalState (before >>= fun _ => transmit >>= fun _ => after) s = t := by
        show finalState (EStateM.bind before _) s = _
        unfold finalState EStateM.bind
        rw [hrun]
      rw [hfinal, TransmittedReady, hkept]
      simp

namespace Opinion

/-- The readiness when the worker thread begins with `place_order`, from that at the guard. -/
def readinessAtTransport (env : Submission) (r : Readiness) : Readiness :=
  let locked := env.clobLock.getD r
  env.handOff.getD (if env.clobClient then locked else env.tradingEnabled.others.getD locked)

/-- Nothing raises before `place_order`. -/
def ReachesTransport (env : Submission) : Prop :=
  env.deadlineElapsed = false ∧ env.token = .ok () ∧ env.keys = .ok () ∧
    (env.clobClient = false → env.constructed = .ok () ∧ env.tradingEnabled.answer = .ok ()) ∧
      env.payload = .ok ()

/-- `buy_with_order_id_persistence` up to `place_order`. -/
def beforeTransport (env : Submission) : Call Unit := do
  if env.deadlineElapsed then
    throw (.submissionRejected "Opinion submission deadline elapsed before transport")
  preTransportGuard
  prepareOrder env
  letOthersRun env.handOff

theorem prepareOrder_eq_ok {env : Submission} {s t : Loop} :
    prepareOrder env s = .ok () t ↔ env.token = .ok () ∧ env.keys = .ok () ∧
      (env.clobClient = false → env.constructed = .ok () ∧ env.tradingEnabled.answer = .ok ()) ∧
        env.payload = .ok () ∧ t = { s with
          readiness :=
            if env.clobClient then env.clobLock.getD s.readiness
            else env.tradingEnabled.others.getD (env.clobLock.getD s.readiness) } := by
  cases hclient : env.clobClient
  · simp [prepareOrder, getClobClient, hclient, bind_eq_ok, compute_eq_ok, letOthersRun_eq_ok,
      awaiting_eq_ok]
    tauto
  · simp [prepareOrder, getClobClient, hclient, bind_eq_ok, compute_eq_ok, letOthersRun_eq_ok]

theorem beforeTransport_eq_ok {env : Submission} {s t : Loop} :
    beforeTransport env s = .ok () t ↔ s.readiness.holds = true ∧ ReachesTransport env ∧
      t = { s with readiness := readinessAtTransport env s.readiness } := by
  cases hdeadline : env.deadlineElapsed <;>
    simp [beforeTransport, hdeadline, bind_eq_ok, throw_eq_ok, preTransportGuard_eq_ok,
      prepareOrder_eq_ok, letOthersRun_eq_ok, ReachesTransport, readinessAtTransport, and_assoc]

theorem silent_prepareOrder (env : Submission) : Silent (prepareOrder env) := by
  refine (silent_compute _).bind fun _ => (silent_compute _).bind fun _ => Silent.bind ?_ fun _ =>
    silent_compute _
  refine (silent_letOthersRun _).bind fun _ => ?_
  split
  · exact Silent.pure _
  · exact (silent_compute _).bind fun _ => silent_awaiting _

theorem silent_beforeTransport (env : Submission) : Silent (beforeTransport env) := by
  unfold beforeTransport
  split
  · exact (Silent.throw _).bind fun _ => silent_preTransportGuard.bind fun _ =>
      (silent_prepareOrder env).bind fun _ => silent_letOthersRun _
  · exact silent_preTransportGuard.bind fun _ =>
      (silent_prepareOrder env).bind fun _ => silent_letOthersRun _

theorem transmittedReady_iff (env : Submission) {s : Loop} (hs : s.transmitted = []) :
    TransmittedReady (finalState (buyWithOrderIdPersistence env) s) ↔
      (s.readiness.holds = true → ReachesTransport env →
        (readinessAtTransport env s.readiness).holds = true) := by
  have hafter : Silent (awaiting env.placed >>= fun orderId => compute orderId) :=
    (silent_awaiting _).bind fun _ => silent_compute _
  have hbuy : buyWithOrderIdPersistence env =
      ((beforeTransport env >>= fun _ => transmit >>= fun _ =>
        awaiting env.placed >>= fun orderId => compute orderId) >>= fun orderId =>
          awaiting env.persisted >>= fun _ => pure orderId) := by
    unfold buyWithOrderIdPersistence beforeTransport submitOrder
    cases env.deadlineElapsed <;> simp [bind_assoc]
  rw [TransmittedReady, hbuy, transmitted_bind fun orderId => silent_persist env.persisted orderId]
  refine (Transport.transmittedReady_iff (silent_beforeTransport env) hafter hs).trans ?_
  simp only [beforeTransport_eq_ok]
  constructor
  · exact fun h hready hreaches => h _ ⟨hready, hreaches, rfl⟩
  · rintro h t ⟨hready, hreaches, rfl⟩
    exact h hready hreaches

end Opinion

namespace SxBet

/-- The readiness when `POST /orders/fill/v2` begins, from that at the guard. -/
def readinessAtTransport (env : Submission) (r : Readiness) : Readiness :=
  env.semaphore.getD
    (match env.metadata with
      | some request => request.others.getD r
      | none => r)

/-- Nothing raises before the transport. -/
def ReachesTransport (env : Submission) : Prop :=
  env.registered = .ok () ∧ (∀ request ∈ env.metadata, request.answer = .ok ()) ∧
    env.priced = .ok () ∧ env.signed = .ok ()

/-- `buy_with_order_id_persistence` up to the transport. -/
def beforeTransport (env : Submission) : Call Unit := do
  preTransportGuard
  buildFillRequest env
  letOthersRun env.semaphore

theorem beforeTransport_eq_ok {env : Submission} {s t : Loop} :
    beforeTransport env s = .ok () t ↔ s.readiness.holds = true ∧ ReachesTransport env ∧
      t = { s with readiness := readinessAtTransport env s.readiness } := by
  cases hmetadata : env.metadata with
  | none =>
      simp [beforeTransport, buildFillRequest, hmetadata, bind_eq_ok, preTransportGuard_eq_ok,
        compute_eq_ok, letOthersRun_eq_ok, ReachesTransport, readinessAtTransport, and_assoc]
  | some request =>
      simp [beforeTransport, buildFillRequest, hmetadata, bind_eq_ok, preTransportGuard_eq_ok,
        compute_eq_ok, awaiting_eq_ok, letOthersRun_eq_ok, ReachesTransport, readinessAtTransport,
        and_assoc]

theorem silent_beforeTransport (env : Submission) : Silent (beforeTransport env) := by
  refine silent_preTransportGuard.bind fun _ => Silent.bind ?_ fun _ => silent_letOthersRun _
  unfold buildFillRequest
  refine (silent_compute _).bind fun _ => ?_
  cases env.metadata with
  | none => exact (Silent.pure _).bind fun _ => (silent_compute _).bind fun _ => silent_compute _
  | some request =>
      exact (silent_awaiting _).bind fun _ => (silent_compute _).bind fun _ => silent_compute _

theorem transmittedReady_iff (env : Submission) {s : Loop} (hs : s.transmitted = []) :
    TransmittedReady (finalState (buyWithOrderIdPersistence env) s) ↔
      (s.readiness.holds = true → ReachesTransport env →
        (readinessAtTransport env s.readiness).holds = true) := by
  have hbuy : buyWithOrderIdPersistence env =
      ((beforeTransport env >>= fun _ => transmit >>= fun _ => awaiting env.response) >>=
        fun orderId => awaiting env.persisted >>= fun _ => pure orderId) := by
    unfold buyWithOrderIdPersistence beforeTransport submitFill
    simp only [bind_assoc]
  rw [TransmittedReady, hbuy, transmitted_bind fun orderId => silent_persist env.persisted orderId]
  refine (Transport.transmittedReady_iff (silent_beforeTransport env)
    (silent_awaiting env.response) hs).trans ?_
  simp only [beforeTransport_eq_ok]
  constructor
  · exact fun h hready hreaches => h _ ⟨hready, hreaches, rfl⟩
  · rintro h t ⟨hready, hreaches, rfl⟩
    exact h hready hreaches

end SxBet

namespace Polymarket

/-- The readiness at the guard, from that at the start. -/
def readinessAtGuard (env : Submission) (r : Readiness) : Readiness :=
  env.signedOrder.others.getD (env.orderOptions.others.getD
    (env.sdkClient.others.getD (env.sdkCallLock.getD (env.imported.others.getD r))))

/-- Nothing raises before the guard. -/
def ReachesGuard (env : Submission) : Prop :=
  env.privateKey = .ok () ∧ env.imported.answer = .ok () ∧ env.sdkClient.answer = .ok () ∧
    env.orderOptions.answer = .ok () ∧ env.signedOrder.answer = .ok ()

/-- `buy_with_order_id_persistence` up to `post_order`. -/
def beforeTransport (env : Submission) : Call Unit := do
  compute env.privateKey
  awaiting env.imported
  letOthersRun env.sdkCallLock
  awaiting env.sdkClient
  awaiting env.orderOptions
  awaiting env.signedOrder
  preTransportGuard
  letOthersRun env.beforePost

theorem beforeTransport_eq_ok {env : Submission} {s t : Loop} :
    beforeTransport env s = .ok () t ↔ ReachesGuard env ∧
      (readinessAtGuard env s.readiness).holds = true ∧
        t = { s with readiness := env.beforePost.getD (readinessAtGuard env s.readiness) } := by
  simp [beforeTransport, bind_eq_ok, preTransportGuard_eq_ok, compute_eq_ok, awaiting_eq_ok,
    letOthersRun_eq_ok, ReachesGuard, readinessAtGuard, and_assoc]

theorem silent_beforeTransport (env : Submission) : Silent (beforeTransport env) :=
  (silent_compute _).bind fun _ => (silent_awaiting _).bind fun _ =>
    (silent_letOthersRun _).bind fun _ => (silent_awaiting _).bind fun _ =>
      (silent_awaiting _).bind fun _ => (silent_awaiting _).bind fun _ =>
        silent_preTransportGuard.bind fun _ => silent_letOthersRun _

theorem transmittedReady_iff (env : Submission) {s : Loop} (hs : s.transmitted = []) :
    TransmittedReady (finalState (buyWithOrderIdPersistence env) s) ↔
      (ReachesGuard env → (readinessAtGuard env s.readiness).holds = true →
        (env.beforePost.getD (readinessAtGuard env s.readiness)).holds = true) := by
  have hafter : Silent (awaiting env.response >>= fun orderId => compute orderId) :=
    (silent_awaiting _).bind fun _ => silent_compute _
  have hbuy : buyWithOrderIdPersistence env =
      ((beforeTransport env >>= fun _ => transmit >>= fun _ =>
        awaiting env.response >>= fun orderId => compute orderId) >>= fun orderId =>
          awaiting env.persisted >>= fun _ => pure orderId) := by
    unfold buyWithOrderIdPersistence beforeTransport postLimitOrder
    simp only [bind_assoc]
  rw [TransmittedReady, hbuy, transmitted_bind fun orderId => silent_persist env.persisted orderId]
  refine (Transport.transmittedReady_iff (silent_beforeTransport env) hafter hs).trans ?_
  simp only [beforeTransport_eq_ok]
  constructor
  · exact fun h hreaches hready => h _ ⟨hreaches, hready, rfl⟩
  · rintro h t ⟨hreaches, hready, rfl⟩
    exact h hreaches hready

end Polymarket

/-- **A transport call begins only while the engine is ready: always with Predict.fun, Myriad and
SX Bet V3; and with Opinion, SX Bet V2 and Polymarket exactly if what other tasks leave between
the guard and the transport is a ready engine.** -/
theorem transmits_only_while_ready (s : Loop) (hs : s.transmitted = []) :
    (∀ env, TransmittedReady (finalState (PredictFun.buyWithOrderIdPersistence env) s)) ∧
      (∀ env, TransmittedReady (finalState (Myriad.buyWithOrderIdPersistence env) s)) ∧
      (∀ env, TransmittedReady (finalState (SxBetV3.submitTakerOrder env) s)) ∧
      (∀ env, TransmittedReady (finalState (Opinion.buyWithOrderIdPersistence env) s) ↔
        (s.readiness.holds = true → Opinion.ReachesTransport env →
          (Opinion.readinessAtTransport env s.readiness).holds = true)) ∧
      (∀ env, TransmittedReady (finalState (SxBet.buyWithOrderIdPersistence env) s) ↔
        (s.readiness.holds = true → SxBet.ReachesTransport env →
          (SxBet.readinessAtTransport env s.readiness).holds = true)) ∧
      ∀ env, TransmittedReady (finalState (Polymarket.buyWithOrderIdPersistence env) s) ↔
        (Polymarket.ReachesGuard env → (Polymarket.readinessAtGuard env s.readiness).holds = true →
          (env.beforePost.getD (Polymarket.readinessAtGuard env s.readiness)).holds = true) := by
  have hready : TransmittedReady s := by
    unfold TransmittedReady
    rw [hs]
    exact fun _ h => absurd h List.not_mem_nil
  exact ⟨fun env => (PredictFun.keeps_buyWithOrderIdPersistence env).finalState hready,
    fun env => (Myriad.keeps_buyWithOrderIdPersistence env).finalState hready,
    fun env => (SxBetV3.keeps_submitTakerOrder env).finalState hready,
    fun env => Opinion.transmittedReady_iff env hs, fun env => SxBet.transmittedReady_iff env hs,
    fun env => Polymarket.transmittedReady_iff env hs⟩

namespace GuardExamples

def ready : Readiness := ⟨true, false, true, true⟩

def paused : Readiness := { ready with riskPaused := true }

/-- The first order of an Opinion client: the SDK's client is constructed between the guard and the
transport, and risk is paused while it enables trading. -/
def firstOpinionOrder : Opinion.Submission where
  deadlineElapsed := false
  token := .ok ()
  keys := .ok ()
  clobLock := none
  clobClient := false
  constructed := .ok ()
  tradingEnabled := ⟨some paused, .ok ()⟩
  payload := .ok ()
  handOff := none
  placed := ⟨none, .ok (.ok "order-1")⟩
  persisted := ⟨none, .ok ()⟩

/-- The order leaves although risk was paused before its transport began. -/
theorem opinion_order_leaves_paused :
    (finalState (Opinion.buyWithOrderIdPersistence firstOpinionOrder) ⟨ready, []⟩).transmitted =
      [false] := by
  decide +kernel

theorem transmits_only_while_ready_predictFun :
    TransmittedReady (finalState (PredictFun.buyWithOrderIdPersistence
      ⟨.ok (), ⟨some paused, .ok ()⟩, .ok (),
        [⟨⟨some ready, .ok ()⟩, none, ⟨some paused, .ok (.unauthorized ⟨none, .ok ()⟩)⟩⟩,
          ⟨⟨none, .ok ()⟩, some paused, ⟨none, .ok (.payload (some (.ok "0x1")))⟩⟩],
        ⟨none, .ok ()⟩⟩) ⟨ready, []⟩) :=
  (transmits_only_while_ready ⟨ready, []⟩ rfl).1 _

end GuardExamples

end ArbitrageEngine.Connectors.Transport
