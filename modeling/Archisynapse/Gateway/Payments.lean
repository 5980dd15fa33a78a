import Archisynapse.Gateway.Orchestrator

/-!
# The payment route

`POST /v1/payments` of production_main.py: claim the key, replay the receipt of a request that was completed, else run the loop,
store its receipt and complete the key; any exception but an HTTPException fails the key. The machine runs any number of requests
of any merchants at once. What the other services answer, when, and whether an operation of the store or of a recovery file goes
wrong before it is done or after, is up to the environment.
-/

namespace Archisynapse

namespace Gateway

/-- A request that passed authentication: what it draws, the merchant, the header and the body. A server takes the blanks off the
end of a header. -/
structure PaymentCall where
  draws : Draws
  merchantId : String
  idempotencyKey : String
  request : PaymentCreateRequest
  trimmed : idempotencyKey.toList.getLast? ≠ some ' '

/-- The hash of a request. -/
def PaymentCall.hash (env : Env) (c : PaymentCall) : String := env.requestHash c.merchantId c.request

/-- An error of a claim as the route answers it. -/
def claimRefusal : GatewayError → GatewayError
  | .conflict message => .http 409 message
  | .inProgress message => .http 409 message
  | e => e

/-- `_receipt_signer.attach(payload) if _receipt_signer else payload` -/
def Env.attach (env : Env) (receipt : UnifiedReceipt) : StoredPayload := ⟨receipt, env.signer.map (· receipt)⟩

/-- The receipt of a request that was completed before. -/
def replayReceipt (merchantId : String) (eventId : Option String) : Program UnifiedReceipt := do
  let missing := GatewayError.http 500 "completed request is missing its receipt"
  match eventId with
  | none => Prog.throw missing
  | some eventId =>
    match ← step (.getReceipt merchantId eventId) with
    | none => Prog.throw missing
    | some existing => pure existing.receipt

/-- The work of a request that holds the claim. -/
def work (env : Env) (c : PaymentCall) : Program UnifiedReceipt := do
  let credentials ← step (.getServiceCredentials c.merchantId)
  let receipt ← processPayment env c.draws c.merchantId c.idempotencyKey c.request credentials
  step (.saveReceipt c.merchantId c.idempotencyKey (c.hash env) (env.attach receipt))
  step (.completeIdempotency c.merchantId c.idempotencyKey receipt.eventId)
  pure receipt

/-- How the route answers an exception of the work. -/
def workFailed (c : PaymentCall) : GatewayError → Program UnifiedReceipt
  | .http statusCode detail => Prog.throw (.http statusCode detail)
  | e => do
    step (.failIdempotency c.merchantId c.idempotencyKey (e.name ++ ": " ++ e.message))
    Prog.throw (.http 502 "payment processing failed")

/-- `POST /v1/payments` -/
def processPaymentRoute (env : Env) (c : PaymentCall) : Program UnifiedReceipt := do
  let claim ← Prog.tryCatch (step (.claimIdempotency c.merchantId c.idempotencyKey (c.hash env)))
    (fun e => Prog.throw (claimRefusal e))
  if claim.state = .replay then replayReceipt c.merchantId claim.eventId
  else Prog.tryCatch (work env c) (workFailed c)

/-! ## The machine -/

/-- How a call of the store or of a file goes. -/
inductive Fault where
  | none
  | before (name message : String)
  | after (name message : String)
  deriving DecidableEq

/-- What a call does not take from its arguments: whether it fails, the time, and what the other services answer. -/
structure Choice where
  fault : Fault
  now : Int
  risk : Except GatewayError (Response RiskDecision)
  payment : Except GatewayError (Response PaymentBody)
  ledger : Except GatewayError (Response LedgerBody)
  analytics : Except GatewayError (Response Nat)

/-- The tables and the recovery queues. -/
structure State where
  tables : Tables
  ledgerQueue : List CanonicalEvent
  analyticsQueue : List CanonicalEvent

/-- A recovery queue without an event. -/
def withoutEvent (correlationId : String) (queue : List CanonicalEvent) : List CanonicalEvent :=
  queue.filter (fun e => !decide (e.correlationId = correlationId))

/-- Rewrite a recovery queue. -/
def State.rewrite (s : State) (file : RecoveryFile) (f : List CanonicalEvent → List CanonicalEvent) : State :=
  match file with
  | .ledger => { s with ledgerQueue := f s.ledgerQueue }
  | .analytics => { s with analyticsQueue := f s.analyticsQueue }

/-- An operation of the store. -/
def State.store {α : Type} (s : State) (r : Except GatewayError α × Tables) : Except GatewayError α × State :=
  (r.1, { s with tables := r.2 })

/-- One call that is made and answered. -/
def State.perform (config : StoreConfig) (s : State) (ch : Choice) : (o : Action) → Except GatewayError o.Result × State
  | .claimIdempotency merchantId key requestHash =>
    s.store (s.tables.claimIdempotency ch.now merchantId key requestHash)
  | .getReceipt merchantId eventId => (.ok (s.tables.getReceipt merchantId eventId), s)
  | .getServiceCredentials merchantId => (s.tables.getServiceCredentials config merchantId, s)
  | .saveReceipt merchantId key requestHash payload =>
    s.store (s.tables.saveReceipt config merchantId key requestHash payload)
  | .completeIdempotency merchantId key eventId =>
    s.store (s.tables.completeIdempotency config merchantId key eventId)
  | .failIdempotency merchantId key reason => (.ok (), { s with tables := s.tables.failIdempotency merchantId key reason })
  | .checkRisk _ => (ch.risk, s)
  | .createPayment _ => (ch.payment, s)
  | .queryLedger _ _ => (ch.ledger, s)
  | .recordTransaction _ => (ch.analytics, s)
  | .pushRecoveryItem file event => (.ok (), s.rewrite file (fun q => withoutEvent event.correlationId q ++ [event]))
  | .removeRecoveryItem file correlationId => (.ok (), s.rewrite file (withoutEvent correlationId))

/-- One call. -/
def exec (config : StoreConfig) (o : Action) (ch : Choice) (s : State) : Option (Except GatewayError o.Result × State) :=
  match ch.fault with
  | .none => some (s.perform config ch o)
  | .before name message => some (.error (.raised name message), s)
  | .after name message => some (.error (.raised name message), (s.perform config ch o).2)

/-- Any number of payment requests at once. -/
abbrev machine (config : StoreConfig) (env : Env) : Machine where
  sig := signature
  State := State
  Choice := Choice
  Call := PaymentCall
  Reply := UnifiedReceipt
  program := processPaymentRoute env
  exec _ := exec config
  crash _ s := s

end Gateway

end Archisynapse
