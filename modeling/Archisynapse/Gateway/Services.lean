import Archisynapse.Analytics.Store
import Archisynapse.Gateway.Payments
import Archisynapse.Ledger.Service

/-!
# The gateway with its services

The gateway together with a ledger and an analytics service that answer as their code does. What the fraud and transaction services
answer is up to the environment. `replay_pending_recoveries` and `process_refund` of orchestrator.py run against it.
-/

namespace Archisynapse

namespace Gateway

/-- What the services take from outside. -/
structure ServicesEnv where
  gateway : Env
  config : StoreConfig
  /-- `hash_value` of the analytics service -/
  hashValue : String → String
  /-- a text as a uuid -/
  parseUuid : String → Option Uuid
  /-- an entry of the ledger as JSON -/
  entryJson : EntryRow → Json

/-- The gateway's tables and queues, the ledger's tables and those of analytics. -/
structure Services where
  gateway : State
  ledger : Ledger.Tables
  analytics : Analytics.Tables

/-- The text of a method's type. -/
def PaymentMethodType.text : PaymentMethodType → String
  | .card => "CARD"
  | .bankTransfer => "BANK_TRANSFER"
  | .wallet => "WALLET"

/-! ## Answers -/

/-- An answer of a status without a body that is read. -/
def Response.refused {β : Type} (statusCode : Nat) : Response β :=
  ⟨statusCode, "", .error (.raised "JSONDecodeError" "Expecting value")⟩

/-- What the gateway reads of a body of the ledger. -/
def ledgerBody (env : ServicesEnv) : Ledger.ReadBody → LedgerBody
  | .accounts rows => .list (rows.map fun a => ⟨some a.id.text, none, []⟩)
  | .transaction row entries => .single ⟨some row.id.text, row.referenceId, entries.map env.entryJson⟩
  | .document => .single ⟨none, none, []⟩

/-- `GET /transactions?referenceId=…` at the ledger -/
def Services.queryLedger (env : ServicesEnv) (s : Services) (merchantId : String) : Response LedgerBody :=
  match s.ledger.get env.parseUuid merchantId ["transactions"] with
  | (statusCode, some body) => ⟨statusCode, "", .ok (ledgerBody env body)⟩
  | (statusCode, none) => .refused statusCode

/-- The body of a request to analytics. -/
def AnalyticsRequest.body (req : AnalyticsRequest) : Analytics.TransactionIn where
  customerId := req.customerId
  amount := req.amount
  feeAmount := req.feeAmount
  currency := req.currency
  status := "completed"
  paymentMethod := some req.paymentMethod.text
  country := req.country
  correlationId := some req.correlationId
  eventId := some req.eventId
  externalTransactionId := req.externalTransactionId

/-- An answer of analytics. -/
def analyticsResponse : Except Nat Nat → Response Nat
  | .ok id => ⟨200, "", .ok id⟩
  | .error statusCode => .refused statusCode

/-- What is up to the environment: the time, and what the fraud and transaction services answer. -/
structure Answers where
  now : Int
  risk : Except GatewayError (Response RiskDecision)
  payment : Except GatewayError (Response PaymentBody)

/-- The choice of a call that goes well; the ledger and analytics are not asked. -/
def Answers.choice (ch : Answers) : Choice :=
  ⟨.none, ch.now, ch.risk, ch.payment, .error (.request ""), .error (.request "")⟩

/-- One call that is answered: the ledger and analytics answer as they do, and the others go as for the gateway alone. -/
def Services.perform (env : ServicesEnv) (s : Services) (ch : Answers) : (o : Action) → Except GatewayError o.Result × Services
  | .queryLedger merchantId _ => (.ok (s.queryLedger env merchantId), s)
  | .recordTransaction req =>
    let (r, analytics) := s.analytics.recordTransaction env.hashValue ch.now req.apiKey req.body
    (.ok (analyticsResponse r), { s with analytics })
  | o =>
    let (r, gateway) := s.gateway.perform env.config ch.choice o
    (r, { s with gateway })

/-- One call. -/
def Services.exec (env : ServicesEnv) (o : Action) (ch : Answers) (s : Services) :
    Option (Except GatewayError o.Result × Services) := some (s.perform env ch o)

/-! ## Recovery -/

/-- `merchant_credentials.get(merchant_id, {}).get("analytics_api_key")` -/
abbrev AnalyticsKeys : Type := String → Option String

/-- The loop of `replay_pending_recoveries` over the ledger's queue: how many were replayed. -/
def replayLedger (env : Env) (keys : AnalyticsKeys) : List CanonicalEvent → Program Nat
  | [] => pure 0
  | event :: rest => do
    let (event, raised) ← reconcileMissingLedger event
    match raised with
    | some e => Prog.throw e
    | none =>
      if (truthy event.ledgerTransactionId).isSome then do
        let (_, raised) ← recordAnalytics env event (keys event.merchantId)
        match raised with
        | some e => Prog.throw e
        | none => do
          step (.removeRecoveryItem .ledger event.correlationId)
          let n ← replayLedger env keys rest
          pure (n + 1)
      else replayLedger env keys rest

/-- Its loop over the queue of analytics. -/
def replayAnalytics (env : Env) (keys : AnalyticsKeys) : List CanonicalEvent → Program Nat
  | [] => pure 0
  | event :: rest => do
    let (event, raised) ← recordAnalytics env event (keys event.merchantId)
    match raised with
    | some e => Prog.throw e
    | none =>
      if event.analyticsRecorded then do
        step (.removeRecoveryItem .analytics event.correlationId)
        let n ← replayAnalytics env keys rest
        pure (n + 1)
      else replayAnalytics env keys rest

/-- The counts of a replay. -/
structure ReplayCounts where
  ledgerPending : Nat
  ledgerReplayed : Nat
  analyticsPending : Nat
  analyticsReplayed : Nat
  deriving DecidableEq

/-- `replay_pending_recoveries`: each queue is read when its loop begins. -/
def Services.replayPendingRecoveries (env : ServicesEnv) (keys : AnalyticsKeys) (ch : Nat → Answers) (s : Services) :
    Option (Except GatewayError ReplayCounts × Services) :=
  match (replayLedger env.gateway keys s.gateway.ledgerQueue).run (Services.exec env) ch 0 s with
  | none => none
  | some (.error e, s₁) => some (.error e, s₁)
  | some (.ok ledgerReplayed, s₁) =>
    ((replayAnalytics env.gateway keys s₁.gateway.analyticsQueue).run (Services.exec env) ch 0 s₁).map fun r =>
      (r.1.map (fun analyticsReplayed =>
        ⟨s.gateway.ledgerQueue.length, ledgerReplayed, s₁.gateway.analyticsQueue.length, analyticsReplayed⟩), r.2)

/-! ## Refunds -/

/-- The request of `POST /payments/{id}/refund` at the transaction service, with its headers. The amount is that of the text. -/
structure RefundRequest where
  organizationId : String
  transactionId : String
  idempotencyKey : Option String
  amount : ℚ
  reason : String
  deriving DecidableEq

/-- A call of a refund. -/
inductive RefundAction where
  | refundPayment (req : RefundRequest)
  | recordTransaction (apiKey : Option String) (event : Analytics.TransactionIn)

/-- What a call answers with. -/
abbrev RefundAction.Result : RefundAction → Type
  | .refundPayment _ => Response Json
  | .recordTransaction _ _ => Response Nat

abbrev refundSignature : Signature where
  Op := RefundAction
  Res := RefundAction.Result
  Err := GatewayError

/-- What `process_refund` returns. -/
structure RefundResult where
  transactionId : String
  refundSucceeded : Bool
  refund : Option Json
  analyticsReversed : Bool
  error : Option String

/-- The arguments of `process_refund`. -/
structure RefundCall where
  transactionId : String
  merchantId : String
  amount : ℚ
  reason : String
  idempotencyKey : Option String
  analyticsApiKey : Option String

/-- `_record_analytics_refund`: what analytics is sent, the amount negated. -/
def RefundCall.reversal (c : RefundCall) : Analytics.TransactionIn where
  customerId := "refund_" ++ c.transactionId
  amount := -c.amount
  feeAmount := 0
  currency := "USD"
  status := "refunded"
  paymentMethod := some "REFUND"
  country := none
  correlationId := some ("refund_" ++ c.transactionId)
  eventId := some ("refund_" ++ c.transactionId)
  externalTransactionId := some c.transactionId

/-- A call of a refund, made. -/
def refundStep (o : RefundAction) : Prog refundSignature (Except GatewayError o.Result) :=
  Prog.call (S := refundSignature) o Prog.pure

/-- The reversal in analytics: whether it was recorded. Whatever goes wrong is not fatal. -/
def reverseAnalytics (c : RefundCall) : Prog refundSignature Bool := do
  match truthy c.analyticsApiKey with
  | none => pure false
  | some key =>
    match ← refundStep (.recordTransaction (some key) c.reversal) with
    | .ok response => pure (decide (response.statusCode = 200))
    | .error _ => pure false

/-- `process_refund` -/
def processRefund (c : RefundCall) : Prog refundSignature RefundResult := do
  match ← refundStep (.refundPayment ⟨c.merchantId, c.transactionId, truthy c.idempotencyKey, c.amount, c.reason⟩) with
  | .ok response =>
    if response.statusCode = 200 ∨ response.statusCode = 201 then
      match response.json with
      | .ok refund => do
        let analyticsReversed ← reverseAnalytics c
        pure ⟨c.transactionId, true, some refund, analyticsReversed, none⟩
      | .error e => Prog.throw e
    else
      pure ⟨c.transactionId, false, none, false,
        some ("Transaction refund failed: HTTP " ++ toString response.statusCode)⟩
  | .error (.request message) =>
    pure ⟨c.transactionId, false, none, false, some ("Transaction service unavailable: " ++ message)⟩
  | .error e => Prog.throw e

/-- One call of a refund: analytics answers, and the answer of the transaction service is given. -/
def Services.execRefund (env : ServicesEnv) (answer : Except GatewayError (Response Json)) (o : RefundAction) (now : Int)
    (s : Services) : Option (Except GatewayError o.Result × Services) :=
  match o with
  | .refundPayment _ => some (answer, s)
  | .recordTransaction apiKey event =>
    let (r, analytics) := s.analytics.recordTransaction env.hashValue now apiKey event
    some (.ok (analyticsResponse r), { s with analytics })

/-! ## Histories -/

/-- A payment or a refund, with what the environment answers: the fraud and transaction services, and the time. -/
inductive Entry where
  | payment (draws : Draws) (merchantId key : String) (req : PaymentCreateRequest) (credentials : ServiceCredentials)
      (answers : Nat → Answers)
  | refund (c : RefundCall) (answer : Except GatewayError (Response Json)) (now : Int)

/-- How a payment or a refund ended. -/
inductive Outcome where
  | payment (merchantId : String) (result : Except GatewayError UnifiedReceipt)
  | refund (merchantId : String) (amount : ℚ) (result : Except GatewayError RefundResult)

/-- One payment or refund. -/
def Services.record (env : ServicesEnv) (s : Services) : Entry → Option (Outcome × Services)
  | .payment draws merchantId key req credentials answers =>
    ((processPayment env.gateway draws merchantId key req credentials).run (Services.exec env) answers 0 s).map
      (fun r => (.payment merchantId r.1, r.2))
  | .refund c answer now =>
    ((processRefund c).run (Services.execRefund env answer) (fun _ => now) 0 s).map
      (fun r => (.refund c.merchantId c.amount r.1, r.2))

/-- Payments and refunds one after another. -/
def Services.recordAll (env : ServicesEnv) : List Entry → Services → Option (List Outcome × Services)
  | [], s => some ([], s)
  | e :: es, s => (s.record env e).bind fun r => (Services.recordAll env es r.2).map fun r' => (r.1 :: r'.1, r'.2)

/-- The amount of a payment of a merchant that was completed. -/
def Outcome.completed (merchantId : String) : Outcome → ℚ
  | .payment m (.ok receipt) => if m = merchantId ∧ receipt.status = .completed then receipt.amount else 0
  | _ => 0

/-- The amount of a refund of a merchant that succeeded. -/
def Outcome.refunded (merchantId : String) : Outcome → ℚ
  | .refund m amount (.ok result) => if m = merchantId ∧ result.refundSucceeded = true then amount else 0
  | _ => 0

end Gateway

end Archisynapse
