import Archisynapse.Base.Machine
import Archisynapse.Gateway.Store

/-!
# The revenue assurance loop

`process_payment` of orchestrator.py as a program over its calls: fraud check, payment, the query of the ledger when the payment
came without a ledger transaction, analytics, and the receipt. The event is updated as the steps go, so a step that raises leaves
what it had written: a step is a program that ends with the event and with what it raised, if anything.

An event's amounts go through floats; what they make of a number is a parameter (`Env`), and so are the hashes. The route always
has an idempotency key, so the key the orchestrator would make up is left out.
-/

namespace Archisynapse

namespace Gateway

/-! ## Calls -/

/-- The queues of events whose ledger transaction or analytics record is missing. -/
inductive RecoveryFile where
  | ledger | analytics
  deriving DecidableEq

/-- The request of `POST /risk/checkout`, with its headers. -/
structure FraudRequest where
  apiKey : Option String
  idempotencyKey : String
  userId : String
  deviceId : Option String
  email : Option String
  sessionId : Option String
  ipAddress : Option String
  country : Option String
  amount : ℚ
  currency : String
  deriving DecidableEq

/-- The request of `POST /payments` at the transaction service, with its headers. The amounts are those of the texts, which have
two decimals. -/
structure TransactionRequest where
  organizationId : String
  idempotencyKey : String
  amount : ℚ
  feeAmount : ℚ
  currency : String
  paymentMethodType : PaymentMethodType
  paymentMethodToken : String
  paymentMethodLast4 : Option String
  paymentMethodBrand : Option String
  metadata : List (String × Json)
  customerId : Option String
  description : Option String

/-- The request of `POST /transactions` at the analytics service, with its headers. -/
structure AnalyticsRequest where
  apiKey : Option String
  customerId : String
  amount : ℚ
  feeAmount : ℚ
  currency : String
  paymentMethod : PaymentMethodType
  country : Option String
  correlationId : String
  eventId : String
  externalTransactionId : Option String
  deriving DecidableEq

/-- One call: an operation of the store, a request to another service, or a change of a recovery queue. -/
inductive Action where
  | claimIdempotency (merchantId key requestHash : String)
  | getReceipt (merchantId eventId : String)
  | getServiceCredentials (merchantId : String)
  | saveReceipt (merchantId key requestHash : String) (payload : StoredPayload)
  | completeIdempotency (merchantId key eventId : String)
  | failIdempotency (merchantId key reason : String)
  | checkRisk (req : FraudRequest)
  | createPayment (req : TransactionRequest)
  /-- `GET /transactions?referenceId=…` at the ledger -/
  | queryLedger (merchantId : String) (referenceId : Option String)
  | recordTransaction (req : AnalyticsRequest)
  | pushRecoveryItem (file : RecoveryFile) (event : CanonicalEvent)
  | removeRecoveryItem (file : RecoveryFile) (correlationId : String)

/-- What a call answers with. -/
abbrev Action.Result : Action → Type
  | .claimIdempotency _ _ _ => IdempotencyClaim
  | .getReceipt _ _ => Option StoredPayload
  | .getServiceCredentials _ => ServiceCredentials
  | .checkRisk _ => Response RiskDecision
  | .createPayment _ => Response PaymentBody
  | .queryLedger _ _ => Response LedgerBody
  | .recordTransaction _ => Response Nat
  | _ => Unit

/-- The calls and their answers. -/
abbrev signature : Signature where
  Op := Action
  Res := Action.Result
  Err := GatewayError

/-- A program of the gateway. -/
abbrev Program (α : Type) : Type := Prog signature α

/-- Make a call. -/
def step (o : Action) : Program o.Result := Prog.perform (S := signature) o

/-- Make a call and go on with what it raises, if anything. -/
def attempt (o : Action) : Program (Except GatewayError o.Result) := Prog.call (S := signature) o Prog.pure

/-! ## The event -/

/-- What the gateway takes from outside its arguments: hashes, floats and uuids made into texts, and the signer of receipts. -/
structure Env where
  /-- `canonical_request_hash` -/
  requestHash : String → PaymentCreateRequest → String
  /-- the hash of `generate_correlation_id` -/
  correlationHash : String → String
  /-- `dollars_to_minor(float(amount))` -/
  dollarsToMinor : ℚ → Int
  /-- `minor_to_dollars` -/
  minorToDollars : Int → ℚ
  /-- `f"{dollars:.2f}"` -/
  fixedText : ℚ → String
  /-- the number that text says -/
  twoDecimals : ℚ → ℚ
  /-- `_uuid_or_none` -/
  uuidOrNone : String → Option String
  /-- `_receipt_signer` -/
  signer : Option (UnifiedReceipt → ReceiptProof)

/-- What a request draws when its event is made. -/
structure Draws where
  eventId : String
  occurredAt : String
  deriving DecidableEq

/-- The content `generate_correlation_id` hashes. -/
def correlationContent (merchantId customerId : String) (amountMinor : Int) (currency key : String) : String :=
  merchantId ++ ":" ++ customerId ++ ":" ++ toString amountMinor ++ ":" ++ currency ++ ":" ++ key

/-- The event of a request, as `to_canonical_event` and `process_payment` start it. -/
def CanonicalEvent.ofRequest (env : Env) (draws : Draws) (merchantId key : String) (req : PaymentCreateRequest) :
    CanonicalEvent where
  eventId := draws.eventId
  correlationId :=
    "corr_" ++ env.correlationHash
      (correlationContent merchantId req.customerId (env.dollarsToMinor req.amount) req.currency key)
  merchantId
  transactionId := none
  idempotencyKey := key
  customerId := req.customerId
  amountMinor := env.dollarsToMinor req.amount
  feeMinor := env.dollarsToMinor req.feeAmount
  currency := req.currency
  paymentMethodType := req.paymentMethodType
  paymentMethodLast4 := req.paymentMethodLast4.getD ""
  paymentMethodBrand := req.paymentMethodBrand.getD ""
  ipAddress := req.ipAddress
  country := req.country
  deviceId := req.deviceId
  email := req.email
  sessionId := req.sessionId
  occurredAt := draws.occurredAt
  fraudDecision := none
  fraudScore := none
  fraudReasons := []
  fraudError := none
  transactionError := none
  ledgerTransactionId := none
  ledgerEntries := []
  ledgerError := none
  analyticsRecorded := false
  analyticsTransactionId := none
  analyticsError := none
  status := .processing
  error := none

/-- `UnifiedReceipt.from_event` -/
def UnifiedReceipt.fromEvent (env : Env) (event : CanonicalEvent) : UnifiedReceipt where
  eventId := event.eventId
  correlationId := event.correlationId
  merchantId := event.merchantId
  customerId := event.customerId
  transactionId := event.transactionId
  amount := env.minorToDollars event.amountMinor
  feeAmount := env.minorToDollars event.feeMinor
  currency := event.currency
  status := event.status
  fraudDecision := event.fraudDecision
  fraudScore := event.fraudScore
  fraudReasons := event.fraudReasons
  fraudError := event.fraudError
  transactionError := event.transactionError
  ledgerTransactionId := event.ledgerTransactionId
  ledgerEntries := event.ledgerEntries
  ledgerError := event.ledgerError
  analyticsRecorded := event.analyticsRecorded
  analyticsTransactionId := event.analyticsTransactionId
  analyticsError := event.analyticsError
  occurredAt := event.occurredAt
  idempotencyKey := event.idempotencyKey
  error := event.error

/-! ## The steps -/

/-- A step of the loop: the event as the step left it, and what it raised. -/
abbrev Stage : Type := Program (CanonicalEvent × Option GatewayError)

/-- `f"HTTP {response.status_code}: {response.text[:200]}"` -/
def httpError (statusCode : Nat) (text : String) : String :=
  "HTTP " ++ toString statusCode ++ ": " ++ String.ofList (text.toList.take 200)

/-- The event of a payment the fraud service did not answer for. -/
def CanonicalEvent.unscored (event : CanonicalEvent) (error : String) : CanonicalEvent :=
  { event with fraudDecision := some "block", fraudScore := some 100, fraudError := some error }

/-- `_check_fraud` -/
def checkFraud (env : Env) (event : CanonicalEvent) (apiKey : Option String) : Stage := do
  match ← attempt (.checkRisk ⟨truthy apiKey, event.idempotencyKey, event.customerId, event.deviceId, event.email,
      event.sessionId, event.ipAddress, event.country, env.minorToDollars event.amountMinor, event.currency⟩) with
  | .ok response =>
    if response.statusCode = 200 then
      match response.json with
      | .ok payload =>
        pure ({ event with
          fraudDecision := some payload.decision
          fraudScore := some payload.riskScore
          fraudReasons := payload.reasons }, none)
      | .error e => pure (event, some e)
    else pure (event.unscored (httpError response.statusCode response.text), none)
  | .error (.request message) => pure (event.unscored ("Service unavailable: " ++ message), none)
  | .error e => pure (event, some e)

/-- `{**a, **b}` -/
def mergeFields (a b : List (String × Json)) : List (String × Json) :=
  a.filter (fun f => !b.any (fun g => decide (g.1 = f.1))) ++ b

/-- An optional text as JSON. -/
def Json.ofText : Option String → Json
  | some text => .str text
  | none => .null

/-- `build_transaction_request`, with the headers. -/
def buildTransactionRequest (env : Env) (event : CanonicalEvent) (req : PaymentCreateRequest) : TransactionRequest :=
  let last4 := strip event.paymentMethodLast4
  { organizationId := event.merchantId
    idempotencyKey := event.idempotencyKey
    amount := env.twoDecimals (env.minorToDollars event.amountMinor)
    feeAmount := env.twoDecimals (env.minorToDollars event.feeMinor)
    currency := event.currency
    paymentMethodType := event.paymentMethodType
    paymentMethodToken := req.paymentMethodToken
    paymentMethodLast4 := if last4.length = 4 then some last4 else none
    paymentMethodBrand := truthy (some (strip event.paymentMethodBrand))
    metadata := mergeFields req.metadata
      [("customer_ref", .str event.customerId), ("correlation_id", .str event.correlationId), ("event_id", .str event.eventId),
       ("fraud_decision", .ofText event.fraudDecision), ("fraud_score", (event.fraudScore.map .num).getD .null),
       ("processor_fee_amount", .str (env.fixedText (env.minorToDollars event.feeMinor)))]
    customerId := env.uuidOrNone event.customerId
    description := truthy req.description }

/-- `_process_transaction` -/
def processTransaction (env : Env) (event : CanonicalEvent) (req : PaymentCreateRequest) : Stage := do
  match ← attempt (.createPayment (buildTransactionRequest env event req)) with
  | .ok response =>
    if response.statusCode = 200 ∨ response.statusCode = 201 then
      match response.json with
      | .ok payload =>
        pure ({ event with transactionId := payload.id, ledgerTransactionId := payload.ledgerTransactionId }, none)
      | .error e => pure (event, some e)
    else pure ({ event with transactionError := some (httpError response.statusCode response.text) }, none)
  | .error (.request message) =>
    pure ({ event with transactionError := some ("Service unavailable: " ++ message) }, none)
  | .error e => pure (event, some e)

/-- Change a recovery queue, with the event as it is. -/
def recover (o : Action) (event : CanonicalEvent) : Stage := do
  match ← attempt o with
  | .ok _ => pure (event, none)
  | .error e => pure (event, some e)

/-- The transaction of an answer that has the event's payment as its reference. -/
def LedgerBody.find (body : LedgerBody) (referenceId : Option String) : Option LedgerTransactionBody :=
  match body with
  | .list transactions => transactions.find? (fun t => decide (t.referenceId = referenceId))
  | .single transaction => if transaction.referenceId = referenceId then some transaction else none

/-- The event of a payment that the ledger has no transaction for, queued. -/
def queueLedgerRecovery (event : CanonicalEvent) (error : String) : Stage :=
  recover (.pushRecoveryItem .ledger { event with ledgerError := some error }) { event with ledgerError := some error }

/-- The text of a ledger transaction that was not found. -/
def ledgerNotFound : String := "Ledger transaction not found by referenceId — enqueued for reconciliation"

/-- `_reconcile_missing_ledger` -/
def reconcileMissingLedger (event : CanonicalEvent) : Stage := do
  match ← attempt (.queryLedger event.merchantId event.transactionId) with
  | .ok response =>
    if response.statusCode = 200 then
      match response.json with
      | .ok body =>
        match body.find event.transactionId with
        | some transaction =>
          recover (.removeRecoveryItem .ledger event.correlationId)
            { event with ledgerTransactionId := transaction.id, ledgerEntries := transaction.entries }
        | none => queueLedgerRecovery event ledgerNotFound
      | .error e => pure (event, some e)
    else queueLedgerRecovery event ledgerNotFound
  | .error (.request message) => queueLedgerRecovery event ("Ledger query unavailable: " ++ message)
  | .error e => pure (event, some e)

/-- The event of a payment that analytics did not record, queued. -/
def queueAnalyticsRecovery (event : CanonicalEvent) (error : String) : Stage :=
  recover (.pushRecoveryItem .analytics { event with analyticsError := some error }) { event with analyticsError := some error }

/-- `_record_analytics` -/
def recordAnalytics (env : Env) (event : CanonicalEvent) (apiKey : Option String) : Stage := do
  match ← attempt (.recordTransaction ⟨truthy apiKey, event.customerId, env.minorToDollars event.amountMinor,
      env.minorToDollars event.feeMinor, event.currency, event.paymentMethodType, event.country, event.correlationId,
      event.eventId, event.transactionId⟩) with
  | .ok response =>
    if response.statusCode = 200 then
      match response.json with
      | .ok id =>
        recover (.removeRecoveryItem .analytics event.correlationId)
          { event with analyticsRecorded := true, analyticsTransactionId := some (toString id) }
      | .error e => pure (event, some e)
    else queueAnalyticsRecovery event (httpError response.statusCode response.text)
  | .error (.request message) => queueAnalyticsRecovery event ("Service unavailable: " ++ message)
  | .error e => pure (event, some e)

/-! ## The loop -/

/-- `a or b` -/
def textOr (a : Option String) (b : String) : String := (truthy a).getD b

/-- A step after another one, unless that raised. -/
def andThen (stage : Stage) (next : CanonicalEvent → Stage) : Stage := do
  match ← stage with
  | (event, none) => next event
  | (event, some e) => pure (event, some e)

/-- Analytics, and the status that follows from it. -/
def finishWithAnalytics (env : Env) (event : CanonicalEvent) (apiKey : Option String) : Stage :=
  andThen (recordAnalytics env event apiKey) fun event =>
    if event.analyticsRecorded then pure ({ event with status := .completed }, none)
    else pure ({ event with
      status := .partially
      error := some (textOr event.analyticsError "Analytics recording failed") }, none)

/-- The steps after the transaction service answered. -/
def afterTransaction (env : Env) (event : CanonicalEvent) (apiKey : Option String) : Stage :=
  if (truthy event.transactionId).isSome then
    if (truthy event.ledgerTransactionId).isSome then finishWithAnalytics env event apiKey
    else
      andThen (reconcileMissingLedger event) fun event =>
        if (truthy event.ledgerTransactionId).isSome then finishWithAnalytics env event apiKey
        else pure ({ event with
          status := .partially
          error := some (textOr event.ledgerError "Ledger posting pending reconciliation") }, none)
  else pure ({ event with
    status := .failed
    error := some (textOr event.transactionError "Transaction processing failed") }, none)

/-- The steps after the fraud service answered. -/
def afterFraud (env : Env) (event : CanonicalEvent) (req : PaymentCreateRequest) (credentials : ServiceCredentials) : Stage :=
  if event.fraudDecision = some "approve" then
    andThen (processTransaction env event req) fun event => afterTransaction env event credentials.analyticsApiKey
  else if event.fraudDecision = some "block" then
    pure ({ event with status := .blocked, error := some "Payment blocked by fraud detection" }, none)
  else pure ({ event with status := .review, error := some "Payment requires manual review" }, none)

/-- `process_payment` of the orchestrator. -/
def processPayment (env : Env) (draws : Draws) (merchantId key : String) (req : PaymentCreateRequest)
    (credentials : ServiceCredentials) : Program UnifiedReceipt := do
  let event := CanonicalEvent.ofRequest env draws merchantId key req
  if event.amountMinor ≤ 0 then
    Prog.throw (.raised "ValidationError" "amount_minor must be positive")
  else
    match ← andThen (checkFraud env event credentials.fraudApiKey) (fun event => afterFraud env event req credentials) with
    | (event, none) => pure (.fromEvent env event)
    | (event, some e) =>
      pure (.fromEvent env { event with status := .failed, error := some ("Unexpected error: " ++ e.message) })

end Gateway

end Archisynapse
