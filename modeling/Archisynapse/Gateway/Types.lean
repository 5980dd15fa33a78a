import Archisynapse.Base.Values

/-!
# The data of gateway payments

The request of `POST /v1/payments` (production_main.py), the event that is passed along the services and the receipt that is made
of it (canonical_event.py), the rows of the gateway's tables (migration 005_gateway_core), and the bodies the gateway reads from
the answers of other services.

Left out: the event's references to Economic Truth and its `processed_at`, which stay unset on this path, and the columns of times
other than `claimed_at`, which no operation reads.
-/

namespace Archisynapse

namespace Gateway

/-- A JSON value. -/
inductive Json where
  | null
  | bool (b : Bool)
  | num (value : ℚ)
  | str (text : String)
  | arr (items : List Json)
  | obj (fields : List (String × Json))

/-! ## Errors -/

/-- What code of the gateway raises: an HTTPException, httpx's RequestError, the two errors of a claim, or any other exception by
its type's name. -/
inductive GatewayError where
  | http (statusCode : Nat) (detail : String)
  | request (message : String)
  | conflict (message : String)
  | inProgress (message : String)
  | raised (name message : String)
  deriving DecidableEq

/-- `type(exc).__name__` -/
def GatewayError.name : GatewayError → String
  | .http _ _ => "HTTPException"
  | .request _ => "RequestError"
  | .conflict _ => "IdempotencyConflict"
  | .inProgress _ => "IdempotencyInProgress"
  | .raised name _ => name

/-- `str(exc)` -/
def GatewayError.message : GatewayError → String
  | .http _ detail => detail
  | .request message => message
  | .conflict message => message
  | .inProgress message => message
  | .raised _ message => message

/-! ## Requests and events -/

inductive PaymentMethodType where
  | card | bankTransfer | wallet
  deriving DecidableEq

/-- The body of `POST /v1/payments`. -/
structure PaymentCreateRequest where
  customerId : String
  amount : ℚ
  feeAmount : ℚ
  currency : String
  paymentMethodType : PaymentMethodType
  paymentMethodToken : String
  paymentMethodLast4 : Option String
  paymentMethodBrand : Option String
  description : Option String
  metadata : List (String × Json)
  ipAddress : Option String
  country : Option String
  deviceId : Option String
  email : Option String
  sessionId : Option String

/-- A merchant's credentials at the other services. -/
structure ServiceCredentials where
  fraudApiKey : Option String
  analyticsApiKey : Option String
  deriving DecidableEq

/-- The status of an event; `partially` is "partial". -/
inductive EventStatus where
  | pending | processing | completed | partially | failed | blocked | review
  deriving DecidableEq

/-- A revenue event on its way through the services. -/
structure CanonicalEvent where
  eventId : String
  correlationId : String
  merchantId : String
  transactionId : Option String
  idempotencyKey : String
  customerId : String
  amountMinor : Int
  feeMinor : Int
  currency : String
  paymentMethodType : PaymentMethodType
  paymentMethodLast4 : String
  paymentMethodBrand : String
  ipAddress : Option String
  country : Option String
  deviceId : Option String
  email : Option String
  sessionId : Option String
  occurredAt : String
  fraudDecision : Option String
  fraudScore : Option ℚ
  fraudReasons : List String
  fraudError : Option String
  transactionError : Option String
  ledgerTransactionId : Option String
  ledgerEntries : List Json
  ledgerError : Option String
  analyticsRecorded : Bool
  analyticsTransactionId : Option String
  analyticsError : Option String
  status : EventStatus
  error : Option String

/-- The receipt of an event; amounts are floats. -/
structure UnifiedReceipt where
  eventId : String
  correlationId : String
  merchantId : String
  customerId : String
  transactionId : Option String
  amount : ℚ
  feeAmount : ℚ
  currency : String
  status : EventStatus
  fraudDecision : Option String
  fraudScore : Option ℚ
  fraudReasons : List String
  fraudError : Option String
  transactionError : Option String
  ledgerTransactionId : Option String
  ledgerEntries : List Json
  ledgerError : Option String
  analyticsRecorded : Bool
  analyticsTransactionId : Option String
  analyticsError : Option String
  occurredAt : String
  idempotencyKey : String
  error : Option String

/-- The proof envelope of a signed receipt. -/
structure ReceiptProof where
  algorithm : String
  keyId : String
  payloadSha256 : String
  signatureB64 : String
  publicKeyB64 : String
  deriving DecidableEq

/-- What is stored of a receipt: its fields and, when receipts are signed, `_proof`. -/
structure StoredPayload where
  receipt : UnifiedReceipt
  proof : Option ReceiptProof

/-! ## Rows -/

/-- A row of `gateway_merchants`, as far as payments read it: the credentials as they are decrypted, with the id of the key they
are encrypted with. -/
structure MerchantRow where
  merchantId : String
  active : Bool
  credentials : Option ServiceCredentials
  credentialsKeyId : Option String
  deriving DecidableEq

/-- A row of `gateway_payment_receipts`. -/
structure ReceiptRow where
  eventId : String
  merchantId : String
  correlationId : String
  idempotencyKey : String
  requestHash : String
  status : EventStatus
  payload : StoredPayload

/-- The merchant and the key of a receipt. -/
def ReceiptRow.key (r : ReceiptRow) : String × String := (r.merchantId, r.idempotencyKey)

inductive IdempotencyStatus where
  | processing | completed | failed
  deriving DecidableEq

/-- A row of `gateway_payment_idempotency`; times are microseconds. -/
structure IdempotencyRow where
  merchantId : String
  idempotencyKey : String
  requestHash : String
  status : IdempotencyStatus
  eventId : Option String
  failureReason : Option String
  claimedAt : Int
  deriving DecidableEq

/-- The merchant and the key of an idempotency row. -/
def IdempotencyRow.key (i : IdempotencyRow) : String × String := (i.merchantId, i.idempotencyKey)

inductive ClaimState where
  | new | replay | reclaimed | retry
  deriving DecidableEq

structure IdempotencyClaim where
  state : ClaimState
  eventId : Option String
  deriving DecidableEq

/-! ## Answers of other services -/

/-- An answer over HTTP: `json` is the body, or what reading it raises. -/
structure Response (β : Type) where
  statusCode : Nat
  text : String
  json : Except GatewayError β

/-- The answer of `POST /risk/checkout` at the fraud service. -/
structure RiskDecision where
  riskScore : ℚ
  decision : String
  reasons : List String
  deriving DecidableEq

/-- What is read of a payment of the transaction service. -/
structure PaymentBody where
  id : Option String
  ledgerTransactionId : Option String
  deriving DecidableEq

/-- What is read of a transaction of the ledger. -/
structure LedgerTransactionBody where
  id : Option String
  referenceId : Option String
  entries : List Json

/-- A list of transactions or a single one. -/
inductive LedgerBody where
  | list (transactions : List LedgerTransactionBody)
  | single (transaction : LedgerTransactionBody)

end Gateway

end Archisynapse
