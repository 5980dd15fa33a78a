import Archisynapse.Ledger.Api

/-!
# The data of payments

The rows of the payment tables (migrations 001, 002, 003 and 006) and the requests of transaction-service-types.ts and
transaction-service-processor.ts. Amounts of stored rows are numbers of ten-thousandths; amounts of requests are rational
numbers, as the routes admit digits only. Left out: customers, payment methods but for their token, descriptions, metadata,
failure reasons and times, which no operation reads.
-/

namespace Archisynapse

namespace Payments

inductive PaymentStatus where
  | pending | authorized | succeeded | failed | refunded | partiallyRefunded | disputed
  deriving DecidableEq

/-- The text of a status. -/
def PaymentStatus.text : PaymentStatus → String
  | .pending => "PENDING"
  | .authorized => "AUTHORIZED"
  | .succeeded => "SUCCEEDED"
  | .failed => "FAILED"
  | .refunded => "REFUNDED"
  | .partiallyRefunded => "PARTIALLY_REFUNDED"
  | .disputed => "DISPUTED"

/-! ## Rows -/

/-- A row of `payments`. -/
structure PaymentRow where
  id : Uuid
  organizationId : String
  amount : Int
  currency : String
  status : PaymentStatus
  idempotencyKey : String
  ledgerTransactionId : Option Uuid
  processorTransactionId : Option String
  feeAmount : Int
  deriving DecidableEq

inductive RefundStatus where
  | succeeded | failed
  deriving DecidableEq

/-- A row of `refunds`. -/
structure RefundRow where
  id : Uuid
  paymentId : Uuid
  organizationId : String
  amount : Int
  reason : String
  status : RefundStatus
  idempotencyKey : String
  processorRefundId : Option String
  ledgerTransactionId : Option Uuid
  deriving DecidableEq

inductive AttemptStatus where
  | processing | processorSucceeded | ledgerSucceeded | failed
  deriving DecidableEq

/-- A row of `processor_refund_attempts`. -/
structure AttemptRow where
  id : Uuid
  paymentId : Uuid
  organizationId : String
  idempotencyKey : String
  processorPaymentId : String
  processorRefundId : Option String
  amount : Int
  currency : String
  reason : String
  status : AttemptStatus
  ledgerTransactionId : Option Uuid
  deriving DecidableEq

/-- A row of `unposted_payments`. -/
structure UnpostedRow where
  organizationId : String
  paymentId : Uuid
  idempotencyKey : String
  grossAmount : Int
  feeAmount : Int
  netAmount : Int
  currency : String
  referenceId : String
  deriving DecidableEq

/-! ## Requests -/

/-- A payment request; `liveSmokeTest` says whether its metadata has `live_smoke_test: true`. -/
structure CreatePaymentRequest where
  organizationId : String
  amount : ℚ
  feeAmount : Option ℚ
  currency : String
  paymentMethodToken : String
  idempotencyKey : String
  liveSmokeTest : Bool

/-- A refund request; an empty organization stands for a missing one. -/
structure RefundRequest where
  organizationId : String
  paymentId : UuidText
  amount : Option ℚ
  reason : String
  idempotencyKey : String
  deriving DecidableEq

/-! ## The processor -/

inductive ProcessorMode where
  | disabled | test | liveSmoke
  deriving DecidableEq

/-- The body of `POST /payment_intents`, with its idempotency key. -/
structure ChargeRequest where
  amountMinor : Nat
  currency : String
  paymentMethodToken : String
  idempotencyKey : String
  deriving DecidableEq

/-- The body of `POST /refunds`, with its idempotency key. -/
structure ProcessorRefundRequest where
  processorTransactionId : String
  amountMinor : Nat
  reason : String
  idempotencyKey : String
  deriving DecidableEq

/-- The statuses of a charge at the processor; every other one counts as `failed`. -/
inductive ChargeStatus where
  | succeeded | processing | requiresAction | requiresConfirmation | requiresCapture | failed
  deriving DecidableEq

/-- The statuses of a refund at the processor. -/
inductive ProcessorRefundStatus where
  | succeeded | pending | requiresAction | failed | canceled
  deriving DecidableEq

/-- The text of a refund's status. -/
def ProcessorRefundStatus.text : ProcessorRefundStatus → String
  | .succeeded => "succeeded"
  | .pending => "pending"
  | .requiresAction => "requires_action"
  | .failed => "failed"
  | .canceled => "canceled"

/-- A charge the processor has made, with the status it first answered. -/
structure Charge where
  id : String
  request : ChargeRequest
  answered : ChargeStatus
  status : ChargeStatus
  deriving DecidableEq

/-- A refund the processor has made, with the status it first answered. -/
structure ProcessorRefund where
  id : String
  request : ProcessorRefundRequest
  answered : ProcessorRefundStatus
  status : ProcessorRefundStatus
  deriving DecidableEq

/-! ## Errors -/

/-- The classes of errors. -/
inductive ErrorName where
  | error | typeError | paymentNotFoundError | insufficientFundsError | processorNotConfiguredError | processorProtocolError
  deriving DecidableEq

/-- What an operation throws: an error with its message, a refusal of the ledger (of what it was asked to do), or an error of
the database. -/
inductive PaymentError where
  | named (name : ErrorName) (message : String)
  | ledger (asked : String) (refusal : Ledger.Refusal)
  | database (reason : DatabaseError)
  deriving DecidableEq

end Payments

end Archisynapse
