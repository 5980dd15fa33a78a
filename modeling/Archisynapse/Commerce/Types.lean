import Archisynapse.Base.Sums

/-!
# The data of agent commerce

The rows of the agent-commerce tables and the records of models.py. Amounts are unbounded integers. Left out: the columns no
operation reads (creation and update times, failure codes and messages, settlement evidence, signatures), the audit log, and
the free-form members of an invoice. Times are numbers of seconds.
-/

namespace Archisynapse

namespace Commerce

inductive AuthorizationStatus where
  | active | revoked | consumed | expired
  deriving DecidableEq

/-- The text of a status, as it stands in messages. -/
def AuthorizationStatus.text : AuthorizationStatus → String
  | .active => "active"
  | .revoked => "revoked"
  | .consumed => "consumed"
  | .expired => "expired"

inductive ReservationStatus where
  | reserved | invoiceBound | paymentInitiated | paid | finalized | released | failed
  deriving DecidableEq

/-- The text of a status, as it stands in messages. -/
def ReservationStatus.text : ReservationStatus → String
  | .reserved => "reserved"
  | .invoiceBound => "invoice_bound"
  | .paymentInitiated => "payment_initiated"
  | .paid => "paid"
  | .finalized => "finalized"
  | .released => "released"
  | .failed => "failed"

/-- `OPEN_RESERVATION_STATES`: the states in which a reservation holds budget. -/
def ReservationStatus.isOpen : ReservationStatus → Bool
  | .reserved => true
  | .invoiceBound => true
  | .paymentInitiated => true
  | .paid => true
  | _ => false

structure Authorization where
  id : String
  tenantId : String
  orchestratorId : String
  maxTotalSats : Int
  maxPerCallSats : Int
  maxRouteFeeSats : Int
  maxCalls : Int
  allowedAgentNpubs : List String
  allowedSpecialties : List String
  expiresAt : Int
  status : AuthorizationStatus
  reservedSats : Int
  spentSats : Int
  callCount : Int
  version : Int
  deriving DecidableEq

structure DecodedInvoice where
  paymentRequestSha256 : String
  amountSats : Int
  paymentHash : String
  deriving DecidableEq

structure Reservation where
  id : String
  authorizationId : String
  idempotencyKey : String
  orchestrationId : String
  agentNpub : String
  specialty : String
  quotedSats : Int
  reservedSats : Int
  invoiceSats : Option Int
  paymentHash : Option String
  invoicePayload : Option DecodedInvoice
  provider : Option String
  providerPaymentId : Option String
  routeFeeSats : Option Int
  preimageHash : Option String
  settledAt : Option String
  status : ReservationStatus
  receiptId : Option String
  deriving DecidableEq

/-- What a provider reports of a settled payment. -/
structure PaymentSettlement where
  provider : String
  providerPaymentId : String
  paymentHash : String
  preimage : String
  routeFeeSats : Int
  settledAt : String
  deriving DecidableEq

/-- The settlement a receipt states: `preimageHash` takes the preimage's place. -/
structure SettlementEvidence where
  provider : Option String
  providerPaymentId : Option String
  paymentHash : Option String
  preimageHash : Option String
  routeFeeSats : Int
  settledAt : Option String
  reconciled : Bool
  deriving DecidableEq

inductive DeliveryStatus where
  | delivered | deliveryFailed | deliveryUnknown
  deriving DecidableEq

structure DeliveryEvidence where
  status : DeliveryStatus
  httpStatus : Option Int
  contentType : Option String
  bodySha256 : Option String
  bodyBytes : Int
  latencyMs : Int
  error : Option String
  deriving DecidableEq

structure PaymentReceipt where
  id : String
  authorizationId : String
  authorizationVersion : Int
  reservationId : String
  orchestrationId : String
  idempotencyKey : String
  tenantId : String
  orchestratorId : String
  agentNpub : String
  specialty : String
  endpoint : String
  quotedSats : Int
  invoice : DecodedInvoice
  settlement : SettlementEvidence
  delivery : DeliveryEvidence
  totalDebitSats : Int
  deriving DecidableEq

/-- The classes of errors.py that these operations raise, Python's `ValueError`, and what SQLite raises. -/
inductive ErrorCode where
  | valueError | authorizationDenied | authorizationExpired | authorizationRevoked | budgetExceeded | idempotencyConflict
  | invalidInvoice | priceMismatch | paymentFailed | receiptIntegrityError | integrityError | failure
  deriving DecidableEq

/-- An exception: its class and its message. -/
structure CommerceError where
  code : ErrorCode
  message : String
  deriving DecidableEq

end Commerce

end Archisynapse
