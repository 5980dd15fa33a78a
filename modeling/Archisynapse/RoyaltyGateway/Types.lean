import Archisynapse.Base.Json
import Archisynapse.Royalty.Service

/-!
# The data of the royalty receipt loop

The event of royalty_events.py, the decision of royalty_decision.py, the receipts that royalty_orchestrator.py builds and signs,
and the rows of the gateway's royalty tables (migration 004).

Amounts are numbers of ten-thousandths, as the schema admits texts with exactly four decimals; times are microseconds. Left out:
the fields of an event that nothing reads, and the columns of times other than `claimed_at` and `revoked_at`. What the transaction
service answers with is the data of its own module.
-/

namespace Archisynapse

namespace RoyaltyGateway

open Royalty (RoyaltyObligation RoyaltyStatus RoyaltyDecision)

/-! ## Errors -/

/-- What code of the loop raises: a `RoyaltyRejection`, with `retryable` when it carries a body that says so; the two errors of the
transaction client; or any other exception. -/
inductive Failure where
  | rejection (statusCode : Nat) (code message : String) (retryable : Bool)
  | conflict (text : String)
  | service (statusCode : Nat) (body : String)
  | raised (message : String)
  deriving DecidableEq

/-- `str(exc)` -/
def Failure.message : Failure → String
  | .rejection _ _ message _ => message
  | .conflict text => text
  | .service statusCode body => s!"transaction service error {statusCode}: {body}"
  | .raised message => message

/-! ## Events -/

/-- `EconomicTruthRef` -/
structure EconomicTruthRef where
  contractVersion : String
  actionId : String
  authorizationReceiptId : String
  intentTokenId : Option String
  authorizedBy : String
  deriving DecidableEq

structure Split where
  ownerId : String
  bps : Int
  deriving DecidableEq

/-- A `royalty.obligation.created` event, which the schema admits when its splits sum to 10000. -/
structure RoyaltyObligationCreated where
  eventId : String
  occurredAt : String
  correlationId : String
  idempotencyKey : String
  tenantId : String
  trackId : String
  dnaTag : String
  soulprintHash : String
  proofId : String
  creatorId : String
  splits : List Split
  triggerKind : String
  actorId : String
  currency : String
  value : Nat
  economicTruth : Option EconomicTruthRef
  splits_sum_to_10000 : (splits.map (·.bps)).sum = 10000
  deriving DecidableEq

/-- `Decision`; the reasons are what the fraud service sent. -/
structure Decision where
  outcome : RoyaltyDecision
  policy : String
  riskScore : ℚ
  reasons : Json

/-! ## Receipts -/

inductive ReceiptStatus where
  | processing | paid | held | blocked | reversed
  deriving DecidableEq

/-- The text of a status. -/
def ReceiptStatus.text : ReceiptStatus → String
  | .processing => "processing"
  | .paid => "paid"
  | .held => "held"
  | .blocked => "blocked"
  | .reversed => "reversed"

/-- `status_map` -/
def statusMap : RoyaltyStatus → ReceiptStatus
  | .pending => .processing
  | .posted => .paid
  | .held => .held
  | .blocked => .blocked
  | .reversed => .reversed

structure ReceiptPayout where
  ownerId : String
  amount : Int
  state : String
  deriving DecidableEq

/-- A receipt before it is signed; gross and net are the same amount and the platform fee is always zero. `economicTruth` is none
when the dictionary has no such key. -/
structure ReceiptBody where
  receiptId : String
  status : ReceiptStatus
  statusReasons : Json
  eventId : String
  correlationId : String
  tenantId : String
  transactionId : Uuid
  ledgerTransactionId : Option Uuid
  currency : String
  net : Int
  payouts : List ReceiptPayout
  policy : String
  riskScore : ℚ
  checks : List String
  issuedAt : Int
  economicTruth : Option (Option EconomicTruthRef)

/-- The signature of a receipt. -/
structure Signature where
  alg : String
  keyId : String
  value : String
  deriving DecidableEq

/-- A receipt: `{**receipt_body, "signature": signature}`. -/
structure Receipt where
  body : ReceiptBody
  signature : Signature

/-! ## Rows -/

inductive IdempotencyStatus where
  | processing | completed | failed
  deriving DecidableEq

/-- A row of `royalty_idempotency`. -/
structure IdempotencyRow where
  tenantId : String
  idempotencyKey : String
  requestHash : String
  status : IdempotencyStatus
  receiptId : Option String
  failureReason : Option String
  claimedAt : Int
  deriving DecidableEq

/-- The primary key of an idempotency row. -/
def IdempotencyRow.key (i : IdempotencyRow) : String × String := (i.tenantId, i.idempotencyKey)

/-- A row of `royalty_receipts`. -/
structure ReceiptRow where
  receiptId : String
  eventId : String
  payload : Receipt

/-- A row of `royalty_rejections`. -/
structure RejectionRow where
  correlationId : Option String
  keyId : Option String
  reason : String
  deriving DecidableEq

/-- A row of `royalty_tenant_keys`; `revoked` when it has a `revoked_at`. -/
structure TenantKeyRow where
  tenantId : String
  keyId : String
  publicKeyB64 : String
  revoked : Bool
  deriving DecidableEq

/-- A row of `royalty_tenant_api_keys`. -/
structure ApiKeyRow where
  tenantId : String
  apiKeyHash : String
  deriving DecidableEq

/-- What `claim_idempotency` finds. -/
inductive Claim where
  | claimed
  | completed (receiptId : Option String)
  | conflict
  | processing
  deriving DecidableEq

end RoyaltyGateway

end Archisynapse
