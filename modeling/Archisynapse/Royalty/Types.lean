import Archisynapse.Payments.Database

/-!
# The data of royalty obligations

The rows of the royalty tables (migration 004) and the requests and results of royalty-service-types.ts. Amounts and scores of
rows, and the amount of a request, are numbers of ten-thousandths: the route admits amounts with exactly four decimals. Left
out: the trigger's kind and the times, which no operation reads.
-/

namespace Archisynapse

namespace Royalty

inductive RoyaltyStatus where
  | pending | posted | held | blocked | reversed
  deriving DecidableEq

/-- The text of a status. -/
def RoyaltyStatus.text : RoyaltyStatus → String
  | .pending => "PENDING"
  | .posted => "POSTED"
  | .held => "HELD"
  | .blocked => "BLOCKED"
  | .reversed => "REVERSED"

inductive RoyaltyDecision where
  | allow | hold | block
  deriving DecidableEq

structure RoyaltySplit where
  ownerId : String
  bps : Nat
  deriving DecidableEq

/-- A payout of the money math. -/
structure Payout where
  ownerId : String
  amount : ℚ
  deriving DecidableEq

structure CreateRoyaltyObligationRequest where
  organizationId : String
  eventId : String
  correlationId : String
  idempotencyKey : String
  tenantId : String
  trackId : String
  creatorId : String
  amount : Nat
  currency : String
  splits : List RoyaltySplit
  decision : RoyaltyDecision
  decisionPolicy : String
  riskScore : ℚ
  statusReasons : List String
  requestHash : String
  deriving DecidableEq

/-! ## Rows -/

/-- A row of `royalty_obligations`. -/
structure ObligationRow where
  id : Uuid
  organizationId : String
  eventId : String
  correlationId : String
  idempotencyKey : String
  tenantId : String
  trackId : String
  creatorId : String
  amount : Int
  currency : String
  splits : List RoyaltySplit
  status : RoyaltyStatus
  decisionPolicy : String
  riskScore : Int
  statusReasons : List String
  ledgerTransactionId : Option Uuid
  requestHash : String
  deriving DecidableEq

/-- A row of `royalty_payouts`. -/
structure PayoutRow where
  id : Uuid
  royaltyObligationId : Uuid
  ownerId : String
  amount : Int
  state : String
  deriving DecidableEq

/-- A row of `royalty_reversals`. -/
structure ReversalRow where
  id : Uuid
  reversedObligationId : Uuid
  reversalEventId : String
  reversalIdempotencyKey : String
  reversalLedgerTransactionId : Uuid
  deriving DecidableEq

/-! ## Results -/

structure RoyaltyPayout where
  ownerId : String
  amount : Int
  state : String
  deriving DecidableEq

structure RoyaltyObligation where
  id : Uuid
  organizationId : String
  eventId : String
  correlationId : String
  idempotencyKey : String
  tenantId : String
  status : RoyaltyStatus
  amount : Int
  currency : String
  splits : List RoyaltySplit
  decisionPolicy : String
  riskScore : Int
  statusReasons : List String
  ledgerTransactionId : Option Uuid
  payouts : List RoyaltyPayout
  deriving DecidableEq

/-! ## Errors -/

/-- The classes of errors. -/
inductive ErrorName where
  | error | typeError | royaltyIdempotencyConflictError | royaltyObligationNotFoundError | royaltyInvalidStateError
  deriving DecidableEq

/-- What an operation throws: an error with its message; the failed balance check of the money math, with the two values its
message names; a refusal of the ledger (of what it was asked to do); or an error of the database. -/
inductive RoyaltyError where
  | named (name : ErrorName) (message : String)
  /-- `balanced-journal invariant violated: payouts(…) != pool(…)` -/
  | unbalanced (totalPayout pool : ℚ)
  | ledger (asked : String) (refusal : Ledger.Refusal)
  | database (reason : DatabaseError)
  deriving DecidableEq

end Royalty

end Archisynapse
