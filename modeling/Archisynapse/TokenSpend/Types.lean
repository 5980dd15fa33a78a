import Mathlib.Data.Rat.Defs
import Mathlib.Order.Basic

/-!
# The data of token spend

The rows of the tables of token_common.py. Amounts and token counts are integers, which `bindIntegers` checks where a statement
stores them; a float (`anomaly_multiplier`) is the rational number it stands for; times are the texts that are stored and
compared. Left out: update times, the details of alerts, the audit log, and the signatures of receipts.
-/

namespace Archisynapse

namespace TokenSpend

/-- A provider and one of its models. -/
structure Route where
  provider : String
  model : String
  deriving DecidableEq

structure RateCard where
  id : String
  provider : String
  model : String
  inputMicrousdPerMillion : Int
  outputMicrousdPerMillion : Int
  cachedInputMicrousdPerMillion : Int
  reasoningMicrousdPerMillion : Int
  sourceReference : String
  effectiveAt : String
  active : Bool
  deriving DecidableEq

inductive PolicyStatus where
  | active | paused
  deriving DecidableEq

/-- The text of a status, as it stands in messages. -/
def PolicyStatus.text : PolicyStatus → String
  | .active => "active"
  | .paused => "paused"

structure Policy where
  id : String
  tenantId : String
  scopeType : String
  scopeId : String
  periodStart : String
  periodEnd : String
  budgetMicrousd : Int
  maxPerCallMicrousd : Int
  maxInputTokens : Int
  maxOutputTokens : Int
  maxCallsPerMinute : Int
  anomalyMultiplier : ℚ
  allowedRoutes : List Route
  fallbackRoutes : List Route
  reservedMicrousd : Int
  spentMicrousd : Int
  callCount : Int
  status : PolicyStatus
  stopReason : Option String
  version : Int
  deriving DecidableEq

/-- The four token counts of a call. -/
structure Tokens where
  input : Int
  output : Int
  cachedInput : Int
  reasoning : Int
  deriving DecidableEq

/-- The smallest of the counts. -/
def Tokens.min (t : Tokens) : Int := Min.min (Min.min t.input t.output) (Min.min t.cachedInput t.reasoning)

/-- All tokens. -/
def Tokens.sum (t : Tokens) : Int := t.input + t.output + t.cachedInput + t.reasoning

inductive ReservationStatus where
  | reserved | finalized
  deriving DecidableEq

inductive ReconciliationStatus where
  | pending | confirmed | disputed
  deriving DecidableEq

/-- What a finalized reservation was used for. -/
structure Usage where
  tokens : Tokens
  providerReportedCostMicrousd : Option Int
  responseSha256 : String
  outcomeStatus : String
  deriving DecidableEq

structure Reservation where
  id : String
  policyId : String
  idempotencyKey : String
  requestFingerprint : String
  requested : Route
  selected : Route
  rateCardId : String
  estimated : Tokens
  estimatedCostMicrousd : Int
  reservedMicrousd : Int
  actual : Option Usage
  actualCostMicrousd : Option Int
  providerRequestId : Option String
  reconciliationStatus : ReconciliationStatus
  status : ReservationStatus
  receiptId : Option String
  createdAt : String
  deriving DecidableEq

structure UsageReceipt where
  id : String
  reservationId : String
  policyId : String
  policyVersion : Int
  requested : Route
  selected : Route
  rateCardId : String
  estimated : Tokens
  estimatedCostMicrousd : Int
  actual : Usage
  actualCostMicrousd : Int
  providerRequestId : String
  varianceMicrousd : Int
  anomalyReasons : List String
  deriving DecidableEq

inductive EventStatus where
  | orphaned | confirmed | disputed
  deriving DecidableEq

/-- The data of a provider's event, normalised. -/
structure EventPayload where
  provider : String
  providerEventId : String
  providerRequestId : Option String
  costMicrousd : Int
  inputTokens : Option Int
  outputTokens : Option Int
  cachedInputTokens : Option Int
  reasoningTokens : Option Int
  deriving DecidableEq

structure ProviderEvent where
  id : String
  payload : EventPayload
  reservationId : Option String
  status : EventStatus
  payloadSha256 : String
  deriving DecidableEq

structure Alert where
  policyId : Option String
  reservationId : Option String
  severity : String
  alertType : String
  message : String
  deriving DecidableEq

/-- The classes of errors.py that these operations raise, Python's `ValueError`, and what SQLite and floats raise. -/
inductive ErrorCode where
  | valueError | authorizationDenied | budgetExceeded | idempotencyConflict | modelRouteDenied | policyPaused
  | rateCardNotFound | receiptIntegrityError | usageReconciliationError | integrityError | failure
  deriving DecidableEq

/-- An exception: its class and its message. -/
structure TokenError where
  code : ErrorCode
  message : String
  deriving DecidableEq

end TokenSpend

end Archisynapse
