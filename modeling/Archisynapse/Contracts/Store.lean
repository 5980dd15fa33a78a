import Archisynapse.Base.JsonLoads
import Archisynapse.Base.Values
import Archisynapse.Commerce.Store
import Archisynapse.Contracts.Fable

/-!
# Service contracts

`ServiceContractStore` of contracts.py: the table of contracts, the checks of a paid call, the evaluation of a delivery against
its contract, and the checks of an outcome that a validator reports. The evaluations give JSON objects, as they become bodies of
FABLE receipts.

Times are numbers of seconds and scores exact rationals. What `json.loads` raises besides `JSONDecodeError` (a value nested too
deep, an integer too long) is the environment's. Left out are the service templates, which no other operation reads, and the
columns of times.
-/

namespace Archisynapse

namespace Contracts

open Exec (throw gets modify transaction)
open Commerce (CommerceError ErrorCode PaymentReceipt DeliveryStatus)

/-! ## Contracts -/

structure ServiceContract where
  id : String
  serviceId : String
  serviceVersion : String
  tenantId : String
  providerAgentNpub : String
  specialty : String
  endpoint : String
  status : String
  settlementPolicy : String
  maxPriceSats : Int
  responseDeadlineMs : Int
  deliveryDeadlineMs : Int
  availabilityTargetBps : Int
  minQualityScore : ℚ
  maxResponseBytes : Int
  maxRetries : Int
  validatorRequired : Bool
  providerSelfVerifyAllowed : Bool
  refundOnFailedDelivery : Bool
  requiredDeliverables : List String
  requiredEvidence : List String
  expiresAt : Option Int
  version : Int
  deriving DecidableEq

/-- What a request raises: a commerce error, a violation of a contract, a contract that is not there, an answer of a route, or an
exception of another class. -/
inductive Failure where
  | commerce (error : CommerceError)
  | serviceContractViolation (message : String)
  | serviceContractNotFound (message : String)
  | http (statusCode : Nat) (detail : String)
  | exception (text : String)
  deriving DecidableEq

/-- What the evaluations take from outside: how a number is printed and read, the digest of a payment receipt, and what
`json.loads` raises on a text besides `JSONDecodeError`. -/
structure Env where
  printed : String → String
  printFloat : ℚ → String
  receiptSha256 : PaymentReceipt → String
  loadsRaises : String → Option Failure

/-- A JSON integer. -/
def int (n : Int) : Json := .number (toString n)

/-- A JSON array of texts. -/
def texts (items : List String) : Json := .arr (items.map Json.str)

/-! ## Creation -/

def runtimeInitialTimeoutMs : Int := 10000
def runtimeDeliveryTimeoutMs : Int := 90000
def runtimeMaxResponseBytes : Int := 1000000

def settlementPolicies : List String := ["prepaid_l402", "after_verified_delivery", "no_spend"]

/-- The arguments of `create`. The expiry is what `_parse_time` reads, none when it raises. -/
structure CreateArgs where
  serviceId : String
  serviceVersion : String
  tenantId : String
  providerAgentNpub : String
  specialty : String
  endpoint : String
  settlementPolicy : String
  maxPriceSats : Int
  responseDeadlineMs : Int
  deliveryDeadlineMs : Int
  availabilityTargetBps : Int
  minQualityScore : ℚ
  maxResponseBytes : Int
  requiredDeliverables : List String
  requiredEvidence : List String
  maxRetries : Int
  validatorRequired : Bool
  providerSelfVerifyAllowed : Bool
  refundOnFailedDelivery : Bool
  expiresAt : Option (Option Int)

/-- The items of a requirement: stripped, without repetitions, sorted. -/
def requirement (items : List String) : List String :=
  Commerce.sortedSet ((items.map strip).filter (fun item => item != ""))

/-- The contract that `create` inserts. -/
def CreateArgs.contract (args : CreateArgs) (id : String) (expiresAt : Option Int) : ServiceContract :=
  { id
    serviceId := strip args.serviceId
    serviceVersion := strip args.serviceVersion
    tenantId := strip args.tenantId
    providerAgentNpub := strip args.providerAgentNpub
    specialty := strip args.specialty
    endpoint := strip args.endpoint
    status := "active"
    settlementPolicy := args.settlementPolicy
    maxPriceSats := args.maxPriceSats
    responseDeadlineMs := args.responseDeadlineMs
    deliveryDeadlineMs := args.deliveryDeadlineMs
    availabilityTargetBps := args.availabilityTargetBps
    minQualityScore := args.minQualityScore
    maxResponseBytes := args.maxResponseBytes
    maxRetries := args.maxRetries
    validatorRequired := args.validatorRequired
    providerSelfVerifyAllowed := args.providerSelfVerifyAllowed
    refundOnFailedDelivery := args.refundOnFailedDelivery
    requiredDeliverables := requirement args.requiredDeliverables
    requiredEvidence := requirement args.requiredEvidence
    expiresAt
    version := 1 }

/-- An operation on the table. -/
abbrev Operation (α : Type) : Type := Exec (List ServiceContract) Failure α

/-- Raise a violation. -/
def violation {α : Type} (message : String) : Operation α := throw (.serviceContractViolation message)

/-- What the table requires to be unique beside the id. -/
def ServiceContract.name (c : ServiceContract) : String × String × String × String :=
  (c.tenantId, c.serviceId, c.serviceVersion, c.providerAgentNpub)

/-- The insert of a contract. -/
def insert (contract : ServiceContract) : Operation ServiceContract :=
  transaction (do
    let rows ← gets (fun rows => rows)
    if rows.any (fun c => decide (c.id = contract.id)) then
      throw (.exception "UNIQUE constraint failed: service_contracts.id")
    else if rows.any (fun c => decide (c.name = contract.name)) then
      throw (.exception ("UNIQUE constraint failed: service_contracts.tenant_id, service_contracts.service_id, " ++
        "service_contracts.service_version, service_contracts.provider_agent_npub"))
    else do
      modify (fun rows => rows ++ [contract])
      pure contract)

def create (now : Int) (uuid : String) (args : CreateArgs) : Operation ServiceContract :=
  if [args.serviceId, args.serviceVersion, args.tenantId, args.providerAgentNpub, args.specialty, args.endpoint].any
      (fun value => strip value == "") then
    violation "service, tenant, provider, specialty, and endpoint are required"
  else if args.settlementPolicy ∉ settlementPolicies then violation "unsupported settlement policy"
  else if args.maxPriceSats < 0 then violation "max_price_sats cannot be negative"
  else if args.settlementPolicy = "prepaid_l402" ∧ args.maxPriceSats ≤ 0 then
    violation "prepaid L402 contracts require a positive price ceiling"
  else if args.responseDeadlineMs < runtimeInitialTimeoutMs then
    violation "response deadline is below the current execution adapter minimum"
  else if args.deliveryDeadlineMs < runtimeDeliveryTimeoutMs then
    violation "delivery deadline is below the current execution adapter minimum"
  else if args.deliveryDeadlineMs < args.responseDeadlineMs then violation "response deadline cannot exceed delivery deadline"
  else if ¬ (0 ≤ args.availabilityTargetBps ∧ args.availabilityTargetBps ≤ 10000) then
    violation "availability target must be 0-10000 basis points"
  else if ¬ (0 ≤ args.minQualityScore ∧ args.minQualityScore ≤ 1) then violation "minimum quality score must be 0-1"
  else if ¬ (0 < args.maxResponseBytes ∧ args.maxResponseBytes ≤ runtimeMaxResponseBytes) then
    violation "max_response_bytes exceeds the current execution adapter ceiling"
  else if args.maxRetries < 0 then violation "max_retries cannot be negative"
  else if requirement args.requiredDeliverables = [] ∨ requirement args.requiredEvidence = [] then
    violation "deliverables and evidence requirements cannot be empty"
  else if args.validatorRequired ∧ args.providerSelfVerifyAllowed then
    violation "provider self-verification cannot satisfy an independent-validator contract"
  else match args.expiresAt with
    | none => throw (.commerce ⟨.valueError, "Invalid isoformat string"⟩)
    | some expiry =>
      if expiry.any (fun e => decide (e ≤ now)) then violation "contract must expire in the future"
      else insert (args.contract ("svc_" ++ uuid) expiry)

/-! ## The checks of a paid call -/

/-- What a paid call is checked for. -/
structure PaidCall where
  tenantId : String
  agentNpub : String
  specialty : String
  endpoint : String
  quotedSats : Int

/-- The checks of `validate_paid_call` after the one of the expiry. -/
def ServiceContract.checkPaidCall (contract : ServiceContract) (call : PaidCall) : Except Failure Unit :=
  if contract.tenantId ≠ call.tenantId then .error (.serviceContractViolation "tenant is outside the service contract")
  else if contract.providerAgentNpub ≠ call.agentNpub then
    .error (.serviceContractViolation "provider identity does not match the service contract")
  else if contract.specialty ≠ call.specialty then
    .error (.serviceContractViolation "specialty does not match the service contract")
  else if contract.endpoint ≠ call.endpoint then
    .error (.serviceContractViolation "endpoint does not match the service contract")
  else if contract.settlementPolicy ≠ "prepaid_l402" then
    .error (.serviceContractViolation ("this endpoint executes only prepaid_l402 contracts; no-spend and post-verification " ++
      "contracts require their own execution adapter"))
  else if contract.maxPriceSats < call.quotedSats then
    .error (.serviceContractViolation "quoted price exceeds the service contract")
  else .ok ()

/-! ## The evaluation of a delivery -/

/-- The value at a path of names. -/
def valueAt : Json → List String → Option Json
  | value, [] => some value
  | .obj members, name :: path =>
    match Json.member name members with
    | some value => valueAt value path
    | none => none
  | _, _ :: _ => none

/-- `_has_path`: the path leads to a value that is not empty. -/
def hasPath (value : Json) (path : String) : Bool :=
  match valueAt value (path.splitOn ".") with
  | none => false
  | some .null => false
  | some (.str text) => text != ""
  | some (.arr items) => !items.isEmpty
  | some (.obj members) => !members.isEmpty
  | some _ => true

/-- The text of bytes that are UTF-8. -/
def decodeUtf8 (body : List UInt8) : Option String := String.fromUTF8? ⟨body.toArray⟩

/-- `json.loads(body.decode("utf-8"))`: none when it is not valid UTF-8 JSON. -/
def parseBody (env : Env) (body : List UInt8) : Except Failure (Option Json) :=
  match decodeUtf8 body with
  | none => .ok none
  | some text =>
    match env.loadsRaises text with
    | some failure => .error failure
    | none => .ok (Json.loads env.printed text)

/-- The items of a requirement that a delivery does not have; only an object is looked at. -/
def missing (items : List String) : Option Json → List String
  | some (.obj members) => items.filter (fun item => !hasPath (.obj members) item)
  | _ => []

/-- What speaks against a delivery. -/
def ServiceContract.blockers (contract : ServiceContract) (receipt : PaymentReceipt) (body : List UInt8) (parsed : Option Json) :
    List String :=
  (if receipt.delivery.status = .delivered then [] else ["delivery was not successful"]) ++
  (if contract.deliveryDeadlineMs < receipt.delivery.latencyMs then ["delivery exceeded the SLA deadline"] else []) ++
  (if contract.maxResponseBytes < body.length then ["delivery exceeded the contract response-size ceiling"] else []) ++
  (if parsed.isNone then ["delivery is not valid UTF-8 JSON"] else []) ++
  (if missing contract.requiredDeliverables parsed = [] then [] else ["required deliverables are missing"]) ++
  (if missing contract.requiredEvidence parsed = [] then [] else ["required evidence is missing"])

/-- The status of a delivery. -/
def ServiceContract.deliveryStatus (contract : ServiceContract) (blockers : List String) : String :=
  if blockers ≠ [] then "rejected"
  else if contract.validatorRequired then "pending_independent_validation"
  else "accepted"

/-- The evaluation of a delivery whose body is read already. -/
def ServiceContract.evaluation (contract : ServiceContract) (receipt : PaymentReceipt) (body : List UInt8)
    (parsed : Option Json) : List (String × Json) :=
  let blockers := contract.blockers receipt body parsed
  [("contract_id", .str contract.id),
   ("service_id", .str contract.serviceId),
   ("service_version", .str contract.serviceVersion),
   ("status", .str (contract.deliveryStatus blockers)),
   ("technical_delivery_passed", .bool blockers.isEmpty),
   ("validator_required", .bool contract.validatorRequired),
   ("provider_self_verify_allowed", .bool contract.providerSelfVerifyAllowed),
   ("delivery_latency_ms", int receipt.delivery.latencyMs),
   ("delivery_deadline_ms", int contract.deliveryDeadlineMs),
   ("missing_deliverables", texts (missing contract.requiredDeliverables parsed)),
   ("missing_evidence", texts (missing contract.requiredEvidence parsed)),
   ("blockers", texts blockers),
   ("refund_on_failed_delivery", .bool contract.refundOnFailedDelivery),
   ("settlement_policy", .str contract.settlementPolicy),
   ("settlement_note", .str
     (if contract.settlementPolicy = "prepaid_l402" ∧ blockers ≠ [] then
       "payment is already settled; rejection opens the refund/dispute path"
     else "settlement remains governed by the selected contract policy"))]

def evaluateDelivery (env : Env) (contract : ServiceContract) (receipt : PaymentReceipt) (body : List UInt8) :
    Except Failure (List (String × Json)) := do
  let parsed ← parseBody env body
  pure (contract.evaluation receipt body parsed)

/-! ## The outcome of a validator -/

/-- What a dictionary access raises on a value that is no dictionary. -/
def noDictionary : Failure := .exception "object has no attribute 'get'"

/-- Whether a value counts as true; numbers as they are printed. -/
def truthy : Json → Bool
  | .null => false
  | .bool b => b
  | .number text => !(text == "0" || text == "0.0" || text == "-0.0")
  | .str text => text != ""
  | .arr items => !items.isEmpty
  | .obj members => !members.isEmpty

/-- `value.get(...)` on `value or {}`: the members there are. -/
def membersOf : Json → Except Failure (List (String × Json))
  | .obj members => .ok members
  | value => if truthy value then .error noDictionary else .ok []

/-- Whether a member is a text. -/
def memberIs (name text : String) (members : List (String × Json)) : Bool :=
  match Json.member name members with
  | some (.str t) => decide (t = text)
  | _ => false

def ServiceContract.validateReceiptBinding (env : Env) (contract : ServiceContract) (receipt : PaymentReceipt)
    (verdict : Option Fable.FableReceipt) : Except Failure (List (String × Json)) :=
  if receipt.tenantId ≠ contract.tenantId then
    .error (.serviceContractViolation "payment receipt tenant does not match the service contract")
  else if receipt.agentNpub ≠ contract.providerAgentNpub then
    .error (.serviceContractViolation "payment receipt provider does not match the service contract")
  else if receipt.specialty ≠ contract.specialty then
    .error (.serviceContractViolation "payment receipt specialty does not match the service contract")
  else if receipt.endpoint ≠ contract.endpoint then
    .error (.serviceContractViolation "payment receipt endpoint does not match the service contract")
  else match verdict with
    | none => .error (.serviceContractViolation "contracted delivery is missing its FABLE delivery receipt")
    | some verdict =>
      if verdict.key.contractId ≠ some contract.id then
        .error (.serviceContractViolation "FABLE delivery receipt contract does not match")
      else if verdict.paymentReceiptId ≠ some receipt.id then
        .error (.serviceContractViolation "FABLE delivery receipt does not bind this payment receipt")
      else do
        let body ← membersOf verdict.body
        if memberIs "payment_receipt_sha256" (env.receiptSha256 receipt) body = false then
          .error (.serviceContractViolation "FABLE delivery receipt payment hash does not match")
        else match Json.member "sla_evaluation" body with
          | some (.obj evaluation) => .ok evaluation
          | _ => .error (.serviceContractViolation "FABLE delivery receipt is missing its SLA evaluation")

/-- `list(value or [])`, of a value that may be missing. -/
def listOf : Option Json → Except Failure (List Json)
  | none => .ok []
  | some (.arr items) => .ok items
  | some (.obj members) => .ok (members.map (fun m => .str m.1))
  | some (.str text) => .ok (text.toList.map (fun c => .str (String.singleton c)))
  | some value => if truthy value then .error (.exception "object is not iterable") else .ok []

/-- What a validator reports of a delivery. -/
structure Outcome where
  validatorId : String
  success : Bool
  qualityScore : ℚ
  latencyMs : Int
  evidenceSha256 : String

/-- The final verdict on a delivery. -/
def ServiceContract.finalVerdict (env : Env) (contract : ServiceContract) (outcome : Outcome) (blockers : List Json) :
    List (String × Json) :=
  [("contract_id", .str contract.id),
   ("service_id", .str contract.serviceId),
   ("status", .str (if blockers.isEmpty then "accepted" else "rejected")),
   ("validator_id", .str outcome.validatorId),
   ("quality_score", .number (env.printFloat outcome.qualityScore)),
   ("minimum_quality_score", .number (env.printFloat contract.minQualityScore)),
   ("evidence_sha256", .str outcome.evidenceSha256),
   ("blockers", .arr blockers),
   ("refund_recommended", .bool (!blockers.isEmpty && contract.refundOnFailedDelivery))]

def ServiceContract.evaluateValidatorOutcome (env : Env) (contract : ServiceContract) (outcome : Outcome)
    (evaluation : List (String × Json)) : Except Failure (List (String × Json)) := do
  let prior ← listOf (Json.member "blockers" evaluation)
  let blockers := prior ++
    (if outcome.success then [] else [.str "independent validator marked the delivery unsuccessful"]) ++
    (if outcome.qualityScore < contract.minQualityScore then [.str "quality score is below the contract minimum"] else [])
  if contract.providerSelfVerifyAllowed = false ∧ outcome.validatorId = contract.providerAgentNpub then
    .error (.serviceContractViolation "provider cannot independently validate its own delivery")
  else .ok (contract.finalVerdict env outcome blockers)

end Contracts

end Archisynapse
