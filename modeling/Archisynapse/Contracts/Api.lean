import Archisynapse.Base.Runs
import Archisynapse.Commerce.Execute
import Archisynapse.Contracts.Store
import Archisynapse.Reputation.Store

/-!
# The agent-commerce service

The routes of api.py that write, as programs over the agent-commerce store, the FABLE receipts, the service contracts and the
reputation: paid calls with and without a contract, recovery, outcomes, authorizations and contracts. A program of the commerce
store or of the FABLE receipts is a part of a route, step by step; reading a contract, the clock, an insert of a contract and
`record_verified_outcome` are one step each.

The text of an authorization's expiry is taken to be a function of its time. A contract's endpoint is as
`validate_public_endpoint` returns it, and `result_utf8` is represented by the bytes it is decoded from.
-/

namespace Archisynapse

namespace AgentApi

open Commerce (CommerceError PaymentReceipt ExecuteArgs Authorization DeliveryEvidence DeliveryStatus)
open Fable (FableReceipt)
open Contracts (ServiceContract Failure int texts)
open Reputation (Summary)

/-! ## Steps -/

inductive Action where
  | commerce (o : Commerce.Action)
  | fable (o : Fable.Action)
  | createContract (args : Contracts.CreateArgs)
  | getContract (contractId : String)
  | clock
  | recordVerifiedOutcome (args : Reputation.OutcomeArgs)

/-- What a step answers; the steps of the two stores may answer with an exception of theirs. -/
abbrev Action.Result : Action → Type
  | .commerce o => Except CommerceError o.Result
  | .fable o => Except CommerceError o.Result
  | .createContract _ => ServiceContract
  | .getContract _ => Option ServiceContract
  | .clock => Int
  | .recordVerifiedOutcome _ => Summary

/-- The steps and their answers. -/
abbrev signature : Signature where
  Op := Action
  Res := Action.Result
  Err := Failure

/-- A program of the service. -/
abbrev Program (α : Type) : Type := Prog signature α

/-- Make a step. -/
def step (o : Action) : Program o.Result := Prog.perform (S := signature) o

/-- Raise an exception. -/
def raise {α : Type} (failure : Failure) : Program α := Prog.throw (S := signature) failure

/-- A value, or the exception that took its place. -/
def ofExcept {α : Type} : Except Failure α → Program α
  | .ok a => pure a
  | .error failure => raise failure

/-- A program of the commerce store. -/
def commerce {α : Type} (p : Commerce.Program α) : Program α :=
  p.translate (T := signature) (fun o => step (.commerce o)) Failure.commerce

/-- A program of the FABLE receipts. -/
def fable {α : Type} (p : Fable.Program α) : Program α := p.translate (T := signature) (fun o => step (.fable o)) Failure.commerce

/-- What the service takes from its configuration and from hashing; `isoTime` is the text of a time. -/
structure Env where
  commerce : Commerce.Env
  sign : Fable.Signer
  contracts : Contracts.Env
  isoTime : Int → String

/-! ## FABLE receipts of the routes -/

/-- `asdict` of a contract -/
def contractJson (env : Env) (contract : ServiceContract) : Json :=
  .obj
    [("id", .str contract.id),
     ("service_id", .str contract.serviceId),
     ("service_version", .str contract.serviceVersion),
     ("tenant_id", .str contract.tenantId),
     ("provider_agent_npub", .str contract.providerAgentNpub),
     ("specialty", .str contract.specialty),
     ("endpoint", .str contract.endpoint),
     ("status", .str contract.status),
     ("settlement_policy", .str contract.settlementPolicy),
     ("max_price_sats", int contract.maxPriceSats),
     ("response_deadline_ms", int contract.responseDeadlineMs),
     ("delivery_deadline_ms", int contract.deliveryDeadlineMs),
     ("availability_target_bps", int contract.availabilityTargetBps),
     ("min_quality_score", .number (env.contracts.printFloat contract.minQualityScore)),
     ("max_response_bytes", int contract.maxResponseBytes),
     ("max_retries", int contract.maxRetries),
     ("validator_required", .bool contract.validatorRequired),
     ("provider_self_verify_allowed", .bool contract.providerSelfVerifyAllowed),
     ("refund_on_failed_delivery", .bool contract.refundOnFailedDelivery),
     ("required_deliverables", texts contract.requiredDeliverables),
     ("required_evidence", texts contract.requiredEvidence),
     ("expires_at", contract.expiresAt.elim .null (fun e => .str (env.isoTime e))),
     ("version", int contract.version)]

/-- What `issue_contract_receipt` issues. -/
def contractArgs (env : Env) (contract : ServiceContract) : Fable.IssueArgs :=
  { key := ⟨"service_contract", some contract.id, s!"contract:{contract.id}:v{contract.version}"⟩
    authorizationId := none
    paymentReceiptId := none
    body := .obj [("contract", contractJson env contract)] }

/-- `_sha256_text` -/
def sha256Text (env : Env) : Option String → Json
  | none => .null
  | some text => .str (env.commerce.sha256 text)

/-- What an execution authorization states. -/
def authorityBody (env : Env) (contract : ServiceContract) (authorization : Authorization) (request : ExecuteArgs) :
    List (String × Json) :=
  [("tenant_id", .str authorization.tenantId),
   ("orchestrator_id", .str authorization.orchestratorId),
   ("agent_npub", .str request.agentNpub),
   ("specialty", .str request.specialty),
   ("endpoint", .str request.endpoint),
   ("quoted_sats", int request.quotedSats),
   ("authorization_version", int authorization.version),
   ("authorization_expires_at", .str (env.isoTime authorization.expiresAt)),
   ("contract_version", int contract.version),
   ("settlement_policy", .str contract.settlementPolicy),
   ("query_sha256", sha256Text env (some request.query)),
   ("context_sha256", sha256Text env request.context)]

/-- What `issue_execution_authorization` issues. -/
def authorityArgs (env : Env) (contract : ServiceContract) (authorization : Authorization) (request : ExecuteArgs) : Fable.IssueArgs :=
  { key := ⟨"execution_authorization", some contract.id, request.orchestrationId⟩
    authorizationId := some authorization.id
    paymentReceiptId := none
    body := .obj (authorityBody env contract authorization request) }

/-- The text of a status. -/
def deliveryText : DeliveryStatus → String
  | .delivered => "delivered"
  | .deliveryFailed => "delivery_failed"
  | .deliveryUnknown => "delivery_unknown"

/-- A text that may be missing. -/
def textOrNull : Option String → Json
  | none => .null
  | some text => .str text

/-- `asdict` of the evidence of a delivery -/
def deliveryJson (delivery : DeliveryEvidence) : Json :=
  .obj
    [("status", .str (deliveryText delivery.status)),
     ("http_status", delivery.httpStatus.elim .null int),
     ("content_type", textOrNull delivery.contentType),
     ("body_sha256", textOrNull delivery.bodySha256),
     ("body_bytes", int delivery.bodyBytes),
     ("latency_ms", int delivery.latencyMs),
     ("error", textOrNull delivery.error)]

/-- What a delivery verdict states. -/
def verdictBody (env : Env) (receipt : PaymentReceipt) (evaluation : List (String × Json)) : List (String × Json) :=
  [("payment_receipt_sha256", .str (env.contracts.receiptSha256 receipt)),
   ("payment_total_debit_sats", int receipt.totalDebitSats),
   ("delivery", deliveryJson receipt.delivery),
   ("sla_evaluation", .obj evaluation)]

/-- What `issue_delivery_verdict` issues. -/
def verdictArgs (env : Env) (contract : ServiceContract) (authorizationId executionId : String) (receipt : PaymentReceipt)
    (evaluation : List (String × Json)) : Fable.IssueArgs :=
  { key := ⟨"delivery_verdict", some contract.id, executionId⟩
    authorizationId := some authorizationId
    paymentReceiptId := some receipt.id
    body := .obj (verdictBody env receipt evaluation) }

/-- What `issue_final_sla_verdict` issues. -/
def finalArgs (contract : ServiceContract) (authorizationId executionId paymentReceiptId : String)
    (result : List (String × Json)) : Fable.IssueArgs :=
  { key := ⟨"final_sla_verdict", some contract.id, executionId⟩
    authorizationId := some authorizationId
    paymentReceiptId := some paymentReceiptId
    body := .obj result }

/-! ## Routes -/

/-- A contracted call: the request of an agent call and its contract. -/
structure ContractedAgentCallRequest extends ExecuteArgs where
  serviceContractId : String

/-- An outcome to record, under a contract or without one. -/
structure OutcomeRequest extends Contracts.Outcome where
  serviceContractId : Option String

/-- The expiry check of `validate_paid_call`. -/
def unexpired : Option Int → Program Unit
  | none => pure ()
  | some expiry => do
    let now : Int ← step .clock
    if expiry ≤ now then raise (.serviceContractViolation "service contract has expired") else pure ()

def validatePaidCall (contractId : String) (call : Contracts.PaidCall) : Program ServiceContract := do
  match ← step (.getContract contractId) with
  | none => raise (.serviceContractNotFound "service contract not found")
  | some contract =>
    if contract.status ≠ "active" then raise (.serviceContractViolation s!"service contract is {contract.status}")
    else do
      unexpired contract.expiresAt
      ofExcept (contract.checkPaidCall call)
      pure contract

/-- What a contracted call has once it is paid for. -/
structure PaidWork where
  contract : ServiceContract
  authority : FableReceipt
  receipt : PaymentReceipt
  body : List UInt8

/-- `execute_contracted_agent_call`, up to the payment. -/
def payContractedCall (env : Env) (request : ContractedAgentCallRequest) : Program PaidWork := do
  match ← commerce (Commerce.step (.getAuthorization request.authorizationId)) with
  | none => raise (.http 404 "authorization not found")
  | some authorization => do
    let contract ← validatePaidCall request.serviceContractId
      { tenantId := authorization.tenantId
        agentNpub := request.agentNpub
        specialty := request.specialty
        endpoint := request.endpoint
        quotedSats := request.quotedSats }
    let authority ← fable (Fable.issue env.sign (authorityArgs env contract authorization request.toExecuteArgs))
    let (receipt, body) ← commerce (Commerce.execute env.commerce request.toExecuteArgs)
    pure ⟨contract, authority, receipt, body⟩

/-- What a contracted call returns. -/
structure ContractedCallReply where
  receipt : PaymentReceipt
  authority : FableReceipt
  delivery : FableReceipt
  sla : List (String × Json)
  body : List UInt8

/-- `execute_contracted_agent_call`, after the payment. -/
def judgeDelivery (env : Env) (request : ContractedAgentCallRequest) (work : PaidWork) : Program ContractedCallReply := do
  let evaluation ← ofExcept (Contracts.evaluateDelivery env.contracts work.contract work.receipt work.body)
  let delivery ← fable (Fable.issue env.sign
    (verdictArgs env work.contract request.authorizationId request.orchestrationId work.receipt evaluation))
  pure
    { receipt := work.receipt
      authority := work.authority
      delivery
      sla := evaluation
      body := work.body }

def executeContractedAgentCall (env : Env) (request : ContractedAgentCallRequest) : Program ContractedCallReply := do
  let work ← payContractedCall env request
  judgeDelivery env request work

/-- The arguments of `record_verified_outcome`. -/
def OutcomeRequest.args (request : OutcomeRequest) (receiptId : String) : Reputation.OutcomeArgs :=
  { receiptId
    validatorId := request.validatorId
    success := request.success
    qualityScore := request.qualityScore
    latencyMs := request.latencyMs
    evidenceSha256 := request.evidenceSha256 }

/-- What recording an outcome returns. -/
inductive OutcomeReply where
  | uncontracted (reputation : Summary)
  | contracted (reputation : Summary) (sla : List (String × Json)) (final : FableReceipt)

def recordOutcome (env : Env) (receiptId : String) (request : OutcomeRequest) : Program OutcomeReply :=
  match Commerce.truthy request.serviceContractId with
  | none => do
    let reputation ← step (.recordVerifiedOutcome (request.args receiptId))
    pure (.uncontracted reputation)
  | some contractId => do
    match ← step (.getContract contractId) with
    | none => raise (.http 404 "service contract not found")
    | some contract => do
      match ← commerce (Commerce.step (.getReceipt receiptId)) with
      | none => raise (.http 404 "payment receipt not found")
      | some receipt => do
        let verdict ← fable (Fable.findDeliveryVerdict env.sign contract.id receiptId)
        let evaluation ← ofExcept (contract.validateReceiptBinding env.contracts receipt verdict)
        let result ← ofExcept (contract.evaluateValidatorOutcome env.contracts request.toOutcome evaluation)
        let reputation ← step (.recordVerifiedOutcome (request.args receiptId))
        let final ← fable (Fable.issue env.sign
          (finalArgs contract receipt.authorizationId receipt.orchestrationId receiptId result))
        pure (.contracted reputation result final)

def createServiceContract (env : Env) (args : Contracts.CreateArgs) : Program (ServiceContract × FableReceipt) := do
  let contract ← step (.createContract args)
  let receipt ← fable (Fable.issue env.sign (contractArgs env contract))
  pure (contract, receipt)

/-! ## The world -/

/-- The stores of the service. -/
structure World where
  commerce : Commerce.World
  fable : Fable.World
  contracts : List ServiceContract
  outcomes : List Reputation.VerifiedOutcome
  agents : List Reputation.AgentReputation

/-- The empty stores. -/
def World.empty : World := ⟨.empty, .empty, [], [], []⟩

/-- The contract with an id. -/
def World.contract (s : World) (id : String) : Option ServiceContract := s.contracts.find? (fun c => decide (c.id = id))

/-- The reputation tables and the receipts they are about. -/
def World.reputation (s : World) : Reputation.State := ⟨⟨s.commerce.store, []⟩, s.outcomes, s.agents⟩

/-- What the environment chooses at a step: what it chooses for the commerce store (whose failure, time and fresh id are those of
the contracts too), for the FABLE receipts, and which statements of `record_verified_outcome` raise. -/
structure Choice where
  commerce : Commerce.Choice
  fable : Fable.Choice
  raises : Reputation.Statement → Option CommerceError

/-- A step of the service's own fails, or comes to an outcome. -/
def Choice.orFail {α : Type} (ch : Choice) (s : World) (outcome : Except Failure α × World) : Except Failure α × World :=
  match ch.commerce.fails with
  | some e => (.error (.commerce e), s)
  | none => outcome

/-- One step of worker `w`. -/
def exec (env : Env) (w : Nat) : (o : Action) → Choice → World → Option (Except Failure o.Result × World)
  | .commerce o, ch, s =>
    (Commerce.exec env.commerce w o ch.commerce s.commerce).map (fun r => (.ok r.1, { s with commerce := r.2 }))
  | .fable o, ch, s => (Fable.exec env.sign w o ch.fable s.fable).map (fun r => (.ok r.1, { s with fable := r.2 }))
  | .createContract args, ch, s =>
    some (ch.orFail s (match Contracts.create ch.commerce.now ch.commerce.uuid args s.contracts with
      | (r, contracts) => (r, { s with contracts })))
  | .getContract contractId, ch, s => some (ch.orFail s (.ok (s.contract contractId), s))
  | .clock, ch, s => some (ch.orFail s (.ok ch.commerce.now, s))
  | .recordVerifiedOutcome args, ch, s =>
    some (match Reputation.recordVerifiedOutcome ⟨env.commerce.verifies, ch.raises⟩ args s.reputation with
      | (r, t) => (r.mapError .commerce, { s with outcomes := t.outcomes, agents := t.agents }))

/-! ## Requests -/

/-- The requests that write. -/
inductive Request where
  | createAuthorization (args : Commerce.CreateArgs)
  | revokeAuthorization (authorizationId : String)
  | createServiceContract (args : Contracts.CreateArgs)
  | executeAgentCall (request : ExecuteArgs)
  | executeContractedAgentCall (request : ContractedAgentCallRequest)
  | reconcileReservation (reservationId : String)
  | recordOutcome (receiptId : String) (request : OutcomeRequest)

/-- What a request is answered with. -/
inductive Reply where
  | commerce (reply : Commerce.Reply)
  | serviceContract (contract : ServiceContract) (receipt : FableReceipt)
  | contractedCall (reply : ContractedCallReply)
  | outcome (reply : OutcomeReply)

/-- A call of the commerce service as it stands. -/
def commerceCall (env : Env) (call : Commerce.Call) : Program Reply := do
  let reply ← commerce (call.program env.commerce)
  pure (.commerce reply)

/-- The program of a request. -/
def Request.program (env : Env) : Request → Program Reply
  | .createAuthorization args => commerceCall env (.create args)
  | .revokeAuthorization authorizationId => commerceCall env (.revoke authorizationId)
  | .createServiceContract args => do
    let (contract, receipt) ← AgentApi.createServiceContract env args
    pure (.serviceContract contract receipt)
  | .executeAgentCall request => commerceCall env (.execute request)
  | .executeContractedAgentCall request => do
    let reply ← AgentApi.executeContractedAgentCall env request
    pure (.contractedCall reply)
  | .reconcileReservation reservationId => commerceCall env (.reconcile reservationId)
  | .recordOutcome receiptId request => do
    let reply ← AgentApi.recordOutcome env receiptId request
    pure (.outcome reply)

/-- The service: any number of requests, their steps interleaved. A crash ends what a worker was about. -/
abbrev machine (env : Env) : Machine where
  sig := signature
  State := World
  Choice := Choice
  Call := Request
  Reply := Reply
  program := Request.program env
  exec := exec env
  crash w s := { s with commerce := s.commerce.dismiss w, fable := s.fable.settle w }

end AgentApi

end Archisynapse
