import Archisynapse.Audit.Storage

/-!
# The operations that write the store

Every operation of the service that writes: each is one transaction, which appends at most one event. Of the other tables an
operation's body has the statements in their order, the conditions on the columns it reads, and what it raises; conditions on
times, floating point and digests, and what it computes by them, are computed values that the environment chooses. What an
operation returns, and what it refuses before its transaction, is left out.
-/

namespace Archisynapse

namespace Audit

/-! ## Bodies -/

/-- Ask, in a body. -/
def ask (q : Query) : Body q.Result := .ask q .pure

/-- Raise an exception, in a body. -/
def raise {α : Type} (code : FaultCode) (message : String) : Body α := .raise ⟨code, message⟩

/-- A condition under which the body raises. -/
def refuse (refused : Bool) (code : FaultCode) (message : String) : Body Unit :=
  if refused then raise code message else pure ()

/-- A condition of the environment's, under which the body raises. -/
def refuseComputed (code : FaultCode) (message : String) : Body Unit := do
  refuse (decide ((← ask .compute) = .integer 1)) code message

/-- `conn.execute("SELECT …").fetchone()` -/
def fetchone (table : Table) : Body (Option Row) := ask (.fetchone table)

/-- `conn.execute("INSERT …")`, `conn.execute("UPDATE …")` -/
def execute (table : Table) : Body Unit := ask (.execute table)

/-- `append_audit_event` with a fresh id. -/
def append (aggregateType aggregateId eventType : String) (payload : List (String × Json)) : Body Unit := do
  let uuid ← ask .uuid
  ask (.append (eventId uuid) aggregateType aggregateId eventType (.obj payload))

/-- A fresh id after a prefix. -/
def freshId (kind : String) : Body String := do
  let uuid ← ask .uuid
  pure (kind ++ uuid.1)

/-- A whole number of a column. -/
def Value.int : Value → Int
  | .integer n => n
  | _ => 0

/-- A value of a column, as it stands in a payload. -/
def Value.json : Value → Json
  | .null => .null
  | .integer n => .number (toString n)
  | .real digits => .number digits
  | .text chars => .str chars

/-- A value of a column, as it stands in a message. -/
def Value.shown : Value → String
  | .null => "None"
  | .integer n => toString n
  | .real digits => digits
  | .text chars => chars

/-- A whole number, as it stands in a payload. -/
def number (n : Int) : Json := .number (toString n)

/-- Texts, as they stand in a payload. -/
def texts (items : List String) : Json := .arr (items.map .str)

/-- A text or none, as it stands in a payload. -/
def textOrNull : Option String → Json
  | none => .null
  | some text => .str text

/-! ## Authorizations and reservations -/

/-- `AuthorizationStore.create` -/
structure CreateArgs where
  tenantId : String
  orchestratorId : String
  maxTotalSats : Int
  maxPerCallSats : Int
  maxCalls : Int
  expiresAt : String
  maxRouteFeeSats : Int
  allowedAgentNpubs : List String
  allowedSpecialties : List String
  authorizationId : Option String

def createAuthorization (args : CreateArgs) : Body Unit := do
  let authId ← match args.authorizationId with
    | some id => pure id
    | none => freshId "auth_"
  execute .authorizations
  append "authorization" authId "authorization.created"
    [("tenant_id", .str args.tenantId), ("orchestrator_id", .str args.orchestratorId),
      ("max_total_sats", number args.maxTotalSats), ("max_per_call_sats", number args.maxPerCallSats),
      ("max_route_fee_sats", number args.maxRouteFeeSats), ("max_calls", number args.maxCalls),
      ("allowed_agent_npubs", texts args.allowedAgentNpubs), ("allowed_specialties", texts args.allowedSpecialties),
      ("expires_at", .str args.expiresAt)]
  let _ ← fetchone .authorizations

def revoke (authorizationId reason : String) : Body Unit := do
  match ← fetchone .authorizations with
  | none => raise .authorizationDenied "authorization not found"
  | some row =>
    if row "status" = .text "revoked" then pure ()
    else
      execute .authorizations
      append "authorization" authorizationId "authorization.revoked" [("reason", .str reason)]
      let _ ← fetchone .authorizations

/-- `AuthorizationStore.reserve` -/
structure ReserveArgs where
  authorizationId : String
  idempotencyKey : String
  orchestrationId : String
  agentNpub : String
  specialty : String
  quotedSats : Int

def reserve (args : ReserveArgs) : Body Unit := do
  match ← fetchone .reservations with
  | some existing =>
    refuse (decide ((existing "agent_npub", existing "specialty", existing "quoted_sats", existing "orchestration_id") ≠
        (Value.text args.agentNpub, Value.text args.specialty, Value.integer args.quotedSats, Value.text args.orchestrationId)))
      .idempotencyConflict "idempotency key already used with different call details"
  | none =>
    match ← fetchone .authorizations with
    | none => raise .authorizationDenied "authorization not found"
    | some row =>
      refuse (decide (row "status" = .text "revoked")) .authorizationRevoked "authorization has been revoked"
      refuse (decide (row "status" ≠ .text "active")) .authorizationDenied ("authorization is " ++ (row "status").shown)
      if (← ask .compute) = .integer 1 then
        execute .authorizations
        raise .authorizationExpired "authorization has expired"
      else
        refuseComputed .authorizationDenied "agent is outside authorization scope"
        refuseComputed .authorizationDenied "specialty is outside authorization scope"
        refuse (decide (args.quotedSats > (row "max_per_call_sats").int)) .budgetExceeded "quoted price exceeds per-call ceiling"
        let openCount ← ask .compute
        refuse (decide ((row "call_count").int + openCount.int ≥ (row "max_calls").int)) .budgetExceeded
          "authorization call limit reached"
        let invoiceCeiling ← ask .compute
        let reservedSats := invoiceCeiling.int + (row "max_route_fee_sats").int
        refuse (decide (reservedSats > (row "max_per_call_sats").int + (row "max_route_fee_sats").int)) .budgetExceeded
          "reserved amount exceeds per-call ceiling"
        refuse (decide (reservedSats >
            (row "max_total_sats").int - (row "spent_sats").int - (row "reserved_sats").int)) .budgetExceeded
          "authorization total budget would be exceeded"
        let reservationId ← freshId "rsv_"
        execute .reservations
        execute .authorizations
        append "reservation" reservationId "budget.reserved"
          [("authorization_id", .str args.authorizationId), ("quoted_sats", number args.quotedSats),
            ("reserved_sats", number reservedSats), ("agent_npub", .str args.agentNpub), ("specialty", .str args.specialty),
            ("idempotency_key", .str args.idempotencyKey)]
        let _ ← fetchone .reservations

def bindInvoice (reservationId : String) (invoiceSats : Int) (paymentHash : String) : Body Unit := do
  match ← fetchone .reservations with
  | none => raise .authorizationDenied "reservation not found"
  | some row =>
    refuse (decide (row "status" ≠ .text "reserved" ∧ row "status" ≠ .text "invoice_bound")) .authorizationDenied
      ("cannot bind invoice while reservation is " ++ (row "status").shown)
    refuse (decide (invoiceSats > (row "reserved_sats").int)) .budgetExceeded "invoice exceeds reserved budget"
    refuse (decide (row "payment_hash" ≠ .null ∧ row "payment_hash" ≠ .text "" ∧ row "payment_hash" ≠ .text paymentHash))
      .idempotencyConflict "reservation already bound to a different invoice"
    execute .reservations
    append "reservation" reservationId "invoice.bound"
      [("invoice_sats", number invoiceSats), ("payment_hash", .str paymentHash)]
    let _ ← fetchone .reservations

def markPaymentInitiated (reservationId : String) : Body Unit := do
  match ← fetchone .reservations with
  | none => raise .authorizationDenied "payment can only start from invoice_bound"
  | some row =>
    refuse (decide (row "status" ≠ .text "invoice_bound")) .authorizationDenied "payment can only start from invoice_bound"
    execute .reservations
    append "reservation" reservationId "payment.initiated" [("payment_hash", (row "payment_hash").json)]
    let _ ← fetchone .reservations

def markPaid (reservationId provider providerPaymentId : String) (routeFeeSats : Int) (preimageHash : String) : Body Unit := do
  match ← fetchone .reservations with
  | none => raise .authorizationDenied "reservation not found"
  | some row =>
    if row "status" = .text "paid" then
      refuse (decide (row "provider" ≠ .text provider ∨ row "provider_payment_id" ≠ .text providerPaymentId ∨
          row "preimage_hash" ≠ .text preimageHash ∨ row "route_fee_sats" ≠ .integer routeFeeSats)) .idempotencyConflict
        "settlement evidence conflicts with prior payment"
    else
      refuse (decide (row "status" ≠ .text "payment_initiated")) .authorizationDenied
        "reservation is not awaiting payment settlement"
      let totalDebit := (row "invoice_sats").int + routeFeeSats
      refuse (decide (totalDebit > (row "reserved_sats").int)) .budgetExceeded
        "settled amount plus fees exceeds reserved budget"
      execute .reservations
      append "reservation" reservationId "payment.settled"
        [("provider", .str provider), ("provider_payment_id", .str providerPaymentId), ("route_fee_sats", number routeFeeSats),
          ("preimage_hash", .str preimageHash), ("total_debit_sats", number totalDebit)]
      let _ ← fetchone .reservations

def release (reservationId failureCode failureMessage : String) : Body Unit := do
  match ← fetchone .reservations with
  | none => raise .authorizationDenied "reservation not found"
  | some row =>
    if row "status" = .text "released" ∨ row "status" = .text "finalized" then pure ()
    else
      refuse (decide (row "status" = .text "paid")) .authorizationDenied
        "paid reservations cannot be released; finalize a receipt instead"
      execute .authorizations
      execute .reservations
      append "reservation" reservationId "budget.released"
        [("failure_code", .str failureCode), ("failure_message", .str (String.ofList (failureMessage.toList.take 500)))]
      let _ ← fetchone .reservations

/-! ## Receipts, reputation, contracts and FABLE receipts -/

/-- What `finalize_paid_call` has made before its transaction. -/
structure FinalizeArgs where
  receiptId : String
  reservationId : String
  authorizationId : String
  receiptSha256 : String
  totalDebit : Int
  deliveryStatus : String

def finalizePaidCall (args : FinalizeArgs) : Body Unit := do
  match ← fetchone .receipts with
  | some _ => refuseComputed .receiptIntegrityError "stored receipt failed signature verification"
  | none =>
    match ← fetchone .reservations with
    | none => raise .idempotencyConflict "reservation state changed before receipt finalization"
    | some row =>
      refuse (decide (row "status" ≠ .text "paid")) .idempotencyConflict
        "reservation state changed before receipt finalization"
      refuse (decide (args.totalDebit > (row "reserved_sats").int)) .authorizationDenied "final debit exceeds reservation"
      match ← fetchone .authorizations with
      | none => raise .authorizationDenied "authorization disappeared"
      | some auth =>
        refuse (decide ((auth "spent_sats").int + args.totalDebit > (auth "max_total_sats").int)) .authorizationDenied
          "final debit would exceed authorization total"
        execute .receipts
        execute .authorizations
        execute .reservations
        append "receipt" args.receiptId "receipt.finalized"
          [("reservation_id", .str args.reservationId), ("authorization_id", .str args.authorizationId),
            ("receipt_sha256", .str args.receiptSha256), ("total_debit_sats", number args.totalDebit),
            ("delivery_status", .str args.deliveryStatus)]

/-- The arguments of `record_verified_outcome`, and the agent of the receipt it has read. -/
structure OutcomeArgs where
  receiptId : String
  agentNpub : String
  validatorId : String
  success : Bool
  qualityScore : Value
  latencyMs : Int
  evidenceSha256 : String

def recordVerifiedOutcome (args : OutcomeArgs) : Body Unit := do
  match ← fetchone .reputationOutcomes with
  | some existing =>
    refuse (decide (existing "validator_id" ≠ .text args.validatorId ∨
        decide ((existing "success").int ≠ 0) ≠ args.success ∨ existing "quality_score" ≠ args.qualityScore ∨
        existing "latency_ms" ≠ .integer args.latencyMs ∨ existing "evidence_sha256" ≠ .text args.evidenceSha256))
      .idempotencyConflict "receipt already has a different verified outcome"
  | none =>
    execute .reputationOutcomes
    let _ ← fetchone .agentReputation
    let score ← ask .compute
    execute .agentReputation
    append "agent_reputation" args.agentNpub "reputation.outcome_verified"
      [("receipt_id", .str args.receiptId), ("validator_id", .str args.validatorId), ("success", .bool args.success),
        ("quality_score", args.qualityScore.json), ("latency_ms", number args.latencyMs),
        ("evidence_sha256", .str args.evidenceSha256), ("score", score.json)]

/-- What `ServiceContractStore.create` has checked before its transaction, as far as the event holds it. -/
structure ContractArgs where
  contractId : Option String
  serviceId : String
  serviceVersion : String
  tenantId : String
  providerAgentNpub : String
  specialty : String
  settlementPolicy : String
  maxPriceSats : Int
  responseDeadlineMs : Int
  deliveryDeadlineMs : Int
  validatorRequired : Bool
  expiresAt : Option String

def createContract (args : ContractArgs) : Body Unit := do
  let itemId ← match args.contractId with
    | some id => pure id
    | none => freshId "svc_"
  execute .serviceContracts
  append "service_contract" itemId "service_contract.created"
    [("service_id", .str args.serviceId), ("service_version", .str args.serviceVersion), ("tenant_id", .str args.tenantId),
      ("provider_agent_npub", .str args.providerAgentNpub), ("specialty", .str args.specialty),
      ("settlement_policy", .str args.settlementPolicy), ("max_price_sats", number args.maxPriceSats),
      ("response_deadline_ms", number args.responseDeadlineMs), ("delivery_deadline_ms", number args.deliveryDeadlineMs),
      ("validator_required", .bool args.validatorRequired), ("expires_at", textOrNull args.expiresAt)]
  let _ ← fetchone .serviceContracts

/-- The arguments of `FableReceiptStore.issue`, and the id and the digest it has made before its transaction. -/
structure FableArgs where
  receiptId : String
  receiptType : String
  contractId : Option String
  authorizationId : Option String
  executionId : String
  paymentReceiptId : Option String
  digest : String

def issue (args : FableArgs) : Body Unit := do
  execute .fableReceipts
  append "fable_receipt" args.receiptId ("fable." ++ args.receiptType)
    [("contract_id", textOrNull args.contractId), ("authorization_id", textOrNull args.authorizationId),
      ("execution_id", .str args.executionId), ("payment_receipt_id", textOrNull args.paymentReceiptId),
      ("receipt_sha256", .str args.digest)]

/-! ## Token spend -/

/-- A provider and a model. -/
structure Route where
  provider : String
  model : String
  deriving DecidableEq

/-- A route, as it stands in a payload. -/
def Route.json (route : Route) : Json := .obj [("provider", .str route.provider), ("model", .str route.model)]

/-- What `create_policy` has made of its arguments before its transaction, as far as the event holds it. -/
structure PolicyArgs where
  policyId : String
  tenantId : String
  scopeType : String
  scopeId : String
  budgetMicrousd : Int
  allowed : List Route

def createPolicy (args : PolicyArgs) : Body Unit := do
  execute .aiSpendPolicies
  append "ai_spend_policy" args.policyId "ai_spend_policy.created"
    [("tenant_id", .str args.tenantId), ("scope_type", .str args.scopeType), ("scope_id", .str args.scopeId),
      ("budget_microusd", number args.budgetMicrousd), ("allowed_routes", .arr (args.allowed.map Route.json))]

/-- `emergency_stop`, of a reason without its blanks -/
def emergencyStop (policyId reason : String) : Body Unit := do
  match ← fetchone .aiSpendPolicies with
  | none => raise .authorizationDenied "AI spend policy not found"
  | some _ =>
    execute .aiSpendPolicies
    execute .aiSpendAlerts
    append "ai_spend_policy" policyId "ai_spend_policy.paused" [("reason", .str reason)]

/-- `create_rate_card`, of arguments without their blanks -/
def createRateCard (rateId provider model effective sourceReference : String) : Body Unit := do
  execute .aiRateCards
  append "ai_rate_card" rateId "ai_rate_card.created"
    [("provider", .str provider), ("model", .str model), ("effective_at", .str effective),
      ("source_reference", .str sourceReference)]

/-- The arguments of `preflight` that its conditions and its event read, and the fingerprint of the request. -/
structure PreflightArgs where
  policyId : String
  requested : Route
  estimatedInputTokens : Int
  estimatedOutputTokens : Int
  fingerprint : String

/-- The first of some routes that is allowed, has a rate and fits: the environment says which are allowed and what they cost. -/
def selectRoute (perCall available : Int) : List Route → Bool → Bool → Body (Route × Int)
  | [], false, _ => raise .modelRouteDenied "requested model and configured fallbacks are not allowed"
  | [], true, false => raise .rateCardNotFound "no active rate card exists for any permitted route"
  | [], true, true => raise .budgetExceeded "no permitted model route fits the per-call and remaining budget"
  | route :: routes, sawAllowed, sawRate => do
    if (← ask .compute) = .integer 0 then selectRoute perCall available routes sawAllowed sawRate
    else
      match ← fetchone .aiRateCards with
      | none => selectRoute perCall available routes true sawRate
      | some _ =>
        let cost ← ask .compute
        if cost.int ≤ perCall ∧ cost.int ≤ available then pure (route, cost.int)
        else selectRoute perCall available routes true true

/-- `_validate_policy_for_preflight` -/
def validatePolicyForPreflight (policy : Row) : Body Unit := do
  refuse (decide (policy "status" = .text "paused")) .policyPaused (match policy "stop_reason" with
    | .null => "AI spend policy is paused"
    | .text "" => "AI spend policy is paused"
    | reason => reason.shown)
  refuse (decide (policy "status" ≠ .text "active")) .authorizationDenied ("AI spend policy is " ++ (policy "status").shown)
  refuseComputed .authorizationDenied "AI spend policy is outside its active period"
  refuse (decide ((policy "spent_microusd").int ≥ (policy "budget_microusd").int)) .budgetExceeded
    "AI spend policy budget is exhausted"

/-- `preflight`, with the fallback routes of the policy -/
def preflight (args : PreflightArgs) (fallback : List Route) : Body Unit := do
  match ← fetchone .aiSpendReservations with
  | some existing =>
    refuse (decide (existing "request_fingerprint" ≠ .text args.fingerprint)) .idempotencyConflict
      "idempotency key was already used for a different AI request"
  | none =>
    match ← fetchone .aiSpendPolicies with
    | none => raise .authorizationDenied "AI spend policy not found"
    | some policy =>
      validatePolicyForPreflight policy
      refuse (decide (args.estimatedInputTokens > (policy "max_input_tokens").int)) .authorizationDenied
        "estimated input tokens exceed policy maximum"
      refuse (decide (args.estimatedOutputTokens > (policy "max_output_tokens").int)) .authorizationDenied
        "estimated output tokens exceed policy maximum"
      refuseComputed .valueError "estimated token counts cannot be negative"
      let recent ← ask .compute
      if recent.int ≥ (policy "max_calls_per_minute").int then
        execute .aiSpendPolicies
        execute .aiSpendAlerts
        raise .policyPaused "AI spend policy paused after runaway call-rate detection"
      else
        let candidates := args.requested :: fallback.filter (fun r => !decide (r = args.requested))
        let available := (policy "budget_microusd").int - (policy "spent_microusd").int - (policy "reserved_microusd").int
        let (route, cost) ← selectRoute (policy "max_per_call_microusd").int available candidates false false
        let reservationId ← freshId "aires_"
        execute .aiSpendReservations
        execute .aiSpendPolicies
        append "ai_spend_reservation" reservationId "ai_spend.preflight_allowed"
          [("policy_id", .str args.policyId), ("requested_route", args.requested.json), ("selected_route", route.json),
            ("estimated_cost_microusd", number cost), ("fallback_used", .bool (!decide (route = args.requested)))]
        let _ ← fetchone .aiSpendReservations

/-- The arguments of `finalize_usage` that its conditions read. -/
structure UsageArgs where
  reservationId : String
  actualInputTokens : Int
  actualOutputTokens : Int

/-- A reason of those given, if it holds. -/
def reasonIf (holds : Bool) (reason : String) : List String := if holds then [reason] else []

def finalizeUsage (args : UsageArgs) : Body Unit := do
  match ← fetchone .aiSpendReservations with
  | none => raise .authorizationDenied "AI spend reservation not found"
  | some reservation =>
    if reservation "status" = .text "finalized" then
      match ← fetchone .aiUsageReceipts with
      | none => raise .authorizationDenied "AI usage receipt not found"
      | some _ => refuseComputed .receiptIntegrityError "AI usage receipt signature verification failed"
    else
      refuse (decide (reservation "status" ≠ .text "reserved")) .idempotencyConflict
        ("reservation cannot be finalized from " ++ (reservation "status").shown)
      match ← fetchone .aiSpendPolicies, ← fetchone .aiRateCards with
      | some policy, some _ =>
        let actualCost ← ask .compute
        let costOver ← ask .compute
        let tokensOver ← ask .compute
        let anomalyReasons := reasonIf (decide (costOver = .integer 1)) "cost_over_estimate" ++
          reasonIf (decide (tokensOver = .integer 1)) "tokens_over_estimate" ++
          reasonIf (decide (args.actualInputTokens > (policy "max_input_tokens").int)) "input_limit_exceeded" ++
          reasonIf (decide (args.actualOutputTokens > (policy "max_output_tokens").int)) "output_limit_exceeded"
        let receiptId ← freshId "aircpt_"
        let digest ← ask .compute
        execute .aiUsageReceipts
        execute .aiSpendReservations
        execute .aiSpendPolicies
        if anomalyReasons ≠ [] ∨ (policy "spent_microusd").int + actualCost.int > (policy "budget_microusd").int then
          execute .aiSpendPolicies
          execute .aiSpendAlerts
        append "ai_usage_receipt" receiptId "ai_usage.finalized"
          [("policy_id", (policy "id").json), ("reservation_id", .str args.reservationId),
            ("actual_cost_microusd", number actualCost.int), ("receipt_sha256", digest.json),
            ("anomaly_reasons", texts anomalyReasons)]
      | _, _ => raise .authorizationDenied "policy or rate evidence disappeared"

/-- What `reconcile_provider_event` has made of its arguments before its transaction. -/
structure ReconcileArgs where
  providerRequestId : Option String
  costMicrousd : Int
  payloadHash : String

def reconcileProviderEvent (args : ReconcileArgs) : Body Unit := do
  match ← fetchone .aiProviderUsageEvents with
  | some existing =>
    refuse (decide (existing "payload_sha256" ≠ .text args.payloadHash)) .idempotencyConflict
      "provider event ID was replayed with different usage data"
  | none =>
    let found ← match args.providerRequestId with
      | none => pure none
      | some "" => pure none
      | some _ => fetchone .aiSpendReservations
    let eventId ← freshId "aipevt_"
    match found with
    | none =>
      execute .aiProviderUsageEvents
      execute .aiSpendAlerts
      let _ ← fetchone .aiProviderUsageEvents
    | some reservation =>
      refuse (decide (reservation "actual_cost_microusd" = .null)) .usageReconciliationError
        "provider event arrived before internal usage was finalized"
      let expected := (reservation "actual_cost_microusd").int
      let tolerance ← ask .compute
      let difference : Int := (args.costMicrousd - expected).natAbs
      let status := if difference ≤ tolerance.int then "confirmed" else "disputed"
      execute .aiProviderUsageEvents
      execute .aiSpendReservations
      if status = "disputed" then
        execute .aiSpendPolicies
        execute .aiSpendAlerts
      append "ai_provider_usage_event" eventId ("ai_usage.reconciliation_" ++ status)
        [("reservation_id", (reservation "id").json), ("internal_cost_microusd", number expected),
          ("provider_cost_microusd", number args.costMicrousd), ("difference_microusd", number difference)]
      let _ ← fetchone .aiProviderUsageEvents

/-! ## The service -/

/-- An operation that writes the store. -/
inductive Operation where
  | createAuthorization (args : CreateArgs)
  | revoke (authorizationId reason : String)
  | reserve (args : ReserveArgs)
  | bindInvoice (reservationId : String) (invoiceSats : Int) (paymentHash : String)
  | markPaymentInitiated (reservationId : String)
  | markPaid (reservationId provider providerPaymentId : String) (routeFeeSats : Int) (preimageHash : String)
  | release (reservationId failureCode failureMessage : String)
  | finalizePaidCall (args : FinalizeArgs)
  | recordVerifiedOutcome (args : OutcomeArgs)
  | createContract (args : ContractArgs)
  | issue (args : FableArgs)
  | createPolicy (args : PolicyArgs)
  | emergencyStop (policyId reason : String)
  | createRateCard (rateId provider model effective sourceReference : String)
  | preflight (args : PreflightArgs) (fallback : List Route)
  | finalizeUsage (args : UsageArgs)
  | reconcileProviderEvent (args : ReconcileArgs)

/-- The body of an operation's transaction. -/
def Operation.body : Operation → Body Unit
  | .createAuthorization args => Audit.createAuthorization args
  | .revoke authorizationId reason => Audit.revoke authorizationId reason
  | .reserve args => Audit.reserve args
  | .bindInvoice reservationId invoiceSats paymentHash => Audit.bindInvoice reservationId invoiceSats paymentHash
  | .markPaymentInitiated reservationId => Audit.markPaymentInitiated reservationId
  | .markPaid reservationId provider providerPaymentId routeFeeSats preimageHash =>
    Audit.markPaid reservationId provider providerPaymentId routeFeeSats preimageHash
  | .release reservationId failureCode failureMessage => Audit.release reservationId failureCode failureMessage
  | .finalizePaidCall args => Audit.finalizePaidCall args
  | .recordVerifiedOutcome args => Audit.recordVerifiedOutcome args
  | .createContract args => Audit.createContract args
  | .issue args => Audit.issue args
  | .createPolicy args => Audit.createPolicy args
  | .emergencyStop policyId reason => Audit.emergencyStop policyId reason
  | .createRateCard rateId provider model effective sourceReference =>
    Audit.createRateCard rateId provider model effective sourceReference
  | .preflight args fallback => Audit.preflight args fallback
  | .finalizeUsage args => Audit.finalizeUsage args
  | .reconcileProviderEvent args => Audit.reconcileProviderEvent args

/-- Any number of operations on one database file, their statements interleaved. A crash ends a connection. -/
abbrev machine (sha256 : Sha256) : Machine where
  sig := signature
  State := State
  Choice := Choice
  Call := Operation
  Reply := Unit
  program op := transaction sha256 op.body
  exec := exec
  crash w s := s.drop w

end Audit

end Archisynapse
