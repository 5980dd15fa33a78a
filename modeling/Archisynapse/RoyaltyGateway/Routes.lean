import Archisynapse.RoyaltyGateway.Orchestrator

/-!
# The routes of the royalty receipt loop

royalty_routes.py: ingest, release, reversal and the receipt of an id. Release and reversal look for the receipt that was stored
first for the event, and when that has an economic truth they add it to the receipt that was just signed and stored, and store
it again.

The machine runs any number of requests of any tenants at once, between the writes of administrators. What the other services
answer, when, and whether a call goes wrong before it is done or after, is up to the environment; the transaction service is a
parameter.
-/

namespace Archisynapse

namespace RoyaltyGateway

/-! ## Programs -/

/-- The economic truth of a receipt, when it has one. -/
def Receipt.truth (receipt : Receipt) : Option EconomicTruthRef := receipt.body.economicTruth.join

/-- `_record_royalty_truth` -/
def recordRoyaltyTruth (receipt : Receipt) (stage : TruthStage) (reason : Option String) : Program Unit :=
  match receipt.truth.bind (fun truth => truthy (some truth.actionId)) with
  | none => pure ()
  | some _ => step (.recordTruth stage receipt reason)

/-- The events of a receipt that was issued, and of one that is paid. -/
def recordOutcome (receipt : Receipt) : Program Unit := do
  recordRoyaltyTruth receipt .outcome none
  if receipt.body.status = .paid then recordRoyaltyTruth receipt .verify none else pure ()

/-- A route of the loop, which may be disabled. -/
def ifEnabled {α : Type} (env : Env) (route : Program α) : Program α :=
  if env.enabled then route
  else Prog.throw (S := signature) (.rejection 503 "retry_later" "Royalty loop is currently disabled" true)

/-- `POST /api/v1/events` -/
def ingestRoyaltyEvent (env : Env) (req : IngestRequest) : Program Reply := do
  let verified ← verifyAndParse env req
  let reply ← processObligationCreated env verified
  recordOutcome reply.receipt
  pure ⟨reply.receipt, if reply.statusCode = 200 ∨ reply.statusCode = 422 then reply.statusCode else 201⟩

/-- `receipt["economic_truth"] = original["economic_truth"]` -/
def Receipt.decorate (receipt : Receipt) (truth : EconomicTruthRef) : Receipt :=
  { receipt with body := { receipt.body with economicTruth := some (some truth) } }

/-- A route of a tenant, which a header names. -/
def withTenant (tenantId : Option String) (route : String → Program Reply) : Program Reply :=
  match truthy tenantId with
  | none => reject 400 "invalid_schema" "X-Tenant-Id header is required"
  | some tenantId => route tenantId

/-- `POST /api/v1/events/{event_id}/release` -/
def releaseRoyaltyEvent (env : Env) (tenantId eventId : String) : Program Reply := do
  let original ← step (.loadRoyaltyReceiptByEvent eventId)
  let reply ← releaseObligation env tenantId eventId
  match original.bind Receipt.truth with
  | none => pure reply
  | some truth => do
    let receipt := reply.receipt.decorate truth
    step (.saveRoyaltyReceipt receipt)
    recordOutcome receipt
    pure ⟨receipt, reply.statusCode⟩

/-- `POST /api/v1/events/{event_id}/reverse` -/
def reverseRoyaltyEvent (env : Env) (tenantId eventId reversalEventId reversalIdempotencyKey reason : String) :
    Program Reply := do
  let original ← step (.loadRoyaltyReceiptByEvent eventId)
  let reply ← reverseObligation env tenantId eventId reversalEventId reversalIdempotencyKey reason
  match original.bind Receipt.truth with
  | none => pure reply
  | some truth => do
    let receipt := reply.receipt.decorate truth
    step (.saveRoyaltyReceipt receipt)
    recordRoyaltyTruth receipt .reverse (some reason)
    pure ⟨receipt, reply.statusCode⟩

/-- `GET /api/v1/receipts/{receipt_id}` -/
def getRoyaltyReceipt (receiptId : String) : Program Reply := do
  match ← step (.loadRoyaltyReceipt receiptId) with
  | some receipt => pure ⟨receipt, 200⟩
  | none => reject 404 "not_found" "Receipt not found"

/-- A request to the gateway. -/
inductive Call where
  | ingest (req : IngestRequest)
  | release (eventId : String) (tenantId : Option String)
  | reverse (eventId : String) (tenantId : Option String) (reversalEventId reversalIdempotencyKey reason : String)
  | receipt (receiptId : String)

/-- The program of a request. -/
def Call.program (env : Env) : Call → Program Reply
  | .ingest req => ifEnabled env (ingestRoyaltyEvent env req)
  | .release eventId tenantId => ifEnabled env (withTenant tenantId (fun tenantId => releaseRoyaltyEvent env tenantId eventId))
  | .reverse eventId tenantId reversalEventId reversalIdempotencyKey reason =>
    ifEnabled env (withTenant tenantId (fun tenantId =>
      reverseRoyaltyEvent env tenantId eventId reversalEventId reversalIdempotencyKey reason))
  | .receipt receiptId => getRoyaltyReceipt receiptId

/-! ## The machine -/

/-- A transaction service: its state, what is up to the environment, and how it serves a request. -/
structure TransactionService where
  State : Type
  Choice : Type
  serve : ServiceRequest → Choice → State → Except Failure ServiceResponse × State

/-- How a call goes. -/
inductive Fault where
  | none
  | before (message : String)
  | after (message : String)
  deriving DecidableEq

variable (S : TransactionService)

/-- What a call does not take from its arguments: what administrators wrote since the last call, whether it fails, what it draws,
and what others answer. -/
structure Choice where
  writes : List AdminWrite
  fault : Fault
  now : Int
  hex : Hex
  vics : VicsAnswer
  risk : RiskAnswer
  service : S.Choice

/-- The gateway's tables and the transaction service. -/
structure State where
  tables : Tables
  gate : Gate
  service : S.State

variable {S}

/-- The writes of administrators. -/
def State.administer (s : State S) (writes : List AdminWrite) : State S := { s with gate := writes.foldl Gate.write s.gate }

/-- An answer of an operation of the tables. -/
def State.store {α : Type} (s : State S) (r : Except Failure α × Tables) : Except Failure α × State S :=
  (r.1, { s with tables := r.2 })

/-- A write of the tables, or its refusal. -/
def State.write (s : State S) : Except Failure Tables → Except Failure Unit × State S
  | .ok tables => (.ok (), { s with tables })
  | .error e => (.error e, s)

/-- A write of the tables of the gate, or its refusal. -/
def State.record (s : State S) : Except Failure Gate → Except Failure Unit × State S
  | .ok gate => (.ok (), { s with gate })
  | .error e => (.error e, s)

/-- One call that is made and answered. -/
def State.perform (s : State S) (ch : Choice S) : (o : Action) → Except Failure o.Result × State S
  | .apiKeyHash tenantId => (s.gate.apiKeyHash tenantId, s)
  | .getTenantKey tenantId keyId => (s.gate.getTenantKey tenantId keyId, s)
  | .keyRegisteredToAnyTenant keyId => (s.gate.keyRegisteredToAnyTenant keyId, s)
  | .recordRejection correlationId keyId reason => s.record (s.gate.recordRejection correlationId keyId reason)
  | .now => (.ok ch.now, s)
  | .claimIdempotency tenantId key requestHash => s.store (s.tables.claimIdempotency ch.now tenantId key requestHash)
  | .completeIdempotency tenantId key receiptId => s.write (s.tables.completeIdempotency tenantId key receiptId)
  | .failIdempotency tenantId key reason => s.write (.ok (s.tables.failIdempotency tenantId key reason))
  | .saveRoyaltyReceipt receipt => s.write (s.tables.saveRoyaltyReceipt receipt)
  | .loadRoyaltyReceipt receiptId => (.ok (s.tables.loadRoyaltyReceipt receiptId), s)
  | .loadRoyaltyReceiptByEvent eventId => (.ok (s.tables.loadRoyaltyReceiptByEvent eventId), s)
  | .requestVics _ => (.ok ch.vics, s)
  | .assessRisk _ _ => (.ok ch.risk, s)
  | .service req =>
    let (response, service) := S.serve req ch.service s.service
    (response.map (fun response => ⟨response, ch.hex, ch.now⟩), { s with service })
  | .recordTruth _ _ _ => (.ok (), s)

/-- One call. -/
def exec (o : Action) (ch : Choice S) (s : State S) : Option (Except Failure o.Result × State S) :=
  match ch.fault with
  | .none => some ((s.administer ch.writes).perform ch o)
  | .before message => some (.error (.raised message), s.administer ch.writes)
  | .after message => some (.error (.raised message), ((s.administer ch.writes).perform ch o).2)

variable (S)

/-- Any number of requests at once. -/
abbrev machine (env : Env) : Machine where
  sig := signature
  State := State S
  Choice := Choice S
  Call := Call
  Reply := Reply
  program := Call.program env
  exec _ := exec
  crash _ s := s

end RoyaltyGateway

end Archisynapse
