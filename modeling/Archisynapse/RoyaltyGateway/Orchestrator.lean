import Archisynapse.RoyaltyGateway.MoneyMath
import Archisynapse.RoyaltyGateway.Verification

/-!
# Ingest, release and reversal

royalty_orchestrator.py after the verification of a request, as programs over their calls, with the client of
royalty_transaction_client.py.
-/

namespace Archisynapse

namespace RoyaltyGateway

open Royalty (RoyaltyObligation)

/-! ## Receipts -/

/-- The text of a number of ten-thousandths with four decimals. -/
def ledgerText (n : Int) : String :=
  let rest := toString (n.natAbs % 10000)
  (if n < 0 then "-" else "") ++ toString (n.natAbs / 10000) ++ "." ++ String.ofList (List.replicate (4 - rest.length) '0') ++ rest

/-- `model_dump` of the economic truth of an event. -/
def EconomicTruthRef.json (e : EconomicTruthRef) : Json :=
  .obj
    [("contract_version", .str e.contractVersion), ("action_id", .str e.actionId),
     ("authorization_receipt_id", .str e.authorizationReceiptId),
     ("intent_token_id", (e.intentTokenId.map Json.str).getD .null), ("authorized_by", .str e.authorizedBy)]

/-- The dictionary of a receipt, without its signature. -/
def ReceiptBody.json (env : Env) (b : ReceiptBody) : Json :=
  .obj
    ([("schema_version", .str "1.0"), ("receipt_id", .str b.receiptId), ("status", .str b.status.text),
      ("status_reasons", b.statusReasons), ("event_id", .str b.eventId),
      ("correlation_id", .str b.correlationId), ("tenant_id", .str b.tenantId), ("transaction_id", .str (toString b.transactionId)),
      ("ledger_transaction_id", (b.ledgerTransactionId.map (fun id => Json.str (toString id))).getD .null),
      ("amounts", .obj
        [("currency", .str b.currency), ("gross", .str (ledgerText b.net)), ("platform_fee", .str "0.0000"),
         ("net", .str (ledgerText b.net))]),
      ("payouts", .arr (b.payouts.map (fun p =>
        .obj [("owner_id", .str p.ownerId), ("amount", .str (ledgerText p.amount)), ("state", .str p.state)]))),
      ("decision", .obj
        [("policy", .str b.policy), ("risk_score", .number (env.number b.riskScore)), ("checks", .arr (b.checks.map .str))]),
      ("issued_at", .str (env.isoformat b.issuedAt))] ++
      match b.economicTruth with
      | none => []
      | some truth => [("economic_truth", (truth.map EconomicTruthRef.json).getD .null)])

/-- `json.dumps(receipt_body, sort_keys=True)` -/
def ReceiptBody.payload (env : Env) (b : ReceiptBody) : String := (b.json env).dumps .spaced

/-- `{**receipt_body, "signature": signature}` -/
def ReceiptBody.signed (env : Env) (b : ReceiptBody) : Receipt := ⟨b, env.sign (b.payload env)⟩

/-- The checks every receipt lists. -/
def receiptChecks : List String := ["ownership_verified", "dna_match", "vics_valid"]

/-- An amount of a receipt. -/
def ledgerAmount (n : Int) : Except Failure Int := (formatLedgerAmount n).mapError (fun e => .raised e.message)

/-- The payouts of a receipt. -/
def receiptPayouts (obligation : RoyaltyObligation) : Except Failure (List ReceiptPayout) :=
  obligation.payouts.mapM (fun p => do
    let amount ← ledgerAmount p.amount
    .ok ⟨p.ownerId, amount, p.state.toLower⟩)

/-- The body that `_build_receipt` signs. -/
def buildReceiptBody (event : RoyaltyObligationCreated) (obligation : RoyaltyObligation) (decision : Decision) (hex : Hex)
    (now : Int) : Except Failure ReceiptBody := do
  let payouts ← receiptPayouts obligation
  let net ← ledgerAmount event.value
  .ok
    { receiptId := "rcp_" ++ hex.text
      status := statusMap obligation.status
      statusReasons := decision.reasons
      eventId := event.eventId
      correlationId := event.correlationId
      tenantId := event.tenantId
      transactionId := obligation.id
      ledgerTransactionId := obligation.ledgerTransactionId
      currency := event.currency
      net
      payouts
      policy := decision.policy
      riskScore := decision.riskScore
      checks := receiptChecks
      issuedAt := now
      economicTruth := some event.economicTruth }

/-- `_build_receipt` -/
def buildReceipt (env : Env) (event : RoyaltyObligationCreated) (obligation : RoyaltyObligation) (decision : Decision)
    (hex : Hex) (now : Int) : Except Failure Receipt :=
  (buildReceiptBody event obligation decision hex now).map (·.signed env)

/-- The body that `_receipt_from_obligation` signs. -/
def bodyFromObligation (obligation : RoyaltyObligation) (receiptId : String) (now : Int) : Except Failure ReceiptBody := do
  let payouts ← receiptPayouts obligation
  let net ← ledgerAmount obligation.amount
  .ok
    { receiptId
      status := statusMap obligation.status
      statusReasons := .arr (obligation.statusReasons.map .str)
      eventId := obligation.eventId
      correlationId := obligation.correlationId
      tenantId := obligation.tenantId
      transactionId := obligation.id
      ledgerTransactionId := obligation.ledgerTransactionId
      currency := obligation.currency
      net
      payouts
      policy := (truthy (some obligation.decisionPolicy)).getD "allow"
      riskScore := obligation.riskScore / 10000
      checks := receiptChecks
      issuedAt := now
      economicTruth := none }

/-- `_receipt_from_obligation` -/
def receiptFromObligation (env : Env) (obligation : RoyaltyObligation) (receiptId : String) (now : Int) :
    Except Failure Receipt :=
  (bodyFromObligation obligation receiptId now).map (·.signed env)

/-! ## The transaction client -/

/-- The obligation of an answer that is accepted, with what was drawn after it; another answer raises. -/
def accepted (answer : ServiceAnswer) : Program (RoyaltyObligation × ServiceAnswer) :=
  if answer.response.statusCode = 200 ∨ answer.response.statusCode = 201 then
    match answer.response.json with
    | .ok obligation => pure (obligation, answer)
    | .error message => raise message
  else Prog.throw (S := signature) (.service answer.response.statusCode answer.response.text)

/-- `create_obligation` -/
def clientCreate (req : CreateRequest) : Program (RoyaltyObligation × ServiceAnswer) := do
  let answer ← step (.service (.createObligation req))
  if answer.response.statusCode = 409 then Prog.throw (S := signature) (.conflict answer.response.text)
  else accepted answer

/-- `release_obligation` and `reverse_obligation` of the client. -/
def clientRequest (req : ServiceRequest) : Program (RoyaltyObligation × ServiceAnswer) := do
  let answer ← step (.service req)
  accepted answer

/-! ## Ingest -/

/-- A receipt and the status it is answered with. -/
structure Reply where
  receipt : Receipt
  statusCode : Nat

/-- `RoyaltyRejection(503, "retry_later", …)`, with the body that says it is retryable -/
def retryLater : Failure := .rejection 503 "retry_later" "transaction service unavailable" true

/-- Fail the key and raise. -/
def failWith {α : Type} (v : VerifiedRequest) (reason : String) (e : Failure) : Program α := do
  step (.failIdempotency v.tenantId v.event.idempotencyKey (firstChars 255 reason))
  Prog.throw (S := signature) e

/-- How `create_obligation`'s errors are answered. -/
def createFailed {α : Type} (v : VerifiedRequest) : Failure → Program α
  | .conflict text => failWith v "downstream_idempotency_conflict" (.rejection 409 "idempotency_conflict" text false)
  | .service statusCode body => failWith v (Failure.service statusCode body).message retryLater
  | e => Prog.throw (S := signature) e

/-- The decision, the obligation and the receipt of an event whose key was claimed. -/
def work (env : Env) (v : VerifiedRequest) : Program Reply := do
  let decision ← evaluateDecision env v.tenantId v.event
  let (obligation, answer) ← Prog.tryCatch (clientCreate ⟨v.tenantId, v.event, decision, env.requestHash v.rawBody⟩)
    (createFailed v)
  let receipt ← ofExcept (buildReceipt env v.event obligation decision answer.hex answer.now)
  step (.saveRoyaltyReceipt receipt)
  step (.completeIdempotency v.tenantId v.event.idempotencyKey receipt.body.receiptId)
  pure ⟨receipt, if decision.policy = "ownership_invalid" then 422 else 201⟩

/-- The outer handler of `process_obligation_created`. -/
def workFailed {α : Type} (v : VerifiedRequest) : Failure → Program α
  | .rejection statusCode code message retryable =>
    Prog.throw (S := signature) (.rejection statusCode code message retryable)
  | e => failWith v e.message e

/-- `process_obligation_created` after its key was claimed: the preflight, and the work. -/
def processClaimed (env : Env) (v : VerifiedRequest) : Program Reply :=
  match computeRoyalty (v.event.value / 10000) v.event.splits with
  | .ok _ => Prog.tryCatch (work env v) (workFailed v)
  | .error .invalidOperation => raise MoneyError.invalidOperation.message
  | .error e => failWith v e.message (.rejection 400 "invalid_schema" e.message false)

/-- `process_obligation_created` -/
def processObligationCreated (env : Env) (v : VerifiedRequest) : Program Reply := do
  match ← step (.claimIdempotency v.tenantId v.event.idempotencyKey (env.requestHash v.rawBody)) with
  | .conflict => reject 409 "idempotency_conflict" "same idempotency_key, different payload"
  | .processing =>
    reject 409 "processing" "the original request with this idempotency_key is still being processed; retry shortly"
  | .completed (some receiptId) => do
    match ← step (.loadRoyaltyReceipt receiptId) with
    | some receipt => pure ⟨receipt, if receipt.body.policy = "ownership_invalid" then 422 else 200⟩
    | none => processClaimed env v
  | .completed none => processClaimed env v
  | .claimed => processClaimed env v

/-! ## Release and reversal -/

/-- How an error of the transaction service is answered. -/
def serviceRefusal (invalidState : String) : Failure → Failure
  | .service statusCode _ =>
    if statusCode = 404 then .rejection 404 "not_found" "royalty obligation not found" false
    else if statusCode = 409 then .rejection 409 "invalid_state" invalidState false
    else retryLater
  | e => e

/-- `rcp_rel_{event_id}` -/
def releaseReceiptId (eventId : String) : String := "rcp_rel_" ++ eventId

/-- `rcp_rev_{reversal_event_id}` -/
def reversalReceiptId (reversalEventId : String) : String := "rcp_rev_" ++ reversalEventId

/-- Issue and store the receipt of an obligation. -/
def issueFromObligation (env : Env) (obligation : RoyaltyObligation) (receiptId : String) (now : Int) : Program Receipt := do
  let receipt ← ofExcept (receiptFromObligation env obligation receiptId now)
  step (.saveRoyaltyReceipt receipt)
  pure receipt

/-- `release_obligation` -/
def releaseObligation (env : Env) (tenantId eventId : String) : Program Reply := do
  let (obligation, answer) ← Prog.tryCatch
    (clientRequest (.releaseObligation tenantId eventId ("release-" ++ eventId)))
    (fun e => Prog.throw (S := signature) (serviceRefusal "obligation is not HELD" e))
  let receipt ← issueFromObligation env obligation (releaseReceiptId eventId) answer.now
  pure ⟨receipt, 200⟩

/-- `reverse_obligation` -/
def reverseObligation (env : Env) (tenantId eventId reversalEventId reversalIdempotencyKey reason : String) : Program Reply := do
  let (obligation, answer) ← Prog.tryCatch
    (clientRequest (.reverseObligation tenantId eventId reversalEventId reversalIdempotencyKey reason))
    (fun e => Prog.throw (S := signature) (serviceRefusal "obligation cannot be reversed in its current state" e))
  let receipt ← issueFromObligation env obligation (reversalReceiptId reversalEventId) answer.now
  pure ⟨receipt, answer.response.statusCode⟩

end RoyaltyGateway

end Archisynapse
