import Archisynapse.RoyaltyGateway.Calls
import Mathlib

/-!
# The gate of the royalty receipt loop

`verify_and_parse` of royalty_orchestrator.py with `verify_event_signature` of royalty_keys.py, and the decision of
royalty_decision.py: the ownership verifiers and the answer of the fraud service.
-/

namespace Archisynapse

namespace RoyaltyGateway

open Royalty (RoyaltyDecision)

/-! ## Verification of a request -/

/-- `REPLAY_WINDOW`, in microseconds -/
def replayWindow : Int := 5 * 60 * 1000000

/-- A request of `POST /api/v1/events`: its body and the headers that are read. -/
structure IngestRequest where
  rawBody : ByteArray
  correlationId : Option String
  keyId : Option String
  signature : Option String
  authorization : Option String
  deriving DecidableEq

/-- `VerifiedRequest` -/
structure VerifiedRequest where
  event : RoyaltyObligationCreated
  tenantId : String
  correlationId : String
  keyId : String
  rawBody : ByteArray
  deriving DecidableEq

/-- The token of an authorization header that starts with `Bearer`. -/
def IngestRequest.bearerToken (req : IngestRequest) : Option String :=
  let header := req.authorization.getD ""
  if startsWith header "Bearer " then truthy (some (String.ofList (header.toList.drop 7))) else none

/-- `data["tenant_id"]`, when it is a text that is not empty -/
def tenantOf (members : List (String × Json)) : Option String :=
  match Json.member "tenant_id" members with
  | some (.str tenantId) => truthy (some tenantId)
  | _ => none

/-- The signature of a header `ed25519=…`. -/
def signatureText (header : String) : Option String :=
  let alg := header.toList.takeWhile (fun c => !decide (c = '='))
  if String.ofList alg = "ed25519" then truthy (some (String.ofList (header.toList.drop (alg.length + 1)))) else none

/-- `verify_event_signature` -/
def verifyEventSignature (env : Env) (rawBody : ByteArray) (header publicKeyB64 : String) : Bool :=
  match signatureText header with
  | none => false
  | some signature => env.ed25519Verify publicKeyB64 signature rawBody

/-- `text.replace("Z", "+00:00")` -/
def zulu (text : String) : String := text.replace "Z" "+00:00"

/-- A rejection that is recorded. -/
def rejectRecorded {α : Type} (req : IngestRequest) (reason : String) (statusCode : Nat) (code message : String) : Program α := do
  step (.recordRejection req.correlationId req.keyId reason)
  reject statusCode code message

/-- The bearer token is the tenant's. -/
def tokenValid (env : Env) (tenantId : String) : Option String → Program Bool
  | none => pure false
  | some token => do
    match ← step (.apiKeyHash tenantId) with
    | none => pure false
    | some apiKeyHash => pure (env.argon2Verify apiKeyHash token)

/-- The last checks of a request whose signature verifies. -/
def parseVerified (env : Env) (req : IngestRequest) (keyId tenantId : String) (body : Json) : Program VerifiedRequest :=
  match env.modelValidate body with
  | .error message => reject 400 "invalid_schema" message
  | .ok event =>
    match env.fromIsoFormat (zulu event.occurredAt) with
    | none => raise "Invalid isoformat string"
    | some occurredAt => do
      let now ← step .now
      if occurredAt.aware = false then raise "can't subtract offset-naive and offset-aware datetimes"
      else if replayWindow < |now - occurredAt.micros| then
        rejectRecorded req "stale_event" 422 "stale_event" "occurred_at is outside the 5 minute replay window"
      else pure ⟨event, tenantId, (truthy req.correlationId).getD event.correlationId, keyId, req.rawBody⟩

/-- The checks of a request of a tenant whose token is valid. -/
def verifySigned (env : Env) (req : IngestRequest) (tenantId : String) (body : Json) : Program VerifiedRequest :=
  match truthy req.keyId, truthy req.signature with
  | some keyId, some signature => do
    match ← step (.getTenantKey tenantId keyId) with
    | none => do
      if ← step (.keyRegisteredToAnyTenant keyId) then
        rejectRecorded req "tenant_mismatch" 403 "tenant_mismatch" s!"key {keyId} is not registered to tenant {tenantId}"
      else rejectRecorded req "unknown_key" 403 "unknown_key" s!"key {keyId} is not registered"
    | some publicKeyB64 =>
      if verifyEventSignature env req.rawBody signature publicKeyB64 then parseVerified env req keyId tenantId body
      else rejectRecorded req "invalid_signature" 401 "invalid_signature" "signature does not verify"
  | _, _ =>
    rejectRecorded req "missing_signature_headers" 401 "invalid_signature" "missing X-Empire1-Key-Id / X-Empire1-Signature"

/-- `verify_and_parse` -/
def verifyAndParse (env : Env) (req : IngestRequest) : Program VerifiedRequest :=
  match env.loads req.rawBody with
  | .malformed => reject 400 "invalid_schema" "body is not valid JSON"
  | .raised message => raise message
  | .value (.obj members) =>
    match tenantOf members with
    | none => reject 400 "invalid_schema" "tenant_id is required"
    | some tenantId => do
      if ← tokenValid env tenantId req.bearerToken then verifySigned env req tenantId (.obj members)
      else rejectRecorded req "invalid_tenant_auth" 401 "unauthorized" "missing or invalid tenant bearer token"
  | .value _ => raise "object has no attribute 'get'"

/-! ## Ownership -/

/-- The verifiers of an ownership. -/
inductive OwnershipVerifier where
  | failClosed | lyrica | testFixture
  deriving DecidableEq

/-- `_select_ownership_verifier` -/
def selectOwnershipVerifier (env : Env) : OwnershipVerifier :=
  if env.fixtures then .testFixture
  else if env.vicsEnabled then
    if env.vicsUrl = "" ∨ env.vicsToken = "" then .failClosed else .lyrica
  else .failClosed

/-- `payload.get(name) == text` -/
def memberIsText (name text : String) (members : List (String × Json)) : Bool :=
  match Json.member name members with
  | some (.str value) => decide (value = text)
  | _ => false

/-- `payload.get(name) is True` -/
def memberIsTrue (name : String) (members : List (String × Json)) : Bool :=
  match Json.member name members with
  | some (.bool value) => value
  | _ => false

/-- The names of `expected_bindings` and what the event says. -/
def expectedBindings (event : RoyaltyObligationCreated) : List (String × String) :=
  [("track_id", event.trackId), ("dna_tag", event.dnaTag), ("soulprint_hash", event.soulprintHash),
   ("vics_proof_id", event.proofId), ("creator_id", event.creatorId)]

/-- A payload says that the proof is verified, not revoked, and bound to the event. -/
def bound (event : RoyaltyObligationCreated) (members : List (String × Json)) : Bool :=
  memberIsTrue "verified" members && !memberIsTrue "revoked" members &&
    (expectedBindings event).all (fun b => memberIsText b.1 b.2 members)

/-- `_not_expired` -/
def notExpired (env : Env) : Option Json → Program Bool
  | none => pure true
  | some .null => pure true
  | some (.str text) =>
    if text = "" then pure true
    else match env.fromIsoFormat (zulu text) with
      | none => pure false
      | some expiry => do
        let now ← step .now
        pure (decide (now < expiry.micros))
  | some _ => pure false

/-- `LyricaVicsOwnershipVerifier.verify` -/
def verifyLyrica (env : Env) (event : RoyaltyObligationCreated) : Program Bool := do
  match ← step (.requestVics event) with
  | .failed => pure false
  | .raised message => raise message
  | .answered statusCode json =>
    if statusCode ≠ 200 then pure false
    else match json with
      | .malformed => pure false
      | .raised message => raise message
      | .value (.obj members) =>
        if bound event members then notExpired env (Json.member "expires_at" members) else pure false
      | .value _ => pure false

/-- `REVOKED_PROOF_IDS` -/
def revokedProofIds : List String := ["vics_revoked_test_fixture"]

/-- `ownership_verifier.verify` -/
def verifyOwnership (env : Env) (event : RoyaltyObligationCreated) : Program Bool :=
  match selectOwnershipVerifier env with
  | .failClosed => pure false
  | .lyrica => verifyLyrica env event
  | .testFixture => pure (!revokedProofIds.contains event.proofId)

/-! ## The decision -/

/-- `_DECISION_MAP`, with its default: a list and a dictionary are no keys. -/
def decisionMap : Json → Except Failure RoyaltyDecision
  | .str text =>
    .ok (if text = "release_payout" then .allow
      else if text = "delay_payout_72h" ∨ text = "hold_payout_review" then .hold else .block)
  | .arr _ => .error (.raised "unhashable type: 'list'")
  | .obj _ => .error (.raised "unhashable type: 'dict'")
  | _ => .ok .block

/-- `f"{value}"` -/
def formatted (env : Env) : Json → String
  | .str text => text
  | value => env.str value

/-- `risk_score / 100.0` -/
def riskQuotient (env : Env) : Json → Except Failure ℚ
  | .number text => (env.hundredth text).mapError .raised
  | .bool b => .ok (if b then 1 / 100 else 0)
  | _ => .error (.raised "unsupported operand type(s) for /")

/-- The decision of a payload of the fraud service. -/
def fraudDecision (env : Env) (members : List (String × Json)) : Except Failure Decision := do
  let fraudDecision := (Json.member "decision" members).getD (.str "block_payout")
  let riskScore ← riskQuotient env ((Json.member "risk_score" members).getD (.number "100"))
  let reasons := (Json.member "reasons" members).getD (.arr [])
  let outcome ← decisionMap fraudDecision
  .ok ⟨outcome, if outcome = .allow then "allow" else "fraud_" ++ formatted env fraudDecision, riskScore, reasons⟩

/-- The decision of an answer of the fraud service. -/
def RiskAnswer.decision (env : Env) : RiskAnswer → Except Failure Decision
  | .unavailable => .ok ⟨.hold, "fraud_service_unavailable", 1 / 2, .arr [.str "fraud_service_unreachable"]⟩
  | .raised message => .error (.raised message)
  | .answered statusCode json =>
    if statusCode ≠ 200 then .ok ⟨.hold, "fraud_service_error", 1 / 2, .arr [.str "fraud_service_error"]⟩
    else match json with
      | .malformed => .error (.raised "Expecting value")
      | .raised message => .error (.raised message)
      | .value (.obj members) => fraudDecision env members
      | .value _ => .error (.raised "object has no attribute 'get'")

/-- `evaluate_decision` -/
def evaluateDecision (env : Env) (tenantId : String) (event : RoyaltyObligationCreated) : Program Decision := do
  if ← verifyOwnership env event then do
    let answer ← step (.assessRisk tenantId event)
    ofExcept (answer.decision env)
  else pure ⟨.block, "ownership_invalid", 1, .arr [.str "vics_invalid"]⟩

end RoyaltyGateway

end Archisynapse
