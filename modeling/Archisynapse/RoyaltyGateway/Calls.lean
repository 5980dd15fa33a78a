import Archisynapse.Base.Machine
import Archisynapse.RoyaltyGateway.State

/-!
# The calls of the royalty receipt loop

What the programs of the loop call: the gateway's tables, the Lyrica service, the fraud service, the transaction service and the
clock. An answer of the transaction service comes with what the code draws right after it, without waiting: a uuid and the time at
which the receipt is issued.

What pydantic, hashes, signatures, floats and times make of their arguments are parameters (`Env`). An organization's id is its
tenant's.
-/

namespace Archisynapse

namespace RoyaltyGateway

open Royalty (RoyaltyDecision RoyaltyObligation)

/-! ## Answers -/

/-- Twenty hexadecimal digits: `uuid.uuid4().hex[:20]`. -/
structure Hex where
  text : String
  digits : text.toList.all (fun c => c.isDigit || (decide ('a' ≤ c) && decide (c ≤ 'f'))) = true
  length : text.length = 20
  deriving DecidableEq

/-- The body of `POST /royalties`. -/
structure CreateRequest where
  organizationId : String
  event : RoyaltyObligationCreated
  decision : Decision
  requestHash : String

/-- A request to the transaction service. -/
inductive ServiceRequest where
  | createObligation (req : CreateRequest)
  | releaseObligation (organizationId eventId idempotencyKey : String)
  | reverseObligation (organizationId eventId reversalEventId reversalIdempotencyKey reason : String)

/-- An answer of the transaction service: its status, its text, and the obligation that `json()` reads or what that raises. -/
structure ServiceResponse where
  statusCode : Nat
  text : String
  json : Except String RoyaltyObligation

/-- An answer, and what is drawn right after it. -/
structure ServiceAnswer where
  response : ServiceResponse
  hex : Hex
  now : Int

/-- What a JSON reader makes of bytes: it may raise the error of a malformed text, or another. -/
inductive Read where
  | value (value : Json)
  | malformed
  | raised (message : String)

/-- What the Lyrica service answers: an error that its caller catches, another one, or a status and what `json()` makes of the
body. -/
inductive VicsAnswer where
  | failed
  | raised (message : String)
  | answered (statusCode : Nat) (json : Read)

/-- What the fraud service answers, its merchant's bootstrap included: an error that its caller catches, another one, or a status
and what `json()` makes of the body. -/
inductive RiskAnswer where
  | unavailable
  | raised (message : String)
  | answered (statusCode : Nat) (json : Read)

/-- The stages of the economic truth of a receipt. -/
inductive TruthStage where
  | outcome | verify | reverse
  deriving DecidableEq

/-! ## Calls -/

/-- One call: an operation of the gateway's tables, a request to another service, or a reading of the clock. -/
inductive Action where
  /-- the query of `check_tenant_api_key` -/
  | apiKeyHash (tenantId : String)
  | getTenantKey (tenantId keyId : String)
  | keyRegisteredToAnyTenant (keyId : String)
  | recordRejection (correlationId keyId : Option String) (reason : String)
  | now
  | claimIdempotency (tenantId key requestHash : String)
  | completeIdempotency (tenantId key receiptId : String)
  | failIdempotency (tenantId key reason : String)
  | saveRoyaltyReceipt (receipt : Receipt)
  | loadRoyaltyReceipt (receiptId : String)
  | loadRoyaltyReceiptByEvent (eventId : String)
  /-- the request of `LyricaVicsOwnershipVerifier` -/
  | requestVics (event : RoyaltyObligationCreated)
  /-- `POST /risk/royalty` at the fraud service -/
  | assessRisk (tenantId : String) (event : RoyaltyObligationCreated)
  | service (req : ServiceRequest)
  /-- an event of `_record_royalty_truth`, written and delivered -/
  | recordTruth (stage : TruthStage) (receipt : Receipt) (reason : Option String)

/-- What a call answers with. -/
abbrev Action.Result : Action → Type
  | .apiKeyHash _ => Option String
  | .getTenantKey _ _ => Option String
  | .keyRegisteredToAnyTenant _ => Bool
  | .now => Int
  | .claimIdempotency _ _ _ => Claim
  | .loadRoyaltyReceipt _ => Option Receipt
  | .loadRoyaltyReceiptByEvent _ => Option Receipt
  | .requestVics _ => VicsAnswer
  | .assessRisk _ _ => RiskAnswer
  | .service _ => ServiceAnswer
  | _ => Unit

/-- The calls and their answers. -/
abbrev signature : Archisynapse.Signature where
  Op := Action
  Res := Action.Result
  Err := Failure

/-- A program of the loop. -/
abbrev Program (α : Type) : Type := Prog signature α

/-- Make a call. -/
def step (o : Action) : Program o.Result := Prog.perform (S := signature) o

/-- Raise. -/
def raise {α : Type} (message : String) : Program α := Prog.throw (S := signature) (.raised message)

/-- Raise a `RoyaltyRejection`. -/
def reject {α : Type} (statusCode : Nat) (code message : String) : Program α :=
  Prog.throw (S := signature) (.rejection statusCode code message false)

/-- Go on with a value, or raise. -/
def ofExcept {α : Type} : Except Failure α → Program α
  | .ok a => pure a
  | .error e => Prog.throw (S := signature) e

/-! ## Parameters -/

/-- A time that `fromisoformat` reads, as if it were in UTC where it has no time zone. -/
structure IsoTime where
  micros : Int
  aware : Bool
  deriving DecidableEq

/-- What the loop takes from outside its arguments. -/
structure Env where
  /-- `ROYALTY_LOOP_ENABLED` -/
  enabled : Bool
  /-- `ROYALTY_TEST_FIXTURES_ENABLED` -/
  fixtures : Bool
  /-- `LYRICA_VICS_VERIFIER_ENABLED` -/
  vicsEnabled : Bool
  /-- `LYRICA_VICS_VERIFY_URL`, without blanks around it -/
  vicsUrl : String
  /-- `LYRICA_VICS_SERVICE_TOKEN`, without blanks around it -/
  vicsToken : String
  /-- `json.loads` -/
  loads : ByteArray → Read
  /-- `model_validate`, or the text of its error -/
  modelValidate : Json → Except String RoyaltyObligationCreated
  /-- `fromisoformat`, none when it raises -/
  fromIsoFormat : String → Option IsoTime
  /-- `_request_hash` -/
  requestHash : ByteArray → String
  /-- `_hasher.verify` of a stored hash: it returns, or raises `VerifyMismatchError` -/
  argon2Verify : String → String → Bool
  /-- a public key and a signature in base64, decoded, and the signature verified over bytes; false when any of it raises -/
  ed25519Verify : String → String → ByteArray → Bool
  /-- `isoformat` of a time -/
  isoformat : Int → String
  /-- the text of a number in JSON -/
  number : ℚ → String
  /-- a number of JSON divided by `100.0`, or what that raises -/
  hundredth : String → Except String ℚ
  /-- `str` of a value of JSON -/
  str : Json → String
  /-- `gateway_receipt_signer.sign` -/
  sign : String → Signature

end RoyaltyGateway

end Archisynapse
