import Archisynapse.Base.Exec
import Archisynapse.Base.JsonLoads

/-!
# The spine receiver

spine_receiver.py: a signed event is stored in one text (`json.dumps`, ASCII) and sealed over another (canonical JSON), and a
certificate is verified from the stored text. Each request runs in a session of its own, which is rolled back when it raises.

The digests are taken of the UTF-8 bytes of a text, which the text determines, so they are functions of the text; the encoding
raises for a lone surrogate, which is one of the ways a request may raise. The columns of times are left out.
-/

namespace Archisynapse

namespace Spine

open Exec (throw gets modify transaction)

/-! ## Tables -/

/-- A row of `spine_events`. -/
structure SpineEventRecord where
  eventId : String
  eventType : Json
  dnaTag : Option String
  payload : String
  signatureValid : Bool

/-- A row of `birth_certificates`. -/
structure BirthCertificate where
  dnaTag : String
  eventId : String
  trackTitle : Json
  coreGenre : Json
  culturalLens : Json
  creatorContentHash : Json
  certificateSeal : String
  stakeholdersJson : String
  royaltySplitJson : String
  aiModelsJson : String
  artifactsJson : String
  sourceTransactionId : Json

/-- The two tables. -/
structure State where
  events : List SpineEventRecord
  certificates : List BirthCertificate

/-- The empty tables. -/
def State.empty : State := ⟨[], []⟩

/-- What a request raises: an answer of the service, or an exception that it does not handle. -/
inductive Failure where
  | http (statusCode : Nat) (detail : String)
  | exception (text : String)
  deriving DecidableEq

/-- Code of a request. -/
abbrev Operation (α : Type) : Type := Exec State Failure α

/-! ## Signatures -/

/-- The signing key, `hmac.new(key, message, sha256).hexdigest()`, `sha256(message).hexdigest()`, and how a number is printed. -/
structure Env where
  signingKey : String
  hmac : String → String → String
  sha256 : String → String
  printed : String → String

/-- `canonical_json`, as a text -/
def canonicalJson (members : List (String × Json)) : String := (Json.obj members).dumps .compact

/-- `hmac.compare_digest` of a text with a hexadecimal digest: texts must be ASCII. -/
def compareDigest (provided expected : String) : Except Failure Bool :=
  if provided.toList.all (fun c => decide (c.toNat < 128)) then .ok (decide (provided = expected))
  else .error (.exception "comparing strings with non-ASCII characters is not supported")

/-- The mark of a signature. -/
def mark : List Char := "hmac-sha256:".toList

def verifySignature (env : Env) (event : List (String × Json)) : Except Failure Bool :=
  if env.signingKey = "" then .ok false
  else match (Json.member "signature" event).getD (.str "") with
    | .str provided =>
      if mark.isPrefixOf provided.toList then
        let body := Json.without "signature" (Json.without "signing_key_id" event)
        compareDigest (String.ofList (provided.toList.drop mark.length)) (env.hmac env.signingKey (canonicalJson body))
      else .ok false
    | _ => .error (.exception "object has no attribute 'startswith'")

def mintSeal (env : Env) (event : List (String × Json)) : String := "sha256:" ++ env.sha256 (canonicalJson event)

/-! ## Requests -/

/-- An event as `json.loads` gives it: members of distinct names at every depth, and numbers that are read as they are printed. The
ids are texts where they are given. -/
structure Event (env : Env) where
  members : List (String × Json)
  readable : (Json.obj members).Readable env.printed
  eventId : ∀ value, Json.member "event_id" members = some value → value = .null ∨ ∃ text, value = .str text
  dnaTag : ∀ value, Json.member "dna_tag" members = some value → value = .null ∨ ∃ text, value = .str text

/-- A text member. -/
def textMember (name : String) (members : List (String × Json)) : Option String :=
  match Json.member name members with
  | some (.str text) => some text
  | _ => none

/-- Whether a value counts as true; numbers as they are printed. -/
def truthy : Json → Bool
  | .null => false
  | .bool b => b
  | .number text => !(text == "0" || text == "0.0" || text == "-0.0")
  | .str text => text != ""
  | .arr items => !items.isEmpty
  | .obj members => !members.isEmpty

def isNull : Json → Bool
  | .null => true
  | _ => false

/-- A value that a text column takes; the environment may still let the statement raise. -/
def bindable : Json → Bool
  | .arr _ => false
  | .obj _ => false
  | _ => true

/-- `json.dumps(value)` -/
def dumpsPlain (value : Json) : String := String.ofList (value.render .spaced)

/-- How the payload is written: without blanks, ASCII. -/
def payloadStyle : Json.Style := ⟨true, [','], [':']⟩

/-- The steps of a request that may raise. -/
inductive Step where
  | selectEvent | encodeBody | insertEvent | selectCertificate | encodeEvent | insertCertificate | commit
  deriving DecidableEq

/-- Which steps of a request raise. -/
abbrev Raises : Type := Step → Option Failure

/-- A step that the environment may let raise. -/
def Raises.step (raises : Raises) (st : Step) : Operation Unit :=
  match raises st with
  | some e => throw e
  | none => pure ()

/-- `EventAccepted` -/
structure EventAccepted where
  eventId : String
  dnaTag : Option String
  certificateSeal : Option String
  duplicate : Bool
  deriving DecidableEq

/-- The result of a check as a step. -/
def check {α : Type} : Except Failure α → Operation α
  | .ok a => pure a
  | .error e => throw e

/-- The insert of an event. -/
def insertEvent (event : List (String × Json)) (eventId : String) : Operation Unit := do
  let eventType := (Json.member "event_type" event).getD (.str "unknown")
  let known ← gets (fun s => s.events.any (fun r => decide (r.eventId = eventId)))
  if known then throw (.exception "UNIQUE constraint failed: spine_events.event_id")
  else if isNull eventType then throw (.exception "NOT NULL constraint failed: spine_events.event_type")
  else if ¬ bindable eventType then throw (.exception "Error binding parameter: type is not supported")
  else modify (fun s => { s with events := s.events ++ [
    { eventId
      eventType
      dnaTag := textMember "dna_tag" event
      payload := (Json.obj event).dumps payloadStyle
      signatureValid := true }] })

/-- A column of a certificate. -/
def column (name : String) (event : List (String × Json)) : Json := (Json.member name event).getD .null

/-- The insert of a certificate. -/
def insertCertificate (event : List (String × Json)) (eventId dnaTag certificateSeal : String) : Operation Unit := do
  let known ← gets (fun s => s.certificates.any (fun c => decide (c.dnaTag = dnaTag)))
  if known then throw (.exception "UNIQUE constraint failed: birth_certificates.dna_tag")
  else if ¬ ["track_title", "core_genre", "cultural_lens", "content_hash", "source_transaction_id"].all
      (fun name => bindable (column name event)) then
    throw (.exception "Error binding parameter: type is not supported")
  else modify (fun s => { s with certificates := s.certificates ++ [
    { dnaTag
      eventId
      trackTitle := column "track_title" event
      coreGenre := column "core_genre" event
      culturalLens := column "cultural_lens" event
      creatorContentHash := column "content_hash" event
      certificateSeal
      stakeholdersJson := dumpsPlain ((Json.member "stakeholders" event).getD (.obj []))
      royaltySplitJson := dumpsPlain ((Json.member "royalty_split" event).getD (.obj []))
      aiModelsJson := dumpsPlain ((Json.member "ai_models_used" event).getD (.arr []))
      artifactsJson := dumpsPlain ((Json.member "artifacts" event).getD (.obj []))
      sourceTransactionId := column "source_transaction_id" event }] })

/-- `event.get("event_type") == "track.generated"` -/
def isTrack (event : List (String × Json)) : Bool := textMember "event_type" event == some "track.generated"

/-- The rest of `receive_event`, once the event is added: the certificate of a track. -/
def mintCertificate (env : Env) (raises : Raises) (event : List (String × Json)) (eventId : String) : Operation EventAccepted :=
  match textMember "dna_tag" event with
  | none => throw (.http 422 "dna_tag and content_hash required")
  | some dnaTag =>
    if dnaTag = "" ∨ truthy (column "content_hash" event) = false then
      throw (.http 422 "dna_tag and content_hash required")
    else do
      raises.step .selectCertificate
      match ← gets (fun s => s.certificates.find? (fun c => decide (c.dnaTag = dnaTag))) with
      | some dupCert => do
        raises.step .commit
        pure ⟨eventId, some dnaTag, some dupCert.certificateSeal, true⟩
      | none => do
        raises.step .encodeEvent
        let certificateSeal := mintSeal env event
        raises.step .insertCertificate
        insertCertificate event eventId dnaTag certificateSeal
        raises.step .commit
        pure ⟨eventId, some dnaTag, some certificateSeal, false⟩

def receiveEvent (env : Env) (raises : Raises) (event : List (String × Json)) : Operation EventAccepted :=
  match textMember "event_id" event with
  | none => throw (.http 422 "event_id required")
  | some eventId =>
    if eventId = "" then throw (.http 422 "event_id required")
    else transaction (do
      raises.step .selectEvent
      match ← gets (fun s => s.events.find? (fun r => decide (r.eventId = eventId))) with
      | some existing => do
        let cert ← gets (fun s => s.certificates.find? (fun c => decide (c.eventId = eventId)))
        pure ⟨eventId, existing.dnaTag, cert.map (·.certificateSeal), true⟩
      | none => do
        raises.step .encodeBody
        let valid ← check (verifySignature env event)
        if valid = false then throw (.http 401 "invalid event signature")
        else do
          raises.step .insertEvent
          insertEvent event eventId
          if isTrack event then mintCertificate env raises event eventId
          else do
            raises.step .commit
            pure ⟨eventId, textMember "dna_tag" event, none, false⟩)

/-- What `verify_certificate` answers. -/
structure Verification where
  dnaTag : String
  valid : Bool
  signatureValid : Bool
  sealValid : Bool
  certificateSeal : String
  deriving DecidableEq

/-- The answers of `verify_certificate`: the checks, or that the source event is missing. -/
inductive Verdict where
  | checked (verification : Verification)
  | sourceEventMissing (dnaTag : String)
  deriving DecidableEq

def verifyCertificate (env : Env) (dnaTag : String) (s : State) : Except Failure Verdict :=
  match s.certificates.find? (fun c => decide (c.dnaTag = dnaTag)) with
  | none => .error (.http 404 "certificate not found")
  | some cert =>
    match s.events.find? (fun r => decide (r.eventId = cert.eventId)) with
    | none => .ok (.sourceEventMissing dnaTag)
    | some record =>
      match Json.loads env.printed record.payload with
      | some (.obj event) =>
        let recomputed := mintSeal env event
        match verifySignature env event with
        | .error e => .error e
        | .ok sigOk =>
          -- both are `sha256:` and hexadecimal digits, so the comparison does not raise
          let sealOk := decide (recomputed = cert.certificateSeal)
          .ok (.checked ⟨dnaTag, sigOk && sealOk, sigOk, sealOk, cert.certificateSeal⟩)
      | some _ => .error (.exception "object has no attribute 'get'")
      | none => .error (.exception "JSONDecodeError")

/-! ## Runs -/

/-- The state after one request, whether it answers or raises. -/
def State.step (env : Env) (s : State) (request : Raises × Event env) : State := (receiveEvent env request.1 request.2.members s).2

/-- The state after requests, one after another. -/
def State.after (env : Env) (s : State) (requests : List (Raises × Event env)) : State := requests.foldl (State.step env) s

end Spine

end Archisynapse
