import Archisynapse.Base.Machine
import Archisynapse.Base.Sums
import Archisynapse.RoyaltyGateway.Calls

/-!
# The Economic Truth bridge

`enqueue_event`, `deliver_event` and `flush_outbox`, and `_record_royalty_truth` of the royalty routes, which delivers the row it
enqueued. A statement can fail because the connection is lost, before or after it reached the database; a request is answered or
fails as the environment says, and what the Economic Truth service does with it is not modelled.
-/

namespace Archisynapse

namespace EconomicTruth

/-! ## The outbox

The table `economic_truth_outbox` and the statements that economic_truth_bridge.py runs on it, each in a transaction of its own. The
column `updated_at`, which nothing reads, is left out. Time is part of the state and passes by itself. -/

open RoyaltyGateway (TruthStage)

/-- `economic_truth_outbox.state` -/
inductive RowState where
  | pending
  | sending
  | delivered
  deriving DecidableEq

/-- The members of a JSON object. -/
abbrev Payload : Type := List (String × Json)

/-- A row of `economic_truth_outbox`; times are microseconds. -/
structure OutboxRow where
  id : Uuid
  source : String
  externalId : String
  actionId : String
  stage : TruthStage
  payload : Payload
  state : RowState
  attempts : Nat
  lastError : Option String
  response : Option Json
  nextAttemptAt : Int
  createdAt : Int

/-- What `UNIQUE (source, external_id, stage)` is about. -/
def OutboxRow.key (row : OutboxRow) : String × String × TruthStage := (row.source, row.externalId, row.stage)

/-- The outbox and the time. `inHand` says which rows each worker has picked up and is not done with; the database does not know. -/
structure State where
  rows : List OutboxRow
  now : Int
  inHand : List (Nat × Uuid)

/-- The row with an id. -/
def State.rowOf (s : State) (id : Uuid) : Option OutboxRow := s.rows.find? (fun row => decide (row.id = id))

/-- Update the row with an id. -/
def State.update (s : State) (id : Uuid) (u : OutboxRow → OutboxRow) : State := { s with rows := updateKey (·.id) id u s.rows }

/-- A worker picks rows up. -/
def State.pickUp (s : State) (w : Nat) (rows : List OutboxRow) : State :=
  { s with inHand := s.inHand ++ rows.map (fun row => (w, row.id)) }

/-- A worker is done with a row. -/
def State.putDown (s : State) (w : Nat) (id : Uuid) : State := { s with inHand := s.inHand.filter (fun p => decide (p ≠ (w, id))) }

/-- A worker is gone. -/
def State.leave (s : State) (w : Nat) : State := { s with inHand := s.inHand.filter (fun p => decide (p.1 ≠ w)) }

/-- `INSERT … ON CONFLICT (source, external_id, stage) DO UPDATE SET updated_at=now() RETURNING *`: the row that is there, whatever
its state, or the one inserted; none when the drawn id is taken. -/
def State.upsert (s : State) (id : Uuid) (source externalId actionId : String) (stage : TruthStage) (payload : Payload) :
    Option (OutboxRow × State) :=
  match s.rows.find? (fun row => decide (row.key = (source, externalId, stage))) with
  | some row => some (row, s)
  | none =>
    if (s.rowOf id).isSome then none
    else
      let row := ⟨id, source, externalId, actionId, stage, payload, .pending, 0, none, none, s.now, s.now⟩
      some (row, { s with rows := s.rows ++ [row] })

/-- A row `flush_outbox` takes: it is not delivered and its next attempt is due. -/
def OutboxRow.due (row : OutboxRow) (now : Int) : Bool := decide (row.state ≠ .delivered) && decide (row.nextAttemptAt ≤ now)

/-- `SELECT * … WHERE state IN ('pending','sending') AND next_attempt_at <= now() ORDER BY created_at LIMIT $1 FOR UPDATE SKIP LOCKED`:
the locks end with the statement, so no other statement finds a row locked. -/
def State.selectDue (s : State) (limit : Nat) : List OutboxRow :=
  ((s.rows.filter (fun row => row.due s.now)).insertionSort (fun a b => a.createdAt ≤ b.createdAt)).take limit

/-- `SET state='sending', attempts=attempts+1` -/
def OutboxRow.send (row : OutboxRow) : OutboxRow := { row with state := .sending, attempts := row.attempts + 1 }

/-- `SET state='delivered', response=$2, last_error=NULL` -/
def OutboxRow.deliver (response : Json) (row : OutboxRow) : OutboxRow :=
  { row with state := .delivered, response := some response, lastError := none }

/-- `SET state='pending', last_error=$2, next_attempt_at=now() + make_interval(secs => LEAST(3600, GREATEST(30, attempts*30)))` -/
def OutboxRow.retry (now : Int) (error : String) (row : OutboxRow) : OutboxRow :=
  { row with state := .pending, lastError := some error, nextAttemptAt := now + min 3600 (max 30 (row.attempts * 30)) * 1000000 }

open RoyaltyGateway (TruthStage Receipt)

/-- `ECONOMIC_TRUTH_API_URL` without slashes at its end, and `ECONOMIC_TRUTH_INGEST_KEY`. -/
structure Env where
  apiUrl : String
  apiKey : String

/-- Both are set. -/
def Env.configured (env : Env) : Bool := decide (env.apiUrl ≠ "") && decide (env.apiKey ≠ "")

/-- An exception, by its text. -/
structure Raised where
  message : String
  deriving DecidableEq

/-- What is answered to a request: its status and text, and its body when it is JSON. -/
structure Response where
  status : Nat
  text : String
  json : Except Raised Json

/-- What `deliver_event` returns. -/
structure Delivery where
  delivered : Bool
  response : Option Json
  error : Option String

/-! ## Calls -/

/-- The calls of the programs. A request names the row it is made for. -/
inductive Op where
  | upsert (source externalId actionId : String) (stage : TruthStage) (payload : Payload)
  | selectDue (limit : Nat)
  | markSending (id : Uuid)
  | post (id : Uuid) (url : String) (payload : Payload)
  | heartbeat (id : Uuid) (url : String) (body : Payload)
  | markDelivered (id : Uuid) (response : Json)
  | markPending (id : Uuid) (error : String)
  | wait (duration : Nat)

/-- What a call answers. -/
def Op.Result : Op → Type
  | .upsert _ _ _ _ _ => OutboxRow
  | .selectDue _ => List OutboxRow
  | .post _ _ _ => Response
  | .heartbeat _ _ _ => Response
  | _ => Unit

/-- The calls, with what they answer. -/
abbrev sig : Signature := ⟨Op, Op.Result, Raised⟩

/-- Where the connection is lost. -/
inductive Fault where
  | before
  | after
  deriving DecidableEq

/-- What the environment chooses at a call: whether the connection to the database is lost, the id a `uuid4()` draws, and what a
request is answered. -/
structure Choice where
  fault : Option Fault
  id : Uuid
  answer : Except Raised Response

/-- The connection to the database is lost. -/
def connectionLost : Raised := ⟨"connection was closed in the middle of operation"⟩

/-- An id that is taken. -/
def duplicateId : Raised := ⟨"duplicate key value violates unique constraint \"economic_truth_outbox_pkey\""⟩

variable (env : Env)

/-- One call of a worker. A worker that has nowhere to deliver to keeps nothing in hand, and one that cannot say how far it got with a
row leaves what it has in hand. -/
def exec (w : Nat) : (o : Op) → Choice → State → Option (Except Raised o.Result × State)
  | .upsert source externalId actionId stage payload, ch, s =>
    match ch.fault, s.upsert ch.id source externalId actionId stage payload with
    | some .before, _ => some (.error connectionLost, s)
    | _, none => some (.error duplicateId, s)
    | some .after, some (_, s') => some (.error connectionLost, s')
    | none, some (row, s') => some (.ok row, if env.configured then s'.pickUp w [row] else s')
  | .selectDue limit, ch, s =>
    match ch.fault with
    | some _ => some (.error connectionLost, s)
    | none => some (.ok (s.selectDue limit), if env.configured then s.pickUp w (s.selectDue limit) else s)
  | .markSending id, ch, s =>
    match ch.fault with
    | some .before => some (.error connectionLost, s.leave w)
    | some .after => some (.error connectionLost, (s.update id OutboxRow.send).leave w)
    | none => some (.ok (), s.update id OutboxRow.send)
  | .post _ _ _, ch, s => some (ch.answer, s)
  | .heartbeat _ _ _, ch, s => some (ch.answer, s)
  | .markDelivered id response, ch, s =>
    match ch.fault with
    | some .before => some (.error connectionLost, s)
    | some .after => some (.error connectionLost, s.update id (OutboxRow.deliver response))
    | none => some (.ok (), (s.update id (OutboxRow.deliver response)).putDown w id)
  | .markPending id error, ch, s =>
    match ch.fault with
    | some .before => some (.error connectionLost, s.leave w)
    | some .after => some (.error connectionLost, (s.update id (OutboxRow.retry s.now error)).leave w)
    | none => some (.ok (), (s.update id (OutboxRow.retry s.now error)).putDown w id)
  | .wait duration, _, s => some (.ok (), { s with now := s.now + duration })

/-! ## The bridge -/

/-- `enqueue_event`: the row, none when there is no action. -/
def enqueueEvent (source externalId actionId : String) (stage : TruthStage) (payload : Payload) : Prog sig (Option OutboxRow) := do
  if actionId = "" then pure none
  else pure (some (← Prog.perform (S := sig) (.upsert source externalId actionId stage payload)))

/-- The last part of the path of a request. -/
def stageText : TruthStage → String
  | .outcome => "outcome"
  | .verify => "verify"
  | .reverse => "reverse"

/-- `f"{api_url}/api/economic-truth/actions/{action_id}/…"` -/
def Env.actionUrl (row : OutboxRow) : String :=
  env.apiUrl ++ "/api/economic-truth/actions/" ++ row.actionId ++ "/" ++ stageText row.stage

/-- The first characters of a text. -/
def clip (n : Nat) (text : String) : String := String.ofList (text.toList.take n)

/-- What a `for` over a JSON value goes through. -/
def iterate : Json → Except Raised (List Json)
  | .arr items => .ok items
  | .obj members => .ok (members.map (fun p => .str p.1))
  | .str text => .ok (text.toList.map (fun c => .str (String.ofList [c])))
  | .null => .error ⟨"'NoneType' object is not iterable"⟩
  | .bool _ => .error ⟨"'bool' object is not iterable"⟩
  | .number _ => .error ⟨"number is not iterable"⟩

/-- `payload.get("coverage_surfaces", [])`, gone through. -/
def coverageSurfaces (payload : Payload) : Except Raised (List Json) :=
  match payload.find? (fun p => decide (p.1 = "coverage_surfaces")) with
  | none => .ok []
  | some p => iterate p.2

/-- A value, or its exception thrown. -/
def orRaise {α : Type} : Except Raised α → Prog sig α
  | .ok a => pure a
  | .error e => Prog.throw e

/-- A heartbeat for each of the surfaces. -/
def heartbeats (row : OutboxRow) : List Json → Prog sig Unit
  | [] => pure ()
  | surfaceId :: rest => do
    let response : Response ← Prog.perform (S := sig) (.heartbeat row.id (env.apiUrl ++ "/api/economic-truth/coverage/heartbeat")
      [("surface_id", surfaceId), ("healthy", .bool true),
        ("detail", .obj [("action_id", .str row.actionId), ("external_id", .str row.externalId)])])
    if 400 ≤ response.status then Prog.throw ⟨"Economic Truth heartbeat HTTP " ++ toString response.status⟩
    heartbeats row rest

/-- The request of a row, its heartbeats, and the update that marks it delivered. -/
def sendRow (row : OutboxRow) : Prog sig Delivery := do
  let response : Response ← Prog.perform (S := sig) (.post row.id (env.actionUrl row) row.payload)
  if 400 ≤ response.status then
    Prog.throw ⟨"Economic Truth HTTP " ++ toString response.status ++ ": " ++ clip 300 response.text⟩
  let body ← orRaise response.json
  let surfaces ← orRaise (coverageSurfaces row.payload)
  heartbeats env row surfaces
  Prog.perform (S := sig) (.markDelivered row.id body)
  pure ⟨true, some body, none⟩

/-- What is done when something in `sendRow` raised. -/
def giveUp (row : OutboxRow) (e : Raised) : Prog sig Delivery := do
  Prog.perform (S := sig) (.markPending row.id (clip 500 e.message))
  pure ⟨false, none, some e.message⟩

/-- `deliver_event` -/
def deliverEvent (row : OutboxRow) : Prog sig Delivery := do
  if !env.configured then Prog.throw ⟨"Economic Truth endpoint and ingest key are required"⟩
  Prog.perform (S := sig) (.markSending row.id)
  (sendRow env row).tryCatch (giveUp row)

/-- `[await deliver_event(dict(row)) for row in rows]` -/
def deliverAll : List OutboxRow → Prog sig (List Delivery)
  | [] => pure []
  | row :: rows => do
    let delivery ← deliverEvent env row
    let deliveries ← deliverAll rows
    pure (delivery :: deliveries)

/-- `flush_outbox` -/
def flushOutbox (limit : Nat) : Prog sig (List Delivery) := do
  let rows : List OutboxRow ← Prog.perform (S := sig) (.selectDue limit)
  deliverAll env rows

/-- `queue_and_deliver`, which is also how the payment routes enqueue and deliver. -/
def queueAndDeliver (source externalId actionId : String) (stage : TruthStage) (payload : Payload) : Prog sig (Option Delivery) := do
  match ← enqueueEvent source externalId actionId stage payload with
  | none => pure none
  | some row => pure (some (← deliverEvent env row))

/-- The payload that `_record_royalty_truth` makes of a receipt. -/
def royaltyPayload (receipt : Receipt) (authorizationReceiptId : String) (stage : TruthStage) (reason : Option String) : Payload :=
  let body := receipt.body
  [("source", .str "archisynapse-royalty"), ("external_id", .str body.receiptId), ("status", .str body.status.text),
    ("transaction_id", .str (toString body.transactionId)),
    ("ledger_transaction_id", (body.ledgerTransactionId.map (fun id => Json.str (toString id))).getD .null),
    ("vics_checks", .arr (body.checks.map .str)),
    ("coverage_surfaces", .arr ([.str "lyrica.vics", .str "lyrica.royalty", .str "archisynapse.ledger"] ++
      if stage = .reverse then [.str "archisynapse.reversal"] else [])),
    ("parent_receipt_ids", .arr (if authorizationReceiptId = "" then [] else [.str authorizationReceiptId]))] ++
  match stage with
  | .outcome => []
  | .verify => [("independent", .bool true), ("verified_by", .str "archisynapse-royalty-reconciliation"),
      ("receipt_signature_verified", .bool true)]
  | .reverse => [("reason", .str (match reason with
      | some text => if text = "" then "royalty_reversed" else text
      | none => "royalty_reversed"))]

/-- `_record_royalty_truth` -/
def recordRoyaltyTruth (receipt : Receipt) (stage : TruthStage) (reason : Option String) : Prog sig (Option Delivery) :=
  match receipt.body.economicTruth.join with
  | none => pure none
  | some authority =>
    queueAndDeliver env "archisynapse-royalty" (stageText stage ++ ":" ++ receipt.body.receiptId) authority.actionId stage
      (royaltyPayload receipt authority.authorizationReceiptId stage reason)

/-- What callers may start; time passes as a call of its own. -/
inductive Call where
  | recordRoyaltyTruth (receipt : Receipt) (stage : TruthStage) (reason : Option String)
  | queueAndDeliver (source externalId actionId : String) (stage : TruthStage) (payload : Payload)
  | flushOutbox (limit : Nat)
  | wait (duration : Nat)

/-- The program of a call: what was delivered and what was not. -/
def program : Call → Prog sig (List Delivery)
  | .recordRoyaltyTruth receipt stage reason => do pure (← recordRoyaltyTruth env receipt stage reason).toList
  | .queueAndDeliver source externalId actionId stage payload => do
    pure (← queueAndDeliver env source externalId actionId stage payload).toList
  | .flushOutbox limit => flushOutbox env limit
  | .wait duration => do
    Prog.perform (S := sig) (.wait duration)
    pure []

/-- The gateway's workers over one outbox. -/
abbrev machine : Machine where
  sig := sig
  State := State
  Choice := Choice
  Call := Call
  Reply := List Delivery
  program := program env
  exec w o ch s := exec env w o ch s
  crash w s := s.leave w

end EconomicTruth

end Archisynapse
