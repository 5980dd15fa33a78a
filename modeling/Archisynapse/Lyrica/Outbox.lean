import Archisynapse.Base.Machine
import Archisynapse.EconomicTruth.Bridge

/-!
# Lyrica's outbox

royalty_outbox_simulator.py over the table `lyrica_outbox` (migration 004): an event is written down before it is sent, and workers
send what is due until the gateway has answered it. The column `updated_at`, which nothing reads, is left out. What the gateway
answers, and whether the connection to it or to the database is lost, is up to the environment. Delays are computed exactly. Time is
part of the state and passes by itself.
-/

namespace Archisynapse

namespace Lyrica

open EconomicTruth (Payload Raised Fault connectionLost clip)

/-! ## Rows -/

/-- `lyrica_outbox.state` -/
inductive RowState where
  | pending | sent | receipted | rejected
  deriving DecidableEq

/-- A row of `lyrica_outbox`; times are microseconds. -/
structure OutboxRow where
  eventId : String
  idempotencyKey : String
  correlationId : String
  payload : Json
  privateKeyB64 : String
  keyId : String
  state : RowState
  attempts : Nat
  nextAttemptAt : Int
  receipt : Option Json
  lastError : Option String
  createdAt : Int

/-- The gateway has answered the event for good. -/
def OutboxRow.settled (row : OutboxRow) : Bool := decide (row.state = .receipted ∨ row.state = .rejected)

/-- The table and the time. -/
structure State where
  rows : List OutboxRow
  now : Int

/-- No event. -/
def State.empty : State := ⟨[], 0⟩

/-- The row of an event. -/
def State.rowOf (s : State) (eventId : String) : Option OutboxRow := s.rows.find? (fun row => decide (row.eventId = eventId))

/-! ## What is sent -/

/-- What a worker takes from outside its arguments. -/
structure Env where
  /-- `sign_with_private_key`, or what it raises -/
  sign : String → ByteArray → Except Raised String
  /-- what `json.loads` reads back from a JSONB column that was given a text, none when the column refuses it -/
  jsonb : String → Option Json

/-- What a `LyricaOutboxSimulator` is made with. -/
structure Client where
  gatewayUrl : String
  tenantApiKey : String

/-- A request of `POST /api/v1/events`. -/
structure Request where
  url : String
  authorization : String
  content : ByteArray
  signature : String
  keyId : String
  correlationId : String
  idempotencyKey : String

/-- `event[name]`, where a text is needed. -/
def textAt (event : Json) (name : String) : Except Raised String :=
  match event with
  | .obj members =>
    match Json.member name members with
    | some (.str text) => .ok text
    | some _ => .error ⟨"expected str"⟩
    | none => .error ⟨"KeyError: " ++ name⟩
  | _ => .error ⟨"indices must be integers or slices, not str"⟩

/-- `json.dumps(event)` -/
def dumps (event : Json) : String := String.ofList (event.render .spaced)

/-- The request that `_attempt_one` makes of a row, or what is raised before it is made. -/
def OutboxRow.request (env : Env) (client : Client) (row : OutboxRow) : Except Raised Request := do
  let content := (dumps row.payload).toUTF8
  let signature ← env.sign row.privateKeyB64 content
  let correlationId ← textAt row.payload "correlation_id"
  let idempotencyKey ← textAt row.payload "idempotency_key"
  .ok
    { url := client.gatewayUrl ++ "/api/v1/events"
      authorization := "Bearer " ++ client.tenantApiKey
      content
      signature
      keyId := row.keyId
      correlationId
      idempotencyKey }

/-- What comes of a request: an `httpx.RequestError`, or a status and a text. -/
inductive Answer where
  | requestError (text : String)
  | answered (statusCode : Nat) (text : String)

/-- `random.random()` -/
structure Draw where
  value : ℚ
  nonneg : 0 ≤ value
  lt_one : value < 1

/-- `MAX_BACKOFF_SECONDS` -/
def maxBackoffSeconds : Nat := 30

/-- `_backoff_seconds` -/
def backoffSeconds (attempts : Nat) (random : Draw) : ℚ :=
  let capped : ℚ := min (2 ^ attempts) maxBackoffSeconds
  capped * (1 / 2 + random.value * (1 / 2))

/-! ## Statements -/

/-- What a `VARCHAR(255)` column makes of a text. -/
def column (text : String) : Except Raised String := (RoyaltyGateway.column text).mapError (fun e => ⟨e.message⟩)

/-- What a `TEXT` column makes of a text. -/
def textColumn (text : String) : Except Raised String := (RoyaltyGateway.argument text).mapError (fun e => ⟨e.message⟩)

/-- What a `JSONB` column makes of a text. -/
def jsonColumn (env : Env) (text : String) : Except Raised Json :=
  match env.jsonb text with
  | some value => .ok value
  | none => .error ⟨"invalid input syntax for type json"⟩

/-- The arguments of `enqueue`'s insert. -/
structure Values where
  eventId : String
  idempotencyKey : String
  correlationId : String
  payload : String
  privateKeyB64 : String
  keyId : String

/-- The row of an insert, or why it is refused. -/
def Values.row (env : Env) (now : Int) (v : Values) : Except Raised OutboxRow := do
  let eventId ← column v.eventId
  let idempotencyKey ← column v.idempotencyKey
  let correlationId ← column v.correlationId
  let payload ← jsonColumn env v.payload
  let privateKeyB64 ← column v.privateKeyB64
  let keyId ← column v.keyId
  .ok ⟨eventId, idempotencyKey, correlationId, payload, privateKeyB64, keyId, .pending, 0, now, none, none, now⟩

/-- `INSERT … ON CONFLICT (event_id) DO NOTHING` -/
def State.insert (env : Env) (s : State) (v : Values) : Except Raised State :=
  (v.row env s.now).map (fun row => if (s.rowOf row.eventId).isSome then s else { s with rows := s.rows ++ [row] })

/-- A row that `run_once` takes: it waits for an answer and its next attempt is due. -/
def OutboxRow.due (row : OutboxRow) (now : Int) : Bool :=
  decide (row.state = .pending ∨ row.state = .sent) && decide (row.nextAttemptAt ≤ now)

/-- `SELECT * … WHERE state IN ('pending', 'sent') AND next_attempt_at <= now() ORDER BY created_at` -/
def State.selectDue (s : State) : List OutboxRow :=
  (s.rows.filter (fun row => row.due s.now)).insertionSort (fun a b => a.createdAt ≤ b.createdAt)

/-- `SELECT count(*) … WHERE state IN ('pending', 'sent')` -/
def State.countUnsettled (s : State) : Nat := (s.rows.filter (fun row => !row.settled)).length

/-- How an attempt ends. -/
inductive Outcome where
  /-- `SET state = 'receipted', receipt = $2` -/
  | receipted (receipt : String)
  /-- `SET state = 'rejected', last_error = $2` -/
  | rejected (error : String)
  /-- `SET state = 'sent', last_error = $2, next_attempt_at = now() + ($3 || ' seconds')::interval` -/
  | retry (error : String) (delay : ℚ)

/-- What an attempt writes to its row, but for the number of attempts, or why an argument is refused. -/
def Outcome.change (env : Env) (now : Int) : Outcome → Except Raised (OutboxRow → OutboxRow)
  | .receipted receipt =>
    (jsonColumn env receipt).map (fun value row => { row with state := .receipted, receipt := some value })
  | .rejected error => (textColumn error).map (fun error row => { row with state := .rejected, lastError := some error })
  | .retry error delay => (textColumn error).map (fun error row =>
      { row with state := .sent, lastError := some error, nextAttemptAt := now + roundHalfEven (delay * 1000000) })

/-- `UPDATE lyrica_outbox SET …, attempts = attempts + 1 WHERE event_id = $1`; the attempts are an `INT`. -/
def State.update (env : Env) (s : State) (eventId : String) (outcome : Outcome) : Except Raised State := do
  let change ← outcome.change env s.now
  match s.rowOf eventId with
  | none => .ok s
  | some row =>
    if row.attempts + 1 < 2 ^ 31 then
      .ok { s with rows := updateKey (·.eventId) eventId (fun row => { change row with attempts := row.attempts + 1 }) s.rows }
    else .error ⟨"integer out of range"⟩

/-! ## Calls -/

/-- The calls of the programs. A request names the row it is made for. -/
inductive Op where
  | insert (v : Values)
  | selectDue
  | countUnsettled
  | post (eventId : String) (request : Request)
  | random
  | update (eventId : String) (outcome : Outcome)
  | wait (duration : Nat)

/-- What a call answers. -/
def Op.Result : Op → Type
  | .selectDue => List OutboxRow
  | .countUnsettled => Nat
  | .post _ _ => Answer
  | .random => Draw
  | _ => Unit

/-- The calls, with what they answer. -/
abbrev sig : Signature := ⟨Op, Op.Result, Raised⟩

/-- What the environment chooses at a call: whether the connection to the database is lost, what a request comes to (another
exception than a `RequestError` is raised), and what is drawn. -/
structure Choice where
  fault : Option Fault
  answer : Except Raised Answer
  draw : Draw

/-- A statement that writes, on a connection that may be lost before or after it. -/
def State.write (s : State) (fault : Option Fault) (result : Except Raised State) : Except Raised Unit × State :=
  match fault, result with
  | some .before, _ => (.error connectionLost, s)
  | _, .error e => (.error e, s)
  | some .after, .ok s' => (.error connectionLost, s')
  | none, .ok s' => (.ok (), s')

/-- A statement that reads. -/
def State.read {α : Type} (s : State) (fault : Option Fault) (a : α) : Except Raised α × State :=
  match fault with
  | some _ => (.error connectionLost, s)
  | none => (.ok a, s)

variable (env : Env)

/-- One call. -/
def exec : (o : Op) → Choice → State → Option (Except Raised o.Result × State)
  | .insert v, ch, s => some (s.write ch.fault (s.insert env v))
  | .selectDue, ch, s => some (s.read ch.fault s.selectDue)
  | .countUnsettled, ch, s => some (s.read ch.fault s.countUnsettled)
  | .post _ _, ch, s => some (ch.answer, s)
  | .random, ch, s => some (.ok ch.draw, s)
  | .update eventId outcome, ch, s => some (s.write ch.fault (s.update env eventId outcome))
  | .wait duration, _, s => some (.ok (), { s with now := s.now + duration })

/-! ## The simulator -/

/-- Make a call. -/
def step (o : Op) : Prog sig o.Result := Prog.perform (S := sig) o

/-- A value, or its exception raised. -/
def orRaise {α : Type} : Except Raised α → Prog sig α
  | .ok a => pure a
  | .error e => Prog.throw e

/-- `enqueue` -/
def enqueue (event : Payload) (privateKeyB64 keyId : String) : Prog sig Unit := do
  let eventId ← orRaise (textAt (.obj event) "event_id")
  let idempotencyKey ← orRaise (textAt (.obj event) "idempotency_key")
  let correlationId ← orRaise (textAt (.obj event) "correlation_id")
  step (.insert ⟨eventId, idempotencyKey, correlationId, dumps (.obj event), privateKeyB64, keyId⟩)

/-- `_mark_retry` -/
def markRetry (eventId : String) (attempts : Nat) (error : String) : Prog sig Unit := do
  let random : Draw ← step .random
  step (.update eventId (.retry (clip 1000 error) (backoffSeconds attempts random)))

/-- `_attempt_one` after its request: only a lost connection and a 503 are tried again. -/
def recordAnswer (row : OutboxRow) : Answer → Prog sig Unit
  | .requestError text => markRetry row.eventId row.attempts ("connection error: " ++ text)
  | .answered statusCode text =>
    if statusCode = 200 ∨ statusCode = 201 then step (.update row.eventId (.receipted text))
    else if statusCode = 503 then markRetry row.eventId row.attempts ("503 retry_later: " ++ text)
    else step (.update row.eventId (.rejected (toString statusCode ++ ": " ++ text)))

/-- `_attempt_one` -/
def attemptOne (client : Client) (row : OutboxRow) : Prog sig Unit := do
  let request ← orRaise (row.request env client)
  let answer : Answer ← step (.post row.eventId request)
  recordAnswer row answer

/-- The `for` of `run_once`: what a row raises ends it. -/
def attemptAll (client : Client) : List OutboxRow → Prog sig Unit
  | [] => pure ()
  | row :: rows => do
    attemptOne env client row
    attemptAll client rows

/-- `run_once` -/
def runOnce (client : Client) : Prog sig Nat := do
  let rows : List OutboxRow ← step .selectDue
  attemptAll env client rows
  pure rows.length

/-- `run_until_all_settled`, whose deadline lets the loop go round `rounds` times. -/
def runUntilAllSettled (client : Client) : Nat → Prog sig Unit
  | 0 => Prog.throw ⟨"outbox did not settle within timeout"⟩
  | rounds + 1 => do
    let pending : Nat ← step .countUnsettled
    if pending = 0 then pure ()
    else do
      let _ ← runOnce env client
      step (.wait 200000)
      runUntilAllSettled client rounds

/-- What callers may start; time passes as a call of its own. -/
inductive Call where
  | enqueue (event : Payload) (privateKeyB64 keyId : String)
  | runOnce (client : Client)
  | runUntilAllSettled (client : Client) (rounds : Nat)
  | wait (duration : Nat)

/-- The program of a call. -/
def program : Call → Prog sig Unit
  | .enqueue event privateKeyB64 keyId => enqueue event privateKeyB64 keyId
  | .runOnce client => do
    let _ ← runOnce env client
    pure ()
  | .runUntilAllSettled client rounds => runUntilAllSettled env client rounds
  | .wait duration => step (.wait duration)

/-- Any number of workers over one outbox. -/
abbrev machine : Machine where
  sig := sig
  State := State
  Choice := Choice
  Call := Call
  Reply := Unit
  program := program env
  exec _ := exec env
  crash _ s := s

end Lyrica

end Archisynapse
