import Archisynapse.Base.HashChain
import Archisynapse.Base.Json
import Archisynapse.Base.Machine

/-!
# The audit table and its transactions

`Database` of storage.py: the table `audit_events`, `append_audit_event`, `verify_audit_chain`, and `transaction`, which begins a
transaction, commits it when its body returns, and rolls it back when the body or the commit raises. SQLite lets one connection
write at a time: who has begun an immediate transaction works on a table of its own, and a commit makes it everyone's. The other
tables are not modelled: what their statements answer is a choice of the environment, as are the ids and the clock, and any
statement may fail, which may also end the transaction.
-/

namespace Archisynapse

namespace Audit

/-! ## Exceptions -/

/-- The exceptions of errors.py that the operations raise, `ValueError`, and what SQLite raises. -/
inductive FaultCode where
  | valueError | authorizationDenied | authorizationExpired | authorizationRevoked | budgetExceeded | idempotencyConflict
  | receiptIntegrityError | rateCardNotFound | policyPaused | modelRouteDenied | usageReconciliationError
  | serviceContractViolation | sqliteError
  deriving DecidableEq

/-- An exception: its class and its message. -/
structure Fault where
  code : FaultCode
  message : String
  deriving DecidableEq

/-! ## The table -/

/-- A row of `audit_events`. -/
structure AuditEvent where
  sequence : Nat
  eventId : String
  aggregateType : String
  aggregateId : String
  eventType : String
  payloadJson : String
  previousHash : Option String
  eventHash : String
  createdAt : String
  deriving DecidableEq

/-- What a row says: all of it but its number and the hashes. -/
def AuditEvent.content (e : AuditEvent) : List String :=
  [e.eventId, e.aggregateType, e.aggregateId, e.eventType, e.payloadJson, e.createdAt]

/-- The table with its keys: the primary key, which counts up, and two unique columns. -/
structure AuditTable where
  rows : List AuditEvent
  lastSequence : Nat
  sequences : (rows.map (·.sequence)).Nodup
  counted : ∀ e ∈ rows, e.sequence ≤ lastSequence
  eventIds : (rows.map (·.eventId)).Nodup
  eventHashes : (rows.map (·.eventHash)).Nodup

/-- The empty table. -/
def AuditTable.empty : AuditTable := ⟨[], 0, List.nodup_nil, by simp, List.nodup_nil, List.nodup_nil⟩

/-- `ORDER BY sequence ASC` -/
def AuditTable.ordered (t : AuditTable) : List AuditEvent := t.rows.insertionSort (fun a b => a.sequence ≤ b.sequence)

/-- `SELECT event_hash FROM audit_events ORDER BY sequence DESC LIMIT 1` -/
def AuditTable.lastHash (t : AuditTable) : Option String :=
  (t.rows.insertionSort (fun a b => b.sequence ≤ a.sequence)).head?.map (·.eventHash)

/-- The hexadecimal digest of a text. -/
abbrev Sha256 : Type := String → String

/-- What is hashed of an event that follows a hash. -/
def material (previousHash : Option String) (e : AuditEvent) : String := joinWith '|' (previousHash.getD "" :: e.content)

/-- The chain of the events. -/
def chain (sha256 : Sha256) : HashChain AuditEvent String where
  previous := (·.previousHash)
  hash := (·.eventHash)
  digest previousHash e := sha256 (material previousHash e)

/-- `verify_audit_chain` -/
def AuditTable.verifyAuditChain (sha256 : Sha256) (t : AuditTable) : Bool := (chain sha256).verify none t.ordered

/-- `INSERT INTO audit_events`: the number is the next one, and an id and a hash must not be taken. -/
def AuditTable.insert (t : AuditTable) (e : AuditEvent) : Except Fault AuditTable :=
  if hid : e.eventId ∈ t.rows.map (·.eventId) then
    .error ⟨.sqliteError, "UNIQUE constraint failed: audit_events.event_id"⟩
  else if hhash : e.eventHash ∈ t.rows.map (·.eventHash) then
    .error ⟨.sqliteError, "UNIQUE constraint failed: audit_events.event_hash"⟩
  else
    .ok
      { rows := t.rows ++ [{ e with sequence := t.lastSequence + 1 }]
        lastSequence := t.lastSequence + 1
        sequences := by
          rw [List.map_append]
          refine List.nodup_append'.2 ⟨t.sequences, List.nodup_singleton _, fun n hn hn' => ?_⟩
          obtain ⟨r, hr, rfl⟩ := List.mem_map.1 hn
          have hle := t.counted r hr
          have heq : r.sequence = t.lastSequence + 1 := List.mem_singleton.1 hn'
          omega
        counted := by
          intro r hr
          rcases List.mem_append.1 hr with hr | hr
          · exact Nat.le_succ_of_le (t.counted r hr)
          · rw [List.mem_singleton.1 hr]
        eventIds := by
          rw [List.map_append]
          refine List.nodup_append'.2 ⟨t.eventIds, List.nodup_singleton _, fun n hn hn' => hid ?_⟩
          rw [List.mem_singleton.1 hn'] at hn
          exact hn
        eventHashes := by
          rw [List.map_append]
          refine List.nodup_append'.2 ⟨t.eventHashes, List.nodup_singleton _, fun n hn hn' => hhash ?_⟩
          rw [List.mem_singleton.1 hn'] at hn
          exact hn }

/-! ## Statements -/

/-- The other tables that the operations read and write. -/
inductive Table where
  | authorizations | reservations | receipts | reputationOutcomes | agentReputation | serviceContracts | fableReceipts
  | aiSpendPolicies | aiRateCards | aiSpendReservations | aiUsageReceipts | aiProviderUsageEvents | aiSpendAlerts

/-- A value of a column. -/
inductive Value where
  | null
  | integer (n : Int)
  | real (text : String)
  | text (text : String)
  deriving DecidableEq

/-- The columns of a row. -/
abbrev Row : Type := String → Value

/-- A text that the code makes itself, of digits, letters and signs that are not a bar. -/
abbrev Token : Type := { text : String // '|' ∉ text.toList }

/-- `evt_` and an id. -/
def eventId (uuid : Token) : Token := ⟨"evt_" ++ uuid.1, by simp [uuid.2]⟩

/-- What the code asks of the database and of its surroundings. -/
inductive Statement where
  /-- `BEGIN IMMEDIATE` -/
  | begin
  /-- A `SELECT` of one row of another table. -/
  | fetchone (table : Table)
  /-- An `INSERT` or an `UPDATE` of another table. -/
  | execute (table : Table)
  /-- A value that the code computes from what it has. -/
  | compute
  | uuid
  | isoNow
  | selectHead
  | insertEvent (event : AuditEvent)
  | commit
  | rollback
  | close

abbrev Statement.Result : Statement → Type
  | .begin => Unit
  | .fetchone _ => Option Row
  | .execute _ => Unit
  | .compute => Value
  | .uuid => Token
  | .isoNow => Token
  | .selectHead => Option String
  | .insertEvent _ => Unit
  | .commit => Unit
  | .rollback => Unit
  | .close => Unit

/-- The statements and their answers. -/
abbrev signature : Signature where
  Op := Statement
  Res := Statement.Result
  Err := Fault

abbrev Program (α : Type) : Type := Prog signature α

/-- Make a statement. -/
def statement (o : Statement) : Program o.Result := Prog.perform (S := signature) o

/-! ## Transactions -/

/-- What an operation asks inside a transaction: the statements on the other tables, and to append an event. -/
inductive Query where
  | fetchone (table : Table)
  | execute (table : Table)
  | compute
  | uuid
  | append (eventId : Token) (aggregateType aggregateId eventType : String) (payload : Json)

abbrev Query.Result : Query → Type
  | .fetchone _ => Option Row
  | .execute _ => Unit
  | .compute => Value
  | .uuid => Token
  | .append _ _ _ _ _ => Unit

/-- The body of a transaction: it returns, it raises, or it asks and goes on with the answer. It handles no exception. -/
inductive Body (α : Type) where
  | pure (a : α)
  | raise (e : Fault)
  | ask (q : Query) (k : q.Result → Body α)

namespace Body

variable {α β : Type}

/-- Run a body, then the one its result picks. -/
def bind : Body α → (α → Body β) → Body β
  | .pure a, f => f a
  | .raise e, _ => .raise e
  | .ask q k, f => .ask q (fun a => (k a).bind f)

instance : Monad Body where
  pure := Body.pure
  bind := Body.bind

end Body

/-- `append_audit_event`, whose hash is not used by any caller -/
def appendAuditEvent (sha256 : Sha256) (eventId : Token) (aggregateType aggregateId eventType : String) (payload : Json) :
    Program Unit := do
  let payloadJson := payload.dumps .compact
  let previousHash ← statement .selectHead
  let createdAt ← statement .isoNow
  let event : AuditEvent :=
    { sequence := 0
      eventId := eventId.1
      aggregateType
      aggregateId
      eventType
      payloadJson
      previousHash
      eventHash := ""
      createdAt := createdAt.1 }
  statement (.insertEvent { event with eventHash := sha256 (material previousHash event) })

/-- The statements of what a body asks. -/
def Query.statements (sha256 : Sha256) : (q : Query) → Program q.Result
  | .fetchone table => statement (.fetchone table)
  | .execute table => statement (.execute table)
  | .compute => statement .compute
  | .uuid => statement .uuid
  | .append eventId aggregateType aggregateId eventType payload =>
    appendAuditEvent sha256 eventId aggregateType aggregateId eventType payload

/-- The statements of a body. -/
def Body.statements {α : Type} (sha256 : Sha256) : Body α → Program α
  | .pure a => Pure.pure a
  | .raise e => Prog.throw (S := signature) e
  | .ask q k => q.statements sha256 >>= fun a => (k a).statements sha256

/-- `transaction(immediate=True)` -/
def transaction {α : Type} (sha256 : Sha256) (body : Body α) : Program α :=
  (Prog.tryCatch (do
    statement .begin
    let a ← body.statements sha256
    statement .commit
    pure a) (fun e => do
      statement .rollback
      Prog.throw (S := signature) e)).ensure (statement .close)

/-! ## The machine -/

/-- The committed table, and the one of the connection that has begun to write. -/
structure State where
  db : AuditTable
  writer : Option (Nat × AuditTable)

/-- The empty database. -/
def State.empty : State := ⟨.empty, none⟩

/-- What a worker's connection sees. -/
def State.view (s : State) (w : Nat) : AuditTable :=
  match s.writer with
  | some (w', t) => if w' = w then t else s.db
  | none => s.db

/-- A worker's transaction is undone, if it has one. -/
def State.drop (s : State) (w : Nat) : State := { s with writer := s.writer.filter (fun p => !decide (p.1 = w)) }

/-- What the environment chooses at a statement: whether it fails and whether that ends the transaction, a row of another table,
a computed value, an id and the time. -/
structure Choice where
  fails : Option (Fault × Bool)
  row : Option Row
  value : Value
  uuid : Token
  now : Token

/-- One statement of worker `w`; none when it waits for the connection that writes. -/
def exec (w : Nat) (o : Statement) (ch : Choice) (s : State) : Option (Except Fault o.Result × State) :=
  match ch.fails with
  | some (e, ends) => some (.error e, if ends then s.drop w else s)
  | none =>
    match o with
    | .begin =>
      match s.writer with
      | none => some (.ok (), { s with writer := some (w, s.db) })
      | some (w', _) =>
        if w' = w then some (.error ⟨.sqliteError, "cannot start a transaction within a transaction"⟩, s) else none
    | .fetchone _ => some (.ok ch.row, s)
    | .execute _ => some (.ok (), s)
    | .compute => some (.ok ch.value, s)
    | .uuid => some (.ok ch.uuid, s)
    | .isoNow => some (.ok ch.now, s)
    | .selectHead => some (.ok (s.view w).lastHash, s)
    | .insertEvent event =>
      match s.writer with
      | some (w', t) =>
        if w' = w then
          match t.insert event with
          | .ok t' => some (.ok (), { s with writer := some (w, t') })
          | .error e => some (.error e, s)
        else none
      | none =>
        match s.db.insert event with
        | .ok t' => some (.ok (), { s with db := t' })
        | .error e => some (.error e, s)
    | .commit =>
      match s.writer with
      | some (w', t) => some (.ok (), if w' = w then ⟨t, none⟩ else s)
      | none => some (.ok (), s)
    | .rollback => some (.ok (), s.drop w)
    | .close => some (.ok (), s.drop w)

end Audit

end Archisynapse
