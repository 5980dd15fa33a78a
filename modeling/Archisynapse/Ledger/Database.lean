import Archisynapse.Base.Machine
import Archisynapse.Base.Sums
import Archisynapse.Ledger.Types

/-!
# The ledger database

What the statements of the ledger service do (migrations 002, 003, 007 and 008), under READ COMMITTED: a statement sees what
is committed and what its own transaction has written. A transaction's writes are kept pending until it commits; a statement
that needs a row or a unique key another open transaction has written waits (it is blocked), and ends with an error when the
wait is broken off. A session under tenant isolation sees and writes the rows of its organization only.

The insert of a journal entry fires `update_account_balance`. The sum the trigger writes is taken when the entry is inserted;
it is written once the account's row is free, so that the trigger is a statement of its own here (`updateAccountBalance`).
-/

namespace Archisynapse

namespace Ledger

/-- The tables. -/
structure Tables where
  accounts : List AccountRow
  transactions : List TransactionRow
  entries : List EntryRow
  responses : List ResponseRow
  deriving DecidableEq

/-- The empty ledger. -/
def Tables.empty : Tables := ⟨[], [], [], []⟩

/-- A write of an open transaction. -/
inductive Write where
  | transaction (row : TransactionRow)
  | entry (row : EntryRow)
  | balance (accountId : Uuid) (balance : Int)
  | response (row : ResponseRow)
  | status (transactionId : Uuid) (status : TransactionStatus)
  deriving DecidableEq

/-- What a write does to the tables. -/
def Tables.apply (d : Tables) : Write → Tables
  | .transaction row => { d with transactions := d.transactions ++ [row] }
  | .entry row => { d with entries := d.entries ++ [row] }
  | .balance id n => { d with accounts := updateKey (·.id) id (fun a => { a with balance := n }) d.accounts }
  | .response row => { d with
      responses := if d.responses.any (fun r => decide (r.idempotencyKey = row.idempotencyKey)) then
          updateKey (·.idempotencyKey) row.idempotencyKey
            (fun r => { r with response := row.response, expiresAt := row.expiresAt }) d.responses
        else d.responses ++ [row] }
  | .status id st => { d with transactions := updateKey (·.id) id (fun t => { t with status := st }) d.transactions }

/-- What a write keeps others from until it is committed or rolled back. -/
inductive Lock where
  | transactionId (id : Uuid)
  | transactionKey (key : String)
  | entryId (id : Uuid)
  | account (id : Uuid)
  | responseKey (key : String)
  | transactionRow (id : Uuid)
  deriving DecidableEq

/-- The locks of a write: the unique keys of an inserted row, the row of an update. -/
def Write.locks : Write → List Lock
  | .transaction row => .transactionId row.id :: row.idempotencyKey.toList.map .transactionKey
  | .entry row => [.entryId row.id]
  | .balance id _ => [.account id]
  | .response row => [.responseKey row.idempotencyKey]
  | .status id _ => [.transactionRow id]

/-- The database: what is committed, and the writes of the open transactions in the order they were made. -/
structure State where
  db : Tables
  pending : List (Nat × Write)
  deriving DecidableEq

/-- Nothing committed and no transaction open. -/
def State.empty : State := ⟨.empty, []⟩

/-- The writes of one worker's open transaction. -/
def State.writes (s : State) (w : Nat) : List Write := (s.pending.filter (fun p => decide (p.1 = w))).map (·.2)

/-- What a worker's statements see. -/
def State.view (s : State) (w : Nat) : Tables := (s.writes w).foldl Tables.apply s.db

/-- A worker's transaction writes. -/
def State.write (s : State) (w : Nat) (x : Write) : State := { s with pending := s.pending ++ [(w, x)] }

/-- A worker's transaction is given up. -/
def State.discard (s : State) (w : Nat) : State :=
  { s with pending := s.pending.filter (fun p => !decide (p.1 = w)) }

/-- A worker's transaction is committed. -/
def State.commit (s : State) (w : Nat) : State := { s.discard w with db := s.view w }

/-- Another open transaction holds one of the locks. -/
def State.waits (s : State) (w : Nat) (locks : List Lock) : Bool :=
  s.pending.any (fun p => !decide (p.1 = w) && p.2.locks.any (fun l => decide (l ∈ locks)))

/-- A session: the organization it was opened for, whether it runs under row-level security, and the time of its call (in
milliseconds). -/
structure Session where
  organizationId : String
  tenantIsolation : Bool
  now : Int
  deriving DecidableEq

/-- Whether a session sees and may write the rows of an organization. -/
def Session.sees (sess : Session) (organizationId : String) : Bool :=
  !sess.tenantIsolation || decide (organizationId = sess.organizationId)

/-! ## Inserts -/

/-- The values of an account insert. -/
structure AccountValues where
  id : Uuid
  code : String
  name : String
  type : AccountType
  currency : String

/-- The row an account insert makes, or why it is refused: the widths of the columns, the primary key, UNIQUE (organization_id,
code). -/
def Tables.accountRow (d : Tables) (sess : Session) (v : AccountValues) : Except DatabaseError AccountRow :=
  match varchar 20 v.code, varchar 255 v.name, varchar 3 v.currency with
  | some code, some name, some currency =>
    if d.accounts.any (fun a => decide (a.id = v.id)) then .error .uniqueViolation
    else if d.accounts.any (fun a => decide (a.organizationId = sess.organizationId ∧ a.code = code)) then
      .error .uniqueViolation
    else .ok ⟨v.id, sess.organizationId, code, name, v.type, 0, currency, true⟩
  | _, _, _ => .error .valueTooLong

/-- The values of a transaction insert. -/
structure TransactionValues where
  id : Uuid
  type : TransactionType
  referenceId : Option String
  description : String
  amount : Decimal
  currency : String
  status : TransactionStatus
  idempotencyKey : Option String
  postedAt : Int
  reverses : Option Uuid

/-- The width of a column that may be null. -/
def varcharOrNull (n : Nat) : Option String → Option (Option String)
  | none => some none
  | some text => (varchar n text).map some

/-- The row a transaction insert makes, or why it is refused: the widths, the amount's column, the primary key, UNIQUE on the
idempotency key. -/
def Tables.transactionRow (d : Tables) (sess : Session) (v : TransactionValues) : Except DatabaseError TransactionRow :=
  match varcharOrNull 100 v.referenceId, varchar 3 v.currency, varcharOrNull 255 v.idempotencyKey with
  | some referenceId, some currency, some key =>
    match v.amount.toNumeric with
    | none => .error .numericOverflow
    | some amount =>
      if d.transactions.any (fun t => decide (t.id = v.id)) then .error .uniqueViolation
      else if key.isSome && d.transactions.any (fun t => decide (t.idempotencyKey = key)) then .error .uniqueViolation
      else .ok ⟨v.id, sess.organizationId, v.type, referenceId, v.description, amount, currency, v.status, key, v.postedAt,
        v.reverses⟩
  | _, _, _ => .error .valueTooLong

/-- The values of a journal entry insert. -/
structure EntryValues where
  id : Uuid
  transactionId : Uuid
  accountId : UuidText
  debitCredit : DebitCredit
  amount : Decimal
  description : String

/-- The row a journal entry insert makes, or why it is refused: the account's uuid, the amount's column and CHECK (amount > 0),
the primary key, the reference to the account and, under isolation, that the account is one of the tenant's. -/
def Tables.entryRow (d : Tables) (sess : Session) (v : EntryValues) : Except DatabaseError EntryRow :=
  match v.accountId.value, v.amount.toNumeric with
  | none, _ => .error .invalidText
  | _, none => .error .numericOverflow
  -- a not-a-number would pass the CHECK, but no balanced request has one (`validateTransactionBalance_num`)
  | _, some none => .error .checkViolation
  | some accountId, some (some amount) =>
    if amount ≤ 0 then .error .checkViolation
    else if d.entries.any (fun e => decide (e.id = v.id)) then .error .uniqueViolation
    else if !d.accounts.any (fun a => decide (a.id = accountId)) then .error .foreignKeyViolation
    else if sess.tenantIsolation &&
        !d.accounts.any (fun a => decide (a.id = accountId ∧ a.organizationId = sess.organizationId)) then
      .error .rowLevelSecurity
    else .ok ⟨v.id, v.transactionId, sess.organizationId, accountId, v.debitCredit, amount, v.description⟩

/-! ## Sums -/

/-- The sum of an account's debits less its credits over some entries. -/
def accountSum (es : List EntryRow) (accountId : Uuid) : Int :=
  sumWhere (fun e => decide (e.accountId = accountId)) EntryRow.signed es

/-- The debits of a transaction. -/
def debitSum (es : List EntryRow) (transactionId : Uuid) : Int :=
  sumWhere (fun e => decide (e.transactionId = transactionId ∧ e.debitCredit = .debit)) (·.amount) es

/-- The credits of a transaction. -/
def creditSum (es : List EntryRow) (transactionId : Uuid) : Int :=
  sumWhere (fun e => decide (e.transactionId = transactionId ∧ e.debitCredit = .credit)) (·.amount) es

/-- The entries of a transaction. -/
def entriesOf (es : List EntryRow) (transactionId : Uuid) : List EntryRow :=
  es.filter (fun e => decide (e.transactionId = transactionId))

/-- The signed effect of a transaction on an account. -/
def effect (es : List EntryRow) (transactionId accountId : Uuid) : Int :=
  sumWhere (fun e => decide (e.transactionId = transactionId ∧ e.accountId = accountId)) EntryRow.signed es

/-- The entries a session sees. -/
def Tables.entriesSeen (d : Tables) (sess : Session) : List EntryRow :=
  d.entries.filter (fun e => sess.sees e.organizationId)

/-! ## Statements -/

/-- The statements of the ledger service. -/
inductive Statement where
  /-- `pool.connect()`, `SET ROLE` and `set_config` -/
  | connect
  | begin
  | commit
  | rollback
  /-- `session.close()` -/
  | close
  | insertAccount (v : AccountValues)
  | insertAuditLog
  | selectResponse (key : String)
  | insertTransaction (v : TransactionValues)
  | selectAccount (id : UuidText)
  /-- the insert and the sum its trigger takes -/
  | insertEntry (v : EntryValues)
  /-- the write of the insert's trigger -/
  | updateAccountBalance (accountId : Uuid) (sum : Int)
  | checkTransactionBalanced (transactionId : Uuid)
  | upsertResponse (key : String) (response : Transaction) (expiresAt : Int)
  | selectTransaction (id : UuidText)
  | selectEntries (transactionId : UuidText)
  | updateTransactionStatus (status : TransactionStatus) (id : UuidText)

/-- What a statement answers with. -/
abbrev Statement.Result : Statement → Type
  | .insertAccount _ => AccountRow
  | .selectResponse _ => Option Transaction
  | .selectAccount _ => Bool
  | .insertEntry _ => EntryRow × Int
  | .checkTransactionBalanced _ => Bool
  | .selectTransaction _ => Option TransactionRow
  | .selectEntries _ => List EntryRow
  | _ => Unit

/-- The calls of a ledger operation: statements on a session. -/
abbrev signature : Signature where
  Op := Session × Statement
  Res o := o.2.Result
  Err := LedgerError

/-- An insert or update: it waits for the locks of its write, is refused by the schema, or writes. -/
def State.insert {α β : Type} (s : State) (w : Nat) (locks : List Lock) (row : Except DatabaseError α) (x : α → List Write)
    (answer : α → β) : Option (Except LedgerError β × State) :=
  if s.waits w locks then none
  else match row with
    | .error e => some (.error (.database e), s)
    | .ok a => some (.ok (answer a), (x a).foldl (fun s x => s.write w x) s)

/-- A select whose uuid argument must be read first. -/
def selectBy {α : Type} (s : State) (id : UuidText) (f : Uuid → α) : Option (Except LedgerError α × State) :=
  match id.value with
  | none => some (.error (.database .invalidText), s)
  | some id => some (.ok (f id), s)

/-- One statement that does not fail for reasons outside the schema. -/
def State.perform (s : State) (w : Nat) (sess : Session) :
    (o : Statement) → Option (Except LedgerError o.Result × State)
  | .connect => some (.ok (), s)
  | .begin => some (.ok (), s.discard w)
  | .commit => some (.ok (), s.commit w)
  | .rollback => some (.ok (), s.discard w)
  | .close => some (.ok (), s.discard w)
  | .insertAccount v =>
    -- outside a transaction: committed at once
    match s.db.accountRow sess v with
    | .error e => some (.error (.database e), s)
    | .ok row => some (.ok row, { s with db := { s.db with accounts := s.db.accounts ++ [row] } })
  | .insertAuditLog => some (.ok (), s)
  | .selectResponse key =>
    some (.ok (((s.view w).responses.find? (fun r =>
      decide (r.idempotencyKey = key ∧ sess.now < r.expiresAt) && sess.sees r.organizationId)).map (·.response)), s)
  | .insertTransaction v =>
    s.insert w (.transactionId v.id :: (((varcharOrNull 255 v.idempotencyKey).bind id).toList.map .transactionKey))
      ((s.view w).transactionRow sess v) (fun row => [.transaction row]) (fun _ => ())
  | .selectAccount id =>
    selectBy s id (fun id => (s.view w).accounts.any (fun a =>
      decide (a.id = id ∧ a.organizationId = sess.organizationId)))
  | .insertEntry v =>
    s.insert w [.entryId v.id] ((s.view w).entryRow sess v) (fun row => [.entry row])
      (fun row => (row, accountSum ((s.view w).entriesSeen sess ++ [row]) row.accountId))
  | .updateAccountBalance accountId sum =>
    s.insert w [.account accountId] (if sum.natAbs < 10 ^ 19 then .ok () else .error .numericOverflow)
      (fun _ => if (s.view w).accounts.any (fun a => decide (a.id = accountId) && sess.sees a.organizationId) then
        [.balance accountId sum] else [])
      (fun _ => ())
  | .checkTransactionBalanced id =>
    let seen := (s.view w).entriesSeen sess
    some (.ok (decide (debitSum seen id = creditSum seen id ∧ 0 < debitSum seen id)), s)
  | .upsertResponse key response expiresAt =>
    s.insert w ((varchar 255 key).toList.map .responseKey)
      (match varchar 255 key with
        | none => .error .valueTooLong
        | some key =>
          if (s.view w).responses.any (fun r => decide (r.idempotencyKey = key) && !sess.sees r.organizationId) then
            .error .rowLevelSecurity
          else .ok (⟨key, sess.organizationId, response, expiresAt⟩ : ResponseRow))
      (fun row => [.response row]) (fun _ => ())
  | .selectTransaction id =>
    selectBy s id (fun id => (s.view w).transactions.find? (fun t =>
      decide (t.id = id ∧ t.organizationId = sess.organizationId)))
  | .selectEntries id =>
    selectBy s id (fun id => entriesOf ((s.view w).entriesSeen sess) id)
  | .updateTransactionStatus status id =>
    match id.value with
    | none => some (.error (.database .invalidText), s)
    | some id =>
      s.insert w [.transactionRow id] (.ok ())
        (fun _ => if (s.view w).transactions.any (fun t => decide (t.id = id) && sess.sees t.organizationId) then
          [.status id status] else [])
        (fun _ => ())

/-- A statement that fails for a reason outside the schema has no effect, and a transaction that could not be committed or
rolled back is given up. `close` never throws. -/
def State.fail (s : State) (w : Nat) : (o : Statement) → Except LedgerError o.Result × State
  | .commit => (.error (.database .failure), s.discard w)
  | .rollback => (.error (.database .failure), s.discard w)
  | .close => (.ok (), s.discard w)
  | _ => (.error (.database .failure), s)

/-- One statement of a worker; the choice says whether it fails for a reason outside the schema. -/
def exec (w : Nat) (o : Session × Statement) (fails : Bool) (s : State) :
    Option (Except LedgerError o.2.Result × State) :=
  if fails then some (s.fail w o.2) else s.perform w o.1 o.2

end Ledger

end Archisynapse
