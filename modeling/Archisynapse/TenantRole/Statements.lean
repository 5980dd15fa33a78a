import Mathlib.Algebra.Ring.Int.Defs
import Mathlib.Data.List.Basic

/-!
# The role of tenants

What the role `archisynapse_tenant` may do to the tables of migrations 001 to 006: the row-level policies and the grants of
migration 007, the grants and the guard of migration 008, and the triggers that an insert or an update fires.

A row is what its columns hold; the columns that no grant, policy, key or trigger names are `other`. Amounts are numbers of
ten-thousandths. Left out: the checks and types of single columns, which only refuse more.
-/

namespace Archisynapse

namespace TenantRole

/-! ## Rows -/

/-- What a column holds. -/
inductive Value where
  | null
  | text (text : String)
  | number (n : Int)
  deriving DecidableEq

/-- `=`, which is not true of nulls. -/
def Value.eq (a b : Value) : Bool := decide (a ≠ .null ∧ a = b)

/-- The number of a value; none counts as 0. -/
def Value.toInt : Value → Int
  | .number n => n
  | _ => 0

/-- The tables; those that the role has no grant on are `other`. -/
inductive Table where
  | payments | refunds | processorRefundAttempts | accounts | journalEntries | transactions | auditLogs | idempotencyStore
  | unpostedPayments | royaltyObligations | royaltyPayouts | royaltyReversals | gatewayMerchants | gatewayPaymentReceipts
  | gatewayPaymentIdempotency | gatewayAuditEvents | royaltyReceipts | royaltyIdempotency
  | other (name : String)
  deriving DecidableEq

inductive Column where
  | id | organizationId | merchantId | tenantId | paymentId | accountId | royaltyObligationId | reversedObligationId | eventId
  | receiptId | code | idempotencyKey | reversalIdempotencyKey | debitCredit | amount | balance | status | payload | response
  | expiresAt | processorTransactionId | processorRefundId | failureReason | ledgerTransactionId | processorSucceededAt
  | ledgerSucceededAt | claimedAt | failedAt | completedAt | updatedAt
  | other (name : String)
  deriving DecidableEq

abbrev Row : Type := Column → Value

/-- The rows of every table. -/
abbrev Database : Type := Table → List Row

/-- The rows of one table are replaced. -/
def Database.with (db : Database) (t : Table) (rows : List Row) : Database := fun t' => if t' = t then rows else db t'

/-! ## Keys -/

/-- The primary key of a table and its other unique columns. -/
def uniques : Table → List (List Column)
  | .payments | .refunds | .processorRefundAttempts | .transactions | .royaltyObligations => [[.id], [.idempotencyKey]]
  | .accounts => [[.id], [.organizationId, .code]]
  | .journalEntries | .auditLogs | .unpostedPayments | .royaltyPayouts | .gatewayAuditEvents => [[.id]]
  | .idempotencyStore => [[.idempotencyKey]]
  | .royaltyReversals => [[.id], [.reversalIdempotencyKey]]
  | .gatewayMerchants => [[.merchantId]]
  | .gatewayPaymentReceipts => [[.eventId], [.merchantId, .idempotencyKey]]
  | .gatewayPaymentIdempotency => [[.merchantId, .idempotencyKey]]
  | .royaltyReceipts => [[.receiptId]]
  | .royaltyIdempotency => [[.tenantId, .idempotencyKey]]
  | .other _ => []

/-- Two rows of a table agree in a key. -/
def conflicts (t : Table) (r r' : Row) : Bool := (uniques t).any (fun key => key.all (fun c => (r c).eq (r' c)))

/-- A column that names the key of a row of another table. -/
structure Reference where
  column : Column
  table : Table
  key : Column
  deriving DecidableEq

/-- The foreign keys. -/
def references : Table → List Reference
  | .refunds | .processorRefundAttempts => [⟨.paymentId, .payments, .id⟩]
  | .journalEntries => [⟨.accountId, .accounts, .id⟩]
  | .royaltyPayouts => [⟨.royaltyObligationId, .royaltyObligations, .id⟩]
  | .royaltyReversals => [⟨.reversedObligationId, .royaltyObligations, .id⟩]
  | .gatewayPaymentReceipts | .gatewayAuditEvents => [⟨.merchantId, .gatewayMerchants, .merchantId⟩]
  | .gatewayPaymentIdempotency => [⟨.merchantId, .gatewayMerchants, .merchantId⟩, ⟨.eventId, .gatewayPaymentReceipts, .eventId⟩]
  | .royaltyIdempotency => [⟨.receiptId, .royaltyReceipts, .receiptId⟩]
  | _ => []

/-- A row's references are null or name a row. -/
def referenced (db : Database) (t : Table) (r : Row) : Bool :=
  (references t).all (fun f => decide (r f.column = .null) || (db f.table).any (fun p => (p f.key).eq (r f.column)))

/-! ## Policies -/

/-- The column of a table that names the tenant. -/
def tenantColumn : Table → Option Column
  | .gatewayMerchants | .gatewayPaymentReceipts | .gatewayPaymentIdempotency | .gatewayAuditEvents => some .merchantId
  | .royaltyReceipts | .royaltyIdempotency => some .tenantId
  | .royaltyPayouts | .royaltyReversals | .other _ => none
  | _ => some .organizationId

/-- The column of a child table that names the obligation it is visible through. -/
def obligationColumn : Table → Option Column
  | .royaltyPayouts => some .royaltyObligationId
  | .royaltyReversals => some .reversedObligationId
  | _ => none

/-- `archisynapse_current_tenant` -/
def currentTenant (setting : String) : Value := if setting = "" then .null else .text setting

/-- The policy `tenant_isolation`. -/
def tenantIsolation (setting : String) (db : Database) (t : Table) (r : Row) : Bool :=
  match tenantColumn t with
  | some c => (r c).eq (currentTenant setting)
  | none =>
    match obligationColumn t with
    | some c => (db .royaltyObligations).any (fun o => (o .id).eq (r c) && (o .organizationId).eq (currentTenant setting))
    | none => false

/-- The rows of a table that the role sees. -/
def visible (setting : String) (db : Database) (t : Table) : List Row := (db t).filter (tenantIsolation setting db t)

/-- The references of the policies `same_tenant_account`, `same_tenant_payment` and `same_tenant_receipt`, and the tenant's column of
both tables. -/
def sameTenantParent : Table → Option (Reference × Column)
  | .journalEntries => some (⟨.accountId, .accounts, .id⟩, .organizationId)
  | .refunds | .processorRefundAttempts => some (⟨.paymentId, .payments, .id⟩, .organizationId)
  | .gatewayPaymentIdempotency => some (⟨.eventId, .gatewayPaymentReceipts, .eventId⟩, .merchantId)
  | .royaltyIdempotency => some (⟨.receiptId, .royaltyReceipts, .receiptId⟩, .tenantId)
  | _ => none

/-- The tables whose reference may be null. -/
def mayBeNull : Table → Bool
  | .gatewayPaymentIdempotency | .royaltyIdempotency => true
  | _ => false

/-- The restrictive policy of a table. -/
def sameTenant (setting : String) (db : Database) (t : Table) (r : Row) : Bool :=
  match sameTenantParent t with
  | none => true
  | some (f, tenant) => (mayBeNull t && decide (r f.column = .null)) ||
    (visible setting db f.table).any (fun p => (p f.key).eq (r f.column) && (p tenant).eq (r tenant))

/-- `WITH CHECK` of both policies of a table. -/
def withCheck (setting : String) (db : Database) (t : Table) (r : Row) : Bool :=
  tenantIsolation setting db t r && sameTenant setting db t r

/-! ## Grants -/

/-- The tables that the role may insert into. -/
def mayInsert : Table → Bool
  | .gatewayMerchants | .other _ => false
  | _ => true

/-- The columns that the role may update. -/
def updatable : Table → List Column
  | .payments => [.status, .processorTransactionId, .failureReason, .ledgerTransactionId]
  | .processorRefundAttempts =>
    [.status, .processorRefundId, .failureReason, .processorSucceededAt, .ledgerTransactionId, .ledgerSucceededAt, .updatedAt]
  | .transactions => [.status, .updatedAt]
  | .idempotencyStore => [.response, .expiresAt]
  | .royaltyObligations => [.status, .ledgerTransactionId]
  | .gatewayPaymentIdempotency => [.status, .claimedAt, .failedAt, .failureReason, .eventId, .completedAt]
  | .gatewayPaymentReceipts => [.status, .payload, .updatedAt]
  | .royaltyIdempotency => [.status, .claimedAt, .failureReason, .receiptId, .completedAt, .failedAt]
  | .royaltyReceipts => [.status, .payload, .updatedAt]
  | .accounts => [.balance, .updatedAt]
  | _ => []

/-! ## Triggers -/

/-- What an entry adds to the balance of its account. -/
def entryAmount (e : Row) : Int := if e .debitCredit = .text "DEBIT" then (e .amount).toInt else -(e .amount).toInt

/-- The debits less the credits of an account among some entries. -/
def entriesOf (entries : List Row) (account : Value) : Int :=
  ((entries.filter (fun e => (e .accountId).eq account)).map entryAmount).sum

/-- `update_account_balance`, which runs as the role. The guard of migration 008 lets the update of a trigger through. -/
def updateAccountBalance (setting : String) (now : Value) (db : Database) (account : Value) : Database :=
  db.with .accounts ((db .accounts).map (fun a =>
    if tenantIsolation setting db .accounts a = true ∧ (a .id).eq account = true then
      fun c =>
        if c = .balance then .number (entriesOf (visible setting db .journalEntries) account)
        else if c = .updatedAt then now
        else a c
    else a))

/-- The tables whose updates set `updated_at`. -/
def stampsUpdates : Table → Bool
  | .payments | .royaltyObligations | .gatewayMerchants | .gatewayPaymentReceipts | .processorRefundAttempts => true
  | _ => false

/-! ## Statements -/

/-- What a statement reads: the rows that the role sees. -/
abbrev Snapshot : Type := Table → List Row

/-- A statement: what it returns, inserts or sets is made of the rows that the role sees. An update sets columns of the rows it picks. -/
inductive Statement where
  | select (query : Snapshot → List Row)
  | insert (t : Table) (rows : Snapshot → List Row)
  | update (t : Table) (columns : List Column) (set : Snapshot → Row → Option Row)

/-- The rows of an insert are stored, and its triggers run. -/
def insertRows (setting : String) (now : Value) (t : Table) (rows : List Row) (db : Database) : Option Database :=
  if mayInsert t = true ∧ (∀ r ∈ rows, withCheck setting db t r = true ∧ referenced db t r = true) ∧
      (db t ++ rows).Pairwise (fun r r' => conflicts t r r' = false) then
    let stored := db.with t (db t ++ rows)
    some (if t = .journalEntries then (rows.map (· .accountId)).foldl (updateAccountBalance setting now) stored else stored)
  else none

/-- A row that an update picks, with its columns set; none when it does not. -/
def newRow (setting : String) (now : Value) (db : Database) (t : Table) (columns : List Column) (set : Row → Option Row) (r : Row) :
    Option Row :=
  if tenantIsolation setting db t r = true then
    (set r).map (fun values c =>
      if c = .updatedAt ∧ stampsUpdates t = true then now
      else if c ∈ columns then values c
      else r c)
  else none

/-- The rows of an update are stored. The guard of migration 008 refuses to update an account. -/
def updateRows (setting : String) (now : Value) (t : Table) (columns : List Column) (set : Row → Option Row) (db : Database) :
    Option Database :=
  let rows := (db t).map (fun r => (newRow setting now db t columns set r).getD r)
  if (∀ c ∈ columns, c ∈ updatable t) ∧
      (∀ r ∈ db t, (newRow setting now db t columns set r).all (fun r' =>
        !decide (t = .accounts) && withCheck setting db t r' && referenced db t r') = true) ∧
      rows.Pairwise (fun r r' => conflicts t r r' = false) then
    some (db.with t rows)
  else none

/-- A statement of the role: what it returns and the rows it leaves, or none when it is refused. -/
def execute (setting : String) (now : Value) (db : Database) : Statement → Option (List Row × Database)
  | .select query => some (query (visible setting db), db)
  | .insert t rows => (insertRows setting now t (rows (visible setting db)) db).map (fun db' => ([], db'))
  | .update t columns set => (updateRows setting now t columns (set (visible setting db)) db).map (fun db' => ([], db'))

/-- The rows after a statement. One that is refused changes nothing. -/
def after (setting : String) (db : Database) (x : Value × Statement) : Database :=
  ((execute setting x.1 db x.2).map (·.2)).getD db

/-- The rows after statements made one after another, each at a time. -/
def afterAll (setting : String) (db : Database) (xs : List (Value × Statement)) : Database := xs.foldl (after setting) db

end TenantRole

end Archisynapse
