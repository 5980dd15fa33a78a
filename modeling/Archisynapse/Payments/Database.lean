import Archisynapse.Payments.Types

/-!
# The payment tables

What the statements of transaction-service-core.ts do. Each is a transaction of its own. A session under tenant isolation sees
and writes the rows of its organization only (migration 007).
-/

namespace Archisynapse

namespace Payments

/-- The tables. -/
structure Tables where
  payments : List PaymentRow
  refunds : List RefundRow
  attempts : List AttemptRow
  unposted : List UnpostedRow
  deriving DecidableEq

/-- Empty tables. -/
def Tables.empty : Tables := ⟨[], [], [], []⟩

/-- A session: the organization it was opened for, and whether it runs under row-level security. -/
structure Session where
  organizationId : String
  tenantIsolation : Bool
  deriving DecidableEq

/-- Whether a session sees and may write the rows of an organization. -/
def Session.sees (sess : Session) (organizationId : String) : Bool :=
  !sess.tenantIsolation || decide (organizationId = sess.organizationId)

/-! ## Inserts and updates -/

/-- The amount a NUMERIC(19, 4) column makes of a value. -/
def numeric (value : Decimal) : Except DatabaseError Int :=
  match value.toNumeric with
  | some (some n) => .ok n
  -- only finite values are written
  | some none => .error .checkViolation
  | none => .error .numericOverflow

/-- An amount with CHECK (amount > 0). -/
def positive (value : Decimal) : Except DatabaseError Int := do
  let n ← numeric value
  if n ≤ 0 then .error .checkViolation else .ok n

/-- The text a VARCHAR(n) column makes of a text. -/
def column (n : Nat) (text : String) : Except DatabaseError String :=
  match varchar n text with
  | some text => .ok text
  | none => .error .valueTooLong

/-- The values of a payment insert. -/
structure PaymentValues where
  id : Uuid
  amount : Decimal
  currency : String
  idempotencyKey : String
  feeAmount : Decimal

/-- The row a payment insert makes, or why it is refused. -/
def Tables.paymentRow (d : Tables) (sess : Session) (v : PaymentValues) : Except DatabaseError PaymentRow := do
  let amount ← positive v.amount
  let feeAmount ← numeric v.feeAmount
  let currency ← column 3 v.currency
  let idempotencyKey ← column 255 v.idempotencyKey
  if d.payments.any (fun p => decide (p.id = v.id ∨ p.idempotencyKey = idempotencyKey)) then .error .uniqueViolation
  else .ok ⟨v.id, sess.organizationId, amount, currency, .pending, idempotencyKey, none, none, feeAmount⟩

/-- What an update of a payment sets. -/
inductive PaymentChange where
  | failed (processorTransactionId : Option String)
  | succeeded (processorTransactionId : Option String)
  | posted (ledgerTransactionId : Uuid)
  | status (status : PaymentStatus)

/-- The row an update of a payment leaves. -/
def PaymentRow.change (p : PaymentRow) : PaymentChange → PaymentRow
  | .failed processorTransactionId => { p with status := .failed, processorTransactionId }
  | .succeeded processorTransactionId => { p with status := .succeeded, processorTransactionId }
  | .posted ledgerTransactionId => { p with ledgerTransactionId := some ledgerTransactionId }
  | .status status => { p with status }

/-- The values of an insert of an unposted payment. -/
structure UnpostedValues where
  paymentId : Uuid
  idempotencyKey : String
  grossAmount : Decimal
  feeAmount : Decimal
  netAmount : Decimal
  currency : String
  referenceId : String

/-- The row an insert of an unposted payment makes, or why it is refused. -/
def UnpostedValues.row (v : UnpostedValues) (sess : Session) : Except DatabaseError UnpostedRow := do
  let idempotencyKey ← column 255 v.idempotencyKey
  let grossAmount ← numeric v.grossAmount
  let feeAmount ← numeric v.feeAmount
  let netAmount ← numeric v.netAmount
  let currency ← column 3 v.currency
  let referenceId ← column 100 v.referenceId
  .ok ⟨sess.organizationId, v.paymentId, idempotencyKey, grossAmount, feeAmount, netAmount, currency, referenceId⟩

/-- The values of an insert of a refund attempt. -/
structure AttemptValues where
  id : Uuid
  paymentId : Uuid
  organizationId : String
  idempotencyKey : String
  processorPaymentId : String
  amount : Decimal
  currency : String
  reason : String

/-- A row may only be written for the session's organization, and for a payment of it. -/
def Tables.mayAttach (d : Tables) (sess : Session) (organizationId : String) (paymentId : Uuid) : Except DatabaseError Unit :=
  if !sess.sees organizationId then .error .rowLevelSecurity
  else if !d.payments.any (fun p => decide (p.id = paymentId)) then .error .foreignKeyViolation
  else if sess.tenantIsolation &&
      !d.payments.any (fun p => decide (p.id = paymentId ∧ p.organizationId = organizationId)) then
    .error .rowLevelSecurity
  else .ok ()

/-- The row an insert of a refund attempt makes, none when its key is taken (ON CONFLICT DO NOTHING), or why it is refused. -/
def Tables.attemptRow (d : Tables) (sess : Session) (v : AttemptValues) : Except DatabaseError (Option AttemptRow) := do
  let amount ← positive v.amount
  let idempotencyKey ← column 255 v.idempotencyKey
  let processorPaymentId ← column 255 v.processorPaymentId
  let currency ← column 3 v.currency
  d.mayAttach sess v.organizationId v.paymentId
  if d.attempts.any (fun a => decide (a.idempotencyKey = idempotencyKey)) then .ok none
  else if d.attempts.any (fun a => decide (a.id = v.id)) then .error .uniqueViolation
  else .ok (some ⟨v.id, v.paymentId, v.organizationId, idempotencyKey, processorPaymentId, none, amount, currency, v.reason,
    .processing, none⟩)

/-- What an update of a refund attempt sets. -/
inductive AttemptChange where
  | processing
  | failed (processorRefundId : Option String)
  | processorSucceeded (processorRefundId : Option String)
  /-- only the failure reason -/
  | ledgerPending
  | ledgerSucceeded (ledgerTransactionId : Uuid)

/-- The row an update of a refund attempt leaves. -/
def AttemptRow.change (a : AttemptRow) : AttemptChange → AttemptRow
  | .processing => { a with status := .processing }
  | .failed processorRefundId => { a with status := .failed, processorRefundId }
  | .processorSucceeded processorRefundId => { a with status := .processorSucceeded, processorRefundId }
  | .ledgerPending => a
  | .ledgerSucceeded ledgerTransactionId =>
    { a with status := .ledgerSucceeded, ledgerTransactionId := some ledgerTransactionId }

/-- The values of a refund insert. -/
structure RefundValues where
  id : Uuid
  paymentId : Uuid
  organizationId : String
  amount : Decimal
  reason : String
  idempotencyKey : String
  processorRefundId : Option String
  ledgerTransactionId : Uuid

/-- The width of a column that may be null. -/
def columnOrNull (n : Nat) : Option String → Except DatabaseError (Option String)
  | none => .ok none
  | some text => (column n text).map some

/-- The row a refund insert makes, none when its key is taken (ON CONFLICT DO NOTHING), or why it is refused. -/
def Tables.refundRow (d : Tables) (sess : Session) (v : RefundValues) : Except DatabaseError (Option RefundRow) := do
  let amount ← positive v.amount
  let idempotencyKey ← column 255 v.idempotencyKey
  let processorRefundId ← columnOrNull 255 v.processorRefundId
  d.mayAttach sess v.organizationId v.paymentId
  if d.refunds.any (fun r => decide (r.idempotencyKey = idempotencyKey)) then .ok none
  else if d.refunds.any (fun r => decide (r.id = v.id)) then .error .uniqueViolation
  else .ok (some ⟨v.id, v.paymentId, v.organizationId, amount, v.reason, .succeeded, idempotencyKey, processorRefundId,
    some v.ledgerTransactionId⟩)

/-! ## Statements -/

/-- The statements of the transaction service. -/
inductive Statement where
  /-- `pool.connect()`, `SET ROLE` and `set_config` -/
  | connect
  | selectPaymentByKey (key : String)
  | insertPayment (v : PaymentValues)
  | selectPayment (id : UuidText)
  | updatePayment (id : Uuid) (change : PaymentChange)
  | insertUnposted (v : UnpostedValues)
  | selectRefund (key : String)
  | sumRefunds (paymentId : Uuid)
  | insertAttempt (v : AttemptValues)
  | selectAttempt (key : String)
  | updateAttempt (id : Uuid) (change : AttemptChange)
  | insertRefund (v : RefundValues)

/-- What a statement answers with. -/
abbrev Statement.Result : Statement → Type
  | .selectPaymentByKey _ => Option PaymentRow
  | .selectPayment _ => Option PaymentRow
  | .selectRefund _ => Option RefundRow
  | .sumRefunds _ => Int
  | .insertAttempt _ => Option AttemptRow
  | .selectAttempt _ => Option AttemptRow
  | _ => Unit

/-- `SELECT COALESCE(SUM(amount), 0) FROM refunds` of a payment, as a session sees it. -/
def Tables.refundedTotal (d : Tables) (sess : Session) (paymentId : Uuid) : Int :=
  sumWhere (fun r => decide (r.paymentId = paymentId) && decide (r.status = .succeeded) && sess.sees r.organizationId) (·.amount)
    d.refunds

/-- Insert a row, or nothing, or be refused. -/
def Tables.insert {α β : Type} (d : Tables) (row : Except DatabaseError α) (write : α → Tables) (answer : α → β) :
    Except DatabaseError β × Tables :=
  match row with
  | .error e => (.error e, d)
  | .ok a => (.ok (answer a), write a)

/-- One statement. -/
def Tables.perform (d : Tables) (sess : Session) : (o : Statement) → Except DatabaseError o.Result × Tables
  | .connect => (.ok (), d)
  | .selectPaymentByKey key =>
    (.ok (d.payments.find? (fun p => decide (p.idempotencyKey = key) && sess.sees p.organizationId)), d)
  | .insertPayment v =>
    d.insert (d.paymentRow sess v) (fun row => { d with payments := d.payments ++ [row] }) (fun _ => ())
  | .selectPayment id =>
    match id.value with
    | none => (.error .invalidText, d)
    | some id => (.ok (d.payments.find? (fun p => decide (p.id = id ∧ p.organizationId = sess.organizationId))), d)
  | .updatePayment id change =>
    (.ok (), { d with
      payments := updateKey (·.id) id (fun p => if sess.sees p.organizationId then p.change change else p) d.payments })
  | .insertUnposted v => d.insert (v.row sess) (fun row => { d with unposted := d.unposted ++ [row] }) (fun _ => ())
  | .selectRefund key =>
    (.ok (d.refunds.find? (fun r => decide (r.idempotencyKey = key) && sess.sees r.organizationId)), d)
  | .sumRefunds paymentId => (.ok (d.refundedTotal sess paymentId), d)
  | .insertAttempt v =>
    d.insert (d.attemptRow sess v) (fun row => { d with attempts := d.attempts ++ row.toList }) (fun row => row)
  | .selectAttempt key =>
    (.ok (d.attempts.find? (fun a => decide (a.idempotencyKey = key) && sess.sees a.organizationId)), d)
  | .updateAttempt id change =>
    (.ok (), { d with
      attempts := updateKey (·.id) id (fun a => if sess.sees a.organizationId then a.change change else a) d.attempts })
  | .insertRefund v =>
    d.insert (d.refundRow sess v) (fun row => { d with refunds := d.refunds ++ row.toList }) (fun _ => ())

end Payments

end Archisynapse
