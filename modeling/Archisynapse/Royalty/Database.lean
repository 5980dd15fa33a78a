import Archisynapse.Royalty.Types

/-!
# The royalty tables

What the statements of royalty-service-core.ts do. They run on the pool's own connection, which no row-level security restricts.
The writes of a transaction are seen by others when it commits, all at once, so a transaction's writes and its COMMIT are one
statement here. `SELECT … FOR UPDATE` keeps the rows it finds locked until its transaction ends; who else asks for one of them
waits.

`event_id` has an index but no unique one, and the statements that look rows up by it do not order them: which row comes first
is up to the database.
-/

namespace Archisynapse

namespace Royalty

open Payments (column positive numeric)

/-- The tables. -/
structure Tables where
  obligations : List ObligationRow
  payouts : List PayoutRow
  reversals : List ReversalRow
  deriving DecidableEq

/-- Empty tables. -/
def Tables.empty : Tables := ⟨[], [], []⟩

/-! ## Writes -/

/-- The row an insert of an obligation makes, or why it is refused. -/
def Tables.obligationRow (d : Tables) (id : Uuid) (req : CreateRoyaltyObligationRequest) (status : RoyaltyStatus)
    (ledgerTransactionId : Option Uuid) : Except DatabaseError ObligationRow := do
  let eventId ← column 255 req.eventId
  let correlationId ← column 255 req.correlationId
  let idempotencyKey ← column 255 req.idempotencyKey
  let tenantId ← column 255 req.tenantId
  let trackId ← column 255 req.trackId
  let creatorId ← column 255 req.creatorId
  let amount ← positive (.ofNumeric req.amount)
  let currency ← column 3 req.currency
  let decisionPolicy ← column 50 req.decisionPolicy
  let requestHash ← column 64 req.requestHash
  if d.obligations.any (fun o => decide (o.id = id ∨ o.idempotencyKey = idempotencyKey)) then .error .uniqueViolation
  else .ok ⟨id, req.organizationId, eventId, correlationId, idempotencyKey, tenantId, trackId, creatorId, amount, currency,
    req.splits, status, decisionPolicy, roundHalfUp (req.riskScore * 10000), req.statusReasons, ledgerTransactionId, requestHash⟩

/-- The row an insert of a payout makes, or why it is refused. -/
def Tables.payoutRow (d : Tables) (id royaltyObligationId : Uuid) (payout : Payout) : Except DatabaseError PayoutRow := do
  let ownerId ← column 255 payout.ownerId
  let amount ← positive (.fin payout.amount)
  if d.payouts.any (fun p => decide (p.id = id)) then .error .uniqueViolation
  else if !d.obligations.any (fun o => decide (o.id = royaltyObligationId)) then .error .foreignKeyViolation
  else .ok ⟨id, royaltyObligationId, ownerId, amount, "PAID"⟩

/-- The row an insert of a reversal makes, or why it is refused. -/
def Tables.reversalRow (d : Tables) (id reversedObligationId : Uuid) (reversalEventId reversalIdempotencyKey : String)
    (reversalLedgerTransactionId : Uuid) : Except DatabaseError ReversalRow := do
  let reversalEventId ← column 255 reversalEventId
  let reversalIdempotencyKey ← column 255 reversalIdempotencyKey
  if d.reversals.any (fun r => decide (r.id = id ∨ r.reversalIdempotencyKey = reversalIdempotencyKey)) then
    .error .uniqueViolation
  else if !d.obligations.any (fun o => decide (o.id = reversedObligationId)) then .error .foreignKeyViolation
  else .ok ⟨id, reversedObligationId, reversalEventId, reversalIdempotencyKey, reversalLedgerTransactionId⟩

/-- A write of a transaction. -/
inductive Write where
  | insertObligation (id : Uuid) (req : CreateRoyaltyObligationRequest) (status : RoyaltyStatus)
      (ledgerTransactionId : Option Uuid)
  | insertPayout (id royaltyObligationId : Uuid) (payout : Payout)
  /-- `SET status = 'POSTED', ledger_transaction_id = $2` -/
  | post (id ledgerTransactionId : Uuid)
  /-- `SET status = 'REVERSED'` -/
  | reverse (id : Uuid)
  | insertReversal (id reversedObligationId : Uuid) (reversalEventId reversalIdempotencyKey : String)
      (reversalLedgerTransactionId : Uuid)

/-- One write. -/
def Tables.write (d : Tables) : Write → Except DatabaseError Tables
  | .insertObligation id req status ledgerTransactionId => do
    let row ← d.obligationRow id req status ledgerTransactionId
    .ok { d with obligations := d.obligations ++ [row] }
  | .insertPayout id royaltyObligationId payout => do
    let row ← d.payoutRow id royaltyObligationId payout
    .ok { d with payouts := d.payouts ++ [row] }
  | .post id ledgerTransactionId =>
    let posted := fun o : ObligationRow => { o with status := .posted, ledgerTransactionId := some ledgerTransactionId }
    .ok { d with obligations := updateKey (·.id) id posted d.obligations }
  | .reverse id =>
    let reversed := fun o : ObligationRow => { o with status := .reversed }
    .ok { d with obligations := updateKey (·.id) id reversed d.obligations }
  | .insertReversal id reversedObligationId reversalEventId reversalIdempotencyKey reversalLedgerTransactionId => do
    let row ← d.reversalRow id reversedObligationId reversalEventId reversalIdempotencyKey reversalLedgerTransactionId
    .ok { d with reversals := d.reversals ++ [row] }

/-- The writes of a transaction, one after another. -/
def Tables.writes : Tables → List Write → Except DatabaseError Tables
  | d, [] => .ok d
  | d, x :: xs => do
    let d ← d.write x
    d.writes xs

/-- The obligation a write updates, whose row it needs. -/
def Write.updates : Write → Option Uuid
  | .post id _ => some id
  | .reverse id => some id
  | _ => none

/-! ## Statements -/

/-- The statements of the royalty service. -/
inductive Statement where
  /-- `pool.connect()` -/
  | connect
  | selectByKey (key : String)
  /-- `SELECT id … WHERE event_id = $1` -/
  | selectByEvent (eventId : String)
  /-- `BEGIN` and `SELECT … WHERE event_id = $1 FOR UPDATE` -/
  | lockByEvent (eventId : String)
  | selectReversal (key : String)
  | selectObligation (id : Uuid)
  | selectPayouts (royaltyObligationId : Uuid)
  /-- the writes of a transaction and its `COMMIT` -/
  | commit (writes : List Write)
  | rollback

/-- What a statement answers with. -/
abbrev Statement.Result : Statement → Type
  | .selectByKey _ => Option ObligationRow
  | .selectByEvent _ => Option Uuid
  | .lockByEvent _ => Option ObligationRow
  | .selectReversal _ => Option ReversalRow
  | .selectObligation _ => Option ObligationRow
  | .selectPayouts _ => List PayoutRow
  | _ => Unit

/-- The obligations of an event. -/
def Tables.ofEvent (d : Tables) (eventId : String) : List ObligationRow :=
  d.obligations.filter (fun o => decide (o.eventId = eventId))

/-- The payouts of an obligation. -/
def Tables.payoutsOf (d : Tables) (royaltyObligationId : Uuid) : List PayoutRow :=
  d.payouts.filter (fun p => decide (p.royaltyObligationId = royaltyObligationId))

/-- `rows[0]` of rows that come in no order: any of them, as `order` has it. -/
def firstOf {α : Type} (order : Nat) (rows : List α) : Option α := rows[order % rows.length]?

/-- Committed rows, and the rows that open transactions hold. -/
structure Store where
  tables : Tables
  locks : List (Nat × Uuid)
  deriving DecidableEq

/-- Another worker holds the row of an obligation. -/
def Store.held (s : Store) (w : Nat) (id : Uuid) : Bool := s.locks.any (fun l => !decide (l.1 = w) && decide (l.2 = id))

/-- A worker's transaction ends: its locks are given up. -/
def Store.unlock (s : Store) (w : Nat) : Store := { s with locks := s.locks.filter (fun l => !decide (l.1 = w)) }

/-- A worker locks rows. -/
def Store.lock (s : Store) (w : Nat) (rows : List ObligationRow) : Store :=
  { s with locks := s.locks ++ rows.map (fun o => (w, o.id)) }

/-- One statement of a worker; none while it waits for a row. -/
def Store.perform (s : Store) (w order : Nat) : (o : Statement) → Option (Except DatabaseError o.Result × Store)
  | .connect => some (.ok (), s)
  | .selectByKey key => some (.ok (s.tables.obligations.find? (fun o => decide (o.idempotencyKey = key))), s)
  | .selectByEvent eventId => some (.ok ((firstOf order (s.tables.ofEvent eventId)).map (·.id)), s)
  | .lockByEvent eventId =>
    if (s.tables.ofEvent eventId).any (fun o => s.held w o.id) then none
    else some (.ok (firstOf order (s.tables.ofEvent eventId)), s.lock w (s.tables.ofEvent eventId))
  | .selectReversal key => some (.ok (s.tables.reversals.find? (fun r => decide (r.reversalIdempotencyKey = key))), s)
  | .selectObligation id => some (.ok (s.tables.obligations.find? (fun o => decide (o.id = id))), s)
  | .selectPayouts id => some (.ok (s.tables.payoutsOf id), s)
  | .commit writes =>
    if (writes.filterMap Write.updates).any (fun id => s.held w id) then none
    else match s.tables.writes writes with
      | .ok tables => some (.ok (), { s with tables }.unlock w)
      | .error e => some (.error e, s)
  | .rollback => some (.ok (), s.unlock w)

end Royalty

end Archisynapse
