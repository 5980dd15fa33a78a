import Archisynapse.Payments.Service
import Mathlib.Data.List.Sort

/-!
# Lists of payments

`listPayments` of transaction-service-core.ts: one statement over the rows of `payments`, whose order reads the time a row was
made, and a cursor. The statement fails for a cursor that is no uuid and for a negative limit.
-/

namespace Archisynapse

namespace Payments

/-- A row of `payments` with its `created_at`. -/
structure StampedPayment where
  row : PaymentRow
  createdAt : Int
  deriving DecidableEq

/-- The rows of `payments`: `id` is the primary key. -/
structure StampedPayments where
  rows : List StampedPayment
  nodup : (rows.map (·.row.id)).Nodup

/-- `ORDER BY created_at DESC, id DESC` -/
def NewerFirst (p q : StampedPayment) : Prop := q.createdAt < p.createdAt ∨ q.createdAt = p.createdAt ∧ q.row.id ≤ p.row.id

instance : DecidableRel NewerFirst := fun _ _ => inferInstanceAs (Decidable (_ ∨ _ ∧ _))

/-- `WHERE organization_id = $1 [AND status = $2]` -/
def StampedPayment.matching (organizationId : String) (status : Option String) (p : StampedPayment) : Bool :=
  decide (p.row.organizationId = organizationId) && status.all (fun text => decide (p.row.status.text = text))

/-- `AND id < $3` -/
def StampedPayment.below (cursor : Option Uuid) (p : StampedPayment) : Bool := cursor.all (fun id => decide (p.row.id < id))

/-- The uuid of a cursor, when there is one. -/
def cursorId : Option UuidText → Except DatabaseError (Option Uuid)
  | none => .ok none
  | some text =>
    match text.value with
    | some id => .ok (some id)
    | none => .error .invalidText

/-- The statement of `listPayments`. -/
def selectPayments (sess : Session) (rows : List StampedPayment) (status : Option String) (cursor : Option UuidText)
    (limit : Int) : Except DatabaseError (List StampedPayment) := do
  let id ← cursorId cursor
  if limit < 0 then .error .failure
  else .ok (((rows.filter (fun p => sess.sees p.row.organizationId && p.matching sess.organizationId status && p.below id)
    ).insertionSort NewerFirst).take limit.toNat)

/-- The options of a list; a limit that is no number stands with the missing ones. -/
structure ListOptions where
  limit : Option Int
  cursor : Option UuidText
  status : Option String

/-- `Math.min(opts.limit || 50, 100)` -/
def pageSize (limit : Option Int) : Int := min (if limit.getD 0 = 0 then 50 else limit.getD 0) 100

/-- What `listPayments` returns. -/
structure PaymentPage where
  payments : List StampedPayment
  nextCursor : Option Uuid
  deriving DecidableEq

def listPayments (tenantIsolation : Bool) (rows : List StampedPayment) (organizationId : String) (opts : ListOptions) :
    Except PaymentError PaymentPage :=
  if organizationId = "" then .error (.named .error "organizationId is required for a tenant-scoped query")
  else
    let limit := pageSize opts.limit
    let cursor := opts.cursor.filter (fun text => decide (text.text ≠ ""))
    match selectPayments ⟨organizationId, tenantIsolation⟩ rows (truthy opts.status) cursor (limit + 1) with
    | .error e => .error (.database e)
    | .ok result =>
      if limit < result.length then
        let kept := result.take limit.toNat
        match kept.getLast? with
        | some last => .ok ⟨kept, some last.row.id⟩
        | none => .error (.named .typeError "Cannot read properties of undefined (reading 'id')")
      else .ok ⟨result, none⟩

/-- What a caller that follows `nextCursor` until it is null has visited. -/
inductive Visits (tenantIsolation : Bool) (rows : List StampedPayment) (organizationId : String) (limit : Option Int)
    (status : Option String) : Option UuidText → List StampedPayment → Prop where
  | last {cursor : Option UuidText} {payments : List StampedPayment}
      (h : listPayments tenantIsolation rows organizationId ⟨limit, cursor, status⟩ = .ok ⟨payments, none⟩) :
      Visits tenantIsolation rows organizationId limit status cursor payments
  | more {cursor : Option UuidText} {payments later : List StampedPayment} {id : Uuid}
      (h : listPayments tenantIsolation rows organizationId ⟨limit, cursor, status⟩ = .ok ⟨payments, some id⟩)
      (hlater : Visits tenantIsolation rows organizationId limit status (some (.stored id)) later) :
      Visits tenantIsolation rows organizationId limit status cursor (payments ++ later)

end Payments

end Archisynapse
