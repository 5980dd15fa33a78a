import Archisynapse.Base.Exec
import Archisynapse.Commerce.Types

/-!
# The agent-commerce store

The operations of authorization.py and receipts.py over the tables of storage.py. Each runs in a `BEGIN IMMEDIATE` transaction,
so the operations of all workers come one after another, and one that raises leaves the tables as they were.

What an operation takes from outside its arguments is passed to it: fresh ids, the clock, `tolerance` for the float product
`ceil(quoted_sats * (1 + advertised_tolerance))` (none when it raises), and `verifies` for the check of a stored receipt's
signature.
-/

namespace Archisynapse

namespace Commerce

/-- The tables. -/
structure Store where
  authorizations : List Authorization
  reservations : List Reservation
  receipts : List PaymentReceipt
  deriving DecidableEq

/-- The empty store. -/
def Store.empty : Store := ⟨[], [], []⟩

/-- An operation on the store. -/
abbrev Operation (α : Type) : Type := Exec Store CommerceError α

open Exec (throw gets modify transaction)

/-- Raise an exception. -/
def raise {α : Type} (code : ErrorCode) (message : String) : Operation α := throw ⟨code, message⟩

/-- The authorization with an id. -/
def Store.authorization (s : Store) (id : String) : Option Authorization :=
  s.authorizations.find? (fun a => decide (a.id = id))

/-- The reservation with an id. -/
def Store.reservation (s : Store) (id : String) : Option Reservation :=
  s.reservations.find? (fun r => decide (r.id = id))

/-- Update an authorization. -/
def Store.setAuthorization (s : Store) (id : String) (u : Authorization → Authorization) : Store :=
  { s with authorizations := updateKey (·.id) id u s.authorizations }

/-- Update a reservation. -/
def Store.setReservation (s : Store) (id : String) (u : Reservation → Reservation) : Store :=
  { s with reservations := updateKey (·.id) id u s.reservations }

/-- The row an operation has just written, read back. -/
def readBack {α : Type} (f : Store → Option α) : Operation α := do
  match ← gets f with
  | some a => pure a
  | none => raise .failure "row not found"

/-! ## Authorizations -/

/-- The arguments of `create`. The expiry is what `_parse_time` reads, none when it raises. -/
structure CreateArgs where
  tenantId : String
  orchestratorId : String
  maxTotalSats : Int
  maxPerCallSats : Int
  maxCalls : Int
  expiresAt : Option Int
  maxRouteFeeSats : Int
  allowedAgentNpubs : List String
  allowedSpecialties : List String
  authorizationId : Option String

/-- A list without repetitions, sorted. -/
def sortedSet (l : List String) : List String := l.eraseDups.mergeSort (fun a b => decide (a ≤ b))

/-- The id of a new authorization: the one given, unless it is empty. -/
def CreateArgs.id (args : CreateArgs) (uuid : String) : String :=
  match args.authorizationId with
  | some id => if id = "" then uuid else id
  | none => uuid

def create (now : Int) (uuid : String) (args : CreateArgs) : Operation Authorization := do
  if min (min args.maxTotalSats args.maxPerCallSats) args.maxCalls ≤ 0 then
    raise .valueError "budgets and max_calls must be positive"
  else if args.maxTotalSats < args.maxPerCallSats then
    raise .valueError "max_per_call_sats cannot exceed max_total_sats"
  else if args.maxRouteFeeSats < 0 then
    raise .valueError "max_route_fee_sats cannot be negative"
  else match args.expiresAt with
    | none => raise .valueError "Invalid isoformat string"
    | some expiresAt =>
      if expiresAt ≤ now then raise .valueError "authorization must expire in the future"
      else transaction (do
        let known ← gets (fun s => s.authorization (args.id uuid))
        if known.isSome then raise .integrityError "UNIQUE constraint failed: authorizations.id"
        else do
          modify (fun s => { s with authorizations := s.authorizations ++ [
            { id := args.id uuid
              tenantId := args.tenantId
              orchestratorId := args.orchestratorId
              maxTotalSats := args.maxTotalSats
              maxPerCallSats := args.maxPerCallSats
              maxRouteFeeSats := args.maxRouteFeeSats
              maxCalls := args.maxCalls
              allowedAgentNpubs := sortedSet args.allowedAgentNpubs
              allowedSpecialties := sortedSet args.allowedSpecialties
              expiresAt
              status := .active
              reservedSats := 0
              spentSats := 0
              callCount := 0
              version := 1 }] })
          readBack (fun s => s.authorization (args.id uuid)))

def revoke (authorizationId : String) : Operation Authorization :=
  transaction (do
    match ← gets (fun s => s.authorization authorizationId) with
    | none => raise .authorizationDenied "authorization not found"
    | some row =>
      if row.status = .revoked then pure row
      else do
        modify (fun s => s.setAuthorization authorizationId (fun a =>
          { a with status := .revoked, version := a.version + 1 }))
        readBack (fun s => s.authorization authorizationId))

/-! ## Reservations -/

/-- The arguments of `reserve`. -/
structure ReserveArgs where
  authorizationId : String
  idempotencyKey : String
  orchestrationId : String
  agentNpub : String
  specialty : String
  quotedSats : Int

/-- The open reservations of an authorization. -/
def Store.openReservations (s : Store) (authorizationId : String) : List Reservation :=
  s.reservations.filter (fun r => decide (r.authorizationId = authorizationId) && r.status.isOpen)

/-- The checks of `reserve` on the authorization, up to the amounts. -/
def admits (now : Int) (args : ReserveArgs) (row : Authorization) : Operation Unit :=
  if row.status = .revoked then raise .authorizationRevoked "authorization has been revoked"
  else if row.status ≠ .active then raise .authorizationDenied s!"authorization is {row.status.text}"
  else if row.expiresAt ≤ now then do
    -- the transaction is rolled back by the exception, and this write with it
    modify (fun s => s.setAuthorization args.authorizationId (fun a =>
      { a with status := .expired, version := a.version + 1 }))
    raise .authorizationExpired "authorization has expired"
  else if row.allowedAgentNpubs ≠ [] ∧ args.agentNpub ∉ row.allowedAgentNpubs then
    raise .authorizationDenied "agent is outside authorization scope"
  else if row.allowedSpecialties ≠ [] ∧ args.specialty ∉ row.allowedSpecialties then
    raise .authorizationDenied "specialty is outside authorization scope"
  else if row.maxPerCallSats < args.quotedSats then
    raise .budgetExceeded "quoted price exceeds per-call ceiling"
  else pure ()

/-- The insert of `reserve`: what is reserved is the invoice ceiling and the largest route fee. -/
def insertReservation (uuid : String) (args : ReserveArgs) (reservedSats : Int) : Operation Reservation := do
  let known ← gets (fun s => s.reservation uuid)
  if known.isSome then raise .integrityError "UNIQUE constraint failed: reservations.id"
  else if reservedSats ≤ 0 then raise .integrityError "CHECK constraint failed: reserved_sats > 0"
  else do
    modify (fun s => { s with reservations := s.reservations ++ [
      { id := uuid
        authorizationId := args.authorizationId
        idempotencyKey := args.idempotencyKey
        orchestrationId := args.orchestrationId
        agentNpub := args.agentNpub
        specialty := args.specialty
        quotedSats := args.quotedSats
        reservedSats
        invoiceSats := none
        paymentHash := none
        invoicePayload := none
        provider := none
        providerPaymentId := none
        routeFeeSats := none
        preimageHash := none
        settledAt := none
        status := .reserved
        receiptId := none }] })
    modify (fun s => s.setAuthorization args.authorizationId (fun a => { a with reservedSats := a.reservedSats + reservedSats }))
    readBack (fun s => s.reservation uuid)

def reserve (now : Int) (uuid : String) (tolerance : Int → Option Int) (args : ReserveArgs) : Operation Reservation :=
  if args.quotedSats ≤ 0 then raise .authorizationDenied "quoted_sats must be positive"
  else transaction (do
    match ← gets (fun s => s.reservations.find? (fun r =>
        decide (r.authorizationId = args.authorizationId ∧ r.idempotencyKey = args.idempotencyKey))) with
    | some existing =>
      if (existing.agentNpub, existing.specialty, existing.quotedSats, existing.orchestrationId) ≠
          (args.agentNpub, args.specialty, args.quotedSats, args.orchestrationId) then
        raise .idempotencyConflict "idempotency key already used with different call details"
      else pure existing
    | none => do
      match ← gets (fun s => s.authorization args.authorizationId) with
      | none => raise .authorizationDenied "authorization not found"
      | some row => do
        admits now args row
        let openCount ← gets (fun s => ((s.openReservations args.authorizationId).length : Int))
        if row.maxCalls ≤ row.callCount + openCount then raise .budgetExceeded "authorization call limit reached"
        else match tolerance args.quotedSats with
          | none => raise .failure "cannot convert float to integer"
          | some invoiceCeiling =>
            let reservedSats := invoiceCeiling + row.maxRouteFeeSats
            if row.maxPerCallSats + row.maxRouteFeeSats < reservedSats then
              raise .budgetExceeded "reserved amount exceeds per-call ceiling"
            else if row.maxTotalSats - row.spentSats - row.reservedSats < reservedSats then
              raise .budgetExceeded "authorization total budget would be exceeded"
            else insertReservation uuid args reservedSats)

/-- The reservation an operation is about. -/
def withReservation {α : Type} (reservationId : String) (f : Reservation → Operation α) : Operation α := do
  match ← gets (fun s => s.reservation reservationId) with
  | none => raise .authorizationDenied "reservation not found"
  | some row => f row

/-- Update a reservation and read it back. -/
def updateReservation (reservationId : String) (u : Reservation → Reservation) : Operation Reservation := do
  modify (fun s => s.setReservation reservationId u)
  readBack (fun s => s.reservation reservationId)

/-- A reservation bound to an invoice. -/
def Reservation.bind (r : Reservation) (invoice : DecodedInvoice) : Reservation :=
  { r with
    invoiceSats := some invoice.amountSats
    paymentHash := some invoice.paymentHash
    invoicePayload := some invoice
    status := .invoiceBound }

def bindInvoice (reservationId : String) (invoice : DecodedInvoice) : Operation Reservation :=
  if invoice.amountSats ≤ 0 ∨ invoice.paymentHash = "" then
    raise .authorizationDenied "invoice must have a positive amount and payment hash"
  else transaction (withReservation reservationId (fun row =>
    if ¬ (row.status = .reserved ∨ row.status = .invoiceBound) then
      raise .authorizationDenied s!"cannot bind invoice while reservation is {row.status.text}"
    else if row.reservedSats < invoice.amountSats then raise .budgetExceeded "invoice exceeds reserved budget"
    else if row.paymentHash.any (fun h => decide (h ≠ "" ∧ h ≠ invoice.paymentHash)) then
      raise .idempotencyConflict "reservation already bound to a different invoice"
    else updateReservation reservationId (·.bind invoice)))

def markPaymentInitiated (reservationId : String) : Operation Reservation :=
  transaction (do
    match ← gets (fun s => s.reservation reservationId) with
    | none => raise .authorizationDenied "payment can only start from invoice_bound"
    | some row =>
      if row.status ≠ .invoiceBound then raise .authorizationDenied "payment can only start from invoice_bound"
      else updateReservation reservationId (fun r => { r with status := .paymentInitiated }))

/-- The settlement arguments of `mark_paid`. -/
structure MarkPaidArgs where
  provider : String
  providerPaymentId : String
  routeFeeSats : Int
  preimageHash : String
  settledAt : String

/-- A reservation whose payment is settled. -/
def Reservation.settle (r : Reservation) (args : MarkPaidArgs) : Reservation :=
  { r with
    provider := some args.provider
    providerPaymentId := some args.providerPaymentId
    routeFeeSats := some args.routeFeeSats
    preimageHash := some args.preimageHash
    settledAt := some args.settledAt
    status := .paid }

def markPaid (reservationId : String) (args : MarkPaidArgs) : Operation Reservation :=
  if args.routeFeeSats < 0 then raise .valueError "route fee cannot be negative"
  else transaction (withReservation reservationId (fun row =>
    if row.status = .paid then
      if row.provider ≠ some args.provider ∨ row.providerPaymentId ≠ some args.providerPaymentId ∨
          row.preimageHash ≠ some args.preimageHash ∨ row.routeFeeSats ≠ some args.routeFeeSats then
        raise .idempotencyConflict "settlement evidence conflicts with prior payment"
      else pure row
    else if row.status ≠ .paymentInitiated then
      raise .authorizationDenied "reservation is not awaiting payment settlement"
    else match row.invoiceSats with
      | none => raise .failure "unsupported operand type(s) for +"
      | some invoiceSats =>
        if row.reservedSats < invoiceSats + args.routeFeeSats then
          raise .budgetExceeded "settled amount plus fees exceeds reserved budget"
        else updateReservation reservationId (·.settle args)))

def release (reservationId : String) : Operation Reservation :=
  transaction (withReservation reservationId (fun row =>
    if row.status = .released ∨ row.status = .finalized then pure row
    else if row.status = .paid then
      raise .authorizationDenied "paid reservations cannot be released; finalize a receipt instead"
    else do
      modify (fun s => s.setAuthorization row.authorizationId (fun a =>
        { a with reservedSats := a.reservedSats - row.reservedSats }))
      updateReservation reservationId (fun r => { r with status := .released })))

/-! ## Receipts -/

/-- The arguments of `finalize_paid_call`: the reservation and the authorization as the caller has them. -/
structure FinalizeArgs where
  reservation : Reservation
  authorization : Authorization
  endpoint : String
  invoice : DecodedInvoice
  settlement : SettlementEvidence
  delivery : DeliveryEvidence

/-- The debit of a call: the invoice and its route fee. -/
def FinalizeArgs.totalDebit (args : FinalizeArgs) : Int := args.invoice.amountSats + args.settlement.routeFeeSats

/-- The receipt of a call. -/
def FinalizeArgs.receipt (args : FinalizeArgs) (id : String) : PaymentReceipt :=
  { id
    authorizationId := args.reservation.authorizationId
    authorizationVersion := args.authorization.version
    reservationId := args.reservation.id
    orchestrationId := args.reservation.orchestrationId
    idempotencyKey := args.reservation.idempotencyKey
    tenantId := args.authorization.tenantId
    orchestratorId := args.authorization.orchestratorId
    agentNpub := args.reservation.agentNpub
    specialty := args.reservation.specialty
    endpoint := args.endpoint
    quotedSats := args.reservation.quotedSats
    invoice := args.invoice
    settlement := args.settlement
    delivery := args.delivery
    totalDebitSats := args.totalDebit }

/-- What a receipt does to its authorization: the reserved amount goes, the debit is spent, and the authorization is consumed
when its calls or its budget are used up. -/
def Authorization.charge (a : Authorization) (reservedSats totalDebit : Int) : Authorization :=
  { a with
    reservedSats := a.reservedSats - reservedSats
    spentSats := a.spentSats + totalDebit
    callCount := a.callCount + 1
    status := if a.maxCalls ≤ a.callCount + 1 ∨ a.maxTotalSats ≤ a.spentSats + totalDebit then .consumed else a.status }

def finalizePaidCall (uuid : String) (verifies : PaymentReceipt → Bool) (args : FinalizeArgs) : Operation PaymentReceipt :=
  if args.reservation.status ≠ .paid then raise .authorizationDenied "only paid reservations can be finalized"
  else transaction (do
    match ← gets (fun s => s.receipts.find? (fun r => decide (r.reservationId = args.reservation.id))) with
    | some existing =>
      if verifies existing then pure existing
      else raise .receiptIntegrityError "stored receipt failed signature verification"
    | none => do
      match ← gets (fun s => s.reservation args.reservation.id) with
      | none => raise .idempotencyConflict "reservation state changed before receipt finalization"
      | some row =>
        if row.status ≠ .paid then raise .idempotencyConflict "reservation state changed before receipt finalization"
        else if row.reservedSats < args.totalDebit then raise .authorizationDenied "final debit exceeds reservation"
        else do
          match ← gets (fun s => s.authorization args.reservation.authorizationId) with
          | none => raise .authorizationDenied "authorization disappeared"
          | some auth =>
            if auth.maxTotalSats < auth.spentSats + args.totalDebit then
              raise .authorizationDenied "final debit would exceed authorization total"
            else do
              let known ← gets (fun s => s.receipts.any (fun r => decide (r.id = uuid)))
              if known then raise .integrityError "UNIQUE constraint failed: receipts.id"
              else do
                modify (fun s => { s with receipts := s.receipts ++ [args.receipt uuid] })
                modify (fun s => s.setAuthorization args.reservation.authorizationId (fun a =>
                  a.charge row.reservedSats args.totalDebit))
                modify (fun s => s.setReservation args.reservation.id (fun r =>
                  { r with status := .finalized, receiptId := some uuid }))
                pure (args.receipt uuid))

/-- A receipt read back: none when there is none, and its signature is checked. -/
def getReceipt (verifies : PaymentReceipt → Bool) (receiptId : String) : Operation (Option PaymentReceipt) := do
  match ← gets (fun s => s.receipts.find? (fun r => decide (r.id = receiptId))) with
  | none => pure none
  | some receipt =>
    if verifies receipt then pure (some receipt)
    else raise .receiptIntegrityError "receipt signature verification failed"

/-! ## Clients -/

/-- One operation with its arguments and what it takes from outside. -/
inductive StoreCall where
  | create (now : Int) (uuid : String) (args : CreateArgs)
  | revoke (authorizationId : String)
  | reserve (now : Int) (uuid : String) (tolerance : Int → Option Int) (args : ReserveArgs)
  | getReservation (reservationId : String)
  | bindInvoice (reservationId : String) (invoice : DecodedInvoice)
  | markPaymentInitiated (reservationId : String)
  | markPaid (reservationId : String) (args : MarkPaidArgs)
  | release (reservationId : String)
  | finalizePaidCall (uuid : String) (verifies : PaymentReceipt → Bool) (args : FinalizeArgs)

/-- Run an operation for the reservations it returns. -/
def StoreCall.run : StoreCall → Operation (List Reservation)
  | .create now uuid args => do
    let _ ← Commerce.create now uuid args
    pure []
  | .revoke authorizationId => do
    let _ ← Commerce.revoke authorizationId
    pure []
  | .reserve now uuid tolerance args => do
    let r ← Commerce.reserve now uuid tolerance args
    pure [r]
  | .getReservation reservationId => gets (fun s => (s.reservation reservationId).toList)
  | .bindInvoice reservationId invoice => do
    let r ← Commerce.bindInvoice reservationId invoice
    pure [r]
  | .markPaymentInitiated reservationId => do
    let r ← Commerce.markPaymentInitiated reservationId
    pure [r]
  | .markPaid reservationId args => do
    let r ← Commerce.markPaid reservationId args
    pure [r]
  | .release reservationId => do
    let r ← Commerce.release reservationId
    pure [r]
  | .finalizePaidCall uuid verifies args => do
    let _ ← Commerce.finalizePaidCall uuid verifies args
    pure []

/-- The store and the reservations it has returned so far, to any client. -/
structure Session where
  store : Store
  returned : List Reservation

/-- A client that finalizes passes a reservation the store returned, however long ago. -/
def StoreCall.honest (returned : List Reservation) : StoreCall → Bool
  | .finalizePaidCall _ _ args => decide (args.reservation ∈ returned)
  | _ => true

/-- One operation of some client: it returns, or it raises. A client does not make a call that is not honest. -/
def Session.step (σ : Session) (c : StoreCall) : Session :=
  if c.honest σ.returned then
    match c.run σ.store with
    | (.ok rs, s) => ⟨s, σ.returned ++ rs⟩
    | (.error _, s) => ⟨s, σ.returned⟩
  else σ

/-- The session after operations of any clients, one after another. -/
def Session.after (σ : Session) (cs : List StoreCall) : Session := cs.foldl Session.step σ

/-- The session over the empty store. -/
def Session.empty : Session := ⟨.empty, []⟩

end Commerce

end Archisynapse
