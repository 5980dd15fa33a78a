import Archisynapse.Base.Sums
import Archisynapse.Gateway.Types

/-!
# The gateway's store

What the operations of `GatewayStore` do to the tables. Each runs in one transaction of its own (`tenant_connection`), so it is one
step; the row lock of `claim_idempotency` ends with that transaction. The ids and hashes the gateway makes fit their columns, so
only the merchant's idempotency key is checked against its column.
-/

namespace Archisynapse

namespace Gateway

/-- The tables. -/
structure Tables where
  merchants : List MerchantRow
  receipts : List ReceiptRow
  idempotency : List IdempotencyRow

/-- What the store is configured with: whether tenants are isolated, and the id of the key that decrypts credentials. -/
structure StoreConfig where
  tenantIsolation : Bool
  cipherKeyId : Option String
  deriving DecidableEq

/-- The idempotency row of a merchant and a key. -/
def Tables.idempotencyOf (d : Tables) (merchantId key : String) : Option IdempotencyRow :=
  d.idempotency.find? (fun i => decide (i.key = (merchantId, key)))

/-- Update the idempotency row of a merchant and a key. -/
def Tables.updateIdempotency (d : Tables) (merchantId key : String) (u : IdempotencyRow → IdempotencyRow) : Tables :=
  { d with idempotency := updateKey (·.key) (merchantId, key) u d.idempotency }

/-- The receipt of an event. -/
def Tables.receiptOf (d : Tables) (eventId : String) : Option ReceiptRow :=
  d.receipts.find? (fun r => decide (r.eventId = eventId))

/-- A merchant has a row. -/
def Tables.hasMerchant (d : Tables) (merchantId : String) : Bool := d.merchants.any (fun m => decide (m.merchantId = merchantId))

/-! ## Errors of the database -/

/-- A text that is too long for its column. -/
def tooLong : GatewayError := .raised "StringDataRightTruncationError" "value too long for type character varying(255)"

/-- A merchant without a row. -/
def noMerchant (table : String) : GatewayError :=
  .raised "ForeignKeyViolationError" ("insert or update on table \"" ++ table ++ "\" violates foreign key constraint")

/-- A second receipt of a merchant and a key. -/
def secondReceipt : GatewayError :=
  .raised "UniqueViolationError"
    "duplicate key value violates unique constraint \"gateway_payment_receipts_merchant_id_idempotency_key_key\""

/-- A row of another tenant. -/
def otherTenant (table : String) : GatewayError :=
  .raised "InsufficientPrivilegeError" ("new row violates row-level security policy for table \"" ++ table ++ "\"")

/-! ## Operations -/

/-- How long a claim is left alone: 300 seconds. -/
def reclaimAfter : Int := 300 * 1000000

/-- The claim of a row that is there. -/
def Tables.claimStored (d : Tables) (now : Int) (merchantId key requestHash : String) (row : IdempotencyRow) :
    Except GatewayError IdempotencyClaim × Tables :=
  if row.requestHash ≠ requestHash then (.error (.conflict "Idempotency-Key was already used for a different request"), d)
  else
    match row.status with
    | .completed => (.ok ⟨.replay, row.eventId⟩, d)
    | .processing =>
      if row.claimedAt ≤ now - reclaimAfter then
        (.ok ⟨.reclaimed, none⟩,
          d.updateIdempotency merchantId key (fun i => { i with claimedAt := now, failureReason := none }))
      else (.error (.inProgress "another request is already processing this Idempotency-Key"), d)
    | .failed =>
      (.ok ⟨.retry, none⟩,
        d.updateIdempotency merchantId key
          (fun i => { i with status := .processing, claimedAt := now, failureReason := none }))

/-- `claim_idempotency` -/
def Tables.claimIdempotency (d : Tables) (now : Int) (merchantId key requestHash : String) :
    Except GatewayError IdempotencyClaim × Tables :=
  if strip key = "" then (.error (.raised "ValueError" "Idempotency-Key is required"), d)
  else
    match varchar 255 key with
    | none => (.error tooLong, d)
    | some stored =>
      if (d.idempotencyOf merchantId stored).isSome then
        match d.idempotencyOf merchantId key with
        | none => (.error (.raised "GatewayStoreError" "idempotency row disappeared"), d)
        | some row => d.claimStored now merchantId key requestHash row
      else if !d.hasMerchant merchantId then (.error (noMerchant "gateway_payment_idempotency"), d)
      else
        (.ok ⟨.new, none⟩,
          { d with idempotency := d.idempotency ++ [⟨merchantId, stored, requestHash, .processing, none, none, now⟩] })

/-- `get_service_credentials` -/
def Tables.getServiceCredentials (d : Tables) (config : StoreConfig) (merchantId : String) :
    Except GatewayError ServiceCredentials :=
  match config.cipherKeyId with
  | none => .error (.raised "CredentialConfigurationError" "gateway master key is not configured")
  | some keyId =>
    match d.merchants.find? (fun m => decide (m.merchantId = merchantId) && m.active) with
    | some ⟨_, _, some credentials, credentialsKeyId⟩ =>
      if credentialsKeyId = some keyId then .ok credentials
      else .error (.raised "CredentialConfigurationError" "merchant credentials use an unknown key id")
    | _ => .error (.raised "AuthenticationError" "merchant service credentials are unavailable")

/-- `save_receipt`: a receipt whose event has a row takes that row's place. -/
def Tables.saveReceipt (d : Tables) (config : StoreConfig) (merchantId key requestHash : String) (payload : StoredPayload) :
    Except GatewayError Unit × Tables :=
  match varchar 255 key with
  | none => (.error tooLong, d)
  | some stored =>
    match d.receiptOf payload.receipt.eventId with
    | some row =>
      if config.tenantIsolation ∧ row.merchantId ≠ merchantId then (.error (otherTenant "gateway_payment_receipts"), d)
      else
        let replaced := fun r : ReceiptRow => { r with status := payload.receipt.status, payload }
        (.ok (), { d with receipts := updateKey (·.eventId) payload.receipt.eventId replaced d.receipts })
    | none =>
      if d.receipts.any (fun r => decide (r.key = (merchantId, stored))) then
        (.error secondReceipt, d)
      else if !d.hasMerchant merchantId then (.error (noMerchant "gateway_payment_receipts"), d)
      else
        let row := ⟨payload.receipt.eventId, merchantId, payload.receipt.correlationId, stored, requestHash,
          payload.receipt.status, payload⟩
        (.ok (), { d with receipts := d.receipts ++ [row] })

/-- `complete_idempotency`: the row is updated whatever its status is, and needs the receipt of the event. -/
def Tables.completeIdempotency (d : Tables) (config : StoreConfig) (merchantId key eventId : String) :
    Except GatewayError Unit × Tables :=
  if (d.idempotencyOf merchantId key).isNone then (.ok (), d)
  else
    match d.receiptOf eventId with
    | none => (.error (noMerchant "gateway_payment_idempotency"), d)
    | some row =>
      if config.tenantIsolation ∧ row.merchantId ≠ merchantId then (.error (otherTenant "gateway_payment_idempotency"), d)
      else
        (.ok (),
          d.updateIdempotency merchantId key
            (fun i => { i with status := .completed, eventId := some eventId, failureReason := none }))

/-- `fail_idempotency`: the row is updated whatever its status is. -/
def Tables.failIdempotency (d : Tables) (merchantId key reason : String) : Tables :=
  d.updateIdempotency merchantId key
    (fun i => { i with status := .failed, failureReason := some (String.ofList (reason.toList.take 500)) })

/-- `get_receipt` -/
def Tables.getReceipt (d : Tables) (merchantId eventId : String) : Option StoredPayload :=
  (d.receipts.find? (fun r => decide (r.merchantId = merchantId ∧ r.eventId = eventId))).map (·.payload)

end Gateway

end Archisynapse
