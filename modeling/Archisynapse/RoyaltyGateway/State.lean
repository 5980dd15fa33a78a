import Archisynapse.RoyaltyGateway.Types

/-!
# The state of the royalty receipt loop

The operations of royalty_state.py on the gateway's royalty tables. Each is one transaction. Neither `complete_idempotency` nor
`fail_idempotency` looks at the status it overwrites, and a receipt is written over the one with its id. A column refuses a text
that is too long or cuts the blanks it has too many, so a row may have another key than the one it was inserted with. The database
takes no text with a zero character.

The tables of rejections and of the tenants' keys are apart (`Gate`), as only the verification of a request reads or writes them;
what administrators write to the keys is an `AdminWrite`.
-/

namespace Archisynapse

namespace RoyaltyGateway

/-- The tables; receipts are in the order of their `created_at`. -/
structure Tables where
  idempotency : List IdempotencyRow
  receipts : List ReceiptRow

/-- Empty tables. -/
def Tables.empty : Tables := ⟨[], []⟩

/-! ## Texts -/

/-- A text as an argument of a query. -/
def argument (text : String) : Except Failure String :=
  if text.toList.any (fun c => decide (c.toNat = 0)) then .error (.raised "invalid byte sequence for encoding \"UTF8\": 0x00")
  else .ok text

/-- What a `VARCHAR(255)` column makes of a text. -/
def column (text : String) : Except Failure String := do
  let text ← argument text
  match varchar 255 text with
  | some stored => .ok stored
  | none => .error (.raised "value too long for type character varying(255)")

/-! ## Idempotency -/

/-- `PROCESSING_ABANDONED_AFTER_SECONDS`, in microseconds -/
def processingAbandonedAfter : Int := 30 * 1000000

/-- The row of a key. -/
def Tables.idempotencyOf (d : Tables) (tenantId key : String) : Option IdempotencyRow :=
  d.idempotency.find? (fun i => decide (i.key = (tenantId, key)))

/-- Update the row of a key. -/
def Tables.updateIdempotency (d : Tables) (tenantId key : String) (u : IdempotencyRow → IdempotencyRow) : Tables :=
  { d with idempotency := updateKey (·.key) (tenantId, key) u d.idempotency }

/-- `claim_idempotency` of a key that is taken: the row is looked up by the key as it was asked for. -/
def Tables.claimExisting (d : Tables) (now : Int) (tenantId key requestHash : String) : Except Failure Claim × Tables :=
  match d.idempotencyOf tenantId key with
  | none => (.error (.raised "'NoneType' object is not subscriptable"), d)
  | some existing =>
    if existing.requestHash ≠ requestHash then (.ok .conflict, d)
    else match existing.status with
      | .completed => (.ok (.completed existing.receiptId), d)
      | .failed =>
        (.ok .claimed, d.updateIdempotency tenantId key (fun i =>
          { i with status := .processing, claimedAt := now, failureReason := none }))
      | .processing =>
        if processingAbandonedAfter < now - existing.claimedAt then
          (.ok .claimed, d.updateIdempotency tenantId key (fun i => { i with claimedAt := now }))
        else (.ok .processing, d)

/-- `claim_idempotency`: a row is inserted unless its key is taken. -/
def Tables.claimIdempotency (d : Tables) (now : Int) (tenantId key requestHash : String) : Except Failure Claim × Tables :=
  match column tenantId, column key with
  | .ok storedTenant, .ok storedKey =>
    if (d.idempotencyOf storedTenant storedKey).isSome then d.claimExisting now tenantId key requestHash
    else
      (.ok .claimed,
        { d with
          idempotency := d.idempotency ++ [⟨storedTenant, storedKey, requestHash, .processing, none, none, now⟩] })
  | .error e, _ => (.error e, d)
  | _, .error e => (.error e, d)

/-- A receipt with an id is stored. -/
def Tables.hasReceipt (d : Tables) (receiptId : String) : Bool := d.receipts.any (fun r => decide (r.receiptId = receiptId))

/-- `complete_idempotency`: the row names a receipt that is stored, or the database refuses. -/
def Tables.completeIdempotency (d : Tables) (tenantId key receiptId : String) : Except Failure Tables :=
  if (d.idempotencyOf tenantId key).isSome ∧ d.hasReceipt receiptId = false then
    .error (.raised "insert or update on table \"royalty_idempotency\" violates foreign key constraint")
  else .ok (d.updateIdempotency tenantId key (fun i => { i with status := .completed, receiptId := some receiptId }))

/-- The first characters of a text. -/
def firstChars (n : Nat) (text : String) : String := String.ofList (text.toList.take n)

/-- `fail_idempotency` -/
def Tables.failIdempotency (d : Tables) (tenantId key reason : String) : Tables :=
  d.updateIdempotency tenantId key (fun i => { i with status := .failed, failureReason := some (firstChars 255 reason) })

/-! ## Receipts -/

/-- `save_royalty_receipt`: `event_id` is only written with a new row. -/
def Tables.saveRoyaltyReceipt (d : Tables) (receipt : Receipt) : Except Failure Tables := do
  let receiptId ← column receipt.body.receiptId
  let eventId ← column receipt.body.eventId
  let _ ← column receipt.body.correlationId
  let _ ← column receipt.body.tenantId
  if d.hasReceipt receiptId then
    .ok { d with receipts := updateKey (·.receiptId) receiptId (fun r => { r with payload := receipt }) d.receipts }
  else .ok { d with receipts := d.receipts ++ [⟨receiptId, eventId, receipt⟩] }

/-- `load_royalty_receipt` -/
def Tables.loadRoyaltyReceipt (d : Tables) (receiptId : String) : Option Receipt :=
  (d.receipts.find? (fun r => decide (r.receiptId = receiptId))).map (·.payload)

/-- `load_royalty_receipt_by_event` -/
def Tables.loadRoyaltyReceiptByEvent (d : Tables) (eventId : String) : Option Receipt :=
  (d.receipts.find? (fun r => decide (r.eventId = eventId))).map (·.payload)

/-! ## Rejections and keys -/

/-- The tables of the gate. -/
structure Gate where
  rejections : List RejectionRow
  tenantKeys : List TenantKeyRow
  apiKeys : List ApiKeyRow
  deriving DecidableEq

/-- A text of a column that may be null. -/
def nullable : Option String → Except Failure (Option String)
  | none => .ok none
  | some text => (column text).map some

/-- `record_rejection` -/
def Gate.recordRejection (g : Gate) (correlationId keyId : Option String) (reason : String) : Except Failure Gate := do
  let correlationId ← nullable correlationId
  let keyId ← nullable keyId
  .ok { g with rejections := g.rejections ++ [⟨correlationId, keyId, reason⟩] }

/-- `get_tenant_key` -/
def Gate.getTenantKey (g : Gate) (tenantId keyId : String) : Except Failure (Option String) := do
  let tenantId ← argument tenantId
  let keyId ← argument keyId
  .ok ((g.tenantKeys.find? (fun k => decide (k.tenantId = tenantId ∧ k.keyId = keyId ∧ k.revoked = false))).map (·.publicKeyB64))

/-- `key_registered_to_any_tenant` -/
def Gate.keyRegisteredToAnyTenant (g : Gate) (keyId : String) : Except Failure Bool := do
  let keyId ← argument keyId
  .ok (g.tenantKeys.any (fun k => decide (k.keyId = keyId ∧ k.revoked = false)))

/-- The hash that `check_tenant_api_key` verifies against. -/
def Gate.apiKeyHash (g : Gate) (tenantId : String) : Except Failure (Option String) := do
  let tenantId ← argument tenantId
  .ok ((g.apiKeys.find? (fun k => decide (k.tenantId = tenantId))).map (·.apiKeyHash))

/-- What administrators write: keys, API keys by their hashes, and a `revoked_at`. -/
inductive AdminWrite where
  | registerTenantKey (tenantId keyId publicKeyB64 : String)
  | revokeTenantKey (tenantId keyId : String)
  | registerTenantApiKey (tenantId apiKeyHash : String)
  deriving DecidableEq

/-- `register_tenant_key` -/
def Gate.registerTenantKey (g : Gate) (tenantId keyId publicKeyB64 : String) : Except Failure Gate := do
  let tenantId ← column tenantId
  let keyId ← column keyId
  let publicKeyB64 ← column publicKeyB64
  if g.tenantKeys.any (fun k => decide ((k.tenantId, k.keyId) = (tenantId, keyId))) then
    .ok { g with
      tenantKeys := updateKey (fun k => (k.tenantId, k.keyId)) (tenantId, keyId)
        (fun k => { k with publicKeyB64, revoked := false }) g.tenantKeys }
  else .ok { g with tenantKeys := g.tenantKeys ++ [⟨tenantId, keyId, publicKeyB64, false⟩] }

/-- `register_tenant_api_key`, of a key that was hashed -/
def Gate.registerTenantApiKey (g : Gate) (tenantId apiKeyHash : String) : Except Failure Gate := do
  let tenantId ← column tenantId
  let apiKeyHash ← column apiKeyHash
  if g.apiKeys.any (fun k => decide (k.tenantId = tenantId)) then
    .ok { g with apiKeys := updateKey (·.tenantId) tenantId (fun k => { k with apiKeyHash }) g.apiKeys }
  else .ok { g with apiKeys := g.apiKeys ++ [⟨tenantId, apiKeyHash⟩] }

/-- An administrator's write; one that raises writes nothing. -/
def Gate.write (g : Gate) : AdminWrite → Gate
  | .registerTenantKey tenantId keyId publicKeyB64 => (g.registerTenantKey tenantId keyId publicKeyB64).toOption.getD g
  | .revokeTenantKey tenantId keyId =>
    { g with
      tenantKeys := updateKey (fun k => (k.tenantId, k.keyId)) (tenantId, keyId) (fun k => { k with revoked := true }) g.tenantKeys }
  | .registerTenantApiKey tenantId apiKeyHash => (g.registerTenantApiKey tenantId apiKeyHash).toOption.getD g

end RoyaltyGateway

end Archisynapse
