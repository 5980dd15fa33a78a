import Archisynapse.Base.Json
import Archisynapse.Base.Values

/-!
# Merchants and their API keys in the database

The tables `gateway_merchants`, `gateway_merchant_api_keys` and `gateway_audit_events`, and the statements that the gateway's
store and the merchant operator run on them. A transaction sees what was committed when its statement starts and what it wrote
itself; the rows it locked stay its own until it ends. Times and the merchant's encrypted credentials are left out: none of these
programs reads them.
-/

namespace Archisynapse

namespace Merchants

/-- `gateway_merchants.status` -/
inductive MerchantStatus where
  | active
  | suspended
  | closed
  deriving DecidableEq

/-- `gateway_merchant_api_keys.status` -/
inductive KeyStatus where
  | active
  | revoked
  deriving DecidableEq

/-- A row of `gateway_merchants`. -/
structure MerchantRow where
  merchantId : String
  name : String
  plan : String
  status : MerchantStatus
  deriving DecidableEq

/-- A row of `gateway_merchant_api_keys`. -/
structure KeyRow where
  keyId : String
  merchantId : String
  keyPrefix : String
  apiKeyHash : String
  environment : String
  status : KeyStatus
  deriving DecidableEq

/-- The key is `ACTIVE`. -/
def KeyRow.active (k : KeyRow) : Bool := decide (k.status = .active)

/-- The key is revoked. -/
def KeyRow.retire (k : KeyRow) : KeyRow := { k with status := .revoked }

/-- A row of `gateway_audit_events`. -/
structure AuditRow where
  merchantId : String
  eventType : String
  details : Json

/-- The tables. -/
structure Tables where
  merchants : List MerchantRow
  keys : List KeyRow
  audit : List AuditRow

/-- A merchant's row. -/
def Tables.merchantOf (d : Tables) (merchantId : String) : Option MerchantRow :=
  d.merchants.find? (fun m => decide (m.merchantId = merchantId))

/-- A merchant's keys. -/
def Tables.keysOf (d : Tables) (merchantId : String) : List KeyRow := d.keys.filter (fun k => decide (k.merchantId = merchantId))

/-- A merchant's `ACTIVE` keys. -/
def Tables.activeKeysOf (d : Tables) (merchantId : String) : List KeyRow := (d.keysOf merchantId).filter KeyRow.active

/-- The row of a key. -/
def Tables.keyOf (d : Tables) (keyId : String) : Option KeyRow := d.keys.find? (fun k => decide (k.keyId = keyId))

/-- An API key that was issued: its id, the merchant and the whole key. -/
structure Issued where
  keyId : String
  merchantId : String
  apiKey : String
  deriving DecidableEq

/-- What a transaction wrote and has not committed. An inserted key comes with the API key it is the hash of, which is not stored. -/
inductive Write where
  | insertMerchant (row : MerchantRow)
  | insertKey (row : KeyRow) (apiKey : String)
  | revokeKeys (merchantId : String) (keyIds : List String)
  | setStatus (merchantId : String) (status : MerchantStatus)
  | audit (row : AuditRow)

/-- What a write makes of the tables. -/
def Write.apply : Write → Tables → Tables
  | .insertMerchant row, d => { d with merchants := d.merchants ++ [row] }
  | .insertKey row _, d => { d with keys := d.keys ++ [row] }
  | .revokeKeys merchantId keyIds, d =>
    { d with keys := d.keys.map (fun k => if k.merchantId = merchantId ∧ k.keyId ∈ keyIds then k.retire else k) }
  | .setStatus merchantId status, d =>
    { d with merchants := d.merchants.map (fun m => if m.merchantId = merchantId then { m with status } else m) }
  | .audit row, d => { d with audit := d.audit ++ [row] }

/-- The id of the key a write inserts. -/
def Write.keyId : Write → Option String
  | .insertKey row _ => some row.keyId
  | _ => none

/-- The API key a write issues. -/
def Write.issued : Write → Option Issued
  | .insertKey row apiKey => some ⟨row.keyId, row.merchantId, apiKey⟩
  | _ => none

/-- The database: the committed tables, the transaction that holds a merchant's row, and what the open transactions wrote, in the
order they did. `issued` is what was handed out so far; it is not stored. -/
structure State where
  tables : Tables
  locks : String → Option Nat
  pending : List (Nat × Write)
  issued : List Issued

/-- What a worker's transaction wrote. -/
def State.writes (s : State) (w : Nat) : List Write := s.pending.filterMap (fun p => if p.1 = w then some p.2 else none)

/-- The tables as a worker's transaction sees them. -/
def State.view (s : State) (w : Nat) : Tables := (s.writes w).foldl (fun d x => x.apply d) s.tables

/-- Another worker holds the merchant's row. -/
def State.heldByOther (s : State) (w : Nat) (merchantId : String) : Bool :=
  match s.locks merchantId with
  | some w' => decide (w' ≠ w)
  | none => false

/-- Another worker's transaction inserts the key. -/
def State.insertedByOther (s : State) (w : Nat) (keyId : String) : Bool :=
  s.pending.any (fun p => decide (p.1 ≠ w) && decide (p.2.keyId = some keyId))

/-- Another worker's transaction revokes the key. -/
def State.revokedByOther (s : State) (w : Nat) (k : KeyRow) : Bool :=
  s.pending.any (fun p => decide (p.1 ≠ w) && match p.2 with
    | .revokeKeys merchantId keyIds => decide (k.merchantId = merchantId ∧ k.keyId ∈ keyIds)
    | _ => false)

/-- A worker's transaction writes. -/
def State.write (s : State) (w : Nat) (x : Write) : State := { s with pending := s.pending ++ [(w, x)] }

/-- A worker's transaction holds a merchant's row. -/
def State.hold (s : State) (w : Nat) (merchantId : String) : State :=
  { s with locks := fun m => if m = merchantId then some w else s.locks m }

/-- A worker's transaction ends and leaves nothing behind. -/
def State.abandon (s : State) (w : Nat) : State :=
  { s with
    locks := fun m => if s.locks m = some w then none else s.locks m
    pending := s.pending.filter (fun p => decide (p.1 ≠ w)) }

/-- A worker's transaction ends and what it wrote stays. -/
def State.commit (s : State) (w : Nat) : State :=
  { s.abandon w with tables := s.view w, issued := s.issued ++ (s.writes w).filterMap Write.issued }

/-! ## Errors -/

/-- The errors of the programs: the source's own, with their texts, and those of the database and the connection. -/
inductive MerchantError where
  | merchantAdminError (message : String)
  | authenticationError (message : String)
  | valueError (message : String)
  | credentialConfigurationError (message : String)
  | verification (message : String)
  | database (message : String)
  | connectionLost
  deriving DecidableEq

/-- A text as the database takes it: the zero character is refused. -/
def argument (text : String) : Except MerchantError String :=
  if text.toList.any (fun c => decide (c.toNat = 0)) then
    .error (.database "invalid byte sequence for encoding \"UTF8\": 0x00")
  else .ok text

/-- What a `VARCHAR(n)` column makes of a text. -/
def column (n : Nat) (text : String) : Except MerchantError String := do
  let text ← argument text
  match varchar n text with
  | some stored => .ok stored
  | none => .error (.database ("value too long for type character varying(" ++ toString n ++ ")"))

/-- A second row with a primary key. -/
def duplicateKey (table : String) : MerchantError :=
  .database ("duplicate key value violates unique constraint \"" ++ table ++ "_pkey\"")

/-- A row whose merchant has none. -/
def noMerchant (table : String) : MerchantError :=
  .database ("insert or update on table \"" ++ table ++ "\" violates foreign key constraint")

/-! ## Statements -/

/-- What a statement answers and leaves; none when it waits for another transaction. -/
abbrev Outcome (α : Type) : Type := Option (Except MerchantError α × State)

/-- `SELECT … FROM gateway_merchants WHERE merchant_id = $1 FOR UPDATE` -/
def State.selectForUpdate (s : State) (w : Nat) (merchantId : String) : Outcome (Option MerchantRow) :=
  match argument merchantId with
  | .error e => some (.error e, s)
  | .ok merchantId =>
    match (s.view w).merchantOf merchantId with
    | none => some (.ok none, s)
    | some row => if s.heldByOther w merchantId then none else some (.ok (some row), s.hold w merchantId)

/-- `UPDATE gateway_merchant_api_keys SET status = 'REVOKED' … WHERE …`: how many keys the worker's transaction revoked. -/
def State.updateKeys (s : State) (w : Nat) (merchantId : String) (which : KeyRow → Bool) : Outcome Nat :=
  let found := ((s.view w).keysOf merchantId).filter which
  if found.any (s.revokedByOther w) then none
  else some (.ok found.length, s.write w (.revokeKeys merchantId (found.map (·.keyId))))

/-- The merchant's `ACTIVE` keys are revoked. -/
def State.revokeActiveKeys (s : State) (w : Nat) (merchantId : String) : Outcome Nat :=
  match argument merchantId with
  | .error e => some (.error e, s)
  | .ok merchantId => s.updateKeys w merchantId KeyRow.active

/-- One `ACTIVE` key of the merchant is revoked. -/
def State.revokeKey (s : State) (w : Nat) (merchantId keyId : String) : Outcome Nat :=
  match argument merchantId, argument keyId with
  | .error e, _ => some (.error e, s)
  | _, .error e => some (.error e, s)
  | .ok merchantId, .ok keyId => s.updateKeys w merchantId (fun k => decide (k.keyId = keyId) && k.active)

/-- `INSERT INTO gateway_merchants`, with status `ACTIVE`. -/
def State.insertMerchant (s : State) (w : Nat) (merchantId name plan : String) : Outcome Unit :=
  match argument merchantId, column 200 name, column 50 plan with
  | .error e, _, _ => some (.error e, s)
  | _, .error e, _ => some (.error e, s)
  | _, _, .error e => some (.error e, s)
  | .ok merchantId, .ok name, .ok plan =>
    if ((s.view w).merchantOf merchantId).isSome then some (.error (duplicateKey "gateway_merchants"), s)
    else if s.heldByOther w merchantId then none
    else some (.ok (), (s.hold w merchantId).write w (.insertMerchant ⟨merchantId, name, plan, .active⟩))

/-- `INSERT INTO gateway_merchant_api_keys`, with status `ACTIVE`. The id, the prefix and the hash fit their columns. -/
def State.insertKey (s : State) (w : Nat) (keyId merchantId keyPrefix apiKeyHash environment apiKey : String) : Outcome Unit :=
  match argument merchantId with
  | .error e => some (.error e, s)
  | .ok merchantId =>
    if ((s.view w).keyOf keyId).isSome then some (.error (duplicateKey "gateway_merchant_api_keys"), s)
    else if s.insertedByOther w keyId then none
    else if ((s.view w).merchantOf merchantId).isNone then some (.error (noMerchant "gateway_merchant_api_keys"), s)
    else if s.heldByOther w merchantId then none
    else some (.ok (), s.write w (.insertKey ⟨keyId, merchantId, keyPrefix, apiKeyHash, environment, .active⟩ apiKey))

/-- `UPDATE gateway_merchants SET status = … WHERE merchant_id = $1` -/
def State.setMerchantStatus (s : State) (w : Nat) (merchantId : String) (status : MerchantStatus) : Outcome Unit :=
  match argument merchantId with
  | .error e => some (.error e, s)
  | .ok merchantId =>
    if ((s.view w).merchantOf merchantId).isNone then some (.ok (), s)
    else if s.heldByOther w merchantId then none
    else some (.ok (), (s.hold w merchantId).write w (.setStatus merchantId status))

/-- `INSERT INTO gateway_audit_events` -/
def State.insertAudit (s : State) (w : Nat) (merchantId eventType : String) (details : Json) : Outcome Unit :=
  match argument merchantId with
  | .error e => some (.error e, s)
  | .ok merchantId =>
    if ((s.view w).merchantOf merchantId).isNone then some (.error (noMerchant "gateway_audit_events"), s)
    else if s.heldByOther w merchantId then none
    else some (.ok (), s.write w (.audit ⟨merchantId, eventType, details⟩))

/-- The row of a key joined with the row of its merchant. -/
def Tables.join (d : Tables) (keyId : String) : Option (KeyRow × MerchantRow) :=
  match d.keyOf keyId with
  | none => none
  | some k => (d.merchantOf k.merchantId).map (fun m => (k, m))

/-- `SELECT … FROM gateway_merchant_api_keys k JOIN gateway_merchants m … WHERE k.key_id = $1`, outside a transaction. -/
def State.selectKey (s : State) (keyId : String) : Outcome (Option (KeyRow × MerchantRow)) :=
  match argument keyId with
  | .error e => some (.error e, s)
  | .ok keyId => some (.ok (s.tables.join keyId), s)

end Merchants

end Archisynapse
