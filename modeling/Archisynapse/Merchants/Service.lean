import Archisynapse.Base.Machine
import Archisynapse.Merchants.Store

/-!
# Provisioning, the key lifecycle and authentication

`provision_merchant` and `authenticate` of the gateway's store, and the operations of the merchant operator. Each of the five
operations that write is one transaction; `authenticate` is two statements of their own. The random draws of a key are the
environment's choice, argon2 is a parameter, and a call can fail because the connection is lost, before or after it reached the
database.
-/

namespace Archisynapse

namespace Merchants

/-- What the processes are configured with (whether the gateway has a master key) and argon2: the hash of a key with a salt, and
whether a key is the hashed one, or why that cannot be said. -/
structure Env where
  masterKey : Bool
  hash : String → String → String
  verify : String → String → Except String Bool

/-- `MerchantPrincipal` -/
structure MerchantPrincipal where
  merchantId : String
  name : String
  plan : String
  keyId : String
  deriving DecidableEq

/-- `ProvisionedMerchant` -/
structure ProvisionedMerchant where
  merchantId : String
  apiKey : String
  keyId : String
  name : String
  plan : String
  deriving DecidableEq

/-- `LifecycleResult` -/
structure LifecycleResult where
  merchantId : String
  merchantStatus : MerchantStatus
  action : String
  keyId : Option String
  apiKey : Option String
  revokedKeys : Nat
  deriving DecidableEq

/-- The operations. -/
inductive Call where
  | provisionMerchant (merchantId name plan environment : String)
  | rotateKey (merchantId environment : String)
  | revokeKey (merchantId keyId : String)
  | suspendMerchant (merchantId : String)
  | resumeMerchant (merchantId environment : String)
  | authenticate (apiKey : String)
  deriving DecidableEq

/-- What the operations return. -/
inductive Reply where
  | provisioned (merchant : ProvisionedMerchant)
  | lifecycle (result : LifecycleResult)
  | principal (principal : MerchantPrincipal)
  deriving DecidableEq

/-! ## Calls -/

/-- The calls of the programs: the draw of a key, the statements, and the end of a transaction. -/
inductive Op where
  | drawKey
  | begin
  | merchantForUpdate (merchantId : String)
  | revokeActiveKeys (merchantId : String)
  | revokeKey (merchantId keyId : String)
  | insertMerchant (merchantId name plan : String)
  | insertKey (keyId merchantId keyPrefix apiKey environment : String)
  | setStatus (merchantId : String) (status : MerchantStatus)
  | audit (merchantId eventType : String) (details : Json)
  | selectKey (keyId : String)
  | touchKey (keyId : String)
  | commit
  | rollback

/-- What a call answers. -/
def Op.Result : Op → Type
  | .drawKey => String × String
  | .merchantForUpdate _ => Option MerchantRow
  | .revokeActiveKeys _ => Nat
  | .revokeKey _ _ => Nat
  | .selectKey _ => Option (KeyRow × MerchantRow)
  | _ => Unit

/-- The calls, with what they answer. -/
abbrev sig : Signature := ⟨Op, Op.Result, MerchantError⟩

/-- Where the connection is lost. -/
inductive Fault where
  | before
  | after
  deriving DecidableEq

/-- What the environment chooses at a call. -/
structure Choice where
  fault : Option Fault
  keyId : String
  secret : String
  salt : String

/-- `secrets.token_hex(8)`: sixteen lower-case hexadecimal digits. -/
def tokenHex (text : String) : Bool :=
  decide (text.length = 16) && text.toList.all (fun c => c.isDigit || decide ('a' ≤ c ∧ c ≤ 'f'))

/-- `secrets.token_urlsafe(32)`: forty-three characters of base64 for URLs. -/
def tokenUrlsafe (text : String) : Bool := decide (text.length = 43) && text.toList.all (fun c => c.isAlphanum || c == '-' || c == '_')

/-- A statement: when the connection is lost, the transaction it was in is rolled back. -/
def statement {α : Type} (ch : Choice) (s : State) (w : Nat) (out : Outcome α) : Outcome α :=
  match ch.fault with
  | some _ => some (.error .connectionLost, s.abandon w)
  | none => out

variable (env : Env)

/-- One call of a worker. -/
def exec (w : Nat) : (o : Op) → Choice → State → Option (Except MerchantError o.Result × State)
  | .drawKey, ch, s => if tokenHex ch.keyId && tokenUrlsafe ch.secret then some (.ok (ch.keyId, ch.secret), s) else none
  -- a transaction that begins has written nothing and holds nothing
  | .begin, ch, s => statement ch s w (some (.ok (), s.abandon w))
  | .merchantForUpdate merchantId, ch, s => statement ch s w (s.selectForUpdate w merchantId)
  | .revokeActiveKeys merchantId, ch, s => statement ch s w (s.revokeActiveKeys w merchantId)
  | .revokeKey merchantId keyId, ch, s => statement ch s w (s.revokeKey w merchantId keyId)
  | .insertMerchant merchantId name plan, ch, s => statement ch s w (s.insertMerchant w merchantId name plan)
  | .insertKey keyId merchantId keyPrefix apiKey environment, ch, s =>
    statement ch s w (s.insertKey w keyId merchantId keyPrefix (env.hash ch.salt apiKey) environment apiKey)
  | .setStatus merchantId status, ch, s => statement ch s w (s.setMerchantStatus w merchantId status)
  | .audit merchantId eventType details, ch, s => statement ch s w (s.insertAudit w merchantId eventType details)
  | .selectKey keyId, ch, s => statement ch s w (s.selectKey keyId)
  -- only `last_used_at` is written
  | .touchKey _, ch, s => statement ch s w (some (.ok (), s))
  | .commit, ch, s =>
    match ch.fault with
    | some .before => some (.error .connectionLost, s.abandon w)
    | some .after => some (.error .connectionLost, s.commit w)
    | none => some (.ok (), s.commit w)
  | .rollback, ch, s => statement ch s w (some (.ok (), s.abandon w))

/-! ## API keys -/

/-- `text.split(sep, n)` -/
def splitMax (sep : Char) : Nat → List Char → List (List Char)
  | 0, text => [text]
  | n + 1, text =>
    match text.dropWhile (fun c => decide (c ≠ sep)) with
    | [] => [text]
    | _ :: rest => text.takeWhile (fun c => decide (c ≠ sep)) :: splitMax sep n rest

/-- `_ALLOWED_ENVIRONMENTS` -/
def allowedEnvironments : List String := ["test", "live"]

/-- `generate_merchant_api_key`: the key's id, the key, and its prefix. -/
def generateMerchantApiKey (environment : String) : Prog sig (String × String × String) := do
  if environment ∉ allowedEnvironments then Prog.throw (.valueError "environment must be test or live")
  let (keyId, secret) ← Prog.perform (S := sig) .drawKey
  pure (keyId, "arch_" ++ environment ++ "_" ++ keyId ++ "_" ++ secret, "arch_" ++ environment ++ "_" ++ keyId)

/-- `parse_merchant_api_key`: the environment and the key's id. -/
def parseMerchantApiKey (apiKey : String) : Except MerchantError (String × String) :=
  match splitMax '_' 3 apiKey.toList with
  | [kind, environment, keyId, secret] =>
    if String.ofList kind ≠ "arch" ∨ String.ofList environment ∉ allowedEnvironments then
      .error (.authenticationError "invalid merchant API key")
    else if keyId.length ≠ 16 ∨ secret = [] then .error (.authenticationError "invalid merchant API key")
    else .ok (String.ofList environment, String.ofList keyId)
  | _ => .error (.authenticationError "invalid merchant API key")

/-! ## Operations -/

/-- `async with connection.transaction()`: the body, rolled back when it throws and committed when it does not. -/
def inTransaction {α : Type} (body : Prog sig α) : Prog sig α := do
  Prog.perform (S := sig) .begin
  let a ← body.tryCatch (fun e => do
    Prog.perform (S := sig) .rollback
    Prog.throw e)
  Prog.perform (S := sig) .commit
  pure a

/-- `_merchant_for_update` -/
def merchantForUpdate (merchantId : String) : Prog sig MerchantRow := do
  match ← Prog.perform (S := sig) (.merchantForUpdate merchantId) with
  | none => Prog.throw (.merchantAdminError "merchant not found")
  | some row => pure row

/-- `_issue_key`: the key's id and the key. -/
def issueKey (merchantId environment : String) : Prog sig (String × String) := do
  let (keyId, apiKey, keyPrefix) ← generateMerchantApiKey environment
  Prog.perform (S := sig) (.insertKey keyId merchantId keyPrefix apiKey environment)
  pure (keyId, apiKey)

/-- A number as JSON. -/
def count (n : Nat) : Json := .number (toString n)

/-- `GatewayStore.provision_merchant` -/
def provisionMerchant (merchantId name plan environment : String) : Prog sig ProvisionedMerchant := do
  if !env.masterKey then
    Prog.throw (.credentialConfigurationError "ARCHISYNAPSE_GATEWAY_MASTER_KEY is required to provision merchants")
  if strip name = "" then Prog.throw (.valueError "merchant name is required")
  let (keyId, apiKey, keyPrefix) ← generateMerchantApiKey environment
  inTransaction do
    Prog.perform (S := sig) (.insertMerchant merchantId (strip name) plan)
    Prog.perform (S := sig) (.insertKey keyId merchantId keyPrefix apiKey environment)
    Prog.perform (S := sig) (.audit merchantId "merchant.provisioned"
      (.obj [("environment", .str environment), ("key_id", .str keyId), ("plan", .str plan)]))
  pure ⟨merchantId, apiKey, keyId, strip name, plan⟩

/-- `rotate_key` -/
def rotateKey (merchantId environment : String) : Prog sig LifecycleResult := do
  let (keyId, apiKey, revoked) ← inTransaction do
    let merchant ← merchantForUpdate merchantId
    if merchant.status ≠ .active then Prog.throw (.merchantAdminError "merchant must be ACTIVE before key rotation")
    let revoked ← Prog.perform (S := sig) (.revokeActiveKeys merchantId)
    let (keyId, apiKey) ← issueKey merchantId environment
    Prog.perform (S := sig) (.audit merchantId "merchant.api_key.rotated"
      (.obj [("environment", .str environment), ("key_id", .str keyId), ("revoked_keys", count revoked)]))
    pure (keyId, apiKey, revoked)
  pure ⟨merchantId, .active, "ROTATED", some keyId, some apiKey, revoked⟩

/-- `revoke_key` -/
def revokeKey (merchantId keyId : String) : Prog sig LifecycleResult := do
  let merchant ← inTransaction do
    let merchant ← merchantForUpdate merchantId
    let revoked : Nat ← Prog.perform (S := sig) (.revokeKey merchantId keyId)
    if revoked = 0 then Prog.throw (.merchantAdminError "active API key not found for merchant")
    Prog.perform (S := sig) (.audit merchantId "merchant.api_key.revoked" (.obj [("key_id", .str keyId)]))
    pure merchant
  pure ⟨merchantId, merchant.status, "REVOKED", some keyId, none, 1⟩

/-- `suspend_merchant` -/
def suspendMerchant (merchantId : String) : Prog sig LifecycleResult := do
  let revoked ← inTransaction do
    let merchant ← merchantForUpdate merchantId
    if merchant.status = .closed then Prog.throw (.merchantAdminError "closed merchant cannot be suspended")
    let revoked ← Prog.perform (S := sig) (.revokeActiveKeys merchantId)
    Prog.perform (S := sig) (.setStatus merchantId .suspended)
    Prog.perform (S := sig) (.audit merchantId "merchant.suspended" (.obj [("revoked_keys", count revoked)]))
    pure revoked
  pure ⟨merchantId, .suspended, "SUSPENDED", none, none, revoked⟩

/-- `resume_merchant` -/
def resumeMerchant (merchantId environment : String) : Prog sig LifecycleResult := do
  let (keyId, apiKey, revoked) ← inTransaction do
    let merchant ← merchantForUpdate merchantId
    if merchant.status ≠ .suspended then Prog.throw (.merchantAdminError "only a SUSPENDED merchant can be resumed")
    let revoked ← Prog.perform (S := sig) (.revokeActiveKeys merchantId)
    let (keyId, apiKey) ← issueKey merchantId environment
    Prog.perform (S := sig) (.setStatus merchantId .active)
    Prog.perform (S := sig) (.audit merchantId "merchant.resumed"
      (.obj [("environment", .str environment), ("key_id", .str keyId), ("revoked_keys", count revoked)]))
    pure (keyId, apiKey, revoked)
  pure ⟨merchantId, .active, "RESUMED", some keyId, some apiKey, revoked⟩

/-- `verify_api_key` -/
def verifyApiKey (apiKeyHash apiKey : String) : Prog sig Bool :=
  match env.verify apiKeyHash apiKey with
  | .ok verified => pure verified
  | .error message => Prog.throw (.verification message)

/-- `GatewayStore.authenticate` -/
def authenticate (apiKey : String) : Prog sig MerchantPrincipal :=
  match parseMerchantApiKey apiKey with
  | .error e => Prog.throw e
  | .ok (_, keyId) => do
    match ← Prog.perform (S := sig) (.selectKey keyId) with
    | none => Prog.throw (.authenticationError "invalid merchant API key")
    | some (k, m) =>
      if k.status ≠ .active then Prog.throw (.authenticationError "invalid merchant API key")
      else if m.status ≠ .active then Prog.throw (.authenticationError "invalid merchant API key")
      else
        if !(← verifyApiKey env k.apiKeyHash apiKey) then Prog.throw (.authenticationError "invalid merchant API key")
        Prog.perform (S := sig) (.touchKey keyId)
        pure ⟨m.merchantId, m.name, m.plan, k.keyId⟩

/-- The program of a call. -/
def program : Call → Prog sig Reply
  | .provisionMerchant merchantId name plan environment => do
    pure (.provisioned (← provisionMerchant env merchantId name plan environment))
  | .rotateKey merchantId environment => do pure (.lifecycle (← rotateKey merchantId environment))
  | .revokeKey merchantId keyId => do pure (.lifecycle (← revokeKey merchantId keyId))
  | .suspendMerchant merchantId => do pure (.lifecycle (← suspendMerchant merchantId))
  | .resumeMerchant merchantId environment => do pure (.lifecycle (← resumeMerchant merchantId environment))
  | .authenticate apiKey => do pure (.principal (← authenticate env apiKey))

/-- The gateways and the operators over one database. -/
abbrev machine : Machine where
  sig := sig
  State := State
  Choice := Choice
  Call := Call
  Reply := Reply
  program := program env
  exec w o ch s := exec env w o ch s
  crash w s := s.abandon w

end Merchants

end Archisynapse
