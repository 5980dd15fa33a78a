import Archisynapse.Base.Json
import Archisynapse.Base.Values

/-!
# Service authentication

services/transaction/service-auth.ts (services/ledger has the same file): the tokens an internal service accepts, read from its
configuration, and the middleware that lets a request through. A token is kept as its SHA-256 digest, and may be configured as
that digest. `sha256` is the hash function; what comes before the middleware is the express request.
-/

namespace Archisynapse

namespace ServiceAuth

/-- `ServiceScope` -/
inductive Scope where
  | read | write
  deriving DecidableEq, Repr

/-- A scope as it is configured. -/
def Scope.text : Scope → List Char
  | .read => ['r', 'e', 'a', 'd']
  | .write => ['w', 'r', 'i', 't', 'e']

/-- A SHA-256 digest: 32 bytes. -/
structure Digest where
  bytes : List UInt8
  size : bytes.length = 32
  deriving DecidableEq

/-- `ServiceCredential` -/
structure ServiceCredential where
  caller : List Char
  scope : Scope
  digest : Digest
  deriving DecidableEq

/-- `ServiceAuthConfig` -/
structure ServiceAuthConfig where
  enforce : Bool
  credentials : List ServiceCredential

/-! ## Reading the configuration -/

/-- `/[\n,]/` -/
def isSeparator (c : Char) : Bool := c == '\n' || c == ','

/-- `CALLER_PATTERN.test(caller)` -/
def isCaller : List Char → Bool
  | [] => false
  | c :: rest =>
    c.isLower && decide (rest.length ≤ 63) && rest.all (fun d => d.isLower || d.isDigit || d == '_' || d == '-')

/-- The value of a hexadecimal digit, in either case. -/
def hexValue (c : Char) : Option Nat :=
  if c.isDigit then some (c.toNat - 48)
  else if 97 ≤ c.toNat ∧ c.toNat ≤ 102 then some (c.toNat - 87)
  else if 65 ≤ c.toNat ∧ c.toNat ≤ 70 then some (c.toNat - 55)
  else none

/-- The bytes that pairs of hexadecimal digits write. -/
def hexBytes : List Char → Option (List UInt8)
  | [] => some []
  | [_] => none
  | a :: b :: rest =>
    match hexValue a, hexValue b, hexBytes rest with
    | some x, some y, some bytes => some (UInt8.ofNat (16 * x + y) :: bytes)
    | _, _, _ => none

/-- `Buffer.from(hex, 'hex')`, where `/^[0-9a-f]{64}$/i.test(hex)` -/
def Digest.ofHex (hex : List Char) : Option Digest :=
  match hexBytes hex with
  | none => none
  | some bytes => if h : bytes.length = 32 then some ⟨bytes, h⟩ else none

/-- What stands before and after the first colon. -/
def cut (text : List Char) : Option (List Char × List Char) :=
  match text.dropWhile (· != ':') with
  | [] => none
  | _ :: rest => some (text.takeWhile (· != ':'), rest)

/-- `scope !== 'read' && scope !== 'write'` -/
def Scope.ofText (scope : List Char) : Option Scope :=
  if scope = Scope.read.text then some .read else if scope = Scope.write.text then some .write else none

/-- The mark of a token that is given as its digest. -/
def mark : List Char := ['s', 'h', 'a', '2', '5', '6', ':']

/-- `MIN_SERVICE_TOKEN_LENGTH` -/
def minServiceTokenLength : Nat := 32

/-- An entry is skipped when it is empty or a comment. -/
def isSkipped (entry : List Char) : Bool := entry.isEmpty || entry.head? == some '#'

section

variable (sha256 : String → Digest)

/-- The body of the loop: the credential of a raw entry, none for one that is skipped. -/
def parseEntry (raw : List Char) : Except String (Option ServiceCredential) :=
  let entry := (trim (String.ofList raw)).toList
  if isSkipped entry then .ok none
  else match cut entry with
    | none => .error "service token entries must look like caller:scope:token"
    | some (caller, rest) =>
      match cut rest with
      | none => .error "service token entries must look like caller:scope:token"
      | some (scope, token) =>
        let name := String.ofList caller
        if !isCaller caller then
          .error ("invalid service caller name: " ++ String.ofList (Json.quote false name))
        else match Scope.ofText scope with
          | none => .error ("service token scope for " ++ name ++ " must be read or write")
          | some scope =>
            if mark.isPrefixOf token then
              match Digest.ofHex (token.drop mark.length) with
              | none => .error ("service token digest for " ++ name ++ " must be sha256:<64 hex characters>")
              | some digest => .ok (some ⟨caller, scope, digest⟩)
            else if utf16Length (String.ofList token) < minServiceTokenLength then
              .error ("service token for " ++ name ++ " must be at least 32 characters")
            else .ok (some ⟨caller, scope, sha256 (String.ofList token)⟩)

/-- `parseServiceTokens(spec)` -/
def parseServiceTokens (spec : List Char) : Except String (List ServiceCredential) := do
  let credentials ← (spec.splitOnP isSeparator).mapM (parseEntry sha256)
  pure credentials.reduceOption

/-- `serviceAuthFromEnv`: the mode, the tokens that are set, and the contents of the file that is set. -/
def serviceAuthFromEnv (mode tokens file : Option String) : Except String ServiceAuthConfig := do
  let mode := (trim (mode.getD "enforce")).toLower
  if mode ≠ "enforce" ∧ mode ≠ "off" then throw "ARCHISYNAPSE_SERVICE_AUTH must be 'enforce' or 'off'"
  else if mode = "off" then pure ⟨false, []⟩
  else
    let specs := (truthy tokens).toList ++ file.toList
    let credentials ← specs.mapM (fun spec => parseServiceTokens sha256 spec.toList)
    if credentials.flatten = [] then
      throw ("ARCHISYNAPSE_SERVICE_AUTH=enforce needs ARCHISYNAPSE_INBOUND_SERVICE_TOKENS " ++
        "or ARCHISYNAPSE_INBOUND_SERVICE_TOKENS_FILE (refusing to start without them)")
    else pure ⟨true, credentials.flatten⟩

end

/-! ## The middleware -/

/-- What the middleware reads of a request. -/
structure Request where
  path : String
  method : String
  authorization : Option (List Char)

/-- What becomes of a request: it goes on, attributed to a caller when its token was checked, or it is answered. -/
inductive Outcome where
  | next (serviceCaller : Option (List Char))
  | answered (status : Nat) (error : String)
  deriving DecidableEq

/-- `OPEN_PATHS` -/
def openPaths : List String := ["/health", "/ready"]

/-- `READ_METHODS` -/
def readMethods : List String := ["GET", "HEAD"]

/-- `/^Bearer\s+(\S+)\s*$/i.exec(header)` -/
def bearer (header : List Char) : Option (List Char) :=
  let rest := header.drop 6
  let after := rest.dropWhile isBlank
  let token := after.takeWhile (fun c => !isBlank c)
  if (header.take 6).map Char.toLower = ['b', 'e', 'a', 'r', 'e', 'r'] ∧ rest.takeWhile isBlank ≠ [] ∧ token ≠ [] ∧
      (after.dropWhile (fun c => !isBlank c)).all isBlank = true then some token
  else none

/-- `bearerToken(req)` -/
def bearerToken (req : Request) : Option (List Char) := req.authorization.bind bearer

/-- `matchServiceCredential(credentials, token)`: every credential is compared, the first that matches is found. -/
def matchServiceCredential (sha256 : String → Digest) (credentials : List ServiceCredential) (token : List Char) :
    Option ServiceCredential :=
  let candidate := sha256 (String.ofList token)
  credentials.foldl
    (fun found credential => if candidate = credential.digest ∧ found = none then some credential else found) none

/-- The middleware of `createServiceAuthMiddleware(config)`. -/
def middleware (sha256 : String → Digest) (config : ServiceAuthConfig) (req : Request) : Outcome :=
  if !config.enforce || openPaths.contains req.path then .next none
  else match (bearerToken req).bind (matchServiceCredential sha256 config.credentials) with
    | none => .answered 401 "Service authentication required"
    | some credential =>
      if credential.scope = .read ∧ !readMethods.contains req.method then
        .answered 403 ("Service caller " ++ String.ofList credential.caller ++ " is read-only here")
      else .next (some credential.caller)

end ServiceAuth

end Archisynapse
