import Archisynapse.Base.Base64
import Archisynapse.Base.Json
import Archisynapse.Base.Values

/-!
# Proofs of receipts

receipt_proof.py: the canonical bytes of a receipt, the signer that attaches a proof to it, and the verification of a receipt
against trusted keys. Ed25519, SHA-256 and Python's `repr` are parameters (`Env`). A receipt is a dictionary of JSON values.
-/

namespace Archisynapse

namespace ReceiptProof

/-- Ed25519: private keys, their raw public keys of 32 bytes, signatures and their verification by a public key. -/
structure Ed25519 where
  PrivateKey : Type
  publicBytes : PrivateKey → List UInt8
  sign : PrivateKey → ByteArray → List UInt8
  verify : List UInt8 → List UInt8 → ByteArray → Bool
  publicBytes_length : ∀ key, (publicBytes key).length = 32

/-- What the module takes from libraries. -/
structure Env where
  ed25519 : Ed25519
  /-- `hashlib.sha256(payload).hexdigest()` -/
  sha256 : ByteArray → String
  /-- `repr(value)` -/
  repr : Json → String

/-- The errors of the module. -/
inductive ProofError where
  | configuration (message : String)
  | proof (message : String)
  deriving DecidableEq

/-- A receipt: the members of a dictionary. -/
abbrev Members := List (String × Json)

/-! ## Bytes -/

/-- `_b64encode` -/
def b64encode (value : List UInt8) : String := String.ofList (Base64.encode value)

/-- `_b64decode` -/
def b64decode (value : String) : Except ProofError (List UInt8) :=
  match Base64.decode value with
  | some bytes => .ok bytes
  | none => .error (.proof "invalid base64 proof material")

/-- `canonical_receipt_bytes` -/
def canonicalReceiptBytes (receipt : Members) : ByteArray := ((Json.obj (Json.without "_proof" receipt)).dumps .compact).toByteArray

/-! ## Signing -/

/-- `ReceiptProof` -/
structure Proof where
  algorithm : String
  keyId : String
  payloadSha256 : String
  signatureB64 : String
  publicKeyB64 : String
  deriving DecidableEq

/-- `as_dict` -/
def Proof.asDict (p : Proof) : Json :=
  .obj
    [("algorithm", .str p.algorithm), ("key_id", .str p.keyId), ("payload_sha256", .str p.payloadSha256),
     ("signature_b64", .str p.signatureB64), ("public_key_b64", .str p.publicKeyB64)]

/-- `ReceiptSigner`: a private key, and the id of the key without blanks around it. -/
structure ReceiptSigner (env : Env) where
  privateKey : env.ed25519.PrivateKey
  keyId : String
  trimmed : strip keyId = keyId
  nonempty : keyId ≠ ""

/-- `ReceiptSigner.algorithm` -/
def algorithm : String := "Ed25519"

/-- `public_key_b64` -/
def ReceiptSigner.publicKeyB64 {env : Env} (s : ReceiptSigner env) : String := b64encode (env.ed25519.publicBytes s.privateKey)

/-- `sign` -/
def ReceiptSigner.sign {env : Env} (s : ReceiptSigner env) (receipt : Members) : Proof where
  algorithm := algorithm
  keyId := s.keyId
  payloadSha256 := env.sha256 (canonicalReceiptBytes receipt)
  signatureB64 := b64encode (env.ed25519.sign s.privateKey (canonicalReceiptBytes receipt))
  publicKeyB64 := s.publicKeyB64

/-- `attach` -/
def ReceiptSigner.attach {env : Env} (s : ReceiptSigner env) (receipt : Members) : Members :=
  Json.without "_proof" receipt ++ [("_proof", (s.sign (Json.without "_proof" receipt)).asDict)]

/-! ## Verification -/

/-- `str(value)`: that of a list or a dictionary is its `repr` -/
def pyStr (env : Env) : Json → String
  | .str text => text
  | .number text => text
  | .null => "None"
  | .bool true => "True"
  | .bool false => "False"
  | value => env.repr value

/-- `str(proof_raw.get(name, ""))` -/
def strMember (env : Env) (name : String) (proof : Members) : String := ((Json.member name proof).map (pyStr env)).getD ""

/-- `proof_raw.get(name) == text` -/
def memberIs (name text : String) (proof : Members) : Bool :=
  match Json.member name proof with
  | some (.str value) => decide (value = text)
  | _ => false

/-- `proof_raw.get(name)`, none also for `None` -/
def present (name : String) (proof : Members) : Option Json :=
  match Json.member name proof with
  | some .null => none
  | value => value

/-- The embedded public key rejects the receipt: it is there, and is not the trusted one. -/
def embeddedDiffers (proof : Members) (trustedPublicKeyB64 : String) : Bool :=
  match present "public_key_b64" proof with
  | none => false
  | some (.str embedded) => !decide (embedded = trustedPublicKeyB64)
  | some _ => true

/-- `Ed25519PublicKey.from_public_bytes(_b64decode(key)).verify(_b64decode(signature), payload)` does not raise. -/
def signatureValid (env : Env) (keyB64 signatureB64 : String) (payload : ByteArray) : Bool :=
  match b64decode keyB64, b64decode signatureB64 with
  | .ok key, .ok signature => decide (key.length = 32) && env.ed25519.verify key signature payload
  | _, _ => false

/-- The trusted keys: the text of the public key of each key id, of distinct ids. -/
abbrev TrustedKeys := List (String × String)

/-- `trusted_keys.get(key_id)` -/
def TrustedKeys.get (keys : TrustedKeys) (keyId : String) : Option String :=
  (keys.find? (fun k => decide (k.1 = keyId))).map (·.2)

/-- The checks of a payload against a proof and a trusted key. -/
def verifyPayload (env : Env) (receipt proof : Members) (trustedPublicKeyB64 : String) : Bool × String :=
  let payload := canonicalReceiptBytes receipt
  if memberIs "payload_sha256" (env.sha256 payload) proof = false then (false, "receipt payload hash does not match proof")
  else if signatureValid env trustedPublicKeyB64 (strMember env "signature_b64" proof) payload = false then
    (false, "receipt signature is invalid")
  else (true, "receipt signature is valid and the key is trusted")

/-- `verify_receipt_trusted` -/
def verifyReceiptTrusted (env : Env) (receipt : Members) (trustedKeys : TrustedKeys) : Bool × String :=
  match Json.member "_proof" receipt with
  | some (.obj proof) =>
    if memberIs "algorithm" algorithm proof = false then (false, "unsupported proof algorithm")
    else match trustedKeys.get (strMember env "key_id" proof) with
      | none => (false, "receipt was signed by an unknown key")
      | some trustedPublicKeyB64 =>
        if embeddedDiffers proof trustedPublicKeyB64 then (false, "receipt public key does not match the trusted key")
        else verifyPayload env receipt proof trustedPublicKeyB64
  | _ => (false, "receipt has no proof envelope")

end ReceiptProof

end Archisynapse
