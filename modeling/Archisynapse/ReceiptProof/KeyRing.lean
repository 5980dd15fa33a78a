import Archisynapse.Base.Sums
import Archisynapse.ReceiptProof.Proof
import Mathlib.Data.List.Sort

/-!
# The key ring

`ReceiptKeyRing` of receipt_proof.py: the active signer and the public keys whose receipts are still trusted. A retired key has an
id of its own without blanks around it, and 32 bytes; a ring that breaks this is not made.
-/

namespace Archisynapse

namespace ReceiptProof

inductive KeyStatus where
  | active | retired
  deriving DecidableEq

/-- `TrustedReceiptKey` -/
structure TrustedReceiptKey where
  keyId : String
  publicKeyB64 : String
  status : KeyStatus
  deriving DecidableEq

/-- `self._keys[key.key_id] = key` -/
def putKey (keys : List TrustedReceiptKey) (key : TrustedReceiptKey) : List TrustedReceiptKey :=
  if keys.any (fun k => decide (k.keyId = key.keyId)) then keys.map (fun k => if k.keyId = key.keyId then key else k)
  else keys ++ [key]

/-- The check of a retired key. -/
def checkRetired (env : Env) (activeKeyId keyId publicKeyB64 : String) : Except ProofError TrustedReceiptKey :=
  let keyId := strip keyId
  if keyId = "" then .error (.configuration "retired key id is required")
  else if keyId = activeKeyId then
    .error (.configuration ("key id " ++ env.repr (.str keyId) ++ " is both active and retired; rotate to a new key id"))
  else match b64decode (strip publicKeyB64) with
    | .error _ => .error (.configuration ("retired key " ++ env.repr (.str keyId) ++ " is not valid base64"))
    | .ok raw =>
      if raw.length ≠ 32 then
        .error (.configuration ("retired key " ++ env.repr (.str keyId) ++ " must decode to a 32-byte Ed25519 public key"))
      else .ok ⟨keyId, strip publicKeyB64, .retired⟩

/-- The loop over the retired keys. -/
def retireAll (env : Env) (activeKeyId : String) : List (String × String) → List TrustedReceiptKey →
    Except ProofError (List TrustedReceiptKey)
  | [], keys => .ok keys
  | (keyId, publicKeyB64) :: rest, keys =>
    match checkRetired env activeKeyId keyId publicKeyB64 with
    | .ok key => retireAll env activeKeyId rest (putKey keys key)
    | .error e => .error e

/-- A retired key beside an active key id: it has another id, and its texts have no blanks around them. -/
def TrustedReceiptKey.RetiredBeside (key : TrustedReceiptKey) (activeKeyId : String) : Prop :=
  key.status = .retired ∧ key.keyId ≠ activeKeyId ∧ strip key.keyId = key.keyId ∧ strip key.publicKeyB64 = key.publicKeyB64 ∧
    key.keyId ≠ "" ∧ ∃ raw, b64decode key.publicKeyB64 = .ok raw ∧ raw.length = 32

/-- A key that passed its check. -/
theorem checkRetired_ok {env : Env} {activeKeyId keyId publicKeyB64 : String} {key : TrustedReceiptKey}
    (h : checkRetired env activeKeyId keyId publicKeyB64 = .ok key) : key.RetiredBeside activeKeyId := by
  unfold checkRetired at h
  dsimp only at h
  split at h
  · cases h
  · rename_i hne
    split at h
    · cases h
    · rename_i hactive
      split at h
      · cases h
      · rename_i raw hraw
        split at h
        · cases h
        · rename_i hlen
          cases h
          exact ⟨rfl, hactive, strip_strip _, strip_strip _, hne, raw, hraw, not_not.1 hlen⟩

/-- The keys after one is put among them. -/
theorem mem_putKey {keys : List TrustedReceiptKey} {key k : TrustedReceiptKey} (h : k ∈ putKey keys key) : k ∈ keys ∨ k = key := by
  unfold putKey at h
  split at h
  · obtain ⟨x, hx, rfl⟩ := List.mem_map.1 h
    by_cases hkey : x.keyId = key.keyId
    · rw [if_pos hkey]
      exact Or.inr rfl
    · rw [if_neg hkey]
      exact Or.inl hx
  · rcases List.mem_append.1 h with h | h
    · exact Or.inl h
    · exact Or.inr (List.mem_singleton.1 h)

theorem nodup_putKey {keys : List TrustedReceiptKey} (key : TrustedReceiptKey) (h : (keys.map (·.keyId)).Nodup) :
    ((putKey keys key).map (·.keyId)).Nodup := by
  unfold putKey
  split
  · have hids : (keys.map (fun k => if k.keyId = key.keyId then key else k)).map (·.keyId) = keys.map (·.keyId) := by
      rw [List.map_map]
      refine List.map_congr_left (fun k _ => ?_)
      by_cases hk : k.keyId = key.keyId <;> simp [hk]
    rw [hids]
    exact h
  · rename_i hnew
    refine nodup_map_concat h (fun k hk he => hnew ?_)
    exact List.any_eq_true.2 ⟨k, hk, decide_eq_true he⟩

/-- What the loop makes: distinct ids, and keys that passed their checks. -/
theorem retireAll_ok {env : Env} {activeKeyId : String} {retired : List (String × String)} {keys all : List TrustedReceiptKey}
    (h : retireAll env activeKeyId retired keys = .ok all) (hnd : (keys.map (·.keyId)).Nodup)
    (hkeys : ∀ key ∈ keys, key.RetiredBeside activeKeyId) :
    (all.map (·.keyId)).Nodup ∧ ∀ key ∈ all, key.RetiredBeside activeKeyId := by
  induction retired generalizing keys with
  | nil =>
    cases h
    exact ⟨hnd, hkeys⟩
  | cons entry rest ih =>
    obtain ⟨keyId, publicKeyB64⟩ := entry
    unfold retireAll at h
    split at h
    · rename_i key hkey
      refine ih h (nodup_putKey key hnd) (fun k hk => ?_)
      rcases mem_putKey hk with hk | rfl
      · exact hkeys k hk
      · exact checkRetired_ok hkey
    · cases h

/-- `ReceiptKeyRing`: the active signer and the retired keys. -/
structure ReceiptKeyRing (env : Env) where
  active : ReceiptSigner env
  retired : List TrustedReceiptKey
  distinct : (retired.map (·.keyId)).Nodup
  beside : ∀ key ∈ retired, key.RetiredBeside active.keyId

variable {env : Env}

/-- `ReceiptKeyRing(active, retired_public_keys)` -/
def ReceiptKeyRing.make (active : ReceiptSigner env) (retired : List (String × String)) : Except ProofError (ReceiptKeyRing env) :=
  match h : retireAll env active.keyId retired [] with
  | .ok keys =>
    .ok ⟨active, keys, (retireAll_ok h List.nodup_nil (fun _ hk => nomatch hk)).1,
      (retireAll_ok h List.nodup_nil (fun _ hk => nomatch hk)).2⟩
  | .error e => .error e

/-- The key of the active signer. -/
def ReceiptKeyRing.activeKey (ring : ReceiptKeyRing env) : TrustedReceiptKey :=
  ⟨ring.active.keyId, ring.active.publicKeyB64, .active⟩

/-- `self._keys.values()`: the active key was put last. -/
def ReceiptKeyRing.values (ring : ReceiptKeyRing env) : List TrustedReceiptKey := ring.retired ++ [ring.activeKey]

/-- `attach` -/
def ReceiptKeyRing.attach (ring : ReceiptKeyRing env) (receipt : Members) : Members := ring.active.attach receipt

/-- The order of `keys`: the active key first, then by id. -/
def keyBefore (a b : TrustedReceiptKey) : Bool :=
  match a.status, b.status with
  | .active, .retired => true
  | .retired, .active => false
  | _, _ => decide (a.keyId ≤ b.keyId)

/-- `keys` -/
def ReceiptKeyRing.keys (ring : ReceiptKeyRing env) : List TrustedReceiptKey :=
  ring.values.insertionSort (fun a b => keyBefore a b = true)

/-- `get` -/
def ReceiptKeyRing.get (ring : ReceiptKeyRing env) (keyId : String) : Option TrustedReceiptKey :=
  ring.values.find? (fun k => decide (k.keyId = keyId))

/-- `rotate` -/
def ReceiptKeyRing.rotate (ring : ReceiptKeyRing env) (newActive : ReceiptSigner env) : Except ProofError (ReceiptKeyRing env) :=
  ReceiptKeyRing.make newActive (ring.values.map (fun k => (k.keyId, k.publicKeyB64)))

/-- `keyring_trusted_keys` -/
def keyringTrustedKeys (ring : ReceiptKeyRing env) : TrustedKeys := ring.keys.map (fun k => (k.keyId, k.publicKeyB64))

/-! ## The offline verifier

tools/verify-receipt/verify_receipt.py: a receipt and a saved copy of the trusted keys, both as the JSON they are read from, and the
code the tool exits with. Reading the files and their JSON is left out: a file that is no JSON ends the tool with 2. -/

/-- The text of a status. -/
def KeyStatus.text : KeyStatus → String
  | .active => "active"
  | .retired => "retired"

/-- A key in the answer of `GET /v1/proof/keys`. -/
def TrustedReceiptKey.entry (k : TrustedReceiptKey) : Json :=
  .obj [("key_id", .str k.keyId), ("public_key_b64", .str k.publicKeyB64), ("status", .str k.status.text)]

/-- The answer of `GET /v1/proof/keys`. -/
def ReceiptKeyRing.document {env : Env} (ring : ReceiptKeyRing env) : Json :=
  .obj
    [("algorithm", .str algorithm), ("active_key_id", .str ring.active.keyId),
     ("keys", .arr (ring.keys.map TrustedReceiptKey.entry))]

/-- `trusted[key_id] = public_key_b64` -/
def TrustedKeys.put (trusted : TrustedKeys) (keyId publicKeyB64 : String) : TrustedKeys :=
  if trusted.any (fun k => decide (k.1 = keyId)) then
    trusted.map (fun k => if k.1 = keyId then (keyId, publicKeyB64) else k)
  else trusted ++ [(keyId, publicKeyB64)]

/-- The keys of `load_trusted_keys`, one after another; none when an entry is no dictionary or lacks a member. -/
def readKeys (env : Env) : List Json → TrustedKeys → Option TrustedKeys
  | [], trusted => some trusted
  | .obj entry :: rest, trusted =>
    match Json.member "key_id" entry, Json.member "public_key_b64" entry with
    | some keyId, some publicKeyB64 => readKeys env rest (trusted.put (pyStr env keyId) (pyStr env publicKeyB64))
    | _, _ => none
  | _ :: _, _ => none

/-- `load_trusted_keys`: the keys, or the code the tool exits with. A document that is no dictionary raises what `main` does not
catch. -/
def loadTrustedKeys (env : Env) : Json → Except Nat TrustedKeys
  | .obj document =>
    match Json.member "keys" document with
    | some (.arr keys) => (readKeys env keys []).elim (.error 2) .ok
    | _ => .error 2
  | _ => .error 1

/-- `main`, of two files that were read. A receipt that is no dictionary raises, as does the read of a key id from a `_proof` that is
none: both end with 1. -/
def verifyTool (env : Env) (receipt keys : Json) : Nat :=
  match loadTrustedKeys env keys with
  | .error code => code
  | .ok trusted =>
    match receipt with
    | .obj members => if (verifyReceiptTrusted env members trusted).1 then 0 else 1
    | _ => 1

end ReceiptProof

end Archisynapse
