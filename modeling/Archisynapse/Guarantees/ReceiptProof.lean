import Archisynapse.Lemmas.ReceiptProof

/-!
# What signed receipts guarantee

Rotating the key ring keeps every receipt verifiable, and keeps each key id for one public key (`rotation_keeps_history`). A proof
that is moved to another receipt is accepted only when the two say the same (`tamper_evident`), and the public key a receipt
brings with it can only get it rejected.
-/

namespace Archisynapse

namespace ReceiptProof

variable {env : Env}

/-- Signatures that hold the public key and the payload, in place of Ed25519. -/
def plainEnv : Env where
  ed25519 :=
    { PrivateKey := UInt8
      publicBytes := fun key => List.replicate 32 key
      sign := fun key payload => List.replicate 32 key ++ payload.data.toList
      verify := fun publicKey signature payload => decide (signature = publicKey ++ payload.data.toList)
      publicBytes_length := fun _ => List.length_replicate }
  sha256 := fun payload => toString payload.size
  repr := fun value => value.dumps .spaced

/-- Signers of two keys. -/
def firstSigner : ReceiptSigner plainEnv := ⟨(1 : UInt8), "arch-rcpt-k1", by decide, by decide⟩

def secondSigner : ReceiptSigner plainEnv := ⟨(2 : UInt8), "arch-rcpt-k2", by decide, by decide⟩

/-- A ring of the first signer. -/
def firstRing : ReceiptKeyRing plainEnv := ⟨firstSigner, [], List.nodup_nil, fun _ hk => nomatch hk⟩

/-! ## Rotation -/

/-- For every ring and every later one that rotations make of it: what the active signer of the ring attaches is accepted under
the trusted keys of the later one; the ring has one active key; a key id that both hold has one public key; and from the later
ring, a rotation to a signer with an id the ring held is refused. -/
theorem rotation_keeps_history (hcorrect : env.ed25519.Correct) {ring final : ReceiptKeyRing env} (hlater : Rotated ring final) :
    (∀ receipt, (verifyReceiptTrusted env (ring.attach receipt) (keyringTrustedKeys final)).1 = true) ∧
    ring.keys.filter (fun k => decide (k.status = .active)) = [ring.activeKey] ∧
    (∀ id a b, ring.Knows id a → final.Knows id b → a = b) ∧
    ∀ (signer : ReceiptSigner env) (publicKeyB64 : String), ring.Knows signer.keyId publicKeyB64 →
      ∃ err, final.rotate signer = .error err := by
  refine ⟨fun receipt => ?_, keys_active ring, fun id a b ha hb => ?_, fun signer publicKeyB64 hknown => ?_⟩
  · have hheld : final.Knows ring.active.keyId ring.active.publicKeyB64 := hlater.knows ring.knows_active
    exact verify_attach hcorrect ring.active receipt (trustedKeys_get hheld)
  · exact (hlater.knows ha).unique hb
  · exact (hlater.knows hknown).refused

/-- A receipt of the first ring verifies after a rotation to the second signer, from which there is no way back to the first. -/
theorem rotation_keeps_history_second : ∃ final : ReceiptKeyRing plainEnv, final.active = secondSigner ∧
    (verifyReceiptTrusted plainEnv (firstRing.attach [("amount", .number "1")]) (keyringTrustedKeys final)).1 = true ∧
    ∃ err, final.rotate firstSigner = .error err := by
  have hnew : ∀ publicKeyB64, ¬ firstRing.Knows secondSigner.keyId publicKeyB64 := by
    rintro publicKeyB64 ⟨k, hk, hid, -⟩
    rw [List.mem_singleton.1 hk] at hid
    exact absurd hid (by decide)
  obtain ⟨final, hrotate, hactive⟩ := firstRing.rotate_fresh secondSigner hnew
  have hcorrect : plainEnv.ed25519.Correct := fun key payload => decide_eq_true rfl
  have hkept := rotation_keeps_history hcorrect (Relation.ReflTransGen.single ⟨secondSigner, hrotate⟩)
  exact ⟨final, hactive, hkept.1 _, hkept.2.2.2 firstSigner _ firstRing.knows_active⟩

/-! ## Tampering -/

/-- The canonical bytes are equal when the receipts are, up to the order of their members and the proof. And where a signature by
the signer's key verifies only on the bytes it signed, the proof that a signer attached to a receipt is accepted on a receipt only
when that one is equal to it; the public key a receipt brings with it is no reason to accept it, only one to reject it. -/
theorem tamper_evident (signer : ReceiptSigner env)
    (hunforged : ∀ signed payload, env.ed25519.verify (env.ed25519.publicBytes signer.privateKey)
      (env.ed25519.sign signer.privateKey signed) payload = true → payload = signed)
    {r₁ r₂ : Members} (h₁ : Json.NumbersMembers r₁) (h₂ : Json.NumbersMembers r₂) (trusted : TrustedKeys) :
    (canonicalReceiptBytes r₂ = canonicalReceiptBytes r₁ ↔
      (Json.obj (Json.without "_proof" r₂)).Same (Json.obj (Json.without "_proof" r₁))) ∧
    (Json.member "_proof" r₂ = Json.member "_proof" (signer.attach r₁) → (verifyReceiptTrusted env r₂ trusted).1 = true →
      (Json.obj (Json.without "_proof" r₂)).Same (Json.obj (Json.without "_proof" r₁))) ∧
    (∀ proof, Json.member "_proof" r₂ = some (.obj proof) →
      ((verifyReceiptTrusted env r₂ trusted).1 = true ↔
        (verifyReceiptTrusted env (withoutEmbedded r₂ proof) trusted).1 = true ∧
        ∀ embedded, present "public_key_b64" proof = some embedded →
          ∃ keyB64, embedded = .str keyB64 ∧ trusted.get (strMember env "key_id" proof) = some keyB64)) := by
  refine ⟨canonical_same h₂ h₁, fun hproof haccepted => ?_, fun proof hproof => accepted_embedded hproof trusted⟩
  have hplaced : Json.member "_proof" r₂ = some (signer.sign (Json.without "_proof" r₁)).asDict := by
    rw [hproof]
    exact member_placed _ _ _
  have hsigned := accepted_placed signer hplaced haccepted
  have hbytes := hunforged _ _ hsigned
  rw [canonical_without] at hbytes
  exact (canonical_same h₂ h₁).1 hbytes

/-- A receipt of one amount, and the same proof beside another amount. -/
def paid : Members := [("amount", .number "1")]

def raised : Members := [("amount", .number "2"), ("_proof", (firstSigner.sign paid).asDict)]

/-- The text of the first member, when it is a number. -/
def firstNumber : Json → String
  | .obj ((_, .number text) :: _) => text
  | _ => ""

/-- The proof of one amount is not accepted on another. -/
theorem tamper_evident_raised : (verifyReceiptTrusted plainEnv raised (keyringTrustedKeys firstRing)).1 = false := by
  have hunforged : ∀ signed payload, plainEnv.ed25519.verify (plainEnv.ed25519.publicBytes firstSigner.privateKey)
      (plainEnv.ed25519.sign firstSigner.privateKey signed) payload = true → payload = signed := by
    intro signed payload h
    have hlists := List.append_cancel_left (of_decide_eq_true h)
    exact (ByteArray.ext (Array.toList_inj.1 hlists)).symm
  have hpaid : Json.NumbersMembers paid := ⟨Json.number_int 1, trivial⟩
  have hraised : Json.NumbersMembers raised := ⟨Json.number_int 2, ⟨trivial, trivial, trivial, trivial, trivial, trivial⟩, trivial⟩
  refine Bool.eq_false_of_not_eq_true (fun haccepted => ?_)
  have hsame := (tamper_evident firstSigner hunforged hpaid hraised _).2.1 rfl haccepted
  have hmember := congrArg firstNumber hsame
  exact absurd hmember (by decide +kernel)

end ReceiptProof

end Archisynapse
