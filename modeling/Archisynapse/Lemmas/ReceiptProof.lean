import Archisynapse.Lemmas.JsonText
import Archisynapse.ReceiptProof.KeyRing
import Mathlib.Logic.Relation

/-!
# Attached proofs and rotated rings

What a signer attaches verifies against its own public key (`verify_attach`), and a ring trusts the keys of every ring it was
rotated from, under the same texts (`ReceiptKeyRing.Knows`): a rotation puts the active key among the retired ones and changes
none of them.
-/

namespace Archisynapse

namespace ReceiptProof

variable {env : Env}

/-! ## Members -/

theorem member_without {name : String} (members : Members) : Json.member name (Json.without name members) = none := by
  unfold Json.member Json.without
  rw [Option.map_eq_none_iff, List.find?_eq_none]
  intro m hm
  have h := (List.mem_filter.1 hm).2
  simpa using h

/-- The other members stay. -/
theorem member_without_ne {name other : String} (hne : other ≠ name) (members : Members) :
    Json.member other (Json.without name members) = Json.member other members := by
  unfold Json.member Json.without
  rw [List.find?_filter]
  congr 2
  funext m
  by_cases hm : m.1 = other
  · simp [hm, hne]
  · simp [hm]

/-- A member that is put last where none of its name is. -/
theorem member_placed (name : String) (members : Members) (value : Json) :
    Json.member name (Json.without name members ++ [(name, value)]) = some value := by
  have hnone : Json.member name (Json.without name members) = none := member_without members
  unfold Json.member at hnone ⊢
  rw [Option.map_eq_none_iff] at hnone
  rw [List.find?_append, hnone]
  simp

theorem without_without (name : String) (members : Members) :
    Json.without name (Json.without name members) = Json.without name members := by
  unfold Json.without
  rw [List.filter_filter]
  refine List.filter_congr (fun m _ => ?_)
  simp

theorem without_placed (name : String) (members : Members) (value : Json) :
    Json.without name (Json.without name members ++ [(name, value)]) = Json.without name members := by
  have hlast : Json.without name [(name, value)] = [] := by simp [Json.without]
  have happend : Json.without name (Json.without name members ++ [(name, value)]) =
      Json.without name (Json.without name members) ++ Json.without name [(name, value)] := List.filter_append _ _
  rw [happend, hlast, without_without, List.append_nil]

/-! ## Bytes -/

/-- The canonical bytes do not read the proof. -/
theorem canonical_without (receipt : Members) :
    canonicalReceiptBytes (Json.without "_proof" receipt) = canonicalReceiptBytes receipt := by
  unfold canonicalReceiptBytes
  rw [without_without]

theorem canonical_attach (signer : ReceiptSigner env) (receipt : Members) :
    canonicalReceiptBytes (signer.attach receipt) = canonicalReceiptBytes receipt := by
  unfold canonicalReceiptBytes ReceiptSigner.attach
  rw [without_placed]

theorem b64decode_encode (bytes : List UInt8) : b64decode (b64encode bytes) = .ok bytes := by
  unfold b64decode b64encode
  rw [Base64.decode_encode]

/-- An encoding has no blanks. -/
theorem strip_b64encode (bytes : List UInt8) : strip (b64encode bytes) = b64encode bytes := by
  have hdigit : ∀ n < 64, isSpace (Base64.digit n) = false := by decide
  have hclean : ∀ chars : List Char, (∀ c ∈ chars, isSpace c = false) → chars.dropWhile isSpace = chars := by
    intro chars h
    cases chars with
    | nil => rfl
    | cons c chars =>
      refine List.dropWhile_cons_of_neg ?_
      rw [h c List.mem_cons_self]
      exact Bool.false_ne_true
  have hbytes : ∀ c ∈ Base64.encode bytes, isSpace c = false := by
    intro c hc
    obtain ⟨n, hn, rfl⟩ := Base64.mem_encode bytes c hc
    exact hdigit n hn
  unfold strip b64encode
  rw [String.toList_ofList, hclean _ hbytes, hclean _ (fun c hc => hbytes c (List.mem_reverse.1 hc)), List.reverse_reverse]

/-! ## Attached proofs -/

/-- Ed25519 is correct: what a key signs verifies under its public key. -/
def Ed25519.Correct (e : Ed25519) : Prop := ∀ key payload, e.verify (e.publicBytes key) (e.sign key payload) payload = true

/-- The dictionary of a proof. -/
def Proof.members (p : Proof) : Members :=
  [("algorithm", .str p.algorithm), ("key_id", .str p.keyId), ("payload_sha256", .str p.payloadSha256),
   ("signature_b64", .str p.signatureB64), ("public_key_b64", .str p.publicKeyB64)]

section

variable (p : Proof)

theorem member_algorithm : Json.member "algorithm" p.members = some (.str p.algorithm) := by simp [Json.member, Proof.members]

theorem member_keyId : Json.member "key_id" p.members = some (.str p.keyId) := by simp [Json.member, Proof.members]

theorem member_payload : Json.member "payload_sha256" p.members = some (.str p.payloadSha256) := by
  simp [Json.member, Proof.members]

theorem member_signature : Json.member "signature_b64" p.members = some (.str p.signatureB64) := by
  simp [Json.member, Proof.members]

theorem member_publicKey : Json.member "public_key_b64" p.members = some (.str p.publicKeyB64) := by
  simp [Json.member, Proof.members]

end

/-- A receipt with a signer's proof is verified by the trusted key of the signer's id, when that is the signer's key: the digest
and the signature are checked against the receipt as it is. -/
theorem verify_placed (signer : ReceiptSigner env) (signed receipt : Members) {trusted : TrustedKeys} {keyB64 : String}
    (hproof : Json.member "_proof" receipt = some (signer.sign signed).asDict) (htrusted : trusted.get signer.keyId = some keyB64) :
    verifyReceiptTrusted env receipt trusted =
      if keyB64 = signer.publicKeyB64 then verifyPayload env receipt (signer.sign signed).members keyB64
      else (false, "receipt public key does not match the trusted key") := by
  have hdict : (signer.sign signed).asDict = .obj (signer.sign signed).members := rfl
  rw [hdict] at hproof
  have halgorithm : memberIs "algorithm" algorithm (signer.sign signed).members = true := by
    unfold memberIs
    rw [member_algorithm]
    exact decide_eq_true rfl
  have hkey : strMember env "key_id" (signer.sign signed).members = signer.keyId := by
    unfold strMember
    rw [member_keyId]
    rfl
  have hembedded : embeddedDiffers (signer.sign signed).members keyB64 = !decide (signer.publicKeyB64 = keyB64) := by
    unfold embeddedDiffers present
    rw [member_publicKey]
    rfl
  unfold verifyReceiptTrusted
  rw [hproof]
  simp only
  rw [halgorithm, if_neg (by decide), hkey, htrusted]
  simp only
  rw [hembedded]
  by_cases heq : keyB64 = signer.publicKeyB64
  · simp [heq]
  · have hne : ¬ signer.publicKeyB64 = keyB64 := fun h => heq h.symm
    simp [heq, hne]

/-- The signature of a proof under the signer's key. -/
theorem signature_placed (signer : ReceiptSigner env) (signed : Members) (payload : ByteArray) :
    signatureValid env signer.publicKeyB64 (strMember env "signature_b64" (signer.sign signed).members) payload =
      env.ed25519.verify (env.ed25519.publicBytes signer.privateKey)
        (env.ed25519.sign signer.privateKey (canonicalReceiptBytes signed)) payload := by
  have htext : strMember env "signature_b64" (signer.sign signed).members =
      b64encode (env.ed25519.sign signer.privateKey (canonicalReceiptBytes signed)) := by
    unfold strMember
    rw [member_signature]
    rfl
  unfold signatureValid ReceiptSigner.publicKeyB64
  rw [htext, b64decode_encode, b64decode_encode]
  simp only
  rw [env.ed25519.publicBytes_length, decide_eq_true rfl, Bool.true_and]

/-- What a signer attaches verifies against its own public key. -/
theorem verify_attach (hcorrect : env.ed25519.Correct) (signer : ReceiptSigner env) (receipt : Members) {trusted : TrustedKeys}
    (htrusted : trusted.get signer.keyId = some signer.publicKeyB64) :
    (verifyReceiptTrusted env (signer.attach receipt) trusted).1 = true := by
  have hproof : Json.member "_proof" (signer.attach receipt) = some (signer.sign (Json.without "_proof" receipt)).asDict :=
    member_placed _ _ _
  rw [verify_placed signer _ _ hproof htrusted, if_pos rfl]
  have hpayload : memberIs "payload_sha256" (env.sha256 (canonicalReceiptBytes (signer.attach receipt)))
      (signer.sign (Json.without "_proof" receipt)).members = true := by
    unfold memberIs
    rw [member_payload, canonical_attach]
    refine decide_eq_true ?_
    unfold ReceiptSigner.sign
    rw [canonical_without]
  unfold verifyPayload
  dsimp only
  rw [hpayload, if_neg (by decide), signature_placed, canonical_attach, canonical_without, hcorrect, if_neg (by decide)]

/-! ## Acceptance -/

/-- What the verification accepts: the proof names the algorithm and a trusted key, brings no other public key with it, and agrees
with the payload. -/
theorem accepted_iff (receipt : Members) (trusted : TrustedKeys) :
    (verifyReceiptTrusted env receipt trusted).1 = true ↔
      ∃ proof keyB64, Json.member "_proof" receipt = some (.obj proof) ∧ memberIs "algorithm" algorithm proof = true ∧
        trusted.get (strMember env "key_id" proof) = some keyB64 ∧ embeddedDiffers proof keyB64 = false ∧
        (verifyPayload env receipt proof keyB64).1 = true := by
  unfold verifyReceiptTrusted
  constructor
  · intro h
    split at h
    · rename_i proof hproof
      split at h
      · cases h
      · rename_i halgorithm
        split at h
        · cases h
        · rename_i keyB64 hkey
          split at h
          · cases h
          · rename_i hembedded
            exact ⟨proof, keyB64, hproof, Bool.eq_true_of_not_eq_false halgorithm, hkey, Bool.eq_false_of_not_eq_true hembedded, h⟩
    · cases h
  · rintro ⟨proof, keyB64, hproof, halgorithm, hkey, hembedded, hpayload⟩
    rw [hproof]
    simp only [halgorithm, hkey, hembedded]
    exact hpayload

/-- The canonical bytes are equal when the receipts without their proofs are. -/
theorem canonical_same {a b : Members} (ha : Json.NumbersMembers a) (hb : Json.NumbersMembers b) :
    canonicalReceiptBytes a = canonicalReceiptBytes b ↔
      (Json.obj (Json.without "_proof" a)).Same (Json.obj (Json.without "_proof" b)) := by
  have hkept : ∀ {members : Members}, Json.NumbersMembers members → (Json.obj (Json.without "_proof" members)).Numbers := by
    intro members h
    refine (Json.numbersMembers_iff _).2 (fun m hm => ?_)
    exact (Json.numbersMembers_iff _).1 h m (List.mem_filter.1 hm).1
  unfold canonicalReceiptBytes
  rw [String.toByteArray_inj]
  exact Json.dumps_inj Json.commas_compact (hkept ha) (hkept hb)

/-- Where a signer's proof is accepted, its signature verifies on the receipt's bytes. -/
theorem accepted_placed (signer : ReceiptSigner env) {signed receipt : Members} {trusted : TrustedKeys}
    (hproof : Json.member "_proof" receipt = some (signer.sign signed).asDict)
    (haccepted : (verifyReceiptTrusted env receipt trusted).1 = true) :
    env.ed25519.verify (env.ed25519.publicBytes signer.privateKey)
      (env.ed25519.sign signer.privateKey (canonicalReceiptBytes signed)) (canonicalReceiptBytes receipt) = true := by
  obtain ⟨proof, keyB64, hmember, -, hkey, -, -⟩ := (accepted_iff receipt trusted).1 haccepted
  have hdict : proof = (signer.sign signed).members := Json.obj.inj (Option.some.inj (hmember.symm.trans hproof))
  have hid : strMember env "key_id" (signer.sign signed).members = signer.keyId := by
    unfold strMember
    rw [member_keyId]
    rfl
  rw [hdict, hid] at hkey
  rw [verify_placed signer signed receipt hproof hkey] at haccepted
  split at haccepted
  · rename_i hsame
    rw [hsame] at haccepted
    unfold verifyPayload at haccepted
    dsimp only at haccepted
    split at haccepted
    · cases haccepted
    · split at haccepted
      · cases haccepted
      · rename_i hvalid
        rw [signature_placed] at hvalid
        exact Bool.eq_true_of_not_eq_false hvalid
  · cases haccepted

/-- A receipt with its proof's public key taken out. -/
def withoutEmbedded (receipt proof : Members) : Members :=
  Json.without "_proof" receipt ++ [("_proof", .obj (Json.without "public_key_b64" proof))]

theorem canonical_withoutEmbedded (receipt proof : Members) :
    canonicalReceiptBytes (withoutEmbedded receipt proof) = canonicalReceiptBytes receipt := by
  unfold canonicalReceiptBytes withoutEmbedded
  rw [without_placed]

/-- What an embedded public key must be not to reject. -/
theorem embeddedDiffers_false {proof : Members} {keyB64 : String} :
    embeddedDiffers proof keyB64 = false ↔ ∀ embedded, present "public_key_b64" proof = some embedded → embedded = .str keyB64 := by
  unfold embeddedDiffers
  cases hp : present "public_key_b64" proof with
  | none => simp
  | some embedded => cases embedded <;> simp

/-- The payload's checks do not read the embedded public key. -/
theorem verifyPayload_withoutEmbedded (receipt proof : Members) (keyB64 : String) :
    verifyPayload env (withoutEmbedded receipt proof) (Json.without "public_key_b64" proof) keyB64 =
      verifyPayload env receipt proof keyB64 := by
  have hdigest : ∀ text, memberIs "payload_sha256" text (Json.without "public_key_b64" proof) = memberIs "payload_sha256" text proof := by
    intro text
    unfold memberIs
    rw [member_without_ne (by decide)]
  have hsignature : strMember env "signature_b64" (Json.without "public_key_b64" proof) = strMember env "signature_b64" proof := by
    unfold strMember
    rw [member_without_ne (by decide)]
  unfold verifyPayload
  dsimp only
  rw [canonical_withoutEmbedded, hdigest, hsignature]

/-- A receipt is accepted when it is accepted without the public key its proof brings, and that key, if there is one, is the
trusted one. -/
theorem accepted_embedded {receipt proof : Members} (hproof : Json.member "_proof" receipt = some (.obj proof))
    (trusted : TrustedKeys) :
    (verifyReceiptTrusted env receipt trusted).1 = true ↔
      (verifyReceiptTrusted env (withoutEmbedded receipt proof) trusted).1 = true ∧
      ∀ embedded, present "public_key_b64" proof = some embedded →
        ∃ keyB64, embedded = .str keyB64 ∧ trusted.get (strMember env "key_id" proof) = some keyB64 := by
  have halgorithm : memberIs "algorithm" algorithm (Json.without "public_key_b64" proof) = memberIs "algorithm" algorithm proof := by
    unfold memberIs
    rw [member_without_ne (by decide)]
  have hid : strMember env "key_id" (Json.without "public_key_b64" proof) = strMember env "key_id" proof := by
    unfold strMember
    rw [member_without_ne (by decide)]
  have hnone : present "public_key_b64" (Json.without "public_key_b64" proof) = none := by
    unfold present
    rw [member_without]
  rw [accepted_iff, accepted_iff]
  constructor
  · rintro ⟨proof', keyB64, hproof', hchecked, hkey, hembedded, hpayload⟩
    obtain rfl : proof = proof' := Json.obj.inj (Option.some.inj (hproof.symm.trans hproof'))
    refine ⟨⟨_, keyB64, member_placed _ _ _, by rw [halgorithm, hchecked], by rw [hid, hkey], ?_, ?_⟩, fun embedded h => ?_⟩
    · exact embeddedDiffers_false.2 (fun embedded h => by rw [hnone] at h; cases h)
    · rw [verifyPayload_withoutEmbedded, hpayload]
    · exact ⟨keyB64, embeddedDiffers_false.1 hembedded embedded h, hkey⟩
  · rintro ⟨⟨proof', keyB64, hproof', hchecked, hkey, -, hpayload⟩, hembedded⟩
    obtain rfl : Json.without "public_key_b64" proof = proof' :=
      Json.obj.inj (Option.some.inj ((member_placed _ _ _).symm.trans hproof'))
    rw [halgorithm] at hchecked
    rw [hid] at hkey
    rw [verifyPayload_withoutEmbedded] at hpayload
    refine ⟨proof, keyB64, hproof, hchecked, hkey, embeddedDiffers_false.2 (fun embedded h => ?_), hpayload⟩
    obtain ⟨trustedB64, rfl, htrusted⟩ := hembedded embedded h
    rw [Option.some.inj (htrusted.symm.trans hkey)]

/-! ## Rings -/

/-- A ring holds a key under an id. -/
def ReceiptKeyRing.Knows (ring : ReceiptKeyRing env) (keyId publicKeyB64 : String) : Prop :=
  ∃ k ∈ ring.values, k.keyId = keyId ∧ k.publicKeyB64 = publicKeyB64

/-- The ids of a ring are distinct. -/
theorem ReceiptKeyRing.values_nodup (ring : ReceiptKeyRing env) : (ring.values.map (·.keyId)).Nodup :=
  nodup_map_concat ring.distinct (fun k hk => (ring.beside k hk).2.1)

/-- A ring holds its active signer's key. -/
theorem ReceiptKeyRing.knows_active (ring : ReceiptKeyRing env) : ring.Knows ring.active.keyId ring.active.publicKeyB64 :=
  ⟨ring.activeKey, List.mem_append_right _ (List.mem_singleton_self _), rfl, rfl⟩

/-- A ring holds one key under an id. -/
theorem ReceiptKeyRing.Knows.unique {ring : ReceiptKeyRing env} {id a b : String} (ha : ring.Knows id a) (hb : ring.Knows id b) :
    a = b := by
  obtain ⟨k, hk, hkid, rfl⟩ := ha
  obtain ⟨l, hl, hlid, rfl⟩ := hb
  rw [List.inj_on_of_nodup_map ring.values_nodup hk hl (hkid.trans hlid.symm)]

/-- The texts of a ring have no blanks around them. -/
theorem ReceiptKeyRing.values_trimmed (ring : ReceiptKeyRing env) {k : TrustedReceiptKey} (hk : k ∈ ring.values) :
    strip k.keyId = k.keyId ∧ strip k.publicKeyB64 = k.publicKeyB64 := by
  rcases List.mem_append.1 hk with hk | hk
  · exact ⟨(ring.beside k hk).2.2.1, (ring.beside k hk).2.2.2.1⟩
  · rw [List.mem_singleton.1 hk]
    exact ⟨ring.active.trimmed, strip_b64encode _⟩

/-- The trusted keys of a ring are the keys it holds. -/
theorem trustedKeys_get {ring : ReceiptKeyRing env} {id publicKeyB64 : String} (h : ring.Knows id publicKeyB64) :
    (keyringTrustedKeys ring).get id = some publicKeyB64 := by
  obtain ⟨k, hk, hid, hkey⟩ := h
  have hperm : ring.keys.Perm ring.values := List.perm_insertionSort _ _
  have hmem : k ∈ ring.keys := hperm.mem_iff.2 hk
  have hnodup : (ring.keys.map (·.keyId)).Nodup := (hperm.map _).nodup_iff.2 ring.values_nodup
  have hfind : (keyringTrustedKeys ring).find? (fun e => decide (e.1 = id)) = some (k.keyId, k.publicKeyB64) := by
    unfold keyringTrustedKeys
    rw [List.find?_map]
    have hfound : ring.keys.find? (fun x => decide (x.keyId = id)) = some k := by
      cases hf : ring.keys.find? (fun x => decide (x.keyId = id)) with
      | none =>
        have := List.find?_eq_none.1 hf k hmem
        simp [hid] at this
      | some x =>
        have hx : x.keyId = id := by simpa using List.find?_some hf
        rw [List.inj_on_of_nodup_map hnodup (List.mem_of_find?_eq_some hf) hmem (hx.trans hid.symm)]
    have hcomp : ((fun e : String × String => decide (e.1 = id)) ∘ fun k : TrustedReceiptKey => (k.keyId, k.publicKeyB64)) =
        fun x : TrustedReceiptKey => decide (x.keyId = id) := rfl
    rw [hcomp, hfound]
    rfl
  unfold TrustedKeys.get
  rw [hfind, ← hkey]
  rfl

/-! ## Rotation -/

/-- What a key that passed its check is. -/
theorem checkRetired_eq {activeKeyId keyId publicKeyB64 : String} {key : TrustedReceiptKey}
    (h : checkRetired env activeKeyId keyId publicKeyB64 = .ok key) : key = ⟨strip keyId, strip publicKeyB64, .retired⟩ := by
  unfold checkRetired at h
  dsimp only at h
  split at h
  · cases h
  · split at h
    · cases h
    · split at h
      · cases h
      · split at h
        · cases h
        · cases h
          rfl

theorem putKey_self (keys : List TrustedReceiptKey) (key : TrustedReceiptKey) : key ∈ putKey keys key := by
  unfold putKey
  split
  · rename_i hthere
    obtain ⟨k, hk, hid⟩ := List.any_eq_true.1 hthere
    exact List.mem_map.2 ⟨k, hk, if_pos (of_decide_eq_true hid)⟩
  · exact List.mem_append_right _ (List.mem_singleton_self _)

theorem putKey_other {keys : List TrustedReceiptKey} {key k : TrustedReceiptKey} (hk : k ∈ keys) (hne : k.keyId ≠ key.keyId) :
    k ∈ putKey keys key := by
  unfold putKey
  split
  · exact List.mem_map.2 ⟨k, hk, if_neg hne⟩
  · exact List.mem_append_left _ hk

/-- The loop keeps a key that no later entry has the id of. -/
theorem retireAll_keeps {activeKeyId : String} {retired : List (String × String)} {keys all : List TrustedReceiptKey}
    (h : retireAll env activeKeyId retired keys = .ok all) {k : TrustedReceiptKey} (hk : k ∈ keys)
    (hne : ∀ e ∈ retired, strip e.1 ≠ k.keyId) : k ∈ all := by
  induction retired generalizing keys with
  | nil =>
    cases h
    exact hk
  | cons entry rest ih =>
    obtain ⟨keyId, publicKeyB64⟩ := entry
    unfold retireAll at h
    split at h
    · rename_i key hkey
      refine ih h (putKey_other hk ?_) (fun e he => hne e (List.mem_cons_of_mem _ he))
      rw [checkRetired_eq hkey]
      exact fun he => hne _ List.mem_cons_self he.symm
    · cases h

/-- The loop holds every entry, when their ids are distinct. -/
theorem retireAll_mem {activeKeyId : String} {retired : List (String × String)} {keys all : List TrustedReceiptKey}
    (h : retireAll env activeKeyId retired keys = .ok all) (hnd : (retired.map (fun e => strip e.1)).Nodup)
    {e : String × String} (he : e ∈ retired) : (⟨strip e.1, strip e.2, .retired⟩ : TrustedReceiptKey) ∈ all := by
  induction retired generalizing keys with
  | nil => cases he
  | cons entry rest ih =>
    obtain ⟨keyId, publicKeyB64⟩ := entry
    unfold retireAll at h
    obtain ⟨hnew, hnd⟩ := List.nodup_cons.1 hnd
    split at h
    · rename_i key hkey
      rcases List.mem_cons.1 he with rfl | he
      · refine retireAll_keeps h ?_ (fun e he heq => hnew (List.mem_map.2 ⟨e, he, heq⟩))
        rw [← checkRetired_eq hkey]
        exact putKey_self _ _
      · exact ih h hnd he
    · cases h

/-- The loop refuses an entry with the active id. -/
theorem retireAll_refuses {activeKeyId : String} {retired : List (String × String)} (keys : List TrustedReceiptKey)
    {e : String × String} (he : e ∈ retired) (hid : strip e.1 = activeKeyId) :
    ∃ err, retireAll env activeKeyId retired keys = .error err := by
  induction retired generalizing keys with
  | nil => cases he
  | cons entry rest ih =>
    obtain ⟨keyId, publicKeyB64⟩ := entry
    unfold retireAll
    cases hkey : checkRetired env activeKeyId keyId publicKeyB64 with
    | error err => exact ⟨err, rfl⟩
    | ok key =>
      rcases List.mem_cons.1 he with rfl | he
      · exact absurd ((congrArg TrustedReceiptKey.keyId (checkRetired_eq hkey)).trans hid) (checkRetired_ok hkey).2.1
      · exact ih _ he

/-- A ring that was made has the retired keys of the loop. -/
theorem make_ok {active : ReceiptSigner env} {retired : List (String × String)} {ring : ReceiptKeyRing env}
    (h : ReceiptKeyRing.make active retired = .ok ring) :
    ring.active = active ∧ retireAll env active.keyId retired [] = .ok ring.retired := by
  unfold ReceiptKeyRing.make at h
  split at h
  · rename_i keys hkeys
    cases h
    exact ⟨rfl, hkeys⟩
  · cases h

/-- A rotation keeps the keys of a ring. -/
theorem ReceiptKeyRing.Knows.rotate {ring ring' : ReceiptKeyRing env} {signer : ReceiptSigner env} {id publicKeyB64 : String}
    (h : ring.Knows id publicKeyB64) (hr : ring.rotate signer = .ok ring') : ring'.Knows id publicKeyB64 := by
  obtain ⟨k, hk, rfl, rfl⟩ := h
  obtain ⟨-, hall⟩ := make_ok hr
  have hids : (ring.values.map (fun k => (k.keyId, k.publicKeyB64))).map (fun e => strip e.1) = ring.values.map (·.keyId) := by
    rw [List.map_map]
    exact List.map_congr_left (fun k hk => (ring.values_trimmed hk).1)
  have hmem := retireAll_mem hall (by rw [hids]; exact ring.values_nodup) (List.mem_map.2 ⟨k, hk, rfl⟩)
  obtain ⟨hid, hkey⟩ := ring.values_trimmed hk
  exact ⟨_, List.mem_append_left _ hmem, hid, hkey⟩

/-- A rotation to a signer whose id a ring holds is refused. -/
theorem ReceiptKeyRing.Knows.refused {ring : ReceiptKeyRing env} {signer : ReceiptSigner env} {publicKeyB64 : String}
    (h : ring.Knows signer.keyId publicKeyB64) : ∃ err, ring.rotate signer = .error err := by
  obtain ⟨k, hk, hid, -⟩ := h
  have hentry : (k.keyId, k.publicKeyB64) ∈ ring.values.map (fun k => (k.keyId, k.publicKeyB64)) := List.mem_map.2 ⟨k, hk, rfl⟩
  obtain ⟨err, herr⟩ : ∃ err, retireAll env signer.keyId _ [] = .error err :=
    retireAll_refuses [] hentry ((ring.values_trimmed hk).1.trans hid)
  refine ⟨err, ?_⟩
  unfold ReceiptKeyRing.rotate ReceiptKeyRing.make
  split
  · rename_i keys hkeys
    rw [herr] at hkeys
    cases hkeys
  · rename_i e he
    rw [herr] at he
    cases he
    rfl

/-- The loop accepts entries that have no blanks around them, other ids than the active one, and 32 bytes. -/
theorem retireAll_accepts {activeKeyId : String} {retired : List (String × String)} (keys : List TrustedReceiptKey)
    (h : ∀ e ∈ retired, strip e.1 ≠ "" ∧ strip e.1 ≠ activeKeyId ∧ ∃ raw, b64decode (strip e.2) = .ok raw ∧ raw.length = 32) :
    ∃ all, retireAll env activeKeyId retired keys = .ok all := by
  induction retired generalizing keys with
  | nil => exact ⟨keys, rfl⟩
  | cons entry rest ih =>
    obtain ⟨keyId, publicKeyB64⟩ := entry
    obtain ⟨hnonempty, hother, raw, hraw, hlength⟩ := h _ List.mem_cons_self
    have hkey : checkRetired env activeKeyId keyId publicKeyB64 = .ok ⟨strip keyId, strip publicKeyB64, .retired⟩ := by
      unfold checkRetired
      dsimp only
      rw [if_neg hnonempty, if_neg hother, hraw]
      simp only [hlength, ne_eq, not_true_eq_false, if_false]
    unfold retireAll
    rw [hkey]
    exact ih _ (fun e he => h e (List.mem_cons_of_mem _ he))

/-- A rotation to a signer with a new id succeeds. -/
theorem ReceiptKeyRing.rotate_fresh (ring : ReceiptKeyRing env) (signer : ReceiptSigner env)
    (hnew : ∀ publicKeyB64, ¬ ring.Knows signer.keyId publicKeyB64) :
    ∃ ring', ring.rotate signer = .ok ring' ∧ ring'.active = signer := by
  have hentries : ∀ e ∈ ring.values.map (fun k => (k.keyId, k.publicKeyB64)),
      strip e.1 ≠ "" ∧ strip e.1 ≠ signer.keyId ∧ ∃ raw, b64decode (strip e.2) = .ok raw ∧ raw.length = 32 := by
    intro e he
    obtain ⟨k, hk, rfl⟩ := List.mem_map.1 he
    obtain ⟨hid, hkey⟩ := ring.values_trimmed hk
    dsimp only
    rw [hid, hkey]
    refine ⟨?_, fun heq => hnew _ ⟨k, hk, heq, rfl⟩, ?_⟩
    · rcases List.mem_append.1 hk with hk | hk
      · exact (ring.beside k hk).2.2.2.2.1
      · rw [List.mem_singleton.1 hk]
        exact ring.active.nonempty
    · rcases List.mem_append.1 hk with hk | hk
      · exact (ring.beside k hk).2.2.2.2.2
      · rw [List.mem_singleton.1 hk]
        exact ⟨_, b64decode_encode _, env.ed25519.publicBytes_length _⟩
  obtain ⟨all, hall⟩ : ∃ all, retireAll env signer.keyId _ [] = .ok all := retireAll_accepts [] hentries
  unfold ReceiptKeyRing.rotate ReceiptKeyRing.make
  split
  · exact ⟨_, rfl, rfl⟩
  · rename_i err herr
    rw [hall] at herr
    cases herr

/-- Rings along successful rotations. -/
def Rotated : ReceiptKeyRing env → ReceiptKeyRing env → Prop :=
  Relation.ReflTransGen (fun ring ring' => ∃ signer, ring.rotate signer = .ok ring')

/-- Rotations keep the keys of a ring. -/
theorem Rotated.knows {ring ring' : ReceiptKeyRing env} (hr : Rotated ring ring') {id publicKeyB64 : String}
    (h : ring.Knows id publicKeyB64) : ring'.Knows id publicKeyB64 := by
  induction hr with
  | refl => exact h
  | tail _ hstep ih =>
    obtain ⟨signer, hstep⟩ := hstep
    exact ih.rotate hstep

/-- A ring has one active key. -/
theorem keys_active (ring : ReceiptKeyRing env) :
    ring.keys.filter (fun k => decide (k.status = .active)) = [ring.activeKey] := by
  have hperm : ring.keys.Perm ring.values := List.perm_insertionSort _ _
  have hvalues : ring.values.filter (fun k => decide (k.status = .active)) = [ring.activeKey] := by
    have hretired : ring.retired.filter (fun k => decide (k.status = .active)) = [] := by
      refine List.filter_eq_nil_iff.2 (fun k hk => ?_)
      rw [(ring.beside k hk).1]
      decide
    unfold ReceiptKeyRing.values
    rw [List.filter_append, hretired]
    rfl
  have hfilter := hperm.filter (fun k => decide (k.status = .active))
  rw [hvalues] at hfilter
  exact List.perm_singleton.1 hfilter

end ReceiptProof

end Archisynapse
