import Archisynapse.Gateway.Receipts
import Archisynapse.Lemmas.GatewayRetry
import Archisynapse.Lemmas.ReceiptProof

/-!
# Signed receipts and where their proofs go

The trusted keys the tool loads from the document of a ring are those of the ring (`loadTrustedKeys_document`). With signing
configured every stored receipt carries the proof of its own fields (`signed_run`), and what was handed to the store is accepted
under every later ring (`members_signed`, `verifyTool_signed`); the receipt that the route makes of it has no proof
(`verifyTool_served`).
-/

namespace Archisynapse

namespace ReceiptProof

variable {env : Env}

/-! ## The keys document -/

/-- A key that is not there yet is put last. -/
theorem TrustedKeys.put_new {trusted : TrustedKeys} {keyId : String} (publicKeyB64 : String) (h : keyId ∉ trusted.map Prod.fst) :
    trusted.put keyId publicKeyB64 = trusted ++ [(keyId, publicKeyB64)] := by
  refine if_neg (fun hany => h ?_)
  obtain ⟨k, hk, hid⟩ := List.any_eq_true.1 hany
  exact List.mem_map.2 ⟨k, hk, of_decide_eq_true hid⟩

/-- The keys read from the entries of distinct ids. -/
theorem readKeys_entries {keys : List TrustedReceiptKey} {trusted : TrustedKeys}
    (hnodup : (trusted.map Prod.fst ++ keys.map (·.keyId)).Nodup) :
    readKeys env (keys.map TrustedReceiptKey.entry) trusted = some (trusted ++ keys.map (fun k => (k.keyId, k.publicKeyB64))) := by
  induction keys generalizing trusted with
  | nil => simp [readKeys]
  | cons k keys ih =>
    rw [List.map_cons] at hnodup
    have hnew : k.keyId ∉ trusted.map Prod.fst := fun hmem =>
      (List.nodup_append.1 hnodup).2.2 _ hmem _ List.mem_cons_self rfl
    have hput : trusted.put k.keyId k.publicKeyB64 = trusted ++ [(k.keyId, k.publicKeyB64)] := TrustedKeys.put_new _ hnew
    have hrest : readKeys env (keys.map TrustedReceiptKey.entry) (trusted.put k.keyId k.publicKeyB64) =
        some (trusted ++ [(k.keyId, k.publicKeyB64)] ++ keys.map (fun k => (k.keyId, k.publicKeyB64))) := by
      rw [hput]
      refine ih ?_
      rw [List.map_append, List.append_assoc]
      exact hnodup
    rw [List.append_assoc] at hrest
    exact hrest

/-- The ids of a ring's keys are distinct, in their order too. -/
theorem ReceiptKeyRing.keys_nodup (ring : ReceiptKeyRing env) : (ring.keys.map (·.keyId)).Nodup :=
  ((List.perm_insertionSort _ _).map _).nodup_iff.2 ring.values_nodup

/-- The tool loads the trusted keys of a ring from its document. -/
theorem loadTrustedKeys_document (ring : ReceiptKeyRing env) : loadTrustedKeys env ring.document = .ok (keyringTrustedKeys ring) := by
  have hkeys : readKeys env (ring.keys.map TrustedReceiptKey.entry) [] = some (keyringTrustedKeys ring) :=
    readKeys_entries ring.keys_nodup
  have hmember : loadTrustedKeys env ring.document =
      (readKeys env (ring.keys.map TrustedReceiptKey.entry) []).elim (.error 2) .ok := by
    simp [loadTrustedKeys, ReceiptKeyRing.document, Json.member]
  rw [hmember, hkeys]
  rfl

/-! ## What the tool says -/

/-- The tool on a receipt and the document of a ring. -/
theorem verifyTool_document (ring : ReceiptKeyRing env) (receipt : Members) :
    verifyTool env (.obj receipt) ring.document =
      if (verifyReceiptTrusted env receipt (keyringTrustedKeys ring)).1 then 0 else 1 := by
  unfold verifyTool
  rw [loadTrustedKeys_document]

/-- A receipt without a proof is rejected, whatever the keys. -/
theorem verifyTool_unproved {receipt : Members} (h : Json.member "_proof" receipt = none) (keys : Json) :
    verifyTool env (.obj receipt) keys ≠ 0 := by
  unfold verifyTool
  split
  · rename_i code hcode
    unfold loadTrustedKeys at hcode
    split at hcode
    · split at hcode
      · rename_i entries hentries
        cases hread : readKeys env entries [] with
        | none =>
          rw [hread] at hcode
          cases hcode
          decide
        | some trusted =>
          rw [hread] at hcode
          cases hcode
      · cases hcode
        decide
    · cases hcode
      decide
  · have hverify : ∀ trusted, verifyReceiptTrusted env receipt trusted = (false, "receipt has no proof envelope") := by
      intro trusted
      unfold verifyReceiptTrusted
      rw [h]
    simp [hverify]

end ReceiptProof

namespace Gateway

variable {library : Archisynapse.ReceiptProof.Env} {floatText : ℚ → String} {config : StoreConfig} {env : Env}

/-! ## A receipt's members -/

/-- No field of a receipt is its proof. -/
theorem modelDump_unproved (r : UnifiedReceipt) : Archisynapse.Json.member "_proof" (r.modelDump floatText) = none := by
  simp [Archisynapse.Json.member, UnifiedReceipt.modelDump]

/-- What is handed to the store of a signed receipt is what its signer attaches. -/
theorem members_signed (signer : Archisynapse.ReceiptProof.ReceiptSigner library) (r : UnifiedReceipt) :
    StoredPayload.members floatText ⟨r, some (signWith floatText signer r)⟩ = signer.attach (r.modelDump floatText) := by
  have hwithout : Archisynapse.Json.without "_proof" (r.modelDump floatText) = r.modelDump floatText := by
    refine List.filter_eq_self.2 (fun m hm => ?_)
    have hnone := List.find?_eq_none.1 (Option.map_eq_none_iff.1 (@modelDump_unproved floatText r)) m hm
    simpa using hnone
  unfold Archisynapse.ReceiptProof.ReceiptSigner.attach
  rw [hwithout]
  rfl

/-- A signed receipt, as it was handed to the store, is accepted with the keys of every later ring. -/
theorem verifyTool_signed (hcorrect : library.ed25519.Correct) {ring final : Archisynapse.ReceiptProof.ReceiptKeyRing library}
    (hlater : Archisynapse.ReceiptProof.Rotated ring final) (r : UnifiedReceipt) :
    Archisynapse.ReceiptProof.verifyTool library
      (.obj (StoredPayload.members floatText ⟨r, some (signWith floatText ring.active r)⟩)) final.document = 0 := by
  have hheld : final.Knows ring.active.keyId ring.active.publicKeyB64 := hlater.knows ring.knows_active
  rw [Archisynapse.ReceiptProof.verifyTool_document, members_signed,
    Archisynapse.ReceiptProof.verify_attach hcorrect ring.active _ (Archisynapse.ReceiptProof.trustedKeys_get hheld)]
  rfl

/-- The receipt of a response is rejected, whatever keys were saved. -/
theorem verifyTool_served (r : UnifiedReceipt) (keys : Archisynapse.Json) :
    Archisynapse.ReceiptProof.verifyTool library (.obj (r.modelDump floatText)) keys ≠ 0 :=
  Archisynapse.ReceiptProof.verifyTool_unproved (modelDump_unproved r) keys

/-- The route serves the receipt of a stored row's event. -/
theorem getReceiptRoute_stored {d : Tables} {row : ReceiptRow} (h : row ∈ d.receipts) :
    ∃ payload : StoredPayload, getReceiptRoute d row.merchantId row.eventId = .ok payload.receipt := by
  have hfound : (d.getReceipt row.merchantId row.eventId).isSome := by
    unfold Tables.getReceipt
    rw [Option.isSome_map]
    exact List.find?_isSome.2 ⟨row, h, decide_eq_true ⟨rfl, rfl⟩⟩
  obtain ⟨payload, hpayload⟩ := Option.isSome_iff_exists.1 hfound
  refine ⟨payload, ?_⟩
  unfold getReceiptRoute
  rw [hpayload]

/-! ## Stored receipts -/

/-- Every stored receipt carries the proof of its fields, if receipts are signed. -/
def Tables.Sealed (env : Env) (d : Tables) : Prop := ∀ r ∈ d.receipts, r.payload = env.attach r.payload.receipt

/-- A call stores no receipt but with the proof of its fields. -/
def SavesSealed (env : Env) : Action → Prop
  | .saveReceipt _ _ _ payload => payload = env.attach payload.receipt
  | _ => True

theorem SavesSealed.of_quiet {o : Action} (h : Quiet o) : SavesSealed env o := by
  cases o with
  | saveReceipt m k hash payload => exact h.elim
  | _ => trivial

/-- Storing a receipt with its proof leaves the others as they are. -/
theorem Tables.Sealed.save {d : Tables} (h : d.Sealed env) (m k hash : String) {payload : StoredPayload}
    (hpayload : payload = env.attach payload.receipt) : (d.saveReceipt config m k hash payload).2.Sealed env := by
  unfold saveReceipt
  split
  · exact h
  · split
    · split
      · exact h
      · intro r hr
        rcases mem_updateKey.1 hr with ⟨r', -, -, rfl⟩ | ⟨hr, -⟩
        · exact hpayload
        · exact h r hr
    · split
      · exact h
      · split
        · exact h
        · intro r hr
          rcases List.mem_append.1 hr with hr | hr
          · exact h r hr
          · rw [List.mem_singleton.1 hr]
            exact hpayload

/-- Every call leaves the receipts that are stored with their proofs. -/
theorem sealed_step {o : Action} {ch : Choice} {s s' : State} {r : Except GatewayError o.Result} (ho : SavesSealed env o)
    (h : s.tables.Sealed env) (he : exec config o ch s = some (r, s')) : s'.tables.Sealed env := by
  cases o with
  | claimIdempotency m k hash =>
    obtain ⟨r', heffect, -⟩ := exec_claim he
    generalize s'.tables = d at heffect
    cases heffect with
    | refused e => exact h
    | replay row hrow hhash hstatus => exact h
    | new stored now hkey hstored hnone => exact h
    | taken state row u hrow hhash hstatus hstate hu => exact h
  | saveReceipt m k hash payload =>
    have hdone : (s.perform config ch (.saveReceipt m k hash payload)).2.tables.Sealed env := h.save m k hash ho
    rcases exec_cases he with hr | ⟨e, -, rfl | rfl⟩
    · rw [(Prod.mk.inj hr).2]
      exact hdone
    · exact h
    · exact hdone
  | completeIdempotency m k e =>
    obtain ⟨r', heffect, -⟩ := exec_complete he
    generalize s'.tables = d at heffect
    cases heffect with
    | refused err => exact h
    | missing hnone => exact h
    | completed row hrow r hr => exact h
  | failIdempotency m k reason =>
    rcases exec_fail he with rfl | htables
    · exact h
    · rw [htables]
      exact h
  | _ =>
    rw [exec_quiet (by trivial) he]
    exact h

/-- In every state reached the stored receipts carry their proofs. -/
theorem signed_run {C : (machine config env).Cond} {s : State} (hs : s.tables.Sealed env) {cfg : (machine config env).Config}
    (hrun : (machine config env).Run C (.init _ s) cfg) : cfg.state.tables.Sealed env :=
  hrun.keeps_calls (A := SavesSealed env) (J := fun s : State => s.tables.Sealed env)
    (fun c : PaymentCall => route_calls c (fun _ ho => .of_quiet ho.quiet) trivial (fun _ => rfl) (fun _ => trivial) (fun _ => trivial))
    (fun _ _ _ _ _ _ ho _ h he => sealed_step ho h he) (fun _ _ h => h) hs

end Gateway

end Archisynapse
