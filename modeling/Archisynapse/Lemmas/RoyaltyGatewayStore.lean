import Archisynapse.Base.Exec
import Archisynapse.RoyaltyGateway.Routes

/-!
# Operations of the royalty tables

What each operation does to the tables, said once (`ClaimEffect`, `SaveEffect`), and how the lookups by a key and by a receipt's
id see it.
-/

namespace Archisynapse

/-- A text that was not filled up to its column is stored as it is. -/
theorem varchar_of_short {n : Nat} {text stored : String} (h : varchar n text = some stored) (hlen : stored.length < n) :
    stored = text := by
  unfold varchar at h
  split at h
  · exact (Option.some.inj h).symm
  · rename_i hlong
    split at h
    · cases h
      rw [String.length_ofList, List.length_take, String.length_toList] at hlen
      omega
    · cases h

namespace RoyaltyGateway

/-! ## Texts -/

theorem argument_ok {text t : String} (h : argument text = .ok t) : t = text := by
  unfold argument at h
  split at h
  · cases h
  · exact (Except.ok.inj h).symm

theorem column_ok {text stored : String} (h : column text = .ok stored) : varchar 255 text = some stored := by
  unfold column at h
  obtain ⟨t, ht, h⟩ := ok_of_except_bind h
  rw [argument_ok ht] at h
  split at h
  · rename_i s hs
    cases h
    exact hs
  · cases h

/-- The id of a receipt of `_build_receipt`. -/
def ingestReceiptId (hex : Hex) : String := "rcp_" ++ hex.text

theorem ingestReceiptId_length (hex : Hex) : (ingestReceiptId hex).length = 24 := by
  unfold ingestReceiptId
  rw [String.length_append, hex.length]
  rfl

/-- The id of a receipt of `_build_receipt` is stored as it is. -/
theorem column_ingest (hex : Hex) : varchar 255 (ingestReceiptId hex) = some (ingestReceiptId hex) := by
  refine varchar_fits ?_
  have := ingestReceiptId_length hex
  omega

/-- A row has such an id only when its receipt has it. -/
theorem ingest_of_stored {id : String} {hex : Hex} (h : varchar 255 id = some (ingestReceiptId hex)) :
    id = ingestReceiptId hex := by
  have hlen := ingestReceiptId_length hex
  exact (varchar_of_short h (by omega)).symm

/-- No receipt of `_build_receipt` has an id that goes on with an `r`. -/
theorem ingest_ne {hex : Hex} {rest : String} : ingestReceiptId hex ≠ "rcp_r" ++ rest := by
  intro h
  have hlist := congrArg String.toList h
  unfold ingestReceiptId at hlist
  rw [String.toList_append, String.toList_append] at hlist
  have hhex : hex.text.toList = 'r' :: rest.toList := by
    have hpre : "rcp_r".toList = "rcp_".toList ++ ['r'] := by decide
    rw [hpre, List.append_assoc] at hlist
    exact List.append_cancel_left hlist
  have hdigits := List.all_eq_true.1 hex.digits 'r' (by rw [hhex]; exact List.mem_cons_self)
  exact absurd hdigits (by decide)

theorem ingest_ne_release {hex : Hex} {eventId : String} : ingestReceiptId hex ≠ releaseReceiptId eventId := by
  have hid : releaseReceiptId eventId = "rcp_r" ++ ("el_" ++ eventId) := by
    unfold releaseReceiptId
    rw [← String.append_assoc]
    rfl
  rw [hid]
  exact ingest_ne

theorem ingest_ne_reversal {hex : Hex} {reversalEventId : String} :
    ingestReceiptId hex ≠ reversalReceiptId reversalEventId := by
  have hid : reversalReceiptId reversalEventId = "rcp_r" ++ ("ev_" ++ reversalEventId) := by
    unfold reversalReceiptId
    rw [← String.append_assoc]
    rfl
  rw [hid]
  exact ingest_ne

/-! ## Lookups -/

variable {d d' : Tables}

/-- An update that keeps the keys, seen from one key. -/
theorem Tables.idempotencyOf_update (d : Tables) (t k t' k' : String) {u : IdempotencyRow → IdempotencyRow}
    (hu : ∀ i, (u i).key = i.key) :
    (d.updateIdempotency t k u).idempotencyOf t' k' =
      (d.idempotencyOf t' k').map (fun i => if (t', k') = (t, k) then u i else i) :=
  find?_updateKey hu (t, k) (t', k') d.idempotency

/-- A new row, seen from one key. -/
theorem Tables.idempotencyOf_insert (d : Tables) (row : IdempotencyRow) (t k : String) :
    Tables.idempotencyOf { d with idempotency := d.idempotency ++ [row] } t k =
      (d.idempotencyOf t k).or (if row.key = (t, k) then some row else none) :=
  find?_concat IdempotencyRow.key (t, k) d.idempotency row

@[simp] theorem Tables.updateIdempotency_receipts (d : Tables) (t k : String) (u : IdempotencyRow → IdempotencyRow) :
    (d.updateIdempotency t k u).receipts = d.receipts := rfl

/-- A receipt is stored when it can be loaded. -/
theorem Tables.hasReceipt_iff (d : Tables) (id : String) : d.hasReceipt id = true ↔ (d.loadRoyaltyReceipt id).isSome = true := by
  unfold hasReceipt loadRoyaltyReceipt
  rw [Option.isSome_map, List.find?_isSome, List.any_eq_true]

/-- A receipt that is loaded is one of a row. -/
theorem Tables.loadRoyaltyReceipt_mem {id : String} {receipt : Receipt} (h : d.loadRoyaltyReceipt id = some receipt) :
    ∃ r ∈ d.receipts, r.receiptId = id ∧ r.payload = receipt := by
  obtain ⟨r, hr, hpayload⟩ := Option.map_eq_some_iff.1 h
  exact ⟨r, List.mem_of_find?_eq_some hr, by simpa using List.find?_some hr, hpayload⟩

/-! ## What the operations do -/

/-- What storing a receipt does: it is refused, writes over the receipt with its id, or adds a row. -/
inductive SaveEffect (d : Tables) (receipt : Receipt) : Except Failure Tables → Prop where
  | refused (e : Failure) : SaveEffect d receipt (.error e)
  | updated (id : String) (hid : varchar 255 receipt.body.receiptId = some id) (hthere : d.hasReceipt id = true) :
      SaveEffect d receipt
        (.ok { d with receipts := updateKey (·.receiptId) id (fun r => { r with payload := receipt }) d.receipts })
  | added (id eventId : String) (hid : varchar 255 receipt.body.receiptId = some id) (hnew : d.hasReceipt id = false) :
      SaveEffect d receipt (.ok { d with receipts := d.receipts ++ [⟨id, eventId, receipt⟩] })

theorem Tables.saveRoyaltyReceipt_effect (d : Tables) (receipt : Receipt) : SaveEffect d receipt (d.saveRoyaltyReceipt receipt) := by
  unfold saveRoyaltyReceipt
  cases hid : column receipt.body.receiptId with
  | error e => exact .refused e
  | ok id =>
    cases hevent : column receipt.body.eventId with
    | error e => exact .refused e
    | ok eventId =>
      cases column receipt.body.correlationId with
      | error e => exact .refused e
      | ok _ =>
        cases column receipt.body.tenantId with
        | error e => exact .refused e
        | ok _ =>
          change SaveEffect d receipt (if _ then _ else _)
          split
          · rename_i hthere
            exact .updated id (column_ok hid) hthere
          · rename_i hnew
            exact .added id eventId (column_ok hid) (by simpa using hnew)

/-- Storing a receipt, seen from the receipts: it is under its id, and every other one is as it was. -/
theorem Tables.save_ok {receipt : Receipt} (h : d.saveRoyaltyReceipt receipt = .ok d') :
    ∃ id, varchar 255 receipt.body.receiptId = some id ∧ d'.idempotency = d.idempotency ∧
      (∀ id', d'.loadRoyaltyReceipt id' = if id' = id then some receipt else d.loadRoyaltyReceipt id') ∧
      ∀ r ∈ d'.receipts, r.payload = receipt ∨ r ∈ d.receipts := by
  have heffect := d.saveRoyaltyReceipt_effect receipt
  rw [h] at heffect
  cases heffect with
  | updated id hid hthere =>
    refine ⟨id, hid, rfl, fun id' => ?_, fun r hr => ?_⟩
    · have hsome := (d.hasReceipt_iff id).1 hthere
      unfold loadRoyaltyReceipt at hsome ⊢
      rw [Option.isSome_map] at hsome
      have hkeeps : ∀ r : ReceiptRow, ReceiptRow.receiptId { r with payload := receipt } = r.receiptId := fun _ => rfl
      have hfind := find?_updateKey hkeeps id id' d.receipts
      simp only at hfind ⊢
      rw [hfind, Option.map_map]
      by_cases heq : id' = id
      · subst heq
        obtain ⟨r, hr⟩ := Option.isSome_iff_exists.1 hsome
        rw [hr]
        simp
      · simp only [heq, if_false]
        rfl
    · obtain ⟨x, hx, rfl⟩ := List.mem_map.1 hr
      by_cases hkey : x.receiptId = id
      · rw [if_pos hkey]
        exact Or.inl rfl
      · rw [if_neg hkey]
        exact Or.inr hx
  | added id eventId hid hnew =>
    refine ⟨id, hid, rfl, fun id' => ?_, fun r hr => ?_⟩
    · have hnone : d.loadRoyaltyReceipt id = none := by
        rw [← Option.not_isSome_iff_eq_none, ← hasReceipt_iff, hnew]
        exact Bool.false_ne_true
      unfold loadRoyaltyReceipt at hnone ⊢
      have hfind := find?_concat ReceiptRow.receiptId id' d.receipts ⟨id, eventId, receipt⟩
      simp only at hfind ⊢
      rw [hfind]
      by_cases heq : id' = id
      · subst heq
        rw [Option.map_eq_none_iff.1 hnone]
        simp
      · have heq' : ¬ id = id' := fun h => heq h.symm
        simp [heq, heq']
    · rcases List.mem_append.1 hr with hr | hr
      · exact Or.inr hr
      · rw [List.mem_singleton.1 hr]
        exact Or.inl rfl

/-- An update of a claim: it keeps the key, the hash and the receipt, and leaves the row PROCESSING. -/
structure Claiming (u : IdempotencyRow → IdempotencyRow) (row : IdempotencyRow) : Prop where
  key : ∀ i, (u i).key = i.key
  hash : ∀ i, (u i).requestHash = i.requestHash
  receipt : ∀ i, (u i).receiptId = i.receiptId
  status : (u row).status = .processing

/-- What a claim does: it is refused or raises; it finds the row COMPLETED; it makes a new row; or it takes a row that is not
COMPLETED. -/
inductive ClaimEffect (d : Tables) (t k h : String) : Except Failure Claim → Tables → Prop where
  | raised (e : Failure) : ClaimEffect d t k h (.error e) d
  | refused (claim : Claim) (hclaim : claim = .conflict ∨ claim = .processing) : ClaimEffect d t k h (.ok claim) d
  | replay (row : IdempotencyRow) (hrow : d.idempotencyOf t k = some row) (hhash : row.requestHash = h)
      (hstatus : row.status = .completed) : ClaimEffect d t k h (.ok (.completed row.receiptId)) d
  | new (storedTenant storedKey : String) (now : Int) (htenant : varchar 255 t = some storedTenant)
      (hkey : varchar 255 k = some storedKey) (hnone : d.idempotencyOf storedTenant storedKey = none) :
      ClaimEffect d t k h (.ok .claimed)
        { d with idempotency := d.idempotency ++ [⟨storedTenant, storedKey, h, .processing, none, none, now⟩] }
  | taken (row : IdempotencyRow) (u : IdempotencyRow → IdempotencyRow) (hrow : d.idempotencyOf t k = some row)
      (hhash : row.requestHash = h) (hstatus : row.status ≠ .completed) (hu : Claiming u row) :
      ClaimEffect d t k h (.ok .claimed) (d.updateIdempotency t k u)

theorem Tables.claimExisting_effect (d : Tables) (now : Int) (t k h : String) :
    ClaimEffect d t k h (d.claimExisting now t k h).1 (d.claimExisting now t k h).2 := by
  unfold claimExisting
  split
  · exact .raised _
  · rename_i row hrow
    split
    · exact .refused .conflict (Or.inl rfl)
    · rename_i hhash
      have hhash : row.requestHash = h := not_not.1 hhash
      cases hstatus : row.status with
      | completed => exact .replay row hrow hhash hstatus
      | failed =>
        exact .taken row _ hrow hhash (by rw [hstatus]; exact IdempotencyStatus.noConfusion)
          ⟨fun _ => rfl, fun _ => rfl, fun _ => rfl, rfl⟩
      | processing =>
        simp only
        split
        · exact .taken row _ hrow hhash (by rw [hstatus]; exact IdempotencyStatus.noConfusion)
            ⟨fun _ => rfl, fun _ => rfl, fun _ => rfl, hstatus⟩
        · exact .refused .processing (Or.inr rfl)

theorem Tables.claimIdempotency_effect (d : Tables) (now : Int) (t k h : String) :
    ClaimEffect d t k h (d.claimIdempotency now t k h).1 (d.claimIdempotency now t k h).2 := by
  unfold claimIdempotency
  split
  · rename_i storedTenant storedKey htenant hkey
    split
    · exact d.claimExisting_effect now t k h
    · rename_i hnone
      exact .new storedTenant storedKey now (column_ok htenant) (column_ok hkey) (Option.not_isSome_iff_eq_none.1 hnone)
  · exact .raised _
  · exact .raised _

/-- A claim leaves the receipts. -/
theorem ClaimEffect.receipts {t k h : String} {r : Except Failure Claim} (hc : ClaimEffect d t k h r d') :
    d'.receipts = d.receipts := by
  cases hc with
  | raised e => rfl
  | refused claim hclaim => rfl
  | replay row hrow hhash hstatus => rfl
  | new storedTenant storedKey now htenant hkey hnone => rfl
  | taken row u hrow hhash hstatus hu => rfl

end RoyaltyGateway

end Archisynapse
