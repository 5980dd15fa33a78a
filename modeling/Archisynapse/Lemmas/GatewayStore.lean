import Archisynapse.Gateway.Payments

/-!
# Operations of the gateway's store

What each operation does to the tables, said once (`ClaimEffect`, `SaveEffect`, `CompleteEffect`), the order in which receipts and
idempotency rows refer to each other (`Tables.Sound`), and what the operations leave of them (`Tables.Keeps`). A row that is
COMPLETED is left so by every operation but `fail_idempotency`: a second receipt of its merchant and key is refused, so no other
event can complete it.
-/

namespace Archisynapse

/-- A text that does not end in a blank is stored as it is or not at all. -/
theorem varchar_of_trimmed {n : Nat} {text stored : String} (ht : text.toList.getLast? ≠ some ' ')
    (h : varchar n text = some stored) : stored = text := by
  unfold varchar at h
  split at h
  · exact (Option.some.inj h).symm
  · rename_i hlen
    split at h
    · rename_i hblank
      have hne : text.toList.drop n ≠ [] := by
        intro hnil
        have := List.drop_eq_nil_iff.1 hnil
        rw [String.length_toList] at this
        exact hlen this
      have hlast : text.toList.getLast? = some ((text.toList.drop n).getLast hne) := by
        rw [List.getLast_drop, ← List.getLast?_eq_some_getLast]
      have hmem := List.all_eq_true.1 hblank _ (List.getLast_mem hne)
      rw [beq_iff_eq.1 hmem] at hlast
      exact absurd hlast ht
    · cases h

namespace Gateway

/-! ## Lookups -/

/-- An update that keeps the keys, seen from one key. -/
theorem Tables.idempotencyOf_update (d : Tables) (m k m' k' : String) {u : IdempotencyRow → IdempotencyRow}
    (hu : ∀ i, (u i).key = i.key) :
    (d.updateIdempotency m k u).idempotencyOf m' k' =
      (d.idempotencyOf m' k').map (fun i => if (m', k') = (m, k) then u i else i) :=
  find?_updateKey hu (m, k) (m', k') d.idempotency

/-- The row an update leaves under its own key. -/
theorem Tables.idempotencyOf_updated {d : Tables} {m k : String} {u : IdempotencyRow → IdempotencyRow} {row : IdempotencyRow}
    (hu : ∀ i, (u i).key = i.key) (h : d.idempotencyOf m k = some row) :
    (d.updateIdempotency m k u).idempotencyOf m k = some (u row) := by
  rw [d.idempotencyOf_update m k m k hu, h, Option.map_some, if_pos rfl]

/-- A new row, seen from one key. -/
theorem Tables.idempotencyOf_insert (d : Tables) (row : IdempotencyRow) (m k : String) :
    Tables.idempotencyOf { d with idempotency := d.idempotency ++ [row] } m k =
      (d.idempotencyOf m k).or (if row.key = (m, k) then some row else none) :=
  find?_concat IdempotencyRow.key (m, k) d.idempotency row

/-- A receipt that is found is one of the table. -/
theorem Tables.receiptOf_some {d : Tables} {e : String} {r : ReceiptRow} (h : d.receiptOf e = some r) :
    r ∈ d.receipts ∧ r.eventId = e :=
  ⟨List.mem_of_find?_eq_some h, by simpa using List.find?_some h⟩

/-- The receipts are those of the update. -/
@[simp] theorem Tables.updateIdempotency_receipts (d : Tables) (m k : String) (u : IdempotencyRow → IdempotencyRow) :
    (d.updateIdempotency m k u).receipts = d.receipts := rfl

/-! ## What the operations do -/

/-- An update of a claim: it keeps the key, the hash and the event, and leaves the row PROCESSING. -/
structure Claiming (u : IdempotencyRow → IdempotencyRow) (row : IdempotencyRow) : Prop where
  key : ∀ i, (u i).key = i.key
  hash : ∀ i, (u i).requestHash = i.requestHash
  event : ∀ i, (u i).eventId = i.eventId
  status : (u row).status = .processing

/-- What a claim does: it is refused; it finds the row COMPLETED; it makes a new row; or it takes a row that is not COMPLETED. -/
inductive ClaimEffect (d : Tables) (m k h : String) : Except GatewayError IdempotencyClaim → Tables → Prop where
  | refused (e : GatewayError) : ClaimEffect d m k h (.error e) d
  | replay (row : IdempotencyRow) (hrow : d.idempotencyOf m k = some row) (hhash : row.requestHash = h)
      (hstatus : row.status = .completed) : ClaimEffect d m k h (.ok ⟨.replay, row.eventId⟩) d
  | new (stored : String) (now : Int) (hkey : strip k ≠ "") (hstored : varchar 255 k = some stored)
      (hnone : d.idempotencyOf m stored = none) :
      ClaimEffect d m k h (.ok ⟨.new, none⟩)
        { d with idempotency := d.idempotency ++ [⟨m, stored, h, .processing, none, none, now⟩] }
  | taken (state : ClaimState) (row : IdempotencyRow) (u : IdempotencyRow → IdempotencyRow)
      (hrow : d.idempotencyOf m k = some row) (hhash : row.requestHash = h) (hstatus : row.status ≠ .completed)
      (hstate : state ≠ .replay) (hu : Claiming u row) : ClaimEffect d m k h (.ok ⟨state, none⟩) (d.updateIdempotency m k u)

theorem Tables.claimStored_effect (d : Tables) (now : Int) (m k h : String) {row : IdempotencyRow}
    (hrow : d.idempotencyOf m k = some row) :
    ClaimEffect d m k h (d.claimStored now m k h row).1 (d.claimStored now m k h row).2 := by
  unfold claimStored
  split
  · exact .refused _
  · rename_i hhash
    have hhash : row.requestHash = h := not_not.1 hhash
    cases hstatus : row.status with
    | completed => exact .replay row hrow hhash hstatus
    | processing =>
      simp only
      split
      · refine .taken .reclaimed row _ hrow hhash (by rw [hstatus]; exact IdempotencyStatus.noConfusion)
          ClaimState.noConfusion ⟨fun _ => rfl, fun _ => rfl, fun _ => rfl, hstatus⟩
      · exact .refused _
    | failed =>
      exact .taken .retry row _ hrow hhash (by rw [hstatus]; exact IdempotencyStatus.noConfusion)
        ClaimState.noConfusion ⟨fun _ => rfl, fun _ => rfl, fun _ => rfl, rfl⟩

theorem Tables.claimIdempotency_effect (d : Tables) (now : Int) (m k h : String) :
    ClaimEffect d m k h (d.claimIdempotency now m k h).1 (d.claimIdempotency now m k h).2 := by
  unfold claimIdempotency
  split
  · exact .refused _
  · rename_i hkey
    split
    · exact .refused _
    · rename_i stored hstored
      split
      · split
        · exact .refused _
        · rename_i row hrow
          exact d.claimStored_effect now m k h hrow
      · rename_i hnone
        split
        · exact .refused _
        · exact .new stored now hkey hstored (Option.not_isSome_iff_eq_none.1 hnone)

/-- What storing a receipt does when its event has none: it is refused or adds a row. -/
inductive SaveEffect (d : Tables) (m k h : String) (p : StoredPayload) : Except GatewayError Unit → Tables → Prop where
  | refused (e : GatewayError) : SaveEffect d m k h p (.error e) d
  | added (stored : String) (hstored : varchar 255 k = some stored) (hkey : ∀ r ∈ d.receipts, r.key ≠ (m, stored)) :
      SaveEffect d m k h p (.ok ())
        { d with receipts := d.receipts ++
          [⟨p.receipt.eventId, m, p.receipt.correlationId, stored, h, p.receipt.status, p⟩] }

theorem Tables.saveReceipt_effect {d : Tables} (config : StoreConfig) (m k h : String) {p : StoredPayload}
    (hnew : ∀ r ∈ d.receipts, r.eventId ≠ p.receipt.eventId) :
    SaveEffect d m k h p (d.saveReceipt config m k h p).1 (d.saveReceipt config m k h p).2 := by
  have hnone : d.receiptOf p.receipt.eventId = none := by
    refine List.find?_eq_none.2 (fun r hr => ?_)
    simpa using hnew r hr
  unfold saveReceipt
  split
  · exact .refused _
  · rename_i stored hstored
    rw [hnone]
    simp only
    split
    · exact .refused _
    · rename_i hkey
      split
      · exact .refused _
      · refine .added stored hstored (fun r hr he => hkey ?_)
        exact List.any_eq_true.2 ⟨r, hr, decide_eq_true he⟩

/-- What completing a key does: it is refused; there is no row; or the row is COMPLETED with an event that has a receipt. -/
inductive CompleteEffect (d : Tables) (m k e : String) : Except GatewayError Unit → Tables → Prop where
  | refused (err : GatewayError) : CompleteEffect d m k e (.error err) d
  | missing (hnone : d.idempotencyOf m k = none) : CompleteEffect d m k e (.ok ()) d
  | completed (row : IdempotencyRow) (hrow : d.idempotencyOf m k = some row) (r : ReceiptRow) (hr : d.receiptOf e = some r) :
      CompleteEffect d m k e (.ok ())
        (d.updateIdempotency m k (fun i => { i with status := .completed, eventId := some e, failureReason := none }))

theorem Tables.completeIdempotency_effect (d : Tables) (config : StoreConfig) (m k e : String) :
    CompleteEffect d m k e (d.completeIdempotency config m k e).1 (d.completeIdempotency config m k e).2 := by
  unfold completeIdempotency
  split
  · rename_i hnone
    exact .missing (Option.isNone_iff_eq_none.1 hnone)
  · rename_i hsome
    obtain ⟨row, hrow⟩ := Option.ne_none_iff_exists'.1 (mt Option.isNone_iff_eq_none.2 hsome)
    split
    · exact .refused _
    · rename_i r hr
      split
      · exact .refused _
      · exact .completed row hrow r hr

/-! ## The order of the tables -/

/-- Events and keys have one receipt each, a receipt is stored under its own event, an idempotency row's event has a receipt of
the row's merchant and key, and a COMPLETED row has an event. -/
structure Tables.Sound (d : Tables) : Prop where
  events : (d.receipts.map (·.eventId)).Nodup
  once : (d.receipts.map (·.key)).Nodup
  own : ∀ r ∈ d.receipts, r.payload.receipt.eventId = r.eventId
  named : ∀ m k row e, d.idempotencyOf m k = some row → row.eventId = some e → ∃ r ∈ d.receipts, r.eventId = e ∧ r.key = (m, k)
  completed : ∀ m k row, d.idempotencyOf m k = some row → row.status = .completed → row.eventId.isSome = true

/-- What is left of the tables: rows keep their hash, COMPLETED ones stay so with their event, and receipts stay as they are. -/
structure Tables.Keeps (d d' : Tables) : Prop where
  records : ∀ m k row, d.idempotencyOf m k = some row → ∃ row', d'.idempotencyOf m k = some row' ∧
    row'.requestHash = row.requestHash ∧ (row.status = .completed → row'.status = .completed ∧ row'.eventId = row.eventId)
  receipts : ∀ r ∈ d.receipts, r ∈ d'.receipts

theorem Tables.Keeps.refl (d : Tables) : d.Keeps d :=
  ⟨fun _ _ row h => ⟨row, h, rfl, fun hs => ⟨hs, rfl⟩⟩, fun _ h => h⟩

theorem Tables.Keeps.trans {d d' d'' : Tables} (h : d.Keeps d') (h' : d'.Keeps d'') : d.Keeps d'' := by
  refine ⟨fun m k row hrow => ?_, fun r hr => h'.receipts r (h.receipts r hr)⟩
  obtain ⟨row₁, hrow₁, hhash₁, hdone₁⟩ := h.records m k row hrow
  obtain ⟨row₂, hrow₂, hhash₂, hdone₂⟩ := h'.records m k row₁ hrow₁
  refine ⟨row₂, hrow₂, hhash₂.trans hhash₁, fun hs => ?_⟩
  obtain ⟨hs₁, he₁⟩ := hdone₁ hs
  obtain ⟨hs₂, he₂⟩ := hdone₂ hs₁
  exact ⟨hs₂, he₂.trans he₁⟩

section

variable {d : Tables} {m k : String} {u : IdempotencyRow → IdempotencyRow} {row : IdempotencyRow}

/-- An update keeps the tables when it keeps keys and hashes, and keeps the row's event if the row is COMPLETED. -/
theorem Tables.keeps_update (hkey : ∀ i, (u i).key = i.key) (hhash : ∀ i, (u i).requestHash = i.requestHash)
    (hdone : ∀ row, d.idempotencyOf m k = some row → row.status = .completed →
      (u row).status = .completed ∧ (u row).eventId = row.eventId) : d.Keeps (d.updateIdempotency m k u) := by
  refine ⟨fun m' k' row hrow => ?_, fun _ hr => hr⟩
  rw [d.idempotencyOf_update m k m' k' hkey, hrow]
  by_cases hmk : (m', k') = (m, k)
  · obtain ⟨rfl, rfl⟩ := Prod.mk.inj hmk
    exact ⟨u row, by simp, hhash row, hdone row hrow⟩
  · exact ⟨row, by simp [hmk], rfl, fun hs => ⟨hs, rfl⟩⟩

/-- An update keeps the tables in order when the row it leaves is. -/
theorem Tables.Sound.update (hd : d.Sound) (hkey : ∀ i, (u i).key = i.key)
    (hrow : ∀ row, d.idempotencyOf m k = some row →
      (∀ e, (u row).eventId = some e → ∃ r ∈ d.receipts, r.eventId = e ∧ r.key = (m, k)) ∧
      ((u row).status = .completed → (u row).eventId.isSome = true)) : (d.updateIdempotency m k u).Sound := by
  have hcase : ∀ m' k' row', (d.updateIdempotency m k u).idempotencyOf m' k' = some row' →
      ((m', k') = (m, k) ∧ ∃ row, d.idempotencyOf m k = some row ∧ row' = u row) ∨ d.idempotencyOf m' k' = some row' := by
    intro m' k' row' h
    rw [d.idempotencyOf_update m k m' k' hkey] at h
    obtain ⟨row, hfound, rfl⟩ := Option.map_eq_some_iff.1 h
    by_cases hmk : (m', k') = (m, k)
    · rw [if_pos hmk]
      obtain ⟨rfl, rfl⟩ := Prod.mk.inj hmk
      exact Or.inl ⟨rfl, row, hfound, rfl⟩
    · rw [if_neg hmk]
      exact Or.inr hfound
  refine ⟨hd.events, hd.once, hd.own, fun m' k' row' e h he => ?_, fun m' k' row' h hs => ?_⟩
  · rcases hcase m' k' row' h with ⟨hmk, row, hfound, rfl⟩ | h
    · rw [hmk]
      exact (hrow row hfound).1 e he
    · exact hd.named m' k' row' e h he
  · rcases hcase m' k' row' h with ⟨hmk, row, hfound, rfl⟩ | h
    · exact (hrow row hfound).2 hs
    · exact hd.completed m' k' row' h hs

/-- A claim keeps the tables and their order. -/
theorem ClaimEffect.keeps {h : String} {r : Except GatewayError IdempotencyClaim} {d' : Tables} (hc : ClaimEffect d m k h r d')
    (hd : d.Sound) : d'.Sound ∧ d.Keeps d' ∧ d'.receipts = d.receipts := by
  cases hc with
  | refused e => exact ⟨hd, .refl d, rfl⟩
  | replay row hrow hhash hstatus => exact ⟨hd, .refl d, rfl⟩
  | new stored now hkey hstored hnone =>
    have hcase : ∀ m' k' row', Tables.idempotencyOf
        { d with idempotency := d.idempotency ++ [⟨m, stored, h, .processing, none, none, now⟩] } m' k' = some row' →
        d.idempotencyOf m' k' = some row' ∨ (row'.eventId = none ∧ row'.status = .processing) := by
      intro m' k' row' hrow'
      rw [d.idempotencyOf_insert] at hrow'
      rcases Option.or_eq_some_iff.1 hrow' with hrow' | ⟨-, hrow'⟩
      · exact Or.inl hrow'
      · split at hrow'
        · cases hrow'
          exact Or.inr ⟨rfl, rfl⟩
        · cases hrow'
    refine ⟨⟨hd.events, hd.once, hd.own, fun m' k' row' e h' he => ?_, fun m' k' row' h' hs => ?_⟩,
      ⟨fun m' k' row' h' => ⟨row', ?_, rfl, fun hs => ⟨hs, rfl⟩⟩, fun _ hr => hr⟩, rfl⟩
    · rcases hcase m' k' row' h' with h' | ⟨hne, -⟩
      · exact hd.named m' k' row' e h' he
      · rw [hne] at he
        cases he
    · rcases hcase m' k' row' h' with h' | ⟨-, hne⟩
      · exact hd.completed m' k' row' h' hs
      · rw [hne] at hs
        cases hs
    · rw [d.idempotencyOf_insert, h']
      rfl
  | taken state row u hrow hhash hstatus hstate hu =>
    have hsame : ∀ row', d.idempotencyOf m k = some row' → row' = row := fun row' h' => Option.some.inj (h'.symm.trans hrow)
    refine ⟨hd.update hu.key (fun row' h' => ⟨fun e he => ?_, fun hs => ?_⟩),
      Tables.keeps_update hu.key hu.hash (fun row' h' hs => ?_), rfl⟩
    · rw [hu.event] at he
      exact hd.named m k row' e h' he
    · rw [hsame row' h', hu.status] at hs
      cases hs
    · rw [hsame row' h'] at hs
      exact absurd hs hstatus

/-- A receipt that is added keeps the tables and their order. -/
theorem SaveEffect.keeps {h : String} {p : StoredPayload} {r : Except GatewayError Unit} {d' : Tables}
    (hs : SaveEffect d m k h p r d') (hd : d.Sound) (hnew : ∀ r ∈ d.receipts, r.eventId ≠ p.receipt.eventId) :
    d'.Sound ∧ d.Keeps d' ∧ d'.idempotency = d.idempotency ∧
      ∀ r ∈ d'.receipts, r ∈ d.receipts ∨ r.eventId = p.receipt.eventId := by
  cases hs with
  | refused e => exact ⟨hd, .refl d, rfl, fun r hr => Or.inl hr⟩
  | added stored hstored hkey =>
    refine ⟨⟨nodup_map_concat hd.events hnew, nodup_map_concat hd.once hkey, fun r hr => ?_, fun m' k' row e h' he => ?_,
      hd.completed⟩, ⟨fun m' k' row h' => ⟨row, h', rfl, fun hs => ⟨hs, rfl⟩⟩, fun r hr => List.mem_append_left _ hr⟩, rfl,
      fun r hr => ?_⟩
    · rcases List.mem_append.1 hr with hr | hr
      · exact hd.own r hr
      · rw [List.mem_singleton.1 hr]
    · obtain ⟨r, hr, hr'⟩ := hd.named m' k' row e h' he
      exact ⟨r, List.mem_append_left _ hr, hr'⟩
    · rcases List.mem_append.1 hr with hr | hr
      · exact Or.inl hr
      · rw [List.mem_singleton.1 hr]
        exact Or.inr rfl

/-- Completing a key with an event whose receipt is the key's keeps the tables and their order: a row that is COMPLETED has that
event already. -/
theorem CompleteEffect.keeps {e : String} {r : Except GatewayError Unit} {d' : Tables} (hc : CompleteEffect d m k e r d')
    (hd : d.Sound) {receipt : ReceiptRow} (hreceipt : receipt ∈ d.receipts) (he : receipt.eventId = e)
    (hkey : receipt.key = (m, k)) : d'.Sound ∧ d.Keeps d' ∧ d'.receipts = d.receipts := by
  cases hc with
  | refused err => exact ⟨hd, .refl d, rfl⟩
  | missing hnone => exact ⟨hd, .refl d, rfl⟩
  | completed row hrow r hr =>
    refine ⟨hd.update (fun _ => rfl) (fun row' h' => ⟨fun e' he' => ?_, fun _ => rfl⟩),
      Tables.keeps_update (fun _ => rfl) (fun _ => rfl) (fun row' h' hs => ⟨rfl, ?_⟩), rfl⟩
    · cases he'
      exact ⟨receipt, hreceipt, he, hkey⟩
    · obtain ⟨e', he'⟩ := Option.isSome_iff_exists.1 (hd.completed m k row' h' hs)
      obtain ⟨r', hr', hre', hrk'⟩ := hd.named m k row' e' h' he'
      have hsame : r' = receipt := List.inj_on_of_nodup_map hd.once hr' hreceipt (hrk'.trans hkey.symm)
      rw [he', ← hre', hsame, he]

/-- Failing a key that is not COMPLETED keeps the tables and their order. -/
theorem Tables.failIdempotency_keeps (hd : d.Sound) (reason : String)
    (hopen : ∀ row, d.idempotencyOf m k = some row → row.status ≠ .completed) :
    (d.failIdempotency m k reason).Sound ∧ d.Keeps (d.failIdempotency m k reason) := by
  refine ⟨hd.update (fun _ => rfl) (fun row h => ⟨fun e he => hd.named m k row e h he, fun hs => ?_⟩),
    Tables.keeps_update (fun _ => rfl) (fun _ => rfl) (fun row h hs => absurd hs (hopen row h))⟩
  cases hs

/-- The payload of a receipt of a merchant. -/
theorem Tables.Sound.getReceipt (hd : d.Sound) {r : ReceiptRow} (hr : r ∈ d.receipts) :
    d.getReceipt r.merchantId r.eventId = some r.payload := by
  unfold Tables.getReceipt
  cases hf : d.receipts.find? (fun x => decide (x.merchantId = r.merchantId ∧ x.eventId = r.eventId)) with
  | none => exact absurd (decide_eq_true ⟨rfl, rfl⟩) (List.find?_eq_none.1 hf r hr)
  | some x =>
    have hx : x.merchantId = r.merchantId ∧ x.eventId = r.eventId := by simpa using List.find?_some hf
    rw [List.inj_on_of_nodup_map hd.events (List.mem_of_find?_eq_some hf) hr hx.2]
    rfl

end

end Gateway

end Archisynapse
