import Archisynapse.Lemmas.RoyaltyGatewaySignatures

/-!
# Keys of ingest

What the requests do to the keys of ingest and to its receipts. In a run in which `complete_idempotency` and `fail_idempotency` find
no COMPLETED row and no receipt's id is drawn twice (`openKeys`), a COMPLETED row and a receipt of ingest stay as they are
(`Tables.Keeps`), and an ingest returns the stored receipt that its key is COMPLETED with (`keys_sound`).
-/

namespace Archisynapse

namespace RoyaltyGateway

variable {S : TransactionService} {env : Env} {d d' d'' : Tables} {t k : String}

/-! ## Keys and receipts -/

/-- A tenant and a key that their columns store as they are. -/
def Fits (t k : String) : Prop := varchar 255 t = some t ∧ varchar 255 k = some k

/-- A key is COMPLETED with a receipt's id. -/
def Tables.CompletedWith (d : Tables) (t k id : String) : Prop :=
  ∃ row, d.idempotencyOf t k = some row ∧ row.status = .completed ∧ row.receiptId = some id

/-- A key is not COMPLETED. -/
def Tables.Open (d : Tables) (t k : String) : Prop := ∀ row, d.idempotencyOf t k = some row → row.status ≠ .completed

/-- No receipt is stored under an id, if it is one of ingest. -/
def Tables.Undrawn (d : Tables) (id : String) : Prop := ∀ hex, id = ingestReceiptId hex → d.loadRoyaltyReceipt id = none

/-- Keys are as their columns store them, a receipt of ingest has the id it is stored under, and a COMPLETED key has a stored
receipt of ingest. -/
structure Tables.Sound (d : Tables) : Prop where
  fits : ∀ t k row, d.idempotencyOf t k = some row → Fits t k
  named : ∀ hex receipt, d.loadRoyaltyReceipt (ingestReceiptId hex) = some receipt → receipt.body.receiptId = ingestReceiptId hex
  completed : ∀ t k row, d.idempotencyOf t k = some row → row.status = .completed → ∃ hex receipt,
    row.receiptId = some (ingestReceiptId hex) ∧ d.loadRoyaltyReceipt (ingestReceiptId hex) = some receipt

theorem Tables.empty_sound : Tables.empty.Sound := ⟨fun _ _ _ h => (nomatch h), fun _ _ h => (nomatch h), fun _ _ _ h => (nomatch h)⟩

/-- What requests do to the tables of one another: rows stay, COMPLETED ones with their receipt's id, and so do the receipts of
ingest. -/
structure Tables.Keeps (d d' : Tables) : Prop where
  keys : ∀ t k row, d.idempotencyOf t k = some row → ∃ row', d'.idempotencyOf t k = some row' ∧
    (row.status = .completed → row'.status = .completed ∧ row'.receiptId = row.receiptId)
  receipts : ∀ hex receipt, d.loadRoyaltyReceipt (ingestReceiptId hex) = some receipt →
    d'.loadRoyaltyReceipt (ingestReceiptId hex) = some receipt

theorem Tables.Keeps.refl (d : Tables) : d.Keeps d := ⟨fun _ _ row h => ⟨row, h, fun hs => ⟨hs, rfl⟩⟩, fun _ _ h => h⟩

theorem Tables.Keeps.trans (h : d.Keeps d') (h' : d'.Keeps d'') : d.Keeps d'' := by
  refine ⟨fun t k row hrow => ?_, fun hex receipt hr => h'.receipts hex receipt (h.receipts hex receipt hr)⟩
  obtain ⟨row₁, hrow₁, hdone₁⟩ := h.keys t k row hrow
  obtain ⟨row₂, hrow₂, hdone₂⟩ := h'.keys t k row₁ hrow₁
  refine ⟨row₂, hrow₂, fun hs => ?_⟩
  obtain ⟨hs₁, hid₁⟩ := hdone₁ hs
  obtain ⟨hs₂, hid₂⟩ := hdone₂ hs₁
  exact ⟨hs₂, hid₂.trans hid₁⟩

theorem Tables.CompletedWith.keeps {id : String} (h : d.CompletedWith t k id) (hk : d.Keeps d') : d'.CompletedWith t k id := by
  obtain ⟨row, hrow, hstatus, hid⟩ := h
  obtain ⟨row', hrow', hdone⟩ := hk.keys t k row hrow
  obtain ⟨hstatus', hid'⟩ := hdone hstatus
  exact ⟨row', hrow', hstatus', hid'.trans hid⟩

/-- The receipt of a COMPLETED key is stored under its own id. -/
theorem Tables.CompletedWith.stored {id : String} (h : d.CompletedWith t k id) (hd : d.Sound) :
    ∃ hex receipt, id = ingestReceiptId hex ∧ d.loadRoyaltyReceipt (ingestReceiptId hex) = some receipt ∧
      receipt.body.receiptId = ingestReceiptId hex := by
  obtain ⟨row, hrow, hstatus, hid⟩ := h
  obtain ⟨hex, receipt, hid', hload⟩ := hd.completed t k row hrow hstatus
  exact ⟨hex, receipt, Option.some.inj (hid.symm.trans hid'), hload, hd.named hex receipt hload⟩

/-- A key is COMPLETED with one id. -/
theorem Tables.CompletedWith.unique {id id' : String} (h : d.CompletedWith t k id) (h' : d.CompletedWith t k id') : id = id' := by
  obtain ⟨row, hrow, -, hid⟩ := h
  obtain ⟨row', hrow', -, hid'⟩ := h'
  rw [hrow] at hrow'
  cases hrow'
  exact Option.some.inj (hid.symm.trans hid')

/-! ## What the operations keep -/

/-- An update of a row that is not COMPLETED, which names a stored receipt of ingest when it completes the row. -/
theorem Tables.update_keeps (hd : d.Sound) {u : IdempotencyRow → IdempotencyRow} (hkey : ∀ i, (u i).key = i.key)
    (hopen : d.Open t k) (hdone : ∀ row, d.idempotencyOf t k = some row → (u row).status = .completed → ∃ hex receipt,
      (u row).receiptId = some (ingestReceiptId hex) ∧ d.loadRoyaltyReceipt (ingestReceiptId hex) = some receipt) :
    (d.updateIdempotency t k u).Sound ∧ d.Keeps (d.updateIdempotency t k u) := by
  have hlookup := fun t' k' => d.idempotencyOf_update t k t' k' hkey
  refine ⟨⟨fun t' k' row' hrow' => ?_, hd.named, fun t' k' row' hrow' hstatus => ?_⟩, fun t' k' row hrow => ?_, fun _ _ h => h⟩
  · rw [hlookup] at hrow'
    obtain ⟨row, hrow, -⟩ := Option.map_eq_some_iff.1 hrow'
    exact hd.fits t' k' row hrow
  · rw [hlookup] at hrow'
    obtain ⟨row, hrow, rfl⟩ := Option.map_eq_some_iff.1 hrow'
    by_cases hsame : (t', k') = (t, k)
    · rw [if_pos hsame] at hstatus ⊢
      obtain ⟨rfl, rfl⟩ := Prod.mk.inj hsame
      exact hdone row hrow hstatus
    · rw [if_neg hsame] at hstatus ⊢
      exact hd.completed t' k' row hrow hstatus
  · refine ⟨if (t', k') = (t, k) then u row else row, by rw [hlookup, hrow]; rfl, fun hstatus => ?_⟩
    by_cases hsame : (t', k') = (t, k)
    · obtain ⟨rfl, rfl⟩ := Prod.mk.inj hsame
      exact absurd hstatus (hopen row hrow)
    · rw [if_neg hsame]
      exact ⟨hstatus, rfl⟩

/-- A claim. -/
theorem ClaimEffect.keeps {hash : String} {r : Except Failure Claim} (hc : ClaimEffect d t k hash r d') (hd : d.Sound) :
    d'.Sound ∧ d.Keeps d' := by
  cases hc with
  | raised e => exact ⟨hd, .refl d⟩
  | refused claim hclaim => exact ⟨hd, .refl d⟩
  | replay row hrow hhash hstatus => exact ⟨hd, .refl d⟩
  | taken row u hrow hhash hstatus hu =>
    refine Tables.update_keeps hd hu.key (fun row' hrow' => ?_) (fun row' hrow' hdone => ?_)
    · rw [hrow] at hrow'
      cases hrow'
      exact hstatus
    · rw [hrow] at hrow'
      cases hrow'
      rw [hu.status] at hdone
      cases hdone
  | new storedTenant storedKey now htenant hkey hnone =>
    have hlookup := d.idempotencyOf_insert ⟨storedTenant, storedKey, hash, .processing, none, none, now⟩
    refine ⟨⟨fun t' k' row' h => ?_, hd.named, fun t' k' row' h hdone => ?_⟩, fun t' k' row' h => ?_, fun _ _ h => h⟩
    · rw [hlookup] at h
      rcases Option.or_eq_some_iff.1 h with h | ⟨-, h⟩
      · exact hd.fits t' k' row' h
      · split at h
        · rename_i hsame
          obtain ⟨rfl, rfl⟩ := Prod.mk.inj hsame
          exact ⟨varchar_idem htenant, varchar_idem hkey⟩
        · cases h
    · rw [hlookup] at h
      rcases Option.or_eq_some_iff.1 h with h | ⟨-, h⟩
      · exact hd.completed t' k' row' h hdone
      · split at h
        · cases h
          cases hdone
        · cases h
    · refine ⟨row', ?_, fun hdone => ⟨hdone, rfl⟩⟩
      rw [hlookup, h]
      rfl

/-- Storing a receipt whose id was not drawn before. -/
theorem Tables.save_keeps {receipt : Receipt} (hd : d.Sound) (hnew : d.Undrawn receipt.body.receiptId)
    (h : d.saveRoyaltyReceipt receipt = .ok d') : d'.Sound ∧ d.Keeps d' := by
  obtain ⟨id, hid, hkeys, hload, -⟩ := Tables.save_ok h
  have hlookup : ∀ t' k', d'.idempotencyOf t' k' = d.idempotencyOf t' k' := by
    intro t' k'
    unfold idempotencyOf
    rw [hkeys]
  have hkept : ∀ hex r, d.loadRoyaltyReceipt (ingestReceiptId hex) = some r → d'.loadRoyaltyReceipt (ingestReceiptId hex) = some r := by
    intro hex r hr
    rw [hload, if_neg, hr]
    rintro rfl
    have hsame := ingest_of_stored hid
    have hnone := hnew hex hsame
    rw [hsame, hr] at hnone
    cases hnone
  refine ⟨⟨fun t' k' row hrow => ?_, fun hex r hr => ?_, fun t' k' row hrow hstatus => ?_⟩, fun t' k' row hrow => ?_, hkept⟩
  · rw [hlookup] at hrow
    exact hd.fits t' k' row hrow
  · rw [hload] at hr
    split at hr
    · rename_i hsame
      subst hsame
      cases hr
      exact ingest_of_stored hid
    · exact hd.named hex r hr
  · rw [hlookup] at hrow
    obtain ⟨hex, r, hreceipt, hr⟩ := hd.completed t' k' row hrow hstatus
    exact ⟨hex, r, hreceipt, hkept hex r hr⟩
  · exact ⟨row, by rw [hlookup, hrow], fun hstatus => ⟨hstatus, rfl⟩⟩

/-- Completing a key that is open with a receipt of ingest. -/
theorem Tables.complete_keeps {hex : Hex} (hd : d.Sound) (hopen : d.Open t k)
    (h : d.completeIdempotency t k (ingestReceiptId hex) = .ok d') : d'.Sound ∧ d.Keeps d' := by
  unfold completeIdempotency at h
  split at h
  · cases h
  · rename_i hstored
    cases h
    refine Tables.update_keeps hd (fun _ => rfl) hopen (fun row hrow _ => ?_)
    have hreceipt : d.hasReceipt (ingestReceiptId hex) = true := by
      by_contra hfalse
      exact hstored ⟨by rw [hrow]; rfl, by simpa using hfalse⟩
    obtain ⟨receipt, hload⟩ := Option.isSome_iff_exists.1 ((d.hasReceipt_iff _).1 hreceipt)
    exact ⟨hex, receipt, rfl, hload⟩

/-- Failing a key that is open. -/
theorem Tables.fail_keeps (hd : d.Sound) (hopen : d.Open t k) (reason : String) :
    (d.failIdempotency t k reason).Sound ∧ d.Keeps (d.failIdempotency t k reason) :=
  Tables.update_keeps hd (fun _ => rfl) hopen (fun _ _ h => nomatch h)

/-! ## One call -/

/-- The runs in which no id of a receipt of ingest is drawn twice. -/
def freshReceipts (S : TransactionService) (env : Env) : (machine S env).Cond where
  start _ _ := True
  step _ o s := match o with
    | .saveRoyaltyReceipt receipt => s.tables.Undrawn receipt.body.receiptId
    | _ => True

/-- The runs in which, besides, `complete_idempotency` and `fail_idempotency` do not find their row COMPLETED. -/
def openKeys (S : TransactionService) (env : Env) : (machine S env).Cond where
  start _ _ := True
  step w o s := (freshReceipts S env).step w o s ∧ match o with
    | .completeIdempotency t k _ => s.tables.Open t k
    | .failIdempotency t k _ => s.tables.Open t k
    | _ => True

/-- The calls that complete a key with a receipt of ingest, and those that complete none. -/
def CompletesIngest : Action → Prop
  | .completeIdempotency _ _ id => ∃ hex, id = ingestReceiptId hex
  | _ => True

/-- One call keeps the tables in order, COMPLETED keys and receipts of ingest. -/
theorem exec_keeps {w : Nat} {o : Action} {ch : Choice S} {s s' : State S} {r : Except Failure o.Result}
    (hopen : (openKeys S env).step w o s) (ho : CompletesIngest o) (hd : s.tables.Sound) (h : exec o ch s = some (r, s')) :
    s'.tables.Sound ∧ s.tables.Keeps s'.tables := by
  have hsame : s'.tables = s.tables → s'.tables.Sound ∧ s.tables.Keeps s'.tables := by
    intro htables
    rw [htables]
    exact ⟨hd, .refl _⟩
  cases o with
  | claimIdempotency t k hash =>
    obtain ⟨r', heffect, -⟩ := exec_claim h
    exact heffect.keeps hd
  | completeIdempotency t k id =>
    obtain ⟨hex, rfl⟩ := ho
    rcases exec_complete h with ⟨htables, -⟩ | hw
    · exact hsame htables
    · exact Tables.complete_keeps hd hopen.2 hw
  | failIdempotency t k reason =>
    rcases exec_fail h with htables | htables
    · exact hsame htables
    · rw [htables]
      exact Tables.fail_keeps hd hopen.2 reason
  | saveRoyaltyReceipt receipt =>
    rcases exec_save h with ⟨htables, -⟩ | hw
    · exact hsame htables
    · exact Tables.save_keeps hd hopen.1 hw
  | _ => exact hsame (exec_reads (by trivial) h)

/-! ## The outline -/

/-- The tenant and the key of an ingest whose body is an event. -/
def Call.key (env : Env) : Call → Option (String × String)
  | .ingest req =>
    match env.loads req.rawBody with
    | .value (.obj members) =>
      match tenantOf members, env.modelValidate (.obj members) with
      | some tenantId, .ok event => some (tenantId, event.idempotencyKey)
      | _, _ => none
    | _ => none
  | _ => none

/-- A key is COMPLETED with a receipt of ingest, which is stored. -/
structure Answered (t k : String) (receipt : Receipt) (d : Tables) : Prop where
  drawn : ∃ hex, receipt.body.receiptId = ingestReceiptId hex
  completed : d.CompletedWith t k receipt.body.receiptId
  stored : d.loadRoyaltyReceipt receipt.body.receiptId = some receipt

theorem Answered.keeps {receipt : Receipt} (h : Answered t k receipt d) (hk : d.Keeps d') : Answered t k receipt d' := by
  obtain ⟨⟨hex, hid⟩, hdone, hload⟩ := h
  refine ⟨⟨hex, hid⟩, hdone.keeps hk, ?_⟩
  rw [hid] at hload ⊢
  exact hk.receipts hex receipt hload

/-- What holds when a request has ended: a receipt that an ingest is answered with is the one its key is COMPLETED with, if its
key fits the columns. -/
def KeyPost (t k : String) (out : Except Failure Reply) (s : State S) : Prop :=
  ∀ reply, out = .ok reply → Fits t k → Answered t k reply.receipt s.tables

/-- The outline of runs of the loop. -/
def keysOutline (S : TransactionService) (env : Env) : Machine.Outline (machine S env) where
  inv s := s.tables.Sound
  rely _ _ s s' := s.tables.Keeps s'.tables
  guar _ _ s s' := s.tables.Keeps s'.tables
  compat _ _ _ _ := True
  post _ c out s := ∀ t k, c.key env = some (t, k) → KeyPost t k out s

theorem keyPost_error (t k : String) (e : Failure) (s : State S) : KeyPost t k (.error e) s := fun _ h => by cases h

section

variable {w : Nat} {c : Call} {s : State S}

/-- The calls of a request in a run with open keys. -/
abbrev KeyDoes (S : TransactionService) (env : Env) (w : Nat) := (machine S env).Does (openKeys S env) w

/-- The contract of a request. -/
abbrev keyContract (S : TransactionService) (env : Env) (w : Nat) (c : Call) := (keysOutline S env).contract w c

/-- A program keeps what its calls and the others keep. -/
theorem keeps_wp {α : Type} {p : Program α} (hp : p.Calls CompletesIngest) {F : Tables → Prop}
    (hF : ∀ d d', d.Keeps d' → F d → F d') (hs : F s.tables) :
    p.wp (KeyDoes S env w) (keyContract S env w c) (fun _ s' => F s'.tables) s := by
  refine Prog.Calls.wp_moves (R := fun _ s : State S => F s.tables) (fun _ _ _ h hrely => hF _ _ hrely h) ?_ hp (t := s) hs
  rintro o s₁ r s₂ ho hinv ⟨hopen, ch, he⟩
  obtain ⟨hsound, hkeeps⟩ := exec_keeps hopen ho hinv he
  exact ⟨hsound, hkeeps, fun _ h => hF _ _ hkeeps h⟩

/-- One call, which keeps the tables. -/
theorem step_wp {o : Action} (ho : CompletesIngest o) {Q : Except Failure o.Result → State S → Prop}
    (h : ∀ s₁, s.tables.Keeps s₁.tables → s₁.tables.Sound → ∀ ch r s₂, exec o ch s₁ = some (r, s₂) → s₂.tables.Sound →
      s₁.tables.Keeps s₂.tables → Q r s₂) : (step o).wp (KeyDoes S env w) (keyContract S env w c) Q s := by
  refine call_wp (fun s₁ hrely hinv hopen ch r s₂ he => ?_)
  obtain ⟨hsound, hkeeps⟩ := exec_keeps hopen ho hinv he
  exact ⟨hsound, hkeeps, h s₁ hrely hinv ch r s₂ he hsound hkeeps⟩

/-! ## The programs -/

theorem completesIngest_of_reads {α : Type} {p : Program α} (hp : p.Calls Reads) : p.Calls CompletesIngest := by
  refine hp.mono (fun o ho => ?_)
  cases o with
  | completeIdempotency t k id => exact ho.elim
  | _ => exact trivial

theorem completesIngest_failWith {α : Type} (v : VerifiedRequest) (reason : String) (e : Failure) :
    (failWith v reason e : Program α).Calls CompletesIngest :=
  Prog.calls_bind (Prog.calls_perform trivial) (fun _ => trivial)

theorem completesIngest_createFailed {α : Type} (v : VerifiedRequest) (e : Failure) :
    (createFailed v e : Program α).Calls CompletesIngest := by
  cases e with
  | rejection statusCode code message retryable => exact trivial
  | conflict text => exact completesIngest_failWith _ _ _
  | service statusCode body => exact completesIngest_failWith _ _ _
  | raised message => exact trivial

/-- A request that fails its key gets no receipt. -/
theorem failWith_keyed (v : VerifiedRequest) (reason : String) (e : Failure) :
    (failWith v reason e : Program Reply).wp (KeyDoes S env w) (keyContract S env w c) (KeyPost t k) s :=
  Prog.wp_seq (keeps_wp (F := fun _ => True) (Prog.calls_perform (by exact trivial)) (fun _ _ _ h => h) trivial)
    (fun _ s' _ => keyPost_error t k e s') (fun e s' _ => keyPost_error t k e s')

theorem workFailed_keyed (v : VerifiedRequest) (e : Failure) :
    (workFailed v e : Program Reply).wp (KeyDoes S env w) (keyContract S env w c) (KeyPost t k) s := by
  cases e with
  | rejection statusCode code message retryable => exact keyPost_error _ _ _ _
  | conflict text => exact failWith_keyed _ _ _
  | service statusCode body => exact failWith_keyed _ _ _
  | raised message => exact failWith_keyed _ _ _

/-- A key has a row, if it fits the columns. -/
def Held (t k : String) (d : Tables) : Prop := Fits t k → (d.idempotencyOf t k).isSome = true

theorem Held.keeps (h : Held t k d) (hk : d.Keeps d') : Held t k d' := by
  intro hfits
  obtain ⟨row, hrow⟩ := Option.isSome_iff_exists.1 (h hfits)
  obtain ⟨row', hrow', -⟩ := hk.keys t k row hrow
  exact Option.isSome_iff_exists.2 ⟨row', hrow'⟩

/-- The claim: a request that finds its key COMPLETED knows with which receipt; one that claims it leaves it a row. -/
theorem claim_keyed (hash : String) :
    (step (.claimIdempotency t k hash)).wp (KeyDoes S env w) (keyContract S env w c)
      (fun r s' => (∀ id, r = .ok (.completed id) → ∃ receiptId, id = some receiptId ∧ s'.tables.CompletedWith t k receiptId) ∧
        (r = .ok .claimed → Held t k s'.tables)) s := by
  refine step_wp (by exact trivial) (fun s₁ _ hinv ch r s₂ he _ _ => ?_)
  obtain ⟨r', heffect, hr⟩ := exec_claim he
  have hsame : ∀ claim, r = .ok claim → r' = .ok claim := fun claim h => (hr claim h).trans h
  generalize s₂.tables = d at *
  refine ⟨fun id hid => ?_, fun hclaimed hfits => ?_⟩
  · have hid := hsame _ hid
    cases heffect with
    | raised e => cases hid
    | refused claim hclaim => rcases hclaim with rfl | rfl <;> cases hid
    | replay row hrow hhash hstatus =>
      cases hid
      obtain ⟨hex, receipt, hreceipt, -⟩ := hinv.completed t k row hrow hstatus
      exact ⟨_, hreceipt, row, hrow, hstatus, hreceipt⟩
    | new storedTenant storedKey now htenant hkey hnone => cases hid
    | taken row u hrow hhash hstatus hu => cases hid
  · have hclaimed := hsame _ hclaimed
    cases heffect with
    | raised e => cases hclaimed
    | refused claim hclaim => rcases hclaim with rfl | rfl <;> cases hclaimed
    | replay row hrow hhash hstatus => cases hclaimed
    | new storedTenant storedKey now htenant hkey hnone =>
      obtain rfl := Option.some.inj (htenant.symm.trans hfits.1)
      obtain rfl := Option.some.inj (hkey.symm.trans hfits.2)
      rw [Tables.idempotencyOf_insert, hnone]
      exact congrArg Option.isSome (if_pos rfl)
    | taken row u hrow hhash hstatus hu =>
      rw [Tables.idempotencyOf_update _ _ _ _ _ hu.key, hrow]
      rfl

/-- The receipt of a COMPLETED key, as it is loaded. -/
theorem load_keyed {id : String} (hdone : s.tables.CompletedWith t k id) :
    (step (.loadRoyaltyReceipt id)).wp (KeyDoes S env w) (keyContract S env w c)
      (fun r s' => ∀ found, r = .ok found → ∃ receipt, found = some receipt ∧ Answered t k receipt s'.tables) s := by
  refine step_wp (by exact trivial) (fun s₁ hrely hinv ch r s₂ he _ _ found hfound => ?_)
  rw [hfound] at he
  have hdone₁ := hdone.keeps hrely
  obtain ⟨hex, receipt, hid, hload, hname⟩ := hdone₁.stored hinv
  have htables : s₂.tables = s₁.tables := exec_reads (o := .loadRoyaltyReceipt id) trivial he
  refine ⟨receipt, (exec_load he).trans (by rw [hid]; exact hload), ?_⟩
  rw [htables]
  refine ⟨⟨hex, hname⟩, ?_, ?_⟩
  · rw [hname, ← hid]
    exact hdone₁
  · rw [hname]
    exact hload

/-- The receipt of a request is stored under its id. -/
theorem save_keyed {receipt : Receipt} {hex : Hex} (hid : receipt.body.receiptId = ingestReceiptId hex)
    (hheld : Held t k s.tables) :
    (step (.saveRoyaltyReceipt receipt)).wp (KeyDoes S env w) (keyContract S env w c)
      (fun r s' => r = .ok () → Held t k s'.tables ∧ s'.tables.loadRoyaltyReceipt (ingestReceiptId hex) = some receipt) s := by
  refine step_wp (by exact trivial) (fun s₁ hrely _ ch r s₂ he _ hkeeps hok => ⟨(hheld.keeps hrely).keeps hkeeps, ?_⟩)
  rcases exec_save he with ⟨-, e, herr⟩ | hw
  · rw [hok] at herr
    cases herr
  · obtain ⟨id, hstored, -, hload, -⟩ := Tables.save_ok hw
    rw [hid, column_ingest] at hstored
    rw [hload, if_pos (Option.some.inj hstored)]

/-- The key is completed with a stored receipt. -/
theorem complete_keyed {receipt : Receipt} {hex : Hex} (hid : receipt.body.receiptId = ingestReceiptId hex)
    (hheld : Held t k s.tables) (hload : s.tables.loadRoyaltyReceipt (ingestReceiptId hex) = some receipt) :
    (step (.completeIdempotency t k (ingestReceiptId hex))).wp (KeyDoes S env w) (keyContract S env w c)
      (fun r s' => r = .ok () → Fits t k → Answered t k receipt s'.tables) s := by
  refine step_wp (by exact ⟨hex, rfl⟩) (fun s₁ hrely _ ch r s₂ he _ hkeeps hok hfits => ?_)
  refine ⟨⟨hex, hid⟩, ?_, by rw [hid]; exact hkeeps.receipts hex receipt (hrely.receipts hex receipt hload)⟩
  rw [hid]
  obtain ⟨row, hrow⟩ := Option.isSome_iff_exists.1 (hheld.keeps hrely hfits)
  rcases exec_complete he with ⟨-, e, herr⟩ | hw
  · rw [hok] at herr
    cases herr
  · unfold Tables.completeIdempotency at hw
    split at hw
    · cases hw
    · rw [← Except.ok.inj hw]
      refine ⟨{ row with status := .completed, receiptId := some (ingestReceiptId hex) }, ?_, rfl, rfl⟩
      rw [Tables.idempotencyOf_update (u := fun i => { i with status := .completed, receiptId := some (ingestReceiptId hex) })
        _ t k t k (fun _ => rfl), hrow]
      exact congrArg some (if_pos rfl)

/-- The work of a request that holds its key. -/
theorem work_keyed (v : VerifiedRequest) (hheld : Held v.tenantId v.event.idempotencyKey s.tables) :
    (work env v).wp (KeyDoes S env w) (keyContract S env w c) (KeyPost v.tenantId v.event.idempotencyKey) s := by
  have hkeep : ∀ d d' : Tables, d.Keeps d' → Held v.tenantId v.event.idempotencyKey d → Held v.tenantId v.event.idempotencyKey d' :=
    fun _ _ hk h => h.keeps hk
  unfold work
  refine Prog.wp_seq (keeps_wp (completesIngest_of_reads (reads_evaluateDecision _ _ _)) hkeep hheld) (fun decision s₁ hheld => ?_)
    (fun e s' _ => keyPost_error _ _ e s')
  refine Prog.wp_seq (keeps_wp (Prog.calls_tryCatch (completesIngest_of_reads (reads_clientCreate _))
    (completesIngest_createFailed v)) hkeep hheld) ?_ (fun e s' _ => keyPost_error _ _ e s')
  rintro ⟨obligation, answer⟩ s₂ hheld
  refine ofExcept_wp (fun e _ => keyPost_error _ _ e s₂) (fun receipt hbuild => ?_)
  obtain ⟨body, hbody, rfl⟩ := buildReceipt_ok hbuild
  have hid : (body.signed env).body.receiptId = ingestReceiptId answer.hex := buildReceiptBody_ok hbody
  refine Prog.wp_seq (save_keyed hid hheld) (fun _ s₃ hsaved => ?_) (fun e s' _ => keyPost_error _ _ e s')
  obtain ⟨hheld, hload⟩ := hsaved rfl
  rw [hid]
  refine Prog.wp_seq (complete_keyed hid hheld hload) (fun _ s₄ hdone => ?_) (fun e s' _ => keyPost_error _ _ e s')
  intro reply hreply
  cases hreply
  exact hdone rfl

theorem processClaimed_keyed (v : VerifiedRequest) (hheld : Held v.tenantId v.event.idempotencyKey s.tables) :
    (processClaimed env v).wp (KeyDoes S env w) (keyContract S env w c) (KeyPost v.tenantId v.event.idempotencyKey) s := by
  unfold processClaimed
  split
  · exact Prog.wp_handle (work_keyed v hheld) (fun _ _ h => h) (fun e s' _ => workFailed_keyed v e)
  · exact keyPost_error _ _ _ _
  · exact failWith_keyed _ _ _

theorem processObligationCreated_keyed (v : VerifiedRequest) :
    (processObligationCreated env v).wp (KeyDoes S env w) (keyContract S env w c) (KeyPost v.tenantId v.event.idempotencyKey) s := by
  unfold processObligationCreated
  refine Prog.wp_seq (claim_keyed _) (fun claim s₁ hclaim => ?_) (fun e s' _ => keyPost_error _ _ e s')
  obtain ⟨hcompleted, hclaimed⟩ := hclaim
  cases claim with
  | claimed => exact processClaimed_keyed v (hclaimed rfl)
  | conflict => exact keyPost_error _ _ _ _
  | processing => exact keyPost_error _ _ _ _
  | completed id =>
    obtain ⟨receiptId, rfl, hdone⟩ := hcompleted id rfl
    refine Prog.wp_seq (load_keyed hdone) (fun found s₂ hfound => ?_) (fun e s' _ => keyPost_error _ _ e s')
    obtain ⟨receipt, rfl, hanswered⟩ := hfound found rfl
    intro reply hreply _
    cases hreply
    exact hanswered

/-- What is verified carries the tenant and the key of the body. -/
theorem verifyAndParse_yields (req : IngestRequest) :
    (verifyAndParse env req).Yields (fun v => (Call.ingest req).key env = some (v.tenantId, v.event.idempotencyKey)) := by
  have hrecorded : ∀ {α : Type} {R : α → Prop} (reason : String) (statusCode : Nat) (code message : String),
      (rejectRecorded req reason statusCode code message : Program α).Yields R :=
    fun _ _ _ _ => Prog.yields_bind (Prog.yields_true _) (fun _ _ => trivial)
  unfold verifyAndParse
  split
  · exact trivial
  · exact trivial
  · rename_i members hloads
    split
    · exact trivial
    · rename_i tenantId htenant
      refine Prog.yields_bind (Prog.yields_true _) (fun valid _ => ?_)
      split
      · unfold verifySigned
        split
        · rename_i keyId signature _ _
          refine Prog.yields_bind (Prog.yields_true _) (fun key _ => ?_)
          cases key with
          | none =>
            refine Prog.yields_bind (Prog.yields_true _) (fun registered _ => ?_)
            split
            · exact hrecorded _ _ _ _
            · exact hrecorded _ _ _ _
          | some publicKey =>
            simp only
            split
            · unfold parseVerified
              split
              · exact trivial
              · rename_i event hevent
                split
                · exact trivial
                · refine Prog.yields_bind (Prog.yields_true _) (fun now _ => ?_)
                  split
                  · exact trivial
                  · split
                    · exact hrecorded _ _ _ _
                    · unfold Call.key
                      dsimp only
                      rw [hloads]
                      dsimp only
                      rw [htenant, hevent]
                      exact rfl
            · exact hrecorded _ _ _ _
        · exact hrecorded _ _ _ _
      · exact hrecorded _ _ _ _
  · exact trivial

theorem ingestRoyaltyEvent_keyed (req : IngestRequest) :
    (ingestRoyaltyEvent env req).wp (KeyDoes S env w) (keyContract S env w c)
      (fun out s' => ∀ t k, (Call.ingest req).key env = some (t, k) → KeyPost t k out s') s := by
  have herr : ∀ (e : Failure) (s' : State S) t k, (Call.ingest req).key env = some (t, k) → KeyPost t k (.error e) s' :=
    fun e s' t k _ => keyPost_error t k e s'
  unfold ingestRoyaltyEvent
  have hverify : (verifyAndParse env req).wp (KeyDoes S env w) (keyContract S env w c) (fun _ _ => True) s :=
    keeps_wp (F := fun _ => True) (completesIngest_of_reads (reads_of_gates (gates_verifyAndParse env req))) (fun _ _ _ h => h) trivial
  refine Prog.wp_seq ((verifyAndParse_yields req).wp hverify) (fun v s₁ hv => ?_) (fun e s' _ => herr e s')
  have hkey := hv.2 v rfl
  refine Prog.wp_seq (processObligationCreated_keyed v) (fun reply s₂ hreply => ?_) (fun e s' _ => herr e s')
  refine Prog.wp_seq (keeps_wp (F := fun d => Fits v.tenantId v.event.idempotencyKey →
      Answered v.tenantId v.event.idempotencyKey reply.receipt d) (completesIngest_of_reads (reads_recordOutcome _))
    (fun _ _ hk h hfits => (h hfits).keeps hk) (hreply reply rfl)) (fun _ s₃ hanswered => ?_) (fun e s' _ => herr e s')
  intro t k hsame reply' h hfits
  cases h
  obtain ⟨rfl, rfl⟩ := Prod.mk.inj (Option.some.inj (hkey.symm.trans hsame))
  exact hanswered hfits


/-- What a release or a reversal does after its request: it issues a receipt, and may add a truth to it. -/
theorem completesIngest_issue (obligation : Royalty.RoyaltyObligation) (id : String) (now : Int) :
    (issueFromObligation env obligation id now).Calls CompletesIngest := by
  unfold issueFromObligation
  exact calls_ofExcept (fun receipt _ => Prog.calls_bind (Prog.calls_perform (by exact trivial)) (fun _ => trivial))

theorem completesIngest_decorate {original : Option Receipt} {reply : Reply} (record : Receipt → Program Unit)
    (hrecord : ∀ receipt, (record receipt).Calls Reads) :
    (match original.bind Receipt.truth with
      | none => pure reply
      | some truth => do
        let receipt := reply.receipt.decorate truth
        step (.saveRoyaltyReceipt receipt)
        record receipt
        pure ⟨receipt, reply.statusCode⟩ : Program Reply).Calls CompletesIngest := by
  split
  · exact trivial
  · exact Prog.calls_bind (Prog.calls_perform (by exact trivial))
      (fun _ => Prog.calls_bind (completesIngest_of_reads (hrecord _)) (fun _ => trivial))

theorem completesIngest_release (tenantId eventId : String) : (releaseRoyaltyEvent env tenantId eventId).Calls CompletesIngest := by
  refine Prog.calls_bind (Prog.calls_perform (by exact trivial)) (fun original => ?_)
  refine Prog.calls_bind ?_ (fun reply => completesIngest_decorate recordOutcome (fun _ => reads_recordOutcome _))
  exact Prog.calls_bind (completesIngest_of_reads (reads_request _ _))
    (fun answer => Prog.calls_bind (completesIngest_issue _ _ _) (fun _ => trivial))

theorem completesIngest_reverse (tenantId eventId reversalEventId key reason : String) :
    (reverseRoyaltyEvent env tenantId eventId reversalEventId key reason).Calls CompletesIngest := by
  refine Prog.calls_bind (Prog.calls_perform (by exact trivial)) (fun original => ?_)
  refine Prog.calls_bind ?_ (fun reply =>
    completesIngest_decorate (fun receipt => recordRoyaltyTruth receipt .reverse (some reason)) (fun _ => reads_recordRoyaltyTruth _ _ _))
  exact Prog.calls_bind (completesIngest_of_reads (reads_request _ _))
    (fun answer => Prog.calls_bind (completesIngest_issue _ _ _) (fun _ => trivial))

/-- A request that is no ingest asks for no key. -/
theorem unkeyed_wp {p : Program Reply} (hp : p.Calls CompletesIngest) (hkey : c.key env = none) :
    p.wp (KeyDoes S env w) (keyContract S env w c) ((keysOutline S env).post w c) s := by
  refine Prog.wp_mono (fun out s' _ t k h => ?_) p (keeps_wp (F := fun _ => True) hp (fun _ _ _ h => h) trivial)
  rw [hkey] at h
  cases h

/-- Every request keeps its contract. -/
theorem program_keyed : (c.program env).wp (KeyDoes S env w) (keyContract S env w c) ((keysOutline S env).post w c) s := by
  have henabled : ∀ route : Program Reply,
      route.wp (KeyDoes S env w) (keyContract S env w c) ((keysOutline S env).post w c) s →
      (ifEnabled env route).wp (KeyDoes S env w) (keyContract S env w c) ((keysOutline S env).post w c) s := by
    intro route h
    unfold ifEnabled
    split
    · exact h
    · exact fun t k _ => keyPost_error t k _ _
  have htenant : ∀ (tenantId : Option String) (route : String → Program Reply), (∀ t, (route t).Calls CompletesIngest) →
      (withTenant tenantId route).Calls CompletesIngest := by
    intro tenantId route hroute
    unfold withTenant
    split
    · exact trivial
    · exact hroute _
  cases c with
  | ingest req => exact henabled _ (ingestRoyaltyEvent_keyed req)
  | release eventId tenantId => exact henabled _ (unkeyed_wp (htenant _ _ (fun t => completesIngest_release t eventId)) rfl)
  | reverse eventId tenantId reversalEventId key reason =>
    exact henabled _ (unkeyed_wp (htenant _ _ (fun t => completesIngest_reverse t eventId reversalEventId key reason)) rfl)
  | receipt id =>
    refine unkeyed_wp (Prog.calls_bind (Prog.calls_perform (by exact trivial)) (fun found => ?_)) rfl
    cases found with
    | none => exact trivial
    | some receipt => exact trivial

end

/-- The outline is sound. -/
theorem keys_sound (S : TransactionService) (env : Env) : (keysOutline S env).Sound (openKeys S env) where
  refl _ _ s := .refl s.tables
  trans _ _ _ _ _ h h' := h.trans h'
  symm _ _ _ _ _ := trivial
  guar _ _ _ _ _ _ _ _ _ hguar := hguar
  start _ _ _ _ := ⟨fun _ _ => trivial, program_keyed⟩
  crash _ s hinv := ⟨hinv, fun _ _ _ => .refl s.tables⟩

end RoyaltyGateway

end Archisynapse
