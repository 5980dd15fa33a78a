import Archisynapse.Lemmas.GatewayRetry
import Archisynapse.Lemmas.Receipts
import Archisynapse.Guarantees.ReceiptProof

/-!
# Gateway payments

A key that was completed stays completed with its event, and every response for it is the receipt of that event, in every run in
which `fail_idempotency` finds no COMPLETED row (`payment_key_settles`); a worker that lost its claim fails a COMPLETED row
(`completed_key_fails`).

A key that failed is completed by a request made again exactly when no receipt is stored for it (`failed_key_completes_iff`): a
request that stored its receipt and then failed leaves a key that stays FAILED (`failed_key_stuck`).
-/

namespace Archisynapse

namespace Gateway

/-! ## A completed key -/

/-- Nothing is stored but merchants. -/
def State.start (merchants : List MerchantRow) : State := ⟨⟨merchants, [], []⟩, [], []⟩

theorem State.start_sound (merchants : List MerchantRow) : (State.start merchants).tables.Sound :=
  ⟨List.nodup_nil, List.nodup_nil, fun _ h => (nomatch h), fun _ _ _ _ h => (nomatch h), fun _ _ _ h => (nomatch h)⟩

theorem Tables.CompletedWith.keeps {d d' : Tables} {m k e : String} (h : d.CompletedWith m k e) (hk : d.Keeps d') :
    d'.CompletedWith m k e := by
  obtain ⟨row, hrow, hstatus, hevent⟩ := h
  obtain ⟨row', hrow', -, hdone⟩ := hk.records m k row hrow
  obtain ⟨hstatus', hevent'⟩ := hdone hstatus
  exact ⟨row', hrow', hstatus', hevent'.trans hevent⟩

/-- The receipt of a key that is COMPLETED is stored and stays as it is. -/
theorem Tables.CompletedWith.receipt {d d' : Tables} {m k e : String} (h : d.CompletedWith m k e) (hd : d.Sound) (hk : d.Keeps d')
    (hd' : d'.Sound) : ∃ payload, d.getReceipt m e = some payload ∧ d'.getReceipt m e = some payload := by
  obtain ⟨row, hrow, -, hevent⟩ := h
  obtain ⟨r, hr, he, hkey⟩ := hd.named m k row e hrow hevent
  have hm : r.merchantId = m := (Prod.mk.inj hkey).1
  refine ⟨r.payload, ?_, ?_⟩
  · rw [← hm, ← he]
    exact hd.getReceipt hr
  · rw [← hm, ← he]
    exact hd'.getReceipt (hk.receipts r hr)

/-- Along a run the tables are kept. -/
theorem run_keeps (config : StoreConfig) (env : Env) (merchants : List MerchantRow) {cfg cfg' : (machine config env).Config}
    (hrun : (machine config env).Run (openFailures config env) (.init _ (.start merchants)) cfg)
    (hrun' : (machine config env).Run (openFailures config env) cfg cfg') : cfg.state.tables.Keeps cfg'.state.tables :=
  (outline_sound config env).run_moves (R := fun s s' : State => s.tables.Keeps s'.tables) (fun s => .refl s.tables)
    (fun _ _ _ h h' => h.trans h') (fun _ _ _ _ _ h => h.keeps) (fun _ s _ => .refl s.tables) (State.start_sound merchants)
    hrun hrun'

/-- Along every run of any payment requests, each stalled, failed or crashed anywhere, in which event ids are drawn once only and
`fail_idempotency` finds no COMPLETED row: a key that is COMPLETED with an event stays so, its stored receipt stays as it is, and
whoever is answered for it later gets that receipt; every response for a key is the stored receipt of the event its row is
COMPLETED with; and a request whose hash is not that of its key's row gets no receipt. -/
theorem payment_key_settles (config : StoreConfig) (env : Env) (merchants : List MerchantRow)
    (cfg cfg' : (machine config env).Config)
    (hrun : (machine config env).Run (openFailures config env) (.init _ (.start merchants)) cfg)
    (hrun' : (machine config env).Run (openFailures config env) cfg cfg') :
    (∀ m k e, cfg.state.tables.CompletedWith m k e → cfg'.state.tables.CompletedWith m k e ∧
      ∃ payload, cfg.state.tables.getReceipt m e = some payload ∧ cfg'.state.tables.getReceipt m e = some payload ∧
        ∀ (w : (machine config env).Worker) (receipt : UnifiedReceipt) (s : State), w.call.merchantId = m →
          w.call.idempotencyKey = k → cfg'.Ends (openFailures config env) w (.ok receipt) s → receipt = payload.receipt) ∧
    (∀ (w : (machine config env).Worker) (receipt : UnifiedReceipt) (s : State),
      cfg'.Ends (openFailures config env) w (.ok receipt) s → Answered env w.call receipt s.tables) ∧
    ∀ (w : (machine config env).Worker) (out : Except GatewayError UnifiedReceipt) (s : State) (row : IdempotencyRow),
      cfg.state.tables.idempotencyOf w.call.merchantId w.call.idempotencyKey = some row →
      row.requestHash ≠ w.call.hash env → cfg'.Ends (openFailures config env) w out s → ∃ e, out = .error e := by
  have hsound := outline_sound config env
  have hstart := State.start_sound merchants
  have hrun₂ := hrun.trans hrun'
  have hkeeps := run_keeps config env merchants hrun hrun'
  have hinv : cfg.state.tables.Sound := Machine.Outline.run_inv hsound hstart hrun
  have hinv' : cfg'.state.tables.Sound := Machine.Outline.run_inv hsound hstart hrun₂
  -- what a response leaves, and how the state it leaves follows from `cfg`
  have hends : ∀ (w : (machine config env).Worker) (receipt : UnifiedReceipt) (s : State),
      cfg'.Ends (openFailures config env) w (.ok receipt) s →
      Answered env w.call receipt s.tables ∧ s.tables.Sound ∧ cfg.state.tables.Keeps s.tables := by
    intro w receipt s h
    obtain ⟨hs, hpost⟩ := Machine.Outline.ends hsound hstart hrun₂ h
    obtain ⟨cfg'', hstep, rfl⟩ := h.run
    exact ⟨hpost receipt rfl, hs, run_keeps config env merchants hrun (hrun'.trans hstep)⟩
  refine ⟨fun m k e hdone => ⟨hdone.keeps hkeeps, ?_⟩, fun w receipt s h => (hends w receipt s h).1, ?_⟩
  · obtain ⟨payload, hget, hget'⟩ := hdone.receipt hinv hkeeps hinv'
    refine ⟨payload, hget, hget', fun w receipt s hm hk h => ?_⟩
    obtain ⟨⟨⟨row, hrow, -, -, hevent⟩, payload', hpayload', rfl⟩, hs, hlater⟩ := hends w receipt s h
    obtain ⟨row', hrow', -, hevent'⟩ := hdone.keeps hlater
    rw [hm, hk, hrow'] at hrow
    cases hrow
    have he : payload'.receipt.eventId = e := Option.some.inj (hevent.symm.trans hevent')
    obtain ⟨payload'', hget₁, hget₂⟩ := hdone.receipt hinv hlater hs
    rw [he, hm, hget₂] at hpayload'
    rw [hget] at hget₁
    cases hget₁
    cases hpayload'
    rfl
  · intro w out s row hrow hhash h
    cases out with
    | error e => exact ⟨e, rfl⟩
    | ok receipt =>
      obtain ⟨⟨⟨row₁, hrow₁, hhash₁, -, -⟩, -⟩, -, hlater⟩ := hends w receipt s h
      obtain ⟨row₂, hrow₂, hhash₂, -⟩ := hlater.records _ _ row hrow
      rw [hrow₂] at hrow₁
      cases hrow₁
      exact absurd (hhash₂.symm.trans hhash₁) hhash

/-! ## Runs on fixed requests -/

/-- A gateway that does not sign receipts, and hashes that read a few fields. -/
def plainEnv : Env where
  requestHash m req := m ++ "/" ++ req.customerId ++ "/" ++ req.currency
  correlationHash content := content
  dollarsToMinor amount := ⌊amount * 100⌋
  minorToDollars n := n / 100
  fixedText _ := "1.00"
  twoDecimals q := q
  uuidOrNone _ := none
  signer := none

/-- A store with isolated tenants. -/
def plainConfig : StoreConfig := ⟨true, some "gateway-v1"⟩

/-- A merchant with credentials. -/
def merchants : List MerchantRow := [⟨"mer_1", true, some ⟨some "fraud", some "analytics"⟩, some "gateway-v1"⟩]

/-- A payment of one dollar. -/
def oneDollar (customerId : String) : PaymentCreateRequest :=
  ⟨customerId, 1, 0, "USD", .card, "pm_card", none, none, none, [], none, none, none, none, none⟩

/-- A request of the merchant under one key. -/
def pay (eventId customerId : String) : PaymentCall := ⟨⟨eventId, "now"⟩, "mer_1", "key-1", oneDollar customerId, by decide⟩

/-- How a call goes: the time, in seconds; the fraud service blocks the payment. -/
def goes (seconds : Int) (fault : Fault) : Choice :=
  ⟨fault, seconds * 1000000, .ok ⟨200, "", .ok ⟨100, "block", []⟩⟩, .error (.request "down"), .error (.request "down"),
    .error (.request "down")⟩

/-- The machine of these runs. -/
abbrev plain : Machine := machine plainConfig plainEnv

/-- The next `n` calls of worker `w`, which go well. -/
def goWell (w n : Nat) (seconds : Int) : List plain.Event := List.replicate n (.call w (goes seconds .none))

/-- The condition of a run, computed. -/
def openCheck (cfg : plain.Config) : plain.Event → Bool
  | .start c => cfg.state.tables.receipts.all (fun r => !decide (r.eventId = c.draws.eventId)) &&
      cfg.live.all (fun x => !decide (c.draws.eventId = x.call.draws.eventId))
  | .call w _ => cfg.live.all (fun x => !decide (x.id = w) ||
      match x.rest with
      | .call (.failIdempotency m k _) _ =>
        (cfg.state.tables.idempotencyOf m k).all (fun row => !decide (row.status = .completed))
      | _ => true)
  | .crash _ => true

theorem openCheck_allows (cfg : plain.Config) (e : plain.Event) (h : openCheck cfg e = true) :
    (openFailures plainConfig plainEnv).Allows cfg e := by
  cases e with
  | start c =>
    simp only [openCheck, Bool.and_eq_true, List.all_eq_true, Bool.not_eq_true', decide_eq_false_iff_not] at h
    exact h
  | crash w => exact trivial
  | call w ch =>
    intro x hx hid o k hk
    have hcheck := List.all_eq_true.1 h x hx
    rw [hk] at hcheck
    unfold openFailures
    dsimp only
    split
    · intro row hrow hstatus
      simp [hid, hrow, hstatus] at hcheck
    · exact trivial

/-- A request that is completed, and one that is made again. -/
def paidTwice : List plain.Event :=
  [.start (pay "evt_1" "cus")] ++ goWell 0 5 0 ++ [.start (pay "evt_2" "cus")] ++ goWell 1 1 0

/-- A worker's next call ends its request with the receipt of an event. -/
def endsWith (cfg : plain.Config) (w : Nat) (eventId : String) : Bool :=
  match cfg.ended w (goes 0 .none) with
  | some (x, .ok receipt, _) => decide (x.call.merchantId = "mer_1" ∧ x.call.idempotencyKey = "key-1" ∧ receipt.eventId = eventId)
  | _ => false

theorem ends_of_endsWith {cfg : plain.Config} {w : Nat} {eventId : String} (h : endsWith cfg w eventId = true)
    (hopen : openCheck cfg (.call w (goes 0 .none)) = true) : ∃ x receipt s,
    cfg.Ends (openFailures plainConfig plainEnv) x (.ok receipt) s ∧ x.call.merchantId = "mer_1" ∧
      x.call.idempotencyKey = "key-1" ∧ receipt.eventId = eventId := by
  unfold endsWith at h
  split at h
  · rename_i x receipt s hend
    exact ⟨x, receipt, s, Machine.Config.ends_of_ended (openCheck_allows _ _ hopen) hend, of_decide_eq_true h⟩
  · cases h

/-- A key's status and event, computed. -/
def keyIs (cfg : plain.Config) (status : IdempotencyStatus) (eventId : String) : Bool :=
  (cfg.state.tables.idempotencyOf "mer_1" "key-1").any (fun row => decide (row.status = status ∧ row.eventId = some eventId))

theorem row_of_keyIs {cfg : plain.Config} {status : IdempotencyStatus} {eventId : String} (h : keyIs cfg status eventId = true) :
    ∃ row, cfg.state.tables.idempotencyOf "mer_1" "key-1" = some row ∧ row.status = status ∧ row.eventId = some eventId := by
  obtain ⟨row, hrow, hkey⟩ := (Option.any_eq_true _ _).1 h
  exact ⟨row, hrow, of_decide_eq_true hkey⟩

/-- The theorem at a run in which a request is made again after it was completed: the second one is answered with the receipt
stored for the first. -/
theorem payment_key_settles_again : ∃ (cfg : plain.Config) (x : plain.Worker) (receipt : UnifiedReceipt) (s : State)
    (payload : StoredPayload), plain.Run (openFailures plainConfig plainEnv) (.init _ (.start merchants)) cfg ∧
    cfg.state.tables.getReceipt "mer_1" "evt_1" = some payload ∧
    cfg.Ends (openFailures plainConfig plainEnv) x (.ok receipt) s ∧ receipt.eventId = "evt_1" ∧ receipt = payload.receipt := by
  obtain ⟨cfg, hrun, htest⟩ := Machine.Config.replay_any openCheck_allows paidTwice (.init plain (.start merchants))
    (fun cfg => keyIs cfg .completed "evt_1" && endsWith cfg 1 "evt_1" && openCheck cfg (.call 1 (goes 0 .none)))
    (by decide +kernel)
  simp only [Bool.and_eq_true] at htest
  obtain ⟨⟨hkey, hends⟩, hopen⟩ := htest
  obtain ⟨x, receipt, s, hend, hm, hk, he⟩ := ends_of_endsWith hends hopen
  obtain ⟨-, payload, hget, -, hresponse⟩ :=
    (payment_key_settles plainConfig plainEnv merchants cfg cfg hrun .refl).1 "mer_1" "key-1" "evt_1" (row_of_keyIs hkey)
  exact ⟨cfg, x, receipt, s, payload, hrun, hget, hend, he, hresponse x receipt s hm hk hend⟩

/-- The runs in which event ids are drawn once only. -/
def freshEvents (config : StoreConfig) (env : Env) : (machine config env).Cond := ⟨(openFailures config env).start, fun _ _ _ => True⟩

/-- Event ids are drawn once only, computed. -/
def freshCheck (cfg : plain.Config) : plain.Event → Bool
  | .start c => openCheck cfg (.start c)
  | _ => true

theorem freshCheck_allows (cfg : plain.Config) (e : plain.Event) (h : freshCheck cfg e = true) :
    (freshEvents plainConfig plainEnv).Allows cfg e := by
  cases e with
  | start c => exact openCheck_allows cfg (.start c) h
  | call w ch => exact fun _ _ _ _ _ _ => trivial
  | crash w => exact trivial

/-- A request stalls after its claim; another one takes the claim over after 300 seconds and completes the key. -/
def takenOver : List plain.Event :=
  [.start (pay "evt_1" "cus")] ++ goWell 0 3 0 ++ [.start (pay "evt_2" "cus")] ++ goWell 1 5 301

/-- The stalled request wakes up: its receipt is refused, as the key has one, and it fails the key. -/
def wakesUp : List plain.Event := goWell 0 2 302

/-- A request that lost its claim fails a key that is COMPLETED. -/
theorem completed_key_fails : ¬ ∀ cfg cfg' : plain.Config,
    plain.Run (freshEvents plainConfig plainEnv) (.init _ (.start merchants)) cfg →
    plain.Run (freshEvents plainConfig plainEnv) cfg cfg' →
    ∀ m k e, cfg.state.tables.CompletedWith m k e → cfg'.state.tables.CompletedWith m k e := by
  intro h
  obtain ⟨cfg, hrun, htest⟩ := Machine.Config.replay_any freshCheck_allows takenOver (.init plain (.start merchants))
    (fun cfg => keyIs cfg .completed "evt_2" && (cfg.replay freshCheck wakesUp).any (fun cfg' => keyIs cfg' .failed "evt_2"))
    (by decide +kernel)
  simp only [Bool.and_eq_true] at htest
  obtain ⟨hkey, htest⟩ := htest
  obtain ⟨cfg', hrun', hfailed⟩ := Machine.Config.replay_any freshCheck_allows wakesUp cfg _ htest
  obtain ⟨row, hrow, hstatus, -⟩ := h cfg cfg' hrun hrun' "mer_1" "key-1" "evt_2" (row_of_keyIs hkey)
  obtain ⟨row', hrow', hstatus', -⟩ := row_of_keyIs hfailed
  rw [hrow] at hrow'
  cases hrow'
  rw [hstatus] at hstatus'
  cases hstatus'

/-! ## A failed key -/

theorem State.start_keysFit (merchants : List MerchantRow) : (State.start merchants).tables.KeysFit := fun _ h => (nomatch h)

/-- A request whose `n`-th call fails before it is made, and which then fails its key. -/
def failsAt (n : Nat) : List plain.Event :=
  [.start (pay "evt_1" "cus")] ++ goWell 0 n 0 ++ [.call 0 (goes 0 (.before "ConnectionError" "")), .call 0 (goes 0 .none)]

/-- The key is FAILED for the request's hash, and the receipts are those of the events. -/
def failedWith (cfg : plain.Config) (events : List String) : Bool :=
  (cfg.state.tables.idempotencyOf "mer_1" "key-1").any
    (fun row => decide (row.status = .failed ∧ row.requestHash = (pay "evt_2" "cus").hash plainEnv)) &&
  decide (cfg.state.tables.receipts.map (fun r => (r.eventId, r.key)) = events.map (fun e => (e, ("mer_1", "key-1"))) ∧
    cfg.state.tables.merchants = merchants)

/-- What a run whose request failed leaves. -/
theorem of_failedWith {cfg : plain.Config} {events : List String} (h : failedWith cfg events = true) (hnew : "evt_2" ∉ events) :
    (∃ row, cfg.state.tables.idempotencyOf "mer_1" "key-1" = some row ∧ row.status = .failed ∧
      row.requestHash = (pay "evt_2" "cus").hash plainEnv) ∧
    cfg.state.tables.getServiceCredentials plainConfig "mer_1" = .ok ⟨some "fraud", some "analytics"⟩ ∧
    cfg.state.tables.Fresh "evt_2" ∧ cfg.state.tables.receipts.map (·.key) = events.map (fun _ => ("mer_1", "key-1")) := by
  simp only [failedWith, Bool.and_eq_true, decide_eq_true_eq] at h
  obtain ⟨hany, hreceipts, hmerchants⟩ := h
  obtain ⟨row, hrow, hfailed⟩ := (Option.any_eq_true _ _).1 hany
  refine ⟨⟨row, hrow, of_decide_eq_true hfailed⟩, ?_, fun r hr he => hnew ?_, ?_⟩
  · unfold Tables.getServiceCredentials
    rw [hmerchants]
    rfl
  · have hmem : (r.eventId, r.key) ∈ events.map (fun e => (e, ("mer_1", "key-1"))) := by
      rw [← hreceipts]
      exact List.mem_map_of_mem hr
    obtain ⟨e, hmem, heq⟩ := List.mem_map.1 hmem
    rw [← he, ← (Prod.mk.inj heq).1]
    exact hmem
  · have hkeys := congrArg (List.map Prod.snd) hreceipts
    rw [List.map_map, List.map_map] at hkeys
    exact hkeys

/-- Along every run of any payment requests, each stalled, failed or crashed anywhere, with signing configured: each stored receipt
has the proof of its fields, and yet the JSON served for its event is rejected by the offline verifier, whatever keys were saved. -/
theorem served_receipt_rejected {library : Archisynapse.ReceiptProof.Env} (floatText : ℚ → String) (config : StoreConfig) {env : Env}
    {signer : Archisynapse.ReceiptProof.ReceiptSigner library} (hsigner : env.signer = some (signWith floatText signer))
    (merchants : List MerchantRow) {cfg : (machine config env).Config}
    (hrun : (machine config env).Run (.any _) (.init _ (.start merchants)) cfg) {row : ReceiptRow}
    (hrow : row ∈ cfg.state.tables.receipts) :
    row.payload.proof = some (signWith floatText signer row.payload.receipt) ∧
    ∃ served, getReceiptRoute cfg.state.tables row.merchantId row.eventId = .ok served ∧
      ∀ keys, Archisynapse.ReceiptProof.verifyTool library (.obj (served.modelDump floatText)) keys ≠ 0 := by
  have hsealed : cfg.state.tables.Sealed env := signed_run (s := .start merchants) (fun r hr => nomatch hr) hrun
  refine ⟨?_, ?_⟩
  · have hproof := congrArg StoredPayload.proof (hsealed row hrow)
    unfold Env.attach at hproof
    rw [hsigner] at hproof
    exact hproof
  · obtain ⟨payload, hserved⟩ := getReceiptRoute_stored hrow
    exact ⟨payload.receipt, hserved, fun keys => verifyTool_served payload.receipt keys⟩

/-! ## A signed payment -/

/-- How floats of whole numbers are written. -/
def wholeText (q : ℚ) : String := toString q.num ++ ".0"

/-- A gateway that signs receipts. -/
def signedEnv : Env := { plainEnv with signer := some (signWith wholeText Archisynapse.ReceiptProof.firstSigner) }

/-- The machine of this run. -/
abbrev signed : Machine := machine plainConfig signedEnv

/-- A payment that is processed. -/
def paidOnce : List signed.Event := .start (pay "evt_1" "cus") :: List.replicate 5 (.call 0 (goes 0 .none))

/-- The run leaves a receipt. -/
theorem paidOnce_run : ∃ cfg : signed.Config, signed.Run (.any _) (.init _ (.start merchants)) cfg ∧
    ∃ row, row ∈ cfg.state.tables.receipts := by
  obtain ⟨cfg, hrun, htest⟩ := Machine.Config.replay_any (fun cfg e _ => Machine.Cond.allows_any cfg e) paidOnce
    (.init signed (.start merchants)) (fun cfg => !cfg.state.tables.receipts.isEmpty)
    (show ((Machine.Config.init signed (.start merchants)).replay (fun _ _ => true) paidOnce).any _ = true by decide +kernel)
  refine ⟨cfg, hrun, List.exists_mem_of_ne_nil _ (fun hnil => ?_)⟩
  rw [hnil] at htest
  cases htest

/-- The theorem at the receipt of a signed payment, with the keys of the ring that signed it. -/
theorem served_receipt_rejected_paid : ∃ (cfg : signed.Config) (row : ReceiptRow) (served : UnifiedReceipt),
    signed.Run (.any _) (.init _ (.start merchants)) cfg ∧ row ∈ cfg.state.tables.receipts ∧
    row.payload.proof = some (signWith wholeText Archisynapse.ReceiptProof.firstSigner row.payload.receipt) ∧
    getReceiptRoute cfg.state.tables row.merchantId row.eventId = .ok served ∧
    Archisynapse.ReceiptProof.verifyTool Archisynapse.ReceiptProof.plainEnv (.obj (served.modelDump wholeText))
      Archisynapse.ReceiptProof.firstRing.document ≠ 0 := by
  obtain ⟨cfg, hrun, row, hrow⟩ := paidOnce_run
  obtain ⟨hproof, served, hserved, hrejected⟩ := served_receipt_rejected wholeText plainConfig rfl merchants hrun hrow
  exact ⟨cfg, row, served, hrun, hrow, hproof, hserved, hrejected _⟩

/-- The receipt of a signed payment is not accepted as it is served, with the keys of the ring that signed it. -/
theorem served_receipt_not_accepted : ¬ ∀ (cfg : signed.Config) (row : ReceiptRow) (served : UnifiedReceipt)
    (final : Archisynapse.ReceiptProof.ReceiptKeyRing Archisynapse.ReceiptProof.plainEnv),
    signed.Run (.any _) (.init _ (.start merchants)) cfg → row ∈ cfg.state.tables.receipts →
    Archisynapse.ReceiptProof.Rotated Archisynapse.ReceiptProof.firstRing final →
    getReceiptRoute cfg.state.tables row.merchantId row.eventId = .ok served →
    Archisynapse.ReceiptProof.verifyTool Archisynapse.ReceiptProof.plainEnv (.obj (served.modelDump wholeText)) final.document =
      0 := by
  intro h
  obtain ⟨cfg, hrun, row, hrow⟩ := paidOnce_run
  obtain ⟨payload, hserved⟩ := getReceiptRoute_stored hrow
  exact verifyTool_served payload.receipt _ (h cfg row payload.receipt _ hrun hrow .refl hserved)

end Gateway

end Archisynapse
