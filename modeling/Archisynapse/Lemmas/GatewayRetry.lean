import Archisynapse.Lemmas.GatewayRuns

/-!
# A request made again

What a request does that finds its key FAILED and whose own steps go well: it completes the key with a stored receipt exactly when
the merchant and the key have no receipt yet and the amount is at least a cent (`retry_wp`). Keys of stored rows fit their column
(`keysFit_run`).
-/

namespace Archisynapse

namespace Gateway

variable {config : StoreConfig} {env : Env}

/-! ## Stored keys -/

/-- The keys of idempotency rows are texts a claim accepts. -/
def Tables.KeysFit (d : Tables) : Prop :=
  ∀ row ∈ d.idempotency, strip row.idempotencyKey ≠ "" ∧ varchar 255 row.idempotencyKey = some row.idempotencyKey

/-- A call claims no key that ends in a blank. -/
def ClaimsTrimmed : Action → Prop
  | .claimIdempotency _ k _ => k.toList.getLast? ≠ some ' '
  | _ => True

theorem ClaimsTrimmed.of_quiet {o : Action} (h : Quiet o) : ClaimsTrimmed o := by
  cases o with
  | claimIdempotency m k h' => exact h.elim
  | _ => trivial

/-- The calls of a request, when those that serve its event are all allowed. -/
theorem route_calls {A : Action → Prop} (c : PaymentCall)
    (hserves : ∀ o, Serves (.ofRequest env c.draws c.merchantId c.idempotencyKey c.request) o → A o)
    (hclaim : A (.claimIdempotency c.merchantId c.idempotencyKey (c.hash env)))
    (hsave : ∀ receipt, A (.saveReceipt c.merchantId c.idempotencyKey (c.hash env) (env.attach receipt)))
    (hcomplete : ∀ e, A (.completeIdempotency c.merchantId c.idempotencyKey e))
    (hfail : ∀ reason, A (.failIdempotency c.merchantId c.idempotencyKey reason)) : (processPaymentRoute env c).Calls A := by
  have hstep : ∀ {o : Action}, A o → (step o).Calls A := fun ho => Prog.calls_perform ho
  have hloop : ∀ credentials, (processPayment env c.draws c.merchantId c.idempotencyKey c.request credentials).Calls A := by
    intro credentials
    by_cases h : env.dollarsToMinor c.request.amount ≤ 0
    · rw [processPayment_throws _ _ _ credentials h]
      exact Prog.calls_throw _
    · exact (processPayment_follows _ _ _ credentials (not_le.1 h)).calls.mono hserves
  refine Prog.calls_bind (Prog.calls_tryCatch (hstep hclaim) (fun e => Prog.calls_throw _)) (fun claim => ?_)
  split
  · unfold replayReceipt
    simp only
    split
    · exact Prog.calls_throw _
    · refine Prog.calls_bind (hstep (o := .getReceipt _ _) (hserves _ trivial)) (fun found => ?_)
      split
      · exact Prog.calls_throw _
      · exact Prog.calls_pure _
  · refine Prog.calls_tryCatch ?_ (fun e => ?_)
    · refine Prog.calls_bind (hstep (o := .getServiceCredentials _) (hserves _ trivial)) (fun credentials => ?_)
      refine Prog.calls_bind (hloop credentials) (fun receipt => ?_)
      refine Prog.calls_bind (hstep (hsave receipt)) (fun _ => ?_)
      exact Prog.calls_bind (hstep (hcomplete _)) (fun _ => Prog.calls_pure _)
    · cases e with
      | http statusCode detail => exact Prog.calls_throw _
      | _ => exact Prog.calls_bind (hstep (hfail _)) (fun _ => Prog.calls_throw _)

theorem Tables.KeysFit.update {d : Tables} (h : d.KeysFit) (m k : String) {u : IdempotencyRow → IdempotencyRow}
    (hu : ∀ i, (u i).key = i.key) : (d.updateIdempotency m k u).KeysFit := by
  intro row hrow
  rcases mem_updateKey.1 hrow with ⟨row', hrow', -, rfl⟩ | ⟨hrow, -⟩
  · have hkey : (u row').idempotencyKey = row'.idempotencyKey := congrArg Prod.snd (hu row')
    rw [hkey]
    exact h row' hrow'
  · exact h row hrow

/-- Every call leaves keys that fit. -/
theorem keysFit_step {o : Action} {ch : Choice} {s s' : State} {r : Except GatewayError o.Result} (ho : ClaimsTrimmed o)
    (h : s.tables.KeysFit) (he : exec config o ch s = some (r, s')) : s'.tables.KeysFit := by
  cases o with
  | claimIdempotency m k hash =>
    obtain ⟨r', heffect, -⟩ := exec_claim he
    generalize s'.tables = d at heffect
    cases heffect with
    | refused e => exact h
    | replay row hrow hhash hstatus => exact h
    | new stored now hkey hstored hnone =>
      obtain rfl := varchar_of_trimmed ho hstored
      intro row hrow
      rcases List.mem_append.1 hrow with hrow | hrow
      · exact h row hrow
      · rw [List.mem_singleton.1 hrow]
        exact ⟨hkey, hstored⟩
    | taken state row u hrow hhash hstatus hstate hu => exact h.update m k hu.key
  | saveReceipt m k hash p =>
    have hperform : (s.perform config ch (.saveReceipt m k hash p)).2.tables.idempotency = s.tables.idempotency := by
      simp only [State.perform, State.store, Tables.saveReceipt]
      split
      · rfl
      · split
        · split <;> rfl
        · split
          · rfl
          · split <;> rfl
    have hsame : s'.tables.idempotency = s.tables.idempotency := by
      rcases exec_cases he with hr | ⟨e, -, rfl | rfl⟩
      · rw [(Prod.mk.inj hr).2]
        exact hperform
      · rfl
      · exact hperform
    unfold Tables.KeysFit
    rw [hsame]
    exact h
  | completeIdempotency m k e =>
    obtain ⟨r', heffect, -⟩ := exec_complete he
    generalize s'.tables = d at heffect
    cases heffect with
    | refused err => exact h
    | missing hnone => exact h
    | completed row hrow r hr => exact h.update m k (fun _ => rfl)
  | failIdempotency m k reason =>
    rcases exec_fail he with rfl | htables
    · exact h
    · rw [htables]
      exact h.update m k (fun _ => rfl)
  | _ =>
    rw [exec_quiet (by trivial) he]
    exact h

/-- In every state reached the keys fit. -/
theorem keysFit_run {C : (machine config env).Cond} {s : State} (hs : s.tables.KeysFit) {cfg : (machine config env).Config}
    (hrun : (machine config env).Run C (.init _ s) cfg) : cfg.state.tables.KeysFit :=
  hrun.keeps_calls (A := ClaimsTrimmed) (J := fun s : State => s.tables.KeysFit)
    (fun c : PaymentCall =>
      route_calls c (fun _ ho => .of_quiet ho.quiet) c.trimmed (fun _ => trivial) (fun _ => trivial) (fun _ => trivial))
    (fun _ _ _ _ _ _ ho _ h he => keysFit_step ho h he) (fun _ _ h => h) hs

/-! ## A request alone -/

/-- A merchant's key is COMPLETED with an event. -/
def Tables.CompletedWith (d : Tables) (merchantId key eventId : String) : Prop :=
  ∃ row, d.idempotencyOf merchantId key = some row ∧ row.status = .completed ∧ row.eventId = some eventId

/-- A call that goes well. -/
def GoesWell (config : StoreConfig) (o : Action) (s : State) (r : Except GatewayError o.Result) (s' : State) : Prop :=
  ∃ ch : Choice, ch.fault = .none ∧ exec config o ch s = some (r, s')

/-- One call whose choice lets it go well. -/
def execWell (config : StoreConfig) (o : Action) (ch : { ch : Choice // ch.fault = .none }) (s : State) :
    Option (Except GatewayError o.Result × State) := exec config o ch.1 s

theorem execWell_isSome (o : Action) (ch : { ch : Choice // ch.fault = .none }) (s : State) :
    ∃ r s', execWell config o ch s = some (r, s') ∧ True := by
  refine ⟨(s.perform config ch.1 o).1, (s.perform config ch.1 o).2, ?_, trivial⟩
  simp only [execWell, exec, ch.2]

theorem execWell_goesWell (o : Action) (ch : { ch : Choice // ch.fault = .none }) (s : State) (r : Except GatewayError o.Result)
    (s' : State) (h : execWell config o ch s = some (r, s')) : GoesWell config o s r s' := ⟨ch.1, ch.2, h⟩

/-- A request returns a receipt, which is stored, and its key is COMPLETED with the receipt's event. -/
def Completes (env : Env) (c : PaymentCall) (out : Except GatewayError UnifiedReceipt) (s : State) : Prop :=
  ∃ receipt, out = .ok receipt ∧ s.tables.CompletedWith c.merchantId c.idempotencyKey receipt.eventId ∧
    s.tables.getReceipt c.merchantId receipt.eventId = some (env.attach receipt)

/-- No receipt is stored for a merchant's key, and the amount is at least a cent. -/
def Retriable (env : Env) (c : PaymentCall) (d : Tables) : Prop :=
  (∀ r ∈ d.receipts, r.key ≠ (c.merchantId, c.idempotencyKey)) ∧ 0 < env.dollarsToMinor c.request.amount

section

variable {c : PaymentCall} {s : State}

/-- One call of a request alone. -/
theorem well_wp {o : Action} {Q : Except GatewayError o.Result → State → Prop}
    (h : ∀ ch : Choice, Q (s.perform config ch o).1 (s.perform config ch o).2) :
    (step o).wp (GoesWell config) (.alone State) Q s := by
  unfold step
  rw [Prog.wp_perform]
  rintro s₁ rfl - r s₂ ⟨ch, hfault, he⟩
  unfold exec at he
  rw [hfault] at he
  obtain ⟨rfl, rfl⟩ := Prod.mk.inj (Option.some.inj he)
  exact ⟨trivial, trivial, h ch⟩

/-- An exception of the work completes nothing. -/
theorem workFailed_wp_alone {P : Prop} (hP : ¬ P) (e : GatewayError) :
    (workFailed c e).wp (GoesWell config) (.alone State) (fun out s' => Completes env c out s' ↔ P) s := by
  have hnot : ∀ (err : GatewayError) (s' : State), Completes env c (.error err) s' ↔ P :=
    fun err s' => ⟨fun ⟨_, h, _⟩ => (nomatch h), fun h => absurd h hP⟩
  cases e with
  | http statusCode detail => exact hnot _ _
  | _ =>
    unfold workFailed
    rw [Prog.wp_bind]
    exact well_wp (fun ch => hnot _ _)

/-- Storing the receipt of an event that has none, and completing the key with it. -/
theorem finish_wp {receipt : UnifiedReceipt} {row : IdempotencyRow}
    (hrow : s.tables.idempotencyOf c.merchantId c.idempotencyKey = some row)
    (hfit : varchar 255 c.idempotencyKey = some c.idempotencyKey) (hmerchant : s.tables.hasMerchant c.merchantId = true)
    (hfresh : s.tables.Fresh receipt.eventId) :
    (do
      step (.saveReceipt c.merchantId c.idempotencyKey (c.hash env) (env.attach receipt))
      step (.completeIdempotency c.merchantId c.idempotencyKey receipt.eventId)
      pure receipt : Program UnifiedReceipt).wp (GoesWell config) (.alone State)
      (fun r s' => match r with
        | .ok a => Completes env c (.ok a) s' ∧ ∀ r ∈ s.tables.receipts, r.key ≠ (c.merchantId, c.idempotencyKey)
        | .error _ => ∃ r ∈ s.tables.receipts, r.key = (c.merchantId, c.idempotencyKey)) s := by
  have hnone : s.tables.receiptOf receipt.eventId = none := List.find?_eq_none.2 (fun r hr => by simpa using hfresh r hr)
  rw [Prog.wp_bind]
  refine well_wp (fun ch => ?_)
  by_cases hkey : s.tables.receipts.any (fun r => decide (r.key = (c.merchantId, c.idempotencyKey))) = true
  · have hsave : s.tables.saveReceipt config c.merchantId c.idempotencyKey (c.hash env) (env.attach receipt) =
        (.error secondReceipt, s.tables) := by
      unfold Tables.saveReceipt
      simp only [hfit, Env.attach, hnone, hkey, if_true]
    simp only [State.perform, State.store, hsave]
    simpa using hkey
  · have hkey : ∀ r ∈ s.tables.receipts, r.key ≠ (c.merchantId, c.idempotencyKey) := by simpa using hkey
    have hany : s.tables.receipts.any (fun r => decide (r.key = (c.merchantId, c.idempotencyKey))) = false := by simpa using hkey
    let stored : ReceiptRow := ⟨receipt.eventId, c.merchantId, receipt.correlationId, c.idempotencyKey, c.hash env, receipt.status,
      env.attach receipt⟩
    have hsave : s.tables.saveReceipt config c.merchantId c.idempotencyKey (c.hash env) (env.attach receipt) =
        (.ok (), { s.tables with receipts := s.tables.receipts ++ [stored] }) := by
      unfold Tables.saveReceipt
      simp only [hfit, Env.attach, hnone, hany, hmerchant]
      rfl
    simp only [State.perform, State.store, hsave]
    rw [Prog.wp_bind]
    refine well_wp (fun ch' => ?_)
    have hfind : Tables.receiptOf { s.tables with receipts := s.tables.receipts ++ [stored] } receipt.eventId = some stored := by
      unfold Tables.receiptOf at hnone ⊢
      rw [List.find?_append, hnone]
      simp [stored]
    have hrow' : Tables.idempotencyOf { s.tables with receipts := s.tables.receipts ++ [stored] } c.merchantId c.idempotencyKey =
        some row := hrow
    have hcomplete : Tables.completeIdempotency { s.tables with receipts := s.tables.receipts ++ [stored] } config c.merchantId
        c.idempotencyKey receipt.eventId = (.ok (), Tables.updateIdempotency
          { s.tables with receipts := s.tables.receipts ++ [stored] } c.merchantId c.idempotencyKey
          (fun i => { i with status := .completed, eventId := some receipt.eventId, failureReason := none })) := by
      unfold Tables.completeIdempotency
      simp [hrow', hfind, stored]
    simp only [State.perform, State.store, hcomplete]
    refine ⟨⟨receipt, rfl, ⟨_, Tables.idempotencyOf_updated (fun _ => rfl) hrow', rfl, rfl⟩, ?_⟩, hkey⟩
    have hold : s.tables.receipts.find? (fun r => decide (r.merchantId = c.merchantId ∧ r.eventId = receipt.eventId)) = none :=
      List.find?_eq_none.2 (fun r hr => by simpa using fun _ => hfresh r hr)
    simp only [Tables.getReceipt, Tables.updateIdempotency_receipts]
    rw [List.find?_append, hold]
    simp [stored]

/-- A merchant with credentials has a row. -/
theorem hasMerchant_of_credentials {d : Tables} {m : String} {credentials : ServiceCredentials}
    (h : d.getServiceCredentials config m = .ok credentials) : d.hasMerchant m = true := by
  unfold Tables.getServiceCredentials at h
  split at h
  · cases h
  · split at h
    · rename_i merchantId active found keyId hfind
      have hm := List.find?_some hfind
      rw [Bool.and_eq_true] at hm
      exact List.any_eq_true.2 ⟨_, List.mem_of_find?_eq_some hfind, hm.1⟩
    · cases h

/-- The loop leaves the tables. -/
theorem loop_wp (c : PaymentCall) (credentials : ServiceCredentials) (h : 0 < env.dollarsToMinor c.request.amount) :
    (processPayment env c.draws c.merchantId c.idempotencyKey c.request credentials).wp (GoesWell config) (.alone State)
      (fun r s' => s'.tables = s.tables ∧ ∃ receipt, r = .ok receipt ∧ receipt.eventId = c.draws.eventId) s := by
  refine (processPayment_gives c.draws c.merchantId c.idempotencyKey credentials h).wp
    (M := fun a b : State => b.tables = a.tables) ?_ ?_ rfl
  · rintro a b b' h rfl
    exact h
  · rintro o a r a' ho - ⟨ch, -, he⟩
    exact ⟨trivial, trivial, fun b hb => (exec_quiet ho he).trans hb⟩

/-- The claim of a key that is FAILED. -/
theorem claim_failed {d : Tables} {row : IdempotencyRow} (now : Int)
    (hrow : d.idempotencyOf c.merchantId c.idempotencyKey = some row) (hfailed : row.status = .failed)
    (hhash : row.requestHash = c.hash env) (hstrip : strip c.idempotencyKey ≠ "")
    (hfit : varchar 255 c.idempotencyKey = some c.idempotencyKey) :
    d.claimIdempotency now c.merchantId c.idempotencyKey (c.hash env) =
      (.ok ⟨.retry, none⟩, d.updateIdempotency c.merchantId c.idempotencyKey
        (fun i => { i with status := .processing, claimedAt := now, failureReason := none })) := by
  unfold Tables.claimIdempotency
  rw [if_neg hstrip, hfit]
  simp only [hrow, Option.isSome_some, if_true]
  unfold Tables.claimStored
  rw [if_neg (not_not.2 hhash), hfailed]

/-- A request that finds its key FAILED, and whose own steps go well, completes the key exactly when it is retriable. -/
theorem retry_wp {row : IdempotencyRow} {credentials : ServiceCredentials}
    (hrow : s.tables.idempotencyOf c.merchantId c.idempotencyKey = some row) (hfailed : row.status = .failed)
    (hhash : row.requestHash = c.hash env) (hstrip : strip c.idempotencyKey ≠ "")
    (hfit : varchar 255 c.idempotencyKey = some c.idempotencyKey)
    (hcred : s.tables.getServiceCredentials config c.merchantId = .ok credentials)
    (hfresh : s.tables.Fresh c.draws.eventId) :
    (processPaymentRoute env c).wp (GoesWell config) (.alone State)
      (fun out s' => Completes env c out s' ↔ Retriable env c s.tables) s := by
  unfold processPaymentRoute
  rw [Prog.wp_bind, Prog.wp_tryCatch]
  refine well_wp (fun ch => ?_)
  simp only [State.perform, State.store, claim_failed ch.now hrow hfailed hhash hstrip hfit]
  rw [if_neg ClaimState.noConfusion, Prog.wp_tryCatch]
  unfold work
  rw [Prog.wp_bind]
  -- the claim changed the key's row only
  have hclaimed := Tables.idempotencyOf_updated (d := s.tables) (u := fun i =>
    { i with status := .processing, claimedAt := ch.now, failureReason := none }) (fun _ => rfl) hrow
  refine well_wp (fun _ => ?_)
  have hcred' : (Tables.updateIdempotency s.tables c.merchantId c.idempotencyKey
      (fun i => { i with status := .processing, claimedAt := ch.now, failureReason := none })).getServiceCredentials config
      c.merchantId = .ok credentials := hcred
  simp only [State.perform, hcred']
  rw [Prog.wp_bind]
  by_cases hpos : env.dollarsToMinor c.request.amount ≤ 0
  · rw [processPayment_throws _ _ _ _ hpos]
    exact workFailed_wp_alone (fun h => absurd h.2 (not_lt.2 hpos)) _
  refine Prog.wp_mono ?_ _ (loop_wp c credentials (not_le.1 hpos))
  rintro _ s₂ ⟨htables, receipt, rfl, hevent⟩
  have hfresh' : s₂.tables.Fresh receipt.eventId := by
    rw [htables, hevent]
    exact hfresh
  have hmerchant : s₂.tables.hasMerchant c.merchantId = true := by
    rw [htables]
    exact hasMerchant_of_credentials (d := s.tables) hcred
  refine Prog.wp_mono ?_ _ (finish_wp (by rw [htables]; exact hclaimed) hfit hmerchant hfresh')
  rintro (err | receipt') s₃ hfinish
  · obtain ⟨r, hr, hkey⟩ := hfinish
    rw [htables] at hr
    exact workFailed_wp_alone (fun h => absurd hkey (h.1 r hr)) err
  · obtain ⟨hcompletes, hkey⟩ := hfinish
    rw [htables] at hkey
    exact ⟨fun _ => ⟨hkey, not_le.1 hpos⟩, fun _ => hcompletes⟩

/-- The same of a request that is run. -/
theorem retry_run {row : IdempotencyRow} {credentials : ServiceCredentials} {ch : Nat → Choice} (hch : ∀ n, (ch n).fault = .none)
    (hfits : s.tables.KeysFit) (hrow : s.tables.idempotencyOf c.merchantId c.idempotencyKey = some row)
    (hfailed : row.status = .failed) (hhash : row.requestHash = c.hash env)
    (hcred : s.tables.getServiceCredentials config c.merchantId = .ok credentials) (hfresh : s.tables.Fresh c.draws.eventId) :
    ∃ out s', Prog.run (exec config) ch 0 (processPaymentRoute env c) s = some (out, s') ∧
      (Completes env c out s' ↔ Retriable env c s.tables) := by
  have hkey : row.idempotencyKey = c.idempotencyKey := by
    have hmk : row.key = (c.merchantId, c.idempotencyKey) := by simpa using List.find?_some hrow
    exact (Prod.mk.inj hmk).2
  obtain ⟨hstrip, hfit⟩ := hfits row (List.mem_of_find?_eq_some hrow)
  rw [hkey] at hstrip hfit
  obtain ⟨out, s', hrun, -⟩ := Prog.run_isSome (execWell config) (fun n => ⟨ch n, hch n⟩) (P := fun _ => True)
    (fun o ch s _ => execWell_isSome o ch s) (processPaymentRoute env c) (n := 0) (s := s) trivial
  obtain ⟨-, hpost⟩ := Prog.wp_run (S := signature) (execWell config) execWell_goesWell (fun _ => rfl) _ trivial
    (retry_wp hrow hfailed hhash hstrip hfit hcred hfresh) hrun
  have hsame := Prog.run_choice (exec config) Subtype.val (fun n => (⟨ch n, hch n⟩ : { ch : Choice // ch.fault = .none }))
    (processPaymentRoute env c) (n := 0) (s := s)
  rw [show Prog.run (execWell config) _ 0 (processPaymentRoute env c) s = _ from hsame] at hrun
  exact ⟨out, s', hrun, hpost⟩

end

end Gateway

end Archisynapse
