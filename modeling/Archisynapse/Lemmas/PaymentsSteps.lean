import Archisynapse.Lemmas.PaymentsPrograms

/-!
# The calls of `createPayment`

Every call that `createPayment` may make, whatever its calls are answered (`CreateCall`), so that what holds of each of them holds of
the program (`createPayment_calls`).
-/

namespace Archisynapse

namespace Payments

/-- The accounts of a posting are uuids, the platform's when there is a fee. -/
def Accounts.Valid (accounts : Accounts) (fee : Int) : Prop :=
  accounts.processorClearingAccountId.value.isSome = true ∧ accounts.merchantPayableAccountId.value.isSome = true ∧
    (0 < fee → accounts.platformFeeRevenueAccountId.value.isSome = true)

/-- The accounts of the configuration are uuids, if all of them are set. -/
def LedgerAccountConfig.Valid (c : LedgerAccountConfig) (fee : Int) : Prop :=
  match c with
  | ⟨some clearing, some payable, some platform⟩ => Accounts.Valid ⟨clearing, payable, platform⟩ fee
  | _ => True

/-- The posting of a request, to given accounts. -/
def CreatePaymentRequest.posting (req : CreatePaymentRequest) (uuid : Uuid) (accounts : Accounts) : PostTransactionRequest :=
  paymentRequest req.organizationId uuid (.fin req.amount) (.fin (req.feeAmount.getD 0)) req.net req.currency accounts

/-- The calls of `createPayment`. -/
inductive CreateCall (env : Env) (req : CreatePaymentRequest) : Action → Prop where
  | connect : CreateCall env req (.sql (env.session req.organizationId) .connect)
  | selectByKey : CreateCall env req (.sql (env.session req.organizationId) (.selectPaymentByKey req.idempotencyKey))
  | insert : CreateCall env req (.sql (env.session req.organizationId)
      (.insertPayment ⟨env.uuid, .fin req.amount, req.currency, req.idempotencyKey, .fin (req.feeAmount.getD 0)⟩))
  | charge (n : Nat) (hn : decimalStringToMinorUnits req.amount req.currency = pure n) :
      CreateCall env req (.charge ⟨n, req.currency, req.paymentMethodToken, req.idempotencyKey⟩)
  | failed (id : Option String) : CreateCall env req (.sql (env.session req.organizationId) (.updatePayment env.uuid (.failed id)))
  | succeeded (id : Option String) :
      CreateCall env req (.sql (env.session req.organizationId) (.updatePayment env.uuid (.succeeded id)))
  | posted (id : Uuid) : CreateCall env req (.sql (env.session req.organizationId) (.updatePayment env.uuid (.posted id)))
  | select : CreateCall env req (.sql (env.session req.organizationId) (.selectPayment (.stored env.uuid)))
  | listAccounts : CreateCall env req (.ledger "account list" (.listAccounts req.organizationId))
  | createAccount (code name : String) (type : AccountType) :
      CreateCall env req (.ledger "account create" (.createAccount req.organizationId code name type "USD"))
  | post (accounts : Accounts) (hvalid : ∀ fee, accounts.Valid fee ↔ env.ledgerAccounts.Valid fee) :
      CreateCall env req (.ledger "transaction" (.postTransaction (req.posting env.uuid accounts)))
  | queue : CreateCall env req (.sql (env.session req.organizationId) (.insertUnposted ⟨env.uuid, "payment-" ++ Uuid.text env.uuid,
      .fin req.amount, .fin (req.feeAmount.getD 0), req.net, req.currency, Uuid.text env.uuid⟩))

section

variable {env : Env} {req : CreatePaymentRequest} {α : Type}

theorem createCall_openSession : (openSession (env.session req.organizationId)).Calls (CreateCall env req) :=
  Prog.calls_ite (Prog.calls_throw _) (Prog.calls_perform (S := signature) .connect)

theorem createCall_insertPayment : (insertPayment env (env.session req.organizationId) req).Calls (CreateCall env req) := by
  refine Prog.calls_tryCatch (Prog.calls_bind (Prog.calls_perform (S := signature) .insert) (fun _ => Prog.calls_pure _)) (fun e => ?_)
  refine Prog.calls_ite (Prog.calls_bind (Prog.calls_perform (S := signature) .selectByKey) (fun row => ?_)) (Prog.calls_throw e)
  cases row with
  | none => exact Prog.calls_throw e
  | some row => exact Prog.calls_pure _

theorem createCall_callProcessor : (callProcessor env req).Calls (CreateCall env req) := by
  refine Prog.calls_tryCatch ?_ (fun _ => Prog.calls_pure _)
  rcases decimalStringToMinorUnits_eq req.amount req.currency with ⟨e, he⟩ | ⟨n, hn⟩
  · rw [he]
    exact Prog.calls_throw e
  rw [hn, Prog.pure_bind_eq]
  refine Prog.calls_bind (Prog.calls_ite (Prog.calls_throw _) (Prog.calls_bind ?_ (fun _ => ?_))) (fun _ => Prog.calls_pure _)
  · exact Prog.calls_ite (Prog.calls_throw _) (Prog.calls_pure _)
  refine Prog.calls_ite (Prog.calls_throw _) (Prog.calls_ite (Prog.calls_throw _) (Prog.calls_bind ?_ (fun _ => ?_)))
  · exact Prog.calls_ite (Prog.calls_throw _) (Prog.calls_pure _)
  refine Prog.calls_bind ?_ (fun _ => Prog.calls_bind (Prog.calls_perform (S := signature) (.charge n hn)) (fun _ => Prog.calls_pure _))
  rcases validateCharge_eq env.mode ⟨n, req.currency, req.paymentMethodToken, req.idempotencyKey⟩ req.liveSmokeTest with ⟨e, he⟩ | he
  · rw [he]
    exact Prog.calls_throw e
  · rw [he]
    exact Prog.calls_pure _

/-- An account that is found or created has a uuid. -/
theorem createCall_findOrCreate {existing : List AccountRow} {code name : String} {type : AccountType} {f : UuidText → Program α}
    (hf : ∀ id : Uuid, (f (.stored id)).Calls (CreateCall env req)) :
    (findOrCreate existing req.organizationId code name type >>= f).Calls (CreateCall env req) := by
  unfold findOrCreate
  split
  · exact hf _
  · rw [Prog.bind_assoc_eq]
    exact Prog.calls_bind (Prog.calls_perform (S := signature) (.createAccount code name type)) (fun account => hf account.id)

/-- The accounts of a posting are those of the configuration, or have uuids. -/
theorem createCall_resolve {f : Accounts → Program α}
    (hf : ∀ accounts, (∀ fee, accounts.Valid fee ↔ env.ledgerAccounts.Valid fee) → (f accounts).Calls (CreateCall env req)) :
    (resolveLedgerAccounts env req.organizationId >>= f).Calls (CreateCall env req) := by
  unfold resolveLedgerAccounts
  split
  · rename_i clearing payable fee hconfig
    exact hf ⟨clearing, payable, fee⟩ (fun _ => by rw [hconfig]; rfl)
  · rename_i hunset
    have hvalid (fee : Int) : env.ledgerAccounts.Valid fee := by
      unfold LedgerAccountConfig.Valid
      split
      · rename_i clearing payable platform hconfig
        exact absurd hconfig (hunset clearing payable platform)
      · exact trivial
    rw [Prog.bind_assoc_eq]
    refine Prog.calls_bind (Prog.calls_perform (S := signature) .listAccounts) (fun existing => ?_)
    rw [Prog.bind_assoc_eq]
    refine createCall_findOrCreate (fun clearing => ?_)
    rw [Prog.bind_assoc_eq]
    refine createCall_findOrCreate (fun payable => ?_)
    rw [Prog.bind_assoc_eq]
    refine createCall_findOrCreate (fun fee => ?_)
    exact hf ⟨.stored clearing, .stored payable, .stored fee⟩ (fun f => ⟨fun _ => hvalid f, fun _ => ⟨rfl, rfl, fun _ => rfl⟩⟩)

theorem createCall_postPayment : (postPayment env (env.session req.organizationId) req).Calls (CreateCall env req) := by
  refine Prog.calls_tryCatch (createCall_resolve (fun accounts hvalid => ?_)) (fun _ => Prog.calls_perform (S := signature) .queue)
  exact Prog.calls_bind (Prog.calls_perform (S := signature) (.post accounts hvalid))
    (fun transaction => Prog.calls_perform (S := signature) (.posted transaction.id))

theorem createCall_getPayment : (getPayment env req.organizationId (.stored env.uuid)).Calls (CreateCall env req) := by
  refine Prog.calls_bind createCall_openSession (fun _ => Prog.calls_bind (Prog.calls_perform (S := signature) .select) (fun row => ?_))
  cases row with
  | none => exact Prog.calls_throw _
  | some row => exact Prog.calls_pure row

/-- Whatever its calls are answered, `createPayment` makes no other calls. -/
theorem createPayment_calls : (createPayment env req).Calls (CreateCall env req) := by
  refine Prog.calls_bind createCall_openSession (fun _ => ?_)
  refine Prog.calls_bind (Prog.calls_perform (S := signature) .selectByKey) (fun row => ?_)
  cases row with
  | some row => exact Prog.calls_pure row
  | none =>
    refine Prog.calls_bind createCall_insertPayment (fun row => ?_)
    cases row with
    | some row => exact Prog.calls_pure row
    | none =>
      refine Prog.calls_bind createCall_callProcessor (fun answer => Prog.calls_ite ?_ ?_)
      · exact Prog.calls_bind (Prog.calls_perform (S := signature) (.failed answer.1)) (fun _ => createCall_getPayment)
      · refine Prog.calls_bind (Prog.calls_perform (S := signature) (.succeeded answer.1)) (fun _ => ?_)
        exact Prog.calls_bind createCall_postPayment (fun _ => createCall_getPayment)

end

end Payments

end Archisynapse
