import Archisynapse.Lemmas.PaymentsCalls

/-!
# Programs that need nothing

The parts of the transaction service that neither charge nor refund nor say what came of a charge (`Harmless`): their calls need
nothing of the state they are made in.
-/

namespace Archisynapse

namespace Payments

/-- A call of the service that neither inserts a payment nor asks the processor for anything nor says what came of a charge. -/
def Action.Mild : Action → Prop
  | .charge _ => False
  | .refund _ => False
  | .settleCharge _ _ => False
  | .settleRefund _ _ => False
  | .sql _ (.insertPayment _) => False
  | .sql _ (.updatePayment _ (.failed _)) => False
  | .sql _ (.updatePayment _ (.succeeded _)) => False
  | .sql _ (.updatePayment _ (.status st)) => st ≠ .succeeded
  | _ => True

theorem Action.Mild.ready {o : Action} (h : o.Mild) (s : World) : Ready s o := by
  cases o with
  | charge req => exact h.elim
  | refund req => exact h.elim
  | sql sess o =>
    cases o with
    | updatePayment id change =>
      cases change with
      | failed x => exact h.elim
      | succeeded x => exact h.elim
      | _ => exact trivial
    | _ => exact trivial
  | _ => exact trivial

/-- A program none of whose calls needs anything. -/
def Harmless {α : Type} (p : Program α) : Prop := p.Calls Action.Mild

section

variable {α : Type}

theorem harmless_fault (name : ErrorName) (message : String) : Harmless (fault name message : Program α) := trivial

theorem harmless_step {o : Action} (h : o.Mild) : Harmless (step o) := Prog.calls_perform h

theorem harmless_openSession (sess : Session) : Harmless (openSession sess) :=
  Prog.calls_ite (harmless_fault _ _) (harmless_step trivial)

theorem harmless_validateMinorAmount (value : Nat) : Harmless (validateMinorAmount value) :=
  Prog.calls_ite (harmless_fault _ _) (Prog.calls_pure ())

theorem harmless_decimalStringToMinorUnits (amount : ℚ) (currency : String) :
    Harmless (decimalStringToMinorUnits amount currency) :=
  Prog.calls_ite (harmless_fault _ _) (Prog.calls_ite (harmless_fault _ _)
    (Prog.calls_bind (harmless_validateMinorAmount _) (fun _ => Prog.calls_pure _)))

theorem harmless_validateIdempotencyKey (key : String) : Harmless (validateIdempotencyKey key) :=
  Prog.calls_ite (harmless_fault _ _) (Prog.calls_pure ())

theorem harmless_validateCharge (mode : ProcessorMode) (req : ChargeRequest) (liveSmokeTest : Bool) :
    Harmless (validateCharge mode req liveSmokeTest) :=
  Prog.calls_ite (Prog.calls_pure ()) (Prog.calls_ite (harmless_fault _ _) (Prog.calls_ite (harmless_fault _ _)
    (Prog.calls_ite (harmless_fault _ _) (Prog.calls_pure ()))))

theorem harmless_validateRefund (mode : ProcessorMode) (req : ProcessorRefundRequest) : Harmless (validateRefund mode req) :=
  Prog.calls_ite (Prog.calls_pure ()) (Prog.calls_ite (harmless_fault _ _) (Prog.calls_ite (harmless_fault _ _)
    (Prog.calls_pure ())))

theorem harmless_findOrCreate (existing : List AccountRow) (organizationId code name : String) (type : AccountType) :
    Harmless (findOrCreate existing organizationId code name type) := by
  unfold findOrCreate
  split
  · exact Prog.calls_pure _
  · exact Prog.calls_bind (harmless_step trivial) (fun _ => Prog.calls_pure _)

theorem harmless_resolveLedgerAccounts (env : Env) (organizationId : String) :
    Harmless (resolveLedgerAccounts env organizationId) := by
  unfold resolveLedgerAccounts
  split
  · exact Prog.calls_pure _
  · refine Prog.calls_bind (harmless_step trivial) (fun existing => ?_)
    refine Prog.calls_bind (harmless_findOrCreate _ _ _ _ _) (fun clearing => ?_)
    refine Prog.calls_bind (harmless_findOrCreate _ _ _ _ _) (fun payable => ?_)
    exact Prog.calls_bind (harmless_findOrCreate _ _ _ _ _) (fun fee => Prog.calls_pure _)

theorem harmless_getPayment (env : Env) (organizationId : String) (paymentId : UuidText) :
    Harmless (getPayment env organizationId paymentId) := by
  refine Prog.calls_bind (harmless_openSession _) (fun _ => Prog.calls_bind (harmless_step trivial) (fun row => ?_))
  cases row with
  | none => exact harmless_fault _ _
  | some row => exact Prog.calls_pure row

theorem harmless_postPayment (env : Env) (sess : Session) (req : CreatePaymentRequest) : Harmless (postPayment env sess req) := by
  refine Prog.calls_tryCatch ?_ (fun _ => harmless_step trivial)
  refine Prog.calls_bind (harmless_resolveLedgerAccounts _ _) (fun accounts => ?_)
  exact Prog.calls_bind (harmless_step trivial) (fun _ => harmless_step trivial)

theorem harmless_reverseInLedger (sess : Session) (req : RefundRequest) (payment : PaymentRow) (ledgerTransactionId : Uuid)
    (attempt : AttemptRow) : Harmless (reverseInLedger sess req payment ledgerTransactionId attempt) :=
  Prog.calls_tryCatch (harmless_step trivial)
    (fun _ => Prog.calls_bind (harmless_step trivial) (fun _ => Prog.calls_throw _))

theorem harmless_recordRefund (env : Env) (sess : Session) (req : RefundRequest) (payment : PaymentRow) (refundAmount : ℚ)
    (alreadyRefunded : Decimal) (attempt : AttemptRow) (processorRefundId : Option String) (reversal : Transaction) :
    Harmless (recordRefund env sess req payment refundAmount alreadyRefunded attempt processorRefundId reversal) := by
  refine Prog.calls_bind (harmless_step trivial) (fun _ => ?_)
  refine Prog.calls_bind (harmless_step trivial) (fun _ => ?_)
  refine Prog.calls_bind (harmless_step ?_) (fun _ => ?_)
  · change (if _ then PaymentStatus.refunded else PaymentStatus.partiallyRefunded) ≠ .succeeded
    split <;> exact PaymentStatus.noConfusion
  refine Prog.calls_bind (harmless_step trivial) (fun row => ?_)
  cases row with
  | none => exact harmless_fault _ _
  | some row => exact Prog.calls_pure row

/-- What `claimAttempt` does when the key is taken. -/
theorem harmless_existingAttempt (sess : Session) (v : AttemptValues) : Harmless (do
    match ← query sess (.selectAttempt v.idempotencyKey) with
    | none => fault .error "refund idempotency record disappeared"
    | some attempt =>
      match attempt.status with
      | .processing => fault .error "another refund request is already processing this idempotency key"
      | .ledgerSucceeded => do
        match ← query sess (.selectRefund v.idempotencyKey) with
        | some row => pure (.done row)
        | none => pure (.attempt attempt)
      | .failed => do
        query sess (.updateAttempt attempt.id .processing)
        pure (.attempt { attempt with status := .processing })
      | .processorSucceeded => pure (.attempt attempt) : Program Claim) := by
  refine Prog.calls_bind (harmless_step trivial) (fun row => ?_)
  cases row with
  | none => exact harmless_fault _ _
  | some attempt =>
    dsimp only
    split
    · exact harmless_fault _ _
    · refine Prog.calls_bind (harmless_step trivial) (fun row => ?_)
      cases row with
      | none => exact Prog.calls_pure _
      | some row => exact Prog.calls_pure _
    · exact Prog.calls_bind (harmless_step trivial) (fun _ => Prog.calls_pure _)
    · exact Prog.calls_pure _

theorem openSession_eq (sess : Session) (h : sess.organizationId ≠ "") : openSession sess = query sess .connect := if_neg h

/-! ## What the adapter refuses -/

theorem validateMinorAmount_eq (value : Nat) :
    (∃ e, validateMinorAmount value = Prog.throw e) ∨ validateMinorAmount value = pure () := by
  unfold validateMinorAmount
  split
  · exact Or.inl ⟨_, rfl⟩
  · exact Or.inr rfl

theorem validateIdempotencyKey_eq (key : String) :
    (∃ e, validateIdempotencyKey key = Prog.throw e) ∨ (utf16Length key ≤ 255 ∧ validateIdempotencyKey key = pure ()) := by
  unfold validateIdempotencyKey
  split
  · exact Or.inl ⟨_, rfl⟩
  · rename_i h
    push Not at h
    exact Or.inr ⟨h.2, rfl⟩

theorem validateCharge_eq (mode : ProcessorMode) (c : ChargeRequest) (liveSmokeTest : Bool) :
    (∃ e, validateCharge mode c liveSmokeTest = Prog.throw e) ∨ validateCharge mode c liveSmokeTest = pure () := by
  unfold validateCharge
  split
  · exact Or.inr rfl
  split
  · exact Or.inl ⟨_, rfl⟩
  split
  · exact Or.inl ⟨_, rfl⟩
  split
  · exact Or.inl ⟨_, rfl⟩
  · exact Or.inr rfl

theorem decimalStringToMinorUnits_eq (amount : ℚ) (currency : String) :
    (∃ e, decimalStringToMinorUnits amount currency = Prog.throw e) ∨
      ∃ n, decimalStringToMinorUnits amount currency = pure n := by
  unfold decimalStringToMinorUnits
  split
  · exact Or.inl ⟨_, rfl⟩
  split
  · exact Or.inl ⟨_, rfl⟩
  dsimp only
  generalize double _ = value
  rcases validateMinorAmount_eq value with ⟨e, he⟩ | he
  · rw [he]
    exact Or.inl ⟨e, rfl⟩
  · rw [he]
    exact Or.inr ⟨value, rfl⟩

theorem validateRefund_eq (mode : ProcessorMode) (req : ProcessorRefundRequest) :
    (∃ e, validateRefund mode req = Prog.throw e) ∨ validateRefund mode req = pure () := by
  unfold validateRefund
  split
  · exact Or.inr rfl
  split
  · exact Or.inl ⟨_, rfl⟩
  split
  · exact Or.inl ⟨_, rfl⟩
  · exact Or.inr rfl

/-- `refund` refuses the request, or makes one call. -/
theorem refund_eq (env : Env) (req : ProcessorRefundRequest) : (∃ e, refund env req = Prog.throw e) ∨
    (utf16Length req.idempotencyKey ≤ 255 ∧
      refund env req = step (.refund { req with reason := normalizeRefundReason req.reason })) := by
  unfold refund
  split
  · exact Or.inl ⟨_, rfl⟩
  rcases validateMinorAmount_eq req.amountMinor with ⟨e, he⟩ | he
  · rw [he]
    exact Or.inl ⟨e, rfl⟩
  rw [he, Prog.pure_bind_eq]
  rcases validateIdempotencyKey_eq req.idempotencyKey with ⟨e, he⟩ | ⟨hkey, he⟩
  · rw [he]
    exact Or.inl ⟨e, rfl⟩
  rw [he, Prog.pure_bind_eq]
  rcases validateRefund_eq env.mode req with ⟨e, he⟩ | he
  · rw [he]
    exact Or.inl ⟨e, rfl⟩
  rw [he, Prog.pure_bind_eq]
  split
  · exact Or.inl ⟨_, rfl⟩
  · exact Or.inr ⟨hkey, rfl⟩

end

end Payments

end Archisynapse
