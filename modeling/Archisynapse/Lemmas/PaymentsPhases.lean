import Archisynapse.Base.History
import Archisynapse.Lemmas.PaymentsAmounts
import Archisynapse.Lemmas.PaymentsSteps

/-!
# Where a call stands with a refund attempt

A call of the service puts an attempt in status PROCESSING, asks the processor for the refund, and writes down what came of it. By
its own calls it is in one of these phases (`phase`), and a program that keeps to them (`Disciplined`) neither makes another call
in between nor ends in between, unless the adapter does not send its refund.
-/

namespace Archisynapse

namespace Payments

/-- Where a call stands with a refund attempt. -/
inductive Phase where
  | idle
  /-- its insert found the key taken -/
  | taken (v : AttemptValues)
  /-- it read the attempt that has the key -/
  | read (v : AttemptValues) (attempt : AttemptRow)
  /-- an attempt is in status PROCESSING by it -/
  | claimed (sess : Session) (v : AttemptValues) (id : Uuid)
  /-- the processor answered its refund -/
  | answered (sess : Session) (id : Uuid)

/-- The phase after a call and its answer. -/
def Phase.next : Phase → Prog.Answered signature → Phase
  | _, ⟨.sql sess (.insertAttempt v), .ok (some attempt)⟩ =>
    if attempt.status = .processing then .claimed sess v attempt.id else .idle
  | _, ⟨.sql _ (.insertAttempt v), .ok none⟩ => .taken v
  | .taken v, ⟨.sql _ (.selectAttempt _), .ok (some attempt)⟩ => .read v attempt
  | .read v attempt, ⟨.sql sess (.updateAttempt _ .processing), .ok ()⟩ => .claimed sess v attempt.id
  | .claimed sess _ id, ⟨.refund _, .ok _⟩ => .answered sess id
  | _, _ => .idle

/-- The phase after a call's own calls. -/
def phase (past : List (Prog.Answered signature)) : Phase := past.foldl Phase.next .idle

theorem phase_append (past : List (Prog.Answered signature)) (x : Prog.Answered signature) :
    phase (past ++ [x]) = (phase past).next x := by
  rw [phase, List.foldl_append]
  rfl

/-- A change that says what came of a refund at the processor. -/
def AttemptChange.settles : AttemptChange → Prop
  | .failed _ => True
  | .processorSucceeded _ => True
  | _ => False

/-- The calls that may come in a phase of a call that refunds under a key. -/
def Phase.Allows (key : Option String) : Phase → Action → Prop
  | .idle, o => (∀ sess v, o = .sql sess (.insertAttempt v) → key = some v.idempotencyKey) ∧
    ∀ sess id, o ≠ .sql sess (.updateAttempt id .processing)
  | .taken v, o => ∃ sess, o = .sql sess (.selectAttempt v.idempotencyKey)
  | .read _ attempt, o => (∀ sess v, o ≠ .sql sess (.insertAttempt v)) ∧
    ∀ sess id, o = .sql sess (.updateAttempt id .processing) → id = attempt.id
  | .claimed _ v _, o => ∃ req, o = .refund req ∧ req.idempotencyKey = v.idempotencyKey
  | .answered sess id, o => ∃ change, o = .sql sess (.updateAttempt id change) ∧ change.settles

/-- An attempt is inserted by a call that has nothing else to do with one, and under its own key. -/
theorem Phase.Allows.insert {ph : Phase} {key : Option String} {sess : Session} {v : AttemptValues}
    (h : ph.Allows key (.sql sess (.insertAttempt v))) : ph = .idle ∧ key = some v.idempotencyKey := by
  cases ph with
  | idle => exact ⟨rfl, h.1 sess v rfl⟩
  | taken v' =>
    obtain ⟨sess', heq⟩ := h
    cases heq
  | read v' attempt => exact absurd rfl (h.1 sess v)
  | claimed sess' v' id =>
    obtain ⟨req, heq, -⟩ := h
    cases heq
  | answered sess' id =>
    obtain ⟨change, heq, -⟩ := h
    cases heq

/-- An attempt is put in status PROCESSING again by a call that read it. -/
theorem Phase.Allows.renew {ph : Phase} {key : Option String} {sess : Session} {id : Uuid}
    (h : ph.Allows key (.sql sess (.updateAttempt id .processing))) : ∃ v attempt, ph = .read v attempt ∧ id = attempt.id := by
  cases ph with
  | idle => exact absurd rfl (h.2 sess id)
  | taken v =>
    obtain ⟨sess', heq⟩ := h
    cases heq
  | read v attempt => exact ⟨v, attempt, rfl, h.2 sess id rfl⟩
  | claimed sess' v id' =>
    obtain ⟨req, heq, -⟩ := h
    cases heq
  | answered sess' id' =>
    obtain ⟨change, heq, hsettles⟩ := h
    cases heq
    exact hsettles.elim

/-! ## What the adapter sends -/

/-- The adapter of a mode sends a refund: the processor is configured, the currency has three letters, the amount rounds to a
number of cents that is safe and not zero, the key has 1 to 255 characters, the charge is a PaymentIntent, and in the live smoke
mode the refund is one of 100 cents under a key that says so. -/
structure Sendable (mode : ProcessorMode) (v : AttemptValues) : Prop where
  enabled : mode ≠ .disabled
  currency : validCurrency v.currency = true
  amount : ∃ q, v.amount = .fin q ∧ 0 ≤ q ∧ 0 < cents q ∧ cents q < 2 ^ 53 ∧ (mode = .liveSmoke → cents q = 100)
  key : v.idempotencyKey ≠ "" ∧ utf16Length v.idempotencyKey ≤ 255
  smoke : mode = .liveSmoke → startsWith v.idempotencyKey "live-smoke-refund-" = true
  charge : startsWith v.processorPaymentId "pi_" = true

/-- The cents of an amount, converted as the service converts them. -/
theorem minorUnits_of_lt {n : Nat} (h : n < 2 ^ 53) : double (double (double (n / 100) * 100) + n % 100) = n := by
  rw [double_of_lt (n := n / 100) (by omega), double_of_lt (n := n / 100 * 100) (by omega),
    double_of_lt (n := n / 100 * 100 + n % 100) (by omega)]
  omega

theorem decimalStringToMinorUnits_pure {q : ℚ} {currency : String} (hc : validCurrency currency = true) (hq : 0 ≤ q)
    (hpos : 0 < cents q) (hsafe : cents q < 2 ^ 53) : decimalStringToMinorUnits q currency = pure (cents q) := by
  unfold decimalStringToMinorUnits
  rw [hc, if_neg (by simp), if_neg (not_lt.2 hq)]
  dsimp only
  rw [minorUnits_of_lt hsafe, validateMinorAmount, isSafeInteger, decide_eq_true hsafe, if_neg (by simp; omega)]
  rfl

/-- A refund that the adapter sends. -/
theorem refund_sent {env : Env} {v : AttemptValues} (h : Sendable env.mode v) {q : ℚ} (hq : v.amount = .fin q) (reason : String) :
    decimalStringToMinorUnits q v.currency = pure (cents q) ∧
    refund env ⟨v.processorPaymentId, cents q, reason, v.idempotencyKey⟩ =
      step (.refund ⟨v.processorPaymentId, cents q, normalizeRefundReason reason, v.idempotencyKey⟩) := by
  obtain ⟨q', hq', hnonneg, hpos, hsafe, hsmoke⟩ := h.amount
  obtain rfl : q = q' := by
    rw [hq] at hq'
    exact Decimal.fin.inj hq'
  refine ⟨decimalStringToMinorUnits_pure h.currency hnonneg hpos hsafe, ?_⟩
  have hminor : validateMinorAmount (cents q) = pure () := by
    rw [validateMinorAmount, isSafeInteger, decide_eq_true hsafe, if_neg (by simp; omega)]
  have hkey : validateIdempotencyKey v.idempotencyKey = pure () := if_neg (by
    rintro (hempty | hlong)
    · exact h.key.1 hempty
    · exact absurd h.key.2 (by omega))
  have hvalid : validateRefund env.mode ⟨v.processorPaymentId, cents q, reason, v.idempotencyKey⟩ = pure () := by
    unfold validateRefund
    by_cases hmode : env.mode = .liveSmoke
    · rw [if_neg (not_not.2 hmode), if_neg (not_not.2 (hsmoke hmode)), h.smoke hmode]
      rfl
    · exact if_pos hmode
  unfold refund
  rw [if_neg h.enabled]
  dsimp only
  rw [hminor, Prog.pure_bind_eq, hkey, Prog.pure_bind_eq, hvalid, Prog.pure_bind_eq, h.charge]
  rfl

/-! ## Programs that keep to the phases -/

/-- What holds of the phase in which a call ends: it asked for the refund it claimed an attempt for, where the adapter sends it, and it
wrote down what the processor answered. -/
def Phase.Ended (mode : ProcessorMode) : Phase → Prop
  | .claimed _ v _ => ¬ Sendable mode v
  | .answered _ _ => False
  | _ => True

/-- The contract of the phases. -/
abbrev inPhases (key : Option String) : Contract (List (Prog.Answered signature)) :=
  Prog.guarded (fun past o => (phase past).Allows key o)

/-- A program that keeps to the phases, after the calls made before. -/
def Disciplined {α : Type} (key : Option String) (mode : ProcessorMode) (p : Program α) (past : List (Prog.Answered signature)) : Prop :=
  p.wp Prog.Logs (inPhases key) (fun _ past => (phase past).Ended mode) past

/-- A phase in which nothing has to come next. -/
def Phase.Rested : Phase → Prop
  | .idle => True
  | .read _ _ => True
  | _ => False

theorem Phase.Rested.ended {mode : ProcessorMode} {ph : Phase} (h : ph.Rested) : ph.Ended mode := by
  cases ph with
  | idle => exact trivial
  | read v attempt => exact trivial
  | _ => exact h.elim

/-- A call that neither inserts an attempt nor puts one in status PROCESSING. -/
def Action.Quiet : Action → Prop
  | .sql _ (.insertAttempt _) => False
  | .sql _ (.updateAttempt _ .processing) => False
  | _ => True

theorem Phase.Rested.allows {ph : Phase} (h : ph.Rested) {o : Action} (ho : o.Quiet) (key : Option String) : ph.Allows key o := by
  cases ph with
  | idle =>
    refine ⟨?_, ?_⟩
    · rintro sess v rfl
      exact ho.elim
    · rintro sess id rfl
      exact ho
  | read v attempt =>
    refine ⟨?_, ?_⟩
    · rintro sess v rfl
      exact ho
    · rintro sess id rfl
      exact ho.elim
  | _ => exact h.elim

theorem Phase.Rested.next {ph : Phase} (h : ph.Rested) {o : Action} (ho : o.Quiet) (r : Except PaymentError o.Result) :
    ph.next ⟨o, r⟩ = .idle := by
  unfold Phase.next
  split
  · rename_i heq
    cases heq
    exact ho.elim
  · rename_i heq
    cases heq
    exact ho.elim
  · exact h.elim
  · rename_i heq
    cases heq
    exact ho.elim
  · exact h.elim
  · rfl

section

variable {α β : Type} {key : Option String} {mode : ProcessorMode} {past : List (Prog.Answered signature)}

/-- One quiet call where nothing has to come next. -/
theorem quiet_step {o : Action} (ho : o.Quiet) (hpast : (phase past).Rested)
    {Q : Except PaymentError o.Result → List (Prog.Answered signature) → Prop}
    (hQ : ∀ r past', phase past' = .idle → Q r past') : (step o).wp Prog.Logs (inPhases key) Q past := by
  refine Prog.guarded_perform (S := signature) (hpast.allows ho key) (fun r => hQ r _ ?_)
  rw [phase_append]
  exact hpast.next ho r

/-- A program of quiet calls leaves the phase as it is or makes it idle. -/
theorem quiet_wp {p : Program α} (hp : p.Calls Action.Quiet) (hpast : (phase past).Rested) :
    p.wp Prog.Logs (inPhases key) (fun _ past' => past' = past ∨ phase past' = .idle) past := by
  induction p generalizing past with
  | pure a => exact Or.inl rfl
  | throw e => exact Or.inl rfl
  | call o k ih =>
    rintro _ rfl - r _ rfl
    have hidle : phase (past ++ [⟨o, r⟩]) = .idle := by
      rw [phase_append]
      exact hpast.next hp.1 r
    refine ⟨trivial, Prog.guarded_call (hpast.allows hp.1 key) r, ?_⟩
    refine Prog.wp_mono (fun _ past' h => ?_) _ (ih r (hp.2 r) (by rw [hidle]; trivial))
    rcases h with rfl | h
    · exact Or.inr hidle
    · exact Or.inr h

/-! ## The quiet parts of the service -/

theorem quiet_openSession (sess : Session) : (openSession sess).Calls Action.Quiet :=
  Prog.calls_ite (Prog.calls_throw _) (Prog.calls_perform trivial)

theorem quiet_decimalStringToMinorUnits (amount : ℚ) (currency : String) :
    (decimalStringToMinorUnits amount currency).Calls Action.Quiet := by
  rcases decimalStringToMinorUnits_eq amount currency with ⟨e, he⟩ | ⟨n, hn⟩
  · rw [he]
    exact Prog.calls_throw e
  · rw [hn]
    exact Prog.calls_pure n

theorem quiet_refundAtProcessor (env : Env) (sess : Session) (req : RefundRequest) (payment : PaymentRow) (chargeId : String)
    (refundAmount : ℚ) (attempt : AttemptRow) :
    (refundAtProcessor env sess req payment chargeId refundAmount attempt).Calls Action.Quiet := by
  refine Prog.calls_ite (Prog.calls_pure _) ?_
  refine Prog.calls_bind (quiet_decimalStringToMinorUnits _ _) (fun n => ?_)
  refine Prog.calls_bind ?_ (fun answer => ?_)
  · rcases refund_eq env ⟨chargeId, n, req.reason, req.idempotencyKey⟩ with ⟨e, he⟩ | ⟨-, he⟩
    · rw [he]
      exact Prog.calls_throw e
    · rw [he]
      exact Prog.calls_perform trivial
  · refine Prog.calls_ite ?_ ?_
    · exact Prog.calls_bind (Prog.calls_perform trivial) (fun _ => Prog.calls_throw _)
    · exact Prog.calls_bind (Prog.calls_perform trivial) (fun _ => Prog.calls_pure _)

theorem quiet_reverseInLedger (sess : Session) (req : RefundRequest) (payment : PaymentRow) (ledgerTransactionId : Uuid)
    (attempt : AttemptRow) : (reverseInLedger sess req payment ledgerTransactionId attempt).Calls Action.Quiet :=
  Prog.calls_tryCatch (Prog.calls_perform trivial)
    (fun _ => Prog.calls_bind (Prog.calls_perform trivial) (fun _ => Prog.calls_throw _))

theorem quiet_recordRefund (env : Env) (sess : Session) (req : RefundRequest) (payment : PaymentRow) (refundAmount : ℚ)
    (alreadyRefunded : Decimal) (attempt : AttemptRow) (processorRefundId : Option String) (reversal : Transaction) :
    (recordRefund env sess req payment refundAmount alreadyRefunded attempt processorRefundId reversal).Calls Action.Quiet := by
  refine Prog.calls_bind (Prog.calls_perform trivial) (fun _ => ?_)
  refine Prog.calls_bind (Prog.calls_perform trivial) (fun _ => ?_)
  refine Prog.calls_bind (Prog.calls_perform trivial) (fun _ => ?_)
  refine Prog.calls_bind (Prog.calls_perform trivial) (fun row => ?_)
  cases row with
  | none => exact Prog.calls_throw _
  | some row => exact Prog.calls_pure row

theorem quiet_createPayment (env : Env) (req : CreatePaymentRequest) : (createPayment env req).Calls Action.Quiet := by
  refine Prog.Calls.mono (fun o ho => ?_) createPayment_calls
  cases ho <;> exact trivial

/-! ## A refund keeps to the phases -/

/-- Where a refund stands after it claimed its key: the attempt is in status PROCESSING by it, or nothing has to come next. -/
theorem claimAttempt_disciplined (mode : ProcessorMode) {sess : Session} {v : AttemptValues} (hkey : key = some v.idempotencyKey) (hpast : phase past = .idle) :
    (claimAttempt sess v).wp Prog.Logs (inPhases key) (fun r past => match r with
      | .ok (.attempt a) => phase past = .claimed sess v a.id ∧ a.status = .processing ∨ (phase past).Rested
      | _ => (phase past).Ended mode) past := by
  have hidle : (phase past).Rested := by
    rw [hpast]
    trivial
  refine (Prog.wp_bind _ _ _).2 (Prog.guarded_perform (S := signature) ?_ (fun r => ?_))
  · rw [hpast]
    refine ⟨?_, nofun⟩
    rintro sess' v' heq
    cases heq
    exact hkey
  have hafter := phase_append past ⟨.sql sess (.insertAttempt v), r⟩
  rw [hpast] at hafter
  rcases r with e | _ | row
  · rw [hafter]
    exact trivial
  · -- the key is taken: the attempt that has it is read
    replace hafter : phase _ = .taken v := hafter
    refine (Prog.wp_bind _ _ _).2 (Prog.guarded_perform (S := signature) ?_ (fun r => ?_))
    · rw [hafter]
      exact ⟨sess, rfl⟩
    have hread := phase_append (past ++ [⟨.sql sess (.insertAttempt v), .ok none⟩]) ⟨.sql sess (.selectAttempt v.idempotencyKey), r⟩
    rw [hafter] at hread
    rcases r with e | _ | attempt
    · rw [hread]
      exact trivial
    · dsimp only
      change (phase _).Ended mode
      rw [hread]
      exact trivial
    · replace hread : phase _ = .read v attempt := hread
      dsimp only
      split
      · change (phase _).Ended mode
        rw [hread]
        exact trivial
      · refine (Prog.wp_bind _ _ _).2 (quiet_step (o := .sql sess (.selectRefund v.idempotencyKey)) trivial (by rw [hread]; trivial) ?_)
        intro r past' hpast'
        rcases r with e | _ | row
        · rw [hpast']
          exact trivial
        · exact Or.inr (by rw [hpast']; trivial)
        · change (phase past').Ended mode
          rw [hpast']
          exact trivial
      · refine (Prog.wp_bind _ _ _).2 (Prog.guarded_perform (S := signature) ?_ (fun r => ?_))
        · rw [hread]
          refine ⟨nofun, ?_⟩
          rintro sess' id heq
          cases heq
          rfl
        have hclaimed := phase_append (past ++ [⟨.sql sess (.insertAttempt v), .ok none⟩] ++
          [⟨.sql sess (.selectAttempt v.idempotencyKey), .ok (some attempt)⟩]) ⟨.sql sess (.updateAttempt attempt.id .processing), r⟩
        rw [hread] at hclaimed
        rcases r with e | u
        · rw [hclaimed]
          exact trivial
        · exact Or.inl ⟨hclaimed, rfl⟩
      · exact Or.inr (by rw [hread]; trivial)
  · by_cases hstatus : row.status = .processing
    · refine Or.inl ⟨hafter.trans ?_, hstatus⟩
      exact if_pos hstatus
    · refine Or.inr ?_
      rw [hafter.trans (if_neg hstatus)]
      trivial

/-- The processor's part of a refund that claimed its attempt: the processor is asked, and what it answered is written down. -/
theorem refundAtProcessor_disciplined (key : Option String) (env : Env) (req : RefundRequest) (payment : PaymentRow) {sess : Session}
    {v : AttemptValues} {q : ℚ} {attempt : AttemptRow} (hpast : phase past = .claimed sess v attempt.id) (hstatus : attempt.status = .processing)
    (hq : v.amount = .fin q) (hcurrency : v.currency = payment.currency) (hkey : v.idempotencyKey = req.idempotencyKey) :
    (refundAtProcessor env sess req payment v.processorPaymentId q attempt).wp Prog.Logs (inPhases key) (fun r past => match r with
      | .ok _ => phase past = .idle
      | .error _ => (phase past).Ended env.mode) past := by
  unfold refundAtProcessor
  rw [if_neg (by rw [hstatus]; exact nofun), ← hcurrency, ← hkey]
  rcases decimalStringToMinorUnits_eq q v.currency with ⟨e, he⟩ | ⟨n, hn⟩
  · rw [he]
    change (phase past).Ended env.mode
    rw [hpast]
    intro hs
    have := (refund_sent hs hq req.reason).1
    rw [he] at this
    cases this
  rw [hn, Prog.pure_bind_eq]
  rcases refund_eq env ⟨v.processorPaymentId, n, req.reason, v.idempotencyKey⟩ with ⟨e, he⟩ | ⟨-, he⟩
  · rw [he]
    change (phase past).Ended env.mode
    rw [hpast]
    intro hs
    obtain ⟨hcents, hsent⟩ := refund_sent hs hq req.reason
    rw [hn] at hcents
    obtain rfl : n = cents q := by
      cases hcents
      rfl
    rw [he] at hsent
    cases hsent
  rw [he]
  refine (Prog.wp_bind _ _ _).2 (Prog.guarded_perform (S := signature) ?_ (fun r => ?_))
  · rw [hpast]
    exact ⟨_, rfl, rfl⟩
  have hafter := phase_append past ⟨.refund ⟨v.processorPaymentId, n, normalizeRefundReason req.reason, v.idempotencyKey⟩, r⟩
  rw [hpast] at hafter
  rcases r with e | ⟨id, status⟩
  · rw [hafter]
    exact trivial
  replace hafter : phase _ = .answered sess attempt.id := hafter
  -- either way the answer is written down
  have hsettle (change : AttemptChange) (hc : change.settles) {β : Type} (f : Unit → Program β)
      {Q : Except PaymentError β → List (Prog.Answered signature) → Prop}
      (hQ : ∀ past', phase past' = .idle → (∀ e, Q (.error e) past') ∧ (f ()).wp Prog.Logs (inPhases key) Q past') :
      (query sess (.updateAttempt attempt.id change) >>= f).wp Prog.Logs (inPhases key) Q
        (past ++ [⟨.refund ⟨v.processorPaymentId, n, normalizeRefundReason req.reason, v.idempotencyKey⟩, .ok (id, status)⟩]) := by
    refine (Prog.wp_bind _ _ _).2 (Prog.guarded_perform (S := signature) ?_ (fun r => ?_))
    · rw [hafter]
      exact ⟨change, rfl, hc⟩
    have hidle := phase_append (past ++ [⟨.refund ⟨v.processorPaymentId, n, normalizeRefundReason req.reason, v.idempotencyKey⟩,
      .ok (id, status)⟩]) ⟨.sql sess (.updateAttempt attempt.id change), r⟩
    rw [hafter] at hidle
    have hnext : (Phase.answered sess attempt.id).next ⟨.sql sess (.updateAttempt attempt.id change), r⟩ = .idle := by
      cases change with
      | processing => exact hc.elim
      | _ => rfl
    rw [hnext] at hidle
    cases r with
    | error e => exact (hQ _ hidle).1 e
    | ok u => exact (hQ _ hidle).2
  dsimp only
  split
  · refine hsettle (.failed (truthy (some id))) trivial _ (fun past' hidle => ⟨fun e => ?_, ?_⟩)
    · rw [hidle]
      exact trivial
    · change (phase past').Ended env.mode
      rw [hidle]
      exact trivial
  · refine hsettle (.processorSucceeded (truthy (some id))) trivial _ (fun past' hidle => ⟨fun e => ?_, hidle⟩)
    rw [hidle]
    exact trivial

theorem quiet_disciplined {p : Program α} (hp : p.Calls Action.Quiet) (hpast : (phase past).Rested) :
    Disciplined key mode p past := by
  refine Prog.wp_mono (fun r past' h => ?_) p (quiet_wp hp hpast)
  rcases h with rfl | h
  · exact hpast.ended
  · rw [h]
    trivial

/-- Quiet calls, and what comes after them. -/
theorem quiet_bind {p : Program α} (hp : p.Calls Action.Quiet) {f : α → Program β} (hpast : phase past = .idle)
    (hf : ∀ a past', phase past' = .idle → Disciplined key mode (f a) past') : Disciplined key mode (p >>= f) past := by
  have hidle : (phase past).Rested := by
    rw [hpast]
    trivial
  refine Prog.wp_seq (quiet_wp hp hidle) (fun a past' h => hf a past' ?_) (fun e past' h => ?_)
  · rcases h with rfl | h
    · exact hpast
    · exact h
  · rcases h with rfl | h
    · exact hidle.ended
    · rw [h]
      trivial

/-- `refundPayment` on a payment in order keeps to the phases. -/
theorem refundPosted_disciplined (env : Env) (sess : Session) (req : RefundRequest) (payment : PaymentRow) (chargeId : String)
    (ledgerTransactionId : Uuid) (hpast : phase past = .idle) :
    Disciplined (some req.idempotencyKey) env.mode (refundPosted env sess req payment chargeId ledgerTransactionId) past := by
  refine quiet_bind (Prog.calls_perform (S := signature) (o := .sql sess (.sumRefunds payment.id)) trivial) hpast
    (fun total past₁ h₁ => ?_)
  dsimp only
  split
  · exact quiet_disciplined (Prog.calls_throw _) (by rw [h₁]; trivial)
  let v : AttemptValues := ⟨env.uuid, payment.id, payment.organizationId, req.idempotencyKey, chargeId,
    .fin (req.refundAmount payment), payment.currency, req.reason⟩
  refine Prog.wp_seq (claimAttempt_disciplined env.mode (v := v) rfl h₁) (fun claim past₂ h₂ => ?_) (fun e past₂ h₂ => h₂)
  cases claim with
  | done row => exact h₂
  | attempt attempt =>
    have hrest (id : Option String) : (do
        let reversal ← reverseInLedger sess req payment ledgerTransactionId attempt
        recordRefund env sess req payment (req.refundAmount payment) (.ofNumeric total) attempt id reversal :
          Program RefundRow).Calls Action.Quiet :=
      Prog.calls_bind (quiet_reverseInLedger _ _ _ _ _) (fun reversal => quiet_recordRefund _ _ _ _ _ _ _ _ _)
    rcases h₂ with ⟨hclaimed, hstatus⟩ | hrested
    · have hprocessor := refundAtProcessor_disciplined (some req.idempotencyKey) env req payment (v := v)
        (q := req.refundAmount payment) hclaimed hstatus rfl rfl rfl
      refine Prog.wp_seq hprocessor (fun id past₃ h₃ => ?_) (fun e past₃ h₃ => h₃)
      exact quiet_disciplined (hrest id) (by rw [show phase past₃ = .idle from h₃]; trivial)
    · exact quiet_disciplined (Prog.calls_bind (quiet_refundAtProcessor _ _ _ _ _ _ _) hrest) hrested

/-- `refundPayment` keeps to the phases. -/
theorem refundPayment_disciplined (env : Env) (req : RefundRequest) (hpast : phase past = .idle) :
    Disciplined (some req.idempotencyKey) env.mode (refundPayment env req) past := by
  have hthrow {past : List (Prog.Answered signature)} (h : phase past = .idle) (e : PaymentError) :
      Disciplined (some req.idempotencyKey) env.mode (Prog.throw e : Program RefundRow) past :=
    quiet_disciplined (Prog.calls_throw _) (by rw [h]; trivial)
  unfold refundPayment
  split
  · exact hthrow hpast _
  refine quiet_bind (quiet_openSession _) hpast (fun _ past₁ h₁ => ?_)
  refine quiet_bind (Prog.calls_perform (S := signature) (o := .sql _ (.selectRefund req.idempotencyKey)) trivial) h₁
    (fun row past₂ h₂ => ?_)
  cases row with
  | some row => exact quiet_disciplined (Prog.calls_pure row) (by rw [h₂]; trivial)
  | none =>
    refine quiet_bind (Prog.calls_perform (S := signature) (o := .sql _ (.selectPayment req.paymentId)) trivial) h₂
      (fun row past₃ h₃ => ?_)
    cases row with
    | none => exact hthrow h₃ _
    | some payment =>
      dsimp only
      split
      · exact hthrow h₃ _
      split
      · exact hthrow h₃ _
      · exact hthrow h₃ _
      · exact refundPosted_disciplined env _ req payment _ _ h₃

end

end Payments

end Archisynapse
