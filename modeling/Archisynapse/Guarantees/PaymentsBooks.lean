import Archisynapse.Lemmas.PaymentsBooks
import Archisynapse.Guarantees.PaymentsPosting

/-!
# The records of payments and refunds

What the processor was asked for and what was written down. A refund's row, its attempt and its refund at the processor agree when
every refund that claims a key that has an attempt asks for the same payment and the same whole cents (`refund_records_agree`); a
charge and a refund are 100 times the amount that is booked exactly when that is in whole cents (`charged_equals_booked`).
-/

namespace Archisynapse

namespace Payments

/-- The attempt, the row in `refunds` and the refund at the processor that have one key agree: on the amount, and on the payment, whose
charge was refunded. -/
def World.RefundsAgree (s : World) : Prop :=
  ∀ a ∈ s.db.attempts, ∀ row ∈ s.db.refunds, ∀ r ∈ s.processor.refunds, row.idempotencyKey = a.idempotencyKey →
    r.request.idempotencyKey = a.idempotencyKey → row.amount = a.amount ∧ 100 * (r.request.amountMinor : Int) = a.amount ∧
      row.paymentId = a.paymentId ∧ s.chargedFor row.paymentId r.request.processorTransactionId = true

/-- Runs in which a refund that claims a key that has an attempt asks for the attempt's payment and amount, and amounts are in whole
cents. -/
def booked : machine.Cond where
  start _ _ := True
  step w o s := repeats.step w o s ∧
    match o with
    | .sql _ (.insertAttempt v) => ∃ q, v.amount = .fin q ∧ WholeCents q
    | _ => True

/-- The cents of a stored amount are all of it exactly when it is in whole cents. -/
theorem cents_numeric {n : Int} (hn : 0 < n) : 100 * (cents (n / 10000) : Int) = n ↔ (100 : Int) ∣ n := by
  constructor
  · intro h
    exact ⟨_, h.symm⟩
  · rintro ⟨m, rfl⟩
    have hq : ((100 * m : Int) : ℚ) / 10000 * 100 = (m : Int) := by
      push_cast
      ring
    unfold cents
    rw [hq, roundHalfUp_intCast, Int.toNat_of_nonneg (by omega)]

section

variable {s : World}

/-- Two things that are said of a key are said by one attempt. -/
theorem Agree.attempt_eq (h : Agree s) {a : AttemptRow} (ha : a ∈ s.db.attempts) {paymentId : Uuid} {amount : Int}
    (hbooked : s.BookedFor a.idempotencyKey paymentId amount) : a.paymentId = paymentId ∧ a.amount = amount := by
  obtain ⟨b, hb, hkey, hpayment, hamount⟩ := hbooked
  obtain rfl := List.inj_on_of_nodup_map h.attemptKeys hb ha hkey
  exact ⟨hpayment, hamount⟩

/-- In a run under the condition, the records agree with the attempts. -/
theorem booked_agree {cfg : machine.Config} (hrun : machine.Run booked (.init machine .empty) cfg) : Agree cfg.state := by
  refine agree_run (hrun.mono ?_ ?_)
  · exact fun _ _ h => h
  · exact fun _ _ _ h => h.1

/-- In a run under the condition, attempts are in whole cents. -/
theorem whole_run {cfg : machine.Config} (hrun : machine.Run booked (.init machine .empty) cfg) :
    ∀ a ∈ cfg.state.db.attempts, (100 : Int) ∣ a.amount := by
  refine Machine.Run.keeps_calls (A := fun _ => True) (J := fun s : World => ∀ a ∈ s.db.attempts, (100 : Int) ∣ a.amount)
    (fun c => Prog.calls_true _) ?_ (fun _ _ h => h) (fun a ha => absurd ha List.not_mem_nil) hrun
  intro w o ch s r t _ hcond hs he
  refine (exec_attempts he).forall ?_ (fun a b hsame ha => by rw [hsame.amount]; exact ha) hs
  rintro sess v row rfl hrow
  obtain ⟨q, hq, n, hn⟩ := hcond.2
  have hamount := numeric_of_positive (attemptRow_refund hrow).2
  have hnumeric : v.amount = .ofNumeric (100 * (n : Int)) := by
    rw [hq, hn, Decimal.ofNumeric]
    congr 1
    push_cast
    ring
  rw [hnumeric] at hamount
  exact ⟨n, (numeric_ofNumeric hamount).1⟩

end

/-- In every run whose steps all meet the condition, the records of each refund agree. -/
theorem refund_records_agree (cfg : machine.Config) (hrun : machine.Run booked (.init machine .empty) cfg) :
    cfg.state.RefundsAgree := by
  have hagree := booked_agree hrun
  intro a ha row hrow r hr hrowkey hrkey
  have hrefund := hagree.refund row hrow
  obtain ⟨paymentId, amount, hbooked, hminor, hcharged⟩ := hagree.refunded r hr
  rw [hrowkey] at hrefund
  rw [hrkey] at hbooked
  obtain ⟨hpayment, hamount⟩ := hagree.attempt_eq ha hrefund
  obtain ⟨hpayment', hamount'⟩ := hagree.attempt_eq ha hbooked
  refine ⟨hamount.symm, ?_, hpayment.symm, ?_⟩
  · rw [hminor, ← hamount']
    exact (cents_numeric (hagree.attempt a ha).2).2 (whole_run hrun a ha)
  · rw [← hpayment, hpayment']
    exact hcharged

/-! Runs of two refunds with one key: the ledger fails in the first one. -/

/-- A condition on attempts, computed: they are in whole cents, and one that has the key of an attempt is for its payment and amount. -/
def bookedCheck (s : World) : Program Reply → Bool
  | .call (.sql sess (.insertAttempt v)) _ =>
    match v.amount with
    | .fin q => decide ((cents q : ℚ) = 100 * q) && s.db.attempts.all (fun a =>
        decide (a.paymentId = v.paymentId ∧ q = a.amount / 10000) || !sess.sees a.organizationId)
    | _ => false
  | _ => true

theorem bookedCheck_allows (cfg : machine.Config) (e : machine.Event)
    (h : (match e with
      | .call _ _ => cfg.live.all (fun x => bookedCheck cfg.state x.rest)
      | _ => true) = true) : booked.Allows cfg e := by
  cases e with
  | start c => exact trivial
  | crash w => exact trivial
  | call w ch =>
    intro x hx _ o k hk
    have hcheck := List.all_eq_true.1 h x hx
    rw [hk] at hcheck
    cases o with
    | sql sess st =>
      cases st with
      | insertAttempt v =>
        simp only [bookedCheck] at hcheck
        split at hcheck
        · rename_i q hq
          rw [Bool.and_eq_true, decide_eq_true_eq, List.all_eq_true] at hcheck
          obtain ⟨hcents, hsame⟩ := hcheck
          have hwhole : q = (cents q : ℚ) / 100 := by
            rw [hcents]
            ring
          refine ⟨⟨⟨100 * (cents q : Int), ?_⟩, fun a ha _ hsees => ?_⟩, q, hq, cents q, hwhole⟩
          · rw [hq, Decimal.ofNumeric]
            congr 1
            push_cast
            linarith
          · have hboth := hsame a ha
            rw [hsees, Bool.not_true, Bool.or_false, decide_eq_true_eq] at hboth
            exact ⟨hboth.1, by rw [hq, Decimal.ofNumeric, hboth.2]⟩
        · cases hcheck
      | _ => exact ⟨trivial, trivial⟩
    | _ => exact ⟨trivial, trivial⟩

/-- The payment is made; 40.00 of it are refunded at the processor, and the call to the ledger fails; then a refund of another amount is
asked for with the same key. -/
def retriedEvents (amount : ℚ) : List machine.Event :=
  [.start saleCall] ++ stepsWell 0 13 "pi_1" ++ [.start (saleRefund 2 (some 40) "refund-1")] ++ stepsWell 1 7 "re_1" ++
    [goesWell 1 0 "" .before, goesWell 1 0 "" .none, .start (saleRefund 3 (some amount) "refund-1")] ++ stepsWell 2 11 "re_2"

/-- The amounts of the three records of the refund, when there is one of each. -/
def refundAmounts (s : World) : Option (Int × Int × Nat) :=
  match s.db.attempts, s.db.refunds, s.processor.refunds with
  | [a], [row], [r] =>
    if row.idempotencyKey = a.idempotencyKey ∧ r.request.idempotencyKey = a.idempotencyKey ∧ r.status = .succeeded then
      some (a.amount, row.amount, r.request.amountMinor)
    else none
  | _, _, _ => none

/-- The theorem at a run whose second call asks for the same refund: all three records say 40.00. -/
theorem refund_records_agree_retried : ∃ cfg, machine.Run booked (.init machine .empty) cfg ∧
    refundAmounts cfg.state = some (400000, 400000, 4000) ∧ cfg.state.RefundsAgree := by
  obtain ⟨cfg, hrun, htest⟩ := Machine.Config.replay_any bookedCheck_allows (retriedEvents 40) (.init machine .empty)
    (fun cfg => decide (refundAmounts cfg.state = some (400000, 400000, 4000))) (by decide +kernel)
  exact ⟨cfg, hrun, of_decide_eq_true htest, refund_records_agree cfg hrun⟩

/-- Without the condition a refund of 60.00 is written down for one of 40.00 at the processor. -/
theorem refund_records_differ : ¬ ∀ cfg, machine.Run (.any machine) (.init machine .empty) cfg → cfg.state.RefundsAgree := by
  intro h
  obtain ⟨cfg, hrun, htest⟩ := Machine.Config.replay_any (fun cfg e _ => Machine.Cond.allows_any cfg e)
    (retriedEvents 60) (.init machine .empty) (fun cfg => decide (refundAmounts cfg.state = some (400000, 600000, 4000)))
    (show ((Machine.Config.init machine .empty).replay (fun _ _ => true) (retriedEvents 60)).any _ = true by decide +kernel)
  have hamounts := of_decide_eq_true htest
  unfold refundAmounts at hamounts
  split at hamounts
  · rename_i a row r ha hrow hr
    split at hamounts
    · rename_i hkeys
      have hagree := h cfg hrun a (by rw [ha]; exact List.mem_singleton_self a) row (by rw [hrow]; exact List.mem_singleton_self row)
        r (by rw [hr]; exact List.mem_singleton_self r) hkeys.1 hkeys.2.1
      simp only [Option.some.injEq, Prod.mk.injEq] at hamounts
      omega
    · cases hamounts
  · cases hamounts

/-! ## Charged and booked -/

/-- A call asks for a charge with a property, if for any. -/
def Action.Charges (P : ChargeRequest → Prop) : Action → Prop
  | .charge c => P c
  | _ => True

/-- The cents of an amount are 100 times the amount exactly when it is in whole cents. -/
theorem cents_eq_iff {q : ℚ} (hq : 0 ≤ q) : (cents q : ℚ) = 100 * q ↔ WholeCents q := by
  constructor
  · intro h
    exact ⟨cents q, by rw [h]; ring⟩
  · rintro ⟨n, rfl⟩
    have hcents : (n / 100 : ℚ) * 100 = ((n : Int) : ℚ) := by
      push_cast
      ring
    unfold cents
    rw [hcents, roundHalfUp_intCast, Int.toNat_natCast]
    ring

/-- Whatever its calls are answered, `createPayment` charges 100 times the gross amount it posts if and only if the amount is in whole
cents; and in every run in which a refund that claims a key that has an attempt asks for the attempt's payment and amount, the
processor was asked to refund 100 times the amount in the refunds row if and only if that is in whole cents. -/
theorem charged_equals_booked (env : Env) {req : CreatePaymentRequest} (hreq : req.Admitted) {cfg : machine.Config}
    (hrun : machine.Run repeats (.init machine .empty) cfg) :
    (createPayment env req).Calls (fun o : Action =>
      o.Charges (fun c => (c.amountMinor : ℚ) = 100 * req.amount ↔ WholeCents req.amount) ∧
      o.Posts (fun q => q.amount = .fin req.amount ∧ ∀ e ∈ q.entries, e.debitCredit = .debit → e.amount = .fin req.amount)) ∧
    ∀ row ∈ cfg.state.db.refunds, ∀ r ∈ cfg.state.processor.refunds, r.request.idempotencyKey = row.idempotencyKey →
      (100 * (r.request.amountMinor : Int) = row.amount ↔ (100 : Int) ∣ row.amount) := by
  constructor
  · refine Prog.Calls.mono (fun o ho => ?_) createPayment_calls
    cases ho with
    | charge n hn =>
      obtain ⟨k, hk⟩ := hreq.amount
      refine ⟨?_, trivial⟩
      change ((n : ℚ) = 100 * req.amount ↔ _)
      rw [cents_of_minorUnits hn]
      exact cents_eq_iff (by rw [hk]; positivity)
    | post accounts hvalid =>
      refine ⟨trivial, rfl, fun e he hdebit => ?_⟩
      change e ∈ [_, _] ++ _ at he
      rcases List.mem_append.1 he with he | he
      · rcases List.mem_cons.1 he with rfl | he
        · rfl
        · rw [List.mem_singleton.1 he] at hdebit
          cases hdebit
      · split at he
        · rw [List.mem_singleton.1 he] at hdebit
          cases hdebit
        · exact absurd he List.not_mem_nil
    | _ => exact ⟨trivial, trivial⟩
  · intro row hrow r hr hkey
    have hagree := agree_run hrun
    obtain ⟨a, ha, hakey, -, hamount⟩ := hagree.refund row hrow
    obtain ⟨paymentId, amount, hbooked, hminor, -⟩ := hagree.refunded r hr
    rw [hkey, ← hakey] at hbooked
    obtain ⟨-, hamount'⟩ := hagree.attempt_eq ha hbooked
    rw [hminor, ← hamount', ← hamount]
    exact cents_numeric (hagree.attempt a ha).2

/-- The theorem at a payment of 100.00, and at a run that refunds 40.00 of it in two calls: both are charged and refunded as booked. -/
theorem charged_equals_booked_sale :
    (createPayment (saleEnv 1) (feeRequest 3)).Calls (fun o : Action => o.Charges (fun c => (c.amountMinor : ℚ) = 100 * 100)) ∧
    ∃ cfg, machine.Run repeats (.init machine .empty) cfg ∧ ∃ row ∈ cfg.state.db.refunds, ∃ r ∈ cfg.state.processor.refunds,
      100 * (r.request.amountMinor : Int) = row.amount := by
  have hadmitted : (feeRequest 3).Admitted := feeRequest_admitted (k := 30000) (by norm_num)
  constructor
  · refine (charged_equals_booked (saleEnv 1) hadmitted .refl).1.mono (fun o ho => ?_)
    cases o with
    | charge c => exact ho.1.2 ⟨10000, by norm_num [feeRequest, saleRequest]⟩
    | _ => exact trivial
  · obtain ⟨cfg, hrun, htest⟩ := Machine.Config.replay_any bookedCheck_allows (retriedEvents 40) (.init machine .empty)
      (fun cfg => cfg.state.db.refunds.any (fun row => cfg.state.processor.refunds.any (fun r =>
        decide (r.request.idempotencyKey = row.idempotencyKey ∧ (100 : Int) ∣ row.amount)))) (by decide +kernel)
    obtain ⟨row, hrow, htest⟩ := List.any_eq_true.1 htest
    obtain ⟨r, hr, htest⟩ := List.any_eq_true.1 htest
    obtain ⟨hkey, hwhole⟩ := of_decide_eq_true htest
    have hrepeats : machine.Run repeats (.init machine .empty) cfg := by
      refine hrun.mono ?_ ?_
      · exact fun _ _ h => h
      · exact fun _ _ _ h => h.1
    exact ⟨cfg, hrepeats, row, hrow, r, hr, ((charged_equals_booked (saleEnv 1) hadmitted hrepeats).2 row hrow r hr hkey).2 hwhole⟩

/-- A payment of 10.005. -/
def halfCentRequest : CreatePaymentRequest := { saleRequest with amount := 2001 / 200 }

theorem halfCentRequest_admitted : halfCentRequest.Admitted := by
  have hfee : (feeRequest 0).Admitted := feeRequest_admitted (show (0 : ℚ) = (0 : Nat) / 10000 by norm_num)
  exact {
    organizationId := hfee.organizationId
    amount := ⟨100050, by norm_num [halfCentRequest]⟩
    feeAmount := ⟨0, by norm_num [halfCentRequest, saleRequest]⟩
    currency := hfee.currency
    token := hfee.token
    idempotencyKey := hfee.idempotencyKey }

/-- The only charge went through, and the only payment, of 10.005, is posted. -/
def chargedOnce (s : World) : Bool :=
  match s.processor.charges, s.db.payments, s.ledger.transactions with
  | [c], [p], [t] => decide (c.status = .succeeded ∧ p.idempotencyKey = c.request.idempotencyKey ∧
      p.ledgerTransactionId = some t.id ∧ t.amount = some 100050 ∧ c.request.amountMinor = 1001)
  | _, _, _ => false

/-- Where every call goes well, a payment of 10.005 is charged with 1001 cents and posted with 10.0050. -/
theorem charge_rounded_up : ¬ ∀ (env : Env) (req : CreatePaymentRequest) (ch : Nat → Choice) (r : Except PaymentError PaymentRow) (s : World),
    req.Admitted → alone (createPayment env req) ch .empty = some (r, s) →
    ∀ c ∈ s.processor.charges, c.status = .succeeded → ∀ p ∈ s.db.payments, p.idempotencyKey = c.request.idempotencyKey →
      ∀ t ∈ s.ledger.transactions, p.ledgerTransactionId = some t.id → t.amount = some (100 * (c.request.amountMinor : Int)) := by
  intro h
  obtain ⟨⟨r, s⟩, halone, htest⟩ := (Option.any_eq_true _ _).1
    (show (alone (createPayment (saleEnv 1) halfCentRequest) healthyChoices .empty).any (fun outcome =>
      chargedOnce outcome.2) = true by decide +kernel)
  unfold chargedOnce at htest
  split at htest
  · rename_i c p t hc hp ht
    obtain ⟨hst, hkey, hposted, hamount, hminor⟩ := of_decide_eq_true htest
    have hbooked := h _ _ _ r s halfCentRequest_admitted halone c (by rw [hc]; exact List.mem_singleton_self c) hst
      p (by rw [hp]; exact List.mem_singleton_self p) hkey t (by rw [ht]; exact List.mem_singleton_self t) hposted
    rw [hamount, hminor] at hbooked
    cases hbooked
  · cases htest

end Payments

end Archisynapse
