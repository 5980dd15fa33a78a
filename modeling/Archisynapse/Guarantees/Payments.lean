import Archisynapse.Lemmas.PaymentsFailed
import Archisynapse.Lemmas.PaymentsRefundEffect

/-!
# Payments and refunds

What the processor has refunded of a payment stays within the payment in every run under `covered`
(`refunds_within_payment`); without the condition it does not (`refunded_twice`). A charge is asked for once, and a payment
that succeeded is posted or queued when its call returns (`charged_once`). A payment that failed is never charged, unless the
processor took the charge (`failed_not_charged_iff`, `failed_but_charged`).
-/

namespace Archisynapse

namespace Payments

/-! ## Refunds stay within the payment -/

/-- In every run under the condition, whatever the calls and however their steps, faults and crashes are interleaved, the
processor has refunded no more of a payment than the payment's amount. -/
theorem refunds_within_payment (cfg : machine.Config) (hrun : machine.Run covered (.init machine .empty) cfg) :
    ∀ p ∈ cfg.state.db.payments, 100 * cfg.state.refunded p.id ≤ p.amount := by
  have hi : InOrder cfg.state := Machine.Outline.run_inv outline_sound inOrder_empty hrun
  intro p hp
  have hle := cfg.state.refunded_le_standing p.id
  have hst := hi.standing p hp
  omega

/-! Two runs: a payment of 100.00 and two refunds of it. -/

/-- The configuration of the service and the uuid of a call. -/
def saleEnv (uuid : Uuid) : Env := ⟨true, .test, ⟨none, none, none⟩, uuid⟩

/-- The payment. -/
def saleCall : Call := .createPayment (saleEnv 1) ⟨"org", 100, none, "USD", "pm_card", "order-1", false⟩

/-- A refund of the payment. -/
def saleRefund (uuid : Uuid) (amount : Option ℚ) (key : String) : Call :=
  .refundPayment (saleEnv uuid) ⟨"org", .stored 1, amount, "requested", key⟩

/-- A step of worker `w` that goes well: the processor gives the id, and the ledger's ids start with `n`. -/
def goesWell (w n : Nat) (id : String) (fault : Fault) : machine.Event :=
  .call w ⟨fault, .accepts id .succeeded .succeeded, ⟨true, 0, fun i => 1000 * n + i⟩, fun _ => false⟩

/-- The first `n` steps of worker `w`, which go well. -/
def stepsWell (w n : Nat) (id : String) : List machine.Event := (List.range n).map (fun i => goesWell w (100 * (w + 1) + i) id .none)

/-- The payment is made; a refund is made at the processor, and the call to the ledger fails; then it is refunded once more,
under another key. -/
def pendingEvents : List machine.Event :=
  [.start saleCall] ++ stepsWell 0 13 "pi_1" ++ [.start (saleRefund 2 none "refund-1")] ++ stepsWell 1 7 "re_1" ++
    [goesWell 1 0 "" .before, goesWell 1 0 "" .none, .start (saleRefund 3 none "refund-2")] ++ stepsWell 2 6 "re_2"

/-- Without the condition the processor refunds the payment twice. -/
theorem refunded_twice : ¬ ∀ cfg, machine.Run (.any machine) (.init machine .empty) cfg →
    ∀ p ∈ cfg.state.db.payments, 100 * cfg.state.refunded p.id ≤ p.amount := by
  intro h
  obtain ⟨cfg, hrun, htest⟩ := Machine.Config.replay_any (fun cfg e _ => Machine.Cond.allows_any cfg e)
    pendingEvents (.init machine .empty)
    (fun cfg => cfg.state.db.payments.any (fun p => decide (p.id = 1 ∧ p.amount = 1000000)) &&
      decide (cfg.state.refunded 1 = 20000))
    (show ((Machine.Config.init machine .empty).replay (fun _ _ => true) pendingEvents).any _ = true by decide +kernel)
  simp only [Bool.and_eq_true, List.any_eq_true, decide_eq_true_eq] at htest
  obtain ⟨⟨p, hp, hid, hamount⟩, hrefunded⟩ := htest
  have hle := h cfg hrun p hp
  rw [hid, hrefunded, hamount] at hle
  omega

instance (value : Decimal) : Decidable (roundsUp value) :=
  match value with
  | .fin q => inferInstanceAs (Decidable (q * 100 < roundHalfUp (q * 100)))
  | .nan => inferInstanceAs (Decidable False)
  | .inf _ => inferInstanceAs (Decidable False)

/-- An attempt that is written does not round up, computed. -/
def exactCheck : Program Reply → Bool
  | .call (.sql _ (.insertAttempt v)) _ => !decide (roundsUp v.amount)
  | _ => true

/-- `covered`, computed, for refunds one after another. -/
def coveredCheck (cfg : machine.Config) : machine.Event → Bool
  | .start (.refundPayment env req) => match req.paymentId.value with
    | none => true
    | some u => cfg.live.isEmpty && decide (100 * cfg.state.standingElsewhere u req.idempotencyKey ≤
        cfg.state.db.refundedTotal (env.session req.organizationId) u)
  | .call _ _ => cfg.live.all (fun x => exactCheck x.rest)
  | _ => true

theorem coveredCheck_allows (cfg : machine.Config) (e : machine.Event) (h : coveredCheck cfg e = true) :
    covered.Allows cfg e := by
  cases e with
  | start c =>
    cases c with
    | refundPayment env req =>
      intro u hu
      simp only [coveredCheck, hu, Bool.and_eq_true, decide_eq_true_eq] at h
      refine ⟨fun x hx => ?_, h.2⟩
      rw [List.isEmpty_iff.1 h.1] at hx
      cases hx
    | _ => exact trivial
  | call w ch =>
    intro x hx _ o k hk
    have hcheck := List.all_eq_true.1 h x hx
    rw [hk] at hcheck
    unfold covered
    dsimp only
    split
    · simpa [exactCheck] using hcheck
    · exact trivial
  | crash w => exact trivial

/-- The payment is made and refunded in two parts. -/
def partsEvents : List machine.Event :=
  [.start saleCall] ++ stepsWell 0 13 "pi_1" ++ [.start (saleRefund 2 (some 40) "refund-1")] ++ stepsWell 1 12 "re_1" ++
    [.start (saleRefund 3 (some 60) "refund-2")] ++ stepsWell 2 12 "re_2"

/-- The theorem at a run that refunds the payment in two parts: the processor has refunded all of it. -/
theorem refunds_within_payment_parts : ∃ cfg, machine.Run covered (.init machine .empty) cfg ∧
    cfg.state.refunded 1 = 10000 ∧ cfg.state.db.payments.map (·.amount) = [1000000] ∧
    ∀ p ∈ cfg.state.db.payments, 100 * cfg.state.refunded p.id ≤ p.amount := by
  obtain ⟨cfg, hrun, htest⟩ := Machine.Config.replay_any coveredCheck_allows partsEvents (.init machine .empty)
    (fun cfg => decide (cfg.state.refunded 1 = 10000 ∧ cfg.state.db.payments.map (·.amount) = [1000000])) (by decide +kernel)
  obtain ⟨hrefunded, hamount⟩ := of_decide_eq_true htest
  exact ⟨cfg, hrun, hrefunded, hamount, refunds_within_payment cfg hrun⟩

/-! ## One charge, and no lost posting -/

/-- In every run, whatever the calls and however their steps, faults and crashes are interleaved, the processor is asked to charge
under a key at most once; and when the call that inserted a payment returns, the payment, if it succeeded, has its transaction in
the ledger or a row in the queue. -/
theorem charged_once (cfg : machine.recorded.Config) (hrun : machine.recorded.Run (.any _) (.init _ (.empty, [])) cfg) :
    (∀ key, (asked cfg.state.2).count key ≤ 1) ∧
    ∀ w env req row s, cfg.Returns w (.payment row) s → w.call = .createPayment env req →
      (∃ x ∈ inserts s.2, x.worker = w.id) →
      ∀ p ∈ s.1.db.payments, p.id = env.uuid → p.status = .succeeded → s.1.db.Accounted req p := by
  have hrun' := Machine.run_numbered hrun
  have hinv : OneCharge cfg.state := Machine.Outline.run_inv recordedOutline_sound oneCharge_empty hrun'
  refine ⟨fun key => List.nodup_iff_count_le_one.1 hinv.single key, ?_⟩
  intro w env req row s hret hcall hinsert p hp hid hstatus
  obtain ⟨hinv', hpost⟩ :=
    Machine.Outline.returns recordedOutline_sound (fun _ _ _ => trivial) oneCharge_empty hrun' hret
  rw [hcall] at hpost
  rcases hpost rfl hinsert with hu | ⟨q, hq, hqid, hq'⟩
  · exact absurd hstatus (hu p hp hid)
  · obtain rfl := List.inj_on_of_nodup_map hinv'.ids hp hq (hid.trans hqid.symm)
    exact hq'

/-- A step of a recorded run that goes as one of a run. -/
def recordedStep : machine.Event → machine.recorded.Event
  | .start c => .start c
  | .call w ch => .call w ch
  | .crash w => .crash w

/-- Two calls with one key, whose steps alternate; the first charges, and the ledger does not answer it. -/
def racedEvents : List machine.recorded.Event :=
  ([.start saleCall, .start (.createPayment (saleEnv 2) ⟨"org", 100, none, "USD", "pm_card", "order-1", false⟩),
    goesWell 0 0 "" .none, goesWell 1 0 "" .none, goesWell 0 0 "" .none, goesWell 1 0 "" .none, goesWell 0 0 "" .none,
    goesWell 1 0 "" .none, goesWell 0 0 "pi_1" .none, goesWell 1 0 "" .none, goesWell 0 0 "" .none, goesWell 0 0 "" .before,
    goesWell 0 0 "" .none, goesWell 0 0 "" .none] : List machine.Event).map recordedStep

/-- What is left to see of the two calls. -/
def racedCheck (cfg : machine.recorded.Config) : Bool :=
  decide (asked cfg.state.2 = ["order-1"]) &&
  match cfg.returned 0 ⟨.none, .refuses "", ⟨true, 0, id⟩, fun _ => false⟩ with
  | some (x, .payment _, s) =>
    (match x.call with
      | .createPayment env _ => s.1.db.payments.any (fun p => decide (p.id = env.uuid ∧ p.status = .succeeded ∧ p.amount = 1000000))
      | _ => false) && (inserts s.2).any (fun y => decide (y.worker = x.id))
  | _ => false

/-- The theorem at two calls with one key: one charge, and the payment is queued. -/
theorem charged_once_raced : ∃ cfg w env req row s p, machine.recorded.Run (.any _) (.init _ (.empty, [])) cfg ∧
    asked cfg.state.2 = ["order-1"] ∧ cfg.Returns w (.payment row) s ∧ w.call = .createPayment env req ∧
    p ∈ s.1.db.payments ∧ p.id = env.uuid ∧ p.status = .succeeded ∧ s.1.db.Accounted req p := by
  obtain ⟨cfg, hrun, htest⟩ := Machine.Config.replay_any (fun cfg e _ => Machine.Cond.allows_any cfg e)
    racedEvents (.init machine.recorded (.empty, [])) racedCheck
    (show ((Machine.Config.init machine.recorded (.empty, [])).replay (fun _ _ => true) racedEvents).any _ = true by
      decide +kernel)
  rw [racedCheck, Bool.and_eq_true] at htest
  obtain ⟨hasked, htest⟩ := htest
  split at htest
  · rename_i x row s hret
    rw [Bool.and_eq_true, List.any_eq_true] at htest
    obtain ⟨htest, y, hy, hyw⟩ := htest
    split at htest
    · rename_i env req hcall
      obtain ⟨p, hp, htest⟩ := List.any_eq_true.1 htest
      obtain ⟨hid, hstatus, -⟩ := of_decide_eq_true htest
      have hreturns := Machine.Config.returns_of_returned hret
      exact ⟨cfg, x, env, req, row, s, p, hrun, of_decide_eq_true hasked, hreturns, hcall, hp, hid, hstatus,
        (charged_once cfg hrun).2 x env req row s hreturns hcall ⟨y, hy, of_decide_eq_true hyw⟩ p hp hid hstatus⟩
    · cases htest
  · cases htest

/-! ## A payment that failed -/

/-- A charge that is not final may come to succeed. -/
theorem charge_may_succeed {s : World} {c : Charge} (hc : c ∈ s.processor.charges) (hst : c.status ≠ .failed) :
    ∃ cfg, machine.Run (.any machine) (.init machine s) cfg ∧
      ∃ c' ∈ cfg.state.processor.charges, c'.request = c.request ∧ c'.status = .succeeded := by
  by_cases hs : c.status = .succeeded
  · exact ⟨_, .refl, c, hc, rfl, hs⟩
  · let ch : Choice := ⟨.none, .refuses "", ⟨true, 0, id⟩, fun _ => false⟩
    let events : List machine.Event := [.start (.settleCharge c.id .succeeded), .call 0 ch]
    have hreplay : (Machine.Config.init machine s).replay (fun _ _ => true) events = some _ := rfl
    refine ⟨_, Machine.Config.replay_run (fun cfg e _ => Machine.Cond.allows_any cfg e) hreplay, c.settle .succeeded, ?_, ?_⟩
    · exact mem_updateKey.2 (Or.inl ⟨c, hc, rfl, rfl⟩)
    · unfold Charge.settle
      rw [if_neg (fun h => h.elim hs hst)]
      exact ⟨rfl, rfl⟩

/-- A call that leaves its payment failed, in a state reached by any run: the processor has not charged under the payment's key
and never will, in any run that follows, if and only if it is not so that the adapter sent the charge, the processor got it, and
took it with a status other than failed. The fourth call of such a `createPayment` is the charge. -/
theorem failed_not_charged_iff {cfg : machine.Config} (hrun : machine.Run (.any machine) (.init machine .empty) cfg) {env : Env}
    {req : CreatePaymentRequest} {ch : Nat → Choice} {r : Except PaymentError PaymentRow} {s' : World}
    (h : alone (createPayment env req) ch cfg.state = some (r, s')) (hfresh : ∀ q ∈ cfg.state.db.payments, q.id ≠ env.uuid)
    {p : PaymentRow} (hp : p ∈ s'.db.payments) (hid : p.id = env.uuid) (hfailed : p.status = .failed) :
    (∀ cfg', machine.Run (.any machine) (.init machine s') cfg' → ∀ c ∈ cfg'.state.processor.charges,
      c.request.idempotencyKey = p.idempotencyKey → c.status ≠ .succeeded) ↔
    ¬ ∃ c id status refund, sentCharge env req = some c ∧ (ch 3).fault ≠ .before ∧
      (ch 3).answer = .accepts id status refund ∧ status ≠ .failed := by
  have hs : Charged none cfg.state := Machine.Outline.run_inv (chargedOutline_sound none) charged_empty hrun
  obtain ⟨hnew, hcharges, hmade⟩ :=
    createPayment_charges hs h hfresh hp hid (by rw [hfailed]; exact PaymentStatus.noConfusion)
  constructor
  · rintro hall ⟨c, id, status, refund, hsent, hfault, hans, hst⟩
    have hc : madeCharge env req (ch 3) = some ⟨id, c, status, status⟩ := by
      unfold madeCharge
      rw [hsent, hans]
      exact if_neg hfault
    have hmem : ⟨id, c, status, status⟩ ∈ s'.processor.charges := by
      rw [hcharges, hc]
      exact List.mem_append_right _ (List.mem_singleton_self _)
    obtain ⟨cfg', hrun', c', hc', hreq, hsucceeded⟩ := charge_may_succeed hmem hst
    refine hall cfg' hrun' c' hc' ?_ hsucceeded
    rw [hreq]
    exact hmade _ hc
  · intro hcond cfg' hrun'
    have hs' := alone_createPayment_charged hs h
    -- under the payment's key there is at most the charge of this call, and it has failed
    have hfail : Charged (some p.idempotencyKey) s' := by
      refine ⟨hs'.paid, ?_, ?_⟩
      · rintro k ⟨⟩
        exact ⟨p, hp, rfl⟩
      · rintro k ⟨⟩ c hc hkey
        rw [hcharges] at hc
        rcases List.mem_append.1 hc with hc | hc
        · exact absurd hkey (hnew c hc)
        · have hc := Option.mem_toList.1 hc
          by_contra hst
          refine hcond ?_
          unfold madeCharge at hc
          split at hc
          · rename_i c₀ id status refund hsent hans
            split at hc
            · cases hc
            · rename_i hfault
              cases hc
              exact ⟨c₀, id, status, refund, hsent, hfault, hans, hst⟩
          · cases hc
    have hinv : Charged (some p.idempotencyKey) cfg'.state :=
      Machine.Outline.run_inv (chargedOutline_sound _) hfail hrun'
    intro c hc hkey hst
    rw [hinv.failed _ rfl c hc hkey] at hst
    cases hst

/-- The request of the payment. -/
def saleRequest : CreatePaymentRequest := ⟨"org", 100, none, "USD", "pm_card", "order-1", false⟩

/-- Calls of which all go well but the charge, which goes as given. -/
def saleChoices (fault : Fault) (status : ChargeStatus) (n : Nat) : Choice :=
  ⟨if n = 3 then fault else .none, .accepts "pi_1" status .succeeded, ⟨true, 0, id⟩, fun _ => false⟩

/-- The payment is left failed, and a charge under its key has a status. -/
def failedCheck (status : ChargeStatus) (outcome : Except PaymentError PaymentRow × World) : Bool :=
  outcome.2.db.payments.any (fun p => decide (p.id = 1 ∧ p.status = .failed ∧ p.idempotencyKey = "order-1")) &&
    outcome.2.processor.charges.any (fun c => decide (c.request.idempotencyKey = "order-1" ∧ c.status = status))

/-- The processor charges and its answer is lost: the payment is left failed, and the customer has paid. -/
theorem failed_but_charged : ¬ ∀ env req ch r s', alone (createPayment env req) ch .empty = some (r, s') →
    ∀ p ∈ s'.db.payments, p.id = env.uuid → p.status = .failed →
    ∀ cfg', machine.Run (.any machine) (.init machine s') cfg' → ∀ c ∈ cfg'.state.processor.charges,
      c.request.idempotencyKey = p.idempotencyKey → c.status ≠ .succeeded := by
  intro h
  obtain ⟨⟨r, s'⟩, halone, htest⟩ := (Option.any_eq_true _ _).1
    (show (alone (createPayment (saleEnv 1) saleRequest) (saleChoices .after .succeeded) .empty).any
      (failedCheck .succeeded) = true by decide +kernel)
  simp only [failedCheck, Bool.and_eq_true, List.any_eq_true, decide_eq_true_eq] at htest
  obtain ⟨⟨p, hp, hid, hst, hkey⟩, c, hc, hckey, hcst⟩ := htest
  exact h _ _ _ r s' halone p hp hid hst _ .refl c hc (hckey.trans hkey.symm) hcst

/-- The theorem at a charge that is declined. -/
theorem failed_not_charged_declined : ∃ r s' p, alone (createPayment (saleEnv 1) saleRequest) (saleChoices .none .failed) .empty =
    some (r, s') ∧ p ∈ s'.db.payments ∧ p.status = .failed ∧
    ∀ cfg', machine.Run (.any machine) (.init machine s') cfg' → ∀ c ∈ cfg'.state.processor.charges,
      c.request.idempotencyKey = p.idempotencyKey → c.status ≠ .succeeded := by
  obtain ⟨⟨r, s'⟩, halone, htest⟩ := (Option.any_eq_true _ _).1
    (show (alone (createPayment (saleEnv 1) saleRequest) (saleChoices .none .failed) .empty).any
      (failedCheck .failed) = true by decide +kernel)
  simp only [failedCheck, Bool.and_eq_true, List.any_eq_true, decide_eq_true_eq] at htest
  obtain ⟨⟨p, hp, hid, hst, -⟩, -⟩ := htest
  refine ⟨r, s', p, halone, hp, hst, (failed_not_charged_iff .refl halone (by simp [Machine.Config.init, World.empty, Tables.empty])
    hp hid hst).2 ?_⟩
  rintro ⟨c, id, status, refund, -, -, hans, hne⟩
  cases hans
  exact hne rfl

/-! ## One ledger effect for a refund key -/

/-- Calls of one refund request, from a state reached by any run in which its key is new: in every run under the condition,
whatever faults and crashes there are, at most one transaction is posted to the ledger and at most one refund row is written; and
when the attempt records that the processor has refunded, or the refund is recorded, a call with healthy services completes. -/
theorem refund_key_once {cfg₀ : machine.Config} (hrun₀ : machine.Run (.any machine) (.init machine .empty) cfg₀) (env : Env)
    (req : RefundRequest) (hnew : NewKey req cfg₀.state.db) {cfg : machine.Config}
    (hrun : machine.Run (keyOnly env req cfg₀.state) (.init machine cfg₀.state) cfg) :
    cfg.state.ledger.transactions.length ≤ cfg₀.state.ledger.transactions.length + 1 ∧
    (cfg.state.db.refunds.filter (fun r => decide (r.idempotencyKey = req.idempotencyKey))).length ≤ 1 ∧
    ∀ ch uuid, Healthy ch cfg.state req → (∀ r ∈ cfg.state.db.refunds, r.id ≠ uuid) →
      Recorded req cfg.state ∨ ProcessorRecorded req cfg.state →
      ∃ row s', alone (refundPayment { env with uuid } req) ch cfg.state = some (.ok row, s') ∧ row ∈ s'.db.refunds ∧
        row.idempotencyKey = req.idempotencyKey := by
  have hs : Single env req cfg₀.state cfg.state :=
    Machine.Outline.run_inv (keyOutline_sound hnew) (Single.refl (inBooks_run hrun₀)) hrun
  have hold : cfg₀.state.db.refunds.filter (fun r => decide (r.idempotencyKey = req.idempotencyKey)) = [] := by
    rw [List.filter_eq_nil_iff]
    intro r hr
    simpa using (hnew.refund r hr).1
  refine ⟨hs.posts, ?_, fun ch uuid hh hfresh hrec => ?_⟩
  · rcases hs.refunds with ⟨hrefunds, -⟩ | ⟨row, hrow, -⟩
    · rw [hrefunds, hold]
      exact Nat.zero_le 1
    · rw [hrow, List.filter_append, hold, List.nil_append]
      exact List.length_filter_le _ _
  · by_cases hdone : Recorded req cfg.state
    · obtain ⟨row, hrun, hmem, hkey⟩ := refundPayment_recorded hs hnew hh.faultless hdone uuid
      exact ⟨row, cfg.state, hrun, hmem, hkey⟩
    · exact refundPayment_completes hs hnew hh hdone (hrec.resolve_left hdone) hfresh

/-- The request of a refund of the whole payment. -/
def refundRequest : RefundRequest := ⟨"org", .stored 1, none, "requested", "refund-1"⟩

/-- A start of the refund request, or a step of a call. -/
def sameCheck (_ : machine.Config) : machine.Event → Bool
  | .start (.refundPayment env req) => decide (env = saleEnv env.uuid ∧ req = refundRequest)
  | .start _ => false
  | _ => true

theorem sameCheck_allows (cfg : machine.Config) (e : machine.Event) (h : sameCheck cfg e = true) :
    (sameRequest (saleEnv 0) refundRequest).Allows cfg e := by
  cases e with
  | start c =>
    cases c with
    | refundPayment env req =>
      obtain ⟨henv, hreq⟩ := of_decide_eq_true (p := env = saleEnv env.uuid ∧ req = refundRequest) h
      exact ⟨henv, hreq⟩
    | _ => cases h
  | call w ch => exact fun _ _ _ _ _ _ => trivial
  | crash w => exact trivial

/-- The payment is made. -/
def saleEvents : List machine.Event := [.start saleCall] ++ stepsWell 0 13 "pi_1"

/-- The refund request in a state with a new key, and its events; what is then to be seen. -/
def refundCheck (ok : machine.Config → machine.Config → machine.Event → Bool) (es : List machine.Event)
    (test : World → machine.Config → Bool) : Bool :=
  ((Machine.Config.init machine .empty).replay (fun _ _ => true) saleEvents).any (fun cfg₀ =>
    cfg₀.state.db.attempts.isEmpty && cfg₀.state.db.refunds.isEmpty &&
      ((Machine.Config.init machine cfg₀.state).replay (ok cfg₀) es).any (test cfg₀.state))

theorem refundCheck_run {C : machine.Config → machine.Cond} {ok : machine.Config → machine.Config → machine.Event → Bool}
    (hok : ∀ cfg₀ cfg e, ok cfg₀ cfg e = true → (C cfg₀).Allows cfg e) (es : List machine.Event)
    (test : World → machine.Config → Bool) (h : refundCheck ok es test = true) :
    ∃ cfg₀ cfg, machine.Run (.any machine) (.init machine .empty) cfg₀ ∧ NewKey refundRequest cfg₀.state.db ∧
      machine.Run (C cfg₀) (.init machine cfg₀.state) cfg ∧ test cfg₀.state cfg = true := by
  obtain ⟨cfg₀, hrun₀, htest⟩ := Machine.Config.replay_any (C := .any machine) (fun cfg e _ => Machine.Cond.allows_any cfg e)
    saleEvents (.init machine .empty) _ h
  rw [Bool.and_eq_true, Bool.and_eq_true] at htest
  obtain ⟨⟨hattempts, hrefunds⟩, htest⟩ := htest
  obtain ⟨cfg, hrun, htest⟩ := Machine.Config.replay_any (hok cfg₀) es _ _ htest
  refine ⟨cfg₀, cfg, hrun₀, ⟨?_, ?_⟩, hrun, htest⟩
  · rw [List.isEmpty_iff.1 hattempts]
    exact nofun
  · rw [List.isEmpty_iff.1 hrefunds]
    exact nofun

/-- The reversal is posted and its answer is lost; a second call posts one more. -/
def lostEvents : List machine.Event :=
  [.start (.refundPayment (saleEnv 2) refundRequest)] ++ stepsWell 0 7 "re_1" ++ [goesWell 0 50 "" .after, goesWell 0 0 "" .none,
    .start (.refundPayment (saleEnv 3) refundRequest)] ++ stepsWell 1 7 "re_1"

/-- The processor refunds, and the call crashes before it has written so. -/
def crashEvents : List machine.Event :=
  [.start (.refundPayment (saleEnv 2) refundRequest)] ++ stepsWell 0 6 "re_1" ++ [.crash 0]

/-- Calls that all go through. -/
def wellChoices (_ : Nat) : Choice := ⟨.none, .accepts "re_1" .succeeded .succeeded, ⟨true, 0, fun i => 9000 + i⟩, fun _ => false⟩

/-- The ledger serves the reversal of every payment. -/
def healthyCheck (s : World) : Bool :=
  s.db.payments.all (fun p => match p.ledgerTransactionId with
    | none => true
    | some t => (Ledger.serve (wellChoices 0).ledgerEnv (wellChoices 0).ledgerFails s.ledger
        (.reverse p.organizationId (.stored t) refundRequest.reason)).any (fun a => a.1.isOk))

theorem healthy_of_check {s : World} (h : healthyCheck s = true) : Healthy wellChoices s refundRequest := by
  refine ⟨fun _ => rfl, fun p hp t ht n => ?_⟩
  have hserve := List.all_eq_true.1 h p hp
  rw [ht] at hserve
  obtain ⟨⟨r, d'⟩, hr, hok⟩ := (Option.any_eq_true _ _).1 hserve
  cases r with
  | ok reversal => exact ⟨reversal, d', hr⟩
  | error e => cases hok

/-- Without the condition two reversals are posted under one key, and a refund the processor has made is never completed. -/
theorem refund_key_twice :
    (¬ ∀ cfg₀ env req cfg, machine.Run (.any machine) (.init machine .empty) cfg₀ → NewKey req cfg₀.state.db →
      machine.Run (sameRequest env req) (.init machine cfg₀.state) cfg →
      cfg.state.ledger.transactions.length ≤ cfg₀.state.ledger.transactions.length + 1) ∧
    (¬ ∀ cfg₀ env req cfg, machine.Run (.any machine) (.init machine .empty) cfg₀ → NewKey req cfg₀.state.db →
      machine.Run (sameRequest env req) (.init machine cfg₀.state) cfg →
      (∃ r ∈ cfg.state.processor.refunds, r.request.idempotencyKey = req.idempotencyKey ∧ r.status = .succeeded) →
      ∀ ch uuid, Healthy ch cfg.state req → (∀ r ∈ cfg.state.db.refunds, r.id ≠ uuid) →
      ∃ row s', alone (refundPayment { env with uuid } req) ch cfg.state = some (.ok row, s')) := by
  constructor
  · intro h
    obtain ⟨cfg₀, cfg, hrun₀, hnew, hrun, htest⟩ := refundCheck_run (C := fun _ => sameRequest (saleEnv 0) refundRequest)
      (fun _ => sameCheck_allows) lostEvents
      (fun s₀ cfg => decide (cfg.state.ledger.transactions.length = s₀.ledger.transactions.length + 2)) (by decide +kernel)
    have hle := h cfg₀ _ _ cfg hrun₀ hnew hrun
    rw [of_decide_eq_true htest] at hle
    omega
  · intro h
    obtain ⟨cfg₀, cfg, hrun₀, hnew, hrun, htest⟩ := refundCheck_run (C := fun _ => sameRequest (saleEnv 0) refundRequest)
      (fun _ => sameCheck_allows) crashEvents
      (fun _ cfg => cfg.state.processor.refunds.any (fun r => decide (r.request.idempotencyKey = "refund-1" ∧
        r.status = .succeeded)) && cfg.state.db.refunds.isEmpty && healthyCheck cfg.state &&
        (alone (refundPayment { saleEnv 0 with uuid := 3 } refundRequest) wellChoices cfg.state).all (fun a => !a.1.isOk))
      (by decide +kernel)
    simp only [Bool.and_eq_true, List.any_eq_true, decide_eq_true_eq] at htest
    obtain ⟨⟨⟨hrefunded, hempty⟩, hhealthy⟩, hfails⟩ := htest
    obtain ⟨row, s', hok⟩ := h cfg₀ _ _ cfg hrun₀ hnew hrun hrefunded wellChoices 3 (healthy_of_check hhealthy)
      (by rw [List.isEmpty_iff.1 hempty]; exact nofun)
    rw [hok] at hfails
    cases hfails

/-- `keyOnly`, computed, for calls one after another. -/
def keyCheck (cfg₀ cfg : machine.Config) : machine.Event → Bool
  | .start (.refundPayment env req) => decide (env = saleEnv env.uuid ∧ req = refundRequest) && cfg.live.isEmpty &&
      decide (cfg.state.ledger.transactions.length = cfg₀.state.ledger.transactions.length)
  | .start _ => false
  | _ => true

theorem keyCheck_allows (cfg₀ cfg : machine.Config) (e : machine.Event) (h : keyCheck cfg₀ cfg e = true) :
    (keyOnly (saleEnv 0) refundRequest cfg₀.state).Allows cfg e := by
  cases e with
  | start c =>
    cases c with
    | refundPayment env req =>
      simp only [keyCheck, Bool.and_eq_true, decide_eq_true_eq] at h
      obtain ⟨⟨⟨henv, hreq⟩, hlive⟩, hposts⟩ := h
      refine ⟨henv, hreq, fun x hx => ?_, Or.inl hposts⟩
      rw [List.isEmpty_iff.1 hlive] at hx
      cases hx
    | _ => cases h
  | call w ch => exact fun _ _ _ _ _ _ => trivial
  | crash w => exact trivial

/-- The processor refunds, and the ledger does not answer. -/
def unansweredEvents : List machine.Event :=
  [.start (.refundPayment (saleEnv 2) refundRequest)] ++ stepsWell 0 7 "re_1" ++ [goesWell 0 0 "" .before, goesWell 0 0 "" .none]

/-- The theorem at a refund whose reversal failed: no refund row, and the next call completes it. -/
theorem refund_key_once_unanswered : ∃ cfg₀ cfg, machine.Run (.any machine) (.init machine .empty) cfg₀ ∧
    machine.Run (keyOnly (saleEnv 0) refundRequest cfg₀.state) (.init machine cfg₀.state) cfg ∧ cfg.state.db.refunds = [] ∧
    cfg.state.ledger.transactions.length ≤ cfg₀.state.ledger.transactions.length + 1 ∧
    ∃ row s', alone (refundPayment (saleEnv 3) refundRequest) wellChoices cfg.state = some (.ok row, s') ∧
      row ∈ s'.db.refunds ∧ row.idempotencyKey = "refund-1" := by
  obtain ⟨cfg₀, cfg, hrun₀, hnew, hrun, htest⟩ := refundCheck_run (C := fun cfg₀ => keyOnly (saleEnv 0) refundRequest cfg₀.state)
    keyCheck_allows unansweredEvents
    (fun _ cfg => cfg.state.db.refunds.isEmpty && healthyCheck cfg.state && cfg.state.db.attempts.any (fun a =>
      decide (a.idempotencyKey = "refund-1" ∧ a.status = .processorSucceeded ∧ a.processorRefundId = some "re_1")))
    (by decide +kernel)
  simp only [Bool.and_eq_true, List.any_eq_true, decide_eq_true_eq] at htest
  obtain ⟨⟨hempty, hhealthy⟩, a, ha, hkey, hst, hid⟩ := htest
  have hrefunds := List.isEmpty_iff.1 hempty
  obtain ⟨hposts, -, hcompletes⟩ := refund_key_once hrun₀ (saleEnv 0) refundRequest hnew hrun
  refine ⟨cfg₀, cfg, hrun₀, hrun, hrefunds, hposts, hcompletes wellChoices 3 (healthy_of_check hhealthy) ?_ (Or.inr ?_)⟩
  · rw [hrefunds]
    exact nofun
  · refine ⟨a, ha, hkey, hst, fun id h => ?_⟩
    rw [hid] at h
    cases h
    decide

/-! ## The ledger effect of refunds -/

/-- A payment in a state reached by any run, posted to the ledger by a transaction that debits an account with its amount, and of
which nothing was refunded yet; and any sequence of refunds of it that succeed, which add up to no more than the amount. What is
left on the account is the amount less what was refunded if and only if every refund was of the whole payment. -/
theorem refund_effect_iff {cfg : machine.Config} (hrun : machine.Run (.any machine) (.init machine .empty) cfg) {p : PaymentRow}
    (hp : p ∈ cfg.state.db.payments) {t account : Uuid} (ht : p.ledgerTransactionId = some t)
    (hdebit : Ledger.effect cfg.state.ledger.entries t account = p.amount) (hrefunds : cfg.state.refundsOf p.id = [])
    (hreversals : cfg.state.reversalsOf t = []) {s : World} (hs : RefundsSucceed p.id cfg.state s)
    (hle : s.refundedOf p.id ≤ p.amount) :
    s.netEffect t account = p.amount - s.refundedOf p.id ↔ ∀ r ∈ s.refundsOf p.id, r.amount = p.amount := by
  have hsound := sound_run hrun
  have hm := (matched_start (inBooks_run hrun) hsound hp ht hdebit hrefunds hreversals).sequence hs
  exact hm.net_iff (hsound.2 p hp) hle

/-- The payment of 100.00 is made, and a refund of it succeeds. -/
def effectCheck (amount : Option ℚ) (test : World → World → PaymentRow → Uuid → Bool) : Bool :=
  ((Machine.Config.init machine .empty).replay (fun _ _ => true) saleEvents).any (fun cfg₀ =>
    cfg₀.state.db.payments.any (fun p => match p.ledgerTransactionId with
      | none => false
      | some t => decide (p.id = 1 ∧ cfg₀.state.refundsOf 1 = [] ∧ cfg₀.state.reversalsOf t = []) &&
        (alone (refundPayment (saleEnv 2) ⟨"org", .stored 1, amount, "requested", "refund-1"⟩) wellChoices cfg₀.state).any
          (fun a => a.1.isOk && test cfg₀.state a.2 p t)))

theorem effectCheck_run (amount : Option ℚ) (test : World → World → PaymentRow → Uuid → Bool) (h : effectCheck amount test = true) :
    ∃ cfg p t s, machine.Run (.any machine) (.init machine .empty) cfg ∧ p ∈ cfg.state.db.payments ∧
      p.ledgerTransactionId = some t ∧ cfg.state.refundsOf p.id = [] ∧ cfg.state.reversalsOf t = [] ∧
      RefundsSucceed p.id cfg.state s ∧ test cfg.state s p t = true := by
  obtain ⟨cfg, hrun, htest⟩ := Machine.Config.replay_any (C := .any machine) (fun cfg e _ => Machine.Cond.allows_any cfg e)
    saleEvents (.init machine .empty) _ h
  obtain ⟨p, hp, htest⟩ := List.any_eq_true.1 htest
  split at htest
  · cases htest
  · rename_i t ht
    rw [Bool.and_eq_true, decide_eq_true_eq] at htest
    obtain ⟨⟨hid, hrefunds, hreversals⟩, htest⟩ := htest
    obtain ⟨⟨r, s⟩, halone, htest⟩ := (Option.any_eq_true _ _).1 htest
    rw [Bool.and_eq_true] at htest
    cases r with
    | error e => cases htest.1
    | ok row =>
      refine ⟨cfg, p, t, s, hrun, hp, ht, by rw [hid]; exact hrefunds, hreversals, .single ?_, htest.2⟩
      exact ⟨_, _, _, row, by rw [hid]; rfl, halone⟩

/-- A refund of 40.00 of the payment of 100.00 leaves nothing on the account. -/
theorem refund_effect_part : ¬ ∀ cfg p t account s, machine.Run (.any machine) (.init machine .empty) cfg →
    p ∈ cfg.state.db.payments → p.ledgerTransactionId = some t →
    Ledger.effect cfg.state.ledger.entries t account = p.amount → cfg.state.refundsOf p.id = [] →
    cfg.state.reversalsOf t = [] → RefundsSucceed p.id cfg.state s → s.refundedOf p.id ≤ p.amount →
    s.netEffect t account = p.amount - s.refundedOf p.id := by
  intro h
  obtain ⟨cfg, p, t, s, hrun, hp, ht, hrefunds, hreversals, hs, htest⟩ := effectCheck_run (some 40)
    (fun s₀ s p t => s₀.ledger.accounts.any (fun a => decide (Ledger.effect s₀.ledger.entries t a.id = p.amount ∧
      s.refundedOf p.id = 400000 ∧ p.amount = 1000000 ∧ s.netEffect t a.id = 0))) (by decide +kernel)
  obtain ⟨a, -, htest⟩ := List.any_eq_true.1 htest
  obtain ⟨hdebit, hrefunded, hamount, hnet⟩ := of_decide_eq_true htest
  have heq := h cfg p t a.id s hrun hp ht hdebit hrefunds hreversals hs (by omega)
  omega

/-- The theorem at a refund of the whole payment: nothing is left, and nothing should be. -/
theorem refund_effect_whole : ∃ cfg p t account s, machine.Run (.any machine) (.init machine .empty) cfg ∧
    p ∈ cfg.state.db.payments ∧ RefundsSucceed p.id cfg.state s ∧ s.refundedOf p.id = p.amount ∧ 0 < p.amount ∧
    s.netEffect t account = p.amount - s.refundedOf p.id := by
  obtain ⟨cfg, p, t, s, hrun, hp, ht, hrefunds, hreversals, hs, htest⟩ := effectCheck_run none
    (fun s₀ s p t => (s.refundsOf p.id).all (fun r => decide (r.amount = p.amount)) &&
      s₀.ledger.accounts.any (fun a => decide (Ledger.effect s₀.ledger.entries t a.id = p.amount ∧
        s.refundedOf p.id = p.amount ∧ 0 < p.amount))) (by decide +kernel)
  rw [Bool.and_eq_true, List.all_eq_true] at htest
  obtain ⟨hall, htest⟩ := htest
  obtain ⟨a, -, htest⟩ := List.any_eq_true.1 htest
  obtain ⟨hdebit, hrefunded, hpos⟩ := of_decide_eq_true htest
  exact ⟨cfg, p, t, a.id, s, hrun, hp, hs, hrefunded, hpos,
    (refund_effect_iff hrun hp ht hdebit hrefunds hreversals hs hrefunded.le).2 (fun r hr => of_decide_eq_true (hall r hr))⟩

end Payments

end Archisynapse
