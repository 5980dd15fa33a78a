import Archisynapse.Lemmas.CommerceExecute
import Archisynapse.Lemmas.CommerceRecovery
import Archisynapse.Lemmas.CommerceRevocation
import Archisynapse.Lemmas.CommerceLimits
import Mathlib.Data.List.Induction

/-!
# Agent commerce

The store keeps every budget (`budget_kept`). A reservation is paid at most once (`paid_at_most_once`), and is not released while
its payment is in flight, unless the payment overtakes a handler (`not_released_in_flight`). A settlement is recorded when its
fee fits what was reserved (`settlement_recorded_iff`). After an authorization is revoked or has expired no payment is started
for it, unless one was under way (`no_payment_after_revocation`).
-/

namespace Archisynapse

namespace Commerce

/-! ## The budget -/

/-- After any operations of any clients on the store: what an authorization has reserved is what its open reservations hold,
what it has spent and how often it was called is what its receipts say, and neither its budget nor its calls are exceeded; a
reservation is finalized exactly when it has a receipt, and never has two; and an authorization that is not active is not
active after any further operations. -/
theorem budget_kept (cs : List StoreCall) :
    let s := (Session.empty.after cs).store
    (s.authorizations.map (·.id)).Nodup ∧ (s.reservations.map (·.id)).Nodup ∧
    (∀ a ∈ s.authorizations,
      a.reservedSats = ((s.openReservations a.id).map (·.reservedSats)).sum ∧
      a.spentSats = ((s.receipts.filter (fun p => decide (p.authorizationId = a.id))).map (·.totalDebitSats)).sum ∧
      a.callCount = ((s.receipts.filter (fun p => decide (p.authorizationId = a.id))).length : Int) ∧
      a.spentSats + a.reservedSats ≤ a.maxTotalSats ∧
      a.callCount + ((s.openReservations a.id).length : Int) ≤ a.maxCalls) ∧
    (∀ r ∈ s.reservations, r.status = .finalized ↔ ∃ p ∈ s.receipts, p.reservationId = r.id) ∧
    (∀ id, (s.receipts.filter (fun p => decide (p.reservationId = id))).length ≤ 1) ∧
    (∀ a ∈ s.authorizations, a.status ≠ .active → ∀ cs',
      ∃ a', ((Session.empty.after cs).after cs').store.authorization a.id = some a' ∧ a'.status ≠ .active) := by
  intro s
  obtain ⟨hgood, -⟩ := Session.good_empty.after (P := fun _ => True) (fun _ _ _ _ _ => trivial) trivial cs
  have hb := hgood.budget
  refine ⟨hb.authorizationIds, hb.reservationIds, ?_, hb.finalized, length_filter_key_le_one hb.receiptIds, ?_⟩
  · intro a ha
    have hc := hb.counters a ha
    refine ⟨hc.reserved, hc.spent, ?_, hc.total, ?_⟩
    · rw [hc.calls]
      exact sumWhere_one _ _
    · rw [s.openReservations_length]
      exact hc.limit
  · intro a ha hst cs'
    have hinactive : s.Inactive a.id := by
      refine ⟨⟨a, ha, rfl⟩, fun b hb' hid => ?_⟩
      rw [List.inj_on_of_nodup_map hb.authorizationIds hb' ha hid]
      exact hst
    obtain ⟨hgood', ⟨b, hb', hid⟩, hst'⟩ :=
      hgood.after (P := fun s => s.Inactive a.id) (fun _ _ _ hch hi => hch.inactive hi) hinactive cs'
    refine ⟨b, ?_, hst' b hb' hid⟩
    rw [← hid]
    exact hgood'.budget.authorization_eq hb'

/-! ## Payments -/

/-- In every run, whatever the calls and however their steps are interleaved, `pay_invoice` is invoked at most once for each
reservation. -/
theorem paid_at_most_once (env : Env) (cfg : (machine env).Config)
    (hrun : (machine env).Run (.any (machine env)) (.init (machine env) .empty) cfg) :
    ∀ id, (cfg.state.payments.filter (fun p => decide (p.reservationId = id))).length ≤ 1 := by
  have hi : InOrder False cfg.state := by
    refine run_inOrder (Machine.Run.mono ?_ ?_ hrun)
    · exact fun _ _ h => h
    · exact fun _ _ _ _ hcare => hcare.elim
  have hnd : (cfg.state.paid.map (·.1)).Nodup := by
    refine List.Nodup.map_on (fun x hx y hy hxy => ?_) hi.single
    exact List.inj_on_of_nodup_map hi.once (hi.paid x hx) (hi.paid y hy) hxy
  unfold World.paid at hnd
  rw [List.map_map] at hnd
  exact length_filter_key_le_one hnd

/-- No payment is initiated while the handler of another call has read the reservation and is still to release it. -/
def noOvertaking (env : Env) : (machine env).Cond := ⟨fun _ _ => True, fun _ o s => Unhandled o s⟩

/-- In every run in which no payment overtakes a handler, whatever the calls and however their steps are interleaved: a
reservation whose payment was started, and has not come to a definite failure, is not released. -/
theorem not_released_in_flight (env : Env) (cfg : (machine env).Config)
    (hrun : (machine env).Run (noOvertaking env) (.init (machine env) .empty) cfg) :
    ∀ p ∈ cfg.state.payments, p.outcome ≠ .failed → cfg.state.store.status p.reservationId ≠ some .released := by
  have hi : InOrder True cfg.state := by
    refine run_inOrder (Machine.Run.mono ?_ ?_ hrun)
    · exact fun _ _ h => h
    · exact fun _ _ _ h _ => h
  intro p hp _ hst
  have hmem : (p.reservationId, p.worker) ∈ cfg.state.paid := List.mem_map.2 ⟨p, hp, rfl⟩
  obtain ⟨st, hst', -, hne⟩ := hi.initiated _ (hi.paid _ hmem)
  rw [hst] at hst'
  exact hne trivial (Option.some.inj hst').symm

/-! A run: an authorization, and two calls with one idempotency key that are handed different invoices. The second call binds
its invoice; the first one cannot bind the other, and its handler reads the reservation as `invoice_bound`. Then the second call
initiates its payment and starts to pay, and the first one releases the reservation. -/

/-- The environment of the run: no price tolerance, and the hashes of a preimage of 32 zero bytes. -/
def demoEnv : Env :=
  { tolerance := some
    maxAdvertised := some
    preimageHash := fun text =>
      if text = "0000000000000000000000000000000000000000000000000000000000000000" then
        some "66687aadf862bd776c8fc18b8e9f8e20089714856ee233b3902a591d0d5f2925"
      else none
    sha256 := fun _ => "60e05bd1b195af2f94112fa7197a5c88289058840ce7c6df9693756bc6250f55"
    bodySha256 := fun _ => "e3b0c44298fc1c149afbf4c8996fb92427ae41e4649b934ca495991b7852b855"
    lower := fun text => text
    verifies := fun _ => true
    maxResponseBytes := 1000000 }

/-- What the environment answers at each step of the run, with an id and an invoice. -/
def demoChoice (uuid paymentHash : String) : Choice :=
  { fails := none
    now := 0
    uuid
    initial := ⟨402, .ok ("macaroon", "lnbc100n1")⟩
    invoice := ⟨"sha", 10, paymentHash⟩
    payment := .unknown ⟨.failure, "timeout"⟩
    lookup := none
    delivery := ⟨0, .error "unreachable"⟩ }

/-- An authorization of 100 satoshis. -/
def demoCreate : Call :=
  .create ⟨"tenant", "orchestrator", 100, 50, 5, some 1000, 0, [], [], some "auth"⟩

/-- A paid call under it. -/
def demoExecute : Call :=
  .execute ⟨"auth", "key", "orchestration", "npub", "translation", "https://agent.example", 10, "hello", none⟩

/-- The events before the handler of the first call has read the reservation. -/
def demoEvents : List (machine demoEnv).Event :=
  [.start demoCreate, .call 0 (demoChoice "" ""), .start demoExecute, .start demoExecute] ++
    List.replicate 3 (.call 1 (demoChoice "rsv" "hash one")) ++ List.replicate 4 (.call 2 (demoChoice "rsv" "hash two"))

/-- The theorem at a run: the second call has started to pay. -/
theorem paid_at_most_once_started : ∃ cfg,
    (machine demoEnv).Run (.any (machine demoEnv)) (.init (machine demoEnv) .empty) cfg ∧
    cfg.state.payments = [⟨"rsv", 2, .pending⟩] ∧
    ∀ id, (cfg.state.payments.filter (fun p => decide (p.reservationId = id))).length ≤ 1 := by
  obtain ⟨cfg, hrun, htest⟩ := Machine.Config.replay_any (fun cfg e _ => Machine.Cond.allows_any cfg e)
    (demoEvents ++ List.replicate 2 (.call 2 (demoChoice "" ""))) (.init (machine demoEnv) .empty)
    (fun cfg => decide (cfg.state.payments = [⟨"rsv", 2, .pending⟩]))
    (show ((Machine.Config.init (machine demoEnv) .empty).replay (fun _ _ => true) _).any _ = true by decide +kernel)
  exact ⟨cfg, hrun, of_decide_eq_true htest, paid_at_most_once demoEnv cfg hrun⟩

/-- `noOvertaking`, computed: there is no handler at all. -/
def unhandledCheck (cfg : (machine demoEnv).Config) : (machine demoEnv).Event → Bool
  | .call _ _ => cfg.state.handlers.isEmpty
  | _ => true

theorem unhandledCheck_allows (cfg : (machine demoEnv).Config) (e : (machine demoEnv).Event)
    (h : unhandledCheck cfg e = true) : (noOvertaking demoEnv).Allows cfg e := by
  cases e with
  | start c => exact trivial
  | crash w => exact trivial
  | call w ch =>
    intro x _ _ o _ _
    have hnil : cfg.state.handlers = [] := List.isEmpty_iff.1 h
    cases o with
    | markPaymentInitiated id =>
      intro x hx
      rw [hnil] at hx
      cases hx
    | _ => exact trivial

/-- The theorem at a run: the second call has started to pay, and the reservation waits for the outcome. -/
theorem not_released_in_flight_started : ∃ cfg,
    (machine demoEnv).Run (noOvertaking demoEnv) (.init (machine demoEnv) .empty) cfg ∧
    cfg.state.payments = [⟨"rsv", 2, .pending⟩] ∧ cfg.state.store.status "rsv" = some .paymentInitiated ∧
    ∀ p ∈ cfg.state.payments, p.outcome ≠ .failed → cfg.state.store.status p.reservationId ≠ some .released := by
  obtain ⟨cfg, hrun, htest⟩ := Machine.Config.replay_any unhandledCheck_allows
    (demoEvents ++ List.replicate 2 (.call 2 (demoChoice "" ""))) (.init (machine demoEnv) .empty)
    (fun cfg => decide (cfg.state.payments = [⟨"rsv", 2, .pending⟩] ∧
      cfg.state.store.status "rsv" = some .paymentInitiated))
    (show ((Machine.Config.init (machine demoEnv) .empty).replay unhandledCheck _).any _ = true by decide +kernel)
  obtain ⟨hpay, hst⟩ := of_decide_eq_true htest
  exact ⟨cfg, hrun, hpay, hst, not_released_in_flight demoEnv cfg hrun⟩

/-- A payment that overtakes a handler: the reservation is released while its payment is in flight. -/
theorem released_in_flight : ¬ ∀ env cfg, (machine env).Run (.any (machine env)) (.init (machine env) .empty) cfg →
    ∀ p ∈ cfg.state.payments, p.outcome ≠ .failed → cfg.state.store.status p.reservationId ≠ some .released := by
  intro h
  obtain ⟨cfg, hrun, htest⟩ := Machine.Config.replay_any (fun cfg e _ => Machine.Cond.allows_any cfg e)
    (demoEvents ++ List.replicate 2 (.call 1 (demoChoice "" "")) ++ List.replicate 2 (.call 2 (demoChoice "" "")) ++
      [.call 1 (demoChoice "" "")]) (.init (machine demoEnv) .empty)
    (fun cfg => decide (cfg.state.payments = [⟨"rsv", 2, .pending⟩] ∧
      cfg.state.store.status "rsv" = some .released))
    (show ((Machine.Config.init (machine demoEnv) .empty).replay (fun _ _ => true) _).any _ = true by decide +kernel)
  obtain ⟨hpay, hst⟩ := of_decide_eq_true htest
  exact h demoEnv cfg hrun ⟨"rsv", 2, .pending⟩ (by rw [hpay]; exact List.mem_singleton_self _) Outcome.noConfusion hst

/-! ## Settlements -/

/-- After any operations of any clients, when the provider reports a settlement. An initiated payment that the settlement proves
is recorded by `mark_paid`, and by a recovery, exactly when the fee is not negative and the invoice and the fee fit what was
reserved; a recovery of a paid reservation always finalizes it. -/
theorem settlement_recorded_iff (env : Env) (cs : List StoreCall) (r : Reservation) (settlement : PaymentSettlement)
    (ch : Nat → Choice) (hr : r ∈ (Session.empty.after cs).store.reservations) (hrep : Reports ch settlement)
    (hfresh : Fresh ch (Session.empty.after cs).store) :
    let s := (Session.empty.after cs).store
    (r.status = .paymentInitiated → Proves env settlement r → ∃ n, r.invoiceSats = some n ∧
      ((∃ r' s', markPaid r.id (settlement.markPaidArgs env) s = (.ok r', s')) ↔
        0 ≤ settlement.routeFeeSats ∧ n + settlement.routeFeeSats ≤ r.reservedSats) ∧
      ((∃ p s', alone env (reconcileInitiatedPayment env r.id) ch s = some (.ok (some p), s') ∧
          Recorded s s' r (n + settlement.routeFeeSats)) ↔
        0 ≤ settlement.routeFeeSats ∧ n + settlement.routeFeeSats ≤ r.reservedSats)) ∧
    (r.status = .paid → ∃ n fee p s', r.invoiceSats = some n ∧ r.routeFeeSats = some fee ∧
      alone env (reconcileInitiatedPayment env r.id) ch s = some (.ok (some p), s') ∧ Recorded s s' r (n + fee)) := by
  intro s
  obtain ⟨hb, hi⟩ := session_invoiced cs
  refine ⟨fun hst hproves => ?_, fun hst => ?_⟩
  · obtain ⟨invoice, hbound⟩ := hi.bound r hr (Or.inr (Or.inl hst))
    refine ⟨invoice.amountSats, hbound.2.1, ⟨?_, ?_⟩, ?_, ?_⟩
    · rintro ⟨r', s', hok⟩
      by_contra hbad
      obtain ⟨e, he⟩ := markPaid_refuses (settlement.markPaidArgs env) (hb.reservation_eq hr) hst hbound.2.1 hbad
      rw [he] at hok
      cases hok
    · rintro ⟨hfee, hfit⟩
      exact ⟨_, _, markPaid_settles (settlement.markPaidArgs env) (hb.reservation_eq hr) hst hbound.2.1 hfee hfit⟩
    · rintro ⟨p, s', hok, -⟩
      by_contra hbad
      obtain ⟨e, he⟩ := reconcile_refuses hb hi hr hst hrep hproves hbound.2.1 hbad
      rw [he] at hok
      cases hok
    · rintro ⟨hfee, hfit⟩
      exact reconcile_records hb hi hr hst hrep hfresh hproves hbound.2.1 hfee hfit
  · obtain ⟨p, s', invoice, fee, hbound, hfee, hrun, hrec⟩ := reconcile_paid hb hi hr hst hrep hfresh env
    exact ⟨invoice.amountSats, fee, p, s', hbound.2.1, hfee, hrun, hrec⟩

/-! A reservation of 10 satoshis whose payment is initiated. The provider settles it for a fee. -/

/-- The hash of the preimage of 32 zero bytes. -/
def demoHash : String := "66687aadf862bd776c8fc18b8e9f8e20089714856ee233b3902a591d0d5f2925"

/-- The operations before the payment. -/
def demoCalls : List StoreCall :=
  [.create 0 "" ⟨"tenant", "orchestrator", 100, 50, 5, some 1000, 0, [], [], some "auth"⟩,
    .reserve 0 "rsv" some ⟨"auth", "key", "orchestration", "npub", "translation", 10⟩,
    .bindInvoice "rsv" ⟨"sha", 10, demoHash⟩, .markPaymentInitiated "rsv"]

/-- The reservation they leave. -/
def demoReservation : Reservation :=
  { id := "rsv"
    authorizationId := "auth"
    idempotencyKey := "key"
    orchestrationId := "orchestration"
    agentNpub := "npub"
    specialty := "translation"
    quotedSats := 10
    reservedSats := 10
    invoiceSats := some 10
    paymentHash := some demoHash
    invoicePayload := some ⟨"sha", 10, demoHash⟩
    provider := none
    providerPaymentId := none
    routeFeeSats := none
    preimageHash := none
    settledAt := none
    status := .paymentInitiated
    receiptId := none }

/-- The settlement the provider reports, with its fee. -/
def demoSettlement (fee : Int) : PaymentSettlement :=
  { provider := "lnd-rest"
    providerPaymentId := demoHash
    paymentHash := demoHash
    preimage := "0000000000000000000000000000000000000000000000000000000000000000"
    routeFeeSats := fee
    settledAt := "2026-01-01T00:00:00Z" }

/-- No step fails, and the provider reports the settlement. -/
def demoReports (fee : Int) : Nat → Choice :=
  fun _ => { demoChoice "rcpt" demoHash with lookup := some (demoSettlement fee) }

theorem demoReservation_mem : demoReservation ∈ (Session.empty.after demoCalls).store.reservations := by decide +kernel

theorem demoProves (fee : Int) : Proves demoEnv (demoSettlement fee) demoReservation :=
  ⟨demoHash, demoHash, rfl, rfl, rfl⟩

theorem demoFresh (fee : Int) : Fresh (demoReports fee) (Session.empty.after demoCalls).store := by
  have hnone : (Session.empty.after demoCalls).store.receipts = [] := by decide +kernel
  intro n p hp
  rw [hnone] at hp
  cases hp

/-- The theorem at a settlement without a fee: it is recorded. -/
theorem settlement_recorded_free : ∃ p s',
    alone demoEnv (reconcileInitiatedPayment demoEnv "rsv") (demoReports 0) (Session.empty.after demoCalls).store =
      some (.ok (some p), s') ∧ Recorded (Session.empty.after demoCalls).store s' demoReservation 10 := by
  obtain ⟨n, hn, -, hrecon⟩ := (settlement_recorded_iff demoEnv demoCalls demoReservation (demoSettlement 0) (demoReports 0)
    demoReservation_mem (fun _ => ⟨rfl, rfl⟩) (demoFresh 0)).1 rfl (demoProves 0)
  cases hn
  exact hrecon.2 ⟨by decide, by decide⟩

/-- A fee of one satoshi, where none was reserved: neither `mark_paid` nor a recovery records the settlement. -/
theorem settlement_refused : ¬ ∀ env cs r settlement ch, r ∈ (Session.empty.after cs).store.reservations →
    Reports ch settlement → Fresh ch (Session.empty.after cs).store → r.status = .paymentInitiated →
    Proves env settlement r →
    (∃ r' s', markPaid r.id (settlement.markPaidArgs env) (Session.empty.after cs).store = (.ok r', s')) ∧
      ∃ p s' debit, alone env (reconcileInitiatedPayment env r.id) ch (Session.empty.after cs).store = some (.ok (some p), s') ∧
        Recorded (Session.empty.after cs).store s' r debit := by
  intro h
  obtain ⟨⟨r', s', hok⟩, -⟩ := h demoEnv demoCalls demoReservation (demoSettlement 1) (demoReports 1) demoReservation_mem
    (fun _ => ⟨rfl, rfl⟩) (demoFresh 1) rfl (demoProves 1)
  have hbad : ¬ (0 ≤ (demoSettlement 1).routeFeeSats ∧ 10 + (demoSettlement 1).routeFeeSats ≤ demoReservation.reservedSats) := by
    decide
  obtain ⟨e, he⟩ := markPaid_refuses ((demoSettlement 1).markPaidArgs demoEnv)
    ((session_invoiced demoCalls).1.reservation_eq demoReservation_mem) rfl rfl hbad
  rw [he] at hok
  cases hok

/-! ## Revocation -/

/-- From a time on no payment is started for a reservation: it does not become `payment_initiated`, and `pay_invoice` is not
invoked for it. -/
def NoPaymentSince (id : String) (s s' : World) : Prop :=
  (s'.store.status id = some .paymentInitiated → s.store.status id = some .paymentInitiated) ∧
  ∀ p ∈ s'.payments, p.reservationId = id → ∃ q ∈ s.payments, q.reservationId = id ∧ q.worker = p.worker

/-- In every run, whatever the calls and however their steps are interleaved: once an authorization is revoked, or its expiry
time has passed, it has no new reservation, and no payment is started for a reservation of it that was not still to be paid
then. -/
theorem no_payment_after_revocation (env : Env) (t₀ : Int) (a b : (machine env).Config × Int) (authorizationId : String)
    (hrun : Machine.TimedRun Choice.now (.init (machine env) .empty, t₀) a) (hrun' : Machine.TimedRun Choice.now a b)
    (hstop : a.1.state.store.Stopped authorizationId a.2) :
    (∀ id, b.1.state.store.OwnedBy authorizationId id → a.1.state.store.OwnedBy authorizationId id) ∧
    ∀ id, b.1.state.store.OwnedBy authorizationId id → Quiesced a.1 id → NoPaymentSince id a.1.state b.1.state := by
  refine ⟨(closed_run hrun' hstop).known, fun id howned hquiet => ?_⟩
  have hhalted := halted_run hrun hrun' hstop hquiet
  refine ⟨fun hst => ?_, fun p hp hid => ?_⟩
  · obtain ⟨r, hr, hauth⟩ := howned
    rw [Store.status_of_reservation hr] at hst
    exact hhalted.initiated r hr hauth (Option.some.inj hst)
  · subst hid
    have hpaid : (p.reservationId, p.worker) ∈ b.1.state.paid := List.mem_map.2 ⟨p, hp, rfl⟩
    obtain ⟨q, hq, he⟩ := List.mem_map.1 (hhalted.paid _ hpaid howned)
    obtain ⟨h₁, h₂⟩ := Prod.mk.inj he
    exact ⟨q, hq, h₁, h₂⟩

/-- The first steps of a paid call: the challenge, the invoice, the reservation and the invoice bound to it. -/
def demoBound : List (machine demoEnv).Event :=
  [.start demoCreate, .call 0 (demoChoice "" ""), .start demoExecute] ++ List.replicate 4 (.call 1 (demoChoice "rsv" "hash"))

/-- The two steps that start a payment. -/
def demoPay : List (machine demoEnv).Event := List.replicate 2 (.call 1 (demoChoice "" ""))

/-- The authorization is revoked. -/
def demoRevoke : List (machine demoEnv).Event := [.start (.revoke "auth"), .call 2 (demoChoice "" "")]

/-- The call is made again under its key. -/
def demoRetry : List (machine demoEnv).Event := [.start demoExecute] ++ List.replicate 4 (.call 3 (demoChoice "rsv" "hash"))

/-- `demoCreate`'s authorization is revoked, computed. -/
def revokedCheck (s : World) : Bool := (s.store.authorization "auth").any (fun a => decide (a.status = .revoked))

theorem stopped_of_check {s : World} (h : revokedCheck s = true) : s.store.Stopped "auth" 0 := by
  obtain ⟨a, ha, hst⟩ := (Option.any_eq_true _ _).1 h
  exact ⟨a, ha, Or.inl (of_decide_eq_true hst)⟩

/-- `Quiesced`, computed: the payment of the reservation is initiated, and every payment initiated was sent. -/
def quiescedCheck (s : World) : Bool :=
  decide (s.store.status "rsv" = some .paymentInitiated) && s.initiations.all (fun x => decide (x ∈ s.paid))

theorem quiesced_of_check {cfg : (machine demoEnv).Config} (h : quiescedCheck cfg.state = true) : Quiesced cfg "rsv" := by
  obtain ⟨hstatus, hsent⟩ := Bool.and_eq_true_iff.1 h
  refine ⟨fun st hst hwaits => ?_, fun x hx _ => Or.inl (of_decide_eq_true (List.all_eq_true.1 hsent x hx))⟩
  rw [of_decide_eq_true hstatus] at hst
  cases hst
  rcases hwaits with hwaits | hwaits <;> cases hwaits

/-- The reservation of `demoCreate`'s authorization is paid once, computed. -/
def paidCheck (cfg : (machine demoEnv).Config) : Bool :=
  decide (cfg.state.payments = [⟨"rsv", 1, .pending⟩]) &&
    (cfg.state.store.reservation "rsv").any (fun r => decide (r.authorizationId = "auth"))

theorem paid_of_check {cfg : (machine demoEnv).Config} (h : paidCheck cfg = true) :
    cfg.state.payments = [⟨"rsv", 1, .pending⟩] ∧ cfg.state.store.OwnedBy "auth" "rsv" := by
  obtain ⟨hpaid, howned⟩ := Bool.and_eq_true_iff.1 h
  obtain ⟨r, hr, hauth⟩ := (Option.any_eq_true _ _).1 howned
  exact ⟨of_decide_eq_true hpaid, r, hr, of_decide_eq_true hauth⟩

/-- Events at time 0 and a test of where they lead, computed. -/
def replaysTo (es : List (machine demoEnv).Event) (test : (machine demoEnv).Config → Bool) (cfg : (machine demoEnv).Config) :
    Bool := (cfg.replay (fun _ e => e.at Choice.now 0) es).any test

theorem replay_timed_any (es : List (machine demoEnv).Event) (cfg : (machine demoEnv).Config)
    (test : (machine demoEnv).Config → Bool) (h : replaysTo es test cfg = true) :
    ∃ cfg', Machine.TimedRun Choice.now (cfg, 0) (cfg', 0) ∧ test cfg' = true := by
  obtain ⟨cfg', hcfg, htest⟩ := (Option.any_eq_true _ _).1 h
  exact ⟨cfg', Machine.Config.replay_timed hcfg, htest⟩

/-- The theorem at a run: the payment is sent, the authorization is revoked, and the call is made again. -/
theorem no_payment_after_revocation_sent : ∃ a b : (machine demoEnv).Config × Int,
    Machine.TimedRun Choice.now (.init (machine demoEnv) .empty, 0) a ∧ Machine.TimedRun Choice.now a b ∧
    a.1.state.store.Stopped "auth" a.2 ∧ b.1.state.store.OwnedBy "auth" "rsv" ∧ Quiesced a.1 "rsv" ∧
    b.1.state.payments = [⟨"rsv", 1, .pending⟩] ∧ NoPaymentSince "rsv" a.1.state b.1.state := by
  obtain ⟨cfg, hrun, htest⟩ := replay_timed_any (demoBound ++ demoPay ++ demoRevoke) (.init (machine demoEnv) .empty)
    (fun cfg => revokedCheck cfg.state && (quiescedCheck cfg.state && replaysTo demoRetry paidCheck cfg)) (by decide +kernel)
  obtain ⟨hrevoked, htest⟩ := Bool.and_eq_true_iff.1 htest
  obtain ⟨hquiet, hretry⟩ := Bool.and_eq_true_iff.1 htest
  obtain ⟨cfg', hrun', htest'⟩ := replay_timed_any _ _ _ hretry
  obtain ⟨hpaid, howned⟩ := paid_of_check htest'
  have hstop := stopped_of_check hrevoked
  have hquiesced := quiesced_of_check hquiet
  exact ⟨(cfg, 0), (cfg', 0), hrun, hrun', hstop, howned, hquiesced, hpaid,
    (no_payment_after_revocation demoEnv 0 (cfg, 0) (cfg', 0) "auth" hrun hrun' hstop).2 "rsv" howned hquiesced⟩

/-- A call that has bound its invoice when its authorization is revoked goes on to pay. -/
theorem payment_after_revocation : ¬ ∀ env t₀ (a b : (machine env).Config × Int) authorizationId,
    Machine.TimedRun Choice.now (.init (machine env) .empty, t₀) a → Machine.TimedRun Choice.now a b →
    a.1.state.store.Stopped authorizationId a.2 →
    ∀ id, b.1.state.store.OwnedBy authorizationId id → NoPaymentSince id a.1.state b.1.state := by
  intro h
  obtain ⟨cfg, hrun, htest⟩ := replay_timed_any (demoBound ++ demoRevoke) (.init (machine demoEnv) .empty)
    (fun cfg => revokedCheck cfg.state && (cfg.state.payments.isEmpty && replaysTo demoPay paidCheck cfg)) (by decide +kernel)
  obtain ⟨hrevoked, htest⟩ := Bool.and_eq_true_iff.1 htest
  obtain ⟨hnone, hpay⟩ := Bool.and_eq_true_iff.1 htest
  obtain ⟨cfg', hrun', htest'⟩ := replay_timed_any _ _ _ hpay
  obtain ⟨hpaid, howned⟩ := paid_of_check htest'
  have hsince := h demoEnv 0 (cfg, 0) (cfg', 0) "auth" hrun hrun' (stopped_of_check hrevoked) "rsv" howned
  have hmem : (⟨"rsv", 1, .pending⟩ : Payment) ∈ cfg'.state.payments := by
    rw [hpaid]
    exact List.mem_singleton_self _
  obtain ⟨q, hq, -⟩ := hsince.2 _ hmem rfl
  rw [List.isEmpty_iff.1 hnone] at hq
  cases hq

/-! ## The two ceilings of a call

The invoice of a settled call is within `max_per_call_sats` and its route fee within `max_route_fee_sats` exactly while every
settlement that fits the reserved sum is within both (`limits_kept_iff`). An invoice may use up the route fee's part of the sum
(`invoice_over_ceiling`). -/

/-- In every session, each settled reservation is within its authorization's ceilings in every state that is reached, if and only
if every settlement that is recorded in it is within them. -/
theorem limits_kept_iff (cs : List StoreCall) :
    (∀ cs', cs' <+: cs → WithinLimits (Session.empty.after cs').store) ↔
      ∀ cs' c, cs' ++ [c] <+: cs → c.Bounded (Session.empty.after cs').store := by
  have hgood : ∀ cs' : List StoreCall, (Session.empty.after cs').Good := by
    intro cs'
    exact (Session.good_empty.after (P := fun _ => True) (fun _ _ _ _ _ => trivial) trivial cs').1
  have hafter : ∀ (cs' : List StoreCall) (c : StoreCall), Session.empty.after (cs' ++ [c]) = (Session.empty.after cs').step c := by
    intro cs' c
    unfold Session.after
    rw [List.foldl_append, List.foldl_cons, List.foldl_nil]
  constructor
  · intro h cs' c hprefix
    have hlimits := h (cs' ++ [c]) hprefix
    rw [hafter] at hlimits
    exact Session.step_bounded hlimits
  · intro h cs' hprefix
    induction cs' using List.reverseRecOn with
    | nil => exact fun r hr => absurd hr List.not_mem_nil
    | append_singleton cs' c ih =>
      rw [hafter]
      exact (hgood cs').step_limits (h cs' c hprefix) (ih ((List.prefix_append cs' [c]).trans hprefix))

/-- An authorization for calls of 100 sats and route fees of 10. -/
def limitArgs : CreateArgs := ⟨"tenant", "orchestrator", 1000, 100, 5, some 1, 10, [], [], some "auth"⟩

/-- A call quoted at 100 sats is billed 110, which fits the sum that is reserved, and paid. -/
def limitCalls : List StoreCall :=
  [.create 0 "" limitArgs, .reserve 0 "rsv" some ⟨"auth", "key", "orch", "agent", "work", 100⟩,
    .bindInvoice "rsv" ⟨"digest", 110, "hash"⟩, .markPaymentInitiated "rsv", .markPaid "rsv" ⟨"node", "pay", 0, "preimage", "now"⟩]

/-- With a tolerance that is not negative, a call is paid at more than its authorization allows. -/
theorem invoice_over_ceiling : ¬ ∀ cs : List StoreCall,
    (∀ now uuid tolerance args, .reserve now uuid tolerance args ∈ cs → ∀ quoted ceiling, tolerance quoted = some ceiling →
      quoted ≤ ceiling) →
    WithinLimits (Session.empty.after cs).store := by
  intro h
  have htolerance : ∀ now uuid tolerance args, .reserve now uuid tolerance args ∈ limitCalls → ∀ quoted ceiling,
      tolerance quoted = some ceiling → quoted ≤ ceiling := by
    intro now uuid tolerance args hmem quoted ceiling hceiling
    simp only [limitCalls, List.mem_cons, reduceCtorEq, StoreCall.reserve.injEq, false_or, or_false, List.not_mem_nil] at hmem
    obtain ⟨-, -, rfl, -⟩ := hmem
    exact le_of_eq (Option.some.inj hceiling)
  have hstore : (Session.empty.after limitCalls).store.reservations.any (fun r => decide (r.status = .paid ∧
      r.invoiceSats = some 110 ∧ (Session.empty.after limitCalls).store.authorizations.all (fun a => decide (a.maxPerCallSats = 100)))) =
        true := by decide +kernel
  obtain ⟨r, hr, htest⟩ := List.any_eq_true.1 hstore
  obtain ⟨hpaid, hinvoice, hall⟩ := of_decide_eq_true htest
  obtain ⟨a, ha, -, n, fee, hn, -, hcall, -⟩ := h limitCalls htolerance r hr (Or.inl hpaid)
  obtain rfl := Option.some.inj (hinvoice.symm.trans hn)
  rw [of_decide_eq_true (List.all_eq_true.1 hall a ha)] at hcall
  exact absurd hcall (by decide)

end Commerce

end Archisynapse
