import Archisynapse.Lemmas.Recovery
import Archisynapse.Guarantees.Gateway
import Archisynapse.Lemmas.RecoveryQueue
import Archisynapse.Lemmas.Revenue

/-!
# Recovery of ledger transactions

The gateway looks for the ledger transaction of a queued event with `GET /transactions?referenceId=…`. The ledger has a handler for
`POST /transactions` and for `GET /transactions/:id`, so the query is answered 404 whatever was posted: a replay takes no event off
the ledger's queue (`ledger_replay_stuck`).
-/

namespace Archisynapse

namespace Gateway

/-- The ledger holds a transaction of an event's merchant with the event's payment as its reference. -/
def Services.Posted (s : Services) (event : CanonicalEvent) : Prop :=
  ∃ t ∈ s.ledger.transactions, t.organizationId = event.merchantId ∧ t.referenceId = event.transactionId

/-- After any requests and replays, whatever the ledger and analytics hold: a replay with all services answering returns, replays no
event of the ledger's queue, leaves every one of them in it, and records none of them in analytics but what its own queue holds. -/
theorem ledger_replay_stuck {env : ServicesEnv} {s : Services} (h : Reached env s) (keys : AnalyticsKeys)
    (answers : Nat → Answers) :
    ∃ counts s', s.replayPendingRecoveries env keys answers = some (.ok counts, s') ∧
      counts.ledgerPending = s.gateway.ledgerQueue.length ∧ counts.ledgerReplayed = 0 ∧
      ∀ e ∈ s.gateway.ledgerQueue, s'.gateway.Queued e.correlationId ∧
        ((∀ a ∈ s.gateway.analyticsQueue, a.eventId ≠ e.eventId) →
          ∀ row ∈ s'.analytics.transactions, row.event.eventId = some e.eventId → row ∈ s.analytics.transactions) := by
  obtain ⟨n, s', hrun, hreplays⟩ := replay_runs keys answers h.unposted
  refine ⟨_, s', hrun, rfl, rfl, fun e he => ⟨hreplays.queued he, fun hapart row hrow hid => ?_⟩⟩
  rcases hreplays.rows row hrow with hrow | ⟨a, ha, hid'⟩
  · rw [(requeueAll_analytics s.gateway.ledgerQueue s).1] at hrow
    exact hrow
  · exact absurd (Option.some.inj (hid'.symm.trans hid)) (hapart a ha)

/-! ## A payment whose posting is found by nobody -/

/-- The services of this run: an analytics service with the merchant's key. -/
def plainServices : ServicesEnv := ⟨plainEnv, plainConfig, fun text => text, fun _ => none, fun _ => .null⟩

/-- The answers of the fraud service and of the transaction service, which posted to the ledger but did not hear of it in time. -/
def unheard : Choice :=
  ⟨.none, 0, .ok ⟨200, "", .ok ⟨0, "approve", []⟩⟩, .ok ⟨201, "", .ok ⟨some "pay_1", none⟩⟩, .error (.request "down"),
    .error (.request "down")⟩

/-- The payment is processed while the ledger cannot be asked. -/
def unheardEvents : List plain.Event := .start (pay "evt_1" "cus") :: List.replicate 8 (.call 0 unheard)

/-- The ledger holds the payment's transaction. -/
def postedLedger : Ledger.Tables :=
  ⟨[], [⟨1, "mer_1", .payment, some "pay_1", "Payment pay_1", some 10000, "USD", .posted, some "key-1", 0, none⟩], [], []⟩

/-- Analytics knows the merchant. -/
def knownMerchant : Analytics.Tables := ⟨[⟨"mer_1", "analytics", true⟩], []⟩

/-- The run queues an event whose payment is posted. -/
theorem unheard_reached : ∃ (s : Services) (e : CanonicalEvent), Reached plainServices s ∧ e ∈ s.gateway.ledgerQueue ∧ s.Posted e ∧
    s.analytics = knownMerchant := by
  obtain ⟨cfg, hrun, htest⟩ := Machine.Config.replay_any (fun cfg e _ => Machine.Cond.allows_any cfg e) unheardEvents
    (.init plain (.start merchants))
    (fun cfg => cfg.state.ledgerQueue.any (fun e => decide (e.merchantId = "mer_1" ∧ e.transactionId = some "pay_1")))
    (show ((Machine.Config.init plain (.start merchants)).replay (fun _ _ => true) unheardEvents).any _ = true by decide +kernel)
  obtain ⟨e, he, htest⟩ := List.any_eq_true.1 htest
  obtain ⟨hmerchant, hpayment⟩ := of_decide_eq_true htest
  have hreached : Reached plainServices ⟨cfg.state, postedLedger, knownMerchant⟩ :=
    @Reached.requests plainServices _ (.start merchants postedLedger knownMerchant) cfg hrun postedLedger knownMerchant
  exact ⟨_, e, hreached, he, ⟨_, List.mem_singleton_self _, hmerchant.symm, hpayment.symm⟩, rfl⟩

/-- The theorem there: the event stays queued. -/
theorem ledger_replay_stuck_unheard : ∃ (s s' : Services) (e : CanonicalEvent) (counts : ReplayCounts),
    Reached plainServices s ∧ e ∈ s.gateway.ledgerQueue ∧ s.Posted e ∧
    s.replayPendingRecoveries plainServices (fun _ => some "analytics") (fun _ => ⟨0, unheard.risk, unheard.payment⟩) =
      some (.ok counts, s') ∧
    counts.ledgerReplayed = 0 ∧ s'.gateway.Queued e.correlationId := by
  obtain ⟨s, e, hreached, he, hposted, -⟩ := unheard_reached
  obtain ⟨counts, s', hrun, -, hnone, hstuck⟩ :=
    ledger_replay_stuck hreached (fun _ => some "analytics") (fun _ => ⟨0, unheard.risk, unheard.payment⟩)
  exact ⟨s, s', e, counts, hreached, he, hposted, hrun, hnone, (hstuck e he).1⟩

/-- A replay does not take every queued event whose payment is posted off the ledger's queue. -/
theorem posted_event_stays_queued : ¬ ∀ (s s' : Services) (e : CanonicalEvent) (keys : AnalyticsKeys) (answers : Nat → Answers)
    (counts : ReplayCounts), Reached plainServices s → e ∈ s.gateway.ledgerQueue → s.Posted e →
    s.replayPendingRecoveries plainServices keys answers = some (.ok counts, s') → ¬ s'.gateway.Queued e.correlationId := by
  intro h
  obtain ⟨s, e, hreached, he, hposted, -⟩ := unheard_reached
  obtain ⟨n, s', hrun, hreplays⟩ :=
    replay_runs (fun _ => some "analytics") (fun _ => ⟨0, unheard.risk, unheard.payment⟩) hreached.unposted
  exact h s s' e _ _ _ hreached he hposted hrun (hreplays.queued he)

/-! ## Items of the recovery queues

The items of a recovery queue are told apart by the hash of five fields joined with colons. Among the requests of a set, an item is
displaced by changes for events with the same five fields only, exactly when no two of the requests that differ in a field have the
same joined text (`recovery_queue_keeps_iff`); a colon in a customer's id or in a currency gives two requests one text
(`other_event_displaces`). -/

/-- The requests the orchestrator takes up: those of at least a cent. -/
abbrev PaidCall (env : Env) : Type := { c : PaymentCall // 0 < env.dollarsToMinor c.request.amount }

/-- For the requests of a set: an item that is pushed stays through every later change that is made for a request of the set with
other fields. -/
def ItemsKept (env : Env) (R : Set (PaidCall env)) : Prop :=
  ∀ (queue : List CanonicalEvent) (c : PaidCall env) (event : CanonicalEvent) (later : List (PaidCall env × QueueChange)),
    c ∈ R → (QueueChange.push event).MadeFor env c.1 →
    (∀ x ∈ later, x.1 ∈ R ∧ x.2.MadeFor env x.1.1 ∧ x.1.1.fields env ≠ c.1.fields env) →
    event ∈ (later.map (·.2)).foldl QueueChange.apply ((QueueChange.push event).apply queue)

/-- Where the hash is injective, for every set of requests: in every sequence of changes of a recovery queue that are made for them,
whatever the queue held, an item is taken away or replaced only by a change for an event with the same merchant, customer, amount,
currency and idempotency key, if and only if requests of the set that differ in one of these have different joined texts. -/
theorem recovery_queue_keeps_iff {env : Env} (hinj : Function.Injective env.correlationHash) (R : Set (PaidCall env)) :
    ItemsKept env R ↔
      ∀ c ∈ R, ∀ d ∈ R, (c.1.fields env).content = (d.1.fields env).content → c.1.fields env = d.1.fields env := by
  constructor
  · intro hkept c hc d hd hcontent
    by_contra hne
    have hid : (d.1.event env).correlationId = (c.1.event env).correlationId := by
      rw [event_correlationId, event_correlationId, hcontent]
    have hstays := hkept [] c (c.1.event env) [(d, .remove (d.1.event env).correlationId)] hc rfl (fun x hx => by
      rw [List.mem_singleton.1 hx]
      exact ⟨hd, rfl, fun h => hne h.symm⟩)
    exact (mem_withoutEvent.1 hstays).2 hid.symm
  · intro hapart queue c event later hc hpush hlater
    refine changes_keep (List.mem_append_right _ (List.mem_singleton_self event)) (fun x hx => ?_)
    obtain ⟨⟨d, x'⟩, hmem, rfl⟩ := List.mem_map.1 hx
    obtain ⟨hd, hmade, hfields⟩ := hlater _ hmem
    rw [hmade.id, show event.correlationId = _ from CanonicalEvent.Same.correlationId hpush]
    exact event_apart hinj (fun hcontent => hfields (hapart c hc d hd hcontent).symm)

/-! ## Requests with and without colons -/

/-- A payment of some dollars by a customer in a currency, under a key. -/
def coloned (customerId currency key : String) (dollars : ℚ) (trimmed : key.toList.getLast? ≠ some ' ') : PaymentCall :=
  ⟨⟨"evt_" ++ key, "now"⟩, "mer_1", key, { oneDollar customerId with currency, amount := dollars }, trimmed⟩

/-- A gateway whose hash keeps its content. -/
theorem plainEnv_hash_injective : Function.Injective plainEnv.correlationHash := fun _ _ h => h

/-- Requests of a customer without a colon. -/
def plainRequests : Set (PaidCall plainEnv) := { c | (c.1.fields plainEnv).ColonFree }

/-- The theorem at all requests whose merchant, customer and currency hold no colon: their items are kept. -/
theorem recovery_queue_keeps_iff_plain : ItemsKept plainEnv plainRequests :=
  (recovery_queue_keeps_iff plainEnv_hash_injective plainRequests).2
    (fun _ hc _ hd => PaymentFields.content_inj hc hd)

/-- Five cents from "c" under the key "k:6:USD:z", and six cents from "c:5:USD:k" under the key "z", have one joined text. -/
def firstColoned : PaidCall plainEnv := ⟨coloned "c" "USD" "k:6:USD:z" (5 / 100) (by decide +kernel), by decide +kernel⟩

def secondColoned : PaidCall plainEnv := ⟨coloned "c:5:USD:k" "USD" "z" (6 / 100) (by decide +kernel), by decide +kernel⟩

/-- The removal of another customer's event takes an item away. -/
theorem other_event_displaces : ¬ ∀ R : Set (PaidCall plainEnv), ItemsKept plainEnv R := by
  intro h
  have hstays := h { firstColoned, secondColoned } [] firstColoned (firstColoned.1.event plainEnv)
    [(secondColoned, .remove (secondColoned.1.event plainEnv).correlationId)] (Set.mem_insert _ _) rfl (fun x hx => by
      rw [List.mem_singleton.1 hx]
      exact ⟨Set.mem_insert_of_mem _ rfl, rfl, by decide +kernel⟩)
  exact (mem_withoutEvent.1 hstays).2 (by decide +kernel)

/-! ## Revenue on the dashboard

The dashboard's `total_revenue` sums the rows of analytics whose status is "completed". A refund posts its negative amount with the
status "refunded", which is not summed: the revenue of a history is what its payments completed less what its refunds refunded exactly
when nothing was refunded (`dashboard_net_iff`). -/

/-- For every history of payments and refunds of any merchants with healthy services, from an empty analytics service, and every
dashboard whose window contains it: the total revenue is the sum of the completed payments less the sum of the refunds if and only if
no refund of the merchant is answered 200 or 201 by the transaction service. -/
theorem dashboard_net_iff (env : ServicesEnv) {s : Services} (hempty : s.analytics.transactions = []) {now : Int} {days : Nat}
    (hdays : 1 ≤ days ∧ days ≤ 365) {history : List Entry}
    (hhealthy : ∀ e ∈ history, e.Healthy env s.analytics (now - days * Analytics.day)) {apiKey merchantId : String}
    (hkey : KeyOf env s.analytics (some apiKey) merchantId) :
    ∃ outcomes s' stats, s.recordAll env history = some (outcomes, s') ∧
      s'.analytics.getDashboard env.hashValue now days (some apiKey) = .ok stats ∧
      (stats.totalRevenue = (outcomes.map (·.completed merchantId)).sum - (outcomes.map (·.refunded merchantId)).sum ↔
        ∀ e ∈ history, ¬ e.Refunds merchantId) := by
  obtain ⟨outcomes, s', hrun, hmerchants, hrevenue, hrefunded⟩ := recordAll_effect hhealthy
  obtain ⟨merchant, hmerchant, rfl⟩ := hkey.of_merchants hmerchants
  refine ⟨outcomes, s', s'.analytics.revenueStats merchant.merchantId (now - days * Analytics.day), hrun, ?_, ?_⟩
  · unfold Analytics.Tables.getDashboard
    rw [hmerchant]
    exact if_neg (by omega)
  · have hstart : s.analytics.revenue merchant.merchantId (now - days * Analytics.day) = 0 := by
      change ((s.analytics.transactions.filter _).map _).sum = 0
      rw [hempty]
      rfl
    have htotal := hrevenue merchant.merchantId
    rw [hstart, zero_add] at htotal
    change s'.analytics.revenue _ _ = _ ↔ _
    rw [htotal, hrefunded, eq_comm, sub_eq_self, sum_eq_zero_iff_all (fun e he => Entry.refundAmount_nonneg (hhealthy e he) _)]
    exact forall₂_congr (fun e he => Entry.refundAmount_eq_zero (hhealthy e he) _)

/-! ## A payment and its refund -/

/-- The answers of healthy services to a payment. -/
def heard : Answers := ⟨0, unheard.risk, .ok ⟨201, "", .ok ⟨some "pay_1", some "led_1"⟩⟩⟩

/-- A payment of one dollar. -/
def paidEntry : Entry :=
  .payment ⟨"evt_1", "now"⟩ "mer_1" "key-1" (oneDollar "cus") ⟨some "fraud", some "analytics"⟩ (fun _ => heard)

/-- A refund of it. -/
def refundEntry : Entry :=
  .refund ⟨"pay_1", "mer_1", 1, "customer_requested", some "key-2", some "analytics"⟩ (.ok ⟨201, "", .ok .null⟩) 0

/-- Services that know the merchant and have recorded nothing. -/
def unrecorded : Services := ⟨.start merchants, ⟨[], [], [], []⟩, knownMerchant⟩

theorem knownMerchant_key : KeyOf plainServices knownMerchant (some "analytics") "mer_1" :=
  ⟨⟨"mer_1", "analytics", true⟩, by decide +kernel, rfl⟩

theorem paidEntry_healthy : paidEntry.Healthy plainServices unrecorded.analytics (0 - (1 : Nat) * Analytics.day) :=
  ⟨knownMerchant_key, fun _ => show (0 : Int) - (1 : Nat) * Analytics.day ≤ 0 by decide⟩

theorem refundEntry_healthy : refundEntry.Healthy plainServices unrecorded.analytics (0 - (1 : Nat) * Analytics.day) :=
  ⟨show (0 : ℚ) < 1 from zero_lt_one, _, _, rfl, rfl⟩

/-- The theorem at a payment alone: the dashboard shows what it completed. -/
theorem dashboard_net_iff_paid : ∃ outcomes s' stats, unrecorded.recordAll plainServices [paidEntry] = some (outcomes, s') ∧
    s'.analytics.getDashboard plainServices.hashValue 0 1 (some "analytics") = .ok stats ∧
    stats.totalRevenue = (outcomes.map (·.completed "mer_1")).sum - (outcomes.map (·.refunded "mer_1")).sum := by
  have hhealthy : ∀ e ∈ [paidEntry], e.Healthy plainServices unrecorded.analytics (0 - (1 : Nat) * Analytics.day) := by
    rintro e he
    rw [List.mem_singleton.1 he]
    exact paidEntry_healthy
  obtain ⟨outcomes, s', stats, hrun, hstats, hiff⟩ :=
    @dashboard_net_iff plainServices unrecorded rfl 0 1 ⟨le_refl 1, by decide⟩ [paidEntry] hhealthy _ _ knownMerchant_key
  refine ⟨outcomes, s', stats, hrun, hstats, hiff.2 (fun e he hrefunds => ?_)⟩
  rw [List.mem_singleton.1 he] at hrefunds
  exact hrefunds

/-- A payment of one dollar that is refunded still counts on the dashboard. -/
theorem refund_not_subtracted : ¬ ∀ (history : List Entry) (outcomes : List Outcome) (s' : Services) (stats : Analytics.RevenueStats),
    (∀ e ∈ history, e.Healthy plainServices unrecorded.analytics (0 - (1 : Nat) * Analytics.day)) →
    unrecorded.recordAll plainServices history = some (outcomes, s') →
    s'.analytics.getDashboard plainServices.hashValue 0 1 (some "analytics") = .ok stats →
    stats.totalRevenue = (outcomes.map (·.completed "mer_1")).sum - (outcomes.map (·.refunded "mer_1")).sum := by
  intro h
  have hhealthy : ∀ e ∈ [paidEntry, refundEntry],
      e.Healthy plainServices unrecorded.analytics (0 - (1 : Nat) * Analytics.day) := by
    intro e he
    rcases List.mem_cons.1 he with rfl | he
    · exact paidEntry_healthy
    · rw [List.mem_singleton.1 he]
      exact refundEntry_healthy
  obtain ⟨outcomes, s', hrun, hmerchants, hrevenue, hrefunded⟩ := recordAll_effect hhealthy
  obtain ⟨merchant, hmerchant, hid⟩ := knownMerchant_key.of_merchants hmerchants
  have hdashboard : s'.analytics.getDashboard plainServices.hashValue 0 1 (some "analytics") =
      .ok (s'.analytics.revenueStats "mer_1" (0 - (1 : Nat) * Analytics.day)) := by
    unfold Analytics.Tables.getDashboard
    rw [hmerchant, ← hid]
    rfl
  have hnet := h _ outcomes s' _ hhealthy hrun hdashboard
  change s'.analytics.revenue _ _ = _ at hnet
  rw [hrevenue, show unrecorded.analytics.revenue "mer_1" (0 - (1 : Nat) * Analytics.day) = 0 from rfl, zero_add, eq_comm,
    sub_eq_self, hrefunded] at hnet
  exact absurd hnet (by decide +kernel)

end Gateway

end Archisynapse
