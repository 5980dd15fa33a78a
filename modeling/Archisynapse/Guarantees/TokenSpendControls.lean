import Archisynapse.Lemmas.TokenSpendControls
import Archisynapse.Lemmas.TokenSpendBudget

/-!
# The shutdown on call rate, and reconciliation

A preflight that finds the call-rate limit reached raises out of the transaction that its pause and its alert were written in, so
neither is stored (`shutdown_persists_iff`). A provider's event that arrives before its usage is stored as orphaned and stays so,
whereas one that arrives after it is confirmed or disputed (`arrival_order_matters`).
-/

namespace Archisynapse

namespace TokenSpend

/-! ## Shutdown -/

/-- A preflight that raises because the call-rate limit was reached, for a policy that was active, leaves the policy paused with a
reason and a critical alert stored, and after any further operations every preflight with a new key is refused as paused. -/
def ShutdownPersists (env : Env) (args : PreflightArgs) (s : Store) : Prop :=
  ∀ s', preflight env args s = (.error runaway, s') → (∀ p, s.policy args.policyId = some p → p.status = .active) →
    (∃ p, s'.policy args.policyId = some p ∧ p.status = .paused ∧ p.stopReason.isSome) ∧
    (∃ a ∈ s'.alerts, a.policyId = some args.policyId ∧ a.severity = "critical" ∧ a.alertType = "runaway_call_rate") ∧
    ∀ cs env' args', args'.policyId = args.policyId →
      (∀ r ∈ (s'.after cs).reservations, r.policyId = args.policyId → r.idempotencyKey ≠ args'.idempotencyKey) →
      ∃ message, (preflight env' args' (s'.after cs)).1 = .error ⟨.policyPaused, message⟩

/-- The shutdown persists exactly where there is none: where a preflight finds the call-rate limit reached, the store is as it was,
and the policy is active. -/
theorem shutdown_persists_iff (env : Env) (args : PreflightArgs) (s : Store) :
    ShutdownPersists env args s ↔ ¬ CallRateReached env args s := by
  constructor
  · intro h hreached
    obtain ⟨-, policy, hpolicy, hvalid, -⟩ := id hreached
    have hactive := validatePolicyForPreflight_ok hvalid
    have honly : ∀ p, s.policy args.policyId = some p → p.status = .active := by
      intro p hp
      rw [← Option.some.inj (hpolicy.symm.trans hp)]
      exact hactive
    obtain ⟨⟨p, hp, hpaused, -⟩, -⟩ := h s (preflight_of_callRateReached hreached) honly
    rw [honly p hp] at hpaused
    cases hpaused
  · intro h s' hraised hactive
    exact absurd (callRateReached_of_preflight hraised hactive) h

/-- An environment: costs are whole micro-dollars, and times are compared by the length of their texts. -/
def playEnv : Env where
  now := "now"
  minuteAgo := "now"
  later := "later-on"
  uuid := "id"
  parseTime text := some text.length
  lower := id
  fingerprint _ _ := "fingerprint"
  eventHash _ := "hash"
  calculateCost card t := some ((t.input * card.inputMicrousdPerMillion + t.output * card.outputMicrousdPerMillion) / 1000000).toNat
  ceilTimes n x := some (Rat.ceil (n * x))
  onePercent n := some ((n + 99) / 100)
  verifies _ := true

/-- A route, and a policy that allows one call a minute on it. -/
def playCalls : List StoreCall :=
  [.putRateCard playEnv ⟨"provider", "model", 1000000, 1000000, 0, 0, "contract", none⟩,
    .createPolicy playEnv ⟨"tenant", "agent", "scope", 1000, 100, 50, 50, [⟨"provider", "model"⟩], [], some "s", none, 1, 3⟩,
    .preflight playEnv ⟨"id", "first", "provider", "model", ⟨10, 10, 0, 0⟩⟩]

/-- The second call in a minute raises, and its policy stays active. -/
theorem shutdown_lost :
    ¬ ShutdownPersists playEnv ⟨"id", "second", "provider", "model", ⟨10, 10, 0, 0⟩⟩ (Store.empty.after playCalls) := by
  intro h
  have hraised : preflight playEnv ⟨"id", "second", "provider", "model", ⟨10, 10, 0, 0⟩⟩ (Store.empty.after playCalls) =
      (.error runaway, Store.empty.after playCalls) := by
    refine preflight_of_callRateReached ⟨by decide +kernel, ?_⟩
    exact ⟨_, rfl, by rfl, by decide, by decide, by decide, by decide +kernel⟩
  have hactive : ∀ p, (Store.empty.after playCalls).policy "id" = some p → p.status = .active := by
    intro p hp
    have hstatus : ((Store.empty.after playCalls).policy "id").map (·.status) = some .active := by decide +kernel
    rw [hp] at hstatus
    exact Option.some.inj hstatus
  obtain ⟨⟨p, hp, hpaused, -⟩, -⟩ := h _ hraised hactive
  rw [hactive p hp] at hpaused
  cases hpaused

/-! ## Reconciliation -/

/-- The environment at a moment: the time and a fresh id. -/
def Env.at (env : Env) (moment : String × String) : Env := { env with now := moment.1, uuid := moment.2 }

/-- Deliveries of an event, one after another. -/
def deliveries (env : Env) (args : EventArgs) (moments : List (String × String)) (s : Store) : Store :=
  moments.foldl (fun s moment => (reconcileProviderEvent (env.at moment) args s).2) s

/-- What reconciliation comes to: the reservation's status, the event's, and whether the policy is paused. -/
structure Reconciliation where
  reservation : Option ReconciliationStatus
  event : Option EventStatus
  paused : Option Bool
  deriving DecidableEq

def Store.reconciliation (s : Store) (reservationId : String) (payload : EventPayload) : Reconciliation :=
  { reservation := (s.reservation reservationId).map (·.reconciliationStatus)
    event := (s.eventOf payload).map (·.status)
    paused := (s.reservation reservationId).bind (fun r => (s.policy r.policyId).map (fun p => decide (p.status = .paused))) }

/-- An event accepted before its usage was recorded and redelivered after it, any number of times, comes to the same as one that
first arrives after it. -/
def OrderIndependent (env : Env) (usage : UsageArgs) (args : EventArgs) (s : Store) : Prop :=
  ∀ early finish finish' event receipt receipt' s₁ s₂ s', reconcileProviderEvent (env.at early) args s = (.ok event, s₁) →
    finalizeUsage (env.at finish) usage s₁ = (.ok receipt, s₂) → finalizeUsage (env.at finish') usage s = (.ok receipt', s') →
    ∀ again first again', (deliveries env args again s₂).reconciliation usage.reservationId (args.payload env) =
      (deliveries env args (first :: again') s').reconciliation usage.reservationId (args.payload env)

/-- Deliveries that repeat a stored event leave the store as it is. -/
theorem deliveries_known {env : Env} {args : EventArgs} {s : Store} {event : ProviderEvent}
    (h : s.eventOf (args.payload env) = some event) (moments : List (String × String)) : deliveries env args moments s = s := by
  unfold deliveries
  induction moments with
  | nil => rfl
  | cons moment moments ih =>
    have hstep : (reconcileProviderEvent (env.at moment) args s).2 = s := reconcile_known h
    rw [List.foldl_cons, hstep]
    exact ih

/-- Deliveries of an event whose request a reservation has are never stored as orphaned. -/
theorem deliveries_settled {env : Env} {args : EventArgs} {requestId : String}
    (hid : truthy (args.payload env).providerRequestId = some requestId) (moments : List (String × String)) {s : Store}
    (hreq : s.Requested (args.payload env) requestId) (hset : s.Settled (args.payload env)) :
    (deliveries env args moments s).Settled (args.payload env) := by
  unfold deliveries
  induction moments generalizing s with
  | nil => exact hset
  | cons moment moments ih =>
    have hid' : truthy (args.payload (env.at moment)).providerRequestId = some requestId := hid
    obtain ⟨hreq', hset'⟩ := reconcile_settled hid' hreq hset
    exact ih hreq' hset'

/-- In any reachable store, for any reservation and any event of its provider request that was not delivered yet: the event accepted
before the usage is recorded, and redelivered after it, comes to something else than the event that first arrives after it. -/
theorem arrival_order_matters (env : Env) (cs : List StoreCall) (usage : UsageArgs) (args : EventArgs) {r : Reservation}
    (hrow : (Store.empty.after cs).reservation usage.reservationId = some r) (hst : r.status = .reserved)
    (hprovider : (args.payload env).provider = r.selected.provider)
    (hid : (args.payload env).providerRequestId = some (strip usage.providerRequestId))
    (hnew : (Store.empty.after cs).eventOf (args.payload env) = none) {early finish finish' : String × String}
    {event : ProviderEvent} {receipt receipt' : UsageReceipt} {s₁ s₂ s' : Store}
    (hearly : reconcileProviderEvent (env.at early) args (Store.empty.after cs) = (.ok event, s₁))
    (hthen : finalizeUsage (env.at finish) usage s₁ = (.ok receipt, s₂))
    (hlate : finalizeUsage (env.at finish') usage (Store.empty.after cs) = (.ok receipt', s')) (again : List (String × String))
    (first : String × String) (again' : List (String × String)) :
    (deliveries env args again s₂).reconciliation usage.reservationId (args.payload env) ≠
      (deliveries env args (first :: again') s').reconciliation usage.reservationId (args.payload env) := by
  obtain ⟨hevents', hnonempty, hothers, r', hr', hprovider', hreq'⟩ := finalizeUsage_returned hlate hrow hst
  have hrequest : truthy (args.payload env).providerRequestId = some (strip usage.providerRequestId) := by
    rw [hid]
    exact if_neg hnonempty
  -- no reservation has the request id yet, so the early event is orphaned
  have hnone : (Store.empty.after cs).reservationOf (args.payload env) = none := by
    refine Option.eq_none_iff_forall_ne_some.2 (fun q hq => ?_)
    obtain ⟨row, hmem, hpr, hreq⟩ := (reservationOf_isSome hrequest).1 ⟨q, hq⟩
    by_cases hne : row.id = usage.reservationId
    · obtain ⟨hrmem, hrid⟩ := Store.reservation_eq_some hrow
      obtain rfl := List.inj_on_of_nodup_map (budget_after cs).reservationIds hmem hrmem (hne.trans hrid.symm)
      rw [unused_after cs row hmem hst] at hreq
      cases hreq
    · exact hothers row hmem hne (hpr.trans hprovider) hreq
  obtain ⟨horphaned, hpayload, hevents, hrows⟩ := reconcile_orphaned hearly hnew hnone
  have hrow₁ : s₁.reservation usage.reservationId = some r := by
    unfold Store.reservation
    rw [hrows]
    exact hrow
  obtain ⟨hevents₂, -⟩ := finalizeUsage_returned hthen hrow₁ hst
  have hfound : s₂.eventOf (args.payload env) = some event := by
    unfold Store.eventOf at hnew ⊢
    rw [hevents₂, hevents, List.find?_append, hnew, Option.none_or]
    exact List.find?_cons_of_pos (decide_eq_true ⟨congrArg EventPayload.provider hpayload,
      congrArg EventPayload.providerEventId hpayload⟩)
  -- the late one is not
  have hset : s'.Settled (args.payload env) := by
    intro e he
    unfold Store.eventOf at hnew he
    rw [hevents', hnew] at he
    cases he
  have hsettled := deliveries_settled hrequest (first :: again') ⟨r', hr', hprovider'.trans hprovider.symm, hreq'⟩ hset
  intro hsame
  have hevent := congrArg Reconciliation.event hsame
  unfold Store.reconciliation at hevent
  rw [deliveries_known hfound] at hevent
  dsimp only at hevent
  rw [hfound] at hevent
  obtain ⟨e, he, hstatus⟩ := Option.map_eq_some_iff.1 hevent.symm
  exact hsettled e he (hstatus.trans horphaned)

/-- A usage of the reservation of `playCalls`. -/
def playUsage : UsageArgs := ⟨"id", ⟨10, 10, 0, 0⟩, "request", String.ofList (List.replicate 64 'a'), "ok", none⟩

/-- The provider's event of that usage, at its cost. -/
def playArgs : EventArgs := ⟨"provider", "event", some "request", 20, some 10, some 10, none, none, 1000⟩

/-- Code that returned. -/
theorem returned_of_isOk {α : Type} {x : Operation α} {s : Store} (h : (x s).1.isOk = true) : ∃ a, x s = (.ok a, (x s).2) := by
  generalize x s = out at h
  obtain ⟨r, s'⟩ := out
  cases r with
  | ok a => exact ⟨a, rfl⟩
  | error e => cases h

/-- The store after the event, the usage after it, and the usage alone. -/
def playEarly : Store := (reconcileProviderEvent (playEnv.at ("early", "first")) playArgs (Store.empty.after playCalls)).2

def playThen : Store := (finalizeUsage (playEnv.at ("then", "receipt")) playUsage playEarly).2

def playLate : Store := (finalizeUsage (playEnv.at ("then", "receipt")) playUsage (Store.empty.after playCalls)).2

theorem play_early : ∃ event, reconcileProviderEvent (playEnv.at ("early", "first")) playArgs (Store.empty.after playCalls) =
    (.ok event, playEarly) :=
  returned_of_isOk (by decide +kernel)

theorem play_then : ∃ receipt, finalizeUsage (playEnv.at ("then", "receipt")) playUsage playEarly = (.ok receipt, playThen) :=
  returned_of_isOk (by decide +kernel)

theorem play_late : ∃ receipt, finalizeUsage (playEnv.at ("then", "receipt")) playUsage (Store.empty.after playCalls) =
    (.ok receipt, playLate) :=
  returned_of_isOk (by decide +kernel)

/-- The event is orphaned when it comes first, and confirmed when it comes after the usage. -/
theorem arrival_order_differs : ¬ OrderIndependent playEnv playUsage playArgs (Store.empty.after playCalls) := by
  intro h
  obtain ⟨event, hearly⟩ := play_early
  obtain ⟨receipt, hthen⟩ := play_then
  obtain ⟨receipt', hlate⟩ := play_late
  have hsame := h _ _ _ _ _ _ _ _ _ hearly hthen hlate [] ("late", "first") []
  revert hsame
  decide +kernel

/-- The same with a redelivery. -/
theorem arrival_order_play : (deliveries playEnv playArgs [("again", "second")] playThen).reconciliation "id" (playArgs.payload playEnv) ≠
    (deliveries playEnv playArgs [("late", "first")] playLate).reconciliation "id" (playArgs.payload playEnv) := by
  obtain ⟨event, hearly⟩ := play_early
  obtain ⟨receipt, hthen⟩ := play_then
  obtain ⟨receipt', hlate⟩ := play_late
  have hnew : (Store.empty.after playCalls).eventOf (playArgs.payload playEnv) = none := by decide +kernel
  have hid : (playArgs.payload playEnv).providerRequestId = some (strip playUsage.providerRequestId) := by decide +kernel
  exact arrival_order_matters playEnv playCalls playUsage playArgs rfl rfl rfl hid hnew hearly hthen hlate _ _ _

/-! ## Token spend

What holds of the token-spend tables after any operations, those that raise included (`token_budget_kept`). A call may cost more
than was reserved for it, so a policy can spend more than its budget; it is paused then, and stays paused. -/

/-- The reservations of a policy in a status. -/
def Store.inStatus (s : Store) (policyId : String) (status : ReservationStatus) : List Reservation :=
  s.reservations.filter (fun r => decide (r.policyId = policyId) && decide (r.status = status))

/-- A preflight that made a reservation left its policy within the budget. -/
theorem preflight_within {env : Env} {args : PreflightArgs} {r : Reservation} {s s' : Store} (hb : Budget s)
    (h : preflight env args s = (.ok r, s')) (hnew : s'.reservations ≠ s.reservations) :
    ∃ p, s'.policy r.policyId = some p ∧ p.spentMicrousd + p.reservedMicrousd ≤ p.budgetMicrousd := by
  have hb' : Budget s' := (preflight_change env args s _ s' h).budget hb
  rcases preflight_ok h with ⟨rfl, -⟩ | ⟨p, hp, -, -, -, -, -, hfits, rfl⟩
  · exact absurd rfl hnew
  · obtain ⟨hmem, hid⟩ := Store.policy_eq_some hp
    have hfind := find?_key hb'.policyIds (mem_updateKey.2 (Or.inl ⟨p, hmem, hid, rfl⟩))
    refine ⟨_, hid ▸ hfind, ?_⟩
    dsimp only
    omega

end TokenSpend

end Archisynapse
