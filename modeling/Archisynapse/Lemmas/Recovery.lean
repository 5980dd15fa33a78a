import Archisynapse.Lemmas.GatewayRetry
import Archisynapse.Lemmas.Services

/-!
# Replaying the recovery queues

A replay queues every event of the ledger's queue again (`replayLedger_wp`) and records in analytics events of the queue of analytics
only (`replayAnalytics_wp`). The events in the ledger's queue have no ledger transaction, in every state reached by requests and
replays (`Reached.unposted`).
-/

namespace Archisynapse

namespace Gateway

variable {env : ServicesEnv} {ok : Answers → Prop}

/-! ## The ledger's queue -/

/-- No event of the ledger's queue has a ledger transaction. -/
def State.Unposted (s : State) : Prop := ∀ e ∈ s.ledgerQueue, (truthy e.ledgerTransactionId).isNone

/-- An event is queued for the ledger. -/
def State.Queued (s : State) (correlationId : String) : Prop := ∃ e ∈ s.ledgerQueue, e.correlationId = correlationId

/-- What queueing an event again does. -/
theorem requeue_queue (s : Services) (event : CanonicalEvent) :
    (s.requeue event).gateway.ledgerQueue = withoutEvent event.correlationId s.gateway.ledgerQueue ++
      [{ event with ledgerError := some ledgerNotFound }] := rfl

theorem mem_withoutEvent {correlationId : String} {queue : List CanonicalEvent} {e : CanonicalEvent} :
    e ∈ withoutEvent correlationId queue ↔ e ∈ queue ∧ e.correlationId ≠ correlationId := by
  simp [withoutEvent]

theorem requeue_unposted {s : Services} (h : s.gateway.Unposted) {event : CanonicalEvent}
    (hevent : (truthy event.ledgerTransactionId).isNone) : (s.requeue event).gateway.Unposted := by
  intro e he
  rw [requeue_queue] at he
  rcases List.mem_append.1 he with he | he
  · exact h e (mem_withoutEvent.1 he).1
  · rw [List.mem_singleton.1 he]
    exact hevent

/-- An event that is queued again is queued, and the others stay queued. -/
theorem requeue_queued {s : Services} {event : CanonicalEvent} {correlationId : String}
    (h : s.gateway.Queued correlationId ∨ event.correlationId = correlationId) : (s.requeue event).gateway.Queued correlationId := by
  unfold State.Queued
  rw [requeue_queue]
  by_cases hevent : event.correlationId = correlationId
  · exact ⟨_, List.mem_append_right _ (List.mem_singleton_self _), hevent⟩
  · obtain ⟨e, he, hid⟩ := h.resolve_right hevent
    exact ⟨e, List.mem_append_left _ (mem_withoutEvent.2 ⟨he, fun h => hevent (h.symm.trans hid)⟩), hid⟩

/-- The services after all events of a queue were queued for the ledger again. -/
theorem requeueAll_analytics (q : List CanonicalEvent) (s : Services) :
    (q.foldl Services.requeue s).analytics = s.analytics ∧
      (q.foldl Services.requeue s).gateway.analyticsQueue = s.gateway.analyticsQueue := by
  induction q generalizing s with
  | nil => exact ⟨rfl, rfl⟩
  | cons e q ih => exact ih (s.requeue e)

theorem requeueAll_unposted {q : List CanonicalEvent} (hq : ∀ e ∈ q, (truthy e.ledgerTransactionId).isNone) {s : Services}
    (h : s.gateway.Unposted) : (q.foldl Services.requeue s).gateway.Unposted := by
  induction q generalizing s with
  | nil => exact h
  | cons e q ih =>
    exact ih (fun e' he' => hq e' (List.mem_cons_of_mem e he')) (requeue_unposted h (hq e List.mem_cons_self))

theorem requeueAll_queued {q : List CanonicalEvent} {s : Services} {correlationId : String}
    (h : s.gateway.Queued correlationId) : (q.foldl Services.requeue s).gateway.Queued correlationId := by
  induction q generalizing s with
  | nil => exact h
  | cons e q ih => exact ih (requeue_queued (Or.inl h))

/-- The loop over the ledger's queue finds no transaction: it queues every event again. -/
theorem replayLedger_wp (keys : AnalyticsKeys) {q : List CanonicalEvent} (hq : ∀ e ∈ q, (truthy e.ledgerTransactionId).isNone)
    {s : Services} :
    (replayLedger env.gateway keys q).wp (Served env ok) (.alone Services)
      (fun r s' => r = .ok 0 ∧ s' = q.foldl Services.requeue s) s := by
  induction q generalizing s with
  | nil => exact ⟨rfl, rfl⟩
  | cons event q ih =>
    unfold replayLedger
    rw [Prog.wp_bind]
    refine Prog.wp_mono ?_ _ (reconcile_wp event)
    rintro r s' ⟨rfl, rfl⟩
    have hnone : ¬ (truthy event.ledgerTransactionId).isSome := by
      rw [Option.not_isSome_iff_eq_none, ← Option.isNone_iff_eq_none]
      exact hq event List.mem_cons_self
    dsimp only
    rw [if_neg hnone]
    exact ih (fun e he => hq e (List.mem_cons_of_mem event he))

/-! ## The queue of analytics -/

/-- What the loop over the queue of analytics leaves: the ledger's queue, and in analytics only rows that were there or are of events
of the queue. -/
structure Replays (q : List CanonicalEvent) (s s' : Services) : Prop where
  queue : s'.gateway.ledgerQueue = s.gateway.ledgerQueue
  rows : ∀ row ∈ s'.analytics.transactions, row ∈ s.analytics.transactions ∨ ∃ e ∈ q, row.event.eventId = some e.eventId

/-- Recording one event, as a part of the loop. -/
theorem Recording.replays {apiKey : Option String} {event event' : CanonicalEvent} {q : List CanonicalEvent} {s s' s'' : Services}
    (h : Recording env ok apiKey event s event' s') (hrest : Replays q s' s'') : Replays (event :: q) s s'' := by
  refine ⟨hrest.queue.trans h.queue, fun row hrow => ?_⟩
  rcases hrest.rows row hrow with hrow | ⟨e, he, hid⟩
  · rcases h.effect with ⟨-, merchant, ch, -, -, hrows⟩ | ⟨-, hrows⟩
    · rw [hrows] at hrow
      rcases List.mem_append.1 hrow with hrow | hrow
      · exact Or.inl hrow
      · rw [List.mem_singleton.1 hrow]
        exact Or.inr ⟨event, List.mem_cons_self, rfl⟩
    · rw [hrows] at hrow
      exact Or.inl hrow
  · exact Or.inr ⟨e, List.mem_cons_of_mem event he, hid⟩

/-- The loop over the queue of analytics. -/
theorem replayAnalytics_wp (keys : AnalyticsKeys) (q : List CanonicalEvent) {s : Services} :
    (replayAnalytics env.gateway keys q).wp (Served env ok) (.alone Services)
      (fun r s' => (∃ n, r = .ok n) ∧ Replays q s s') s := by
  induction q generalizing s with
  | nil => exact ⟨⟨0, rfl⟩, rfl, fun row hrow => Or.inl hrow⟩
  | cons event q ih =>
    unfold replayAnalytics
    rw [Prog.wp_bind]
    refine Prog.wp_mono ?_ _ (recordAnalytics_wp event (keys event.merchantId))
    rintro r s' ⟨event', rfl, hrecording⟩
    dsimp only
    split
    · rw [Prog.wp_bind]
      refine step_wp (fun ch _ => ?_)
      change Prog.wp _ _ (replayAnalytics env.gateway keys q >>= _) _ _
      rw [Prog.wp_bind]
      refine Prog.wp_mono ?_ _ ih
      rintro r' s'' ⟨⟨n, rfl⟩, hrest⟩
      exact ⟨⟨n + 1, rfl⟩, hrecording.replays ⟨hrest.queue, hrest.rows⟩⟩
    · refine Prog.wp_mono ?_ _ ih
      rintro r' s'' ⟨hr, hrest⟩
      exact ⟨hr, hrecording.replays hrest⟩

/-! ## A replay -/

/-- A program of the gateway among the services runs to its end, and its postcondition holds there. -/
theorem services_run (env : ServicesEnv) (answers : Nat → Answers) {α : Type} {p : Program α} {s : Services}
    {Q : Except GatewayError α → Services → Prop} (hp : p.wp (Served env (fun _ => True)) (.alone Services) Q s) :
    ∃ r s', p.run (Services.exec env) answers 0 s = some (r, s') ∧ Q r s' := by
  obtain ⟨r, s', hrun, -⟩ := Prog.run_isSome (Services.exec env) answers (P := fun _ => True)
    (fun o ch s _ => ⟨_, _, rfl, trivial⟩) p (n := 0) (s := s) trivial
  have hpost := (Prog.wp_run (S := signature) (Services.exec env)
    (fun o ch s r s' he => (⟨ch, trivial, Option.some.inj he⟩ : Served env (fun _ => True) o s r s')) (fun _ => rfl) p trivial hp
    hrun).2
  exact ⟨r, s', hrun, hpost⟩

/-- What a replay does when no event of the ledger's queue has a ledger transaction. -/
theorem replay_runs (keys : AnalyticsKeys) (answers : Nat → Answers) {s : Services} (h : s.gateway.Unposted) :
    ∃ n s', s.replayPendingRecoveries env keys answers =
        some (.ok ⟨s.gateway.ledgerQueue.length, 0, s.gateway.analyticsQueue.length, n⟩, s') ∧
      Replays s.gateway.analyticsQueue (s.gateway.ledgerQueue.foldl Services.requeue s) s' := by
  obtain ⟨r, s₁, hrun, rfl, rfl⟩ := services_run env answers (replayLedger_wp keys h)
  obtain ⟨r, s₂, hrun', ⟨n, rfl⟩, hreplays⟩ := services_run env answers
    (replayAnalytics_wp keys (s.gateway.ledgerQueue.foldl Services.requeue s).gateway.analyticsQueue)
  rw [(requeueAll_analytics s.gateway.ledgerQueue s).2] at hreplays
  refine ⟨n, s₂, ?_, hreplays⟩
  unfold Services.replayPendingRecoveries
  rw [hrun]
  dsimp only
  rw [hrun', (requeueAll_analytics s.gateway.ledgerQueue s).2]
  rfl

/-- An event of the ledger's queue is in it after a replay. -/
theorem Replays.queued {s s' : Services} (h : Replays s.gateway.analyticsQueue (s.gateway.ledgerQueue.foldl Services.requeue s) s')
    {e : CanonicalEvent} (he : e ∈ s.gateway.ledgerQueue) : s'.gateway.Queued e.correlationId := by
  unfold State.Queued
  rw [h.queue]
  exact requeueAll_queued ⟨e, he, rfl⟩

/-! ## What is reached -/

/-- A call queues no event for the ledger that has a ledger transaction. -/
def QueuesUnposted : Action → Prop
  | .pushRecoveryItem .ledger e => (truthy e.ledgerTransactionId).isNone
  | _ => True

theorem QueuesUnposted.of_serves {event : CanonicalEvent} {o : Action} (h : Serves event o) : QueuesUnposted o := by
  cases o with
  | pushRecoveryItem file e =>
    cases file with
    | ledger => exact h.2 rfl
    | analytics => trivial
  | _ => trivial

/-- A call that is answered leaves events without a ledger transaction. -/
theorem unposted_perform {config : StoreConfig} {o : Action} (ho : QueuesUnposted o) (ch : Choice) {s : State} (h : s.Unposted) :
    (s.perform config ch o).2.Unposted := by
  cases o with
  | pushRecoveryItem file e =>
    cases file with
    | ledger =>
      intro e' he'
      rcases List.mem_append.1 he' with he' | he'
      · exact h e' (mem_withoutEvent.1 he').1
      · rw [List.mem_singleton.1 he']
        exact ho
    | analytics => exact h
  | removeRecoveryItem file correlationId =>
    cases file with
    | ledger => exact fun e' he' => h e' (mem_withoutEvent.1 he').1
    | analytics => exact h
  | _ => exact h

/-- Requests keep events without a ledger transaction in the ledger's queue. -/
theorem unposted_run {config : StoreConfig} {env : Env} {C : (machine config env).Cond} {s : State} (hs : s.Unposted)
    {cfg : (machine config env).Config} (hrun : (machine config env).Run C (.init _ s) cfg) : cfg.state.Unposted := by
  refine hrun.keeps_calls (A := QueuesUnposted) (J := State.Unposted)
    (fun c : PaymentCall => route_calls c (fun _ => .of_serves) trivial (fun _ => trivial) (fun _ => trivial) (fun _ => trivial))
    (fun _ o ch s r s' ho _ h he => ?_) (fun _ _ h => h) hs
  rcases exec_cases he with hr | ⟨e, -, rfl | rfl⟩
  · rw [(Prod.mk.inj hr).2]
    exact unposted_perform ho ch h
  · exact h
  · exact unposted_perform ho ch h

/-- What requests and replays reach, whatever happens in the ledger and in analytics meanwhile. -/
inductive Reached (env : ServicesEnv) : Services → Prop where
  | start (merchants : List MerchantRow) (ledger : Ledger.Tables) (analytics : Analytics.Tables) :
      Reached env ⟨⟨⟨merchants, [], []⟩, [], []⟩, ledger, analytics⟩
  | requests {s : Services} (h : Reached env s) (cfg : (machine env.config env.gateway).Config)
      (hrun : (machine env.config env.gateway).Run (.any _) (.init _ s.gateway) cfg) (ledger : Ledger.Tables)
      (analytics : Analytics.Tables) : Reached env ⟨cfg.state, ledger, analytics⟩
  | replay {s : Services} (h : Reached env s) (keys : AnalyticsKeys) (answers : Nat → Answers)
      (r : Except GatewayError ReplayCounts) (s' : Services)
      (hreplay : s.replayPendingRecoveries env keys answers = some (r, s')) : Reached env s'

/-- In every state reached the events of the ledger's queue have no ledger transaction. -/
theorem Reached.unposted {s : Services} (h : Reached env s) : s.gateway.Unposted := by
  induction h with
  | start merchants ledger analytics => exact fun e he => nomatch he
  | requests h cfg hrun ledger analytics ih => exact unposted_run ih hrun
  | replay h keys answers r s' hreplay ih =>
    rename_i s
    obtain ⟨n, s₁, hrun, hreplays⟩ := replay_runs keys answers ih
    rw [hreplay] at hrun
    obtain rfl := (Prod.mk.inj (Option.some.inj hrun)).2
    unfold State.Unposted
    rw [hreplays.queue]
    exact requeueAll_unposted ih ih

end Gateway

end Archisynapse
