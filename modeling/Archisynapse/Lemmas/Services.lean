import Archisynapse.Gateway.Services
import Archisynapse.Lemmas.GatewayRuns

/-!
# The gateway among services that answer

What a step of the loop does when the ledger and analytics answer as their code does. The query of the ledger is for a path without a
handler, so it finds nothing and the event is queued (`reconcile_wp`). A payment is recorded in analytics once and completed, or not
recorded and not completed (`processPayment_wp`).
-/

namespace Archisynapse

namespace Gateway

variable {env : ServicesEnv} {ok : Answers → Prop} {s : Services} {β : Type}

/-! ## Calls -/

/-- A call answered, with answers of the environment that satisfy `ok`. -/
def Served (env : ServicesEnv) (ok : Answers → Prop) (o : Action) (s : Services) (r : Except GatewayError o.Result)
    (s' : Services) : Prop :=
  ∃ ch, ok ch ∧ s.perform env ch o = (r, s')

/-- A call of a step, and how the step goes on. -/
theorem attempt_wp {o : Action} {f : Except GatewayError o.Result → Program β} {Q : Except GatewayError β → Services → Prop}
    (h : ∀ ch, ok ch → (f (s.perform env ch o).1).wp (Served env ok) (.alone Services) Q (s.perform env ch o).2) :
    (attempt o >>= f).wp (Served env ok) (.alone Services) Q s := by
  rintro s₁ rfl - r s₂ ⟨ch, hok, hperform⟩
  have hstep := h ch hok
  rw [hperform] at hstep
  exact ⟨trivial, trivial, hstep⟩

/-- A call of a program. -/
theorem step_wp {o : Action} {Q : Except GatewayError o.Result → Services → Prop}
    (h : ∀ ch, ok ch → Q (s.perform env ch o).1 (s.perform env ch o).2) :
    (step o).wp (Served env ok) (.alone Services) Q s := by
  refine (Prog.wp_perform (S := signature) o s).2 ?_
  rintro s₁ rfl - r s₂ ⟨ch, hok, hperform⟩
  have hstep := h ch hok
  rw [hperform] at hstep
  exact ⟨trivial, trivial, hstep⟩

/-- A step after another one. -/
theorem andThen_wp {stage : Stage} {next : CanonicalEvent → Stage} {P : CanonicalEvent → Services → Prop}
    {Q : Except GatewayError (CanonicalEvent × Option GatewayError) → Services → Prop}
    (hs : stage.wp (Served env ok) (.alone Services) (fun r s' => match r with
      | .ok (event, none) => P event s'
      | r => Q r s') s)
    (hn : ∀ event s', P event s' → (next event).wp (Served env ok) (.alone Services) Q s') :
    (andThen stage next).wp (Served env ok) (.alone Services) Q s := by
  unfold andThen
  rw [Prog.wp_bind]
  refine Prog.wp_mono ?_ _ hs
  rintro (e | ⟨event, _ | e⟩) s' hr
  · exact hr
  · exact hn event s' hr
  · exact hr

/-- The query of the ledger is for a path without a handler. -/
theorem queryLedger_missing (env : ServicesEnv) (s : Services) (merchantId : String) :
    (s.queryLedger env merchantId).statusCode ≠ 200 := by
  unfold Services.queryLedger Ledger.Tables.get
  by_cases h : merchantId = "" ∧ ["transactions"] ≠ ["health"] ∧ ["transactions"] ≠ ["ready"]
  · rw [if_pos h]
    exact (by decide : (401 : Nat) ≠ 200)
  · rw [if_neg h]
    exact (by decide : (404 : Nat) ≠ 200)

/-- The row analytics adds for a request at a time. -/
def analyticsRow (id : Nat) (merchant : Analytics.MerchantRow) (req : AnalyticsRequest) (now : Int) : Analytics.TransactionRow :=
  ⟨id, merchant.merchantId, req.body, now⟩

/-- A request to analytics adds a row for the merchant of its key and is answered 200, or does nothing and is not. -/
theorem record_cases (env : ServicesEnv) (s : Services) (ch : Answers) (req : AnalyticsRequest) :
    (∃ merchant, s.analytics.getCurrentMerchant env.hashValue req.apiKey = .ok merchant ∧
      s.perform env ch (.recordTransaction req) =
        (.ok ⟨200, "", .ok (s.analytics.transactions.length + 1)⟩, { s with analytics := { s.analytics with
          transactions := s.analytics.transactions ++
            [analyticsRow (s.analytics.transactions.length + 1) merchant req ch.now] } })) ∨
    ∃ statusCode, statusCode ≠ 200 ∧
      s.perform env ch (.recordTransaction req) = (.ok (.refused statusCode), s) := by
  cases hmerchant : s.analytics.getCurrentMerchant env.hashValue req.apiKey with
  | ok merchant =>
    refine Or.inl ⟨merchant, rfl, ?_⟩
    simp only [Services.perform, Analytics.Tables.recordTransaction, hmerchant]
    rfl
  | error statusCode =>
    refine Or.inr ⟨statusCode, ?_, ?_⟩
    · unfold Analytics.Tables.getCurrentMerchant at hmerchant
      split at hmerchant
      · cases hmerchant
        decide
      · split at hmerchant
        · cases hmerchant
        · cases hmerchant
          decide
    · simp only [Services.perform, Analytics.Tables.recordTransaction, hmerchant]
      rfl

/-- A call that is no record in analytics leaves it. -/
theorem perform_unrecorded {o : Action} (ho : Unrecorded o) (ch : Answers) : (s.perform env ch o).2.analytics = s.analytics := by
  cases o with
  | recordTransaction req => exact ho.elim
  | _ => rfl

/-- A step before analytics leaves it. -/
theorem prepares_wp {stage : Stage} {event : CanonicalEvent} (h : Prepares stage event) :
    stage.wp (Served env ok) (.alone Services)
      (fun r s' => s'.analytics = s.analytics ∧ ∃ a, r = .ok a ∧ event.Same a.1 ∧
        a.1.analyticsRecorded = event.analyticsRecorded) s := by
  refine Prog.Gives.wp (M := fun a b : Services => b.analytics = a.analytics) ?_ ?_ h rfl
  · rintro a b c hb rfl
    exact hb
  · rintro o a r a' ⟨-, ho⟩ - ⟨ch, -, hperform⟩
    refine ⟨trivial, trivial, fun b hb => ?_⟩
    have hkept := @perform_unrecorded env a o ho ch
    rw [hperform] at hkept
    exact hkept.trans hb

/-! ## Analytics -/

/-- The request that records an event. -/
def CanonicalEvent.analyticsRequest (env : Env) (event : CanonicalEvent) (apiKey : Option String) : AnalyticsRequest :=
  ⟨truthy apiKey, event.customerId, env.minorToDollars event.amountMinor, env.minorToDollars event.feeMinor, event.currency,
    event.paymentMethodType, event.country, event.correlationId, event.eventId, event.transactionId⟩

/-- Analytics has one row more, that of an event, recorded with the key at a time that is `ok`. -/
def RecordsEvent (env : ServicesEnv) (ok : Answers → Prop) (apiKey : Option String) (event : CanonicalEvent)
    (a a' : Analytics.Tables) : Prop :=
  ∃ merchant ch, ok ch ∧ a.getCurrentMerchant env.hashValue (truthy apiKey) = .ok merchant ∧
    a' = { a with transactions := a.transactions ++
      [analyticsRow (a.transactions.length + 1) merchant (event.analyticsRequest env.gateway apiKey) ch.now] }

/-- What recording an event does: it is recorded and taken off the queue of analytics, or it is not and is queued there. The ledger
and its queue are left. -/
structure Recording (env : ServicesEnv) (ok : Answers → Prop) (apiKey : Option String) (event : CanonicalEvent) (s : Services)
    (event' : CanonicalEvent) (s' : Services) : Prop where
  same : event.Same event'
  queue : s'.gateway.ledgerQueue = s.gateway.ledgerQueue
  effect : (event'.analyticsRecorded = true ∧ RecordsEvent env ok apiKey event s.analytics s'.analytics) ∨
    (event'.analyticsRecorded = event.analyticsRecorded ∧ s'.analytics = s.analytics)

/-- Recording an event. -/
theorem recordAnalytics_wp (event : CanonicalEvent) (apiKey : Option String) :
    (recordAnalytics env.gateway event apiKey).wp (Served env ok) (.alone Services)
      (fun r s' => ∃ event', r = .ok (event', none) ∧ Recording env ok apiKey event s event' s') s := by
  unfold recordAnalytics
  refine attempt_wp (fun ch hch => ?_)
  rcases record_cases env s ch (event.analyticsRequest env.gateway apiKey) with
    ⟨merchant, hmerchant, hperform⟩ | ⟨statusCode, hstatus, hperform⟩
  · unfold CanonicalEvent.analyticsRequest at hperform
    rw [hperform]
    simp only [if_true]
    unfold recover
    refine attempt_wp (fun ch' _ => ?_)
    exact ⟨_, rfl, rfl, rfl, Or.inl ⟨rfl, merchant, ch, hch, hmerchant, rfl⟩⟩
  · unfold CanonicalEvent.analyticsRequest at hperform
    rw [hperform]
    have hrefused : (Response.refused (β := Nat) statusCode).statusCode ≠ 200 := hstatus
    dsimp only
    rw [if_neg hrefused]
    unfold queueAnalyticsRecovery recover
    refine attempt_wp (fun ch' _ => ?_)
    exact ⟨_, rfl, rfl, rfl, Or.inr ⟨rfl, rfl⟩⟩

/-! ## The ledger -/

/-- The services after an event was queued for the ledger again. -/
def Services.requeue (s : Services) (event : CanonicalEvent) : Services :=
  { s with
    gateway := s.gateway.rewrite .ledger fun q =>
      withoutEvent event.correlationId q ++ [{ event with ledgerError := some ledgerNotFound }] }

/-- The event of a payment that the ledger does not find: it is queued with the error. -/
theorem reconcile_wp (event : CanonicalEvent) :
    (reconcileMissingLedger event).wp (Served env ok) (.alone Services)
      (fun r s' => r = .ok ({ event with ledgerError := some ledgerNotFound }, none) ∧ s' = s.requeue event) s := by
  unfold reconcileMissingLedger
  refine attempt_wp (fun ch _ => ?_)
  have hmissing := queryLedger_missing env s event.merchantId
  simp only [Services.perform]
  rw [if_neg hmissing]
  unfold queueLedgerRecovery recover
  refine attempt_wp (fun ch' _ => ?_)
  exact ⟨rfl, rfl⟩

/-! ## A payment -/

/-- Analytics has one row more: a completed one of an amount, for the merchant of the key, at a time that is `ok`. -/
def Books (env : ServicesEnv) (ok : Answers → Prop) (apiKey : Option String) (amount : ℚ) (a a' : Analytics.Tables) : Prop :=
  ∃ row merchant ch, a' = { a with transactions := a.transactions ++ [row] } ∧ ok ch ∧ row.createdAt = ch.now ∧
    a.getCurrentMerchant env.hashValue (truthy apiKey) = .ok merchant ∧ row.merchantId = merchant.merchantId ∧
    row.event.status = "completed" ∧ row.event.amount = amount

theorem RecordsEvent.books {apiKey : Option String} {event : CanonicalEvent} {a a' : Analytics.Tables}
    (h : RecordsEvent env ok apiKey event a a') : Books env ok apiKey (env.gateway.minorToDollars event.amountMinor) a a' := by
  obtain ⟨merchant, ch, hok, hmerchant, hrows⟩ := h
  exact ⟨_, merchant, ch, hrows, hok, rfl, hmerchant, rfl, rfl, rfl⟩

/-- How the steps of a payment end: the amount is kept, and the event is completed and booked or neither; a step that raised booked
nothing. -/
def Settles (env : ServicesEnv) (ok : Answers → Prop) (apiKey : Option String) (amountMinor : Int) (a : Analytics.Tables) :
    Except GatewayError (CanonicalEvent × Option GatewayError) → Services → Prop
  | .ok (event, none), s' => event.amountMinor = amountMinor ∧
      ((event.status = .completed ∧ Books env ok apiKey (env.gateway.minorToDollars amountMinor) a s'.analytics) ∨
        (event.status ≠ .completed ∧ s'.analytics = a))
  | _, s' => s'.analytics = a

/-- A step before analytics, and the steps after it. -/
theorem prepared_settles {stage : Stage} {next : CanonicalEvent → Stage} {event : CanonicalEvent} {apiKey : Option String}
    (h : Prepares stage event) (hevent : event.analyticsRecorded = false)
    (hn : ∀ (e : CanonicalEvent) (s' : Services), e.analyticsRecorded = false → (next e).wp (Served env ok) (.alone Services)
      (Settles env ok apiKey e.amountMinor s'.analytics) s') :
    (andThen stage next).wp (Served env ok) (.alone Services) (Settles env ok apiKey event.amountMinor s.analytics) s := by
  refine andThen_wp (P := fun e s' => s'.analytics = s.analytics ∧ event.Same e ∧ e.analyticsRecorded = false) ?_ ?_
  · refine Prog.wp_mono ?_ _ (prepares_wp h)
    rintro r s' ⟨hkept, ⟨e, raised⟩, rfl, hsame, hrecorded⟩
    cases raised with
    | none => exact ⟨hkept, hsame, hrecorded.trans hevent⟩
    | some err => exact hkept
  · rintro e s' ⟨hkept, hsame, hrecorded⟩
    have hnext := hn e s' hrecorded
    rw [hkept, hsame.amountMinor] at hnext
    exact hnext

/-- The last steps: analytics, and the status. -/
theorem finish_settles {event : CanonicalEvent} (hevent : event.analyticsRecorded = false) (apiKey : Option String) (s : Services) :
    (finishWithAnalytics env.gateway event apiKey).wp (Served env ok) (.alone Services)
      (Settles env ok apiKey event.amountMinor s.analytics) s := by
  refine andThen_wp (P := fun e s' => Recording env ok apiKey event s e s') ?_ ?_
  · refine Prog.wp_mono ?_ _ (recordAnalytics_wp event apiKey)
    rintro r s' ⟨e, rfl, hrecording⟩
    exact hrecording
  · rintro e s' hrecording
    rcases hrecording.effect with ⟨hrecorded, hrecords⟩ | ⟨hrecorded, hkept⟩
    · rw [if_pos hrecorded]
      exact ⟨hrecording.same.amountMinor, Or.inl ⟨rfl, hrecords.books⟩⟩
    · rw [if_neg (by simp [hrecorded, hevent])]
      exact ⟨hrecording.same.amountMinor, Or.inr ⟨EventStatus.noConfusion, hkept⟩⟩

theorem afterTransaction_settles {event : CanonicalEvent} (hevent : event.analyticsRecorded = false) (apiKey : Option String)
    (s : Services) :
    (afterTransaction env.gateway event apiKey).wp (Served env ok) (.alone Services)
      (Settles env ok apiKey event.amountMinor s.analytics) s := by
  unfold afterTransaction
  split
  · split
    · exact finish_settles hevent apiKey s
    · rename_i hmissing
      have hnone : (truthy event.ledgerTransactionId).isNone := Option.isNone_iff_eq_none.2 (Option.not_isSome_iff_eq_none.1 hmissing)
      refine prepared_settles (prepares_reconcileMissingLedger hnone) hevent (fun e s' he => ?_)
      split
      · exact finish_settles he apiKey s'
      · exact ⟨rfl, Or.inr ⟨EventStatus.noConfusion, rfl⟩⟩
  · exact ⟨rfl, Or.inr ⟨EventStatus.noConfusion, rfl⟩⟩

theorem afterFraud_settles {event : CanonicalEvent} (hevent : event.analyticsRecorded = false) (req : PaymentCreateRequest)
    (credentials : ServiceCredentials) (s : Services) :
    (afterFraud env.gateway event req credentials).wp (Served env ok) (.alone Services)
      (Settles env ok credentials.analyticsApiKey event.amountMinor s.analytics) s := by
  unfold afterFraud
  split
  · exact prepared_settles (prepares_processTransaction event req) hevent (fun e s' he => afterTransaction_settles he _ s')
  · split
    · exact ⟨rfl, Or.inr ⟨EventStatus.noConfusion, rfl⟩⟩
    · exact ⟨rfl, Or.inr ⟨EventStatus.noConfusion, rfl⟩⟩

/-- A payment: its receipt is completed and its amount booked in analytics once, or neither. -/
theorem processPayment_wp (draws : Draws) (m k : String) (req : PaymentCreateRequest) (credentials : ServiceCredentials)
    (s : Services) :
    (processPayment env.gateway draws m k req credentials).wp (Served env ok) (.alone Services)
      (fun r s' => (∃ receipt, r = .ok receipt ∧ receipt.status = .completed ∧
          Books env ok credentials.analyticsApiKey receipt.amount s.analytics s'.analytics) ∨
        ((∀ receipt, r = .ok receipt → receipt.status ≠ .completed) ∧ s'.analytics = s.analytics)) s := by
  unfold processPayment
  dsimp only
  split
  · exact Or.inr ⟨fun receipt h => (nomatch h), rfl⟩
  · rw [Prog.wp_bind]
    refine Prog.wp_mono ?_ _ (prepared_settles (prepares_checkFraud _ _) rfl
      (fun e s' he => afterFraud_settles he req credentials s'))
    rintro (err | ⟨event, _ | err⟩) s' hsettles
    · exact Or.inr ⟨fun receipt h => (nomatch h), hsettles⟩
    · obtain ⟨hamount, ⟨hdone, hbooks⟩ | ⟨hdone, hkept⟩⟩ := hsettles
      · refine Or.inl ⟨_, rfl, hdone, ?_⟩
        change Books env ok _ (env.gateway.minorToDollars event.amountMinor) _ _
        rw [hamount]
        exact hbooks
      · refine Or.inr ⟨fun receipt h => ?_, hkept⟩
        cases h
        exact hdone
    · refine Or.inr ⟨fun receipt h => ?_, hsettles⟩
      cases h
      exact EventStatus.noConfusion

end Gateway

end Archisynapse
