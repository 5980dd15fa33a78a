import Archisynapse.Lemmas.TokenSpendBudget

/-!
# The call-rate check and provider events

When a preflight finds the call-rate limit reached, and what a provider's event does to the stored events: it is stored as orphaned
where no reservation has its request id, and otherwise it is not.
-/

namespace Archisynapse

namespace TokenSpend

open Exec (gets modify transaction Moves Reads)

/-! ## The call-rate check -/

/-- What a preflight raises when it finds the call-rate limit reached. -/
def runaway : TokenError := ⟨.policyPaused, "AI spend policy paused after runaway call-rate detection"⟩

/-- The code raises no `PolicyPaused`. -/
def Unpaused {α : Type} (x : Operation α) : Prop := ∀ s e s', x s = (.error e, s') → e.code ≠ .policyPaused

theorem unpaused_pure {α : Type} (a : α) : Unpaused (pure a : Operation α) := fun _ _ _ h => nomatch (Prod.mk.inj h).1

theorem unpaused_gets {α : Type} (f : Store → α) : Unpaused (gets f : Operation α) := fun _ _ _ h => nomatch (Prod.mk.inj h).1

theorem unpaused_modify (f : Store → Store) : Unpaused (modify f : Operation Unit) := fun _ _ _ h => nomatch (Prod.mk.inj h).1

theorem unpaused_raise {α : Type} {code : ErrorCode} (h : code ≠ .policyPaused) (message : String) :
    Unpaused (raise code message : Operation α) := by
  intro s e s' he
  obtain ⟨he, -⟩ := Prod.mk.inj he
  cases he
  exact h

theorem Unpaused.bind {α β : Type} {x : Operation α} {f : α → Operation β} (hx : Unpaused x) (hf : ∀ a, Unpaused (f a)) :
    Unpaused (x >>= f) := by
  intro s e s' h
  rcases Exec.bind_eq_error h with h | ⟨a, s₁, -, h⟩
  · exact hx s e s' h
  · exact hf a s₁ e s' h

theorem unpaused_ite {α : Type} {c : Prop} [Decidable c] {x y : Operation α} (hx : Unpaused x) (hy : Unpaused y) :
    Unpaused (if c then x else y) := by
  by_cases h : c
  · rw [if_pos h]
    exact hx
  · rw [if_neg h]
    exact hy

theorem unpaused_orRaise {α : Type} {code : ErrorCode} (h : code ≠ .policyPaused) (message : String) (o : Option α) :
    Unpaused (orRaise code message o) := by
  cases o with
  | none => exact unpaused_raise h message
  | some a => exact unpaused_pure a

theorem unpaused_bindIntegers (values : List Int) : Unpaused (bindIntegers values) :=
  unpaused_ite (unpaused_pure ()) (unpaused_raise (by decide) _)

theorem unpaused_selectRoute (env : Env) (policy : Policy) (estimated : Tokens) (available : Int) (sawAllowed sawRate : Bool)
    (routes : List Route) : Unpaused (selectRoute env policy estimated available sawAllowed sawRate routes) := by
  induction routes generalizing sawAllowed sawRate with
  | nil => exact unpaused_pure _
  | cons route routes ih =>
    refine unpaused_ite (ih _ _) ((unpaused_gets _).bind (fun rate => ?_))
    cases rate with
    | none => exact ih _ _
    | some rate =>
      exact (unpaused_orRaise (by decide) _ _).bind (fun cost => unpaused_ite (unpaused_pure _) (ih _ _))

theorem unpaused_reserveRoute (env : Env) (args : PreflightArgs) (route : Route) (rate : RateCard) (cost : Int) :
    Unpaused (reserveRoute env args route rate cost) := by
  refine (unpaused_bindIntegers _).bind (fun _ => ?_)
  refine (unpaused_gets _).bind (fun known => unpaused_ite (unpaused_raise (by decide) _) ?_)
  exact (unpaused_modify _).bind (fun _ => (unpaused_modify _).bind (fun _ => unpaused_pure _))

/-- An active policy is not refused as paused. -/
theorem unpaused_validatePolicyForPreflight (env : Env) {policy : Policy} (h : policy.status = .active) :
    Unpaused (validatePolicyForPreflight env policy) := by
  unfold validatePolicyForPreflight
  rw [if_neg (by rw [h]; decide), if_neg (not_not.2 h)]
  refine (unpaused_orRaise (by decide) _ _).bind (fun now => (unpaused_orRaise (by decide) _ _).bind (fun start => ?_))
  refine (unpaused_orRaise (by decide) _ _).bind (fun finish => unpaused_ite (unpaused_raise (by decide) _) ?_)
  exact unpaused_ite (unpaused_raise (by decide) _) (unpaused_pure ())

/-- The call-rate limit is reached: the key is new, the policy admits the call and its estimates, and as many reservations as the
policy allows in a minute were made in the last one. -/
def CallRateReached (env : Env) (args : PreflightArgs) (s : Store) : Prop :=
  s.reservations.find? (fun r => decide (r.policyId = args.policyId ∧ r.idempotencyKey = args.idempotencyKey)) = none ∧
  ∃ policy, s.policy args.policyId = some policy ∧ validatePolicyForPreflight env policy s = (.ok (), s) ∧
    args.estimated.input ≤ policy.maxInputTokens ∧ args.estimated.output ≤ policy.maxOutputTokens ∧ 0 ≤ args.estimated.min ∧
    policy.maxCallsPerMinute ≤ ((s.reservations.filter (fun r => decide (r.policyId = args.policyId) &&
      decide (env.minuteAgo ≤ r.createdAt))).length : Int)

/-- Where the limit is reached the preflight raises, and the store is as it was. -/
theorem preflight_of_callRateReached {env : Env} {args : PreflightArgs} {s : Store} (h : CallRateReached env args s) :
    preflight env args s = (.error runaway, s) := by
  obtain ⟨hnew, policy, hpolicy, hvalid, hinput, houtput, hmin, hrate⟩ := h
  have hbody : ∃ t, (do
      pausePolicy args.policyId "runaway_call_rate" none
      raise .policyPaused "AI spend policy paused after runaway call-rate detection" : Operation Reservation) s =
        (.error runaway, t) := ⟨_, rfl⟩
  obtain ⟨t, ht⟩ := hbody
  refine Exec.transaction_error (t := t) ?_
  rw [Exec.gets_bind, hnew]
  dsimp only
  rw [Exec.gets_bind, hpolicy]
  dsimp only
  rw [Exec.bind_ok hvalid, if_neg (not_lt.2 hinput), if_neg (not_lt.2 houtput), if_neg (not_lt.2 hmin), Exec.gets_bind,
    if_pos hrate]
  exact ht

/-- A preflight for a policy that is not paused yet raises so only where the limit is reached. -/
theorem callRateReached_of_preflight {env : Env} {args : PreflightArgs} {s s' : Store}
    (h : preflight env args s = (.error runaway, s')) (hactive : ∀ p, s.policy args.policyId = some p → p.status = .active) :
    CallRateReached env args s := by
  -- every other way to end raises something else
  have hother : ∀ {α : Type} {x : Operation α} {s t : Store}, Unpaused x → x s ≠ (.error runaway, t) :=
    fun hx h => hx _ _ _ h rfl
  obtain ⟨t, hbody⟩ := Exec.body_of_transaction_error h
  rcases Exec.bind_eq_error hbody with h₁ | ⟨x, s₁, hx, h₁⟩
  · exact absurd h₁ (hother (unpaused_gets _))
  obtain ⟨hnew, rfl⟩ := Exec.gets_eq_ok.1 hx
  cases x with
  | some existing => exact absurd h₁ (hother (unpaused_ite (unpaused_raise (by decide) _) (unpaused_pure _)))
  | none =>
    rcases Exec.bind_eq_error h₁ with h₂ | ⟨y, s₂, hy, h₂⟩
    · exact absurd h₂ (hother (unpaused_gets _))
    obtain ⟨hpolicy, rfl⟩ := Exec.gets_eq_ok.1 hy
    cases y with
    | none => exact absurd h₂ (hother (unpaused_raise (by decide) _))
    | some policy =>
      rcases Exec.bind_eq_error h₂ with h₃ | ⟨u, s₃, hv, h₃⟩
      · exact absurd h₃ (hother (unpaused_validatePolicyForPreflight env (hactive policy hpolicy)))
      obtain rfl := reads_ok (reads_validatePolicyForPreflight env policy) hv
      by_cases hinput : policy.maxInputTokens < args.estimated.input
      · rw [if_pos hinput] at h₃
        exact absurd h₃ (hother (unpaused_raise (by decide) _))
      rw [if_neg hinput] at h₃
      by_cases houtput : policy.maxOutputTokens < args.estimated.output
      · rw [if_pos houtput] at h₃
        exact absurd h₃ (hother (unpaused_raise (by decide) _))
      rw [if_neg houtput] at h₃
      by_cases hmin : args.estimated.min < 0
      · rw [if_pos hmin] at h₃
        exact absurd h₃ (hother (unpaused_raise (by decide) _))
      rw [if_neg hmin] at h₃
      rcases Exec.bind_eq_error h₃ with h₄ | ⟨recent, s₄, hr, h₄⟩
      · exact absurd h₄ (hother (unpaused_gets _))
      obtain ⟨hrecent, rfl⟩ := Exec.gets_eq_ok.1 hr
      by_cases hrate : policy.maxCallsPerMinute ≤ recent
      · rw [← hrecent] at hrate
        exact ⟨hnew, policy, hpolicy, hv, not_lt.1 hinput, not_lt.1 houtput, not_lt.1 hmin, hrate⟩
      · rw [if_neg hrate] at h₄
        refine absurd h₄ (hother ((unpaused_selectRoute _ _ _ _ _ _ _).bind (fun selection => ?_)))
        refine unpaused_ite (unpaused_raise (by decide) _) (unpaused_ite (unpaused_raise (by decide) _) ?_)
        cases selection.selected with
        | none => exact unpaused_raise (by decide) _
        | some selected => exact unpaused_reserveRoute _ _ _ _ _

/-! ## Provider events -/

/-- A pause leaves events and reservations alone. -/
theorem pauseWhen_keeps {c : Prop} [Decidable c] {policyId reason : String} {reservationId : Option String} {u : Unit}
    {s s' : Store} (h : pauseWhen c policyId reason reservationId s = (.ok u, s')) :
    s'.events = s.events ∧ s'.reservations = s.reservations := by
  rcases Exec.ite_eq_ok.1 h with ⟨-, h₁⟩ | ⟨-, h₁⟩
  · obtain ⟨_, s₁, hm, h₂⟩ := Exec.bind_eq_ok.1 h₁
    obtain rfl := Exec.modify_eq_ok.1 hm
    obtain rfl := Exec.modify_eq_ok.1 h₂
    exact ⟨rfl, rfl⟩
  · obtain ⟨-, rfl⟩ := Exec.pure_eq_ok.1 h₁
    exact ⟨rfl, rfl⟩

/-- The stored event that a delivery repeats. -/
def Store.eventOf (s : Store) (payload : EventPayload) : Option ProviderEvent :=
  s.events.find? (fun e => decide (e.payload.provider = payload.provider ∧ e.payload.providerEventId = payload.providerEventId))

/-- A reservation with the provider and the request id of an event. -/
def Store.Requested (s : Store) (payload : EventPayload) (requestId : String) : Prop :=
  ∃ r ∈ s.reservations, r.selected.provider = payload.provider ∧ r.providerRequestId = some requestId

theorem reservationOf_isSome {s : Store} {payload : EventPayload} {requestId : String}
    (hid : truthy payload.providerRequestId = some requestId) :
    (∃ r, s.reservationOf payload = some r) ↔ s.Requested payload requestId := by
  unfold Store.reservationOf Store.Requested
  rw [hid]
  constructor
  · rintro ⟨r, hr⟩
    have hpred := List.find?_some hr
    exact ⟨r, List.mem_of_find?_eq_some hr, of_decide_eq_true hpred⟩
  · rintro ⟨r, hr, hreq⟩
    refine Option.isSome_iff_exists.1 (List.find?_isSome.2 ⟨r, hr, ?_⟩)
    exact decide_eq_true hreq

/-- A delivery that repeats a stored event leaves the store as it is. -/
theorem reconcile_known {env : Env} {args : EventArgs} {s : Store} {event : ProviderEvent}
    (h : s.eventOf (args.payload env) = some event) : (reconcileProviderEvent env args s).2 = s := by
  unfold reconcileProviderEvent
  split
  · rfl
  · unfold transaction
    dsimp only
    rw [Exec.gets_bind]
    unfold Store.eventOf at h
    rw [h]
    dsimp only
    by_cases hsame : event.payloadSha256 ≠ env.eventHash (args.payload env)
    · rw [if_pos hsame]
      rfl
    · rw [if_neg hsame]
      rfl

/-- The first delivery of an event whose request no reservation has: when it is accepted, it is stored as orphaned. -/
theorem reconcile_orphaned {env : Env} {args : EventArgs} {s s' : Store} {event : ProviderEvent}
    (h : reconcileProviderEvent env args s = (.ok event, s')) (hnew : s.eventOf (args.payload env) = none)
    (hnone : s.reservationOf (args.payload env) = none) :
    event.status = .orphaned ∧ event.payload = args.payload env ∧ s'.events = s.events ++ [event] ∧
      s'.reservations = s.reservations := by
  rcases Exec.ite_eq_ok.1 h with ⟨-, h₁⟩ | ⟨-, h₁⟩
  · exact absurd h₁ (by simp)
  obtain ⟨x, s₁, hx, h₂⟩ := Exec.bind_eq_ok.1 (Exec.transaction_eq_ok.1 h₁)
  obtain ⟨hfound, rfl⟩ := Exec.gets_eq_ok.1 hx
  obtain rfl := hfound.symm.trans hnew
  obtain ⟨y, s₂, hy, h₃⟩ := Exec.bind_eq_ok.1 h₂
  obtain ⟨hrow, rfl⟩ := Exec.gets_eq_ok.1 hy
  obtain rfl := hrow.symm.trans hnone
  obtain ⟨_, s₃, hins, h₄⟩ := Exec.bind_eq_ok.1 h₃
  obtain rfl := insertEvent_ok hins
  obtain ⟨_, s₄, halert, h₅⟩ := Exec.bind_eq_ok.1 h₄
  obtain rfl := Exec.modify_eq_ok.1 halert
  obtain ⟨rfl, rfl⟩ := Exec.pure_eq_ok.1 h₅
  exact ⟨rfl, rfl, rfl, rfl⟩

/-- No event that repeats a delivery is stored as orphaned. -/
def Store.Settled (s : Store) (payload : EventPayload) : Prop := ∀ e, s.eventOf payload = some e → e.status ≠ .orphaned

/-- A delivery of an event whose request a reservation has is never stored as orphaned. -/
theorem reconcile_settled {env : Env} {args : EventArgs} {s : Store} {requestId : String}
    (hid : truthy (args.payload env).providerRequestId = some requestId) (hreq : s.Requested (args.payload env) requestId)
    (hset : s.Settled (args.payload env)) :
    (reconcileProviderEvent env args s).2.Requested (args.payload env) requestId ∧
      (reconcileProviderEvent env args s).2.Settled (args.payload env) := by
  cases hnew : s.eventOf (args.payload env) with
  | some event =>
    rw [reconcile_known hnew]
    exact ⟨hreq, hset⟩
  | none =>
    generalize hrun : reconcileProviderEvent env args s = out
    obtain ⟨r, s'⟩ := out
    cases r with
    | error e =>
      rcases Exec.ite_eq_error.1 hrun with ⟨-, h⟩ | ⟨-, h⟩
      · obtain rfl := (Prod.mk.inj h).2
        exact ⟨hreq, hset⟩
      · obtain rfl := Exec.transaction_eq_error h
        exact ⟨hreq, hset⟩
    | ok event =>
      rcases Exec.ite_eq_ok.1 hrun with ⟨-, h₁⟩ | ⟨-, h₁⟩
      · exact absurd h₁ (by simp)
      obtain ⟨x, s₁, hx, h₂⟩ := Exec.bind_eq_ok.1 (Exec.transaction_eq_ok.1 h₁)
      obtain ⟨hfound, rfl⟩ := Exec.gets_eq_ok.1 hx
      obtain rfl := hfound.symm.trans hnew
      obtain ⟨y, s₂, hy, h₃⟩ := Exec.bind_eq_ok.1 h₂
      obtain ⟨hrow, rfl⟩ := Exec.gets_eq_ok.1 hy
      obtain ⟨row, hsome⟩ := (reservationOf_isSome hid).2 hreq
      obtain rfl := hrow.symm.trans hsome
      obtain ⟨expected, s₃, he, h₄⟩ := Exec.bind_eq_ok.1 h₃
      obtain ⟨-, rfl⟩ := orRaise_eq_ok.1 he
      obtain ⟨percent, s₄, hpc, h₅⟩ := Exec.bind_eq_ok.1 h₄
      obtain ⟨-, rfl⟩ := orRaise_eq_ok.1 hpc
      obtain ⟨_, s₅, hins, h₆⟩ := Exec.bind_eq_ok.1 h₅
      obtain rfl := insertEvent_ok hins
      obtain ⟨_, s₆, hm, h₇⟩ := Exec.bind_eq_ok.1 h₆
      obtain rfl := Exec.modify_eq_ok.1 hm
      obtain ⟨_, s₇, hpause, h₈⟩ := Exec.bind_eq_ok.1 h₇
      obtain ⟨rfl, rfl⟩ := Exec.pure_eq_ok.1 h₈
      obtain ⟨hevents, hrows⟩ := pauseWhen_keeps hpause
      refine ⟨?_, fun e he => ?_⟩
      · obtain ⟨q, hq, hqreq⟩ := hreq
        unfold Store.Requested
        rw [hrows]
        by_cases hid : q.id = row.id
        · exact ⟨_, mem_updateKey.2 (Or.inl ⟨q, hq, hid, rfl⟩), hqreq⟩
        · exact ⟨q, mem_updateKey.2 (Or.inr ⟨hq, hid⟩), hqreq⟩
      · unfold Store.eventOf at he hnew
        rw [hevents] at he
        rcases List.mem_append.1 (List.mem_of_find?_eq_some he) with hmem | hmem
        · have hpred := List.find?_some he
          exact absurd hpred (List.find?_eq_none.1 hnew e hmem)
        · rw [List.mem_singleton.1 hmem]
          dsimp only
          split <;> decide

/-- What a usage that was recorded leaves: no other reservation of the provider had its request id, its own reservation has it, and
the events are as they were. -/
theorem finalizeUsage_returned {env : Env} {args : UsageArgs} {s s' : Store} {receipt : UsageReceipt} {row : Reservation}
    (h : finalizeUsage env args s = (.ok receipt, s')) (hrow : s.reservation args.reservationId = some row)
    (hst : row.status = .reserved) :
    s'.events = s.events ∧ strip args.providerRequestId ≠ "" ∧
      (∀ q ∈ s.reservations, q.id ≠ args.reservationId → q.selected.provider = row.selected.provider →
        q.providerRequestId ≠ some (strip args.providerRequestId)) ∧
      ∃ r ∈ s'.reservations, r.selected.provider = row.selected.provider ∧
        r.providerRequestId = some (strip args.providerRequestId) := by
  rcases Exec.ite_eq_ok.1 h with ⟨-, h₁⟩ | ⟨-, h₁⟩
  · exact absurd h₁ (by simp)
  rcases Exec.ite_eq_ok.1 h₁ with ⟨-, h₂⟩ | ⟨hnonempty, h₂⟩
  · exact absurd h₂ (by simp)
  rcases Exec.ite_eq_ok.1 h₂ with ⟨-, h₃⟩ | ⟨-, h₃⟩
  · exact absurd h₃ (by simp)
  obtain ⟨x, s₁, hx, h₄⟩ := Exec.bind_eq_ok.1 (Exec.transaction_eq_ok.1 h₃)
  obtain ⟨hfound, rfl⟩ := Exec.gets_eq_ok.1 hx
  obtain rfl := hfound.symm.trans hrow
  simp only [hst] at h₄
  obtain ⟨policy, s₂, hp, h₅⟩ := Exec.bind_eq_ok.1 h₄
  obtain ⟨-, rfl⟩ := Exec.gets_eq_ok.1 hp
  obtain ⟨rate, s₃, hr, h₆⟩ := Exec.bind_eq_ok.1 h₅
  obtain ⟨-, rfl⟩ := Exec.gets_eq_ok.1 hr
  cases policy with
  | none => exact absurd h₆ (by simp)
  | some p =>
    cases rate with
    | none => exact absurd h₆ (by simp)
    | some rate =>
      obtain ⟨cost, s₄, hc, h₇⟩ := Exec.bind_eq_ok.1 h₆
      obtain ⟨-, rfl⟩ := orRaise_eq_ok.1 hc
      obtain ⟨reasons, s₅, hreasons, h₈⟩ := Exec.bind_eq_ok.1 h₇
      obtain rfl := reads_ok (reads_anomalyReasons _ _ _ _ _) hreasons
      obtain ⟨known, s₆, hk, h₉⟩ := Exec.bind_eq_ok.1 h₈
      obtain ⟨-, rfl⟩ := Exec.gets_eq_ok.1 hk
      obtain ⟨used, s₇, hu, h₁₀⟩ := Exec.bind_eq_ok.1 h₉
      obtain ⟨hused, rfl⟩ := Exec.gets_eq_ok.1 hu
      rcases Exec.ite_eq_ok.1 h₁₀ with ⟨-, h₁₁⟩ | ⟨-, h₁₁⟩
      · exact absurd h₁₁ (by simp)
      obtain ⟨_, s₀, hbound, h₀⟩ := Exec.bind_eq_ok.1 h₁₁
      obtain ⟨-, rfl⟩ := bindIntegers_eq_ok.1 hbound
      rcases Exec.ite_eq_ok.1 h₀ with ⟨-, h₁₂⟩ | ⟨hfree, h₁₂⟩
      · exact absurd h₁₂ (by simp)
      obtain ⟨_, s₈, hm₁, h₁₃⟩ := Exec.bind_eq_ok.1 h₁₂
      obtain rfl := Exec.modify_eq_ok.1 hm₁
      obtain ⟨_, s₉, hm₂, h₁₄⟩ := Exec.bind_eq_ok.1 h₁₃
      obtain rfl := Exec.modify_eq_ok.1 hm₂
      obtain ⟨_, s₁₀, hm₃, h₁₅⟩ := Exec.bind_eq_ok.1 h₁₄
      obtain rfl := Exec.modify_eq_ok.1 hm₃
      obtain ⟨_, s₁₁, hpause, h₁₆⟩ := Exec.bind_eq_ok.1 h₁₅
      obtain ⟨-, rfl⟩ := Exec.pure_eq_ok.1 h₁₆
      obtain ⟨hevents, hrows⟩ := pauseWhen_keeps hpause
      obtain ⟨hmem, hid⟩ := Store.reservation_eq_some hrow
      refine ⟨hevents, hnonempty, fun q hq hne hprovider hreq => hfree ?_, ?_⟩
      · rw [← hused]
        exact List.any_eq_true.2 ⟨q, hq, decide_eq_true ⟨hne, hprovider, hreq⟩⟩
      · rw [hrows]
        exact ⟨_, mem_updateKey.2 (Or.inl ⟨row, hmem, hid, rfl⟩), rfl, rfl⟩

/-! ## Unused reservations -/

/-- A reservation that is still reserved has no request id. -/
def Store.Unused (s : Store) : Prop := ∀ r ∈ s.reservations, r.status = .reserved → r.providerRequestId = none

/-- Every change keeps unused reservations unused. -/
theorem Change.unused {s s' : Store} (h : Change s s') (hs : s.Unused) : s'.Unused := by
  cases h with
  | quiet _ hr _ =>
    unfold Store.Unused
    rw [hr]
    exact hs
  | create _ _ _ _ _ _ _ hr _ =>
    unfold Store.Unused
    rw [hr]
    exact hs
  | stop _ _ _ hr _ =>
    unfold Store.Unused
    rw [hr]
    exact hs
  | reserve r _ _ _ _ _ hunused _ _ _ hr _ =>
    intro q hq hst
    rw [hr] at hq
    rcases List.mem_append.1 hq with hq | hq
    · exact hs q hq hst
    · rw [List.mem_singleton.1 hq]
      exact hunused
  | finalize row _ args cost receipt _ _ _ _ _ _ _ _ _ hr _ =>
    intro q hq hst
    rw [hr] at hq
    rcases mem_updateKey.1 hq with ⟨q₀, -, -, rfl⟩ | ⟨hq, -⟩
    · cases hst
    · exact hs q hq hst
  | reconcile row st _ _ _ hr _ =>
    intro q hq hst
    rw [hr] at hq
    rcases mem_updateKey.1 hq with ⟨q₀, hq₀, -, rfl⟩ | ⟨hq, -⟩
    · exact hs q₀ hq₀ hst
    · exact hs q hq hst

theorem unused_after (cs : List StoreCall) : (Store.empty.after cs).Unused :=
  Store.after_inv (fun _ _ h => h.unused) (fun _ hr => absurd hr List.not_mem_nil) cs

end TokenSpend

end Archisynapse
