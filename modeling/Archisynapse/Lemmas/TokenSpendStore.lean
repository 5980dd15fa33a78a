import Archisynapse.TokenSpend.Store

/-!
# What each operation of the token-spend store does

`Change` says once what one operation can do to policies, reservations and receipts: nothing, or one of five changes with the
checks that come before it. Each operation, however it ends, makes one change.
-/

namespace Archisynapse

namespace TokenSpend

open Exec (throw gets modify transaction Moves Reads)

@[simp] theorem raise_eq_ok {α : Type} {code : ErrorCode} {message : String} {b : α} {s s' : Store} :
    (raise code message : Operation α) s = (.ok b, s') ↔ False := Exec.throw_eq_ok

@[simp] theorem orRaise_eq_ok {α : Type} {code : ErrorCode} {message : String} {o : Option α} {b : α} {s s' : Store} :
    orRaise code message o s = (.ok b, s') ↔ o = some b ∧ s = s' := by
  cases o with
  | none => simp [orRaise]
  | some a => simp [orRaise]

/-- What a statement that bound its integers says of them. -/
theorem bindIntegers_eq_ok {values : List Int} {u : Unit} {s s' : Store} :
    bindIntegers values s = (.ok u, s') ↔ (∀ n ∈ values, -2 ^ 63 ≤ n ∧ n < 2 ^ 63) ∧ s = s' := by
  unfold bindIntegers
  rw [Exec.ite_eq_ok, Exec.pure_eq_ok, raise_eq_ok]
  constructor
  · rintro (⟨hall, -, hs⟩ | ⟨-, hfalse⟩)
    · exact ⟨hall, hs⟩
    · exact hfalse.elim
  · rintro ⟨hall, hs⟩
    exact Or.inl ⟨hall, rfl, hs⟩

/-! ## Rows -/

theorem Store.policy_eq_some {s : Store} {id : String} {p : Policy} (h : s.policy id = some p) :
    p ∈ s.policies ∧ p.id = id :=
  ⟨List.mem_of_find?_eq_some h, by simpa using List.find?_some h⟩

theorem Store.reservation_eq_some {s : Store} {id : String} {r : Reservation} (h : s.reservation id = some r) :
    r ∈ s.reservations ∧ r.id = id :=
  ⟨List.mem_of_find?_eq_some h, by simpa using List.find?_some h⟩

theorem Store.reservation_eq_none {s : Store} {id : String} (h : s.reservation id = none) :
    ∀ r ∈ s.reservations, r.id ≠ id := by
  simpa [Store.reservation] using h

/-! ## Changes -/

/-- A policy that was paused, or was not. -/
def Policy.pausedIf (p : Policy) : Option String → Policy
  | some reason => p.pause reason
  | none => p

/-- A change of the store by one operation. -/
inductive Change (s s' : Store) : Prop where
  | quiet (policies : s'.policies = s.policies) (reservations : s'.reservations = s.reservations)
      (receipts : s'.receipts = s.receipts)
  | create (p : Policy) (fresh : ∀ q ∈ s.policies, q.id ≠ p.id) (reserved : p.reservedMicrousd = 0)
      (spent : p.spentMicrousd = 0) (calls : p.callCount = 0) (budget : 0 < p.budgetMicrousd)
      (policies : s'.policies = s.policies ++ [p]) (reservations : s'.reservations = s.reservations)
      (receipts : s'.receipts = s.receipts)
  | stop (id reason : String) (policies : s'.policies = updateKey (·.id) id (·.pause reason) s.policies)
      (reservations : s'.reservations = s.reservations) (receipts : s'.receipts = s.receipts)
  | reserve (r : Reservation) (p : Policy) (hp : s.policy r.policyId = some p) (active : p.status = .active)
      (fresh : ∀ q ∈ s.reservations, q.id ≠ r.id) (status : r.status = .reserved) (unused : r.providerRequestId = none)
      (nonneg : 0 ≤ r.reservedMicrousd)
      (fits : p.spentMicrousd + p.reservedMicrousd + r.reservedMicrousd ≤ p.budgetMicrousd)
      (policies : s'.policies = updateKey (·.id) r.policyId
        (fun p => { p with reservedMicrousd := p.reservedMicrousd + r.reservedMicrousd }) s.policies)
      (reservations : s'.reservations = s.reservations ++ [r]) (receipts : s'.receipts = s.receipts)
  | finalize (row : Reservation) (p : Policy) (args : UsageArgs) (cost : Int) (receipt : UsageReceipt) (reason : Option String)
      (hrow : row ∈ s.reservations) (status : row.status = .reserved) (hp : s.policy row.policyId = some p) (nonneg : 0 ≤ cost)
      (paused : p.budgetMicrousd < p.spentMicrousd + cost → reason.isSome) (hreceipt : receipt.reservationId = row.id)
      (fresh : ∀ q ∈ s.receipts, q.reservationId ≠ row.id)
      (policies : s'.policies = updateKey (·.id) row.policyId
        (fun p => (p.charge row.reservedMicrousd cost).pausedIf reason) s.policies)
      (reservations : s'.reservations = updateKey (·.id) row.id (·.finalize args cost receipt.id) s.reservations)
      (receipts : s'.receipts = s.receipts ++ [receipt])
  | reconcile (row : Reservation) (st : ReconciliationStatus) (reason : Option String) (hrow : row ∈ s.reservations)
      (policies : s'.policies = updateKey (·.id) row.policyId (·.pausedIf reason) s.policies)
      (reservations : s'.reservations = updateKey (·.id) row.id (fun r => { r with reconciliationStatus := st }) s.reservations)
      (receipts : s'.receipts = s.receipts)

theorem change_refl (s : Store) : Change s s := .quiet rfl rfl rfl

/-! ## Reading -/

theorem reads_raise {α : Type} (code : ErrorCode) (message : String) : Reads (raise code message : Operation α) :=
  Exec.reads_throw _

theorem reads_orRaise {α : Type} (code : ErrorCode) (message : String) (o : Option α) : Reads (orRaise code message o) := by
  cases o with
  | none => exact reads_raise _ _
  | some a => exact Exec.reads_pure a

theorem reads_getRateCard (env : Env) (provider model time : String) : Reads (getRateCard env provider model time) := by
  refine Exec.Reads.bind (Exec.reads_gets _) (fun _ => rfl) (fun card => ?_)
  cases card with
  | none => exact reads_raise _ _
  | some card => exact Exec.reads_pure card

theorem reads_getPolicy (policyId : String) : Reads (getPolicy policyId) := by
  refine Exec.Reads.bind (Exec.reads_gets _) (fun _ => rfl) (fun p => ?_)
  cases p with
  | none => exact reads_raise _ _
  | some p => exact Exec.reads_pure p

theorem reads_normalizeFrom (env : Env) (result : List Route) (seen : List String) (routes : List Route) :
    Reads (normalizeFrom env result seen routes) := by
  induction routes generalizing result seen with
  | nil => exact Exec.reads_pure result
  | cons route routes ih => exact Exec.moves_ite (reads_raise _ _) (Exec.moves_ite (ih _ _) (ih _ _))

theorem reads_selectRoute (env : Env) (policy : Policy) (estimated : Tokens) (available : Int) (sawAllowed sawRate : Bool)
    (routes : List Route) : Reads (selectRoute env policy estimated available sawAllowed sawRate routes) := by
  induction routes generalizing sawAllowed sawRate with
  | nil => exact Exec.reads_pure _
  | cons route routes ih =>
    refine Exec.moves_ite (ih _ _) (Exec.Reads.bind (Exec.reads_gets _) (fun _ => rfl) (fun rate => ?_))
    cases rate with
    | none => exact ih _ _
    | some rate =>
      exact Exec.Reads.bind (reads_orRaise _ _ _) (fun _ => rfl) (fun cost => Exec.moves_ite (Exec.reads_pure _) (ih _ _))

theorem reads_validatePolicyForPreflight (env : Env) (policy : Policy) : Reads (validatePolicyForPreflight env policy) := by
  refine Exec.moves_ite (reads_raise _ _) (Exec.moves_ite (reads_raise _ _) ?_)
  refine Exec.Reads.bind (reads_orRaise _ _ _) (fun _ => rfl) (fun now => ?_)
  refine Exec.Reads.bind (reads_orRaise _ _ _) (fun _ => rfl) (fun start => ?_)
  refine Exec.Reads.bind (reads_orRaise _ _ _) (fun _ => rfl) (fun finish => ?_)
  exact Exec.moves_ite (reads_raise _ _) (Exec.moves_ite (reads_raise _ _) (Exec.reads_pure ()))

theorem reads_getReceipt (env : Env) (receiptId : Option String) : Reads (getReceipt env receiptId) := by
  refine Exec.Reads.bind (Exec.reads_gets _) (fun _ => rfl) (fun receipt => ?_)
  cases receipt with
  | none => exact reads_raise _ _
  | some receipt => exact Exec.moves_ite (Exec.reads_pure receipt) (reads_raise _ _)

theorem reads_anomalyReasons (env : Env) (policy : Policy) (reservation : Reservation) (actual : Tokens) (actualCost : Int) :
    Reads (anomalyReasons env policy reservation actual actualCost) := by
  refine Exec.Reads.bind (reads_orRaise _ _ _) (fun _ => rfl) (fun costCeiling => ?_)
  exact Exec.Reads.bind (reads_orRaise _ _ _) (fun _ => rfl) (fun tokenCeiling => Exec.reads_pure _)

/-! ## Rate cards and policies -/

theorem putRateCard_change (env : Env) (args : RateCardArgs) : Moves Change (putRateCard env args) := by
  refine Exec.moves_ite ((reads_raise _ _).moves change_refl) (Exec.moves_ite ((reads_raise _ _).moves change_refl) ?_)
  refine Exec.Reads.bind (reads_orRaise _ _ _) change_refl (fun _ => ?_)
  refine Exec.Moves.bind (Exec.moves_transaction change_refl (fun u s s' h => ?_)) (fun _ => reads_getRateCard _ _ _ _)
  obtain ⟨_, s₀, hbound, h₀⟩ := Exec.bind_eq_ok.1 h
  obtain ⟨-, rfl⟩ := bindIntegers_eq_ok.1 hbound
  obtain ⟨known, s₁, hk, h₁⟩ := Exec.bind_eq_ok.1 h₀
  obtain ⟨-, rfl⟩ := Exec.gets_eq_ok.1 hk
  rcases Exec.ite_eq_ok.1 h₁ with ⟨-, h₂⟩ | ⟨-, h₂⟩
  · exact absurd h₂ (by simp)
  · obtain rfl := Exec.modify_eq_ok.1 h₂
    exact .quiet rfl rfl rfl

/-- The insert of `create_policy`. -/
theorem createPolicy_insert {row : Policy} {u : Unit} {s s' : Store}
    (h : (do
        bindIntegers [row.budgetMicrousd, row.maxPerCallMicrousd, row.maxInputTokens, row.maxOutputTokens, row.maxCallsPerMinute]
        let known ← gets (fun s => s.policies.any (fun p => decide (p.id = row.id ∨ (p.tenantId = row.tenantId ∧
          p.scopeType = row.scopeType ∧ p.scopeId = row.scopeId ∧ p.periodStart = row.periodStart))))
        if known then raise .integrityError "UNIQUE constraint failed: ai_spend_policies"
        else modify (fun s => { s with policies := s.policies ++ [row] }) : Operation Unit) s = (.ok u, s')) :
    (∀ q ∈ s.policies, q.id ≠ row.id) ∧ s' = { s with policies := s.policies ++ [row] } := by
  obtain ⟨_, s₀, hbound, h₀⟩ := Exec.bind_eq_ok.1 h
  obtain ⟨-, rfl⟩ := bindIntegers_eq_ok.1 hbound
  obtain ⟨known, s₁, hk, h₁⟩ := Exec.bind_eq_ok.1 h₀
  obtain ⟨rfl, rfl⟩ := Exec.gets_eq_ok.1 hk
  rcases Exec.ite_eq_ok.1 h₁ with ⟨-, h₂⟩ | ⟨hnone, h₂⟩
  · exact absurd h₂ (by simp)
  · obtain rfl := Exec.modify_eq_ok.1 h₂
    refine ⟨fun q hq hid => hnone ?_, rfl⟩
    exact List.any_eq_true.2 ⟨q, hq, decide_eq_true (Or.inl hid)⟩

theorem createPolicy_change (env : Env) (args : PolicyArgs) : Moves Change (createPolicy env args) := by
  refine Exec.Reads.bind (reads_orRaise _ _ _) change_refl (fun finish => ?_)
  refine Exec.Reads.bind (reads_orRaise _ _ _) change_refl (fun start => ?_)
  refine Exec.moves_ite ((reads_raise _ _).moves change_refl) ?_
  by_cases hpos : min (min (min args.budgetMicrousd args.maxPerCallMicrousd) (min args.maxInputTokens args.maxOutputTokens))
      args.maxCallsPerMinute ≤ 0
  · rw [if_pos hpos]
    exact (reads_raise _ _).moves change_refl
  rw [if_neg hpos]
  refine Exec.moves_ite ((reads_raise _ _).moves change_refl) ?_
  refine Exec.Reads.bind (reads_normalizeFrom _ _ _ _) change_refl (fun allowed => ?_)
  refine Exec.Reads.bind (reads_normalizeFrom _ _ _ _) change_refl (fun fallbacks => ?_)
  refine Exec.moves_ite ((reads_raise _ _).moves change_refl) (Exec.moves_ite ((reads_raise _ _).moves change_refl) ?_)
  refine Exec.Moves.bind (Exec.moves_transaction change_refl (fun u s s' h => ?_)) (fun _ => reads_getPolicy _)
  obtain ⟨hfresh, rfl⟩ := createPolicy_insert h
  refine .create _ hfresh rfl rfl rfl ?_ rfl rfl rfl
  simp only [PolicyArgs.row]
  omega

theorem emergencyStop_change (policyId reason : String) : Moves Change (emergencyStop policyId reason) := by
  refine Exec.moves_ite ((reads_raise _ _).moves change_refl) ?_
  refine Exec.Moves.bind (Exec.moves_transaction change_refl (fun u s s' h => ?_)) (fun _ => reads_getPolicy _)
  obtain ⟨known, s₁, hk, h₁⟩ := Exec.bind_eq_ok.1 h
  obtain ⟨-, rfl⟩ := Exec.gets_eq_ok.1 hk
  rcases Exec.ite_eq_ok.1 h₁ with ⟨-, h₂⟩ | ⟨-, h₂⟩
  · exact absurd h₂ (by simp)
  · obtain ⟨_, s₂, hm, h₃⟩ := Exec.bind_eq_ok.1 h₂
    obtain rfl := Exec.modify_eq_ok.1 hm
    obtain rfl := Exec.modify_eq_ok.1 h₃
    exact .stop policyId (strip reason) rfl rfl rfl

/-! ## Preflight -/

/-- A step that only reads and returned left the state alone. -/
theorem reads_ok {α : Type} {x : Operation α} (hx : Reads x) {a : α} {s s' : Store} (h : x s = (.ok a, s')) : s' = s :=
  hx s _ s' h

/-- The policy admits a preflight only while it is active. -/
theorem validatePolicyForPreflight_ok {env : Env} {policy : Policy} {u : Unit} {s s' : Store}
    (h : validatePolicyForPreflight env policy s = (.ok u, s')) : policy.status = .active := by
  unfold validatePolicyForPreflight at h
  rcases Exec.ite_eq_ok.1 h with ⟨-, h₁⟩ | ⟨-, h₁⟩
  · exact absurd h₁ (by simp)
  rcases Exec.ite_eq_ok.1 h₁ with ⟨-, h₂⟩ | ⟨hst, -⟩
  · exact absurd h₂ (by simp)
  · exact not_not.1 hst

/-- A selected route has a cost that is not negative and fits what is available. -/
theorem selectRoute_ok {env : Env} {policy : Policy} {estimated : Tokens} {available : Int} {sawAllowed sawRate : Bool}
    {routes : List Route} {selection : Selection} {s s' : Store}
    (h : selectRoute env policy estimated available sawAllowed sawRate routes s = (.ok selection, s')) :
    ∀ route rate cost, selection.selected = some (route, rate, cost) → 0 ≤ cost ∧ cost ≤ available := by
  induction routes generalizing sawAllowed sawRate with
  | nil =>
    obtain ⟨rfl, -⟩ := Exec.pure_eq_ok.1 h
    rintro route rate cost hsel
    cases hsel
  | cons route routes ih =>
    unfold selectRoute at h
    rcases Exec.ite_eq_ok.1 h with ⟨-, h₁⟩ | ⟨-, h₁⟩
    · exact ih h₁
    obtain ⟨rate, s₁, hr, h₂⟩ := Exec.bind_eq_ok.1 h₁
    obtain ⟨-, rfl⟩ := Exec.gets_eq_ok.1 hr
    cases rate with
    | none => exact ih h₂
    | some rate =>
      obtain ⟨cost, s₂, hc, h₃⟩ := Exec.bind_eq_ok.1 h₂
      obtain ⟨-, rfl⟩ := orRaise_eq_ok.1 hc
      rcases Exec.ite_eq_ok.1 h₃ with ⟨hfits, h₄⟩ | ⟨-, h₄⟩
      · obtain ⟨rfl, -⟩ := Exec.pure_eq_ok.1 h₄
        rintro _ _ _ ⟨⟩
        exact ⟨Int.natCast_nonneg cost, hfits.2⟩
      · exact ih h₄

/-- What `preflight` returned: the reservation with the key, or a new one whose amount the policy has left. -/
theorem preflight_ok {env : Env} {args : PreflightArgs} {r : Reservation} {s s' : Store}
    (h : preflight env args s = (.ok r, s')) :
    (s' = s ∧ r ∈ s.reservations) ∨
    (∃ p, s.policy r.policyId = some p ∧ p.status = .active ∧ (∀ q ∈ s.reservations, q.id ≠ r.id) ∧ r.status = .reserved ∧
      r.providerRequestId = none ∧ 0 ≤ r.reservedMicrousd ∧ p.spentMicrousd + p.reservedMicrousd + r.reservedMicrousd ≤ p.budgetMicrousd ∧
      s' = { s with reservations := s.reservations ++ [r] }.setPolicy r.policyId
        (fun p => { p with reservedMicrousd := p.reservedMicrousd + r.reservedMicrousd })) := by
  obtain ⟨x, s₁, hx, h₁⟩ := Exec.bind_eq_ok.1 (Exec.transaction_eq_ok.1 h)
  obtain ⟨hfound, rfl⟩ := Exec.gets_eq_ok.1 hx
  cases x with
  | some existing =>
    rcases Exec.ite_eq_ok.1 h₁ with ⟨-, h₂⟩ | ⟨-, h₂⟩
    · exact absurd h₂ (by simp)
    · obtain ⟨rfl, rfl⟩ := Exec.pure_eq_ok.1 h₂
      exact Or.inl ⟨rfl, List.mem_of_find?_eq_some hfound⟩
  | none =>
    obtain ⟨y, s₂, hy, h₂⟩ := Exec.bind_eq_ok.1 h₁
    obtain ⟨hp, rfl⟩ := Exec.gets_eq_ok.1 hy
    cases y with
    | none => exact absurd h₂ (by simp)
    | some p =>
      obtain ⟨_, s₃, hv, h₃⟩ := Exec.bind_eq_ok.1 h₂
      have hactive := validatePolicyForPreflight_ok hv
      obtain rfl := reads_ok (reads_validatePolicyForPreflight env p) hv
      rcases Exec.ite_eq_ok.1 h₃ with ⟨-, h₄⟩ | ⟨-, h₄⟩
      · exact absurd h₄ (by simp)
      rcases Exec.ite_eq_ok.1 h₄ with ⟨-, h₅⟩ | ⟨-, h₅⟩
      · exact absurd h₅ (by simp)
      rcases Exec.ite_eq_ok.1 h₅ with ⟨-, h₆⟩ | ⟨-, h₆⟩
      · exact absurd h₆ (by simp)
      obtain ⟨recent, s₄, hrecent, h₇⟩ := Exec.bind_eq_ok.1 h₆
      obtain ⟨-, rfl⟩ := Exec.gets_eq_ok.1 hrecent
      rcases Exec.ite_eq_ok.1 h₇ with ⟨-, h₈⟩ | ⟨-, h₈⟩
      · obtain ⟨_, _, -, h₉⟩ := Exec.bind_eq_ok.1 h₈
        exact absurd h₉ (by simp)
      obtain ⟨selection, s₅, hsel, h₉⟩ := Exec.bind_eq_ok.1 h₈
      obtain rfl := reads_ok (reads_selectRoute _ _ _ _ _ _ _) hsel
      rcases Exec.ite_eq_ok.1 h₉ with ⟨-, h₁₀⟩ | ⟨-, h₁₀⟩
      · exact absurd h₁₀ (by simp)
      rcases Exec.ite_eq_ok.1 h₁₀ with ⟨-, h₁₁⟩ | ⟨-, h₁₁⟩
      · exact absurd h₁₁ (by simp)
      cases hs : selection.selected with
      | none =>
        rw [hs] at h₁₁
        exact absurd h₁₁ (by simp)
      | some selected =>
        obtain ⟨route, rate, cost⟩ := selected
        rw [hs] at h₁₁
        obtain ⟨hnonneg, hfits⟩ := selectRoute_ok hsel route rate cost hs
        obtain ⟨_, s₀, hbound, h₀⟩ := Exec.bind_eq_ok.1 h₁₁
        obtain ⟨-, rfl⟩ := bindIntegers_eq_ok.1 hbound
        obtain ⟨known, s₆, hk, h₁₂⟩ := Exec.bind_eq_ok.1 h₀
        obtain ⟨rfl, rfl⟩ := Exec.gets_eq_ok.1 hk
        rcases Exec.ite_eq_ok.1 h₁₂ with ⟨-, h₁₃⟩ | ⟨hfresh, h₁₃⟩
        · exact absurd h₁₃ (by simp)
        obtain ⟨_, s₇, hm₁, h₁₄⟩ := Exec.bind_eq_ok.1 h₁₃
        obtain rfl := Exec.modify_eq_ok.1 hm₁
        obtain ⟨_, s₈, hm₂, h₁₅⟩ := Exec.bind_eq_ok.1 h₁₄
        obtain rfl := Exec.modify_eq_ok.1 hm₂
        obtain ⟨rfl, rfl⟩ := Exec.pure_eq_ok.1 h₁₅
        refine Or.inr ⟨p, hp, hactive, ?_, rfl, rfl, hnonneg, ?_, rfl⟩
        · exact Store.reservation_eq_none (Option.not_isSome_iff_eq_none.1 hfresh)
        · simp only [PreflightArgs.row]
          omega

theorem preflight_change (env : Env) (args : PreflightArgs) : Moves Change (preflight env args) := by
  refine Exec.moves_transaction change_refl (fun r s s' h => ?_)
  rcases preflight_ok (Exec.transaction_ok h) with ⟨rfl, -⟩ | ⟨p, hp, hactive, hfresh, hst, hunused, hnonneg, hfits, rfl⟩
  · exact change_refl _
  · exact .reserve r p hp hactive hfresh hst hunused hnonneg hfits rfl rfl rfl

/-! ## Usage and reconciliation -/

/-- Pausing a policy. -/
theorem pausePolicy_ok {policyId reason : String} {reservationId : Option String} {u : Unit} {s s' : Store}
    (h : pausePolicy policyId reason reservationId s = (.ok u, s')) :
    s'.policies = updateKey (·.id) policyId (·.pause reason) s.policies ∧ s'.reservations = s.reservations ∧
      s'.receipts = s.receipts := by
  obtain ⟨_, s₁, hm, h₁⟩ := Exec.bind_eq_ok.1 h
  obtain rfl := Exec.modify_eq_ok.1 hm
  obtain rfl := Exec.modify_eq_ok.1 h₁
  exact ⟨rfl, rfl, rfl⟩

/-- The writes of a usage. -/
theorem recordUsage_ok {env : Env} {args : UsageArgs} {policy : Policy} {row : Reservation} {cost : Int}
    {reasons : List String} {receipt : UsageReceipt} {s s' : Store}
    (h : recordUsage env args policy row cost reasons s = (.ok receipt, s')) :
    receipt.reservationId = args.reservationId ∧ (∀ q ∈ s.receipts, q.reservationId ≠ args.reservationId) ∧
    ∃ reason, (policy.budgetMicrousd < policy.spentMicrousd + cost → reason.isSome) ∧
      s'.policies = updateKey (·.id) policy.id (fun p => (p.charge row.reservedMicrousd cost).pausedIf reason) s.policies ∧
      s'.reservations = updateKey (·.id) args.reservationId (·.finalize args cost receipt.id) s.reservations ∧
      s'.receipts = s.receipts ++ [receipt] := by
  obtain ⟨known, s₁, hk, h₁⟩ := Exec.bind_eq_ok.1 h
  obtain ⟨rfl, rfl⟩ := Exec.gets_eq_ok.1 hk
  obtain ⟨used, s₂, hu, h₂⟩ := Exec.bind_eq_ok.1 h₁
  obtain ⟨-, rfl⟩ := Exec.gets_eq_ok.1 hu
  rcases Exec.ite_eq_ok.1 h₂ with ⟨-, h₃⟩ | ⟨hfresh, h₃⟩
  · exact absurd h₃ (by simp)
  obtain ⟨_, s₀, hbound, h₀⟩ := Exec.bind_eq_ok.1 h₃
  obtain ⟨-, rfl⟩ := bindIntegers_eq_ok.1 hbound
  rcases Exec.ite_eq_ok.1 h₀ with ⟨-, h₄⟩ | ⟨-, h₄⟩
  · exact absurd h₄ (by simp)
  obtain ⟨_, s₃, hm₁, h₅⟩ := Exec.bind_eq_ok.1 h₄
  obtain rfl := Exec.modify_eq_ok.1 hm₁
  obtain ⟨_, s₄, hm₂, h₆⟩ := Exec.bind_eq_ok.1 h₅
  obtain rfl := Exec.modify_eq_ok.1 hm₂
  obtain ⟨_, s₅, hm₃, h₇⟩ := Exec.bind_eq_ok.1 h₆
  obtain rfl := Exec.modify_eq_ok.1 hm₃
  obtain ⟨_, s₆, hpause, h₈⟩ := Exec.bind_eq_ok.1 h₇
  obtain ⟨rfl, rfl⟩ := Exec.pure_eq_ok.1 h₈
  refine ⟨rfl, fun q hq he => hfresh ?_, ?_⟩
  · exact List.any_eq_true.2 ⟨q, hq, decide_eq_true (Or.inr he)⟩
  rcases Exec.ite_eq_ok.1 hpause with ⟨-, hp⟩ | ⟨hcalm, hp⟩
  · obtain ⟨hpol, hres, hrec⟩ := pausePolicy_ok hp
    refine ⟨some "runaway_or_over_budget_usage", fun _ => rfl, ?_, hres, hrec⟩
    rw [hpol]
    exact updateKey_updateKey Policy.id (·.pause "runaway_or_over_budget_usage")
      (v := (·.charge row.reservedMicrousd cost)) (fun _ => rfl) s.policies
  · obtain ⟨-, rfl⟩ := Exec.pure_eq_ok.1 hp
    exact ⟨none, fun hover => absurd (Or.inr hover) hcalm, rfl, rfl, rfl⟩

theorem finalizeUsage_change (env : Env) (args : UsageArgs) : Moves Change (finalizeUsage env args) := by
  refine Exec.moves_ite ((reads_raise _ _).moves change_refl) (Exec.moves_ite ((reads_raise _ _).moves change_refl)
    (Exec.moves_ite ((reads_raise _ _).moves change_refl) (Exec.moves_transaction change_refl (fun receipt s s' h => ?_))))
  obtain ⟨x, s₁, hx, h₁⟩ := Exec.bind_eq_ok.1 h
  obtain ⟨hrow, rfl⟩ := Exec.gets_eq_ok.1 hx
  cases x with
  | none => exact absurd h₁ (by simp)
  | some row =>
    obtain ⟨hmem, hid⟩ := Store.reservation_eq_some hrow
    cases hst : row.status with
    | finalized =>
      simp only [hst] at h₁
      obtain rfl := reads_ok (reads_getReceipt _ _) h₁
      exact change_refl _
    | reserved =>
      simp only [hst] at h₁
      obtain ⟨policy, s₂, hp, h₂⟩ := Exec.bind_eq_ok.1 h₁
      obtain ⟨hpolicy, rfl⟩ := Exec.gets_eq_ok.1 hp
      obtain ⟨rate, s₃, hr, h₃⟩ := Exec.bind_eq_ok.1 h₂
      obtain ⟨-, rfl⟩ := Exec.gets_eq_ok.1 hr
      cases policy with
      | none => exact absurd h₃ (by simp)
      | some p =>
        cases rate with
        | none => exact absurd h₃ (by simp)
        | some rate =>
          obtain ⟨cost, s₄, hc, h₄⟩ := Exec.bind_eq_ok.1 h₃
          obtain ⟨-, rfl⟩ := orRaise_eq_ok.1 hc
          obtain ⟨reasons, s₅, hreasons, h₅⟩ := Exec.bind_eq_ok.1 h₄
          obtain rfl := reads_ok (reads_anomalyReasons _ _ _ _ _) hreasons
          obtain ⟨hreceipt, hfresh, reason, hover, hpol, hres, hrec⟩ := recordUsage_ok h₅
          rw [← hid] at hreceipt hfresh hres
          rw [(Store.policy_eq_some hpolicy).2] at hpol
          exact .finalize row p args cost receipt reason hmem hst hpolicy (Int.natCast_nonneg cost) hover hreceipt hfresh hpol
            hres hrec

/-- Inserting an event. -/
theorem insertEvent_ok {event : ProviderEvent} {u : Unit} {s s' : Store} (h : insertEvent event s = (.ok u, s')) :
    s' = { s with events := s.events ++ [event] } := by
  obtain ⟨_, s₀, hbound, h₀⟩ := Exec.bind_eq_ok.1 h
  obtain ⟨-, rfl⟩ := bindIntegers_eq_ok.1 hbound
  obtain ⟨known, s₁, hk, h₁⟩ := Exec.bind_eq_ok.1 h₀
  obtain ⟨-, rfl⟩ := Exec.gets_eq_ok.1 hk
  rcases Exec.ite_eq_ok.1 h₁ with ⟨-, h₂⟩ | ⟨-, h₂⟩
  · exact absurd h₂ (by simp)
  · exact (Exec.modify_eq_ok.1 h₂).symm

/-- The reservation of an event is one that is stored. -/
theorem Store.reservationOf_mem {s : Store} {payload : EventPayload} {r : Reservation} (h : s.reservationOf payload = some r) :
    r ∈ s.reservations := by
  unfold Store.reservationOf at h
  split at h
  · cases h
  · exact List.mem_of_find?_eq_some h

theorem reconcileProviderEvent_change (env : Env) (args : EventArgs) : Moves Change (reconcileProviderEvent env args) := by
  refine Exec.moves_ite ((reads_raise _ _).moves change_refl) (Exec.moves_transaction change_refl (fun event s s' h => ?_))
  obtain ⟨x, s₁, hx, h₁⟩ := Exec.bind_eq_ok.1 h
  obtain ⟨-, rfl⟩ := Exec.gets_eq_ok.1 hx
  cases x with
  | some existing =>
    rcases Exec.ite_eq_ok.1 h₁ with ⟨-, h₂⟩ | ⟨-, h₂⟩
    · exact absurd h₂ (by simp)
    · obtain ⟨-, rfl⟩ := Exec.pure_eq_ok.1 h₂
      exact change_refl _
  | none =>
    obtain ⟨y, s₂, hy, h₂⟩ := Exec.bind_eq_ok.1 h₁
    obtain ⟨hfound, rfl⟩ := Exec.gets_eq_ok.1 hy
    cases y with
    | none =>
      obtain ⟨_, s₃, hins, h₃⟩ := Exec.bind_eq_ok.1 h₂
      obtain rfl := insertEvent_ok hins
      obtain ⟨_, s₄, halert, h₄⟩ := Exec.bind_eq_ok.1 h₃
      obtain rfl := Exec.modify_eq_ok.1 halert
      obtain ⟨-, rfl⟩ := Exec.pure_eq_ok.1 h₄
      exact .quiet rfl rfl rfl
    | some row =>
      have hmem := Store.reservationOf_mem hfound
      obtain ⟨expected, s₃, he, h₃⟩ := Exec.bind_eq_ok.1 h₂
      obtain ⟨-, rfl⟩ := orRaise_eq_ok.1 he
      obtain ⟨percent, s₄, hpc, h₄⟩ := Exec.bind_eq_ok.1 h₃
      obtain ⟨-, rfl⟩ := orRaise_eq_ok.1 hpc
      obtain ⟨_, s₅, hins, h₅⟩ := Exec.bind_eq_ok.1 h₄
      obtain rfl := insertEvent_ok hins
      obtain ⟨_, s₆, hm, h₆⟩ := Exec.bind_eq_ok.1 h₅
      obtain rfl := Exec.modify_eq_ok.1 hm
      obtain ⟨_, s₇, hpause, h₇⟩ := Exec.bind_eq_ok.1 h₆
      obtain ⟨-, rfl⟩ := Exec.pure_eq_ok.1 h₇
      rcases Exec.ite_eq_ok.1 hpause with ⟨-, hp⟩ | ⟨-, hp⟩
      · obtain ⟨hpol, hres, hrec⟩ := pausePolicy_ok hp
        exact .reconcile row _ (some "provider_reconciliation_mismatch") hmem hpol hres hrec
      · obtain ⟨-, rfl⟩ := Exec.pure_eq_ok.1 hp
        exact .reconcile row _ none hmem (updateKey_id _ _ _).symm rfl rfl

/-- Every operation makes one change. -/
theorem StoreCall.leaves_change (c : StoreCall) (s : Store) : Change s (c.leaves s) := by
  cases c with
  | putRateCard env args => exact putRateCard_change env args s _ _ rfl
  | createPolicy env args => exact createPolicy_change env args s _ _ rfl
  | preflight env args => exact preflight_change env args s _ _ rfl
  | finalizeUsage env args => exact finalizeUsage_change env args s _ _ rfl
  | emergencyStop policyId reason => exact emergencyStop_change policyId reason s _ _ rfl
  | reconcileProviderEvent env args => exact reconcileProviderEvent_change env args s _ _ rfl

end TokenSpend

end Archisynapse
