import Archisynapse.Base.KeepFirst
import Archisynapse.Lemmas.TokenSpendRoutes

/-!
# The allowlist of a policy

What `_normalize_routes` keeps, what `create_policy` stores, and which routes reservations of a policy have: each was a fallback, or
was requested under the key of an allowed route. Nothing but a preflight gives a reservation its route.
-/

namespace Archisynapse

namespace TokenSpend

open Exec (gets modify transaction Moves Reads)

/-- A route with its provider trimmed and lower-cased and its model trimmed. -/
def Route.normal (lower : String → String) (r : Route) : Route := ⟨lower (strip r.provider), strip r.model⟩

/-- `_route_key` -/
def Route.key (lower : String → String) (r : Route) : String := lower (strip r.provider) ++ ":" ++ strip r.model

/-- Every route has a provider and a model. -/
def Accepted (lower : String → String) (routes : List Route) : Prop :=
  ∀ r ∈ routes, (r.normal lower).provider ≠ "" ∧ (r.normal lower).model ≠ ""

/-- The routes that are kept of a list. -/
def keptRoutes (lower : String → String) (routes : List Route) : List Route :=
  keepFirst (Route.key lower) [] (routes.map (Route.normal lower))

variable {env : Env} {s s' : Store} {p : Policy}

/-! ## Normalising -/

theorem normalizeFrom_eq_ok {routes result out : List Route} {seen : List String} :
    normalizeFrom env result seen routes s = (.ok out, s') ↔ Accepted env.lower routes ∧
      out = result ++ keepFirst (Route.key env.lower) seen (routes.map (Route.normal env.lower)) ∧ s = s' := by
  induction routes generalizing result seen with
  | nil =>
    unfold normalizeFrom
    rw [Exec.pure_eq_ok, List.map_nil, keepFirst, List.append_nil]
    exact ⟨fun h => ⟨fun r hr => absurd hr List.not_mem_nil, h.1.symm, h.2⟩, fun h => ⟨h.2.1.symm, h.2.2⟩⟩
  | cons route routes ih =>
    have hcons : Accepted env.lower (route :: routes) ↔
        ((route.normal env.lower).provider ≠ "" ∧ (route.normal env.lower).model ≠ "") ∧ Accepted env.lower routes :=
      List.forall_mem_cons
    unfold normalizeFrom
    dsimp only
    rw [List.map_cons, keepFirst, hcons]
    by_cases hempty : env.lower (strip route.provider) = "" ∨ strip route.model = ""
    · rw [if_pos hempty, raise_eq_ok]
      refine ⟨False.elim, fun h => ?_⟩
      rcases hempty with he | he
      · exact h.1.1.1 he
      · exact h.1.1.2 he
    · rw [if_neg hempty]
      have hparts := not_or.1 hempty
      by_cases hseen : (route.normal env.lower).key env.lower ∈ seen
      · have hseen' : routeKey env (env.lower (strip route.provider)) (strip route.model) ∈ seen := hseen
        rw [if_pos hseen, if_pos hseen', ih]
        exact ⟨fun h => ⟨⟨hparts, h.1⟩, h.2⟩, fun h => ⟨h.1.2, h.2⟩⟩
      · have hseen' : routeKey env (env.lower (strip route.provider)) (strip route.model) ∉ seen := hseen
        rw [if_neg hseen, if_neg hseen', ih, List.append_assoc, List.singleton_append]
        exact ⟨fun h => ⟨⟨hparts, h.1⟩, h.2⟩, fun h => ⟨h.1.2, h.2⟩⟩

theorem normalizeRoutes_eq_ok {routes out : List Route} :
    normalizeRoutes env routes s = (.ok out, s') ↔ Accepted env.lower routes ∧ out = keptRoutes env.lower routes ∧ s = s' :=
  normalizeFrom_eq_ok

/-- A policy that was created: its routes were accepted, it holds the kept ones, its fallbacks are among them, and its id is new. -/
theorem createPolicy_ok {args : PolicyArgs} (h : createPolicy env args s = (.ok p, s')) :
    Accepted env.lower args.allowedRoutes ∧ p.allowedRoutes = keptRoutes env.lower args.allowedRoutes ∧
      (∀ route ∈ p.fallbackRoutes, route ∈ p.allowedRoutes) ∧ (∀ q ∈ s.policies, q.id ≠ p.id) ∧
      s' = { s with policies := s.policies ++ [p] } := by
  obtain ⟨finish, s₁, hf, h₁⟩ := Exec.bind_eq_ok.1 h
  obtain ⟨-, rfl⟩ := orRaise_eq_ok.1 hf
  obtain ⟨start, s₂, hs, h₂⟩ := Exec.bind_eq_ok.1 h₁
  obtain ⟨-, rfl⟩ := orRaise_eq_ok.1 hs
  rcases Exec.ite_eq_ok.1 h₂ with ⟨-, h₃⟩ | ⟨-, h₃⟩
  · exact absurd h₃ (by simp)
  rcases Exec.ite_eq_ok.1 h₃ with ⟨-, h₄⟩ | ⟨-, h₄⟩
  · exact absurd h₄ (by simp)
  rcases Exec.ite_eq_ok.1 h₄ with ⟨-, h₅⟩ | ⟨-, h₅⟩
  · exact absurd h₅ (by simp)
  obtain ⟨allowed, s₃, ha, h₆⟩ := Exec.bind_eq_ok.1 h₅
  obtain ⟨haccepted, rfl, rfl⟩ := normalizeRoutes_eq_ok.1 ha
  obtain ⟨fallbacks, s₄, hfb, h₇⟩ := Exec.bind_eq_ok.1 h₆
  obtain ⟨-, rfl, rfl⟩ := normalizeRoutes_eq_ok.1 hfb
  rcases Exec.ite_eq_ok.1 h₇ with ⟨-, h₈⟩ | ⟨-, h₈⟩
  · exact absurd h₈ (by simp)
  rcases Exec.ite_eq_ok.1 h₈ with ⟨-, h₉⟩ | ⟨hwithin, h₉⟩
  · exact absurd h₉ (by simp)
  obtain ⟨_, s₅, hinsert, h₁₀⟩ := Exec.bind_eq_ok.1 h₉
  obtain ⟨hfresh, rfl⟩ := createPolicy_insert (Exec.transaction_eq_ok.1 hinsert)
  obtain ⟨found, s₆, hget, h₁₁⟩ := Exec.bind_eq_ok.1 h₁₀
  obtain ⟨hfound, rfl⟩ := Exec.gets_eq_ok.1 hget
  cases found with
  | none => exact absurd h₁₁ (by simp)
  | some q =>
    obtain ⟨rfl, rfl⟩ := Exec.pure_eq_ok.1 h₁₁
    -- the row with the id is the one that was inserted
    obtain ⟨hmem, hid⟩ := Store.policy_eq_some hfound
    rcases List.mem_append.1 hmem with hmem | hmem
    · exact absurd hid (hfresh q hmem)
    · obtain rfl := List.mem_singleton.1 hmem
      refine ⟨haccepted, rfl, fun route hroute => ?_, hfresh, rfl⟩
      exact not_not.1 fun hout => hwithin ⟨route, hroute, hout⟩

/-! ## The routes of policies -/

/-- The routes of the policies, with their ids. -/
def Store.routes (s : Store) : List (String × List Route × List Route) :=
  s.policies.map (fun p => (p.id, p.allowedRoutes, p.fallbackRoutes))

theorem pausedIf_routes (p : Policy) (reason : Option String) :
    ((p.pausedIf reason).id, (p.pausedIf reason).allowedRoutes, (p.pausedIf reason).fallbackRoutes) =
      (p.id, p.allowedRoutes, p.fallbackRoutes) := by
  cases reason <;> rfl

/-- No change touches the routes of a policy; one may add a policy with a new id. -/
theorem Change.routes (h : Change s s') : s'.routes = s.routes ∨
    ∃ p : Policy, (∀ q ∈ s.policies, q.id ≠ p.id) ∧ s'.routes = s.routes ++ [(p.id, p.allowedRoutes, p.fallbackRoutes)] := by
  have hupdate : ∀ {id : String} {u : Policy → Policy}, s'.policies = updateKey (·.id) id u s.policies →
      (∀ p, ((u p).id, (u p).allowedRoutes, (u p).fallbackRoutes) = (p.id, p.allowedRoutes, p.fallbackRoutes)) →
      s'.routes = s.routes := by
    intro id u hp hu
    unfold Store.routes
    rw [hp]
    exact map_updateKey _ hu _
  cases h with
  | quiet hp _ _ =>
    unfold Store.routes
    exact Or.inl (by rw [hp])
  | create p hfresh _ _ _ _ hp _ _ =>
    refine Or.inr ⟨p, hfresh, ?_⟩
    unfold Store.routes
    rw [hp, List.map_append, List.map_singleton]
  | stop id reason hp _ _ => exact Or.inl (hupdate hp fun _ => rfl)
  | reserve r p _ _ _ _ _ _ _ hp _ _ => exact Or.inl (hupdate hp fun _ => rfl)
  | finalize row p args cost receipt reason _ _ _ _ _ _ _ hp _ _ =>
    exact Or.inl (hupdate hp fun p => pausedIf_routes (p.charge row.reservedMicrousd cost) reason)
  | reconcile row st reason _ hp _ _ => exact Or.inl (hupdate hp fun p => pausedIf_routes p reason)

/-! ## The routes of reservations -/

/-- The policies and the routes of the reservations. -/
def Store.chosen (s : Store) : List (String × Route) := s.reservations.map (fun r => (r.policyId, r.selected))

/-- The reservations keep their routes. -/
def SameChosen (s s' : Store) : Prop := s'.chosen = s.chosen

theorem sameChosen_trans (s t u : Store) (h : SameChosen s t) (h' : SameChosen t u) : SameChosen s u := h'.trans h

theorem sameChosen_of_reads {α : Type} {x : Operation α} (hx : Reads x) : Moves SameChosen x := hx.moves (fun _ => rfl)

theorem sameChosen_transaction {α : Type} {x : Operation α} (hx : Moves SameChosen x) : Moves SameChosen (transaction x) :=
  Exec.moves_transaction (fun _ => rfl) (fun _ s s' h => hx s _ s' h)

theorem sameChosen_raise {α : Type} (code : ErrorCode) (message : String) : Moves SameChosen (raise code message : Operation α) :=
  sameChosen_of_reads (reads_raise code message)

theorem reads_bindIntegers (values : List Int) : Reads (bindIntegers values) :=
  Exec.moves_ite (Exec.reads_pure ()) (reads_raise _ _)

/-- A write that leaves the reservations alone. -/
theorem sameChosen_modify {f : Store → Store} (h : ∀ s, (f s).reservations = s.reservations) :
    Moves SameChosen (modify f : Operation Unit) :=
  Exec.moves_modify fun s => congrArg (List.map (fun r : Reservation => (r.policyId, r.selected))) (h s)

theorem sameChosen_bind {α β : Type} {x : Operation α} {f : α → Operation β} (hx : Moves SameChosen x)
    (hf : ∀ a, Moves SameChosen (f a)) : Moves SameChosen (x >>= f) := hx.andThen sameChosen_trans hf

theorem sameChosen_pausePolicy (policyId reason : String) (reservationId : Option String) :
    Moves SameChosen (pausePolicy policyId reason reservationId) :=
  sameChosen_bind (sameChosen_modify fun _ => rfl) fun _ => sameChosen_modify fun _ => rfl

theorem sameChosen_pauseWhen (c : Prop) [Decidable c] (policyId reason : String) (reservationId : Option String) :
    Moves SameChosen (pauseWhen c policyId reason reservationId) :=
  Exec.moves_ite (sameChosen_pausePolicy _ _ _) (sameChosen_of_reads (Exec.reads_pure ()))

/-- An update of a reservation that leaves its policy and its route alone. -/
theorem sameChosen_setReservation (id : String) {u : Reservation → Reservation}
    (hu : ∀ r, ((u r).policyId, (u r).selected) = (r.policyId, r.selected)) :
    Moves SameChosen (modify (fun s => s.setReservation id u) : Operation Unit) :=
  Exec.moves_modify fun s => map_updateKey _ hu s.reservations

theorem sameChosen_putRateCard (env : Env) (args : RateCardArgs) : Moves SameChosen (putRateCard env args) := by
  refine Exec.moves_ite (sameChosen_raise _ _) (Exec.moves_ite (sameChosen_raise _ _) ?_)
  refine Exec.Reads.bind (reads_orRaise _ _ _) (fun _ => rfl) (fun _ => ?_)
  refine Exec.Moves.bind (sameChosen_transaction ?_) (fun _ => reads_getRateCard _ _ _ _)
  refine Exec.Reads.bind (reads_bindIntegers _) (fun _ => rfl) (fun _ => ?_)
  refine Exec.Reads.bind (Exec.reads_gets _) (fun _ => rfl) (fun known => ?_)
  exact Exec.moves_ite (sameChosen_raise _ _) (sameChosen_modify fun _ => rfl)

theorem sameChosen_createPolicy (env : Env) (args : PolicyArgs) : Moves SameChosen (createPolicy env args) := by
  refine Exec.Reads.bind (reads_orRaise _ _ _) (fun _ => rfl) (fun finish => ?_)
  refine Exec.Reads.bind (reads_orRaise _ _ _) (fun _ => rfl) (fun start => ?_)
  refine Exec.moves_ite (sameChosen_raise _ _) (Exec.moves_ite (sameChosen_raise _ _) (Exec.moves_ite (sameChosen_raise _ _) ?_))
  refine Exec.Reads.bind (reads_normalizeFrom _ _ _ _) (fun _ => rfl) (fun allowed => ?_)
  refine Exec.Reads.bind (reads_normalizeFrom _ _ _ _) (fun _ => rfl) (fun fallbacks => ?_)
  refine Exec.moves_ite (sameChosen_raise _ _) (Exec.moves_ite (sameChosen_raise _ _) ?_)
  refine Exec.Moves.bind (sameChosen_transaction ?_) (fun _ => reads_getPolicy _)
  refine Exec.Reads.bind (reads_bindIntegers _) (fun _ => rfl) (fun _ => ?_)
  refine Exec.Reads.bind (Exec.reads_gets _) (fun _ => rfl) (fun known => ?_)
  exact Exec.moves_ite (sameChosen_raise _ _) (sameChosen_modify fun _ => rfl)

theorem sameChosen_emergencyStop (policyId reason : String) : Moves SameChosen (emergencyStop policyId reason) := by
  refine Exec.moves_ite (sameChosen_raise _ _) ?_
  refine Exec.Moves.bind (sameChosen_transaction ?_) (fun _ => reads_getPolicy _)
  refine Exec.Reads.bind (Exec.reads_gets _) (fun _ => rfl) (fun known => ?_)
  refine Exec.moves_ite (sameChosen_raise _ _) ?_
  exact sameChosen_bind (sameChosen_modify fun _ => rfl) fun _ => sameChosen_modify fun _ => rfl

theorem sameChosen_recordUsage (env : Env) (args : UsageArgs) (policy : Policy) (reservation : Reservation) (actualCost : Int)
    (reasons : List String) : Moves SameChosen (recordUsage env args policy reservation actualCost reasons) := by
  refine Exec.Reads.bind (Exec.reads_gets _) (fun _ => rfl) (fun known => ?_)
  refine Exec.Reads.bind (Exec.reads_gets _) (fun _ => rfl) (fun used => ?_)
  refine Exec.moves_ite (sameChosen_raise _ _) ?_
  refine Exec.Reads.bind (reads_bindIntegers _) (fun _ => rfl) (fun _ => ?_)
  refine Exec.moves_ite (sameChosen_raise _ _) ?_
  refine sameChosen_bind (sameChosen_modify fun _ => rfl) fun _ => ?_
  refine sameChosen_bind (sameChosen_setReservation _ fun _ => rfl) fun _ => ?_
  refine sameChosen_bind (sameChosen_modify fun _ => rfl) fun _ => ?_
  exact Exec.Moves.bind (sameChosen_pauseWhen _ _ _ _) (fun _ => Exec.reads_pure _)

theorem sameChosen_finalizeUsage (env : Env) (args : UsageArgs) : Moves SameChosen (finalizeUsage env args) := by
  refine Exec.moves_ite (sameChosen_raise _ _) (Exec.moves_ite (sameChosen_raise _ _) (Exec.moves_ite (sameChosen_raise _ _) ?_))
  refine sameChosen_transaction (Exec.Reads.bind (Exec.reads_gets _) (fun _ => rfl) (fun found => ?_))
  cases found with
  | none => exact sameChosen_raise _ _
  | some reservation =>
    dsimp only
    cases reservation.status with
    | finalized => exact sameChosen_of_reads (reads_getReceipt _ _)
    | reserved =>
      refine Exec.Reads.bind (Exec.reads_gets _) (fun _ => rfl) (fun policy => ?_)
      refine Exec.Reads.bind (Exec.reads_gets _) (fun _ => rfl) (fun rate => ?_)
      cases policy with
      | none => exact sameChosen_raise _ _
      | some policy =>
        cases rate with
        | none => exact sameChosen_raise _ _
        | some rate =>
          refine Exec.Reads.bind (reads_orRaise _ _ _) (fun _ => rfl) (fun actualCost => ?_)
          refine Exec.Reads.bind (reads_anomalyReasons _ _ _ _ _) (fun _ => rfl) (fun reasons => ?_)
          exact sameChosen_recordUsage _ _ _ _ _ _

theorem sameChosen_insertEvent (event : ProviderEvent) : Moves SameChosen (insertEvent event) := by
  refine Exec.Reads.bind (reads_bindIntegers _) (fun _ => rfl) (fun _ => ?_)
  refine Exec.Reads.bind (Exec.reads_gets _) (fun _ => rfl) (fun known => ?_)
  exact Exec.moves_ite (sameChosen_raise _ _) (sameChosen_modify fun _ => rfl)

theorem sameChosen_reconcileProviderEvent (env : Env) (args : EventArgs) :
    Moves SameChosen (reconcileProviderEvent env args) := by
  refine Exec.moves_ite (sameChosen_raise _ _) (sameChosen_transaction ?_)
  refine Exec.Reads.bind (Exec.reads_gets _) (fun _ => rfl) (fun existing => ?_)
  cases existing with
  | some existing => exact Exec.moves_ite (sameChosen_raise _ _) (sameChosen_of_reads (Exec.reads_pure _))
  | none =>
    refine Exec.Reads.bind (Exec.reads_gets _) (fun _ => rfl) (fun found => ?_)
    cases found with
    | none =>
      refine sameChosen_bind (sameChosen_insertEvent _) fun _ => ?_
      exact Exec.Moves.bind (sameChosen_modify fun _ => rfl) (fun _ => Exec.reads_pure _)
    | some reservation =>
      refine Exec.Reads.bind (reads_orRaise _ _ _) (fun _ => rfl) (fun expected => ?_)
      refine Exec.Reads.bind (reads_orRaise _ _ _) (fun _ => rfl) (fun percent => ?_)
      refine sameChosen_bind (sameChosen_insertEvent _) fun _ => ?_
      refine sameChosen_bind ?_ fun _ => ?_
      · exact sameChosen_setReservation reservation.id fun _ => rfl
      exact Exec.Moves.bind (sameChosen_pauseWhen _ _ _ _) (fun _ => Exec.reads_pure _)

/-- What the loop selects is a candidate that is allowed, with the card the lookup finds for it. -/
theorem selectRoute_allows {estimated : Tokens} {available : Int} {sawAllowed sawRate : Bool} {routes : List Route}
    {selection : Selection} (h : selectRoute env p estimated available sawAllowed sawRate routes s = (.ok selection, s'))
    {route : Route} {rate : RateCard} {cost : Int} (hsel : selection.selected = some (route, rate, cost)) :
    route ∈ routes ∧ p.Allows env route ∧ s.rateOf env route = some rate := by
  induction routes generalizing sawAllowed sawRate with
  | nil =>
    obtain ⟨rfl, -⟩ := Exec.pure_eq_ok.1 h
    cases hsel
  | cons q routes ih =>
    unfold selectRoute at h
    rcases Exec.ite_eq_ok.1 h with ⟨-, h₁⟩ | ⟨hallowed, h₁⟩
    · exact ⟨List.mem_cons_of_mem q (ih h₁).1, (ih h₁).2⟩
    obtain ⟨found, s₁, hr, h₂⟩ := Exec.bind_eq_ok.1 h₁
    obtain ⟨hfound, rfl⟩ := Exec.gets_eq_ok.1 hr
    cases found with
    | none => exact ⟨List.mem_cons_of_mem q (ih h₂).1, (ih h₂).2⟩
    | some card =>
      obtain ⟨amount, s₂, hc, h₃⟩ := Exec.bind_eq_ok.1 h₂
      obtain ⟨-, rfl⟩ := orRaise_eq_ok.1 hc
      rcases Exec.ite_eq_ok.1 h₃ with ⟨-, h₄⟩ | ⟨-, h₄⟩
      · obtain ⟨rfl, -⟩ := Exec.pure_eq_ok.1 h₄
        cases hsel
        exact ⟨List.mem_cons_self, not_not.1 hallowed, hfound⟩
      · exact ⟨List.mem_cons_of_mem q (ih h₄).1, (ih h₄).2⟩

/-- What a preflight returned: a reservation that was there, or a new one with a candidate that is allowed and its card. -/
theorem preflight_selected {args : PreflightArgs} {r : Reservation} (h : preflight env args s = (.ok r, s')) :
    r.policyId = args.policyId ∧ ((r ∈ s.reservations ∧ s' = s) ∨
      ∃ p rate, s.policy args.policyId = some p ∧ r.selected ∈ args.candidates env p ∧ p.Allows env r.selected ∧
        s.rateOf env r.selected = some rate ∧ r.rateCardId = rate.id ∧ s'.reservations = s.reservations ++ [r]) := by
  by_cases hnew : s.NewKey args
  · obtain ⟨p, hp, hadmits⟩ := admits_of_preflight hnew h
    rw [preflight_admitted hnew hp hadmits] at h
    obtain ⟨selection, s₁, hsel, h₁⟩ := Exec.bind_eq_ok.1 (Exec.transaction_eq_ok.1 h)
    obtain rfl := reads_ok (reads_selectRoute _ _ _ _ _ _ _) hsel
    rcases Exec.ite_eq_ok.1 h₁ with ⟨-, h₂⟩ | ⟨-, h₂⟩
    · exact absurd h₂ (by simp)
    rcases Exec.ite_eq_ok.1 h₂ with ⟨-, h₃⟩ | ⟨-, h₃⟩
    · exact absurd h₃ (by simp)
    cases hchosen : selection.selected with
    | none =>
      rw [hchosen] at h₃
      exact absurd h₃ (by simp)
    | some selected =>
      obtain ⟨route, rate, cost⟩ := selected
      rw [hchosen] at h₃
      obtain ⟨-, -, rfl, rfl⟩ := reserveRoute_eq_ok.1 h₃
      obtain ⟨hmem, hallows, hrate⟩ := selectRoute_allows hsel hchosen
      exact ⟨rfl, Or.inr ⟨p, rate, hp, hmem, hallows, hrate, rfl, rfl⟩⟩
  · obtain ⟨x, s₁, hx, h₁⟩ := Exec.bind_eq_ok.1 (Exec.transaction_eq_ok.1 h)
    obtain ⟨hfound, rfl⟩ := Exec.gets_eq_ok.1 hx
    cases x with
    | none => exact absurd hfound hnew
    | some existing =>
      rcases Exec.ite_eq_ok.1 h₁ with ⟨-, h₂⟩ | ⟨-, h₂⟩
      · exact absurd h₂ (by simp)
      · obtain ⟨rfl, rfl⟩ := Exec.pure_eq_ok.1 h₂
        have hkey := List.find?_some hfound
        rw [decide_eq_true_eq] at hkey
        exact ⟨hkey.1, Or.inl ⟨List.mem_of_find?_eq_some hfound, rfl⟩⟩

/-! ## Runs -/

/-- The call lower-cases with a function. -/
def StoreCall.Lowers (lower : String → String) : StoreCall → Prop
  | .putRateCard env _ | .createPolicy env _ | .preflight env _ | .finalizeUsage env _ | .reconcileProviderEvent env _ =>
    env.lower = lower
  | .emergencyStop _ _ => True

/-- A route that has the key of a listed one is listed. -/
def Separated (lower : String → String) (listed : List Route) : Prop :=
  ∀ route : Route, (route.normal lower).key lower ∈ listed.map (Route.key lower) → route.normal lower ∈ listed

/-- A policy allows and falls back to listed routes, and its reservations have listed routes. -/
structure Lists (listed : List Route) (policyId : String) (s : Store) : Prop where
  known : ∃ e ∈ s.routes, e.1 = policyId
  routes : ∀ e ∈ s.routes, e.1 = policyId → (∀ q ∈ e.2.1, q ∈ listed) ∧ ∀ q ∈ e.2.2, q ∈ listed
  chosen : ∀ e ∈ s.chosen, e.1 = policyId → e.2 ∈ listed

variable {lower : String → String} {listed : List Route} {policyId : String}

/-- The routes of a policy stay listed. -/
theorem Lists.change (h : Lists listed policyId s) (hchange : Change s s')
    (hchosen : ∀ e ∈ s'.chosen, e.1 = policyId → e.2 ∈ listed) : Lists listed policyId s' := by
  rcases hchange.routes with hroutes | ⟨p, hfresh, hroutes⟩
  · exact ⟨hroutes ▸ h.known, hroutes ▸ h.routes, hchosen⟩
  · obtain ⟨e, he, hid⟩ := h.known
    have hother : p.id ≠ policyId := by
      intro hpid
      obtain ⟨q, hq, rfl⟩ := List.mem_map.1 he
      exact hfresh q hq (hid.trans hpid.symm)
    refine ⟨⟨e, hroutes ▸ List.mem_append_left _ he, hid⟩, fun f hf hfid => ?_, hchosen⟩
    rw [hroutes] at hf
    rcases List.mem_append.1 hf with hf | hf
    · exact h.routes f hf hfid
    · rw [List.mem_singleton.1 hf] at hfid
      exact absurd hfid hother

/-- A preflight on a policy selects a listed route. -/
theorem Lists.selected (h : Lists listed policyId s) (hsep : Separated env.lower listed) {args : PreflightArgs}
    (hpolicy : args.policyId = policyId) {r : Reservation} (hr : preflight env args s = (.ok r, s')) : r.selected ∈ listed := by
  obtain ⟨hid, ⟨hmem, -⟩ | ⟨p, rate, hp, hcandidate, hallows, -⟩⟩ := preflight_selected hr
  · exact h.chosen _ (List.mem_map_of_mem hmem) (hid.trans hpolicy)
  · obtain ⟨hmem, hpid⟩ := Store.policy_eq_some hp
    obtain ⟨hallowed, hfallback⟩ := h.routes _ (List.mem_map_of_mem hmem) (hpid.trans hpolicy)
    rcases List.mem_cons.1 hcandidate with hrequested | hother
    · rw [hrequested] at hallows ⊢
      refine hsep ⟨args.provider, args.model⟩ ?_
      obtain ⟨q, hq, hkey⟩ := List.mem_map.1 hallows
      exact List.mem_map.2 ⟨q, hallowed q hq, hkey⟩
    · exact hfallback _ (List.mem_filter.1 hother).1

/-- Every operation keeps the routes of a policy listed. -/
theorem Lists.leaves (h : Lists listed policyId s) (hsep : Separated lower listed) {c : StoreCall} (hc : c.Lowers lower) :
    Lists listed policyId (c.leaves s) := by
  have hkeeps : SameChosen s (c.leaves s) → Lists listed policyId (c.leaves s) := by
    intro hsame
    refine h.change (c.leaves_change s) ?_
    rw [show (c.leaves s).chosen = s.chosen from hsame]
    exact h.chosen
  cases c with
  | putRateCard env args => exact hkeeps (sameChosen_putRateCard env args s _ _ rfl)
  | createPolicy env args => exact hkeeps (sameChosen_createPolicy env args s _ _ rfl)
  | finalizeUsage env args => exact hkeeps (sameChosen_finalizeUsage env args s _ _ rfl)
  | emergencyStop id reason => exact hkeeps (sameChosen_emergencyStop id reason s _ _ rfl)
  | reconcileProviderEvent env args => exact hkeeps (sameChosen_reconcileProviderEvent env args s _ _ rfl)
  | preflight env args =>
    obtain rfl : env.lower = lower := hc
    generalize hrun : preflight env args s = out
    obtain ⟨result, s'⟩ := out
    have hleaves : (StoreCall.preflight env args).leaves s = s' := congrArg Prod.snd hrun
    cases result with
    | error e =>
      refine hkeeps ?_
      rw [hleaves, Exec.transaction_eq_error hrun]
      rfl
    | ok r =>
      obtain ⟨hid, ⟨-, rfl⟩ | ⟨p, rate, -, -, -, -, -, hreservations⟩⟩ := preflight_selected hrun
      · refine hkeeps ?_
        rw [hleaves]
        rfl
      · refine h.change ((StoreCall.preflight env args).leaves_change s) ?_
        rw [hleaves]
        unfold Store.chosen
        rw [hreservations, List.map_append, List.map_singleton]
        intro e he hpid
        rcases List.mem_append.1 he with he | he
        · exact h.chosen e he hpid
        · rw [List.mem_singleton.1 he] at hpid ⊢
          exact h.selected hsep (hid.symm.trans hpid) hrun

theorem Lists.after (h : Lists listed policyId s) (hsep : Separated lower listed) {cs : List StoreCall}
    (hcs : ∀ c ∈ cs, c.Lowers lower) : Lists listed policyId (s.after cs) := by
  unfold Store.after
  induction cs generalizing s with
  | nil => exact h
  | cons c cs ih =>
    exact ih (h.leaves hsep (hcs c List.mem_cons_self)) (fun d hd => hcs d (List.mem_cons_of_mem c hd))

end TokenSpend

end Archisynapse
