import Archisynapse.Lemmas.TokenSpendControls
import Archisynapse.TokenSpend.Rates

/-!
# The choice of a route

What the loop of a preflight comes to, in terms of the candidates themselves: which of them are allowed, which have a rate card,
and which fit. From it, what a preflight with a new key does on each of the three ways it can go: it is not admitted, no candidate
fits, or one does.
-/

namespace Archisynapse

namespace TokenSpend

open Exec (gets modify transaction Reads)

/-! ## Candidates -/

/-- The routes a preflight tries, in order. -/
def PreflightArgs.candidates (args : PreflightArgs) (env : Env) (policy : Policy) : List Route :=
  args.requested env :: policy.fallbackRoutes.filter (fun r => decide (r ≠ args.requested env))

/-- What a policy has left. -/
def Policy.available (p : Policy) : Int := p.budgetMicrousd - p.spentMicrousd - p.reservedMicrousd

/-- The key of a route is among the allowed ones. -/
def Policy.Allows (p : Policy) (env : Env) (route : Route) : Prop :=
  routeKey env route.provider route.model ∈ p.allowedRoutes.map (fun r => routeKey env r.provider r.model)

instance (p : Policy) (env : Env) (route : Route) : Decidable (p.Allows env route) := by
  unfold Policy.Allows
  infer_instance

/-- The rate card the lookup finds for a route. -/
def Store.rateOf (s : Store) (env : Env) (route : Route) : Option RateCard :=
  latest (s.ratesAt env route.provider route.model env.now)

/-- A candidate is allowed, has a card, and costs at most the per-call limit and what is left. -/
def Feasible (env : Env) (s : Store) (p : Policy) (t : Tokens) (route : Route) (rate : RateCard) (cost : Nat) : Prop :=
  p.Allows env route ∧ s.rateOf env route = some rate ∧ env.calculateCost rate t = some cost ∧
    (cost : Int) ≤ p.maxPerCallMicrousd ∧ (cost : Int) ≤ p.available

/-- The cost of every allowed candidate that has a card can be computed. -/
def Priced (env : Env) (s : Store) (p : Policy) (t : Tokens) (routes : List Route) : Prop :=
  ∀ route ∈ routes, ∀ rate, p.Allows env route → s.rateOf env route = some rate → (env.calculateCost rate t).isSome

/-- The latest of some cards is one of them. -/
theorem latest_mem {cards : List RateCard} {card : RateCard} (h : latest cards = some card) : card ∈ cards := by
  induction cards with
  | nil => cases h
  | cons c cs ih =>
    unfold latest at h
    cases hlatest : latest cs with
    | none =>
      rw [hlatest] at h
      exact List.mem_cons.2 (Or.inl (Option.some.inj h).symm)
    | some d =>
      rw [hlatest] at h
      by_cases hlater : c.effectiveAt < d.effectiveAt
      · obtain rfl := Option.some.inj ((if_pos hlater).symm.trans h)
        exact List.mem_cons_of_mem c (ih hlatest)
      · exact List.mem_cons.2 (Or.inl (Option.some.inj ((if_neg hlater).symm.trans h)).symm)

variable {env : Env} {s : Store} {p : Policy} {t : Tokens}

/-- A card the lookup finds is stored. -/
theorem Store.rateOf_mem {route : Route} {rate : RateCard} (h : s.rateOf env route = some rate) : rate ∈ s.rateCards :=
  (List.mem_filter.1 (latest_mem h)).1

/-- A candidate is feasible with one card, at one cost. -/
theorem Feasible.unique {route : Route} {rate rate' : RateCard} {cost cost' : Nat} (h : Feasible env s p t route rate cost)
    (h' : Feasible env s p t route rate' cost') : rate = rate' ∧ cost = cost' := by
  obtain ⟨-, hrate, hcost, -⟩ := h
  obtain ⟨-, hrate', hcost', -⟩ := h'
  obtain rfl := Option.some.inj (hrate.symm.trans hrate')
  exact ⟨rfl, Option.some.inj (hcost.symm.trans hcost')⟩

/-! ## The loop -/

section loop

variable {route : Route} (rest : List Route) (sawAllowed sawRate : Bool)

/-- A candidate that is not allowed is passed over. -/
theorem selectRoute_denied (h : ¬ p.Allows env route) :
    selectRoute env p t p.available sawAllowed sawRate (route :: rest) s =
      selectRoute env p t p.available sawAllowed sawRate rest s := by
  have hkey : routeKey env route.provider route.model ∉ p.allowedRoutes.map (fun r => routeKey env r.provider r.model) := h
  conv_lhs => unfold selectRoute
  rw [if_pos hkey]

/-- The loop at an allowed candidate. -/
theorem selectRoute_allowed (h : p.Allows env route) :
    selectRoute env p t p.available sawAllowed sawRate (route :: rest) s =
      (match s.rateOf env route with
        | none => selectRoute env p t p.available true sawRate rest
        | some rate => do
          let cost ← orRaise .failure "int too large to convert to float" (env.calculateCost rate t)
          if (cost : Int) ≤ p.maxPerCallMicrousd ∧ (cost : Int) ≤ p.available then
            pure ⟨true, true, some (route, rate, cost)⟩
          else selectRoute env p t p.available true true rest : Operation Selection) s := by
  have hkey : routeKey env route.provider route.model ∈ p.allowedRoutes.map (fun r => routeKey env r.provider r.model) := h
  conv_lhs => unfold selectRoute
  rw [if_neg (not_not.2 hkey), Exec.gets_bind]
  rfl

/-- An allowed candidate without a card is passed over. -/
theorem selectRoute_unrated (h : p.Allows env route) (hrate : s.rateOf env route = none) :
    selectRoute env p t p.available sawAllowed sawRate (route :: rest) s =
      selectRoute env p t p.available true sawRate rest s := by
  rw [selectRoute_allowed rest sawAllowed sawRate h, hrate]

/-- A candidate that costs too much is passed over. -/
theorem selectRoute_over {rate : RateCard} {cost : Nat} (h : p.Allows env route) (hrate : s.rateOf env route = some rate)
    (hcost : env.calculateCost rate t = some cost)
    (hover : ¬ ((cost : Int) ≤ p.maxPerCallMicrousd ∧ (cost : Int) ≤ p.available)) :
    selectRoute env p t p.available sawAllowed sawRate (route :: rest) s =
      selectRoute env p t p.available true true rest s := by
  have hok : orRaise .failure "int too large to convert to float" (env.calculateCost rate t) s = (.ok cost, s) :=
    orRaise_eq_ok.2 ⟨hcost, rfl⟩
  rw [selectRoute_allowed rest sawAllowed sawRate h, hrate]
  dsimp only
  rw [Exec.bind_ok hok, if_neg hover]

/-- The loop selects a candidate that fits. -/
theorem selectRoute_fit {rate : RateCard} {cost : Nat} (h : Feasible env s p t route rate cost) :
    selectRoute env p t p.available sawAllowed sawRate (route :: rest) s = (.ok ⟨true, true, some (route, rate, cost)⟩, s) := by
  obtain ⟨hallowed, hrate, hcost, hcall, havailable⟩ := h
  have hok : orRaise .failure "int too large to convert to float" (env.calculateCost rate t) s = (.ok cost, s) :=
    orRaise_eq_ok.2 ⟨hcost, rfl⟩
  rw [selectRoute_allowed rest sawAllowed sawRate hallowed, hrate]
  dsimp only
  rw [Exec.bind_ok hok, if_pos ⟨hcall, havailable⟩]
  rfl

end loop

/-- Where the first candidates do not fit the loop goes on, and its flags say what it saw. -/
theorem selectRoute_skip {routes : List Route} (hpriced : Priced env s p t routes)
    (hnone : ∀ route ∈ routes, ∀ rate cost, ¬ Feasible env s p t route rate cost) (rest : List Route) (sawAllowed sawRate : Bool) :
    selectRoute env p t p.available sawAllowed sawRate (routes ++ rest) s =
      selectRoute env p t p.available (sawAllowed || routes.any (fun r => decide (p.Allows env r)))
        (sawRate || routes.any (fun r => decide (p.Allows env r) && (s.rateOf env r).isSome)) rest s := by
  induction routes generalizing sawAllowed sawRate with
  | nil => simp only [List.nil_append, List.any_nil, Bool.or_false]
  | cons route routes ih =>
    have ih' := ih (fun r hr => hpriced r (List.mem_cons_of_mem _ hr)) (fun r hr => hnone r (List.mem_cons_of_mem _ hr))
    rw [List.cons_append, List.any_cons, List.any_cons]
    by_cases hallowed : p.Allows env route
    · rw [decide_eq_true hallowed]
      rcases Option.eq_none_or_eq_some (s.rateOf env route) with hrate | ⟨rate, hrate⟩
      · rw [selectRoute_unrated _ _ _ hallowed hrate, ih', hrate]
        simp only [Bool.true_or, Bool.or_true, Option.isSome_none, Bool.and_false, Bool.false_or]
      · obtain ⟨cost, hcost⟩ := Option.isSome_iff_exists.1 (hpriced route List.mem_cons_self rate hallowed hrate)
        have hover : ¬ ((cost : Int) ≤ p.maxPerCallMicrousd ∧ (cost : Int) ≤ p.available) :=
          fun hfits => hnone route List.mem_cons_self rate cost ⟨hallowed, hrate, hcost, hfits.1, hfits.2⟩
        rw [selectRoute_over _ _ _ hallowed hrate hcost hover, ih', hrate]
        simp only [Bool.true_or, Bool.or_true, Option.isSome_some, Bool.and_self]
    · rw [selectRoute_denied _ _ _ hallowed, ih', decide_eq_false hallowed]
      simp only [Bool.false_or, Bool.false_and]

/-- In a list, a property holds nowhere or has a first place. -/
theorem first_or_none {α : Type} (P : α → Prop) (l : List α) :
    (∀ a ∈ l, ¬ P a) ∨ ∃ pre a post, l = pre ++ a :: post ∧ P a ∧ ∀ b ∈ pre, ¬ P b := by
  induction l with
  | nil => exact Or.inl (fun a ha => absurd ha List.not_mem_nil)
  | cons a l ih =>
    by_cases ha : P a
    · exact Or.inr ⟨[], a, l, rfl, ha, fun b hb => absurd hb List.not_mem_nil⟩
    · rcases ih with hnone | ⟨pre, b, post, rfl, hb, hpre⟩
      · exact Or.inl (List.forall_mem_cons.2 ⟨ha, hnone⟩)
      · exact Or.inr ⟨a :: pre, b, post, rfl, hb, List.forall_mem_cons.2 ⟨ha, hpre⟩⟩

/-! ## Preflight -/

/-- The time is in the period of a policy. -/
def Policy.InPeriod (p : Policy) (env : Env) : Prop :=
  ∃ now start finish, env.parseTime env.now = some now ∧ env.parseTime p.periodStart = some start ∧
    env.parseTime p.periodEnd = some finish ∧ start ≤ now ∧ now < finish

/-- The reservations of a policy in the last minute. -/
def Store.recentCalls (s : Store) (env : Env) (policyId : String) : Int :=
  ((s.reservations.filter (fun r => decide (r.policyId = policyId) && decide (env.minuteAgo ≤ r.createdAt))).length : Int)

/-- The policy is active, in its period and not yet spent up to its budget; the token counts are not negative and within its
limits; and the call rate is below its limit. -/
def Admits (env : Env) (args : PreflightArgs) (s : Store) (p : Policy) : Prop :=
  p.status = .active ∧ p.InPeriod env ∧ p.spentMicrousd < p.budgetMicrousd ∧ 0 ≤ args.estimated.min ∧
    args.estimated.input ≤ p.maxInputTokens ∧ args.estimated.output ≤ p.maxOutputTokens ∧
    s.recentCalls env args.policyId < p.maxCallsPerMinute

/-- No reservation of the policy has the key of a request. -/
def Store.NewKey (s : Store) (args : PreflightArgs) : Prop :=
  s.reservations.find? (fun r => decide (r.policyId = args.policyId ∧ r.idempotencyKey = args.idempotencyKey)) = none

instance (s : Store) (args : PreflightArgs) : Decidable (s.NewKey args) := by
  unfold Store.NewKey
  infer_instance

/-- What a preflight does with what its loop selected. -/
def PreflightArgs.conclude (args : PreflightArgs) (env : Env) (selection : Selection) : Operation Reservation :=
  if !selection.sawAllowed then raise .modelRouteDenied "requested model and configured fallbacks are not allowed"
  else if !selection.sawRate then raise .rateCardNotFound "no active rate card exists for any permitted route"
  else match selection.selected with
    | none => raise .budgetExceeded "no permitted model route fits the per-call and remaining budget"
    | some (route, rate, cost) => reserveRoute env args route rate cost

variable {args : PreflightArgs}

/-- The checks of a policy pass exactly where it is active, in its period and not spent up to its budget. -/
theorem validatePolicyForPreflight_eq_ok {u : Unit} {s' : Store} :
    validatePolicyForPreflight env p s = (.ok u, s') ↔
      (p.status = .active ∧ p.InPeriod env ∧ p.spentMicrousd < p.budgetMicrousd) ∧ s = s' := by
  constructor
  · intro h
    have hactive := validatePolicyForPreflight_ok h
    unfold validatePolicyForPreflight at h
    rw [if_neg (by rw [hactive]; decide), if_neg (not_not.2 hactive)] at h
    obtain ⟨now, s₁, hok₁, h₁⟩ := Exec.bind_eq_ok.1 h
    obtain ⟨hnow, rfl⟩ := orRaise_eq_ok.1 hok₁
    obtain ⟨start, s₂, hok₂, h₂⟩ := Exec.bind_eq_ok.1 h₁
    obtain ⟨hstart, rfl⟩ := orRaise_eq_ok.1 hok₂
    obtain ⟨finish, s₃, hok₃, h₃⟩ := Exec.bind_eq_ok.1 h₂
    obtain ⟨hfinish, rfl⟩ := orRaise_eq_ok.1 hok₃
    rcases Exec.ite_eq_ok.1 h₃ with ⟨-, h₄⟩ | ⟨hperiod, h₄⟩
    · exact absurd h₄ (by simp)
    rcases Exec.ite_eq_ok.1 h₄ with ⟨-, h₅⟩ | ⟨hbudget, h₅⟩
    · exact absurd h₅ (by simp)
    obtain ⟨-, rfl⟩ := Exec.pure_eq_ok.1 h₅
    obtain ⟨hfrom, hto⟩ := not_or.1 hperiod
    exact ⟨⟨hactive, ⟨now, start, finish, hnow, hstart, hfinish, not_lt.1 hfrom, not_le.1 hto⟩, not_le.1 hbudget⟩, rfl⟩
  · rintro ⟨⟨hactive, ⟨now, start, finish, hnow, hstart, hfinish, hfrom, hto⟩, hbudget⟩, rfl⟩
    unfold validatePolicyForPreflight
    rw [if_neg (by rw [hactive]; decide), if_neg (not_not.2 hactive), Exec.bind_ok (orRaise_eq_ok.2 ⟨hnow, rfl⟩),
      Exec.bind_ok (orRaise_eq_ok.2 ⟨hstart, rfl⟩), Exec.bind_ok (orRaise_eq_ok.2 ⟨hfinish, rfl⟩),
      if_neg (not_or.2 ⟨not_lt.2 hfrom, not_le.2 hto⟩), if_neg (not_le.2 hbudget)]
    rfl

/-- A preflight with a new key that is admitted chooses a route and reserves it. -/
theorem preflight_admitted (hnew : s.NewKey args) (hp : s.policy args.policyId = some p) (h : Admits env args s p) :
    preflight env args s = transaction (selectRoute env p args.estimated p.available false false (args.candidates env p) >>=
      args.conclude env) s := by
  obtain ⟨hactive, hperiod, hbudget, hmin, hinput, houtput, hrecent⟩ := h
  unfold Store.NewKey at hnew
  unfold Store.recentCalls at hrecent
  have hvalid : validatePolicyForPreflight env p s = (.ok (), s) :=
    validatePolicyForPreflight_eq_ok.2 ⟨⟨hactive, hperiod, hbudget⟩, rfl⟩
  unfold preflight transaction
  dsimp only
  rw [Exec.gets_bind, hnew]
  dsimp only
  rw [Exec.gets_bind, hp]
  dsimp only
  rw [Exec.bind_ok hvalid, if_neg (not_lt.2 hinput), if_neg (not_lt.2 houtput), if_neg (not_lt.2 hmin), Exec.gets_bind,
    if_neg (not_le.2 hrecent)]
  rfl

/-- A preflight with a new key that returned was admitted. -/
theorem admits_of_preflight {r : Reservation} {s' : Store} (hnew : s.NewKey args) (h : preflight env args s = (.ok r, s')) :
    ∃ p, s.policy args.policyId = some p ∧ Admits env args s p := by
  obtain ⟨x, s₁, hx, h₁⟩ := Exec.bind_eq_ok.1 (Exec.transaction_eq_ok.1 h)
  obtain ⟨hfound, rfl⟩ := Exec.gets_eq_ok.1 hx
  obtain rfl := hfound.symm.trans hnew
  obtain ⟨y, s₂, hy, h₂⟩ := Exec.bind_eq_ok.1 h₁
  obtain ⟨hp, rfl⟩ := Exec.gets_eq_ok.1 hy
  cases y with
  | none => exact absurd h₂ (by simp)
  | some p =>
    obtain ⟨_, s₃, hv, h₃⟩ := Exec.bind_eq_ok.1 h₂
    obtain ⟨⟨hactive, hperiod, hbudget⟩, rfl⟩ := validatePolicyForPreflight_eq_ok.1 hv
    rcases Exec.ite_eq_ok.1 h₃ with ⟨-, h₄⟩ | ⟨hinput, h₄⟩
    · exact absurd h₄ (by simp)
    rcases Exec.ite_eq_ok.1 h₄ with ⟨-, h₅⟩ | ⟨houtput, h₅⟩
    · exact absurd h₅ (by simp)
    rcases Exec.ite_eq_ok.1 h₅ with ⟨-, h₆⟩ | ⟨hmin, h₆⟩
    · exact absurd h₆ (by simp)
    obtain ⟨recent, s₄, hr, h₇⟩ := Exec.bind_eq_ok.1 h₆
    obtain ⟨rfl, rfl⟩ := Exec.gets_eq_ok.1 hr
    rcases Exec.ite_eq_ok.1 h₇ with ⟨-, h₈⟩ | ⟨hrecent, -⟩
    · obtain ⟨_, _, -, h₉⟩ := Exec.bind_eq_ok.1 h₈
      exact absurd h₉ (by simp)
    exact ⟨p, hp, hactive, hperiod, hbudget, not_lt.1 hmin, not_lt.1 hinput, not_lt.1 houtput, not_le.1 hrecent⟩

/-- The error of a preflight none of whose candidates fits. -/
def Store.denial (s : Store) (env : Env) (p : Policy) (candidates : List Route) : TokenError :=
  if !candidates.any (fun r => decide (p.Allows env r)) then
    ⟨.modelRouteDenied, "requested model and configured fallbacks are not allowed"⟩
  else if !candidates.any (fun r => decide (p.Allows env r) && (s.rateOf env r).isSome) then
    ⟨.rateCardNotFound, "no active rate card exists for any permitted route"⟩
  else ⟨.budgetExceeded, "no permitted model route fits the per-call and remaining budget"⟩

/-- The error says which of its candidates fail, and how. -/
theorem denial_code (candidates : List Route) :
    ((∀ route ∈ candidates, ¬ p.Allows env route) → (s.denial env p candidates).code = .modelRouteDenied) ∧
    ((∃ route ∈ candidates, p.Allows env route) → (∀ route ∈ candidates, p.Allows env route → s.rateOf env route = none) →
      (s.denial env p candidates).code = .rateCardNotFound) ∧
    ((∃ route ∈ candidates, p.Allows env route ∧ s.rateOf env route ≠ none) →
      (s.denial env p candidates).code = .budgetExceeded) := by
  unfold Store.denial
  refine ⟨fun hdenied => ?_, ?_, ?_⟩
  · have hany : candidates.any (fun r => decide (p.Allows env r)) = false :=
      List.any_eq_false.2 (fun r hr => by simpa using hdenied r hr)
    rw [hany]
    rfl
  · rintro ⟨route, hroute, hallowed⟩ hunrated
    have hany : candidates.any (fun r => decide (p.Allows env r)) = true :=
      List.any_eq_true.2 ⟨route, hroute, decide_eq_true hallowed⟩
    have hrated : candidates.any (fun r => decide (p.Allows env r) && (s.rateOf env r).isSome) = false := by
      refine List.any_eq_false.2 (fun r hr => ?_)
      rw [Bool.and_eq_true, decide_eq_true_eq, not_and]
      intro hr'
      rw [hunrated r hr hr']
      exact Bool.false_ne_true
    rw [hany, hrated]
    rfl
  · rintro ⟨route, hroute, hallowed, hrate⟩
    have hany : candidates.any (fun r => decide (p.Allows env r)) = true :=
      List.any_eq_true.2 ⟨route, hroute, decide_eq_true hallowed⟩
    have hrated : candidates.any (fun r => decide (p.Allows env r) && (s.rateOf env r).isSome) = true := by
      refine List.any_eq_true.2 ⟨route, hroute, ?_⟩
      rw [Bool.and_eq_true]
      exact ⟨decide_eq_true hallowed, Option.isSome_iff_ne_none.2 hrate⟩
    rw [hany, hrated]
    rfl

/-- A preflight none of whose candidates fits raises, and stores nothing. -/
theorem preflight_unfit (hnew : s.NewKey args) (hp : s.policy args.policyId = some p) (h : Admits env args s p)
    (hpriced : Priced env s p args.estimated (args.candidates env p))
    (hnone : ∀ route ∈ args.candidates env p, ∀ rate cost, ¬ Feasible env s p args.estimated route rate cost) :
    preflight env args s = (.error (s.denial env p (args.candidates env p)), s) := by
  have hloop := selectRoute_skip hpriced hnone [] false false
  rw [List.append_nil] at hloop
  rw [preflight_admitted hnew hp h]
  refine Exec.transaction_error (t := s) ?_
  rw [Exec.bind_ok (hloop.trans rfl)]
  unfold PreflightArgs.conclude Store.denial
  dsimp only
  rw [Bool.false_or, Bool.false_or]
  split
  · rfl
  · split <;> rfl

/-- The store with a reservation on a policy. -/
def Store.reserve (s : Store) (r : Reservation) : Store :=
  { s with reservations := s.reservations ++ [r] }.setPolicy r.policyId
    (fun p => { p with reservedMicrousd := p.reservedMicrousd + r.reservedMicrousd })

/-- The counts of a request, and the amount it reserves, can be stored. -/
def PreflightArgs.Bindable (args : PreflightArgs) (cost : Int) : Prop :=
  ∀ n ∈ [args.estimated.input, args.estimated.output, args.estimated.cachedInput, args.estimated.reasoning, cost], Stored n

/-- The end of a preflight: what it stores, where its counts can be stored and its id is new. -/
theorem reserveRoute_eq_ok {route : Route} {rate : RateCard} {cost : Int} {r : Reservation} {s' : Store} :
    reserveRoute env args route rate cost s = (.ok r, s') ↔
      args.Bindable cost ∧ s.reservation env.uuid = none ∧ r = args.row env route rate cost ∧ s' = s.reserve r := by
  constructor
  · intro h
    obtain ⟨_, s₀, hbound, h₁⟩ := Exec.bind_eq_ok.1 h
    obtain ⟨hbind, rfl⟩ := bindIntegers_eq_ok.1 hbound
    obtain ⟨known, s₁, hk, h₂⟩ := Exec.bind_eq_ok.1 h₁
    obtain ⟨rfl, rfl⟩ := Exec.gets_eq_ok.1 hk
    rcases Exec.ite_eq_ok.1 h₂ with ⟨-, h₃⟩ | ⟨hfresh, h₃⟩
    · exact absurd h₃ (by simp)
    obtain ⟨_, s₂, hm₁, h₄⟩ := Exec.bind_eq_ok.1 h₃
    obtain rfl := Exec.modify_eq_ok.1 hm₁
    obtain ⟨_, s₃, hm₂, h₅⟩ := Exec.bind_eq_ok.1 h₄
    obtain rfl := Exec.modify_eq_ok.1 hm₂
    obtain ⟨rfl, rfl⟩ := Exec.pure_eq_ok.1 h₅
    exact ⟨hbind, Option.not_isSome_iff_eq_none.1 hfresh, rfl, rfl⟩
  · rintro ⟨hbind, hfresh, rfl, rfl⟩
    have hknown : ¬ (s.reservation (args.row env route rate cost).id).isSome := Option.not_isSome_iff_eq_none.2 hfresh
    have hbound : bindIntegers [args.estimated.input, args.estimated.output, args.estimated.cachedInput,
        args.estimated.reasoning, cost] s = (.ok (), s) := bindIntegers_eq_ok.2 ⟨hbind, rfl⟩
    refine (Exec.bind_ok hbound).trans ?_
    rw [Exec.gets_bind, if_neg hknown]
    rfl

/-- The first candidate that fits is the one a preflight reserves, or what it raises comes from the reservation. -/
theorem preflight_first {pre post : List Route} {route : Route} {rate : RateCard} {cost : Nat} (hnew : s.NewKey args)
    (hp : s.policy args.policyId = some p) (h : Admits env args s p) (hsplit : args.candidates env p = pre ++ route :: post)
    (hpriced : Priced env s p args.estimated pre)
    (hpre : ∀ q ∈ pre, ∀ rate cost, ¬ Feasible env s p args.estimated q rate cost)
    (hfit : Feasible env s p args.estimated route rate cost) :
    preflight env args s = transaction (reserveRoute env args route rate cost) s := by
  have hloop : selectRoute env p args.estimated p.available false false (args.candidates env p) s =
      (.ok ⟨true, true, some (route, rate, cost)⟩, s) := by
    rw [hsplit, selectRoute_skip hpriced hpre, selectRoute_fit post _ _ hfit]
  rw [preflight_admitted hnew hp h]
  unfold transaction
  rw [Exec.bind_ok hloop]
  rfl

end TokenSpend

end Archisynapse
