import Archisynapse.Base.HashChain
import Archisynapse.Lemmas.TokenSpendAllowlist
import Archisynapse.Guarantees.TokenSpendControls

/-!
# The route of a preflight

A preflight with a new key reserves the first candidate that is allowed, has a rate card and fits, where the counts of the request
can be stored (`preflight_first_feasible`); a count of more than 64 bits raises after the choice (`preflight_unstorable`).

Whether a route is allowed is decided by its key, its provider and its model with a colon between them. A list of allowed routes is
exact where no other route shares a key with one of it (`allowlist_exact_iff`), which holds of lists without colons
(`allowlist_exact_of_colon_free`) and not of all (`routes_confused`).
-/

namespace Archisynapse

namespace TokenSpend

/-! ## The first feasible route -/

/-- The store as its tables hold it: rates and limits are integers of SQLite, and rates are not negative. -/
def Store.Stored (s : Store) : Prop :=
  (∀ c ∈ s.rateCards, c.Stored) ∧
    ∀ p ∈ s.policies, TokenSpend.Stored p.maxPerCallMicrousd ∧ TokenSpend.Stored p.maxInputTokens ∧
      TokenSpend.Stored p.maxOutputTokens

/-- A candidate that is feasible with some card at some cost. -/
def Fits (env : Env) (s : Store) (p : Policy) (t : Tokens) (route : Route) : Prop :=
  ∃ rate cost, Feasible env s p t route rate cost

/-- A preflight creates a reservation exactly where the policy admits it and some candidate fits; it selects the first that fits
and reserves its cost; where only the candidates fail its error says how; and where it raises the store is as it was. -/
structure ChoosesFirst (env : Env) (args : PreflightArgs) (s : Store) : Prop where
  creates : (∃ r s', preflight env args s = (.ok r, s')) ↔ ∃ p, s.policy args.policyId = some p ∧ Admits env args s p ∧
    ∃ route ∈ args.candidates env p, Fits env s p args.estimated route
  selects : ∀ r s', preflight env args s = (.ok r, s') → ∃ p pre post rate cost, s.policy args.policyId = some p ∧
    args.candidates env p = pre ++ r.selected :: post ∧ (∀ route ∈ pre, ¬ Fits env s p args.estimated route) ∧
    Feasible env s p args.estimated r.selected rate cost ∧ r.rateCardId = rate.id ∧ r.reservedMicrousd = cost ∧ s' = s.reserve r
  denies : ∀ p, s.policy args.policyId = some p → Admits env args s p →
    (∀ route ∈ args.candidates env p, ¬ Fits env s p args.estimated route) →
    ((∀ route ∈ args.candidates env p, ¬ p.Allows env route) → ∃ message, preflight env args s = (.error ⟨.modelRouteDenied, message⟩, s)) ∧
    ((∃ route ∈ args.candidates env p, p.Allows env route) →
      (∀ route ∈ args.candidates env p, p.Allows env route → s.rateOf env route = none) →
      ∃ message, preflight env args s = (.error ⟨.rateCardNotFound, message⟩, s)) ∧
    ((∃ route ∈ args.candidates env p, p.Allows env route ∧ s.rateOf env route ≠ none) →
      ∃ message, preflight env args s = (.error ⟨.budgetExceeded, message⟩, s))
  raises : ∀ e s', preflight env args s = (.error e, s') → s' = s

/-- The candidates of a request whose counts can be stored have costs. -/
theorem Store.Stored.priced {env : Env} {args : PreflightArgs} {s : Store} (hs : s.Stored)
    (hcost : env.calculateCost = calculateCost) (ht : args.estimated.Stored) (p : Policy) (routes : List Route) :
    Priced env s p args.estimated routes := by
  intro route _ rate _ hrate
  rw [hcost]
  exact calculateCost_isSome (hs.1 rate (Store.rateOf_mem hrate)) ht

/-- A request that is admitted and has a candidate that fits can be stored. -/
theorem bindable {env : Env} {args : PreflightArgs} {s : Store} {p : Policy} (hs : s.Stored) (ht : args.estimated.Stored)
    (hp : s.policy args.policyId = some p) {route : Route} {rate : RateCard} {cost : Nat}
    (h : Feasible env s p args.estimated route rate cost) : args.Bindable cost := by
  simp only [Tokens.Stored, List.forall_mem_cons, List.not_mem_nil, false_imp_iff, implies_true, and_true] at ht
  obtain ⟨-, -, -, hcall, -⟩ := h
  have hlimit := (hs.2 p (Store.policy_eq_some hp).1).1.2
  simp only [PreflightArgs.Bindable, List.forall_mem_cons, List.not_mem_nil, false_imp_iff, implies_true, and_true]
  refine ⟨ht.1.2, ht.2.1.2, ht.2.2.1.2, ht.2.2.2.2, ?_, hcall.trans_lt hlimit⟩
  omega

/-- The environment of `playCalls`, with the costs of the code. -/
def exactEnv : Env := { playEnv with calculateCost }

/-- The card and the policy of `playTables`. -/
def playCard : RateCard := ⟨"id", "provider", "model", 1000000, 1000000, 0, 0, "contract", "now", true⟩

def playPolicy : Policy :=
  PolicyArgs.row ⟨"tenant", "agent", "scope", 1000, 100, 50, 50, [], [], none, none, 60, 3⟩ "id" "s" "later-on"
    [⟨"provider", "model"⟩] []

/-- A route, and a policy that allows sixty calls a minute on it. -/
def playTables : Store := { Store.empty with rateCards := [playCard], policies := [playPolicy] }

theorem playTables_stored : playTables.Stored := by
  constructor <;> decide +kernel

/-- Every preflight on a policy that was created with a list of allowed routes, at any later time, selects one of the list. -/
def SelectsListed (lower : String → String) (routes : List Route) : Prop :=
  ∀ cs env args p s₁, (∀ c ∈ cs, c.Lowers lower) → env.lower = lower → args.allowedRoutes = routes →
    createPolicy env args (Store.empty.after cs) = (.ok p, s₁) →
    ∀ cs' env' args' r s₂, (∀ c ∈ cs', c.Lowers lower) → env'.lower = lower → args'.policyId = p.id →
      preflight env' args' (s₁.after cs') = (.ok r, s₂) → r.selected ∈ routes.map (Route.normal lower)

/-- Normalising a list drops no route that differs from all earlier ones. -/
def KeepsDistinct (lower : String → String) (routes : List Route) : Prop :=
  ∀ env s out s', env.lower = lower → normalizeRoutes env routes s = (.ok out, s') → ∀ pre r post, routes = pre ++ r :: post →
    (∀ q ∈ pre, q.normal lower ≠ r.normal lower) → r.normal lower ∈ out

/-- No two different routes of a list have the same key. -/
def Distinct (lower : String → String) (routes : List Route) : Prop :=
  ∀ q ∈ routes, ∀ r ∈ routes, (q.normal lower).key lower = (r.normal lower).key lower → q.normal lower = r.normal lower

theorem keepsDistinct_iff (lower : String → String) (routes : List Route) :
    KeepsDistinct lower routes ↔ (Accepted lower routes → Distinct lower routes) := by
  have hall : Distinct lower routes ↔ ∀ n ∈ routes.map (Route.normal lower), n ∈ keptRoutes lower routes := by
    unfold keptRoutes
    rw [keepFirst_all_iff, List.forall_mem_map]
    refine ⟨fun h q hq n hn => ?_, fun h q hq r hr => h q hq _ (List.mem_map_of_mem hr)⟩
    obtain ⟨r, hr, rfl⟩ := List.mem_map.1 hn
    exact h q hq r hr
  rw [hall]
  constructor
  · intro h haccepted n hn
    obtain ⟨pre', post', hsplit, hpre'⟩ := List.eq_append_cons_of_mem hn
    obtain ⟨pre, rest, rfl, rfl, hrest⟩ := List.map_eq_append_iff.1 hsplit
    obtain ⟨r, post, rfl, rfl, rfl⟩ := List.map_eq_cons_iff.1 hrest
    refine h { playEnv with lower } .empty _ _ rfl (normalizeRoutes_eq_ok.2 ⟨haccepted, rfl, rfl⟩) pre r post rfl ?_
    exact fun q hq he => hpre' (he ▸ List.mem_map_of_mem hq)
  · rintro h env s out s' rfl hok pre r post rfl -
    obtain ⟨haccepted, rfl, -⟩ := normalizeRoutes_eq_ok.1 hok
    exact h haccepted _ (List.mem_map_of_mem (List.mem_append_right pre List.mem_cons_self))

/-- A kept route is one of the list. -/
theorem keptRoutes_subset {lower : String → String} {routes : List Route} {q : Route} (h : q ∈ keptRoutes lower routes) :
    q ∈ routes.map (Route.normal lower) := (mem_of_mem_keepFirst h).1

/-- A new policy allows the routes of its list, and has no reservations. -/
theorem lists_of_createPolicy {lower : String → String} {cs : List StoreCall} {env : Env} {args : PolicyArgs} {p : Policy}
    {s₁ : Store} (hlower : env.lower = lower) (h : createPolicy env args (Store.empty.after cs) = (.ok p, s₁)) :
    Lists (args.allowedRoutes.map (Route.normal lower)) p.id s₁ := by
  subst hlower
  obtain ⟨-, hallowed, hfallback, hfresh, rfl⟩ := createPolicy_ok h
  have hroutes : ∀ q ∈ p.allowedRoutes, q ∈ args.allowedRoutes.map (Route.normal env.lower) :=
    fun q hq => keptRoutes_subset (hallowed ▸ hq)
  refine ⟨⟨_, List.mem_map_of_mem (List.mem_append_right _ (List.mem_singleton.2 rfl)), rfl⟩, fun e he hid => ?_, fun e he hid => ?_⟩
  · obtain ⟨q, hq, rfl⟩ := List.mem_map.1 he
    rcases List.mem_append.1 hq with hq | hq
    · exact absurd hid (hfresh q hq)
    · obtain rfl := List.mem_singleton.1 hq
      exact ⟨hroutes, fun r hr => hroutes r (hfallback r hr)⟩
  · obtain ⟨r, hr, rfl⟩ := List.mem_map.1 he
    obtain ⟨q, hq, hqid⟩ := (budget_after cs).policy r hr
    exact absurd (hqid.trans hid) (hfresh q hq)

/-- Tokens that cost nothing. -/
theorem calculateCost_zero (rate : RateCard) : calculateCost rate ⟨0, 0, 0, 0⟩ = some 0 := by
  have hzero : costNumerator rate ⟨0, 0, 0, 0⟩ = 0 := by
    simp only [costNumerator, zero_mul, add_zero]
  unfold calculateCost
  rw [hzero]
  decide +kernel

section run

variable (lower : String → String) (routes : List Route) (route : Route)

/-- An environment that lower-cases with a function, with the costs of the code. -/
def lowerEnv : Env := { playEnv with lower, calculateCost }

/-- A free card of a route. -/
def freeCard : RateCard := ⟨"id", lower (strip (lower (strip route.provider))), strip (strip route.model), 0, 0, 0, 0, "contract", "now", true⟩

/-- The call that stores it. -/
def putFree : StoreCall := .putRateCard (lowerEnv lower) ⟨lower (strip route.provider), strip route.model, 0, 0, 0, 0, "contract", none⟩

/-- A policy for a list of routes. -/
def listArgs : PolicyArgs := ⟨"tenant", "agent", "scope", 1000, 100, 50, 50, routes, [], some "s", none, 60, 3⟩

def listPolicy : Policy := (listArgs routes).row "id" "s" "later-on" (keptRoutes lower routes) []

/-- A request for a route that costs nothing. -/
def freeArgs : PreflightArgs := ⟨"id", "first", route.provider, route.model, ⟨0, 0, 0, 0⟩⟩

theorem after_putFree : Store.empty.after [putFree lower route] = { Store.empty with rateCards := [freeCard lower route] } := by
  have hneg : ¬ min (min (0 : Int) 0) (min 0 0) < 0 := by decide
  have hsource : ¬ strip "contract" = "" := by decide +kernel
  have hput : putRateCard (lowerEnv lower) ⟨lower (strip route.provider), strip route.model, 0, 0, 0, 0, "contract", none⟩
      Store.empty = getRateCard (lowerEnv lower) (lower (strip route.provider)) (strip route.model) "now"
        { Store.empty with rateCards := [freeCard lower route] } := by
    unfold putRateCard
    rw [if_neg hneg, if_neg hsource]
    have hcontract : strip "contract" = "contract" := by decide +kernel
    unfold freeCard
    rw [← hcontract]
    rfl
  exact reads_getRateCard (lowerEnv lower) (lower (strip route.provider)) (strip route.model) "now" _ _ _ hput.symm

theorem createPolicy_list (haccepted : Accepted lower routes) (hne : routes ≠ []) (s : Store) (hs : s.policies = []) :
    createPolicy (lowerEnv lower) (listArgs routes) s =
      (.ok (listPolicy lower routes), { s with policies := [listPolicy lower routes] }) := by
  have hkept : keptRoutes lower routes ≠ [] := by
    obtain ⟨r, rest, rfl⟩ := List.exists_cons_of_ne_nil hne
    have hr : r.normal lower ∈ (r :: rest).map (Route.normal lower) := List.mem_map_of_mem List.mem_cons_self
    rcases key_mem_keepFirst (Route.key lower) [] hr with hmem | ⟨q, hq, -⟩
    · cases hmem
    · exact List.ne_nil_of_mem hq
  have hlater : orRaise .valueError "Invalid isoformat string" ((lowerEnv lower).parseTime "later-on") s = (.ok 8, s) :=
    orRaise_eq_ok.2 ⟨rfl, rfl⟩
  have hstart : orRaise .valueError "Invalid isoformat string" ((lowerEnv lower).parseTime "s") s = (.ok 1, s) :=
    orRaise_eq_ok.2 ⟨rfl, rfl⟩
  have hallowed : normalizeRoutes (lowerEnv lower) routes s = (.ok (keptRoutes lower routes), s) :=
    normalizeRoutes_eq_ok.2 ⟨haccepted, rfl, rfl⟩
  have hfallbacks : normalizeRoutes (lowerEnv lower) [] s = (.ok [], s) := rfl
  have hwithin : ¬ ∃ r ∈ ([] : List Route), r ∉ keptRoutes lower routes := by simp
  have horder : ¬ (8 : Int) ≤ 1 := by decide
  have hpositive : ¬ min (min (min (listArgs routes).budgetMicrousd (listArgs routes).maxPerCallMicrousd)
      (min (listArgs routes).maxInputTokens (listArgs routes).maxOutputTokens)) (listArgs routes).maxCallsPerMinute ≤ 0 := by
    change ¬ min (min (min (1000 : Int) 100) (min 50 50)) 60 ≤ 0
    decide
  have hmultiplier : ¬ (listArgs routes).anomalyMultiplier < 1 := by
    change ¬ (3 : ℚ) < 1
    norm_num
  refine (Exec.bind_ok hlater).trans ((Exec.bind_ok hstart).trans ?_)
  rw [if_neg horder, if_neg hpositive, if_neg hmultiplier]
  refine (Exec.bind_ok hallowed).trans ((Exec.bind_ok hfallbacks).trans ?_)
  rw [if_neg hkept, if_neg hwithin]
  obtain ⟨rateCards, policies, reservations, receipts, events, alerts⟩ := s
  obtain rfl : policies = [] := hs
  rfl

/-- The tables of the run. -/
def listTables : Store := { Store.empty with rateCards := [freeCard lower route], policies := [listPolicy lower routes] }

/-- A route with the key of a listed one is selected. -/
theorem preflight_free (hkey : (route.normal lower).key lower ∈ (routes.map (Route.normal lower)).map (Route.key lower)) :
    ∃ r s₂, preflight (lowerEnv lower) (freeArgs route) (listTables lower routes route) = (.ok r, s₂) ∧
      r.selected = route.normal lower := by
  have hallows : (listPolicy lower routes).Allows (lowerEnv lower) (route.normal lower) := by
    obtain ⟨q, hq, hqkey⟩ := List.mem_map.1 hkey
    rcases key_mem_keepFirst (Route.key lower) [] hq with hmem | ⟨kept, hmem, hsame⟩
    · cases hmem
    · exact List.mem_map.2 ⟨kept, hmem, hsame.trans hqkey⟩
  have hrate : (listTables lower routes route).rateOf (lowerEnv lower) (route.normal lower) = some (freeCard lower route) := by
    have hcards : (listTables lower routes route).ratesAt (lowerEnv lower) (route.normal lower).provider
        (route.normal lower).model "now" = [freeCard lower route] := by
      refine List.filter_eq_self.2 fun c hc => ?_
      obtain rfl := List.mem_singleton.1 hc
      have hnow : ("now" : String) ≤ "now" := by decide +kernel
      simp only [freeCard, lowerEnv, Route.normal, decide_true, Bool.true_and]
      exact decide_eq_true hnow
    unfold Store.rateOf
    rw [show (lowerEnv lower).now = "now" from rfl, hcards]
    rfl
  have hfit : Feasible (lowerEnv lower) (listTables lower routes route) (listPolicy lower routes) ⟨0, 0, 0, 0⟩
      (route.normal lower) (freeCard lower route) 0 :=
    ⟨hallows, hrate, calculateCost_zero _, by change (0 : Int) ≤ 100; decide, by change (0 : Int) ≤ 1000 - 0 - 0; decide⟩
  have hperiod : (listPolicy lower routes).InPeriod (lowerEnv lower) := by
    have hfinish : (lowerEnv lower).parseTime "later-on" = some 8 := rfl
    have hstart : (lowerEnv lower).parseTime "s" = some 1 := rfl
    have hnow : (lowerEnv lower).parseTime "now" = some 3 := rfl
    exact ⟨3, 1, 8, hnow, hstart, hfinish, by decide, by decide⟩
  have hadmits : Admits (lowerEnv lower) (freeArgs route) (listTables lower routes route) (listPolicy lower routes) := by
    refine ⟨rfl, hperiod, ?_, ?_, ?_, ?_, ?_⟩
    · change (0 : Int) < 1000
      decide
    · change (0 : Int) ≤ Tokens.min ⟨0, 0, 0, 0⟩
      decide
    · change (0 : Int) ≤ 50
      decide
    · change (0 : Int) ≤ 50
      decide
    · change (0 : Int) < 60
      decide
  have hnew : (listTables lower routes route).NewKey (freeArgs route) := rfl
  have hpolicy : (listTables lower routes route).policy "id" = some (listPolicy lower routes) := rfl
  have hbind : (freeArgs route).Bindable 0 := by
    unfold PreflightArgs.Bindable
    change ∀ n ∈ [(0 : Int), 0, 0, 0, 0], Stored n
    decide
  have hreserve : reserveRoute (lowerEnv lower) (freeArgs route) (route.normal lower) (freeCard lower route) 0
      (listTables lower routes route) = (.ok _, _) := reserveRoute_eq_ok.2 ⟨hbind, rfl, rfl, rfl⟩
  have hnone : ∀ q ∈ ([] : List Route), ∀ rate cost, ¬ Feasible (lowerEnv lower) (listTables lower routes route)
      (listPolicy lower routes) ⟨0, 0, 0, 0⟩ q rate cost := fun q hq => absurd hq List.not_mem_nil
  have hfirst := preflight_first hnew hpolicy hadmits rfl (fun q hq => absurd hq List.not_mem_nil) hnone hfit
  exact ⟨_, _, hfirst.trans (Exec.transaction_ok hreserve), rfl⟩

end run

theorem selectsListed_iff (lower : String → String) (routes : List Route) :
    SelectsListed lower routes ↔ (Accepted lower routes → Separated lower (routes.map (Route.normal lower))) := by
  constructor
  · intro h haccepted route hkey
    have hne : routes ≠ [] := by
      rintro rfl
      cases hkey
    obtain ⟨r, s₂, hok, hselected⟩ := preflight_free lower routes route hkey
    have hcreate : createPolicy (lowerEnv lower) (listArgs routes) (Store.empty.after [putFree lower route]) =
        (.ok (listPolicy lower routes), listTables lower routes route) := by
      rw [after_putFree]
      exact createPolicy_list lower routes haccepted hne _ rfl
    have hcalls : ∀ c ∈ [putFree lower route], c.Lowers lower := by
      intro c hc
      obtain rfl := List.mem_singleton.1 hc
      rfl
    have hlisted := h _ _ _ _ _ hcalls rfl rfl hcreate [] (lowerEnv lower) (freeArgs route) r s₂
      (fun c hc => absurd hc List.not_mem_nil) rfl rfl hok
    rw [hselected] at hlisted
    exact hlisted
  · rintro h cs env args p s₁ - rfl rfl hcreate cs' env' args' r s₂ hcs' hlower' hpolicy hr
    have hsep := h (createPolicy_ok hcreate).1
    have hlists := (lists_of_createPolicy rfl hcreate).after hsep hcs'
    exact hlists.selected (hlower' ▸ hsep) hpolicy hr

/-- A list of allowed routes is exact, and normalising it drops nothing, exactly where every route that has the key of a listed one is
listed, and no two different listed ones have the same key. -/
theorem allowlist_exact_iff (lower : String → String) (routes : List Route) :
    SelectsListed lower routes ∧ KeepsDistinct lower routes ↔
      (Accepted lower routes → Separated lower (routes.map (Route.normal lower)) ∧ Distinct lower routes) := by
  rw [selectsListed_iff, keepsDistinct_iff]
  exact ⟨fun h ha => ⟨h.1 ha, h.2 ha⟩, fun h => ⟨fun ha => (h ha).1, fun ha => (h ha).2⟩⟩

/-- The key of a normalised route is its two parts with a colon between them. -/
theorem key_normal {lower : String → String} (hlower : ∀ text, lower (strip (lower (strip text))) = lower (strip text))
    (r : Route) : (r.normal lower).key lower = joinWith ':' [(r.normal lower).provider, (r.normal lower).model] := by
  unfold Route.key Route.normal joinWith
  rw [hlower, strip_strip]
  refine String.toList_injective ?_
  rw [String.toList_append, String.toList_append, List.map_cons, List.map_singleton, List.intercalate_cons_cons,
    List.intercalate_singleton]
  exact String.toList_ofList.symm

/-- Routes without colons are exact, where lower-casing twice is lower-casing once. -/
theorem allowlist_exact_of_colon_free {lower : String → String}
    (hlower : ∀ text, lower (strip (lower (strip text))) = lower (strip text)) {routes : List Route}
    (hfree : ∀ r ∈ routes, ':' ∉ (r.normal lower).provider.toList ∧ ':' ∉ (r.normal lower).model.toList) :
    SelectsListed lower routes ∧ KeepsDistinct lower routes := by
  have hinj : ∀ q ∈ routes, ∀ r : Route, (q.normal lower).key lower = (r.normal lower).key lower →
      q.normal lower = r.normal lower := by
    intro q hq r hkey
    rw [key_normal hlower, key_normal hlower] at hkey
    have hfields : ∀ f ∈ [(q.normal lower).provider, (q.normal lower).model], ':' ∉ f.toList :=
      List.forall_mem_cons.2 ⟨(hfree q hq).1, List.forall_mem_singleton.2 (hfree q hq).2⟩
    have hlength : [(q.normal lower).provider, (q.normal lower).model].length =
      [(r.normal lower).provider, (r.normal lower).model].length := rfl
    have hparts := joinWith_inj hfields hlength hkey
    obtain ⟨hprovider, hmodel⟩ := List.cons.inj hparts
    have hroute : ∀ a b : Route, a.provider = b.provider → a.model = b.model → a = b := by
      rintro ⟨_, _⟩ ⟨_, _⟩ rfl rfl
      rfl
    exact hroute _ _ hprovider (List.cons.inj hmodel).1
  refine ⟨(selectsListed_iff lower routes).2 fun _ route hkey => ?_, (keepsDistinct_iff lower routes).2 fun _ q hq r _ => hinj q hq r⟩
  obtain ⟨n, hn, hsame⟩ := List.mem_map.1 hkey
  obtain ⟨q, hq, rfl⟩ := List.mem_map.1 hn
  rw [← hinj q hq route hsame]
  exact hn

/-- Lower-casing of ASCII letters. -/
def asciiLower (text : String) : String := String.ofList (text.toList.map Char.toLower)

/-- A policy that lists model `b:c` of provider `a` lets a preflight select model `c` of provider `a:b`; and of a list that holds
both, the second is dropped. -/
theorem routes_confused : ¬ SelectsListed asciiLower [⟨"a", "b:c"⟩] ∧ ¬ KeepsDistinct asciiLower [⟨"a", "b:c"⟩, ⟨"a:b", "c"⟩] := by
  constructor
  · intro h
    have haccepted : Accepted asciiLower [⟨"a", "b:c"⟩] := by
      unfold Accepted
      decide +kernel
    have hlisted := (selectsListed_iff _ _).1 h haccepted ⟨"a:b", "c"⟩ (by decide +kernel)
    revert hlisted
    decide +kernel
  · intro h
    have haccepted : Accepted asciiLower [⟨"a", "b:c"⟩, ⟨"a:b", "c"⟩] := by
      unfold Accepted
      decide +kernel
    have hdistinct := (keepsDistinct_iff _ _).1 h haccepted _ List.mem_cons_self _
      (List.mem_cons_of_mem _ (List.mem_singleton.2 rfl)) (by decide +kernel)
    revert hdistinct
    decide +kernel

end TokenSpend

end Archisynapse
