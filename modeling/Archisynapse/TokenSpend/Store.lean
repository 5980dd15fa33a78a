import Archisynapse.Base.Exec
import Archisynapse.Base.Sums
import Archisynapse.Base.Values
import Archisynapse.TokenSpend.Types
import Archisynapse.Base.IsoTime

/-!
# The token-spend store

The operations of token_rates.py, token_policy.py, token_preflight.py, token_usage.py and token_reconcile.py over the tables of
token_common.py. The writes of each run in a `BEGIN IMMEDIATE` transaction, so the operations of all workers come one after
another, and a transaction that raises leaves the tables as they were.

What an operation takes from outside its arguments is in `Env`: the clock, parsed times, hashes, signatures, and the results of
float arithmetic (none where the conversion raises). `calculateCost` is `calculate_cost` on token counts that are not negative:
a natural number, or none when it raises.
-/

namespace Archisynapse

namespace TokenSpend

/-- The tables. -/
structure Store where
  rateCards : List RateCard
  policies : List Policy
  reservations : List Reservation
  receipts : List UsageReceipt
  events : List ProviderEvent
  alerts : List Alert
  deriving DecidableEq

/-- The empty store. -/
def Store.empty : Store := ⟨[], [], [], [], [], []⟩

/-- What operations take from outside: `now` is `iso_now()` and `minuteAgo` the text of one minute earlier; `later` is the text
of thirty days later; `ceilTimes n x` is `math.ceil(n * x)`, and `onePercent n` is `math.ceil(n * 0.01)`. -/
structure Env where
  now : String
  minuteAgo : String
  later : String
  uuid : String
  parseTime : String → Option Int
  lower : String → String
  fingerprint : Route → Tokens → String
  eventHash : EventPayload → String
  calculateCost : RateCard → Tokens → Option Nat
  ceilTimes : Int → ℚ → Option Int
  onePercent : Int → Option Int
  verifies : UsageReceipt → Bool

/-- An operation on the store. -/
abbrev Operation (α : Type) : Type := Exec Store TokenError α

open Exec (throw gets modify transaction)

/-- Raise an exception. -/
def raise {α : Type} (code : ErrorCode) (message : String) : Operation α := throw ⟨code, message⟩

/-- The value of a computation that may raise. -/
def orRaise {α : Type} (code : ErrorCode) (message : String) : Option α → Operation α
  | some a => pure a
  | none => raise code message

/-- The integers a statement binds: SQLite stores 64 bits. -/
def bindIntegers (values : List Int) : Operation Unit :=
  if ∀ n ∈ values, -2 ^ 63 ≤ n ∧ n < 2 ^ 63 then pure ()
  else raise .failure "Python int too large to convert to SQLite INTEGER"

/-! ## Texts -/

/-- A text that is there and not empty. -/
def truthy : Option String → Option String
  | some text => if text = "" then none else some text
  | none => none

/-! ## Rows -/

/-- The policy with an id. -/
def Store.policy (s : Store) (id : String) : Option Policy := s.policies.find? (fun p => decide (p.id = id))

/-- The reservation with an id. -/
def Store.reservation (s : Store) (id : String) : Option Reservation := s.reservations.find? (fun r => decide (r.id = id))

/-- Update a policy. -/
def Store.setPolicy (s : Store) (id : String) (u : Policy → Policy) : Store :=
  { s with policies := updateKey (·.id) id u s.policies }

/-- Update a reservation. -/
def Store.setReservation (s : Store) (id : String) (u : Reservation → Reservation) : Store :=
  { s with reservations := updateKey (·.id) id u s.reservations }

def alert (policyId reservationId : Option String) (alertType message : String) : Operation Unit :=
  modify (fun s => { s with alerts := s.alerts ++ [⟨policyId, reservationId, "critical", alertType, message⟩] })

/-- A policy that is paused for a reason. -/
def Policy.pause (p : Policy) (reason : String) : Policy :=
  { p with status := .paused, stopReason := some reason, version := p.version + 1 }

def pausePolicy (policyId reason : String) (reservationId : Option String) : Operation Unit := do
  modify (fun s => s.setPolicy policyId (·.pause reason))
  alert (some policyId) reservationId reason "AI spend policy was paused automatically"

/-- `_pause_policy` under an `if`. -/
def pauseWhen (c : Prop) [Decidable c] (policyId reason : String) (reservationId : Option String) : Operation Unit :=
  if c then pausePolicy policyId reason reservationId else pure ()

/-! ## Rate cards -/

/-- The cards of a route that are in effect at a time, as texts compare. -/
def Store.ratesAt (s : Store) (env : Env) (provider model at_ : String) : List RateCard :=
  s.rateCards.filter (fun c => decide (c.provider = env.lower (strip provider)) && decide (c.model = strip model) && c.active &&
    decide (c.effectiveAt ≤ at_))

/-- The card with the greatest effective time, the first of them. -/
def latest : List RateCard → Option RateCard
  | [] => none
  | c :: cs => match latest cs with
    | some d => if c.effectiveAt < d.effectiveAt then some d else some c
    | none => some c

/-- `get_rate_card` and `_get_rate_card_conn`. -/
def getRateCard (env : Env) (provider model at_ : String) : Operation RateCard := do
  match ← gets (fun s => latest (s.ratesAt env provider model at_)) with
  | some card => pure card
  | none => raise .rateCardNotFound s!"no active rate card for {provider}/{model}"

/-- The arguments of `put_rate_card`. -/
structure RateCardArgs where
  provider : String
  model : String
  inputMicrousdPerMillion : Int
  outputMicrousdPerMillion : Int
  cachedInputMicrousdPerMillion : Int
  reasoningMicrousdPerMillion : Int
  sourceReference : String
  effectiveAt : Option String

def putRateCard (env : Env) (args : RateCardArgs) : Operation RateCard :=
  if min (min args.inputMicrousdPerMillion args.outputMicrousdPerMillion)
      (min args.cachedInputMicrousdPerMillion args.reasoningMicrousdPerMillion) < 0 then
    raise .valueError "rate card values cannot be negative"
  else if strip args.sourceReference = "" then raise .valueError "source_reference is required"
  else do
    let effective := (truthy args.effectiveAt).getD env.now
    let _ ← orRaise .valueError "Invalid isoformat string" (env.parseTime effective)
    let card : RateCard :=
      { id := env.uuid
        provider := env.lower (strip args.provider)
        model := strip args.model
        inputMicrousdPerMillion := args.inputMicrousdPerMillion
        outputMicrousdPerMillion := args.outputMicrousdPerMillion
        cachedInputMicrousdPerMillion := args.cachedInputMicrousdPerMillion
        reasoningMicrousdPerMillion := args.reasoningMicrousdPerMillion
        sourceReference := strip args.sourceReference
        effectiveAt := effective
        active := true }
    transaction (do
      bindIntegers [card.inputMicrousdPerMillion, card.outputMicrousdPerMillion, card.cachedInputMicrousdPerMillion,
        card.reasoningMicrousdPerMillion]
      let known ← gets (fun s => s.rateCards.any (fun c => decide (c.id = card.id ∨
        (c.provider = card.provider ∧ c.model = card.model ∧ c.effectiveAt = card.effectiveAt))))
      if known then raise .integrityError "UNIQUE constraint failed: ai_rate_cards"
      else modify (fun s => { s with rateCards := s.rateCards ++ [card] }))
    getRateCard env args.provider args.model effective

/-! ## Policies -/

/-- The arguments of `create_policy`. -/
structure PolicyArgs where
  tenantId : String
  scopeType : String
  scopeId : String
  budgetMicrousd : Int
  maxPerCallMicrousd : Int
  maxInputTokens : Int
  maxOutputTokens : Int
  allowedRoutes : List Route
  fallbackRoutes : List Route
  periodStart : Option String
  periodEnd : Option String
  maxCallsPerMinute : Int
  anomalyMultiplier : ℚ

/-- The key of a route. -/
def routeKey (env : Env) (provider model : String) : String := env.lower (strip provider) ++ ":" ++ strip model

/-- The loop of `_normalize_routes`, with the routes kept so far and their keys. -/
def normalizeFrom (env : Env) (result : List Route) (seen : List String) : List Route → Operation (List Route)
  | [] => pure result
  | route :: routes =>
    let provider := env.lower (strip route.provider)
    let model := strip route.model
    if provider = "" ∨ model = "" then raise .valueError "each route requires provider and model"
    else
      let key := routeKey env provider model
      if key ∈ seen then normalizeFrom env result seen routes
      else normalizeFrom env (result ++ [⟨provider, model⟩]) (seen ++ [key]) routes

def normalizeRoutes (env : Env) (routes : List Route) : Operation (List Route) := normalizeFrom env [] [] routes

def getPolicy (policyId : String) : Operation Policy := do
  match ← gets (fun s => s.policy policyId) with
  | some p => pure p
  | none => raise .authorizationDenied "AI spend policy not found"

/-- The row `create_policy` inserts. -/
def PolicyArgs.row (args : PolicyArgs) (id start finish : String) (allowed fallbacks : List Route) : Policy :=
  { id
    tenantId := strip args.tenantId
    scopeType := strip args.scopeType
    scopeId := strip args.scopeId
    periodStart := start
    periodEnd := finish
    budgetMicrousd := args.budgetMicrousd
    maxPerCallMicrousd := args.maxPerCallMicrousd
    maxInputTokens := args.maxInputTokens
    maxOutputTokens := args.maxOutputTokens
    maxCallsPerMinute := args.maxCallsPerMinute
    anomalyMultiplier := args.anomalyMultiplier
    allowedRoutes := allowed
    fallbackRoutes := fallbacks
    reservedMicrousd := 0
    spentMicrousd := 0
    callCount := 0
    status := .active
    stopReason := none
    version := 1 }

def createPolicy (env : Env) (args : PolicyArgs) : Operation Policy := do
  let start := (truthy args.periodStart).getD env.now
  let finish := (truthy args.periodEnd).getD env.later
  let finishTime ← orRaise .valueError "Invalid isoformat string" (env.parseTime finish)
  let startTime ← orRaise .valueError "Invalid isoformat string" (env.parseTime start)
  if finishTime ≤ startTime then raise .valueError "period_end must be after period_start"
  else if min (min (min args.budgetMicrousd args.maxPerCallMicrousd) (min args.maxInputTokens args.maxOutputTokens))
      args.maxCallsPerMinute ≤ 0 then
    raise .valueError "policy limits must be positive"
  else if args.anomalyMultiplier < 1 then raise .valueError "anomaly_multiplier must be at least 1"
  else do
    let allowed ← normalizeRoutes env args.allowedRoutes
    let fallbacks ← normalizeRoutes env args.fallbackRoutes
    if allowed = [] then raise .valueError "at least one allowed route is required"
    else if ∃ route ∈ fallbacks, route ∉ allowed then raise .valueError "fallback routes must also be allowed"
    else do
      let row := args.row env.uuid start finish allowed fallbacks
      transaction (do
        bindIntegers [row.budgetMicrousd, row.maxPerCallMicrousd, row.maxInputTokens, row.maxOutputTokens, row.maxCallsPerMinute]
        let known ← gets (fun s => s.policies.any (fun p => decide (p.id = row.id ∨ (p.tenantId = row.tenantId ∧
          p.scopeType = row.scopeType ∧ p.scopeId = row.scopeId ∧ p.periodStart = row.periodStart))))
        if known then raise .integrityError "UNIQUE constraint failed: ai_spend_policies"
        else modify (fun s => { s with policies := s.policies ++ [row] }))
      getPolicy env.uuid

def emergencyStop (policyId reason : String) : Operation Policy :=
  if strip reason = "" then raise .valueError "reason is required"
  else do
    transaction (do
      let known ← gets (fun s => (s.policy policyId).isSome)
      if !known then raise .authorizationDenied "AI spend policy not found"
      else do
        modify (fun s => s.setPolicy policyId (·.pause (strip reason)))
        alert (some policyId) none "emergency_stop" "AI spend policy was stopped")
    getPolicy policyId

/-! ## Preflight -/

/-- The arguments of `preflight`. -/
structure PreflightArgs where
  policyId : String
  idempotencyKey : String
  provider : String
  model : String
  estimated : Tokens

/-- The requested route, normalised. -/
def PreflightArgs.requested (args : PreflightArgs) (env : Env) : Route := ⟨env.lower (strip args.provider), strip args.model⟩

def validatePolicyForPreflight (env : Env) (policy : Policy) : Operation Unit :=
  if policy.status = .paused then
    raise .policyPaused ((truthy policy.stopReason).getD "AI spend policy is paused")
  else if policy.status ≠ .active then raise .authorizationDenied s!"AI spend policy is {policy.status.text}"
  else do
    let now ← orRaise .valueError "Invalid isoformat string" (env.parseTime env.now)
    let start ← orRaise .valueError "Invalid isoformat string" (env.parseTime policy.periodStart)
    let finish ← orRaise .valueError "Invalid isoformat string" (env.parseTime policy.periodEnd)
    if now < start ∨ finish ≤ now then raise .authorizationDenied "AI spend policy is outside its active period"
    else if policy.budgetMicrousd ≤ policy.spentMicrousd then raise .budgetExceeded "AI spend policy budget is exhausted"
    else pure ()

/-- What the loop over the candidates has seen, and what it selected. -/
structure Selection where
  sawAllowed : Bool
  sawRate : Bool
  selected : Option (Route × RateCard × Int)

/-- The loop of `preflight` over the candidates: the first that is allowed, has a rate and fits. -/
def selectRoute (env : Env) (policy : Policy) (estimated : Tokens) (available : Int) (sawAllowed sawRate : Bool) :
    List Route → Operation Selection
  | [] => pure ⟨sawAllowed, sawRate, none⟩
  | route :: routes =>
    if routeKey env route.provider route.model ∉ policy.allowedRoutes.map (fun r => routeKey env r.provider r.model) then
      selectRoute env policy estimated available sawAllowed sawRate routes
    else do
      match ← gets (fun s => latest (s.ratesAt env route.provider route.model env.now)) with
      | none => selectRoute env policy estimated available true sawRate routes
      | some rate => do
        let cost ← orRaise .failure "int too large to convert to float" (env.calculateCost rate estimated)
        if (cost : Int) ≤ policy.maxPerCallMicrousd ∧ (cost : Int) ≤ available then
          pure ⟨true, true, some (route, rate, cost)⟩
        else selectRoute env policy estimated available true true routes

/-- The row `preflight` inserts. -/
def PreflightArgs.row (args : PreflightArgs) (env : Env) (route : Route) (rate : RateCard) (cost : Int) : Reservation :=
  { id := env.uuid
    policyId := args.policyId
    idempotencyKey := args.idempotencyKey
    requestFingerprint := env.fingerprint (args.requested env) args.estimated
    requested := args.requested env
    selected := route
    rateCardId := rate.id
    estimated := args.estimated
    estimatedCostMicrousd := cost
    reservedMicrousd := cost
    actual := none
    actualCostMicrousd := none
    providerRequestId := none
    reconciliationStatus := .pending
    status := .reserved
    receiptId := none
    createdAt := env.now }

/-- The end of `preflight`: the insert and the reserved amount. -/
def reserveRoute (env : Env) (args : PreflightArgs) (route : Route) (rate : RateCard) (cost : Int) : Operation Reservation := do
  let row := args.row env route rate cost
  bindIntegers [row.estimated.input, row.estimated.output, row.estimated.cachedInput, row.estimated.reasoning, cost]
  let known ← gets (fun s => (s.reservation row.id).isSome)
  if known then raise .integrityError "UNIQUE constraint failed: ai_spend_reservations.id"
  else do
    modify (fun s => { s with reservations := s.reservations ++ [row] })
    modify (fun s => s.setPolicy args.policyId (fun p => { p with reservedMicrousd := p.reservedMicrousd + cost }))
    pure row

def preflight (env : Env) (args : PreflightArgs) : Operation Reservation :=
  transaction (do
    match ← gets (fun s => s.reservations.find? (fun r =>
        decide (r.policyId = args.policyId ∧ r.idempotencyKey = args.idempotencyKey))) with
    | some existing =>
      if existing.requestFingerprint ≠ env.fingerprint (args.requested env) args.estimated then
        raise .idempotencyConflict "idempotency key was already used for a different AI request"
      else pure existing
    | none => do
      match ← gets (fun s => s.policy args.policyId) with
      | none => raise .authorizationDenied "AI spend policy not found"
      | some policy => do
        validatePolicyForPreflight env policy
        if policy.maxInputTokens < args.estimated.input then
          raise .authorizationDenied "estimated input tokens exceed policy maximum"
        else if policy.maxOutputTokens < args.estimated.output then
          raise .authorizationDenied "estimated output tokens exceed policy maximum"
        else if args.estimated.min < 0 then raise .valueError "estimated token counts cannot be negative"
        else do
          let recent ← gets (fun s => ((s.reservations.filter (fun r => decide (r.policyId = args.policyId) &&
            decide (env.minuteAgo ≤ r.createdAt))).length : Int))
          if policy.maxCallsPerMinute ≤ recent then do
            -- the transaction is rolled back by the exception, and the pause with it
            pausePolicy args.policyId "runaway_call_rate" none
            raise .policyPaused "AI spend policy paused after runaway call-rate detection"
          else do
            let candidates := args.requested env :: policy.fallbackRoutes.filter (fun r => decide (r ≠ args.requested env))
            let available := policy.budgetMicrousd - policy.spentMicrousd - policy.reservedMicrousd
            let selection ← selectRoute env policy args.estimated available false false candidates
            if !selection.sawAllowed then
              raise .modelRouteDenied "requested model and configured fallbacks are not allowed"
            else if !selection.sawRate then
              raise .rateCardNotFound "no active rate card exists for any permitted route"
            else match selection.selected with
              | none => raise .budgetExceeded "no permitted model route fits the per-call and remaining budget"
              | some (route, rate, cost) => reserveRoute env args route rate cost)

/-! ## Usage -/

/-- The arguments of `finalize_usage`. -/
structure UsageArgs where
  reservationId : String
  actual : Tokens
  providerRequestId : String
  responseSha256 : String
  outcomeStatus : String
  providerReportedCostMicrousd : Option Int

def UsageArgs.usage (args : UsageArgs) : Usage :=
  ⟨args.actual, args.providerReportedCostMicrousd, args.responseSha256, strip args.outcomeStatus⟩

def getReceipt (env : Env) (receiptId : Option String) : Operation UsageReceipt := do
  match ← gets (fun s => s.receipts.find? (fun p => decide (some p.id = receiptId))) with
  | none => raise .authorizationDenied "AI usage receipt not found"
  | some receipt =>
    if env.verifies receipt then pure receipt
    else raise .receiptIntegrityError "AI usage receipt signature verification failed"

/-- Why a usage is an anomaly. -/
def anomalyReasons (env : Env) (policy : Policy) (reservation : Reservation) (actual : Tokens) (actualCost : Int) :
    Operation (List String) := do
  let costCeiling ← orRaise .failure "cannot convert float to integer"
    (env.ceilTimes reservation.estimatedCostMicrousd policy.anomalyMultiplier)
  let tokenCeiling ← orRaise .failure "cannot convert float to integer"
    (env.ceilTimes (max 1 reservation.estimated.sum) policy.anomalyMultiplier)
  pure ((if costCeiling < actualCost then ["cost_over_estimate"] else []) ++
    (if tokenCeiling < actual.sum then ["tokens_over_estimate"] else []) ++
    (if policy.maxInputTokens < actual.input then ["input_limit_exceeded"] else []) ++
    (if policy.maxOutputTokens < actual.output then ["output_limit_exceeded"] else []))

/-- The receipt of a usage. -/
def UsageArgs.receipt (args : UsageArgs) (id : String) (policy : Policy) (reservation : Reservation) (actualCost : Int)
    (reasons : List String) : UsageReceipt :=
  { id
    reservationId := args.reservationId
    policyId := policy.id
    policyVersion := policy.version
    requested := reservation.requested
    selected := reservation.selected
    rateCardId := reservation.rateCardId
    estimated := reservation.estimated
    estimatedCostMicrousd := reservation.estimatedCostMicrousd
    actual := args.usage
    actualCostMicrousd := actualCost
    providerRequestId := strip args.providerRequestId
    varianceMicrousd := actualCost - reservation.estimatedCostMicrousd
    anomalyReasons := reasons }

/-- A reservation that was used. -/
def Reservation.finalize (r : Reservation) (args : UsageArgs) (actualCost : Int) (receiptId : String) : Reservation :=
  { r with
    actual := some args.usage
    actualCostMicrousd := some actualCost
    providerRequestId := some (strip args.providerRequestId)
    status := .finalized
    receiptId := some receiptId }

/-- A policy charged for a usage, with the clamp of the reserved amount. -/
def Policy.charge (p : Policy) (reserved actualCost : Int) : Policy :=
  { p with
    reservedMicrousd := max 0 (p.reservedMicrousd - reserved)
    spentMicrousd := p.spentMicrousd + actualCost
    callCount := p.callCount + 1 }

/-- The writes of `finalize_usage`. -/
def recordUsage (env : Env) (args : UsageArgs) (policy : Policy) (reservation : Reservation) (actualCost : Int)
    (reasons : List String) : Operation UsageReceipt := do
  let receipt := args.receipt env.uuid policy reservation actualCost reasons
  let known ← gets (fun s => s.receipts.any (fun p => decide (p.id = receipt.id ∨ p.reservationId = receipt.reservationId)))
  let used ← gets (fun s => s.reservations.any (fun r => decide (r.id ≠ args.reservationId ∧
    r.selected.provider = reservation.selected.provider ∧ r.providerRequestId = some (strip args.providerRequestId))))
  if known then raise .integrityError "UNIQUE constraint failed: ai_usage_receipts"
  else do
    bindIntegers ([args.actual.input, args.actual.output, args.actual.cachedInput, args.actual.reasoning, actualCost] ++
      args.providerReportedCostMicrousd.toList)
    if used then raise .integrityError "UNIQUE constraint failed: idx_ai_provider_request_unique"
    else do
      modify (fun s => { s with receipts := s.receipts ++ [receipt] })
      modify (fun s => s.setReservation args.reservationId (·.finalize args actualCost env.uuid))
      modify (fun s => s.setPolicy policy.id (·.charge reservation.reservedMicrousd actualCost))
      pauseWhen (reasons ≠ [] ∨ policy.budgetMicrousd < policy.spentMicrousd + actualCost) policy.id
        "runaway_or_over_budget_usage" (some args.reservationId)
      pure receipt

def finalizeUsage (env : Env) (args : UsageArgs) : Operation UsageReceipt :=
  if args.responseSha256.length ≠ 64 then raise .valueError "response_sha256 must be a 64-character digest"
  else if strip args.providerRequestId = "" then raise .valueError "provider_request_id is required"
  else if args.actual.min < 0 then raise .valueError "actual token counts cannot be negative"
  else transaction (do
    match ← gets (fun s => s.reservation args.reservationId) with
    | none => raise .authorizationDenied "AI spend reservation not found"
    | some reservation =>
      match reservation.status with
      | .finalized => getReceipt env reservation.receiptId
      | .reserved => do
        let policy ← gets (fun s => s.policy reservation.policyId)
        let rate ← gets (fun s => s.rateCards.find? (fun c => decide (c.id = reservation.rateCardId)))
        match policy, rate with
        | some policy, some rate => do
          let actualCost ← orRaise .failure "int too large to convert to float" (env.calculateCost rate args.actual)
          let reasons ← anomalyReasons env policy reservation args.actual actualCost
          recordUsage env args policy reservation actualCost reasons
        | _, _ => raise .authorizationDenied "policy or rate evidence disappeared")

/-! ## Reconciliation -/

/-- The arguments of `reconcile_provider_event`. -/
structure EventArgs where
  provider : String
  providerEventId : String
  providerRequestId : Option String
  costMicrousd : Int
  inputTokens : Option Int
  outputTokens : Option Int
  cachedInputTokens : Option Int
  reasoningTokens : Option Int
  toleranceMicrousd : Int

def EventArgs.payload (args : EventArgs) (env : Env) : EventPayload :=
  { provider := env.lower (strip args.provider)
    providerEventId := strip args.providerEventId
    providerRequestId := (truthy args.providerRequestId).map strip
    costMicrousd := args.costMicrousd
    inputTokens := args.inputTokens
    outputTokens := args.outputTokens
    cachedInputTokens := args.cachedInputTokens
    reasoningTokens := args.reasoningTokens }

/-- The reservation a provider's request id belongs to. -/
def Store.reservationOf (s : Store) (payload : EventPayload) : Option Reservation :=
  match truthy payload.providerRequestId with
  | none => none
  | some requestId => s.reservations.find? (fun r =>
      decide (r.selected.provider = payload.provider ∧ r.providerRequestId = some requestId))

/-- Insert an event. -/
def insertEvent (event : ProviderEvent) : Operation Unit := do
  bindIntegers (event.payload.costMicrousd :: (event.payload.inputTokens.toList ++ event.payload.outputTokens.toList ++
    event.payload.cachedInputTokens.toList ++ event.payload.reasoningTokens.toList))
  let known ← gets (fun s => s.events.any (fun e => decide (e.id = event.id)))
  if known then raise .integrityError "UNIQUE constraint failed: ai_provider_usage_events.id"
  else modify (fun s => { s with events := s.events ++ [event] })

def reconcileProviderEvent (env : Env) (args : EventArgs) : Operation ProviderEvent :=
  if args.costMicrousd < 0 ∨ args.toleranceMicrousd < 0 then raise .valueError "cost and tolerance cannot be negative"
  else transaction (do
    let payload := args.payload env
    match ← gets (fun s => s.events.find? (fun e =>
        decide (e.payload.provider = payload.provider ∧ e.payload.providerEventId = payload.providerEventId))) with
    | some existing =>
      if existing.payloadSha256 ≠ env.eventHash payload then
        raise .idempotencyConflict "provider event ID was replayed with different usage data"
      else pure existing
    | none => do
      match ← gets (fun s => s.reservationOf payload) with
      | none => do
        let event : ProviderEvent := ⟨env.uuid, payload, none, .orphaned, env.eventHash payload⟩
        insertEvent event
        alert none none "orphaned_provider_charge" "Provider reported AI spend with no matching internal reservation"
        pure event
      | some reservation => do
        let expected ← orRaise .usageReconciliationError "provider event arrived before internal usage was finalized"
          reservation.actualCostMicrousd
        let percent ← orRaise .failure "int too large to convert to float" (env.onePercent expected)
        let confirmed := decide (|args.costMicrousd - expected| ≤ max args.toleranceMicrousd percent)
        let event : ProviderEvent :=
          ⟨env.uuid, payload, some reservation.id, if confirmed then .confirmed else .disputed, env.eventHash payload⟩
        insertEvent event
        modify (fun s => s.setReservation reservation.id (fun r =>
          { r with reconciliationStatus := if confirmed then .confirmed else .disputed }))
        pauseWhen (confirmed = false) reservation.policyId "provider_reconciliation_mismatch" (some reservation.id)
        pure event)

/-! ## Runs -/

/-- One operation with its arguments. -/
inductive StoreCall where
  | putRateCard (env : Env) (args : RateCardArgs)
  | createPolicy (env : Env) (args : PolicyArgs)
  | preflight (env : Env) (args : PreflightArgs)
  | finalizeUsage (env : Env) (args : UsageArgs)
  | emergencyStop (policyId reason : String)
  | reconcileProviderEvent (env : Env) (args : EventArgs)

/-- The store an operation leaves, whether it returns or raises. -/
def StoreCall.leaves : StoreCall → Store → Store
  | .putRateCard env args, s => (TokenSpend.putRateCard env args s).2
  | .createPolicy env args, s => (TokenSpend.createPolicy env args s).2
  | .preflight env args, s => (TokenSpend.preflight env args s).2
  | .finalizeUsage env args, s => (TokenSpend.finalizeUsage env args s).2
  | .emergencyStop policyId reason, s => (TokenSpend.emergencyStop policyId reason s).2
  | .reconcileProviderEvent env args, s => (TokenSpend.reconcileProviderEvent env args s).2

/-- The store after operations one after another. -/
def Store.after (s : Store) (cs : List StoreCall) : Store := cs.foldl (fun s c => c.leaves s) s

/-! ## The service's times

`iso_now` and `_parse_time` of models.py and token_common.py. The tables keep times as texts. -/

section

open IsoTime

/-- `iso_now()` at a time: `isoformat()` of a time in UTC ends in `+00:00`, which is replaced by `Z`. -/
def isoNow (t : DateTime) : String := String.ofList (t.isoformat ++ ['Z'])

/-- `value.replace("Z", "+00:00")` -/
def zuluReplaced (cs : List Char) : List Char := cs.flatMap (fun c => if c = 'Z' then ['+', '0', '0', ':', '0', '0'] else [c])

/-- `_parse_time`: the instant, or none where it raises. A time without an offset is in UTC. -/
def parseTime (value : String) : Option Int := (fromisoformat (zuluReplaced value.toList)).bind utc

/-- The time of a text is not after that of another. -/
def notAfter (a b : String) : Bool :=
  match parseTime a, parseTime b with
  | some i, some j => decide (i ≤ j)
  | _, _ => false

end

end TokenSpend

end Archisynapse
