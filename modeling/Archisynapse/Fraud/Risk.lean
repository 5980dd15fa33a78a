import Archisynapse.Base.Machine
import Archisynapse.Base.Values

/-!
# Risk decisions

`POST /risk/checkout` and `POST /risk/royalty` of archisynapse_fraud_mvp.py, of an authenticated merchant. A request checks its
Idempotency-Key, scores the event by counts over the merchant's history, commits the event, and commits the response under the
key; each is a step of its own, and the table of responses has no unique constraint. The clock is a choice of the environment, and
any step may fail, which ends the request. A stored response is what its JSON text reads back as. Columns of an event that no score
reads are left out.

The world keeps two records that the code has no variables for: the request key of each event, and the requests that found no
response for their key, with whether their event is committed.
-/

namespace Archisynapse

namespace Fraud

/-! ## Requests and tables -/

/-- What a response is stored under: merchant, key and endpoint. -/
structure Scope where
  merchantId : String
  idempotencyKey : String
  endpoint : String
  deriving DecidableEq

/-- The body of `POST /risk/checkout`, as far as it is read. -/
structure CheckoutRiskIn where
  eventType : String
  deviceId : Option String
  email : Option String
  sessionId : Option String
  ipAddress : Option String
  country : Option String
  billingCountry : Option String
  cardCountry : Option String
  binReference : Option String
  amount : Rat
  paymentStatus : String

/-- The body of `POST /risk/royalty`, as far as it is read. -/
structure RoyaltyRiskIn where
  eventType : String
  creatorId : String
  deviceId : Option String
  email : Option String
  sessionId : Option String
  payoutDestination : Option String
  ipAddress : Option String
  usageCount : Int
  creatorAccountAgeDays : Int
  payoutMethodAgeDays : Int
  dnaVerified : Bool
  soulprintVerified : Bool
  ledgerRecordFound : Bool
  suddenUsageSpike : Bool
  duplicatePayoutDestination : Bool
  payoutDestinationChangedRecently : Bool

/-- A decision, as it is answered and stored. -/
structure RiskDecisionOut where
  riskScore : Int
  decision : String
  reasons : List String
  deriving DecidableEq

/-- A row of `fraud_events`, and the key of the request it came from. -/
structure FraudEvent where
  merchantId : String
  eventType : String
  creatorIdHash : Option String
  deviceIdHash : Option String
  emailHash : Option String
  sessionIdHash : Option String
  payoutDestinationHash : Option String
  ipAddress : Option String
  binHash : Option String
  paymentStatus : Option String
  riskScore : Int
  createdAt : Int
  source : Option Scope

/-- A request that found no response for its key: its worker, the key, and whether its event is committed. -/
structure Pending where
  worker : Nat
  scope : Scope
  saved : Bool
  deriving DecidableEq

/-- The tables `fraud_events` and `idempotency_records`, and the requests that found no response. -/
structure World where
  events : List FraudEvent
  records : List (Scope × RiskDecisionOut)
  pending : List Pending

/-- The empty tables. -/
def World.empty : World := ⟨[], [], []⟩

/-! ## Steps -/

/-- What a request asks of the database and of the clock. -/
inductive Action where
  | checkIdempotency (scope : Scope)
  | utcnow
  | count (filter : FraudEvent → Bool)
  | saveEvent (event : FraudEvent)
  | refresh
  | storeIdempotency (scope : Scope) (response : RiskDecisionOut)

abbrev Action.Result : Action → Type
  | .checkIdempotency _ => Option RiskDecisionOut
  | .utcnow => Int
  | .count _ => Nat
  | .saveEvent _ => Unit
  | .refresh => Unit
  | .storeIdempotency _ _ => Unit

/-- The steps and their answers; an error is an exception's text. -/
abbrev signature : Signature where
  Op := Action
  Res := Action.Result
  Err := String

abbrev Program (α : Type) : Type := Prog signature α

/-- Make a step. -/
def step (o : Action) : Program o.Result := Prog.perform (S := signature) o

/-- What the code is given: the peppered digest of a text, and `str.upper`. -/
structure Env where
  digest : String → String
  upper : String → String

/-- A text that is there and not empty. -/
def given : Option String → Option String
  | some "" => none
  | value => value

/-- `hash_value` -/
def Env.hashValue (env : Env) (value : Option String) : Option String := (given value).map env.digest

/-- `check_idempotency` and `store_idempotency` do nothing without a key. -/
def scopeOf (merchantId : String) (idempotencyKey : Option String) (endpoint : String) : Option Scope :=
  (given idempotencyKey).map (fun key => ⟨merchantId, key, endpoint⟩)

def checkIdempotency : Option Scope → Program (Option RiskDecisionOut)
  | none => pure none
  | some scope => step (.checkIdempotency scope)

def storeIdempotency (response : RiskDecisionOut) : Option Scope → Program Unit
  | none => pure ()
  | some scope => step (.storeIdempotency scope response)

/-- `save_event`: the commit, and the read that follows it -/
def saveEvent (event : FraudEvent) : Program Unit := do
  step (.saveEvent event)
  step .refresh

/-! ## Scores -/

/-- Minutes, in microseconds. -/
def minutes (n : Int) : Int := n * 60000000

/-- A count that is made when a value is there. -/
def countIf (value : Option String) (filter : String → FraudEvent → Bool) : Program Nat :=
  match value with
  | none => pure 0
  | some value => step (.count (filter value))

/-- The points and the reason of a signal, if it holds. -/
def signal (holds : Bool) (points : Int) (reason : String) : List (Int × String) := if holds then [(points, reason)] else []

/-- Two texts that are there and differ in upper case. -/
def Env.differ (env : Env) (a b : Option String) : Bool :=
  match given a, given b with
  | some a, some b => !decide (env.upper a = env.upper b)
  | _, _ => false

/-- `min(score, 100)` of the signals -/
def scoreOf (signals : List (Int × String)) : Int := min (signals.map (·.1)).sum 100

/-- A decision by its score. -/
def band (score high middle low : Int) (highest higher lower lowest : String) : String :=
  if score ≥ high then highest else if score ≥ middle then higher else if score ≥ low then lower else lowest

/-- The response of a score. -/
def responseOf (decision : Int → String) (signals : List (Int × String)) : RiskDecisionOut :=
  { riskScore := scoreOf signals
    decision := decision (scoreOf signals)
    reasons := signals.map (·.2) }

/-- The score bands of a checkout. -/
def checkoutDecision (score : Int) : String :=
  band score 80 60 35 "block" "manual_review" "step_up_verification" "approve"

/-- The score bands of a royalty. -/
def royaltyDecision (score : Int) : String :=
  band score 85 65 40 "block_payout" "hold_payout_review" "delay_payout_72h" "release_payout"

def calculateCheckoutRisk (env : Env) (event : CheckoutRiskIn) (merchantId : String) : Program RiskDecisionOut := do
  let now ← step .utcnow
  let deviceFailures ← countIf (env.hashValue event.deviceId) (fun hash e => decide (e.merchantId = merchantId ∧
    e.deviceIdHash = some hash ∧ e.paymentStatus = some "failed" ∧ e.createdAt ≥ now - minutes 10))
  let ipAttempts ← countIf (given event.ipAddress) (fun address e => decide (e.merchantId = merchantId ∧
    e.ipAddress = some address ∧ e.createdAt ≥ now - minutes 10))
  let emailFailures ← countIf (env.hashValue event.email) (fun hash e => decide (e.merchantId = merchantId ∧
    e.emailHash = some hash ∧ e.paymentStatus = some "failed" ∧ e.createdAt ≥ now - minutes 60))
  let binFailures ← countIf (env.hashValue event.binReference) (fun hash e => decide (e.merchantId = merchantId ∧
    e.binHash = some hash ∧ e.paymentStatus = some "failed" ∧ e.createdAt ≥ now - minutes 10))
  let sessionAttempts ← countIf (env.hashValue event.sessionId) (fun hash e => decide (e.merchantId = merchantId ∧
    e.sessionIdHash = some hash ∧ e.createdAt ≥ now - minutes 10))
  pure (responseOf checkoutDecision
    (signal (decide (deviceFailures ≥ 3)) 35 "same_device_many_failed_payments" ++
      signal (decide (ipAttempts ≥ 10)) 25 "high_ip_velocity" ++
      signal (decide (emailFailures ≥ 3)) 20 "same_email_multiple_failures" ++
      signal (decide (binFailures ≥ 5)) 25 "issuer_pattern_multiple_failures" ++
      signal (decide (sessionAttempts ≥ 6)) 20 "checkout_session_reuse_abuse" ++
      signal (env.differ event.billingCountry event.cardCountry) 15 "billing_card_country_mismatch" ++
      signal (env.differ event.country event.billingCountry) 15 "ip_billing_country_mismatch" ++
      signal (decide (0 < event.amount ∧ event.amount ≤ 5)) 10 "small_amount_testing_pattern" ++
      signal (decide (event.paymentStatus = "failed")) 10 "payment_failed"))

def calculateRoyaltyRisk (env : Env) (event : RoyaltyRiskIn) (merchantId : String) : Program RiskDecisionOut := do
  let now ← step .utcnow
  let creatorPayoutRequests ← countIf (env.hashValue (some event.creatorId)) (fun hash e => decide (e.merchantId = merchantId ∧
    e.creatorIdHash = some hash ∧ e.eventType = "royalty_payout_request" ∧ e.createdAt ≥ now - minutes 1440))
  let payoutDestinationEvents ← countIf (env.hashValue event.payoutDestination) (fun hash e => decide
    (e.merchantId = merchantId ∧ e.payoutDestinationHash = some hash ∧ e.eventType = "royalty_payout_request" ∧
      e.createdAt ≥ now - minutes 1440))
  let riskyDeviceEvents ← countIf (env.hashValue event.deviceId) (fun hash e => decide (e.merchantId = merchantId ∧
    e.deviceIdHash = some hash ∧ e.riskScore ≥ 60 ∧ e.createdAt ≥ now - minutes 1440))
  let riskyEmailEvents ← countIf (env.hashValue event.email) (fun hash e => decide (e.merchantId = merchantId ∧
    e.emailHash = some hash ∧ e.riskScore ≥ 60 ∧ e.createdAt ≥ now - minutes 1440))
  pure (responseOf royaltyDecision
    (signal (!event.dnaVerified) 35 "dna_not_verified" ++
      signal (!event.soulprintVerified) 30 "soulprint_not_verified" ++
      signal (!event.ledgerRecordFound) 25 "ledger_record_missing" ++
      signal (decide (event.creatorAccountAgeDays < 7)) 20 "new_creator_account" ++
      signal (decide (event.payoutMethodAgeDays < 3)) 25 "new_payout_method" ++
      signal event.payoutDestinationChangedRecently 25 "payout_destination_changed_recently" ++
      signal event.duplicatePayoutDestination 25 "duplicate_payout_destination" ++
      signal event.suddenUsageSpike 25 "sudden_usage_spike" ++
      signal (decide (event.usageCount ≥ 10000 ∧ event.creatorAccountAgeDays < 14)) 20 "large_usage_on_new_creator_account" ++
      signal (decide (creatorPayoutRequests ≥ 5)) 15 "high_creator_payout_request_velocity" ++
      signal (decide (payoutDestinationEvents ≥ 5)) 15 "payout_destination_velocity" ++
      signal (decide (riskyDeviceEvents ≥ 3)) 20 "device_linked_to_prior_risky_events" ++
      signal (decide (riskyEmailEvents ≥ 3)) 20 "email_linked_to_prior_risky_events"))

/-! ## Endpoints -/

/-- What both endpoints do with a key, a score and the event it makes. -/
def decideOnce (scope : Option Scope) (calculate : Program RiskDecisionOut) (eventOf : RiskDecisionOut → FraudEvent) :
    Program RiskDecisionOut := do
  match ← checkIdempotency scope with
  | some cached => pure cached
  | none =>
    let response ← calculate
    saveEvent (eventOf response)
    storeIdempotency response scope
    pure response

def riskCheckout (env : Env) (merchantId : String) (event : CheckoutRiskIn) (idempotencyKey : Option String) :
    Program RiskDecisionOut :=
  let scope := scopeOf merchantId idempotencyKey "/risk/checkout"
  decideOnce scope (calculateCheckoutRisk env event merchantId) (fun response =>
    { merchantId
      eventType := event.eventType
      creatorIdHash := none
      deviceIdHash := env.hashValue event.deviceId
      emailHash := env.hashValue event.email
      sessionIdHash := env.hashValue event.sessionId
      payoutDestinationHash := none
      ipAddress := event.ipAddress
      binHash := env.hashValue event.binReference
      paymentStatus := some event.paymentStatus
      riskScore := response.riskScore
      createdAt := 0
      source := scope })

def riskRoyalty (env : Env) (merchantId : String) (event : RoyaltyRiskIn) (idempotencyKey : Option String) :
    Program RiskDecisionOut :=
  let scope := scopeOf merchantId idempotencyKey "/risk/royalty"
  decideOnce scope (calculateRoyaltyRisk env event merchantId) (fun response =>
    { merchantId
      eventType := event.eventType
      creatorIdHash := env.hashValue (some event.creatorId)
      deviceIdHash := env.hashValue event.deviceId
      emailHash := env.hashValue event.email
      sessionIdHash := env.hashValue event.sessionId
      payoutDestinationHash := env.hashValue event.payoutDestination
      ipAddress := event.ipAddress
      binHash := none
      paymentStatus := none
      riskScore := response.riskScore
      createdAt := 0
      source := scope })

/-! ## The machine -/

/-- A request of an authenticated merchant. -/
inductive Request where
  | checkout (merchantId : String) (event : CheckoutRiskIn) (idempotencyKey : Option String)
  | royalty (merchantId : String) (event : RoyaltyRiskIn) (idempotencyKey : Option String)

/-- What a request's response is stored under. -/
def Request.scope : Request → Option Scope
  | .checkout merchantId _ idempotencyKey => scopeOf merchantId idempotencyKey "/risk/checkout"
  | .royalty merchantId _ idempotencyKey => scopeOf merchantId idempotencyKey "/risk/royalty"

def Request.program (env : Env) : Request → Program RiskDecisionOut
  | .checkout merchantId event idempotencyKey => riskCheckout env merchantId event idempotencyKey
  | .royalty merchantId event idempotencyKey => riskRoyalty env merchantId event idempotencyKey

/-- The stored response of a key. -/
def World.record (s : World) (scope : Scope) : Option RiskDecisionOut :=
  (s.records.find? (fun r => decide (r.1 = scope))).map (·.2)

/-- A worker ends: it is no longer pending, unless its event is committed. -/
def World.settle (s : World) (w : Nat) : World :=
  { s with pending := s.pending.filter (fun p => !decide (p.worker = w) || p.saved) }

/-- A worker's event is committed. -/
def World.save (s : World) (w : Nat) (event : FraudEvent) : World :=
  { s with
    events := s.events ++ [event]
    pending := s.pending.map (fun p => if p.worker = w ∧ some p.scope = event.source then { p with saved := true } else p) }

/-- A worker's response is committed. -/
def World.store (s : World) (w : Nat) (scope : Scope) (response : RiskDecisionOut) : World :=
  { s with
    records := s.records ++ [(scope, response)]
    pending := s.pending.filter (fun p => !decide (p.worker = w ∧ p.scope = scope)) }

/-- What the environment chooses at a step: whether it fails, and the time. -/
structure Choice where
  fails : Option String
  now : Int

/-- One step of worker `w`. -/
def exec (w : Nat) (o : Action) (ch : Choice) (s : World) : Option (Except String o.Result × World) :=
  some (match ch.fails with
    | some e => (.error e, s.settle w)
    | none =>
      match o with
      | .checkIdempotency scope =>
        let found := s.record scope
        (.ok found, if found.isNone then { s with pending := s.pending ++ [⟨w, scope, false⟩] } else s)
      | .utcnow => (.ok ch.now, s)
      | .count filter => (.ok (s.events.filter filter).length, s)
      | .saveEvent event => (.ok (), s.save w { event with createdAt := ch.now })
      | .refresh => (.ok (), s)
      | .storeIdempotency scope response => (.ok (), s.store w scope response))

/-- Any number of requests, their steps interleaved. A crash ends a request. -/
abbrev machine (env : Env) : Machine where
  sig := signature
  State := World
  Choice := Choice
  Call := Request
  Reply := RiskDecisionOut
  program request := request.program env
  exec := exec
  crash w s := s.settle w

end Fraud

end Archisynapse
