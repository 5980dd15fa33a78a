import Archisynapse.Base.Values
import Archisynapse.Commerce.Store

/-!
# Reputation of agents

`ReputationStore` of reputation.py over the tables `reputation_outcomes` and `agent_reputation`, next to the agent-commerce store
whose receipts it reads. A call reads the receipt, then does the rest in one `BEGIN IMMEDIATE` transaction.

Scores are exact rationals, rounded where the code rounds. The columns `verified_at` and `updated_at` are left out, and the audit
log is represented by its append, which may raise.
-/

namespace Archisynapse

namespace Reputation

open Exec (throw gets modify transaction)
open Commerce (CommerceError ErrorCode PaymentReceipt Session StoreCall)

/-! ## Tables -/

/-- A row of `reputation_outcomes`. -/
structure VerifiedOutcome where
  receiptId : String
  agentNpub : String
  validatorId : String
  success : Bool
  qualityScore : ℚ
  latencyMs : Int
  evidenceSha256 : String
  deriving DecidableEq

/-- A row of `agent_reputation`. -/
structure AgentReputation where
  agentNpub : String
  verifiedJobs : Int
  successfulJobs : Int
  failedJobs : Int
  totalPaidSats : Int
  latencySumMs : Int
  qualitySum : ℚ
  score : ℚ
  deriving DecidableEq

/-- The agent-commerce store with its clients, and the two tables. -/
structure State where
  session : Session
  outcomes : List VerifiedOutcome
  agents : List AgentReputation

/-- No outcome is verified yet. -/
def State.init (session : Session) : State := ⟨session, [], []⟩

/-- The receipt with an id. -/
def State.receipt (s : State) (receiptId : String) : Option PaymentReceipt :=
  s.session.store.receipts.find? (fun r => decide (r.id = receiptId))

/-- The outcome of a receipt. -/
def State.outcome (s : State) (receiptId : String) : Option VerifiedOutcome :=
  s.outcomes.find? (fun o => decide (o.receiptId = receiptId))

/-- The reputation of an agent. -/
def State.agent (s : State) (agentNpub : String) : Option AgentReputation :=
  s.agents.find? (fun a => decide (a.agentNpub = agentNpub))

/-- An operation on the tables. -/
abbrev Operation (α : Type) : Type := Exec State CommerceError α

/-- Raise an exception. -/
def raise {α : Type} (code : ErrorCode) (message : String) : Operation α := throw ⟨code, message⟩

/-! ## Scores -/

/-- The score before it is rounded. -/
def exactScore (verified successful : Int) (qualitySum : ℚ) : ℚ :=
  let reliability := (successful + 2 : ℚ) / (verified + 4)
  let quality := (qualitySum + 1) / (verified + 2)
  100 * (70 / 100 * reliability + 30 / 100 * quality)

/-- `_score` -/
def score (verified successful : Int) (qualitySum : ℚ) : ℚ := roundTo 4 (exactScore verified successful qualitySum)

/-! ## Operations -/

/-- The statements of a call that may raise: the database is busy, a number does not fit its column, the disk is full. -/
inductive Statement where
  | begin | selectOutcome | insertOutcome | selectAgent | upsertAgent | appendAuditEvent | commit | get
  deriving DecidableEq

/-- What a call takes from outside: the check of a stored receipt's signature, and which of its statements raise. -/
structure Env where
  verifies : PaymentReceipt → Bool
  raises : Statement → Option CommerceError

/-- A statement that the environment may let raise. -/
def Env.statement (env : Env) (st : Statement) : Operation Unit :=
  match env.raises st with
  | some e => throw e
  | none => pure ()

/-- The arguments of `record_verified_outcome`. -/
structure OutcomeArgs where
  receiptId : String
  validatorId : String
  success : Bool
  qualityScore : ℚ
  latencyMs : Int
  evidenceSha256 : String

inductive EvidenceState where
  | unverified | verified
  deriving DecidableEq

/-- What `get` returns. -/
structure Summary where
  agentNpub : String
  verifiedJobs : Int
  successfulJobs : Int
  failedJobs : Int
  totalPaidSats : Int
  averageLatencyMs : Option ℚ
  averageQuality : Option ℚ
  score : ℚ
  evidenceState : EvidenceState
  deriving DecidableEq

/-- The summary of an agent, or of one that has no row. -/
def summary (agentNpub : String) : Option AgentReputation → Summary
  | none =>
    { agentNpub
      verifiedJobs := 0
      successfulJobs := 0
      failedJobs := 0
      totalPaidSats := 0
      averageLatencyMs := none
      averageQuality := none
      score := 50
      evidenceState := .unverified }
  | some row =>
    { agentNpub := row.agentNpub
      verifiedJobs := row.verifiedJobs
      successfulJobs := row.successfulJobs
      failedJobs := row.failedJobs
      totalPaidSats := row.totalPaidSats
      averageLatencyMs := if row.verifiedJobs = 0 then none else some (roundTo 2 (row.latencySumMs / row.verifiedJobs))
      averageQuality := if row.verifiedJobs = 0 then none else some (roundTo 4 (row.qualitySum / row.verifiedJobs))
      score := row.score
      evidenceState := .verified }

/-- `get` -/
def get (env : Env) (agentNpub : String) : Operation Summary := do
  env.statement .get
  let row ← gets (fun s => s.agent agentNpub)
  pure (summary agentNpub row)

/-- `receipts.get` -/
def getReceipt (env : Env) (receiptId : String) : Operation (Option PaymentReceipt) := fun s =>
  ((Commerce.getReceipt env.verifies receiptId s.session.store).1, s)

/-- What the row of an agent comes to with one more outcome; an agent without a row starts from zero. -/
def AgentReputation.next (agentNpub : String) (current : Option AgentReputation) (args : OutcomeArgs) (paidSats : Int) :
    AgentReputation :=
  let verified := current.elim 0 (·.verifiedJobs) + 1
  let successful := current.elim 0 (·.successfulJobs) + if args.success then 1 else 0
  let qualitySum := current.elim 0 (·.qualitySum) + args.qualityScore
  { agentNpub
    verifiedJobs := verified
    successfulJobs := successful
    failedJobs := current.elim 0 (·.failedJobs) + if args.success then 0 else 1
    totalPaidSats := current.elim 0 (·.totalPaidSats) + paidSats
    latencySumMs := current.elim 0 (·.latencySumMs) + args.latencyMs
    qualitySum
    score := Reputation.score verified successful qualitySum }

/-- The insert of a row, which updates the row there is. -/
def State.upsertAgent (s : State) (row : AgentReputation) : State :=
  if (s.agent row.agentNpub).isSome then
    { s with agents := updateKey (·.agentNpub) row.agentNpub (fun _ => row) s.agents }
  else { s with agents := s.agents ++ [row] }

/-- The outcome as it is stored. -/
def OutcomeArgs.stored (args : OutcomeArgs) (agentNpub : String) : VerifiedOutcome :=
  { receiptId := args.receiptId
    agentNpub
    validatorId := args.validatorId
    success := args.success
    qualityScore := args.qualityScore
    latencyMs := args.latencyMs
    evidenceSha256 := args.evidenceSha256 }

/-- The transaction of `record_verified_outcome`: it returns a summary when the outcome is stored already. -/
def recordTransaction (env : Env) (args : OutcomeArgs) (receipt : PaymentReceipt) : Operation (Option Summary) :=
  transaction (do
    env.statement .begin
    env.statement .selectOutcome
    match ← gets (fun s => s.outcome args.receiptId) with
    | some existing =>
      if (existing.validatorId, existing.success, existing.qualityScore, existing.latencyMs, existing.evidenceSha256) ≠
          (args.validatorId, args.success, args.qualityScore, args.latencyMs, args.evidenceSha256) then
        raise .idempotencyConflict "receipt already has a different verified outcome"
      else do
        let found ← get env receipt.agentNpub
        env.statement .commit
        pure (some found)
    | none => do
      env.statement .insertOutcome
      modify (fun s => { s with outcomes := s.outcomes ++ [args.stored receipt.agentNpub] })
      env.statement .selectAgent
      let current ← gets (fun s => s.agent receipt.agentNpub)
      env.statement .upsertAgent
      modify (fun s => s.upsertAgent (.next receipt.agentNpub current args receipt.totalDebitSats))
      env.statement .appendAuditEvent
      env.statement .commit
      pure none)

def recordVerifiedOutcome (env : Env) (args : OutcomeArgs) : Operation Summary :=
  if ¬ (0 ≤ args.qualityScore ∧ args.qualityScore ≤ 1) then raise .valueError "quality_score must be between 0 and 1"
  else if args.latencyMs < 0 then raise .valueError "latency_ms cannot be negative"
  else do
    match ← getReceipt env args.receiptId with
    | none => raise .receiptIntegrityError "cannot score missing receipt"
    | some receipt => do
      match ← recordTransaction env args receipt with
      | some found => pure found
      | none => get env receipt.agentNpub

/-! ## Runs -/

/-- A call: an operation of the agent-commerce store, or an outcome to record. -/
inductive Call where
  | commerce (c : StoreCall)
  | recordVerifiedOutcome (env : Env) (args : OutcomeArgs)

/-- One call, whether it returns or raises. -/
def State.step (s : State) : Call → State
  | .commerce c => { s with session := s.session.step c }
  | .recordVerifiedOutcome env args => (Reputation.recordVerifiedOutcome env args s).2

/-- The state after calls, one after another. -/
def State.after (s : State) (cs : List Call) : State := cs.foldl State.step s

end Reputation

end Archisynapse
