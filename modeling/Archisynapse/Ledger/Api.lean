import Archisynapse.Ledger.Service
import Mathlib.Data.List.Infix

/-!
# The ledger's HTTP API

The routes of ledger-service-api.ts that other services call: what each refuses before it reaches the service, and what it
answers for each error. A request is served while no other is open (`alone`); how calls of the service interleave is the subject
of its machine. Service tokens are left out, and so is the order of `GET /accounts`, which no caller reads.
-/

namespace Archisynapse

namespace Ledger

/-- A request of another service. -/
inductive Request where
  /-- `GET /accounts` -/
  | listAccounts (organizationId : String)
  /-- `POST /accounts` -/
  | createAccount (organizationId code name : String) (type : AccountType) (currency : String)
  /-- `POST /transactions`; an amount is the text of the decimal -/
  | postTransaction (req : PostTransactionRequest)
  /-- `POST /transactions/:id/reverse` -/
  | reverse (organizationId : String) (transactionId : UuidText) (reason : String)

/-- What a request is answered with. -/
abbrev Request.Result : Request → Type
  | .listAccounts _ => List AccountRow
  | .createAccount _ _ _ _ _ => AccountRow
  | .postTransaction _ => Transaction
  | .reverse _ _ _ => Transaction

/-- Why a request is refused: by the schema of its route (status 400, with the validator's message), or with a status and the
`error` of the answer's body. -/
inductive Refusal where
  | invalid
  | status (code : Nat) (error : String)
  deriving DecidableEq

/-- The organization header of a request. -/
def Request.organizationId : Request → String
  | .listAccounts organizationId => organizationId
  | .createAccount organizationId _ _ _ _ => organizationId
  | .postTransaction req => req.organizationId
  | .reverse organizationId _ _ => organizationId

/-- The decimals whose text is digits with at most four of them after a point: the text of a decimal of 10^21 or more has an
exponent. -/
def acceptsAmount : Decimal → Bool
  | .fin q => decide (0 ≤ q ∧ q < 10 ^ 21 ∧ (q * 10000).isInt)
  | _ => false

/-- The schema of an entry. -/
def acceptsEntry (e : PostJournalEntryRequest) : Bool :=
  e.accountId.value.isSome && acceptsAmount e.amount && decide (e.description ≠ "")

/-- The schema of a request's body. -/
def Request.accepts : Request → Bool
  | .listAccounts _ => true
  | .createAccount _ code name _ currency =>
    decide (code ≠ "" ∧ utf16Length code ≤ 20 ∧ name ≠ "" ∧ utf16Length name ≤ 255 ∧ utf16Length currency = 3)
  | .postTransaction req =>
    decide (req.referenceId ≠ some "" ∧ req.description ≠ "" ∧ utf16Length req.currency = 3 ∧ req.idempotencyKey ≠ some "" ∧
      2 ≤ req.entries.length) && acceptsAmount req.amount && req.entries.all acceptsEntry
  | .reverse _ _ reason => decide (reason ≠ "")

/-- `text.includes(part)` -/
def includes (text part : String) : Bool := decide (part.toList <:+: text.toList)

/-- How a route answers an error of the service: the errors it names get a status of their own. -/
def refusal (named : List (String × Nat)) : LedgerError → Refusal
  | .error message =>
    match named.find? (fun n => includes message n.1) with
    | some n => .status n.2 message
    | none => .status 500 "Internal server error"
  | .database _ => .status 500 "Internal server error"

/-- Answer with the outcome of an operation of the service. -/
def answer {α : Type} (named : List (String × Nat)) (outcome : Option (Except LedgerError α × Tables)) :
    Option (Except Refusal α × Tables) :=
  outcome.map (fun r => (r.1.mapError (refusal named), r.2))

/-- The route of a request that passed its schema. -/
def route (env : Env) (fails : Nat → Bool) (d : Tables) : (r : Request) → Option (Except Refusal r.Result × Tables)
  | .listAccounts organizationId =>
    if fails 0 then some (.error (.status 500 "Internal server error"), d)
    else some (.ok (d.accounts.filter (fun a => decide (a.organizationId = organizationId))), d)
  | .createAccount organizationId code name type currency =>
    answer [] (alone (createAccount env organizationId code name type currency) fails d)
  | .postTransaction req =>
    answer [("does not balance", 400), ("not found", 400)] (alone (postTransaction env req) fails d)
  | .reverse organizationId transactionId reason =>
    answer [("not found", 404)] (alone (reverseTransaction env organizationId transactionId reason) fails d)

/-- Serve a request: `authenticateOrg`, the schema, the route. -/
def serve (env : Env) (fails : Nat → Bool) (d : Tables) (r : Request) : Option (Except Refusal r.Result × Tables) :=
  if r.organizationId = "" then some (.error (.status 401 "Missing X-Organization-ID header"), d)
  else if !r.accepts then some (.error .invalid, d)
  else route env fails d r

end Ledger

end Archisynapse
