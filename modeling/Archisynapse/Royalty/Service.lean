import Archisynapse.Base.Machine
import Archisynapse.Royalty.Database
import Archisynapse.Royalty.MoneyMath

/-!
# The royalty service

`createObligation`, `releaseObligation`, `reverseObligation` and `getObligationByEventId` of royalty-service-core.ts as programs
over their calls, with the ledger client of royalty-service-ledger-client.ts. Any call may fail before it is made, or lose its
answer.
-/

namespace Archisynapse

namespace Royalty

/-! ## Calls -/

/-- The royalty tables and the ledger. -/
structure World where
  store : Store
  ledger : Ledger.Tables
  deriving DecidableEq

/-- Nothing has happened yet. -/
def World.empty : World := ⟨⟨.empty, []⟩, .empty⟩

/-- The committed tables. -/
abbrev World.db (s : World) : Tables := s.store.tables

/-- One call: a statement, or a request to the ledger. -/
inductive Action where
  | sql (o : Statement)
  | ledger (asked : String) (r : Ledger.Request)

/-- What a call answers with. -/
abbrev Action.Result : Action → Type
  | .sql o => o.Result
  | .ledger _ r => r.Result

/-- The calls and their answers. -/
abbrev signature : Signature where
  Op := Action
  Res := Action.Result
  Err := RoyaltyError

/-- How a call goes. -/
inductive Fault where
  | none | before | after
  deriving DecidableEq

/-- What a call does not take from its arguments: whether it fails, which of several rows comes first, and how the ledger serves
a request. -/
structure Choice where
  fault : Fault
  order : Nat
  ledgerEnv : Ledger.Env
  ledgerFails : Nat → Bool

/-- The error of a call that failed or lost its answer. -/
def Action.lost : Action → RoyaltyError
  | .sql _ => .database .failure
  | .ledger _ _ => .named .typeError "fetch failed"

/-- One call of a worker that is made and answered. -/
def World.perform (s : World) (w : Nat) (ch : Choice) : (o : Action) → Option (Except RoyaltyError o.Result × World)
  | .sql o => (s.store.perform w ch.order o).map (fun r => (r.1.mapError .database, { s with store := r.2 }))
  | .ledger asked r =>
    (Ledger.serve ch.ledgerEnv ch.ledgerFails s.ledger r).map (fun a => (a.1.mapError (.ledger asked), { s with ledger := a.2 }))

/-- What a call that was not made leaves: a session whose ROLLBACK fails is gone, and its transaction with it. -/
def World.unmade (s : World) (w : Nat) : Action → World
  | .sql .rollback => { s with store := s.store.unlock w }
  | _ => s

/-- One call of a worker. -/
def exec (w : Nat) (o : Action) (ch : Choice) (s : World) : Option (Except RoyaltyError o.Result × World) :=
  match ch.fault with
  | .none => s.perform w ch o
  | .before => some (.error o.lost, s.unmade w o)
  | .after => (s.perform w ch o).map (fun r => (.error o.lost, r.2))

/-- A program of the service. -/
abbrev Program (α : Type) : Type := Prog signature α

/-- Make a call. -/
def step (o : Action) : Program o.Result := Prog.perform (S := signature) o

/-- Send a statement. -/
def query (o : Statement) : Program o.Result := step (.sql o)

/-- Throw an error with a message. -/
def fault {α : Type} (name : ErrorName) (message : String) : Program α := Prog.throw (S := signature) (.named name message)

/-! ## The ledger client -/

/-- `listAccounts` -/
def listAccounts (organizationId : String) : Program (List AccountRow) :=
  step (.ledger "account list" (.listAccounts organizationId))

/-- `createAccount` -/
def createAccount (organizationId code name : String) (type : AccountType) : Program AccountRow :=
  step (.ledger "account create" (.createAccount organizationId code name type "USD"))

/-- `ensureAccount` -/
def ensureAccount (organizationId code name : String) (type : AccountType) : Program UuidText := do
  let existing ← listAccounts organizationId
  match existing.find? (fun a => decide (a.code = code)) with
  | some found => pure (.stored found.id)
  | none => do
    let created ← createAccount organizationId code name type
    pure (.stored created.id)

/-- The account of royalty expenses. -/
def ensureExpense (organizationId : String) : Program UuidText :=
  ensureAccount organizationId "royalty_expense" "Royalty Expense" .expense

/-- The account of what is held. -/
def ensureHeld (organizationId : String) : Program UuidText :=
  ensureAccount organizationId "royalty_held_liab" "Royalty Held Liability" .liability

/-- The credits of the payouts: each to the account whose code is the owner's id. `suffix` ends their descriptions. -/
def payableEntries (organizationId eventId suffix : String) : List Payout → Program (List PostJournalEntryRequest)
  | [] => pure []
  | payout :: payouts => do
    let account ← ensureAccount organizationId payout.ownerId ("Creator Payable: " ++ payout.ownerId) .liability
    let entries ← payableEntries organizationId eventId suffix payouts
    pure (⟨account, .credit, .fin payout.amount,
      "Royalty payable to " ++ payout.ownerId ++ " for " ++ eventId ++ suffix⟩ :: entries)

/-- `postTransaction`: the id of the transaction. -/
def postTransaction (req : PostTransactionRequest) : Program Uuid := do
  let transaction ← step (.ledger "transaction" (.postTransaction req))
  pure transaction.id

/-- The request of `postAllow`. -/
def allowRequest (organizationId eventId idempotencyKey : String) (gross : ℚ) (expense : UuidText)
    (payable : List PostJournalEntryRequest) : PostTransactionRequest :=
  { organizationId
    type := .payout
    referenceId := some eventId
    description := "Royalty obligation " ++ eventId
    amount := .fin gross
    currency := "USD"
    entries := ⟨expense, .debit, .fin gross, "Royalty obligation " ++ eventId⟩ :: payable
    idempotencyKey := some idempotencyKey }

/-- `postAllow` -/
def postAllow (organizationId eventId idempotencyKey : String) (gross : ℚ) (payouts : List Payout) : Program Uuid := do
  let expense ← ensureExpense organizationId
  let payable ← payableEntries organizationId eventId "" payouts
  postTransaction (allowRequest organizationId eventId idempotencyKey gross expense payable)

/-- The request of `postHold`. -/
def holdRequest (organizationId eventId idempotencyKey : String) (gross : ℚ) (expense held : UuidText) :
    PostTransactionRequest :=
  { organizationId
    type := .adjustment
    referenceId := some eventId
    description := "Royalty obligation held: " ++ eventId
    amount := .fin gross
    currency := "USD"
    entries :=
      [⟨expense, .debit, .fin gross, "Royalty obligation " ++ eventId ++ " (held)"⟩,
       ⟨held, .credit, .fin gross, "Held pending risk review: " ++ eventId⟩]
    idempotencyKey := some idempotencyKey }

/-- `postHold` -/
def postHold (organizationId eventId idempotencyKey : String) (gross : ℚ) : Program Uuid := do
  let expense ← ensureExpense organizationId
  let held ← ensureHeld organizationId
  postTransaction (holdRequest organizationId eventId idempotencyKey gross expense held)

/-- The request of `postRelease`. -/
def releaseRequest (organizationId eventId idempotencyKey : String) (gross : ℚ) (held : UuidText)
    (payable : List PostJournalEntryRequest) : PostTransactionRequest :=
  { organizationId
    type := .payout
    referenceId := some (eventId ++ "-release")
    description := "Release of held royalty " ++ eventId
    amount := .fin gross
    currency := "USD"
    entries := ⟨held, .debit, .fin gross, "Release held royalty " ++ eventId⟩ :: payable
    idempotencyKey := some (idempotencyKey ++ "-release") }

/-- `postRelease` -/
def postRelease (organizationId eventId idempotencyKey : String) (gross : ℚ) (payouts : List Payout) : Program Uuid := do
  let held ← ensureHeld organizationId
  let payable ← payableEntries organizationId eventId " (released)" payouts
  postTransaction (releaseRequest organizationId eventId idempotencyKey gross held payable)

/-- `postReversal` -/
def postReversal (originalLedgerTransactionId : Uuid) (organizationId reason : String) : Program Uuid := do
  let transaction ← step (.ledger "reversal" (.reverse organizationId (.stored originalLedgerTransactionId) reason))
  pure transaction.id

/-! ## Obligations -/

/-- What `loadObligation` returns of a row and its payouts. -/
def ObligationRow.obligation (row : ObligationRow) (payouts : List PayoutRow) : RoyaltyObligation :=
  { id := row.id
    organizationId := row.organizationId
    eventId := row.eventId
    correlationId := row.correlationId
    idempotencyKey := row.idempotencyKey
    tenantId := row.tenantId
    status := row.status
    amount := row.amount
    currency := row.currency
    splits := row.splits
    decisionPolicy := row.decisionPolicy
    riskScore := row.riskScore
    statusReasons := row.statusReasons
    ledgerTransactionId := row.ledgerTransactionId
    payouts := payouts.map (fun p => ⟨p.ownerId, p.amount, p.state⟩) }

/-- `loadObligation` -/
def loadObligation (id : Uuid) : Program RoyaltyObligation := do
  let found ← query (.selectObligation id)
  let payouts ← query (.selectPayouts id)
  match found with
  | some row => pure (row.obligation payouts)
  | none => fault .typeError "Cannot read properties of undefined (reading 'id')"

/-- The money math inside a program. -/
def compute (gross : ℚ) (splits : List RoyaltySplit) : Program (List Payout) :=
  match computeRoyalty gross splits with
  | .ok payouts => pure payouts
  | .error e => Prog.throw (S := signature) e

/-- The inserts of payouts, with the uuids from the `i`-th on. -/
def insertPayouts (uuid : Nat → Uuid) (royaltyObligationId : Uuid) : Nat → List Payout → List Write
  | _, [] => []
  | i, payout :: payouts => .insertPayout (uuid i) royaltyObligationId payout :: insertPayouts uuid royaltyObligationId (i + 1) payouts

/-- The decision of `createObligation` carried out: the status, the ledger transaction and the payouts of the obligation. -/
def carryOut (req : CreateRoyaltyObligationRequest) : Program (RoyaltyStatus × Option Uuid × List Payout) :=
  match req.decision with
  | .block => pure (.blocked, none, [])
  | .hold => do
    let id ← postHold req.organizationId req.eventId req.idempotencyKey (req.amount / 10000)
    pure (.held, some id, [])
  | .allow => do
    let payouts ← compute (req.amount / 10000) req.splits
    let id ← postAllow req.organizationId req.eventId req.idempotencyKey (req.amount / 10000) payouts
    pure (.posted, some id, payouts)

/-- Write and commit; what fails is rolled back. -/
def commit (writes : List Write) : Program Unit :=
  Prog.tryCatch (query (.commit writes)) (fun e => do
    query .rollback
    throw e)

/-- `createObligation`, with the uuids it draws. -/
def createObligation (uuid : Nat → Uuid) (req : CreateRoyaltyObligationRequest) : Program RoyaltyObligation := do
  query .connect
  match ← query (.selectByKey req.idempotencyKey) with
  | some row =>
    if row.requestHash ≠ req.requestHash then
      fault .royaltyIdempotencyConflictError ("idempotency_key " ++ req.idempotencyKey ++ " reused with a different payload")
    else loadObligation row.id
  | none => do
    let (status, ledgerTransactionId, payouts) ← carryOut req
    let id := uuid 0
    commit (.insertObligation id req status ledgerTransactionId :: insertPayouts uuid id 1 payouts)
    loadObligation id

/-- Work in a transaction that is rolled back when anything throws. -/
def orRollback {α : Type} (body : Program α) : Program α :=
  Prog.tryCatch body (fun e => do
    Prog.tryCatch (query .rollback) (fun _ => pure ())
    throw e)

/-- `releaseObligation` -/
def releaseObligation (uuid : Nat → Uuid) (eventId releaseIdempotencyKey : String) : Program RoyaltyObligation := do
  query .connect
  orRollback (do
    match ← query (.lockByEvent eventId) with
    | none => do
      query .rollback
      fault .royaltyObligationNotFoundError eventId
    | some row =>
      if row.status = .posted then do
        query (.commit [])
        loadObligation row.id
      else if row.status ≠ .held then do
        query .rollback
        fault .royaltyInvalidStateError ("obligation " ++ eventId ++ " is " ++ row.status.text ++ ", not HELD")
      else do
        let payouts ← compute (row.amount / 10000) row.splits
        let ledgerTransactionId ← postRelease row.organizationId row.eventId releaseIdempotencyKey (row.amount / 10000) payouts
        query (.commit (.post row.id ledgerTransactionId :: insertPayouts uuid row.id 0 payouts))
        loadObligation row.id)

/-- `reverseObligation`: the obligation and whether the reversal is an earlier one. -/
def reverseObligation (uuid : Nat → Uuid) (reversedEventId reversalEventId reversalIdempotencyKey reason : String) :
    Program (RoyaltyObligation × Bool) := do
  query .connect
  orRollback (do
    match ← query (.selectReversal reversalIdempotencyKey) with
    | some existing => do
      let found ← query (.selectObligation existing.reversedObligationId)
      query (.commit [])
      match found with
      | some row => return (← loadObligation row.id, true)
      | none => fault .typeError "Cannot read properties of undefined (reading 'id')"
    | none => do
      match ← query (.lockByEvent reversedEventId) with
      | none => do
        query .rollback
        fault .royaltyObligationNotFoundError reversedEventId
      | some row =>
        if row.status = .reversed then do
          query .rollback
          fault .royaltyInvalidStateError ("obligation " ++ reversedEventId ++ " is already REVERSED")
        else match row.ledgerTransactionId with
          | none => do
            query .rollback
            fault .royaltyInvalidStateError ("obligation " ++ reversedEventId ++ " has no ledger transaction to reverse (status " ++
              row.status.text ++ ")")
          | some ledgerTransactionId => do
            let reversalId ← postReversal ledgerTransactionId row.organizationId reason
            query (.commit [.reverse row.id,
              .insertReversal (uuid 0) row.id reversalEventId reversalIdempotencyKey reversalId])
            return (← loadObligation row.id, false))

/-- `getObligationByEventId` -/
def getObligationByEventId (eventId : String) : Program RoyaltyObligation := do
  query .connect
  match ← query (.selectByEvent eventId) with
  | some id => loadObligation id
  | none => fault .royaltyObligationNotFoundError eventId

/-! ## Runs -/

/-- The calls of the service. -/
inductive Call where
  | createObligation (uuid : Nat → Uuid) (req : CreateRoyaltyObligationRequest)
  | releaseObligation (uuid : Nat → Uuid) (eventId releaseIdempotencyKey : String)
  | reverseObligation (uuid : Nat → Uuid) (reversedEventId reversalEventId reversalIdempotencyKey reason : String)
  | getObligationByEventId (eventId : String)

/-- What a call returns: the obligation, and for a reversal whether it is an earlier one. -/
structure Reply where
  obligation : RoyaltyObligation
  replayed : Bool
  deriving DecidableEq

/-- The program of a call. -/
def Call.program : Call → Program Reply
  | .createObligation uuid req => do return ⟨← Royalty.createObligation uuid req, false⟩
  | .releaseObligation uuid eventId releaseIdempotencyKey => do
    return ⟨← Royalty.releaseObligation uuid eventId releaseIdempotencyKey, false⟩
  | .reverseObligation uuid reversedEventId reversalEventId reversalIdempotencyKey reason => do
    let (obligation, replayed) ← Royalty.reverseObligation uuid reversedEventId reversalEventId reversalIdempotencyKey reason
    return ⟨obligation, replayed⟩
  | .getObligationByEventId eventId => do return ⟨← Royalty.getObligationByEventId eventId, false⟩

/-- The service: any number of calls, their steps interleaved. A crash closes the connection, which gives the open transaction
up. -/
abbrev machine : Machine where
  sig := signature
  State := World
  Choice := Choice
  Call := Call
  Reply := Reply
  program := Call.program
  exec := exec
  crash w s := { s with store := s.store.unlock w }

/-- A program while no other runs. -/
def alone {α : Type} (p : Program α) (ch : Nat → Choice) (s : World) : Option (Except RoyaltyError α × World) :=
  p.run (exec 0) ch 0 s

end Royalty

end Archisynapse
