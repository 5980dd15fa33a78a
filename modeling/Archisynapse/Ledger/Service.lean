import Archisynapse.Ledger.Database

/-!
# The ledger service

The operations of ledger-service-core.ts that write, as programs over the statements they send: `createAccount`,
`postTransaction`, `reverseTransaction` and the `postWithClient` the last two share. What an operation takes from outside its
arguments (fresh uuids, the clock, whether tenant isolation is enforced) is passed to it. `trialBalance` is the view of
migration 003 that `getTrialBalance` reads.
-/

namespace Archisynapse

namespace Ledger

/-- A ledger operation. -/
abbrev Action (α : Type) : Type := Prog signature α

/-- What a call takes from outside: whether tenant isolation is enforced, the clock, and the uuids `uuidv4` hands out. -/
structure Env where
  tenantIsolation : Bool
  now : Int
  uuid : Nat → Uuid

/-- The session a call opens. -/
def Env.session (env : Env) (organizationId : String) : Session := ⟨organizationId, env.tenantIsolation, env.now⟩

/-- Send a statement. -/
def query (sess : Session) (o : Statement) : Action o.Result := Prog.perform (S := signature) (sess, o)

/-- Work on a session: `openTenantSession`, the body, and `close` however the body ends. -/
def withSession {α : Type} (sess : Session) (body : Action α) : Action α :=
  if sess.organizationId = "" then throw (.error "organizationId is required for a tenant-scoped query")
  else do
    query sess .connect
    Prog.ensure body (query sess .close)

/-- Work in a transaction: committed when the body returns, rolled back when anything throws. -/
def inTransaction {α : Type} (sess : Session) (body : Action α) : Action α :=
  Prog.tryCatch
    (do
      query sess .begin
      let r ← body
      query sess .commit
      pure r)
    (fun e => do
      query sess .rollback
      throw e)

/-- Create an account in the chart of accounts. -/
def createAccount (env : Env) (organizationId code name : String) (type : AccountType) (currency : String) :
    Action AccountRow :=
  let sess := env.session organizationId
  withSession sess (do
    let row ← query sess (.insertAccount ⟨env.uuid 0, code, name, type, currency⟩)
    query sess .insertAuditLog
    pure row)

/-- One entry added to the debits or to the credits. -/
def addEntry (sums : Decimal × Decimal) (e : PostJournalEntryRequest) : Decimal × Decimal :=
  match e.debitCredit with
  | .debit => (sums.1.plus e.amount, sums.2)
  | .credit => (sums.1, sums.2.plus e.amount)

/-- The debits and the credits of a request, added up one entry after another. -/
def entrySums (entries : List PostJournalEntryRequest) : Decimal × Decimal := entries.foldl addEntry (.fin 0, .fin 0)

/-- Debits equal credits and are not zero. -/
def validateTransactionBalance (entries : List PostJournalEntryRequest) : Bool :=
  let sums := entrySums entries
  sums.1.equals sums.2 && sums.1.greaterThan (.fin 0)

/-- How long a stored response is valid, in milliseconds. -/
def responseLifetime : Int := 24 * 60 * 60 * 1000

/-- Insert a journal entry: the insert and the write of its trigger. -/
def insertEntry (sess : Session) (v : EntryValues) : Action EntryRow := do
  let (row, sum) ← query sess (.insertEntry v)
  query sess (.updateAccountBalance row.accountId sum)
  pure row

/-- Step 4 of `postWithClient`: the journal entries, each after a check of its account. `i` counts the entries before. -/
def postEntries (env : Env) (sess : Session) (transactionId : Uuid) :
    Nat → List PostJournalEntryRequest → Action (List EntryRow)
  | _, [] => pure []
  | i, e :: es => do
    let found ← query sess (.selectAccount e.accountId)
    if !found then
      throw (.error s!"Account {e.accountId.text} not found or does not belong to this organization")
    else do
      let row ← insertEntry sess ⟨env.uuid (i + 1), transactionId, e.accountId, e.debitCredit, e.amount, e.description⟩
      let rows ← postEntries env sess transactionId (i + 1) es
      pure (row :: rows)

/-- The result of a posting. -/
def postedTransaction (env : Env) (req : PostTransactionRequest) (entries : List EntryRow) : Transaction :=
  ⟨env.uuid 0, req.organizationId, req.type, req.referenceId, req.description, req.amount, req.currency, .posted, entries,
    env.now⟩

/-- Step 6 of `postWithClient`: a posting with a key stores its result. -/
def storeIdempotencyResponse (env : Env) (sess : Session) (key : Option String) (response : Transaction) : Action Unit :=
  match key with
  | some key => query sess (.upsertResponse key response (env.now + responseLifetime))
  | none => pure ()

/-- Steps 2 to 7 of `postWithClient`. -/
def postNew (env : Env) (sess : Session) (req : PostTransactionRequest) (reverses : Option Uuid) : Action Transaction :=
  if !validateTransactionBalance req.entries then
    throw (.error "Transaction does not balance. Debits must equal credits.")
  else do
    let id := env.uuid 0
    query sess (.insertTransaction ⟨id, req.type, truthy req.referenceId, req.description, req.amount, req.currency, .posted,
      truthy req.idempotencyKey, env.now, reverses⟩)
    let entries ← postEntries env sess id 0 req.entries
    let isBalanced ← query sess (.checkTransactionBalanced id)
    if !isBalanced then
      throw (.error "Transaction validation failed after insert (database state corruption detected)")
    else do
      storeIdempotencyResponse env sess (truthy req.idempotencyKey) (postedTransaction env req entries)
      query sess .insertAuditLog
      pure (postedTransaction env req entries)

/-- Post in the transaction the caller opened: a stored response is returned, anything else is posted. -/
def postWithClient (env : Env) (sess : Session) (req : PostTransactionRequest) (reverses : Option Uuid) :
    Action Transaction :=
  match truthy req.idempotencyKey with
  | some key => do
    match ← query sess (.selectResponse key) with
    | some response => pure response
    | none => postNew env sess req reverses
  | none => postNew env sess req reverses

/-- Post a transaction to the ledger. -/
def postTransaction (env : Env) (req : PostTransactionRequest) : Action Transaction :=
  let sess := env.session req.organizationId
  withSession sess (inTransaction sess (postWithClient env sess req none))

/-- The entry that takes back a stored one. -/
def reversalEntry (row : EntryRow) : PostJournalEntryRequest :=
  ⟨.stored row.accountId, row.debitCredit.swap, .ofNumeric row.amount, "Reversal: " ++ row.description⟩

/-- The value read back from the amount of a transaction. -/
def storedAmount : Option Int → Decimal
  | none => .nan
  | some n => .ofNumeric n

/-- The request that takes back a stored transaction. -/
def reversalRequest (organizationId : String) (transactionId : UuidText) (reason : String) (original : TransactionRow)
    (entries : List EntryRow) : PostTransactionRequest :=
  { organizationId
    type := .reversal
    referenceId := some transactionId.text
    description := "Reversal of " ++ original.type.text ++ ": " ++ reason
    amount := storedAmount original.amount
    currency := original.currency
    entries := entries.map reversalEntry
    idempotencyKey := none }

/-- Reverse a transaction by posting its opposite entries. -/
def reverseTransaction (env : Env) (organizationId : String) (transactionId : UuidText) (reason : String) :
    Action Transaction :=
  let sess := env.session organizationId
  withSession sess (inTransaction sess (do
    match ← query sess (.selectTransaction transactionId) with
    | none => throw (.error s!"Transaction {transactionId.text} not found")
    | some original => do
      let entries ← query sess (.selectEntries transactionId)
      if entries.isEmpty then
        throw (.error s!"Transaction {transactionId.text} has no entries (corrupted state)")
      else do
        let reversal ← postWithClient env sess (reversalRequest organizationId transactionId reason original entries)
          transactionId.value
        query sess (.updateTransactionStatus .reversed transactionId)
        pure reversal))

/-! ## Calls -/

/-- The calls that write the ledger. -/
inductive Call where
  | createAccount (env : Env) (organizationId code name : String) (type : AccountType) (currency : String)
  | postTransaction (env : Env) (req : PostTransactionRequest)
  | reverseTransaction (env : Env) (organizationId : String) (transactionId : UuidText) (reason : String)

/-- What a call returns. -/
inductive Reply where
  | account (row : AccountRow)
  | transaction (transaction : Transaction)

/-- The program of a call. -/
def Call.program : Call → Action Reply
  | .createAccount env organizationId code name type currency => do
    return .account (← Ledger.createAccount env organizationId code name type currency)
  | .postTransaction env req => do return .transaction (← Ledger.postTransaction env req)
  | .reverseTransaction env organizationId transactionId reason => do
    return .transaction (← Ledger.reverseTransaction env organizationId transactionId reason)

/-- The ledger service: any number of calls, their statements interleaved; a choice says which statements fail. A crash closes
the connection, which gives the open transaction up. -/
abbrev machine : Machine where
  sig := signature
  State := State
  Choice := Bool
  Call := Call
  Reply := Reply
  program := Call.program
  exec := exec
  crash w s := s.discard w

/-- An operation while no other is open, on a ledger without open transactions: what it answered and the tables it left.
Statement `n` fails when `fails n`. -/
def alone {α : Type} (p : Action α) (fails : Nat → Bool) (d : Tables) : Option (Except LedgerError α × Tables) :=
  (p.run (exec 0) fails 0 ⟨d, []⟩).map (fun r => (r.1, r.2.db))

/-- Calls one after another, with the failures of each: the tables they leave. -/
def calls : List (Call × (Nat → Bool)) → Tables → Option Tables
  | [], d => some d
  | (c, fails) :: cs, d => (alone c.program fails d).bind (fun r => calls cs r.2)

/-! ## The trial balance -/

/-- A row of the view `trial_balance`. -/
structure TrialBalance where
  accountId : Uuid
  accountCode : String
  accountName : String
  debitSum : Int
  creditSum : Int
  balance : Int
  deriving DecidableEq

/-- The view `trial_balance` of an organization: each active account with the sums of its entries. -/
def Tables.trialBalance (d : Tables) (organizationId : String) : List TrialBalance :=
  (d.accounts.filter (fun a => a.isActive && decide (a.organizationId = organizationId))).map (fun a =>
    { accountId := a.id
      accountCode := a.code
      accountName := a.name
      debitSum := sumWhere (fun e => decide (e.accountId = a.id ∧ e.debitCredit = .debit)) (·.amount) d.entries
      creditSum := sumWhere (fun e => decide (e.accountId = a.id ∧ e.debitCredit = .credit)) (·.amount) d.entries
      balance := accountSum d.entries a.id })

/-! ## Reconciliation -/

/-- A posted transaction whose entries do not add up to zero. -/
structure Discrepancy where
  transactionId : Uuid
  description : String
  expectedBalance : Int
  actualBalance : Int
  difference : Int
  deriving DecidableEq

/-- What `reconcile` reports. The number of balanced transactions is not a number when there are no transactions: the sum over no
rows is null. -/
structure ReconciliationResult where
  totalTransactions : Nat
  balancedTransactions : Option Int
  trialBalance : List TrialBalance
  isBalanced : Bool
  discrepancies : List Discrepancy
  deriving DecidableEq

/-- The posted transactions of a session's organization with entries that do not add up to zero. -/
def Tables.discrepancies (d : Tables) (sess : Session) : List Discrepancy :=
  (d.transactions.filter (fun t => decide (t.organizationId = sess.organizationId ∧ t.status = .posted))).filterMap (fun t =>
    let sum := ((entriesOf (d.entriesSeen sess) t.id).map EntryRow.signed).sum
    -- the sum over no entries is null, which is not other than zero
    if entriesOf (d.entriesSeen sess) t.id = [] ∨ sum = 0 then none else some ⟨t.id, t.description, 0, sum, sum⟩)

/-- The total of a trial balance. -/
def totalBalance (trialBalance : List TrialBalance) : Decimal :=
  trialBalance.foldl (fun sum row => sum.plus (.ofNumeric row.balance)) (.fin 0)

/-- `reconcile`: the trial balance, the discrepancies and the counts, each read from the tables as they are at its query. -/
def reconcile (sess : Session) (atBalance atEntries atCounts : Tables) : Except LedgerError ReconciliationResult :=
  let trialBalance := atBalance.trialBalance sess.organizationId
  if sess.organizationId = "" then .error (.error "organizationId is required for a tenant-scoped query")
  else
    let discrepancies := atEntries.discrepancies sess
    let transactions := atCounts.transactions.filter (fun t => decide (t.organizationId = sess.organizationId))
    let posted := transactions.countP (fun t => decide (t.status = .posted))
    .ok
      { totalTransactions := transactions.length
        balancedTransactions := if transactions = [] then none else some (posted - discrepancies.length)
        trialBalance
        isBalanced := (totalBalance trialBalance).equals (.fin 0)
        discrepancies }

/-! ## The read routes

The `GET` routes of ledger-service-api.ts, chosen by the path of the request; a path without a handler is answered 404. The caller
has proved which service it is, and the database answers. How a text is read as a uuid is a parameter. -/

/-- The handlers of `GET` requests. -/
inductive Read where
  | accounts
  | transaction (id : String)
  | trialBalance
  | reconciliation
  | health
  deriving DecidableEq

/-- The handler of a path, given by its parts; the query is no part of the path. -/
def Read.ofPath : List String → Option Read
  | ["accounts"] => some .accounts
  | ["transactions", id] => some (.transaction id)
  | ["trial-balance"] => some .trialBalance
  | ["reconciliation"] => some .reconciliation
  | ["health"] => some .health
  | _ => none

/-- What a handler answers with: accounts, a transaction with its entries, or a document that is neither. -/
inductive ReadBody where
  | accounts (rows : List AccountRow)
  | transaction (row : TransactionRow) (entries : List EntryRow)
  | document

/-- `getTransaction` of an id that is a uuid. -/
def Tables.getTransaction (d : Tables) (organizationId : String) (id : Uuid) : Option (TransactionRow × List EntryRow) :=
  (d.transactions.find? (fun t => decide (t.id = id ∧ t.organizationId = organizationId))).map
    (fun t => (t, entriesOf d.entries t.id))

/-- The answer of a handler: its status and its body. -/
def Tables.read (parse : String → Option Uuid) (d : Tables) (organizationId : String) : Read → Nat × Option ReadBody
  | .accounts => (200, some (.accounts (d.accounts.filter (fun a => decide (a.organizationId = organizationId)))))
  | .transaction text =>
    match parse text with
    | none => (500, none)
    | some id =>
      match d.getTransaction organizationId id with
      | some (row, entries) => (200, some (.transaction row entries))
      | none => (404, none)
  | .trialBalance => (200, some .document)
  | .reconciliation => (200, some .document)
  | .health => (200, some .document)

/-- A `GET` request: `authenticateOrg`, which lets `/health` and `/ready` pass, then the handler of its path. -/
def Tables.get (parse : String → Option Uuid) (d : Tables) (organizationId : String) (path : List String) :
    Nat × Option ReadBody :=
  if organizationId = "" ∧ path ≠ ["health"] ∧ path ≠ ["ready"] then (401, none)
  else
    match Read.ofPath path with
    | some r => d.read parse organizationId r
    | none => (404, none)

end Ledger

end Archisynapse
