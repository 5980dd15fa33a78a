import Archisynapse.Base.Values

/-!
# The ledger's data

The rows of the ledger tables (migrations 002 and 003) and the requests and results of the ledger service
(ledger-service-types.ts). Amounts of stored rows are numbers of ten-thousandths, as their columns are NUMERIC(19, 4); amounts
of requests and results are decimals. Metadata, request hashes and the audit log are left out: no operation reads them.
-/

namespace Archisynapse

/-- A uuid, as its 128-bit number. -/
abbrev Uuid : Type := Nat

/-- The text a stored uuid is read back as. -/
def Uuid.text (u : Uuid) : String :=
  let digits := fun (i n : Nat) => String.ofList ((List.range n).map (fun j => Nat.digitChar (u / 16 ^ (31 - (i + j)) % 16)))
  digits 0 8 ++ "-" ++ digits 8 4 ++ "-" ++ digits 12 4 ++ "-" ++ digits 16 4 ++ "-" ++ digits 20 12

/-- A text argument for a uuid column: the text, and the uuid the column reads it as, none when it refuses the text. -/
structure UuidText where
  text : String
  value : Option Uuid
  deriving DecidableEq

/-- The argument a stored uuid makes when it is read and passed on. -/
def UuidText.stored (u : Uuid) : UuidText := ⟨u.text, some u⟩

inductive AccountType where
  | asset | liability | equity | revenue | expense
  deriving DecidableEq

inductive DebitCredit where
  | debit | credit
  deriving DecidableEq

/-- The other side of an entry. -/
def DebitCredit.swap : DebitCredit → DebitCredit
  | .debit => .credit
  | .credit => .debit

inductive TransactionType where
  | payment | payout | refund | chargeback | fee | reversal | adjustment
  deriving DecidableEq

/-- The text of a transaction's type. -/
def TransactionType.text : TransactionType → String
  | .payment => "PAYMENT"
  | .payout => "PAYOUT"
  | .refund => "REFUND"
  | .chargeback => "CHARGEBACK"
  | .fee => "FEE"
  | .reversal => "REVERSAL"
  | .adjustment => "ADJUSTMENT"

inductive TransactionStatus where
  | pending | posted | failed | reversed
  deriving DecidableEq

/-! ## Rows -/

/-- A row of `accounts`. -/
structure AccountRow where
  id : Uuid
  organizationId : String
  code : String
  name : String
  type : AccountType
  balance : Int
  currency : String
  isActive : Bool
  deriving DecidableEq

/-- A row of `transactions`. The amount is none for not-a-number, which the column takes. `reverses` is the transaction that
`reverseTransaction` posted the row for (the source keeps it as a text in `reference_id` and in the metadata, where other
callers may write what they like). -/
structure TransactionRow where
  id : Uuid
  organizationId : String
  type : TransactionType
  referenceId : Option String
  description : String
  amount : Option Int
  currency : String
  status : TransactionStatus
  idempotencyKey : Option String
  postedAt : Int
  reverses : Option Uuid
  deriving DecidableEq

/-- A row of `journal_entries`. -/
structure EntryRow where
  id : Uuid
  transactionId : Uuid
  organizationId : String
  accountId : Uuid
  debitCredit : DebitCredit
  amount : Int
  description : String
  deriving DecidableEq

/-- The entry's amount with its sign: a debit counts up, a credit down. -/
def EntryRow.signed (e : EntryRow) : Int :=
  match e.debitCredit with
  | .debit => e.amount
  | .credit => -e.amount

/-! ## Requests and results -/

structure PostJournalEntryRequest where
  accountId : UuidText
  debitCredit : DebitCredit
  amount : Decimal
  description : String

structure PostTransactionRequest where
  organizationId : String
  type : TransactionType
  referenceId : Option String
  description : String
  amount : Decimal
  currency : String
  entries : List PostJournalEntryRequest
  idempotencyKey : Option String

/-- What a posting returns and what the idempotency store keeps of it. -/
structure Transaction where
  id : Uuid
  organizationId : String
  type : TransactionType
  referenceId : Option String
  description : String
  amount : Decimal
  currency : String
  status : TransactionStatus
  entries : List EntryRow
  postedAt : Int
  deriving DecidableEq

/-- A row of `idempotency_store`. -/
structure ResponseRow where
  idempotencyKey : String
  organizationId : String
  response : Transaction
  expiresAt : Int
  deriving DecidableEq

/-! ## Errors -/

/-- Why the database refuses a statement. `failure` stands for everything outside the schema: a lost connection, a deadlock, a
timeout, a text with a byte the encoding does not have. -/
inductive DatabaseError where
  | invalidText | valueTooLong | numericOverflow | uniqueViolation | checkViolation | foreignKeyViolation
  | rowLevelSecurity | failure
  deriving DecidableEq

/-- What a ledger operation throws: an error of its own, with its message, or one of the database. -/
inductive LedgerError where
  | error (message : String)
  | database (reason : DatabaseError)
  deriving DecidableEq

end Archisynapse
