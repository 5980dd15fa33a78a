import Archisynapse.Base.Machine
import Archisynapse.Payments.World

/-!
# The transaction service

`createPayment` and `refundPayment` of transaction-service-core.ts as programs over their calls, with the processor adapter of
transaction-service-processor.ts and the ledger client of transaction-service-ledger-client.ts. A session's `close` does nothing
to the tables and never throws, so it is left out.
-/

namespace Archisynapse

namespace Payments

/-- A program of the service. -/
abbrev Program (α : Type) : Type := Prog signature α

/-- Make a call. -/
def step (o : Action) : Program o.Result := Prog.perform (S := signature) o

/-- Send a statement. -/
def query (sess : Session) (o : Statement) : Program o.Result := step (.sql sess o)

/-- Throw an error with a message. -/
def fault {α : Type} (name : ErrorName) (message : String) : Program α := Prog.throw (S := signature) (.named name message)

/-- The accounts of `LedgerAccountConfig`, those that are set. -/
structure LedgerAccountConfig where
  processorClearingAccountId : Option UuidText
  merchantPayableAccountId : Option UuidText
  platformFeeRevenueAccountId : Option UuidText
  deriving DecidableEq

/-- What the service takes from outside its arguments: its configuration and a fresh uuid. -/
structure Env where
  tenantIsolation : Bool
  mode : ProcessorMode
  ledgerAccounts : LedgerAccountConfig
  uuid : Uuid
  deriving DecidableEq

/-- The session of an organization. -/
def Env.session (env : Env) (organizationId : String) : Session := ⟨organizationId, env.tenantIsolation⟩

/-- `openTenantSession` -/
def openSession (sess : Session) : Program Unit :=
  if sess.organizationId = "" then fault .error "organizationId is required for a tenant-scoped query"
  else query sess .connect

/-! ## The processor's adapter -/

/-- A three-letter code. -/
def validCurrency (currency : String) : Bool :=
  decide (currency.length = 3) && currency.toList.all Char.isAlpha

/-- The number of cents in `amount.toFixed(2)`, for an amount that is not negative. -/
def cents (amount : ℚ) : Nat := (roundHalfUp (amount * 100)).toNat

/-- `validateMinorAmount` -/
def validateMinorAmount (value : Nat) : Program Unit :=
  if !isSafeInteger value || decide (value = 0) then
    fault .processorProtocolError "processor amount must be a positive safe integer in minor units"
  else pure ()

/-- `decimalStringToMinorUnits(amount.toFixed(2), currency)`: the text is the whole part, a point and two digits, after a minus
sign when the amount is negative. -/
def decimalStringToMinorUnits (amount : ℚ) (currency : String) : Program Nat :=
  if !validCurrency currency then fault .processorProtocolError "currency must be a three-letter code"
  else if amount < 0 then
    fault .processorProtocolError
      "processor proof lane currently accepts positive amounts with at most two decimal places"
  else do
    let value := double (double (double (cents amount / 100) * 100) + cents amount % 100)
    validateMinorAmount value
    pure value

/-- `validateIdempotencyKey` -/
def validateIdempotencyKey (key : String) : Program Unit :=
  if key = "" ∨ 255 < utf16Length key then
    fault .processorProtocolError "processor idempotency key must be 1-255 characters"
  else pure ()

/-- A tokenized payment method: `pm_` and letters, digits or underscores. -/
def validToken (token : String) : Bool :=
  startsWith token "pm_" && decide (3 < token.length) && (token.toList.drop 3).all (fun c => c.isAlphanum || c == '_')

/-- `validateCharge` of the live smoke adapter. -/
def validateCharge (mode : ProcessorMode) (req : ChargeRequest) (liveSmokeTest : Bool) : Program Unit :=
  if mode ≠ .liveSmoke then pure ()
  else if req.amountMinor ≠ 100 ∨ req.currency.map Char.toUpper ≠ "USD" then
    fault .processorProtocolError "live smoke mode permits exactly 100 cents USD and no other amount or currency"
  else if !startsWith req.idempotencyKey "live-smoke-" then
    fault .processorProtocolError "live smoke mode requires an Idempotency-Key beginning with live-smoke-"
  else if !liveSmokeTest then
    fault .processorProtocolError "live smoke mode requires metadata.live_smoke_test=true"
  else pure ()

/-- `validateRefund` of the live smoke adapter. -/
def validateRefund (mode : ProcessorMode) (req : ProcessorRefundRequest) : Program Unit :=
  if mode ≠ .liveSmoke then pure ()
  else if req.amountMinor ≠ 100 then
    fault .processorProtocolError "live smoke refunds must be exactly 100 cents"
  else if !startsWith req.idempotencyKey "live-smoke-refund-" then
    fault .processorProtocolError "live smoke refund idempotency keys must begin with live-smoke-refund-"
  else pure ()

/-- `charge` of the adapter: the id of the charge and whether it succeeded. -/
def charge (env : Env) (req : ChargeRequest) (liveSmokeTest : Bool) : Program (String × Bool) :=
  if env.mode = .disabled then fault .processorNotConfiguredError "payment processor is not configured"
  else do
    validateMinorAmount req.amountMinor
    if !validCurrency req.currency then fault .processorProtocolError "currency must be a three-letter code"
    else if !validToken req.paymentMethodToken then
      fault .processorProtocolError
        "processor lanes accept tokenized PaymentMethod ids only (pm_); raw card data is forbidden"
    else do
      validateIdempotencyKey req.idempotencyKey
      validateCharge env.mode req liveSmokeTest
      let (id, status) ← step (.charge req)
      pure (id, decide (status = .succeeded))

/-- `normalizeRefundReason` -/
def normalizeRefundReason (reason : String) : String :=
  let normalized := (trim reason).map Char.toLower
  if normalized = "duplicate" then "duplicate"
  else if normalized = "fraudulent" ∨ normalized = "fraud" then "fraudulent"
  else "requested_by_customer"

/-- `refund` of the adapter: the id and the status of the refund. -/
def refund (env : Env) (req : ProcessorRefundRequest) : Program (String × ProcessorRefundStatus) :=
  if env.mode = .disabled then fault .processorNotConfiguredError "payment processor is not configured"
  else do
    validateMinorAmount req.amountMinor
    validateIdempotencyKey req.idempotencyKey
    validateRefund env.mode req
    if !startsWith req.processorTransactionId "pi_" then
      fault .processorProtocolError "Stripe refund requires a PaymentIntent id (pi_)"
    else step (.refund { req with reason := normalizeRefundReason req.reason })

/-! ## The ledger client -/

/-- `listAccounts` -/
def listAccounts (organizationId : String) : Program (List AccountRow) :=
  step (.ledger "account list" (.listAccounts organizationId))

/-- `createAccount` -/
def createAccount (organizationId code name : String) (type : AccountType) : Program AccountRow :=
  step (.ledger "account create" (.createAccount organizationId code name type "USD"))

/-- The accounts of a posting. -/
structure Accounts where
  processorClearingAccountId : UuidText
  merchantPayableAccountId : UuidText
  platformFeeRevenueAccountId : UuidText

/-- The account with a code, created when the list does not have it. -/
def findOrCreate (existing : List AccountRow) (organizationId code name : String) (type : AccountType) : Program UuidText :=
  match existing.find? (fun a => decide (a.code = code)) with
  | some account => pure (.stored account.id)
  | none => do
    let account ← createAccount organizationId code name type
    pure (.stored account.id)

/-- `resolveLedgerAccounts` -/
def resolveLedgerAccounts (env : Env) (organizationId : String) : Program Accounts :=
  match env.ledgerAccounts with
  | ⟨some clearing, some payable, some fee⟩ => pure ⟨clearing, payable, fee⟩
  | _ => do
    let existing ← listAccounts organizationId
    let clearing ← findOrCreate existing organizationId "1100" "Processor Clearing" .asset
    let payable ← findOrCreate existing organizationId "2001" "Merchant Payable" .liability
    let fee ← findOrCreate existing organizationId "4001" "Platform Fee Revenue" .revenue
    pure ⟨clearing, payable, fee⟩

/-- The posting of a payment: debit the clearing account with the gross amount, credit the merchant with the net amount and,
when there is one, the platform with the fee. -/
def paymentRequest (organizationId : String) (paymentId : Uuid) (gross fee net : Decimal) (currency : String)
    (accounts : Accounts) : PostTransactionRequest :=
  { organizationId
    type := .payment
    referenceId := some paymentId.text
    description := "Payment " ++ paymentId.text
    amount := gross
    currency
    entries :=
      [⟨accounts.processorClearingAccountId, .debit, gross, "Gross payment received from processor"⟩,
       ⟨accounts.merchantPayableAccountId, .credit, net, "Net amount payable to merchant"⟩] ++
      (if fee.greaterThan (.fin 0) then [⟨accounts.platformFeeRevenueAccountId, .credit, fee, "Platform fee revenue"⟩] else [])
    idempotencyKey := some ("payment-" ++ paymentId.text) }

/-- `postPaymentSucceeded` -/
def postPaymentSucceeded (req : PostTransactionRequest) : Program Transaction :=
  step (.ledger "transaction" (.postTransaction req))

/-- `postRefund` -/
def postRefund (organizationId : String) (originalLedgerTransactionId : Uuid) (reason : String) : Program Transaction :=
  step (.ledger "reversal" (.reverse organizationId (.stored originalLedgerTransactionId) reason))

/-! ## Payments -/

/-- `getPayment` -/
def getPayment (env : Env) (organizationId : String) (paymentId : UuidText) : Program PaymentRow := do
  let sess := env.session organizationId
  openSession sess
  match ← query sess (.selectPayment paymentId) with
  | some row => pure row
  | none => fault .paymentNotFoundError "Payment not found"

/-- The insert of `createPayment`: none when it wrote the row, else the payment that has the key already. -/
def insertPayment (env : Env) (sess : Session) (req : CreatePaymentRequest) : Program (Option PaymentRow) :=
  Prog.tryCatch
    (do
      query sess (.insertPayment ⟨env.uuid, .fin req.amount, req.currency, req.idempotencyKey, .fin (req.feeAmount.getD 0)⟩)
      pure none)
    (fun e =>
      if e = .database .uniqueViolation then do
        match ← query sess (.selectPaymentByKey req.idempotencyKey) with
        | some row => pure (some row)
        | none => Prog.throw e
      else Prog.throw e)

/-- `callProcessor` with its handler: an error is a charge that did not succeed. -/
def callProcessor (env : Env) (req : CreatePaymentRequest) : Program (Option String × Bool) :=
  Prog.tryCatch
    (do
      let amountMinor ← decimalStringToMinorUnits req.amount req.currency
      let (id, success) ← charge env ⟨amountMinor, req.currency, req.paymentMethodToken, req.idempotencyKey⟩ req.liveSmokeTest
      pure (truthy (some id), success))
    (fun _ => pure (none, false))

/-- The net amount of a payment. -/
def CreatePaymentRequest.net (req : CreatePaymentRequest) : Decimal :=
  (Decimal.fin req.amount).minus (.fin (req.feeAmount.getD 0))

/-- Post a payment that succeeded, and queue it when that fails. -/
def postPayment (env : Env) (sess : Session) (req : CreatePaymentRequest) : Program Unit :=
  let gross := Decimal.fin req.amount
  let fee := Decimal.fin (req.feeAmount.getD 0)
  Prog.tryCatch
    (do
      let accounts ← resolveLedgerAccounts env req.organizationId
      let transaction ← postPaymentSucceeded
        (paymentRequest req.organizationId env.uuid gross fee req.net req.currency accounts)
      query sess (.updatePayment env.uuid (.posted transaction.id)))
    (fun _ => query sess (.insertUnposted
      ⟨env.uuid, "payment-" ++ Uuid.text env.uuid, gross, fee, req.net, req.currency, Uuid.text env.uuid⟩))

def createPayment (env : Env) (req : CreatePaymentRequest) : Program PaymentRow := do
  let sess := env.session req.organizationId
  openSession sess
  match ← query sess (.selectPaymentByKey req.idempotencyKey) with
  | some row => pure row
  | none => do
    match ← insertPayment env sess req with
    | some row => pure row
    | none => do
      let (processorTransactionId, success) ← callProcessor env req
      if !success then do
        query sess (.updatePayment env.uuid (.failed processorTransactionId))
        getPayment env req.organizationId (.stored env.uuid)
      else do
        query sess (.updatePayment env.uuid (.succeeded processorTransactionId))
        postPayment env sess req
        getPayment env req.organizationId (.stored env.uuid)

/-! ## Refunds -/

/-- What `refundPayment` has to do after it claimed its idempotency key: nothing, as the refund is there, or work on an attempt. -/
inductive Claim where
  | done (row : RefundRow)
  | attempt (row : AttemptRow)

/-- The attempt of a refund: a new one, or the one that has the key. -/
def claimAttempt (sess : Session) (v : AttemptValues) : Program Claim := do
  match ← query sess (.insertAttempt v) with
  | some row => pure (.attempt row)
  | none => do
    match ← query sess (.selectAttempt v.idempotencyKey) with
    | none => fault .error "refund idempotency record disappeared"
    | some attempt =>
      match attempt.status with
      | .processing => fault .error "another refund request is already processing this idempotency key"
      | .ledgerSucceeded => do
        match ← query sess (.selectRefund v.idempotencyKey) with
        | some row => pure (.done row)
        | none => pure (.attempt attempt)
      | .failed => do
        query sess (.updateAttempt attempt.id .processing)
        pure (.attempt { attempt with status := .processing })
      | .processorSucceeded => pure (.attempt attempt)

/-- The reason of a refund that did not succeed at the processor. -/
def refundFailure : ProcessorRefundStatus → String
  | .pending => "processor refund status pending"
  | .requiresAction => "processor refund status requires_action"
  | status => "processor refund returned status " ++ status.text

/-- The processor's part of a refund, unless the attempt says it is done: the id of the refund at the processor. -/
def refundAtProcessor (env : Env) (sess : Session) (req : RefundRequest) (payment : PaymentRow)
    (processorTransactionId : String) (refundAmount : ℚ) (attempt : AttemptRow) : Program (Option String) :=
  if attempt.status = .processorSucceeded then pure (truthy attempt.processorRefundId)
  else do
    let amountMinor ← decimalStringToMinorUnits refundAmount payment.currency
    let (id, status) ← refund env ⟨processorTransactionId, amountMinor, req.reason, req.idempotencyKey⟩
    if status ≠ .succeeded then do
      query sess (.updateAttempt attempt.id (.failed (truthy (some id))))
      fault .error (refundFailure status)
    else do
      query sess (.updateAttempt attempt.id (.processorSucceeded (truthy (some id))))
      pure (truthy (some id))

/-- The ledger's part of a refund: the payment's transaction is reversed. -/
def reverseInLedger (sess : Session) (req : RefundRequest) (payment : PaymentRow) (ledgerTransactionId : Uuid)
    (attempt : AttemptRow) : Program Transaction :=
  Prog.tryCatch (postRefund payment.organizationId ledgerTransactionId req.reason)
    (fun e => do
      query sess (.updateAttempt attempt.id .ledgerPending)
      Prog.throw e)

/-- The records of a refund that is done. -/
def recordRefund (env : Env) (sess : Session) (req : RefundRequest) (payment : PaymentRow) (refundAmount : ℚ)
    (alreadyRefunded : Decimal) (attempt : AttemptRow) (processorRefundId : Option String) (reversal : Transaction) :
    Program RefundRow := do
  query sess (.insertRefund ⟨env.uuid, payment.id, payment.organizationId, .fin refundAmount, req.reason, req.idempotencyKey,
    processorRefundId, reversal.id⟩)
  query sess (.updateAttempt attempt.id (.ledgerSucceeded reversal.id))
  let isFullRefund := (alreadyRefunded.plus (.fin refundAmount)).equals (.ofNumeric payment.amount)
  query sess (.updatePayment payment.id (.status (if isFullRefund then .refunded else .partiallyRefunded)))
  match ← query sess (.selectRefund req.idempotencyKey) with
  | some row => pure row
  | none => fault .typeError "Cannot read properties of undefined (reading 'id')"

/-- The amount of a refund: what was asked for, or the whole payment. -/
def RefundRequest.refundAmount (req : RefundRequest) (payment : PaymentRow) : ℚ := req.amount.getD (payment.amount / 10000)

/-- `refundPayment` on a payment that is in order. -/
def refundPosted (env : Env) (sess : Session) (req : RefundRequest) (payment : PaymentRow) (processorTransactionId : String)
    (ledgerTransactionId : Uuid) : Program RefundRow := do
  let refundAmount := req.refundAmount payment
  let total ← query sess (.sumRefunds payment.id)
  let alreadyRefunded := Decimal.ofNumeric total
  if (alreadyRefunded.plus (.fin refundAmount)).greaterThan (.ofNumeric payment.amount) then
    fault .insufficientFundsError "Refund amount exceeds remaining payment balance"
  else do
    let claim ← claimAttempt sess ⟨env.uuid, payment.id, payment.organizationId, req.idempotencyKey, processorTransactionId,
      .fin refundAmount, payment.currency, req.reason⟩
    match claim with
    | .done row => pure row
    | .attempt attempt => do
      let processorRefundId ← refundAtProcessor env sess req payment processorTransactionId refundAmount attempt
      let reversal ← reverseInLedger sess req payment ledgerTransactionId attempt
      recordRefund env sess req payment refundAmount alreadyRefunded attempt processorRefundId reversal

def refundPayment (env : Env) (req : RefundRequest) : Program RefundRow :=
  if req.organizationId = "" then fault .paymentNotFoundError "Payment not found"
  else do
    let sess := env.session req.organizationId
    openSession sess
    match ← query sess (.selectRefund req.idempotencyKey) with
    | some row => pure row
    | none => do
      match ← query sess (.selectPayment req.paymentId) with
      | none => fault .paymentNotFoundError "Payment not found"
      | some payment =>
        if payment.status ≠ .succeeded ∧ payment.status ≠ .partiallyRefunded then
          fault .error ("Cannot refund payment with status " ++ payment.status.text)
        else match truthy payment.processorTransactionId, payment.ledgerTransactionId with
          | none, _ => fault .error "Cannot refund: payment has no processor transaction reference"
          | some _, none =>
            fault .error "Cannot refund: payment has not been posted to the ledger yet. Retry after reconciliation."
          | some processorTransactionId, some ledgerTransactionId =>
            refundPosted env sess req payment processorTransactionId ledgerTransactionId

/-! ## Runs -/

/-- The calls of the service, and the events at the processor. -/
inductive Call where
  | createPayment (env : Env) (req : CreatePaymentRequest)
  | refundPayment (env : Env) (req : RefundRequest)
  | settleCharge (id : String) (status : ChargeStatus)
  | settleRefund (id : String) (status : ProcessorRefundStatus)

/-- What a call returns. -/
inductive Reply where
  | payment (row : PaymentRow)
  | refund (row : RefundRow)
  | done

/-- The program of a call. -/
def Call.program : Call → Program Reply
  | .createPayment env req => do return .payment (← Payments.createPayment env req)
  | .refundPayment env req => do return .refund (← Payments.refundPayment env req)
  | .settleCharge id status => do
    step (.settleCharge id status)
    return .done
  | .settleRefund id status => do
    step (.settleRefund id status)
    return .done

/-- The service: any number of calls, their steps interleaved. A crash leaves everything as it is. -/
abbrev machine : Machine where
  sig := signature
  State := World
  Choice := Choice
  Call := Call
  Reply := Reply
  program := Call.program
  exec _ := exec
  crash _ s := s

/-- A program while no other runs. -/
def alone {α : Type} (p : Program α) (ch : Nat → Choice) (s : World) : Option (Except PaymentError α × World) :=
  p.run exec ch 0 s

/-! ## Routes

What `POST /payments` and `POST /payments/:id/refund` of transaction-service-api.ts let through to the service. An amount is a text
of digits with at most four of them after a point, so a request's amounts are numbers of ten-thousandths. -/

/-- An amount that matches `/^\d+(\.\d{1,4})?$/`. -/
def FourDecimals (q : ℚ) : Prop := ∃ n : Nat, q = n / 10000

/-- `authenticateOrg` lets an organization through. -/
def AdmitsOrganization (organizationId : String) : Prop := organizationId ≠ "" ∧ utf16Length organizationId ≤ 255

/-- `POST /payments` lets a request through. -/
structure CreatePaymentRequest.Admitted (req : CreatePaymentRequest) : Prop where
  organizationId : AdmitsOrganization req.organizationId
  amount : FourDecimals req.amount
  feeAmount : FourDecimals (req.feeAmount.getD 0)
  currency : utf16Length req.currency = 3
  token : req.paymentMethodToken ≠ ""
  idempotencyKey : req.idempotencyKey ≠ ""

/-- `POST /payments/:id/refund` lets a request through. -/
structure RefundRequest.Admitted (req : RefundRequest) : Prop where
  organizationId : AdmitsOrganization req.organizationId
  amount : ∀ q, req.amount = some q → FourDecimals q
  reason : req.reason ≠ ""
  idempotencyKey : req.idempotencyKey ≠ ""

/-- An amount of whole cents. -/
def WholeCents (q : ℚ) : Prop := ∃ n : Nat, q = n / 100

/-! ## Minor units

`decimalStringToMinorUnits` of services/transaction/transaction-service-processor.ts on the text it is called with: the pattern
of an amount, the two parts around the point, and JavaScript's numbers, each rounded to 53 bits. -/

/-- `/^\d+(\.\d{1,2})?$/.test(amount)` -/
def isAmount (amount : List Char) : Bool :=
  !(amount.takeWhile Char.isDigit).isEmpty &&
    match amount.dropWhile Char.isDigit with
    | [] => true
    | c :: fraction => c == '.' && (decide (fraction.length = 1 ∨ fraction.length = 2)) && fraction.all Char.isDigit

/-- `Number(digits)` -/
def number (digits : List Char) : Nat := double (Nat.ofDigitChars 10 digits 0)

/-- `Number(whole) * 100 + Number((fraction + '00').slice(0, 2))` for `[whole, fraction = ''] = amount.split('.')` -/
def minorUnits (amount : List Char) : Nat :=
  let parts := amount.splitOn '.'
  let whole := parts.headD []
  let fraction := parts.tail.headD []
  double (double (number whole * 100) + number ((fraction ++ ['0', '0']).take 2))

/-- `decimalStringToMinorUnits(amount, currency)` -/
def decimalTextToMinorUnits (amount currency : String) : Program Nat :=
  if !validCurrency currency then fault .processorProtocolError "currency must be a three-letter code"
  else if !isAmount amount.toList then
    fault .processorProtocolError
      "processor proof lane currently accepts positive amounts with at most two decimal places"
  else do
    let value := minorUnits amount.toList
    validateMinorAmount value
    pure value

/-- `amount.toFixed(2)` -/
def toFixed2 (amount : ℚ) : String :=
  let n := cents |amount|
  String.ofList ((if amount < 0 then ['-'] else []) ++
    (Nat.toDigits 10 (n / 100) ++ ['.', Nat.digitChar (n % 100 / 10), Nat.digitChar (n % 10)]))

/-- A price as a reader takes it: a whole part in digits, and no digits, one or two after a point. -/
structure Price where
  whole : List Char
  fraction : List Char
  whole_ne : whole ≠ []
  whole_digits : ∀ c ∈ whole, c.isDigit = true
  fraction_digits : ∀ c ∈ fraction, c.isDigit = true
  fraction_le : fraction.length ≤ 2

namespace Price

/-- The text of a price. -/
def text (p : Price) : String := String.ofList (p.whole ++ if p.fraction = [] then [] else '.' :: p.fraction)

/-- The value of a price: the digits of its fraction count for tenths and hundredths. -/
def value (p : Price) : ℚ :=
  Nat.ofDigitChars 10 p.whole 0 + Nat.ofDigitChars 10 p.fraction 0 / 10 ^ p.fraction.length

end Price

end Payments

end Archisynapse
