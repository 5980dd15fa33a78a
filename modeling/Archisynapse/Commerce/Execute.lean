import Archisynapse.Base.Machine
import Archisynapse.Commerce.Store

/-!
# Paid calls

`execute` of l402.py and `reconcile_initiated_payment` of recovery.py as programs: each store operation is one step, and each
message to the agent's endpoint or to the payment provider is one. What the endpoint and the provider answer is a choice of the
environment; any step may fail.

`pay_invoice` is two steps: the request leaves (`payInvoice`, which counts as the invocation), and its answer or its failure
comes back (`awaitPayment`). The world keeps three records that the code has no variable for: who initiated which payment, the
payments started and their outcome, and the handlers that have read a reservation they are about to release.

`parse_l402_challenge` is represented by what it returns or raises on the endpoint's answer.
-/

namespace Archisynapse

namespace Commerce

/-! ## The outside -/

/-- What the service takes from its configuration and from hashing: `tolerance` is `ceil(quoted_sats * (1 + tolerance))` and
`maxAdvertised` is `int(quoted_sats * (1 + tolerance) + 0.999999)`, both floats (none when the conversion raises);
`preimageHash` is the SHA-256 of the bytes a hexadecimal text stands for (none when it is malformed). -/
structure Env where
  tolerance : Int → Option Int
  maxAdvertised : Int → Option Int
  preimageHash : String → Option String
  sha256 : String → String
  bodySha256 : List UInt8 → String
  lower : String → String
  verifies : PaymentReceipt → Bool
  maxResponseBytes : Nat

/-- The endpoint's first answer: its status, and what `parse_l402_challenge` makes of its header: the macaroon and the payment
request, or the exception. -/
structure InitialResponse where
  statusCode : Int
  challenge : Except CommerceError (String × String)

/-- The endpoint's answer to the paid request. -/
structure DeliveryResponse where
  statusCode : Int
  contentType : Option String
  body : List UInt8

/-- How the paid request went: an answer, or the text of the exception. -/
structure Delivery where
  latencyMs : Int
  response : Except String DeliveryResponse

/-- What a provider's payment came to. -/
inductive Outcome where
  | pending | settled | failed
  deriving DecidableEq

/-- What `pay_invoice` comes back with: a settlement, a payment that the provider reports as failed, or an exception that says
nothing about the payment (a timeout, a lost connection, an answer that cannot be read). -/
inductive PaymentResult where
  | settlement (settlement : PaymentSettlement)
  | paymentError (message : String)
  | unknown (error : CommerceError)

/-! ## Steps -/

/-- The steps of the programs. `payInvoice` and `awaitPayment` name the reservation they are made for, and `getReservation`
whether the exception handler of `execute` makes it. -/
inductive Action where
  | postInitial (endpoint query : String) (context : Option String)
  | decodeInvoice (paymentRequest : String)
  | reserve (args : ReserveArgs)
  | getReceipt (receiptId : String)
  | getReservation (reservationId : String) (handler : Bool)
  | getAuthorization (authorizationId : String)
  | bindInvoice (reservationId : String) (invoice : DecodedInvoice)
  | markPaymentInitiated (reservationId : String)
  | payInvoice (reservationId paymentRequest : String)
  | awaitPayment (reservationId : String)
  | lookupPayment (paymentHash : String)
  | markPaid (reservationId : String) (args : MarkPaidArgs)
  | release (reservationId : String)
  | postDelivery (endpoint macaroon preimage : String)
  | finalizePaidCall (args : FinalizeArgs)
  | create (args : CreateArgs)
  | revoke (authorizationId : String)

/-- What a step answers. -/
abbrev Action.Result : Action → Type
  | .postInitial _ _ _ => InitialResponse
  | .decodeInvoice _ => DecodedInvoice
  | .reserve _ => Reservation
  | .getReceipt _ => Option PaymentReceipt
  | .getReservation _ _ => Option Reservation
  | .getAuthorization _ => Option Authorization
  | .bindInvoice _ _ => Reservation
  | .markPaymentInitiated _ => Reservation
  | .payInvoice _ _ => Unit
  | .awaitPayment _ => PaymentSettlement
  | .lookupPayment _ => Option PaymentSettlement
  | .markPaid _ _ => Reservation
  | .release _ => Reservation
  | .postDelivery _ _ _ => Delivery
  | .finalizePaidCall _ => PaymentReceipt
  | .create _ => Authorization
  | .revoke _ => Authorization

/-- The steps and their answers. -/
abbrev signature : Signature where
  Op := Action
  Res := Action.Result
  Err := CommerceError

/-- A program of the service. -/
abbrev Program (α : Type) : Type := Prog signature α

/-- Make a step. -/
def step (o : Action) : Program o.Result := Prog.perform (S := signature) o

/-- Raise an exception. -/
def fault {α : Type} (code : ErrorCode) (message : String) : Program α := Prog.throw (S := signature) ⟨code, message⟩

/-! ## Execute -/

/-- The arguments of `execute`. -/
structure ExecuteArgs where
  authorizationId : String
  idempotencyKey : String
  orchestrationId : String
  agentNpub : String
  specialty : String
  endpoint : String
  quotedSats : Int
  query : String
  context : Option String

def ExecuteArgs.reserveArgs (args : ExecuteArgs) : ReserveArgs :=
  { authorizationId := args.authorizationId
    idempotencyKey := args.idempotencyKey
    orchestrationId := args.orchestrationId
    agentNpub := args.agentNpub
    specialty := args.specialty
    quotedSats := args.quotedSats }

/-- A text that is there and not empty. -/
def truthy : Option String → Option String
  | some text => if text = "" then none else some text
  | none => none

/-- The settlement arguments of `mark_paid`. -/
def PaymentSettlement.markPaidArgs (settlement : PaymentSettlement) (env : Env) : MarkPaidArgs :=
  { provider := settlement.provider
    providerPaymentId := settlement.providerPaymentId
    routeFeeSats := settlement.routeFeeSats
    preimageHash := env.sha256 settlement.preimage
    settledAt := settlement.settledAt }

/-- The body of the `try` of `execute`: bind, initiate, pay, check the proof of payment, record it. -/
def payReservation (env : Env) (reservation : Reservation) (invoice : DecodedInvoice) (paymentRequest : String) :
    Program (PaymentSettlement × Reservation) :=
  if reservation.status = .paymentInitiated ∨ reservation.status = .paid then
    fault .paymentFailed
      "idempotent call already reached payment state; reconcile the existing payment instead of paying again"
  else do
    let reservation ← step (.bindInvoice reservation.id invoice)
    let reservation ←
      if reservation.status = .invoiceBound then step (.markPaymentInitiated reservation.id) else pure reservation
    step (.payInvoice reservation.id paymentRequest)
    let settlement ← step (.awaitPayment reservation.id)
    if env.lower settlement.paymentHash ≠ env.lower invoice.paymentHash then
      fault .paymentFailed "provider settlement hash does not match decoded invoice"
    else match env.preimageHash settlement.preimage with
      | none => fault .paymentFailed "provider returned a malformed preimage"
      | some computedHash =>
        if env.lower computedHash ≠ env.lower invoice.paymentHash then
          fault .paymentFailed "settlement preimage does not prove the invoice payment hash"
        else do
          let reservation ← step (.markPaid reservation.id (settlement.markPaidArgs env))
          pure (settlement, reservation)

/-- The handler of `execute`: it reads the reservation, and releases it when no payment was initiated. The reservation's id is
the same throughout the `try`. -/
def releaseUnpaid {α : Type} (reservationId : String) (e : CommerceError) : Program α := do
  match ← step (.getReservation reservationId true) with
  | some current =>
    if ¬ (current.status = .paid ∨ current.status = .finalized ∨ current.status = .paymentInitiated) then do
      let _ ← step (.release reservationId)
      Prog.throw e
    else Prog.throw e
  | none => Prog.throw e

/-- The first characters of a text. -/
def firstChars (n : Nat) (text : String) : String := String.ofList (text.toList.take n)

/-- The evidence of a delivery, and the body it returns. -/
def Delivery.evidence (env : Env) (delivery : Delivery) : DeliveryEvidence × List UInt8 :=
  match delivery.response with
  | .ok response =>
    let truncated := env.maxResponseBytes < response.body.length
    let body := if truncated then response.body.take env.maxResponseBytes else response.body
    let deliveryError := if truncated then some "response exceeded max_response_bytes and was truncated" else none
    let delivered := 200 ≤ response.statusCode ∧ response.statusCode < 300 ∧ deliveryError = none
    ({ status := if delivered then .delivered else .deliveryFailed
       httpStatus := some response.statusCode
       contentType := response.contentType
       bodySha256 := some (env.bodySha256 body)
       bodyBytes := body.length
       latencyMs := delivery.latencyMs
       error := deliveryError.or (if delivered then none else some s!"HTTP {response.statusCode}") }, body)
  | .error message =>
    ({ status := .deliveryFailed
       httpStatus := none
       contentType := none
       bodySha256 := none
       bodyBytes := 0
       latencyMs := delivery.latencyMs
       error := some (firstChars 500 message) }, [])

/-- The rest of `execute`, once the payment is recorded: the paid request and the receipt. -/
def deliver (env : Env) (args : ExecuteArgs) (macaroon : String) (invoice : DecodedInvoice) (settlement : PaymentSettlement)
    (reservation : Reservation) : Program (PaymentReceipt × List UInt8) := do
  let delivery ← step (.postDelivery args.endpoint macaroon settlement.preimage)
  let (evidence, body) := delivery.evidence env
  match ← step (.getAuthorization args.authorizationId) with
  | none => fault .paymentFailed "authorization missing after settlement"
  | some authorization => do
    let receipt ← step (.finalizePaidCall
      { reservation
        authorization
        endpoint := args.endpoint
        invoice
        settlement :=
          { provider := some settlement.provider
            providerPaymentId := some settlement.providerPaymentId
            paymentHash := some settlement.paymentHash
            preimageHash := some (env.sha256 settlement.preimage)
            routeFeeSats := settlement.routeFeeSats
            settledAt := some settlement.settledAt
            reconciled := false }
        delivery := evidence })
    pure (receipt, body)

def execute (env : Env) (args : ExecuteArgs) : Program (PaymentReceipt × List UInt8) :=
  if args.query = "" ∨ 2000 < args.query.length then fault .valueError "query must be 1-2000 characters"
  else if args.context.any (fun c => decide (4000 < c.length)) then
    fault .valueError "context must be at most 4000 characters"
  else do
    let initial ← step (.postInitial args.endpoint args.query (truthy args.context))
    if initial.statusCode ≠ 402 then
      fault .invalidInvoice s!"paid agent endpoint must return 402 before service, got {initial.statusCode}"
    else match initial.challenge with
      | .error e => Prog.throw e
      | .ok (macaroon, paymentRequest) => do
        let invoice ← step (.decodeInvoice paymentRequest)
        match env.maxAdvertised args.quotedSats with
        | none => fault .failure "cannot convert float to integer"
        | some maxAdvertised =>
          if maxAdvertised < invoice.amountSats then
            fault .priceMismatch s!"invoice asks {invoice.amountSats} sats but advertised ceiling is {maxAdvertised}"
          else do
            let reservation ← step (.reserve args.reserveArgs)
            match reservation.status, truthy reservation.receiptId with
            | .finalized, some receiptId => do
              match ← step (.getReceipt receiptId) with
              | none => fault .paymentFailed "finalized reservation is missing its receipt"
              | some receipt => pure (receipt, [])
            | _, _ => do
              let (settlement, reservation) ←
                Prog.tryCatch (payReservation env reservation invoice paymentRequest) (releaseUnpaid reservation.id)
              deliver env args macaroon invoice settlement reservation

/-! ## Recovery -/

/-- What a recovery finalizes a reservation with: the stored evidence, and nothing about the delivery. -/
def recoveryArgs (reservation : Reservation) (authorization : Authorization) (invoice : DecodedInvoice) : FinalizeArgs :=
  { reservation
    authorization
    endpoint := "recovery://unknown-original-endpoint"
    invoice
    settlement :=
      { provider := reservation.provider
        providerPaymentId := reservation.providerPaymentId
        paymentHash := reservation.paymentHash
        preimageHash := reservation.preimageHash
        routeFeeSats := reservation.routeFeeSats.getD 0
        settledAt := reservation.settledAt
        reconciled := true }
    delivery :=
      { status := .deliveryUnknown
        httpStatus := none
        contentType := none
        bodySha256 := none
        bodyBytes := 0
        latencyMs := 0
        error := some "process recovery: payment proven, original delivery evidence unavailable" } }

/-- The end of a recovery: the receipt of a paid reservation. -/
def finishReconcile (reservation : Reservation) : Program (Option PaymentReceipt) :=
  match reservation.status, reservation.invoicePayload with
  | .paid, some invoice => do
    match ← step (.getAuthorization reservation.authorizationId) with
    | none => pure none
    | some authorization => do
      let receipt ← step (.finalizePaidCall (recoveryArgs reservation authorization invoice))
      pure (some receipt)
  | _, _ => pure none

def reconcileInitiatedPayment (env : Env) (reservationId : String) : Program (Option PaymentReceipt) := do
  match ← step (.getReservation reservationId false) with
  | none => pure none
  | some reservation =>
    match reservation.status, truthy reservation.receiptId, truthy reservation.paymentHash with
    | .finalized, some receiptId, _ => step (.getReceipt receiptId)
    | .paymentInitiated, _, none => pure none
    | .paymentInitiated, _, some paymentHash => do
      match ← step (.lookupPayment paymentHash) with
      | none => pure none
      | some settlement =>
        match env.preimageHash settlement.preimage with
        | none => fault .valueError "non-hexadecimal number found in fromhex() arg"
        | some computed =>
          if env.lower computed ≠ env.lower paymentHash then pure none
          else do
            let reservation ← step (.markPaid reservationId (settlement.markPaidArgs env))
            finishReconcile reservation
    | _, _, _ => finishReconcile reservation

/-! ## The world -/

/-- A payment that was started: for which reservation, by which worker, and what it came to. -/
structure Payment where
  reservationId : String
  worker : Nat
  outcome : Outcome
  deriving DecidableEq

/-- The store, who initiated which payment, the payments started, and the handlers about to release a reservation. -/
structure World where
  store : Store
  initiations : List (String × Nat)
  payments : List Payment
  handlers : List (String × Nat)

/-- Nothing has happened yet. -/
def World.empty : World := ⟨.empty, [], [], []⟩

/-- What the environment chooses at a step: whether it fails, and what comes from outside. -/
structure Choice where
  fails : Option CommerceError
  now : Int
  uuid : String
  initial : InitialResponse
  invoice : DecodedInvoice
  payment : PaymentResult
  lookup : Option PaymentSettlement
  delivery : Delivery

/-- A store operation as a step. -/
def World.operate {α : Type} (s : World) (x : Operation α) : Except CommerceError α × World :=
  match x s.store with
  | (r, store) => (r, { s with store })

/-- The payments of a worker for a reservation come to an outcome. -/
def World.resolve (s : World) (w : Nat) (reservationId : String) (outcome : Outcome) : World :=
  { s with payments := s.payments.map (fun p =>
      if p.reservationId = reservationId ∧ p.worker = w then { p with outcome } else p) }

/-- A handler has read a reservation: it is about to release one that no payment was initiated for. -/
def World.handle (s : World) (w : Nat) (reservationId : String) (current : Option Reservation) : World :=
  match current with
  | some r =>
    if ¬ (r.status = .paid ∨ r.status = .finalized ∨ r.status = .paymentInitiated) then
      { s with handlers := s.handlers ++ [(reservationId, w)] }
    else s
  | none => s

/-- A worker is no longer about to release. -/
def World.dismiss (s : World) (w : Nat) : World := { s with handlers := s.handlers.filter (fun h => !decide (h.2 = w)) }

/-- One step of worker `w` that does not fail at once. -/
def World.perform (env : Env) (s : World) (w : Nat) (ch : Choice) : (o : Action) → Except CommerceError o.Result × World
  | .postInitial _ _ _ => (.ok ch.initial, s)
  | .decodeInvoice _ => (.ok ch.invoice, s)
  | .reserve args => s.operate (Commerce.reserve ch.now ch.uuid env.tolerance args)
  | .getReceipt receiptId => s.operate (Commerce.getReceipt env.verifies receiptId)
  | .getReservation reservationId handler =>
    let found := s.store.reservation reservationId
    (.ok found, if handler then s.handle w reservationId found else s)
  | .getAuthorization authorizationId => (.ok (s.store.authorization authorizationId), s)
  | .bindInvoice reservationId invoice => s.operate (Commerce.bindInvoice reservationId invoice)
  | .markPaymentInitiated reservationId =>
    match s.operate (Commerce.markPaymentInitiated reservationId) with
    | (.ok r, s) => (.ok r, { s with initiations := s.initiations ++ [(reservationId, w)] })
    | (.error e, s) => (.error e, s)
  | .payInvoice reservationId _ => (.ok (), { s with payments := s.payments ++ [⟨reservationId, w, .pending⟩] })
  | .awaitPayment reservationId =>
    match ch.payment with
    | .settlement settlement => (.ok settlement, s.resolve w reservationId .settled)
    | .paymentError message => (.error ⟨.paymentFailed, "LND payment failed: " ++ message⟩, s.resolve w reservationId .failed)
    | .unknown e => (.error e, s)
  | .lookupPayment _ => (.ok ch.lookup, s)
  | .markPaid reservationId args => s.operate (Commerce.markPaid reservationId args)
  | .release reservationId => (s.dismiss w).operate (Commerce.release reservationId)
  | .postDelivery _ _ _ => (.ok ch.delivery, s)
  | .finalizePaidCall args => s.operate (Commerce.finalizePaidCall ch.uuid env.verifies args)
  | .create args => s.operate (Commerce.create ch.now ch.uuid args)
  | .revoke authorizationId => s.operate (Commerce.revoke authorizationId)

/-- A step that fails does nothing; `payInvoice` cannot fail, as its failures come back at `awaitPayment`. -/
def World.fail (s : World) (w : Nat) (e : CommerceError) : (o : Action) → Except CommerceError o.Result × World
  | .payInvoice reservationId _ => (.ok (), { s with payments := s.payments ++ [⟨reservationId, w, .pending⟩] })
  | .release _ => (.error e, s.dismiss w)
  | _ => (.error e, s)

/-- One step. -/
def exec (env : Env) (w : Nat) (o : Action) (ch : Choice) (s : World) : Option (Except CommerceError o.Result × World) :=
  some (match ch.fails with
    | some e => s.fail w e o
    | none => s.perform env w ch o)

/-! ## Calls -/

/-- The calls of the service. -/
inductive Call where
  | execute (args : ExecuteArgs)
  | reconcile (reservationId : String)
  | create (args : CreateArgs)
  | revoke (authorizationId : String)

/-- What a call returns. -/
inductive Reply where
  | receipt (receipt : PaymentReceipt) (body : List UInt8)
  | reconciled (receipt : Option PaymentReceipt)
  | authorization (authorization : Authorization)

/-- The program of a call. -/
def Call.program (env : Env) : Call → Program Reply
  | .execute args => do
    let (receipt, body) ← Commerce.execute env args
    pure (.receipt receipt body)
  | .reconcile reservationId => do
    let receipt ← reconcileInitiatedPayment env reservationId
    pure (.reconciled receipt)
  | .create args => do
    let authorization ← step (.create args)
    pure (.authorization authorization)
  | .revoke authorizationId => do
    let authorization ← step (.revoke authorizationId)
    pure (.authorization authorization)

/-- The service: any number of calls, their steps interleaved. A crash ends a handler. -/
abbrev machine (env : Env) : Machine where
  sig := signature
  State := World
  Choice := Choice
  Call := Call
  Reply := Reply
  program := Call.program env
  exec := exec env
  crash w s := s.dismiss w

/-- A program while no other runs: what it returned or raised, and the store it left. -/
def alone {α : Type} (env : Env) (p : Program α) (ch : Nat → Choice) (s : Store) : Option (Except CommerceError α × Store) :=
  (p.run (exec env 0) ch 0 ⟨s, [], [], []⟩).map (fun r => (r.1, r.2.store))

end Commerce

end Archisynapse
