import Archisynapse.Payments.Database

/-!
# What the transaction service calls

The payment tables, the processor and the ledger, and one call to each. The processor is another party: it keeps the charges and
refunds it has made; it answers a request whose idempotency key it knows as it did the first time, and refuses one that has
other parameters; on a new key it refuses, or charges or refunds with a status of its choice, which may change later while it is
not final. It does not compare refunds with charges.

Any call may fail before it is made, or lose its answer.
-/

namespace Archisynapse

namespace Payments

/-! ## The processor -/

/-- The processor's records. -/
structure Processor where
  charges : List Charge
  refunds : List ProcessorRefund
  deriving DecidableEq

/-- How the processor answers a request with a new key. -/
inductive ProcessorAnswer where
  | refuses (message : String)
  | accepts (id : String) (charge : ChargeStatus) (refund : ProcessorRefundStatus)

/-- The processor's answer to a known key with other parameters. -/
def otherParameters : String :=
  "Keys for idempotent requests can only be used with the same parameters they were first used with."

/-- `POST /payment_intents`. An id is given to one charge only. -/
def Processor.charge (p : Processor) (answer : ProcessorAnswer) (req : ChargeRequest) :
    Option (Except String (String × ChargeStatus) × Processor) :=
  match p.charges.find? (fun c => decide (c.request.idempotencyKey = req.idempotencyKey)) with
  | some c => some (if c.request = req then .ok (c.id, c.answered) else .error otherParameters, p)
  | none =>
    match answer with
    | .refuses message => some (.error message, p)
    | .accepts id status _ =>
      if p.charges.any (fun c => decide (c.id = id)) then none
      else some (.ok (id, status), { p with charges := p.charges ++ [⟨id, req, status, status⟩] })

/-- `POST /refunds` -/
def Processor.refund (p : Processor) (answer : ProcessorAnswer) (req : ProcessorRefundRequest) :
    Except String (String × ProcessorRefundStatus) × Processor :=
  match p.refunds.find? (fun r => decide (r.request.idempotencyKey = req.idempotencyKey)) with
  | some r => (if r.request = req then .ok (r.id, r.answered) else .error otherParameters, p)
  | none =>
    match answer with
    | .refuses message => (.error message, p)
    | .accepts id _ status => (.ok (id, status), { p with refunds := p.refunds ++ [⟨id, req, status, status⟩] })

/-- A charge that is not final comes to another status. -/
def Charge.settle (c : Charge) (status : ChargeStatus) : Charge :=
  if c.status = .succeeded ∨ c.status = .failed then c else { c with status }

/-- A refund that is not final comes to another status. -/
def ProcessorRefund.settle (r : ProcessorRefund) (status : ProcessorRefundStatus) : ProcessorRefund :=
  if r.status = .pending ∨ r.status = .requiresAction then { r with status } else r

def Processor.settleCharge (p : Processor) (id : String) (status : ChargeStatus) : Processor :=
  { p with charges := updateKey (·.id) id (·.settle status) p.charges }

def Processor.settleRefund (p : Processor) (id : String) (status : ProcessorRefundStatus) : Processor :=
  { p with refunds := updateKey (·.id) id (·.settle status) p.refunds }

/-! ## Calls -/

/-- The tables, the processor and the ledger. -/
structure World where
  db : Tables
  processor : Processor
  ledger : Ledger.Tables
  deriving DecidableEq

/-- Nothing has happened yet. -/
def World.empty : World := ⟨.empty, ⟨[], []⟩, .empty⟩

/-- One call: a statement, a request to the processor or to the ledger, or an event at the processor. -/
inductive Action where
  | sql (sess : Session) (o : Statement)
  | charge (req : ChargeRequest)
  | refund (req : ProcessorRefundRequest)
  | ledger (asked : String) (r : Ledger.Request)
  | settleCharge (id : String) (status : ChargeStatus)
  | settleRefund (id : String) (status : ProcessorRefundStatus)

/-- What a call answers with. -/
abbrev Action.Result : Action → Type
  | .sql _ o => o.Result
  | .charge _ => String × ChargeStatus
  | .refund _ => String × ProcessorRefundStatus
  | .ledger _ r => r.Result
  | _ => Unit

/-- The calls and their answers. -/
abbrev signature : Signature where
  Op := Action
  Res := Action.Result
  Err := PaymentError

/-- How a call goes. -/
inductive Fault where
  | none | before | after
  deriving DecidableEq

/-- What a call does not take from its arguments: whether it fails, how the processor answers a new key, and how the ledger
serves a request. -/
structure Choice where
  fault : Fault
  answer : ProcessorAnswer
  ledgerEnv : Ledger.Env
  ledgerFails : Nat → Bool

/-- An error of the processor's adapter. -/
def protocolError (message : String) : PaymentError := .named .processorProtocolError message

/-- The error of a call that failed or lost its answer. -/
def Action.lost : Action → PaymentError
  | .sql _ _ => .database .failure
  | .ledger _ _ => .named .typeError "fetch failed"
  | _ => protocolError "processor request failed: fetch failed"

/-- One call that is made and answered. -/
def World.perform (s : World) (ch : Choice) : (o : Action) → Option (Except PaymentError o.Result × World)
  | .sql sess o =>
    match s.db.perform sess o with
    | (r, db) => some (r.mapError .database, { s with db })
  | .charge req =>
    (s.processor.charge ch.answer req).map (fun r => (r.1.mapError protocolError, { s with processor := r.2 }))
  | .refund req =>
    match s.processor.refund ch.answer req with
    | (r, processor) => some (r.mapError protocolError, { s with processor })
  | .ledger asked r =>
    (Ledger.serve ch.ledgerEnv ch.ledgerFails s.ledger r).map (fun a => (a.1.mapError (.ledger asked), { s with ledger := a.2 }))
  | .settleCharge id status => some (.ok (), { s with processor := s.processor.settleCharge id status })
  | .settleRefund id status => some (.ok (), { s with processor := s.processor.settleRefund id status })

/-- One call. -/
def exec (o : Action) (ch : Choice) (s : World) : Option (Except PaymentError o.Result × World) :=
  match ch.fault with
  | .none => s.perform ch o
  | .before => some (.error o.lost, s)
  | .after => (s.perform ch o).map (fun r => (.error o.lost, r.2))

end Payments

end Archisynapse
