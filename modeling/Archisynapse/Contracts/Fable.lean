import Archisynapse.Base.Json
import Archisynapse.Base.Machine
import Archisynapse.Commerce.Types

/-!
# FABLE receipts

`FableReceiptStore` of fable.py. An issue reads on a connection of its own and inserts in a transaction of its own, so the two are
separate steps, and the table has no unique constraint on what the read goes by. Fresh ids and the clock are choices of the
environment, and any step may fail; of the clock only the text matters, by which rows are ordered.

The world keeps a record that the code has no variable for: the issues that found no receipt and have not come to an end.
-/

namespace Archisynapse

namespace Fable

open Commerce (CommerceError ErrorCode)

/-! ## Receipts -/

/-- What an issue goes by to find a receipt. -/
structure Key where
  receiptType : String
  contractId : Option String
  executionId : String
  deriving DecidableEq

/-- The arguments of `issue`. -/
structure IssueArgs where
  key : Key
  authorizationId : Option String
  paymentReceiptId : Option String
  body : Json

/-- A receipt as it is signed. -/
structure Payload where
  id : String
  key : Key
  authorizationId : Option String
  paymentReceiptId : Option String
  body : Json
  createdAt : String

/-- A receipt as it is stored and returned. -/
structure FableReceipt extends Payload where
  receiptSha256 : String
  signature : String

/-- `sign_payload`: the digest of a payload and its signature. -/
abbrev Signer : Type := Payload → String × String

/-- `verify` -/
def Signer.verify (sign : Signer) (receipt : FableReceipt) : Bool :=
  decide (sign receipt.toPayload = (receipt.receiptSha256, receipt.signature))

/-- A payload with its digest and signature. -/
def Signer.full (sign : Signer) (payload : Payload) : FableReceipt :=
  { payload with receiptSha256 := (sign payload).1, signature := (sign payload).2 }

/-- `canonical_json` -/
def canonicalJson (body : Json) : String := body.dumps .compact

/-! ## Steps -/

/-- The read and the insert of an issue, and the read of `find_delivery_verdict`. -/
inductive Action where
  | find (key : Key)
  | insert (args : IssueArgs)
  | findDeliveryVerdict (contractId paymentReceiptId : String)

abbrev Action.Result : Action → Type
  | .find _ => Option FableReceipt
  | .insert _ => FableReceipt
  | .findDeliveryVerdict _ _ => Option FableReceipt

/-- The steps and their answers. -/
abbrev signature : Signature where
  Op := Action
  Res := Action.Result
  Err := CommerceError

abbrev Program (α : Type) : Type := Prog signature α

/-- Make a step. -/
def step (o : Action) : Program o.Result := Prog.perform (S := signature) o

/-- Raise an exception. -/
def fault {α : Type} (code : ErrorCode) (message : String) : Program α := Prog.throw (S := signature) ⟨code, message⟩

def issue (sign : Signer) (args : IssueArgs) : Program FableReceipt := do
  match ← step (.find args.key) with
  | some payload =>
    if sign.verify payload = false then fault .receiptIntegrityError "stored FABLE receipt failed signature verification"
    else if (payload.authorizationId, payload.paymentReceiptId, canonicalJson payload.body) ≠
        (args.authorizationId, args.paymentReceiptId, canonicalJson args.body) then
      fault .idempotencyConflict "FABLE execution id already exists with different receipt content"
    else pure payload
  | none => step (.insert args)

def findDeliveryVerdict (sign : Signer) (contractId paymentReceiptId : String) : Program (Option FableReceipt) := do
  match ← step (.findDeliveryVerdict contractId paymentReceiptId) with
  | some payload =>
    if sign.verify payload = false then
      fault .receiptIntegrityError "FABLE delivery receipt failed signature verification"
    else pure (some payload)
  | none => pure none

/-! ## The table -/

/-- The table `fable_receipts`, and the issues that found no receipt and have not come to an end. -/
structure World where
  rows : List FableReceipt
  issuing : List (Nat × Key)

/-- The empty table. -/
def World.empty : World := ⟨[], []⟩

/-- The first of some rows, by the time they were created at. -/
def earliest (rows : List FableReceipt) : Option FableReceipt :=
  (rows.insertionSort (fun a b => a.createdAt ≤ b.createdAt)).head?

/-- The last of some rows, by the time they were created at. -/
def latest (rows : List FableReceipt) : Option FableReceipt :=
  (rows.insertionSort (fun a b => b.createdAt ≤ a.createdAt)).head?

/-- The receipt an issue finds. -/
def World.find (s : World) (key : Key) : Option FableReceipt := earliest (s.rows.filter (fun r => decide (r.key = key)))

/-- The delivery verdict of a payment receipt under a contract. -/
def World.deliveryVerdict (s : World) (contractId paymentReceiptId : String) : Option FableReceipt :=
  latest (s.rows.filter (fun r => decide (r.key.receiptType = "delivery_verdict" ∧ r.key.contractId = some contractId ∧
    r.paymentReceiptId = some paymentReceiptId)))

/-- A worker's issue has come to an end. -/
def World.settle (s : World) (w : Nat) : World := { s with issuing := s.issuing.filter (fun p => !decide (p.1 = w)) }

/-- What the environment chooses at a step: whether it fails, a fresh id and the time. -/
structure Choice where
  fails : Option CommerceError
  uuid : String
  now : String

/-- The receipt of an issue. -/
def IssueArgs.receipt (args : IssueArgs) (sign : Signer) (ch : Choice) : FableReceipt :=
  sign.full
    { id := "fable_" ++ ch.uuid
      key := args.key
      authorizationId := args.authorizationId
      paymentReceiptId := args.paymentReceiptId
      body := args.body
      createdAt := ch.now }

/-- The insert of a receipt: its id and its digest are not taken. -/
def World.insert (s : World) (receipt : FableReceipt) : Except CommerceError FableReceipt × World :=
  if s.rows.any (fun r => decide (r.id = receipt.id)) then
    (.error ⟨.integrityError, "UNIQUE constraint failed: fable_receipts.id"⟩, s)
  else if s.rows.any (fun r => decide (r.receiptSha256 = receipt.receiptSha256)) then
    (.error ⟨.integrityError, "UNIQUE constraint failed: fable_receipts.receipt_sha256"⟩, s)
  else (.ok receipt, { s with rows := s.rows ++ [receipt] })

/-- One step of worker `w`. -/
def exec (sign : Signer) (w : Nat) (o : Action) (ch : Choice) (s : World) : Option (Except CommerceError o.Result × World) :=
  some (match o, ch.fails with
    | .find _, some e => (.error e, s)
    | .find key, none =>
      let found := s.find key
      (.ok found, if found.isNone then { s with issuing := s.issuing ++ [(w, key)] } else s)
    | .insert _, some e => (.error e, s.settle w)
    | .insert args, none => (s.settle w).insert (args.receipt sign ch)
    | .findDeliveryVerdict _ _, some e => (.error e, s)
    | .findDeliveryVerdict contractId paymentReceiptId, none => (.ok (s.deliveryVerdict contractId paymentReceiptId), s))

/-- Any number of issues, their steps interleaved. A crash ends an issue. -/
abbrev machine (sign : Signer) : Machine where
  sig := signature
  State := World
  Choice := Choice
  Call := IssueArgs
  Reply := FableReceipt
  program := issue sign
  exec := exec sign
  crash w s := s.settle w

end Fable

end Archisynapse
