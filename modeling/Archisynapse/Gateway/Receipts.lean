import Archisynapse.Gateway.Payments
import Archisynapse.ReceiptProof.KeyRing

/-!
# Receipts as JSON

The JSON of a receipt (`model_dump`), the payload that is stored of a signed one, and `GET /v1/receipts/{event_id}`, which makes a
`UnifiedReceipt` of the stored payload: members that are no fields of it are ignored, and `_proof` is none. How a float is written is
a parameter.
-/

namespace Archisynapse

namespace Gateway

/-! ## JSON -/

mutual

/-- A value, its numbers written as floats. -/
def Json.emit (floatText : ℚ → String) : Json → Archisynapse.Json
  | .null => .null
  | .bool b => .bool b
  | .num value => .number (floatText value)
  | .str text => .str text
  | .arr items => .arr (Json.emitItems floatText items)
  | .obj fields => .obj (Json.emitFields floatText fields)

/-- The values of a list. -/
def Json.emitItems (floatText : ℚ → String) : List Json → List Archisynapse.Json
  | [] => []
  | item :: rest => item.emit floatText :: Json.emitItems floatText rest

/-- The members of a dictionary. -/
def Json.emitFields (floatText : ℚ → String) : List (String × Json) → List (String × Archisynapse.Json)
  | [] => []
  | (name, value) :: rest => (name, value.emit floatText) :: Json.emitFields floatText rest

end

/-- An optional text. -/
def emitText (text : Option String) : Archisynapse.Json := (text.map .str).getD .null

/-- The text of a status. -/
def EventStatus.text : EventStatus → String
  | .pending => "pending"
  | .processing => "processing"
  | .completed => "completed"
  | .partially => "partial"
  | .failed => "failed"
  | .blocked => "blocked"
  | .review => "review"

/-- `receipt.model_dump(mode="json")`, and what a response of the model `UnifiedReceipt` emits -/
def UnifiedReceipt.modelDump (floatText : ℚ → String) (r : UnifiedReceipt) : ReceiptProof.Members :=
  [("event_id", .str r.eventId), ("correlation_id", .str r.correlationId), ("merchant_id", .str r.merchantId),
   ("customer_id", .str r.customerId), ("economic_truth_action_id", .null),
   ("economic_truth_authorization_receipt_id", .null), ("transaction_id", emitText r.transactionId),
   ("amount", .number (floatText r.amount)), ("fee_amount", .number (floatText r.feeAmount)),
   ("currency", .str r.currency), ("status", .str r.status.text), ("fraud_decision", emitText r.fraudDecision),
   ("fraud_score", ((r.fraudScore.map fun score => .number (floatText score)).getD .null)),
   ("fraud_reasons", .arr (r.fraudReasons.map .str)), ("fraud_error", emitText r.fraudError),
   ("transaction_error", emitText r.transactionError), ("ledger_transaction_id", emitText r.ledgerTransactionId),
   ("ledger_entries", .arr (Json.emitItems floatText r.ledgerEntries)), ("ledger_error", emitText r.ledgerError),
   ("analytics_recorded", .bool r.analyticsRecorded), ("analytics_transaction_id", emitText r.analyticsTransactionId),
   ("analytics_error", emitText r.analyticsError), ("occurred_at", .str r.occurredAt), ("processed_at", .null),
   ("idempotency_key", .str r.idempotencyKey), ("error", emitText r.error)]

/-! ## Signing -/

/-- The proof of a receipt, as it is stored. -/
def ReceiptProof.ofProof (p : Archisynapse.ReceiptProof.Proof) : ReceiptProof :=
  ⟨p.algorithm, p.keyId, p.payloadSha256, p.signatureB64, p.publicKeyB64⟩

/-- The proof of a stored payload. -/
def ReceiptProof.toProof (p : ReceiptProof) : Archisynapse.ReceiptProof.Proof :=
  ⟨p.algorithm, p.keyId, p.payloadSha256, p.signatureB64, p.publicKeyB64⟩

/-- What a signer signs a receipt with. -/
def signWith {library : Archisynapse.ReceiptProof.Env} (floatText : ℚ → String)
    (signer : Archisynapse.ReceiptProof.ReceiptSigner library) (receipt : UnifiedReceipt) : ReceiptProof :=
  .ofProof (signer.sign (receipt.modelDump floatText))

/-- The payload as it is handed to the store: the receipt and, when there is one, `_proof`. -/
def StoredPayload.members (floatText : ℚ → String) (payload : StoredPayload) : Archisynapse.ReceiptProof.Members :=
  payload.receipt.modelDump floatText ++ (payload.proof.map fun p => ("_proof", p.toProof.asDict)).toList

/-! ## The route -/

/-- `GET /v1/receipts/{event_id}` -/
def getReceiptRoute (d : Tables) (merchantId eventId : String) : Except GatewayError UnifiedReceipt :=
  match d.getReceipt merchantId eventId with
  | none => .error (.http 404 "receipt not found")
  | some payload => .ok payload.receipt

end Gateway

end Archisynapse
