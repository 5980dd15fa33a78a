import Archisynapse.Lemmas.Deliveries

/-!
# Deliveries that pass

A delivery that passes is timely and complete, unless its body is JSON that is not an object: then no path is looked for in it
(`delivery_sound_iff`, `empty_body_passes`).
-/

namespace Archisynapse

namespace Contracts

open Commerce (PaymentReceipt)

/-- For every contract, payment receipt and body: a delivery that is reported to have passed is timely and complete, if and only if
the body is not JSON of another kind than an object, or the delivery is not timely. -/
theorem delivery_sound_iff (env : Env) (contract : ServiceContract) (receipt : PaymentReceipt) (body : List UInt8) :
    (Passes env contract receipt body → contract.Timely receipt body ∧ contract.Complete env body) ↔
      ((∀ value, parseBody env body = .ok (some value) → ∃ members, value = .obj members) ∨ ¬ contract.Timely receipt body) := by
  rw [passes_iff]
  constructor
  · intro hsound
    by_cases htimely : contract.Timely receipt body
    · refine Or.inl fun value hvalue => ?_
      by_contra hother
      have hnot : ∀ members, value ≠ .obj members := fun members h => hother ⟨members, h⟩
      obtain ⟨-, members, hmembers, -⟩ := hsound ⟨htimely, Or.inr ⟨value, hvalue, hnot⟩⟩
      rw [hvalue] at hmembers
      exact hnot members (Option.some.inj (Except.ok.inj hmembers))
    · exact Or.inr htimely
  · rintro hcond ⟨htimely, hcomplete | ⟨value, hvalue, hnot⟩⟩
    · exact ⟨htimely, hcomplete⟩
    · rcases hcond with hobject | hlate
      · obtain ⟨members, rfl⟩ := hobject value hvalue
        exact absurd rfl (hnot members)
      · exact absurd htimely hlate

/-! ## A delivery -/

/-- Numbers as they are printed, and bodies that are not too deep. -/
def plainEnv : Env := ⟨id, fun _ => "0.8", fun receipt => receipt.id, fun _ => none⟩

/-- A contract that requires rows and their sources. -/
def rowsContract : ServiceContract where
  id := "svc_rows"
  serviceId := "seo"
  serviceVersion := "1.0.0"
  tenantId := "tenant"
  providerAgentNpub := "npub"
  specialty := "seo"
  endpoint := "https://agent.example/"
  status := "active"
  settlementPolicy := "prepaid_l402"
  maxPriceSats := 10
  responseDeadlineMs := 30000
  deliveryDeadlineMs := 900000
  availabilityTargetBps := 9950
  minQualityScore := 4 / 5
  maxResponseBytes := 1000000
  maxRetries := 0
  validatorRequired := false
  providerSelfVerifyAllowed := false
  refundOnFailedDelivery := true
  requiredDeliverables := ["rows"]
  requiredEvidence := ["sources"]
  expiresAt := none
  version := 1

/-- The receipt of a call that was delivered at once. -/
def rowsReceipt : PaymentReceipt where
  id := "rcpt"
  authorizationId := "auth"
  authorizationVersion := 1
  reservationId := "rsv"
  orchestrationId := "orch"
  idempotencyKey := "key"
  tenantId := "tenant"
  orchestratorId := "orchestrator"
  agentNpub := "npub"
  specialty := "seo"
  endpoint := "https://agent.example/"
  quotedSats := 10
  invoice := ⟨"sha", 10, "hash"⟩
  settlement := ⟨none, none, none, none, 0, none, false⟩
  delivery := ⟨.delivered, some 200, some "application/json", none, 2, 5, none⟩
  totalDebitSats := 10

/-- An empty list is delivered and passes. -/
theorem empty_body_passes : ¬ ∀ (env : Env) (contract : ServiceContract) (receipt : PaymentReceipt) (body : List UInt8),
    Passes env contract receipt body → contract.Timely receipt body ∧ contract.Complete env body := by
  intro h
  have hparsed : parseBody plainEnv [91, 93] = .ok (some (.arr [])) := by rfl
  have hpasses : Passes plainEnv rowsContract rowsReceipt [91, 93] :=
    (passes_iff _ _ _ _).2 ⟨⟨rfl, by decide, by decide⟩, Or.inr ⟨.arr [], hparsed, fun _ h => by cases h⟩⟩
  obtain ⟨-, members, hmembers, -⟩ := h _ _ _ _ hpasses
  rw [hparsed] at hmembers
  cases hmembers

end Contracts

end Archisynapse
