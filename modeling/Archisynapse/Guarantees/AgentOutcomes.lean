import Archisynapse.Lemmas.AgentOutcomes

/-!
# Who validates contracted work

A receipt that was judged under a contract may have its outcome from the provider only where the contract allows it: so it is in
runs whose requests name their contract (`outcomes_independent`), and only in those, as a request without one is not checked at
all (`provider_judged_itself`).
-/

namespace Archisynapse

namespace AgentApi

/-- In every run of requests to record outcomes, from any state that is so and whatever fails: no outcome of a receipt that was
judged under a contract is validated by its provider, unless the contract allows it. A request by such a provider must name a
contract, and one the receipt was judged under must not allow it either. -/
theorem outcomes_independent (env : Env) (s : World) (hs : Independent s) (cfg : (machine env).Config)
    (hrun : (machine env).Run (attributed env) (.init (machine env) s) cfg) : Independent cfg.state :=
  (Machine.Outline.holds_run (independence_sound env s) ⟨s.sameVerdicts_refl, hs⟩ hrun).inv.2

/-! ## Runs

An authorization, a contract that leaves the validation to another, and a call under it that is paid for, delivered and judged. -/

/-- The environment of the runs: no price tolerance, and the hashes of what the runs hash. -/
def demoEnv : Env :=
  { commerce :=
      { tolerance := some
        maxAdvertised := some
        preimageHash := fun _ => some "hash"
        sha256 := fun _ => "digest"
        bodySha256 := fun _ => "body digest"
        lower := fun text => text
        verifies := fun _ => true
        maxResponseBytes := 1000000 }
    sign := fun payload => (payload.id, "signature")
    contracts :=
      { printed := fun text => text
        printFloat := fun _ => "0.8"
        receiptSha256 := fun receipt => receipt.id
        loadsRaises := fun _ => none }
    isoTime := fun t => if t = 1000 then "2026-01-01T00:16:40+00:00" else "1970-01-01T00:00:00+00:00" }

/-- A delivery with what the contract requires. -/
def demoBody : List UInt8 := "\x7b\"rows\":[1],\"evidence\":\x7b\"sources\":\"web\"\x7d\x7d".toUTF8.toList

/-- What the environment answers at each step, with a fresh id. -/
def demoChoice (uuid : String) : Choice :=
  { commerce :=
      { fails := none
        now := 0
        uuid
        initial := ⟨402, .ok ("macaroon", "lnbc100n1")⟩
        invoice := ⟨"sha", 10, "hash"⟩
        payment := .settlement ⟨"lnd", "payment", "hash", "preimage", 0, "2026-01-01T00:00:00+00:00"⟩
        lookup := none
        delivery := ⟨5, .ok ⟨200, some "application/json", demoBody⟩⟩ }
    fable := ⟨none, uuid, "2026-01-01T00:00:00+00:00"⟩
    raises := fun _ => none }

/-- An authorization of 100 satoshis. -/
def demoAuthorization : Request :=
  .createAuthorization ⟨"tenant", "orchestrator", 100, 50, 5, some 1000, 0, [], [], none⟩

/-- A contract whose deliveries another validates. -/
def demoContract : Request :=
  .createServiceContract
    { serviceId := "seo"
      serviceVersion := "1.0.0"
      tenantId := "tenant"
      providerAgentNpub := "npub"
      specialty := "translation"
      endpoint := "https://agent.example/"
      settlementPolicy := "prepaid_l402"
      maxPriceSats := 10
      responseDeadlineMs := 30000
      deliveryDeadlineMs := 900000
      availabilityTargetBps := 9950
      minQualityScore := 4 / 5
      maxResponseBytes := 1000000
      requiredDeliverables := ["rows"]
      requiredEvidence := ["evidence.sources"]
      maxRetries := 0
      validatorRequired := true
      providerSelfVerifyAllowed := false
      refundOnFailedDelivery := true
      expiresAt := some none }

/-- A call under it. -/
def demoRequest : ContractedAgentCallRequest :=
  { authorizationId := "auth"
    idempotencyKey := "key 0001"
    orchestrationId := "orchestration"
    agentNpub := "npub"
    specialty := "translation"
    endpoint := "https://agent.example/"
    quotedSats := 10
    query := "hello"
    context := none
    serviceContractId := "svc_c" }

/-- The call is paid for, delivered and judged. -/
def demoEvents : List (machine demoEnv).Event :=
  [.start demoAuthorization, .call 0 (demoChoice "auth"), .start demoContract] ++
  List.replicate 3 (.call 1 (demoChoice "c")) ++ [.start (.executeContractedAgentCall demoRequest)] ++
  List.replicate 15 (.call 2 (demoChoice "r")) ++ List.replicate 2 (.call 2 (demoChoice "v"))


/-- The state after it. -/
def demoJudged : World :=
  ((Machine.Config.init (machine demoEnv) .empty).replay (fun _ _ => true) demoEvents).elim .empty (·.state)

/-- A state that requests, in any order and interleaved, can come to. -/
def Reached (env : Env) (s : World) : Prop :=
  ∃ cfg, (machine env).Run (.any (machine env)) (.init (machine env) .empty) cfg ∧ cfg.state = s

theorem demoJudged_reached : Reached demoEnv demoJudged := by
  have hsome : ((Machine.Config.init (machine demoEnv) .empty).replay (fun _ _ => true) demoEvents).isSome = true := by
    decide +kernel
  obtain ⟨cfg, hcfg⟩ := Option.isSome_iff_exists.1 hsome
  refine ⟨cfg, Machine.Config.replay_run (fun cfg e _ => Machine.Cond.allows_any cfg e) hcfg, ?_⟩
  unfold demoJudged
  rw [hcfg]
  rfl

/-- Nothing is validated yet. -/
theorem demoJudged_independent : Independent demoJudged := by
  intro o ho
  rw [show demoJudged.outcomes = [] by decide +kernel] at ho
  cases ho

/-- The outcome that a validator reports, without a contract. -/
def demoOutcome (validatorId : String) : OutcomeRequest :=
  { validatorId
    success := true
    qualityScore := 1
    latencyMs := 5
    evidenceSha256 := "0000000000000000000000000000000000000000000000000000000000000000"
    serviceContractId := none }

/-- `attributed`, computed: the validator is the provider of no contract. -/
def attributedCheck (cfg : (machine demoEnv).Config) : (machine demoEnv).Event → Bool
  | .start (.recordOutcome _ request) => cfg.state.contracts.all (fun c => decide (request.validatorId ≠ c.providerAgentNpub))
  | .start _ => false
  | _ => true

theorem attributedCheck_allows (cfg : (machine demoEnv).Config) (e : (machine demoEnv).Event) (h : attributedCheck cfg e = true) :
    (attributed demoEnv).Allows cfg e := by
  cases e with
  | start c =>
    cases c with
    | recordOutcome receiptId request =>
      refine ⟨receiptId, request, rfl, fun contract hj _ hv => ?_⟩
      exact absurd hv (of_decide_eq_true (List.all_eq_true.1 h contract hj.1))
    | _ => exact Bool.noConfusion h
  | call w ch => exact fun _ _ _ _ _ _ => trivial
  | crash w => trivial

/-- The theorem at a run: another than the provider validates. -/
theorem outcomes_independent_play : ∃ cfg,
    (machine demoEnv).Run (attributed demoEnv) (.init (machine demoEnv) demoJudged) cfg ∧
    cfg.state.outcomes.map (·.validatorId) = ["validator"] ∧ Independent cfg.state := by
  obtain ⟨cfg, hrun, htest⟩ := Machine.Config.replay_any attributedCheck_allows
    [.start (.recordOutcome "r" (demoOutcome "validator")), .call 0 (demoChoice "")] (.init (machine demoEnv) demoJudged)
    (fun cfg => decide (cfg.state.outcomes.map (·.validatorId) = ["validator"]))
    (show ((Machine.Config.init (machine demoEnv) demoJudged).replay attributedCheck _).any _ = true by decide +kernel)
  exact ⟨cfg, hrun, of_decide_eq_true htest, outcomes_independent demoEnv demoJudged demoJudged_independent cfg hrun⟩

/-- Only outcomes are recorded. -/
def outcomesOnly (env : Env) : (machine env).Cond where
  start _ c := ∃ receiptId request, c = .recordOutcome receiptId request
  step _ _ _ := True

/-- `outcomesOnly`, computed. -/
def outcomesOnlyCheck (_ : (machine demoEnv).Config) : (machine demoEnv).Event → Bool
  | .start (.recordOutcome _ _) => true
  | .start _ => false
  | _ => true

theorem outcomesOnlyCheck_allows (cfg : (machine demoEnv).Config) (e : (machine demoEnv).Event)
    (h : outcomesOnlyCheck cfg e = true) : (outcomesOnly demoEnv).Allows cfg e := by
  cases e with
  | start c =>
    cases c with
    | recordOutcome receiptId request => exact ⟨receiptId, request, rfl⟩
    | _ => exact Bool.noConfusion h
  | call w ch => exact fun _ _ _ _ _ _ => trivial
  | crash w => trivial

/-- The rows that speak against the run, computed. -/
def selfJudgedCheck (s : World) : Bool :=
  s.outcomes.any (fun o => s.contracts.any (fun c => decide (c.providerSelfVerifyAllowed = false ∧
    o.validatorId = c.providerAgentNpub) && s.fable.rows.any (fun v => decide (v.key.receiptType = "delivery_verdict" ∧
      v.key.contractId = some c.id ∧ v.paymentReceiptId = some o.receiptId))))

theorem not_independent_of_check {s : World} (h : selfJudgedCheck s = true) : ¬ Independent s := by
  obtain ⟨o, ho, h⟩ := List.any_eq_true.1 h
  obtain ⟨c, hc, h⟩ := List.any_eq_true.1 h
  obtain ⟨hself, h⟩ := Bool.and_eq_true_iff.1 h
  obtain ⟨v, hv, h⟩ := List.any_eq_true.1 h
  obtain ⟨hself, hvalidator⟩ := of_decide_eq_true hself
  exact fun hi => hi o ho c ⟨hc, v, hv, of_decide_eq_true h⟩ hself hvalidator

/-- A provider that names no contract validates its own work. -/
theorem provider_judged_itself : ¬ ∀ env s cfg, Reached env s → Independent s →
    (machine env).Run (outcomesOnly env) (.init (machine env) s) cfg → Independent cfg.state := by
  intro h
  obtain ⟨cfg, hrun, htest⟩ := Machine.Config.replay_any outcomesOnlyCheck_allows
    [.start (.recordOutcome "r" (demoOutcome "npub")), .call 0 (demoChoice "")] (.init (machine demoEnv) demoJudged)
    (fun cfg => selfJudgedCheck cfg.state)
    (show ((Machine.Config.init (machine demoEnv) demoJudged).replay outcomesOnlyCheck _).any _ = true by decide +kernel)
  exact not_independent_of_check htest (h demoEnv demoJudged cfg demoJudged_reached demoJudged_independent hrun)

end AgentApi

end Archisynapse
