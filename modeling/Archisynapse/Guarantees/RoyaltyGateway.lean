import Archisynapse.Lemmas.RoyaltyGatewayDecision
import Archisynapse.Lemmas.RoyaltyGatewayErrors
import Archisynapse.Lemmas.RoyaltyGatewaySignatures

/-!
# What the royalty receipt loop guarantees

A request reaches the work of ingest only with its tenant's token, a signature by its tenant's key, a valid event and a recent time;
one that is refused for these is recorded, and writes nothing else, exactly when the texts of the refusal fit (`ingest_gate_iff`). Its verification raises nothing but documented rejections exactly when its body
can be loaded and is an object, its refusal fits, and the time of a verified event has a time zone (`verify_fails_cleanly_iff`).
Allow is asked for only after the Lyrica service has vouched for the ownership and the fraud service has cleared the payout, in the
same request (`payout_needs_proof`).

Every receipt is signed as it is built. In a run in which no release or reversal adds the economic truth of the event's first
receipt to its own, every receipt stored or returned verifies (`receipts_verify`); a release that does leaves and returns one that
does not (`released_receipt_fails`).
-/

namespace Archisynapse

namespace RoyaltyGateway

/-! ## Requests that are run -/

/-- A transaction service that answers as the environment says. -/
def toldService : TransactionService := ⟨Unit, ServiceResponse, fun _ response s => (.ok response, s)⟩

/-- A play of one dollar, authorized by a user. -/
def playEvent : RoyaltyObligationCreated where
  eventId := "event-1"
  occurredAt := "2026-01-01T00:00:00Z"
  correlationId := "corr-1"
  idempotencyKey := "key-1"
  tenantId := "lyrica"
  trackId := "track-1"
  dnaTag := "dna-1"
  soulprintHash := "soulprint-1"
  proofId := "vics-1"
  creatorId := "creator-1"
  splits := [⟨"creator-1", 10000⟩]
  triggerKind := "play"
  actorId := "user-1"
  currency := "USD"
  value := 10000
  economicTruth := some ⟨"1", "action-1", "authorization-1", none, "user-1"⟩
  splits_sum_to_10000 := by decide

/-- A loop whose tenant has one event to send, and whose signer puts its texts into its signatures. -/
def playEnv : Env where
  enabled := true
  fixtures := false
  vicsEnabled := true
  vicsUrl := "https://lyrica/verify"
  vicsToken := "token"
  loads := fun _ => .value (.obj [("tenant_id", .str "lyrica")])
  modelValidate := fun _ => .ok playEvent
  fromIsoFormat := fun _ => some ⟨0, true⟩
  requestHash := fun _ => "hash-1"
  argon2Verify := fun apiKeyHash token => decide (apiKeyHash = token)
  ed25519Verify := fun publicKeyB64 signature _ => decide (publicKeyB64 = signature)
  isoformat := fun _ => "2026-01-01T00:00:00+00:00"
  number := fun _ => "0.1"
  hundredth := fun _ => .ok (1 / 10)
  str := fun _ => "None"
  sign := fun payload => ⟨"ed25519", "arch-rcpt-k1", payload⟩

/-- The request of the play. -/
def playRequest : IngestRequest := ⟨.empty, some "corr-1", some "key-lyrica", some "ed25519=signed", some "Bearer api-key"⟩

/-- The keys of the tenant. -/
def playGate : Gate := ⟨[], [⟨"lyrica", "key-lyrica", "signed", false⟩], [⟨"lyrica", "api-key"⟩]⟩

/-- What the Lyrica service says of the play. -/
def playProof : List (String × Json) :=
  [("verified", .bool true), ("track_id", .str "track-1"), ("dna_tag", .str "dna-1"), ("soulprint_hash", .str "soulprint-1"),
   ("vics_proof_id", .str "vics-1"), ("creator_id", .str "creator-1")]

/-- The obligation of the play. -/
def playObligation (status : Royalty.RoyaltyStatus) : Royalty.RoyaltyObligation :=
  ⟨7, "lyrica", "event-1", "corr-1", "key-1", "lyrica", status, 10000, "USD", [⟨"creator-1", 10000⟩], "allow", 1000, [], none, []⟩

/-- How a call goes: the others answer, and the transaction service with an obligation in a status. -/
def goes (status : Royalty.RoyaltyStatus) : Choice toldService where
  writes := []
  fault := .none
  now := 0
  hex := ⟨"0123456789abcdef0123", by decide, by decide⟩
  vics := .answered 200 (.value (.obj playProof))
  risk := .answered 200 (.value (.obj [("decision", .str "release_payout"), ("risk_score", .number "10")]))
  service := ⟨200, "", .ok (playObligation status)⟩

/-! ## The gate -/

/-- The play's request without a token, under a correlation id. -/
def strangerRequest (correlationId : String) : IngestRequest := { playRequest with authorization := none, correlationId := some correlationId }

theorem stranger_refused (correlationId : String) :
    Refused playEnv playGate 0 (strangerRequest correlationId) "invalid_tenant_auth" := by
  refine .token [("tenant_id", .str "lyrica")] "lyrica" ⟨rfl, by decide⟩ ?_
  rintro ⟨token, apiKeyHash, htoken, -, -⟩
  exact absurd htoken (by simp [strangerRequest, IngestRequest.bearerToken, startsWith])

theorem stranger_recordable : Recordable playEnv (strangerRequest "corr-1") := by
  refine ⟨⟨some "corr-1", by rfl⟩, ⟨some "key-lyrica", by rfl⟩, fun members tenantId _ htoken => ?_⟩
  exact absurd (by simp [strangerRequest, IngestRequest.bearerToken, startsWith]) htoken

/-- A loop that is sent a list. -/
def listEnv : Env := { playEnv with loads := fun _ => .value (.arr []) }

/-- Where the test fixtures are disabled, in every run: an obligation is asked for with allow only after, in the same request, the
Lyrica service answered with status 200 and a payload that is verified, not revoked, bound to the event and not expired, and the
fraud service answered with status 200 and a decision that is mapped to allow; where the Lyrica service did not, it is asked for
with block. -/
theorem payout_needs_proof (S : TransactionService) (env : Env) (hfixtures : env.fixtures = false) (s : State S)
    (cfg : (machine S env).recorded.Config) (hrun : (machine S env).recorded.Run (.any _) (.init _ (s, [])) cfg)
    (before after : List (machine S env).Record) (r : (machine S env).Record) (hlog : cfg.state.2 = before ++ r :: after)
    (req : CreateRequest) (hop : r.op = .service (.createObligation req)) :
    (req.decision.outcome = .allow →
      Vouched env req.event (Machine.own r.worker before) ∧ Cleared req.organizationId req.event (Machine.own r.worker before)) ∧
    (¬ Vouched env req.event (Machine.own r.worker before) → req.decision.outcome = .block) := by
  have hguard := Machine.recorded_guarded (program_guarded hfixtures) hrun before r after hlog
  rw [hop] at hguard
  obtain ⟨hallow, hvouched⟩ : Rests env req.organizationId req.event req.decision (Machine.own r.worker before) := hguard
  refine ⟨fun ho => ⟨?_, hallow ho⟩, fun hnot => ?_⟩
  · rcases hvouched with h | ⟨hblock, -⟩
    · exact h
    · rw [ho] at hblock
      cases hblock
  · rcases hvouched with h | ⟨hblock, -⟩
    · exact absurd h hnot
    · exact hblock

/-- An ingest up to its request for an obligation: the token, the key, the clock, the claim, the proof, the risk and the request. -/
def playEvents : List (machine toldService playEnv).recorded.Event :=
  [.start (.ingest playRequest)] ++ List.replicate 7 (.call 0 (goes .posted))

/-- A call asks for an obligation with allow. -/
def asksAllow (r : (machine toldService playEnv).Record) : Bool :=
  match r.op with
  | .service (.createObligation req) => decide (req.decision.outcome = .allow)
  | _ => false

/-- The theorem at a play: allow is asked for, after both proofs. -/
theorem payout_needs_proof_play : ∃ cfg before r after req,
    (machine toldService playEnv).recorded.Run (.any _) (.init _ (⟨.empty, playGate, ()⟩, [])) cfg ∧
    cfg.state.2 = before ++ r :: after ∧ r.op = .service (.createObligation req) ∧ req.decision.outcome = .allow ∧
    Vouched playEnv req.event (Machine.own r.worker before) ∧
    Cleared req.organizationId req.event (Machine.own r.worker before) := by
  obtain ⟨cfg, hrun, htest⟩ := Machine.Config.replay_any (fun cfg e _ => Machine.Cond.allows_any cfg e) playEvents
    (.init (machine toldService playEnv).recorded (⟨.empty, playGate, ()⟩, [])) (fun cfg => cfg.state.2.any asksAllow)
    (show ((Machine.Config.init (machine toldService playEnv).recorded (⟨.empty, playGate, ()⟩, [])).replay
      (fun _ _ => true) playEvents).any _ = true by decide +kernel)
  obtain ⟨r, hr, hasks⟩ := List.any_eq_true.1 htest
  obtain ⟨before, after, hlog⟩ := List.append_of_mem hr
  unfold asksAllow at hasks
  split at hasks
  · rename_i req hop
    have hallow := of_decide_eq_true hasks
    obtain ⟨hproven, -⟩ := payout_needs_proof toldService playEnv rfl _ cfg hrun before after r hlog req hop
    exact ⟨cfg, before, r, after, req, hrun, hlog, hop, hallow, hproven hallow⟩
  · cases hasks

/-! ## Signatures -/

/-- With a correct signer, in every run in which no release and no reversal adds an economic truth to the receipt it has signed:
every stored receipt verifies, and so does every receipt a request is answered with. -/
theorem receipts_verify (S : TransactionService) (env : Env) (verify : String → Signature → Bool) (hsign : env.SignsWith verify)
    (gate : Gate) (service : S.State) (cfg : (machine S env).Config)
    (hrun : (machine S env).Run (undecorated S env) (.init _ ⟨.empty, gate, service⟩) cfg) :
    (∀ r ∈ cfg.state.tables.receipts, r.payload.Verifies env verify) ∧
    ∀ (w : (machine S env).Worker) (reply : Reply) (s : State S),
      cfg.Ends (undecorated S env) w (.ok reply) s → reply.receipt.Verifies env verify := by
  have hsound := signatures_sound S hsign
  have hinit : (signatures S env verify).inv (⟨.empty, gate, service⟩ : State S) := fun r hr => by cases hr
  refine ⟨Machine.Outline.run_inv hsound hinit hrun, fun w reply s h => ?_⟩
  exact (Machine.Outline.ends hsound hinit hrun h).2 reply rfl

/-- A signature verifies on the text it holds. -/
def playVerify (payload : String) (signature : Signature) : Bool := decide (signature.value = payload)

theorem playEnv_signs : playEnv.SignsWith playVerify := fun _ => decide_eq_true rfl

/-- The machine of these runs. -/
abbrev play : Machine := machine toldService playEnv

/-- An ingest that is held, and a release of its event. -/
def heldEvents : List play.Event := [.start (.ingest playRequest)] ++ List.replicate 10 (.call 0 (goes .held))

def releasedEvents : List play.Event :=
  heldEvents ++ [.start (.release "event-1" (some "lyrica"))] ++ List.replicate 6 (.call 1 (goes .posted))

/-- The condition of a run, computed. -/
def undecoratedCheck (cfg : play.Config) : play.Event → Bool
  | .call w _ => cfg.live.all (fun x => !decide (x.id = w) ||
      match x.rest with
      | .call (.saveRoyaltyReceipt receipt) _ =>
        receipt.truth.isNone || decide (receipt.body.receiptId = ingestReceiptId (goes .held).hex)
      | _ => true)
  | _ => true

theorem undecoratedCheck_allows (cfg : play.Config) (e : play.Event) (h : undecoratedCheck cfg e = true) :
    (undecorated toldService playEnv).Allows cfg e := by
  cases e with
  | start c => exact trivial
  | crash w => exact trivial
  | call w ch =>
    intro x hx hid o k hk hdecorates
    have hcheck := List.all_eq_true.1 h x hx
    rw [hk, hid, decide_eq_true rfl] at hcheck
    cases o with
    | saveRoyaltyReceipt receipt =>
      obtain ⟨htruth, hne⟩ := hdecorates
      simp only [Bool.not_true, Bool.false_or, Bool.or_eq_true, decide_eq_true_eq] at hcheck
      rcases hcheck with hnone | hid
      · rw [← Option.not_isSome, htruth] at hnone
        cases hnone
      · exact hne _ hid
    | _ => exact hdecorates

/-- The theorem at an ingest that is held: its receipt is stored, and verifies. -/
theorem receipts_verify_held : ∃ cfg, play.Run (undecorated toldService playEnv) (.init _ ⟨.empty, playGate, ()⟩) cfg ∧
    ∃ r ∈ cfg.state.tables.receipts, r.payload.Verifies playEnv playVerify := by
  obtain ⟨cfg, hrun, htest⟩ := Machine.Config.replay_any undecoratedCheck_allows heldEvents
    (.init play ⟨.empty, playGate, ()⟩) (fun cfg => cfg.state.tables.receipts.any (fun _ => true))
    (show ((Machine.Config.init play ⟨.empty, playGate, ()⟩).replay undecoratedCheck heldEvents).any _ = true by decide +kernel)
  obtain ⟨r, hr, -⟩ := List.any_eq_true.1 htest
  exact ⟨cfg, hrun, r, hr, (receipts_verify toldService playEnv playVerify playEnv_signs playGate () cfg hrun).1 r hr⟩

/-- After a release of an event with an economic truth, a stored receipt does not verify. -/
theorem released_receipt_fails : ¬ ∀ (S : TransactionService) (env : Env) (verify : String → Signature → Bool),
    env.SignsWith verify → ∀ (gate : Gate) (service : S.State) (cfg : (machine S env).Config),
      (machine S env).Run (.any _) (.init _ ⟨.empty, gate, service⟩) cfg →
      ∀ r ∈ cfg.state.tables.receipts, r.payload.Verifies env verify := by
  intro h
  obtain ⟨cfg, hrun, htest⟩ := Machine.Config.replay_any (fun cfg e _ => Machine.Cond.allows_any cfg e) releasedEvents
    (.init play ⟨.empty, playGate, ()⟩)
    (fun cfg => cfg.state.tables.receipts.any (fun r => r.payload.truth.isSome &&
      decide (r.payload.body.receiptId = releaseReceiptId "event-1")))
    (show ((Machine.Config.init play ⟨.empty, playGate, ()⟩).replay (fun _ _ => true) releasedEvents).any _ = true by
      decide +kernel)
  obtain ⟨r, hr, hfound⟩ := List.any_eq_true.1 htest
  rw [Bool.and_eq_true] at hfound
  obtain ⟨htruth, hid⟩ := hfound
  have hverifies := h toldService playEnv playVerify playEnv_signs playGate () cfg hrun r hr
  have hissued := stored_issued hrun r hr
  cases hreceipt : r.payload with
  | mk body signature =>
    rw [hreceipt] at htruth hid hverifies hissued
    cases hissued with
    | ingested _ hex hexId => exact ingest_ne_release (hexId.symm.trans (of_decide_eq_true hid))
    | derived _ hnone =>
      change Option.isSome (body.economicTruth.join) = true at htruth
      rw [hnone] at htruth
      cases htruth
    | decorated signed reasons truth hnone hreasons =>
      have hchars : ("0.1" : String).toList = ['0', '.', '1'] := rfl
      have hnumber : Json.Number "0.1" := by
        refine ⟨fun c hc => ?_, '0', ['.', '1'], hchars, Or.inl (by decide)⟩
        rw [hchars] at hc
        simp only [List.mem_cons, List.not_mem_nil, or_false] at hc
        rcases hc with rfl | rfl | rfl <;> decide
      exact decorated_payload (fun _ => hnumber) hnone hreasons truth (of_decide_eq_true hverifies).symm

end RoyaltyGateway

end Archisynapse
