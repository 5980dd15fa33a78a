import Archisynapse.Base.History
import Archisynapse.Lemmas.RoyaltyGatewayCalls

/-!
# What a decision to pay rests on

The answers of the Lyrica service and of the fraud service that a request has read before it asks for an obligation (`Vouched`,
`Cleared`), and the guard that its calls keep (`ProvenFirst`): allow is asked for after both, and block when the ownership was not
vouched for.
-/

namespace Archisynapse

namespace RoyaltyGateway

variable {S : TransactionService} {env : Env}

/-- The calls of a request and their answers. -/
abbrev Past : Type := List (Prog.Answered signature)

/-! ## Proofs -/

/-- A payload of the Lyrica service that vouches for an event: verified, not revoked, and bound to it. -/
structure Vouches (event : RoyaltyObligationCreated) (members : List (String × Json)) : Prop where
  verified : Json.member "verified" members = some (.bool true)
  revoked : Json.member "revoked" members ≠ some (.bool true)
  track : Json.member "track_id" members = some (.str event.trackId)
  dna : Json.member "dna_tag" members = some (.str event.dnaTag)
  soulprint : Json.member "soulprint_hash" members = some (.str event.soulprintHash)
  proof : Json.member "vics_proof_id" members = some (.str event.proofId)
  creator : Json.member "creator_id" members = some (.str event.creatorId)

/-- The payload says no time it expires at, or one that was not over when the clock was read next. -/
def Unexpired (env : Env) (members : List (String × Json)) (next : Past) : Prop :=
  Json.member "expires_at" members = none ∨ Json.member "expires_at" members = some .null ∨
    Json.member "expires_at" members = some (.str "") ∨
    ∃ text expiry now rest, Json.member "expires_at" members = some (.str text) ∧
      env.fromIsoFormat (zulu text) = some expiry ∧ next = ⟨.now, .ok now⟩ :: rest ∧ now < expiry.micros

/-- The Lyrica service answered with status 200 and a payload that vouches for the event and has not expired. -/
def Vouched (env : Env) (event : RoyaltyObligationCreated) (past : Past) : Prop :=
  ∃ members before next,
    past = before ++ ⟨.requestVics event, .ok (.answered 200 (.value (.obj members)))⟩ :: next ∧
    Vouches event members ∧ Unexpired env members next

/-- The fraud service answered with status 200 and the decision that is mapped to allow. -/
def Cleared (tenantId : String) (event : RoyaltyObligationCreated) (past : Past) : Prop :=
  ∃ members, (⟨.assessRisk tenantId event, .ok (.answered 200 (.value (.obj members)))⟩ : Prog.Answered signature) ∈ past ∧
    Json.member "decision" members = some (.str "release_payout")

theorem Vouched.append {event : RoyaltyObligationCreated} {past : Past} (h : Vouched env event past) (more : Past) :
    Vouched env event (past ++ more) := by
  obtain ⟨members, before, next, rfl, hvouches, hunexpired⟩ := h
  refine ⟨members, before, next ++ more, by simp, hvouches, ?_⟩
  rcases hunexpired with h | h | h | ⟨text, expiry, now, rest, htext, hexpiry, rfl, hnow⟩
  · exact Or.inl h
  · exact Or.inr (Or.inl h)
  · exact Or.inr (Or.inr (Or.inl h))
  · exact Or.inr (Or.inr (Or.inr ⟨text, expiry, now, rest ++ more, htext, hexpiry, rfl, hnow⟩))

/-- A decision rests on what was read: allow on both proofs, and anything but a block on that of the ownership. -/
structure Rests (env : Env) (tenantId : String) (event : RoyaltyObligationCreated) (decision : Decision) (past : Past) : Prop where
  allow : decision.outcome = .allow → Cleared tenantId event past
  vouched : Vouched env event past ∨ (decision.outcome = .block ∧ decision.policy = "ownership_invalid")

/-- The guard: an obligation is asked for with a decision that rests on what the request has read. -/
def ProvenFirst (env : Env) (past : Past) : Action → Prop
  | .service (.createObligation req) => Rests env req.organizationId req.event req.decision past
  | _ => True

/-- The calls that ask for no obligation. -/
def AsksNothing : Action → Prop
  | .service (.createObligation _) => False
  | _ => True

theorem provenFirst_of_asksNothing (past : Past) (o : Action) (ho : AsksNothing o) : ProvenFirst env past o := by
  cases o with
  | service req =>
    cases req with
    | createObligation req => exact ho.elim
    | releaseObligation _ _ _ => exact trivial
    | reverseObligation _ _ _ _ _ => exact trivial
  | _ => exact trivial

/-! ## The programs -/

/-- A program and the guard. -/
abbrev Keeps (env : Env) {α : Type} (p : Program α) (Q : Except Failure α → Past → Prop) (past : Past) : Prop :=
  p.wp Prog.Logs (Prog.guarded (ProvenFirst env)) Q past

/-- One call that asks for no obligation. -/
theorem keeps_step {o : Action} (ho : AsksNothing o) {Q : Except Failure o.Result → Past → Prop} {past : Past}
    (hQ : ∀ r, Q r (past ++ [⟨o, r⟩])) : Keeps env (step o) Q past :=
  Prog.guarded_perform (provenFirst_of_asksNothing past o ho) hQ

/-- A program that asks for no obligation. -/
theorem keeps_asksNothing {α : Type} {p : Program α} (hp : p.Calls AsksNothing) {Q : Except Failure α → Past → Prop} {past : Past}
    (hQ : ∀ r more, Q r (past ++ more)) : Keeps env p Q past := by
  refine Prog.wp_mono (fun r past' h => ?_) p (hp.guarded provenFirst_of_asksNothing)
  obtain ⟨more, rfl⟩ := h
  exact hQ r more

/-- The members that vouch for an event. -/
theorem vouches_of_bound {event : RoyaltyObligationCreated} {members : List (String × Json)} (h : bound event members = true) :
    Vouches event members := by
  have htext : ∀ {name text : String}, memberIsText name text members = true → Json.member name members = some (.str text) := by
    intro name text h
    unfold memberIsText at h
    split at h
    · rename_i value hvalue
      rw [hvalue, of_decide_eq_true h]
    · cases h
  unfold bound at h
  simp only [Bool.and_eq_true, expectedBindings, List.all_cons, List.all_nil, Bool.and_true, Bool.not_eq_true'] at h
  obtain ⟨⟨hverified, hrevoked⟩, htrack, hdna, hsoulprint, hproof, hcreator⟩ := h
  refine ⟨?_, ?_, htext htrack, htext hdna, htext hsoulprint, htext hproof, htext hcreator⟩
  · unfold memberIsTrue at hverified
    split at hverified
    · rename_i value hvalue
      rw [hvalue, hverified]
    · cases hverified
  · intro htrue
    unfold memberIsTrue at hrevoked
    rw [htrue] at hrevoked
    cases hrevoked

/-- What `_not_expired` reads before it says yes. -/
theorem notExpired_keeps (members : List (String × Json)) (past : Past) :
    Keeps env (notExpired env (Json.member "expires_at" members))
      (fun r past' => ∃ next, past' = past ++ next ∧ (r = .ok true → Unexpired env members next)) past := by
  have hhere : past = past ++ [] := (List.append_nil past).symm
  unfold notExpired
  split
  · rename_i hnone
    exact ⟨[], hhere, fun _ => Or.inl hnone⟩
  · rename_i hnull
    exact ⟨[], hhere, fun _ => Or.inr (Or.inl hnull)⟩
  · rename_i text htext
    by_cases hempty : text = ""
    · rw [if_pos hempty]
      exact ⟨[], hhere, fun _ => Or.inr (Or.inr (Or.inl (by rw [htext, hempty])))⟩
    · rw [if_neg hempty]
      cases hexpiry : env.fromIsoFormat (zulu text) with
      | none => exact ⟨[], hhere, fun h => by cases h⟩
      | some expiry =>
        refine Prog.wp_seq (keeps_step (o := .now) trivial (Q := fun r past' => past' = past ++ [⟨.now, r⟩]) (fun r => rfl)) ?_ ?_
        · rintro now _ rfl
          refine ⟨_, rfl, fun h => Or.inr (Or.inr (Or.inr ⟨text, expiry, now, [], htext, hexpiry, rfl, ?_⟩))⟩
          exact of_decide_eq_true (Except.ok.inj h)
        · rintro e _ rfl
          exact ⟨_, rfl, fun h => by cases h⟩
  · exact ⟨[], hhere, fun h => by cases h⟩

/-- The Lyrica verifier says yes when the ownership is vouched for. -/
theorem verifyLyrica_keeps (event : RoyaltyObligationCreated) (past : Past) :
    Keeps env (verifyLyrica env event) (fun r past' => r = .ok true → Vouched env event past') past := by
  have hno : ∀ {past' : Past}, (Except.ok false : Except Failure Bool) = .ok true → Vouched env event past' := fun h => by cases h
  have hraise : ∀ {e : Failure} {past' : Past}, (Except.error e : Except Failure Bool) = .ok true → Vouched env event past' :=
    fun h => by cases h
  unfold verifyLyrica
  refine Prog.wp_seq (keeps_step (o := .requestVics event) trivial
    (Q := fun r past' => past' = past ++ [⟨.requestVics event, r⟩]) (fun r => rfl)) ?_ (fun _ _ _ => hraise)
  rintro answer _ rfl
  cases answer with
  | failed => exact hno
  | raised message => exact hraise
  | answered statusCode json =>
    dsimp only
    by_cases hstatus : statusCode ≠ 200
    · rw [if_pos hstatus]
      exact hno
    · rw [if_neg hstatus]
      obtain rfl := not_not.1 hstatus
      cases json with
      | malformed => exact hno
      | raised message => exact hraise
      | value payload =>
        cases payload with
        | obj members =>
          simp only
          by_cases hbound : bound event members = true
          · rw [if_pos hbound]
            refine Prog.wp_mono (fun r past' h hr => ?_) _ (notExpired_keeps members _)
            obtain ⟨next, rfl, hunexpired⟩ := h
            refine ⟨members, past, next, ?_, vouches_of_bound hbound, hunexpired hr⟩
            rw [List.append_assoc, List.singleton_append]
          · rw [if_neg hbound]
            exact hno
        | _ => exact hno

theorem verifyOwnership_keeps (hfixtures : env.fixtures = false) (event : RoyaltyObligationCreated) (past : Past) :
    Keeps env (verifyOwnership env event) (fun r past' => r = .ok true → Vouched env event past') past := by
  unfold verifyOwnership
  split
  · exact fun h => by cases h
  · exact verifyLyrica_keeps event past
  · rename_i hselect
    unfold selectOwnershipVerifier at hselect
    rw [hfixtures] at hselect
    simp only [Bool.false_eq_true, if_false] at hselect
    split at hselect
    · split at hselect <;> cases hselect
    · cases hselect

/-- A payload of the fraud service that is mapped to allow. -/
theorem fraudDecision_allow {members : List (String × Json)} {decision : Decision} (h : fraudDecision env members = .ok decision)
    (hallow : decision.outcome = .allow) : Json.member "decision" members = some (.str "release_payout") := by
  unfold fraudDecision at h
  obtain ⟨riskScore, -, h⟩ := ok_of_except_bind h
  obtain ⟨outcome, houtcome, h⟩ := ok_of_except_bind h
  cases h
  obtain rfl : outcome = .allow := hallow
  have hmap : ∀ {value : Json}, decisionMap value = .ok .allow → value = .str "release_payout" := by
    intro value hvalue
    cases value with
    | str text =>
      by_cases htext : text = "release_payout"
      · rw [htext]
      · simp only [decisionMap, if_neg htext] at hvalue
        split at hvalue <;> cases hvalue
    | _ => cases hvalue
  cases hmember : Json.member "decision" members with
  | none =>
    rw [hmember] at houtcome
    exact absurd (hmap houtcome) (by simp)
  | some value =>
    rw [hmember] at houtcome
    exact congrArg some (hmap houtcome)

/-- The decision rests on what was read. -/
theorem evaluateDecision_keeps (hfixtures : env.fixtures = false) (tenantId : String) (event : RoyaltyObligationCreated)
    (past : Past) :
    Keeps env (evaluateDecision env tenantId event)
      (fun r past' => ∀ decision, r = .ok decision → Rests env tenantId event decision past') past := by
  unfold evaluateDecision
  refine Prog.wp_seq (verifyOwnership_keeps hfixtures event past) (fun valid past₁ hvalid => ?_) (fun e _ _ _ h => by cases h)
  cases valid with
  | false =>
    intro decision h
    cases h
    exact ⟨fun h => (by cases h), Or.inr ⟨rfl, rfl⟩⟩
  | true =>
    rw [if_pos rfl]
    refine Prog.wp_seq (keeps_step (o := .assessRisk tenantId event) trivial
      (Q := fun r past' => past' = past₁ ++ [⟨.assessRisk tenantId event, r⟩]) (fun r => rfl)) ?_ (fun e _ _ _ h => by cases h)
    rintro answer _ rfl
    have hvouched := (hvalid rfl).append [⟨.assessRisk tenantId event, .ok answer⟩]
    cases hdecision : answer.decision env with
    | error e => exact fun _ h => by cases h
    | ok decision =>
      intro d h
      cases h
      refine ⟨fun hallow => ?_, Or.inl hvouched⟩
      unfold RiskAnswer.decision at hdecision
      split at hdecision
      · cases hdecision
        cases hallow
      · cases hdecision
      · rename_i statusCode json
        split at hdecision
        · cases hdecision
          cases hallow
        · rename_i hstatus
          obtain rfl := not_not.1 hstatus
          split at hdecision
          · cases hdecision
          · cases hdecision
          · rename_i members
            exact ⟨members, List.mem_append_right _ (List.mem_singleton_self _), fraudDecision_allow hdecision hallow⟩
          · cases hdecision

/-! ## The requests -/

theorem asksNothing_of_gates {α : Type} {p : Program α} (hp : p.Calls Gates) : p.Calls AsksNothing := by
  refine hp.mono (fun o ho => ?_)
  cases o with
  | service req => exact ho.elim
  | _ => exact trivial

theorem asksNothing_failWith {α : Type} (v : VerifiedRequest) (reason : String) (e : Failure) :
    (failWith v reason e : Program α).Calls AsksNothing :=
  Prog.calls_bind (Prog.calls_perform trivial) (fun _ => trivial)

theorem asksNothing_createFailed {α : Type} (v : VerifiedRequest) (e : Failure) :
    (createFailed v e : Program α).Calls AsksNothing := by
  cases e with
  | conflict text => exact asksNothing_failWith _ _ _
  | service statusCode body => exact asksNothing_failWith _ _ _
  | _ => exact trivial

theorem asksNothing_workFailed {α : Type} (v : VerifiedRequest) (e : Failure) : (workFailed v e : Program α).Calls AsksNothing := by
  cases e with
  | rejection statusCode code message retryable => exact trivial
  | _ => exact asksNothing_failWith _ _ _

theorem asksNothing_ofExcept {α : Type} (x : Except Failure α) : (ofExcept x).Calls AsksNothing := by
  cases x with
  | ok a => exact trivial
  | error e => exact trivial

theorem asksNothing_accepted (answer : ServiceAnswer) : (accepted answer).Calls AsksNothing := by
  unfold accepted
  refine Prog.calls_ite ?_ trivial
  split
  · exact trivial
  · exact trivial

theorem asksNothing_truth (receipt : Receipt) (stage : TruthStage) (reason : Option String) :
    (recordRoyaltyTruth receipt stage reason).Calls AsksNothing := by
  unfold recordRoyaltyTruth
  split
  · exact trivial
  · exact Prog.calls_perform trivial

theorem asksNothing_recordOutcome (receipt : Receipt) : (recordOutcome receipt).Calls AsksNothing :=
  Prog.calls_bind (asksNothing_truth _ _ _) (fun _ => Prog.calls_ite (asksNothing_truth _ _ _) trivial)

/-- Asking for an obligation with a decision that rests on what was read. -/
theorem clientCreate_keeps {req : CreateRequest} {past : Past}
    (hrests : Rests env req.organizationId req.event req.decision past) :
    Keeps env (clientCreate req) (fun _ _ => True) past := by
  refine Prog.wp_seq (Prog.guarded_perform (Q := fun _ _ => True) hrests (fun _ => trivial)) (fun answer s _ => ?_)
    (fun _ _ _ => trivial)
  exact keeps_asksNothing (Prog.calls_ite (by trivial) (asksNothing_accepted answer)) (fun _ _ => trivial)

theorem work_keeps (hfixtures : env.fixtures = false) (v : VerifiedRequest) (past : Past) :
    Keeps env (work env v) (fun _ _ => True) past := by
  unfold work
  refine Prog.wp_seq (evaluateDecision_keeps hfixtures v.tenantId v.event past) (fun decision past₁ hrests => ?_)
    (fun _ _ _ => trivial)
  have hcreate : Keeps env (Prog.tryCatch (clientCreate ⟨v.tenantId, v.event, decision, env.requestHash v.rawBody⟩)
      (createFailed v)) (fun _ _ => True) past₁ :=
    Prog.wp_handle (clientCreate_keeps (hrests decision rfl)) (fun _ _ _ => trivial)
      (fun e past' _ => keeps_asksNothing (asksNothing_createFailed v e) (fun _ _ => trivial))
  refine Prog.wp_seq hcreate ?_ (fun _ _ _ => trivial)
  rintro ⟨obligation, answer⟩ past₂ -
  refine keeps_asksNothing (Prog.calls_bind (asksNothing_ofExcept _) (fun receipt => ?_)) (fun _ _ => trivial)
  exact Prog.calls_bind (Prog.calls_perform trivial) (fun _ => Prog.calls_bind (Prog.calls_perform trivial) (fun _ => trivial))

theorem processClaimed_keeps (hfixtures : env.fixtures = false) (v : VerifiedRequest) (past : Past) :
    Keeps env (processClaimed env v) (fun _ _ => True) past := by
  unfold processClaimed
  split
  · exact Prog.wp_handle (work_keeps hfixtures v past) (fun _ _ _ => trivial)
      (fun e past' _ => keeps_asksNothing (asksNothing_workFailed v e) (fun _ _ => trivial))
  · exact trivial
  · exact keeps_asksNothing (asksNothing_failWith _ _ _) (fun _ _ => trivial)

theorem processObligationCreated_keeps (hfixtures : env.fixtures = false) (v : VerifiedRequest) (past : Past) :
    Keeps env (processObligationCreated env v) (fun _ _ => True) past := by
  unfold processObligationCreated
  refine Prog.wp_seq (keeps_step (o := .claimIdempotency v.tenantId v.event.idempotencyKey (env.requestHash v.rawBody)) trivial
    (Q := fun _ _ => True) (fun _ => trivial)) (fun claim past₁ _ => ?_) (fun _ _ _ => trivial)
  cases claim with
  | claimed => exact processClaimed_keeps hfixtures v past₁
  | conflict => exact trivial
  | processing => exact trivial
  | completed receiptId =>
    cases receiptId with
    | none => exact processClaimed_keeps hfixtures v past₁
    | some receiptId =>
      refine Prog.wp_seq (keeps_step (o := .loadRoyaltyReceipt receiptId) trivial (Q := fun _ _ => True) (fun _ => trivial))
        (fun found past₂ _ => ?_) (fun _ _ _ => trivial)
      cases found with
      | none => exact processClaimed_keeps hfixtures v past₂
      | some receipt => exact trivial

theorem ingestRoyaltyEvent_keeps (hfixtures : env.fixtures = false) (req : IngestRequest) (past : Past) :
    Keeps env (ingestRoyaltyEvent env req) (fun _ _ => True) past := by
  unfold ingestRoyaltyEvent
  refine Prog.wp_seq (keeps_asksNothing (Q := fun _ _ => True) (asksNothing_of_gates (gates_verifyAndParse env req))
    (fun _ _ => trivial)) (fun v past₁ _ => ?_) (fun _ _ _ => trivial)
  refine Prog.wp_seq (processObligationCreated_keeps hfixtures v past₁) (fun reply past₂ _ => ?_) (fun _ _ _ => trivial)
  exact keeps_asksNothing (Prog.calls_bind (asksNothing_recordOutcome _) (fun _ => by trivial)) (fun _ _ => trivial)

/-- A release or a reversal asks for no obligation. -/
theorem asksNothing_clientRequest {req : ServiceRequest} (hreq : AsksNothing (.service req)) (answer : Failure → Failure) :
    ((clientRequest req).tryCatch (fun e => Prog.throw (S := signature) (answer e))).Calls AsksNothing :=
  Prog.calls_tryCatch (Prog.calls_bind (Prog.calls_perform hreq) (fun a => asksNothing_accepted a)) (fun _ => trivial)

theorem asksNothing_issue (obligation : Royalty.RoyaltyObligation) (receiptId : String) (now : Int) :
    (issueFromObligation env obligation receiptId now).Calls AsksNothing :=
  Prog.calls_bind (asksNothing_ofExcept _) (fun _ => Prog.calls_bind (Prog.calls_perform trivial) (fun _ => trivial))

theorem asksNothing_release (tenantId eventId : String) : (releaseRoyaltyEvent env tenantId eventId).Calls AsksNothing := by
  refine Prog.calls_bind (Prog.calls_perform trivial) (fun original => ?_)
  refine Prog.calls_bind (Prog.calls_bind (asksNothing_clientRequest (by trivial) _)
    (fun _ => Prog.calls_bind (asksNothing_issue _ _ _) (fun _ => trivial))) (fun reply => ?_)
  split
  · exact trivial
  · exact Prog.calls_bind (Prog.calls_perform trivial) (fun _ => Prog.calls_bind (asksNothing_recordOutcome _) (fun _ => trivial))

theorem asksNothing_reverse (tenantId eventId reversalEventId key reason : String) :
    (reverseRoyaltyEvent env tenantId eventId reversalEventId key reason).Calls AsksNothing := by
  refine Prog.calls_bind (Prog.calls_perform trivial) (fun original => ?_)
  refine Prog.calls_bind (Prog.calls_bind (asksNothing_clientRequest (by trivial) _)
    (fun _ => Prog.calls_bind (asksNothing_issue _ _ _) (fun _ => trivial))) (fun reply => ?_)
  split
  · exact trivial
  · exact Prog.calls_bind (Prog.calls_perform trivial) (fun _ => Prog.calls_bind (asksNothing_truth _ _ _) (fun _ => trivial))

/-- Every request keeps the guard. -/
theorem program_guarded (hfixtures : env.fixtures = false) (c : Call) : (c.program env).Guarded (ProvenFirst env) := by
  have hdisabled : ∀ {route : Program Reply}, Keeps env route (fun _ _ => True) [] → (ifEnabled env route).Guarded (ProvenFirst env) := by
    intro route hroute
    unfold ifEnabled
    split
    · exact hroute
    · exact trivial
  have htenant : ∀ (tenantId : Option String) {route : String → Program Reply}, (∀ t, (route t).Calls AsksNothing) →
      (withTenant tenantId route).Calls AsksNothing := by
    intro tenantId route hroute
    unfold withTenant
    split
    · exact trivial
    · exact hroute _
  cases c with
  | ingest req => exact hdisabled (ingestRoyaltyEvent_keeps hfixtures req [])
  | release eventId tenantId =>
    exact hdisabled (keeps_asksNothing (htenant tenantId (fun t => asksNothing_release t eventId)) (fun _ _ => trivial))
  | reverse eventId tenantId reversalEventId key reason =>
    exact hdisabled (keeps_asksNothing (htenant tenantId (fun t => asksNothing_reverse t eventId reversalEventId key reason))
      (fun _ _ => trivial))
  | receipt receiptId =>
    refine keeps_asksNothing (Prog.calls_bind (Prog.calls_perform (by trivial)) (fun found => ?_)) (fun _ _ => trivial)
    cases found with
    | none => exact trivial
    | some receipt => exact trivial

end RoyaltyGateway

end Archisynapse
