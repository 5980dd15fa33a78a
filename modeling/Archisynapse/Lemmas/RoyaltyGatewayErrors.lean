import Archisynapse.Lemmas.RoyaltyGatewayGate

/-!
# What the gate of ingest raises

Every rejection of `verify_and_parse` has a documented code (`documented_of_answer`), and its queries raise no rejection. A request
that names a tenant is refused, or comes to the last checks (`refused_or_verified`), so that another exception escapes exactly when
the request is not `Handled`.
-/

namespace Archisynapse

namespace RoyaltyGateway

variable {S : TransactionService} {env : Env}

/-! ## Documented codes -/

/-- The statuses and codes of the rejections. -/
def documented : List (Nat × String) :=
  [(400, "invalid_schema"), (401, "unauthorized"), (401, "invalid_signature"), (403, "tenant_mismatch"), (403, "unknown_key"),
    (422, "stale_event")]

/-- A failure that, if it is a rejection, has a documented code. -/
def Failure.Documented : Failure → Prop
  | .rejection statusCode code _ retryable => (statusCode, code) ∈ documented ∧ retryable = false
  | _ => True

theorem throws_raise {α : Type} (message : String) : (raise message : Program α).Throws Failure.Documented := trivial

theorem throws_reject {α : Type} {statusCode : Nat} {code message : String} (h : (statusCode, code) ∈ documented) :
    (reject statusCode code message : Program α).Throws Failure.Documented := ⟨h, rfl⟩

theorem throws_rejectRecorded {α : Type} {req : IngestRequest} {reason : String} {statusCode : Nat} {code message : String}
    (h : (statusCode, code) ∈ documented) :
    (rejectRecorded req reason statusCode code message : Program α).Throws Failure.Documented :=
  Prog.throws_bind (Prog.throws_perform (S := signature) _) (fun _ => throws_reject h)

theorem throws_parseVerified (req : IngestRequest) (keyId tenantId : String) (body : Json) :
    (parseVerified env req keyId tenantId body).Throws Failure.Documented := by
  unfold parseVerified
  split
  · exact throws_reject (by decide)
  · split
    · exact throws_raise _
    · refine Prog.throws_bind (Prog.throws_perform (S := signature) _) (fun now => ?_)
      split
      · exact throws_raise _
      · split
        · exact throws_rejectRecorded (by decide)
        · exact trivial

theorem throws_verifySigned (req : IngestRequest) (tenantId : String) (body : Json) :
    (verifySigned env req tenantId body).Throws Failure.Documented := by
  unfold verifySigned
  split
  · refine Prog.throws_bind (Prog.throws_perform (S := signature) _) (fun key => ?_)
    cases key with
    | none =>
      refine Prog.throws_bind (Prog.throws_perform (S := signature) _) (fun any => ?_)
      cases any with
      | true => exact throws_rejectRecorded (by decide)
      | false => exact throws_rejectRecorded (by decide)
    | some publicKeyB64 =>
      dsimp only
      split
      · exact throws_parseVerified req _ _ _
      · exact throws_rejectRecorded (by decide)
  · exact throws_rejectRecorded (by decide)

theorem throws_tokenValid (tenantId : String) (token : Option String) :
    (tokenValid env tenantId token).Throws Failure.Documented := by
  cases token with
  | none => exact trivial
  | some token =>
    refine Prog.throws_bind (Prog.throws_perform (S := signature) _) (fun hash => ?_)
    cases hash with
    | none => exact trivial
    | some hash => exact trivial

theorem throws_verifyAndParse (env : Env) (req : IngestRequest) : (verifyAndParse env req).Throws Failure.Documented := by
  unfold verifyAndParse
  split
  · exact throws_reject (by decide)
  · exact throws_raise _
  · split
    · exact throws_reject (by decide)
    · refine Prog.throws_bind (throws_tokenValid _ _) (fun valid => ?_)
      cases valid with
      | true => exact throws_verifySigned req _ _
      | false => exact throws_rejectRecorded (by decide)
  · exact throws_raise _

/-- A query of the gate raises no rejection. -/
theorem perform_documented {s s' : State S} {ch : Choice S} {o : Action} {e : Failure} (ho : Gates o)
    (h : s.perform ch o = (.error e, s')) : e.Documented := by
  have hargument : ∀ {text : String} {e : Failure}, argument text = .error e → e.Documented := by
    intro text e h
    rcases argument_cases text with ht | ⟨message, ht⟩
    · rw [ht] at h
      cases h
    · rw [ht] at h
      cases h
      exact trivial
  cases o with
  | apiKeyHash tenantId =>
    have hquery : s.gate.apiKeyHash tenantId = .error e := congrArg Prod.fst h
    unfold Gate.apiKeyHash at hquery
    cases ht : argument tenantId with
    | ok tenantId' => rw [ht] at hquery; cases hquery
    | error e' =>
      rw [ht] at hquery
      cases hquery
      exact hargument ht
  | getTenantKey tenantId keyId =>
    have hquery : s.gate.getTenantKey tenantId keyId = .error e := congrArg Prod.fst h
    unfold Gate.getTenantKey at hquery
    cases ht : argument tenantId with
    | error e' =>
      rw [ht] at hquery
      cases hquery
      exact hargument ht
    | ok tenantId' =>
      rw [ht] at hquery
      cases hk : argument keyId with
      | ok keyId' => rw [hk] at hquery; cases hquery
      | error e' =>
        rw [hk] at hquery
        cases hquery
        exact hargument hk
  | keyRegisteredToAnyTenant keyId =>
    have hquery : s.gate.keyRegisteredToAnyTenant keyId = .error e := congrArg Prod.fst h
    unfold Gate.keyRegisteredToAnyTenant at hquery
    cases hk : argument keyId with
    | ok keyId' => rw [hk] at hquery; cases hquery
    | error e' =>
      rw [hk] at hquery
      cases hquery
      exact hargument hk
  | recordRejection correlationId keyId reason =>
    have hrecord : s.record (s.gate.recordRejection correlationId keyId reason) = (.error e, s') := h
    unfold Gate.recordRejection at hrecord
    cases hc : nullable correlationId with
    | error e' =>
      rw [hc] at hrecord
      cases hrecord
      obtain ⟨message, rfl⟩ := nullable_error hc
      exact trivial
    | ok correlationId' =>
      rw [hc] at hrecord
      cases hk : nullable keyId with
      | ok keyId' => rw [hk] at hrecord; cases hrecord
      | error e' =>
        rw [hk] at hrecord
        cases hrecord
        obtain ⟨message, rfl⟩ := nullable_error hk
        exact trivial
  | now => cases h
  | _ => exact ho.elim

section

variable {ch : Choice S} {s s' : State S} {req : IngestRequest}

/-- A rejection of the gate has a documented code. -/
theorem documented_of_answer (hch : ch.Quiet) {e : Failure} (h : answer ch (verifyAndParse env req) s = some (.error e, s')) :
    e.Documented := by
  refine Prog.Throws.run (fun o n s e s' ho he => ?_) (throws_verifyAndParse env req) (gates_verifyAndParse env req) h
  rw [exec_quiet hch] at he
  exact perform_documented ho (Option.some.inj he)

/-! ## Outcomes -/

/-- A verified request, or a rejection with a documented code. -/
def Clean : Except Failure VerifiedRequest → Prop
  | .ok _ => True
  | .error (.rejection statusCode code _ retryable) => (statusCode, code) ∈ documented ∧ retryable = false
  | .error _ => False

/-- The verification of a request comes to an end, with a clean outcome. -/
def FailsCleanly (env : Env) (ch : Choice S) (s : State S) (req : IngestRequest) : Prop :=
  ∃ r s', answer ch (verifyAndParse env req) s = some (r, s') ∧ Clean r

/-- Nothing but a documented rejection is raised over a request: its body can be loaded, or is malformed; it is an object; a refusal
can be written to its table; and the time of an event that is verified has a format and a time zone. -/
structure Handled (env : Env) (g : Gate) (now : Int) (req : IngestRequest) : Prop where
  loads : ∀ message, env.loads req.rawBody ≠ .raised message
  object : ∀ value, env.loads req.rawBody = .value value → ∃ members, value = .obj members
  recordable : (∃ reason, Refused env g now req reason) → Recordable env req
  dated : ∀ members tenantId keyId header key event, Signed env g req members tenantId keyId header →
    g.getTenantKey tenantId keyId = .ok (some key) → verifyEventSignature env req.rawBody header key = true →
    env.modelValidate (.obj members) = .ok event →
    ∃ occurredAt, env.fromIsoFormat (zulu event.occurredAt) = some occurredAt ∧ occurredAt.aware = true

/-- The outcome of a request is clean when its answer is. -/
theorem FailsCleanly.clean {r : Except Failure VerifiedRequest} (h : FailsCleanly env ch s req)
    (hr : answer ch (verifyAndParse env req) s = some (r, s')) : Clean r := by
  obtain ⟨r', s₁, hr', hclean⟩ := h
  rw [hr] at hr'
  obtain ⟨rfl, -⟩ := Prod.mk.inj (Option.some.inj hr')
  exact hclean

/-- A request that names a tenant is refused before its signature is verified, or is verified. -/
theorem refused_or_verified {members : List (String × Json)} {tenantId : String} (g : Gate) (now : Int)
    (hnames : Names env req members tenantId) :
    (∃ reason, Refused env g now req reason) ∨
    ∃ keyId header key, Signed env g req members tenantId keyId header ∧ g.getTenantKey tenantId keyId = .ok (some key) ∧
      verifyEventSignature env req.rawBody header key = true := by
  by_cases htoken : TokenMatches env g tenantId req
  · cases hkeyId : truthy req.keyId with
    | none => exact Or.inl ⟨_, .headers members tenantId hnames htoken (Or.inl hkeyId)⟩
    | some keyId =>
      cases hheader : truthy req.signature with
      | none => exact Or.inl ⟨_, .headers members tenantId hnames htoken (Or.inr hheader)⟩
      | some header =>
        have hsigned : Signed env g req members tenantId keyId header := ⟨hnames, htoken, hkeyId, hheader⟩
        by_cases hkey : ∃ key, g.getTenantKey tenantId keyId = .ok (some key)
        · obtain ⟨key, hkey⟩ := hkey
          cases hverified : verifyEventSignature env req.rawBody header key with
          | true => exact Or.inr ⟨keyId, header, key, hsigned, hkey, hverified⟩
          | false => exact Or.inl ⟨_, .signature members tenantId keyId header key hsigned hkey hverified⟩
        · have hnone : ∀ key, g.getTenantKey tenantId keyId ≠ .ok (some key) := fun key h => hkey ⟨key, h⟩
          by_cases hany : g.keyRegisteredToAnyTenant keyId = .ok true
          · exact Or.inl ⟨_, .mismatch members tenantId keyId header hsigned hnone hany⟩
          · exact Or.inl ⟨_, .unknown members tenantId keyId header hsigned hnone hany⟩
  · exact Or.inl ⟨_, .token members tenantId hnames htoken⟩

/-- A refusal is clean exactly when it can be recorded. -/
theorem refused_clean_iff (hch : ch.Quiet) {reason : String} (h : Refused env s.gate ch.now req reason) :
    FailsCleanly env ch s req ↔ Recordable env req := by
  cases refused_answer hch h with
  | rejects statusCode code message htenant hanswer =>
    by_cases hfits : (∃ text, nullable req.correlationId = .ok text) ∧ ∃ text, nullable req.keyId = .ok text
    · obtain ⟨⟨correlationId, hc⟩, keyId, hk⟩ := hfits
      have hrejected := hanswer.trans (answer_rejectRecorded hch hc hk reason statusCode code message)
      exact iff_of_true ⟨_, _, hrejected, documented_of_answer hch hrejected⟩ ⟨⟨correlationId, hc⟩, ⟨keyId, hk⟩, htenant⟩
    · obtain ⟨text, hraises⟩ := answer_rejectRaises (α := VerifiedRequest) (s := s) hch hfits reason statusCode code message
      exact iff_of_false (fun hclean => (hclean.clean (hanswer.trans hraises)).elim) (fun hrec => hfits ⟨hrec.1, hrec.2⟩)
  | raises message hnot hanswer => exact iff_of_false (fun hclean => (hclean.clean hanswer).elim) hnot

/-- The last checks of a verified request raise nothing else exactly when its event is dated. -/
theorem verified_answer (hch : ch.Quiet) {members : List (String × Json)} {tenantId keyId header key : String}
    (hsigned : Signed env s.gate req members tenantId keyId header) (hkey : s.gate.getTenantKey tenantId keyId = .ok (some key))
    (hverified : verifyEventSignature env req.rawBody header key = true) :
    answer ch (verifyAndParse env req) s = answer ch (parseVerified env req keyId tenantId (.obj members)) s := by
  rw [answer_signed hch hsigned hkey]
  dsimp only
  rw [if_pos hverified]

/-- An event of a verified request without a date that has a format and a time zone. -/
theorem undated_raises (hch : ch.Quiet) (s : State S) (req : IngestRequest) (keyId tenantId : String) {body : Json} {event : RoyaltyObligationCreated}
    (hevent : env.modelValidate body = .ok event)
    (h : ¬ ∃ occurredAt, env.fromIsoFormat (zulu event.occurredAt) = some occurredAt ∧ occurredAt.aware = true) :
    ∃ message, answer ch (parseVerified env req keyId tenantId body) s = some (.error (.raised message), s) := by
  unfold parseVerified
  rw [hevent]
  dsimp only
  cases htime : env.fromIsoFormat (zulu event.occurredAt) with
  | none => exact ⟨_, rfl⟩
  | some occurredAt =>
    have hnaive : occurredAt.aware = false := Bool.eq_false_of_not_eq_true (fun haware => h ⟨occurredAt, htime, haware⟩)
    have hperform : s.perform ch .now = (.ok ch.now, s) := rfl
    dsimp only
    rw [answer_bind_ok (answer_step hch hperform), if_pos hnaive]
    exact ⟨_, rfl⟩

end

end RoyaltyGateway

end Archisynapse
