import Archisynapse.Lemmas.RoyaltyGatewayCalls

/-!
# The gate of ingest, run alone

`verify_and_parse` when every call is answered at one moment: what a request that passes has shown (`Admitted`), which requests
are refused and for what (`Refused`), and when the refusal is recorded (`Recordable`): both headers that are written with it fit
their columns, and the query for the tenant's key can be made.
-/

namespace Archisynapse

namespace RoyaltyGateway

variable {S : TransactionService} {env : Env}

/-- Every call goes well, and administrators write nothing. -/
def Choice.Quiet (ch : Choice S) : Prop := ch.fault = .none ∧ ch.writes = []

/-- A program run alone at one moment. -/
def answer {α : Type} (ch : Choice S) (p : Program α) (s : State S) : Option (Except Failure α × State S) :=
  p.run exec (fun _ => ch) 0 s

/-! ## Running the gate -/

section

variable {α β : Type} {ch : Choice S} {s s' : State S}

theorem exec_quiet (hch : ch.Quiet) (o : Action) (s : State S) : exec o ch s = some (s.perform ch o) := by
  unfold exec
  rw [hch.1, hch.2]
  rfl

@[simp] theorem answer_pure (a : α) : answer ch (pure a : Program α) s = some (.ok a, s) := rfl

@[simp] theorem answer_throw (e : Failure) : answer ch (Prog.throw (S := signature) e : Program α) s = some (.error e, s) := rfl

/-- A program that returned, and what comes after it. -/
theorem answer_bind_ok {p : Program α} {f : α → Program β} {a : α} (h : answer ch p s = some (.ok a, s')) :
    answer ch (p >>= f) s = answer ch (f a) s' := by
  unfold answer at *
  rw [Prog.run_const_bind, h]

/-- A program that raised ends what it is part of. -/
theorem answer_bind_error {p : Program α} {f : α → Program β} {e : Failure} (h : answer ch p s = some (.error e, s')) :
    answer ch (p >>= f) s = some (.error e, s') := by
  unfold answer at *
  rw [Prog.run_const_bind, h]

/-- One call. -/
theorem answer_step (hch : ch.Quiet) {o : Action} {r : Except Failure o.Result} (h : s.perform ch o = (r, s')) :
    answer ch (step o) s = some (r, s') := by
  unfold answer step Prog.perform Prog.run
  rw [exec_quiet hch, h]
  cases r with
  | ok a => rfl
  | error e => rfl

end

/-! ## What a request shows -/

/-- The bearer token is one that the tenant's stored hash verifies. -/
def TokenMatches (env : Env) (g : Gate) (tenantId : String) (req : IngestRequest) : Prop :=
  ∃ token apiKeyHash, req.bearerToken = some token ∧ g.apiKeyHash tenantId = .ok (some apiKeyHash) ∧
    env.argon2Verify apiKeyHash token = true

/-- A request that passed: its body is an object that names the tenant and satisfies the schema; the token is the tenant's; the key
is registered to that tenant and not revoked, and verifies the signature over the bytes of the body; and the event occurred within
five minutes of now. -/
structure Admitted (env : Env) (g : Gate) (now : Int) (req : IngestRequest) (v : VerifiedRequest) : Prop where
  body : ∃ members, env.loads req.rawBody = .value (.obj members) ∧
    Json.member "tenant_id" members = some (.str v.tenantId) ∧ env.modelValidate (.obj members) = .ok v.event
  token : ∃ row ∈ g.apiKeys, row.tenantId = v.tenantId ∧
    ∃ token, req.bearerToken = some token ∧ env.argon2Verify row.apiKeyHash token = true
  key : ∃ key ∈ g.tenantKeys, key.tenantId = v.tenantId ∧ req.keyId = some key.keyId ∧ key.revoked = false ∧
    ∃ header, req.signature = some header ∧ verifyEventSignature env req.rawBody header key.publicKeyB64 = true
  recent : ∃ occurredAt, env.fromIsoFormat (zulu v.event.occurredAt) = some occurredAt ∧ occurredAt.aware = true ∧
    |now - occurredAt.micros| ≤ replayWindow

/-- What the body says: an object that names a tenant. -/
def Names (env : Env) (req : IngestRequest) (members : List (String × Json)) (tenantId : String) : Prop :=
  env.loads req.rawBody = .value (.obj members) ∧ tenantOf members = some tenantId

/-- A request of a tenant with a valid token, and with both headers of a signature. -/
structure Signed (env : Env) (g : Gate) (req : IngestRequest) (members : List (String × Json)) (tenantId keyId header : String) :
    Prop where
  names : Names env req members tenantId
  token : TokenMatches env g tenantId req
  keyId : truthy req.keyId = some keyId
  signature : truthy req.signature = some header

/-- The requests that are refused for their authentication, key, signature or staleness, and for what. -/
inductive Refused (env : Env) (g : Gate) (now : Int) (req : IngestRequest) : String → Prop where
  | token (members : List (String × Json)) (tenantId : String) (hnames : Names env req members tenantId)
      (h : ¬ TokenMatches env g tenantId req) : Refused env g now req "invalid_tenant_auth"
  | headers (members : List (String × Json)) (tenantId : String) (hnames : Names env req members tenantId)
      (htoken : TokenMatches env g tenantId req) (h : truthy req.keyId = none ∨ truthy req.signature = none) :
      Refused env g now req "missing_signature_headers"
  | mismatch (members : List (String × Json)) (tenantId keyId header : String)
      (hsigned : Signed env g req members tenantId keyId header) (h : ∀ key, g.getTenantKey tenantId keyId ≠ .ok (some key))
      (hany : g.keyRegisteredToAnyTenant keyId = .ok true) : Refused env g now req "tenant_mismatch"
  | unknown (members : List (String × Json)) (tenantId keyId header : String)
      (hsigned : Signed env g req members tenantId keyId header) (h : ∀ key, g.getTenantKey tenantId keyId ≠ .ok (some key))
      (hany : g.keyRegisteredToAnyTenant keyId ≠ .ok true) : Refused env g now req "unknown_key"
  | signature (members : List (String × Json)) (tenantId keyId header key : String)
      (hsigned : Signed env g req members tenantId keyId header) (hkey : g.getTenantKey tenantId keyId = .ok (some key))
      (h : verifyEventSignature env req.rawBody header key = false) : Refused env g now req "invalid_signature"
  | stale (members : List (String × Json)) (tenantId keyId header key : String) (event : RoyaltyObligationCreated)
      (occurredAt : IsoTime) (hsigned : Signed env g req members tenantId keyId header)
      (hkey : g.getTenantKey tenantId keyId = .ok (some key)) (hverified : verifyEventSignature env req.rawBody header key = true)
      (hevent : env.modelValidate (.obj members) = .ok event) (htime : env.fromIsoFormat (zulu event.occurredAt) = some occurredAt)
      (haware : occurredAt.aware = true) (h : replayWindow < |now - occurredAt.micros|) : Refused env g now req "stale_event"

/-- The texts of a refusal can be written and asked for: the two headers fit their columns, and the tenant's id is an argument of
the query for its key, which is made when there is a token. -/
structure Recordable (env : Env) (req : IngestRequest) : Prop where
  correlationId : ∃ text, nullable req.correlationId = .ok text
  keyId : ∃ text, nullable req.keyId = .ok text
  tenantId : ∀ members tenantId, Names env req members tenantId → req.bearerToken ≠ none → argument tenantId = .ok tenantId

/-- A refusal is recorded: ingest is rejected, and leaves one rejection more and all else as it was. -/
def Recorded (env : Env) (req : IngestRequest) (ch : Choice S) (s : State S) (reason : String) : Prop :=
  ∃ statusCode code message correlationId keyId,
    answer ch (ingestRoyaltyEvent env req) s =
      some (.error (.rejection statusCode code message false),
        { s with gate := { s.gate with rejections := s.gate.rejections ++ [⟨correlationId, keyId, reason⟩] } })

/-! ## Texts -/

theorem argument_cases (text : String) : argument text = .ok text ∨ ∃ message, argument text = .error (.raised message) := by
  unfold argument
  split
  · exact Or.inr ⟨_, rfl⟩
  · exact Or.inl rfl

theorem column_error {text : String} {e : Failure} (h : column text = .error e) : ∃ message, e = .raised message := by
  unfold column at h
  rcases argument_cases text with ht | ⟨message, ht⟩
  · rw [ht] at h
    dsimp only [bind, Except.bind] at h
    cases hv : varchar 255 text with
    | some stored =>
      rw [hv] at h
      cases h
    | none =>
      rw [hv] at h
      cases h
      exact ⟨_, rfl⟩
  · rw [ht] at h
    cases h
    exact ⟨message, rfl⟩

theorem nullable_error {text : Option String} {e : Failure} (h : nullable text = .error e) : ∃ message, e = .raised message := by
  cases text with
  | none => cases h
  | some text =>
    change (column text).map some = .error e at h
    cases hc : column text with
    | ok stored =>
      rw [hc] at h
      cases h
    | error e' =>
      rw [hc] at h
      cases h
      exact column_error hc

/-- A text that fits its column is an argument. -/
theorem argument_of_nullable {text : String} {stored : Option String} (h : nullable (some text) = .ok stored) :
    argument text = .ok text := by
  rcases argument_cases text with ht | ⟨message, ht⟩
  · exact ht
  · exfalso
    change (column text).map some = .ok stored at h
    unfold column at h
    rw [ht] at h
    cases h

theorem truthy_eq_some {text : Option String} {t : String} (h : truthy text = some t) : text = some t := by
  cases text with
  | none => cases h
  | some text =>
    unfold truthy at h
    split at h
    · cases h
    · exact h

/-- What a tenant's name in a body is. -/
theorem tenantOf_some {members : List (String × Json)} {tenantId : String} (h : tenantOf members = some tenantId) :
    Json.member "tenant_id" members = some (.str tenantId) := by
  unfold tenantOf at h
  split at h
  · rename_i text htext
    rw [htext, Option.some.inj (truthy_eq_some h)]
  · cases h

theorem Names.unique {req : IngestRequest} {members members' : List (String × Json)} {tenantId tenantId' : String}
    (h : Names env req members tenantId) (h' : Names env req members' tenantId') : members' = members ∧ tenantId' = tenantId := by
  obtain ⟨hbody, htenant⟩ := h
  obtain ⟨hbody', htenant'⟩ := h'
  obtain rfl : members = members' := Json.obj.inj (Read.value.inj (hbody.symm.trans hbody'))
  exact ⟨rfl, Option.some.inj (htenant'.symm.trans htenant)⟩

/-! ## Recording -/

section

variable {ch : Choice S} {s : State S} {req : IngestRequest}

/-- A refusal whose headers fit is recorded. -/
theorem answer_rejectRecorded {α : Type} (hch : ch.Quiet) {correlationId keyId : Option String}
    (hc : nullable req.correlationId = .ok correlationId) (hk : nullable req.keyId = .ok keyId) (reason : String)
    (statusCode : Nat) (code message : String) :
    answer ch (rejectRecorded req reason statusCode code message : Program α) s =
      some (.error (.rejection statusCode code message false),
        { s with gate := { s.gate with rejections := s.gate.rejections ++ [⟨correlationId, keyId, reason⟩] } }) := by
  have hrecord : s.perform ch (.recordRejection req.correlationId req.keyId reason) =
      (.ok (), { s with gate := { s.gate with rejections := s.gate.rejections ++ [⟨correlationId, keyId, reason⟩] } }) := by
    unfold State.perform Gate.recordRejection
    dsimp only
    rw [hc, hk]
    rfl
  unfold rejectRecorded
  rw [answer_bind_ok (answer_step hch hrecord)]
  rfl

/-- A refusal whose headers do not fit raises, and writes nothing. -/
theorem answer_rejectRaises {α : Type} (hch : ch.Quiet)
    (h : ¬ ((∃ text, nullable req.correlationId = .ok text) ∧ ∃ text, nullable req.keyId = .ok text)) (reason : String)
    (statusCode : Nat) (code message : String) :
    ∃ text, answer ch (rejectRecorded req reason statusCode code message : Program α) s = some (.error (.raised text), s) := by
  have hrecord : ∃ text, s.gate.recordRejection req.correlationId req.keyId reason = .error (.raised text) := by
    unfold Gate.recordRejection
    cases hc : nullable req.correlationId with
    | error e =>
      obtain ⟨text, rfl⟩ := nullable_error hc
      exact ⟨text, rfl⟩
    | ok correlationId =>
      cases hk : nullable req.keyId with
      | error e =>
        obtain ⟨text, rfl⟩ := nullable_error hk
        exact ⟨text, rfl⟩
      | ok keyId => exact absurd ⟨⟨_, hc⟩, _, hk⟩ h
  obtain ⟨text, hrecord⟩ := hrecord
  have hperform : s.perform ch (.recordRejection req.correlationId req.keyId reason) = (.error (.raised text), s) := by
    unfold State.perform
    dsimp only
    rw [hrecord]
    rfl
  refine ⟨text, ?_⟩
  unfold rejectRecorded
  exact answer_bind_error (answer_step hch hperform)

/-! ## The token -/

/-- The verification of the token, when the query for the hash can be made. -/
theorem answer_tokenValid (hch : ch.Quiet) {tenantId : String} (harg : req.bearerToken ≠ none → argument tenantId = .ok tenantId) :
    ∃ valid, answer ch (tokenValid env tenantId req.bearerToken) s = some (.ok valid, s) ∧
      (valid = true ↔ TokenMatches env s.gate tenantId req) := by
  unfold TokenMatches
  cases htoken : req.bearerToken with
  | none =>
    refine ⟨false, rfl, ?_⟩
    simp
  | some token =>
    have hquery : s.gate.apiKeyHash tenantId =
        .ok ((s.gate.apiKeys.find? (fun k => decide (k.tenantId = tenantId))).map (·.apiKeyHash)) := by
      unfold Gate.apiKeyHash
      rw [harg (by rw [htoken]; simp)]
      rfl
    have hperform : s.perform ch (.apiKeyHash tenantId) =
        (.ok ((s.gate.apiKeys.find? (fun k => decide (k.tenantId = tenantId))).map (·.apiKeyHash)), s) := by
      unfold State.perform
      dsimp only
      rw [hquery]
    unfold tokenValid
    rw [answer_bind_ok (answer_step hch hperform), hquery]
    cases hfound : (s.gate.apiKeys.find? (fun k => decide (k.tenantId = tenantId))).map (·.apiKeyHash) with
    | none =>
      refine ⟨false, rfl, ?_⟩
      simp
    | some apiKeyHash =>
      refine ⟨env.argon2Verify apiKeyHash token, rfl, ?_⟩
      simp

/-- The token is not verified when its query cannot be made. -/
theorem answer_tokenRaises (hch : ch.Quiet) {tenantId message : String} (htoken : req.bearerToken ≠ none)
    (harg : argument tenantId = .error (.raised message)) :
    answer ch (tokenValid env tenantId req.bearerToken) s = some (.error (.raised message), s) := by
  obtain ⟨token, htoken⟩ := Option.ne_none_iff_exists'.1 htoken
  rw [htoken]
  have hperform : s.perform ch (.apiKeyHash tenantId) = (.error (.raised message), s) := by
    unfold State.perform Gate.apiKeyHash
    dsimp only
    rw [harg]
    rfl
  unfold tokenValid
  exact answer_bind_error (answer_step hch hperform)

/-- A token that matches was asked for. -/
theorem TokenMatches.argument {g : Gate} {tenantId : String} (h : TokenMatches env g tenantId req) :
    argument tenantId = .ok tenantId := by
  obtain ⟨token, apiKeyHash, -, hquery, -⟩ := h
  unfold Gate.apiKeyHash at hquery
  obtain ⟨t, ht, -⟩ := ok_of_except_bind hquery
  rw [argument_ok ht] at ht
  exact ht

/-! ## Outcomes -/

/-- The verification of a request that names a tenant. -/
theorem verifyAndParse_named {members : List (String × Json)} {tenantId : String} (h : Names env req members tenantId) :
    verifyAndParse env req = (do
      if ← tokenValid env tenantId req.bearerToken then verifySigned env req tenantId (.obj members)
      else rejectRecorded req "invalid_tenant_auth" 401 "unauthorized" "missing or invalid tenant bearer token") := by
  unfold verifyAndParse
  rw [h.1]
  simp only [h.2]

/-- The verification of a request whose token matches. -/
theorem answer_tokenMatches (hch : ch.Quiet) {members : List (String × Json)} {tenantId : String}
    (hnames : Names env req members tenantId) (htoken : TokenMatches env s.gate tenantId req) :
    answer ch (verifyAndParse env req) s = answer ch (verifySigned env req tenantId (.obj members)) s := by
  obtain ⟨valid, hanswer, hvalid⟩ := answer_tokenValid hch (fun _ => htoken.argument)
  obtain rfl := hvalid.2 htoken
  rw [verifyAndParse_named hnames, answer_bind_ok hanswer, if_pos rfl]

/-- The query for the key of a request with both headers. -/
theorem answer_signed (hch : ch.Quiet) {members : List (String × Json)} {tenantId keyId header : String}
    (hsigned : Signed env s.gate req members tenantId keyId header) {key : Option String}
    (hkey : s.gate.getTenantKey tenantId keyId = .ok key) :
    answer ch (verifyAndParse env req) s =
      match key with
      | none => answer ch (do
          if ← step (.keyRegisteredToAnyTenant keyId) then
            rejectRecorded req "tenant_mismatch" 403 "tenant_mismatch" s!"key {keyId} is not registered to tenant {tenantId}"
          else rejectRecorded req "unknown_key" 403 "unknown_key" s!"key {keyId} is not registered") s
      | some publicKeyB64 =>
        answer ch (if verifyEventSignature env req.rawBody header publicKeyB64 then
            parseVerified env req keyId tenantId (.obj members)
          else rejectRecorded req "invalid_signature" 401 "invalid_signature" "signature does not verify") s := by
  have hperform : s.perform ch (.getTenantKey tenantId keyId) = (.ok key, s) := by
    unfold State.perform
    dsimp only
    rw [hkey]
  rw [answer_tokenMatches hch hsigned.names hsigned.token]
  unfold verifySigned
  rw [hsigned.keyId, hsigned.signature]
  dsimp only
  rw [answer_bind_ok (answer_step hch hperform)]
  cases key with
  | none => rfl
  | some publicKeyB64 => rfl

/-- The query for a key answers, or its id is no argument. -/
theorem getTenantKey_cases (g : Gate) {tenantId : String} (ht : RoyaltyGateway.argument tenantId = .ok tenantId) (keyId : String) :
    (∃ key, g.getTenantKey tenantId keyId = .ok key ∧ RoyaltyGateway.argument keyId = .ok keyId) ∨
      ∃ message, RoyaltyGateway.argument keyId = .error (.raised message) ∧ g.getTenantKey tenantId keyId = .error (.raised message) := by
  unfold Gate.getTenantKey
  rw [ht]
  rcases argument_cases keyId with hk | ⟨message, hk⟩
  · rw [hk]
    exact Or.inl ⟨_, rfl, rfl⟩
  · rw [hk]
    exact Or.inr ⟨message, rfl, rfl⟩

/-- What becomes of a request that is refused: its refusal is recorded, or one of its texts is no argument of a query. -/
inductive RefusedAnswer (env : Env) (ch : Choice S) (s : State S) (req : IngestRequest) (reason : String) : Prop where
  | rejects (statusCode : Nat) (code message : String)
      (htenant : ∀ members tenantId, Names env req members tenantId → req.bearerToken ≠ none →
        RoyaltyGateway.argument tenantId = .ok tenantId)
      (h : answer ch (verifyAndParse env req) s =
        answer ch (rejectRecorded req reason statusCode code message) s) : RefusedAnswer env ch s req reason
  | raises (message : String) (hnot : ¬ Recordable env req)
      (h : answer ch (verifyAndParse env req) s = some (.error (.raised message), s)) : RefusedAnswer env ch s req reason

/-- A key that is not registered to the tenant. -/
theorem refused_key (hch : ch.Quiet) {members : List (String × Json)} {tenantId keyId header : String}
    (hsigned : Signed env s.gate req members tenantId keyId header)
    (h : ∀ key, s.gate.getTenantKey tenantId keyId ≠ .ok (some key)) :
    RefusedAnswer env ch s req
      (if s.gate.keyRegisteredToAnyTenant keyId = .ok true then "tenant_mismatch" else "unknown_key") := by
  have ht := hsigned.token.argument
  have htenant : ∀ members' tenantId', Names env req members' tenantId' → req.bearerToken ≠ none →
      RoyaltyGateway.argument tenantId' = .ok tenantId' := by
    intro members' tenantId' hnames _
    rw [(hsigned.names.unique hnames).2]
    exact ht
  rcases getTenantKey_cases s.gate ht keyId with ⟨key, hkey, hid⟩ | ⟨message, hid, hkey⟩
  · cases key with
    | some key => exact absurd hkey (h key)
    | none =>
      have hquery : s.gate.keyRegisteredToAnyTenant keyId =
          .ok (s.gate.tenantKeys.any (fun k => decide (k.keyId = keyId ∧ k.revoked = false))) := by
        unfold Gate.keyRegisteredToAnyTenant
        rw [hid]
        rfl
      have hperform : s.perform ch (.keyRegisteredToAnyTenant keyId) =
          (.ok (s.gate.tenantKeys.any (fun k => decide (k.keyId = keyId ∧ k.revoked = false))), s) := by
        unfold State.perform
        dsimp only
        rw [hquery]
      have hanswer := answer_signed hch hsigned hkey
      simp only at hanswer
      rw [answer_bind_ok (answer_step hch hperform)] at hanswer
      rw [hquery]
      cases hany : s.gate.tenantKeys.any (fun k => decide (k.keyId = keyId ∧ k.revoked = false)) with
      | true =>
        rw [hany, if_pos rfl] at hanswer
        rw [if_pos rfl]
        exact .rejects _ _ _ htenant hanswer
      | false =>
        rw [hany, if_neg Bool.false_ne_true] at hanswer
        rw [if_neg (fun he => by cases he)]
        exact .rejects _ _ _ htenant hanswer
  · refine .raises message (fun hrec => ?_) ?_
    · obtain ⟨text, htext⟩ := hrec.keyId
      rw [truthy_eq_some hsigned.keyId] at htext
      rw [argument_of_nullable htext] at hid
      cases hid
    · have hperform : s.perform ch (.getTenantKey tenantId keyId) = (.error (.raised message), s) := by
        unfold State.perform
        dsimp only
        rw [hkey]
      rw [answer_tokenMatches hch hsigned.names hsigned.token]
      unfold verifySigned
      rw [hsigned.keyId, hsigned.signature]
      dsimp only
      exact answer_bind_error (answer_step hch hperform)

/-- What becomes of a request that is refused. -/
theorem refused_answer (hch : ch.Quiet) {reason : String} (h : Refused env s.gate ch.now req reason) :
    RefusedAnswer env ch s req reason := by
  have htenant : ∀ {members : List (String × Json)} {tenantId : String}, Names env req members tenantId →
      (req.bearerToken ≠ none → RoyaltyGateway.argument tenantId = .ok tenantId) →
      ∀ members' tenantId', Names env req members' tenantId' → req.bearerToken ≠ none →
        RoyaltyGateway.argument tenantId' = .ok tenantId' := by
    intro members tenantId hnames harg members' tenantId' hnames'
    rw [(hnames.unique hnames').2]
    exact harg
  cases h with
  | token members tenantId hnames h =>
    by_cases harg : req.bearerToken ≠ none → RoyaltyGateway.argument tenantId = .ok tenantId
    · obtain ⟨valid, hanswer, hvalid⟩ := answer_tokenValid (s := s) hch harg
      have hno : valid = false := Bool.eq_false_of_not_eq_true (fun he => h (hvalid.1 he))
      subst hno
      refine .rejects 401 "unauthorized" "missing or invalid tenant bearer token" (htenant hnames harg) ?_
      rw [verifyAndParse_named hnames, answer_bind_ok hanswer, if_neg Bool.false_ne_true]
    · obtain ⟨htoken, harg⟩ := Classical.not_imp.1 harg
      rcases argument_cases tenantId with ht | ⟨message, ht⟩
      · exact absurd ht harg
      · refine .raises message (fun hrec => harg (hrec.tenantId members tenantId hnames htoken)) ?_
        rw [verifyAndParse_named hnames]
        exact answer_bind_error (answer_tokenRaises hch htoken ht)
  | headers members tenantId hnames htoken h =>
    refine .rejects 401 "invalid_signature" "missing X-Empire1-Key-Id / X-Empire1-Signature"
      (htenant hnames (fun _ => htoken.argument)) ?_
    rw [answer_tokenMatches hch hnames htoken]
    unfold verifySigned
    split
    · rename_i hkeyId hsignature
      rcases h with h | h
      · rw [h] at hkeyId
        cases hkeyId
      · rw [h] at hsignature
        cases hsignature
    · rfl
  | mismatch members tenantId keyId header hsigned h hany =>
    have hanswer := refused_key hch hsigned h
    rw [if_pos hany] at hanswer
    exact hanswer
  | unknown members tenantId keyId header hsigned h hany =>
    have hanswer := refused_key hch hsigned h
    rw [if_neg hany] at hanswer
    exact hanswer
  | signature members tenantId keyId header key hsigned hkey h =>
    refine .rejects 401 "invalid_signature" "signature does not verify"
      (htenant hsigned.names (fun _ => hsigned.token.argument)) ?_
    rw [answer_signed hch hsigned hkey]
    dsimp only
    rw [h, if_neg Bool.false_ne_true]
  | stale members tenantId keyId header key event occurredAt hsigned hkey hverified hevent htime haware h =>
    refine .rejects 422 "stale_event" "occurred_at is outside the 5 minute replay window"
      (htenant hsigned.names (fun _ => hsigned.token.argument)) ?_
    have hperform : s.perform ch .now = (.ok ch.now, s) := rfl
    rw [answer_signed hch hsigned hkey]
    dsimp only
    rw [hverified, if_pos rfl]
    unfold parseVerified
    rw [hevent]
    dsimp only
    rw [htime]
    dsimp only
    rw [answer_bind_ok (answer_step hch hperform), haware, if_neg (by simp), if_pos h]

/-- A request that is refused is recorded exactly when it can be. -/
theorem recorded_iff (hch : ch.Quiet) {reason : String} (h : Refused env s.gate ch.now req reason) :
    Recorded env req ch s reason ↔ Recordable env req := by
  have hroute : ∀ {e : Failure} {s' : State S}, answer ch (verifyAndParse env req) s = some (.error e, s') →
      answer ch (ingestRoyaltyEvent env req) s = some (.error e, s') := fun h => answer_bind_error h
  cases refused_answer hch h with
  | rejects statusCode code message htenant hanswer =>
    constructor
    · rintro ⟨statusCode', code', message', correlationId, keyId, hrecorded⟩
      by_cases hfits : (∃ text, nullable req.correlationId = .ok text) ∧ ∃ text, nullable req.keyId = .ok text
      · exact ⟨hfits.1, hfits.2, htenant⟩
      · obtain ⟨text, hraises⟩ := answer_rejectRaises (α := VerifiedRequest) (s := s) hch hfits reason statusCode code message
        rw [hroute (hanswer.trans hraises)] at hrecorded
        cases hrecorded
    · rintro ⟨⟨correlationId, hc⟩, ⟨keyId, hk⟩, -⟩
      exact ⟨statusCode, code, message, correlationId, keyId,
        hroute (hanswer.trans (answer_rejectRecorded hch hc hk reason statusCode code message))⟩
  | raises message hnot hanswer =>
    refine ⟨fun hrecorded => ?_, fun hrec => absurd hrec hnot⟩
    obtain ⟨statusCode, code, text, correlationId, keyId, hrecorded⟩ := hrecorded
    rw [hroute hanswer] at hrecorded
    cases hrecorded

/-- A refusal is no admission. -/
theorem answer_rejectRecorded_ne {α : Type} (hch : ch.Quiet) {reason code message : String} {statusCode : Nat} {a : α} {s' : State S} :
    answer ch (rejectRecorded req reason statusCode code message : Program α) s ≠ some (.ok a, s') := by
  intro h
  by_cases hfits : (∃ text, nullable req.correlationId = .ok text) ∧ ∃ text, nullable req.keyId = .ok text
  · obtain ⟨⟨correlationId, hc⟩, keyId, hk⟩ := hfits
    rw [answer_rejectRecorded hch hc hk] at h
    cases h
  · obtain ⟨text, hraises⟩ := answer_rejectRaises (α := α) (s := s) hch hfits reason statusCode code message
    rw [hraises] at h
    cases h

/-- The tenant's key that a query finds. -/
theorem getTenantKey_mem {g : Gate} {tenantId keyId key : String} (h : g.getTenantKey tenantId keyId = .ok (some key)) :
    ∃ k ∈ g.tenantKeys, k.tenantId = tenantId ∧ k.keyId = keyId ∧ k.revoked = false ∧ k.publicKeyB64 = key := by
  unfold Gate.getTenantKey at h
  obtain ⟨t, ht, hrest⟩ := ok_of_except_bind h
  obtain ⟨k, hk, hfound⟩ := ok_of_except_bind hrest
  obtain ⟨row, hrow, hkey⟩ := Option.map_eq_some_iff.1 (Except.ok.inj hfound)
  have hpred := List.find?_some hrow
  have hmatch := of_decide_eq_true hpred
  rw [argument_ok ht, argument_ok hk] at hmatch
  obtain ⟨htenant, hid, hrevoked⟩ := hmatch
  exact ⟨row, List.mem_of_find?_eq_some hrow, htenant, hid, hrevoked, hkey⟩

/-- The hash that a query finds. -/
theorem apiKeyHash_mem {g : Gate} {tenantId hash : String} (h : g.apiKeyHash tenantId = .ok (some hash)) :
    ∃ k ∈ g.apiKeys, k.tenantId = tenantId ∧ k.apiKeyHash = hash := by
  unfold Gate.apiKeyHash at h
  obtain ⟨t, ht, hfound⟩ := ok_of_except_bind h
  obtain ⟨row, hrow, hhash⟩ := Option.map_eq_some_iff.1 (Except.ok.inj hfound)
  have hpred := List.find?_some hrow
  have hmatch := of_decide_eq_true hpred
  rw [argument_ok ht] at hmatch
  exact ⟨row, List.mem_of_find?_eq_some hrow, hmatch, hhash⟩

/-- The last checks of a request that passed. -/
theorem parseVerified_ok (hch : ch.Quiet) {keyId tenantId : String} {body : Json} {v : VerifiedRequest} {s' : State S}
    (h : answer ch (parseVerified env req keyId tenantId body) s = some (.ok v, s')) :
    s' = s ∧ v.tenantId = tenantId ∧ env.modelValidate body = .ok v.event ∧
      ∃ occurredAt, env.fromIsoFormat (zulu v.event.occurredAt) = some occurredAt ∧ occurredAt.aware = true ∧
        |ch.now - occurredAt.micros| ≤ replayWindow := by
  unfold parseVerified at h
  split at h
  · cases h
  · rename_i event hevent
    split at h
    · cases h
    · rename_i occurredAt htime
      have hperform : s.perform ch .now = (.ok ch.now, s) := rfl
      rw [answer_bind_ok (answer_step hch hperform)] at h
      split at h
      · cases h
      · rename_i haware
        split at h
        · exact absurd h (answer_rejectRecorded_ne hch)
        · rename_i hrecent
          cases h
          exact ⟨rfl, rfl, hevent, occurredAt, htime, Bool.eq_true_of_not_eq_false haware, not_lt.1 hrecent⟩

/-- A request that passed has shown all that it must, and wrote nothing. -/
theorem admitted_of_answer (hch : ch.Quiet) {v : VerifiedRequest} {s' : State S}
    (h : answer ch (verifyAndParse env req) s = some (.ok v, s')) : Admitted env s.gate ch.now req v ∧ s' = s := by
  have hbody : ∃ members tenantId, Names env req members tenantId := by
    unfold verifyAndParse at h
    split at h
    · cases h
    · cases h
    · rename_i members hmembers
      split at h
      · cases h
      · rename_i tenantId htenant
        exact ⟨members, tenantId, hmembers, htenant⟩
    · cases h
  obtain ⟨members, tenantId, hnames⟩ := hbody
  have htoken : TokenMatches env s.gate tenantId req := by
    by_contra hno
    cases refused_answer hch (.token members tenantId hnames hno) with
    | rejects statusCode code message _ hanswer =>
      rw [hanswer] at h
      exact answer_rejectRecorded_ne hch h
    | raises message _ hanswer =>
      rw [hanswer] at h
      cases h
  rw [answer_tokenMatches hch hnames htoken] at h
  unfold verifySigned at h
  split at h
  · rename_i keyId header hkeyId hheader
    rcases getTenantKey_cases s.gate htoken.argument keyId with ⟨key, hkey, -⟩ | ⟨message, -, hkey⟩
    · have hperform : s.perform ch (.getTenantKey tenantId keyId) = (.ok key, s) := by
        unfold State.perform
        dsimp only
        rw [hkey]
      rw [answer_bind_ok (answer_step hch hperform)] at h
      cases key with
      | none =>
        dsimp only at h
        cases hany : s.gate.keyRegisteredToAnyTenant keyId with
        | error e =>
          have hperform : s.perform ch (.keyRegisteredToAnyTenant keyId) = (.error e, s) := by
            unfold State.perform
            dsimp only
            rw [hany]
          rw [answer_bind_error (answer_step hch hperform)] at h
          cases h
        | ok any =>
          have hperform : s.perform ch (.keyRegisteredToAnyTenant keyId) = (.ok any, s) := by
            unfold State.perform
            dsimp only
            rw [hany]
          rw [answer_bind_ok (answer_step hch hperform)] at h
          split at h
          · exact absurd h (answer_rejectRecorded_ne hch)
          · exact absurd h (answer_rejectRecorded_ne hch)
      | some publicKeyB64 =>
        dsimp only at h
        split at h
        · rename_i hverified
          obtain ⟨rfl, hv, hevent, hrecent⟩ := parseVerified_ok hch h
          obtain ⟨token, hash, hbearer, hquery, hmatch⟩ := htoken
          obtain ⟨row, hrow, hrowTenant, rfl⟩ := apiKeyHash_mem hquery
          obtain ⟨k, hk, hkTenant, hkId, hrevoked, rfl⟩ := getTenantKey_mem hkey
          refine ⟨⟨⟨members, hnames.1, ?_, hevent⟩, ⟨row, hrow, hrowTenant.trans hv.symm, token, hbearer, hmatch⟩,
            ⟨k, hk, hkTenant.trans hv.symm, ?_, hrevoked, header, truthy_eq_some hheader, hverified⟩, hrecent⟩, rfl⟩
          · rw [hv]
            exact tenantOf_some hnames.2
          · rw [hkId]
            exact truthy_eq_some hkeyId
        · exact absurd h (answer_rejectRecorded_ne hch)
    · have hperform : s.perform ch (.getTenantKey tenantId keyId) = (.error (.raised message), s) := by
        unfold State.perform
        dsimp only
        rw [hkey]
      rw [answer_bind_error (answer_step hch hperform)] at h
      cases h
  · exact absurd h (answer_rejectRecorded_ne hch)

end

end RoyaltyGateway

end Archisynapse
