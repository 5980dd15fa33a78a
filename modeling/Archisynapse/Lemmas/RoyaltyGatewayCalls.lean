import Archisynapse.Lemmas.RoyaltyGatewayStore

/-!
# Calls of the royalty receipt loop

What one call does to the tables, whether it is answered, loses its answer or is not made; the programs whose calls write no
table; and the rules for one call and for such a program in an outline of the machine.
-/

namespace Archisynapse

namespace RoyaltyGateway

variable {S : TransactionService} {env : Env}

/-! ## One call -/

/-- The calls that write neither the keys of idempotency nor the receipts. -/
def Reads : Action → Prop
  | .claimIdempotency _ _ _ => False
  | .completeIdempotency _ _ _ => False
  | .failIdempotency _ _ _ => False
  | .saveRoyaltyReceipt _ => False
  | _ => True

/-- The writes of administrators leave the gateway's own tables and the service. -/
@[simp] theorem State.administer_tables (s : State S) (writes : List AdminWrite) : (s.administer writes).tables = s.tables := rfl

@[simp] theorem State.administer_service (s : State S) (writes : List AdminWrite) : (s.administer writes).service = s.service := rfl

/-- A call was made and answered, was made and lost its answer, or was not made; before it, administrators may have written. -/
theorem exec_cases {o : Action} {ch : Choice S} {s s' : State S} {r : Except Failure o.Result}
    (h : exec o ch s = some (r, s')) :
    (r, s') = (s.administer ch.writes).perform ch o ∨
      ∃ e, r = .error e ∧ (s' = s.administer ch.writes ∨ s' = ((s.administer ch.writes).perform ch o).2) := by
  unfold exec at h
  split at h
  · exact Or.inl (Option.some.inj h).symm
  · cases h
    exact Or.inr ⟨_, rfl, Or.inl rfl⟩
  · cases h
    exact Or.inr ⟨_, rfl, Or.inr rfl⟩

theorem State.record_tables (s : State S) (w : Except Failure Gate) : (s.record w).2.tables = s.tables := by
  cases w with
  | ok gate => rfl
  | error e => rfl

/-- A call that writes no table leaves the tables. -/
theorem perform_reads {o : Action} (ho : Reads o) (ch : Choice S) (s : State S) : (s.perform ch o).2.tables = s.tables := by
  cases o with
  | claimIdempotency t k h => exact ho.elim
  | completeIdempotency t k id => exact ho.elim
  | failIdempotency t k reason => exact ho.elim
  | saveRoyaltyReceipt receipt => exact ho.elim
  | recordRejection correlationId keyId reason => exact s.record_tables _
  | _ => rfl

theorem exec_reads {o : Action} (ho : Reads o) {ch : Choice S} {s s' : State S} {r : Except Failure o.Result}
    (h : exec o ch s = some (r, s')) : s'.tables = s.tables := by
  rcases exec_cases h with h | ⟨e, -, rfl | rfl⟩
  · rw [(Prod.mk.inj h).2]
    exact perform_reads ho ch _
  · rfl
  · exact perform_reads ho ch _

/-- What a write of the tables leaves, however it goes. -/
theorem write_cases {s s' : State S} {r : Except Failure Unit} {w : Except Failure Tables}
    (h : (r, s') = s.write w ∨ ∃ e, r = .error e ∧ (s' = s ∨ s' = (s.write w).2)) :
    (s'.tables = s.tables ∧ ∃ e, r = .error e) ∨ w = .ok s'.tables := by
  cases w with
  | ok tables =>
    rcases h with h | ⟨e, he, rfl | rfl⟩
    · rw [(Prod.mk.inj h).2]
      exact Or.inr rfl
    · exact Or.inl ⟨rfl, e, he⟩
    · exact Or.inr rfl
  | error err =>
    rcases h with h | ⟨e, he, rfl | rfl⟩
    · rw [(Prod.mk.inj h).1, (Prod.mk.inj h).2]
      exact Or.inl ⟨rfl, err, rfl⟩
    · exact Or.inl ⟨rfl, e, he⟩
    · exact Or.inl ⟨rfl, e, he⟩

/-- A receipt is stored, whether this is answered or not, or it raises and the tables are as they were. -/
theorem exec_save {receipt : Receipt} {ch : Choice S} {s s' : State S} {r : Except Failure Unit}
    (h : exec (.saveRoyaltyReceipt receipt) ch s = some (r, s')) :
    (s'.tables = s.tables ∧ ∃ e, r = .error e) ∨ s.tables.saveRoyaltyReceipt receipt = .ok s'.tables :=
  write_cases (s := s.administer ch.writes) (exec_cases h)

/-- A key is completed, whether this is answered or not, or it raises and the tables are as they were. -/
theorem exec_complete {t k id : String} {ch : Choice S} {s s' : State S} {r : Except Failure Unit}
    (h : exec (.completeIdempotency t k id) ch s = some (r, s')) :
    (s'.tables = s.tables ∧ ∃ e, r = .error e) ∨ s.tables.completeIdempotency t k id = .ok s'.tables :=
  write_cases (s := s.administer ch.writes) (exec_cases h)

/-- A key is failed or left alone. -/
theorem exec_fail {t k reason : String} {ch : Choice S} {s s' : State S} {r : Except Failure Unit}
    (h : exec (.failIdempotency t k reason) ch s = some (r, s')) :
    s'.tables = s.tables ∨ s'.tables = s.tables.failIdempotency t k reason := by
  rcases write_cases (s := s.administer ch.writes) (w := .ok (s.tables.failIdempotency t k reason)) (exec_cases h) with ⟨htables, -⟩ | hw
  · exact Or.inl htables
  · exact Or.inr (Except.ok.inj hw).symm

/-- A claim, whether it is answered or not. -/
theorem exec_claim {t k hash : String} {ch : Choice S} {s s' : State S} {r : Except Failure Claim}
    (h : exec (.claimIdempotency t k hash) ch s = some (r, s')) :
    ∃ r', ClaimEffect s.tables t k hash r' s'.tables ∧ ∀ a, r = .ok a → r' = r := by
  have heffect := s.tables.claimIdempotency_effect ch.now t k hash
  have hcases : (r, s') = (s.administer ch.writes).store (s.tables.claimIdempotency ch.now t k hash) ∨
      ∃ e, r = .error e ∧ (s' = s.administer ch.writes ∨
        s' = ((s.administer ch.writes).store (s.tables.claimIdempotency ch.now t k hash)).2) := exec_cases h
  generalize (s.tables.claimIdempotency ch.now t k hash) = a at heffect hcases
  rcases hcases with hr | ⟨e, rfl, rfl | rfl⟩
  · obtain ⟨rfl, rfl⟩ := Prod.mk.inj hr
    exact ⟨_, heffect, fun _ _ => rfl⟩
  · exact ⟨_, .raised e, fun _ _ => rfl⟩
  · exact ⟨_, heffect, fun _ h => by cases h⟩

/-- The receipt of an id as it is loaded, if it is. -/
theorem exec_load {id : String} {ch : Choice S} {s s' : State S} {receipt : Option Receipt}
    (h : exec (.loadRoyaltyReceipt id) ch s = some (.ok receipt, s')) : receipt = s.tables.loadRoyaltyReceipt id := by
  rcases exec_cases h with h | ⟨e, he, -⟩
  · exact Except.ok.inj (Prod.mk.inj h).1
  · cases he

/-! ## Programs that write no table -/

/-- The calls of the verification of a request. -/
def Gates : Action → Prop
  | .apiKeyHash _ => True
  | .getTenantKey _ _ => True
  | .keyRegisteredToAnyTenant _ => True
  | .recordRejection _ _ _ => True
  | .now => True
  | _ => False

theorem reads_ofExcept {α : Type} (x : Except Failure α) : (ofExcept x).Calls Reads := by
  cases x with
  | ok a => exact trivial
  | error e => exact trivial

theorem gates_rejectRecorded {α : Type} (req : IngestRequest) (reason : String) (statusCode : Nat) (code message : String) :
    (rejectRecorded req reason statusCode code message : Program α).Calls Gates :=
  Prog.calls_bind (Prog.calls_perform trivial) (fun _ => trivial)

theorem gates_tokenValid (env : Env) (tenantId : String) (token : Option String) : (tokenValid env tenantId token).Calls Gates := by
  cases token with
  | none => exact trivial
  | some token =>
    refine Prog.calls_bind (Prog.calls_perform trivial) (fun hash => ?_)
    cases hash with
    | none => exact trivial
    | some hash => exact trivial

theorem gates_parseVerified (env : Env) (req : IngestRequest) (keyId tenantId : String) (body : Json) :
    (parseVerified env req keyId tenantId body).Calls Gates := by
  unfold parseVerified
  split
  · exact trivial
  · split
    · exact trivial
    · exact Prog.calls_bind (Prog.calls_perform trivial)
        (fun _ => Prog.calls_ite trivial (Prog.calls_ite (gates_rejectRecorded _ _ _ _ _) trivial))

theorem gates_verifySigned (env : Env) (req : IngestRequest) (tenantId : String) (body : Json) :
    (verifySigned env req tenantId body).Calls Gates := by
  unfold verifySigned
  split
  · refine Prog.calls_bind (Prog.calls_perform trivial) (fun key => ?_)
    cases key with
    | none =>
      exact Prog.calls_bind (Prog.calls_perform trivial)
        (fun _ => Prog.calls_ite (gates_rejectRecorded _ _ _ _ _) (gates_rejectRecorded _ _ _ _ _))
    | some publicKey => exact Prog.calls_ite (gates_parseVerified _ _ _ _ _) (gates_rejectRecorded _ _ _ _ _)
  · exact gates_rejectRecorded _ _ _ _ _

theorem gates_verifyAndParse (env : Env) (req : IngestRequest) : (verifyAndParse env req).Calls Gates := by
  unfold verifyAndParse
  split
  · exact trivial
  · exact trivial
  · split
    · exact trivial
    · exact Prog.calls_bind (gates_tokenValid _ _ _)
        (fun _ => Prog.calls_ite (gates_verifySigned _ _ _ _) (gates_rejectRecorded _ _ _ _ _))
  · exact trivial

theorem reads_of_gates {α : Type} {p : Program α} (hp : p.Calls Gates) : p.Calls Reads := by
  refine hp.mono (fun o ho => ?_)
  cases o with
  | apiKeyHash tenantId => exact trivial
  | getTenantKey tenantId keyId => exact trivial
  | keyRegisteredToAnyTenant keyId => exact trivial
  | recordRejection correlationId keyId reason => exact trivial
  | now => exact trivial
  | _ => exact ho.elim

theorem reads_notExpired (env : Env) (expiresAt : Option Json) : (notExpired env expiresAt).Calls Reads := by
  unfold notExpired
  split
  · exact trivial
  · exact trivial
  · refine Prog.calls_ite trivial ?_
    split
    · exact trivial
    · exact Prog.calls_bind (Prog.calls_perform trivial) (fun _ => trivial)
  · exact trivial

theorem reads_verifyLyrica (env : Env) (event : RoyaltyObligationCreated) : (verifyLyrica env event).Calls Reads := by
  refine Prog.calls_bind (Prog.calls_perform trivial) (fun answer => ?_)
  cases answer with
  | failed => exact trivial
  | raised message => exact trivial
  | answered statusCode json =>
    refine Prog.calls_ite trivial ?_
    split
    · exact trivial
    · exact trivial
    · exact Prog.calls_ite (reads_notExpired _ _) trivial
    · exact trivial

theorem reads_verifyOwnership (env : Env) (event : RoyaltyObligationCreated) : (verifyOwnership env event).Calls Reads := by
  unfold verifyOwnership
  split
  · exact trivial
  · exact reads_verifyLyrica env event
  · exact trivial

theorem reads_evaluateDecision (env : Env) (tenantId : String) (event : RoyaltyObligationCreated) :
    (evaluateDecision env tenantId event).Calls Reads := by
  refine Prog.calls_bind (reads_verifyOwnership env event) (fun valid => ?_)
  exact Prog.calls_ite (Prog.calls_bind (Prog.calls_perform trivial) (fun _ => reads_ofExcept _)) trivial

theorem reads_accepted (answer : ServiceAnswer) : (accepted answer).Calls Reads := by
  unfold accepted
  refine Prog.calls_ite ?_ trivial
  split
  · exact trivial
  · exact trivial

theorem reads_clientCreate (req : CreateRequest) : (clientCreate req).Calls Reads :=
  Prog.calls_bind (Prog.calls_perform trivial) (fun answer => Prog.calls_ite trivial (reads_accepted answer))

theorem reads_clientRequest (req : ServiceRequest) : (clientRequest req).Calls Reads :=
  Prog.calls_bind (Prog.calls_perform trivial) (fun answer => reads_accepted answer)

theorem reads_recordRoyaltyTruth (receipt : Receipt) (stage : TruthStage) (reason : Option String) :
    (recordRoyaltyTruth receipt stage reason).Calls Reads := by
  unfold recordRoyaltyTruth
  split
  · exact trivial
  · exact Prog.calls_perform trivial

theorem reads_recordOutcome (receipt : Receipt) : (recordOutcome receipt).Calls Reads :=
  Prog.calls_bind (reads_recordRoyaltyTruth _ _ _) (fun _ => Prog.calls_ite (reads_recordRoyaltyTruth _ _ _) trivial)

/-- The request of a release or a reversal, whose errors are answered. -/
theorem reads_request (req : ServiceRequest) (answer : Failure → Failure) :
    ((clientRequest req).tryCatch (fun e => Prog.throw (S := signature) (answer e))).Calls Reads :=
  Prog.calls_tryCatch (reads_clientRequest req) (fun _ => trivial)

/-! ## Rules of an outline -/

/-- Going on with a value, or raising. -/
theorem ofExcept_wp {σ α β : Type} {E : (o : Action) → σ → Except Failure o.Result → σ → Prop} {K : Contract σ}
    {Q : Except Failure β → σ → Prop} {x : Except Failure α} {f : α → Program β} {s : σ}
    (herr : ∀ e, x = .error e → Q (.error e) s) (hok : ∀ a, x = .ok a → (f a).wp E K Q s) :
    (ofExcept x >>= f).wp E K Q s := by
  cases x with
  | error e => exact herr e rfl
  | ok a => exact hok a rfl

section

variable {P : Machine.Outline (machine S env)} {C : (machine S env).Cond} {w : Nat} {c : Call} {s : State S}

/-- One call. -/
theorem call_wp {o : Action} {Q : Except Failure o.Result → State S → Prop}
    (h : ∀ s₁, P.rely w c s s₁ → P.inv s₁ → C.step w o s₁ → ∀ ch r s₂, exec o ch s₁ = some (r, s₂) →
      P.inv s₂ ∧ P.guar w c s₁ s₂ ∧ Q r s₂) :
    (step o).wp ((machine S env).Does C w) (P.contract w c) Q s := by
  unfold step
  rw [Prog.wp_perform]
  rintro s₁ hrely hinv r s₂ ⟨hstep, ch, he⟩
  exact h s₁ hrely hinv hstep ch r s₂ he

/-- A program that writes no table ends in a state reached along `R`. -/
theorem reads_wp {α : Type} {p : Program α} (hp : p.Calls Reads) {R : State S → Prop}
    (hkeeps : ∀ s₁ s₂, s₂.tables = s₁.tables → P.inv s₁ → P.inv s₂ ∧ P.guar w c s₁ s₂)
    (hrely : ∀ s₁ s₂, R s₁ → P.rely w c s₁ s₂ → R s₂) (hR : ∀ s₁ s₂, s₂.tables = s₁.tables → R s₁ → R s₂) (hs : R s) :
    p.wp ((machine S env).Does C w) (P.contract w c) (fun _ s' => R s') s := by
  refine Prog.Calls.wp_moves (R := fun _ s => R s) (fun _ b c hb hc => hrely b c hb hc) ?_ hp (t := s) hs
  rintro o s₁ r s₂ ho hinv ⟨-, ch, he⟩
  have htables := exec_reads ho he
  exact ⟨(hkeeps s₁ s₂ htables hinv).1, (hkeeps s₁ s₂ htables hinv).2, fun _ h => hR s₁ s₂ htables h⟩

end

end RoyaltyGateway

end Archisynapse
