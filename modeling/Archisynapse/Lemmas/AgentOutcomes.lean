import Archisynapse.Contracts.Api
import Archisynapse.Lemmas.Fable
import Archisynapse.Lemmas.Reputation

/-!
# Outcomes under a contract

Recording an outcome leaves the contracts and the delivery verdicts as they are, so what a request was checked against still holds
when its outcome is stored. A program of a store runs inside a route by `wp_commerce` and `wp_fable`.
-/

namespace Archisynapse

namespace AgentApi

open Contracts (ServiceContract Failure)

variable {env : Env} {w : Nat} {ch : Choice} {s s' : World}

/-! ## Steps -/

/-- A step on the commerce store answers with what the store answers. -/
theorem exec_commerce {o : Commerce.Action} {r : Except Failure (Except Commerce.CommerceError o.Result)}
    (h : exec env w (.commerce o) ch s = some (r, s')) : ∃ x c, Commerce.exec env.commerce w o ch.commerce s.commerce = some (x, c) ∧
      r = .ok x ∧ s' = { s with commerce := c } := by
  rw [exec] at h
  obtain ⟨⟨x, c⟩, he, heq⟩ := Option.map_eq_some_iff.1 h
  cases heq
  exact ⟨x, c, he, rfl, rfl⟩

/-- A step on the FABLE receipts answers with what they answer. -/
theorem exec_fable {o : Fable.Action} {r : Except Failure (Except Commerce.CommerceError o.Result)}
    (h : exec env w (.fable o) ch s = some (r, s')) : ∃ x f, Fable.exec env.sign w o ch.fable s.fable = some (x, f) ∧
      r = .ok x ∧ s' = { s with fable := f } := by
  rw [exec] at h
  obtain ⟨⟨x, f⟩, he, heq⟩ := Option.map_eq_some_iff.1 h
  cases heq
  exact ⟨x, f, he, rfl, rfl⟩

/-- A step of the service's own that fails leaves everything as it is. -/
theorem Choice.orFail_cases {α : Type} (ch : Choice) (s : World) (outcome : Except Failure α × World) :
    (∃ e, ch.orFail s outcome = (.error e, s)) ∨ ch.orFail s outcome = outcome := by
  unfold Choice.orFail
  cases ch.commerce.fails with
  | some e => exact Or.inl ⟨_, rfl⟩
  | none => exact Or.inr rfl

section

variable {α : Type} {C : (machine env).Cond} {K : Contract World}

/-- A program of the commerce store inside a route. -/
theorem wp_commerce {p : Commerce.Program α} {Q : Except Failure α → World → Prop}
    (hp : p.wp (fun o s r s' => (machine env).Does C w (.commerce o) s (.ok r) s') K
      (fun r s' => Q (Prog.outcome (S := Commerce.signature) (T := signature) Failure.commerce r) s') s) :
    (commerce p).wp ((machine env).Does C w) K Q s := by
  refine Prog.wp_translate (T := signature) (fun o t Q h => ?_) hp
  refine (Prog.wp_perform (S := signature) (.commerce o) t).2 fun t₁ hr hi r t₂ hdoes => ?_
  obtain ⟨-, ch, he⟩ := id hdoes
  obtain ⟨x, -, -, rfl, -⟩ := exec_commerce he
  exact h t₁ hr hi x t₂ hdoes

/-- A program of the FABLE receipts inside a route. -/
theorem wp_fable {p : Fable.Program α} {Q : Except Failure α → World → Prop}
    (hp : p.wp (fun o s r s' => (machine env).Does C w (.fable o) s (.ok r) s') K
      (fun r s' => Q (Prog.outcome (S := Fable.signature) (T := signature) Failure.commerce r) s') s) :
    (fable p).wp ((machine env).Does C w) K Q s := by
  refine Prog.wp_translate (T := signature) (fun o t Q h => ?_) hp
  refine (Prog.wp_perform (S := signature) (.fable o) t).2 fun t₁ hr hi r t₂ hdoes => ?_
  obtain ⟨-, ch, he⟩ := id hdoes
  obtain ⟨x, -, -, rfl, -⟩ := exec_fable he
  exact h t₁ hr hi x t₂ hdoes

/-- A value, or the exception in its place. -/
theorem wp_ofExcept {x : Except Failure α} {P : α → World → Prop} (h : ∀ a, x = .ok a → P a s) :
    (ofExcept x).wp ((machine env).Does C w) K (Prog.Returning P) s := by
  cases x with
  | ok a => exact h a rfl
  | error e => exact trivial

end

/-! ## Verdicts -/

/-- A receipt has a delivery verdict under a contract. -/
def World.Judged (s : World) (receiptId : String) (contract : ServiceContract) : Prop :=
  contract ∈ s.contracts ∧ ∃ v ∈ s.fable.rows,
    v.key.receiptType = "delivery_verdict" ∧ v.key.contractId = some contract.id ∧ v.paymentReceiptId = some receiptId

/-- No receipt has an outcome whose validator is the provider of a contract that its delivery was judged under, unless the
contract allows it. -/
def Independent (s : World) : Prop :=
  ∀ o ∈ s.outcomes, ∀ contract, s.Judged o.receiptId contract → contract.providerSelfVerifyAllowed = false →
    o.validatorId ≠ contract.providerAgentNpub

/-- A request by the provider of such a contract names a contract that does not allow it either. -/
def Attributed (s : World) (receiptId : String) (request : OutcomeRequest) : Prop :=
  ∀ contract, s.Judged receiptId contract → contract.providerSelfVerifyAllowed = false →
    request.validatorId = contract.providerAgentNpub →
    ∃ contractId, Commerce.truthy request.serviceContractId = some contractId ∧
      ∀ named, s.contract contractId = some named → s.Judged receiptId named →
        named.providerSelfVerifyAllowed = false ∧ request.validatorId = named.providerAgentNpub

/-- Only outcomes are recorded, and requests by providers name their contract. -/
def attributed (env : Env) : (machine env).Cond where
  start cfg c := ∃ receiptId request, c = .recordOutcome receiptId request ∧ Attributed cfg.state receiptId request
  step _ _ _ := True

/-- The contracts and the delivery verdicts are those of another state. -/
structure World.SameVerdicts (s t : World) : Prop where
  contracts : t.contracts = s.contracts
  judged : ∀ receiptId contract, t.Judged receiptId contract ↔ s.Judged receiptId contract

theorem World.sameVerdicts_refl (s : World) : s.SameVerdicts s := ⟨rfl, fun _ _ => Iff.rfl⟩

theorem World.SameVerdicts.trans {s t u : World} (h : s.SameVerdicts t) (h' : t.SameVerdicts u) : s.SameVerdicts u :=
  ⟨h'.contracts.trans h.contracts, fun receiptId contract => (h'.judged receiptId contract).trans (h.judged receiptId contract)⟩

theorem World.SameVerdicts.contract {s t : World} (h : s.SameVerdicts t) (id : String) : t.contract id = s.contract id := by
  unfold World.contract
  rw [h.contracts]

theorem World.SameVerdicts.attributed {s t : World} (h : s.SameVerdicts t) {receiptId : String} {request : OutcomeRequest}
    (ha : Attributed t receiptId request) : Attributed s receiptId request := by
  intro contract hj hself hv
  obtain ⟨contractId, htruthy, hnamed⟩ := ha contract ((h.judged _ _).2 hj) hself hv
  exact ⟨contractId, htruthy, fun named hc hj' => hnamed named ((h.contract _).trans hc) ((h.judged _ _).2 hj')⟩

/-- More rows, none of them a delivery verdict. -/
theorem sameVerdicts_of_rows {s t : World} (hc : t.contracts = s.contracts) (hsub : ∀ v ∈ s.fable.rows, v ∈ t.fable.rows)
    (hnew : ∀ v ∈ t.fable.rows, v.key.receiptType = "delivery_verdict" → v ∈ s.fable.rows) : s.SameVerdicts t := by
  refine ⟨hc, fun receiptId contract => ?_⟩
  unfold World.Judged
  rw [hc]
  refine and_congr_right fun _ => ⟨?_, ?_⟩
  · rintro ⟨v, hv, htype, hcontract, hreceipt⟩
    exact ⟨v, hnew v hv htype, htype, hcontract, hreceipt⟩
  · rintro ⟨v, hv, htype, hcontract, hreceipt⟩
    exact ⟨v, hsub v hv, htype, hcontract, hreceipt⟩

/-- The steps that recording an outcome takes beside storing it. -/
def Quiet : Action → Prop
  | .commerce _ => True
  | .fable (.insert args) => args.key.receiptType ≠ "delivery_verdict"
  | .fable _ => True
  | .getContract _ => True
  | .clock => True
  | .createContract _ => False
  | .recordVerifiedOutcome _ => False

/-- A step on the FABLE receipts keeps the rows there are, and adds at most the one it inserts. -/
theorem fable_rows {o : Fable.Action} {fch : Fable.Choice} {f f' : Fable.World} {sign : Fable.Signer}
    {r : Except Commerce.CommerceError o.Result} (h : Fable.exec sign w o fch f = some (r, f')) :
    f'.rows = f.rows ∨ ∃ args, o = .insert args ∧ f'.rows = f.rows ++ [args.receipt sign fch] := by
  unfold Fable.exec at h
  cases hfails : fch.fails with
  | some e =>
    rw [hfails] at h
    cases o with
    | find key =>
      cases h
      exact Or.inl rfl
    | insert args =>
      cases h
      exact Or.inl rfl
    | findDeliveryVerdict contractId receiptId =>
      cases h
      exact Or.inl rfl
  | none =>
    rw [hfails] at h
    cases o with
    | find key =>
      cases h
      split
      · exact Or.inl rfl
      · exact Or.inl rfl
    | insert args =>
      rcases Fable.World.insert_cases (Option.some.inj h) with ⟨e, -, rfl⟩ | ⟨-, rfl⟩
      · exact Or.inl rfl
      · exact Or.inr ⟨args, rfl, rfl⟩
    | findDeliveryVerdict contractId receiptId =>
      cases h
      exact Or.inl rfl

/-- A quiet step leaves contracts, verdicts and outcomes as they are. -/
theorem exec_quiet {o : Action} (ho : Quiet o) {r : Except Failure o.Result} (h : exec env w o ch s = some (r, s')) :
    s.SameVerdicts s' ∧ s'.outcomes = s.outcomes := by
  cases o with
  | commerce o =>
    obtain ⟨x, c, -, -, rfl⟩ := exec_commerce h
    exact ⟨⟨rfl, fun _ _ => Iff.rfl⟩, rfl⟩
  | fable o =>
    obtain ⟨x, f, he, -, rfl⟩ := exec_fable h
    refine ⟨?_, rfl⟩
    rcases fable_rows he with hrows | ⟨args, rfl, hrows⟩
    · exact sameVerdicts_of_rows rfl (fun v hv => hrows ▸ hv) (fun v hv _ => hrows ▸ hv)
    · refine sameVerdicts_of_rows rfl (fun v hv => hrows ▸ List.mem_append_left _ hv) fun v hv htype => ?_
      rcases List.mem_append.1 (hrows ▸ hv) with hv | hv
      · exact hv
      · rw [List.mem_singleton.1 hv] at htype
        exact absurd htype ho
  | createContract args => exact ho.elim
  | getContract contractId =>
    rw [exec] at h
    rcases ch.orFail_cases s (.ok (s.contract contractId), s) with ⟨e, heq⟩ | heq
    · rw [heq] at h
      cases h
      exact ⟨s.sameVerdicts_refl, rfl⟩
    · rw [heq] at h
      cases h
      exact ⟨s.sameVerdicts_refl, rfl⟩
  | clock =>
    rw [exec] at h
    rcases ch.orFail_cases s (.ok ch.commerce.now, s) with ⟨e, heq⟩ | heq
    · rw [heq] at h
      cases h
      exact ⟨s.sameVerdicts_refl, rfl⟩
    · rw [heq] at h
      cases h
      exact ⟨s.sameVerdicts_refl, rfl⟩
  | recordVerifiedOutcome args => exact ho.elim

/-- Reading a contract. -/
theorem exec_getContract {contractId : String} {r : Except Failure (Option ServiceContract)}
    (h : exec env w (.getContract contractId) ch s = some (r, s')) :
    s' = s ∧ ((∃ e, r = .error e) ∨ r = .ok (s.contract contractId)) := by
  rw [exec] at h
  rcases ch.orFail_cases s (.ok (s.contract contractId), s) with ⟨e, heq⟩ | heq
  · rw [heq] at h
    cases h
    exact ⟨rfl, Or.inl ⟨_, rfl⟩⟩
  · rw [heq] at h
    cases h
    exact ⟨rfl, Or.inr rfl⟩

/-- Storing an outcome leaves contracts and verdicts as they are, and adds at most this outcome. -/
theorem exec_recordVerifiedOutcome {args : Reputation.OutcomeArgs} {r : Except Failure Reputation.Summary}
    (h : exec env w (.recordVerifiedOutcome args) ch s = some (r, s')) :
    s.SameVerdicts s' ∧ (s'.outcomes = s.outcomes ∨ ∃ agentNpub, s'.outcomes = s.outcomes ++ [args.stored agentNpub]) := by
  rw [exec] at h
  have hcases := Reputation.recordVerifiedOutcome_cases ⟨env.commerce.verifies, ch.raises⟩ args s.reputation
  cases hrun : Reputation.recordVerifiedOutcome ⟨env.commerce.verifies, ch.raises⟩ args s.reputation with
  | mk x t =>
    rw [hrun] at h hcases
    cases h
    refine ⟨⟨rfl, fun _ _ => Iff.rfl⟩, ?_⟩
    rcases hcases with heq | ⟨receipt, -, heq⟩
    · exact Or.inl (congrArg Reputation.State.outcomes heq)
    · refine Or.inr ⟨receipt.agentNpub, ?_⟩
      rw [show t = _ from heq]
      simp [Reputation.State.record, World.reputation]

/-- A stored outcome keeps the outcomes independent when its validator is no provider who must not judge. -/
theorem Independent.record {s t : World} (h : Independent s) (hsame : s.SameVerdicts t) {args : Reputation.OutcomeArgs}
    (hout : t.outcomes = s.outcomes ∨ ∃ agentNpub, t.outcomes = s.outcomes ++ [args.stored agentNpub])
    (hnew : ∀ contract, s.Judged args.receiptId contract → contract.providerSelfVerifyAllowed = false →
      args.validatorId ≠ contract.providerAgentNpub) : Independent t := by
  intro o ho contract hj hself
  have hj' := (hsame.judged _ _).1 hj
  rcases hout with hout | ⟨agentNpub, hout⟩
  · exact h o (hout ▸ ho) contract hj' hself
  · rcases List.mem_append.1 (hout ▸ ho) with ho | ho
    · exact h o ho contract hj' hself
    · rw [List.mem_singleton.1 ho] at hj' ⊢
      exact hnew contract hj' hself

/-! ## The outline -/

/-- The outline of requests that record outcomes, from a state whose contracts and verdicts they keep. -/
def independence (env : Env) (s₀ : World) : Machine.Outline (machine env) where
  inv s := s₀.SameVerdicts s ∧ Independent s
  rely _ _ _ _ := True
  guar _ _ _ _ := True
  compat _ _ _ _ := True

section

variable {s₀ : World} {c : Request}

/-- A quiet step keeps the outcomes independent. -/
theorem inv_quiet {o : Action} (ho : Quiet o) {r : Except Failure o.Result} (hi : (independence env s₀).inv s)
    (h : exec env w o ch s = some (r, s')) : (independence env s₀).inv s' := by
  obtain ⟨hsame, hout⟩ := exec_quiet ho h
  refine ⟨hi.1.trans hsame, fun o ho contract hj => hi.2 o (hout ▸ ho) contract ((hsame.judged _ _).1 hj)⟩

/-- A program of quiet steps keeps the outline. -/
theorem wp_quiet {α : Type} {p : Program α} (hp : p.Calls Quiet) :
    p.wp ((machine env).Does (attributed env) w) ((independence env s₀).contract w c) (Prog.Returning fun _ _ => True) s := by
  refine Prog.wp_mono ?_ p (Prog.Calls.wp (R := fun a _ => a = s) (fun _ _ _ h _ => h) (fun _ _ _ h _ => h)
    (fun o s r s' ho hi hdoes => ⟨inv_quiet ho hi hdoes.2.choose_spec, trivial⟩) hp rfl)
  intro r s' _
  cases r with
  | ok a => exact trivial
  | error e => exact trivial

/-- A program of quiet steps, and then another. -/
theorem wp_quiet_then {α β : Type} {p : Program α} (hp : p.Calls Quiet) {f : α → Program β} {P : β → World → Prop}
    (hf : ∀ a s', (f a).wp ((machine env).Does (attributed env) w) ((independence env s₀).contract w c) (Prog.Returning P) s') :
    (p >>= f).wp ((machine env).Does (attributed env) w) ((independence env s₀).contract w c) (Prog.Returning P) s :=
  Prog.wp_then (wp_quiet hp) fun a s' _ => hf a s'

/-- A delivery verdict that is found is one of the contract's for the receipt. -/
theorem wp_findDeliveryVerdict {contract : ServiceContract} (hmem : contract ∈ s₀.contracts) (receiptId : String) :
    (fable (Fable.findDeliveryVerdict env.sign contract.id receiptId)).wp ((machine env).Does (attributed env) w)
      ((independence env s₀).contract w c)
      (Prog.Returning fun v _ => v.isSome = true → s₀.Judged receiptId contract) s := by
  refine wp_fable ?_
  unfold Fable.findDeliveryVerdict
  refine (Prog.wp_bind _ _ s).2 ?_
  refine (Prog.wp_perform (S := Fable.signature) (.findDeliveryVerdict contract.id receiptId) s).2 fun s₁ _ hi r s₂ hdoes => ?_
  obtain ⟨-, ch, he⟩ := hdoes
  refine ⟨inv_quiet (o := .fable (.findDeliveryVerdict contract.id receiptId)) trivial hi he, trivial, ?_⟩
  obtain ⟨x, f, hx, hr, rfl⟩ := exec_fable he
  obtain rfl := Except.ok.inj hr
  cases r with
  | error e => exact trivial
  | ok found =>
    cases found with
    | none => exact fun h => Bool.noConfusion h
    | some v =>
      have hjudged : s₀.Judged receiptId contract := by
        unfold Fable.exec at hx
        cases hfails : ch.fable.fails with
        | some e =>
          rw [hfails] at hx
          cases hx
        | none =>
          rw [hfails] at hx
          have hfound : s₁.fable.deliveryVerdict contract.id receiptId = some v :=
            Except.ok.inj (Prod.mk.inj (Option.some.inj hx)).1
          have hmem' := List.mem_filter.1 (Fable.latest_mem hfound)
          obtain ⟨htype, hcontract, hreceipt⟩ := of_decide_eq_true hmem'.2
          exact (hi.1.judged _ _).1 ⟨hi.1.contracts ▸ hmem, v, hmem'.1, htype, hcontract, hreceipt⟩
      dsimp only
      split
      · exact trivial
      · exact fun _ => hjudged

/-- Issuing a final verdict takes quiet steps only. -/
theorem final_quiet {args : Fable.IssueArgs} (hkind : args.key.receiptType ≠ "delivery_verdict") :
    (fable (Fable.issue env.sign args)).Calls Quiet := by
  have hstep : ∀ o : Fable.Action, Quiet (.fable o) → (step (.fable o)).Calls Quiet := fun o ho =>
    Prog.calls_perform (S := signature) (o := .fable o) ho
  refine Prog.calls_translate (T := signature) (P := fun o => Quiet (.fable o)) hstep ?_
  unfold Fable.issue
  refine Prog.calls_bind (Prog.calls_perform (S := Fable.signature) (o := .find args.key) trivial) fun found => ?_
  cases found with
  | none => exact Prog.calls_perform (S := Fable.signature) (o := .insert args) hkind
  | some payload =>
    refine Prog.calls_ite (Prog.calls_throw _) (Prog.calls_ite (Prog.calls_throw _) (Prog.calls_pure _))

/-- A validator that the contract's rules let through is not the provider of a contract that does not allow it. -/
theorem evaluateValidatorOutcome_ok {cenv : Contracts.Env} {contract : ServiceContract} {outcome : Contracts.Outcome}
    {evaluation result : List (String × Json)}
    (h : contract.evaluateValidatorOutcome cenv outcome evaluation = .ok result) :
    ¬ (contract.providerSelfVerifyAllowed = false ∧ outcome.validatorId = contract.providerAgentNpub) := by
  obtain ⟨prior, -, h⟩ := ok_of_except_bind h
  intro hself
  dsimp only at h
  rw [if_pos hself] at h
  cases h

/-- A receipt that is bound to a contract has a delivery verdict. -/
theorem validateReceiptBinding_ok {cenv : Contracts.Env} {contract : ServiceContract} {receipt : Commerce.PaymentReceipt}
    {verdict : Option Fable.FableReceipt} {evaluation : List (String × Json)}
    (h : contract.validateReceiptBinding cenv receipt verdict = .ok evaluation) : verdict.isSome = true := by
  cases verdict with
  | some v => rfl
  | none =>
    unfold ServiceContract.validateReceiptBinding at h
    split at h
    · cases h
    split at h
    · cases h
    split at h
    · cases h
    split at h
    · cases h
    · cases h

/-- Storing an outcome of a request that may. -/
theorem wp_recordVerifiedOutcome {args : Reputation.OutcomeArgs}
    (hnew : ∀ contract, s₀.Judged args.receiptId contract → contract.providerSelfVerifyAllowed = false →
      args.validatorId ≠ contract.providerAgentNpub) :
    (step (.recordVerifiedOutcome args)).wp ((machine env).Does (attributed env) w) ((independence env s₀).contract w c)
      (Prog.Returning fun _ _ => True) s := by
  refine (Prog.wp_perform (S := signature) (.recordVerifiedOutcome args) s).2 fun s₁ _ hi r s₂ hdoes => ?_
  obtain ⟨-, ch, (he : exec env w (.recordVerifiedOutcome args) ch s₁ = some (r, s₂))⟩ := hdoes
  obtain ⟨hsame, hout⟩ := exec_recordVerifiedOutcome he
  refine ⟨⟨hi.1.trans hsame, hi.2.record hsame hout fun contract hj => hnew contract ((hi.1.judged _ _).1 hj)⟩, trivial, ?_⟩
  cases r with
  | ok a => exact trivial
  | error e => exact trivial

/-- A request that names its contract where it must keeps the outcomes independent. -/
theorem recordOutcome_keeps {receiptId : String} {request : OutcomeRequest} (ha : Attributed s₀ receiptId request) :
    (recordOutcome env receiptId request).wp ((machine env).Does (attributed env) w) ((independence env s₀).contract w c)
      (Prog.Returning fun _ _ => True) s := by
  unfold recordOutcome
  cases htruthy : Commerce.truthy request.serviceContractId with
  | none =>
    refine Prog.wp_then (wp_recordVerifiedOutcome fun contract hj hself hv => ?_) fun _ _ _ => trivial
    obtain ⟨contractId, hsome, -⟩ := ha contract hj hself hv
    rw [htruthy] at hsome
    cases hsome
  | some contractId =>
    dsimp only
    have hread : (step (.getContract contractId)).wp ((machine env).Does (attributed env) w)
        ((independence env s₀).contract w c) (Prog.Returning fun found _ => found = s₀.contract contractId) s := by
      refine (Prog.wp_perform (S := signature) (.getContract contractId) s).2 fun s₁ _ hi r s₂ hdoes => ?_
      obtain ⟨-, ch, (he : exec env w (.getContract contractId) ch s₁ = some (r, s₂))⟩ := hdoes
      refine ⟨inv_quiet (o := .getContract contractId) trivial hi he, trivial, ?_⟩
      rcases (exec_getContract he).2 with ⟨e, rfl⟩ | rfl
      · exact trivial
      · exact hi.1.contract contractId
    refine Prog.wp_then hread fun found s₁ hfound => ?_
    cases found with
    | none => exact trivial
    | some contract =>
      have hmem : contract ∈ s₀.contracts := List.mem_of_find?_eq_some hfound.symm
      refine wp_quiet_then ?_ fun receipt s₂ => ?_
      · exact Prog.calls_translate (T := signature) (P := fun _ => True)
          (fun o _ => Prog.calls_perform (S := signature) (o := .commerce o) trivial)
          (Prog.calls_perform (S := Commerce.signature) (o := .getReceipt receiptId) trivial)
      cases receipt with
      | none => exact trivial
      | some receipt =>
        refine Prog.wp_then (wp_findDeliveryVerdict hmem receiptId) fun verdict s₃ hverdict => ?_
        refine Prog.wp_then (wp_ofExcept (P := fun _ _ => s₀.Judged receiptId contract)
          fun evaluation hbound => hverdict (validateReceiptBinding_ok hbound)) fun evaluation s₄ hjudged => ?_
        refine Prog.wp_then (wp_ofExcept (P := fun _ _ => ¬ (contract.providerSelfVerifyAllowed = false ∧
          request.validatorId = contract.providerAgentNpub)) fun result hresult => evaluateValidatorOutcome_ok hresult)
          fun result s₅ hallowed => ?_
        refine Prog.wp_then (wp_recordVerifiedOutcome fun other hj hself hv => ?_) fun reputation s₆ _ => ?_
        · obtain ⟨id, hid, hnamed⟩ := ha other hj hself hv
          obtain rfl := Option.some.inj (htruthy.symm.trans hid)
          exact hallowed (hnamed contract hfound.symm hjudged)
        · exact wp_quiet_then (final_quiet (show "final_sla_verdict" ≠ "delivery_verdict" by decide)) fun _ _ => trivial

end

/-- Requests that name their contract where they must keep the outcomes independent. -/
theorem independence_sound (env : Env) (s₀ : World) : (independence env s₀).Sound (attributed env) where
  refl _ _ _ := trivial
  trans _ _ _ _ _ _ _ := trivial
  symm _ _ _ _ _ := trivial
  guar _ _ _ _ _ _ _ _ _ _ := trivial
  start cfg c hi hstart := by
    obtain ⟨receiptId, request, rfl, ha⟩ := hstart
    refine ⟨fun _ _ => trivial, ?_⟩
    have hkeeps : (recordOutcome env receiptId request).wp ((machine env).Does (attributed env) cfg.started)
        ((independence env s₀).contract cfg.started (.recordOutcome receiptId request))
        (Prog.Returning fun _ _ => True) cfg.state := recordOutcome_keeps (hi.1.attributed ha)
    refine Prog.wp_mono (fun _ _ _ => trivial) _ (Prog.wp_then hkeeps (P := fun _ _ => True) fun _ _ _ => trivial)
  crash w s hi := ⟨⟨hi.1.trans ⟨rfl, fun _ _ => Iff.rfl⟩, hi.2⟩, fun _ _ _ => trivial⟩

end AgentApi

end Archisynapse
