import Archisynapse.Lemmas.CommerceSessions
import Archisynapse.Reputation.Store
import Mathlib.Algebra.BigOperators.Group.List.Basic
import Mathlib.Algebra.Order.BigOperators.Group.List

/-!
# Reputation from evidence

`Supported` ties the rows of `agent_reputation` to the outcomes stored for the agents' receipts: a row is what the outcomes come to
(`State.reputationOf`). A call leaves the tables as they are, or adds one outcome of a receipt that had none and counts it
(`recordVerifiedOutcome_cases`).
-/

namespace Archisynapse

namespace Reputation

open Exec (throw gets modify transaction)
open Commerce (PaymentReceipt Session StoreCall)

/-! ## Evidence -/

@[simp] theorem OutcomeArgs.stored_receiptId (args : OutcomeArgs) (agentNpub : String) :
    (args.stored agentNpub).receiptId = args.receiptId := rfl

@[simp] theorem OutcomeArgs.stored_success (args : OutcomeArgs) (agentNpub : String) :
    (args.stored agentNpub).success = args.success := rfl

@[simp] theorem OutcomeArgs.stored_qualityScore (args : OutcomeArgs) (agentNpub : String) :
    (args.stored agentNpub).qualityScore = args.qualityScore := rfl

@[simp] theorem OutcomeArgs.stored_latencyMs (args : OutcomeArgs) (agentNpub : String) :
    (args.stored agentNpub).latencyMs = args.latencyMs := rfl

/-- What the receipt of an outcome debited. -/
def State.paid (s : State) (o : VerifiedOutcome) : Int := (s.receipt o.receiptId).elim 0 (·.totalDebitSats)

/-- The stored outcomes of the receipts of an agent. -/
def State.evidence (s : State) (agentNpub : String) : List VerifiedOutcome :=
  s.outcomes.filter (fun o => decide ((s.receipt o.receiptId).map (·.agentNpub) = some agentNpub))

/-- The row that outcomes come to: their number, sums and score; none for no outcomes. -/
def State.reputationOf (s : State) (agentNpub : String) (l : List VerifiedOutcome) : Option AgentReputation :=
  if l = [] then none
  else some
    { agentNpub
      verifiedJobs := l.length
      successfulJobs := l.countP (fun o => o.success)
      failedJobs := l.countP (fun o => !o.success)
      totalPaidSats := (l.map s.paid).sum
      latencySumMs := (l.map (·.latencyMs)).sum
      qualitySum := (l.map (·.qualityScore)).sum
      score := score l.length (l.countP (fun o => o.success)) (l.map (·.qualityScore)).sum }

/-- The order of the outcomes does not matter. -/
theorem reputationOf_perm {s s' : State} (agentNpub : String) {l l' : List VerifiedOutcome} (h : l.Perm l')
    (hpaid : ∀ o ∈ l, s.paid o = s'.paid o) : s.reputationOf agentNpub l = s'.reputationOf agentNpub l' := by
  have hsums : (l.map s.paid).sum = (l'.map s'.paid).sum := by
    rw [List.map_congr_left hpaid]
    exact (h.map s'.paid).sum_eq
  have hnil : l = [] ↔ l' = [] := ⟨fun hl => List.perm_nil.1 (hl ▸ h.symm), fun hl => List.perm_nil.1 (hl ▸ h)⟩
  unfold State.reputationOf
  by_cases hl : l = []
  · rw [if_pos hl, if_pos (hnil.1 hl)]
  · rw [if_neg hl, if_neg (fun h' => hl (hnil.2 h')), h.length_eq, h.countP_eq, h.countP_eq, hsums, (h.map _).sum_eq,
      (h.map _).sum_eq]

/-- Each number of the row that outcomes come to, zero when there is no row. -/
theorem reputationOf_elim (s : State) (agentNpub : String) (l : List VerifiedOutcome) :
    (s.reputationOf agentNpub l).elim 0 (·.verifiedJobs) = l.length ∧
    (s.reputationOf agentNpub l).elim 0 (·.successfulJobs) = l.countP (fun o => o.success) ∧
    (s.reputationOf agentNpub l).elim 0 (·.failedJobs) = l.countP (fun o => !o.success) ∧
    (s.reputationOf agentNpub l).elim 0 (·.totalPaidSats) = (l.map s.paid).sum ∧
    (s.reputationOf agentNpub l).elim 0 (·.latencySumMs) = (l.map (·.latencyMs)).sum ∧
    (s.reputationOf agentNpub l).elim 0 (·.qualitySum) = (l.map (·.qualityScore)).sum := by
  unfold State.reputationOf
  split
  · rename_i hl
    subst hl
    simp
  · simp

/-- One more outcome is counted as the code counts it. -/
theorem reputationOf_concat (s : State) (agentNpub : String) (l : List VerifiedOutcome) (args : OutcomeArgs) {receipt : PaymentReceipt}
    (hreceipt : s.receipt args.receiptId = some receipt) :
    s.reputationOf agentNpub (l ++ [args.stored receipt.agentNpub]) =
      some (.next agentNpub (s.reputationOf agentNpub l) args receipt.totalDebitSats) := by
  have hpaid : s.paid (args.stored receipt.agentNpub) = receipt.totalDebitSats := by
    simp [State.paid, hreceipt]
  have hlast : ∀ (p : VerifiedOutcome → Bool), (((l ++ [args.stored receipt.agentNpub]).countP p : Nat) : Int) =
      l.countP p + if p (args.stored receipt.agentNpub) then 1 else 0 := by
    intro p
    rw [List.countP_append, List.countP_singleton]
    split <;> simp
  obtain ⟨hverified, hsuccessful, hfailedJobs, htotal, hlatency, hquality⟩ := reputationOf_elim s agentNpub l
  rw [State.reputationOf, if_neg (by simp), AgentReputation.next, hverified, hsuccessful, hfailedJobs, htotal, hlatency, hquality]
  simp only [hlast, hpaid, OutcomeArgs.stored_success, OutcomeArgs.stored_qualityScore,
    OutcomeArgs.stored_latencyMs, List.length_append, List.length_singleton, List.map_append, List.map_cons,
    List.map_nil, List.sum_append, List.sum_singleton, Nat.cast_add, Nat.cast_one]
  by_cases hs : args.success = true <;> simp [hs]

/-! ## What a call does -/

/-- A receipt's outcome is stored and counted. -/
def State.record (s : State) (args : OutcomeArgs) (receipt : PaymentReceipt) : State :=
  { s with outcomes := s.outcomes ++ [args.stored receipt.agentNpub] }.upsertAgent
    (.next receipt.agentNpub (s.agent receipt.agentNpub) args receipt.totalDebitSats)

/-- The receipt was there, it had no outcome, and the outcome is in bounds. -/
structure State.Admits (s : State) (args : OutcomeArgs) (receipt : PaymentReceipt) : Prop where
  receipt : s.receipt args.receiptId = some receipt
  fresh : s.outcome args.receiptId = none
  quality : 0 ≤ args.qualityScore ∧ args.qualityScore ≤ 1
  latency : 0 ≤ args.latencyMs

theorem statement_reads (env : Env) (st : Statement) : Exec.Reads (env.statement st) := by
  unfold Env.statement
  split
  · exact Exec.reads_throw _
  · exact Exec.reads_pure _

theorem get_reads (env : Env) (agentNpub : String) : Exec.Reads (get env agentNpub) := by
  refine (statement_reads env .get).bind (fun _ => rfl) (fun _ => ?_)
  refine (Exec.reads_gets _).bind (fun _ => rfl) (fun _ => ?_)
  exact Exec.reads_pure _

/-- A statement that returned, and what comes after it. -/
theorem statement_bind_ok {α : Type} {env : Env} {st : Statement} {f : Unit → Operation α} {a : α} {s s' : State}
    (h : (env.statement st >>= f) s = (.ok a, s')) : f () s = (.ok a, s') := by
  obtain ⟨_, s₁, h₁, h₂⟩ := Exec.bind_eq_ok.1 h
  obtain rfl := statement_reads env st s _ s₁ h₁
  exact h₂

/-- A transaction that returned: the outcome was stored already, or it is stored now. -/
theorem recordTransaction_ok {env : Env} {args : OutcomeArgs} {receipt : PaymentReceipt} {r : Option Summary} {s s' : State}
    (h : recordTransaction env args receipt s = (.ok r, s')) :
    s' = s ∨ (s.outcome args.receiptId = none ∧ s' = s.record args receipt) := by
  have hbody := statement_bind_ok (statement_bind_ok (Exec.transaction_eq_ok.1 h))
  rw [Exec.gets_bind] at hbody
  cases hex : s.outcome args.receiptId with
  | some existing =>
    rw [hex] at hbody
    rcases Exec.ite_eq_ok.1 hbody with ⟨-, hraise⟩ | ⟨-, hsame⟩
    · exact absurd hraise (by simp [raise])
    · obtain ⟨found, s₁, hget, hrest⟩ := Exec.bind_eq_ok.1 hsame
      obtain rfl := get_reads env _ _ _ _ hget
      have hpure := statement_bind_ok hrest
      exact Or.inl (Exec.pure_eq_ok.1 hpure).2.symm
  | none =>
    rw [hex] at hbody
    obtain ⟨_, s₁, hinsert, hselect⟩ := Exec.bind_eq_ok.1 (statement_bind_ok hbody)
    have hcurrent := statement_bind_ok hselect
    rw [Exec.gets_bind] at hcurrent
    obtain ⟨_, s₂, hupsert, hrest⟩ := Exec.bind_eq_ok.1 (statement_bind_ok hcurrent)
    obtain rfl := Exec.modify_eq_ok.1 hinsert
    obtain rfl := Exec.modify_eq_ok.1 hupsert
    have hpure := statement_bind_ok (statement_bind_ok hrest)
    exact Or.inr ⟨rfl, (Exec.pure_eq_ok.1 hpure).2.symm⟩

/-- What `receipts.get` returns is the receipt with the id. -/
theorem getReceipt_eq_ok {env : Env} {receiptId : String} {receipt : Option PaymentReceipt} {s s' : State}
    (h : getReceipt env receiptId s = (.ok receipt, s')) : s.receipt receiptId = receipt ∧ s' = s := by
  obtain ⟨hread, rfl⟩ := Prod.mk.inj h
  refine ⟨?_, rfl⟩
  unfold State.receipt
  unfold Commerce.getReceipt at hread
  rw [Exec.gets_bind] at hread
  cases hf : s.session.store.receipts.find? (fun r => decide (r.id = receiptId)) with
  | none =>
    rw [hf] at hread
    exact Except.ok.inj hread
  | some p =>
    rw [hf] at hread
    dsimp only at hread
    by_cases hv : env.verifies p
    · rw [if_pos hv] at hread
      exact Except.ok.inj hread
    · rw [if_neg hv] at hread
      exact absurd hread (by simp [Commerce.raise, Exec.throw])

theorem getReceipt_reads (env : Env) (receiptId : String) : Exec.Reads (getReceipt env receiptId) :=
  fun _ _ _ h => (Prod.mk.inj h).2.symm

/-- A call leaves the tables as they are, or stores and counts the first outcome of a receipt. -/
theorem recordVerifiedOutcome_cases (env : Env) (args : OutcomeArgs) (s : State) :
    (recordVerifiedOutcome env args s).2 = s ∨
    ∃ receipt, s.Admits args receipt ∧ (recordVerifiedOutcome env args s).2 = s.record args receipt := by
  unfold recordVerifiedOutcome
  by_cases hq : ¬ (0 ≤ args.qualityScore ∧ args.qualityScore ≤ 1)
  · rw [if_pos hq]
    exact Or.inl rfl
  rw [if_neg hq]
  by_cases hl : args.latencyMs < 0
  · rw [if_pos hl]
    exact Or.inl rfl
  rw [if_neg hl]
  cases hr : getReceipt env args.receiptId s with
  | mk found s₁ =>
    obtain rfl := getReceipt_reads env _ _ _ _ hr
    cases found with
    | error e =>
      refine Or.inl ?_
      simp only [bind, hr]
    | ok found =>
      obtain ⟨hfound, -⟩ := getReceipt_eq_ok hr
      rw [Exec.bind_ok hr]
      cases found with
      | none => exact Or.inl rfl
      | some receipt =>
        dsimp only
        cases ht : recordTransaction env args receipt s₁ with
        | mk out s₂ =>
          cases out with
          | error e =>
            refine Or.inl ?_
            simp only [bind, ht]
            exact Exec.transaction_eq_error ht
          | ok out =>
            rw [Exec.bind_ok ht]
            have hend : s₂ = s₁ ∨ ∃ receipt, s₁.Admits args receipt ∧ s₂ = s₁.record args receipt := by
              rcases recordTransaction_ok ht with hsame | ⟨hfresh, hrecord⟩
              · exact Or.inl hsame
              · exact Or.inr ⟨receipt, ⟨hfound, hfresh, not_not.1 hq, not_lt.1 hl⟩, hrecord⟩
            cases out with
            | some found => exact hend
            | none =>
              have hget : (get env receipt.agentNpub s₂).2 = s₂ := get_reads env receipt.agentNpub s₂ _ _ rfl
              simp only [hget]
              exact hend

/-! ## Receipts stay -/

/-- An operation of the agent-commerce store removes no receipt. -/
theorem run_receipts (c : StoreCall) (s : Commerce.Store) : s.receipts <+: (c.run s).2.receipts := by
  cases hr : c.run s with
  | mk r s' =>
    cases r with
    | error e =>
      obtain rfl := c.run_rollsBack s s' e hr
      exact List.prefix_refl _
    | ok rs =>
      have hchange : ∀ {t : Commerce.Store}, Commerce.Change s t → s.receipts <+: t.receipts := by
        intro t h
        cases h with
        | finalize => exact List.prefix_append _ _
        | _ => exact List.prefix_refl _
      cases c with
      | create now uuid args =>
        obtain ⟨a, h, -⟩ := Commerce.bind_pure_ok hr
        exact hchange (Commerce.create_change h)
      | revoke id =>
        obtain ⟨a, h, -⟩ := Commerce.bind_pure_ok hr
        exact hchange (Commerce.revoke_change h)
      | reserve now uuid tolerance args =>
        obtain ⟨a, h, -⟩ := Commerce.bind_pure_ok hr
        exact hchange (Commerce.reserve_change h)
      | getReservation id =>
        obtain rfl := (Prod.mk.inj hr).2
        exact List.prefix_refl _
      | bindInvoice id invoice =>
        obtain ⟨a, h, -⟩ := Commerce.bind_pure_ok hr
        exact hchange (Commerce.bindInvoice_change h)
      | markPaymentInitiated id =>
        obtain ⟨a, h, -⟩ := Commerce.bind_pure_ok hr
        exact hchange (Commerce.markPaymentInitiated_change h)
      | markPaid id args =>
        obtain ⟨a, h, -⟩ := Commerce.bind_pure_ok hr
        exact hchange (Commerce.markPaid_change h)
      | release id =>
        obtain ⟨a, h, -⟩ := Commerce.bind_pure_ok hr
        exact hchange (Commerce.release_change h)
      | finalizePaidCall uuid verifies args =>
        obtain ⟨a, h, -⟩ := Commerce.bind_pure_ok hr
        obtain ⟨-, ⟨rfl, -, -⟩ | ⟨_, _, -, -, -, -, -, -, rfl⟩⟩ := Commerce.finalizePaidCall_ok h
        · exact List.prefix_refl _
        · exact List.prefix_append _ _

/-- A receipt that is there stays, whatever the agent-commerce store does. -/
theorem receipt_of_session {s : State} {c : StoreCall} {receiptId : String} {receipt : PaymentReceipt}
    (h : s.receipt receiptId = some receipt) :
    State.receipt { s with session := s.session.step c } receiptId = some receipt := by
  have hprefix : s.session.store.receipts <+: (s.session.step c).store.receipts := by
    have hrun := run_receipts c s.session.store
    unfold Session.step
    split
    · split
      · rename_i rs t hr
        rw [hr] at hrun
        exact hrun
      · rename_i e t hr
        rw [hr] at hrun
        exact hrun
    · exact List.prefix_refl _
  obtain ⟨more, hmore⟩ := hprefix
  unfold State.receipt at h ⊢
  rw [← hmore, List.find?_append, h, Option.some_or]

/-! ## The upsert -/

@[simp] theorem upsertAgent_outcomes (s : State) (row : AgentReputation) : (s.upsertAgent row).outcomes = s.outcomes := by
  unfold State.upsertAgent
  split <;> rfl

@[simp] theorem upsertAgent_session (s : State) (row : AgentReputation) : (s.upsertAgent row).session = s.session := by
  unfold State.upsertAgent
  split <;> rfl

/-- The rows after an upsert. -/
theorem upsertAgent_agent (s : State) (row : AgentReputation) (agentNpub : String) :
    (s.upsertAgent row).agent agentNpub = if agentNpub = row.agentNpub then some row else s.agent agentNpub := by
  unfold State.upsertAgent
  split
  · rename_i hsome
    -- the update writes the same row as one that keeps the key of every row
    have hsame : updateKey (·.agentNpub) row.agentNpub (fun _ => row) s.agents =
        updateKey (·.agentNpub) row.agentNpub (fun x => if x.agentNpub = row.agentNpub then row else x) s.agents := by
      refine List.map_congr_left (fun x _ => ?_)
      by_cases hx : x.agentNpub = row.agentNpub
      · simp [hx]
      · simp [hx]
    have hkey : ∀ x : AgentReputation, (if x.agentNpub = row.agentNpub then row else x).agentNpub = x.agentNpub := by
      intro x
      split
      · rename_i hx
        exact hx.symm
      · rfl
    unfold State.agent at hsome ⊢
    dsimp only
    rw [hsame, find?_updateKey hkey]
    by_cases ha : agentNpub = row.agentNpub
    · subst ha
      obtain ⟨x, hx⟩ := Option.isSome_iff_exists.1 hsome
      have hid : x.agentNpub = row.agentNpub := by simpa using List.find?_some hx
      rw [hx, if_pos rfl, Option.map_some, if_pos rfl, if_pos hid]
    · rw [if_neg ha]
      simp only [ha, if_false, Option.map_id']
  · rename_i hnone
    unfold State.agent at hnone ⊢
    dsimp only
    rw [find?_concat]
    by_cases ha : agentNpub = row.agentNpub
    · subst ha
      rw [Option.not_isSome_iff_eq_none.1 hnone, if_pos rfl, Option.none_or]
    · rw [if_neg ha, if_neg (fun h => ha h.symm), Option.or_none]

/-! ## The invariant -/

/-- Every row is what the outcomes of the agent's receipts come to; every outcome is that of a receipt of its agent, in bounds, and
the only one of its receipt. -/
structure Supported (s : State) : Prop where
  receiptIds : (s.outcomes.map (·.receiptId)).Nodup
  known : ∀ o ∈ s.outcomes, ∃ receipt, s.receipt o.receiptId = some receipt ∧ receipt.agentNpub = o.agentNpub
  quality : ∀ o ∈ s.outcomes, 0 ≤ o.qualityScore ∧ o.qualityScore ≤ 1
  agents : ∀ agentNpub, s.agent agentNpub = s.reputationOf agentNpub (s.evidence agentNpub)

theorem supported_init (session : Session) : Supported (.init session) :=
  ⟨List.nodup_nil, by simp [State.init], by simp [State.init], fun _ => rfl⟩

/-- The evidence of an agent, by the agent that is stored with it. -/
theorem Supported.evidence {s : State} (h : Supported s) (agentNpub : String) :
    s.evidence agentNpub = s.outcomes.filter (fun o => decide (o.agentNpub = agentNpub)) := by
  refine List.filter_congr (fun o ho => ?_)
  obtain ⟨receipt, hreceipt, hagent⟩ := h.known o ho
  rw [hreceipt, ← hagent]
  simp

/-- Operations of the agent-commerce store. -/
theorem Supported.commerce {s : State} (h : Supported s) (c : StoreCall) : Supported { s with session := s.session.step c } := by
  have hknown : ∀ o ∈ s.outcomes, ∃ receipt, State.receipt { s with session := s.session.step c } o.receiptId = some receipt ∧
      receipt.agentNpub = o.agentNpub := by
    intro o ho
    obtain ⟨receipt, hreceipt, hagent⟩ := h.known o ho
    exact ⟨receipt, receipt_of_session hreceipt, hagent⟩
  refine ⟨h.receiptIds, hknown, h.quality, fun agentNpub => ?_⟩
  have hevidence : State.evidence { s with session := s.session.step c } agentNpub = s.evidence agentNpub := by
    refine List.filter_congr (fun o ho => ?_)
    obtain ⟨receipt, hreceipt, -⟩ := h.known o ho
    rw [hreceipt, receipt_of_session hreceipt]
  rw [hevidence]
  refine (h.agents agentNpub).trans (reputationOf_perm agentNpub (List.Perm.refl _) (fun o ho => ?_))
  obtain ⟨receipt, hreceipt, -⟩ := h.known o (List.mem_of_mem_filter ho)
  unfold State.paid
  rw [hreceipt, receipt_of_session hreceipt]

/-- An outcome that is stored and counted. -/
theorem Supported.record {s : State} (h : Supported s) {args : OutcomeArgs} {receipt : PaymentReceipt}
    (ha : s.Admits args receipt) : Supported (s.record args receipt) := by
  have hreceipt : ∀ receiptId, (s.record args receipt).receipt receiptId = s.receipt receiptId := by
    intro receiptId
    simp [State.record, State.receipt]
  have houtcomes : (s.record args receipt).outcomes = s.outcomes ++ [args.stored receipt.agentNpub] := by
    simp [State.record]
  have hpaid : (s.record args receipt).paid = s.paid := by
    funext o
    simp only [State.paid, hreceipt]
  have hevidence : ∀ agentNpub, (s.record args receipt).evidence agentNpub =
      s.evidence agentNpub ++ if receipt.agentNpub = agentNpub then [args.stored receipt.agentNpub] else [] := by
    intro agentNpub
    unfold State.evidence
    rw [houtcomes, List.filter_append]
    simp only [hreceipt, List.filter_cons, List.filter_nil, OutcomeArgs.stored_receiptId, ha.receipt, Option.map_some,
      Option.some.injEq, decide_eq_true_eq]
  refine ⟨?_, ?_, ?_, ?_⟩
  · rw [houtcomes]
    refine nodup_map_concat h.receiptIds (fun o ho heq => ?_)
    have hnone := List.find?_eq_none.1 ha.fresh o ho
    exact hnone (by simpa using heq)
  · intro o ho
    rw [houtcomes, List.mem_append, List.mem_singleton] at ho
    rcases ho with ho | rfl
    · obtain ⟨p, hp, hagent⟩ := h.known o ho
      exact ⟨p, (hreceipt _).trans hp, hagent⟩
    · exact ⟨receipt, (hreceipt _).trans ha.receipt, rfl⟩
  · intro o ho
    rw [houtcomes, List.mem_append, List.mem_singleton] at ho
    rcases ho with ho | rfl
    · exact h.quality o ho
    · exact ha.quality
  · intro agentNpub
    have hof : ∀ l, (s.record args receipt).reputationOf agentNpub l = s.reputationOf agentNpub l := by
      intro l
      unfold State.reputationOf
      rw [hpaid]
    rw [hof, hevidence]
    refine (upsertAgent_agent _ _ agentNpub).trans ?_
    by_cases hagent : receipt.agentNpub = agentNpub
    · subst hagent
      rw [if_pos rfl, reputationOf_concat s _ _ args ha.receipt, ← h.agents]
      exact if_pos rfl
    · rw [if_neg hagent, List.append_nil]
      exact (if_neg (fun h => hagent h.symm)).trans (h.agents agentNpub)

/-! ## Runs -/

/-- One call keeps the rows supported. -/
theorem Supported.step {s : State} (h : Supported s) (c : Call) : Supported (s.step c) := by
  cases c with
  | commerce c => exact h.commerce c
  | recordVerifiedOutcome env args =>
    change Supported (recordVerifiedOutcome env args s).2
    rcases recordVerifiedOutcome_cases env args s with heq | ⟨receipt, ha, heq⟩
    · rw [heq]
      exact h
    · rw [heq]
      exact h.record ha

/-- Any calls keep the rows supported. -/
theorem Supported.after {s : State} (h : Supported s) (cs : List Call) : Supported (s.after cs) := by
  induction cs generalizing s with
  | nil => exact h
  | cons c cs ih => exact ih (h.step c)

/-- Stored outcomes stay as they are, in their order. -/
theorem outcomes_prefix (s : State) (cs : List Call) : s.outcomes <+: (s.after cs).outcomes := by
  induction cs generalizing s with
  | nil => exact List.prefix_refl _
  | cons c cs ih =>
    refine List.IsPrefix.trans ?_ (ih (s.step c))
    cases c with
    | commerce c => exact List.prefix_refl _
    | recordVerifiedOutcome env args =>
      change s.outcomes <+: (recordVerifiedOutcome env args s).2.outcomes
      rcases recordVerifiedOutcome_cases env args s with heq | ⟨receipt, -, heq⟩
      · exact ⟨[], by simp [heq]⟩
      · exact ⟨[args.stored receipt.agentNpub], by simp [heq, State.record]⟩

/-! ## Scores -/

/-- The score of outcomes lies strictly between 0 and 100: at most all were successful, and no quality was above one. -/
theorem exactScore_bounds {verified successful : Nat} {qualitySum : ℚ} (hs : successful ≤ verified) (hq : 0 ≤ qualitySum)
    (hle : qualitySum ≤ verified) :
    0 < exactScore verified successful qualitySum ∧ exactScore verified successful qualitySum < 100 := by
  have hv : (0 : ℚ) ≤ verified := Nat.cast_nonneg verified
  have hsv : (successful : ℚ) ≤ verified := Nat.cast_le.2 hs
  have hrel : ((successful : ℚ) + 2) / (verified + 4) < 1 := by
    rw [div_lt_one (by linarith)]
    linarith
  have hrel0 : 0 < ((successful : ℚ) + 2) / (verified + 4) := div_pos (by positivity) (by linarith)
  have hqual : (qualitySum + 1) / (verified + 2) < 1 := by
    rw [div_lt_one (by linarith)]
    linarith
  have hqual0 : 0 < (qualitySum + 1) / (verified + 2 : ℚ) := div_pos (by linarith) (by linarith)
  unfold exactScore
  dsimp only
  rw [Int.cast_natCast, Int.cast_natCast]
  constructor <;> linarith

/-- The score does not decrease with the successes and the quality. -/
theorem exactScore_mono {verified : Nat} {successful successful' : Int} {qualitySum qualitySum' : ℚ} (hs : successful ≤ successful')
    (hq : qualitySum ≤ qualitySum') : exactScore verified successful qualitySum ≤ exactScore verified successful' qualitySum' := by
  have hv : (0 : ℚ) ≤ verified := Nat.cast_nonneg verified
  have hcast : (successful : ℚ) ≤ successful' := Int.cast_le.2 hs
  have hrel : ((successful : ℚ) + 2) / (verified + 4) ≤ ((successful' : ℚ) + 2) / (verified + 4) :=
    div_le_div_of_nonneg_right (by linarith) (by linarith)
  have hqual : (qualitySum + 1) / (verified + 2 : ℚ) ≤ (qualitySum' + 1) / (verified + 2) :=
    div_le_div_of_nonneg_right (by linarith) (by linarith)
  unfold exactScore
  dsimp only
  rw [Int.cast_natCast]
  linarith

/-- The quality of outcomes in bounds. -/
theorem qualitySum_bounds {l : List VerifiedOutcome} (h : ∀ o ∈ l, 0 ≤ o.qualityScore ∧ o.qualityScore ≤ 1) :
    0 ≤ (l.map (·.qualityScore)).sum ∧ (l.map (·.qualityScore)).sum ≤ l.length := by
  induction l with
  | nil => simp
  | cons o l ih =>
    obtain ⟨h0, h1⟩ := h o List.mem_cons_self
    obtain ⟨hsum, hle⟩ := ih (fun x hx => h x (List.mem_cons_of_mem _ hx))
    rw [List.map_cons, List.sum_cons, List.length_cons, Nat.cast_add, Nat.cast_one]
    constructor <;> linarith

end Reputation

end Archisynapse
