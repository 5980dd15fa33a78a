import Archisynapse.Lemmas.Reputation

/-!
# Reputation equals its evidence

After any calls the row of an agent is what the stored outcomes of the agent's receipts come to, whatever their order
(`reputation_equals_evidence`).
-/

namespace Archisynapse

namespace Reputation

open Commerce (PaymentReceipt Session)

/-- A state reached by calls, over whatever store of receipts. -/
def Reached (s : State) : Prop := ∃ session cs, s = (State.init session).after cs

/-- What holds of every state reached. -/
theorem Reached.supported {s : State} (h : Reached s) : Supported s := by
  obtain ⟨session, cs, rfl⟩ := h
  exact (supported_init session).after cs

/-- The score of a row, before it is rounded. -/
def AgentReputation.exactScore (row : AgentReputation) : ℚ :=
  Reputation.exactScore row.verifiedJobs row.successfulJobs row.qualitySum

/-- The row of an agent is the number, the sums and the score of the evidence. -/
def EqualsEvidence (s : State) : Prop := ∀ agentNpub, s.agent agentNpub = s.reputationOf agentNpub (s.evidence agentNpub)

/-- A receipt is counted once, and its outcome stays as it is. -/
def CountedOnce (s : State) : Prop :=
  (s.outcomes.map (·.receiptId)).Nodup ∧ ∀ cs, s.outcomes <+: (s.after cs).outcomes

/-- Two states with the same receipts and the same outcomes, in whatever order, have the same rows. -/
def SameInAnyOrder (s s' : State) : Prop :=
  (∀ receiptId, s.receipt receiptId = s'.receipt receiptId) → s.outcomes.Perm s'.outcomes →
    ∀ agentNpub, s.agent agentNpub = s'.agent agentNpub

/-- The score of a row is that of its numbers, rounded, and lies strictly between 0 and 100 before. -/
def ScoresWithin (s : State) : Prop :=
  ∀ agentNpub row, s.agent agentNpub = some row →
    row.score = roundTo 4 row.exactScore ∧ 0 < row.exactScore ∧ row.exactScore < 100

/-- The score does not decrease where a failed outcome gives way to a successful one of no lower quality. -/
def ScoreRises (s s' : State) : Prop :=
  ∀ agentNpub row row' l o o', s.agent agentNpub = some row → s'.agent agentNpub = some row' →
    (s.evidence agentNpub).Perm (o :: l) → (s'.evidence agentNpub).Perm (o' :: l) →
      o.success = false → o'.success = true → o.qualityScore ≤ o'.qualityScore → row.exactScore ≤ row'.exactScore

theorem sameInAnyOrder_of_supported {s s' : State} (h : Supported s) (h' : Supported s') : SameInAnyOrder s s' := by
  intro hreceipt hperm agentNpub
  have hevidence : (s.evidence agentNpub).Perm (s'.evidence agentNpub) := by
    unfold State.evidence
    simp only [hreceipt]
    exact hperm.filter _
  rw [h.agents, h'.agents]
  refine reputationOf_perm agentNpub hevidence (fun o _ => ?_)
  unfold State.paid
  rw [hreceipt]

/-- The row of an agent, from its evidence. -/
theorem Supported.row {s : State} (h : Supported s) {agentNpub : String} {row : AgentReputation}
    (hrow : s.agent agentNpub = some row) :
    row.exactScore = Reputation.exactScore (s.evidence agentNpub).length ((s.evidence agentNpub).countP (fun o => o.success))
      ((s.evidence agentNpub).map (·.qualityScore)).sum ∧ row.score = roundTo 4 row.exactScore := by
  rw [h.agents, State.reputationOf] at hrow
  split at hrow
  · cases hrow
  · cases hrow
    exact ⟨rfl, rfl⟩

theorem scoresWithin_of_supported {s : State} (h : Supported s) : ScoresWithin s := by
  intro agentNpub row hrow
  obtain ⟨hexact, hscore⟩ := h.row hrow
  have hquality : ∀ o ∈ s.evidence agentNpub, 0 ≤ o.qualityScore ∧ o.qualityScore ≤ 1 :=
    fun o ho => h.quality o (List.mem_of_mem_filter ho)
  obtain ⟨hsum, hle⟩ := qualitySum_bounds hquality
  refine ⟨hscore, ?_⟩
  rw [hexact]
  exact exactScore_bounds List.countP_le_length hsum hle

theorem scoreRises_of_supported {s s' : State} (h : Supported s) (h' : Supported s') : ScoreRises s s' := by
  intro agentNpub row row' l o o' hrow hrow' hperm hperm' hfailed hsuccess hquality
  have hlength : (s'.evidence agentNpub).length = (s.evidence agentNpub).length := by
    rw [hperm.length_eq, hperm'.length_eq, List.length_cons, List.length_cons]
  have hcount : ((s.evidence agentNpub).countP (fun o => o.success) : Int) ≤ (s'.evidence agentNpub).countP (fun o => o.success) := by
    rw [hperm.countP_eq, hperm'.countP_eq, List.countP_cons, List.countP_cons, hfailed, hsuccess]
    simp
  have hsum : ((s.evidence agentNpub).map (·.qualityScore)).sum ≤ ((s'.evidence agentNpub).map (·.qualityScore)).sum := by
    rw [(hperm.map _).sum_eq, (hperm'.map _).sum_eq, List.map_cons, List.map_cons, List.sum_cons, List.sum_cons]
    exact add_le_add_left hquality _
  rw [(h.row hrow).1, (h'.row hrow').1, hlength]
  exact exactScore_mono hcount hsum

/-- In every state reached the rows equal their evidence, each receipt is counted once and for good, the order of the outcomes does
not matter, and the score is in bounds and does not decrease with better outcomes. -/
theorem reputation_equals_evidence {s s' : State} (hs : Reached s) (hs' : Reached s') :
    EqualsEvidence s ∧ CountedOnce s ∧ SameInAnyOrder s s' ∧ ScoresWithin s ∧ ScoreRises s s' :=
  ⟨hs.supported.agents, ⟨hs.supported.receiptIds, outcomes_prefix s⟩, sameInAnyOrder_of_supported hs.supported hs'.supported,
    scoresWithin_of_supported hs.supported, scoreRises_of_supported hs.supported hs'.supported⟩

/-- A receipt of 21 sats of one agent. -/
def demoReceipt (id : String) : PaymentReceipt :=
  { id
    authorizationId := "auth"
    authorizationVersion := 1
    reservationId := id
    orchestrationId := "orch"
    idempotencyKey := id
    tenantId := "tenant"
    orchestratorId := "orchestrator"
    agentNpub := "npub-agent"
    specialty := "seo"
    endpoint := "https://agent.example"
    quotedSats := 20
    invoice := ⟨"", 20, ""⟩
    settlement := ⟨none, none, none, none, 1, none, false⟩
    delivery := ⟨.delivered, some 200, none, none, 0, 1200, none⟩
    totalDebitSats := 21 }

/-- A validator's outcome. -/
def demoOutcome (receiptId : String) (success : Bool) (qualityScore : ℚ) : Call :=
  .recordVerifiedOutcome ⟨fun _ => true, fun _ => none⟩ ⟨receiptId, "validator-1", success, qualityScore, 1200, "e"⟩

/-- The state after outcomes of two receipts. -/
def demoState (cs : List Call) : State :=
  (State.init ⟨⟨[], [], [demoReceipt "rcpt-1", demoReceipt "rcpt-2"]⟩, []⟩).after cs

theorem demoState_reached (cs : List Call) : Reached (demoState cs) := ⟨_, cs, rfl⟩

/-- A success and a failure; then two successes in the other order, one of them recorded twice. -/
theorem reputation_equals_evidence_play :
    ∃ row row',
      (demoState [demoOutcome "rcpt-1" true (9 / 10), demoOutcome "rcpt-2" false (1 / 10)]).agent "npub-agent" = some row ∧
      (demoState [demoOutcome "rcpt-2" true (4 / 10), demoOutcome "rcpt-1" true (9 / 10), demoOutcome "rcpt-2" true (4 / 10)]).agent
        "npub-agent" = some row' ∧
      (row.verifiedJobs, row.successfulJobs, row.failedJobs, row.totalPaidSats, row.latencySumMs) = (2, 1, 1, 42, 2400) ∧
      row'.verifiedJobs = 2 ∧ 0 < row.exactScore ∧ row.exactScore ≤ row'.exactScore ∧ row'.exactScore < 100 := by
  obtain ⟨-, -, -, hwithin, hrises⟩ := reputation_equals_evidence
    (demoState_reached [demoOutcome "rcpt-1" true (9 / 10), demoOutcome "rcpt-2" false (1 / 10)])
    (demoState_reached [demoOutcome "rcpt-2" true (4 / 10), demoOutcome "rcpt-1" true (9 / 10), demoOutcome "rcpt-2" true (4 / 10)])
  have hrow : (demoState [demoOutcome "rcpt-1" true (9 / 10), demoOutcome "rcpt-2" false (1 / 10)]).agent "npub-agent" =
      some ⟨"npub-agent", 2, 1, 1, 42, 2400, 1, 50⟩ := by
    decide +kernel
  have hrow' : (demoState [demoOutcome "rcpt-2" true (4 / 10), demoOutcome "rcpt-1" true (9 / 10),
      demoOutcome "rcpt-2" true (4 / 10)]).agent "npub-agent" =
        some ⟨"npub-agent", 2, 2, 0, 42, 2400, 13 / 10, 639167 / 10000⟩ := by
    decide +kernel
  have hle := hrises "npub-agent" _ _ [⟨"rcpt-1", "npub-agent", "validator-1", true, 9 / 10, 1200, "e"⟩]
    ⟨"rcpt-2", "npub-agent", "validator-1", false, 1 / 10, 1200, "e"⟩
    ⟨"rcpt-2", "npub-agent", "validator-1", true, 4 / 10, 1200, "e"⟩ hrow hrow' (by decide +kernel) (by decide +kernel) rfl rfl
    (by norm_num)
  refine ⟨_, _, hrow, hrow', rfl, rfl, (hwithin _ _ hrow).2.1, hle, ?_⟩
  norm_num [AgentReputation.exactScore, exactScore]

end Reputation

end Archisynapse
