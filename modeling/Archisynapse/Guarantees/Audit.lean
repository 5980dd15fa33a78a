import Archisynapse.Lemmas.Audit

/-!
# The audit chain

In every run of the operations that write the store the committed events are a chain in the order of their numbers, and only grow.
What the last hash says about the events: all of it, exactly when no field of an event holds a bar.
-/

namespace Archisynapse

namespace Audit

/-- In every configuration reached by any operations, whatever fails: the chain is checked, the numbers go up in the order of the
chain, each event carries the hash of the one before, and committed events are never changed or removed. -/
theorem audit_chain_valid (sha256 : Sha256) (cfg : (machine sha256).Config)
    (hrun : (machine sha256).Run (.any _) (.init (machine sha256) .empty) cfg) :
    cfg.state.db.verifyAuditChain sha256 = true ∧
    (∀ l e e' l', cfg.state.db.rows = l ++ e :: e' :: l' → e.sequence < e'.sequence ∧ e'.previousHash = some e.eventHash) ∧
    cfg.state.db.ordered = cfg.state.db.rows ∧
    ∀ cfg', (machine sha256).Run (.any _) cfg cfg' → cfg.state.db.rows <+: cfg'.state.db.rows := by
  have hsound := run_sound hrun
  refine ⟨hsound.verify, ?_, AuditTable.ordered_eq hsound.numbered, fun cfg' hrun' => run_prefix hrun hrun'⟩
  intro l e e' l' hrows
  have hnumbered := hsound.numbered
  have hverified := hsound.verified
  rw [hrows] at hnumbered hverified
  rw [List.map_append, List.map_cons, List.map_cons] at hnumbered
  refine ⟨?_, HashChain.verify_link hverified⟩
  exact (List.pairwise_cons.1 (List.pairwise_append.1 hnumbered).2.1).1 _ (List.mem_cons_self ..)

/-- With a hash that is injective, whose digests are not empty and hold no bar: the tables that are checked and end with the hash
that the store's table ends with all have its contents, exactly when no field of its rows holds a bar. -/
theorem audit_tamper_evidence_iff (sha256 : Sha256) (hinj : Function.Injective sha256)
    (hhex : ∀ text, sha256 text ≠ "" ∧ '|' ∉ (sha256 text).toList) (cfg : (machine sha256).Config)
    (hrun : (machine sha256).Run (.any _) (.init (machine sha256) .empty) cfg) :
    (∀ t : AuditTable, t.verifyAuditChain sha256 = true → t.lastHash = cfg.state.db.lastHash →
        t.contents = cfg.state.db.contents) ↔
      ∀ e ∈ cfg.state.db.rows, ∀ f ∈ e.content, '|' ∉ f.toList := by
  have hsound := run_sound hrun
  constructor
  · intro h
    by_contra hbar
    obtain ⟨t, hverify, hlast, hne⟩ := hsound.exists_other hbar
    exact hne (h t hverify hlast)
  · exact fun hbar t hverify hlast => contents_unique hinj hhex hsound.verify hverify hbar hlast

/-! ## Runs -/

/-- Two characters for one, none of them a bar. -/
def demoPair (c : Char) : List Char := if c = '|' then ['p', 'q'] else [c, c]

/-- An injective hash for runs. -/
def demoSha256 : Sha256 := fun text => String.ofList ('h' :: text.toList.flatMap demoPair)

theorem demoPair_inj {c c' : Char} {l l' : List Char} (h : demoPair c ++ l = demoPair c' ++ l') : c = c' ∧ l = l' := by
  unfold demoPair at h
  split at h
  · rename_i hc
    split at h
    · rename_i hc'
      exact ⟨hc.trans hc'.symm, by simpa using h⟩
    · simp only [List.cons_append, List.nil_append, List.cons.injEq] at h
      exact absurd (h.1.trans h.2.1.symm) (by decide)
  · split at h
    · simp only [List.cons_append, List.nil_append, List.cons.injEq] at h
      exact absurd (h.1.symm.trans h.2.1) (by decide)
    · simp only [List.cons_append, List.nil_append, List.cons.injEq] at h
      exact ⟨h.1, h.2.2⟩

theorem demoPair_ne_nil (c : Char) (l : List Char) : demoPair c ++ l ≠ [] := by
  unfold demoPair
  split <;> simp

theorem flatMap_demoPair_inj {l l' : List Char} (h : l.flatMap demoPair = l'.flatMap demoPair) : l = l' := by
  induction l generalizing l' with
  | nil =>
    cases l' with
    | nil => rfl
    | cons c l' => exact absurd h.symm (demoPair_ne_nil c _)
  | cons c l ih =>
    cases l' with
    | nil => exact absurd h (demoPair_ne_nil c _)
    | cons c' l' =>
      obtain ⟨rfl, htail⟩ := demoPair_inj h
      rw [ih htail]

theorem demoSha256_inj : Function.Injective demoSha256 := by
  intro a b h
  exact String.toList_injective (flatMap_demoPair_inj (List.cons.inj (String.ofList_injective h)).2)

theorem demoSha256_hex (text : String) : demoSha256 text ≠ "" ∧ '|' ∉ (demoSha256 text).toList := by
  unfold demoSha256
  refine ⟨fun h => ?_, ?_⟩
  · have hnil := congrArg String.toList h
    rw [String.toList_ofList] at hnil
    cases hnil
  · rw [String.toList_ofList]
    intro hmem
    rcases List.mem_cons.1 hmem with h | h
    · exact absurd h (by decide)
    · obtain ⟨c, -, hc⟩ := List.mem_flatMap.1 h
      unfold demoPair at hc
      split at hc
      · simp at hc
      · rename_i hne
        simp only [List.mem_cons, List.not_mem_nil, or_false, or_self] at hc
        exact hne hc.symm

/-- What the environment answers. -/
def demoChoice (uuid : Token) : Choice := ⟨none, none, .null, uuid, ⟨"2026-01-01T00:00:00Z", by decide⟩⟩

/-- A rate card is created, and before its commit. -/
def demoCreate (reference : String) : List (machine demoSha256).Event :=
  .start (.createRateCard "rate" "provider" "model" "2026-01-01" reference) ::
    List.replicate 6 (.call 0 (demoChoice ⟨"one", by decide⟩))

/-- The commit, and the close of the connection. -/
def demoCommit : List (machine demoSha256).Event := List.replicate 2 (.call 0 (demoChoice ⟨"one", by decide⟩))

/-- A commit that fails, the rollback, and the close of the connection; then another rate card is created. -/
def demoRollback : List (machine demoSha256).Event :=
  .call 0 { demoChoice ⟨"one", by decide⟩ with fails := some (⟨.sqliteError, "disk I/O error"⟩, false) } :: demoCommit ++
    [.start (.createRateCard "rate_2" "provider" "model" "2026-01-01" "list")] ++
    List.replicate 8 (.call 1 (demoChoice ⟨"two", by decide⟩))

/-- The theorem at a run: an operation that has appended is rolled back, and another one commits. -/
theorem audit_chain_valid_play : ∃ cfg,
    (machine demoSha256).Run (.any _) (.init (machine demoSha256) .empty) cfg ∧
    cfg.state.db.rows.map (·.aggregateId) = ["rate_2"] ∧ cfg.state.db.verifyAuditChain demoSha256 = true := by
  obtain ⟨cfg, hrun, htest⟩ := Machine.Config.replay_any (fun cfg e _ => Machine.Cond.allows_any cfg e)
    (demoCreate "list" ++ demoRollback) (.init (machine demoSha256) .empty)
    (fun cfg => decide (cfg.state.db.rows.map (·.aggregateId) = ["rate_2"]))
    (show ((Machine.Config.init (machine demoSha256) .empty).replay (fun _ _ => true) _).any _ = true by decide +kernel)
  exact ⟨cfg, hrun, of_decide_eq_true htest, (audit_chain_valid demoSha256 cfg hrun).1⟩

/-- Whether a field of an event holds a bar, computed. -/
def barred (t : AuditTable) : Bool := t.rows.any (fun e => e.content.any (fun f => decide ('|' ∈ f.toList)))

theorem barred_eq_false {t : AuditTable} (h : barred t = false) : ∀ e ∈ t.rows, e.Barless := by
  intro e he f hf hbar
  have hno := List.any_eq_false.1 (Bool.eq_false_iff.2 (List.any_eq_false.1 h e he)) f hf
  exact hno (decide_eq_true hbar)

theorem barred_eq_true {t : AuditTable} (h : barred t = true) : ¬ ∀ e ∈ t.rows, e.Barless := by
  intro hno
  obtain ⟨e, he, hany⟩ := List.any_eq_true.1 h
  obtain ⟨f, hf, hbar⟩ := List.any_eq_true.1 hany
  exact hno e he f hf (of_decide_eq_true hbar)

/-- The theorem at a run: no event holds a bar, so the last hash says what the events are. -/
theorem audit_tamper_evidence_iff_play : ∃ cfg,
    (machine demoSha256).Run (.any _) (.init (machine demoSha256) .empty) cfg ∧ cfg.state.db.rows.length = 1 ∧
    ∀ t : AuditTable, t.verifyAuditChain demoSha256 = true → t.lastHash = cfg.state.db.lastHash →
      t.contents = cfg.state.db.contents := by
  obtain ⟨cfg, hrun, htest⟩ := Machine.Config.replay_any (fun cfg e _ => Machine.Cond.allows_any cfg e)
    (demoCreate "list" ++ demoCommit) (.init (machine demoSha256) .empty)
    (fun cfg => decide (cfg.state.db.rows.length = 1) && !barred cfg.state.db)
    (show ((Machine.Config.init (machine demoSha256) .empty).replay (fun _ _ => true) _).any _ = true by decide +kernel)
  obtain ⟨hlen, hbar⟩ := (Bool.and_eq_true _ _).mp htest
  have hbarless := barred_eq_false (Bool.not_eq_true' _ ▸ hbar)
  exact ⟨cfg, hrun, of_decide_eq_true hlen,
    (audit_tamper_evidence_iff demoSha256 demoSha256_inj demoSha256_hex cfg hrun).2 hbarless⟩

/-- A rate card whose source is given with a bar: another table is checked and ends with the same hash. -/
theorem audit_contents_exchanged : ¬ ∀ sha256 : Sha256, Function.Injective sha256 →
    (∀ text, sha256 text ≠ "" ∧ '|' ∉ (sha256 text).toList) →
    ∀ cfg, (machine sha256).Run (.any _) (.init (machine sha256) .empty) cfg →
    ∀ t : AuditTable, t.verifyAuditChain sha256 = true → t.lastHash = cfg.state.db.lastHash →
      t.contents = cfg.state.db.contents := by
  intro h
  obtain ⟨cfg, hrun, htest⟩ := Machine.Config.replay_any (fun cfg e _ => Machine.Cond.allows_any cfg e)
    (demoCreate "a|b" ++ demoCommit) (.init (machine demoSha256) .empty) (fun cfg => barred cfg.state.db)
    (show ((Machine.Config.init (machine demoSha256) .empty).replay (fun _ _ => true) _).any _ = true by decide +kernel)
  obtain ⟨t, hverify, hlast, hne⟩ := (run_sound hrun).exists_other (barred_eq_true htest)
  exact hne (h demoSha256 demoSha256_inj demoSha256_hex cfg hrun t hverify hlast)

end Audit

end Archisynapse
