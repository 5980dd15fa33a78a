import Archisynapse.Lemmas.RoyaltyGatewayStable
import Archisynapse.Guarantees.RoyaltyGateway

/-!
# Receipts of releases and reversals

In every run whose issues for one receipt id agree and in which no truth is added to a receipt, the receipt of a release or a
reversal stays as it was stored first, and every response is that receipt (`release_receipt_stays`). A release that is made again a
second later is answered with another receipt, which is stored over the first (`release_receipt_moves`).
-/

namespace Archisynapse

namespace RoyaltyGateway

theorem stable_start (S : TransactionService) (env : Env) (gate : Gate) (service : S.State) :
    (stable S env).inv ((⟨.empty, gate, service⟩, []) : Logged S env) := fun _ _ _ h => by cases h

theorem foreign_receiptId {c : Call} {id : String} (h : c.receiptId = some id) : Foreign id := by
  cases c with
  | release eventId tenantId =>
    cases h
    exact release_ne eventId
  | reverse eventId tenantId reversalEventId key reason =>
    cases h
    exact reversal_ne reversalEventId
  | ingest req => cases h
  | receipt receiptId => cases h

/-- A text that is no id of ingest is stored as one that is none. -/
theorem foreign_stored {id stored : String} (hid : Foreign id) (h : varchar 255 id = some stored) : Foreign stored := by
  intro hex heq
  subst heq
  exact hid hex (ingest_of_stored h)

/-- Along a run whose issues agree, the receipts of releases and reversals stay. -/
theorem stable_keeps {S : TransactionService} {env : Env} {gate : Gate} {service : S.State} {cfg cfg' : (machine S env).recorded.Config}
    (hrun : (machine S env).recorded.Run (steady S env) (.init _ (⟨.empty, gate, service⟩, [])) cfg)
    (hrun' : (machine S env).recorded.Run (steady S env) cfg cfg') :
    KeepsForeign cfg.state.1.tables cfg'.state.1.tables :=
  (stable_sound S env).run_moves (R := fun s s' : Logged S env => KeepsForeign s.1.tables s'.1.tables) (fun _ _ _ _ h => h)
    (fun _ _ _ h h' => h.trans h') (fun _ _ _ _ _ h => h.2) (fun _ _ _ _ _ _ h => h) (stable_start S env gate service) hrun hrun'

/-- In every run of any requests, each stalled, failed or crashed anywhere, whose issues for one receipt id agree and in which no truth
is added to a receipt: what is stored under the id of a release or a reversal stays; a release or a reversal is answered with the
receipt that is stored under its id; and whoever is answered for that id later gets the same receipt. -/
theorem release_receipt_stays (S : TransactionService) (env : Env) (gate : Gate) (service : S.State)
    (cfg : (machine S env).recorded.Config)
    (hrun : (machine S env).recorded.Run (steady S env) (.init _ (⟨.empty, gate, service⟩, [])) cfg) :
    (∀ cfg', (machine S env).recorded.Run (steady S env) cfg cfg' → KeepsForeign cfg.state.1.tables cfg'.state.1.tables) ∧
    ∀ w reply s id, cfg.Ends (steady S env) w (.ok reply) s → w.call.receiptId = some id →
      (∃ stored, varchar 255 id = some stored ∧ s.1.tables.loadRoyaltyReceipt stored = some reply.receipt) ∧
      ∀ cfg₁ cfg₂ w' reply' s', (machine S env).recorded.Run (steady S env) cfg cfg₁ → cfg₁.state = s →
        (machine S env).recorded.Run (steady S env) cfg₁ cfg₂ → cfg₂.Ends (steady S env) w' (.ok reply') s' →
        w'.call.receiptId = some id → reply'.receipt = reply.receipt := by
  have hanswered : ∀ cfg, (machine S env).recorded.Run (steady S env) (.init _ (⟨.empty, gate, service⟩, [])) cfg →
      ∀ w reply s id, cfg.Ends (steady S env) w (.ok reply) s → w.call.receiptId = some id →
        ∃ stored, varchar 255 id = some stored ∧ s.1.tables.loadRoyaltyReceipt stored = some reply.receipt := by
    intro cfg hrun w reply s id hends hid
    obtain ⟨i, rfl, -, -, hstored⟩ := (Machine.Outline.ends (stable_sound S env) (stable_start S env gate service) hrun hends).2
      reply rfl id hid
    exact hstored
  refine ⟨fun cfg' hrun' => stable_keeps hrun hrun', fun w reply s id hends hid => ⟨hanswered cfg hrun w reply s id hends hid, ?_⟩⟩
  intro cfg₁ cfg₂ w' reply' s' hrun₁ hs hrun₂ hends' hid'
  obtain ⟨stored, hstored, hload⟩ := hanswered cfg hrun w reply s id hends hid
  obtain ⟨stored', hstored', hload'⟩ := hanswered cfg₂ ((hrun.trans hrun₁).trans hrun₂) w' reply' s' id hends' hid'
  obtain ⟨cfg₃, hrun₃, rfl⟩ := hends'.run
  rw [hstored] at hstored'
  cases hstored'
  rw [← hs] at hload
  have hkept := stable_keeps (hrun.trans hrun₁) (hrun₂.trans hrun₃) stored reply.receipt
    (foreign_stored (foreign_receiptId hid) hstored) hload
  rw [hload'] at hkept
  exact Option.some.inj hkept

/-! ## Runs on fixed requests -/

/-- The machine of these runs. -/
abbrev logged : Machine := play.recorded

/-- Nothing has happened yet. -/
def loggedStart : logged.Config := .init logged (⟨.empty, playGate, ()⟩, [])

/-- How a call goes at a second. -/
def goesAtSecond (seconds : Int) : Choice toldService := { goes .posted with now := seconds * 1000000 }

/-- A release of the event by worker `w` at a second, but for its last call. -/
def releaseAt (w : Nat) (seconds : Int) : List logged.Event :=
  [.start (.release "event-1" (some "lyrica"))] ++ List.replicate 2 (.call w (goesAtSecond seconds))

/-- The condition of a run, computed. -/
def steadyCheck (cfg : logged.Config) : logged.Event → Bool
  | .call w _ => cfg.live.all (fun x => !decide (x.id = w) ||
      ((match x.rest with
        | .call (.saveRoyaltyReceipt receipt) _ => receipt.truth.isNone
        | _ => true) && (issues cfg.state.2).all (fun i => (issues cfg.state.2).all (fun j => decide (i = j)))))
  | _ => true

theorem steadyCheck_allows (cfg : logged.Config) (e : logged.Event) (h : steadyCheck cfg e = true) :
    (steady toldService playEnv).Allows cfg e := by
  cases e with
  | start c => exact trivial
  | crash w => exact trivial
  | call w ch =>
    intro x hx hid o k hk
    have hcheck := List.all_eq_true.1 h x hx
    rw [hk, hid, decide_eq_true rfl] at hcheck
    simp only [Bool.not_true, Bool.false_or, Bool.and_eq_true, List.all_eq_true, decide_eq_true_eq] at hcheck
    obtain ⟨htruth, hagree⟩ := hcheck
    refine ⟨fun hdecorates => ?_, fun i hi j hj id _ _ => ?_⟩
    · cases o with
      | saveRoyaltyReceipt receipt =>
        have hnone : receipt.truth.isNone = true := htruth
        rw [← Option.not_isSome, hdecorates.1] at hnone
        cases hnone
      | _ => exact hdecorates
    · rw [hagree i hi j hj]
      exact ⟨rfl, rfl, rfl⟩

/-- A worker's next call ends a release of the play, with a receipt of a second. -/
def endsAt (cfg : logged.Config) (w : Nat) (seconds : Int) : Bool :=
  match cfg.ended w (goesAtSecond seconds) with
  | some (x, .ok reply, _) =>
    decide (x.call.receiptId = some (releaseReceiptId "event-1") ∧ reply.receipt.body.issuedAt = seconds * 1000000)
  | _ => false

/-- The theorem at a release that is made twice in one second: both are answered with the receipt that is stored. -/
theorem release_receipt_stays_again : ∃ (cfg : logged.Config) (x : logged.Worker) (reply : Reply) (s : logged.State),
    logged.Run (steady toldService playEnv) loggedStart cfg ∧ cfg.state.1.tables.receipts.length = 1 ∧
    cfg.Ends (steady toldService playEnv) x (.ok reply) s ∧
    s.1.tables.loadRoyaltyReceipt (releaseReceiptId "event-1") = some reply.receipt := by
  obtain ⟨cfg, hrun, htest⟩ := Machine.Config.replay_any steadyCheck_allows
    (releaseAt 0 0 ++ [.call 0 (goesAtSecond 0)] ++ releaseAt 1 0) loggedStart
    (fun cfg => decide (cfg.state.1.tables.receipts.length = 1) && endsAt cfg 1 0 && steadyCheck cfg (.call 1 (goesAtSecond 0)))
    (by decide +kernel)
  simp only [Bool.and_eq_true, decide_eq_true_eq] at htest
  obtain ⟨⟨hlength, hends⟩, hsteady⟩ := htest
  unfold endsAt at hends
  split at hends
  · rename_i x reply s hend
    have hend := Machine.Config.ends_of_ended (steadyCheck_allows _ _ hsteady) hend
    obtain ⟨⟨stored, hstored, hload⟩, -⟩ :=
      (release_receipt_stays toldService playEnv playGate () cfg hrun).2 x reply s _ hend (of_decide_eq_true hends).1
    rw [show varchar 255 (releaseReceiptId "event-1") = some (releaseReceiptId "event-1") from by decide] at hstored
    cases hstored
    exact ⟨cfg, x, reply, s, hrun, hlength, hend, hload⟩
  · cases hends

/-- A run whose calls go any way, replayed. -/
theorem replay_logged (es : List logged.Event) (test : logged.Config → Bool)
    (h : (loggedStart.replay (fun _ _ => true) es).any test = true) : ∃ cfg, logged.Run (.any _) loggedStart cfg ∧ test cfg = true :=
  Machine.Config.replay_any (fun cfg e _ => Machine.Cond.allows_any cfg e) es loggedStart test h

/-- The receipt of the event's release is one of a second, computed. -/
def storedAt (cfg : logged.Config) (seconds : Int) : Bool :=
  (cfg.state.1.tables.loadRoyaltyReceipt (releaseReceiptId "event-1")).any (fun r => decide (r.body.issuedAt = seconds * 1000000))

/-- A release that is made again a second later is answered with another receipt than the one that is stored, and stores it. -/
theorem release_receipt_moves :
    (¬ ∀ (S : TransactionService) (env : Env) (gate : Gate) (service : S.State) (cfg cfg' : (machine S env).recorded.Config),
      (machine S env).recorded.Run (.any _) (.init _ (⟨.empty, gate, service⟩, [])) cfg →
      (machine S env).recorded.Run (.any _) cfg cfg' → KeepsForeign cfg.state.1.tables cfg'.state.1.tables) ∧
    ¬ ∀ (S : TransactionService) (env : Env) (gate : Gate) (service : S.State) (cfg : (machine S env).recorded.Config),
      (machine S env).recorded.Run (.any _) (.init _ (⟨.empty, gate, service⟩, [])) cfg →
      ∀ w reply s id receipt, cfg.Ends (.any _) w (.ok reply) s → w.call.receiptId = some id →
        cfg.state.1.tables.loadRoyaltyReceipt id = some receipt → reply.receipt = receipt := by
  refine ⟨fun h => ?_, fun h => ?_⟩
  · obtain ⟨cfg, hrun, htest⟩ := replay_logged (releaseAt 0 0 ++ [.call 0 (goesAtSecond 0)])
      (fun cfg => storedAt cfg 0 && (cfg.replay (fun _ _ => true) (releaseAt 1 1 ++ [.call 1 (goesAtSecond 1)])).any (storedAt · 1))
      (by decide +kernel)
    rw [Bool.and_eq_true] at htest
    obtain ⟨hfirst, htest⟩ := htest
    obtain ⟨cfg', hrun', hsecond⟩ := Machine.Config.replay_any (fun cfg e _ => Machine.Cond.allows_any cfg e) _ cfg _ htest
    obtain ⟨first, hload, hat⟩ := (Option.any_eq_true _ _).1 hfirst
    obtain ⟨second, hload', hat'⟩ := (Option.any_eq_true _ _).1 hsecond
    have hkept := h toldService playEnv playGate () cfg cfg' hrun hrun' _ first (release_ne "event-1") hload
    rw [hload'] at hkept
    cases hkept
    rw [of_decide_eq_true hat] at hat'
    exact absurd (of_decide_eq_true hat') (by decide)
  · obtain ⟨cfg, hrun, htest⟩ := replay_logged (releaseAt 0 0 ++ [.call 0 (goesAtSecond 0)] ++ releaseAt 1 1)
      (fun cfg => storedAt cfg 0 && endsAt cfg 1 1) (by decide +kernel)
    rw [Bool.and_eq_true] at htest
    obtain ⟨hfirst, hends⟩ := htest
    obtain ⟨first, hload, hat⟩ := (Option.any_eq_true _ _).1 hfirst
    unfold endsAt at hends
    split at hends
    · rename_i x reply s hend
      obtain ⟨hid, hnow⟩ := of_decide_eq_true hends
      have hsame := h toldService playEnv playGate () cfg hrun x reply s _ first
        (Machine.Config.ends_of_ended (Machine.Cond.allows_any _ _) hend) hid hload
      rw [hsame, of_decide_eq_true hat] at hnow
      exact absurd hnow (by decide)
    · cases hends

end RoyaltyGateway

end Archisynapse
