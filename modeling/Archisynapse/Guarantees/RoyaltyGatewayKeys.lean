import Archisynapse.Lemmas.RoyaltyGatewayKeys
import Archisynapse.Guarantees.RoyaltyGateway

/-!
# The keys of ingest

A key that is COMPLETED with a receipt stays so, and every response for it is that receipt, in every run in which neither
`complete_idempotency` nor `fail_idempotency` finds its row COMPLETED (`royalty_key_settles`). A worker that lost its claim completes
a COMPLETED row again, with its own receipt (`completed_key_moves`).
-/

namespace Archisynapse

namespace RoyaltyGateway

theorem keys_start (S : TransactionService) (env : Env) (gate : Gate) (service : S.State) :
    (keysOutline S env).inv (⟨.empty, gate, service⟩ : State S) := Tables.empty_sound

/-- Along a run the tables are kept. -/
theorem keys_keeps {S : TransactionService} {env : Env} {gate : Gate} {service : S.State} {cfg cfg' : (machine S env).Config}
    (hrun : (machine S env).Run (openKeys S env) (.init _ ⟨.empty, gate, service⟩) cfg)
    (hrun' : (machine S env).Run (openKeys S env) cfg cfg') : cfg.state.tables.Keeps cfg'.state.tables :=
  (keys_sound S env).run_moves (R := fun s s' : State S => s.tables.Keeps s'.tables) (fun s => .refl s.tables)
    (fun _ _ _ h h' => h.trans h') (fun _ _ _ _ _ h => h) (fun _ s _ => .refl s.tables) (keys_start S env gate service) hrun hrun'

/-- Along every run of any requests, each stalled, failed or crashed anywhere, in which no id of a receipt is drawn twice and neither
`complete_idempotency` nor `fail_idempotency` finds its row COMPLETED: a key that is COMPLETED with a receipt's id stays so, that
receipt stays as it is stored, and whoever is answered for the key later gets that receipt; and every response to an ingest whose
tenant and key fit their columns is the stored receipt that its key is COMPLETED with. -/
theorem royalty_key_settles (S : TransactionService) (env : Env) (gate : Gate) (service : S.State)
    (cfg cfg' : (machine S env).Config)
    (hrun : (machine S env).Run (openKeys S env) (.init _ ⟨.empty, gate, service⟩) cfg)
    (hrun' : (machine S env).Run (openKeys S env) cfg cfg') :
    (∀ t k id, cfg.state.tables.CompletedWith t k id → cfg'.state.tables.CompletedWith t k id ∧
      ∃ receipt, receipt.body.receiptId = id ∧ cfg.state.tables.loadRoyaltyReceipt id = some receipt ∧
        cfg'.state.tables.loadRoyaltyReceipt id = some receipt ∧
        ∀ (w : (machine S env).Worker) (reply : Reply) (s : State S), w.call.key env = some (t, k) →
          cfg'.Ends (openKeys S env) w (.ok reply) s → reply.receipt = receipt) ∧
    ∀ (w : (machine S env).Worker) (reply : Reply) (s : State S) (t k : String), w.call.key env = some (t, k) → Fits t k →
      cfg'.Ends (openKeys S env) w (.ok reply) s → Answered t k reply.receipt s.tables := by
  have hsound := keys_sound S env
  have hstart := keys_start S env gate service
  have hrun₂ := hrun.trans hrun'
  have hkeeps := keys_keeps hrun hrun'
  have hinv : cfg.state.tables.Sound := Machine.Outline.run_inv hsound hstart hrun
  -- what a response leaves, and how the state it leaves follows from `cfg`
  have hends : ∀ (w : (machine S env).Worker) (reply : Reply) (s : State S) (t k : String), w.call.key env = some (t, k) →
      cfg'.Ends (openKeys S env) w (.ok reply) s →
      (Fits t k → Answered t k reply.receipt s.tables) ∧ cfg.state.tables.Keeps s.tables := by
    intro w reply s t k hkey h
    obtain ⟨-, hpost⟩ := Machine.Outline.ends hsound hstart hrun₂ h
    obtain ⟨cfg'', hstep, rfl⟩ := h.run
    exact ⟨hpost t k hkey reply rfl, keys_keeps hrun (hrun'.trans hstep)⟩
  refine ⟨fun t k id hdone => ⟨hdone.keeps hkeeps, ?_⟩, fun w reply s t k hkey hfits h => (hends w reply s t k hkey h).1 hfits⟩
  obtain ⟨hex, receipt, rfl, hload, hname⟩ := hdone.stored hinv
  refine ⟨receipt, hname, hload, hkeeps.receipts hex receipt hload, fun w reply s hkey h => ?_⟩
  obtain ⟨hanswered, hlater⟩ := hends w reply s t k hkey h
  obtain ⟨row, hrow, -, -⟩ := id hdone
  have hanswer := hanswered (hinv.fits t k row hrow)
  have hid := hanswer.completed.unique (hdone.keeps hlater)
  have hstored := hanswer.stored
  rw [hid, hlater.receipts hex receipt hload] at hstored
  exact (Option.some.inj hstored).symm

/-! ## Runs on fixed requests -/

/-- How a call goes at a second, with what it draws. -/
def goesAt (seconds : Int) (hex : Hex) : Choice toldService := { goes .posted with now := seconds * 1000000, hex }

/-- Two draws. -/
def hexOne : Hex := (goes .posted).hex

def hexTwo : Hex := ⟨"fedcba98765432100123", by decide, by decide⟩

/-- The next `n` calls of worker `w`, which go well. -/
def playOn (w n : Nat) (seconds : Int) (hex : Hex) : List play.Event := List.replicate n (.call w (goesAt seconds hex))

/-- No id of a receipt is drawn twice, computed. -/
def freshCheck (cfg : play.Config) : play.Event → Bool
  | .call w _ => cfg.live.all (fun x => !decide (x.id = w) ||
      match x.rest with
      | .call (.saveRoyaltyReceipt receipt) _ => (cfg.state.tables.loadRoyaltyReceipt receipt.body.receiptId).isNone
      | _ => true)
  | _ => true

theorem freshCheck_allows (cfg : play.Config) (e : play.Event) (h : freshCheck cfg e = true) :
    (freshReceipts toldService playEnv).Allows cfg e := by
  cases e with
  | start c => exact trivial
  | crash w => exact trivial
  | call w ch =>
    intro x hx hid o k hk
    have hcheck := List.all_eq_true.1 h x hx
    rw [hk, hid] at hcheck
    cases o with
    | saveRoyaltyReceipt receipt =>
      intro hex _
      simpa using hcheck
    | _ => exact trivial

/-- The rows that are completed or failed are not COMPLETED, computed. -/
def openCheck (cfg : play.Config) : play.Event → Bool
  | .call w _ => cfg.live.all (fun x => !decide (x.id = w) ||
      match x.rest with
      | .call (.completeIdempotency t k _) _ =>
        (cfg.state.tables.idempotencyOf t k).all (fun row => !decide (row.status = .completed))
      | .call (.failIdempotency t k _) _ =>
        (cfg.state.tables.idempotencyOf t k).all (fun row => !decide (row.status = .completed))
      | _ => true)
  | _ => true

/-- The condition of a run, computed. -/
def keyCheck (cfg : play.Config) (e : play.Event) : Bool := freshCheck cfg e && openCheck cfg e

theorem keyCheck_allows (cfg : play.Config) (e : play.Event) (h : keyCheck cfg e = true) :
    (openKeys toldService playEnv).Allows cfg e := by
  obtain ⟨hfresh, hopen⟩ := Bool.and_eq_true_iff.1 h
  cases e with
  | start c => exact trivial
  | crash w => exact trivial
  | call w ch =>
    intro x hx hid o k hk
    refine ⟨freshCheck_allows cfg _ hfresh x hx hid o k hk, ?_⟩
    have hcheck := List.all_eq_true.1 hopen x hx
    rw [hk, hid] at hcheck
    cases o with
    | completeIdempotency t k id =>
      intro row hrow hstatus
      simp [hrow, hstatus] at hcheck
    | failIdempotency t k reason =>
      intro row hrow hstatus
      simp [hrow, hstatus] at hcheck
    | _ => exact trivial

/-- The play's key is COMPLETED with a draw, computed. -/
def keyIs (cfg : play.Config) (hex : Hex) : Bool :=
  (cfg.state.tables.idempotencyOf "lyrica" "key-1").any (fun row =>
    decide (row.status = .completed ∧ row.receiptId = some (ingestReceiptId hex)))

theorem completed_of_keyIs {cfg : play.Config} {hex : Hex} (h : keyIs cfg hex = true) :
    cfg.state.tables.CompletedWith "lyrica" "key-1" (ingestReceiptId hex) := by
  obtain ⟨row, hrow, hkey⟩ := (Option.any_eq_true _ _).1 h
  exact ⟨row, hrow, of_decide_eq_true hkey⟩

/-- An ingest that is completed, and one that is made again up to its last call. -/
def playedTwice : List play.Event :=
  [.start (.ingest playRequest)] ++ playOn 0 11 0 hexOne ++ [.start (.ingest playRequest)] ++ playOn 1 6 1 hexTwo

/-- A worker's next call ends an ingest of the play with a receipt of a draw. -/
def endsWith (cfg : play.Config) (w : Nat) (hex : Hex) : Bool :=
  match cfg.ended w (goesAt 1 hexTwo) with
  | some (x, .ok reply, _) =>
    decide (x.call.key playEnv = some ("lyrica", "key-1") ∧ reply.receipt.body.receiptId = ingestReceiptId hex)
  | _ => false

/-- The theorem at a play that is ingested again after it was completed: the second response is the first one's receipt. -/
theorem royalty_key_settles_again : ∃ (cfg : play.Config) (x : play.Worker) (reply : Reply) (s : State toldService) (receipt : Receipt),
    play.Run (openKeys toldService playEnv) (.init _ ⟨.empty, playGate, ()⟩) cfg ∧
    cfg.state.tables.loadRoyaltyReceipt (ingestReceiptId hexOne) = some receipt ∧
    cfg.Ends (openKeys toldService playEnv) x (.ok reply) s ∧ reply.receipt = receipt := by
  obtain ⟨cfg, hrun, htest⟩ := Machine.Config.replay_any keyCheck_allows playedTwice (.init play ⟨.empty, playGate, ()⟩)
    (fun cfg => keyIs cfg hexOne && endsWith cfg 1 hexOne && keyCheck cfg (.call 1 (goesAt 1 hexTwo)))
    (show ((Machine.Config.init play ⟨.empty, playGate, ()⟩).replay keyCheck playedTwice).any _ = true by decide +kernel)
  simp only [Bool.and_eq_true] at htest
  obtain ⟨⟨hkey, hends⟩, hopen⟩ := htest
  unfold endsWith at hends
  split at hends
  · rename_i x reply s hend
    have hend := Machine.Config.ends_of_ended (keyCheck_allows _ _ hopen) hend
    obtain ⟨-, receipt, -, hload, -, hresponse⟩ :=
      (royalty_key_settles toldService playEnv playGate () cfg cfg hrun .refl).1 _ _ _ (completed_of_keyIs hkey)
    exact ⟨cfg, x, reply, s, receipt, hrun, hload, hend, hresponse x reply s (of_decide_eq_true hends).1 hend⟩
  · cases hends

/-- An ingest stalls after it has its obligation; another one takes its claim over after 30 seconds and completes the key. -/
def takenOver : List play.Event :=
  [.start (.ingest playRequest)] ++ playOn 0 7 0 hexOne ++ [.start (.ingest playRequest)] ++ playOn 1 9 31 hexTwo

/-- The stalled ingest wakes up: it stores its receipt and completes the key. -/
def wakesUp : List play.Event := playOn 0 2 32 hexOne

/-- A worker that lost its claim completes a COMPLETED key with another receipt, though no id is drawn twice. -/
theorem completed_key_moves : ¬ ∀ (S : TransactionService) (env : Env) (gate : Gate) (service : S.State)
    (cfg cfg' : (machine S env).Config),
    (machine S env).Run (freshReceipts S env) (.init _ ⟨.empty, gate, service⟩) cfg →
    (machine S env).Run (freshReceipts S env) cfg cfg' →
    ∀ t k id, cfg.state.tables.CompletedWith t k id → cfg'.state.tables.CompletedWith t k id := by
  intro h
  obtain ⟨cfg, hrun, htest⟩ := Machine.Config.replay_any freshCheck_allows takenOver (.init play ⟨.empty, playGate, ()⟩)
    (fun cfg => keyIs cfg hexTwo && (cfg.replay freshCheck wakesUp).any (fun cfg' => keyIs cfg' hexOne))
    (show ((Machine.Config.init play ⟨.empty, playGate, ()⟩).replay freshCheck takenOver).any _ = true by decide +kernel)
  simp only [Bool.and_eq_true] at htest
  obtain ⟨hkey, htest⟩ := htest
  obtain ⟨cfg', hrun', hmoved⟩ := Machine.Config.replay_any freshCheck_allows wakesUp cfg _ htest
  have hstays := h toldService playEnv playGate () cfg cfg' hrun hrun' _ _ _ (completed_of_keyIs hkey)
  have hsame := hstays.unique (completed_of_keyIs hmoved)
  exact absurd (String.toList_inj.2 hsame) (by decide)

end RoyaltyGateway

end Archisynapse
