import Archisynapse.Lemmas.PaymentsRetry
import Archisynapse.Guarantees.Payments

/-!
# Refunds that are tried again

In every run whose steps all meet `retryable`, an attempt is in status PROCESSING only while a refund under its key runs, so a refund
that runs alone is not told that another one is processing its key (`refund_retryable`). Without the condition it is
(`refund_stuck`): an attempt stays in status PROCESSING when the processor refuses the refund.
-/

namespace Archisynapse

namespace Payments

/-! ## Who is told that another refund is running -/

/-- What a refund throws whose key has an attempt in status PROCESSING. -/
def alreadyProcessing : PaymentError := .named .error "another refund request is already processing this idempotency key"

/-- A call's own error is another one. -/
theorem exec_error_ne {o : Action} {ch : Choice} {s t : World} {e : PaymentError} (h : exec o ch s = some (.error e, t)) :
    e ≠ alreadyProcessing := by
  have hlost : o.lost ≠ alreadyProcessing := by cases o <;> (intro heq; cases heq)
  have hmap {α : Type} {x : Except String α} {e : PaymentError} (hx : x.mapError protocolError = .error e) : e ≠ alreadyProcessing := by
    cases x with
    | ok a => cases hx
    | error message =>
      cases hx
      intro heq
      cases heq
  rcases exec_cases h with h | ⟨he, -⟩ | ⟨he, -⟩
  · cases o with
    | sql sess o =>
      simp only [World.perform, Option.some.injEq, Prod.mk.injEq] at h
      cases hq : (s.db.perform sess o).1 with
      | ok a =>
        rw [hq] at h
        cases h.1
      | error reason =>
        rw [hq] at h
        cases h.1
        intro heq
        cases heq
    | charge req =>
      obtain ⟨a, -, ha⟩ := Option.map_eq_some_iff.1 h
      exact hmap (Prod.mk.inj ha).1
    | refund req =>
      simp only [World.perform, Option.some.injEq, Prod.mk.injEq] at h
      exact hmap h.1
    | ledger asked req =>
      obtain ⟨a, -, ha⟩ := Option.map_eq_some_iff.1 h
      cases hq : a.1 with
      | ok b =>
        rw [hq] at ha
        cases (Prod.mk.inj ha).1
      | error refusal =>
        rw [hq] at ha
        cases (Prod.mk.inj ha).1
        intro heq
        cases heq
    | settleCharge id status => cases h
    | settleRefund id status => cases h
  · rw [Except.error.inj he]
    exact hlost
  · rw [Except.error.inj he]
    exact hlost

/-- A program that throws another error than this, when the errors of its calls are other ones. -/
def Program.Says {α : Type} (p : Program α) : Prop := Prog.Throws (· ≠ alreadyProcessing) p

theorem says_step (o : Action) : (step o).Says := Prog.throws_perform (S := signature) o

theorem says_openSession (sess : Session) : (openSession sess).Says := by
  unfold openSession
  split
  · exact (by decide +kernel : (PaymentError.named .error "organizationId is required for a tenant-scoped query") ≠ alreadyProcessing)
  · exact says_step _

theorem says_refundAtProcessor (env : Env) (sess : Session) (req : RefundRequest) (payment : PaymentRow) (chargeId : String)
    (refundAmount : ℚ) (attempt : AttemptRow) : (refundAtProcessor env sess req payment chargeId refundAmount attempt).Says := by
  have hminor (value : Nat) : (validateMinorAmount value).Says := by
    unfold validateMinorAmount
    split
    · exact (nofun : protocolError _ ≠ alreadyProcessing)
    · exact trivial
  unfold refundAtProcessor
  split
  · exact trivial
  refine Prog.throws_bind ?_ (fun n => Prog.throws_bind ?_ (fun answer => ?_))
  · unfold decimalStringToMinorUnits
    split
    · exact (nofun : protocolError _ ≠ alreadyProcessing)
    split
    · exact (nofun : protocolError _ ≠ alreadyProcessing)
    · exact Prog.throws_bind (hminor _) (fun _ => trivial)
  · unfold refund
    split
    · exact (nofun : PaymentError.named .processorNotConfiguredError _ ≠ alreadyProcessing)
    refine Prog.throws_bind (hminor _) (fun _ => Prog.throws_bind ?_ (fun _ => Prog.throws_bind ?_ (fun _ => ?_)))
    · unfold validateIdempotencyKey
      split
      · exact (nofun : protocolError _ ≠ alreadyProcessing)
      · exact trivial
    · unfold validateRefund
      split
      · exact trivial
      split
      · exact (nofun : protocolError _ ≠ alreadyProcessing)
      split
      · exact (nofun : protocolError _ ≠ alreadyProcessing)
      · exact trivial
    · split
      · exact (nofun : protocolError _ ≠ alreadyProcessing)
      · exact says_step _
  · have hfailed (status : ProcessorRefundStatus) : PaymentError.named .error (refundFailure status) ≠ alreadyProcessing := by
      cases status <;> decide +kernel
    dsimp only
    split
    · exact Prog.throws_bind (says_step _) (fun _ => hfailed _)
    · exact Prog.throws_bind (says_step _) (fun _ => trivial)

theorem says_reverseInLedger (sess : Session) (req : RefundRequest) (payment : PaymentRow) (ledgerTransactionId : Uuid)
    (attempt : AttemptRow) : (reverseInLedger sess req payment ledgerTransactionId attempt).Says :=
  Prog.throws_tryCatch (says_step _) (fun _ he => Prog.throws_bind (says_step _) (fun _ => he))

theorem says_recordRefund (env : Env) (sess : Session) (req : RefundRequest) (payment : PaymentRow) (refundAmount : ℚ)
    (alreadyRefunded : Decimal) (attempt : AttemptRow) (processorRefundId : Option String) (reversal : Transaction) :
    (recordRefund env sess req payment refundAmount alreadyRefunded attempt processorRefundId reversal).Says := by
  refine Prog.throws_bind (says_step _) (fun _ => Prog.throws_bind (says_step _) (fun _ => Prog.throws_bind (says_step _) (fun _ => ?_)))
  refine Prog.throws_bind (says_step _) (fun row => ?_)
  cases row with
  | none => exact (nofun : PaymentError.named .typeError _ ≠ alreadyProcessing)
  | some row => exact trivial

/-- A refund is told that another one is processing its key only where an attempt with the key is in status PROCESSING. -/
def toldOutline : Machine.Outline machine.recorded where
  inv _ := True
  rely _ _ _ _ := True
  guar _ _ _ _ := True
  compat _ _ _ _ := True
  post _ c r s := ∀ key, c.refundKey = some key → r = .error alreadyProcessing →
    ∃ a ∈ s.1.db.attempts, a.status = .processing ∧ a.idempotencyKey = key

section

variable {α β : Type} {w : Nat} {c : Call} {key : String}

/-- What a program says by the error. -/
def Told (key : String) (r : Except PaymentError α) (s : machine.recorded.State) : Prop :=
  r = .error alreadyProcessing → ∃ a ∈ s.1.db.attempts, a.status = .processing ∧ a.idempotencyKey = key

theorem Program.Says.told {p : Program α} (hp : p.Says) (s : machine.recorded.State) :
    p.wp (machine.recorded.Does (.any _) w) (toldOutline.contract w c) (Told key) s := by
  refine Prog.wp_mono (fun r s' h hr => absurd rfl (h _ hr)) p (Prog.Throws.wp (fun _ => trivial) (fun _ _ => trivial) ?_ hp s)
  rintro o s₁ e s₂ ⟨-, ch, he⟩
  obtain ⟨x, hx, heq⟩ := Option.map_eq_some_iff.1 he
  obtain ⟨hr, rfl⟩ := Prod.mk.inj heq
  exact exec_error_ne (hx.trans (by rw [← hr]))

theorem Program.Says.bind_told {p : Program α} (hp : p.Says) {f : α → Program β} {s : machine.recorded.State}
    (hf : ∀ a s', (f a).wp (machine.recorded.Does (.any _) w) (toldOutline.contract w c) (Told key) s') :
    (p >>= f).wp (machine.recorded.Does (.any _) w) (toldOutline.contract w c) (Told key) s := by
  have htold : p.wp (machine.recorded.Does (.any _) w) (toldOutline.contract w c) (Told key) s := hp.told s
  exact Prog.wp_seq htold (fun a s' _ => hf a s') (fun e s' h hr => h (by rw [Except.error.inj hr]))

/-- Who claims a key that is taken reads the attempt that has it. -/
theorem claimAttempt_told (sess : Session) (v : AttemptValues) (s : machine.recorded.State) :
    (claimAttempt sess v).wp (machine.recorded.Does (.any _) w) (toldOutline.contract w c) (Told v.idempotencyKey) s := by
  refine Program.Says.bind_told (says_step (.sql sess (.insertAttempt v))) (fun row s₁ => ?_)
  cases row with
  | some row => exact nofun
  | none =>
    refine (Prog.wp_bind _ _ _).2 ((Prog.wp_perform (S := signature) (.sql sess (.selectAttempt v.idempotencyKey)) s₁).2 ?_)
    rintro s₂ - - r s₃ ⟨-, ch, he⟩
    obtain ⟨x, hx, heq⟩ := Option.map_eq_some_iff.1 he
    obtain ⟨rfl, rfl⟩ := Prod.mk.inj heq
    refine ⟨trivial, trivial, ?_⟩
    obtain ⟨hsame, hanswer⟩ := exec_reads hx trivial
    rcases hr : x.1 with e | _ | attempt
    · exact fun h => absurd (Except.error.inj h) (exec_error_ne (hx.trans (by rw [← hr])))
    · exact fun h => absurd (Except.error.inj h) (by decide +kernel)
    · dsimp only
      have hfound := Except.ok.inj (hanswer _ hr)
      have hkey := List.find?_some hfound
      rw [Bool.and_eq_true, decide_eq_true_eq] at hkey
      split
      · rename_i hstatus
        intro _
        rw [hsame]
        exact ⟨attempt, List.mem_of_find?_eq_some hfound, hstatus, hkey.1⟩
      · refine Program.Says.told (Prog.throws_bind (says_step _) (fun row => ?_)) _
        cases row <;> exact trivial
      · refine Program.Says.told (Prog.throws_bind (says_step _) (fun _ => ?_)) _
        exact trivial
      · exact nofun

/-- `refundPayment` -/
theorem refundPayment_told (env : Env) (req : RefundRequest) (s : machine.recorded.State) :
    (refundPayment env req).wp (machine.recorded.Does (.any _) w) (toldOutline.contract w c) (Told req.idempotencyKey) s := by
  have hnotFound : PaymentError.named .paymentNotFoundError "Payment not found" ≠ alreadyProcessing := nofun
  unfold refundPayment
  split
  · exact fun h => absurd (Except.error.inj h) hnotFound
  refine (says_openSession _).bind_told (fun _ s₁ => ?_)
  refine (says_step _).bind_told (fun row s₂ => ?_)
  cases row with
  | some row => exact nofun
  | none =>
    refine (says_step _).bind_told (fun row s₃ => ?_)
    cases row with
    | none => exact fun h => absurd (Except.error.inj h) hnotFound
    | some payment =>
      dsimp only
      split
      · exact fun h => absurd (Except.error.inj h) (by cases payment.status <;> decide +kernel)
      split
      · exact fun h => absurd (Except.error.inj h) (by decide +kernel)
      · exact fun h => absurd (Except.error.inj h) (by decide +kernel)
      · refine (says_step _).bind_told (fun total s₄ => ?_)
        dsimp only
        split
        · exact fun h => absurd (Except.error.inj h) (by nofun)
        refine Prog.wp_seq (claimAttempt_told _ _ s₄) (fun claim s₅ _ => ?_) (fun e s₅ h hr => h (by rw [Except.error.inj hr]))
        cases claim with
        | done row => exact nofun
        | attempt attempt =>
          refine (says_refundAtProcessor _ _ _ _ _ _ _).bind_told (fun id s₆ => ?_)
          refine (says_reverseInLedger _ _ _ _ _).bind_told (fun reversal s₇ => ?_)
          exact (says_recordRefund _ _ _ _ _ _ _ _ _).told s₇

end

theorem toldOutline_sound : toldOutline.Sound (.any _) where
  refl _ _ _ := trivial
  trans _ _ _ _ _ _ _ := trivial
  symm _ _ _ _ _ := trivial
  guar _ _ _ _ _ _ _ _ _ _ := trivial
  start cfg c _ _ := by
    refine ⟨fun _ _ => trivial, ?_⟩
    cases c with
    | refundPayment env req =>
      refine Prog.wp_seq (refundPayment_told env req cfg.state) (fun row s' _ => nofun) (fun e s' h key hkey hr => ?_)
      cases hkey
      exact h (by rw [Except.error.inj hr])
    | _ => exact Prog.wp_trivial (fun _ => trivial) (fun _ _ => trivial) (fun _ _ => nofun) _ _
  crash _ _ _ := ⟨trivial, fun _ _ _ => trivial⟩

/-! ## Refunds that are tried again -/

/-- In every run whose steps all meet the condition, whatever the calls and however their steps, faults and crashes are interleaved: an
attempt is in status PROCESSING only while a refund under its key runs; and a refund is told that another one is processing its key
only while another one under this key runs. -/
theorem refund_retryable (cfg : machine.recorded.Config) (hrun : Machine.GuardedRun retryable (.init _ (.empty, [])) cfg) :
    (∀ a ∈ cfg.state.1.db.attempts, a.status = .processing →
      ∃ w ∈ cfg.live, ∃ key, w.call.refundKey = some key ∧ column 255 key = .ok a.idempotencyKey) ∧
    ∀ w env req s, w.call = .refundPayment env req → cfg.GuardedEnds retryable w (.error alreadyProcessing) s →
      ∃ x ∈ cfg.live, x.id ≠ w.id ∧ ∃ key, x.call.refundKey = some key ∧ column 255 key = .ok req.idempotencyKey := by
  have hheld {cfg : machine.recorded.Config} (hrun : Machine.GuardedRun retryable (.init _ (.empty, [])) cfg) :
      ∀ a ∈ cfg.state.1.db.attempts, a.status = .processing →
        ∃ w ∈ cfg.live, ∃ key, w.call.refundKey = some key ∧ column 255 key = .ok a.idempotencyKey := by
    intro a ha hstatus
    obtain ⟨w, hw, hin⟩ := (attended_run hrun).held a ha hstatus
    exact ⟨w, hw, hin.key⟩
  refine ⟨hheld hrun, fun w env req s hcall hends => ?_⟩
  obtain ⟨hended, cfg', hstep, hstate, hothers⟩ := hends.step
  have hinit : toldOutline.inv (.empty, []) := trivial
  have hpost := (Machine.Outline.ends toldOutline_sound hinit hrun.run hended).2
  obtain ⟨a, ha, hstatus, hkey⟩ := hpost req.idempotencyKey (by rw [hcall]; rfl) rfl
  rw [← hstate] at ha
  obtain ⟨x, hx, key, hxkey, hcolumn⟩ := hheld (hrun.tail hstep) a ha hstatus
  obtain ⟨hlive, hne⟩ := hothers x hx
  exact ⟨x, hlive, hne, key, hxkey, by rw [hcolumn, hkey]⟩

/-- `Sendable`, computed. -/
def sendableCheck (mode : ProcessorMode) (v : AttemptValues) : Bool :=
  decide (mode ≠ .disabled) && validCurrency v.currency &&
    (match v.amount with
      | .fin q => decide (0 ≤ q ∧ 0 < cents q ∧ cents q < 2 ^ 53 ∧ (mode = .liveSmoke → cents q = 100))
      | _ => false) &&
    decide (v.idempotencyKey ≠ "" ∧ utf16Length v.idempotencyKey ≤ 255) &&
    decide (mode = .liveSmoke → startsWith v.idempotencyKey "live-smoke-refund-" = true) && startsWith v.processorPaymentId "pi_"

theorem sendable_of_check {mode : ProcessorMode} {v : AttemptValues} (h : sendableCheck mode v = true) : Sendable mode v := by
  simp only [sendableCheck, Bool.and_eq_true, decide_eq_true_eq] at h
  obtain ⟨⟨⟨⟨⟨hmode, hcurrency⟩, hamount⟩, hkey⟩, hsmoke⟩, hcharge⟩ := h
  refine ⟨hmode, hcurrency, ?_, hkey, hsmoke, hcharge⟩
  split at hamount
  · rename_i q hq
    exact ⟨q, hq, of_decide_eq_true hamount⟩
  · cases hamount

/-- `retryable`, computed, for calls that go well and claim no attempt that failed. -/
def retryableCheck (mode : ProcessorMode) (ch : Choice) (s : World) : Action → Bool
  | .sql _ (.insertAttempt v) => sendableCheck mode v
  | .sql _ (.updateAttempt _ .processing) => false
  | .refund req => match exec (.refund req) ch s with
    | some (.ok _, _) => true
    | _ => false
  | _ => true

def retryableEvent (cfg : machine.recorded.Config) : machine.recorded.Event → Bool
  | .start _ => true
  | .call w ch => decide (ch.fault = .none) && cfg.live.all (fun x => !decide (x.id = w) || match x.rest with
    | .call o _ => retryableCheck x.call.mode ch cfg.state.1 o
    | _ => true)
  | .crash _ => false

theorem retryableEvent_allows (cfg : machine.recorded.Config) (e : machine.recorded.Event) (h : retryableEvent cfg e = true) :
    retryable.Allows cfg e := by
  cases e with
  | start c => exact trivial
  | crash w => cases h
  | call w ch =>
    simp only [retryableEvent, Bool.and_eq_true, decide_eq_true_eq, List.all_eq_true, Bool.or_eq_true, Bool.not_eq_true',
      decide_eq_false_iff_not] at h
    obtain ⟨hfault, hlive⟩ := h
    intro x hx hid o k hk
    have hcheck := (hlive x hx).resolve_left (not_not.2 hid)
    rw [hk] at hcheck
    have hbefore : ch.fault ≠ .before := by
      rw [hfault]
      exact nofun
    unfold retryable
    dsimp only
    split
    · exact fun _ _ => ⟨hfault, sendable_of_check hcheck⟩
    · cases hcheck
    · rename_i req
      intro _
      simp only [retryableCheck] at hcheck
      split at hcheck
      · rename_i answer t he
        exact ⟨answer, t, he⟩
      · cases hcheck
    · exact fun _ => hbefore
    · exact trivial

/-- A payment, a refund of it that has claimed its key, and one that found the key taken. -/
def taggedEvents : List machine.recorded.Event :=
  ([.start saleCall] ++ stepsWell 0 13 "pi_1" ++ [.start (saleRefund 2 none "refund-1")] ++ stepsWell 1 5 "" ++
    [.start (saleRefund 3 none "refund-1")] ++ stepsWell 2 5 "" : List machine.Event).map recordedStep

/-- A call that goes well. -/
def calm : Choice := ⟨.none, .refuses "", ⟨true, 0, id⟩, fun _ => false⟩

/-- A worker is a refund under the key, and its next call is its last: it is told that another refund is running. -/
def toldCheck (cfg : machine.recorded.Config) (w : Nat) : Bool :=
  match cfg.ended w calm with
  | some (x, .error e, _) => decide (e = alreadyProcessing) && decide (x.call.refundKey = some "refund-1")
  | _ => false

theorem told_of_check {cfg : machine.recorded.Config} {w : Nat} (h : toldCheck cfg w = true) :
    ∃ x env req s, cfg.ended w calm = some (x, .error alreadyProcessing, s) ∧ x.call = .refundPayment env req := by
  unfold toldCheck at h
  split at h
  · rename_i x e s hended
    rw [Bool.and_eq_true, decide_eq_true_eq, decide_eq_true_eq] at h
    obtain ⟨rfl, hkey⟩ := h
    cases hcall : x.call with
    | refundPayment env req => exact ⟨x, env, req, s, hended, hcall⟩
    | _ =>
      rw [hcall] at hkey
      cases hkey
  · cases h

/-- The theorem at two refunds under one key: the first has the attempt in status PROCESSING, and the second is told so. -/
theorem refund_retryable_tagged : ∃ cfg, Machine.GuardedRun retryable (.init _ (.empty, [])) cfg ∧
    (∃ a ∈ cfg.state.1.db.attempts, a.status = .processing ∧
      ∃ w ∈ cfg.live, ∃ key, w.call.refundKey = some key ∧ column 255 key = .ok a.idempotencyKey) ∧
    ∃ w env req s, w.call = .refundPayment env req ∧ cfg.GuardedEnds retryable w (.error alreadyProcessing) s ∧
      ∃ x ∈ cfg.live, x.id ≠ w.id ∧ ∃ key, x.call.refundKey = some key ∧ column 255 key = .ok req.idempotencyKey := by
  obtain ⟨cfg, hrun, htest⟩ := Machine.Config.replay_guarded_any retryableEvent_allows taggedEvents (.init machine.recorded (.empty, []))
    (fun cfg => cfg.state.1.db.attempts.any (fun a => decide (a.status = .processing)) && retryableEvent cfg (.call 2 calm) &&
      toldCheck cfg 2) (by decide +kernel)
  rw [Bool.and_eq_true, Bool.and_eq_true, List.any_eq_true] at htest
  obtain ⟨⟨⟨a, ha, hstatus⟩, hallowed⟩, htold⟩ := htest
  obtain ⟨w, env, req, s, hended, hcall⟩ := told_of_check htold
  have hends := Machine.Config.guardedEnds_of_ended (retryableEvent_allows cfg _ hallowed) hended
  obtain ⟨hheld, hother⟩ := refund_retryable cfg hrun
  exact ⟨cfg, hrun, ⟨a, ha, of_decide_eq_true hstatus, hheld a ha (of_decide_eq_true hstatus)⟩, w, env, req, s, hcall, hends,
    hother w env req s hcall hends⟩

/-- A payment, a refund of it that the processor refuses, and another one under its key, up to its last call. -/
def refusedEvents : List machine.recorded.Event :=
  ([.start saleCall] ++ stepsWell 0 13 "pi_1" ++ [.start (saleRefund 2 none "refund-1")] ++ stepsWell 1 5 "" ++
    [.call 1 calm, .start (saleRefund 3 none "refund-1")] ++ stepsWell 2 5 "" : List machine.Event).map recordedStep

/-- Without the condition a refund that runs alone is told that another one is processing its key. -/
theorem refund_stuck : ¬ ∀ cfg, machine.recorded.Run (.any _) (.init _ (.empty, [])) cfg →
    (∀ a ∈ cfg.state.1.db.attempts, a.status = .processing →
      ∃ w ∈ cfg.live, ∃ key, w.call.refundKey = some key ∧ column 255 key = .ok a.idempotencyKey) ∧
    ∀ w env req s, w.call = .refundPayment env req → cfg.Ends (.any _) w (.error alreadyProcessing) s →
      ∃ x ∈ cfg.live, x.id ≠ w.id ∧ ∃ key, x.call.refundKey = some key ∧ column 255 key = .ok req.idempotencyKey := by
  intro h
  obtain ⟨cfg, hrun, htest⟩ := Machine.Config.replay_any (fun cfg e _ => Machine.Cond.allows_any cfg e)
    refusedEvents (.init machine.recorded (.empty, [])) (fun cfg => decide (cfg.live.length = 1) && toldCheck cfg 2)
    (show ((Machine.Config.init machine.recorded (.empty, [])).replay (fun _ _ => true) refusedEvents).any _ = true by
      decide +kernel)
  rw [Bool.and_eq_true, decide_eq_true_eq, List.length_eq_one_iff] at htest
  obtain ⟨⟨z, hz⟩, htold⟩ := htest
  obtain ⟨w, env, req, s, hended, hcall⟩ := told_of_check htold
  have hends : cfg.Ends (.any _) w (.error alreadyProcessing) s :=
    Machine.Config.ends_of_ended (Machine.Cond.allows_any cfg _) hended
  obtain ⟨x, hx, hne, -⟩ := (h cfg hrun).2 w env req s hcall hends
  have hw := hends.1
  rw [hz, List.mem_singleton] at hx hw
  exact hne (by rw [hx, hw])

end Payments

end Archisynapse
