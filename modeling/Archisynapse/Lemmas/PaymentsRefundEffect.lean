import Archisynapse.Lemmas.PaymentsCharges
import Archisynapse.Lemmas.PaymentsRefundKeys

/-!
# What refunds do to the ledger

`refundPayment` that succeeds while no other call runs either finds its refund or adds one refund row and one ledger transaction,
which reverses the payment's whole transaction (`refundPayment_refunded`). Over a sequence of such calls the ledger therefore has
as many reversals of the payment's transaction as the refunds table has rows of the payment (`Matched`).
-/

namespace Archisynapse

namespace Payments

/-! ## One call -/

/-- What never changes of payments by a refund. -/
def Tables.ledgered (d : Tables) : List (Uuid × Int × Option Uuid) :=
  d.payments.map (fun p => (p.id, p.amount, p.ledgerTransactionId))

/-- A refund added: a row of the payment, and a transaction that reverses the payment's. -/
structure AddsRefund (u : Uuid) (s s' : World) (row : RefundRow) : Prop where
  refunds : s'.db.refunds = s.db.refunds ++ [row]
  payment : row.paymentId = u
  positive : 0 < row.amount
  reverses : ∃ p ∈ s.db.payments, p.id = u ∧ ∃ t, p.ledgerTransactionId = some t ∧
    ∃ posted rows, Ledger.Adds s.ledger s'.ledger posted rows ∧ posted.reverses = some t

/-- What a call that succeeded did: nothing to the refunds and the ledger, or one refund was added. -/
structure Refunded (u : Uuid) (s s' : World) : Prop where
  ledgered : s'.db.ledgered = s.db.ledgered
  books : InBooks s'
  outcome : (s'.db.refunds = s.db.refunds ∧ s'.ledger = s.ledger) ∨ ∃ row, AddsRefund u s s' row

/-- A call that leaves payments, refunds and the ledger. -/
def Action.Aside : Action → Prop
  | .sql _ (.insertPayment _) => False
  | .sql _ (.updatePayment _ _) => False
  | .sql _ (.insertRefund _) => False
  | .sql _ (.insertUnposted _) => False
  | .sql _ _ => True
  | .refund _ => True
  | _ => False

section

variable {s s' : World} {o : Action} {α : Type}

theorem Action.Aside.exec {ch : Choice} {r : Except PaymentError o.Result} (ho : o.Aside) (h : exec o ch s = some (r, s')) :
    Apart s s' := by
  cases o with
  | refund q => exact (exec_same h (Or.inl ⟨q, rfl⟩)).apart
  | sql sess o =>
    obtain ⟨-, hledger, hdb, -⟩ := exec_sql h
    have hdb' : ∀ d : Tables, (d.perform sess o).2.payments = d.payments ∧ (d.perform sess o).2.refunds = d.refunds := by
      intro d
      cases o with
      | insertAttempt v =>
        simp only [Tables.perform, Tables.insert]
        split <;> exact ⟨rfl, rfl⟩
      | updateAttempt id change => exact ⟨rfl, rfl⟩
      | insertPayment v => exact ho.elim
      | updatePayment id change => exact ho.elim
      | insertRefund v => exact ho.elim
      | insertUnposted v => exact ho.elim
      | selectPayment id => rw [Statement.reads.perform (by trivial)]; exact ⟨rfl, rfl⟩
      | _ => exact ⟨rfl, rfl⟩
    rcases hdb with hdb | hdb
    · exact ⟨by rw [hdb], by rw [hdb], hledger⟩
    · exact ⟨by rw [hdb, (hdb' _).1], by rw [hdb, (hdb' _).2], hledger⟩
  | charge q => exact ho.elim
  | ledger asked q => exact ho.elim
  | settleCharge id status => exact ho.elim
  | settleRefund id status => exact ho.elim

/-- What a call may do. -/
abbrev Performs (o : Action) (s : World) (r : Except PaymentError o.Result) (s' : World) : Prop := ∃ ch, exec o ch s = some (r, s')

/-- A call, while no other runs. -/
theorem alone_step {Q : Except PaymentError o.Result → World → Prop}
    (h : ∀ ch r s', exec o ch s = some (r, s') → Q r s') : (step o).wp Performs (.alone World) Q s := by
  unfold step
  rw [Prog.wp_perform]
  rintro s₁ rfl - r s₂ ⟨ch, he⟩
  exact ⟨trivial, trivial, h ch r s₂ he⟩

/-- A program that leaves payments, refunds and the ledger, while no other runs. -/
theorem alone_aside {p : Program α} (hp : p.Calls Action.Aside) {Q : Except PaymentError α → World → Prop}
    (hQ : ∀ r s', Apart s s' → Q r s') : p.wp Performs (.alone World) Q s := by
  induction p generalizing s with
  | pure a => exact hQ _ _ (Same.refl s).apart
  | throw e => exact hQ _ _ (Same.refl s).apart
  | call o k ih =>
    rintro s₁ rfl - r s₂ ⟨ch, he⟩
    have h₁ := hp.1.exec he
    exact ⟨trivial, trivial, ih r (hp.2 r) (fun r s' h => hQ r s' (h₁.trans h))⟩

theorem aside_claimAttempt (sess : Session) (v : AttemptValues) : (claimAttempt sess v).Calls Action.Aside := by
  refine Prog.calls_bind (Prog.calls_perform trivial) (fun row => ?_)
  cases row with
  | some row => exact Prog.calls_pure _
  | none =>
    refine Prog.calls_bind (Prog.calls_perform trivial) (fun row => ?_)
    cases row with
    | none => exact Prog.calls_throw _
    | some attempt =>
      dsimp only
      split
      · exact Prog.calls_throw _
      · refine Prog.calls_bind (Prog.calls_perform trivial) (fun row => ?_)
        cases row <;> exact Prog.calls_pure _
      · exact Prog.calls_bind (Prog.calls_perform trivial) (fun _ => Prog.calls_pure _)
      · exact Prog.calls_pure _

theorem aside_refundAtProcessor (env : Env) (sess : Session) (req : RefundRequest) (payment : PaymentRow) (chargeId : String)
    (refundAmount : ℚ) (attempt : AttemptRow) :
    (refundAtProcessor env sess req payment chargeId refundAmount attempt).Calls Action.Aside := by
  unfold refundAtProcessor
  refine Prog.calls_ite (Prog.calls_pure _) ?_
  rcases decimalStringToMinorUnits_eq refundAmount payment.currency with ⟨e, he⟩ | ⟨n, hn⟩
  · rw [he]
    exact Prog.calls_throw e
  rw [hn, Prog.pure_bind_eq]
  rcases refund_eq env ⟨chargeId, n, req.reason, req.idempotencyKey⟩ with ⟨e, he⟩ | ⟨-, he⟩
  · rw [he]
    exact Prog.calls_throw e
  rw [he]
  refine Prog.calls_bind (Prog.calls_perform trivial) (fun a => Prog.calls_ite ?_ ?_)
  · exact Prog.calls_bind (Prog.calls_perform trivial) (fun _ => Prog.calls_throw _)
  · exact Prog.calls_bind (Prog.calls_perform trivial) (fun _ => Prog.calls_pure _)

/-- The ledger's part of a refund, while no other call runs. -/
theorem alone_reverseInLedger {sess : Session} {req : RefundRequest} {payment : PaymentRow} {t : Uuid} {attempt : AttemptRow}
    (hb : InBooks s) {Q : Except PaymentError Transaction → World → Prop} (herror : ∀ e s', Q (.error e) s')
    (hQ : ∀ a s', s'.db = s.db → InBooks s' →
      (∃ posted rows, Ledger.Adds s.ledger s'.ledger posted rows ∧ posted.reverses = some t) → Q (.ok a) s') :
    (reverseInLedger sess req payment t attempt).wp Performs (.alone World) Q s := by
  unfold reverseInLedger
  refine (Prog.wp_tryCatch _ _ _).2 (alone_step (fun ch r s₁ he => ?_))
  cases r with
  | error e =>
    refine (Prog.wp_bind _ _ _).2 (alone_step (fun ch r s₂ _ => ?_))
    cases r <;> exact herror _ _
  | ok a =>
    have hb₁ := exec_inBooks hb he
    rcases exec_cases he with he | ⟨h, -⟩ | ⟨h, -⟩
    · obtain ⟨b, hserve, heq⟩ := Option.map_eq_some_iff.1 he
      obtain ⟨hres, rfl⟩ := Prod.mk.inj heq
      rcases Ledger.serve_reverse hb.1 hb.2 hserve with ⟨⟨e, hres'⟩, -⟩ | ⟨_, posted, rows, -, hadds, -, original, hv, hrev⟩
      · rw [hres'] at hres
        cases hres
      · cases hv
        exact hQ a _ rfl hb₁ ⟨posted, rows, hadds, hrev⟩
    · cases h
    · cases h

/-- The records of a refund, while no other call runs, where the key was not found before. -/
theorem alone_recordRefund {env : Env} {sess : Session} {req : RefundRequest} {payment : PaymentRow} {refundAmount : ℚ}
    {alreadyRefunded : Decimal} {attempt : AttemptRow} {processorRefundId : Option String} {reversal : Transaction}
    (hnone : (s.db.perform sess (.selectRefund req.idempotencyKey)).1 = .ok none)
    {Q : Except PaymentError RefundRow → World → Prop} (herror : ∀ e s', Q (.error e) s')
    (hQ : ∀ a s' row, s'.db.ledgered = s.db.ledgered → s'.ledger = s.ledger → s'.db.refunds = s.db.refunds ++ [row] →
      row.paymentId = payment.id → 0 < row.amount → Q (.ok a) s') :
    (recordRefund env sess req payment refundAmount alreadyRefunded attempt processorRefundId reversal).wp Performs
      (.alone World) Q s := by
  unfold recordRefund
  refine (Prog.wp_bind _ _ _).2 (alone_step (fun ch r s₁ he₁ => ?_))
  cases r with
  | error e => exact herror e s₁
  | ok u =>
    obtain ⟨-, hledger₁, -, hok₁⟩ := exec_sql he₁
    obtain ⟨hdb₁, hans₁⟩ := hok₁ u rfl
    refine (Prog.wp_bind _ _ _).2 (alone_step (fun ch r s₂ he₂ => ?_))
    cases r with
    | error e => exact herror e s₂
    | ok u =>
      have h₂ : Apart s₁ s₂ := Action.Aside.exec (o := .sql sess (.updateAttempt attempt.id (.ledgerSucceeded reversal.id))) trivial he₂
      refine (Prog.wp_bind _ _ _).2 (alone_step (fun ch r s₃ he₃ => ?_))
      cases r with
      | error e => exact herror e s₃
      | ok u =>
        obtain ⟨-, hledger₃, -, hok₃⟩ := exec_sql he₃
        obtain ⟨hdb₃, -⟩ := hok₃ u rfl
        refine (Prog.wp_bind _ _ _).2 (alone_step (fun ch r s₄ he₄ => ?_))
        obtain ⟨rfl, hans₄⟩ := exec_reads he₄ (by trivial)
        cases r with
        | error e => exact herror e s₄
        | ok found =>
          cases found with
          | none => exact herror _ s₄
          | some found =>
            have hrefunds : s₄.db.refunds = s₁.db.refunds := by
              rw [hdb₃]
              exact h₂.refunds
            have hledgered : s₄.db.ledgered = s₁.db.ledgered := by
              unfold Tables.ledgered
              rw [hdb₃]
              refine (map_updateKey _ (fun p => ?_) _).trans (by rw [h₂.payments])
              split <;> rfl
            simp only [Tables.perform, Tables.insert] at hdb₁
            cases hrow : s.db.refundRow sess ⟨env.uuid, payment.id, payment.organizationId, .fin refundAmount, req.reason,
                req.idempotencyKey, processorRefundId, reversal.id⟩ with
            | error e =>
              simp only [Tables.perform, Tables.insert, hrow] at hans₁
              cases hans₁
            | ok row =>
              rw [hrow] at hdb₁
              cases row with
              | none =>
                -- the key was taken by a row the session does not see, so the last lookup finds nothing
                have hsame : s₄.db.refunds = s.db.refunds := by
                  rw [hrefunds, hdb₁]
                  simp
                have hfound := hans₄ _ rfl
                simp only [Tables.perform, hsame] at hfound hnone
                rw [hnone] at hfound
                cases hfound
              | some row =>
                obtain ⟨hamount, hpayment, -, -⟩ := refundRow_ok hrow
                refine hQ _ s₄ row ?_ ?_ ?_ hpayment (positive_ok hamount).1
                · rw [hledgered, hdb₁]
                  rfl
                · rw [hledger₃, h₂.ledger, hledger₁]
                · rw [hrefunds, hdb₁]
                  rfl

/-- A call that succeeds while no other runs finds its refund, or adds one. -/
theorem refundPayment_refunded {env : Env} {req : RefundRequest} {u : Uuid} (hu : req.paymentId.value = some u) (hb : InBooks s) :
    (refundPayment env req).wp Performs (.alone World) (fun r s' => r.isOk = true → Refunded u s s') s := by
  have hsame : Refunded u s s := ⟨rfl, hb, Or.inl ⟨rfl, rfl⟩⟩
  unfold refundPayment
  split
  · exact nofun
  rename_i hne
  dsimp only
  rw [openSession_eq (env.session req.organizationId) hne]
  refine (Prog.wp_bind _ _ _).2 (alone_step (fun ch r s₁ he₁ => ?_))
  obtain ⟨rfl, -⟩ := exec_reads he₁ (by trivial)
  cases r with
  | error e => exact nofun
  | ok _ =>
    refine (Prog.wp_bind _ _ _).2 (alone_step (fun ch r s₂ he₂ => ?_))
    obtain ⟨rfl, hnone⟩ := exec_reads he₂ (by trivial)
    cases r with
    | error e => exact nofun
    | ok row =>
      cases row with
      | some row => exact fun _ => hsame
      | none =>
        refine (Prog.wp_bind _ _ _).2 (alone_step (fun ch r s₃ he₃ => ?_))
        cases r with
        | error e => exact nofun
        | ok row =>
          cases row with
          | none => exact nofun
          | some payment =>
            obtain ⟨hid, hmem, rfl⟩ := payment_of_select he₃
            dsimp only
            split
            · exact nofun
            split
            · exact nofun
            · exact nofun
            · rename_i chargeId t hcharge hledger
              unfold refundPosted
              refine (Prog.wp_bind _ _ _).2 (alone_step (fun ch r s₄ he₄ => ?_))
              obtain ⟨rfl, -⟩ := exec_reads he₄ (by trivial)
              cases r with
              | error e => exact nofun
              | ok total =>
                dsimp only
                split
                · exact nofun
                · refine (Prog.wp_bind _ _ _).2 (alone_aside (aside_claimAttempt _ _) (fun r s₅ h₅ => ?_))
                  cases r with
                  | error e => exact nofun
                  | ok claim =>
                    have hb₅ : InBooks s₅ := by
                      unfold InBooks
                      rw [h₅.ledger]
                      exact hb
                    cases claim with
                    | done row =>
                      refine fun _ => ⟨?_, hb₅, Or.inl ⟨h₅.refunds, h₅.ledger⟩⟩
                      unfold Tables.ledgered
                      rw [h₅.payments]
                    | attempt attempt =>
                      refine (Prog.wp_bind _ _ _).2 (alone_aside (aside_refundAtProcessor _ _ _ _ _ _ _) (fun r s₆ h₆ => ?_))
                      cases r with
                      | error e => exact nofun
                      | ok refundId =>
                        have h := h₅.trans h₆
                        have hb₆ : InBooks s₆ := by
                          unfold InBooks
                          rw [h.ledger]
                          exact hb
                        refine (Prog.wp_bind _ _ _).2 (alone_reverseInLedger hb₆ (fun _ _ => nofun) ?_)
                        rintro reversal s₇ hdb₇ hb₇ ⟨posted, rows, hadds, hrev⟩
                        refine alone_recordRefund ?_ (fun _ _ => nofun) ?_
                        · rw [← hnone _ rfl]
                          simp only [Tables.perform, hdb₇, h.refunds]
                        · intro _ s₈ row hledgered hledger₈ hrefunds hpayment hpos _
                          refine ⟨?_, ?_, Or.inr ⟨row, ?_, ?_, hpos, payment, hmem, ?_, t, hledger, posted, rows, ?_, hrev⟩⟩
                          · rw [hledgered, hdb₇]
                            unfold Tables.ledgered
                            rw [h.payments]
                          · unfold InBooks
                            rw [hledger₈]
                            exact hb₇
                          · rw [hrefunds, hdb₇, h.refunds]
                          · rw [hpayment]
                            exact Option.some.inj (hid.symm.trans hu)
                          · exact Option.some.inj (hid.symm.trans hu)
                          · rw [hledger₈, ← h.ledger]
                            exact hadds

end

/-! ## Sequences of calls -/

/-- A call that refunds a payment and succeeds, while no other runs. -/
def RefundSucceeds (u : Uuid) (s s' : World) : Prop :=
  ∃ env req ch row, req.paymentId.value = some u ∧ alone (refundPayment env req) ch s = some (.ok row, s')

/-- Any number of them, one after another. -/
def RefundsSucceed (u : Uuid) : World → World → Prop := Relation.ReflTransGen (RefundSucceeds u)

/-- The refund rows of a payment. -/
def World.refundsOf (s : World) (u : Uuid) : List RefundRow := s.db.refunds.filter (fun r => decide (r.paymentId = u))

/-- The ledger transactions that reverse one. -/
def World.reversalsOf (s : World) (t : Uuid) : List Ledger.Post := s.ledger.posts.filter (fun p => decide (p.reverses = some t))

/-- The net effect of a transaction and all its reversals on an account. -/
def World.netEffect (s : World) (t account : Uuid) : Int :=
  Ledger.effect s.ledger.entries t account +
    ((s.reversalsOf t).map (fun p => Ledger.effect s.ledger.entries p.id account)).sum

/-- What was refunded of a payment, by its refund rows. -/
def World.refundedOf (s : World) (u : Uuid) : Int := ((s.refundsOf u).map (·.amount)).sum

/-- A payment and its transaction, which debits an account with the payment's amount; the ledger has as many reversals of it as
the refunds table has rows of the payment. -/
structure Matched (u t account : Uuid) (amount : Int) (s : World) : Prop where
  books : InBooks s
  payment : ∀ p ∈ s.db.ledgered, p.1 = u → p.2 = (amount, some t)
  debit : Ledger.effect s.ledger.entries t account = amount
  posted : ∃ p ∈ s.ledger.posts, p.id = t
  matched : (s.reversalsOf t).length = (s.refundsOf u).length
  positive : ∀ r ∈ s.refundsOf u, 0 < r.amount

section

variable {u t account : Uuid} {amount : Int} {s s' : World}

theorem Matched.refunded (h : Matched u t account amount s) (hr : Refunded u s s') : Matched u t account amount s' := by
  have hpayment : ∀ p ∈ s'.db.ledgered, p.1 = u → p.2 = (amount, some t) := by
    rw [hr.ledgered]
    exact h.payment
  rcases hr.outcome with ⟨hrefunds, hledger⟩ | ⟨row, hrow⟩
  · refine ⟨hr.books, hpayment, ?_, ?_, ?_, ?_⟩
    · rw [hledger]
      exact h.debit
    · rw [hledger]
      exact h.posted
    · unfold World.reversalsOf World.refundsOf
      rw [hledger, hrefunds]
      exact h.matched
    · unfold World.refundsOf
      rw [hrefunds]
      exact h.positive
  · obtain ⟨p, hp, hid, t', ht', posted, rows, hadds, hrev⟩ := hrow.reverses
    obtain rfl : t' = t := by
      have hpt := h.payment _ (List.mem_map_of_mem hp) hid
      exact Option.some.inj (ht'.symm.trans (congrArg Prod.snd hpt))
    have hreversals : s'.reversalsOf t' = s.reversalsOf t' ++ [Ledger.post posted] := by
      unfold World.reversalsOf
      rw [hadds.posts, List.filter_append, List.filter_singleton]
      simp [Ledger.post, hrev]
    have hrows : s'.refundsOf u = s.refundsOf u ++ [row] := by
      unfold World.refundsOf
      rw [hrow.refunds, List.filter_append, List.filter_singleton]
      simp [hrow.payment]
    obtain ⟨q, hq, hqid⟩ := h.posted
    refine ⟨hr.books, hpayment, ?_, ⟨q, hadds.grows.posts q hq, hqid⟩, ?_, ?_⟩
    · rw [← hqid, hadds.effect_old hq, hqid]
      exact h.debit
    · rw [hreversals, hrows, List.length_append, List.length_append, h.matched]
      rfl
    · rw [hrows]
      intro r hr
      rcases List.mem_append.1 hr with hr | hr
      · exact h.positive r hr
      · rw [List.mem_singleton.1 hr]
        exact hrow.positive

/-- A sequence of calls keeps the match. -/
theorem Matched.sequence (h : Matched u t account amount s) (hs : RefundsSucceed u s s') : Matched u t account amount s' := by
  induction hs with
  | refl => exact h
  | tail _ hstep ih =>
    obtain ⟨env, req, ch, row, hu, halone⟩ := hstep
    unfold alone at halone
    have hout := (Prog.wp_run exec (fun o c s r s' he => ⟨c, he⟩) (fun _ => rfl) _ trivial
      (refundPayment_refunded hu ih.books) halone).2
    exact ih.refunded (hout rfl)

/-- Every reversal takes back the whole amount. -/
theorem Matched.netEffect (h : Matched u t account amount s) :
    s.netEffect t account = amount - (s.refundsOf u).length * amount := by
  have hall : ∀ p ∈ s.reversalsOf t, Ledger.effect s.ledger.entries p.id account = -amount := by
    intro p hp
    obtain ⟨hp, hrev⟩ := List.mem_filter.1 hp
    rw [(h.books.1.reversal p hp t (of_decide_eq_true hrev)).2, h.debit]
  unfold World.netEffect
  rw [h.debit, List.map_congr_left hall, List.map_const', List.sum_replicate, h.matched, nsmul_eq_mul]
  ring

/-- So the books match the money returned if and only if every refund was of the whole payment. -/
theorem Matched.net_iff (h : Matched u t account amount s) (hpos : 0 < amount) (hle : s.refundedOf u ≤ amount) :
    s.netEffect t account = amount - s.refundedOf u ↔ ∀ r ∈ s.refundsOf u, r.amount = amount := by
  rw [h.netEffect]
  unfold World.refundedOf at hle ⊢
  constructor
  · intro heq
    -- as many whole amounts as rows were taken back, and at most one fits
    have hlen : ((s.refundsOf u).length : Int) * amount ≤ 1 * amount := by linarith
    have hone : (s.refundsOf u).length ≤ 1 := by
      have := le_of_mul_le_mul_right hlen hpos
      omega
    match hrows : s.refundsOf u with
    | [] => exact nofun
    | [r] =>
      rw [hrows] at heq
      intro r' hr'
      rw [List.mem_singleton.1 hr']
      simp only [List.length_singleton, List.map_singleton, List.sum_singleton] at heq
      push_cast at heq
      linarith
    | _ :: _ :: _ =>
      rw [hrows] at hone
      simp at hone
  · intro hall
    rw [List.map_congr_left hall, List.map_const', List.sum_replicate, nsmul_eq_mul]

/-- Payments keep distinct ids and positive amounts in every run. -/
def Sound (s : World) : Prop := (s.db.payments.map (·.id)).Nodup ∧ ∀ p ∈ s.db.payments, 0 < p.amount

theorem exec_sound {o : Action} {ch : Choice} {r : Except PaymentError o.Result} (hs : Sound s) (he : exec o ch s = some (r, s')) :
    Sound s' := by
  have heff := exec_effect he
  refine ⟨heff.ids hs.1, ?_⟩
  cases heff with
  | none _ hp _ =>
    rw [hp]
    exact hs.2
  | insert sess v row hrow hd =>
    rw [hd]
    intro p hp
    rcases List.mem_append.1 hp with hp | hp
    · exact hs.2 p hp
    · rw [List.mem_singleton.1 hp]
      exact (paymentRow_ok hrow).2.2.2.2.1.1
  | update sess id change hd =>
    rw [hd]
    intro p hp
    rcases mem_updateKey.1 hp with ⟨q, hq, -, rfl⟩ | ⟨hp, -⟩
    · split
      · rw [change_amount]
        exact hs.2 q hq
      · exact hs.2 q hq
    · exact hs.2 p hp

theorem sound_run {cfg : machine.Config} (hrun : machine.Run (.any machine) (.init machine .empty) cfg) : Sound cfg.state :=
  hrun.keeps (I := Sound) (fun _ _ _ _ _ _ hi he => exec_sound hi he) (fun _ _ hi => hi)
    (by simp [Sound, Machine.Config.init, World.empty, Tables.empty])

/-- A payment that is posted and of which nothing was refunded yet. -/
theorem matched_start (hb : InBooks s) (hs : Sound s) {p : PaymentRow} (hp : p ∈ s.db.payments)
    (ht : p.ledgerTransactionId = some t) (hdebit : Ledger.effect s.ledger.entries t account = p.amount)
    (hrefunds : s.refundsOf p.id = []) (hreversals : s.reversalsOf t = []) : Matched p.id t account p.amount s := by
  refine ⟨hb, ?_, hdebit, ?_, by rw [hrefunds, hreversals]; rfl, by rw [hrefunds]; exact nofun⟩
  · intro q hq hid
    obtain ⟨p', hp', rfl⟩ := List.mem_map.1 hq
    rw [List.inj_on_of_nodup_map hs.1 hp' hp hid, ht]
  · by_contra hnone
    -- without the transaction it would have no entries, and no effect
    have hzero : Ledger.effect s.ledger.entries t account = 0 := by
      refine sumWhere_eq_zero (fun e he htrue => absurd ?_ hnone)
      obtain ⟨q, hq, hqid, -⟩ := hb.1.transaction e he
      exact ⟨q, hq, hqid.trans (of_decide_eq_true htrue).1⟩
    have := hs.2 p hp
    omega

end

end Payments

end Archisynapse
