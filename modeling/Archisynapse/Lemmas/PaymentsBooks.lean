import Archisynapse.Lemmas.PaymentsFailed
import Archisynapse.Lemmas.PaymentsRetry
import Archisynapse.Lemmas.PaymentsSteps
import Archisynapse.Payments.Service

/-!
# The records of a refund

A refund leaves three records under its idempotency key: the attempt, the row in `refunds` and the refund at the processor. `Agree`
says that the attempts tell the payment and the amount of the other two; it holds in every run in which a refund that claims a key
that has an attempt asks for the attempt's payment and amount (`repeats`).
-/

namespace Archisynapse

namespace Payments

/-! ## What stays -/

/-- An attempt stays what it is for: its key, its organization, its payment and its amount. -/
structure AttemptRow.SameRefund (a b : AttemptRow) : Prop where
  idempotencyKey : b.idempotencyKey = a.idempotencyKey
  organizationId : b.organizationId = a.organizationId
  paymentId : b.paymentId = a.paymentId
  amount : b.amount = a.amount

theorem AttemptRow.SameRefund.refl (a : AttemptRow) : a.SameRefund a := ⟨rfl, rfl, rfl, rfl⟩

theorem AttemptRow.SameRefund.trans {a b c : AttemptRow} (h : a.SameRefund b) (h' : b.SameRefund c) : a.SameRefund c :=
  ⟨h'.idempotencyKey.trans h.idempotencyKey, h'.organizationId.trans h.organizationId, h'.paymentId.trans h.paymentId,
    h'.amount.trans h.amount⟩

/-- An update leaves what an attempt is for. -/
theorem sameRefund_update (sess : Session) (change : AttemptChange) (a : AttemptRow) :
    a.SameRefund (if sess.sees a.organizationId then a.change change else a) := by
  split
  · cases change <;> exact ⟨rfl, rfl, rfl, rfl⟩
  · exact .refl a

/-- What every call leaves: payments and charges with their keys, and attempts. -/
structure Stays (s s' : World) : Prop where
  payment : ∀ p ∈ s.db.payments, ∃ p' ∈ s'.db.payments, p'.id = p.id ∧ p'.idempotencyKey = p.idempotencyKey
  charge : ∀ c ∈ s.processor.charges, ∃ c' ∈ s'.processor.charges, c'.id = c.id ∧
    c'.request.idempotencyKey = c.request.idempotencyKey
  attempt : ∀ a ∈ s.db.attempts, ∃ a' ∈ s'.db.attempts, a.SameRefund a'

theorem Stays.refl (s : World) : Stays s s :=
  ⟨fun p hp => ⟨p, hp, rfl, rfl⟩, fun c hc => ⟨c, hc, rfl, rfl⟩, fun a ha => ⟨a, ha, .refl a⟩⟩

theorem Stays.trans {s s' s'' : World} (h : Stays s s') (h' : Stays s' s'') : Stays s s'' := by
  refine ⟨fun p hp => ?_, fun c hc => ?_, fun a ha => ?_⟩
  · obtain ⟨p', hp', h₁, h₂⟩ := h.payment p hp
    obtain ⟨p'', hp'', h₃, h₄⟩ := h'.payment p' hp'
    exact ⟨p'', hp'', h₃.trans h₁, h₄.trans h₂⟩
  · obtain ⟨c', hc', h₁, h₂⟩ := h.charge c hc
    obtain ⟨c'', hc'', h₃, h₄⟩ := h'.charge c' hc'
    exact ⟨c'', hc'', h₃.trans h₁, h₄.trans h₂⟩
  · obtain ⟨a', ha', h₁⟩ := h.attempt a ha
    obtain ⟨a'', ha'', h₂⟩ := h'.attempt a' ha'
    exact ⟨a'', ha'', h₁.trans h₂⟩

/-- A charge made for a payment stays one. -/
theorem Stays.chargedFor {s s' : World} (hs : Stays s s') {paymentId : Uuid} {chargeId : String}
    (h : s.chargedFor paymentId chargeId = true) : s'.chargedFor paymentId chargeId = true := by
  obtain ⟨p, hp, hid, c, hc, hcid, hkey⟩ := World.chargedFor_eq_true.1 h
  obtain ⟨p', hp', h₁, h₂⟩ := hs.payment p hp
  obtain ⟨c', hc', h₃, h₄⟩ := hs.charge c hc
  exact World.chargedFor_eq_true.2 ⟨p', hp', h₁.trans hid, c', hc', h₃.trans hcid, by rw [h₄, hkey, h₂]⟩

/-- An attempt says what a key is for: a payment and an amount. -/
def World.BookedFor (s : World) (key : String) (paymentId : Uuid) (amount : Int) : Prop :=
  ∃ a ∈ s.db.attempts, a.idempotencyKey = key ∧ a.paymentId = paymentId ∧ a.amount = amount

theorem World.BookedFor.stays {s s' : World} {key : String} {paymentId : Uuid} {amount : Int} (h : s.BookedFor key paymentId amount)
    (hs : Stays s s') : s'.BookedFor key paymentId amount := by
  obtain ⟨a, ha, h₁, h₂, h₃⟩ := h
  obtain ⟨a', ha', hsame⟩ := hs.attempt a ha
  exact ⟨a', ha', hsame.idempotencyKey.trans h₁, hsame.paymentId.trans h₂, hsame.amount.trans h₃⟩

/-! ## What a call does to the records -/

/-- What a call does to the attempts: nothing, an insert, or an update of one. -/
inductive AttemptsEffect (d d' : Tables) : Action → Prop where
  | none (o : Action) (h : d'.attempts = d.attempts) : AttemptsEffect d d' o
  | insert (sess : Session) (v : AttemptValues) (row : AttemptRow) (hrow : d.attemptRow sess v = .ok (some row))
      (h : d'.attempts = d.attempts ++ [row]) : AttemptsEffect d d' (.sql sess (.insertAttempt v))
  | update (sess : Session) (id : Uuid) (change : AttemptChange) (h : d'.attempts =
      updateKey (·.id) id (fun a => if sess.sees a.organizationId then a.change change else a) d.attempts) :
      AttemptsEffect d d' (.sql sess (.updateAttempt id change))

theorem statement_attempts (d : Tables) (sess : Session) (o : Statement) : AttemptsEffect d (d.perform sess o).2 (.sql sess o) := by
  cases o with
  | updateAttempt id change => exact .update sess id change rfl
  | insertAttempt v =>
    simp only [Tables.perform, Tables.insert]
    split
    · exact .none _ rfl
    · rename_i row hrow
      cases row with
      | none => exact .none _ (List.append_nil _)
      | some row => exact .insert sess v row hrow rfl
  | insertPayment v => exact .none _ (attempts_insert (fun _ => rfl))
  | insertUnposted v => exact .none _ (attempts_insert (fun _ => rfl))
  | insertRefund v => exact .none _ (attempts_insert (fun _ => rfl))
  | selectPayment id =>
    refine .none _ ?_
    rw [Statement.reads.perform (by trivial)]
  | _ => exact .none _ rfl

theorem statement_refunds (d : Tables) (sess : Session) (o : Statement) :
    ∀ r ∈ (d.perform sess o).2.refunds, r ∈ d.refunds ∨ ∃ v, o = .insertRefund v ∧ d.refundRow sess v = .ok (some r) := by
  have hsame {o : Statement} (h : (d.perform sess o).2.refunds = d.refunds) :
      ∀ r ∈ (d.perform sess o).2.refunds, r ∈ d.refunds ∨ ∃ v, o = .insertRefund v ∧ d.refundRow sess v = .ok (some r) :=
    fun r hr => Or.inl (by rw [← h]; exact hr)
  have hinsert {α β : Type} {row : Except DatabaseError α} {write : α → Tables} {answer : α → β}
      (hwrite : ∀ a, (write a).refunds = d.refunds) : (d.insert row write answer).2.refunds = d.refunds := by
    unfold Tables.insert
    split
    · rfl
    · exact hwrite _
  cases o with
  | insertRefund v =>
    intro r hr
    simp only [Tables.perform, Tables.insert] at hr
    split at hr
    · exact Or.inl hr
    · rename_i row hrow
      rcases List.mem_append.1 hr with hr | hr
      · exact Or.inl hr
      · obtain rfl := Option.mem_toList.1 hr
        exact Or.inr ⟨v, rfl, hrow⟩
  | insertPayment v => exact hsame (hinsert (fun _ => rfl))
  | insertUnposted v => exact hsame (hinsert (fun _ => rfl))
  | insertAttempt v => exact hsame (hinsert (fun _ => rfl))
  | selectPayment id => exact hsame (by rw [Statement.reads.perform (by trivial)])
  | _ => exact hsame rfl

section

variable {s t : World} {o : Action} {ch : Choice} {r : Except PaymentError o.Result}

/-- A call that reaches the tables is a statement. -/
theorem exec_tables (h : exec o ch s = some (r, t)) : t.db = s.db ∨ ∃ sess st, o = .sql sess st ∧ t.db = (s.db.perform sess st).2 := by
  cases o with
  | sql sess st =>
    have hdb := exec_sql_db h
    split at hdb
    · exact Or.inl hdb
    · exact Or.inr ⟨sess, st, rfl, hdb⟩
  | charge req => exact Or.inl (exec_db h (fun _ _ => nofun))
  | refund req => exact Or.inl (exec_db h (fun _ _ => nofun))
  | ledger asked req => exact Or.inl (exec_db h (fun _ _ => nofun))
  | settleCharge id status => exact Or.inl (exec_db h (fun _ _ => nofun))
  | settleRefund id status => exact Or.inl (exec_db h (fun _ _ => nofun))

theorem exec_attempts (h : exec o ch s = some (r, t)) : AttemptsEffect s.db t.db o := by
  rcases exec_tables h with hdb | ⟨sess, st, rfl, hdb⟩
  · exact .none _ (by rw [hdb])
  · rw [hdb]
    exact statement_attempts s.db sess st

/-- A refund that was recorded was there, or is one that the call inserted. -/
theorem exec_refunds (h : exec o ch s = some (r, t)) : ∀ row ∈ t.db.refunds, row ∈ s.db.refunds ∨
    ∃ sess v, o = .sql sess (.insertRefund v) ∧ s.db.refundRow sess v = .ok (some row) := by
  intro row hrow
  rcases exec_tables h with hdb | ⟨sess, st, rfl, hdb⟩
  · exact Or.inl (by rw [← hdb]; exact hrow)
  · rw [hdb] at hrow
    rcases statement_refunds s.db sess st row hrow with hmem | ⟨v, rfl, hv⟩
    · exact Or.inl hmem
    · exact Or.inr ⟨sess, v, rfl, hv⟩

/-- A refund at the processor was there, or is one that the call asked for. -/
theorem exec_processor (h : exec o ch s = some (r, t)) : ∀ x ∈ t.processor.refunds,
    (∃ y ∈ s.processor.refunds, y.request = x.request) ∨ o = .refund x.request := by
  have hsame {t : World} (hr : t.processor.refunds = s.processor.refunds) : ∀ x ∈ t.processor.refunds,
      (∃ y ∈ s.processor.refunds, y.request = x.request) ∨ o = .refund x.request :=
    fun x hx => Or.inl ⟨x, by rw [← hr]; exact hx, rfl⟩
  have hperform : ∀ q, s.perform ch o = some (q, t) → ∀ x ∈ t.processor.refunds,
      (∃ y ∈ s.processor.refunds, y.request = x.request) ∨ o = .refund x.request := by
    intro q hq
    cases o with
    | sql sess st =>
      cases hq
      exact hsame rfl
    | charge req =>
      obtain ⟨a, ha, he⟩ := Option.map_eq_some_iff.1 hq
      cases he
      refine hsame ?_
      unfold Processor.charge at ha
      split at ha
      · cases ha
        rfl
      · split at ha
        · cases ha
          rfl
        · split at ha
          · cases ha
          · cases ha
            rfl
    | refund req =>
      simp only [World.perform, Processor.refund] at hq
      split at hq
      · cases hq
        exact hsame rfl
      · split at hq
        · cases hq
          exact hsame rfl
        · cases hq
          intro x hx
          rcases List.mem_append.1 hx with hx | hx
          · exact Or.inl ⟨x, hx, rfl⟩
          · rw [List.mem_singleton.1 hx]
            exact Or.inr rfl
    | ledger asked req =>
      obtain ⟨a, -, he⟩ := Option.map_eq_some_iff.1 hq
      cases he
      exact hsame rfl
    | settleCharge id status =>
      cases hq
      exact hsame rfl
    | settleRefund id status =>
      cases hq
      intro x hx
      rcases mem_updateKey.1 hx with ⟨y, hy, -, rfl⟩ | ⟨hx, -⟩
      · refine Or.inl ⟨y, hy, ?_⟩
        unfold ProcessorRefund.settle
        split <;> rfl
      · exact Or.inl ⟨x, hx, rfl⟩
  rcases exec_cases h with hq | ⟨-, rfl⟩ | ⟨-, q, hq⟩
  · exact hperform _ hq
  · exact hsame rfl
  · exact hperform q hq

/-- A charge that a payment names was named before, or is named by the call. -/
theorem exec_named (h : exec o ch s = some (r, t)) : ∀ p ∈ t.db.payments, ∀ x, p.processorTransactionId = some x →
    (∃ q ∈ s.db.payments, q.id = p.id ∧ q.processorTransactionId = some x) ∨
      ∃ sess, o = .sql sess (.updatePayment p.id (.failed (some x))) ∨ o = .sql sess (.updatePayment p.id (.succeeded (some x))) := by
  intro p hp x hx
  cases exec_effect h with
  | none _ heq _ => exact Or.inl ⟨p, by rw [← heq]; exact hp, rfl, hx⟩
  | insert sess v row hrow heq =>
    rw [heq] at hp
    rcases List.mem_append.1 hp with hp | hp
    · exact Or.inl ⟨p, hp, rfl, hx⟩
    · rw [List.mem_singleton.1 hp, (paymentRow_ok hrow).2.2.2.2.2] at hx
      cases hx
  | update sess id change heq =>
    rw [heq] at hp
    rcases mem_updateKey.1 hp with ⟨q, hq, hid, rfl⟩ | ⟨hp, -⟩
    · split at hx
      · rename_i hsees
        rw [if_pos hsees, change_id, hid]
        cases change with
        | failed y =>
          obtain rfl : y = some x := hx
          exact Or.inr ⟨sess, Or.inl rfl⟩
        | succeeded y =>
          obtain rfl : y = some x := hx
          exact Or.inr ⟨sess, Or.inr rfl⟩
        | posted y => exact Or.inl ⟨q, hq, hid, hx⟩
        | status y => exact Or.inl ⟨q, hq, hid, hx⟩
      · rename_i hsees
        rw [if_neg hsees]
        exact Or.inl ⟨q, hq, rfl, hx⟩
    · exact Or.inl ⟨p, hp, rfl, hx⟩

/-- Attempts stay, and keep distinct keys. -/
theorem AttemptsEffect.stays {d d' : Tables} (h : AttemptsEffect d d' o) :
    (∀ a ∈ d.attempts, ∃ a' ∈ d'.attempts, a.SameRefund a') ∧
      ((d.attempts.map (·.idempotencyKey)).Nodup → (d'.attempts.map (·.idempotencyKey)).Nodup) := by
  cases h with
  | none _ heq =>
    rw [heq]
    exact ⟨fun a ha => ⟨a, ha, .refl a⟩, id⟩
  | insert sess v row hrow heq =>
    rw [heq]
    exact ⟨fun a ha => ⟨a, List.mem_append_left _ ha, .refl a⟩, fun hnd => nodup_map_concat hnd (attemptRow_some hrow).2.2.2.2.1⟩
  | update sess id change heq =>
    rw [heq]
    refine ⟨fun a ha => ?_, fun hnd => ?_⟩
    · by_cases hid : a.id = id
      · exact ⟨_, mem_updateKey.2 (Or.inl ⟨a, ha, hid, rfl⟩), sameRefund_update sess change a⟩
      · exact ⟨a, mem_updateKey.2 (Or.inr ⟨ha, hid⟩), .refl a⟩
    · rw [map_updateKey (fun a : AttemptRow => a.idempotencyKey) (fun a => (sameRefund_update sess change a).idempotencyKey)]
      exact hnd

/-- What holds of attempts holds of them after a call, when it holds of one that the call inserts and is about what they are for. -/
theorem AttemptsEffect.forall {d d' : Tables} (h : AttemptsEffect d d' o) {P : AttemptRow → Prop}
    (hinsert : ∀ sess v row, o = .sql sess (.insertAttempt v) → d.attemptRow sess v = .ok (some row) → P row)
    (hsame : ∀ a b, a.SameRefund b → P a → P b) (hd : ∀ a ∈ d.attempts, P a) : ∀ a ∈ d'.attempts, P a := by
  cases h with
  | none _ heq =>
    rw [heq]
    exact hd
  | insert sess v row hrow heq =>
    rw [heq]
    intro a ha
    rcases List.mem_append.1 ha with ha | ha
    · exact hd a ha
    · rw [List.mem_singleton.1 ha]
      exact hinsert sess v row rfl hrow
  | update sess id change heq =>
    rw [heq]
    intro a ha
    rcases mem_updateKey.1 ha with ⟨b, hb, -, rfl⟩ | ⟨ha, -⟩
    · exact hsame b _ (sameRefund_update sess change b) (hd b hb)
    · exact hd a ha

/-- Charges stay, with their keys. -/
theorem exec_chargesStay (h : exec o ch s = some (r, t)) : ∀ c ∈ s.processor.charges, ∃ c' ∈ t.processor.charges, c'.id = c.id ∧
    c'.request.idempotencyKey = c.request.idempotencyKey := by
  intro c hc
  have hother (ho : o.NotCharge) : ∃ c' ∈ t.processor.charges, c'.id = c.id ∧
      c'.request.idempotencyKey = c.request.idempotencyKey := by
    rcases exec_charges ho h with heq | ⟨id, status, -, heq⟩
    · exact ⟨c, by rw [heq]; exact hc, rfl, rfl⟩
    · rw [heq]
      by_cases hid : c.id = id
      · exact ⟨_, mem_updateKey.2 (Or.inl ⟨c, hc, hid, rfl⟩), c.settle_id status, by rw [c.settle_request]⟩
      · exact ⟨c, mem_updateKey.2 (Or.inr ⟨hc, hid⟩), rfl, rfl⟩
  cases o with
  | charge req =>
    rcases (exec_charge h).2 with heq | ⟨id, status, heq⟩
    · exact ⟨c, by rw [heq]; exact hc, rfl, rfl⟩
    · exact ⟨c, by rw [heq]; exact List.mem_append_left _ hc, rfl, rfl⟩
  | _ => exact hother trivial

/-- What every call leaves. -/
theorem exec_stays (h : exec o ch s = some (r, t)) : Stays s t := by
  refine ⟨fun p hp => ?_, exec_chargesStay h, (exec_attempts h).stays.1⟩
  obtain ⟨p', hp', hid, -, -, -, hkey, -⟩ := (exec_effect h).kept.payment p hp
  exact ⟨p', hp', hid, hkey⟩

end

/-! ## The invariant -/

/-- A request to the processor is for the payment and the amount its key is for. -/
def World.Covers (s : World) (req : ProcessorRefundRequest) : Prop :=
  ∃ paymentId amount, s.BookedFor req.idempotencyKey paymentId amount ∧ req.amountMinor = cents (amount / 10000) ∧
    s.chargedFor paymentId req.processorTransactionId = true

theorem World.Covers.stays {s s' : World} {req : ProcessorRefundRequest} (h : s.Covers req) (hs : Stays s s') : s'.Covers req := by
  obtain ⟨paymentId, amount, hbooked, hminor, hcharged⟩ := h
  exact ⟨paymentId, amount, hbooked.stays hs, hminor, hs.chargedFor hcharged⟩

/-- Refunds agree with the attempt under their key, at the processor and in the tables; and payments name their own charges. -/
structure Agree (s : World) : Prop where
  attemptKeys : (s.db.attempts.map (·.idempotencyKey)).Nodup
  attempt : ∀ a ∈ s.db.attempts, a.idempotencyKey.length ≤ 255 ∧ 0 < a.amount
  charge : ∀ p ∈ s.db.payments, ∀ x, p.processorTransactionId = some x → s.chargedFor p.id x = true
  refund : ∀ row ∈ s.db.refunds, s.BookedFor row.idempotencyKey row.paymentId row.amount
  refunded : ∀ r ∈ s.processor.refunds, s.Covers r.request

theorem agree_empty : Agree .empty := by
  constructor <;> simp [World.empty, Tables.empty]

/-- What a call needs to keep the records in agreement. -/
def Needs (s : World) : Action → Prop
  | .sql _ (.updatePayment id (.failed x)) => ∀ y, x = some y → s.chargedFor id y = true
  | .sql _ (.updatePayment id (.succeeded x)) => ∀ y, x = some y → s.chargedFor id y = true
  | .sql _ (.insertRefund v) => ∀ key amount, column 255 v.idempotencyKey = .ok key → positive v.amount = .ok amount →
      s.BookedFor key v.paymentId amount
  | .refund req => s.Covers req
  | _ => True

/-- Every call keeps the records in agreement, given what it needs. -/
theorem Agree.exec {s t : World} {o : Action} {ch : Choice} {r : Except PaymentError o.Result} (h : Agree s) (hneeds : Needs s o)
    (he : exec o ch s = some (r, t)) : Agree t := by
  have hs := exec_stays he
  refine ⟨(exec_attempts he).stays.2 h.attemptKeys, (exec_attempts he).forall ?_ ?_ h.attempt, fun p hp x hx => hs.chargedFor ?_,
    fun row hrow => ?_, fun x hx => ?_⟩
  · intro sess v row _ hrow
    exact ⟨length_of_column (attemptRow_some hrow).2.2.1, (positive_ok (attemptRow_refund hrow).2).1⟩
  · intro a b hsame ha
    rw [hsame.idempotencyKey, hsame.amount]
    exact ha
  · rcases exec_named he p hp x hx with ⟨q, hq, hid, hqx⟩ | ⟨sess, rfl | rfl⟩
    · rw [← hid]
      exact h.charge q hq x hqx
    · exact hneeds x rfl
    · exact hneeds x rfl
  · rcases exec_refunds he row hrow with hmem | ⟨sess, v, rfl, hv⟩
    · exact (h.refund row hmem).stays hs
    · obtain ⟨hamount, hpayment, -⟩ := refundRow_ok hv
      rw [hpayment]
      exact (hneeds _ _ (refundRow_key hv).1 hamount).stays hs
  · rcases exec_processor he x hx with ⟨y, hy, heq⟩ | rfl
    · rw [← heq]
      exact (h.refunded y hy).stays hs
    · exact World.Covers.stays hneeds hs

/-! ## Runs -/

/-- Runs in which a refund that claims a key that has an attempt asks for the attempt's payment and amount. Amounts have at most
four decimals. -/
def repeats : machine.Cond where
  start _ _ := True
  step _ o s :=
    match o with
    | .sql sess (.insertAttempt v) => (∃ n : Int, v.amount = .ofNumeric n) ∧
        ∀ a ∈ s.db.attempts, column 255 v.idempotencyKey = .ok a.idempotencyKey → sess.sees a.organizationId = true →
          a.paymentId = v.paymentId ∧ v.amount = .ofNumeric a.amount
    | _ => True

/-- Every call leaves what stays. -/
def booksOutline : Machine.Outline machine where
  inv := Agree
  rely _ _ := Stays
  guar _ _ := Stays
  compat _ _ _ _ := True

/-- A call that needs nothing. -/
def Action.Idle (o : Action) : Prop := ∀ s, Needs s o

section

variable {w : Nat} {c : Call} {s : World} {α β : Type}

/-- The calls of a worker under the condition. -/
abbrev BooksDoes (w : Nat) := machine.Does repeats w

/-- The contract of a call. -/
abbrev booksContract (w : Nat) (c : Call) := booksOutline.contract w c

/-- One call, given what it needs. -/
theorem books_step {o : Action} {Q : Except PaymentError o.Result → World → Prop}
    (hneeds : ∀ s₁, Stays s s₁ → Agree s₁ → Needs s₁ o)
    (hQ : ∀ s₁ ch r s₂, Stays s s₁ → Agree s₁ → repeats.step w o s₁ → exec o ch s₁ = some (r, s₂) → Stays s s₂ → Q r s₂) :
    (step o).wp (BooksDoes w) (booksContract w c) Q s := by
  unfold step
  rw [Prog.wp_perform]
  rintro s₁ hrely hinv r s₂ ⟨hstep, ch, he⟩
  have hs : Stays s₁ s₂ := exec_stays he
  exact ⟨hinv.exec (hneeds s₁ hrely hinv) he, hs, hQ s₁ ch r s₂ hrely hinv hstep he (Stays.trans hrely hs)⟩

/-- A program that needs nothing. -/
theorem books_idle {p : Program α} (hp : p.Calls Action.Idle) {Q : Except PaymentError α → World → Prop}
    (hQ : ∀ r s', Stays s s' → Q r s') : p.wp (BooksDoes w) (booksContract w c) Q s := by
  refine Prog.wp_mono (fun r s' => hQ r s') p (Prog.Calls.wp (R := Stays) ?_ ?_ ?_ hp (.refl s))
  · exact fun _ _ _ h h' => h.trans h'
  · exact fun _ _ _ h h' => h.trans h'
  · rintro o s₁ r s₂ hidle hinv ⟨-, ch, he⟩
    exact ⟨hinv.exec (hidle s₁) he, exec_stays he⟩

/-- A program that needs nothing, and then another. -/
theorem books_bind {p : Program α} (hp : p.Calls Action.Idle) {f : α → Program β} {Q : Except PaymentError β → World → Prop}
    (herror : ∀ e s', Q (.error e) s') (hf : ∀ a s', Stays s s' → (f a).wp (BooksDoes w) (booksContract w c) Q s') :
    (p >>= f).wp (BooksDoes w) (booksContract w c) Q s := by
  rw [Prog.wp_bind]
  refine books_idle hp (fun r s' h => ?_)
  cases r with
  | ok a => exact hf a s' h
  | error e => exact herror e s'

theorem idle_step {o : Action} (h : o.Idle) : (step o).Calls Action.Idle := Prog.calls_perform h

theorem idle_openSession (sess : Session) : (openSession sess).Calls Action.Idle :=
  Prog.calls_ite (Prog.calls_throw _) (idle_step (fun _ => trivial))

/-- A program of `createPayment` that neither charges nor says what came of a charge needs nothing. -/
theorem idle_of_create {env : Env} {req : CreatePaymentRequest} {p : Program α} (hp : Harmless p)
    (hc : p.Calls (CreateCall env req)) : p.Calls Action.Idle := by
  refine (hp.and hc).mono (fun o ho s => ?_)
  obtain ⟨hmild, hcall⟩ := ho
  cases hcall with
  | charge n hn => exact hmild.elim
  | failed id => exact hmild.elim
  | succeeded id => exact hmild.elim
  | _ => exact trivial

theorem idle_reverseInLedger (sess : Session) (req : RefundRequest) (payment : PaymentRow) (ledgerTransactionId : Uuid)
    (attempt : AttemptRow) : (reverseInLedger sess req payment ledgerTransactionId attempt).Calls Action.Idle :=
  Prog.calls_tryCatch (idle_step (fun _ => trivial))
    (fun _ => Prog.calls_bind (idle_step (fun _ => trivial)) (fun _ => Prog.calls_throw _))

/-! ### Creating a payment -/

theorem World.hasPayment.stays {s s' : World} {paymentId : Uuid} {key : String} (h : s.hasPayment paymentId key)
    (hs : Stays s s') : s'.hasPayment paymentId key := by
  obtain ⟨p, hp, hid, hkey⟩ := h
  obtain ⟨p', hp', h₁, h₂⟩ := hs.payment p hp
  exact ⟨p', hp', h₁.trans hid, by rw [h₂]; exact hkey⟩

/-- The insert of a payment: when it wrote the row, the row is there. -/
theorem insertPayment_books {env : Env} {sess : Session} {req : CreatePaymentRequest}
    {Q : Except PaymentError (Option PaymentRow) → World → Prop}
    (hQ : ∀ r s', (r = .ok none → s'.hasPayment env.uuid req.idempotencyKey) → Q r s') :
    (insertPayment env sess req).wp (BooksDoes w) (booksContract w c) Q s := by
  unfold insertPayment
  refine (Prog.wp_tryCatch _ _ _).2 ((Prog.wp_bind _ _ _).2 (books_step (fun _ _ _ => trivial) ?_))
  intro s₁ ch r s₂ _ _ _ he _
  cases r with
  | ok u =>
    obtain rfl : u = () := rfl
    exact hQ _ s₂ (fun _ => hasPayment_of_insert he)
  | error e =>
    dsimp only
    split
    · refine books_bind (idle_step (fun _ => by trivial)) (fun e s' => hQ _ s' nofun) (fun row s' _ => ?_)
      cases row with
      | some row => exact hQ _ s' nofun
      | none => exact hQ _ s' nofun
    · exact hQ _ s₂ nofun

/-- `callProcessor` for a payment that is there: it names a charge made for the payment, or none. -/
theorem callProcessor_books {env : Env} {req : CreatePaymentRequest} (hs : s.hasPayment env.uuid req.idempotencyKey)
    {Q : Except PaymentError (Option String × Bool) → World → Prop}
    (hQ : ∀ id success s', (∀ x, id = some x → s'.chargedFor env.uuid x = true) → Q (.ok (id, success)) s') :
    (callProcessor env req).wp (BooksDoes w) (booksContract w c) Q s := by
  rcases callProcessor_cases env req with ⟨heq, -⟩ | ⟨d, heq, -, hkey, hlen⟩
  · rw [heq]
    exact hQ none false s nofun
  rw [heq]
  rintro s₁ hrely hinv r s₂ ⟨-, ch, he⟩
  have hstays : Stays s₁ s₂ := exec_stays he
  refine ⟨hinv.exec (by trivial) he, hstays, ?_⟩
  cases r with
  | error e => exact hQ none false s₂ nofun
  | ok a =>
    refine hQ _ _ s₂ (fun x hx => ?_)
    obtain rfl := Option.some.inj (eq_some_of_truthy hx)
    obtain ⟨p, hp, hid, hcolumn⟩ := hs.stays (Stays.trans hrely hstays)
    obtain ⟨x, hx, hxid, hxkey⟩ := charge_of_exec he
    have hpkey := column_ok_eq hcolumn ((length_le_utf16Length _).trans hlen)
    exact World.chargedFor_eq_true.2 ⟨p, hp, hid, x, hx, hxid, hxkey.trans (hkey.trans hpkey.symm)⟩

/-- `createPayment` keeps its contract. -/
theorem createPayment_books (env : Env) (req : CreatePaymentRequest) :
    (createPayment env req).wp (BooksDoes w) (booksContract w c) (fun _ _ => True) s := by
  have hcall : (getPayment env req.organizationId (.stored env.uuid)).Calls (CreateCall env req) := createCall_getPayment
  have hget := idle_of_create (harmless_getPayment env req.organizationId (.stored env.uuid)) hcall
  unfold createPayment
  refine books_bind (idle_openSession _) (fun _ _ => trivial) (fun _ s₁ _ => ?_)
  refine books_bind (idle_step (fun _ => by trivial)) (fun _ _ => trivial) (fun row s₂ _ => ?_)
  cases row with
  | some row => exact trivial
  | none =>
    refine (Prog.wp_bind _ _ _).2 (insertPayment_books (fun r s₃ hrow => ?_))
    cases r with
    | error e => exact trivial
    | ok row =>
      cases row with
      | some row => exact trivial
      | none =>
        refine (Prog.wp_bind _ _ _).2 (callProcessor_books (hrow rfl) (fun id success s₄ hid => ?_))
        have hneeds : ∀ s₅, Stays s₄ s₅ → ∀ x, id = some x → s₅.chargedFor env.uuid x = true :=
          fun s₅ h x hx => h.chargedFor (hid x hx)
        dsimp only
        split
        · refine (Prog.wp_bind _ _ _).2 (books_step (fun s₅ h _ => hneeds s₅ h) (fun _ _ r _ _ _ _ _ _ => ?_))
          cases r with
          | error e => exact trivial
          | ok _ => exact books_idle hget (fun _ _ _ => trivial)
        · refine (Prog.wp_bind _ _ _).2 (books_step (fun s₅ h _ => hneeds s₅ h) (fun _ _ r _ _ _ _ _ _ => ?_))
          cases r with
          | error e => exact trivial
          | ok _ =>
            refine books_bind (idle_of_create (harmless_postPayment _ _ _) createCall_postPayment) (fun _ _ => trivial) (fun _ _ _ => ?_)
            exact books_idle hget (fun _ _ _ => trivial)

/-! ### Refunding -/

/-- A key is claimed for what it is for: a payment and an amount. -/
def World.Claimed (s : World) (v : AttemptValues) : Prop :=
  ∃ key amount, column 255 v.idempotencyKey = .ok key ∧ v.amount = .ofNumeric amount ∧ s.BookedFor key v.paymentId amount

theorem World.Claimed.stays {s s' : World} {v : AttemptValues} (h : s.Claimed v) (hs : Stays s s') : s'.Claimed v := by
  obtain ⟨key, amount, hkey, hamount, hbooked⟩ := h
  exact ⟨key, amount, hkey, hamount, hbooked.stays hs⟩

/-- An attempt has the key of an insert; when the session sees it, it has the payment and the amount of the insert as well. -/
def World.Taken (s : World) (sess : Session) (v : AttemptValues) : Prop :=
  ∃ a ∈ s.db.attempts, column 255 v.idempotencyKey = .ok a.idempotencyKey ∧
    (sess.sees a.organizationId = true → a.paymentId = v.paymentId ∧ v.amount = .ofNumeric a.amount)

theorem World.Taken.stays {s s' : World} {sess : Session} {v : AttemptValues} (h : s.Taken sess v) (hs : Stays s s') :
    s'.Taken sess v := by
  obtain ⟨a, ha, hkey, hsees⟩ := h
  obtain ⟨a', ha', hsame⟩ := hs.attempt a ha
  refine ⟨a', ha', by rw [hsame.idempotencyKey]; exact hkey, fun h => ?_⟩
  rw [hsame.organizationId] at h
  rw [hsame.paymentId, hsame.amount]
  exact hsees h

/-- An insert of an attempt that was answered. -/
theorem insertAttempt_ok {s t : World} {sess : Session} {v : AttemptValues} {ch : Choice} {row : Option AttemptRow}
    (h : exec (.sql sess (.insertAttempt v)) ch s = some (.ok row, t)) :
    s.db.attemptRow sess v = .ok row ∧ t.db.attempts = s.db.attempts ++ row.toList := by
  obtain ⟨hdb, hanswer⟩ := (exec_sql h).2.2.2 row rfl
  simp only [Tables.perform, Tables.insert] at hdb hanswer
  split at hdb
  · rename_i e he
    rw [he] at hanswer
    cases hanswer
  · rename_i x hx
    rw [hx] at hanswer
    obtain rfl := Except.ok.inj hanswer
    exact ⟨hx, by rw [hdb]⟩

/-- An attempt that was inserted claims its key. -/
theorem claimed_of_insert {s t : World} {sess : Session} {v : AttemptValues} {ch : Choice} {row : AttemptRow} {n : Int}
    (hn : v.amount = .ofNumeric n) (h : exec (.sql sess (.insertAttempt v)) ch s = some (.ok (some row), t)) : t.Claimed v := by
  obtain ⟨hrow, ht⟩ := insertAttempt_ok h
  obtain ⟨hpayment, hamount⟩ := attemptRow_refund hrow
  have hstored := numeric_of_positive hamount
  rw [hn] at hstored
  obtain ⟨rfl, -⟩ := numeric_ofNumeric hstored
  exact ⟨row.idempotencyKey, row.amount, (attemptRow_some hrow).2.2.1, hn, row,
    by rw [ht]; exact List.mem_append_right _ (List.mem_singleton_self row), rfl, hpayment, rfl⟩

/-- An attempt that is found under a key that is taken claims it. -/
theorem claimed_of_select {s t : World} {sess : Session} {v : AttemptValues} {ch : Choice} {a : AttemptRow} (hinv : Agree s)
    (htaken : s.Taken sess v) (h : exec (.sql sess (.selectAttempt v.idempotencyKey)) ch s = some (.ok (some a), t)) :
    t.Claimed v := by
  obtain ⟨rfl, hanswer⟩ := exec_reads h trivial
  have hfind := Except.ok.inj (hanswer _ rfl)
  have hfound := List.find?_some hfind
  rw [Bool.and_eq_true, decide_eq_true_eq] at hfound
  have hmem := List.mem_of_find?_eq_some hfind
  obtain ⟨b, hb, hkey, hsees⟩ := htaken
  have hshort : v.idempotencyKey.length ≤ 255 := by
    rw [← hfound.1] at hkey ⊢
    exact (hinv.attempt a hmem).1
  have hstored := column_ok_eq hkey hshort
  obtain rfl := List.inj_on_of_nodup_map hinv.attemptKeys hmem hb (hfound.1.trans hstored.symm)
  obtain ⟨hpayment, hamount⟩ := hsees hfound.2
  exact ⟨a.idempotencyKey, a.amount, hkey, hamount, a, hmem, rfl, hpayment, rfl⟩

/-- The claim of a key: it is claimed for the attempt's payment and amount. -/
theorem claimAttempt_books {sess : Session} {v : AttemptValues} {Q : Except PaymentError Claim → World → Prop}
    (hQ : ∀ r s', Stays s s' → (∀ a, r = .ok (.attempt a) → s'.Claimed v) → Q r s') :
    (claimAttempt sess v).wp (BooksDoes w) (booksContract w c) Q s := by
  unfold claimAttempt
  refine (Prog.wp_bind _ _ _).2 (books_step (fun _ _ _ => trivial) (fun s₁ ch r s₂ _ _ hcond he h₂ => ?_))
  obtain ⟨⟨n, hn⟩, hsame⟩ := hcond
  cases r with
  | error e => exact hQ _ s₂ h₂ nofun
  | ok row =>
    cases row with
    | some row => exact hQ _ s₂ h₂ (fun _ _ => claimed_of_insert hn he)
    | none =>
      have htaken : s₁.Taken sess v := by
        obtain ⟨b, hb, hkey⟩ := attemptRow_none (insertAttempt_ok he).1
        exact ⟨b, hb, hkey, hsame b hb hkey⟩
      have htaken₂ := htaken.stays (exec_stays he)
      dsimp only
      refine (Prog.wp_bind _ _ _).2 (books_step (fun _ _ _ => trivial) (fun s₃ ch' r s₄ h₃ hinv _ he' h₄ => ?_))
      have hend (s' : World) (hs : Stays s₄ s') : Stays s s' := (h₂.trans h₄).trans hs
      cases r with
      | error e => exact hQ _ s₄ (hend s₄ (.refl s₄)) nofun
      | ok row =>
        cases row with
        | none => exact hQ _ s₄ (hend s₄ (.refl s₄)) nofun
        | some a =>
          have hclaimed : s₄.Claimed v := claimed_of_select hinv (htaken₂.stays h₃) he'
          dsimp only
          split
          · exact hQ _ s₄ (hend s₄ (.refl s₄)) nofun
          · refine (Prog.wp_bind _ _ _).2 (books_idle (idle_step (fun _ => by trivial)) (fun r s₅ h₅ => ?_))
            cases r with
            | error e => exact hQ _ s₅ (hend s₅ h₅) nofun
            | ok row =>
              cases row with
              | some row => exact hQ _ s₅ (hend s₅ h₅) nofun
              | none => exact hQ _ s₅ (hend s₅ h₅) (fun _ _ => hclaimed.stays h₅)
          · refine (Prog.wp_bind _ _ _).2 (books_idle (idle_step (fun _ => by trivial)) (fun r s₅ h₅ => ?_))
            cases r with
            | error e => exact hQ _ s₅ (hend s₅ h₅) nofun
            | ok _ => exact hQ _ s₅ (hend s₅ h₅) (fun _ _ => hclaimed.stays h₅)
          · exact hQ _ s₄ (hend s₄ (.refl s₄)) (fun _ _ => hclaimed)

/-- `decimalStringToMinorUnits` returns the cents of an amount. -/
theorem cents_of_minorUnits {amount : ℚ} {currency : String} {n : Nat} (h : decimalStringToMinorUnits amount currency = pure n) :
    n = cents amount := by
  unfold decimalStringToMinorUnits at h
  split at h
  · cases h
  split at h
  · cases h
  dsimp only at h
  unfold validateMinorAmount at h
  split at h
  · cases h
  · rename_i hsafe
    rw [Bool.or_eq_true, not_or, Bool.not_eq_true', Bool.not_eq_false] at hsafe
    cases h
    exact minorUnits_exact (of_decide_eq_true hsafe.1)

/-- The processor's part of a refund whose key is claimed for its payment and amount. -/
theorem refundAtProcessor_books {env : Env} {sess : Session} {req : RefundRequest} {payment : PaymentRow} {chargeId : String}
    {refundAmount : ℚ} {attempt : AttemptRow} {v : AttemptValues} (hkey : v.idempotencyKey = req.idempotencyKey)
    (hpayment : v.paymentId = payment.id) (hamount : v.amount = .fin refundAmount) (hclaimed : s.Claimed v)
    (hcharged : s.chargedFor payment.id chargeId = true) {Q : Except PaymentError (Option String) → World → Prop}
    (hQ : ∀ r s', Stays s s' → Q r s') :
    (refundAtProcessor env sess req payment chargeId refundAmount attempt).wp (BooksDoes w) (booksContract w c) Q s := by
  have hnow : ∀ r, Q r s := fun r => hQ r s (.refl s)
  unfold refundAtProcessor
  split
  · exact hnow _
  rcases decimalStringToMinorUnits_eq refundAmount payment.currency with ⟨e, he⟩ | ⟨n, hn⟩
  · rw [he]
    exact hnow _
  rw [hn, Prog.pure_bind_eq]
  rcases refund_eq env ⟨chargeId, n, req.reason, req.idempotencyKey⟩ with ⟨e, he⟩ | ⟨hlen, he⟩
  · rw [he]
    exact hnow _
  rw [he]
  refine (Prog.wp_bind _ _ _).2 (books_step (fun s₁ h₁ _ => ?_) (fun _ _ r s₂ _ _ _ _ h₂ => ?_))
  · obtain ⟨key, amount, hcolumn, hnumeric, hbooked⟩ := hclaimed.stays h₁
    rw [hkey] at hcolumn
    rw [hpayment] at hbooked
    obtain rfl := column_ok_eq hcolumn ((length_le_utf16Length _).trans hlen)
    refine ⟨payment.id, amount, hbooked, ?_, h₁.chargedFor hcharged⟩
    rw [hamount] at hnumeric
    rw [cents_of_minorUnits hn, Decimal.fin.inj hnumeric]
  · cases r with
    | error e => exact hQ _ s₂ h₂
    | ok a =>
      dsimp only
      split
      · refine (Prog.wp_bind _ _ _).2 (books_idle (idle_step (fun _ => by trivial)) (fun r s₃ h₃ => ?_))
        cases r <;> exact hQ _ s₃ (h₂.trans h₃)
      · refine (Prog.wp_bind _ _ _).2 (books_idle (idle_step (fun _ => by trivial)) (fun r s₃ h₃ => ?_))
        cases r <;> exact hQ _ s₃ (h₂.trans h₃)

/-- The records of a refund whose key is claimed for its payment and amount. -/
theorem recordRefund_books {env : Env} {sess : Session} {req : RefundRequest} {payment : PaymentRow} {refundAmount : ℚ}
    {alreadyRefunded : Decimal} {attempt : AttemptRow} {processorRefundId : Option String} {reversal : Transaction} {v : AttemptValues}
    (hkey : v.idempotencyKey = req.idempotencyKey) (hpayment : v.paymentId = payment.id) (hamount : v.amount = .fin refundAmount)
    (hclaimed : s.Claimed v) :
    (recordRefund env sess req payment refundAmount alreadyRefunded attempt processorRefundId reversal).wp (BooksDoes w)
      (booksContract w c) (fun _ _ => True) s := by
  unfold recordRefund
  refine (Prog.wp_bind _ _ _).2 (books_step (fun s₁ h₁ _ => ?_) (fun _ _ r s₂ _ _ _ _ _ => ?_))
  · intro key amount hcolumn hpositive
    obtain ⟨key', amount', hcolumn', hnumeric, hbooked⟩ := hclaimed.stays h₁
    rw [hkey] at hcolumn'
    obtain rfl := Except.ok.inj (hcolumn'.symm.trans hcolumn)
    have hstored := numeric_of_positive hpositive
    rw [← hamount, hnumeric] at hstored
    obtain ⟨rfl, -⟩ := numeric_ofNumeric hstored
    rw [hpayment] at hbooked
    exact hbooked
  · cases r with
    | error e => exact trivial
    | ok _ =>
      refine books_bind (idle_step (fun _ => by trivial)) (fun _ _ => trivial) (fun _ _ _ => ?_)
      refine books_bind (idle_step (fun _ => by trivial)) (fun _ _ => trivial) (fun _ _ _ => ?_)
      refine books_bind (idle_step (fun _ => by trivial)) (fun _ _ => trivial) (fun row _ _ => ?_)
      cases row with
      | none => exact trivial
      | some row => exact trivial

/-- `refundPayment` on a payment in order keeps its contract. -/
theorem refundPosted_books {env : Env} {sess : Session} {req : RefundRequest} {payment : PaymentRow} {chargeId : String}
    {ledgerTransactionId : Uuid} (hcharged : s.chargedFor payment.id chargeId = true) :
    (refundPosted env sess req payment chargeId ledgerTransactionId).wp (BooksDoes w) (booksContract w c) (fun _ _ => True) s := by
  unfold refundPosted
  refine books_bind (idle_step (fun _ => by trivial)) (fun _ _ => trivial) (fun total s₁ h₁ => ?_)
  dsimp only
  split
  · exact trivial
  refine (Prog.wp_bind _ _ _).2 (claimAttempt_books (fun r s₂ h₂ hclaim => ?_))
  cases r with
  | error e => exact trivial
  | ok claim =>
    cases claim with
    | done row => exact trivial
    | attempt a =>
      have hclaimed := hclaim a rfl
      refine (Prog.wp_bind _ _ _).2 (refundAtProcessor_books rfl rfl rfl hclaimed ((h₁.trans h₂).chargedFor hcharged) ?_)
      intro r s₃ h₃
      cases r with
      | error e => exact trivial
      | ok id =>
        refine books_bind (idle_reverseInLedger _ _ _ _ _) (fun _ _ => trivial) (fun reversal s₄ h₄ => ?_)
        exact recordRefund_books rfl rfl rfl (hclaimed.stays (h₃.trans h₄))

/-- `refundPayment` keeps its contract. -/
theorem refundPayment_books (env : Env) (req : RefundRequest) :
    (refundPayment env req).wp (BooksDoes w) (booksContract w c) (fun _ _ => True) s := by
  unfold refundPayment
  split
  · exact trivial
  refine books_bind (idle_openSession _) (fun _ _ => trivial) (fun _ s₁ _ => ?_)
  refine books_bind (idle_step (fun _ => by trivial)) (fun _ _ => trivial) (fun row s₂ _ => ?_)
  cases row with
  | some row => exact trivial
  | none =>
    refine (Prog.wp_bind _ _ _).2 (books_step (fun _ _ _ => trivial) (fun s₃ ch r s₄ _ hinv _ he _ => ?_))
    cases r with
    | error e => exact trivial
    | ok row =>
      cases row with
      | none => exact trivial
      | some payment =>
        dsimp only
        split
        · exact trivial
        split
        · exact trivial
        · exact trivial
        · rename_i chargeId ledgerTransactionId hcharge hledger
          obtain ⟨-, hmem, rfl⟩ := payment_of_select he
          exact refundPosted_books (hinv.charge payment hmem chargeId (eq_some_of_truthy hcharge))

/-- Every call keeps its contract. -/
theorem booksOutline_sound : booksOutline.Sound repeats where
  refl _ _ s := .refl s
  trans _ _ _ _ _ h h' := h.trans h'
  symm _ _ _ _ _ := trivial
  guar _ _ _ _ _ _ _ _ _ h := h
  start cfg c _ _ := by
    refine ⟨fun _ _ => trivial, ?_⟩
    cases c with
    | createPayment env req =>
      refine (Prog.wp_bind _ _ _).2 (Prog.wp_mono (fun r s' _ => ?_) _ (createPayment_books env req))
      cases r <;> exact trivial
    | refundPayment env req =>
      refine (Prog.wp_bind _ _ _).2 (Prog.wp_mono (fun r s' _ => ?_) _ (refundPayment_books env req))
      cases r <;> exact trivial
    | settleCharge id status => exact books_bind (idle_step (fun _ => by trivial)) (fun _ _ => trivial) (fun _ _ _ => trivial)
    | settleRefund id status => exact books_bind (idle_step (fun _ => by trivial)) (fun _ _ => trivial) (fun _ _ _ => trivial)
  crash _ s hinv := ⟨hinv, fun _ _ _ => .refl s⟩

/-- In a run under the condition the records agree. -/
theorem agree_run {cfg : machine.Config} (hrun : machine.Run repeats (.init machine .empty) cfg) : Agree cfg.state :=
  Machine.Outline.run_inv booksOutline_sound agree_empty hrun

end

end Payments

end Archisynapse
