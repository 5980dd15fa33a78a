import Archisynapse.Base.Exec
import Archisynapse.Lemmas.PaymentsRefunds

/-!
# What each call of the transaction service keeps

`exec_calm`: every call but a refund keeps `InOrder` and moves no refund, given what it needs (`Ready`): a charge is made under
the key of a payment, and a payment is given the id of a charge made for it.
-/

namespace Archisynapse

namespace Payments

/-- A column keeps a text that is short enough. -/
theorem column_ok_eq {n : Nat} {text stored : String} (h : column n text = .ok stored) (hlen : text.length ≤ n) :
    stored = text := by
  unfold column varchar at h
  rw [if_pos hlen] at h
  exact (Except.ok.inj h).symm

/-! ## Rows -/

/-- An amount that passed CHECK (amount > 0) is positive and fits its column. -/
theorem positive_ok {value : Decimal} {n : Int} (h : positive value = .ok n) : 0 < n ∧ n < 10 ^ 19 := by
  obtain ⟨m, hm, h₁⟩ := ok_of_except_bind h
  by_cases hneg : m ≤ 0
  · rw [if_pos hneg] at h₁
    cases h₁
  · rw [if_neg hneg] at h₁
    cases h₁
    unfold numeric at hm
    split at hm
    · rename_i k hk
      cases hm
      obtain ⟨q, rfl, -⟩ := Decimal.toNumeric_num hk
      simp only [Decimal.toNumeric] at hk
      split at hk
      · rename_i hlt
        cases hk
        omega
      · cases hk
    · cases hm
    · cases hm

/-- The row a payment insert makes. -/
theorem paymentRow_ok {d : Tables} {sess : Session} {v : PaymentValues} {row : PaymentRow} (h : d.paymentRow sess v = .ok row) :
    row.id = v.id ∧ column 255 v.idempotencyKey = .ok row.idempotencyKey ∧ (∀ p ∈ d.payments, p.id ≠ row.id) ∧
      (∀ p ∈ d.payments, p.idempotencyKey ≠ row.idempotencyKey) ∧ (0 < row.amount ∧ row.amount < 10 ^ 19) ∧
      row.processorTransactionId = none := by
  obtain ⟨amount, hamount, h₁⟩ := ok_of_except_bind h
  obtain ⟨fee, -, h₂⟩ := ok_of_except_bind h₁
  obtain ⟨currency, -, h₃⟩ := ok_of_except_bind h₂
  obtain ⟨key, hkey, h₄⟩ := ok_of_except_bind h₃
  split at h₄
  · cases h₄
  · rename_i hnone
    cases h₄
    rw [Bool.not_eq_true, List.any_eq_false] at hnone
    refine ⟨rfl, hkey, fun p hp he => hnone p hp ?_, fun p hp he => hnone p hp ?_, positive_ok hamount, rfl⟩
    · exact decide_eq_true (Or.inl he)
    · exact decide_eq_true (Or.inr he)

/-- A new payment is pending. -/
theorem paymentRow_status {d : Tables} {sess : Session} {v : PaymentValues} {row : PaymentRow}
    (h : d.paymentRow sess v = .ok row) : row.status = .pending := by
  obtain ⟨amount, -, h₁⟩ := ok_of_except_bind h
  obtain ⟨fee, -, h₂⟩ := ok_of_except_bind h₁
  obtain ⟨currency, -, h₃⟩ := ok_of_except_bind h₂
  obtain ⟨key, -, h₄⟩ := ok_of_except_bind h₃
  split at h₄
  · cases h₄
  · cases h₄
    rfl

/-- The columns a payment insert writes. -/
theorem paymentRow_columns {d : Tables} {sess : Session} {v : PaymentValues} {row : PaymentRow}
    (h : d.paymentRow sess v = .ok row) :
    row.organizationId = sess.organizationId ∧ positive v.amount = .ok row.amount ∧ numeric v.feeAmount = .ok row.feeAmount := by
  obtain ⟨amount, hamount, h₁⟩ := ok_of_except_bind h
  obtain ⟨fee, hfee, h₂⟩ := ok_of_except_bind h₁
  obtain ⟨currency, -, h₃⟩ := ok_of_except_bind h₂
  obtain ⟨key, -, h₄⟩ := ok_of_except_bind h₃
  split at h₄
  · cases h₄
  · cases h₄
    exact ⟨rfl, hamount, hfee⟩

/-- The row a refund insert makes. -/
theorem refundRow_ok {d : Tables} {sess : Session} {v : RefundValues} {row : RefundRow}
    (h : d.refundRow sess v = .ok (some row)) :
    positive v.amount = .ok row.amount ∧ row.paymentId = v.paymentId ∧ row.status = .succeeded ∧
      row.ledgerTransactionId = some v.ledgerTransactionId := by
  obtain ⟨amount, hamount, h₁⟩ := ok_of_except_bind h
  obtain ⟨key, -, h₂⟩ := ok_of_except_bind h₁
  obtain ⟨refundId, -, h₃⟩ := ok_of_except_bind h₂
  obtain ⟨_, -, h₄⟩ := ok_of_except_bind h₃
  split at h₄
  · cases h₄
  · split at h₄
    · cases h₄
    · cases h₄
      exact ⟨hamount, rfl, rfl, rfl⟩

/-! ## Calls -/

/-- What a call needs to move no refund. -/
def Ready (s : World) : Action → Prop
  | .refund _ => False
  | .charge req => ∃ p ∈ s.db.payments, p.idempotencyKey = req.idempotencyKey
  | .sql _ (.updatePayment id (.failed x)) => ∀ y, x = some y → s.chargedFor id y = true
  | .sql _ (.updatePayment id (.succeeded x)) => ∀ y, x = some y → s.chargedFor id y = true
  | _ => True

section

variable {s s' : World}

/-- The charge of a payment with an id. -/
theorem InOrder.charge_of_chargedFor (hi : InOrder s) {id : Uuid} {x : String} (h : s.chargedFor id x = true) {p : PaymentRow}
    (hp : p ∈ s.db.payments) (hid : p.id = id) :
    ∃ c ∈ s.processor.charges, c.id = x ∧ c.request.idempotencyKey = p.idempotencyKey := by
  obtain ⟨q, hq, hqid, hc⟩ := World.chargedFor_eq_true.1 h
  rw [List.inj_on_of_nodup_map hi.paymentIds hp hq (hid.trans hqid.symm)]
  exact hc

theorem change_id (p : PaymentRow) (c : PaymentChange) : (p.change c).id = p.id := by
  cases c <;> rfl

theorem change_amount (p : PaymentRow) (c : PaymentChange) : (p.change c).amount = p.amount := by
  cases c <;> rfl

theorem change_idempotencyKey (p : PaymentRow) (c : PaymentChange) : (p.change c).idempotencyKey = p.idempotencyKey := by
  cases c <;> rfl

/-- An update of a payment that names only a charge made for it. -/
theorem InOrder.updatePayment (hi : InOrder s) {sess : Session} {id : Uuid} {change : PaymentChange}
    (hready : Ready s (.sql sess (.updatePayment id change))) {db : Tables} {r : Except DatabaseError Unit}
    (h : s.db.perform sess (.updatePayment id change) = (r, db)) : InOrder { s with db } ∧ Calm s { s with db } := by
  obtain ⟨-, rfl⟩ := Prod.mk.inj h
  have hif {β : Type} (g : PaymentRow → β) (hg : ∀ p, g (p.change change) = g p) (p : PaymentRow) :
      g (if sess.sees p.organizationId then p.change change else p) = g p := by
    split
    · exact hg p
    · rfl
  refine hi.setPayment (hif _ (change_id · change)) (hif _ (change_amount · change)) (hif _ (change_idempotencyKey · change)) ?_
    rfl rfl rfl
  intro p hp hid x hx
  split at hx
  · cases change with
    | failed y => exact hi.charge_of_chargedFor (hready x hx) hp hid
    | succeeded y => exact hi.charge_of_chargedFor (hready x hx) hp hid
    | posted t => exact hi.charge p hp x hx
    | status st => exact hi.charge p hp x hx
  · exact hi.charge p hp x hx

/-- An insert of a refund row. -/
theorem InOrder.insertRefund (hi : InOrder s) {sess : Session} {v : RefundValues} {db : Tables} {r : Except DatabaseError Unit}
    (h : s.db.perform sess (.insertRefund v) = (r, db)) : InOrder { s with db } ∧ Calm s { s with db } := by
  simp only [Tables.perform, Tables.insert] at h
  cases hrow : s.db.refundRow sess v with
  | error e =>
    rw [hrow] at h
    obtain ⟨-, rfl⟩ := Prod.mk.inj h
    exact ⟨hi, .refl s⟩
  | ok row =>
    rw [hrow] at h
    obtain ⟨-, rfl⟩ := Prod.mk.inj h
    refine hi.addRefunds row.toList ?_ rfl rfl rfl
    intro q hq
    obtain rfl := Option.mem_toList.1 hq
    exact (positive_ok (refundRow_ok hrow).1).1.le

/-- An insert of a payment row. -/
theorem InOrder.insertPayment (hi : InOrder s) {sess : Session} {v : PaymentValues} {db : Tables}
    {r : Except DatabaseError Unit} (h : s.db.perform sess (.insertPayment v) = (r, db)) :
    InOrder { s with db } ∧ Calm s { s with db } := by
  simp only [Tables.perform, Tables.insert] at h
  cases hrow : s.db.paymentRow sess v with
  | error e =>
    rw [hrow] at h
    obtain ⟨-, rfl⟩ := Prod.mk.inj h
    exact ⟨hi, .refl s⟩
  | ok row =>
    rw [hrow] at h
    obtain ⟨-, rfl⟩ := Prod.mk.inj h
    obtain ⟨-, -, hid, hkey, hamount, hnone⟩ := paymentRow_ok hrow
    exact hi.addPayment hid hkey hamount hnone rfl rfl rfl

/-- Inserts of other rows. -/
theorem insert_frame {α β : Type} {d db : Tables} {row : Except DatabaseError α} {write : α → Tables} {answer : α → β}
    {r : Except DatabaseError β} (h : d.insert row write answer = (r, db)) (hp : ∀ a, (write a).payments = d.payments)
    (hr : ∀ a, (write a).refunds = d.refunds) : db.payments = d.payments ∧ db.refunds = d.refunds := by
  cases row with
  | error e =>
    obtain ⟨-, rfl⟩ := Prod.mk.inj h
    exact ⟨rfl, rfl⟩
  | ok a =>
    obtain ⟨-, rfl⟩ := Prod.mk.inj h
    exact ⟨hp a, hr a⟩

/-- Every statement keeps the order, given what it needs. -/
theorem InOrder.statement (hi : InOrder s) {sess : Session} {o : Statement} (hready : Ready s (.sql sess o))
    {r : Except DatabaseError o.Result} {db : Tables} (h : s.db.perform sess o = (r, db)) :
    InOrder { s with db } ∧ Calm s { s with db } := by
  have hframe (hp : db.payments = s.db.payments) (hr : db.refunds = s.db.refunds) :
      InOrder { s with db } ∧ Calm s { s with db } := by
    refine hi.frame hp rfl (fun sess u => ?_)
    unfold Tables.refundedTotal
    rw [hr]
  cases o with
  | insertPayment v => exact hi.insertPayment h
  | updatePayment id change => exact hi.updatePayment hready h
  | insertRefund v => exact hi.insertRefund h
  | insertUnposted v =>
    obtain ⟨hp, hr⟩ := insert_frame h (fun _ => rfl) (fun _ => rfl)
    exact hframe hp hr
  | insertAttempt v =>
    obtain ⟨hp, hr⟩ := insert_frame h (fun _ => rfl) (fun _ => rfl)
    exact hframe hp hr
  | selectPayment id =>
    simp only [Tables.perform] at h
    split at h
    · obtain ⟨-, rfl⟩ := Prod.mk.inj h
      exact ⟨hi, .refl s⟩
    · obtain ⟨-, rfl⟩ := Prod.mk.inj h
      exact ⟨hi, .refl s⟩
  | _ =>
    obtain ⟨-, rfl⟩ := Prod.mk.inj h
    exact hframe rfl rfl

/-- The processor charges. -/
theorem InOrder.charges (hi : InOrder s) {req : ChargeRequest} (hkey : ∃ p ∈ s.db.payments, p.idempotencyKey = req.idempotencyKey)
    {answer : ProcessorAnswer} {r : Except String (String × ChargeStatus)} {processor : Processor}
    (h : s.processor.charge answer req = some (r, processor)) :
    InOrder { s with processor } ∧ Calm s { s with processor } := by
  unfold Processor.charge at h
  split at h
  · cases h
    exact ⟨hi, .refl s⟩
  · split at h
    · cases h
      exact ⟨hi, .refl s⟩
    · split at h
      · cases h
      · rename_i hfresh
        cases h
        rw [Bool.not_eq_true, List.any_eq_false] at hfresh
        exact hi.addCharge (fun d hd he => hfresh d hd (decide_eq_true he)) hkey rfl rfl rfl

/-- Every call but a refund keeps the order and moves no refund. -/
theorem perform_calm (hi : InOrder s) {o : Action} (hready : Ready s o) {ch : Choice} {r : Except PaymentError o.Result}
    (h : s.perform ch o = some (r, s')) : InOrder s' ∧ Calm s s' := by
  cases o with
  | sql sess o =>
    simp only [World.perform] at h
    cases hp : s.db.perform sess o with
    | mk q db =>
      rw [hp] at h
      cases h
      exact hi.statement hready hp
  | charge req =>
    obtain ⟨a, ha, he⟩ := Option.map_eq_some_iff.1 h
    cases he
    exact hi.charges hready ha
  | refund req => exact hready.elim
  | ledger asked q =>
    obtain ⟨a, ha, he⟩ := Option.map_eq_some_iff.1 h
    cases he
    exact hi.frame rfl rfl (fun _ _ => le_rfl)
  | settleCharge id status =>
    cases h
    exact hi.settleCharge id status
  | settleRefund id status =>
    cases h
    exact hi.settleRefund id status

/-- What holds of a call that is made and answered, of one that is not made, and of one whose answer is lost. -/
theorem exec_cases {o : Action} {ch : Choice} {r : Except PaymentError o.Result} (h : exec o ch s = some (r, s')) :
    s.perform ch o = some (r, s') ∨ (r = .error o.lost ∧ s' = s) ∨
      (r = .error o.lost ∧ ∃ q, s.perform ch o = some (q, s')) := by
  unfold exec at h
  cases hf : ch.fault with
  | none =>
    rw [hf] at h
    exact Or.inl h
  | before =>
    rw [hf] at h
    cases h
    exact Or.inr (Or.inl ⟨rfl, rfl⟩)
  | after =>
    rw [hf] at h
    obtain ⟨a, ha, he⟩ := Option.map_eq_some_iff.1 h
    cases he
    exact Or.inr (Or.inr ⟨rfl, a.1, ha⟩)

/-- A statement is nothing to the processor and the ledger; its answer, when there is one, is what the tables say. -/
theorem exec_sql {sess : Session} {o : Statement} {ch : Choice} {r : Except PaymentError o.Result}
    (h : exec (.sql sess o) ch s = some (r, s')) : s'.processor = s.processor ∧ s'.ledger = s.ledger ∧
      (s'.db = s.db ∨ s'.db = (s.db.perform sess o).2) ∧
      ∀ a, r = .ok a → s'.db = (s.db.perform sess o).2 ∧ (s.db.perform sess o).1 = .ok a := by
  have hperform : ∀ q, s.perform ch (.sql sess o) = some (q, s') → s' = { s with db := (s.db.perform sess o).2 } ∧
      q = (s.db.perform sess o).1.mapError .database := by
    intro q h
    simp only [World.perform] at h
    cases hp : s.db.perform sess o with
    | mk r₁ db =>
      rw [hp] at h
      cases h
      exact ⟨rfl, rfl⟩
  rcases exec_cases h with h | ⟨rfl, rfl⟩ | ⟨rfl, q, h⟩
  · obtain ⟨rfl, rfl⟩ := hperform _ h
    refine ⟨rfl, rfl, Or.inr rfl, fun a ha => ⟨rfl, ?_⟩⟩
    cases hq : (s.db.perform sess o).1 with
    | ok b =>
      rw [hq] at ha
      cases ha
      rfl
    | error e =>
      rw [hq] at ha
      cases ha
  · exact ⟨rfl, rfl, Or.inl rfl, nofun⟩
  · obtain ⟨rfl, -⟩ := hperform q h
    exact ⟨rfl, rfl, Or.inr rfl, nofun⟩

/-- A statement that only reads. -/
def Statement.reads : Statement → Prop
  | .connect => True
  | .selectPaymentByKey _ => True
  | .selectPayment _ => True
  | .selectRefund _ => True
  | .sumRefunds _ => True
  | .selectAttempt _ => True
  | _ => False

theorem Statement.reads.perform {sess : Session} {o : Statement} (ho : o.reads) (d : Tables) : (d.perform sess o).2 = d := by
  cases o with
  | selectPayment id =>
    simp only [Tables.perform]
    split <;> rfl
  | insertPayment v => exact ho.elim
  | updatePayment id change => exact ho.elim
  | insertUnposted v => exact ho.elim
  | insertAttempt v => exact ho.elim
  | updateAttempt id change => exact ho.elim
  | insertRefund v => exact ho.elim
  | _ => rfl

/-- A statement that only reads leaves everything as it is. -/
theorem exec_reads {sess : Session} {o : Statement} {ch : Choice} {r : Except PaymentError o.Result}
    (h : exec (.sql sess o) ch s = some (r, s')) (ho : o.reads) : s' = s ∧ ∀ a, r = .ok a → (s.db.perform sess o).1 = .ok a := by
  obtain ⟨hproc, hledger, hdb, hok⟩ := exec_sql h
  rw [ho.perform, or_self] at hdb
  refine ⟨?_, fun a ha => (hok a ha).2⟩
  cases s
  cases s'
  simp_all

theorem exec_calm (hi : InOrder s) {o : Action} (hready : Ready s o) {ch : Choice} {r : Except PaymentError o.Result}
    (h : exec o ch s = some (r, s')) : InOrder s' ∧ Calm s s' := by
  rcases exec_cases h with h | ⟨-, rfl⟩ | ⟨-, q, h⟩
  · exact perform_calm hi hready h
  · exact ⟨hi, .refl _⟩
  · exact perform_calm hi hready h

/-- The processor refunds: the order is kept, and only what stands on this payment, under this key, grows. -/
theorem exec_refund (hi : InOrder s) {u : Uuid} {req : ProcessorRefundRequest} (hroom : Room s u req) {ch : Choice}
    {r : Except PaymentError (String × ProcessorRefundStatus)} (h : exec (.refund req) ch s = some (r, s')) :
    InOrder s' ∧ Steady s s' ∧ ∀ u' k, u' ≠ u ∨ k = req.idempotencyKey →
      s'.standingElsewhere u' k ≤ s.standingElsewhere u' k := by
  have hsame : InOrder s ∧ Steady s s ∧ ∀ u' k, u' ≠ u ∨ k = req.idempotencyKey →
      s.standingElsewhere u' k ≤ s.standingElsewhere u' k := ⟨hi, .refl s, fun _ _ _ => le_rfl⟩
  have hperform {q : Except PaymentError (String × ProcessorRefundStatus)} {t : World}
      (h : s.perform ch (.refund req) = some (q, t)) : InOrder t ∧ Steady s t ∧ ∀ u' k, u' ≠ u ∨ k = req.idempotencyKey →
        t.standingElsewhere u' k ≤ s.standingElsewhere u' k := by
    simp only [World.perform, Processor.refund] at h
    cases hfound : s.processor.refunds.find? (fun r => decide (r.request.idempotencyKey = req.idempotencyKey)) with
    | some known =>
      rw [hfound] at h
      cases h
      exact hsame
    | none =>
      rw [hfound] at h
      cases ha : ch.answer with
      | refuses message =>
        rw [ha] at h
        cases h
        exact hsame
      | accepts id _ status =>
        rw [ha] at h
        cases h
        refine hi.addRefund ⟨id, req, status, status⟩ hroom (fun known hk he => ?_)
        exact absurd (decide_eq_true he) (List.find?_eq_none.1 hfound known hk)
  rcases exec_cases h with h | ⟨-, rfl⟩ | ⟨-, q, h⟩
  · exact hperform h
  · exact hsame
  · exact hperform h

end

end Payments

end Archisynapse
