import Archisynapse.Lemmas.PaymentsAmounts

/-!
# Refunds at the processor

`InOrder` ties payments to the charges made for them, and says that what the processor has refunded of a payment, or may still
refund, is no more than the payment. Every call keeps it; a refund needs that what is refunded under other keys leaves room
(`Ready`). `Steady` and `standingElsewhere` say what other calls leave as it is.
-/

namespace Archisynapse

namespace Payments

/-! ## Sums -/

/-- A charge was made for a payment: it is under the payment's idempotency key. -/
def World.chargedFor (s : World) (paymentId : Uuid) (chargeId : String) : Bool :=
  s.db.payments.any (fun p => decide (p.id = paymentId) &&
    s.processor.charges.any (fun c => decide (c.id = chargeId ∧ c.request.idempotencyKey = p.idempotencyKey)))

/-- A refund at the processor that is done or may still be. -/
def ProcessorRefund.stands (r : ProcessorRefund) : Bool :=
  decide (r.status = .succeeded ∨ r.status = .pending ∨ r.status = .requiresAction)

/-- The cents the processor has refunded of a payment. -/
def World.refunded (s : World) (paymentId : Uuid) : Int :=
  sumWhere (fun r => s.chargedFor paymentId r.request.processorTransactionId && decide (r.status = .succeeded))
    (fun r => (r.request.amountMinor : Int)) s.processor.refunds

/-- The cents the processor has refunded of a payment or may still refund. -/
def World.standing (s : World) (paymentId : Uuid) : Int :=
  sumWhere (fun r => s.chargedFor paymentId r.request.processorTransactionId && r.stands)
    (fun r => (r.request.amountMinor : Int)) s.processor.refunds

/-- Those under other idempotency keys than one. -/
def World.standingElsewhere (s : World) (paymentId : Uuid) (key : String) : Int :=
  sumWhere (fun r => (s.chargedFor paymentId r.request.processorTransactionId && r.stands) &&
    !decide (r.request.idempotencyKey = key)) (fun r => (r.request.amountMinor : Int)) s.processor.refunds

/-- What was refunded stands. -/
theorem World.refunded_le_standing (s : World) (paymentId : Uuid) : s.refunded paymentId ≤ s.standing paymentId := by
  refine sumWhere_le_sumWhere (fun r _ => ?_)
  cases h : s.chargedFor paymentId r.request.processorTransactionId with
  | false => simp
  | true =>
    by_cases hst : r.status = .succeeded
    · simp [hst, ProcessorRefund.stands]
    · simp only [Bool.true_and, hst, decide_false, Bool.false_eq_true, if_false]
      split <;> omega

theorem World.chargedFor_eq_true {s : World} {paymentId : Uuid} {chargeId : String} :
    s.chargedFor paymentId chargeId = true ↔ ∃ p ∈ s.db.payments, p.id = paymentId ∧
      ∃ c ∈ s.processor.charges, c.id = chargeId ∧ c.request.idempotencyKey = p.idempotencyKey := by
  simp [World.chargedFor, List.any_eq_true]

/-! ## The invariant -/

/-- Payments, charges and refunds are in order. -/
structure InOrder (s : World) : Prop where
  paymentIds : (s.db.payments.map (·.id)).Nodup
  paymentKeys : (s.db.payments.map (·.idempotencyKey)).Nodup
  amounts : ∀ p ∈ s.db.payments, 0 < p.amount ∧ p.amount < 10 ^ 19
  chargeIds : (s.processor.charges.map (·.id)).Nodup
  payment : ∀ c ∈ s.processor.charges, ∃ p ∈ s.db.payments, p.idempotencyKey = c.request.idempotencyKey
  charge : ∀ p ∈ s.db.payments, ∀ x, p.processorTransactionId = some x →
    ∃ c ∈ s.processor.charges, c.id = x ∧ c.request.idempotencyKey = p.idempotencyKey
  refund : ∀ r ∈ s.processor.refunds, ∃ c ∈ s.processor.charges, c.id = r.request.processorTransactionId
  standing : ∀ p ∈ s.db.payments, 100 * s.standing p.id ≤ p.amount

theorem inOrder_empty : InOrder .empty := by
  constructor <;> simp [World.empty, Tables.empty]

/-- What stays: a payment's id, amount and key, a charge's id and key, and that recorded refunds only grow. -/
structure Steady (s s' : World) : Prop where
  payment : ∀ p ∈ s.db.payments, ∃ p' ∈ s'.db.payments, p'.id = p.id ∧ p'.amount = p.amount ∧
    p'.idempotencyKey = p.idempotencyKey
  charge : ∀ c ∈ s.processor.charges, ∃ c' ∈ s'.processor.charges, c'.id = c.id ∧
    c'.request.idempotencyKey = c.request.idempotencyKey
  total : ∀ sess paymentId, s.db.refundedTotal sess paymentId ≤ s'.db.refundedTotal sess paymentId

theorem Steady.refl (s : World) : Steady s s :=
  ⟨fun p hp => ⟨p, hp, rfl, rfl, rfl⟩, fun c hc => ⟨c, hc, rfl, rfl⟩, fun _ _ => le_rfl⟩

theorem Steady.trans {s s' s'' : World} (h : Steady s s') (h' : Steady s' s'') : Steady s s'' := by
  refine ⟨fun p hp => ?_, fun c hc => ?_, fun sess u => (h.total sess u).trans (h'.total sess u)⟩
  · obtain ⟨p', hp', h₁, h₂, h₃⟩ := h.payment p hp
    obtain ⟨p'', hp'', h₄, h₅, h₆⟩ := h'.payment p' hp'
    exact ⟨p'', hp'', h₄.trans h₁, h₅.trans h₂, h₆.trans h₃⟩
  · obtain ⟨c', hc', h₁, h₂⟩ := h.charge c hc
    obtain ⟨c'', hc'', h₃, h₄⟩ := h'.charge c' hc'
    exact ⟨c'', hc'', h₃.trans h₁, h₄.trans h₂⟩

/-- A charge made for a payment stays one. -/
theorem Steady.chargedFor {s s' : World} (hs : Steady s s') {paymentId : Uuid} {chargeId : String}
    (h : s.chargedFor paymentId chargeId = true) : s'.chargedFor paymentId chargeId = true := by
  obtain ⟨p, hp, hid, c, hc, hcid, hkey⟩ := World.chargedFor_eq_true.1 h
  obtain ⟨p', hp', h₁, -, h₃⟩ := hs.payment p hp
  obtain ⟨c', hc', h₄, h₅⟩ := hs.charge c hc
  exact World.chargedFor_eq_true.2 ⟨p', hp', h₁.trans hid, c', hc', h₄.trans hcid, by rw [h₅, hkey, h₃]⟩

/-- A call that moves no refund: what stands does not grow. -/
structure Calm (s s' : World) : Prop where
  steady : Steady s s'
  elsewhere : ∀ paymentId key, s'.standingElsewhere paymentId key ≤ s.standingElsewhere paymentId key

theorem Calm.refl (s : World) : Calm s s := ⟨.refl s, fun _ _ => le_rfl⟩

section

variable {s s' : World}

/-! ## Calls -/

/-- The charges of each payment are the same where ids and keys are. -/
theorem chargedFor_congr (hp : s'.db.payments.map (fun p => (p.id, p.idempotencyKey)) =
      s.db.payments.map (fun p => (p.id, p.idempotencyKey)))
    (hc : s'.processor.charges.map (fun c => (c.id, c.request.idempotencyKey)) =
      s.processor.charges.map (fun c => (c.id, c.request.idempotencyKey))) : s'.chargedFor = s.chargedFor := by
  have hof (s : World) (u : Uuid) (x : String) : s.chargedFor u x =
      (s.db.payments.map (fun p => (p.id, p.idempotencyKey))).any (fun p => decide (p.1 = u) &&
        (s.processor.charges.map (fun c => (c.id, c.request.idempotencyKey))).any (fun c => decide (c.1 = x ∧ c.2 = p.2))) := by
    simp only [World.chargedFor, List.any_map]
    rfl
  funext u x
  rw [hof, hof, hp, hc]

/-- What stands when neither the charges of a payment nor the refunds change. -/
theorem standing_congr (s s' : World) (hc : ∀ r ∈ s.processor.refunds, ∀ u,
      s'.chargedFor u r.request.processorTransactionId = s.chargedFor u r.request.processorTransactionId)
    (hr : s'.processor.refunds = s.processor.refunds) :
    (∀ u, s'.standing u = s.standing u) ∧ ∀ u k, s'.standingElsewhere u k = s.standingElsewhere u k := by
  constructor
  · intro u
    unfold World.standing
    rw [hr]
    refine sumWhere_congr (fun r hmem => ?_)
    rw [hc r hmem]
  · intro u k
    unfold World.standingElsewhere
    rw [hr]
    refine sumWhere_congr (fun r hmem => ?_)
    rw [hc r hmem]

/-- A change of other tables only. -/
theorem InOrder.frame (hi : InOrder s) (hp : s'.db.payments = s.db.payments) (hr : s'.processor = s.processor)
    (ht : ∀ sess u, s.db.refundedTotal sess u ≤ s'.db.refundedTotal sess u) : InOrder s' ∧ Calm s s' := by
  have hcharged : s'.chargedFor = s.chargedFor := chargedFor_congr (by rw [hp]) (by rw [hr])
  obtain ⟨hst, helse⟩ := standing_congr s s' (fun r _ u => by rw [hcharged]) (by rw [hr])
  refine ⟨⟨hp ▸ hi.paymentIds, hp ▸ hi.paymentKeys, hp ▸ hi.amounts, hr ▸ hi.chargeIds, hp ▸ hr ▸ hi.payment,
    hp ▸ hr ▸ hi.charge, hr ▸ hi.refund, ?_⟩, ⟨?_, ?_, ht⟩, fun u k => (helse u k).le⟩
  · intro p hmem
    rw [hst]
    exact hi.standing p (hp ▸ hmem)
  · exact fun p hmem => ⟨p, hp ▸ hmem, rfl, rfl, rfl⟩
  · exact fun c hmem => ⟨c, hr ▸ hmem, rfl, rfl⟩

/-- A new payment: nothing was charged under its key yet. -/
theorem InOrder.addPayment (hi : InOrder s) {row : PaymentRow} (hid : ∀ p ∈ s.db.payments, p.id ≠ row.id)
    (hkey : ∀ p ∈ s.db.payments, p.idempotencyKey ≠ row.idempotencyKey) (hamount : 0 < row.amount ∧ row.amount < 10 ^ 19)
    (hnone : row.processorTransactionId = none) (hp : s'.db.payments = s.db.payments ++ [row])
    (hr : s'.processor = s.processor) (ht : s'.db.refunds = s.db.refunds) : InOrder s' ∧ Calm s s' := by
  have hcharged : s'.chargedFor = s.chargedFor := by
    funext u x
    unfold World.chargedFor
    rw [hp, hr, List.any_append]
    have hnew : s.processor.charges.any (fun c => decide (c.id = x ∧ c.request.idempotencyKey = row.idempotencyKey)) = false := by
      rw [List.any_eq_false]
      intro c hc hof
      obtain ⟨p, hp, hpkey⟩ := hi.payment c hc
      exact hkey p hp (hpkey.trans (of_decide_eq_true hof).2)
    rw [List.any_cons, hnew, Bool.and_false, Bool.false_or, List.any_nil, Bool.or_false]
  obtain ⟨hst, helse⟩ := standing_congr s s' (fun r _ u => by rw [hcharged]) (by rw [hr])
  have hmem : ∀ p ∈ s'.db.payments, p ∈ s.db.payments ∨ p = row := by
    intro p hp'
    rw [hp, List.mem_append, List.mem_singleton] at hp'
    exact hp'
  have hold : ∀ p ∈ s.db.payments, p ∈ s'.db.payments := fun p hp' => hp ▸ List.mem_append_left _ hp'
  refine ⟨⟨?_, ?_, ?_, hr ▸ hi.chargeIds, ?_, ?_, hr ▸ hi.refund, ?_⟩, ⟨?_, ?_, ?_⟩, fun u k => (helse u k).le⟩
  · rw [hp]
    exact nodup_map_concat hi.paymentIds hid
  · rw [hp]
    exact nodup_map_concat hi.paymentKeys hkey
  · intro p hp'
    rcases hmem p hp' with hp' | rfl
    · exact hi.amounts p hp'
    · exact hamount
  · intro c hc
    obtain ⟨p, hp', hpkey⟩ := hi.payment c (hr ▸ hc)
    exact ⟨p, hold p hp', hpkey⟩
  · intro p hp' x hx
    rw [hr]
    rcases hmem p hp' with hp' | rfl
    · exact hi.charge p hp' x hx
    · rw [hnone] at hx
      cases hx
  · intro p hp'
    rw [hst]
    rcases hmem p hp' with hp' | rfl
    · exact hi.standing p hp'
    · have hzero : s.standing p.id = 0 := by
        refine sumWhere_eq_zero (fun r _ hof => ?_)
        obtain ⟨q, hq, hqid, -⟩ := World.chargedFor_eq_true.1 (Bool.and_eq_true_iff.1 hof).1
        exact absurd hqid (hid q hq)
      rw [hzero]
      omega
  · exact fun p hp' => ⟨p, hold p hp', rfl, rfl, rfl⟩
  · exact fun c hc => ⟨c, hr ▸ hc, rfl, rfl⟩
  · intro sess u
    unfold Tables.refundedTotal
    rw [ht]

/-- An update of a payment that keeps its id, amount and key, and names only a charge made for it. -/
theorem InOrder.setPayment (hi : InOrder s) {id : Uuid} {u : PaymentRow → PaymentRow} (hid : ∀ p, (u p).id = p.id)
    (hamount : ∀ p, (u p).amount = p.amount) (hkey : ∀ p, (u p).idempotencyKey = p.idempotencyKey)
    (hcharge : ∀ p ∈ s.db.payments, p.id = id → ∀ x, (u p).processorTransactionId = some x →
      ∃ c ∈ s.processor.charges, c.id = x ∧ c.request.idempotencyKey = p.idempotencyKey)
    (hp : s'.db.payments = updateKey (·.id) id u s.db.payments) (hr : s'.processor = s.processor)
    (ht : s'.db.refunds = s.db.refunds) : InOrder s' ∧ Calm s s' := by
  have hcols {β : Type} (g : PaymentRow → β) (hg : ∀ p, g (u p) = g p) : s'.db.payments.map g = s.db.payments.map g := by
    rw [hp]
    exact map_updateKey g hg _
  have hcharged : s'.chargedFor = s.chargedFor :=
    chargedFor_congr (hcols _ (fun p => by rw [hid, hkey])) (by rw [hr])
  obtain ⟨hst, helse⟩ := standing_congr s s' (fun r _ u => by rw [hcharged]) (by rw [hr])
  have hmem : ∀ p ∈ s'.db.payments, (∃ q ∈ s.db.payments, q.id = id ∧ p = u q) ∨ p ∈ s.db.payments := by
    intro p hp'
    rw [hp] at hp'
    rcases mem_updateKey.1 hp' with hq | ⟨hp', -⟩
    · exact Or.inl hq
    · exact Or.inr hp'
  refine ⟨⟨hcols _ hid ▸ hi.paymentIds, hcols _ hkey ▸ hi.paymentKeys, ?_, hr ▸ hi.chargeIds, ?_, ?_, hr ▸ hi.refund, ?_⟩,
    ⟨?_, ?_, ?_⟩, fun u k => (helse u k).le⟩
  · intro p hp'
    rcases hmem p hp' with ⟨q, hq, -, rfl⟩ | hp'
    · rw [hamount]
      exact hi.amounts q hq
    · exact hi.amounts p hp'
  · intro c hc
    have hex := hi.payment c (hr ▸ hc)
    rw [← List.mem_map, ← hcols _ hkey, List.mem_map] at hex
    exact hex
  · intro p hp' x hx
    rw [hr]
    rcases hmem p hp' with ⟨q, hq, hqid, rfl⟩ | hp'
    · rw [hkey]
      exact hcharge q hq hqid x hx
    · exact hi.charge p hp' x hx
  · intro p hp'
    rw [hst]
    rcases hmem p hp' with ⟨q, hq, -, rfl⟩ | hp'
    · rw [hid, hamount]
      exact hi.standing q hq
    · exact hi.standing p hp'
  · intro p hp'
    rw [hp]
    by_cases he : p.id = id
    · exact ⟨u p, mem_updateKey.2 (Or.inl ⟨p, hp', he, rfl⟩), hid p, hamount p, hkey p⟩
    · exact ⟨p, mem_updateKey.2 (Or.inr ⟨hp', he⟩), rfl, rfl, rfl⟩
  · exact fun c hc => ⟨c, hr ▸ hc, rfl, rfl⟩
  · intro sess u
    unfold Tables.refundedTotal
    rw [ht]

/-- Refunds written to the table, with amounts that are not negative. -/
theorem InOrder.addRefunds (hi : InOrder s) (rows : List RefundRow) (hrows : ∀ r ∈ rows, 0 ≤ r.amount)
    (hp : s'.db.payments = s.db.payments) (hr : s'.processor = s.processor) (ht : s'.db.refunds = s.db.refunds ++ rows) :
    InOrder s' ∧ Calm s s' := by
  refine hi.frame hp hr (fun sess u => ?_)
  unfold Tables.refundedTotal
  rw [ht, sumWhere_append]
  exact le_add_of_nonneg_right (sumWhere_nonneg (fun r hr _ => hrows r hr))

/-- A new charge, under the key of a payment. -/
theorem InOrder.addCharge (hi : InOrder s) {c : Charge} (hid : ∀ d ∈ s.processor.charges, d.id ≠ c.id)
    (hkey : ∃ p ∈ s.db.payments, p.idempotencyKey = c.request.idempotencyKey) (hp : s'.db = s.db)
    (hc : s'.processor.charges = s.processor.charges ++ [c]) (hr : s'.processor.refunds = s.processor.refunds) :
    InOrder s' ∧ Calm s s' := by
  have hnone : ∀ r ∈ s.processor.refunds, r.request.processorTransactionId ≠ c.id := by
    intro r hr' he
    obtain ⟨d, hd, hdid⟩ := hi.refund r hr'
    exact hid d hd (hdid.trans he)
  have hcharged : ∀ r ∈ s.processor.refunds, ∀ u,
      s'.chargedFor u r.request.processorTransactionId = s.chargedFor u r.request.processorTransactionId := by
    intro r hr' u
    unfold World.chargedFor
    rw [hp, hc]
    have hne := Ne.symm (hnone r hr')
    simp [hne]
  obtain ⟨hst, helse⟩ := standing_congr s s' hcharged hr
  have hold : ∀ d ∈ s.processor.charges, d ∈ s'.processor.charges := fun d hd => hc ▸ List.mem_append_left _ hd
  refine ⟨⟨hp ▸ hi.paymentIds, hp ▸ hi.paymentKeys, hp ▸ hi.amounts, ?_, ?_, ?_, ?_, ?_⟩, ⟨?_, ?_, ?_⟩,
    fun u k => (helse u k).le⟩
  · rw [hc]
    exact nodup_map_concat hi.chargeIds hid
  · intro d hd
    rw [hc, List.mem_append, List.mem_singleton] at hd
    rw [hp]
    rcases hd with hd | rfl
    · exact hi.payment d hd
    · exact hkey
  · intro p hp' x hx
    obtain ⟨d, hd, hdx⟩ := hi.charge p (hp ▸ hp') x hx
    exact ⟨d, hold d hd, hdx⟩
  · intro r hr'
    obtain ⟨d, hd, hdid⟩ := hi.refund r (hr ▸ hr')
    exact ⟨d, hold d hd, hdid⟩
  · intro p hp'
    rw [hst]
    exact hi.standing p (hp ▸ hp')
  · exact fun p hp' => ⟨p, hp ▸ hp', rfl, rfl, rfl⟩
  · exact fun d hd => ⟨d, hold d hd, rfl, rfl⟩
  · rw [hp]
    exact fun _ _ => le_rfl

/-! ### Events at the processor -/

theorem Charge.settle_id (c : Charge) (status : ChargeStatus) : (c.settle status).id = c.id := by
  unfold Charge.settle
  split <;> rfl

theorem Charge.settle_request (c : Charge) (status : ChargeStatus) : (c.settle status).request = c.request := by
  unfold Charge.settle
  split <;> rfl

theorem ProcessorRefund.settle_request (r : ProcessorRefund) (status : ProcessorRefundStatus) :
    (r.settle status).request = r.request := by
  unfold ProcessorRefund.settle
  split <;> rfl

/-- A refund that stands stood before it was settled. -/
theorem ProcessorRefund.stands_of_settle {r : ProcessorRefund} {status : ProcessorRefundStatus}
    (h : (r.settle status).stands = true) : r.stands = true := by
  unfold ProcessorRefund.settle at h
  split at h
  · rename_i hopen
    exact decide_eq_true (Or.inr hopen)
  · exact h

/-- A charge comes to another status. -/
theorem InOrder.settleCharge (hi : InOrder s) (id : String) (status : ChargeStatus) :
    InOrder { s with processor := s.processor.settleCharge id status } ∧
      Calm s { s with processor := s.processor.settleCharge id status } := by
  have hcols {β : Type} (g : Charge → β) (hg : ∀ c, g (c.settle status) = g c) :
      (s.processor.settleCharge id status).charges.map g = s.processor.charges.map g := map_updateKey g hg _
  have hpair := hcols (fun c => (c.id, c.request.idempotencyKey)) (fun c => by rw [c.settle_id, c.settle_request])
  have hex {P : String → String → Prop} (h : ∃ c ∈ s.processor.charges, P c.id c.request.idempotencyKey) :
      ∃ c ∈ (s.processor.settleCharge id status).charges, P c.id c.request.idempotencyKey := by
    obtain ⟨c, hc, hP⟩ := h
    have hmem : (c.id, c.request.idempotencyKey) ∈
        (s.processor.settleCharge id status).charges.map (fun c => (c.id, c.request.idempotencyKey)) :=
      hpair ▸ List.mem_map.2 ⟨c, hc, rfl⟩
    obtain ⟨d, hd, he⟩ := List.mem_map.1 hmem
    rw [Prod.mk.injEq] at he
    exact ⟨d, hd, by rw [he.1, he.2]; exact hP⟩
  have hcharged : World.chargedFor { s with processor := s.processor.settleCharge id status } = s.chargedFor :=
    chargedFor_congr rfl hpair
  obtain ⟨hst, helse⟩ := standing_congr s { s with processor := s.processor.settleCharge id status }
    (fun r _ u => by rw [hcharged]) rfl
  refine ⟨⟨hi.paymentIds, hi.paymentKeys, hi.amounts, ?_, ?_, ?_, ?_, ?_⟩, ⟨?_, ?_, fun _ _ => le_rfl⟩,
    fun u k => (helse u k).le⟩
  · exact hcols (·.id) (fun c => c.settle_id status) ▸ hi.chargeIds
  · intro c hc
    have hmem := List.mem_map_of_mem (f := fun c => c.request.idempotencyKey) hc
    rw [hcols _ (fun c => by rw [c.settle_request])] at hmem
    obtain ⟨d, hd, he⟩ := List.mem_map.1 hmem
    obtain ⟨p, hp, hpkey⟩ := hi.payment d hd
    exact ⟨p, hp, hpkey.trans he⟩
  · exact fun p hp x hx => hex (P := fun i k => i = x ∧ k = p.idempotencyKey) (hi.charge p hp x hx)
  · exact fun r hr => hex (P := fun i _ => i = r.request.processorTransactionId) (hi.refund r hr)
  · intro p hp
    rw [hst]
    exact hi.standing p hp
  · exact fun p hp => ⟨p, hp, rfl, rfl, rfl⟩
  · exact fun c hc => hex (P := fun i k => i = c.id ∧ k = c.request.idempotencyKey) ⟨c, hc, rfl, rfl⟩

/-- A refund at the processor comes to another status: it stands no more than before. -/
theorem InOrder.settleRefund (hi : InOrder s) (id : String) (status : ProcessorRefundStatus) :
    InOrder { s with processor := s.processor.settleRefund id status } ∧
      Calm s { s with processor := s.processor.settleRefund id status } := by
  have hsum (q : ProcessorRefundRequest → Bool) :
      sumWhere (fun r => q r.request && r.stands) (fun r => (r.request.amountMinor : Int))
        (s.processor.settleRefund id status).refunds ≤
      sumWhere (fun r => q r.request && r.stands) (fun r => (r.request.amountMinor : Int)) s.processor.refunds := by
    unfold Processor.settleRefund updateKey
    rw [sumWhere_map]
    refine sumWhere_le_sumWhere (fun r _ => ?_)
    by_cases hk : r.id = id
    · rw [if_pos hk, r.settle_request]
      by_cases hst : (r.settle status).stands = true
      · rw [hst, ProcessorRefund.stands_of_settle hst]
      · rw [Bool.eq_false_iff.2 hst, Bool.and_false, if_neg Bool.false_ne_true]
        split <;> omega
    · rw [if_neg hk]
  refine ⟨⟨hi.paymentIds, hi.paymentKeys, hi.amounts, hi.chargeIds, hi.payment, hi.charge, ?_, ?_⟩,
    ⟨fun p hp => ⟨p, hp, rfl, rfl, rfl⟩, fun c hc => ⟨c, hc, rfl, rfl⟩, fun _ _ => le_rfl⟩, ?_⟩
  · intro r hr
    rcases mem_updateKey.1 hr with ⟨q, hq, -, rfl⟩ | ⟨hr, -⟩
    · rw [q.settle_request]
      exact hi.refund q hq
    · exact hi.refund r hr
  · intro p hp
    have hle := hsum (fun req => s.chargedFor p.id req.processorTransactionId)
    have hst := hi.standing p hp
    unfold World.standing at hst ⊢
    exact (Int.mul_le_mul_of_nonneg_left hle (by norm_num)).trans hst
  · intro u k
    have hle := hsum (fun req => s.chargedFor u req.processorTransactionId && !decide (req.idempotencyKey = k))
    simp only [World.standingElsewhere, Bool.and_right_comm] at hle ⊢
    exact hle

/-! ## Refunding -/

/-- A charge is made for one payment. -/
theorem InOrder.chargedFor_unique (hi : InOrder s) {u u' : Uuid} {x : String} (h : s.chargedFor u x = true)
    (h' : s.chargedFor u' x = true) : u = u' := by
  obtain ⟨p, hp, rfl, c, hc, hcid, hkey⟩ := World.chargedFor_eq_true.1 h
  obtain ⟨q, hq, rfl, d, hd, hdid, hkey'⟩ := World.chargedFor_eq_true.1 h'
  obtain rfl := List.inj_on_of_nodup_map hi.chargeIds hc hd (hcid.trans hdid.symm)
  rw [List.inj_on_of_nodup_map hi.paymentKeys hp hq (hkey.symm.trans hkey')]

/-- A refund has room: what stands under other keys and the refund are no more than the payment. -/
structure Room (s : World) (paymentId : Uuid) (req : ProcessorRefundRequest) : Prop where
  charged : s.chargedFor paymentId req.processorTransactionId = true
  room : ∀ p ∈ s.db.payments, p.id = paymentId →
    100 * (s.standingElsewhere paymentId req.idempotencyKey + req.amountMinor) ≤ p.amount

/-- The processor refunds under a new key. -/
theorem InOrder.addRefund (hi : InOrder s) {u : Uuid} (rec : ProcessorRefund) (hroom : Room s u rec.request)
    (hkey : ∀ r ∈ s.processor.refunds, r.request.idempotencyKey ≠ rec.request.idempotencyKey) :
    InOrder { s with processor := { s.processor with refunds := s.processor.refunds ++ [rec] } } ∧
    Steady s { s with processor := { s.processor with refunds := s.processor.refunds ++ [rec] } } ∧
    ∀ u' k, u' ≠ u ∨ k = rec.request.idempotencyKey →
      World.standingElsewhere { s with processor := { s.processor with refunds := s.processor.refunds ++ [rec] } } u' k ≤
        s.standingElsewhere u' k := by
  have hother : ∀ u', u' ≠ u → s.chargedFor u' rec.request.processorTransactionId = false := by
    intro u' hne
    rw [Bool.eq_false_iff]
    exact fun h => hne (hi.chargedFor_unique h hroom.charged)
  refine ⟨⟨hi.paymentIds, hi.paymentKeys, hi.amounts, hi.chargeIds, hi.payment, hi.charge, ?_, ?_⟩,
    ⟨fun p hp => ⟨p, hp, rfl, rfl, rfl⟩, fun c hc => ⟨c, hc, rfl, rfl⟩, fun _ _ => le_rfl⟩, ?_⟩
  · intro r hr
    rcases List.mem_append.1 hr with hr | hr
    · exact hi.refund r hr
    · rw [List.mem_singleton.1 hr]
      obtain ⟨-, -, -, c, hc, hcid, -⟩ := World.chargedFor_eq_true.1 hroom.charged
      exact ⟨c, hc, hcid⟩
  · intro p hp
    unfold World.standing
    rw [sumWhere_append, sumWhere_singleton]
    change 100 * (s.standing p.id + if s.chargedFor p.id rec.request.processorTransactionId && rec.stands then _ else 0) ≤ _
    by_cases hu : p.id = u
    · have hsame : s.standing p.id = s.standingElsewhere u rec.request.idempotencyKey := by
        rw [hu]
        refine sumWhere_congr (fun r hr => ?_)
        rw [decide_eq_false (hkey r hr), Bool.not_false, Bool.and_true]
      have hle := hroom.room p hp hu
      rw [hsame]
      split <;> omega
    · rw [hother p.id hu, Bool.false_and, if_neg Bool.false_ne_true, add_zero]
      exact hi.standing p hp
  · intro u' k hcase
    unfold World.standingElsewhere
    rw [sumWhere_append, sumWhere_singleton]
    change s.standingElsewhere u' k + (if s.chargedFor u' rec.request.processorTransactionId && rec.stands &&
      !decide (rec.request.idempotencyKey = k) then _ else 0) ≤ s.standingElsewhere u' k
    rcases hcase with hne | rfl
    · rw [hother u' hne, Bool.false_and, Bool.false_and, if_neg Bool.false_ne_true, add_zero]
    · rw [decide_eq_true rfl, Bool.not_true, Bool.and_false, if_neg Bool.false_ne_true, add_zero]

end

end Payments

end Archisynapse
