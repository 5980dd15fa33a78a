import Archisynapse.Lemmas.TokenSpendStore

/-!
# The budget invariant of token spend

`Budget` ties the counters of a policy to its reservations, and reservations to their receipts. Every change keeps it, a paused
policy stays paused, and it gains no reservation.
-/

namespace Archisynapse

namespace TokenSpend

/-! ## Sums -/

/-- A reservation of a policy that is still reserved. -/
def isOpen (policyId : String) (r : Reservation) : Bool := decide (r.policyId = policyId) && decide (r.status = .reserved)

/-- A reservation of a policy that is finalized. -/
def isDone (policyId : String) (r : Reservation) : Bool := decide (r.policyId = policyId) && decide (r.status = .finalized)

/-- What the open reservations of a policy hold. -/
def openSum (rs : List Reservation) (policyId : String) : Int := sumWhere (isOpen policyId) (·.reservedMicrousd) rs

/-- What the finalized reservations of a policy cost. -/
def doneSum (rs : List Reservation) (policyId : String) : Int :=
  sumWhere (isDone policyId) (fun r => r.actualCostMicrousd.getD 0) rs

/-- How many reservations of a policy are finalized. -/
def doneCount (rs : List Reservation) (policyId : String) : Int := sumWhere (isDone policyId) (fun _ => 1) rs

/-! ## The invariant -/

/-- The counters of one policy. -/
structure Counters (rs : List Reservation) (p : Policy) : Prop where
  reserved : p.reservedMicrousd = openSum rs p.id
  spent : p.spentMicrousd = doneSum rs p.id
  calls : p.callCount = doneCount rs p.id
  overspent : p.budgetMicrousd < p.spentMicrousd → p.status = .paused

/-- The budget invariant. -/
structure Budget (s : Store) : Prop where
  policyIds : (s.policies.map (·.id)).Nodup
  reservationIds : (s.reservations.map (·.id)).Nodup
  policy : ∀ r ∈ s.reservations, ∃ p ∈ s.policies, p.id = r.policyId
  nonneg : ∀ r ∈ s.reservations, 0 ≤ r.reservedMicrousd
  counters : ∀ p ∈ s.policies, Counters s.reservations p
  cost : ∀ r ∈ s.reservations, r.status = .finalized → r.actualCostMicrousd.isSome
  receipt : ∀ r ∈ s.reservations, r.status = .finalized ↔ ∃ q ∈ s.receipts, q.reservationId = r.id
  receiptOf : ∀ q ∈ s.receipts, ∃ r ∈ s.reservations, r.id = q.reservationId
  receiptIds : (s.receipts.map (·.reservationId)).Nodup

theorem budget_empty : Budget .empty := by
  constructor <;> simp [Store.empty]

section

variable {s s' : Store}

/-- What an open reservation holds is part of what its policy has reserved. -/
theorem Budget.reserved_le (hb : Budget s) {r : Reservation} (hr : r ∈ s.reservations) (hst : r.status = .reserved)
    {p : Policy} (hp : p ∈ s.policies) (hid : p.id = r.policyId) : r.reservedMicrousd ≤ p.reservedMicrousd := by
  rw [(hb.counters p hp).reserved]
  refine le_sumWhere (fun q hq _ => hb.nonneg q hq) hr ?_
  simp [isOpen, hid, hst]

/-- The same policies, reservations and receipts. -/
theorem Budget.congr (hb : Budget s) (hp : s'.policies = s.policies) (hr : s'.reservations = s.reservations)
    (hc : s'.receipts = s.receipts) : Budget s' := by
  constructor
  · exact hp ▸ hb.policyIds
  · exact hr ▸ hb.reservationIds
  · exact hp ▸ hr ▸ hb.policy
  · exact hr ▸ hb.nonneg
  · exact hp ▸ hr ▸ hb.counters
  · exact hr ▸ hb.cost
  · exact hc ▸ hr ▸ hb.receipt
  · exact hc ▸ hr ▸ hb.receiptOf
  · exact hc ▸ hb.receiptIds

/-- Policies that keep their ids and whose counters are right for new reservations. -/
theorem Budget.setPolicy (hb : Budget s) {id : String} {u : Policy → Policy} (hu : ∀ p, (u p).id = p.id)
    (hc : ∀ p ∈ s.policies, p.id = id → Counters s.reservations (u p)) : Budget (s.setPolicy id u) := by
  have hids : (s.setPolicy id u).policies.map (·.id) = s.policies.map (·.id) := map_updateKey _ hu _
  refine ⟨hids ▸ hb.policyIds, hb.reservationIds, ?_, hb.nonneg, ?_, hb.cost, hb.receipt, hb.receiptOf, hb.receiptIds⟩
  · intro r hr
    have hmem := hb.policy r hr
    rw [← List.mem_map, ← hids, List.mem_map] at hmem
    exact hmem
  · intro p hp
    rcases mem_updateKey.1 hp with ⟨q, hq, hid, rfl⟩ | ⟨hp, -⟩
    · exact hc q hq hid
    · exact hb.counters p hp

/-- A policy that is paused, or not. -/
theorem Budget.pausedIf (hb : Budget s) (id : String) (reason : Option String) : Budget (s.setPolicy id (·.pausedIf reason)) := by
  cases reason with
  | none => exact hb.congr (updateKey_id _ _ _) rfl rfl
  | some reason =>
    refine hb.setPolicy (fun _ => rfl) (fun p hp _ => ?_)
    have hc := hb.counters p hp
    exact ⟨hc.reserved, hc.spent, hc.calls, fun _ => rfl⟩

/-- A new policy. -/
theorem Budget.addPolicy (hb : Budget s) {p : Policy} (hid : ∀ q ∈ s.policies, q.id ≠ p.id) (hr : p.reservedMicrousd = 0)
    (hs : p.spentMicrousd = 0) (hc : p.callCount = 0) (hbudget : 0 < p.budgetMicrousd) :
    Budget { s with policies := s.policies ++ [p] } := by
  have hno : ∀ r ∈ s.reservations, r.policyId ≠ p.id := by
    intro r hr he
    obtain ⟨q, hq, hqid⟩ := hb.policy r hr
    exact hid q hq (hqid.trans he)
  have hzero (st : ReservationStatus) (f : Reservation → Int) :
      sumWhere (fun r => decide (r.policyId = p.id) && decide (r.status = st)) f s.reservations = 0 := by
    refine sumWhere_eq_zero (fun r hr hp => ?_)
    rw [Bool.and_eq_true, decide_eq_true_eq] at hp
    exact absurd hp.1 (hno r hr)
  refine ⟨nodup_map_concat hb.policyIds hid, hb.reservationIds, ?_, hb.nonneg, ?_, hb.cost, hb.receipt, hb.receiptOf,
    hb.receiptIds⟩
  · intro r hr
    obtain ⟨q, hq, hqid⟩ := hb.policy r hr
    exact ⟨q, List.mem_append_left _ hq, hqid⟩
  · intro q hq
    rcases List.mem_append.1 hq with hq | hq
    · exact hb.counters q hq
    · rw [List.mem_singleton.1 hq]
      refine ⟨hr.trans (hzero _ _).symm, hs.trans (hzero _ _).symm, hc.trans (hzero _ _).symm, fun hover => ?_⟩
      omega

/-! ## Reserving -/

/-- A reservation adds to what is open of its policy, and to nothing else. -/
theorem openSum_concat {r : Reservation} (hst : r.status = .reserved) (rs : List Reservation) (id : String) :
    openSum (rs ++ [r]) id = openSum rs id + if r.policyId = id then r.reservedMicrousd else 0 := by
  simp [openSum, isOpen, hst]

theorem doneSum_concat {r : Reservation} (hst : r.status = .reserved) (rs : List Reservation) (id : String) :
    doneSum (rs ++ [r]) id = doneSum rs id := by
  simp [doneSum, isDone, hst]

theorem doneCount_concat {r : Reservation} (hst : r.status = .reserved) (rs : List Reservation) (id : String) :
    doneCount (rs ++ [r]) id = doneCount rs id := by
  simp [doneCount, isDone, hst]

/-- The policy of a new reservation. -/
theorem Counters.reserve {rs : List Reservation} {r : Reservation} {p : Policy} (hc : Counters rs p) (hst : r.status = .reserved)
    (hid : p.id = r.policyId) :
    Counters (rs ++ [r]) { p with reservedMicrousd := p.reservedMicrousd + r.reservedMicrousd } := by
  refine ⟨?_, hc.spent.trans (doneSum_concat hst _ _).symm, hc.calls.trans (doneCount_concat hst _ _).symm, hc.overspent⟩
  rw [openSum_concat hst, if_pos hid.symm, ← hc.reserved]

/-- A policy of which nothing was reserved. -/
theorem Counters.concat {rs : List Reservation} {r : Reservation} {p : Policy} (hc : Counters rs p) (hst : r.status = .reserved)
    (hid : r.policyId ≠ p.id) : Counters (rs ++ [r]) p := by
  refine ⟨?_, hc.spent.trans (doneSum_concat hst _ _).symm, hc.calls.trans (doneCount_concat hst _ _).symm, hc.overspent⟩
  rw [openSum_concat hst, if_neg hid, add_zero, hc.reserved]

/-- A new reservation, and its amount in the policy. -/
theorem Budget.reserve (hb : Budget s) {r : Reservation} {p : Policy} (hp : s.policy r.policyId = some p)
    (hfresh : ∀ q ∈ s.reservations, q.id ≠ r.id) (hst : r.status = .reserved) (hnonneg : 0 ≤ r.reservedMicrousd) :
    Budget ({ s with reservations := s.reservations ++ [r] }.setPolicy r.policyId
      (fun p => { p with reservedMicrousd := p.reservedMicrousd + r.reservedMicrousd })) := by
  have hids : (updateKey (·.id) r.policyId (fun p => { p with reservedMicrousd := p.reservedMicrousd + r.reservedMicrousd })
      s.policies).map (·.id) = s.policies.map (·.id) := by
    refine map_updateKey _ ?_ _
    exact fun _ => rfl
  obtain ⟨hpmem, hpid⟩ := Store.policy_eq_some hp
  have hnone : ∀ q ∈ s.receipts, q.reservationId ≠ r.id := by
    intro q hq he
    obtain ⟨row, hrow, hid⟩ := hb.receiptOf q hq
    exact hfresh row hrow (hid.trans he)
  refine ⟨hids ▸ hb.policyIds, nodup_map_concat hb.reservationIds hfresh, ?_, ?_, ?_, ?_, ?_, ?_, hb.receiptIds⟩
  · intro q hq
    have hmem : ∃ p ∈ s.policies, p.id = q.policyId := by
      rcases List.mem_append.1 hq with hq | hq
      · exact hb.policy q hq
      · rw [List.mem_singleton.1 hq]
        exact ⟨p, hpmem, hpid⟩
    rw [← List.mem_map, ← hids, List.mem_map] at hmem
    exact hmem
  · intro q hq
    rcases List.mem_append.1 hq with hq | hq
    · exact hb.nonneg q hq
    · rw [List.mem_singleton.1 hq]
      exact hnonneg
  · intro q hq
    rcases mem_updateKey.1 hq with ⟨q₀, hq₀, hid, rfl⟩ | ⟨hq, hid⟩
    · exact (hb.counters q₀ hq₀).reserve hst hid
    · exact (hb.counters q hq).concat hst (Ne.symm hid)
  · intro q hq hdone
    rcases List.mem_append.1 hq with hq | hq
    · exact hb.cost q hq hdone
    · rw [List.mem_singleton.1 hq, hst] at hdone
      cases hdone
  · intro q hq
    rcases List.mem_append.1 hq with hq | hq
    · exact hb.receipt q hq
    · rw [List.mem_singleton.1 hq, hst]
      constructor
      · intro hdone
        cases hdone
      · rintro ⟨c, hc, hid⟩
        exact absurd hid (hnone c hc)
  · intro q hq
    obtain ⟨row, hrow, hid⟩ := hb.receiptOf q hq
    exact ⟨row, List.mem_append_left _ hrow, hid⟩

/-! ## Finalizing -/

section

variable {rs : List Reservation} {row : Reservation} {args : UsageArgs} {cost : Int} {receiptId : String}

/-- A finalized reservation is no longer open. -/
theorem openSum_finalize (hnd : (rs.map (·.id)).Nodup) (hrow : row ∈ rs) (hst : row.status = .reserved) (id : String) :
    openSum (updateKey (·.id) row.id (·.finalize args cost receiptId) rs) id =
      openSum rs id - if row.policyId = id then row.reservedMicrousd else 0 := by
  unfold openSum
  rw [sumWhere_updateKey _ _ _ _ _ hnd hrow rfl]
  simp [isOpen, Reservation.finalize, hst]

/-- A finalized reservation counts with its cost. -/
theorem doneSum_finalize (hnd : (rs.map (·.id)).Nodup) (hrow : row ∈ rs) (hst : row.status = .reserved) (id : String) :
    doneSum (updateKey (·.id) row.id (·.finalize args cost receiptId) rs) id =
      doneSum rs id + if row.policyId = id then cost else 0 := by
  unfold doneSum
  rw [sumWhere_updateKey _ _ _ _ _ hnd hrow rfl]
  by_cases h : row.policyId = id
  · simp [isDone, Reservation.finalize, hst, h]
  · simp [isDone, Reservation.finalize, hst, h]

/-- A finalized reservation is one more call. -/
theorem doneCount_finalize (hnd : (rs.map (·.id)).Nodup) (hrow : row ∈ rs) (hst : row.status = .reserved) (id : String) :
    doneCount (updateKey (·.id) row.id (·.finalize args cost receiptId) rs) id =
      doneCount rs id + if row.policyId = id then 1 else 0 := by
  unfold doneCount
  rw [sumWhere_updateKey _ _ _ _ _ hnd hrow rfl]
  by_cases h : row.policyId = id
  · simp [isDone, Reservation.finalize, hst, h]
  · simp [isDone, Reservation.finalize, hst, h]

end

/-- The clamp of the reserved amount does nothing. -/
theorem Budget.clamp (hb : Budget s) {r : Reservation} (hr : r ∈ s.reservations) (hst : r.status = .reserved)
    {p : Policy} (hp : p ∈ s.policies) (hid : p.id = r.policyId) :
    max 0 (p.reservedMicrousd - r.reservedMicrousd) = p.reservedMicrousd - r.reservedMicrousd :=
  max_eq_right (sub_nonneg.2 (hb.reserved_le hr hst hp hid))

/-- Pausing a policy keeps its counters. -/
theorem Counters.pausedIf {rs : List Reservation} {p : Policy} {reason : Option String} (hr : p.reservedMicrousd = openSum rs p.id)
    (hs : p.spentMicrousd = doneSum rs p.id) (hc : p.callCount = doneCount rs p.id)
    (hover : p.budgetMicrousd < p.spentMicrousd → reason.isSome ∨ p.status = .paused) : Counters rs (p.pausedIf reason) := by
  cases reason with
  | some reason => exact ⟨hr, hs, hc, fun _ => rfl⟩
  | none => exact ⟨hr, hs, hc, fun h => (hover h).resolve_left (by simp)⟩

/-- The policy that is charged for a usage. -/
theorem Budget.charge (hb : Budget s) {row : Reservation} {p : Policy} {args : UsageArgs} {cost : Int} {receiptId : String}
    {reason : Option String} (hrow : row ∈ s.reservations) (hst : row.status = .reserved) (hp : s.policy row.policyId = some p)
    (hover : p.budgetMicrousd < p.spentMicrousd + cost → reason.isSome) :
    Counters (updateKey (·.id) row.id (·.finalize args cost receiptId) s.reservations)
      ((p.charge row.reservedMicrousd cost).pausedIf reason) := by
  obtain ⟨hmem, hid⟩ := Store.policy_eq_some hp
  have hc := hb.counters p hmem
  refine Counters.pausedIf ?_ ?_ ?_ (fun h => Or.inl (hover h))
  · refine Eq.trans ?_ (openSum_finalize hb.reservationIds hrow hst p.id).symm
    rw [if_pos hid.symm, ← hc.reserved]
    exact hb.clamp hrow hst hmem hid
  · refine Eq.trans ?_ (doneSum_finalize hb.reservationIds hrow hst p.id).symm
    rw [if_pos hid.symm, ← hc.spent]
    rfl
  · refine Eq.trans ?_ (doneCount_finalize hb.reservationIds hrow hst p.id).symm
    rw [if_pos hid.symm, ← hc.calls]
    rfl

/-- A policy whose reservations did not change. -/
theorem Counters.other {rs : List Reservation} {row : Reservation} {p : Policy} {args : UsageArgs} {cost : Int}
    {receiptId : String} (hc : Counters rs p) (hnd : (rs.map (·.id)).Nodup) (hrow : row ∈ rs) (hst : row.status = .reserved)
    (hid : row.policyId ≠ p.id) : Counters (updateKey (·.id) row.id (·.finalize args cost receiptId) rs) p := by
  refine ⟨?_, ?_, ?_, hc.overspent⟩
  · rw [openSum_finalize hnd hrow hst, if_neg hid, sub_zero, hc.reserved]
  · rw [doneSum_finalize hnd hrow hst, if_neg hid, add_zero, hc.spent]
  · rw [doneCount_finalize hnd hrow hst, if_neg hid, add_zero, hc.calls]

theorem pausedIf_id (p : Policy) (reason : Option String) : (p.pausedIf reason).id = p.id := by
  cases reason with
  | none => rfl
  | some reason => rfl

theorem pausedIf_paused {p : Policy} (reason : Option String) (h : p.status = .paused) : (p.pausedIf reason).status = .paused := by
  cases reason with
  | none => exact h
  | some reason => rfl

theorem charge_id (p : Policy) (reserved cost : Int) (reason : Option String) :
    ((p.charge reserved cost).pausedIf reason).id = p.id := pausedIf_id _ reason

/-- A reservation is finalized: its receipt, its row and its policy. -/
theorem Budget.finalize (hb : Budget s) {row : Reservation} {p : Policy} {args : UsageArgs} {cost : Int}
    {receipt : UsageReceipt} {reason : Option String} (hrow : row ∈ s.reservations) (hst : row.status = .reserved)
    (hp : s.policy row.policyId = some p) (hover : p.budgetMicrousd < p.spentMicrousd + cost → reason.isSome)
    (hreceipt : receipt.reservationId = row.id) (hfresh : ∀ q ∈ s.receipts, q.reservationId ≠ row.id) :
    Budget (({ s with receipts := s.receipts ++ [receipt] }.setReservation row.id (·.finalize args cost receipt.id)).setPolicy
      row.policyId (fun p => (p.charge row.reservedMicrousd cost).pausedIf reason)) := by
  have hpids : (updateKey (·.id) row.policyId (fun p => (p.charge row.reservedMicrousd cost).pausedIf reason)
      s.policies).map (·.id) = s.policies.map (·.id) := map_updateKey _ (fun p => charge_id p _ _ _) _
  have hrids : (updateKey (·.id) row.id (·.finalize args cost receipt.id) s.reservations).map (·.id) =
      s.reservations.map (·.id) := by
    refine map_updateKey _ ?_ _
    exact fun _ => rfl
  -- a stored reservation is the finalized one or one of the others
  have hrows : ∀ r ∈ updateKey (·.id) row.id (·.finalize args cost receipt.id) s.reservations,
      r = row.finalize args cost receipt.id ∨ (r ∈ s.reservations ∧ r.id ≠ row.id) :=
    fun r hr => (mem_updateKey_row hb.reservationIds hrow).1 hr
  refine ⟨hpids ▸ hb.policyIds, hrids ▸ hb.reservationIds, ?_, ?_, ?_, ?_, ?_, ?_, ?_⟩
  · intro r hr
    have hmem : ∃ p ∈ s.policies, p.id = r.policyId := by
      rcases hrows r hr with rfl | ⟨hr, -⟩
      · exact hb.policy row hrow
      · exact hb.policy r hr
    rw [← List.mem_map, ← hpids, List.mem_map] at hmem
    exact hmem
  · intro r hr
    rcases hrows r hr with rfl | ⟨hr, -⟩
    · exact hb.nonneg row hrow
    · exact hb.nonneg r hr
  · intro q hq
    rcases mem_updateKey.1 hq with ⟨q₀, hq₀, hid, rfl⟩ | ⟨hq, hid⟩
    · have hpq : s.policy row.policyId = some q₀ := hid ▸ find?_key hb.policyIds hq₀
      obtain rfl : p = q₀ := Option.some.inj (hp.symm.trans hpq)
      exact hb.charge hrow hst hp hover
    · exact (hb.counters q hq).other hb.reservationIds hrow hst (Ne.symm hid)
  · intro r hr hdone
    rcases hrows r hr with rfl | ⟨hr, -⟩
    · rfl
    · exact hb.cost r hr hdone
  · intro r hr
    rcases hrows r hr with rfl | ⟨hr, hid⟩
    · exact ⟨fun _ => ⟨receipt, by simp [Store.setPolicy, Store.setReservation], hreceipt⟩, fun _ => rfl⟩
    · rw [hb.receipt r hr]
      constructor
      · rintro ⟨q, hq, he⟩
        exact ⟨q, List.mem_append_left _ hq, he⟩
      · rintro ⟨q, hq, he⟩
        rcases List.mem_append.1 hq with hq | hq
        · exact ⟨q, hq, he⟩
        · rw [List.mem_singleton.1 hq, hreceipt] at he
          exact absurd he.symm hid
  · intro q hq
    have hmem : ∃ r ∈ s.reservations, r.id = q.reservationId := by
      rcases List.mem_append.1 hq with hq | hq
      · exact hb.receiptOf q hq
      · rw [List.mem_singleton.1 hq]
        exact ⟨row, hrow, hreceipt.symm⟩
    rw [← List.mem_map, ← hrids, List.mem_map] at hmem
    exact hmem
  · exact nodup_map_concat hb.receiptIds (fun q hq => hreceipt ▸ hfresh q hq)

/-! ## Reconciling -/

/-- The outcome of a reconciliation says nothing about amounts. -/
theorem Counters.reconcile {rs : List Reservation} {p : Policy} (hc : Counters rs p) (id : String) (st : ReconciliationStatus) :
    Counters (updateKey (·.id) id (fun r => { r with reconciliationStatus := st }) rs) p := by
  have hsame (q : Reservation → Bool) (f : Reservation → Int) (hq : ∀ r, q { r with reconciliationStatus := st } = q r)
      (hf : ∀ r, f { r with reconciliationStatus := st } = f r) :
      sumWhere q f rs = sumWhere q f (updateKey (·.id) id (fun r => { r with reconciliationStatus := st }) rs) :=
    (sumWhere_updateKey_same q f _ hq hf rs).symm
  exact ⟨hc.reserved.trans (hsame _ _ (fun _ => rfl) (fun _ => rfl)), hc.spent.trans (hsame _ _ (fun _ => rfl) (fun _ => rfl)),
    hc.calls.trans (hsame _ _ (fun _ => rfl) (fun _ => rfl)), hc.overspent⟩

/-- A reconciled reservation. -/
theorem Budget.reconcile (hb : Budget s) (id : String) (st : ReconciliationStatus) :
    Budget (s.setReservation id (fun r => { r with reconciliationStatus := st })) := by
  have hids : (updateKey (·.id) id (fun r => { r with reconciliationStatus := st }) s.reservations).map (·.id) =
      s.reservations.map (·.id) := by
    refine map_updateKey _ ?_ _
    exact fun _ => rfl
  have hrows {P : Reservation → Prop} (hP : ∀ r ∈ s.reservations, P r)
      (hsame : ∀ r, P r → P { r with reconciliationStatus := st }) :
      ∀ r ∈ updateKey (·.id) id (fun r => { r with reconciliationStatus := st }) s.reservations, P r := by
    intro r hr
    rcases mem_updateKey.1 hr with ⟨q, hq, -, rfl⟩ | ⟨hr, -⟩
    · exact hsame q (hP q hq)
    · exact hP r hr
  refine ⟨hb.policyIds, hids ▸ hb.reservationIds, hrows hb.policy (fun _ h => h), hrows hb.nonneg (fun _ h => h), ?_,
    hrows hb.cost (fun _ h => h), hrows hb.receipt (fun _ h => h), ?_, hb.receiptIds⟩
  · exact fun p hp => (hb.counters p hp).reconcile id st
  · intro q hq
    have hmem := hb.receiptOf q hq
    rw [← List.mem_map, ← hids, List.mem_map] at hmem
    exact hmem

/-! ## Changes -/

/-- Every change keeps the invariant. -/
theorem Change.budget (h : Change s s') (hb : Budget s) : Budget s' := by
  cases h with
  | quiet hp hr hc => exact hb.congr hp hr hc
  | create p hfresh hreserved hspent hcalls hbudget hp hr hc =>
    exact (hb.addPolicy hfresh hreserved hspent hcalls hbudget).congr hp hr hc
  | stop id reason hp hr hc => exact (hb.pausedIf id (some reason)).congr hp hr hc
  | reserve r p hpolicy _ hfresh hst _ hnonneg _ hp hr hc =>
    exact (hb.reserve hpolicy hfresh hst hnonneg).congr hp hr hc
  | finalize row p args cost receipt reason hrow hst hpolicy _ hover hreceipt hfresh hp hr hc =>
    exact (hb.finalize hrow hst hpolicy hover hreceipt hfresh).congr hp hr hc
  | reconcile row st reason hrow hp hr hc =>
    exact ((hb.reconcile row.id st).pausedIf row.policyId reason).congr hp hr hc

/-! ## Paused policies -/

/-- The ids of the reservations of a policy, in the order they were made. -/
def Store.reservationsOf (s : Store) (policyId : String) : List String :=
  (s.reservations.filter (fun r => decide (r.policyId = policyId))).map (·.id)

/-- An update that keeps id and policy keeps the reservations of every policy. -/
theorem reservationsOf_setReservation (s : Store) (id policyId : String) {u : Reservation → Reservation}
    (hid : ∀ r, (u r).id = r.id) (hp : ∀ r, (u r).policyId = r.policyId) :
    (s.setReservation id u).reservationsOf policyId = s.reservationsOf policyId := by
  have hcols : (updateKey (·.id) id u s.reservations).map (fun r => (r.policyId, r.id)) =
      s.reservations.map (fun r => (r.policyId, r.id)) := map_updateKey _ (fun r => by rw [hid, hp]) _
  have hof (rs : List Reservation) : (rs.filter (fun r => decide (r.policyId = policyId))).map (·.id) =
      ((rs.map (fun r => (r.policyId, r.id))).filter (fun c => decide (c.1 = policyId))).map Prod.snd := by
    rw [List.filter_map, List.map_map]
    rfl
  unfold Store.reservationsOf Store.setReservation
  rw [hof, hcols, ← hof]

/-- A policy that is paused. -/
def Store.Paused (s : Store) (policyId : String) : Prop := ∃ p ∈ s.policies, p.id = policyId ∧ p.status = .paused

/-- An update that keeps ids and does not set a policy active keeps the paused ones. -/
theorem Store.Paused.setPolicy {policyId : String} (h : s.Paused policyId) (id : String) {u : Policy → Policy}
    (hid : ∀ p, (u p).id = p.id) (hst : ∀ p, p.status = .paused → (u p).status = .paused) :
    (s.setPolicy id u).Paused policyId := by
  obtain ⟨p, hp, hpid, hpaused⟩ := h
  by_cases hk : p.id = id
  · exact ⟨u p, mem_updateKey.2 (Or.inl ⟨p, hp, hk, rfl⟩), (hid p).trans hpid, hst p hpaused⟩
  · exact ⟨p, mem_updateKey.2 (Or.inr ⟨hp, hk⟩), hpid, hpaused⟩

/-- No change sets a paused policy active. -/
theorem Change.paused (h : Change s s') {policyId : String} (hpaused : s.Paused policyId) : s'.Paused policyId := by
  cases h with
  | quiet hp _ _ =>
    unfold Store.Paused
    rw [hp]
    exact hpaused
  | create p _ _ _ _ _ hp _ _ =>
    obtain ⟨q, hq, hst⟩ := hpaused
    exact ⟨q, hp ▸ List.mem_append_left _ hq, hst⟩
  | stop id reason hp _ _ =>
    have hset := hpaused.setPolicy id (u := (·.pause reason)) (fun _ => rfl) (fun _ _ => rfl)
    unfold Store.Paused
    rw [hp]
    exact hset
  | reserve r p _ _ _ _ _ _ _ hp _ _ =>
    have hset := hpaused.setPolicy r.policyId
      (u := fun p => { p with reservedMicrousd := p.reservedMicrousd + r.reservedMicrousd }) (fun _ => rfl) (fun _ h => h)
    unfold Store.Paused
    rw [hp]
    exact hset
  | finalize row p args cost receipt reason _ _ _ _ _ _ _ hp _ _ =>
    have hset := hpaused.setPolicy row.policyId (u := fun p => (p.charge row.reservedMicrousd cost).pausedIf reason)
      (fun p => charge_id p _ _ _) (fun p h => pausedIf_paused reason h)
    unfold Store.Paused
    rw [hp]
    exact hset
  | reconcile row st reason _ hp _ _ =>
    have hset := hpaused.setPolicy row.policyId (u := (·.pausedIf reason)) (fun p => pausedIf_id p reason)
      (fun p h => pausedIf_paused reason h)
    unfold Store.Paused
    rw [hp]
    exact hset

/-- No change gives a paused policy a reservation. -/
theorem Change.reservationsOf (h : Change s s') (hb : Budget s) {policyId : String} (hpaused : s.Paused policyId) :
    s'.reservationsOf policyId = s.reservationsOf policyId := by
  cases h with
  | quiet _ hr _ => rw [Store.reservationsOf, hr, Store.reservationsOf]
  | create _ _ _ _ _ _ _ hr _ => rw [Store.reservationsOf, hr, Store.reservationsOf]
  | stop _ _ _ hr _ => rw [Store.reservationsOf, hr, Store.reservationsOf]
  | reserve r p hp hactive _ _ _ _ _ _ hr _ =>
    obtain ⟨q, hq, hqid, hst⟩ := hpaused
    have hne : r.policyId ≠ policyId := by
      intro he
      have hfind : s.policy r.policyId = some q := he ▸ hqid ▸ find?_key hb.policyIds hq
      obtain rfl : p = q := Option.some.inj (hp.symm.trans hfind)
      rw [hactive] at hst
      cases hst
    rw [Store.reservationsOf, hr, Store.reservationsOf]
    simp [hne]
  | finalize row p args cost receipt reason _ _ _ _ _ _ _ _ hr _ =>
    have hset := reservationsOf_setReservation s row.id policyId (u := (·.finalize args cost receipt.id)) (fun _ => rfl)
      (fun _ => rfl)
    rw [Store.reservationsOf, hr]
    exact hset
  | reconcile row st reason _ _ hr _ =>
    have hset := reservationsOf_setReservation s row.id policyId (u := fun r => { r with reconciliationStatus := st })
      (fun _ => rfl) (fun _ => rfl)
    rw [Store.reservationsOf, hr]
    exact hset

/-! ## Runs -/

/-- What every change keeps holds after any operations. -/
theorem Store.after_inv {P : Store → Prop} (hstep : ∀ s s', Change s s' → P s → P s') (hs : P s) (cs : List StoreCall) :
    P (s.after cs) := by
  unfold Store.after
  induction cs generalizing s with
  | nil => exact hs
  | cons c cs ih => exact ih (hstep s _ (c.leaves_change s) hs)

/-- The invariant holds in every reachable store. -/
theorem budget_after (cs : List StoreCall) : Budget (Store.empty.after cs) :=
  Store.after_inv (fun _ _ h => h.budget) budget_empty cs

/-- A paused policy stays paused and gains no reservation. -/
theorem Budget.paused_after (hb : Budget s) {policyId : String} (hpaused : s.Paused policyId) (cs : List StoreCall) :
    (s.after cs).Paused policyId ∧ (s.after cs).reservationsOf policyId = s.reservationsOf policyId := by
  have hinv := Store.after_inv (s := s)
    (P := fun t => Budget t ∧ t.Paused policyId ∧ t.reservationsOf policyId = s.reservationsOf policyId)
    (fun t t' h ht => ⟨h.budget ht.1, h.paused ht.2.1, (h.reservationsOf ht.1 ht.2.1).trans ht.2.2⟩) ⟨hb, hpaused, rfl⟩ cs
  exact hinv.2

end

end TokenSpend

end Archisynapse
