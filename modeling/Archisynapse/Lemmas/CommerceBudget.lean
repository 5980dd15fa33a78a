import Archisynapse.Lemmas.CommerceStore
import Mathlib.Data.List.Nodup

/-!
# The budget invariant of the store

`Budget` ties the counters of an authorization to its reservations and receipts. It is kept by each kind of change an operation
makes: a new authorization, a status, a new reservation, a reservation that moves on, a release, a receipt.
-/

namespace Archisynapse

namespace Commerce

/-! ## Sums -/

/-- What the open reservations of an authorization hold. -/
def openSum (rs : List Reservation) (authorizationId : String) : Int :=
  sumWhere (fun r => decide (r.authorizationId = authorizationId) && r.status.isOpen) (·.reservedSats) rs

/-- How many reservations of an authorization are open. -/
def openCount (rs : List Reservation) (authorizationId : String) : Int :=
  sumWhere (fun r => decide (r.authorizationId = authorizationId) && r.status.isOpen) (fun _ => 1) rs

/-- What the receipts of an authorization debit. -/
def receiptSum (ps : List PaymentReceipt) (authorizationId : String) : Int :=
  sumWhere (fun p => decide (p.authorizationId = authorizationId)) (·.totalDebitSats) ps

/-- How many receipts an authorization has. -/
def receiptCount (ps : List PaymentReceipt) (authorizationId : String) : Int :=
  sumWhere (fun p => decide (p.authorizationId = authorizationId)) (fun _ => 1) ps

theorem Store.openReservations_length (s : Store) (authorizationId : String) :
    ((s.openReservations authorizationId).length : Int) = openCount s.reservations authorizationId :=
  (sumWhere_one _ _).symm

/-- What one reservation counts for. -/
def Reservation.held (r : Reservation) (authorizationId : String) : Int :=
  if decide (r.authorizationId = authorizationId) && r.status.isOpen then r.reservedSats else 0

/-- Whether one reservation counts. -/
def Reservation.counted (r : Reservation) (authorizationId : String) : Int :=
  if decide (r.authorizationId = authorizationId) && r.status.isOpen then 1 else 0

theorem openSum_append (rs : List Reservation) (r : Reservation) (x : String) :
    openSum (rs ++ [r]) x = openSum rs x + r.held x := by
  simp [openSum, Reservation.held]

theorem openCount_append (rs : List Reservation) (r : Reservation) (x : String) :
    openCount (rs ++ [r]) x = openCount rs x + r.counted x := by
  simp [openCount, Reservation.counted]

theorem openSum_updateKey {rs : List Reservation} (hnd : (rs.map (·.id)).Nodup) {r : Reservation} (hr : r ∈ rs)
    (u : Reservation → Reservation) (x : String) :
    openSum (updateKey (·.id) r.id u rs) x = openSum rs x - r.held x + (u r).held x :=
  sumWhere_updateKey _ _ _ _ u hnd hr rfl

theorem openCount_updateKey {rs : List Reservation} (hnd : (rs.map (·.id)).Nodup) {r : Reservation} (hr : r ∈ rs)
    (u : Reservation → Reservation) (x : String) :
    openCount (updateKey (·.id) r.id u rs) x = openCount rs x - r.counted x + (u r).counted x :=
  sumWhere_updateKey _ _ _ _ u hnd hr rfl

/-! ## The invariant -/

/-- The counters of one authorization. -/
structure Counters (s : Store) (a : Authorization) : Prop where
  reserved : a.reservedSats = openSum s.reservations a.id
  spent : a.spentSats = receiptSum s.receipts a.id
  calls : a.callCount = receiptCount s.receipts a.id
  total : a.spentSats + a.reservedSats ≤ a.maxTotalSats
  limit : a.callCount + openCount s.reservations a.id ≤ a.maxCalls

/-- The budget invariant. -/
structure Budget (s : Store) : Prop where
  authorizationIds : (s.authorizations.map (·.id)).Nodup
  reservationIds : (s.reservations.map (·.id)).Nodup
  authorization : ∀ r ∈ s.reservations, ∃ a ∈ s.authorizations, a.id = r.authorizationId
  positive : ∀ r ∈ s.reservations, 0 < r.reservedSats
  notFailed : ∀ r ∈ s.reservations, r.status ≠ .failed
  counters : ∀ a ∈ s.authorizations, Counters s a
  finalized : ∀ r ∈ s.reservations, r.status = .finalized ↔ ∃ p ∈ s.receipts, p.reservationId = r.id
  receipt : ∀ p ∈ s.receipts, ∃ r ∈ s.reservations, r.id = p.reservationId ∧ r.authorizationId = p.authorizationId
  receiptIds : (s.receipts.map (·.reservationId)).Nodup

theorem budget_empty : Budget .empty := by
  constructor <;> simp [Store.empty]

section

variable {s : Store}

theorem Budget.authorization_eq (h : Budget s) {a : Authorization} (ha : a ∈ s.authorizations) :
    s.authorization a.id = some a :=
  find?_key h.authorizationIds ha

theorem Budget.reservation_eq (h : Budget s) {r : Reservation} (hr : r ∈ s.reservations) : s.reservation r.id = some r :=
  find?_key h.reservationIds hr

/-- A reservation that has a receipt is not open. -/
theorem Budget.noReceipt (h : Budget s) {r : Reservation} (hr : r ∈ s.reservations) (hst : r.status ≠ .finalized) :
    ∀ p ∈ s.receipts, p.reservationId ≠ r.id :=
  fun p hp he => hst ((h.finalized r hr).2 ⟨p, hp, he⟩)

/-- A new authorization. -/
theorem Budget.addAuthorization (h : Budget s) {a : Authorization} (hid : ∀ b ∈ s.authorizations, b.id ≠ a.id)
    (hr : a.reservedSats = 0) (hs : a.spentSats = 0) (hc : a.callCount = 0) (ht : 0 < a.maxTotalSats)
    (hm : 0 < a.maxCalls) : Budget { s with authorizations := s.authorizations ++ [a] } := by
  -- nothing refers to it yet
  have hno : ∀ r ∈ s.reservations, r.authorizationId ≠ a.id := by
    intro r hr he
    obtain ⟨b, hb, hbid⟩ := h.authorization r hr
    exact hid b hb (hbid.trans he)
  have hnop : ∀ p ∈ s.receipts, p.authorizationId ≠ a.id := by
    intro p hp he
    obtain ⟨r, hr, -, hra⟩ := h.receipt p hp
    exact hno r hr (hra.trans he)
  have hsum : openSum s.reservations a.id = 0 := by
    refine sumWhere_eq_zero (fun r hr hp => ?_)
    rw [Bool.and_eq_true, decide_eq_true_eq] at hp
    exact absurd hp.1 (hno r hr)
  have hcount : openCount s.reservations a.id = 0 := by
    refine sumWhere_eq_zero (fun r hr hp => ?_)
    rw [Bool.and_eq_true, decide_eq_true_eq] at hp
    exact absurd hp.1 (hno r hr)
  have hrsum : receiptSum s.receipts a.id = 0 :=
    sumWhere_eq_zero (fun p hp hpa => absurd (of_decide_eq_true hpa) (hnop p hp))
  have hrcount : receiptCount s.receipts a.id = 0 :=
    sumWhere_eq_zero (fun p hp hpa => absurd (of_decide_eq_true hpa) (hnop p hp))
  refine ⟨?_, h.reservationIds, ?_, h.positive, h.notFailed, ?_, h.finalized, h.receipt, h.receiptIds⟩
  · exact nodup_map_concat h.authorizationIds hid
  · intro r hr
    obtain ⟨b, hb, hbid⟩ := h.authorization r hr
    exact ⟨b, List.mem_append_left _ hb, hbid⟩
  · intro b hb
    rcases List.mem_append.1 hb with hb | hb
    · have hcs := h.counters b hb
      exact ⟨hcs.reserved, hcs.spent, hcs.calls, hcs.total, hcs.limit⟩
    · obtain rfl := List.mem_singleton.1 hb
      exact ⟨hr.trans hsum.symm, hs.trans hrsum.symm, hc.trans hrcount.symm, by simp only [hr, hs]; omega,
        by simp only [hc, hcount]; omega⟩

/-- The ids of updated authorizations. -/
theorem Store.setAuthorization_ids (s : Store) (id : String) {u : Authorization → Authorization} (hu : ∀ a, (u a).id = a.id) :
    (s.setAuthorization id u).authorizations.map (·.id) = s.authorizations.map (·.id) :=
  map_updateKey _ hu _

/-- The ids of updated reservations. -/
theorem Store.setReservation_ids (s : Store) (id : String) {u : Reservation → Reservation} (hu : ∀ r, (u r).id = r.id) :
    (s.setReservation id u).reservations.map (·.id) = s.reservations.map (·.id) :=
  map_updateKey _ hu _

/-- A change of an authorization that leaves its counters and limits alone. -/
theorem Budget.setStatus (h : Budget s) (id : String) {u : Authorization → Authorization} (hid : ∀ a, (u a).id = a.id)
    (hu : ∀ a, Counters s a → Counters s (u a)) : Budget (s.setAuthorization id u) := by
  refine ⟨?_, h.reservationIds, ?_, h.positive, h.notFailed, ?_, h.finalized, h.receipt, h.receiptIds⟩
  · rw [s.setAuthorization_ids id hid]
    exact h.authorizationIds
  · intro r hr
    have hmem : r.authorizationId ∈ s.authorizations.map (·.id) := by
      obtain ⟨a, ha, hae⟩ := h.authorization r hr
      exact List.mem_map.2 ⟨a, ha, hae⟩
    rw [← s.setAuthorization_ids id hid] at hmem
    exact List.mem_map.1 hmem
  · intro a ha
    rcases mem_updateKey.1 ha with ⟨b, hb, -, rfl⟩ | ⟨ha, -⟩
    · have hc := hu b (h.counters b hb)
      exact ⟨hc.reserved, hc.spent, hc.calls, hc.total, hc.limit⟩
    · have hc := h.counters a ha
      exact ⟨hc.reserved, hc.spent, hc.calls, hc.total, hc.limit⟩

/-- A new reservation that the limits of its authorization leave room for. -/
theorem Budget.addReservation (h : Budget s) {r : Reservation} {a : Authorization}
    (ha : s.authorization r.authorizationId = some a) (hid : ∀ b ∈ s.reservations, b.id ≠ r.id) (hst : r.status = .reserved)
    (hpos : 0 < r.reservedSats) (hcalls : a.callCount + ((s.openReservations r.authorizationId).length : Int) < a.maxCalls)
    (htotal : a.spentSats + a.reservedSats + r.reservedSats ≤ a.maxTotalSats) :
    Budget ({ s with reservations := s.reservations ++ [r] }.setAuthorization r.authorizationId
      (fun a => { a with reservedSats := a.reservedSats + r.reservedSats })) := by
  obtain ⟨ham, haid⟩ := Store.authorization_eq_some ha
  rw [s.openReservations_length] at hcalls
  have hids := Store.setAuthorization_ids { s with reservations := s.reservations ++ [r] } r.authorizationId
    (u := fun a => { a with reservedSats := a.reservedSats + r.reservedSats }) (fun _ => rfl)
  have hheld : r.held r.authorizationId = r.reservedSats := by simp [Reservation.held, hst, ReservationStatus.isOpen]
  have hcounted : r.counted r.authorizationId = 1 := by simp [Reservation.counted, hst, ReservationStatus.isOpen]
  refine ⟨?_, ?_, ?_, ?_, ?_, ?_, ?_, ?_, h.receiptIds⟩
  · rw [hids]
    exact h.authorizationIds
  · exact nodup_map_concat h.reservationIds hid
  · intro q hq
    have hmem : q.authorizationId ∈ s.authorizations.map (·.id) := by
      rcases List.mem_append.1 hq with hq | hq
      · obtain ⟨b, hb, hbe⟩ := h.authorization q hq
        exact List.mem_map.2 ⟨b, hb, hbe⟩
      · rw [List.mem_singleton.1 hq]
        exact List.mem_map.2 ⟨a, ham, haid⟩
    rw [← hids] at hmem
    exact List.mem_map.1 hmem
  · intro q hq
    rcases List.mem_append.1 hq with hq | hq
    · exact h.positive q hq
    · rw [List.mem_singleton.1 hq]
      exact hpos
  · intro q hq
    rcases List.mem_append.1 hq with hq | hq
    · exact h.notFailed q hq
    · rw [List.mem_singleton.1 hq, hst]
      exact ReservationStatus.noConfusion
  · intro b hb
    have hres : (Store.setAuthorization { s with reservations := s.reservations ++ [r] } r.authorizationId
        (fun a => { a with reservedSats := a.reservedSats + r.reservedSats })).reservations = s.reservations ++ [r] := rfl
    rcases mem_updateKey.1 hb with ⟨c, hc, hcid, rfl⟩ | ⟨hb, hne⟩
    · obtain rfl : c = a := List.inj_on_of_nodup_map h.authorizationIds hc ham (hcid.trans haid.symm)
      have hcs := h.counters c hc
      refine ⟨?_, hcs.spent, hcs.calls, ?_, ?_⟩
      · rw [hres, openSum_append]
        simp only [hcid, hheld]
        rw [hcs.reserved, hcid]
      · simp only
        omega
      · rw [hres, openCount_append]
        simp only [hcid, hcounted]
        omega
    · have hcs := h.counters b hb
      have hheld' : r.held b.id = 0 := by simp [Reservation.held, Ne.symm hne]
      have hcounted' : r.counted b.id = 0 := by simp [Reservation.counted, Ne.symm hne]
      refine ⟨?_, hcs.spent, hcs.calls, hcs.total, ?_⟩
      · rw [hres, openSum_append, hheld', hcs.reserved, Int.add_zero]
      · rw [hres, openCount_append, hcounted', Int.add_zero]
        exact hcs.limit
  · intro q hq
    rcases List.mem_append.1 hq with hq | hq
    · exact h.finalized q hq
    · rw [List.mem_singleton.1 hq, hst]
      constructor
      · exact ReservationStatus.noConfusion
      · rintro ⟨p, hp, hpe⟩
        obtain ⟨b, hb, hbe, -⟩ := h.receipt p hp
        exact absurd (hbe.trans hpe) (hid b hb)
  · intro p hp
    obtain ⟨b, hb, hbe⟩ := h.receipt p hp
    exact ⟨b, List.mem_append_left _ hb, hbe⟩

/-- A reservation that stays open keeps its id, its authorization and its amount. -/
theorem Budget.advance (h : Budget s) {r : Reservation} (hr : r ∈ s.reservations) {u : Reservation → Reservation}
    (hid : ∀ r, (u r).id = r.id) (hauth : (u r).authorizationId = r.authorizationId)
    (hsats : (u r).reservedSats = r.reservedSats) (hopen : r.status.isOpen = true) (hopen' : (u r).status.isOpen = true) :
    Budget (s.setReservation r.id u) := by
  have hmem {q : Reservation} (hq : q ∈ (s.setReservation r.id u).reservations) : q = u r ∨ q ∈ s.reservations := by
    rcases (mem_updateKey_row h.reservationIds hr).1 hq with hq | ⟨hq, -⟩
    · exact Or.inl hq
    · exact Or.inr hq
  have hheld (x : String) : (u r).held x = r.held x := by simp [Reservation.held, hauth, hsats, hopen, hopen']
  have hcounted (x : String) : (u r).counted x = r.counted x := by simp [Reservation.counted, hauth, hopen, hopen']
  refine ⟨h.authorizationIds, ?_, ?_, ?_, ?_, ?_, ?_, ?_, h.receiptIds⟩
  · rw [s.setReservation_ids r.id hid]
    exact h.reservationIds
  · intro q hq
    rcases hmem hq with rfl | hq
    · rw [hauth]
      exact h.authorization r hr
    · exact h.authorization q hq
  · intro q hq
    rcases hmem hq with rfl | hq
    · rw [hsats]
      exact h.positive r hr
    · exact h.positive q hq
  · intro q hq
    rcases hmem hq with rfl | hq
    · rintro hf
      rw [hf] at hopen'
      cases hopen'
    · exact h.notFailed q hq
  · intro a ha
    have hc := h.counters a ha
    refine ⟨?_, hc.spent, hc.calls, hc.total, ?_⟩
    · rw [hc.reserved, Store.setReservation, openSum_updateKey h.reservationIds hr, hheld]
      omega
    · rw [Store.setReservation, openCount_updateKey h.reservationIds hr, hcounted]
      have := hc.limit
      omega
  · intro q hq
    rcases hmem hq with rfl | hq
    · -- neither state is `finalized`, and there is no receipt
      have hne : r.status ≠ .finalized := by
        rintro hf
        rw [hf] at hopen
        cases hopen
      rw [hid]
      refine ⟨fun hf => ?_, fun hp => absurd ((h.finalized r hr).2 hp) hne⟩
      rw [hf] at hopen'
      cases hopen'
    · exact h.finalized q hq
  · intro p hp
    obtain ⟨q, hq, hqp, hqa⟩ := h.receipt p hp
    by_cases he : q.id = r.id
    · obtain rfl := List.inj_on_of_nodup_map h.reservationIds hq hr he
      exact ⟨u q, (mem_updateKey_row h.reservationIds hr).2 (Or.inl rfl), (hid q).trans hqp, hauth.trans hqa⟩
    · exact ⟨q, (mem_updateKey_row h.reservationIds hr).2 (Or.inr ⟨hq, he⟩), hqp, hqa⟩

/-- A reservation is closed, without a receipt or with one: its amount is no longer reserved, and the debit is spent. -/
theorem Budget.close (h : Budget s) {r : Reservation} (hr : r ∈ s.reservations) (hopen : r.status.isOpen = true)
    {u : Reservation → Reservation} (hid : ∀ r, (u r).id = r.id) (hauth : (u r).authorizationId = r.authorizationId)
    (hsats : (u r).reservedSats = r.reservedSats) (o : Option PaymentReceipt)
    (hst : (u r).status = if o.isSome then .finalized else .released)
    (ho : ∀ p ∈ o, p.reservationId = r.id ∧ p.authorizationId = r.authorizationId ∧ p.totalDebitSats ≤ r.reservedSats)
    {v : Authorization → Authorization} (hvid : ∀ a, (v a).id = a.id)
    (hv : ∀ a, (v a).reservedSats = a.reservedSats - r.reservedSats ∧
      (v a).spentSats = a.spentSats + o.elim 0 (·.totalDebitSats) ∧ (v a).callCount = a.callCount + o.elim 0 (fun _ => 1) ∧
      (v a).maxTotalSats = a.maxTotalSats ∧ (v a).maxCalls = a.maxCalls) :
    Budget (({ s with receipts := s.receipts ++ o.toList }.setAuthorization r.authorizationId v).setReservation r.id u) := by
  have hclosed : (u r).status.isOpen = false := by
    rw [hst]
    cases o <;> rfl
  have hnf : r.status ≠ .finalized := by
    intro hf
    rw [hf] at hopen
    cases hopen
  obtain ⟨a, ha, haid⟩ := h.authorization r hr
  have hauths {b : Authorization} (hb : b ∈ updateKey (·.id) r.authorizationId v s.authorizations) :
      b = v a ∨ (b ∈ s.authorizations ∧ b.id ≠ r.authorizationId) := by
    rw [← haid] at hb ⊢
    exact (mem_updateKey_row h.authorizationIds ha).1 hb
  have hmem {q : Reservation} (hq : q ∈ updateKey (·.id) r.id u s.reservations) :
      q = u r ∨ (q ∈ s.reservations ∧ q.id ≠ r.id) := (mem_updateKey_row h.reservationIds hr).1 hq
  have hsum (x : String) : receiptSum (s.receipts ++ o.toList) x =
      receiptSum s.receipts x + if r.authorizationId = x then o.elim 0 (·.totalDebitSats) else 0 := by
    cases o with
    | none => simp [receiptSum]
    | some p => simp [receiptSum, (ho p rfl).2.1]
  have hcount (x : String) : receiptCount (s.receipts ++ o.toList) x =
      receiptCount s.receipts x + if r.authorizationId = x then o.elim 0 (fun _ => 1) else 0 := by
    cases o with
    | none => simp [receiptCount]
    | some p => simp [receiptCount, (ho p rfl).2.1]
  have hdebit : o.elim 0 (·.totalDebitSats) ≤ r.reservedSats := by
    cases o with
    | none => exact (h.positive r hr).le
    | some p => exact (ho p rfl).2.2
  have hone : o.elim (0 : Int) (fun _ => 1) ≤ 1 := by
    cases o <;> simp
  have hheld (x : String) : (u r).held x = 0 := by simp [Reservation.held, hclosed]
  have hcounted (x : String) : (u r).counted x = 0 := by simp [Reservation.counted, hclosed]
  refine ⟨?_, ?_, ?_, ?_, ?_, ?_, ?_, ?_, ?_⟩
  · exact (s.setAuthorization_ids r.authorizationId hvid).symm ▸ h.authorizationIds
  · exact (s.setReservation_ids r.id hid).symm ▸ h.reservationIds
  · intro q hq
    have hex : ∃ b ∈ s.authorizations, b.id = q.authorizationId := by
      rcases hmem hq with rfl | ⟨hq, -⟩
      · rw [hauth]
        exact h.authorization r hr
      · exact h.authorization q hq
    rw [← List.mem_map, ← s.setAuthorization_ids r.authorizationId hvid, List.mem_map] at hex
    exact hex
  · intro q hq
    rcases hmem hq with rfl | ⟨hq, -⟩
    · rw [hsats]
      exact h.positive r hr
    · exact h.positive q hq
  · intro q hq
    rcases hmem hq with rfl | ⟨hq, -⟩
    · rw [hst]
      cases o <;> exact ReservationStatus.noConfusion
    · exact h.notFailed q hq
  · intro b hb
    rcases hauths hb with rfl | ⟨hb, hne⟩
    · have hc := h.counters a ha
      obtain ⟨hv₁, hv₂, hv₃, hv₄, hv₅⟩ := hv a
      have hheldr : r.held a.id = r.reservedSats := by simp [Reservation.held, haid, hopen]
      have hcountedr : r.counted a.id = 1 := by simp [Reservation.counted, haid, hopen]
      refine ⟨?_, ?_, ?_, ?_, ?_⟩
      · rw [hv₁, hc.reserved, hvid]
        refine Eq.trans ?_ (openSum_updateKey h.reservationIds hr u a.id).symm
        rw [hheld, hheldr]
        omega
      · rw [hv₂, hc.spent, hvid]
        refine Eq.trans ?_ (hsum a.id).symm
        rw [if_pos haid.symm]
      · rw [hv₃, hc.calls, hvid]
        refine Eq.trans ?_ (hcount a.id).symm
        rw [if_pos haid.symm]
      · rw [hv₁, hv₂, hv₄]
        have := hc.total
        omega
      · rw [hv₃, hv₅, hvid]
        have hcnt := openCount_updateKey h.reservationIds hr u a.id
        rw [hcounted, hcountedr] at hcnt
        have := hc.limit
        change _ + openCount (updateKey (·.id) r.id u s.reservations) a.id ≤ _
        omega
    · have hc := h.counters b hb
      have hheldr : r.held b.id = 0 := by simp [Reservation.held, hne.symm]
      have hcountedr : r.counted b.id = 0 := by simp [Reservation.counted, hne.symm]
      refine ⟨?_, ?_, ?_, hc.total, ?_⟩
      · refine hc.reserved.trans (Eq.trans ?_ (openSum_updateKey h.reservationIds hr u b.id).symm)
        rw [hheld, hheldr]
        omega
      · refine hc.spent.trans (Eq.trans ?_ (hsum b.id).symm)
        rw [if_neg hne.symm, Int.add_zero]
      · refine hc.calls.trans (Eq.trans ?_ (hcount b.id).symm)
        rw [if_neg hne.symm, Int.add_zero]
      · have hcnt := openCount_updateKey h.reservationIds hr u b.id
        rw [hcounted, hcountedr] at hcnt
        have := hc.limit
        change _ + openCount (updateKey (·.id) r.id u s.reservations) b.id ≤ _
        omega
  · intro q hq
    rcases hmem hq with rfl | ⟨hq, hne⟩
    · rw [hst, hid]
      cases o with
      | none =>
        constructor
        · exact ReservationStatus.noConfusion
        rintro ⟨p, hp, hpr⟩
        simp only [Option.toList_none, List.append_nil, Store.setReservation, Store.setAuthorization] at hp
        exact absurd hpr (h.noReceipt hr hnf p hp)
      | some p => exact ⟨fun _ => ⟨p, List.mem_append_right _ (by simp), (ho p rfl).1⟩, fun _ => rfl⟩
    · rw [h.finalized q hq]
      constructor
      · rintro ⟨p, hp, hpq⟩
        exact ⟨p, List.mem_append_left _ hp, hpq⟩
      · rintro ⟨p, hp, hpq⟩
        rcases List.mem_append.1 hp with hp | hp
        · exact ⟨p, hp, hpq⟩
        · exact absurd (hpq.symm.trans (ho p (by simpa using hp)).1) hne
  · intro p hp
    rcases List.mem_append.1 hp with hp | hp
    · obtain ⟨q, hq, hqp, hqa⟩ := h.receipt p hp
      by_cases he : q.id = r.id
      · exact absurd (hqp.symm.trans he) (h.noReceipt hr hnf p hp)
      · exact ⟨q, (mem_updateKey_row h.reservationIds hr).2 (Or.inr ⟨hq, he⟩), hqp, hqa⟩
    · obtain ⟨hpr, hpa, -⟩ := ho p (by simpa using hp)
      exact ⟨u r, (mem_updateKey_row h.reservationIds hr).2 (Or.inl rfl), (hid r).trans hpr.symm, hauth.trans hpa.symm⟩
  · change ((s.receipts ++ o.toList).map (·.reservationId)).Nodup
    cases o with
    | none => simpa using h.receiptIds
    | some p =>
      refine nodup_map_concat h.receiptIds (fun q hq => ?_)
      rw [(ho p rfl).1]
      exact h.noReceipt hr hnf q hq

end

end Commerce

end Archisynapse
