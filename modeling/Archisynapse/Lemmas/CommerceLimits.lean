import Archisynapse.Lemmas.CommerceRecovery
import Archisynapse.Lemmas.CommerceSessions

/-!
# Per-call ceilings

A reservation holds one amount, the sum of the two ceilings of its authorization, and a settlement is only compared with that sum.
What is settled stays as it is (`StoreCall.run_keepsSettled`), the ceilings of an authorization never change (`Change.ceilings`), and
`mark_paid` is the only operation that settles (`markPaid_rows`), so the ceilings are kept exactly while each settlement that fits
the sum also fits them (`StoreCall.Bounded`).
-/

namespace Archisynapse

namespace Commerce

/-! ## Settled reservations -/

/-- A reservation whose payment is settled. -/
def Reservation.Settled (r : Reservation) : Prop := r.status = .paid ∨ r.status = .finalized

/-- An authorization allows a call of an amount and a route fee. -/
def Authorization.Allows (a : Authorization) (invoiceSats routeFeeSats : Int) : Prop :=
  invoiceSats ≤ a.maxPerCallSats ∧ routeFeeSats ≤ a.maxRouteFeeSats

/-- Every settled reservation is within the two ceilings of its authorization. -/
def WithinLimits (s : Store) : Prop :=
  ∀ r ∈ s.reservations, r.Settled → ∃ a ∈ s.authorizations, a.id = r.authorizationId ∧
    ∃ invoiceSats routeFeeSats, r.invoiceSats = some invoiceSats ∧ r.routeFeeSats = some routeFeeSats ∧
      a.Allows invoiceSats routeFeeSats

/-- A settlement that fits what is reserved also fits the two ceilings. -/
def StoreCall.Bounded (s : Store) : StoreCall → Prop
  | .markPaid id args => ∀ row invoiceSats, s.reservation id = some row → row.status = .paymentInitiated →
      row.invoiceSats = some invoiceSats → 0 ≤ args.routeFeeSats → invoiceSats + args.routeFeeSats ≤ row.reservedSats →
      ∃ a ∈ s.authorizations, a.id = row.authorizationId ∧ a.Allows invoiceSats args.routeFeeSats
  | _ => True

/-- The settled reservations are those that were settled before, at the same amounts. -/
def KeepsSettled (s s' : Store) : Prop :=
  ∀ r' ∈ s'.reservations, r'.Settled → ∃ r ∈ s.reservations, r.Settled ∧ r.authorizationId = r'.authorizationId ∧
    r.invoiceSats = r'.invoiceSats ∧ r.routeFeeSats = r'.routeFeeSats

/-- The authorizations are there, with their ceilings. -/
def Ceilings (s s' : Store) : Prop :=
  ∀ a ∈ s.authorizations, ∃ a' ∈ s'.authorizations, a'.id = a.id ∧ a'.maxPerCallSats = a.maxPerCallSats ∧
    a'.maxRouteFeeSats = a.maxRouteFeeSats

section

variable {s s' : Store}

theorem keepsSettled_same (h : s'.reservations = s.reservations) : KeepsSettled s s' := by
  intro r hr hst
  rw [h] at hr
  exact ⟨r, hr, hst, rfl, rfl, rfl⟩

/-- Rows that are updated to one that is not settled. -/
theorem keepsSettled_set {k : String} {u : Reservation → Reservation} (h : s'.reservations = updateKey (·.id) k u s.reservations)
    (hu : ∀ r, ¬ (u r).Settled) : KeepsSettled s s' := by
  intro r' hr' hst
  rw [h] at hr'
  rcases mem_updateKey.1 hr' with ⟨r, -, -, rfl⟩ | ⟨hr, -⟩
  · exact absurd hst (hu r)
  · exact ⟨r', hr, hst, rfl, rfl, rfl⟩

/-- No change touches the ceilings of an authorization. -/
theorem Change.ceilings (h : Change s s') : Ceilings s s' := by
  have hset {u : Authorization → Authorization} (k : String) (hu : ∀ a, (u a).id = a.id ∧ (u a).maxPerCallSats = a.maxPerCallSats ∧
      (u a).maxRouteFeeSats = a.maxRouteFeeSats) {a : Authorization} (ha : a ∈ s.authorizations) :
      ∃ a' ∈ updateKey (·.id) k u s.authorizations, a'.id = a.id ∧ a'.maxPerCallSats = a.maxPerCallSats ∧
        a'.maxRouteFeeSats = a.maxRouteFeeSats := by
    by_cases hk : a.id = k
    · exact ⟨u a, mem_updateKey.2 (Or.inl ⟨a, ha, hk, rfl⟩), hu a⟩
    · exact ⟨a, mem_updateKey.2 (Or.inr ⟨ha, hk⟩), rfl, rfl, rfl⟩
  intro a ha
  cases h with
  | nothing => exact ⟨a, ha, rfl, rfl, rfl⟩
  | create b => exact ⟨a, List.mem_append_left _ ha, rfl, rfl, rfl⟩
  | revoke id =>
    refine hset id ?_ ha
    exact fun _ => ⟨rfl, rfl, rfl⟩
  | reserve r =>
    refine hset r.authorizationId ?_ ha
    exact fun _ => ⟨rfl, rfl, rfl⟩
  | bind => exact ⟨a, ha, rfl, rfl, rfl⟩
  | initiate => exact ⟨a, ha, rfl, rfl, rfl⟩
  | settle => exact ⟨a, ha, rfl, rfl, rfl⟩
  | release row =>
    refine hset row.authorizationId ?_ ha
    exact fun _ => ⟨rfl, rfl, rfl⟩
  | finalize row uuid args =>
    exact hset (u := (·.charge row.reservedSats args.totalDebit)) args.reservation.authorizationId (fun _ => ⟨rfl, rfl, rfl⟩) ha

/-! ## Operations -/

theorem reserve_keepsSettled {now : Int} {uuid : String} {tolerance : Int → Option Int} {args : ReserveArgs} {r : Reservation}
    (h : reserve now uuid tolerance args s = (.ok r, s')) : KeepsSettled s s' := by
  rcases reserve_ok h with ⟨rfl, -, -, -⟩ | ⟨a, -, -, -, -, -, -, hst, -, -, -, -, -, rfl⟩
  · exact keepsSettled_same rfl
  · intro r' hr' hsettled
    rcases List.mem_append.1 hr' with hr' | hr'
    · exact ⟨r', hr', hsettled, rfl, rfl, rfl⟩
    · -- the new reservation is reserved
      obtain rfl := List.mem_singleton.1 hr'
      rcases hsettled with hsettled | hsettled <;> rw [hst] at hsettled <;> cases hsettled

theorem release_keepsSettled {id : String} {r : Reservation} (h : release id s = (.ok r, s')) : KeepsSettled s s' := by
  obtain ⟨row, -, ⟨rfl, -, -⟩ | ⟨-, -, -, -, rfl⟩⟩ := release_ok h
  · exact keepsSettled_same rfl
  · refine keepsSettled_set (u := fun r => { r with status := .released }) rfl ?_
    rintro r (hst | hst) <;> cases hst

/-- A finalized reservation was paid. -/
theorem finalizePaidCall_keepsSettled (hb : Budget s) {uuid : String} {verifies : PaymentReceipt → Bool} {args : FinalizeArgs}
    {p : PaymentReceipt} (h : finalizePaidCall uuid verifies args s = (.ok p, s')) : KeepsSettled s s' := by
  rcases (finalizePaidCall_ok h).2 with ⟨rfl, -, -⟩ | ⟨row, a, -, -, hrow, hst, -, -, rfl⟩
  · exact keepsSettled_same rfl
  · obtain ⟨hmem, hid⟩ := Store.reservation_eq_some hrow
    intro r' hr' hsettled
    rcases mem_updateKey.1 hr' with ⟨r, hr, hk, rfl⟩ | ⟨hr, -⟩
    · obtain rfl := List.inj_on_of_nodup_map hb.reservationIds hr hmem (hk.trans hid.symm)
      exact ⟨r, hr, Or.inl hst, rfl, rfl, rfl⟩
    · exact ⟨r', hr, hsettled, rfl, rfl, rfl⟩

/-- What `mark_paid` leaves: the settled reservations as they were, or one more whose amounts fit what was reserved. -/
theorem markPaid_rows (hb : Budget s) {id : String} {args : MarkPaidArgs} {r : Reservation}
    (h : markPaid id args s = (.ok r, s')) {r' : Reservation} (hr' : r' ∈ s'.reservations) (hst : r'.Settled) :
    (∃ q ∈ s.reservations, q.Settled ∧ q.authorizationId = r'.authorizationId ∧ q.invoiceSats = r'.invoiceSats ∧
      q.routeFeeSats = r'.routeFeeSats) ∨
    ∃ row invoiceSats, s.reservation id = some row ∧ row.status = .paymentInitiated ∧ row.invoiceSats = some invoiceSats ∧
      0 ≤ args.routeFeeSats ∧ invoiceSats + args.routeFeeSats ≤ row.reservedSats ∧ r' = row.settle args := by
  obtain ⟨hfee, row, hrow, ⟨-, rfl, -⟩ | ⟨hinit, -, n, hn, hfits, rfl⟩⟩ := markPaid_ok h
  · exact Or.inl ⟨r', hr', hst, rfl, rfl, rfl⟩
  · obtain ⟨hmem, hid⟩ := Store.reservation_eq_some hrow
    rcases mem_updateKey.1 hr' with ⟨q, hq, hk, rfl⟩ | ⟨hq, -⟩
    · obtain rfl := List.inj_on_of_nodup_map hb.reservationIds hq hmem (hk.trans hid.symm)
      exact Or.inr ⟨q, n, hrow, hinit, hn, hfee, hfits, rfl⟩
    · exact Or.inl ⟨r', hq, hst, rfl, rfl, rfl⟩

/-! ## One call -/

/-- Every other call keeps what is settled. -/
theorem StoreCall.run_keepsSettled {c : StoreCall} {rs : List Reservation} (hb : Budget s) (h : c.run s = (.ok rs, s'))
    (hc : ∀ id args, c ≠ .markPaid id args) : KeepsSettled s s' := by
  cases c with
  | create now uuid args =>
    obtain ⟨a, h₁, -⟩ := bind_pure_ok h
    obtain ⟨-, -, -, -, -, -, -, rfl⟩ := create_ok h₁
    exact keepsSettled_same rfl
  | revoke id =>
    obtain ⟨a, h₁, -⟩ := bind_pure_ok h
    rcases revoke_ok h₁ with rfl | rfl
    · exact keepsSettled_same rfl
    · exact keepsSettled_same rfl
  | reserve now uuid tolerance args =>
    obtain ⟨r, h₁, -⟩ := bind_pure_ok h
    exact reserve_keepsSettled h₁
  | getReservation id =>
    simp only [StoreCall.run, Exec.gets_eq_ok] at h
    obtain ⟨-, rfl⟩ := h
    exact keepsSettled_same rfl
  | bindInvoice id invoice =>
    obtain ⟨r, h₁, -⟩ := bind_pure_ok h
    obtain ⟨-, -, -, -, -, -, -, rfl⟩ := bindInvoice_ok h₁
    refine keepsSettled_set (u := (·.bind invoice)) rfl ?_
    rintro r (hst | hst) <;> cases hst
  | markPaymentInitiated id =>
    obtain ⟨r, h₁, -⟩ := bind_pure_ok h
    obtain ⟨-, -, -, -, rfl⟩ := markPaymentInitiated_ok h₁
    refine keepsSettled_set (u := fun r => { r with status := .paymentInitiated }) rfl ?_
    rintro r (hst | hst) <;> cases hst
  | markPaid id args => exact absurd rfl (hc id args)
  | release id =>
    obtain ⟨r, h₁, -⟩ := bind_pure_ok h
    exact release_keepsSettled h₁
  | finalizePaidCall uuid verifies args =>
    obtain ⟨p, h₁, -⟩ := bind_pure_ok h
    exact finalizePaidCall_keepsSettled hb h₁

/-- What was settled stays within the ceilings. -/
theorem WithinLimits.row (hl : WithinLimits s) (hceil : Ceilings s s') {r r' : Reservation} (hr : r ∈ s.reservations)
    (hst : r.Settled) (hauth : r.authorizationId = r'.authorizationId) (hinvoice : r.invoiceSats = r'.invoiceSats)
    (hfee : r.routeFeeSats = r'.routeFeeSats) :
    ∃ a ∈ s'.authorizations, a.id = r'.authorizationId ∧ ∃ invoiceSats routeFeeSats, r'.invoiceSats = some invoiceSats ∧
      r'.routeFeeSats = some routeFeeSats ∧ a.Allows invoiceSats routeFeeSats := by
  obtain ⟨a, ha, haid, n, fee, hn, hf, hcall, hroute⟩ := hl r hr hst
  obtain ⟨a', ha', haid', hmax, hmaxFee⟩ := hceil a ha
  refine ⟨a', ha', haid'.trans (haid.trans hauth), n, fee, hinvoice.symm.trans hn, hfee.symm.trans hf, ?_, ?_⟩
  · rw [hmax]
    exact hcall
  · rw [hmaxFee]
    exact hroute

/-- A call whose settlement is bounded keeps the ceilings. -/
theorem StoreCall.run_limits {c : StoreCall} {rs : List Reservation} (hb : Budget s) (hch : Change s s')
    (h : c.run s = (.ok rs, s')) (hc : c.Bounded s) (hl : WithinLimits s) : WithinLimits s' := by
  intro r' hr' hst
  by_cases hpaid : ∃ id args, c = .markPaid id args
  · obtain ⟨id, args, rfl⟩ := hpaid
    obtain ⟨r, h₁, -⟩ := bind_pure_ok h
    rcases markPaid_rows hb h₁ hr' hst with ⟨q, hq, hq', hauth, hinvoice, hfee⟩ | ⟨row, n, hrow, hinit, hn, hfee, hfits, rfl⟩
    · exact hl.row hch.ceilings hq hq' hauth hinvoice hfee
    · obtain ⟨a, ha, haid, hcall, hroute⟩ := hc row n hrow hinit hn hfee hfits
      obtain ⟨a', ha', haid', hmax, hmaxFee⟩ := hch.ceilings a ha
      refine ⟨a', ha', haid'.trans haid, n, args.routeFeeSats, hn, rfl, ?_, ?_⟩
      · rw [hmax]
        exact hcall
      · rw [hmaxFee]
        exact hroute
  · obtain ⟨r, hr, hr', hauth, hinvoice, hfee⟩ := c.run_keepsSettled hb h (fun id args he => hpaid ⟨id, args, he⟩) r' hr' hst
    exact hl.row hch.ceilings hr hr' hauth hinvoice hfee

/-- One operation of a session keeps the ceilings if its settlement is bounded. -/
theorem Session.Good.step_limits {σ : Session} (h : σ.Good) {c : StoreCall} (hc : c.Bounded σ.store)
    (hl : WithinLimits σ.store) : WithinLimits (σ.step c).store := by
  obtain ⟨hch, -⟩ := h.step c
  unfold Session.step at hch ⊢
  by_cases hhonest : c.honest σ.returned = true
  · rw [if_pos hhonest] at hch ⊢
    cases hr : c.run σ.store with
    | mk r s =>
      rw [hr] at hch
      cases r with
      | ok rs => exact c.run_limits h.budget hch hr hc hl
      | error e =>
        obtain rfl := c.run_rollsBack σ.store s e hr
        exact hl
  · rw [if_neg hhonest]
    exact hl

/-- A settlement that is taken and stays within the ceilings is bounded. -/
theorem Session.step_bounded {σ : Session} {c : StoreCall} (hl : WithinLimits (σ.step c).store) :
    c.Bounded σ.store := by
  cases c with
  | markPaid id args =>
    intro row n hrow hinit hn hfee hfits
    have hrun : (StoreCall.markPaid id args).run σ.store =
        (.ok [row.settle args], σ.store.setReservation id (·.settle args)) :=
      Exec.bind_ok (markPaid_settles args hrow hinit hn hfee hfits)
    have hstep : (σ.step (.markPaid id args)).store = σ.store.setReservation id (·.settle args) := by
      unfold Session.step
      rw [if_pos (show (StoreCall.markPaid id args).honest σ.returned = true from rfl), hrun]
    rw [hstep] at hl
    obtain ⟨hmem, hid⟩ := Store.reservation_eq_some hrow
    have hsettled : row.settle args ∈ (σ.store.setReservation id (·.settle args)).reservations :=
      mem_updateKey.2 (Or.inl ⟨row, hmem, hid, rfl⟩)
    obtain ⟨a, ha, haid, n', fee, hn', hf, hallows⟩ := hl _ hsettled (Or.inl rfl)
    obtain rfl := Option.some.inj (hn.symm.trans hn')
    obtain rfl := Option.some.inj (show some args.routeFeeSats = some fee from hf)
    exact ⟨a, ha, haid, hallows⟩
  | _ => exact trivial

end

end Commerce

end Archisynapse
