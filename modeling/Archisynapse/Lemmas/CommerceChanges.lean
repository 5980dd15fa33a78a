import Archisynapse.Lemmas.CommerceBudget

/-!
# What an operation can do to the store

`Change` says once what one operation can do: nothing, or one of eight changes with the checks that come before it. The
invariants of the store are proved by cases on it.
-/

namespace Archisynapse

namespace Commerce

/-- A change of the store by one operation. -/
inductive Change (s : Store) : Store → Prop where
  | nothing : Change s s
  | create (a : Authorization) (fresh : ∀ b ∈ s.authorizations, b.id ≠ a.id) (reserved : a.reservedSats = 0)
      (spent : a.spentSats = 0) (calls : a.callCount = 0) (total : 0 < a.maxTotalSats) (limit : 0 < a.maxCalls) :
      Change s { s with authorizations := s.authorizations ++ [a] }
  | revoke (id : String) :
      Change s (s.setAuthorization id (fun a => { a with status := .revoked, version := a.version + 1 }))
  | reserve (r : Reservation) (a : Authorization) (ha : s.authorization r.authorizationId = some a)
      (fresh : ∀ b ∈ s.reservations, b.id ≠ r.id) (status : r.status = .reserved) (positive : 0 < r.reservedSats)
      (calls : a.callCount + ((s.openReservations r.authorizationId).length : Int) < a.maxCalls)
      (total : a.spentSats + a.reservedSats + r.reservedSats ≤ a.maxTotalSats) :
      Change s ({ s with reservations := s.reservations ++ [r] }.setAuthorization r.authorizationId
        (fun a => { a with reservedSats := a.reservedSats + r.reservedSats }))
  | bind (row : Reservation) (invoice : DecodedInvoice) (hrow : row ∈ s.reservations)
      (status : row.status = .reserved ∨ row.status = .invoiceBound) (positive : 0 < invoice.amountSats)
      (hash : invoice.paymentHash ≠ "") (fits : invoice.amountSats ≤ row.reservedSats) :
      Change s (s.setReservation row.id (·.bind invoice))
  | initiate (row : Reservation) (hrow : row ∈ s.reservations) (status : row.status = .invoiceBound) :
      Change s (s.setReservation row.id (fun r => { r with status := .paymentInitiated }))
  | settle (row : Reservation) (args : MarkPaidArgs) (n : Int) (hrow : row ∈ s.reservations)
      (status : row.status = .paymentInitiated) (invoice : row.invoiceSats = some n) (fee : 0 ≤ args.routeFeeSats)
      (fits : n + args.routeFeeSats ≤ row.reservedSats) : Change s (s.setReservation row.id (·.settle args))
  | release (row : Reservation) (hrow : row ∈ s.reservations) (notReleased : row.status ≠ .released)
      (notFinalized : row.status ≠ .finalized) (notPaid : row.status ≠ .paid) :
      Change s ((s.setAuthorization row.authorizationId (fun a =>
        { a with reservedSats := a.reservedSats - row.reservedSats })).setReservation row.id
          (fun r => { r with status := .released }))
  | finalize (row : Reservation) (uuid : String) (args : FinalizeArgs) (hrow : row ∈ s.reservations)
      (hid : args.reservation.id = row.id) (hauth : args.reservation.authorizationId = row.authorizationId)
      (status : row.status = .paid) (fits : args.totalDebit ≤ row.reservedSats) :
      Change s (s.finalize args uuid row.reservedSats)

section

variable {s s' : Store}

/-! ## Each operation makes one change -/

theorem create_change {now : Int} {uuid : String} {args : CreateArgs} {a : Authorization}
    (h : create now uuid args s = (.ok a, s')) : Change s s' := by
  obtain ⟨hid, -, hr, hs, hc, ht, hm, rfl⟩ := create_ok h
  exact .create a hid hr hs hc ht hm

theorem revoke_change {id : String} {a : Authorization} (h : revoke id s = (.ok a, s')) : Change s s' := by
  rcases revoke_ok h with rfl | rfl
  · exact .nothing
  · exact .revoke id

theorem reserve_change {now : Int} {uuid : String} {tolerance : Int → Option Int} {args : ReserveArgs} {r : Reservation}
    (h : reserve now uuid tolerance args s = (.ok r, s')) : Change s s' := by
  rcases reserve_ok h with ⟨rfl, -, -, -⟩ | ⟨a, ha, -, hid, -, -, -, hst, hpos, -, -, hcalls, htotal, rfl⟩
  · exact .nothing
  · exact .reserve r a ha hid hst hpos hcalls htotal

theorem bindInvoice_change {id : String} {invoice : DecodedInvoice} {r : Reservation}
    (h : bindInvoice id invoice s = (.ok r, s')) : Change s s' := by
  obtain ⟨row, hrow, hst, hpos, hhash, hfits, -, rfl⟩ := bindInvoice_ok h
  obtain ⟨hmem, rfl⟩ := Store.reservation_eq_some hrow
  exact .bind row invoice hmem hst hpos hhash hfits

theorem markPaymentInitiated_change {id : String} {r : Reservation} (h : markPaymentInitiated id s = (.ok r, s')) :
    Change s s' := by
  obtain ⟨row, hrow, hst, -, rfl⟩ := markPaymentInitiated_ok h
  obtain ⟨hmem, rfl⟩ := Store.reservation_eq_some hrow
  exact .initiate row hmem hst

theorem markPaid_change {id : String} {args : MarkPaidArgs} {r : Reservation} (h : markPaid id args s = (.ok r, s')) :
    Change s s' := by
  obtain ⟨hfee, row, hrow, h⟩ := markPaid_ok h
  obtain ⟨hmem, rfl⟩ := Store.reservation_eq_some hrow
  rcases h with ⟨-, rfl, -⟩ | ⟨hst, -, n, hn, hfits, rfl⟩
  · exact .nothing
  · exact .settle row args n hmem hst hn hfee hfits

theorem release_change {id : String} {r : Reservation} (h : release id s = (.ok r, s')) : Change s s' := by
  obtain ⟨row, hrow, h⟩ := release_ok h
  obtain ⟨hmem, rfl⟩ := Store.reservation_eq_some hrow
  rcases h with ⟨rfl, -, -⟩ | ⟨h₁, h₂, h₃, -, rfl⟩
  · exact .nothing
  · exact .release row hmem h₁ h₂ h₃

/-- A reservation the store has returned: its id and its authorization are those of a row. -/
def Store.Knows (s : Store) (r : Reservation) : Prop :=
  ∃ row ∈ s.reservations, row.id = r.id ∧ row.authorizationId = r.authorizationId

theorem finalizePaidCall_change (hb : Budget s) {uuid : String} {verifies : PaymentReceipt → Bool} {args : FinalizeArgs}
    {p : PaymentReceipt} (hknown : s.Knows args.reservation) (h : finalizePaidCall uuid verifies args s = (.ok p, s')) :
    Change s s' := by
  rcases (finalizePaidCall_ok h).2 with ⟨rfl, -, -⟩ | ⟨row, a, -, -, hrow, hst, hfits, -, rfl⟩
  · exact .nothing
  · obtain ⟨hmem, hid⟩ := Store.reservation_eq_some hrow
    obtain ⟨q, hq, hqid, hqa⟩ := hknown
    obtain rfl := List.inj_on_of_nodup_map hb.reservationIds hq hmem (hqid.trans hid.symm)
    exact .finalize q uuid args hmem hid.symm hqa.symm hst hfits

/-! ## What a change keeps -/

/-- A status that is neither closed nor `failed` is open. -/
theorem ReservationStatus.isOpen_of_ne {st : ReservationStatus} (h₁ : st ≠ .released) (h₂ : st ≠ .finalized)
    (h₃ : st ≠ .failed) : st.isOpen = true := by
  cases st <;> first | rfl | contradiction

/-- The budget invariant is kept by every change. -/
theorem Change.budget (h : Change s s') (hb : Budget s) : Budget s' := by
  cases h with
  | nothing => exact hb
  | create a fresh reserved spent calls total limit => exact hb.addAuthorization fresh reserved spent calls total limit
  | revoke id => exact hb.setStatus id (fun _ => rfl) (fun _ hc => ⟨hc.reserved, hc.spent, hc.calls, hc.total, hc.limit⟩)
  | reserve r a ha fresh status positive calls total => exact hb.addReservation ha fresh status positive calls total
  | bind row invoice hrow status positive hash fits =>
    refine hb.advance hrow (fun _ => rfl) rfl rfl ?_ rfl
    rcases status with status | status <;> rw [status] <;> rfl
  | initiate row hrow status =>
    refine hb.advance hrow (fun _ => rfl) rfl rfl ?_ rfl
    rw [status]
    rfl
  | settle row args n hrow status invoice fee fits =>
    refine hb.advance hrow (fun _ => rfl) rfl rfl ?_ rfl
    rw [status]
    rfl
  | release row hrow notReleased notFinalized notPaid =>
    have hopen := ReservationStatus.isOpen_of_ne notReleased notFinalized (hb.notFailed row hrow)
    have hclose := hb.close hrow hopen (u := fun r => { r with status := .released }) (fun _ => rfl) rfl rfl none rfl
      (by simp) (v := fun a => { a with reservedSats := a.reservedSats - row.reservedSats }) (fun _ => rfl)
      (fun _ => by simp)
    simpa only [Option.toList_none, List.append_nil] using hclose
  | finalize row uuid args hrow hid hauth status fits =>
    have hopen : row.status.isOpen = true := by
      rw [status]
      rfl
    unfold Store.finalize
    rw [hid, hauth]
    refine hb.close hrow hopen (u := fun r => { r with status := .finalized, receiptId := some uuid }) (fun _ => rfl) rfl rfl
      (some (args.receipt uuid)) rfl ?_ (v := (·.charge row.reservedSats args.totalDebit)) (fun _ => rfl)
      (fun _ => ⟨rfl, rfl, rfl, rfl, rfl⟩)
    rintro p hp
    cases hp
    exact ⟨hid, hauth, fits⟩

/-- A known reservation stays known. -/
theorem Change.knows (h : Change s s') {r : Reservation} (hr : s.Knows r) : s'.Knows r := by
  obtain ⟨row, hrow, hid, hauth⟩ := hr
  -- an update of a reservation keeps the id and the authorization of every row
  have hset {u : Reservation → Reservation} (hu : ∀ q, (u q).id = q.id ∧ (u q).authorizationId = q.authorizationId)
      (id : String) : ∃ q ∈ updateKey (·.id) id u s.reservations, q.id = r.id ∧ q.authorizationId = r.authorizationId := by
    by_cases hk : row.id = id
    · exact ⟨u row, mem_updateKey.2 (Or.inl ⟨row, hrow, hk, rfl⟩), (hu row).1.trans hid, (hu row).2.trans hauth⟩
    · exact ⟨row, mem_updateKey.2 (Or.inr ⟨hrow, hk⟩), hid, hauth⟩
  cases h with
  | nothing => exact ⟨row, hrow, hid, hauth⟩
  | create => exact ⟨row, hrow, hid, hauth⟩
  | revoke => exact ⟨row, hrow, hid, hauth⟩
  | reserve q => exact ⟨row, List.mem_append_left _ hrow, hid, hauth⟩
  | bind =>
    refine hset ?_ _
    exact fun _ => ⟨rfl, rfl⟩
  | initiate =>
    refine hset ?_ _
    exact fun _ => ⟨rfl, rfl⟩
  | settle =>
    refine hset ?_ _
    exact fun _ => ⟨rfl, rfl⟩
  | release =>
    refine hset ?_ _
    exact fun _ => ⟨rfl, rfl⟩
  | finalize =>
    refine hset ?_ _
    exact fun _ => ⟨rfl, rfl⟩

/-- An authorization that is there and not active. -/
def Store.Inactive (s : Store) (id : String) : Prop :=
  (∃ a ∈ s.authorizations, a.id = id) ∧ ∀ a ∈ s.authorizations, a.id = id → a.status ≠ .active

/-- An authorization that is not active stays so. -/
theorem Change.inactive (h : Change s s') {id : String} (hi : s.Inactive id) : s'.Inactive id := by
  obtain ⟨⟨a, ha, haid⟩, hst⟩ := hi
  -- an update of an authorization that keeps its id and does not make it active
  have hset {u : Authorization → Authorization} (hu : ∀ b, (u b).id = b.id)
      (hact : ∀ b, b.status ≠ .active → (u b).status ≠ .active) (k : String) :
      (∃ b ∈ updateKey (·.id) k u s.authorizations, b.id = id) ∧
        ∀ b ∈ updateKey (·.id) k u s.authorizations, b.id = id → b.status ≠ .active := by
    constructor
    · by_cases hk : a.id = k
      · exact ⟨u a, mem_updateKey.2 (Or.inl ⟨a, ha, hk, rfl⟩), (hu a).trans haid⟩
      · exact ⟨a, mem_updateKey.2 (Or.inr ⟨ha, hk⟩), haid⟩
    · intro b hb hbid
      rcases mem_updateKey.1 hb with ⟨c, hc, -, rfl⟩ | ⟨hb, -⟩
      · exact hact c (hst c hc ((hu c).symm.trans hbid))
      · exact hst b hb hbid
  cases h with
  | nothing => exact ⟨⟨a, ha, haid⟩, hst⟩
  | create b fresh =>
    refine ⟨⟨a, List.mem_append_left _ ha, haid⟩, fun c hc hcid => ?_⟩
    rcases List.mem_append.1 hc with hc | hc
    · exact hst c hc hcid
    · rw [List.mem_singleton.1 hc] at hcid
      exact absurd (haid.trans hcid.symm) (fresh a ha)
  | revoke =>
    refine hset ?_ ?_ _
    · exact fun _ => rfl
    · exact fun _ _ => AuthorizationStatus.noConfusion
  | reserve =>
    refine hset ?_ ?_ _
    · exact fun _ => rfl
    · exact fun _ hb => hb
  | bind => exact ⟨⟨a, ha, haid⟩, hst⟩
  | initiate => exact ⟨⟨a, ha, haid⟩, hst⟩
  | settle => exact ⟨⟨a, ha, haid⟩, hst⟩
  | release row =>
    refine hset ?_ ?_ _
    · exact fun _ => rfl
    · exact fun _ hb => hb
  | finalize row uuid args =>
    refine hset (u := (·.charge row.reservedSats args.totalDebit)) (fun _ => rfl) (fun b hb => ?_) _
    unfold Authorization.charge
    simp only
    split
    · exact AuthorizationStatus.noConfusion
    · exact hb

end

end Commerce

end Archisynapse
