import Archisynapse.Commerce.Store

/-!
# What each operation of the store does

One lemma for each operation of `Commerce/Store.lean`: when it returned, what it found and what it left. Nothing else unfolds
the operations.
-/

namespace Archisynapse

namespace Commerce

open Exec (throw gets modify transaction)

@[simp] theorem raise_eq_ok {α : Type} {code : ErrorCode} {message : String} {b : α} {s s' : Store} :
    (raise code message : Operation α) s = (.ok b, s') ↔ False := Exec.throw_eq_ok

/-! ## Rows -/

theorem Store.authorization_eq_some {s : Store} {id : String} {a : Authorization} (h : s.authorization id = some a) :
    a ∈ s.authorizations ∧ a.id = id :=
  ⟨List.mem_of_find?_eq_some h, by simpa using List.find?_some h⟩

theorem Store.reservation_eq_some {s : Store} {id : String} {r : Reservation} (h : s.reservation id = some r) :
    r ∈ s.reservations ∧ r.id = id :=
  ⟨List.mem_of_find?_eq_some h, by simpa using List.find?_some h⟩

theorem Store.authorization_eq_none {s : Store} {id : String} (h : s.authorization id = none) :
    ∀ a ∈ s.authorizations, a.id ≠ id := by
  simpa [Store.authorization] using h

theorem Store.reservation_eq_none {s : Store} {id : String} (h : s.reservation id = none) :
    ∀ r ∈ s.reservations, r.id ≠ id := by
  simpa [Store.reservation] using h

theorem readBack_ok {α : Type} {f : Store → Option α} {a : α} {s s' : Store} (h : readBack f s = (.ok a, s')) :
    s' = s ∧ f s = some a := by
  obtain ⟨x, s₁, hx, h⟩ := Exec.bind_eq_ok.1 h
  obtain ⟨hfound, rfl⟩ := Exec.gets_eq_ok.1 hx
  cases x with
  | some b =>
    obtain ⟨rfl, rfl⟩ := Exec.pure_eq_ok.1 h
    exact ⟨rfl, hfound⟩
  | none => exact absurd h (by simp)

theorem updateReservation_ok {id : String} {u : Reservation → Reservation} {r : Reservation} {s s' : Store}
    (h : updateReservation id u s = (.ok r, s')) : s' = s.setReservation id u ∧ s'.reservation id = some r := by
  obtain ⟨_, s₁, h₁, h⟩ := Exec.bind_eq_ok.1 h
  obtain rfl := Exec.modify_eq_ok.1 h₁
  obtain ⟨rfl, hr⟩ := readBack_ok h
  exact ⟨rfl, hr⟩

theorem withReservation_ok {α : Type} {id : String} {f : Reservation → Operation α} {a : α} {s s' : Store}
    (h : withReservation id f s = (.ok a, s')) : ∃ row, s.reservation id = some row ∧ f row s = (.ok a, s') := by
  obtain ⟨x, s₁, hx, h⟩ := Exec.bind_eq_ok.1 h
  obtain ⟨hfound, rfl⟩ := Exec.gets_eq_ok.1 hx
  cases x with
  | none => exact absurd h (by simp)
  | some row => exact ⟨row, hfound, h⟩

/-! ## Authorizations -/

/-- A new authorization: unknown before, active, with budgets that are positive and nothing reserved or spent. -/
theorem create_ok {now : Int} {uuid : String} {args : CreateArgs} {a : Authorization} {s s' : Store}
    (h : create now uuid args s = (.ok a, s')) :
    (∀ b ∈ s.authorizations, b.id ≠ a.id) ∧ a.status = .active ∧ a.reservedSats = 0 ∧ a.spentSats = 0 ∧ a.callCount = 0 ∧
      0 < a.maxTotalSats ∧ 0 < a.maxCalls ∧ s' = { s with authorizations := s.authorizations ++ [a] } := by
  unfold create at h
  rcases Exec.ite_eq_ok.1 h with ⟨-, h⟩ | ⟨hmin, h⟩
  · exact absurd h (by simp)
  rcases Exec.ite_eq_ok.1 h with ⟨-, h⟩ | ⟨-, h⟩
  · exact absurd h (by simp)
  rcases Exec.ite_eq_ok.1 h with ⟨-, h⟩ | ⟨-, h⟩
  · exact absurd h (by simp)
  cases hexp : args.expiresAt with
  | none =>
    rw [hexp] at h
    exact absurd h (by simp)
  | some expiresAt =>
  rw [hexp] at h
  rcases Exec.ite_eq_ok.1 h with ⟨-, h⟩ | ⟨-, h⟩
  · exact absurd h (by simp)
  obtain ⟨known, s₁, hk, h⟩ := Exec.bind_eq_ok.1 (Exec.transaction_eq_ok.1 h)
  obtain ⟨rfl, rfl⟩ := Exec.gets_eq_ok.1 hk
  rcases Exec.ite_eq_ok.1 h with ⟨-, h⟩ | ⟨hk, h⟩
  · exact absurd h (by simp)
  have hnone := Store.authorization_eq_none (Option.not_isSome_iff_eq_none.1 hk)
  obtain ⟨_, s₂, hm, h⟩ := Exec.bind_eq_ok.1 h
  obtain rfl := Exec.modify_eq_ok.1 hm
  obtain ⟨rfl, hback⟩ := readBack_ok h
  -- the row read back is the one inserted: no row before it has its id
  simp only [Store.authorization, List.find?_append] at hback
  rw [List.find?_eq_none.2 (by simpa using hnone)] at hback
  simp only [Option.none_or, List.find?_cons, decide_true] at hback
  cases hback
  refine ⟨hnone, rfl, rfl, rfl, rfl, ?_, ?_, rfl⟩
  · simp only
    omega
  · simp only
    omega

/-- Revoking: the authorization is revoked already, or becomes so. -/
theorem revoke_ok {id : String} {a : Authorization} {s s' : Store} (h : revoke id s = (.ok a, s')) :
    s' = s ∨ s' = s.setAuthorization id (fun a => { a with status := .revoked, version := a.version + 1 }) := by
  obtain ⟨x, s₁, hx, h⟩ := Exec.bind_eq_ok.1 (Exec.transaction_eq_ok.1 h)
  obtain ⟨-, rfl⟩ := Exec.gets_eq_ok.1 hx
  cases x with
  | none => exact absurd h (by simp)
  | some row =>
    rcases Exec.ite_eq_ok.1 h with ⟨-, h⟩ | ⟨-, h⟩
    · obtain ⟨-, rfl⟩ := Exec.pure_eq_ok.1 h
      exact Or.inl rfl
    · obtain ⟨_, s₂, hm, h⟩ := Exec.bind_eq_ok.1 h
      obtain rfl := Exec.modify_eq_ok.1 hm
      obtain ⟨rfl, -⟩ := readBack_ok h
      exact Or.inr rfl

/-! ## Reservations -/

/-- The authorization admits a call: nothing was written. -/
theorem admits_ok {now : Int} {args : ReserveArgs} {row : Authorization} {u : Unit} {s s' : Store}
    (h : admits now args row s = (.ok u, s')) :
    s' = s ∧ (row.status = .active ∧ now < row.expiresAt) ∧ args.quotedSats ≤ row.maxPerCallSats := by
  unfold admits at h
  rcases Exec.ite_eq_ok.1 h with ⟨-, h⟩ | ⟨-, h⟩
  · exact absurd h (by simp)
  rcases Exec.ite_eq_ok.1 h with ⟨-, h⟩ | ⟨hactive, h⟩
  · exact absurd h (by simp)
  rcases Exec.ite_eq_ok.1 h with ⟨-, h⟩ | ⟨hexpires, h⟩
  · obtain ⟨_, _, -, h⟩ := Exec.bind_eq_ok.1 h
    exact absurd h (by simp)
  rcases Exec.ite_eq_ok.1 h with ⟨-, h⟩ | ⟨-, h⟩
  · exact absurd h (by simp)
  rcases Exec.ite_eq_ok.1 h with ⟨-, h⟩ | ⟨-, h⟩
  · exact absurd h (by simp)
  rcases Exec.ite_eq_ok.1 h with ⟨-, h⟩ | ⟨hquote, h⟩
  · exact absurd h (by simp)
  obtain ⟨-, rfl⟩ := Exec.pure_eq_ok.1 h
  exact ⟨rfl, ⟨not_not.1 hactive, Int.not_le.1 hexpires⟩, Int.not_lt.1 hquote⟩

/-- A new reservation: it is `reserved`, and its amount is added to its authorization. -/
theorem insertReservation_ok {uuid : String} {args : ReserveArgs} {sats : Int} {r : Reservation} {s s' : Store}
    (h : insertReservation uuid args sats s = (.ok r, s')) :
    (∀ b ∈ s.reservations, b.id ≠ r.id) ∧ r.id = uuid ∧ r.authorizationId = args.authorizationId ∧
      r.idempotencyKey = args.idempotencyKey ∧ r.status = .reserved ∧ r.reservedSats = sats ∧ 0 < sats ∧
      r.paymentHash = none ∧ r.invoiceSats = none ∧
      s' = { s with reservations := s.reservations ++ [r] }.setAuthorization r.authorizationId
        (fun a => { a with reservedSats := a.reservedSats + sats }) := by
  obtain ⟨known, s₁, hk, h⟩ := Exec.bind_eq_ok.1 h
  obtain ⟨rfl, rfl⟩ := Exec.gets_eq_ok.1 hk
  rcases Exec.ite_eq_ok.1 h with ⟨-, h⟩ | ⟨hk, h⟩
  · exact absurd h (by simp)
  have hnone := Store.reservation_eq_none (Option.not_isSome_iff_eq_none.1 hk)
  rcases Exec.ite_eq_ok.1 h with ⟨-, h⟩ | ⟨hpos, h⟩
  · exact absurd h (by simp)
  obtain ⟨_, s₂, hm, h⟩ := Exec.bind_eq_ok.1 h
  obtain rfl := Exec.modify_eq_ok.1 hm
  obtain ⟨_, s₃, hm, h⟩ := Exec.bind_eq_ok.1 h
  obtain rfl := Exec.modify_eq_ok.1 hm
  obtain ⟨rfl, hback⟩ := readBack_ok h
  simp only [Store.reservation, Store.setAuthorization, List.find?_append] at hback
  rw [List.find?_eq_none.2 (by simpa using hnone)] at hback
  simp only [Option.none_or, List.find?_cons, decide_true] at hback
  cases hback
  exact ⟨hnone, rfl, rfl, rfl, rfl, rfl, Int.not_le.1 hpos, rfl, rfl, rfl⟩

/-- What `reserve` returned: the reservation with the key, or a new one that the authorization's limits leave room for. -/
theorem reserve_ok {now : Int} {uuid : String} {tolerance : Int → Option Int} {args : ReserveArgs} {r : Reservation}
    {s s' : Store} (h : reserve now uuid tolerance args s = (.ok r, s')) :
    (s' = s ∧ r ∈ s.reservations ∧ r.authorizationId = args.authorizationId ∧ r.idempotencyKey = args.idempotencyKey) ∨
    (∃ a, s.authorization r.authorizationId = some a ∧ (a.status = .active ∧ now < a.expiresAt) ∧
      (∀ b ∈ s.reservations, b.id ≠ r.id) ∧ r.id = uuid ∧ r.authorizationId = args.authorizationId ∧
      (∀ b ∈ s.reservations, b.authorizationId = r.authorizationId → b.idempotencyKey ≠ r.idempotencyKey) ∧
      r.status = .reserved ∧ 0 < r.reservedSats ∧ r.paymentHash = none ∧ r.invoiceSats = none ∧
      a.callCount + ((s.openReservations r.authorizationId).length : Int) < a.maxCalls ∧
      a.spentSats + a.reservedSats + r.reservedSats ≤ a.maxTotalSats ∧
      s' = { s with reservations := s.reservations ++ [r] }.setAuthorization r.authorizationId
        (fun a => { a with reservedSats := a.reservedSats + r.reservedSats })) := by
  unfold reserve at h
  rcases Exec.ite_eq_ok.1 h with ⟨-, h⟩ | ⟨-, h⟩
  · exact absurd h (by simp)
  obtain ⟨x, s₁, hx, h⟩ := Exec.bind_eq_ok.1 (Exec.transaction_eq_ok.1 h)
  obtain ⟨hfound, rfl⟩ := Exec.gets_eq_ok.1 hx
  cases x with
  | some existing =>
    rcases Exec.ite_eq_ok.1 h with ⟨-, h⟩ | ⟨-, h⟩
    · exact absurd h (by simp)
    obtain ⟨rfl, rfl⟩ := Exec.pure_eq_ok.1 h
    have hkey := List.find?_some hfound
    simp only [decide_eq_true_eq] at hkey
    exact Or.inl ⟨rfl, List.mem_of_find?_eq_some hfound, hkey.1, hkey.2⟩
  | none =>
    obtain ⟨y, s₁, hy, h₁⟩ := Exec.bind_eq_ok.1 h
    obtain ⟨ha, rfl⟩ := Exec.gets_eq_ok.1 hy
    cases y with
    | none => exact absurd h₁ (by simp)
    | some a =>
      obtain ⟨_, s₂, had, h₂⟩ := Exec.bind_eq_ok.1 h₁
      obtain ⟨rfl, hactive, -⟩ := admits_ok had
      obtain ⟨n, s₃, hn, h₃⟩ := Exec.bind_eq_ok.1 h₂
      obtain ⟨rfl, rfl⟩ := Exec.gets_eq_ok.1 hn
      rcases Exec.ite_eq_ok.1 h₃ with ⟨-, h₄⟩ | ⟨hcalls, h₄⟩
      · exact absurd h₄ (by simp)
      cases hceil : tolerance args.quotedSats with
      | none =>
        rw [hceil] at h₄
        exact absurd h₄ (by simp)
      | some ceiling =>
        rw [hceil] at h₄
        rcases Exec.ite_eq_ok.1 h₄ with ⟨-, h₅⟩ | ⟨-, h₅⟩
        · exact absurd h₅ (by simp)
        rcases Exec.ite_eq_ok.1 h₅ with ⟨-, h₆⟩ | ⟨htotal, h₆⟩
        · exact absurd h₆ (by simp)
        obtain ⟨hfresh, hid, hauth, hkey, hst, hsats, hpos, hhash, hinv, hs'⟩ := insertReservation_ok h₆
        rw [← hauth] at ha hcalls
        rw [← hsats] at hpos htotal hs'
        refine Or.inr ⟨a, ha, hactive, hfresh, hid, hauth, ?_, hst, hpos, hhash, hinv, Int.not_le.1 hcalls, by omega, hs'⟩
        intro b hb hba hbk
        have hcon := List.find?_eq_none.1 hfound b hb
        simp only [decide_eq_true_eq, not_and] at hcon
        exact hcon (hba.trans hauth) (hbk.trans hkey)

/-- Binding an invoice: the reservation is open before a payment, and carries the invoice afterwards. -/
theorem bindInvoice_ok {id : String} {invoice : DecodedInvoice} {r : Reservation} {s s' : Store}
    (h : bindInvoice id invoice s = (.ok r, s')) :
    ∃ row, s.reservation id = some row ∧ (row.status = .reserved ∨ row.status = .invoiceBound) ∧
      0 < invoice.amountSats ∧ invoice.paymentHash ≠ "" ∧ invoice.amountSats ≤ row.reservedSats ∧
      s'.reservation id = some r ∧
      s' = s.setReservation id (·.bind invoice) := by
  unfold bindInvoice at h
  rcases Exec.ite_eq_ok.1 h with ⟨-, h₁⟩ | ⟨hinv, h₁⟩
  · exact absurd h₁ (by simp)
  rw [not_or, Int.not_le] at hinv
  obtain ⟨row, hrow, h₂⟩ := withReservation_ok (Exec.transaction_eq_ok.1 h₁)
  rcases Exec.ite_eq_ok.1 h₂ with ⟨-, h₃⟩ | ⟨hst, h₃⟩
  · exact absurd h₃ (by simp)
  rcases Exec.ite_eq_ok.1 h₃ with ⟨-, h₄⟩ | ⟨hamount, h₄⟩
  · exact absurd h₄ (by simp)
  rcases Exec.ite_eq_ok.1 h₄ with ⟨-, h₅⟩ | ⟨-, h₅⟩
  · exact absurd h₅ (by simp)
  obtain ⟨rfl, hback⟩ := updateReservation_ok h₅
  exact ⟨row, hrow, not_not.1 hst, hinv.1, hinv.2, Int.not_lt.1 hamount, hback, rfl⟩

/-- Initiating the payment: only an `invoice_bound` reservation is moved. -/
theorem markPaymentInitiated_ok {id : String} {r : Reservation} {s s' : Store}
    (h : markPaymentInitiated id s = (.ok r, s')) :
    ∃ row, s.reservation id = some row ∧ row.status = .invoiceBound ∧ s'.reservation id = some r ∧
      s' = s.setReservation id (fun r => { r with status := .paymentInitiated }) := by
  obtain ⟨x, s₁, hx, h₁⟩ := Exec.bind_eq_ok.1 (Exec.transaction_eq_ok.1 h)
  obtain ⟨hfound, rfl⟩ := Exec.gets_eq_ok.1 hx
  cases x with
  | none => exact absurd h₁ (by simp)
  | some row =>
    rcases Exec.ite_eq_ok.1 h₁ with ⟨-, h₂⟩ | ⟨hst, h₂⟩
    · exact absurd h₂ (by simp)
    obtain ⟨rfl, hback⟩ := updateReservation_ok h₂
    exact ⟨row, hfound, not_not.1 hst, hback, rfl⟩

/-- Recording a settlement: it was recorded before, or the amounts fit the reservation. -/
theorem markPaid_ok {id : String} {args : MarkPaidArgs} {r : Reservation} {s s' : Store}
    (h : markPaid id args s = (.ok r, s')) :
    0 ≤ args.routeFeeSats ∧ ∃ row, s.reservation id = some row ∧
      ((row.status = .paid ∧ s' = s ∧ r = row) ∨
      (row.status = .paymentInitiated ∧ s'.reservation id = some r ∧ ∃ n, row.invoiceSats = some n ∧
        n + args.routeFeeSats ≤ row.reservedSats ∧
        s' = s.setReservation id (·.settle args))) := by
  unfold markPaid at h
  rcases Exec.ite_eq_ok.1 h with ⟨-, h₁⟩ | ⟨hfee, h₁⟩
  · exact absurd h₁ (by simp)
  obtain ⟨row, hrow, h₂⟩ := withReservation_ok (Exec.transaction_eq_ok.1 h₁)
  refine ⟨Int.not_lt.1 hfee, row, hrow, ?_⟩
  rcases Exec.ite_eq_ok.1 h₂ with ⟨hpaid, h₃⟩ | ⟨-, h₃⟩
  · rcases Exec.ite_eq_ok.1 h₃ with ⟨-, h₄⟩ | ⟨-, h₄⟩
    · exact absurd h₄ (by simp)
    obtain ⟨rfl, rfl⟩ := Exec.pure_eq_ok.1 h₄
    exact Or.inl ⟨hpaid, rfl, rfl⟩
  · rcases Exec.ite_eq_ok.1 h₃ with ⟨-, h₄⟩ | ⟨hinit, h₄⟩
    · exact absurd h₄ (by simp)
    cases hn : row.invoiceSats with
    | none =>
      rw [hn] at h₄
      exact absurd h₄ (by simp)
    | some n =>
      rw [hn] at h₄
      rcases Exec.ite_eq_ok.1 h₄ with ⟨-, h₅⟩ | ⟨hfit, h₅⟩
      · exact absurd h₅ (by simp)
      obtain ⟨rfl, hback⟩ := updateReservation_ok h₅
      exact Or.inr ⟨not_not.1 hinit, hback, n, rfl, Int.not_lt.1 hfit, rfl⟩

/-- Releasing: the reservation is closed already, or its amount is given back. -/
theorem release_ok {id : String} {r : Reservation} {s s' : Store} (h : release id s = (.ok r, s')) :
    ∃ row, s.reservation id = some row ∧
      ((s' = s ∧ r = row ∧ (row.status = .released ∨ row.status = .finalized)) ∨
      (row.status ≠ .released ∧ row.status ≠ .finalized ∧ row.status ≠ .paid ∧ s'.reservation id = some r ∧
        s' = (s.setAuthorization row.authorizationId (fun a =>
          { a with reservedSats := a.reservedSats - row.reservedSats })).setReservation id
            (fun r => { r with status := .released }))) := by
  obtain ⟨row, hrow, h₁⟩ := withReservation_ok (Exec.transaction_eq_ok.1 h)
  refine ⟨row, hrow, ?_⟩
  rcases Exec.ite_eq_ok.1 h₁ with ⟨hclosed, h₂⟩ | ⟨hopen, h₂⟩
  · obtain ⟨rfl, rfl⟩ := Exec.pure_eq_ok.1 h₂
    exact Or.inl ⟨rfl, rfl, hclosed⟩
  · rw [not_or] at hopen
    rcases Exec.ite_eq_ok.1 h₂ with ⟨-, h₃⟩ | ⟨hpaid, h₃⟩
    · exact absurd h₃ (by simp)
    obtain ⟨_, s₁, hm, h₄⟩ := Exec.bind_eq_ok.1 h₃
    obtain rfl := Exec.modify_eq_ok.1 hm
    obtain ⟨rfl, hback⟩ := updateReservation_ok h₄
    exact Or.inr ⟨hopen.1, hopen.2, hpaid, hback, rfl⟩

/-! ## Receipts -/

/-- The store with a receipt: the authorization is charged and the reservation finalized. -/
def Store.finalize (s : Store) (args : FinalizeArgs) (uuid : String) (reservedSats : Int) : Store :=
  ({ s with receipts := s.receipts ++ [args.receipt uuid] }.setAuthorization args.reservation.authorizationId
    (·.charge reservedSats args.totalDebit)).setReservation args.reservation.id
      (fun r => { r with status := .finalized, receiptId := some uuid })

/-- Finalizing: the receipt is there already, or the reservation is paid, the debit fits, and everything moves at once. -/
theorem finalizePaidCall_ok {uuid : String} {verifies : PaymentReceipt → Bool} {args : FinalizeArgs} {p : PaymentReceipt}
    {s s' : Store} (h : finalizePaidCall uuid verifies args s = (.ok p, s')) :
    args.reservation.status = .paid ∧
    ((s' = s ∧ p ∈ s.receipts ∧ p.reservationId = args.reservation.id) ∨
    (∃ row a, p = args.receipt uuid ∧ (∀ q ∈ s.receipts, q.reservationId ≠ args.reservation.id) ∧
      s.reservation args.reservation.id = some row ∧ row.status = .paid ∧ args.totalDebit ≤ row.reservedSats ∧
      s.authorization args.reservation.authorizationId = some a ∧
      s' = s.finalize args uuid row.reservedSats)) := by
  unfold finalizePaidCall at h
  rcases Exec.ite_eq_ok.1 h with ⟨-, h₁⟩ | ⟨hpaid, h₁⟩
  · exact absurd h₁ (by simp)
  refine ⟨not_not.1 hpaid, ?_⟩
  obtain ⟨x, s₁, hx, h₂⟩ := Exec.bind_eq_ok.1 (Exec.transaction_eq_ok.1 h₁)
  obtain ⟨hfound, rfl⟩ := Exec.gets_eq_ok.1 hx
  cases x with
  | some existing =>
    rcases Exec.ite_eq_ok.1 h₂ with ⟨-, h₃⟩ | ⟨-, h₃⟩
    · obtain ⟨rfl, rfl⟩ := Exec.pure_eq_ok.1 h₃
      exact Or.inl ⟨rfl, List.mem_of_find?_eq_some hfound, by simpa using List.find?_some hfound⟩
    · exact absurd h₃ (by simp)
  | none =>
    have hnone : ∀ q ∈ s.receipts, q.reservationId ≠ args.reservation.id := by
      simpa using List.find?_eq_none.1 hfound
    obtain ⟨y, s₂, hy, h₃⟩ := Exec.bind_eq_ok.1 h₂
    obtain ⟨hrow, rfl⟩ := Exec.gets_eq_ok.1 hy
    cases y with
    | none => exact absurd h₃ (by simp)
    | some row =>
      rcases Exec.ite_eq_ok.1 h₃ with ⟨-, h₄⟩ | ⟨hst, h₄⟩
      · exact absurd h₄ (by simp)
      rcases Exec.ite_eq_ok.1 h₄ with ⟨-, h₅⟩ | ⟨hfit, h₅⟩
      · exact absurd h₅ (by simp)
      obtain ⟨z, s₃, hz, h₆⟩ := Exec.bind_eq_ok.1 h₅
      obtain ⟨hauth, rfl⟩ := Exec.gets_eq_ok.1 hz
      cases z with
      | none => exact absurd h₆ (by simp)
      | some a =>
        rcases Exec.ite_eq_ok.1 h₆ with ⟨-, h₇⟩ | ⟨-, h₇⟩
        · exact absurd h₇ (by simp)
        obtain ⟨known, s₄, hk, h₈⟩ := Exec.bind_eq_ok.1 h₇
        obtain ⟨-, rfl⟩ := Exec.gets_eq_ok.1 hk
        rcases Exec.ite_eq_ok.1 h₈ with ⟨-, h₉⟩ | ⟨-, h₉⟩
        · exact absurd h₉ (by simp)
        obtain ⟨_, s₅, hm₅, h₁₀⟩ := Exec.bind_eq_ok.1 h₉
        obtain rfl := Exec.modify_eq_ok.1 hm₅
        obtain ⟨_, s₆, hm₆, h₁₁⟩ := Exec.bind_eq_ok.1 h₁₀
        obtain rfl := Exec.modify_eq_ok.1 hm₆
        obtain ⟨_, s₇, hm₇, h₁₂⟩ := Exec.bind_eq_ok.1 h₁₁
        obtain rfl := Exec.modify_eq_ok.1 hm₇
        obtain ⟨rfl, rfl⟩ := Exec.pure_eq_ok.1 h₁₂
        exact Or.inr ⟨row, a, rfl, hnone, hrow, not_not.1 hst, Int.not_lt.1 hfit, hauth, rfl⟩

/-! ## Errors -/

/-- An operation that raises leaves the store as it was. -/
def RollsBack {α : Type} (x : Operation α) : Prop := ∀ (s s' : Store) e, x s = (.error e, s') → s' = s

theorem raise_rollsBack {α : Type} (code : ErrorCode) (message : String) : RollsBack (raise code message : Operation α) := by
  intro s s' e h
  exact (Prod.mk.inj h).2.symm

theorem ite_rollsBack {α : Type} {c : Prop} [Decidable c] {x y : Operation α} (hx : RollsBack x) (hy : RollsBack y) :
    RollsBack (if c then x else y) := by
  by_cases h : c
  · rw [if_pos h]
    exact hx
  · rw [if_neg h]
    exact hy

theorem transaction_rollsBack {α : Type} (x : Operation α) : RollsBack (transaction x) :=
  fun _ _ _ h => Exec.transaction_eq_error h

theorem create_rollsBack (now : Int) (uuid : String) (args : CreateArgs) : RollsBack (create now uuid args) := by
  unfold create
  refine ite_rollsBack (raise_rollsBack _ _) (ite_rollsBack (raise_rollsBack _ _) (ite_rollsBack (raise_rollsBack _ _) ?_))
  cases args.expiresAt with
  | none => exact raise_rollsBack _ _
  | some expiresAt => exact ite_rollsBack (raise_rollsBack _ _) (transaction_rollsBack _)

theorem reserve_rollsBack (now : Int) (uuid : String) (tolerance : Int → Option Int) (args : ReserveArgs) :
    RollsBack (reserve now uuid tolerance args) :=
  ite_rollsBack (raise_rollsBack _ _) (transaction_rollsBack _)

theorem bindInvoice_rollsBack (id : String) (invoice : DecodedInvoice) : RollsBack (bindInvoice id invoice) :=
  ite_rollsBack (raise_rollsBack _ _) (transaction_rollsBack _)

theorem markPaid_rollsBack (id : String) (args : MarkPaidArgs) : RollsBack (markPaid id args) :=
  ite_rollsBack (raise_rollsBack _ _) (transaction_rollsBack _)

theorem finalizePaidCall_rollsBack (uuid : String) (verifies : PaymentReceipt → Bool) (args : FinalizeArgs) :
    RollsBack (finalizePaidCall uuid verifies args) :=
  ite_rollsBack (raise_rollsBack _ _) (transaction_rollsBack _)

end Commerce

end Archisynapse
