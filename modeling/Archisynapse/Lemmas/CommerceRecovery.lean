import Archisynapse.Lemmas.CommercePayments

/-!
# Recording a settled payment

`Invoiced` says what a reservation carries once an invoice is bound to it, and once it is paid; every change keeps it. With the
budget invariant it gives that a paid reservation can always be finalized, and that `mark_paid` refuses a settlement exactly when
its fee is negative or does not fit the reservation.
-/

namespace Archisynapse

namespace Commerce

open Exec (throw gets modify transaction)

/-! ## What a reservation carries -/

/-- An invoice is bound to the reservation. -/
def Reservation.Bound (r : Reservation) (invoice : DecodedInvoice) : Prop :=
  r.invoicePayload = some invoice ∧ r.invoiceSats = some invoice.amountSats ∧ r.paymentHash = some invoice.paymentHash ∧
    invoice.paymentHash ≠ ""

/-- What the reservations of a store carry. -/
structure Invoiced (s : Store) : Prop where
  bound : ∀ r ∈ s.reservations, r.status = .invoiceBound ∨ r.status = .paymentInitiated ∨ r.status = .paid →
    ∃ invoice, r.Bound invoice
  settled : ∀ r ∈ s.reservations, r.status = .paid → ∀ invoice, r.Bound invoice →
    ∃ fee, r.routeFeeSats = some fee ∧ invoice.amountSats + fee ≤ r.reservedSats

theorem invoiced_empty : Invoiced .empty := by
  constructor <;> simp [Store.empty]

/-- A change keeps what reservations carry when the rows it leaves are rows it found, or carry it themselves. -/
theorem Invoiced.of_rows {s s' : Store} (h : Invoiced s)
    (hrows : ∀ r ∈ s'.reservations, r ∈ s.reservations ∨
      ((r.status = .invoiceBound ∨ r.status = .paymentInitiated ∨ r.status = .paid → ∃ invoice, r.Bound invoice) ∧
        (r.status = .paid → ∀ invoice, r.Bound invoice →
          ∃ fee, r.routeFeeSats = some fee ∧ invoice.amountSats + fee ≤ r.reservedSats))) : Invoiced s' := by
  refine ⟨fun r hr => ?_, fun r hr => ?_⟩
  · rcases hrows r hr with hr | hr
    · exact h.bound r hr
    · exact hr.1
  · rcases hrows r hr with hr | hr
    · exact h.settled r hr
    · exact hr.2

theorem Change.invoiced {s s' : Store} (hc : Change s s') (hb : Budget s) (h : Invoiced s) : Invoiced s' := by
  cases hc with
  | nothing => exact h
  | create => exact ⟨h.bound, h.settled⟩
  | revoke => exact ⟨h.bound, h.settled⟩
  | reserve r a ha fresh status =>
    refine h.of_rows (fun q hq => ?_)
    rcases List.mem_append.1 hq with hq | hq
    · exact Or.inl hq
    · rw [List.mem_singleton.1 hq, status]
      exact Or.inr ⟨by simp, by simp⟩
  | bind row invoice hrow status positive hash fits =>
    refine h.of_rows (fun q hq => ?_)
    rcases (mem_updateKey_row hb.reservationIds hrow).1 hq with rfl | ⟨hq, -⟩
    · exact Or.inr ⟨fun _ => ⟨invoice, rfl, rfl, rfl, hash⟩, fun hp => by cases hp⟩
    · exact Or.inl hq
  | initiate row hrow status =>
    refine h.of_rows (fun q hq => ?_)
    rcases (mem_updateKey_row hb.reservationIds hrow).1 hq with rfl | ⟨hq, -⟩
    · exact Or.inr ⟨fun _ => h.bound row hrow (Or.inl status), fun hp => by cases hp⟩
    · exact Or.inl hq
  | settle row args n hrow status invoice fee fits =>
    refine h.of_rows (fun q hq => ?_)
    rcases (mem_updateKey_row hb.reservationIds hrow).1 hq with rfl | ⟨hq, -⟩
    · refine Or.inr ⟨fun _ => h.bound row hrow (Or.inr (Or.inl status)), fun _ inv hinv => ⟨args.routeFeeSats, rfl, ?_⟩⟩
      have hn : row.invoiceSats = some inv.amountSats := hinv.2.1
      rw [invoice] at hn
      rw [← Option.some.inj hn]
      exact fits
    · exact Or.inl hq
  | release row hrow =>
    refine h.of_rows (fun q hq => ?_)
    rcases (mem_updateKey_row hb.reservationIds hrow).1 hq with rfl | ⟨hq, -⟩
    · exact Or.inr ⟨by simp, fun hp => by cases hp⟩
    · exact Or.inl hq
  | finalize row uuid args hrow hid =>
    unfold Store.finalize
    rw [hid]
    refine h.of_rows (fun q hq => ?_)
    rcases (mem_updateKey_row hb.reservationIds hrow).1 hq with rfl | ⟨hq, -⟩
    · exact Or.inr ⟨by simp, fun hp => by cases hp⟩
    · exact Or.inl hq

/-- The store of a session. -/
theorem session_invoiced (cs : List StoreCall) :
    Budget (Session.empty.after cs).store ∧ Invoiced (Session.empty.after cs).store := by
  obtain ⟨hgood, hi⟩ := Session.good_empty.after (fun _ _ hb hc h => hc.invoiced hb h) invoiced_empty cs
  exact ⟨hgood.budget, hi⟩

/-! ## Operations that succeed -/

section

variable {s : Store}

/-- The row that was updated, read back. -/
theorem updateReservation_eq {id : String} {row : Reservation} (h : s.reservation id = some row)
    {u : Reservation → Reservation} (hu : ∀ r, (u r).id = r.id) :
    updateReservation id u s = (.ok (u row), s.setReservation id u) := by
  have hback : (s.setReservation id u).reservation id = some (u row) := by
    rw [s.reservation_setReservation id hu, h, Option.map_some, if_pos (Store.reservation_eq_some h).2]
  unfold updateReservation readBack
  rw [Exec.bind_ok (x := modify _) rfl, Exec.bind_ok (x := gets _) rfl, hback]
  rfl

/-- `mark_paid` records a settlement whose fee is not negative and fits the reservation. -/
theorem markPaid_settles (args : MarkPaidArgs) {id : String} {row : Reservation} (h : s.reservation id = some row)
    (hst : row.status = .paymentInitiated) {n : Int} (hn : row.invoiceSats = some n)
    (hfee : 0 ≤ args.routeFeeSats) (hfit : n + args.routeFeeSats ≤ row.reservedSats) :
    markPaid id args s = (.ok (row.settle args), s.setReservation id (·.settle args)) := by
  unfold markPaid withReservation
  rw [if_neg (Int.not_lt.2 hfee)]
  refine Exec.transaction_ok ?_
  rw [Exec.bind_ok (x := gets _) rfl, h]
  simp only [hst, hn, reduceCtorEq, if_false, ne_eq, not_true_eq_false]
  rw [if_neg (Int.not_lt.2 hfit)]
  exact updateReservation_eq h (fun _ => rfl)

/-- `mark_paid` refuses any other settlement. -/
theorem markPaid_refuses (args : MarkPaidArgs) {id : String} {row : Reservation} (h : s.reservation id = some row)
    (hst : row.status = .paymentInitiated) {n : Int} (hn : row.invoiceSats = some n)
    (hbad : ¬ (0 ≤ args.routeFeeSats ∧ n + args.routeFeeSats ≤ row.reservedSats)) :
    ∃ e, markPaid id args s = (.error e, s) := by
  unfold markPaid
  by_cases hfee : args.routeFeeSats < 0
  · rw [if_pos hfee]
    exact ⟨_, rfl⟩
  · rw [if_neg hfee]
    have hfit : row.reservedSats < n + args.routeFeeSats := by
      by_contra hle
      exact hbad ⟨Int.not_lt.1 hfee, Int.not_lt.1 hle⟩
    refine ⟨⟨.budgetExceeded, "settled amount plus fees exceeds reserved budget"⟩, Exec.transaction_error (t := s) ?_⟩
    unfold withReservation
    rw [Exec.bind_ok (x := gets _) rfl, h]
    simp only [hst, hn, reduceCtorEq, if_false, ne_eq, not_true_eq_false]
    rw [if_pos hfit]
    rfl

/-- What a paid reservation can be finalized for fits its authorization. -/
theorem Budget.fits (hb : Budget s) {row : Reservation} (hr : row ∈ s.reservations) (hopen : row.status.isOpen = true)
    {debit : Int} (hfit : debit ≤ row.reservedSats) :
    ∃ a, s.authorization row.authorizationId = some a ∧ a.spentSats + debit ≤ a.maxTotalSats := by
  obtain ⟨a, ha, hid⟩ := hb.authorization row hr
  have hc := hb.counters a ha
  have hle : row.reservedSats ≤ openSum s.reservations a.id := by
    refine le_sumWhere (fun r hr' _ => (hb.positive r hr').le) hr ?_
    simp [hid, hopen]
  refine ⟨a, hid ▸ hb.authorization_eq ha, ?_⟩
  have hres := hc.reserved
  have htotal := hc.total
  omega

/-- `finalize_paid_call` finalizes a paid reservation whose debit fits it. -/
theorem finalizePaidCall_finalizes (uuid : String) (verifies : PaymentReceipt → Bool) (args : FinalizeArgs)
    {row : Reservation} {a : Authorization} (hres : args.reservation.status = .paid)
    (hnone : ∀ p ∈ s.receipts, p.reservationId ≠ args.reservation.id) (hrow : s.reservation args.reservation.id = some row)
    (hst : row.status = .paid) (hfit : args.totalDebit ≤ row.reservedSats)
    (ha : s.authorization args.reservation.authorizationId = some a) (htotal : a.spentSats + args.totalDebit ≤ a.maxTotalSats)
    (huuid : ∀ p ∈ s.receipts, p.id ≠ uuid) :
    finalizePaidCall uuid verifies args s = (.ok (args.receipt uuid), s.finalize args uuid row.reservedSats) := by
  unfold finalizePaidCall
  rw [if_neg (not_not.2 hres)]
  refine Exec.transaction_ok ?_
  have hfind : s.receipts.find? (fun r => decide (r.reservationId = args.reservation.id)) = none := by
    simpa using hnone
  have hany : s.receipts.any (fun r => decide (r.id = uuid)) = false := by
    simpa using huuid
  rw [Exec.bind_ok (x := gets _) rfl, hfind]
  dsimp only
  rw [Exec.bind_ok (x := gets _) rfl, hrow]
  dsimp only
  rw [if_neg (not_not.2 hst), if_neg (Int.not_lt.2 hfit), Exec.bind_ok (x := gets _) rfl, ha]
  dsimp only
  rw [if_neg (Int.not_lt.2 htotal), Exec.bind_ok (x := gets _) rfl, hany]
  rfl

/-- The rows found after an authorization was updated. -/
theorem Store.authorization_setAuthorization {id : String} {a : Authorization} (h : s.authorization id = some a)
    {u : Authorization → Authorization} (hu : ∀ a, (u a).id = a.id) :
    (s.setAuthorization id u).authorization id = some (u a) := by
  unfold Store.authorization Store.setAuthorization updateKey
  rw [List.find?_map]
  have hkey : (fun b : Authorization => decide (b.id = id)) ∘ (fun b => if b.id = id then u b else b) =
      (fun b => decide (b.id = id)) := by
    funext b
    by_cases hb : b.id = id
    · simp [hb, hu]
    · simp [hb]
  rw [hkey]
  change Option.map _ (s.authorization id) = _
  rw [h, Option.map_some, if_pos (Store.authorization_eq_some h).2]

/-! ## Recovery -/

/-- A settled payment is recorded: the reservation is finalized, has a receipt over the debit, and the debit is spent. -/
def Recorded (s s' : Store) (r : Reservation) (debit : Int) : Prop :=
  s'.status r.id = some .finalized ∧ (∃ p ∈ s'.receipts, p.reservationId = r.id ∧ p.totalDebitSats = debit) ∧
    ∃ a a', s.authorization r.authorizationId = some a ∧ s'.authorization r.authorizationId = some a' ∧
      a'.spentSats = a.spentSats + debit

/-- A receipt records its payment. -/
theorem recorded_finalize {r row : Reservation} (args : FinalizeArgs) {a : Authorization} (hid : args.reservation = r)
    (hrow : s.reservation r.id = some row) (ha : s.authorization r.authorizationId = some a) (uuid : String) :
    Recorded s (s.finalize args uuid row.reservedSats) r args.totalDebit := by
  subst hid
  refine ⟨?_, ⟨_, List.mem_append_right _ (List.mem_singleton_self _), rfl, rfl⟩,
    a, a.charge row.reservedSats args.totalDebit, ha, ?_, rfl⟩
  · have hup := Store.status_setReservation (s := Store.setAuthorization { s with receipts := s.receipts ++ [args.receipt uuid] }
      args.reservation.authorizationId (·.charge row.reservedSats args.totalDebit)) hrow
      (u := fun r => { r with status := .finalized, receiptId := some uuid }) (fun _ => rfl)
    unfold Store.finalize
    rw [hup, Function.update_self]
  · exact Store.authorization_setAuthorization (s := { s with receipts := s.receipts ++ [args.receipt uuid] }) ha
      (fun _ => rfl)

/-- No step fails, and the provider reports the settlement. -/
def Reports (ch : Nat → Choice) (settlement : PaymentSettlement) : Prop :=
  ∀ n, (ch n).fails = none ∧ (ch n).lookup = some settlement

/-- The ids handed out are not those of stored receipts. -/
def Fresh (ch : Nat → Choice) (s : Store) : Prop := ∀ n, ∀ p ∈ s.receipts, p.id ≠ (ch n).uuid

theorem exec_of_reports {ch : Nat → Choice} {settlement : PaymentSettlement} (h : Reports ch settlement) (env : Env) (n : Nat)
    (o : Action) (w : World) : exec env 0 o (ch n) w = some (w.perform env 0 (ch n) o) := by
  unfold exec
  rw [(h n).1]

/-- The end of a recovery finalizes a paid reservation. -/
theorem finishReconcile_run (hb : Budget s) (hi : Invoiced s) {r : Reservation} (hr : r ∈ s.reservations)
    (hst : r.status = .paid) {ch : Nat → Choice} {settlement : PaymentSettlement} (hrep : Reports ch settlement)
    (hfresh : Fresh ch s) (env : Env) (n : Nat) {w : World} (hw : w.store = s) :
    ∃ p w' invoice fee, r.Bound invoice ∧ r.routeFeeSats = some fee ∧
      Prog.run (exec env 0) ch n (finishReconcile r) w = some (.ok (some p), w') ∧
      Recorded s w'.store r (invoice.amountSats + fee) := by
  subst hw
  obtain ⟨invoice, hbound⟩ := hi.bound r hr (Or.inr (Or.inr hst))
  obtain ⟨fee, hfee, hfit⟩ := hi.settled r hr hst invoice hbound
  have hopen : r.status.isOpen = true := by
    rw [hst]
    rfl
  obtain ⟨a, ha, htotal⟩ := hb.fits hr hopen hfit
  have hnf : r.status ≠ .finalized := by
    rw [hst]
    exact ReservationStatus.noConfusion
  have hrow := hb.reservation_eq hr
  have hdebit : (recoveryArgs r a invoice).totalDebit = invoice.amountSats + fee := by
    simp only [FinalizeArgs.totalDebit, recoveryArgs, hfee, Option.getD_some]
  have hget : exec env 0 (.getAuthorization r.authorizationId) (ch n) w = some (.ok (some a), w) := by
    rw [exec_of_reports hrep]
    simp only [World.perform, ha]
  have hfin := finalizePaidCall_finalizes (ch (n + 1)).uuid env.verifies (recoveryArgs r a invoice) hst (hb.noReceipt hr hnf)
    hrow hst (hdebit ▸ hfit) ha (hdebit ▸ htotal) (hfresh (n + 1))
  have hwrite : exec env 0 (.finalizePaidCall (recoveryArgs r a invoice)) (ch (n + 1)) w =
      some (.ok ((recoveryArgs r a invoice).receipt (ch (n + 1)).uuid),
        { w with store := w.store.finalize (recoveryArgs r a invoice) (ch (n + 1)).uuid r.reservedSats }) := by
    rw [exec_of_reports hrep]
    simp only [World.perform, World.operate, hfin]
  have hrun : Prog.run (exec env 0) ch n (finishReconcile r) w =
      some (.ok (some ((recoveryArgs r a invoice).receipt (ch (n + 1)).uuid)),
        { w with store := w.store.finalize (recoveryArgs r a invoice) (ch (n + 1)).uuid r.reservedSats }) := by
    unfold finishReconcile
    rw [hst, hbound.1]
    dsimp only
    rw [step, Prog.run_bind_ok hget]
    dsimp only
    rw [step, Prog.run_bind_ok hwrite]
    rfl
  have hrec := recorded_finalize (recoveryArgs r a invoice) rfl hrow ha (ch (n + 1)).uuid
  rw [hdebit] at hrec
  exact ⟨_, _, invoice, fee, hbound, hfee, hrun, hrec⟩

/-- A settlement proves the payment of a reservation: its preimage hashes to the payment hash of the bound invoice. -/
def Proves (env : Env) (settlement : PaymentSettlement) (r : Reservation) : Prop :=
  ∃ computed hash, env.preimageHash settlement.preimage = some computed ∧ r.paymentHash = some hash ∧
    env.lower computed = env.lower hash

/-- The first step of a recovery reads the reservation. -/
theorem exec_getReservation {ch : Nat → Choice} {settlement : PaymentSettlement} (hrep : Reports ch settlement) (env : Env)
    (n : Nat) {id : String} {r : Reservation} {w : World} (h : w.store.reservation id = some r) :
    exec env 0 (.getReservation id false) (ch n) w = some (.ok (some r), w) := by
  rw [exec_of_reports hrep]
  simp only [World.perform, h]
  rfl

/-- A recovery of a paid reservation records its payment. -/
theorem reconcile_paid (hb : Budget s) (hi : Invoiced s) {r : Reservation} (hr : r ∈ s.reservations) (hst : r.status = .paid)
    {ch : Nat → Choice} {settlement : PaymentSettlement} (hrep : Reports ch settlement) (hfresh : Fresh ch s) (env : Env) :
    ∃ p s' invoice fee, r.Bound invoice ∧ r.routeFeeSats = some fee ∧
      alone env (reconcileInitiatedPayment env r.id) ch s = some (.ok (some p), s') ∧
      Recorded s s' r (invoice.amountSats + fee) := by
  obtain ⟨p, w', invoice, fee, hbound, hfee, hrun, hrec⟩ :=
    finishReconcile_run hb hi hr hst hrep hfresh env 1 (w := ⟨s, [], [], []⟩) rfl
  refine ⟨p, w'.store, invoice, fee, hbound, hfee, ?_, hrec⟩
  unfold alone reconcileInitiatedPayment
  rw [step, Prog.run_bind_ok (exec_getReservation hrep env 0 (hb.reservation_eq hr))]
  dsimp only
  rw [hst]
  dsimp only
  rw [hrun]
  rfl

/-- The run of a recovery of an initiated payment, up to `mark_paid`. -/
theorem reconcile_initiated (hb : Budget s) (hi : Invoiced s) {r : Reservation} (hr : r ∈ s.reservations)
    (hst : r.status = .paymentInitiated) {ch : Nat → Choice} {settlement : PaymentSettlement} (hrep : Reports ch settlement)
    {env : Env} (hproves : Proves env settlement r) :
    Prog.run (exec env 0) ch 0 (reconcileInitiatedPayment env r.id) ⟨s, [], [], []⟩ =
      Prog.run (exec env 0) ch 2 (do
        let reservation ← step (.markPaid r.id (settlement.markPaidArgs env))
        finishReconcile reservation) ⟨s, [], [], []⟩ := by
  obtain ⟨computed, hash, hcomputed, hhash, hlower⟩ := hproves
  obtain ⟨invoice, hbound⟩ := hi.bound r hr (Or.inr (Or.inl hst))
  have hne : hash ≠ "" := by
    have heq := hhash.symm.trans hbound.2.2.1
    rw [Option.some.inj heq]
    exact hbound.2.2.2
  have hlook : exec env 0 (.lookupPayment hash) (ch 1) ⟨s, [], [], []⟩ = some (.ok (some settlement), ⟨s, [], [], []⟩) := by
    rw [exec_of_reports hrep]
    simp only [World.perform, (hrep 1).2]
  unfold reconcileInitiatedPayment
  rw [step, Prog.run_bind_ok (exec_getReservation hrep env 0 (hb.reservation_eq hr))]
  dsimp only
  rw [hst, hhash]
  simp only [truthy, if_neg hne]
  rw [step, Prog.run_bind_ok hlook]
  dsimp only
  rw [hcomputed]
  dsimp only
  rw [if_neg (not_not.2 hlower)]

/-- A recovery of an initiated payment records a settlement whose fee is not negative and fits the reservation. -/
theorem reconcile_records (hb : Budget s) (hi : Invoiced s) {r : Reservation} (hr : r ∈ s.reservations)
    (hst : r.status = .paymentInitiated) {ch : Nat → Choice} {settlement : PaymentSettlement} (hrep : Reports ch settlement)
    (hfresh : Fresh ch s) {env : Env} (hproves : Proves env settlement r) {n : Int} (hn : r.invoiceSats = some n)
    (hfee : 0 ≤ settlement.routeFeeSats) (hfit : n + settlement.routeFeeSats ≤ r.reservedSats) :
    ∃ p s', alone env (reconcileInitiatedPayment env r.id) ch s = some (.ok (some p), s') ∧
      Recorded s s' r (n + settlement.routeFeeSats) := by
  have hrow := hb.reservation_eq hr
  have hpaid := markPaid_settles (settlement.markPaidArgs env) hrow hst hn hfee hfit
  have hchange : Change s (s.setReservation r.id (·.settle (settlement.markPaidArgs env))) :=
    .settle r _ n hr hst hn hfee hfit
  have hr₁ : r.settle (settlement.markPaidArgs env) ∈
      (s.setReservation r.id (·.settle (settlement.markPaidArgs env))).reservations :=
    (mem_updateKey_row hb.reservationIds hr).2 (Or.inl rfl)
  have hstep : exec env 0 (.markPaid r.id (settlement.markPaidArgs env)) (ch 2) ⟨s, [], [], []⟩ =
      some (.ok (r.settle (settlement.markPaidArgs env)),
        ⟨s.setReservation r.id (·.settle (settlement.markPaidArgs env)), [], [], []⟩) := by
    rw [exec_of_reports hrep]
    simp only [World.perform, World.operate, hpaid]
  -- the rest is the recovery of a paid reservation, in the store `mark_paid` has left
  obtain ⟨p, w', invoice, fee, hbound, hfee', hrun, hrec⟩ :=
    finishReconcile_run (hchange.budget hb) (hchange.invoiced hb hi) hr₁ rfl hrep hfresh env 3
      (w := ⟨s.setReservation r.id (·.settle (settlement.markPaidArgs env)), [], [], []⟩) rfl
  refine ⟨p, w'.store, ?_, ?_⟩
  · unfold alone
    rw [reconcile_initiated hb hi hr hst hrep hproves, step, Prog.run_bind_ok hstep, hrun]
    rfl
  · have hn' : r.invoiceSats = some invoice.amountSats := hbound.2.1
    rw [hn] at hn'
    cases hfee'
    rw [Option.some.inj hn']
    exact hrec

/-- A recovery of an initiated payment whose fee is negative or does not fit leaves the store as it was. -/
theorem reconcile_refuses (hb : Budget s) (hi : Invoiced s) {r : Reservation} (hr : r ∈ s.reservations)
    (hst : r.status = .paymentInitiated) {ch : Nat → Choice} {settlement : PaymentSettlement} (hrep : Reports ch settlement)
    {env : Env} (hproves : Proves env settlement r) {n : Int} (hn : r.invoiceSats = some n)
    (hbad : ¬ (0 ≤ settlement.routeFeeSats ∧ n + settlement.routeFeeSats ≤ r.reservedSats)) :
    ∃ e, alone env (reconcileInitiatedPayment env r.id) ch s = some (.error e, s) := by
  obtain ⟨e, he⟩ := markPaid_refuses (settlement.markPaidArgs env) (hb.reservation_eq hr) hst hn hbad
  have hstep : exec env 0 (.markPaid r.id (settlement.markPaidArgs env)) (ch 2) ⟨s, [], [], []⟩ =
      some (.error e, ⟨s, [], [], []⟩) := by
    rw [exec_of_reports hrep]
    simp only [World.perform, World.operate, he]
  refine ⟨e, ?_⟩
  unfold alone
  rw [reconcile_initiated hb hi hr hst hrep hproves, step, Prog.run_bind_error hstep]
  rfl

end

end Commerce

end Archisynapse
