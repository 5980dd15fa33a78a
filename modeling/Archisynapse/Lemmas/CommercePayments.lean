import Archisynapse.Commerce.Execute
import Archisynapse.Lemmas.CommerceSessions
import Mathlib.Logic.Function.Basic

/-!
# Who pays for a reservation

The payment of a reservation is initiated once, since its status never goes back to `invoice_bound`; and only the worker that
initiated it goes on to pay, once. `InOrder` says so of a world, and `step_inOrder` that every step keeps it when the two steps
that need one have their precondition (`Pre`), which the programs establish before them.

With `careful`, no payment is initiated while a handler is about to release the reservation; then no reservation with an
initiated payment is ever released.
-/

namespace Archisynapse

namespace Commerce

/-! ## The status of a reservation -/

/-- The status of the reservation with an id. -/
def Store.status (s : Store) (id : String) : Option ReservationStatus := (s.reservation id).map (·.status)

theorem Store.status_of_reservation {s : Store} {id : String} {r : Reservation} (h : s.reservation id = some r) :
    s.status id = some r.status := by
  rw [Store.status, h]
  rfl

/-- Only the reservations matter. -/
theorem Store.status_congr {s s' : Store} (h : s'.reservations = s.reservations) : s'.status = s.status := by
  unfold Store.status Store.reservation
  rw [h]

/-- The rows found after one was updated. -/
theorem Store.reservation_setReservation (s : Store) (id : String) {u : Reservation → Reservation} (hu : ∀ r, (u r).id = r.id)
    (x : String) :
    (s.setReservation id u).reservation x = (s.reservation x).map (fun r => if r.id = id then u r else r) := by
  unfold Store.reservation Store.setReservation updateKey
  rw [List.find?_map]
  congr 2
  funext r
  by_cases hr : r.id = id
  · simp [hr, hu]
  · simp [hr]

theorem Store.status_setReservation {s : Store} {id : String} {row : Reservation} (h : s.reservation id = some row)
    {u : Reservation → Reservation} (hu : ∀ r, (u r).id = r.id) :
    (s.setReservation id u).status = Function.update s.status id (some (u row).status) := by
  have hid := (Store.reservation_eq_some h).2
  funext x
  unfold Store.status
  rw [s.reservation_setReservation id hu]
  by_cases hx : x = id
  · subst hx
    rw [Function.update_self, h, Option.map_some, Option.map_some, if_pos hid]
  · rw [Function.update_of_ne hx]
    cases hr : s.reservation x with
    | none => rfl
    | some r =>
      have hne : r.id ≠ id := fun he => hx ((Store.reservation_eq_some hr).2.symm.trans he)
      rw [Option.map_some, Option.map_some, Option.map_some, if_neg hne]

/-- A change of a status that neither initiates a payment nor releases a reservation. -/
inductive Calm : Option ReservationStatus → Option ReservationStatus → Prop where
  | same (st : Option ReservationStatus) : Calm st st
  | reserve : Calm none (some .reserved)
  | bind {st : ReservationStatus} (h : st = .reserved ∨ st = .invoiceBound) : Calm (some st) (some .invoiceBound)
  | settle : Calm (some .paymentInitiated) (some .paid)
  | finalize : Calm (some .paid) (some .finalized)

/-- A store whose statuses changed calmly. -/
def Store.CalmTo (s s' : Store) : Prop := ∀ id, Calm (s.status id) (s'.status id)

theorem Store.calm_of_reservations {s s' : Store} (h : s'.reservations = s.reservations) : s.CalmTo s' := by
  intro id
  rw [Store.status_congr h]
  exact .same _

theorem Store.calm_refl (s : Store) : s.CalmTo s := fun _ => .same _

theorem Store.calm_setReservation {s t : Store} (ht : t.reservations = s.reservations) {id : String} {row : Reservation}
    (h : s.reservation id = some row) {u : Reservation → Reservation} (hu : ∀ r, (u r).id = r.id)
    (hc : Calm (some row.status) (some (u row).status)) : s.CalmTo (t.setReservation id u) := by
  intro x
  have hrow : t.reservation id = some row := by
    unfold Store.reservation
    rw [ht]
    exact h
  rw [Store.status_setReservation hrow hu, Store.status_congr ht]
  by_cases hx : x = id
  · subst hx
    rw [Function.update_self, Store.status_of_reservation h]
    exact hc
  · rw [Function.update_of_ne hx]
    exact .same _

section

variable {s s' : Store}

theorem create_calm {now : Int} {uuid : String} {args : CreateArgs} {a : Authorization}
    (h : create now uuid args s = (.ok a, s')) : s.CalmTo s' := by
  obtain ⟨-, -, -, -, -, -, -, rfl⟩ := create_ok h
  exact Store.calm_of_reservations rfl

theorem revoke_calm {id : String} {a : Authorization} (h : revoke id s = (.ok a, s')) : s.CalmTo s' := by
  rcases revoke_ok h with rfl | rfl
  · exact Store.calm_refl _
  · exact Store.calm_of_reservations rfl

theorem reserve_calm {now : Int} {uuid : String} {tolerance : Int → Option Int} {args : ReserveArgs} {r : Reservation}
    (h : reserve now uuid tolerance args s = (.ok r, s')) : s.CalmTo s' := by
  rcases reserve_ok h with ⟨rfl, -, -, -⟩ | ⟨a, -, -, hid, -, -, -, hst, -, -, -, -, -, rfl⟩
  · exact Store.calm_refl _
  · intro x
    unfold Store.status Store.reservation Store.setAuthorization
    rw [List.find?_append]
    cases hx : s.reservations.find? (fun r => decide (r.id = x)) with
    | some q => exact .same _
    | none =>
      by_cases hr : r.id = x
      · simp only [hr, Option.none_or, List.find?_cons, decide_true, Option.map_none, Option.map_some, hst]
        exact .reserve
      · simp only [hr, Option.none_or, List.find?_cons, decide_false, List.find?_nil, Option.map_none]
        exact .same _

theorem bindInvoice_calm {id : String} {invoice : DecodedInvoice} {r : Reservation}
    (h : bindInvoice id invoice s = (.ok r, s')) : s.CalmTo s' := by
  obtain ⟨row, hrow, hst, -, -, -, -, rfl⟩ := bindInvoice_ok h
  exact Store.calm_setReservation rfl hrow (fun _ => rfl) (.bind hst)

theorem markPaid_calm {id : String} {args : MarkPaidArgs} {r : Reservation} (h : markPaid id args s = (.ok r, s')) :
    s.CalmTo s' := by
  obtain ⟨-, row, hrow, ⟨-, rfl, -⟩ | ⟨hst, -, n, -, -, rfl⟩⟩ := markPaid_ok h
  · exact Store.calm_refl _
  · refine Store.calm_setReservation rfl hrow ?_ ?_
    · exact fun _ => rfl
    rw [hst]
    exact .settle

theorem finalizePaidCall_calm {uuid : String} {verifies : PaymentReceipt → Bool} {args : FinalizeArgs} {p : PaymentReceipt}
    (h : finalizePaidCall uuid verifies args s = (.ok p, s')) : s.CalmTo s' := by
  rcases (finalizePaidCall_ok h).2 with ⟨rfl, -, -⟩ | ⟨row, a, -, -, hrow, hst, -, -, rfl⟩
  · exact Store.calm_refl _
  · refine Store.calm_setReservation rfl hrow ?_ ?_
    · exact fun _ => rfl
    rw [hst]
    exact .finalize

end

/-! ## Worlds in order -/

/-- The payments started: for which reservation, by which worker. -/
def World.paid (s : World) : List (String × Nat) := s.payments.map (fun p => (p.reservationId, p.worker))

/-- The records of one worker. -/
def World.own (s : World) (w : Nat) : List (String × Nat) × List (String × Nat) × List (String × Nat) :=
  (s.initiations.filter (fun h => decide (h.2 = w)), s.paid.filter (fun h => decide (h.2 = w)),
    s.handlers.filter (fun h => decide (h.2 = w)))

/-- A status that comes after the payment was initiated. -/
def ReservationStatus.initiated : ReservationStatus → Bool
  | .paymentInitiated => true
  | .paid => true
  | .finalized => true
  | .released => true
  | _ => false

/-- What holds of the records of a world. -/
structure InOrder (careful : Prop) (s : World) : Prop where
  initiated : ∀ h ∈ s.initiations, ∃ st, s.store.status h.1 = some st ∧ st.initiated = true ∧ (careful → st ≠ .released)
  once : (s.initiations.map (·.1)).Nodup
  paid : ∀ h ∈ s.paid, h ∈ s.initiations
  single : s.paid.Nodup
  handled : careful → ∀ h ∈ s.handlers, ∀ st, s.store.status h.1 = some st →
    st ≠ .paid ∧ st ≠ .finalized ∧ st ≠ .paymentInitiated

/-- What a worker leaves alone: the records of the others. -/
def Leaves (w : Nat) (s s' : World) : Prop := ∀ w', w' ≠ w → s'.own w' = s.own w'

section

variable {careful : Prop} {s s' : World} {w : Nat} {id : String}

theorem World.mem_initiations : (id, w) ∈ s.initiations ↔ (id, w) ∈ (s.own w).1 := by simp [World.own]

theorem World.mem_paid : (id, w) ∈ s.paid ↔ (id, w) ∈ (s.own w).2.1 := by simp [World.own]

theorem World.mem_handlers : (id, w) ∈ s.handlers ↔ (id, w) ∈ (s.own w).2.2 := by simp [World.own]

theorem inOrder_empty : InOrder careful .empty := by
  constructor <;> simp [World.empty, World.paid]

/-- Nobody has paid for a reservation whose payment is not initiated. -/
theorem InOrder.not_initiated (h : InOrder careful s) {st : ReservationStatus} (hst : s.store.status id = some st)
    (hi : st.initiated = false) : ∀ x ∈ s.initiations, x.1 ≠ id := by
  rintro x hx rfl
  obtain ⟨st', hst', hi', -⟩ := h.initiated x hx
  rw [hst] at hst'
  cases hst'
  rw [hi] at hi'
  cases hi'

/-- A calm change of the store. -/
theorem InOrder.calm (h : InOrder careful s) {store : Store} (hc : s.store.CalmTo store) :
    InOrder careful { s with store } := by
  refine ⟨fun x hx => ?_, h.once, h.paid, h.single, fun hcare x hx st hst => ?_⟩
  · obtain ⟨st, hst, hi, hr⟩ := h.initiated x hx
    have hx' := hc x.1
    rw [hst] at hx'
    change ∃ st, store.status x.1 = some st ∧ _
    generalize store.status x.1 = st' at hx'
    cases hx' with
    | same => exact ⟨st, rfl, hi, hr⟩
    | bind hb => rcases hb with rfl | rfl <;> cases hi
    | settle => exact ⟨_, rfl, rfl, fun _ => ReservationStatus.noConfusion⟩
    | finalize => exact ⟨_, rfl, rfl, fun _ => ReservationStatus.noConfusion⟩
  · have hx' := hc x.1
    rw [show store.status x.1 = some st from hst] at hx'
    have hh := h.handled hcare x hx
    generalize s.store.status x.1 = st' at hx' hh
    cases hx' with
    | same => exact hh st rfl
    | reserve => exact ⟨ReservationStatus.noConfusion, ReservationStatus.noConfusion, ReservationStatus.noConfusion⟩
    | bind => exact ⟨ReservationStatus.noConfusion, ReservationStatus.noConfusion, ReservationStatus.noConfusion⟩
    | settle => exact absurd rfl (hh _ rfl).2.2
    | finalize => exact absurd rfl (hh _ rfl).1

/-- The handlers of a worker are dismissed. -/
theorem InOrder.dismiss (h : InOrder careful s) (w : Nat) : InOrder careful (s.dismiss w) :=
  ⟨h.initiated, h.once, h.paid, h.single, fun hcare x hx => h.handled hcare x (List.mem_of_mem_filter hx)⟩

theorem World.dismiss_leaves (s : World) (w : Nat) : Leaves w s (s.dismiss w) := by
  intro w' hw
  unfold World.own World.dismiss World.paid
  simp only [List.filter_filter]
  refine Prod.ext rfl (Prod.ext rfl ?_)
  refine List.filter_congr (fun x _ => ?_)
  by_cases hx : x.2 = w'
  · simp [hx, hw]
  · simp [hx]

/-- A handler reads a reservation. -/
theorem InOrder.handle (h : InOrder careful s) (w : Nat) (id : String) :
    InOrder careful (s.handle w id (s.store.reservation id)) := by
  unfold World.handle
  cases hr : s.store.reservation id with
  | none => exact h
  | some r =>
    dsimp only
    split
    · rename_i hst
      refine ⟨h.initiated, h.once, h.paid, h.single, fun hcare x hx st hx' => ?_⟩
      rcases List.mem_append.1 hx with hx | hx
      · exact h.handled hcare x hx st hx'
      · rw [List.mem_singleton.1 hx] at hx'
        change s.store.status id = some st at hx'
        rw [Store.status_of_reservation hr] at hx'
        cases hx'
        rw [not_or, not_or] at hst
        exact ⟨hst.1, hst.2.1, hst.2.2⟩
    · exact h

theorem World.handle_leaves (s : World) (w : Nat) (id : String) (current : Option Reservation) :
    Leaves w s (s.handle w id current) := by
  intro w' hw
  unfold World.handle
  cases current with
  | none => rfl
  | some r =>
    dsimp only
    split
    · unfold World.own World.paid
      simp [hw.symm]
    · rfl

/-- A payment comes to an outcome. -/
theorem World.resolve_paid (s : World) (w : Nat) (id : String) (outcome : Outcome) : (s.resolve w id outcome).paid = s.paid := by
  unfold World.resolve World.paid
  rw [List.map_map]
  refine List.map_congr_left (fun p _ => ?_)
  simp only [Function.comp_apply]
  split <;> rfl

theorem InOrder.resolve (h : InOrder careful s) (w : Nat) (id : String) (outcome : Outcome) :
    InOrder careful (s.resolve w id outcome) := by
  have hpaid := s.resolve_paid w id outcome
  refine ⟨h.initiated, h.once, ?_, ?_, h.handled⟩
  · rw [hpaid]
    exact h.paid
  · rw [hpaid]
    exact h.single

theorem World.resolve_leaves (s : World) (w : Nat) (id : String) (outcome : Outcome) :
    Leaves w s (s.resolve w id outcome) := by
  intro w' _
  unfold World.own
  rw [s.resolve_paid w id outcome]
  rfl

/-- A payment is initiated, while no handler is about to release the reservation. -/
theorem InOrder.initiate (h : InOrder careful s) (hcare : careful → ∀ x ∈ s.handlers, x.1 ≠ id)
    (hst : s.store.status id = some .invoiceBound) {store : Store}
    (hstore : store.status = Function.update s.store.status id (some .paymentInitiated)) (w : Nat) :
    InOrder careful { s with store, initiations := s.initiations ++ [(id, w)] } := by
  have hno := h.not_initiated hst rfl
  refine ⟨fun x hx => ?_, nodup_map_concat h.once hno, fun x hx => List.mem_append_left _ (h.paid x hx), h.single,
    fun hc x hx st hx' => ?_⟩
  · change ∃ st, store.status x.1 = some st ∧ _
    rw [hstore]
    rcases List.mem_append.1 hx with hx | hx
    · rw [Function.update_of_ne (hno x hx)]
      exact h.initiated x hx
    · rw [List.mem_singleton.1 hx, Function.update_self]
      exact ⟨_, rfl, rfl, fun _ => ReservationStatus.noConfusion⟩
  · change store.status x.1 = some st at hx'
    rw [hstore, Function.update_of_ne (hcare hc x hx)] at hx'
    exact h.handled hc x hx st hx'

/-- The worker that initiated a payment starts it. -/
theorem InOrder.pay (h : InOrder careful s) (hi : (id, w) ∈ s.initiations) (hp : (id, w) ∉ s.paid) :
    InOrder careful { s with payments := s.payments ++ [⟨id, w, .pending⟩] } := by
  have hpaid : World.paid { s with payments := s.payments ++ [⟨id, w, .pending⟩] } = s.paid ++ [(id, w)] := by
    simp [World.paid]
  refine ⟨h.initiated, h.once, ?_, ?_, h.handled⟩
  · rw [hpaid]
    intro x hx
    rcases List.mem_append.1 hx with hx | hx
    · exact h.paid x hx
    · rw [List.mem_singleton.1 hx]
      exact hi
  · rw [hpaid]
    exact List.nodup_append.2 ⟨h.single, by simp, fun x hx y hy hxy => hp (by
      rw [List.mem_singleton.1 hy] at hxy
      exact hxy ▸ hx)⟩

/-- A handler releases the reservation it has read. -/
theorem InOrder.release (h : InOrder careful s) (hh : careful → (id, w) ∈ s.handlers) {st : ReservationStatus}
    (hst : s.store.status id = some st) (hne : st ≠ .released) {store : Store}
    (hstore : store.status = Function.update s.store.status id (some .released)) : InOrder careful { s with store } := by
  refine ⟨fun x hx => ?_, h.once, h.paid, h.single, fun hc x hx st' hx' => ?_⟩
  · change ∃ st, store.status x.1 = some st ∧ _
    rw [hstore]
    by_cases hxid : x.1 = id
    · -- in careful runs the handler found the reservation without a payment, and it still is
      rw [hxid, Function.update_self]
      refine ⟨_, rfl, rfl, fun hc => ?_⟩
      obtain ⟨st', hst', hi, -⟩ := h.initiated x hx
      rw [hxid, hst] at hst'
      cases hst'
      obtain ⟨h₁, h₂, h₃⟩ := h.handled hc _ (hh hc) st hst
      cases st <;> contradiction
    · rw [Function.update_of_ne hxid]
      exact h.initiated x hx
  · change store.status x.1 = some st' at hx'
    rw [hstore] at hx'
    by_cases hxid : x.1 = id
    · rw [hxid, Function.update_self] at hx'
      cases hx'
      exact ⟨ReservationStatus.noConfusion, ReservationStatus.noConfusion, ReservationStatus.noConfusion⟩
    · rw [Function.update_of_ne hxid] at hx'
      exact h.handled hc x hx st' hx'

end

/-! ## Steps -/

/-- What a step needs: to pay, the worker has initiated the payment and not paid yet; to release, it is the handler that has
read the reservation. -/
def Pre (careful : Prop) (w : Nat) : Action → World → Prop
  | .payInvoice id _, s => (id, w) ∈ s.initiations ∧ (id, w) ∉ s.paid
  | .release id, s => careful → (id, w) ∈ s.handlers
  | _, _ => True

/-- What a step leaves: a bound reservation is `invoice_bound`; who has initiated a payment has not paid yet; a handler that
found a reservation without a payment is recorded. -/
def Post (w : Nat) : (o : Action) → Except CommerceError o.Result → World → Prop
  | .bindInvoice id _, .ok r, _ => r.id = id ∧ r.status = .invoiceBound
  | .markPaymentInitiated id, .ok r, s => r.id = id ∧ (id, w) ∈ s.initiations ∧ (id, w) ∉ s.paid
  | .getReservation id true, .ok (some r), s =>
    ¬ (r.status = .paid ∨ r.status = .finalized ∨ r.status = .paymentInitiated) → (id, w) ∈ s.handlers
  | _, _, _ => True

theorem post_error {w : Nat} (o : Action) (e : CommerceError) (s : World) : Post w o (.error e) s := by
  cases o with
  | getReservation id handler => cases handler <;> trivial
  | _ => trivial

/-- No handler is about to release the reservation whose payment is initiated. -/
def Unhandled : Action → World → Prop
  | .markPaymentInitiated id, s => ∀ x ∈ s.handlers, x.1 ≠ id
  | _, _ => True

section

variable {careful : Prop} {s s' : World} {w : Nat}

/-- A step that keeps the world in order and leaves the records of others alone. -/
def Fine (careful : Prop) (w : Nat) (s s' : World) : Prop := InOrder careful s' ∧ Leaves w s s'

theorem fine_refl (h : InOrder careful s) : Fine careful w s s := ⟨h, fun _ _ => rfl⟩

/-- A store operation that leaves the statuses calm when it returns, and rolls back when it raises. -/
theorem operate_fine {α : Type} (h : InOrder careful s) {x : Operation α} (hx : RollsBack x)
    (hcalm : ∀ a store, x s.store = (.ok a, store) → s.store.CalmTo store) {r : Except CommerceError α}
    (he : s.operate x = (r, s')) : Fine careful w s s' := by
  unfold World.operate at he
  cases hr : x s.store with
  | mk r' store =>
    rw [hr] at he
    obtain ⟨rfl, rfl⟩ := Prod.mk.inj he
    cases r' with
    | ok a => exact ⟨h.calm (hcalm a store hr), fun _ _ => rfl⟩
    | error e =>
      obtain rfl := hx s.store store e hr
      exact fine_refl h

/-- Reading a receipt writes nothing. -/
theorem getReceipt_store {verifies : PaymentReceipt → Bool} {id : String} {p : Option PaymentReceipt} {st st' : Store}
    (h : getReceipt verifies id st = (.ok p, st')) : st' = st := by
  obtain ⟨x, st₁, hx, h₁⟩ := Exec.bind_eq_ok.1 h
  obtain ⟨-, rfl⟩ := Exec.gets_eq_ok.1 hx
  cases x with
  | none =>
    obtain ⟨-, rfl⟩ := Exec.pure_eq_ok.1 h₁
    rfl
  | some q =>
    rcases Exec.ite_eq_ok.1 h₁ with ⟨-, h₂⟩ | ⟨-, h₂⟩
    · obtain ⟨-, rfl⟩ := Exec.pure_eq_ok.1 h₂
      rfl
    · exact absurd h₂ (by simp)

theorem getReceipt_calm {verifies : PaymentReceipt → Bool} {id : String} {p : Option PaymentReceipt} {st st' : Store}
    (h : getReceipt verifies id st = (.ok p, st')) : st.CalmTo st' := by
  rw [getReceipt_store h]
  exact Store.calm_refl _

theorem getReceipt_rollsBack (verifies : PaymentReceipt → Bool) (id : String) : RollsBack (getReceipt verifies id) := by
  intro st st' e h
  unfold getReceipt at h
  rw [Exec.gets_bind] at h
  cases hf : st.receipts.find? (fun r => decide (r.id = id)) with
  | none =>
    rw [hf] at h
    exact (Prod.mk.inj h).2.symm
  | some p =>
    rw [hf] at h
    dsimp only at h
    split at h
    · exact (Prod.mk.inj h).2.symm
    · exact (Prod.mk.inj h).2.symm

/-- Starting a payment leaves the records of others alone. -/
theorem World.pay_leaves (s : World) (w : Nat) (id : String) :
    Leaves w s { s with payments := s.payments ++ [⟨id, w, .pending⟩] } := by
  intro w' hw
  simp [World.own, World.paid, hw.symm]

/-- A step that fails. -/
theorem fail_fine (h : InOrder careful s) {e : CommerceError} {o : Action} (hpre : Pre careful w o s)
    {r : Except CommerceError o.Result} (he : s.fail w e o = (r, s')) : Fine careful w s s' ∧ Post w o r s' := by
  cases o with
  | payInvoice id req =>
    obtain ⟨rfl, rfl⟩ := Prod.mk.inj he
    exact ⟨⟨h.pay hpre.1 hpre.2, s.pay_leaves w id⟩, trivial⟩
  | release id =>
    obtain ⟨rfl, rfl⟩ := Prod.mk.inj he
    exact ⟨⟨h.dismiss w, s.dismiss_leaves w⟩, trivial⟩
  | _ =>
    obtain ⟨rfl, rfl⟩ := Prod.mk.inj he
    exact ⟨fine_refl h, post_error _ _ _⟩

/-- A store operation about which nothing more is said. -/
theorem operate_post {o : Action} (h : InOrder careful s) {x : Operation o.Result} (hx : RollsBack x)
    (hcalm : ∀ a store, x s.store = (.ok a, store) → s.store.CalmTo store) {r : Except CommerceError o.Result}
    (hpost : ∀ a store, x s.store = (.ok a, store) → Post w o (.ok a) { s with store })
    (he : s.operate x = (r, s')) : Fine careful w s s' ∧ Post w o r s' := by
  refine ⟨operate_fine h hx hcalm he, ?_⟩
  unfold World.operate at he
  cases hr : x s.store with
  | mk r' store =>
    rw [hr] at he
    obtain ⟨rfl, rfl⟩ := Prod.mk.inj he
    cases r' with
    | ok a => exact hpost a store hr
    | error e => exact post_error _ _ _

/-- Initiating a payment. -/
theorem markPaymentInitiated_fine (h : InOrder careful s) {id : String} (hcare : careful → ∀ x ∈ s.handlers, x.1 ≠ id)
    {env : Env} {ch : Choice} {r : Except CommerceError Reservation}
    (he : s.perform env w ch (.markPaymentInitiated id) = (r, s')) :
    Fine careful w s s' ∧ Post w (.markPaymentInitiated id) r s' := by
  simp only [World.perform, World.operate] at he
  cases hr : markPaymentInitiated id s.store with
  | mk r' store =>
    rw [hr] at he
    cases r' with
    | error e =>
      obtain ⟨rfl, rfl⟩ := Prod.mk.inj he
      obtain rfl := transaction_rollsBack _ s.store store e hr
      exact ⟨fine_refl h, trivial⟩
    | ok a =>
      obtain ⟨rfl, rfl⟩ := Prod.mk.inj he
      obtain ⟨row, hrow, hst, hback, rfl⟩ := markPaymentInitiated_ok hr
      have hbound : s.store.status id = some .invoiceBound := by rw [Store.status_of_reservation hrow, hst]
      have hup := Store.status_setReservation hrow (u := fun r => { r with status := .paymentInitiated }) (fun _ => rfl)
      refine ⟨⟨h.initiate hcare hbound hup w, fun w' hw => ?_⟩, ?_, List.mem_append_right _ (by simp), ?_⟩
      · simp [World.own, World.paid, hw.symm]
      · exact (Store.reservation_eq_some hback).2
      · -- nobody had initiated the payment, so nobody had paid
        exact fun hp => h.not_initiated hbound rfl _ (h.paid _ hp) rfl

/-- Releasing a reservation. -/
theorem release_fine (h : InOrder careful s) {id : String} (hh : careful → (id, w) ∈ s.handlers)
    {env : Env} {ch : Choice} {r : Except CommerceError Reservation} (he : s.perform env w ch (.release id) = (r, s')) :
    Fine careful w s s' := by
  simp only [World.perform, World.operate] at he
  cases hr : release id (s.dismiss w).store with
  | mk r' store =>
    rw [hr] at he
    obtain ⟨rfl, rfl⟩ := Prod.mk.inj he
    refine ⟨?_, s.dismiss_leaves w⟩
    cases r' with
    | error e =>
      obtain rfl := transaction_rollsBack _ _ store e hr
      exact h.dismiss w
    | ok a =>
      obtain ⟨row, hrow, ⟨rfl, -, -⟩ | ⟨hne, -, -, -, rfl⟩⟩ := release_ok hr
      · exact h.dismiss w
      · refine InOrder.dismiss (s := { s with store := _ })
          (h.release hh (Store.status_of_reservation hrow) hne ?_) w
        exact Store.status_setReservation (s := Store.setAuthorization _ row.authorizationId _) hrow (fun _ => rfl)

/-- A step that does not fail. -/
theorem perform_fine (h : InOrder careful s) {env : Env} {ch : Choice} {o : Action} (hpre : Pre careful w o s)
    (hcare : careful → Unhandled o s) {r : Except CommerceError o.Result} (he : s.perform env w ch o = (r, s')) :
    Fine careful w s s' ∧ Post w o r s' := by
  cases o with
  | postInitial endpoint query context =>
    obtain ⟨rfl, rfl⟩ := Prod.mk.inj he
    exact ⟨fine_refl h, trivial⟩
  | decodeInvoice req =>
    obtain ⟨rfl, rfl⟩ := Prod.mk.inj he
    exact ⟨fine_refl h, trivial⟩
  | getAuthorization id =>
    obtain ⟨rfl, rfl⟩ := Prod.mk.inj he
    exact ⟨fine_refl h, trivial⟩
  | lookupPayment hash =>
    obtain ⟨rfl, rfl⟩ := Prod.mk.inj he
    exact ⟨fine_refl h, trivial⟩
  | postDelivery endpoint macaroon preimage =>
    obtain ⟨rfl, rfl⟩ := Prod.mk.inj he
    exact ⟨fine_refl h, trivial⟩
  | reserve args =>
    exact operate_post (o := .reserve args) h (reserve_rollsBack _ _ _ _) (fun _ _ => reserve_calm) (fun _ _ _ => trivial) he
  | getReceipt id =>
    exact operate_post (o := .getReceipt id) h (getReceipt_rollsBack _ _) (fun _ _ => getReceipt_calm) (fun _ _ _ => trivial) he
  | markPaid id args =>
    exact operate_post (o := .markPaid id args) h (markPaid_rollsBack _ _) (fun _ _ => markPaid_calm) (fun _ _ _ => trivial) he
  | finalizePaidCall args =>
    exact operate_post (o := .finalizePaidCall args) h (finalizePaidCall_rollsBack _ _ _) (fun _ _ => finalizePaidCall_calm)
      (fun _ _ _ => trivial) he
  | create args =>
    exact operate_post (o := .create args) h (create_rollsBack _ _ _) (fun _ _ => create_calm) (fun _ _ _ => trivial) he
  | revoke id =>
    exact operate_post (o := .revoke id) h (transaction_rollsBack _) (fun _ _ => revoke_calm) (fun _ _ _ => trivial) he
  | bindInvoice id invoice =>
    refine operate_post (o := .bindInvoice id invoice) h (bindInvoice_rollsBack _ _) (fun _ _ => bindInvoice_calm) ?_ he
    intro a store hok
    obtain ⟨row, hrow, -, -, -, -, hback, rfl⟩ := bindInvoice_ok hok
    have hst := Store.status_setReservation hrow (u := (·.bind invoice)) (fun _ => rfl)
    have hst' := Store.status_of_reservation hback
    rw [hst, Function.update_self] at hst'
    exact ⟨(Store.reservation_eq_some hback).2, (Option.some.inj hst').symm⟩
  | markPaymentInitiated id => exact markPaymentInitiated_fine h hcare he
  | release id => exact ⟨release_fine h hpre he, trivial⟩
  | payInvoice id req =>
    obtain ⟨rfl, rfl⟩ := Prod.mk.inj he
    exact ⟨⟨h.pay hpre.1 hpre.2, s.pay_leaves w id⟩, trivial⟩
  | awaitPayment id =>
    simp only [World.perform] at he
    cases hp : ch.payment with
    | settlement settlement =>
      rw [hp] at he
      obtain ⟨rfl, rfl⟩ := Prod.mk.inj he
      exact ⟨⟨h.resolve w id .settled, s.resolve_leaves w id .settled⟩, trivial⟩
    | paymentError message =>
      rw [hp] at he
      obtain ⟨rfl, rfl⟩ := Prod.mk.inj he
      exact ⟨⟨h.resolve w id .failed, s.resolve_leaves w id .failed⟩, trivial⟩
    | unknown e =>
      rw [hp] at he
      obtain ⟨rfl, rfl⟩ := Prod.mk.inj he
      exact ⟨fine_refl h, trivial⟩
  | getReservation id handler =>
    obtain ⟨rfl, rfl⟩ := Prod.mk.inj he
    cases handler with
    | false => exact ⟨fine_refl h, trivial⟩
    | true =>
      refine ⟨⟨h.handle w id, s.handle_leaves w id _⟩, ?_⟩
      cases hr : s.store.reservation id with
      | none => trivial
      | some row =>
        intro hst
        simp only [if_true, World.handle, if_pos hst]
        exact List.mem_append_right _ (by simp)

end

end Commerce

end Archisynapse
