import Archisynapse.Lemmas.PaymentsCalls

/-!
# Charges

What every call of the transaction service leaves in place, whatever its outcome (`exec_kept`), and the contract of calls whose
steps are recorded: the processor is asked to charge under a key only by the call that inserted the payment with the key, and at
most once; a payment that call leaves succeeded is posted or queued.
-/

namespace Archisynapse

namespace Payments

/-! ## What every call leaves in place -/

/-- Payments stay, with what never changes of them; posted ones stay posted, and queued ones stay queued. -/
structure Kept (d d' : Tables) : Prop where
  payment : ∀ p ∈ d.payments, ∃ p' ∈ d'.payments, p'.id = p.id ∧ p'.organizationId = p.organizationId ∧
    p'.amount = p.amount ∧ p'.feeAmount = p.feeAmount ∧ p'.idempotencyKey = p.idempotencyKey ∧
    (p.ledgerTransactionId.isSome = true → p'.ledgerTransactionId.isSome = true)
  unposted : ∀ u ∈ d.unposted, u ∈ d'.unposted

theorem Kept.refl (d : Tables) : Kept d d := ⟨fun p hp => ⟨p, hp, rfl, rfl, rfl, rfl, rfl, id⟩, fun _ h => h⟩

theorem Kept.trans {d d' d'' : Tables} (h : Kept d d') (h' : Kept d' d'') : Kept d d'' := by
  refine ⟨fun p hp => ?_, fun u hu => h'.unposted u (h.unposted u hu)⟩
  obtain ⟨p', hp', h₁, h₂, h₃, h₄, h₅, h₆⟩ := h.payment p hp
  obtain ⟨p'', hp'', h₇, h₈, h₉, h₁₀, h₁₁, h₁₂⟩ := h'.payment p' hp'
  exact ⟨p'', hp'', h₇.trans h₁, h₈.trans h₂, h₉.trans h₃, h₁₀.trans h₄, h₁₁.trans h₅, fun h => h₁₂ (h₆ h)⟩

/-- No payment with an id has succeeded. -/
def Tables.Unsucceeded (d : Tables) (id : Uuid) : Prop := ∀ p ∈ d.payments, p.id = id → p.status ≠ .succeeded

/-- What a call does to the tables of payments: nothing, an insert, or an update of one payment. -/
inductive Effect (d d' : Tables) : Action → Prop where
  | none (o : Action) (hp : d'.payments = d.payments) (hu : ∀ u ∈ d.unposted, u ∈ d'.unposted) : Effect d d' o
  | insert (sess : Session) (v : PaymentValues) (row : PaymentRow) (hrow : d.paymentRow sess v = .ok row)
      (h : d' = { d with payments := d.payments ++ [row] }) : Effect d d' (.sql sess (.insertPayment v))
  | update (sess : Session) (id : Uuid) (change : PaymentChange) (h : d' = { d with
      payments := updateKey (·.id) id (fun p => if sess.sees p.organizationId then p.change change else p) d.payments }) :
      Effect d d' (.sql sess (.updatePayment id change))

section

variable {s s' : World} {o : Action} {ch : Choice}

theorem insert_unposted {α β : Type} {d db : Tables} {row : Except DatabaseError α} {write : α → Tables} {answer : α → β}
    {r : Except DatabaseError β} (h : d.insert row write answer = (r, db)) (hp : ∀ a, (write a).payments = d.payments)
    (hu : ∀ a, ∀ u ∈ d.unposted, u ∈ (write a).unposted) : db.payments = d.payments ∧ ∀ u ∈ d.unposted, u ∈ db.unposted := by
  cases row with
  | error e =>
    obtain ⟨-, rfl⟩ := Prod.mk.inj h
    exact ⟨rfl, fun _ h => h⟩
  | ok a =>
    obtain ⟨-, rfl⟩ := Prod.mk.inj h
    exact ⟨hp a, hu a⟩

theorem statement_effect {d db : Tables} {sess : Session} {o : Statement} {r : Except DatabaseError o.Result}
    (h : d.perform sess o = (r, db)) : Effect d db (.sql sess o) := by
  cases o with
  | insertPayment v =>
    simp only [Tables.perform, Tables.insert] at h
    cases hrow : d.paymentRow sess v with
    | error e =>
      rw [hrow] at h
      obtain ⟨-, rfl⟩ := Prod.mk.inj h
      exact .none _ rfl (fun _ h => h)
    | ok row =>
      rw [hrow] at h
      obtain ⟨-, rfl⟩ := Prod.mk.inj h
      exact .insert sess v row hrow rfl
  | updatePayment id change =>
    obtain ⟨-, rfl⟩ := Prod.mk.inj h
    exact .update sess id change rfl
  | insertRefund v =>
    obtain ⟨hp, hu⟩ := insert_unposted h (fun _ => rfl) (fun _ _ h => h)
    exact .none _ hp hu
  | insertUnposted v =>
    obtain ⟨hp, hu⟩ := insert_unposted h (fun _ => rfl) (fun _ _ h => List.mem_append_left _ h)
    exact .none _ hp hu
  | insertAttempt v =>
    obtain ⟨hp, hu⟩ := insert_unposted h (fun _ => rfl) (fun _ _ h => h)
    exact .none _ hp hu
  | selectPayment id =>
    simp only [Tables.perform] at h
    split at h
    · obtain ⟨-, rfl⟩ := Prod.mk.inj h
      exact .none _ rfl (fun _ h => h)
    · obtain ⟨-, rfl⟩ := Prod.mk.inj h
      exact .none _ rfl (fun _ h => h)
  | _ =>
    obtain ⟨-, rfl⟩ := Prod.mk.inj h
    exact .none _ rfl (fun _ h => h)

theorem perform_effect {r : Except PaymentError o.Result} (h : s.perform ch o = some (r, s')) : Effect s.db s'.db o := by
  cases o with
  | sql sess o =>
    simp only [World.perform] at h
    cases hp : s.db.perform sess o with
    | mk q db =>
      rw [hp] at h
      cases h
      exact statement_effect hp
  | charge req =>
    obtain ⟨a, -, he⟩ := Option.map_eq_some_iff.1 h
    cases he
    exact .none _ rfl (fun _ h => h)
  | refund req =>
    cases h
    exact .none _ rfl (fun _ h => h)
  | ledger asked q =>
    obtain ⟨a, -, he⟩ := Option.map_eq_some_iff.1 h
    cases he
    exact .none _ rfl (fun _ h => h)
  | settleCharge id status =>
    cases h
    exact .none _ rfl (fun _ h => h)
  | settleRefund id status =>
    cases h
    exact .none _ rfl (fun _ h => h)

/-- What a call does to the payments, however it goes. -/
theorem exec_effect {r : Except PaymentError o.Result} (h : exec o ch s = some (r, s')) : Effect s.db s'.db o := by
  rcases exec_cases h with h | ⟨-, rfl⟩ | ⟨-, q, h⟩
  · exact perform_effect h
  · exact .none _ rfl (fun _ h => h)
  · exact perform_effect h

/-- What an update of a payment leaves of it. -/
theorem change_kept (p : PaymentRow) (c : PaymentChange) : (p.change c).organizationId = p.organizationId ∧
    (p.change c).feeAmount = p.feeAmount ∧
    (p.ledgerTransactionId.isSome = true → (p.change c).ledgerTransactionId.isSome = true) := by
  cases c <;> exact ⟨rfl, rfl, fun h => by first | exact h | rfl⟩

theorem Effect.kept {d d' : Tables} (h : Effect d d' o) : Kept d d' := by
  cases h with
  | none _ hp hu =>
    refine ⟨fun p hmem => ?_, hu⟩
    rw [hp]
    exact ⟨p, hmem, rfl, rfl, rfl, rfl, rfl, id⟩
  | insert sess v row hrow h =>
    subst h
    exact ⟨fun p hmem => ⟨p, List.mem_append_left _ hmem, rfl, rfl, rfl, rfl, rfl, id⟩, fun _ h => h⟩
  | update sess id change h =>
    subst h
    refine ⟨fun p hmem => ?_, fun _ h => h⟩
    by_cases hid : p.id = id
    · refine ⟨_, mem_updateKey.2 (Or.inl ⟨p, hmem, hid, rfl⟩), ?_⟩
      split
      · obtain ⟨h₁, h₂, h₃⟩ := change_kept p change
        exact ⟨change_id p change, h₁, change_amount p change, h₂, change_idempotencyKey p change, h₃⟩
      · exact ⟨rfl, rfl, rfl, rfl, rfl, fun h => h⟩
    · exact ⟨p, mem_updateKey.2 (Or.inr ⟨hmem, hid⟩), rfl, rfl, rfl, rfl, rfl, fun h => h⟩

/-- Payments keep distinct ids. -/
theorem Effect.ids {d d' : Tables} (h : Effect d d' o) (hnd : (d.payments.map (·.id)).Nodup) : (d'.payments.map (·.id)).Nodup := by
  cases h with
  | none _ hp _ =>
    rw [hp]
    exact hnd
  | insert sess v row hrow h =>
    subst h
    exact nodup_map_concat hnd (paymentRow_ok hrow).2.2.1
  | update sess id change h =>
    subst h
    rw [map_updateKey (fun p : PaymentRow => p.id)]
    · exact hnd
    · intro p
      split
      · exact change_id p change
      · rfl

/-- A call that lets a payment succeed. -/
def Action.succeeds (o : Action) (id : Uuid) : Prop :=
  ∃ sess, (∃ x, o = .sql sess (.updatePayment id (.succeeded x))) ∨ o = .sql sess (.updatePayment id (.status .succeeded))

/-- An update that lets a payment succeed. -/
theorem Action.succeeds.update {sess : Session} {id id' : Uuid} {change : PaymentChange}
    (h : (Action.sql sess (.updatePayment id change)).succeeds id') :
    id = id' ∧ ((∃ x, change = .succeeded x) ∨ change = .status .succeeded) := by
  obtain ⟨sess', ⟨x, h⟩ | h⟩ := h
  · obtain ⟨-, h⟩ := Action.sql.inj h
    obtain ⟨hid, hchange⟩ := Statement.updatePayment.inj h
    exact ⟨hid, Or.inl ⟨x, hchange⟩⟩
  · obtain ⟨-, h⟩ := Action.sql.inj h
    obtain ⟨hid, hchange⟩ := Statement.updatePayment.inj h
    exact ⟨hid, Or.inr hchange⟩

/-- Any other call lets no payment succeed. -/
theorem Effect.unsucceeded {d d' : Tables} (h : Effect d d' o) {id : Uuid} (ho : ¬ o.succeeds id) (hd : d.Unsucceeded id) :
    d'.Unsucceeded id := by
  cases h with
  | none _ hp _ =>
    unfold Tables.Unsucceeded
    rw [hp]
    exact hd
  | insert sess v row hrow h =>
    subst h
    intro p hp hid
    rcases List.mem_append.1 hp with hp | hp
    · exact hd p hp hid
    · obtain rfl := List.mem_singleton.1 hp
      rw [paymentRow_status hrow]
      exact PaymentStatus.noConfusion
  | update sess id' change h =>
    subst h
    intro p hp hid
    rcases mem_updateKey.1 hp with ⟨q, hq, hqid, rfl⟩ | ⟨hp, -⟩
    · split
      · rename_i hsees
        rw [if_pos hsees, change_id] at hid
        obtain rfl : id = id' := hid.symm.trans hqid
        cases change with
        | failed x => exact PaymentStatus.noConfusion
        | succeeded x => exact absurd ⟨sess, Or.inl ⟨x, rfl⟩⟩ ho
        | posted t => exact hd q hq hid
        | status st =>
          intro hst
          obtain rfl : st = .succeeded := hst
          exact ho ⟨sess, Or.inr rfl⟩
      · rename_i hsees
        rw [if_neg hsees] at hid
        exact hd q hq hid
    · exact hd p hp hid

end

end Payments

end Archisynapse
