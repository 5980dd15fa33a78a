import Archisynapse.Lemmas.CommerceChanges

/-!
# Sessions of the store

Every operation of a session makes one change, and what it returns is known to the store it leaves. What is kept by every
change holds after every session.
-/

namespace Archisynapse

namespace Commerce

open Exec (throw gets modify transaction)

theorem Store.knows_of_mem {s : Store} {r : Reservation} (h : r ∈ s.reservations) : s.Knows r := ⟨r, h, rfl, rfl⟩

theorem Store.knows_of_reservation {s : Store} {id : String} {r : Reservation} (h : s.reservation id = some r) : s.Knows r :=
  Store.knows_of_mem (Store.reservation_eq_some h).1

/-! ## What an operation returns -/

theorem reserve_knows {now : Int} {uuid : String} {tolerance : Int → Option Int} {args : ReserveArgs} {r : Reservation}
    {s s' : Store} (h : reserve now uuid tolerance args s = (.ok r, s')) : s'.Knows r := by
  rcases reserve_ok h with ⟨rfl, hr, -, -⟩ | ⟨a, -, -, -, -, -, -, -, -, -, -, -, -, rfl⟩
  · exact Store.knows_of_mem hr
  · exact ⟨r, List.mem_append_right _ (by simp), rfl, rfl⟩

theorem bindInvoice_knows {id : String} {invoice : DecodedInvoice} {r : Reservation} {s s' : Store}
    (h : bindInvoice id invoice s = (.ok r, s')) : s'.Knows r := by
  obtain ⟨_, -, -, -, -, -, hback, -⟩ := bindInvoice_ok h
  exact Store.knows_of_reservation hback

theorem markPaymentInitiated_knows {id : String} {r : Reservation} {s s' : Store}
    (h : markPaymentInitiated id s = (.ok r, s')) : s'.Knows r := by
  obtain ⟨_, -, -, hback, -⟩ := markPaymentInitiated_ok h
  exact Store.knows_of_reservation hback

theorem markPaid_knows {id : String} {args : MarkPaidArgs} {r : Reservation} {s s' : Store}
    (h : markPaid id args s = (.ok r, s')) : s'.Knows r := by
  obtain ⟨-, row, hrow, ⟨-, rfl, rfl⟩ | ⟨-, hback, -⟩⟩ := markPaid_ok h
  · exact Store.knows_of_reservation hrow
  · exact Store.knows_of_reservation hback

theorem release_knows {id : String} {r : Reservation} {s s' : Store} (h : release id s = (.ok r, s')) : s'.Knows r := by
  obtain ⟨row, hrow, ⟨rfl, rfl, -⟩ | ⟨-, -, -, hback, -⟩⟩ := release_ok h
  · exact Store.knows_of_reservation hrow
  · exact Store.knows_of_reservation hback

/-- An operation run for its result, or for nothing. -/
theorem bind_pure_ok {α β : Type} {x : Operation α} {f : α → β} {b : β} {s s' : Store}
    (h : (do let a ← x; pure (f a) : Operation β) s = (.ok b, s')) : ∃ a, x s = (.ok a, s') ∧ b = f a := by
  obtain ⟨a, s₁, hx, hp⟩ := Exec.bind_eq_ok.1 h
  obtain ⟨rfl, rfl⟩ := Exec.pure_eq_ok.1 hp
  exact ⟨a, hx, rfl⟩

/-- An operation of a session that returned. -/
theorem StoreCall.run_ok {c : StoreCall} {returned rs : List Reservation} {s s' : Store} (hb : Budget s)
    (hknown : ∀ r ∈ returned, s.Knows r) (hc : c.honest returned = true) (h : c.run s = (.ok rs, s')) :
    Change s s' ∧ ∀ r ∈ rs, s'.Knows r := by
  cases c with
  | create now uuid args =>
    obtain ⟨a, h₁, rfl⟩ := bind_pure_ok h
    exact ⟨create_change h₁, by simp⟩
  | revoke id =>
    obtain ⟨a, h₁, rfl⟩ := bind_pure_ok h
    exact ⟨revoke_change h₁, by simp⟩
  | reserve now uuid tolerance args =>
    obtain ⟨r, h₁, rfl⟩ := bind_pure_ok h
    exact ⟨reserve_change h₁, by simpa using reserve_knows h₁⟩
  | getReservation id =>
    simp only [StoreCall.run, Exec.gets_eq_ok] at h
    obtain ⟨rfl, rfl⟩ := h
    exact ⟨.nothing, fun r hr => Store.knows_of_reservation (Option.mem_toList.1 hr)⟩
  | bindInvoice id invoice =>
    obtain ⟨r, h₁, rfl⟩ := bind_pure_ok h
    exact ⟨bindInvoice_change h₁, by simpa using bindInvoice_knows h₁⟩
  | markPaymentInitiated id =>
    obtain ⟨r, h₁, rfl⟩ := bind_pure_ok h
    exact ⟨markPaymentInitiated_change h₁, by simpa using markPaymentInitiated_knows h₁⟩
  | markPaid id args =>
    obtain ⟨r, h₁, rfl⟩ := bind_pure_ok h
    exact ⟨markPaid_change h₁, by simpa using markPaid_knows h₁⟩
  | release id =>
    obtain ⟨r, h₁, rfl⟩ := bind_pure_ok h
    exact ⟨release_change h₁, by simpa using release_knows h₁⟩
  | finalizePaidCall uuid verifies args =>
    obtain ⟨p, h₁, rfl⟩ := bind_pure_ok h
    exact ⟨finalizePaidCall_change hb (hknown _ (of_decide_eq_true hc)) h₁, by simp⟩

/-- An operation run for its result raises when the operation does. -/
theorem bind_pure_rollsBack {α β : Type} {x : Operation α} (f : α → β) (hx : RollsBack x) :
    RollsBack (do let a ← x; pure (f a) : Operation β) :=
  fun s s' e h => hx s s' e (Exec.bind_pure_eq_error h)

/-- An operation of a session that raised leaves the store as it was. -/
theorem StoreCall.run_rollsBack (c : StoreCall) : RollsBack c.run := by
  cases c with
  | create now uuid args => exact bind_pure_rollsBack _ (create_rollsBack now uuid args)
  | revoke id => exact bind_pure_rollsBack _ (transaction_rollsBack _)
  | reserve now uuid tolerance args => exact bind_pure_rollsBack _ (reserve_rollsBack now uuid tolerance args)
  | getReservation id => exact fun s s' e h => absurd (Prod.mk.inj h).1 (by simp)
  | bindInvoice id invoice => exact bind_pure_rollsBack _ (bindInvoice_rollsBack id invoice)
  | markPaymentInitiated id => exact bind_pure_rollsBack _ (transaction_rollsBack _)
  | markPaid id args => exact bind_pure_rollsBack _ (markPaid_rollsBack id args)
  | release id => exact bind_pure_rollsBack _ (transaction_rollsBack _)
  | finalizePaidCall uuid verifies args => exact bind_pure_rollsBack _ (finalizePaidCall_rollsBack uuid verifies args)

/-! ## Runs -/

/-- What holds of a session: the budget invariant, and what was returned is known. -/
structure Session.Good (σ : Session) : Prop where
  budget : Budget σ.store
  returned : ∀ r ∈ σ.returned, σ.store.Knows r

theorem Session.good_empty : Session.Good .empty := ⟨budget_empty, by simp [Session.empty]⟩

/-- One operation of a session makes one change. -/
theorem Session.Good.step {σ : Session} (h : σ.Good) (c : StoreCall) :
    Change σ.store (σ.step c).store ∧ (σ.step c).Good := by
  unfold Session.step
  by_cases hc : c.honest σ.returned = true
  · rw [if_pos hc]
    cases hr : c.run σ.store with
    | mk r s =>
      cases r with
      | ok rs =>
        obtain ⟨hch, hrs⟩ := StoreCall.run_ok h.budget h.returned hc hr
        refine ⟨hch, hch.budget h.budget, fun r hr => ?_⟩
        rcases List.mem_append.1 hr with hr | hr
        · exact hch.knows (h.returned r hr)
        · exact hrs r hr
      | error e =>
        obtain rfl := c.run_rollsBack σ.store s e hr
        exact ⟨.nothing, h.budget, h.returned⟩
  · rw [if_neg hc]
    exact ⟨.nothing, h⟩

/-- What every change keeps holds after a session. -/
theorem Session.Good.after {P : Store → Prop} (hP : ∀ s s', Budget s → Change s s' → P s → P s') {σ : Session} (h : σ.Good)
    (hσ : P σ.store) (cs : List StoreCall) : (σ.after cs).Good ∧ P (σ.after cs).store := by
  induction cs generalizing σ with
  | nil => exact ⟨h, hσ⟩
  | cons c cs ih =>
    obtain ⟨hch, hgood⟩ := h.step c
    exact ih hgood (hP _ _ h.budget hch hσ)

end Commerce

end Archisynapse
