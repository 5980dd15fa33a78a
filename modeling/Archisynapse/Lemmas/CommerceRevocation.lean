import Archisynapse.Lemmas.CommerceExecute

/-!
# What a revoked or expired authorization lets through

Only a new reservation is checked against the authorization: it is active and has not expired (`Store.Advances`). The later
steps look at the reservation alone. So a reservation that is still to be paid when its authorization stops can be paid, and
one that is not there yet never will be (`Closed`, `Halted`).
-/

namespace Archisynapse

namespace Commerce

/-! ## What an operation does to the rows -/

/-- A reservation whose payment is still to be initiated. -/
def ReservationStatus.waits (st : ReservationStatus) : Prop := st = .reserved ∨ st = .invoiceBound

/-- What one operation at a time does to the rows that a payment needs: a reservation is new, under an authorization that is
active and has not expired, or was there for the same authorization, and no status goes back; an authorization keeps its expiry
and does not become active again. -/
structure Store.Advances (now : Int) (s s' : Store) : Prop where
  rows : ∀ id r', s'.reservation id = some r' →
    (s.reservation id = none ∧ r'.status = .reserved ∧
      ∃ a, s.authorization r'.authorizationId = some a ∧ a.status = .active ∧ now < a.expiresAt) ∨
    ∃ r, s.reservation id = some r ∧ r.authorizationId = r'.authorizationId ∧ (r'.status.waits → r.status.waits) ∧
      (r'.status = .paymentInitiated → r.status = .paymentInitiated ∨ r.status.waits)
  authorizations : ∀ id a, s.authorization id = some a →
    ∃ a', s'.authorization id = some a' ∧ a'.expiresAt = a.expiresAt ∧ (a.status ≠ .active → a'.status ≠ .active)

section

variable {now : Int} {s s' t : Store}

theorem Store.advances_refl (s : Store) : s.Advances now s where
  rows _ r' h := Or.inr ⟨r', h, rfl, fun h => h, fun h => Or.inl h⟩
  authorizations _ a h := ⟨a, h, rfl, fun h => h⟩

/-- Where an operation writes no authorization. -/
theorem Store.authorizations_same (h : s'.authorizations = s.authorizations) :
    ∀ id a, s.authorization id = some a →
      ∃ a', s'.authorization id = some a' ∧ a'.expiresAt = a.expiresAt ∧ (a.status ≠ .active → a'.status ≠ .active) := by
  intro id a ha
  refine ⟨a, ?_, rfl, fun h => h⟩
  unfold Store.authorization
  rw [h]
  exact ha

/-- Where an operation updates an authorization: it keeps its expiry, and does not become active. -/
theorem Store.authorizations_set {k : String} {u : Authorization → Authorization}
    (h : s'.authorizations = updateKey (·.id) k u s.authorizations) (hid : ∀ a, (u a).id = a.id)
    (hexpires : ∀ a, (u a).expiresAt = a.expiresAt) (hactive : ∀ a, a.status ≠ .active → (u a).status ≠ .active) :
    ∀ id a, s.authorization id = some a →
      ∃ a', s'.authorization id = some a' ∧ a'.expiresAt = a.expiresAt ∧ (a.status ≠ .active → a'.status ≠ .active) := by
  intro id a ha
  have hfind : s'.authorization id = some (if id = k then u a else a) := by
    unfold Store.authorization at ha ⊢
    rw [h, find?_updateKey hid k id, ha, Option.map_some]
  refine ⟨_, hfind, ?_⟩
  by_cases hk : id = k
  · rw [if_pos hk]
    exact ⟨hexpires a, hactive a⟩
  · rw [if_neg hk]
    exact ⟨rfl, fun h => h⟩

/-- Where an operation writes no reservation. -/
theorem Store.rows_same (h : s'.reservations = s.reservations) :
    ∀ id r', s'.reservation id = some r' →
      (s.reservation id = none ∧ r'.status = .reserved ∧
        ∃ a, s.authorization r'.authorizationId = some a ∧ a.status = .active ∧ now < a.expiresAt) ∨
      ∃ r, s.reservation id = some r ∧ r.authorizationId = r'.authorizationId ∧ (r'.status.waits → r.status.waits) ∧
        (r'.status = .paymentInitiated → r.status = .paymentInitiated ∨ r.status.waits) := by
  intro id r' hr
  refine Or.inr ⟨r', ?_, rfl, fun h => h, fun h => Or.inl h⟩
  unfold Store.reservation at hr ⊢
  rw [← h]
  exact hr

/-- Where an operation updates a reservation: it stays with its authorization, and its status does not go back. -/
theorem Store.rows_set {k : String} {u : Reservation → Reservation} {row : Reservation} (hrow : s.reservation k = some row)
    (h : s'.reservations = updateKey (·.id) k u s.reservations) (hid : ∀ r, (u r).id = r.id)
    (hauth : ∀ r, (u r).authorizationId = r.authorizationId) (hwaits : (u row).status.waits → row.status.waits)
    (hinitiated : (u row).status = .paymentInitiated → row.status = .paymentInitiated ∨ row.status.waits) :
    ∀ id r', s'.reservation id = some r' →
      (s.reservation id = none ∧ r'.status = .reserved ∧
        ∃ a, s.authorization r'.authorizationId = some a ∧ a.status = .active ∧ now < a.expiresAt) ∨
      ∃ r, s.reservation id = some r ∧ r.authorizationId = r'.authorizationId ∧ (r'.status.waits → r.status.waits) ∧
        (r'.status = .paymentInitiated → r.status = .paymentInitiated ∨ r.status.waits) := by
  intro id r' hr
  have hfind : s'.reservation id = (s.reservation id).map (fun r => if id = k then u r else r) := by
    unfold Store.reservation
    rw [h, find?_updateKey hid k id]
  rw [hr] at hfind
  obtain ⟨r, hr₀, he⟩ := Option.map_eq_some_iff.1 hfind.symm
  refine Or.inr ⟨r, hr₀, ?_⟩
  by_cases hk : id = k
  · rw [if_pos hk] at he
    subst hk he
    rw [hrow] at hr₀
    cases hr₀
    exact ⟨(hauth row).symm, hwaits, hinitiated⟩
  · rw [if_neg hk] at he
    subst he
    exact ⟨rfl, fun h => h, fun h => Or.inl h⟩

theorem create_advances {uuid : String} {args : CreateArgs} {a : Authorization} (h : create now uuid args s = (.ok a, s')) :
    s.Advances now s' := by
  obtain ⟨hfresh, -, -, -, -, -, -, rfl⟩ := create_ok h
  refine ⟨Store.rows_same rfl, fun id b hb => ⟨b, ?_, rfl, fun h => h⟩⟩
  unfold Store.authorization at hb ⊢
  rw [List.find?_append, hb]
  rfl

theorem revoke_advances {id : String} {a : Authorization} (h : revoke id s = (.ok a, s')) : s.Advances now s' := by
  rcases revoke_ok h with rfl | rfl
  · exact Store.advances_refl _
  · exact ⟨Store.rows_same rfl, Store.authorizations_set rfl (fun _ => rfl) (fun _ => rfl)
      (fun _ _ => AuthorizationStatus.noConfusion)⟩

/-- A new reservation is the one row that is checked against its authorization. -/
theorem reserve_advances {uuid : String} {tolerance : Int → Option Int} {args : ReserveArgs} {r : Reservation}
    (h : reserve now uuid tolerance args s = (.ok r, s')) : s.Advances now s' := by
  rcases reserve_ok h with ⟨rfl, -, -, -⟩ | ⟨a, ha, hadmits, -, -, -, -, hst, -, -, -, -, -, rfl⟩
  · exact Store.advances_refl _
  · refine ⟨fun id r' hr => ?_, Store.authorizations_set rfl (fun _ => rfl) (fun _ => rfl) (fun _ h => h)⟩
    have hfind : (s.reservation id).or (if r.id = id then some r else none) = some r' := by
      rw [← hr]
      exact (find?_concat (·.id) id s.reservations r).symm
    cases hold : s.reservation id with
    | some q =>
      rw [hold] at hfind
      cases hfind
      exact Or.inr ⟨r', rfl, rfl, fun h => h, fun h => Or.inl h⟩
    | none =>
      rw [hold, Option.none_or] at hfind
      split at hfind
      · cases hfind
        exact Or.inl ⟨rfl, hst, a, ha, hadmits⟩
      · cases hfind

theorem bindInvoice_advances {id : String} {invoice : DecodedInvoice} {r : Reservation}
    (h : bindInvoice id invoice s = (.ok r, s')) : s.Advances now s' := by
  obtain ⟨row, hrow, hst, -, -, -, -, rfl⟩ := bindInvoice_ok h
  exact ⟨Store.rows_set hrow rfl (fun _ => rfl) (fun _ => rfl) (fun _ => hst) (fun _ => Or.inr hst),
    Store.authorizations_same rfl⟩

theorem markPaymentInitiated_advances {id : String} {r : Reservation} (h : markPaymentInitiated id s = (.ok r, s')) :
    s.Advances now s' := by
  obtain ⟨row, hrow, hst, -, rfl⟩ := markPaymentInitiated_ok h
  exact ⟨Store.rows_set hrow rfl (fun _ => rfl) (fun _ => rfl) (fun _ => Or.inr hst) (fun _ => Or.inr (Or.inr hst)),
    Store.authorizations_same rfl⟩

theorem markPaid_advances {id : String} {args : MarkPaidArgs} {r : Reservation} (h : markPaid id args s = (.ok r, s')) :
    s.Advances now s' := by
  obtain ⟨-, row, hrow, ⟨-, rfl, -⟩ | ⟨-, -, n, -, -, rfl⟩⟩ := markPaid_ok h
  · exact Store.advances_refl _
  · refine ⟨Store.rows_set hrow rfl (fun _ => rfl) (fun _ => rfl) ?_ nofun, Store.authorizations_same rfl⟩
    rintro (h | h) <;> cases h

theorem release_advances {id : String} {r : Reservation} (h : release id s = (.ok r, s')) : s.Advances now s' := by
  obtain ⟨row, hrow, ⟨rfl, -, -⟩ | ⟨-, -, -, -, rfl⟩⟩ := release_ok h
  · exact Store.advances_refl _
  · refine ⟨Store.rows_set hrow rfl (fun _ => rfl) (fun _ => rfl) ?_ nofun,
      Store.authorizations_set rfl (fun _ => rfl) (fun _ => rfl) (fun _ h => h)⟩
    rintro (h | h) <;> cases h

theorem finalizePaidCall_advances {uuid : String} {verifies : PaymentReceipt → Bool} {args : FinalizeArgs} {p : PaymentReceipt}
    (h : finalizePaidCall uuid verifies args s = (.ok p, s')) : s.Advances now s' := by
  rcases (finalizePaidCall_ok h).2 with ⟨rfl, -, -⟩ | ⟨row, a, -, -, hrow, -, -, -, rfl⟩
  · exact Store.advances_refl _
  · refine ⟨Store.rows_set hrow rfl (fun _ => rfl) (fun _ => rfl) ?_ nofun,
      Store.authorizations_set rfl (fun _ => rfl) (fun _ => rfl) (fun a hst => ?_)⟩
    · rintro (h | h) <;> cases h
    · -- a charge consumes the authorization or leaves its status
      change (if _ then AuthorizationStatus.consumed else a.status) ≠ .active
      split
      · exact AuthorizationStatus.noConfusion
      · exact hst

end

/-! ## What a step does to a world -/

/-- What one step of a worker does: its store operation, and at most one record of a payment initiated from `invoice_bound`, or
of one started. -/
structure World.Advances (now : Int) (w : Nat) (s s' : World) : Prop where
  store : s.store.Advances now s'.store
  initiations : s'.initiations = s.initiations ∨
    ∃ id row, s.store.reservation id = some row ∧ row.status = .invoiceBound ∧ s'.initiations = s.initiations ++ [(id, w)]
  paid : s'.paid = s.paid ∨ (s'.initiations = s.initiations ∧ s'.store = s.store ∧ ∃ id, s'.paid = s.paid ++ [(id, w)])

section

variable {now : Int} {w : Nat} {s s' : World}

theorem World.advances_refl (s : World) : s.Advances now w s := ⟨Store.advances_refl _, Or.inl rfl, Or.inl rfl⟩

/-- A step that keeps the records. -/
theorem World.Advances.of_records (hstore : s.store.Advances now s'.store) (hi : s'.initiations = s.initiations)
    (hp : s'.paid = s.paid) : s.Advances now w s' := ⟨hstore, Or.inl hi, Or.inl hp⟩

/-- A store operation as a step. -/
theorem operate_advances {α : Type} {x : Operation α} (hx : RollsBack x)
    (hok : ∀ a store, x s.store = (.ok a, store) → s.store.Advances now store) {r : Except CommerceError α}
    (he : s.operate x = (r, s')) : s.Advances now w s' := by
  unfold World.operate at he
  cases hr : x s.store with
  | mk r' store =>
    rw [hr] at he
    obtain ⟨rfl, rfl⟩ := Prod.mk.inj he
    cases r' with
    | ok a => exact .of_records (hok a store hr) rfl rfl
    | error e =>
      obtain rfl := hx s.store store e hr
      exact s.advances_refl

/-- Starting a payment is recorded. -/
theorem World.pay_advances (s : World) (id : String) :
    s.Advances now w { s with payments := s.payments ++ [⟨id, w, .pending⟩] } :=
  ⟨Store.advances_refl _, Or.inl rfl, Or.inr ⟨rfl, rfl, id, by simp [World.paid]⟩⟩

theorem fail_advances {e : CommerceError} {o : Action} {r : Except CommerceError o.Result} (he : s.fail w e o = (r, s')) :
    s.Advances now w s' := by
  cases o with
  | payInvoice id req =>
    obtain ⟨rfl, rfl⟩ := Prod.mk.inj he
    exact s.pay_advances id
  | release id =>
    obtain ⟨rfl, rfl⟩ := Prod.mk.inj he
    exact .of_records (Store.advances_refl _) rfl rfl
  | _ =>
    obtain ⟨rfl, rfl⟩ := Prod.mk.inj he
    exact s.advances_refl

theorem perform_advances {env : Env} {ch : Choice} {o : Action} {r : Except CommerceError o.Result}
    (he : s.perform env w ch o = (r, s')) : s.Advances ch.now w s' := by
  cases o with
  | reserve args => exact operate_advances (reserve_rollsBack _ _ _ _) (fun _ _ => reserve_advances) he
  | getReceipt id =>
    refine operate_advances (getReceipt_rollsBack _ _) (fun a store h => ?_) he
    rw [getReceipt_store h]
    exact Store.advances_refl _
  | markPaid id args => exact operate_advances (markPaid_rollsBack _ _) (fun _ _ => markPaid_advances) he
  | finalizePaidCall args => exact operate_advances (finalizePaidCall_rollsBack _ _ _) (fun _ _ => finalizePaidCall_advances) he
  | create args => exact operate_advances (create_rollsBack _ _ _) (fun _ _ => create_advances) he
  | revoke id => exact operate_advances (transaction_rollsBack _) (fun _ _ => revoke_advances) he
  | bindInvoice id invoice => exact operate_advances (bindInvoice_rollsBack _ _) (fun _ _ => bindInvoice_advances) he
  | release id =>
    obtain ⟨hstore, hi, hp⟩ := operate_advances (w := w) (transaction_rollsBack _) (fun _ _ => release_advances) he
    exact ⟨hstore, hi, hp⟩
  | payInvoice id req =>
    obtain ⟨rfl, rfl⟩ := Prod.mk.inj he
    exact s.pay_advances id
  | markPaymentInitiated id =>
    simp only [World.perform, World.operate] at he
    cases hr : markPaymentInitiated id s.store with
    | mk r' store =>
      rw [hr] at he
      cases r' with
      | error e =>
        obtain ⟨rfl, rfl⟩ := Prod.mk.inj he
        obtain rfl := transaction_rollsBack _ s.store store e hr
        exact s.advances_refl
      | ok a =>
        obtain ⟨rfl, rfl⟩ := Prod.mk.inj he
        obtain ⟨row, hrow, hst, -, -⟩ := markPaymentInitiated_ok hr
        exact ⟨markPaymentInitiated_advances hr, Or.inr ⟨id, row, hrow, hst, rfl⟩, Or.inl rfl⟩
  | awaitPayment id =>
    simp only [World.perform] at he
    cases hp : ch.payment with
    | settlement settlement =>
      rw [hp] at he
      obtain ⟨rfl, rfl⟩ := Prod.mk.inj he
      exact .of_records (Store.advances_refl _) rfl (s.resolve_paid w id .settled)
    | paymentError message =>
      rw [hp] at he
      obtain ⟨rfl, rfl⟩ := Prod.mk.inj he
      exact .of_records (Store.advances_refl _) rfl (s.resolve_paid w id .failed)
    | unknown e =>
      rw [hp] at he
      obtain ⟨rfl, rfl⟩ := Prod.mk.inj he
      exact s.advances_refl
  | getReservation id handler =>
    obtain ⟨rfl, rfl⟩ := Prod.mk.inj he
    cases handler with
    | false => exact s.advances_refl
    | true =>
      simp only [if_true, World.handle]
      split
      · split
        · exact .of_records (Store.advances_refl _) rfl rfl
        · exact s.advances_refl
      · exact s.advances_refl
  | _ =>
    obtain ⟨rfl, rfl⟩ := Prod.mk.inj he
    exact s.advances_refl

theorem exec_advances {env : Env} {o : Action} {ch : Choice} {r : Except CommerceError o.Result}
    (he : exec env w o ch s = some (r, s')) : s.Advances ch.now w s' := by
  unfold exec at he
  split at he
  · exact fail_advances (Option.some.inj he)
  · exact perform_advances (Option.some.inj he)

end

/-! ## After an authorization has stopped -/

/-- The authorization is revoked, or its expiry time has passed. -/
def Store.Stopped (s : Store) (authorizationId : String) (t : Int) : Prop :=
  ∃ a, s.authorization authorizationId = some a ∧ (a.status = .revoked ∨ a.expiresAt ≤ t)

/-- The reservation with an id is one of the authorization. -/
def Store.OwnedBy (s : Store) (authorizationId id : String) : Prop :=
  ∃ r, s.reservation id = some r ∧ r.authorizationId = authorizationId

/-- Nothing is under way for a reservation: its payment is not still to be initiated, and no call that runs has initiated it and
is still to send it. -/
def Quiesced {env : Env} (cfg : (machine env).Config) (id : String) : Prop :=
  (∀ st, cfg.state.store.status id = some st → ¬ st.waits) ∧
  ∀ x ∈ cfg.state.initiations, x.1 = id → x ∈ cfg.state.paid ∨ ∀ y ∈ cfg.live, y.id ≠ x.2

/-- What holds from a world `s₀` on in which an authorization has stopped: it has no new reservation. -/
structure Closed (authorizationId : String) (s₀ s : World) (t : Int) : Prop where
  stopped : ∃ a, s.store.authorization authorizationId = some a ∧ (a.status ≠ .active ∨ a.expiresAt ≤ t)
  known : ∀ id, s.store.OwnedBy authorizationId id → s₀.store.OwnedBy authorizationId id

/-- What holds of a reservation from a world `s₀` on in which nothing is under way for it: no payment is started. -/
structure Halted (authorizationId id : String) (s₀ s : World) : Prop where
  idle : ∀ r, s.store.reservation id = some r → r.authorizationId = authorizationId → ¬ r.status.waits
  initiated : ∀ r, s.store.reservation id = some r → r.authorizationId = authorizationId → r.status = .paymentInitiated →
    s₀.store.status id = some .paymentInitiated
  initiations : ∀ w, (id, w) ∈ s.initiations → s.store.OwnedBy authorizationId id → (id, w) ∈ s₀.initiations
  paid : ∀ w, (id, w) ∈ s.paid → s.store.OwnedBy authorizationId id → (id, w) ∈ s₀.paid
  kept : ∀ x ∈ s₀.paid, x ∈ s.paid

section

variable {authorizationId id : String} {s₀ s s' : World} {t now : Int} {w : Nat}

/-- A row of an authorization that has stopped was there before the step, for the same authorization. -/
theorem Closed.row (h : Closed authorizationId s₀ s t) (ht : t ≤ now) (hadv : s.Advances now w s') {r' : Reservation}
    (hr' : s'.store.reservation id = some r') (hauth : r'.authorizationId = authorizationId) :
    ∃ r, s.store.reservation id = some r ∧ r.authorizationId = authorizationId ∧ (r'.status.waits → r.status.waits) ∧
      (r'.status = .paymentInitiated → r.status = .paymentInitiated ∨ r.status.waits) := by
  obtain ⟨a, ha, hstop⟩ := h.stopped
  rcases hadv.store.rows id r' hr' with ⟨-, -, b, hb, hactive, hexpires⟩ | ⟨r, hr, hsame, hrest⟩
  · -- a new reservation is of an authorization that has not stopped
    rw [hauth, ha] at hb
    cases hb
    rcases hstop with hstop | hstop
    · exact absurd hactive hstop
    · omega
  · exact ⟨r, hr, hsame.trans hauth, hrest⟩

theorem Closed.ownedBy (h : Closed authorizationId s₀ s t) (ht : t ≤ now) (hadv : s.Advances now w s')
    (howned : s'.store.OwnedBy authorizationId id) : s.store.OwnedBy authorizationId id := by
  obtain ⟨r', hr', hauth⟩ := howned
  obtain ⟨r, hr, hauth', -⟩ := h.row ht hadv hr' hauth
  exact ⟨r, hr, hauth'⟩

/-- Time passes. -/
theorem Closed.wait (h : Closed authorizationId s₀ s t) (ht : t ≤ now) : Closed authorizationId s₀ s now := by
  obtain ⟨a, ha, hstop⟩ := h.stopped
  exact ⟨⟨a, ha, hstop.imp_right (fun he => Int.le_trans he ht)⟩, h.known⟩

theorem Closed.step (h : Closed authorizationId s₀ s t) (ht : t ≤ now) (hadv : s.Advances now w s') :
    Closed authorizationId s₀ s' now := by
  refine ⟨?_, fun id howned => h.known id (h.ownedBy ht hadv howned)⟩
  obtain ⟨a, ha, hstop⟩ := h.stopped
  obtain ⟨a', ha', hexpires, hactive⟩ := hadv.store.authorizations authorizationId a ha
  refine ⟨a', ha', ?_⟩
  rcases hstop with hstop | hstop
  · exact Or.inl (hactive hstop)
  · right
    rw [hexpires]
    exact Int.le_trans hstop ht

/-- A step keeps a reservation halted: it cannot initiate its payment, and whoever initiated it before has sent it. -/
theorem Halted.step (h : Halted authorizationId id s₀ s) (hc : Closed authorizationId s₀ s t) (ht : t ≤ now)
    (hadv : s.Advances now w s') (ho' : InOrder False s') (hsent : (id, w) ∈ s₀.initiations → (id, w) ∈ s₀.paid) :
    Halted authorizationId id s₀ s' := by
  have hinitiations : ∀ v, (id, v) ∈ s'.initiations → s'.store.OwnedBy authorizationId id → (id, v) ∈ s.initiations := by
    intro v hv howned
    rcases hadv.initiations with he | ⟨k, row, hrow, hst, he⟩
    · rwa [he] at hv
    · rw [he] at hv
      rcases List.mem_append.1 hv with hv | hv
      · exact hv
      · -- the step initiated a payment: its reservation was waiting
        obtain ⟨rfl, -⟩ := Prod.mk.inj (List.mem_singleton.1 hv)
        obtain ⟨r, hr, hauth⟩ := hc.ownedBy ht hadv howned
        rw [hrow] at hr
        cases hr
        exact absurd (Or.inr hst) (h.idle row hrow hauth)
  refine ⟨?_, ?_, ?_, ?_, ?_⟩
  · intro r' hr' hauth hwaits
    obtain ⟨r, hr, hauth', hw, -⟩ := hc.row ht hadv hr' hauth
    exact h.idle r hr hauth' (hw hwaits)
  · intro r' hr' hauth hst
    obtain ⟨r, hr, hauth', -, hi⟩ := hc.row ht hadv hr' hauth
    rcases hi hst with hi | hi
    · exact h.initiated r hr hauth' hi
    · exact absurd hi (h.idle r hr hauth')
  · intro v hv howned
    exact h.initiations v (hinitiations v hv howned) (hc.ownedBy ht hadv howned)
  · intro v hv howned
    have hinit : (id, v) ∈ s.initiations := hinitiations v (ho'.paid _ hv) howned
    have howned' := hc.ownedBy ht hadv howned
    rcases hadv.paid with he | ⟨-, -, k, he⟩
    · rw [he] at hv
      exact h.paid v hv howned'
    · have hnodup := ho'.single
      rw [he] at hv hnodup
      rcases List.mem_append.1 hv with hv | hv
      · exact h.paid v hv howned'
      · -- the worker started a payment it had initiated before: it had sent it already
        obtain ⟨rfl, rfl⟩ := Prod.mk.inj (List.mem_singleton.1 hv)
        have hmem := h.kept _ (hsent (h.initiations v hinit howned'))
        exact absurd rfl ((List.nodup_append.1 hnodup).2.2 _ hmem _ (List.mem_singleton_self _))
  · intro x hx
    rcases hadv.paid with he | ⟨-, -, k, he⟩
    · rw [he]
      exact h.kept x hx
    · rw [he]
      exact List.mem_append_left _ (h.kept x hx)

end

/-! ## Runs -/

section

variable {env : Env}

/-- Every world reached is in order. -/
theorem inOrder_of_run {cfg : (machine env).Config} (hrun : (machine env).Run (.any _) (.init (machine env) .empty) cfg) :
    InOrder False cfg.state := by
  refine run_inOrder (Machine.Run.mono ?_ ?_ hrun)
  · exact fun _ _ h => h
  · exact fun _ _ _ _ hcare => hcare.elim

/-- Whoever initiated a payment was started before. -/
theorem initiations_lt {cfg : (machine env).Config} (hrun : (machine env).Run (.any _) (.init (machine env) .empty) cfg) :
    (∀ x ∈ cfg.live, x.id < cfg.started) ∧ ∀ x ∈ cfg.state.initiations, x.2 < cfg.started := by
  have hids : ∀ cfg' : (machine env).Config, (machine env).Run (.any _) (.init (machine env) .empty) cfg' →
      ∀ x ∈ cfg'.live, x.id < cfg'.started := fun cfg' h =>
    (Machine.Outline.holds_run (Machine.Outline.anything_sound _) trivial h).ids
  refine ⟨hids cfg hrun, ?_⟩
  induction hrun with
  | refl =>
    intro x hx
    cases hx
  | tail hbefore hstep ih =>
    intro x hx
    cases hstep with
    | start c hc => exact Nat.lt_succ_of_lt (ih x hx)
    | call w o k ch r s hw hk hc he =>
      rcases (exec_advances he).initiations with hsame | ⟨id, row, -, -, hnew⟩
      · exact ih x (hsame ▸ hx)
      · have hx' : x ∈ _ ++ [(id, w.id)] := hnew ▸ hx
        rcases List.mem_append.1 hx' with hx' | hx'
        · exact ih x hx'
        · rw [List.mem_singleton.1 hx']
          exact hids _ hbefore w hw
    | crash w hw => exact ih x hx

/-- From a configuration on in which an authorization has stopped, it has no new reservation. -/
theorem closed_run {authorizationId : String} {a b : (machine env).Config × Int} (hrun : Machine.TimedRun Choice.now a b)
    (hstop : a.1.state.store.Stopped authorizationId a.2) : Closed authorizationId a.1.state b.1.state b.2 := by
  obtain ⟨auth, hauth, hstop⟩ := hstop
  induction hrun with
  | refl =>
    refine ⟨⟨auth, hauth, hstop.imp_left (fun hst => ?_)⟩, fun id h => h⟩
    rw [hst]
    exact AuthorizationStatus.noConfusion
  | tail _ hstep ih =>
    cases hstep with
    | wait cfg t t' ht => exact ih.wait ht
    | start cfg t c => exact ih
    | crash cfg t w hw => exact ⟨ih.stopped, ih.known⟩
    | call cfg t w o k ch r s hw hk ht he => exact ih.step ht (exec_advances he)

/-- From a configuration on in which an authorization has stopped, no payment is started for a reservation of it for which
nothing is under way. -/
theorem halted_run {authorizationId id : String} {t₀ : Int} {a b : (machine env).Config × Int}
    (hrun : Machine.TimedRun Choice.now (.init (machine env) .empty, t₀) a) (hrun' : Machine.TimedRun Choice.now a b)
    (hstop : a.1.state.store.Stopped authorizationId a.2) (hquiet : Quiesced a.1 id) :
    Halted authorizationId id a.1.state b.1.state := by
  induction hrun' with
  | refl =>
    refine ⟨fun r hr _ => hquiet.1 r.status (Store.status_of_reservation hr), ?_, fun w hw _ => hw, fun w hw _ => hw, fun x hx => hx⟩
    intro r hr _ hst
    rw [Store.status_of_reservation hr, hst]
  | tail hbetween hstep ih =>
    cases hstep with
    | wait cfg t t' ht => exact ih
    | start cfg t c => exact ih
    | crash cfg t w hw => exact ⟨ih.idle, ih.initiated, ih.initiations, ih.paid, ih.kept⟩
    | call cfg t w o k ch r s hw hk ht he =>
      have hclosed : Closed authorizationId a.1.state cfg.state t := closed_run hbetween hstop
      have hsince : (machine env).Run (.any _) a.1 cfg := Machine.TimedRun.run hbetween
      have hnext : (machine env).Run (.any _) (.init (machine env) .empty) (cfg.move w.id (k r) s) :=
        (hrun.run.trans hsince).tail (.call cfg w o k ch r s hw hk trivial he)
      refine ih.step hclosed ht (exec_advances he) (inOrder_of_run hnext) (fun hid => ?_)
      -- a worker that had initiated the payment before was live there, and had sent it
      rcases hquiet.2 (id, w.id) hid rfl with hpaid | hgone
      · exact hpaid
      · rcases hsince.live_ids.2 w hw with ⟨x, hx, hxid⟩ | hnew
        · exact absurd hxid (hgone x hx)
        · have hlt := (initiations_lt hrun.run).2 _ hid
          simp only at hlt
          omega

end

end Commerce

end Archisynapse
