import Archisynapse.Lemmas.CommercePayments

/-!
# The programs keep worlds in order

`execute` pays only after it has initiated the payment, and its handler releases only what it has read; the other programs need
nothing. So every world reached is in order (`run_inOrder`).
-/

namespace Archisynapse

namespace Commerce

/-- The condition on the steps of a careful run. -/
def cond (env : Env) (careful : Prop) : (machine env).Cond := ⟨fun _ _ => True, fun _ o s => careful → Unhandled o s⟩

/-- Worlds stay in order, and each worker leaves the records of the others alone. -/
def outline (env : Env) (careful : Prop) : Machine.Outline (machine env) where
  inv := InOrder careful
  rely w _ s s' := s'.own w = s.own w
  guar w _ s s' := Leaves w s s'
  compat _ _ _ _ := True

section

variable {env : Env} {careful : Prop} {w : Nat} {c : Call} {α β : Type}

/-- A step of a program, with what it needs and leaves. -/
theorem wp_step {o : Action} {Q : Except CommerceError o.Result → World → Prop} {s : World}
    (hpre : ∀ s₁, s₁.own w = s.own w → Pre careful w o s₁) (hpost : ∀ r s₁, Post w o r s₁ → Q r s₁) :
    (step o).wp ((machine env).Does (cond env careful) w) ((outline env careful).contract w c) Q s := by
  unfold step
  rw [Prog.wp_perform]
  intro s₁ hrely hinv r s₂ hdoes
  obtain ⟨hcare, ch, he⟩ := hdoes
  have hfine : Fine careful w s₁ s₂ ∧ Post w o r s₂ := by
    change some _ = some (r, s₂) at he
    cases hf : ch.fails with
    | some e =>
      rw [hf] at he
      exact fail_fine hinv (hpre s₁ hrely) (Option.some.inj he)
    | none =>
      rw [hf] at he
      exact perform_fine hinv (hpre s₁ hrely) hcare (Option.some.inj he)
  exact ⟨hfine.1.1, hfine.1.2, hpost r s₂ hfine.2⟩

/-- A program that needs nothing. -/
def Keeps (env : Env) (careful : Prop) (w : Nat) (c : Call) (p : Program α) : Prop :=
  ∀ s, p.wp ((machine env).Does (cond env careful) w) ((outline env careful).contract w c) (fun _ _ => True) s

theorem keeps_pure (a : α) : Keeps env careful w c (pure a : Program α) := fun _ => trivial

theorem keeps_throw (e : CommerceError) : Keeps env careful w c (Prog.throw e : Program α) := fun _ => trivial

theorem keeps_fault (code : ErrorCode) (message : String) : Keeps env careful w c (fault code message : Program α) :=
  fun _ => trivial

theorem keeps_step {o : Action} (hpre : ∀ s, Pre careful w o s) : Keeps env careful w c (step o) :=
  fun _ => wp_step (fun s₁ _ => hpre s₁) (fun _ _ _ => trivial)

theorem keeps_bind {p : Program α} {f : α → Program β} (hp : Keeps env careful w c p)
    (hf : ∀ a, Keeps env careful w c (f a)) : Keeps env careful w c (p >>= f) := by
  intro s
  rw [Prog.wp_bind]
  refine Prog.wp_mono (fun r s' _ => ?_) p (hp s)
  cases r with
  | ok a => exact hf a s'
  | error e => trivial

theorem keeps_tryCatch {p : Program α} {h : CommerceError → Program α} (hp : Keeps env careful w c p)
    (hh : ∀ e, Keeps env careful w c (h e)) : Keeps env careful w c (Prog.tryCatch p h) := by
  intro s
  refine (Prog.wp_tryCatch p h s).2 (Prog.wp_mono (fun r s' _ => ?_) p (hp s))
  cases r with
  | ok a => trivial
  | error e => exact hh e s'

theorem keeps_ite {p : Prop} [Decidable p] {x y : Program α} (hx : Keeps env careful w c x) (hy : Keeps env careful w c y) :
    Keeps env careful w c (if p then x else y) := by
  by_cases h : p
  · rw [if_pos h]
    exact hx
  · rw [if_neg h]
    exact hy

/-! ## The programs -/

/-- The worker that has initiated a payment pays once. -/
theorem keeps_payReservation (reservation : Reservation) (invoice : DecodedInvoice) (paymentRequest : String) :
    Keeps env careful w c (payReservation env reservation invoice paymentRequest) := by
  refine keeps_ite (keeps_fault _ _) (fun s => ?_)
  rw [Prog.wp_bind]
  refine wp_step (fun _ _ => trivial) (fun r s₁ hpost => ?_)
  cases r with
  | error e => trivial
  | ok bound =>
    obtain ⟨hid, hst⟩ := hpost
    dsimp only
    rw [if_pos hst, Prog.wp_bind]
    refine wp_step (fun _ _ => trivial) (fun r s₂ hpost => ?_)
    cases r with
    | error e => trivial
    | ok initiated =>
      obtain ⟨hid', hi, hp⟩ := hpost
      dsimp only
      rw [Prog.wp_bind]
      refine wp_step (fun s₃ hown => ?_) (fun r s₃ _ => ?_)
      · -- the records of the worker are as they were when it initiated the payment
        rw [hid']
        refine ⟨?_, ?_⟩
        · rw [World.mem_initiations, hown, ← World.mem_initiations]
          exact hi
        · rw [World.mem_paid, hown, ← World.mem_paid]
          exact hp
      cases r with
      | error e => trivial
      | ok _ =>
        refine (?_ : Keeps env careful w c _) s₃
        refine keeps_bind (keeps_step (fun _ => trivial)) (fun settlement => ?_)
        refine keeps_ite (keeps_fault _ _) ?_
        cases env.preimageHash settlement.preimage with
        | none => exact keeps_fault _ _
        | some computed =>
          exact keeps_ite (keeps_fault _ _) (keeps_bind (keeps_step (fun _ => trivial)) (fun _ => keeps_pure _))

/-- The handler releases what it has read. -/
theorem keeps_releaseUnpaid (id : String) (e : CommerceError) :
    Keeps env careful w c (releaseUnpaid id e : Program α) := by
  intro s
  unfold releaseUnpaid
  rw [Prog.wp_bind]
  refine wp_step (fun _ _ => trivial) (fun r s₁ hpost => ?_)
  cases r with
  | error e => trivial
  | ok current =>
    cases current with
    | none => trivial
    | some row =>
      by_cases hst : ¬ (row.status = .paid ∨ row.status = .finalized ∨ row.status = .paymentInitiated)
      · dsimp only
        rw [if_pos hst, Prog.wp_bind]
        have hh := hpost hst
        refine wp_step (fun s₂ hown _ => ?_) (fun r _ _ => ?_)
        · rw [World.mem_handlers, hown, ← World.mem_handlers]
          exact hh
        · cases r with
          | error e => trivial
          | ok _ => trivial
      · dsimp only
        rw [if_neg hst]
        trivial

theorem keeps_deliver (args : ExecuteArgs) (macaroon : String) (invoice : DecodedInvoice) (settlement : PaymentSettlement)
    (reservation : Reservation) : Keeps env careful w c (deliver env args macaroon invoice settlement reservation) := by
  refine keeps_bind (keeps_step (fun _ => trivial)) (fun delivery => ?_)
  refine keeps_bind (keeps_step (fun _ => trivial)) (fun authorization => ?_)
  cases authorization with
  | none => exact keeps_fault _ _
  | some a => exact keeps_bind (keeps_step (fun _ => trivial)) (fun _ => keeps_pure _)

theorem keeps_execute (args : ExecuteArgs) : Keeps env careful w c (execute env args) := by
  refine keeps_ite (keeps_fault _ _) (keeps_ite (keeps_fault _ _) ?_)
  refine keeps_bind (keeps_step (fun _ => trivial)) (fun initial => keeps_ite (keeps_fault _ _) ?_)
  cases initial.challenge with
  | error e => exact keeps_throw e
  | ok challenge =>
    refine keeps_bind (keeps_step (fun _ => trivial)) (fun invoice => ?_)
    cases env.maxAdvertised args.quotedSats with
    | none => exact keeps_fault _ _
    | some maxAdvertised =>
      refine keeps_ite (keeps_fault _ _) (keeps_bind (keeps_step (fun _ => trivial)) (fun reservation => ?_))
      split
      · refine keeps_bind (keeps_step (fun _ => trivial)) (fun receipt => ?_)
        cases receipt with
        | none => exact keeps_fault _ _
        | some receipt => exact keeps_pure _
      · exact keeps_bind (keeps_tryCatch (keeps_payReservation _ _ _) (keeps_releaseUnpaid _))
          (fun paid => keeps_deliver args _ invoice paid.1 paid.2)

theorem keeps_finishReconcile (reservation : Reservation) : Keeps env careful w c (finishReconcile reservation) := by
  unfold finishReconcile
  split
  · refine keeps_bind (keeps_step (fun _ => trivial)) (fun authorization => ?_)
    cases authorization with
    | none => exact keeps_pure _
    | some a => exact keeps_bind (keeps_step (fun _ => trivial)) (fun _ => keeps_pure _)
  · exact keeps_pure _

theorem keeps_reconcile (id : String) : Keeps env careful w c (reconcileInitiatedPayment env id) := by
  refine keeps_bind (keeps_step (fun _ => trivial)) (fun found => ?_)
  cases found with
  | none => exact keeps_pure _
  | some reservation =>
    dsimp only
    split
    · exact keeps_step (fun _ => trivial)
    · exact keeps_pure _
    · refine keeps_bind (keeps_step (fun _ => trivial)) (fun settlement => ?_)
      cases settlement with
      | none => exact keeps_pure _
      | some settlement =>
        dsimp only
        cases env.preimageHash settlement.preimage with
        | none => exact keeps_fault _ _
        | some computed =>
          exact keeps_ite (keeps_pure _)
            (keeps_bind (keeps_step (fun _ => trivial)) (fun _ => keeps_finishReconcile _))
    · exact keeps_finishReconcile _

theorem keeps_program (c' : Call) : Keeps env careful w c (c'.program env) := by
  cases c' with
  | execute args => exact keeps_bind (keeps_execute args) (fun _ => keeps_pure _)
  | reconcile id => exact keeps_bind (keeps_reconcile id) (fun _ => keeps_pure _)
  | create args => exact keeps_bind (keeps_step (fun _ => trivial)) (fun _ => keeps_pure _)
  | revoke id => exact keeps_bind (keeps_step (fun _ => trivial)) (fun _ => keeps_pure _)

/-! ## Runs -/

theorem outline_sound (env : Env) (careful : Prop) : (outline env careful).Sound (cond env careful) where
  refl _ _ _ := rfl
  trans _ _ _ _ _ h h' := h'.trans h
  symm _ _ _ _ _ := trivial
  guar _ _ _ _ _ _ hne _ _ h := h _ hne.symm
  start _ c _ _ := ⟨fun _ _ => trivial, keeps_program c _⟩
  crash w s h := ⟨h.dismiss w, fun w' _ hne => s.dismiss_leaves w w' hne⟩

/-- Every world reached is in order. -/
theorem run_inOrder {cfg : (machine env).Config}
    (hrun : (machine env).Run (cond env careful) (Machine.Config.init (machine env) .empty) cfg) : InOrder careful cfg.state :=
  Machine.Outline.run_inv (outline_sound env careful) inOrder_empty hrun

end

end Commerce

end Archisynapse
