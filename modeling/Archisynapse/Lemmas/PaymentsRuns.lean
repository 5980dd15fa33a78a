import Archisynapse.Lemmas.PaymentsPrograms

/-!
# Runs of the transaction service

The condition under which refunds stay within their payment (`covered`), and the proof: a refund that starts when everything
refunded under other keys is in the refunds table, and while no call refunds the payment under another key, has room at the
processor for what it asks for.
-/

namespace Archisynapse

namespace Payments

/-! ## The condition -/

/-- The payment and the key of a refund call. -/
def Call.refunds : Call → Option (Uuid × String)
  | .refundPayment _ req => req.paymentId.value.map (fun u => (u, req.idempotencyKey))
  | _ => none

/-- An amount that is more in whole cents than it is. -/
def roundsUp : Decimal → Prop
  | .fin q => q * 100 < roundHalfUp (q * 100)
  | _ => False

/-- A refund call starts only while no other call refunds the payment under another key and, of the payment, no more stands at
the processor under other keys than the refunds table has; and no attempt is written for an amount that rounds up. -/
def covered : machine.Cond where
  start cfg c :=
    match c with
    | .refundPayment env req => ∀ u, req.paymentId.value = some u →
        (∀ x ∈ cfg.live, ∀ key, x.call.refunds = some (u, key) → key = req.idempotencyKey) ∧
        100 * cfg.state.standingElsewhere u req.idempotencyKey ≤
          cfg.state.db.refundedTotal (env.session req.organizationId) u
    | _ => True
  step _ o _ :=
    match o with
    | .sql _ (.insertAttempt v) => ¬ roundsUp v.amount
    | _ => True

/-! ## The outline -/

/-- What a call counts on: what stands on its payment under other keys does not grow. -/
structure Rely (c : Call) (s s' : World) : Prop where
  steady : Steady s s'
  elsewhere : ∀ u k, c.refunds = some (u, k) → s'.standingElsewhere u k ≤ s.standingElsewhere u k

/-- What a call leaves alone: what stands under other keys than its own. -/
structure Guar (c : Call) (s s' : World) : Prop where
  steady : Steady s s'
  elsewhere : ∀ u k, (∀ k', c.refunds = some (u, k') → k' = k) → s'.standingElsewhere u k ≤ s.standingElsewhere u k

theorem Rely.refl (c : Call) (s : World) : Rely c s s := ⟨.refl s, fun _ _ _ => le_rfl⟩

theorem Rely.trans {c : Call} {s s' s'' : World} (h : Rely c s s') (h' : Rely c s' s'') : Rely c s s'' :=
  ⟨h.steady.trans h'.steady, fun u k hc => (h'.elsewhere u k hc).trans (h.elsewhere u k hc)⟩

/-- What a call leaves alone is what it counts on. -/
theorem Guar.rely {c : Call} {s s' : World} (h : Guar c s s') : Rely c s s' := by
  refine ⟨h.steady, fun u k hc => h.elsewhere u k (fun k' hc' => ?_)⟩
  rw [hc] at hc'
  cases hc'
  rfl

/-- Refunds of one payment that are live together have one key. -/
def outline : Machine.Outline machine where
  inv := InOrder
  rely _ c := Rely c
  guar _ c := Guar c
  compat _ c _ c' := ∀ u k k', c.refunds = some (u, k) → c'.refunds = some (u, k') → k = k'

section

variable {w : Nat} {c : Call} {s : World} {α β : Type}

/-- The calls of a worker under the condition. -/
abbrev Does (w : Nat) := machine.Does covered w

/-- The contract of a call. -/
abbrev contract (w : Nat) (c : Call) := outline.contract w c

/-- A call that moves no refund is one the others can count on. -/
theorem Calm.guar {s s' : World} (h : Calm s s') : Guar c s s' := ⟨h.steady, fun u k _ => h.elsewhere u k⟩

/-- A call that moves no refund, given what it needs. -/
theorem step_wp {o : Action} {Q : Except PaymentError o.Result → World → Prop}
    (hready : ∀ s₁, Rely c s s₁ → InOrder s₁ → Ready s₁ o)
    (hQ : ∀ s₁ ch r s₂, Rely c s s₁ → InOrder s₁ → covered.step w o s₁ → exec o ch s₁ = some (r, s₂) → Rely c s s₂ → Q r s₂) :
    (step o).wp (Does w) (contract w c) Q s := by
  unfold step
  rw [Prog.wp_perform]
  rintro s₁ hrely hinv r s₂ ⟨hstep, ch, he⟩
  obtain ⟨hinv', hcalm⟩ := exec_calm hinv (hready s₁ hrely hinv) he
  have hguar : Guar c s₁ s₂ := hcalm.guar
  exact ⟨hinv', hguar, hQ s₁ ch r s₂ hrely hinv hstep he (Rely.trans hrely hguar.rely)⟩

/-- A program that needs nothing. -/
theorem Harmless.wp {p : Program α} (hp : Harmless p) {Q : Except PaymentError α → World → Prop}
    (hQ : ∀ r s', Rely c s s' → Q r s') : p.wp (Does w) (contract w c) Q s := by
  refine Prog.wp_mono (fun r s' => hQ r s') p (Prog.Calls.wp (R := Rely c) ?_ ?_ ?_ hp (Rely.refl c s))
  · exact fun _ _ _ h h' => h.trans h'
  · exact fun _ _ _ h h' => h.trans (Guar.rely h')
  · rintro o s₁ r s₂ hready hinv ⟨-, ch, he⟩
    obtain ⟨hinv', hcalm⟩ := exec_calm hinv (hready.ready s₁) he
    exact ⟨hinv', hcalm.guar⟩

/-- A program that needs nothing, and then another. -/
theorem Harmless.bind_wp {p : Program α} (hp : Harmless p) {f : α → Program β} {Q : Except PaymentError β → World → Prop}
    (herror : ∀ e s', Rely c s s' → Q (.error e) s') (hf : ∀ a s', Rely c s s' → (f a).wp (Does w) (contract w c) Q s') :
    (p >>= f).wp (Does w) (contract w c) Q s := by
  rw [Prog.wp_bind]
  refine hp.wp (fun r s' h => ?_)
  cases r with
  | ok a => exact hf a s' h
  | error e => exact herror e s' h

/-! ## Charging -/

/-- A text that counts as true is there. -/
theorem eq_some_of_truthy {text : Option String} {x : String} (h : truthy text = some x) : text = some x := by
  unfold truthy at h
  split at h
  · cases h
  · exact h

/-- The row of a payment, with the key its column keeps. -/
def World.hasPayment (s : World) (paymentId : Uuid) (key : String) : Prop :=
  ∃ p ∈ s.db.payments, p.id = paymentId ∧ column 255 key = .ok p.idempotencyKey

theorem World.hasPayment.steady {s s' : World} {paymentId : Uuid} {key : String} (h : s.hasPayment paymentId key)
    (hs : Steady s s') : s'.hasPayment paymentId key := by
  obtain ⟨p, hp, hid, hkey⟩ := h
  obtain ⟨p', hp', h₁, -, h₃⟩ := hs.payment p hp
  exact ⟨p', hp', h₁.trans hid, by rw [h₃]; exact hkey⟩

/-- A payment that was inserted is there. -/
theorem hasPayment_of_insert {s s' : World} {sess : Session} {v : PaymentValues} {ch : Choice}
    (h : exec (.sql sess (.insertPayment v)) ch s = some (.ok (), s')) : s'.hasPayment v.id v.idempotencyKey := by
  rcases exec_cases h with h | ⟨h, -⟩ | ⟨h, -⟩
  · simp only [World.perform, Tables.perform, Tables.insert] at h
    cases hrow : s.db.paymentRow sess v with
    | error e =>
      rw [hrow] at h
      cases h
    | ok row =>
      rw [hrow] at h
      cases h
      obtain ⟨hid, hkey, -⟩ := paymentRow_ok hrow
      exact ⟨row, List.mem_append_right _ (List.mem_singleton_self row), hid, hkey⟩
  · cases h
  · cases h

/-- A charge that was answered is there, under its key. -/
theorem charge_of_exec {s s' : World} {req : ChargeRequest} {ch : Choice} {id : String} {status : ChargeStatus}
    (h : exec (.charge req) ch s = some (.ok (id, status), s')) :
    ∃ c ∈ s'.processor.charges, c.id = id ∧ c.request.idempotencyKey = req.idempotencyKey := by
  rcases exec_cases h with h | ⟨h, -⟩ | ⟨h, -⟩
  · obtain ⟨⟨r, processor⟩, hr, he⟩ := Option.map_eq_some_iff.1 h
    cases r with
    | error e => cases he
    | ok a =>
      cases he
      unfold Processor.charge at hr
      split at hr
      · rename_i known hknown
        obtain ⟨hreq, rfl⟩ := Prod.mk.inj (Option.some.inj hr)
        split at hreq
        · cases hreq
          exact ⟨known, List.mem_of_find?_eq_some hknown, rfl, by simpa using List.find?_some hknown⟩
        · cases hreq
      · split at hr
        · cases hr
        · split at hr
          · cases hr
          · cases hr
            exact ⟨_, List.mem_append_right _ (List.mem_singleton_self _), rfl, rfl⟩
  · cases h
  · cases h

/-- The insert of a payment: when it wrote the row, the row is there. -/
theorem insertPayment_wp {env : Env} {sess : Session} {req : CreatePaymentRequest}
    {Q : Except PaymentError (Option PaymentRow) → World → Prop}
    (hQ : ∀ r s', Rely c s s' → (r = .ok none → s'.hasPayment env.uuid req.idempotencyKey) → Q r s') :
    (insertPayment env sess req).wp (Does w) (contract w c) Q s := by
  unfold insertPayment
  refine (Prog.wp_tryCatch _ _ _).2 ((Prog.wp_bind _ _ _).2 (step_wp (fun _ _ _ => trivial) ?_))
  intro s₁ ch r s₂ _ _ _ he hrely
  cases r with
  | ok u =>
    obtain rfl : u = () := rfl
    exact hQ _ s₂ hrely (fun _ => hasPayment_of_insert he)
  | error e =>
    dsimp only
    split
    · refine (Prog.wp_bind _ _ _).2 (step_wp (fun _ _ _ => trivial) ?_)
      intro s₃ ch' r' s₄ _ _ _ _ hrely'
      have hend := hrely.trans hrely'
      cases r' with
      | error e' => exact hQ _ s₄ hend nofun
      | ok row =>
        cases row with
        | some row => exact hQ _ s₄ hend nofun
        | none => exact hQ _ s₄ hend nofun
    · exact hQ _ s₂ hrely nofun

/-- The adapter's charge for a payment that is there: the charge is made for the payment. -/
theorem charge_wp {env : Env} {req : ChargeRequest} {liveSmokeTest : Bool} {u : Uuid}
    (hs : s.hasPayment u req.idempotencyKey) {Q : Except PaymentError (String × Bool) → World → Prop}
    (hQ : ∀ r s', Rely c s s' → (∀ id success, r = .ok (id, success) → s'.chargedFor u id = true) → Q r s') :
    (charge env req liveSmokeTest).wp (Does w) (contract w c) Q s := by
  have hfail : ∀ e s', Rely c s s' → Q (.error e) s' := fun e s' h => hQ _ s' h nofun
  unfold charge
  split
  · exact hfail _ s (.refl c s)
  refine (harmless_validateMinorAmount _).bind_wp hfail (fun _ s₁ h₁ => ?_)
  split
  · exact hfail _ s₁ h₁
  split
  · exact hfail _ s₁ h₁
  unfold validateIdempotencyKey
  by_cases hkey : req.idempotencyKey = "" ∨ 255 < utf16Length req.idempotencyKey
  · rw [if_pos hkey]
    exact hfail _ s₁ h₁
  rw [if_neg hkey]
  have hlen : utf16Length req.idempotencyKey ≤ 255 := by
    push Not at hkey
    exact hkey.2
  refine (harmless_validateCharge _ _ _).bind_wp (fun e s' h => hfail e s' (h₁.trans h)) (fun _ s₂ h₂ => ?_)
  have hthere : ∀ s', Rely c s₂ s' → ∃ p ∈ s'.db.payments, p.id = u ∧ p.idempotencyKey = req.idempotencyKey := by
    intro s' h
    obtain ⟨p, hp, hid, hcol⟩ := hs.steady ((h₁.trans h₂).trans h).steady
    exact ⟨p, hp, hid, column_ok_eq hcol ((length_le_utf16Length _).trans hlen)⟩
  refine (Prog.wp_bind _ _ _).2 (step_wp (fun s' h _ => ?_) ?_)
  · obtain ⟨p, hp, -, hpkey⟩ := hthere s' h
    exact ⟨p, hp, hpkey⟩
  · intro s₃ ch r s₄ _ _ _ he h₄
    cases r with
    | error e => exact hfail e s₄ ((h₁.trans h₂).trans h₄)
    | ok a =>
      refine hQ _ s₄ ((h₁.trans h₂).trans h₄) ?_
      rintro id success h
      cases h
      obtain ⟨p, hp, hid, hpkey⟩ := hthere s₄ h₄
      obtain ⟨d, hd, hdid, hdkey⟩ := charge_of_exec he
      exact World.chargedFor_eq_true.2 ⟨p, hp, hid, d, hd, hdid, hdkey.trans hpkey.symm⟩

/-- `callProcessor` for a payment that is there: it names a charge made for the payment, or none. -/
theorem callProcessor_wp {env : Env} {req : CreatePaymentRequest} (hs : s.hasPayment env.uuid req.idempotencyKey)
    {Q : Except PaymentError (Option String × Bool) → World → Prop}
    (hQ : ∀ id success s', Rely c s s' → (∀ x, id = some x → s'.chargedFor env.uuid x = true) → Q (.ok (id, success)) s') :
    (callProcessor env req).wp (Does w) (contract w c) Q s := by
  unfold callProcessor
  rw [Prog.wp_tryCatch]
  have hnone : ∀ s', Rely c s s' → Q (.ok (none, false)) s' := fun s' h => hQ _ _ s' h nofun
  refine (harmless_decimalStringToMinorUnits _ _).bind_wp (fun e s' h => hnone s' h) (fun amountMinor s₁ h₁ => ?_)
  refine (Prog.wp_bind _ _ _).2 (charge_wp (hs.steady h₁.steady) (fun r s₂ h₂ hr => ?_))
  cases r with
  | error e => exact hnone s₂ (h₁.trans h₂)
  | ok a =>
    refine hQ _ _ s₂ (h₁.trans h₂) (fun x hx => ?_)
    obtain rfl := Option.some.inj (eq_some_of_truthy hx)
    exact hr a.1 a.2 rfl

/-- `createPayment` keeps its contract. -/
theorem createPayment_wp (env : Env) (req : CreatePaymentRequest) :
    (createPayment env req).wp (Does w) (contract w c) (fun _ _ => True) s := by
  unfold createPayment
  refine (harmless_openSession _).bind_wp (fun _ _ _ => trivial) (fun _ s₁ _ => ?_)
  refine (Prog.wp_bind _ _ _).2 (step_wp (fun _ _ _ => trivial) (fun _ _ r s₂ _ _ _ _ _ => ?_))
  cases r with
  | error e => exact trivial
  | ok row =>
    cases row with
    | some row => exact trivial
    | none =>
      refine (Prog.wp_bind _ _ _).2 (insertPayment_wp (fun r s₃ _ hrow => ?_))
      cases r with
      | error e => exact trivial
      | ok row =>
        cases row with
        | some row => exact trivial
        | none =>
          refine (Prog.wp_bind _ _ _).2 (callProcessor_wp (hrow rfl) (fun id success s₄ _ hid => ?_))
          have hready : ∀ s₅, Rely c s₄ s₅ → ∀ x, id = some x → s₅.chargedFor env.uuid x = true :=
            fun s₅ h x hx => h.steady.chargedFor (hid x hx)
          dsimp only
          split
          · refine (Prog.wp_bind _ _ _).2 (step_wp (fun s₅ h _ => hready s₅ h) (fun _ _ r s₆ _ _ _ _ _ => ?_))
            cases r with
            | error e => exact trivial
            | ok _ => exact (harmless_getPayment _ _ _).wp (fun _ _ _ => trivial)
          · refine (Prog.wp_bind _ _ _).2 (step_wp (fun s₅ h _ => hready s₅ h) (fun _ _ r s₆ _ _ _ _ _ => ?_))
            cases r with
            | error e => exact trivial
            | ok _ =>
              refine (harmless_postPayment _ _ _).bind_wp (fun _ _ _ => trivial) (fun _ _ _ => ?_)
              exact (harmless_getPayment _ _ _).wp (fun _ _ _ => trivial)

/-! ## Refunding -/

/-- What a refund call knows of its payment: the charge, the amount, and how much at most stands under other keys. -/
structure Known (s : World) (payment : PaymentRow) (chargeId key : String) (total : Int) : Prop where
  charged : s.chargedFor payment.id chargeId = true
  amount : ∃ p ∈ s.db.payments, p.id = payment.id ∧ p.amount = payment.amount
  elsewhere : 100 * s.standingElsewhere payment.id key ≤ total

/-- It stays known. -/
theorem Known.rely {s s' : World} {payment : PaymentRow} {chargeId key : String} {total : Int}
    (h : Known s payment chargeId key total) (hr : Rely c s s') (hc : c.refunds = some (payment.id, key)) :
    Known s' payment chargeId key total := by
  refine ⟨hr.steady.chargedFor h.charged, ?_, ?_⟩
  · obtain ⟨p, hp, hid, hamount⟩ := h.amount
    obtain ⟨p', hp', h₁, h₂, -⟩ := hr.steady.payment p hp
    exact ⟨p', hp', h₁.trans hid, h₂.trans hamount⟩
  · have h₁ := hr.elsewhere payment.id key hc
    have h₂ := h.elsewhere
    omega

/-- Cents that are within the check leave room. -/
theorem Known.room {s : World} {payment : PaymentRow} {key : String} {total : Int} {req : ProcessorRefundRequest}
    (h : Known s payment req.processorTransactionId key total) (hi : InOrder s) (hkey : req.idempotencyKey = key)
    (hle : total + 100 * (req.amountMinor : Int) ≤ payment.amount) : Room s payment.id req := by
  refine ⟨h.charged, fun p hp hid => ?_⟩
  obtain ⟨q, hq, hqid, hamount⟩ := h.amount
  obtain rfl := List.inj_on_of_nodup_map hi.paymentIds hp hq (hid.trans hqid.symm)
  have := h.elsewhere
  rw [hamount, hkey]
  omega

/-- The cents of an amount that does not round up are within the check of the amount. -/
theorem cents_within {total amount : Int} {q : ℚ} (hpos : 0 < amount) (hlt : amount < 10 ^ 19) (hq : 0 ≤ q)
    (hcheck : ((Decimal.ofNumeric total).plus (.fin q)).greaterThan (.ofNumeric amount) = false) (hround : ¬ roundsUp (.fin q)) :
    total + 100 * (cents q : Int) ≤ amount := by
  refine Decimal.le_of_not_greaterThan hpos hlt hcheck ?_
  have hnonneg : 0 ≤ roundHalfUp (q * 100) := le_roundHalfUp (by push_cast; positivity)
  have hcast : ((cents q : Int) : ℚ) = roundHalfUp (q * 100) := by
    unfold cents
    rw [Int.toNat_of_nonneg hnonneg]
  have hle : (roundHalfUp (q * 100) : ℚ) ≤ q * 100 := not_lt.1 hround
  push_cast at hcast ⊢
  rw [hcast]
  linarith

/-- `decimalStringToMinorUnits` returns the cents of an amount that is not negative, if it returns. -/
theorem decimalStringToMinorUnits_wp {amount : ℚ} {currency : String} {Q : Except PaymentError Nat → World → Prop}
    (herror : ∀ e, Q (.error e) s) (hok : 0 ≤ amount → Q (.ok (cents amount)) s) :
    (decimalStringToMinorUnits amount currency).wp (Does w) (contract w c) Q s := by
  unfold decimalStringToMinorUnits
  split
  · exact herror _
  split
  · exact herror _
  · rename_i hneg
    unfold validateMinorAmount
    refine (Prog.wp_bind _ _ _).2 ?_
    split
    · exact herror _
    · rename_i hsafe
      rw [Bool.or_eq_true, not_or, Bool.not_eq_true', Bool.not_eq_false] at hsafe
      refine (Prog.wp_pure _ _).2 ((Prog.wp_pure _ _).2 ?_)
      rw [minorUnits_exact (of_decide_eq_true hsafe.1)]
      exact hok (not_lt.1 hneg)

/-- The processor's refund, given room for it. -/
theorem refund_wp {payment : PaymentRow} {key : String} {total : Int} {env : Env} {req : ProcessorRefundRequest}
    (hc : c.refunds = some (payment.id, key)) (hs : Known s payment req.processorTransactionId key total)
    (hkey : req.idempotencyKey = key) (hle : total + 100 * (req.amountMinor : Int) ≤ payment.amount)
    {Q : Except PaymentError (String × ProcessorRefundStatus) → World → Prop} (hQ : ∀ r s', Q r s') :
    (refund env req).wp (Does w) (contract w c) Q s := by
  unfold refund
  split
  · exact hQ _ _
  refine (harmless_validateMinorAmount _).bind_wp (fun _ _ _ => hQ _ _) (fun _ s₁ h₁ => ?_)
  refine (harmless_validateIdempotencyKey _).bind_wp (fun _ _ _ => hQ _ _) (fun _ s₂ h₂ => ?_)
  refine (harmless_validateRefund _ _).bind_wp (fun _ _ _ => hQ _ _) (fun _ s₃ h₃ => ?_)
  split
  · exact hQ _ _
  have hknown := ((hs.rely h₁ hc).rely h₂ hc).rely h₃ hc
  unfold step
  rw [Prog.wp_perform]
  rintro s₄ hrely hinv r s₅ ⟨-, ch, he⟩
  have hroom : Room s₄ payment.id { req with reason := normalizeRefundReason req.reason } := by
    refine Known.room ?_ hinv hkey hle
    exact hknown.rely hrely hc
  obtain ⟨hinv', hsteady, helse⟩ := exec_refund hinv hroom he
  refine ⟨hinv', ⟨hsteady, fun u k hu => helse u k ?_⟩, hQ _ _⟩
  by_cases hp : u = payment.id
  · subst hp
    exact Or.inr ((hu key hc).symm.trans hkey.symm)
  · exact Or.inl hp

/-- The processor's part of a refund, given room for it. -/
theorem refundAtProcessor_wp {payment : PaymentRow} {total : Int} {env : Env} {sess : Session} {req : RefundRequest}
    {chargeId : String} {refundAmount : ℚ} {attempt : AttemptRow} (hc : c.refunds = some (payment.id, req.idempotencyKey))
    (hs : Known s payment chargeId req.idempotencyKey total)
    (hle : 0 ≤ refundAmount → total + 100 * (cents refundAmount : Int) ≤ payment.amount)
    {Q : Except PaymentError (Option String) → World → Prop} (hQ : ∀ r s', Q r s') :
    (refundAtProcessor env sess req payment chargeId refundAmount attempt).wp (Does w) (contract w c) Q s := by
  unfold refundAtProcessor
  split
  · exact hQ _ _
  refine (Prog.wp_bind _ _ _).2 (decimalStringToMinorUnits_wp (fun _ => hQ _ _) (fun hnonneg => ?_))
  refine (Prog.wp_bind _ _ _).2 (refund_wp hc hs rfl (hle hnonneg) (fun r s₁ => ?_))
  cases r with
  | error e => exact hQ _ _
  | ok a =>
    dsimp only
    split
    · refine Harmless.bind_wp (harmless_step ?_) (fun _ _ _ => hQ _ _) (fun _ _ _ => hQ _ _)
      exact trivial
    · refine Harmless.bind_wp (harmless_step ?_) (fun _ _ _ => hQ _ _) (fun _ _ _ => hQ _ _)
      exact trivial

/-- The claim of an attempt: its amount does not round up. -/
theorem claimAttempt_wp {sess : Session} {v : AttemptValues} {Q : Except PaymentError Claim → World → Prop}
    (hQ : ∀ r s', Rely c s s' → ¬ roundsUp v.amount → Q r s') :
    (claimAttempt sess v).wp (Does w) (contract w c) Q s := by
  unfold claimAttempt
  refine (Prog.wp_bind _ _ _).2 (step_wp (fun _ _ _ => trivial) (fun s₁ ch r s₂ _ _ hround _ h₂ => ?_))
  have hround : ¬ roundsUp v.amount := hround
  have hend : ∀ r s', Rely c s₂ s' → Q r s' := fun r s' h => hQ r s' (h₂.trans h) hround
  have hnow : ∀ r, Q r s₂ := fun r => hend r s₂ (.refl c s₂)
  cases r with
  | error e => exact hnow _
  | ok row =>
    cases row with
    | some row => exact hnow _
    | none =>
      dsimp only
      exact (harmless_existingAttempt sess v).wp hend

/-- `refundPayment` on a payment in order keeps its contract. -/
theorem refundPosted_wp {env : Env} {req : RefundRequest} {payment : PaymentRow} {chargeId : String} {ledgerTransactionId : Uuid}
    (hc : c.refunds = some (payment.id, req.idempotencyKey)) (hamount : 0 < payment.amount ∧ payment.amount < 10 ^ 19)
    (hcharged : s.chargedFor payment.id chargeId = true)
    (hthere : ∃ p ∈ s.db.payments, p.id = payment.id ∧ p.amount = payment.amount)
    (helse : 100 * s.standingElsewhere payment.id req.idempotencyKey ≤
      s.db.refundedTotal (env.session req.organizationId) payment.id) :
    (refundPosted env (env.session req.organizationId) req payment chargeId ledgerTransactionId).wp (Does w) (contract w c)
      (fun _ _ => True) s := by
  unfold refundPosted
  refine (Prog.wp_bind _ _ _).2 (step_wp (fun _ _ _ => trivial) (fun s₁ ch r s₂ h₁ _ _ he h₂ => ?_))
  cases r with
  | error e => exact trivial
  | ok total =>
    have htotal : total = s₁.db.refundedTotal (env.session req.organizationId) payment.id ∧ s₂ = s₁ := by
      rcases exec_cases he with h | ⟨h, -⟩ | ⟨h, -⟩
      · cases h
        exact ⟨rfl, rfl⟩
      · cases h
      · cases h
    obtain ⟨rfl, rfl⟩ := htotal
    -- what stood elsewhere at the start is covered by the total now, and does not grow
    have hknown : Known s payment chargeId req.idempotencyKey (s₂.db.refundedTotal (env.session req.organizationId) payment.id) :=
      ⟨hcharged, hthere, helse.trans (h₁.steady.total _ _)⟩
    dsimp only
    split
    · exact trivial
    · rename_i hcheck
      rw [Bool.not_eq_true] at hcheck
      refine (Prog.wp_bind _ _ _).2 (claimAttempt_wp (fun r s₃ h₃ hround => ?_))
      cases r with
      | error e => exact trivial
      | ok claim =>
        cases claim with
        | done row => exact trivial
        | attempt attempt =>
          have hle : 0 ≤ req.refundAmount payment → _ :=
            fun hnonneg => cents_within hamount.1 hamount.2 hnonneg hcheck hround
          refine (Prog.wp_bind _ _ _).2 (refundAtProcessor_wp hc ((hknown.rely h₂ hc).rely h₃ hc) hle (fun r s₄ => ?_))
          cases r with
          | error e => exact trivial
          | ok id =>
            refine (harmless_reverseInLedger _ _ _ _ _).bind_wp (fun _ _ _ => trivial) (fun reversal _ _ => ?_)
            exact (harmless_recordRefund _ _ _ _ _ _ _ _ _).wp (fun _ _ _ => trivial)

/-- A payment that was selected is there. -/
theorem payment_of_select {s s' : World} {sess : Session} {id : UuidText} {payment : PaymentRow} {ch : Choice}
    (h : exec (.sql sess (.selectPayment id)) ch s = some (.ok (some payment), s')) :
    id.value = some payment.id ∧ payment ∈ s.db.payments ∧ s' = s := by
  rcases exec_cases h with h | ⟨h, -⟩ | ⟨h, -⟩
  · simp only [World.perform, Tables.perform] at h
    cases hid : id.value with
    | none =>
      rw [hid] at h
      cases h
    | some u =>
      rw [hid] at h
      obtain ⟨hrow, rfl⟩ := Prod.mk.inj (Option.some.inj h)
      have hfind := Except.ok.inj hrow
      have hid : payment.id = u ∧ payment.organizationId = sess.organizationId := by
        simpa using List.find?_some hfind
      exact ⟨by rw [hid.1], List.mem_of_find?_eq_some hfind, rfl⟩
  · cases h
  · cases h

/-- `refundPayment` keeps its contract, started when what stands elsewhere is covered by the refunds table. -/
theorem refundPayment_wp {env : Env} {req : RefundRequest} (hc : c = .refundPayment env req)
    (helse : ∀ u, req.paymentId.value = some u →
      100 * s.standingElsewhere u req.idempotencyKey ≤ s.db.refundedTotal (env.session req.organizationId) u) :
    (refundPayment env req).wp (Does w) (contract w c) (fun _ _ => True) s := by
  unfold refundPayment
  split
  · exact trivial
  refine (harmless_openSession _).bind_wp (fun _ _ _ => trivial) (fun _ s₁ h₁ => ?_)
  refine Harmless.bind_wp (harmless_step ?_) (fun _ _ _ => trivial) (fun row s₂ h₂ => ?_)
  · exact trivial
  cases row with
  | some row => exact trivial
  | none =>
    refine (Prog.wp_bind _ _ _).2 (step_wp (fun _ _ _ => trivial) (fun s₃ ch r s₄ h₃ hinv _ he h₄ => ?_))
    cases r with
    | error e => exact trivial
    | ok row =>
      cases row with
      | none => exact trivial
      | some payment =>
        dsimp only
        split
        · exact trivial
        split
        · exact trivial
        · exact trivial
        · rename_i chargeId ledgerTransactionId hcharge hledger
          obtain ⟨hid, hmem, rfl⟩ := payment_of_select he
          have hrefunds : c.refunds = some (payment.id, req.idempotencyKey) := by
            rw [hc]
            simp [Call.refunds, hid]
          have hstart := (h₁.trans h₂).trans h₃
          refine refundPosted_wp hrefunds (hinv.amounts payment hmem) ?_ ⟨payment, hmem, rfl, rfl⟩ ?_
          · obtain ⟨d, hd, hdid, hdkey⟩ := hinv.charge payment hmem chargeId (eq_some_of_truthy hcharge)
            exact World.chargedFor_eq_true.2 ⟨payment, hmem, rfl, d, hd, hdid, hdkey⟩
          · have h₅ := hstart.elsewhere payment.id _ hrefunds
            have h₆ := hstart.steady.total (env.session req.organizationId) payment.id
            have h₇ := helse payment.id hid
            omega

/-- Every call keeps its contract under the condition. -/
theorem outline_sound : outline.Sound covered where
  refl _ c s := Rely.refl c s
  trans _ _ _ _ _ h h' := h.trans h'
  symm _ _ _ _ h u k k' h₁ h₂ := (h u k' k h₂ h₁).symm
  guar _ c _ c' s s' _ hcompat _ hguar := by
    refine ⟨hguar.steady, fun u k hc' => hguar.elsewhere u k (fun k' hc => ?_)⟩
    exact hcompat u k' k hc hc'
  start cfg c hinv hstart := by
    cases c with
    | createPayment env req =>
      refine ⟨fun x _ u k k' h _ => (by cases h), (Prog.wp_bind _ _ _).2 ?_⟩
      refine Prog.wp_mono (fun r s' _ => ?_) _ (createPayment_wp env req)
      cases r <;> exact trivial
    | refundPayment env req =>
      constructor
      · intro x hx u k k' h h'
        obtain ⟨v, hv, he⟩ := Option.map_eq_some_iff.1 h
        cases he
        exact ((hstart u hv).1 x hx k' h').symm
      · refine (Prog.wp_bind _ _ _).2 ?_
        refine Prog.wp_mono (fun r s' _ => ?_) _ (refundPayment_wp rfl (fun u hu => (hstart u hu).2))
        cases r <;> exact trivial
    | settleCharge id status =>
      refine ⟨fun x _ u k k' h _ => (by cases h), (Prog.wp_bind _ _ _).2 (step_wp (fun _ _ _ => trivial) ?_)⟩
      intro _ _ r _ _ _ _ _ _
      cases r <;> exact trivial
    | settleRefund id status =>
      refine ⟨fun x _ u k k' h _ => (by cases h), (Prog.wp_bind _ _ _).2 (step_wp (fun _ _ _ => trivial) ?_)⟩
      intro _ _ r _ _ _ _ _ _
      cases r <;> exact trivial
  crash _ s hinv := ⟨hinv, fun _ c _ => Rely.refl c s⟩

end

end Payments

end Archisynapse
