import Archisynapse.Lemmas.PaymentsRecords
import Archisynapse.Lemmas.PaymentsRuns

/-!
# Creating a payment

The contract of `createPayment` in a recorded run: the call that inserted the payment is the one that asks for its charge, once,
and when it returns, its payment has not succeeded, is posted to the ledger or is queued for it.
-/

namespace Archisynapse

namespace Payments

/-- The row a request inserts. -/
def CreatePaymentRequest.values (req : CreatePaymentRequest) (uuid : Uuid) : PaymentValues :=
  ⟨uuid, .fin req.amount, req.currency, req.idempotencyKey, .fin (req.feeAmount.getD 0)⟩

/-- A queued payment: the row has the payment's id, the key of its posting to the ledger, and its amounts. -/
structure Queued (req : CreatePaymentRequest) (p : PaymentRow) (u : UnpostedRow) : Prop where
  paymentId : u.paymentId = p.id
  idempotencyKey : u.idempotencyKey = "payment-" ++ Uuid.text p.id
  grossAmount : u.grossAmount = p.amount
  feeAmount : u.feeAmount = p.feeAmount
  netAmount : numeric req.net = .ok u.netAmount

/-- A payment is posted to the ledger, or queued for it. -/
def Tables.Accounted (d : Tables) (req : CreatePaymentRequest) (p : PaymentRow) : Prop :=
  p.ledgerTransactionId.isSome = true ∨ ∃ u ∈ d.unposted, Queued req p u

/-- The payment of a call that inserted it is not lost: it has not succeeded, or it is accounted for. -/
def Tables.NotLost (d : Tables) (req : CreatePaymentRequest) (id : Uuid) : Prop :=
  d.Unsucceeded id ∨ ∃ p ∈ d.payments, p.id = id ∧ d.Accounted req p

/-- No payment was inserted by a worker. -/
def NoInsert (s : Traced) (w : Nat) : Prop := ∀ x ∈ inserts s.2, x.worker ≠ w

section

variable {s s' : Traced} {w : Nat} {env : Env} {sess : Session} {req : CreatePaymentRequest}

theorem NoInsert.leaves (h : NoInsert s w) (hl : Leaves w s s') : NoInsert s' w :=
  fun x hx hw => h x ((hl.mine x hw).1 hx) hw

/-- The insert of a worker is its own to the end. -/
theorem Leaves.owned {x : Insert} (hl : Leaves w s s') (hw : x.worker = w) (hx : x ∈ inserts s.2) : x ∈ inserts s'.2 :=
  (hl.mine x hw).2 hx

/-- A payment that is not lost stays so while others leave it alone. -/
theorem Leaves.notLost {x : Insert} (hl : Leaves w s s') (hw : x.worker = w) (hx : x ∈ inserts s.2)
    (h : s.1.db.NotLost req x.values.id) : s'.1.db.NotLost req x.values.id := by
  rcases h with h | ⟨p, hp, hid, h⟩
  · exact Or.inl (hl.unsucceeded x hx hw h)
  · obtain ⟨p', hp', h₁, -, h₃, h₄, -, h₆⟩ := hl.kept.payment p hp
    refine Or.inr ⟨p', hp', h₁.trans hid, ?_⟩
    rcases h with h | ⟨u, hu, hq⟩
    · exact Or.inl (h₆ h)
    · exact Or.inr ⟨u, hl.kept.unposted u hu, hq.paymentId.trans h₁.symm, by rw [h₁]; exact hq.idempotencyKey,
        hq.grossAmount.trans h₃.symm, hq.feeAmount.trans h₄.symm, hq.netAmount⟩

/-- Inserts that were recorded stay recorded. -/
theorem mem_inserts_add {t : World} {o : Action} {r : Except PaymentError o.Result} {x : Insert} (h : x ∈ inserts s.2) :
    x ∈ inserts (s.add t w o r).2 := by
  rw [inserts_add]
  exact List.mem_append_left _ h

/-- The insert of `createPayment`: the worker owns the payment when it wrote the row, and has inserted nothing otherwise. -/
theorem insertPayment_recorded (hs : NoInsert s w) {Q : Except PaymentError (Option PaymentRow) → Traced → Prop}
    (hnew : ∀ s', ⟨w, sess, req.values env.uuid⟩ ∈ inserts s'.2 → req.idempotencyKey ∉ asked s'.2 → Q (.ok none) s')
    (hold : ∀ r s', r ≠ .ok none → NoInsert s' w → Q r s') :
    (insertPayment env sess req).wp (RecordedDoes w) (recordedContract w) Q s := by
  unfold insertPayment
  refine (Prog.wp_tryCatch _ _ _).2 ((Prog.wp_bind _ _ _).2 (recorded_step_wp ?_))
  intro s₁ ch r t hl hi he
  cases r with
  | ok u =>
    obtain ⟨h₁, h₂, h₃, h₄⟩ := hi.insert (w := w) he
    exact ⟨h₁, h₂, hnew _ h₃ h₄⟩
  | error e =>
    obtain ⟨h₁, h₂⟩ := hi.other (w := w) he rfl rfl
    have hleaves : ∀ w', Leaves w' s₁ _ := fun w' => h₂ w' (fun x _ _ => by rintro ⟨_, ⟨_, h⟩ | h⟩ <;> cases h)
    have hno := (hs.leaves hl).leaves (hleaves w)
    refine ⟨h₁, fun w' _ => hleaves w', ?_⟩
    dsimp only
    split
    · refine Harmless.recorded_bind (harmless_step ?_) (fun e s' h => hold _ s' nofun (hno.leaves h)) (fun row s' h => ?_)
      · exact trivial
      cases row with
      | some row => exact hold _ s' nofun (hno.leaves h)
      | none => exact hold _ s' nofun (hno.leaves h)
    · exact hold _ _ nofun hno

/-- `callProcessor` of the worker that inserted the payment: the charge is asked for at most once. -/
theorem callProcessor_recorded {x : Insert} (hw : x.worker = w) (hx : x ∈ inserts s.2)
    (hkey : x.values.idempotencyKey = req.idempotencyKey) (hfirst : req.idempotencyKey ∉ asked s.2)
    {Q : Except PaymentError (Option String × Bool) → Traced → Prop} (hQ : ∀ a s', x ∈ inserts s'.2 → Q (.ok a) s') :
    (callProcessor env req).wp (RecordedDoes w) (recordedContract w) Q s := by
  unfold callProcessor
  rw [Prog.wp_tryCatch]
  have hend : ∀ s', Leaves w s s' → Q (.ok (none, false)) s' := fun s' h => hQ _ s' (h.owned hw hx)
  refine (harmless_decimalStringToMinorUnits _ _).recorded_bind (fun _ s' h => hend s' h) (fun amountMinor s₁ h₁ => ?_)
  refine (Prog.wp_bind _ _ _).2 ?_
  unfold charge
  split
  · exact hend _ h₁
  refine (harmless_validateMinorAmount _).recorded_bind (fun _ s' h => hend s' (h₁.trans h)) (fun _ s₂ h₂ => ?_)
  split
  · exact hend _ (h₁.trans h₂)
  split
  · exact hend _ (h₁.trans h₂)
  refine (harmless_validateIdempotencyKey _).recorded_bind (fun _ s' h => hend s' ((h₁.trans h₂).trans h)) (fun _ s₃ h₃ => ?_)
  refine (harmless_validateCharge _ _ _).recorded_bind (fun _ s' h => hend s' (((h₁.trans h₂).trans h₃).trans h)) ?_
  intro _ s₄ h₄
  have hl := ((h₁.trans h₂).trans h₃).trans h₄
  refine (Prog.wp_bind _ _ _).2 (recorded_step_wp ?_)
  intro s₅ ch r t h₅ hi he
  have hfirst' : req.idempotencyKey ∉ asked s₅.2 := by
    rw [← hkey] at hfirst ⊢
    exact fun h => hfirst ((hl.trans h₅).charges x hx hw h)
  obtain ⟨h₆, h₇, h₈⟩ := hi.charge (w := w) he ((hl.trans h₅).owned hw hx) hw hkey hfirst'
  have hmem : x ∈ inserts (s₅.add t w _ r).2 := by
    rw [h₈]
    exact (hl.trans h₅).owned hw hx
  refine ⟨h₆, h₇, ?_⟩
  cases r with
  | error e => exact hQ _ _ hmem
  | ok a => exact hQ _ _ hmem

/-- The update of a payment whose charge did not succeed. -/
theorem updateFailed_recorded {x : Insert} (hw : x.worker = w) (hx : x ∈ inserts s.2) {id : Option String}
    {Q : Except PaymentError Unit → Traced → Prop} (herror : ∀ e s', Q (.error e) s')
    (hQ : ∀ s', x ∈ inserts s'.2 → s'.1.db.Unsucceeded x.values.id → Q (.ok ()) s') :
    (query x.sess (.updatePayment x.values.id (.failed id))).wp (RecordedDoes w) (recordedContract w) Q s := by
  refine recorded_step_wp ?_
  intro s₁ ch r t hl hi he
  obtain ⟨h₁, h₂⟩ := hi.other (w := w) he rfl rfl
  have hfailed : ∀ id', ¬ (Action.sql x.sess (.updatePayment x.values.id (.failed id))).succeeds id' := by
    intro id' h
    rcases h.update.2 with ⟨y, hy⟩ | hy
    · cases hy
    · cases hy
  refine ⟨h₁, fun w' _ => h₂ w' (fun _ _ _ => hfailed _), ?_⟩
  cases r with
  | error e => exact herror e _
  | ok u =>
    have hmem := hl.owned hw hx
    refine hQ _ (mem_inserts_add hmem) ?_
    -- the row is the worker's own, so its session sees it
    obtain ⟨p, hp, hid, horg, -⟩ := hi.row x hmem
    rcases exec_cases he with h | ⟨h, -⟩ | ⟨h, -⟩
    · cases h
      intro q hq hqid
      rcases mem_updateKey.1 hq with ⟨q₀, hq₀, hq₀id, rfl⟩ | ⟨hq, hne⟩
      · obtain rfl := List.inj_on_of_nodup_map hi.ids hq₀ hp (hq₀id.trans hid.symm)
        rw [if_pos (by simp [Session.sees, horg])]
        exact PaymentStatus.noConfusion
      · exact absurd hqid hne
    · cases h
    · cases h

/-- The update of a payment whose charge succeeded. -/
theorem updateSucceeded_recorded {x : Insert} (hw : x.worker = w) (hx : x ∈ inserts s.2) {id : Option String}
    {Q : Except PaymentError Unit → Traced → Prop} (hQ : ∀ r s', x ∈ inserts s'.2 → Q r s') :
    (query x.sess (.updatePayment x.values.id (.succeeded id))).wp (RecordedDoes w) (recordedContract w) Q s := by
  refine recorded_step_wp ?_
  intro s₁ ch r t hl hi he
  have hmem := hl.owned hw hx
  obtain ⟨h₁, h₂⟩ := hi.other (w := w) he rfl rfl
  refine ⟨h₁, fun w' hne => h₂ w' (fun y hy hyw => ?_), hQ _ _ (mem_inserts_add hmem)⟩
  -- a payment another worker inserted has another id
  intro h
  exact hne (hyw.symm.trans ((hi.once y hy x hmem (Or.inl h.update.1.symm)).trans hw))

/-- The text of a uuid has 36 characters. -/
theorem Uuid.length_text (u : Uuid) : u.text.length = 36 := by
  simp only [Uuid.text, String.length_append, String.length_ofList, List.length_map, List.length_range]
  decide

/-- A column that keeps a positive amount keeps the amount. -/
theorem numeric_of_positive {value : Decimal} {n : Int} (h : positive value = .ok n) : numeric value = .ok n := by
  obtain ⟨m, hm, h₁⟩ := ok_of_except_bind h
  split at h₁
  · cases h₁
  · cases h₁
    exact hm

/-- What a column keeps of a number of ten-thousandths. -/
theorem numeric_ofNumeric {m x : Int} (h : numeric (.ofNumeric m) = .ok x) : x = m ∧ x.natAbs < 10 ^ 19 := by
  unfold numeric at h
  split at h
  · rename_i y hy
    cases h
    have hx := Decimal.toNumeric_ofNumeric hy
    subst hx
    refine ⟨rfl, ?_⟩
    by_contra hlarge
    have hq : (x / 10000 * 10000 : ℚ) = x := div_mul_cancel₀ _ (by norm_num)
    rw [Decimal.ofNumeric, Decimal.toNumeric, hq, roundHalfUp_intCast, if_neg hlarge] at hy
    cases hy
  · cases h
  · cases h

/-- The row of a queued payment. -/
theorem unpostedRow_ok {v : UnpostedValues} {row : UnpostedRow} (h : v.row sess = .ok row) :
    row.paymentId = v.paymentId ∧ column 255 v.idempotencyKey = .ok row.idempotencyKey ∧
      numeric v.grossAmount = .ok row.grossAmount ∧ numeric v.feeAmount = .ok row.feeAmount ∧
      numeric v.netAmount = .ok row.netAmount := by
  obtain ⟨key, hkey, h₁⟩ := ok_of_except_bind h
  obtain ⟨gross, hgross, h₂⟩ := ok_of_except_bind h₁
  obtain ⟨fee, hfee, h₃⟩ := ok_of_except_bind h₂
  obtain ⟨net, hnet, h₄⟩ := ok_of_except_bind h₃
  obtain ⟨currency, -, h₅⟩ := ok_of_except_bind h₄
  obtain ⟨reference, -, h₆⟩ := ok_of_except_bind h₅
  cases h₆
  exact ⟨rfl, hkey, hgross, hfee, hnet⟩

/-- A payment that was queued is there. -/
theorem insertUnposted_ok {s t : World} {ch : Choice} {u : Unit} {v : UnpostedValues}
    (he : exec (.sql sess (.insertUnposted v)) ch s = some (.ok u, t)) : ∃ row ∈ t.db.unposted, v.row sess = .ok row := by
  rcases exec_cases he with h | ⟨h, -⟩ | ⟨h, -⟩
  · simp only [World.perform, Tables.perform, Tables.insert] at h
    cases hrow : v.row sess with
    | error e =>
      rw [hrow] at h
      cases h
    | ok row =>
      rw [hrow] at h
      cases h
      exact ⟨row, List.mem_append_right _ (List.mem_singleton_self _), rfl⟩
  · cases h
  · cases h

/-- The row that is queued for a payment has what the payment has. -/
theorem queued_of_row {p : PaymentRow} {row : UnpostedRow} (hid : p.id = env.uuid)
    (hgross : positive (.fin req.amount) = .ok p.amount) (hfee : numeric (.fin (req.feeAmount.getD 0)) = .ok p.feeAmount)
    (h : UnpostedValues.row ⟨env.uuid, "payment-" ++ Uuid.text env.uuid, .fin req.amount, .fin (req.feeAmount.getD 0), req.net,
      req.currency, Uuid.text env.uuid⟩ sess = .ok row) : Queued req p row := by
  obtain ⟨h₁, h₂, h₃, h₄, h₅⟩ := unpostedRow_ok h
  have hlen : ("payment-" ++ Uuid.text env.uuid).length ≤ 255 := by
    rw [String.length_append, Uuid.length_text]
    decide
  have hkey := column_ok_eq h₂ hlen
  rw [← hid] at hkey
  exact ⟨h₁.trans hid.symm, hkey, Except.ok.inj (h₃.symm.trans (numeric_of_positive hgross)),
    Except.ok.inj (h₄.symm.trans hfee), h₅⟩

/-- `postPayment` of the worker that inserted the payment: the payment is posted or queued. -/
theorem postPayment_recorded (hx : ⟨w, sess, req.values env.uuid⟩ ∈ inserts s.2) {Q : Except PaymentError Unit → Traced → Prop}
    (herror : ∀ e s', Q (.error e) s')
    (hQ : ∀ s', ⟨w, sess, req.values env.uuid⟩ ∈ inserts s'.2 → s'.1.db.NotLost req env.uuid → Q (.ok ()) s') :
    (postPayment env sess req).wp (RecordedDoes w) (recordedContract w) Q s := by
  -- the handler, wherever the posting failed
  have hqueue : ∀ s₀, Leaves w s s₀ → (query sess (.insertUnposted ⟨env.uuid, "payment-" ++ Uuid.text env.uuid, .fin req.amount,
      .fin (req.feeAmount.getD 0), req.net, req.currency, Uuid.text env.uuid⟩)).wp (RecordedDoes w) (recordedContract w) Q s₀ := by
    intro s₀ h₀
    refine recorded_step_wp ?_
    intro s₁ ch r t hl hi he
    obtain ⟨h₁, h₂⟩ := hi.chargeless (w := w) he trivial
    refine ⟨h₁, fun w' _ => h₂ w', ?_⟩
    cases r with
    | error e => exact herror e _
    | ok u =>
      have hmem := ((h₀.trans hl).trans (h₂ w)).owned rfl hx
      obtain ⟨p, hp, hid, -, hgross, hfee, -⟩ := h₁.row _ hmem
      obtain ⟨row, hrow, hok⟩ := insertUnposted_ok he
      exact hQ _ hmem (Or.inr ⟨p, hp, hid, Or.inr ⟨row, hrow, queued_of_row hid hgross hfee hok⟩⟩)
  unfold postPayment
  rw [Prog.wp_tryCatch]
  refine (harmless_resolveLedgerAccounts _ _).recorded_bind (fun e s' h => hqueue s' h) (fun accounts s₁ h₁ => ?_)
  refine Harmless.recorded_bind (harmless_step ?_) (fun e s' h => hqueue s' (h₁.trans h)) (fun transaction s₂ h₂ => ?_)
  · exact trivial
  refine recorded_step_wp ?_
  intro s₃ ch r t hl hi he
  obtain ⟨h₃, h₄⟩ := hi.chargeless (w := w) he trivial
  have hleaves := ((h₁.trans h₂).trans hl).trans (h₄ w)
  refine ⟨h₃, fun w' _ => h₄ w', ?_⟩
  cases r with
  | error e => exact hqueue _ hleaves
  | ok u =>
    have hmem := hleaves.owned rfl hx
    refine hQ _ hmem (Or.inr ?_)
    obtain ⟨p, hp, hid, horg, -⟩ := hi.row _ (((h₁.trans h₂).trans hl).owned rfl hx)
    rcases exec_cases he with h | ⟨h, -⟩ | ⟨h, -⟩
    · cases h
      refine ⟨_, mem_updateKey.2 (Or.inl ⟨p, hp, hid, rfl⟩), ?_⟩
      rw [if_pos (by simp [Session.sees, horg])]
      exact ⟨hid, Or.inl rfl⟩
    · cases h
    · cases h

/-- `createPayment`: when it returns, the payment it inserted is not lost. -/
theorem createPayment_recorded (hs : NoInsert s w) :
    (createPayment env req).wp (RecordedDoes w) (recordedContract w)
      (fun r s' => r.isOk = true → (∃ x ∈ inserts s'.2, x.worker = w) → s'.1.db.NotLost req env.uuid) s := by
  have hno : ∀ {s' : Traced} {P : Prop}, NoInsert s' w → (∃ x ∈ inserts s'.2, x.worker = w) → P :=
    fun h ⟨x, hx, hxw⟩ => absurd hxw (h x hx)
  unfold createPayment
  refine (harmless_openSession _).recorded_bind (fun _ _ _ => nofun) (fun _ s₁ h₁ => ?_)
  refine Harmless.recorded_bind (harmless_step ?_) (fun _ _ _ => nofun) (fun row s₂ h₂ => ?_)
  · exact trivial
  have hs₂ := (hs.leaves h₁).leaves h₂
  cases row with
  | some row => exact fun _ => hno hs₂
  | none =>
    refine (Prog.wp_bind _ _ _).2 (insertPayment_recorded hs₂ (fun s₃ hx hfirst => ?_) (fun r s₃ hr hs₃ => ?_))
    · refine (Prog.wp_bind _ _ _).2 (callProcessor_recorded (x := ⟨w, _, req.values env.uuid⟩) rfl hx rfl hfirst ?_)
      intro a s₄ hx₄
      have hget : ∀ s', ⟨w, env.session req.organizationId, req.values env.uuid⟩ ∈ inserts s'.2 → s'.1.db.NotLost req env.uuid →
          (getPayment env req.organizationId (.stored env.uuid)).wp (RecordedDoes w) (recordedContract w)
            (fun r s' => r.isOk = true → (∃ x ∈ inserts s'.2, x.worker = w) → s'.1.db.NotLost req env.uuid) s' := by
        intro s' hmem hlost
        refine recorded_wp (harmless_getPayment _ _ _).chargeless (fun r s'' h _ _ => ?_)
        exact h.notLost (x := ⟨w, env.session req.organizationId, req.values env.uuid⟩) rfl hmem hlost
      dsimp only
      split
      · refine (Prog.wp_bind _ _ _).2 (updateFailed_recorded (x := ⟨w, env.session req.organizationId, req.values env.uuid⟩)
          rfl hx₄ (fun _ _ => nofun) (fun s₅ hx₅ hu => ?_))
        exact hget s₅ hx₅ (Or.inl hu)
      · refine (Prog.wp_bind _ _ _).2 (updateSucceeded_recorded (x := ⟨w, env.session req.organizationId, req.values env.uuid⟩)
          rfl hx₄ (fun r s₅ hx₅ => ?_))
        cases r with
        | error e => exact nofun
        | ok u => exact (Prog.wp_bind _ _ _).2 (postPayment_recorded hx₅ (fun _ _ => nofun) hget)
    · cases r with
      | error e => exact nofun
      | ok row =>
        cases row with
        | none => exact absurd rfl hr
        | some row => exact fun _ => hno hs₃

/-! ## Refunds -/

/-- `refund` of the adapter has nothing to do with charges. -/
theorem chargeless_refund (env : Env) (req : ProcessorRefundRequest) : (refund env req).Calls Action.Chargeless := by
  refine Prog.calls_ite (harmless_fault _ _).chargeless ?_
  refine Prog.calls_bind (harmless_validateMinorAmount _).chargeless (fun _ => ?_)
  refine Prog.calls_bind (harmless_validateIdempotencyKey _).chargeless (fun _ => ?_)
  refine Prog.calls_bind (harmless_validateRefund _ _).chargeless (fun _ => ?_)
  exact Prog.calls_ite (harmless_fault _ _).chargeless (Prog.calls_perform trivial)

/-- The processor's part of a refund has nothing to do with charges. -/
theorem chargeless_refundAtProcessor (env : Env) (sess : Session) (req : RefundRequest) (payment : PaymentRow)
    (chargeId : String) (refundAmount : ℚ) (attempt : AttemptRow) :
    (refundAtProcessor env sess req payment chargeId refundAmount attempt).Calls Action.Chargeless := by
  refine Prog.calls_ite (Prog.calls_pure _) ?_
  refine Prog.calls_bind (harmless_decimalStringToMinorUnits _ _).chargeless (fun _ => ?_)
  refine Prog.calls_bind (chargeless_refund _ _) (fun _ => ?_)
  refine Prog.calls_ite ?_ ?_
  · exact Prog.calls_bind (Prog.calls_perform trivial) (fun _ => Prog.calls_throw _)
  · exact Prog.calls_bind (Prog.calls_perform trivial) (fun _ => Prog.calls_pure _)

/-- `refundPayment` on a payment in order has nothing to do with charges. -/
theorem chargeless_refundPosted (env : Env) (sess : Session) (req : RefundRequest) (payment : PaymentRow) (chargeId : String)
    (ledgerTransactionId : Uuid) :
    (refundPosted env sess req payment chargeId ledgerTransactionId).Calls Action.Chargeless := by
  refine Prog.calls_bind (Prog.calls_perform trivial) (fun total => ?_)
  refine Prog.calls_ite (harmless_fault _ _).chargeless ?_
  refine Prog.calls_bind (Prog.calls_bind (Prog.calls_perform trivial) (fun row => ?_)) (fun claim => ?_)
  · cases row with
    | some row => exact Prog.calls_pure _
    | none => exact (harmless_existingAttempt _ _).chargeless
  · cases claim with
    | done row => exact Prog.calls_pure _
    | attempt attempt =>
      refine Prog.calls_bind (chargeless_refundAtProcessor _ _ _ _ _ _ _) (fun id => ?_)
      refine Prog.calls_bind (harmless_reverseInLedger _ _ _ _ _).chargeless (fun reversal => ?_)
      exact (harmless_recordRefund _ _ _ _ _ _ _ _ _).chargeless

/-- `refundPayment` has nothing to do with charges. -/
theorem chargeless_refundPayment (env : Env) (req : RefundRequest) : (refundPayment env req).Calls Action.Chargeless := by
  refine Prog.calls_ite (harmless_fault _ _).chargeless ?_
  refine Prog.calls_bind (harmless_openSession _).chargeless (fun _ => ?_)
  refine Prog.calls_bind (Prog.calls_perform trivial) (fun row => ?_)
  cases row with
  | some row => exact Prog.calls_pure _
  | none =>
    refine Prog.calls_bind (Prog.calls_perform trivial) (fun row => ?_)
    cases row with
    | none => exact (harmless_fault _ _).chargeless
    | some payment =>
      refine Prog.calls_ite (harmless_fault _ _).chargeless ?_
      split
      · exact (harmless_fault _ _).chargeless
      · exact (harmless_fault _ _).chargeless
      · exact chargeless_refundPosted _ _ _ _ _ _

/-! ## Runs -/

/-- What holds in every recorded run, and when a call returns. -/
def recordedOutline : Machine.Outline machine.recorded where
  inv := OneCharge
  rely w _ := Leaves w
  guar w _ s s' := ∀ w', w' ≠ w → Leaves w' s s'
  compat _ _ _ _ := True
  post w c r s :=
    match c with
    | .createPayment env req => r.isOk = true → (∃ x ∈ inserts s.2, x.worker = w) → s.1.db.NotLost req env.uuid
    | _ => True

/-- Every call keeps its contract. -/
theorem recordedOutline_sound : recordedOutline.Sound (.numbered machine) where
  refl w _ s := .refl w s
  trans _ _ _ _ _ h h' := h.trans h'
  symm _ _ _ _ _ := trivial
  guar _ _ w' _ _ _ hne _ _ h := h w' hne.symm
  start cfg c hinv hstart := by
    refine ⟨fun _ _ => trivial, ?_⟩
    cases c with
    | createPayment env req =>
      have hno : NoInsert cfg.state cfg.started := by
        intro x hx hw
        obtain ⟨rec, hrec, hof⟩ := List.mem_filterMap.1 hx
        have hworker : rec.worker = x.worker := by
          unfold insertOf at hof
          split at hof
          · cases hof
            rfl
          · cases hof
        exact absurd (hworker.trans hw) (Nat.ne_of_lt (hstart rec hrec))
      refine (Prog.wp_bind _ _ _).2 (Prog.wp_mono (fun r s' h => ?_) _ (createPayment_recorded hno))
      cases r with
      | ok row => exact fun _ => h rfl
      | error e => exact nofun
    | refundPayment env req =>
      refine recorded_wp (Prog.calls_bind (chargeless_refundPayment env req) (fun _ => Prog.calls_pure _)) ?_
      exact fun _ _ _ => trivial
    | settleCharge id status =>
      refine recorded_wp (Prog.calls_bind (Prog.calls_perform ?_) (fun _ => Prog.calls_pure _)) (fun _ _ _ => ?_)
      · exact trivial
      · exact trivial
    | settleRefund id status =>
      refine recorded_wp (Prog.calls_bind (Prog.calls_perform ?_) (fun _ => Prog.calls_pure _)) (fun _ _ _ => ?_)
      · exact trivial
      · exact trivial
  crash _ s hinv := ⟨hinv, fun w' _ _ => .refl w' s⟩

end

end Payments

end Archisynapse
