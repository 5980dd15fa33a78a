import Archisynapse.Lemmas.PaymentsCreate

/-!
# Payments that failed

What the processor has charged under the key of a payment. `Charged` holds in every run: a charge has the key of a payment, and
once a payment has a key, no new charge is made under it. `createPayment_charges` says what a call that leaves its payment failed
has made the processor charge.
-/

namespace Archisynapse

namespace Payments

/-! ## What the adapter sends -/

/-- The charge that `callProcessor` asks for; none when the adapter refuses the request. -/
def sentCharge (env : Env) (req : CreatePaymentRequest) : Option ChargeRequest :=
  match callProcessor env req with
  | .call (.charge c) _ => some c
  | _ => none

/-- What `callProcessor` makes of the processor's answer. -/
def chargeOutcome : Except PaymentError (String × ChargeStatus) → Program (Option String × Bool)
  | .ok (id, status) => pure (truthy (some id), decide (status = .succeeded))
  | .error _ => pure (none, false)

/-- `charge` refuses the request, or makes one call. -/
theorem charge_eq (env : Env) (c : ChargeRequest) (liveSmokeTest : Bool) :
    (∃ e, charge env c liveSmokeTest = Prog.throw e) ∨
    (utf16Length c.idempotencyKey ≤ 255 ∧ charge env c liveSmokeTest = do
      let (id, status) ← step (.charge c)
      pure (id, decide (status = .succeeded))) := by
  unfold charge
  split
  · exact Or.inl ⟨_, rfl⟩
  rcases validateMinorAmount_eq c.amountMinor with ⟨e, he⟩ | he
  · rw [he]
    exact Or.inl ⟨e, rfl⟩
  rw [he, Prog.pure_bind_eq]
  split
  · exact Or.inl ⟨_, rfl⟩
  split
  · exact Or.inl ⟨_, rfl⟩
  rcases validateIdempotencyKey_eq c.idempotencyKey with ⟨e, he⟩ | ⟨hkey, he⟩
  · rw [he]
    exact Or.inl ⟨e, rfl⟩
  rw [he]
  rcases validateCharge_eq env.mode c liveSmokeTest with ⟨e, he⟩ | he
  · rw [he]
    exact Or.inl ⟨e, rfl⟩
  · rw [he]
    exact Or.inr ⟨hkey, rfl⟩

/-- `callProcessor` refuses the request, or makes one call. -/
theorem callProcessor_cases (env : Env) (req : CreatePaymentRequest) :
    (callProcessor env req = pure (none, false) ∧ sentCharge env req = none) ∨
    ∃ c, callProcessor env req = .call (.charge c) chargeOutcome ∧ sentCharge env req = some c ∧
      c.idempotencyKey = req.idempotencyKey ∧ utf16Length req.idempotencyKey ≤ 255 := by
  suffices h : callProcessor env req = pure (none, false) ∨ ∃ c, callProcessor env req = .call (.charge c) chargeOutcome ∧
      c.idempotencyKey = req.idempotencyKey ∧ utf16Length req.idempotencyKey ≤ 255 by
    rcases h with h | ⟨c, h, hc⟩
    · exact Or.inl ⟨h, by rw [sentCharge, h]; rfl⟩
    · exact Or.inr ⟨c, h, by rw [sentCharge, h], hc⟩
  unfold callProcessor
  rcases decimalStringToMinorUnits_eq req.amount req.currency with ⟨e, he⟩ | ⟨n, hn⟩
  · rw [he]
    exact Or.inl rfl
  rw [hn]
  change Prog.tryCatch (charge env ⟨n, _, _, _⟩ _ >>= _) _ = _ ∨ ∃ c, Prog.tryCatch (charge env ⟨n, _, _, _⟩ _ >>= _) _ = _ ∧ _
  rcases charge_eq env ⟨n, req.currency, req.paymentMethodToken, req.idempotencyKey⟩ req.liveSmokeTest with ⟨e, he⟩ | ⟨hlen, he⟩
  · rw [he]
    exact Or.inl rfl
  · rw [he]
    refine Or.inr ⟨⟨n, req.currency, req.paymentMethodToken, req.idempotencyKey⟩, ?_, rfl, hlen⟩
    change Prog.call (S := signature) _ _ = _
    congr 1
    funext r
    cases r with
    | ok a => rfl
    | error e => rfl

/-! ## Charges have the key of a payment -/

/-- A charge has the key of a payment; and under a key `k`, which a payment has, every charge has failed. -/
structure Charged (K : Option String) (s : World) : Prop where
  paid : ∀ c ∈ s.processor.charges, ∃ p ∈ s.db.payments, p.idempotencyKey = c.request.idempotencyKey
  taken : ∀ k ∈ K, ∃ p ∈ s.db.payments, p.idempotencyKey = k
  failed : ∀ k ∈ K, ∀ c ∈ s.processor.charges, c.request.idempotencyKey = k → c.status = .failed

theorem charged_empty : Charged none .empty := by
  constructor <;> simp [World.empty]

section

variable {K : Option String} {s s' : World} {o : Action} {ch : Choice}

/-- A call that is not a charge. -/
def Action.NotCharge : Action → Prop
  | .charge _ => False
  | _ => True

/-- A key that a payment has stays taken. -/
theorem Kept.key {d d' : Tables} (h : Kept d d') {key : String} (hd : ∃ p ∈ d.payments, p.idempotencyKey = key) :
    ∃ p ∈ d'.payments, p.idempotencyKey = key := by
  obtain ⟨p, hp, hkey⟩ := hd
  obtain ⟨p', hp', -, -, -, -, h', -⟩ := h.payment p hp
  exact ⟨p', hp', h'.trans hkey⟩

/-- The payments stay and the charges are as they were, but for statuses that were not final. -/
theorem Charged.keep (h : Charged K s) (hdb : Kept s.db s'.db)
    (hc : ∀ c' ∈ s'.processor.charges, ∃ c ∈ s.processor.charges, c'.request = c.request ∧ (c.status = .failed → c'.status = .failed)) :
    Charged K s' := by
  refine ⟨fun c' hc' => ?_, fun k hk => hdb.key (h.taken k hk), fun k hk c' hc' hkey => ?_⟩
  · obtain ⟨c, hmem, hreq, -⟩ := hc c' hc'
    rw [hreq]
    exact hdb.key (h.paid c hmem)
  · obtain ⟨c, hmem, hreq, hst⟩ := hc c' hc'
    rw [hreq] at hkey
    exact hst (h.failed k hk c hmem hkey)

/-- What a call that is not a charge does to the charges. -/
theorem perform_charges {r : Except PaymentError o.Result} (ho : o.NotCharge) (h : s.perform ch o = some (r, s')) :
    s'.processor.charges = s.processor.charges ∨ ∃ id status, o = .settleCharge id status ∧
      s'.processor.charges = updateKey (·.id) id (·.settle status) s.processor.charges := by
  cases o with
  | sql sess o =>
    simp only [World.perform] at h
    cases hp : s.db.perform sess o with
    | mk q db =>
      rw [hp] at h
      cases h
      exact Or.inl rfl
  | charge c => exact ho.elim
  | refund req =>
    simp only [World.perform, Processor.refund] at h
    left
    split at h
    · cases h
      rfl
    · split at h
      · cases h
        rfl
      · cases h
        rfl
  | ledger asked q =>
    obtain ⟨a, -, he⟩ := Option.map_eq_some_iff.1 h
    cases he
    exact Or.inl rfl
  | settleCharge id status =>
    cases h
    exact Or.inr ⟨id, status, rfl, rfl⟩
  | settleRefund id status =>
    cases h
    exact Or.inl rfl

theorem exec_charges {r : Except PaymentError o.Result} (ho : o.NotCharge) (h : exec o ch s = some (r, s')) :
    s'.processor.charges = s.processor.charges ∨ ∃ id status, o = .settleCharge id status ∧
      s'.processor.charges = updateKey (·.id) id (·.settle status) s.processor.charges := by
  rcases exec_cases h with h | ⟨-, rfl⟩ | ⟨-, q, h⟩
  · exact perform_charges ho h
  · exact Or.inl rfl
  · exact perform_charges ho h

/-- A call that is not a charge. -/
theorem Charged.exec (h : Charged K s) {r : Except PaymentError o.Result} (ho : o.NotCharge)
    (he : exec o ch s = some (r, s')) : Charged K s' := by
  refine h.keep (exec_effect he).kept ?_
  rcases exec_charges ho he with hc | ⟨id, status, -, hc⟩
  · rw [hc]
    exact fun c hmem => ⟨c, hmem, rfl, fun h => h⟩
  · rw [hc]
    intro c' hmem
    rcases mem_updateKey.1 hmem with ⟨c, hc, -, rfl⟩ | ⟨hmem, -⟩
    · refine ⟨c, hc, ?_, fun hst => ?_⟩
      · unfold Charge.settle
        split <;> rfl
      · unfold Charge.settle
        rw [if_pos (Or.inr hst)]
        exact hst
    · exact ⟨c', hmem, rfl, fun h => h⟩

/-- What a charge does to the charges: nothing, or there is one more. -/
theorem exec_charge {c : ChargeRequest} {r : Except PaymentError (String × ChargeStatus)}
    (h : exec (.charge c) ch s = some (r, s')) : s'.db = s.db ∧ (s'.processor.charges = s.processor.charges ∨
      ∃ id status, s'.processor.charges = s.processor.charges ++ [⟨id, c, status, status⟩]) := by
  have hperform : ∀ q, s.perform ch (.charge c) = some (q, s') → s'.db = s.db ∧
      (s'.processor.charges = s.processor.charges ∨
        ∃ id status, s'.processor.charges = s.processor.charges ++ [⟨id, c, status, status⟩]) := by
    intro q h
    obtain ⟨a, ha, he⟩ := Option.map_eq_some_iff.1 h
    cases he
    refine ⟨rfl, ?_⟩
    unfold Processor.charge at ha
    split at ha
    · cases ha
      exact Or.inl rfl
    · split at ha
      · cases ha
        exact Or.inl rfl
      · split at ha
        · cases ha
        · cases ha
          exact Or.inr ⟨_, _, rfl⟩
  rcases exec_cases h with h | ⟨-, rfl⟩ | ⟨-, q, h⟩
  · exact hperform _ h
  · exact ⟨rfl, Or.inl rfl⟩
  · exact hperform _ h

/-- A charge under the key of a payment, other than `k`. -/
theorem Charged.charge (h : Charged K s) {c : ChargeRequest} {r : Except PaymentError (String × ChargeStatus)}
    (he : Payments.exec (.charge c) ch s = some (r, s')) (hkey : ∃ p ∈ s.db.payments, p.idempotencyKey = c.idempotencyKey)
    (hne : ∀ k ∈ K, c.idempotencyKey ≠ k) : Charged K s' := by
  obtain ⟨hdb, hc | ⟨id, status, hc⟩⟩ := exec_charge he
  · refine h.keep (by rw [hdb]; exact .refl _) ?_
    rw [hc]
    exact fun c hmem => ⟨c, hmem, rfl, fun h => h⟩
  · refine ⟨fun c' hmem => ?_, fun k hk => by rw [hdb]; exact h.taken k hk, fun k hk c' hmem hck => ?_⟩
    · rw [hc] at hmem
      rw [hdb]
      rcases List.mem_append.1 hmem with hmem | hmem
      · exact h.paid c' hmem
      · rw [List.mem_singleton.1 hmem]
        exact hkey
    · rw [hc] at hmem
      rcases List.mem_append.1 hmem with hmem | hmem
      · exact h.failed k hk c' hmem hck
      · rw [List.mem_singleton.1 hmem] at hck
        exact absurd hck (hne k hk)

end

/-! ## Runs -/

/-- Every run keeps `Charged`: a call counts on the payments staying. -/
def chargedOutline (K : Option String) : Machine.Outline machine where
  inv := Charged K
  rely _ _ s s' := Kept s.db s'.db
  guar _ _ s s' := Kept s.db s'.db
  compat _ _ _ _ := True

section

variable {K : Option String} {w : Nat} {c : Call} {s : World} {α : Type}

/-- A program without charges. -/
theorem chargedOutline_wp {p : Program α} (hp : p.Calls Action.NotCharge) :
    p.wp (machine.Does (.any machine) w) ((chargedOutline K).contract w c) (fun _ s' => Kept s.db s'.db) s := by
  refine Prog.Calls.wp (R := fun (s s' : World) => Kept s.db s'.db) (fun _ _ _ h h' => h.trans h') (fun _ _ _ h h' => h.trans h') ?_ hp
    (.refl _)
  rintro o s₁ r s₂ ho hinv ⟨-, ch, he⟩
  exact ⟨hinv.exec ho he, (exec_effect he).kept⟩

/-- Calls that have nothing to do with charges are not charges. -/
theorem not_charge_of_chargeless {p : Program α} (hp : p.Calls Action.Chargeless) : p.Calls Action.NotCharge := by
  refine hp.mono (fun o ho => ?_)
  cases o with
  | charge c => exact ho
  | _ => exact trivial

/-- A program without charges, and then another. -/
theorem chargedOutline_bind {β : Type} {p : Program α} (hp : Harmless p) {f : α → Program β}
    (hf : ∀ a s', Kept s.db s'.db →
      (f a).wp (machine.Does (.any machine) w) ((chargedOutline K).contract w c) (fun _ _ => True) s') :
    (p >>= f).wp (machine.Does (.any machine) w) ((chargedOutline K).contract w c) (fun _ _ => True) s := by
  rw [Prog.wp_bind]
  refine Prog.wp_mono (fun r s' h => ?_) p (chargedOutline_wp (not_charge_of_chargeless hp.chargeless))
  cases r with
  | ok a => exact hf a s' h
  | error e => exact trivial

/-- The insert of a payment: its key was not taken. -/
theorem insertPayment_charged {env : Env} {sess : Session} {req : CreatePaymentRequest}
    {Q : Except PaymentError (Option PaymentRow) → World → Prop}
    (hnew : ∀ s' key, column 255 req.idempotencyKey = .ok key → (∃ p ∈ s'.db.payments, p.idempotencyKey = key) →
      (∀ k ∈ K, key ≠ k) → Q (.ok none) s') (hold : ∀ r s', r ≠ .ok none → Q r s') :
    (insertPayment env sess req).wp (machine.Does (.any machine) w) ((chargedOutline K).contract w c) Q s := by
  unfold insertPayment
  refine (Prog.wp_tryCatch _ _ _).2 ((Prog.wp_bind _ _ _).2 ((Prog.wp_perform _ _).2 ?_))
  rintro s₁ - hinv r s₂ ⟨-, ch, he⟩
  have hnot : (Action.sql sess (.insertPayment (req.values env.uuid))).NotCharge := trivial
  refine ⟨hinv.exec hnot he, (exec_effect he).kept, ?_⟩
  cases r with
  | ok u =>
    obtain ⟨row, hrow, hdb⟩ := insertPayment_ok he
    obtain ⟨-, hkey, -, hunused, -⟩ := paymentRow_ok hrow
    refine hnew s₂ row.idempotencyKey hkey ⟨row, ?_, rfl⟩ (fun k hk heq => ?_)
    · rw [hdb]
      exact List.mem_append_right _ (List.mem_singleton_self _)
    · obtain ⟨p, hp, hpk⟩ := hinv.taken k hk
      exact hunused p hp (hpk.trans heq.symm)
  | error e =>
    dsimp only
    split
    · rw [Prog.wp_bind]
      refine Prog.wp_mono (fun r s' _ => ?_) _ (chargedOutline_wp (Prog.calls_perform trivial))
      cases r with
      | error e => exact hold _ _ nofun
      | ok row =>
        cases row with
        | some row => exact hold _ _ nofun
        | none => exact hold _ _ nofun
    · exact hold _ _ nofun

/-- `callProcessor` for a payment that is there. -/
theorem callProcessor_charged {env : Env} {req : CreatePaymentRequest} {key : String} (hkey : column 255 req.idempotencyKey = .ok key)
    (hs : ∃ p ∈ s.db.payments, p.idempotencyKey = key) (hne : ∀ k ∈ K, key ≠ k)
    {Q : Except PaymentError (Option String × Bool) → World → Prop} (hQ : ∀ a s', Q (.ok a) s') :
    (callProcessor env req).wp (machine.Does (.any machine) w) ((chargedOutline K).contract w c) Q s := by
  rcases callProcessor_cases env req with ⟨h, -⟩ | ⟨c, h, -, hc, hlen⟩
  · rw [h]
    exact hQ _ _
  · rw [h]
    obtain rfl := column_ok_eq hkey ((length_le_utf16Length _).trans hlen)
    rintro s₁ hrely hinv r s₂ ⟨-, ch, he⟩
    refine ⟨hinv.charge he ?_ (fun k hk => by rw [hc]; exact hne k hk), (exec_effect he).kept, ?_⟩
    · rw [hc]
      exact Kept.key hrely hs
    · cases r with
      | ok a => exact hQ _ _
      | error e => exact hQ _ _

/-- `createPayment` charges under the key of the payment it inserted. -/
theorem createPayment_charged (env : Env) (req : CreatePaymentRequest) :
    (createPayment env req).wp (machine.Does (.any machine) w) ((chargedOutline K).contract w c) (fun _ _ => True) s := by
  unfold createPayment
  refine chargedOutline_bind (harmless_openSession _) (fun _ s₁ _ => ?_)
  refine chargedOutline_bind (harmless_step ?_) (fun row s₂ _ => ?_)
  · exact trivial
  cases row with
  | some row => exact trivial
  | none =>
    refine (Prog.wp_bind _ _ _).2 (insertPayment_charged (fun s₃ key hkey hrow hne => ?_) (fun r s₃ hr => ?_))
    · refine (Prog.wp_bind _ _ _).2 (callProcessor_charged hkey hrow hne (fun a s₄ => ?_))
      have hrest : ∀ {α : Type} {p : Program α} {s'}, p.Calls Action.NotCharge →
          p.wp (machine.Does (.any machine) w) ((chargedOutline K).contract w c) (fun _ _ => True) s' :=
        fun hp => Prog.wp_mono (fun _ _ _ => trivial) _ (chargedOutline_wp hp)
      have hget := not_charge_of_chargeless (harmless_getPayment env req.organizationId (.stored env.uuid)).chargeless
      dsimp only
      split
      · exact hrest (Prog.calls_bind (Prog.calls_perform trivial) (fun _ => hget))
      · refine hrest (Prog.calls_bind (Prog.calls_perform trivial) (fun _ => Prog.calls_bind ?_ (fun _ => hget)))
        exact not_charge_of_chargeless (harmless_postPayment _ _ _).chargeless
    · cases r with
      | error e => exact trivial
      | ok row =>
        cases row with
        | none => exact absurd rfl hr
        | some row => exact trivial

/-- Every call keeps `Charged`. -/
theorem chargedOutline_sound (K : Option String) : (chargedOutline K).Sound (.any machine) where
  refl _ _ _ := .refl _
  trans _ _ _ _ _ h h' := h.trans h'
  symm _ _ _ _ _ := trivial
  guar _ _ _ _ _ _ _ _ _ h := h
  start cfg c _ _ := by
    refine ⟨fun _ _ => trivial, ?_⟩
    cases c with
    | createPayment env req =>
      refine (Prog.wp_bind _ _ _).2 (Prog.wp_mono (fun r s' _ => ?_) _ (createPayment_charged env req))
      cases r <;> exact trivial
    | refundPayment env req =>
      refine Prog.wp_mono (fun _ _ _ => trivial) _ (chargedOutline_wp (Prog.calls_bind ?_ (fun _ => Prog.calls_pure _)))
      exact not_charge_of_chargeless (chargeless_refundPayment env req)
    | settleCharge id status =>
      refine Prog.wp_mono (fun _ _ _ => trivial) _ (chargedOutline_wp (Prog.calls_bind ?_ (fun _ => Prog.calls_pure _)))
      exact Prog.calls_perform trivial
    | settleRefund id status =>
      refine Prog.wp_mono (fun _ _ _ => trivial) _ (chargedOutline_wp (Prog.calls_bind ?_ (fun _ => Prog.calls_pure _)))
      exact Prog.calls_perform trivial
  crash _ _ hinv := ⟨hinv, fun _ _ _ => .refl _⟩

end

/-! ## A call that leaves its payment failed -/

/-- No payment with an id is further than pending. -/
def Tables.Pending (d : Tables) (id : Uuid) : Prop := ∀ p ∈ d.payments, p.id = id → p.status = .pending

/-- What `createPayment` does with the processor's answer. -/
def settlePayment (env : Env) (req : CreatePaymentRequest) (outcome : Option String × Bool) : Program PaymentRow :=
  if !outcome.2 then do
    query (env.session req.organizationId) (.updatePayment env.uuid (.failed outcome.1))
    getPayment env req.organizationId (.stored env.uuid)
  else do
    query (env.session req.organizationId) (.updatePayment env.uuid (.succeeded outcome.1))
    postPayment env (env.session req.organizationId) req
    getPayment env req.organizationId (.stored env.uuid)

section

variable {env : Env} {req : CreatePaymentRequest} {ch : Nat → Choice} {s s' : World} {r : Except PaymentError PaymentRow}

/-- An insert leaves its payment pending. -/
theorem Tables.Pending.insert {d d' : Tables} {id : Uuid} {sess : Session} {v : PaymentValues} (h : d.Pending id)
    (he : Effect d d' (.sql sess (.insertPayment v))) : d'.Pending id := by
  cases he with
  | none _ hp _ =>
    unfold Tables.Pending
    rw [hp]
    exact h
  | insert _ _ row hrow hd =>
    subst hd
    intro p hp hid
    rcases List.mem_append.1 hp with hp | hp
    · exact h p hp hid
    · rw [List.mem_singleton.1 hp]
      exact paymentRow_status hrow

/-- A call that runs alone keeps `Charged`. -/
theorem alone_createPayment_charged (hs : Charged none s) (h : alone (createPayment env req) ch s = some (r, s')) :
    Charged none s' := by
  have hwp := createPayment_charged (K := none) (w := 0) (c := .createPayment env req) (s := s) env req
  unfold alone at h
  exact (Prog.wp_run exec (fun o c s r s' he => ⟨trivial, c, he⟩) (fun s => Kept.refl s.db) _ hs hwp h).1

/-- A call that did not leave its payment pending has inserted it, and went on to the processor. -/
theorem createPayment_inserted (h : alone (createPayment env req) ch s = some (r, s'))
    (hfresh : ∀ q ∈ s.db.payments, q.id ≠ env.uuid) (hp : ¬ s'.db.Pending env.uuid) :
    ∃ row s₁, s.db.paymentRow (env.session req.organizationId) (req.values env.uuid) = .ok row ∧
      s₁.db = { s.db with payments := s.db.payments ++ [row] } ∧ s₁.processor = s.processor ∧
      Prog.run exec ch 3 (callProcessor env req >>= settlePayment env req) s₁ = some (r, s') := by
  have hs : s.db.Pending env.uuid := fun q hq hid => absurd hid (hfresh q hq)
  unfold alone createPayment openSession at h
  dsimp only at h
  by_cases horg : (env.session req.organizationId).organizationId = ""
  · rw [if_pos horg] at h
    cases h
    exact absurd hs hp
  rw [if_neg horg] at h
  obtain ⟨r₁, s₁, he₁, h₁⟩ := Prog.run_call_bind h
  obtain rfl := (exec_reads he₁ trivial).1
  cases r₁ with
  | error e =>
    cases h₁
    exact absurd hs hp
  | ok u =>
    obtain ⟨r₂, s₂, he₂, h₂⟩ := Prog.run_call_bind h₁
    obtain rfl := (exec_reads he₂ trivial).1
    cases r₂ with
    | error e =>
      cases h₂
      exact absurd hs hp
    | ok row =>
      cases row with
      | some row =>
        cases h₂
        exact absurd hs hp
      | none =>
        obtain ⟨r₃, s₃, he₃, h₃⟩ := Prog.run_call_bind h₂
        cases r₃ with
        | ok u =>
          obtain ⟨row, hrow, hdb⟩ := insertPayment_ok he₃
          exact ⟨row, s₃, hrow, hdb, (exec_sql he₃).1, h₃⟩
        | error e =>
          refine absurd ?_ hp
          have hs₃ := hs.insert (exec_effect he₃)
          by_cases hunique : e = .database .uniqueViolation
          · subst hunique
            obtain ⟨r₄, s₄, he₄, h₄⟩ := Prog.run_call_bind h₃
            obtain rfl := (exec_reads he₄ trivial).1
            cases r₄ with
            | error e =>
              cases h₄
              exact hs₃
            | ok row =>
              cases row with
              | none =>
                cases h₄
                exact hs₃
              | some row =>
                cases h₄
                exact hs₃
          · change Prog.run exec ch 3 (Prog.bind (Prog.tryCatch (Prog.throw e) _) _) s₃ = _ at h₃
            simp only [Prog.tryCatch, if_neg hunique, Prog.bind] at h₃
            cases h₃
            exact hs₃

/-- A call that neither inserts a payment nor has to do with the processor. -/
def Action.Later : Action → Prop
  | .sql _ (.insertPayment _) => False
  | .sql _ _ => True
  | .ledger _ _ => True
  | _ => False

theorem Action.Mild.later {o : Action} (h : o.Mild) : o.Later := by
  cases o with
  | sql sess o =>
    cases o with
    | insertPayment v => exact h
    | _ => exact trivial
  | ledger asked q => exact trivial
  | _ => exact h

theorem later_settlePayment (outcome : Option String × Bool) : (settlePayment env req outcome).Calls Action.Later := by
  have hget := Prog.Calls.mono (fun _ => Action.Mild.later) (harmless_getPayment env req.organizationId (.stored env.uuid))
  unfold settlePayment
  split
  · exact Prog.calls_bind (Prog.calls_perform trivial) (fun _ => hget)
  · refine Prog.calls_bind (Prog.calls_perform trivial) (fun _ => Prog.calls_bind ?_ (fun _ => hget))
    exact Prog.Calls.mono (fun _ => Action.Mild.later) (harmless_postPayment _ _ _)

/-- Such a call leaves the charges and the keys of payments. -/
theorem Action.Later.exec {o : Action} {ch : Choice} {r : Except PaymentError o.Result} (ho : o.Later)
    (he : exec o ch s = some (r, s')) {id : Uuid} {key : String} (hkey : ∀ q ∈ s.db.payments, q.id = id → q.idempotencyKey = key) :
    s'.processor.charges = s.processor.charges ∧ ∀ q ∈ s'.db.payments, q.id = id → q.idempotencyKey = key := by
  constructor
  · have hnot : o.NotCharge := by
      cases o with
      | charge c => exact ho
      | _ => exact trivial
    rcases exec_charges hnot he with h | ⟨_, _, rfl, -⟩
    · exact h
    · exact ho.elim
  · have heff := exec_effect he
    cases heff with
    | none _ hp _ =>
      rw [hp]
      exact hkey
    | insert _ _ _ _ _ => exact ho.elim
    | update sess u change hd =>
      rw [hd]
      intro q hq hid
      rcases mem_updateKey.1 hq with ⟨q₀, hq₀, -, rfl⟩ | ⟨hq, -⟩
      · split at hid
        · rename_i hsees
          rw [if_pos hsees, change_idempotencyKey]
          exact hkey q₀ hq₀ ((change_id q₀ change).symm.trans hid)
        · rename_i hsees
          rw [if_neg hsees]
          exact hkey q₀ hq₀ hid
      · exact hkey q hq hid

/-- The charge the processor makes of a request with a new key. -/
def madeCharge (env : Env) (req : CreatePaymentRequest) (ch : Choice) : Option Charge :=
  match sentCharge env req, ch.answer with
  | some c, .accepts id status _ => if ch.fault = .before then none else some ⟨id, c, status, status⟩
  | _, _ => none

/-- A charge under a new key. -/
theorem exec_charge_new {c : ChargeRequest} {ch : Choice} {q : Except PaymentError (String × ChargeStatus)}
    (h : exec (.charge c) ch s = some (q, s')) (hsent : sentCharge env req = some c)
    (hnew : ∀ d ∈ s.processor.charges, d.request.idempotencyKey ≠ c.idempotencyKey) :
    s'.db = s.db ∧ s'.processor.charges = s.processor.charges ++ (madeCharge env req ch).toList := by
  have hfind : s.processor.charges.find? (fun d => decide (d.request.idempotencyKey = c.idempotencyKey)) = none := by
    rw [List.find?_eq_none]
    intro d hd
    simpa using hnew d hd
  have hperform : ∀ q, ch.fault ≠ .before → s.perform ch (.charge c) = some (q, s') →
      s'.db = s.db ∧ s'.processor.charges = s.processor.charges ++ (madeCharge env req ch).toList := by
    intro q hfault h
    obtain ⟨a, ha, he⟩ := Option.map_eq_some_iff.1 h
    cases he
    refine ⟨rfl, ?_⟩
    unfold Processor.charge at ha
    rw [hfind] at ha
    dsimp only at ha
    unfold madeCharge
    rw [hsent]
    cases hans : ch.answer with
    | refuses message =>
      rw [hans] at ha
      cases ha
      exact (List.append_nil _).symm
    | accepts id status _ =>
      rw [hans] at ha
      dsimp only at ha ⊢
      rw [if_neg hfault]
      split at ha
      · cases ha
      · cases ha
        rfl
  unfold exec at h
  cases hfault : ch.fault with
  | none =>
    rw [hfault] at h
    exact hperform _ (by rw [hfault]; exact Fault.noConfusion) h
  | before =>
    rw [hfault] at h
    cases h
    refine ⟨rfl, ?_⟩
    have hnone : madeCharge env req ch = none := by
      unfold madeCharge
      rw [hsent]
      cases ch.answer with
      | refuses message => rfl
      | accepts id status _ => exact if_pos hfault
    rw [hnone]
    exact (List.append_nil _).symm
  | after =>
    rw [hfault] at h
    obtain ⟨a, ha, he⟩ := Option.map_eq_some_iff.1 h
    cases he
    exact hperform a.1 (by rw [hfault]; exact Fault.noConfusion) ha

/-- What a call that did not leave its payment pending has made the processor charge. -/
theorem createPayment_charges (hs : Charged none s) (h : alone (createPayment env req) ch s = some (r, s'))
    (hfresh : ∀ q ∈ s.db.payments, q.id ≠ env.uuid) {p : PaymentRow} (hp : p ∈ s'.db.payments) (hid : p.id = env.uuid)
    (hst : p.status ≠ .pending) :
    (∀ c ∈ s.processor.charges, c.request.idempotencyKey ≠ p.idempotencyKey) ∧
    s'.processor.charges = s.processor.charges ++ (madeCharge env req (ch 3)).toList ∧
    ∀ c ∈ madeCharge env req (ch 3), c.request.idempotencyKey = p.idempotencyKey := by
  obtain ⟨row, s₁, hrow, hdb, hproc, h₁⟩ := createPayment_inserted h hfresh (fun hpend => hst (hpend p hp hid))
  obtain ⟨hrowid, hrowkey, -, hunused, -⟩ := paymentRow_ok hrow
  have hkey₁ : ∀ q ∈ s₁.db.payments, q.id = env.uuid → q.idempotencyKey = row.idempotencyKey := by
    rw [hdb]
    intro q hq hqid
    rcases List.mem_append.1 hq with hq | hq
    · exact absurd hqid (hfresh q hq)
    · rw [List.mem_singleton.1 hq]
  have hnew : ∀ c ∈ s.processor.charges, c.request.idempotencyKey ≠ row.idempotencyKey := by
    intro c hc heq
    obtain ⟨q, hq, hqk⟩ := hs.paid c hc
    exact hunused q hq (hqk.trans heq)
  -- the calls after the charge leave the charges and the key
  have htail : ∀ {n : Nat} (outcome : Option String × Bool) {s₂ : World},
      Prog.run exec ch n (settlePayment env req outcome) s₂ = some (r, s') →
      (∀ q ∈ s₂.db.payments, q.id = env.uuid → q.idempotencyKey = row.idempotencyKey) →
      s'.processor.charges = s₂.processor.charges ∧ p.idempotencyKey = row.idempotencyKey := by
    intro n outcome s₂ hrun hkey₂
    obtain ⟨h₁, h₂⟩ := Prog.Calls.run (R := fun t : World => t.processor.charges = s₂.processor.charges ∧
      ∀ q ∈ t.db.payments, q.id = env.uuid → q.idempotencyKey = row.idempotencyKey)
      (fun o c t q t' ho he ht => by
        obtain ⟨h₁, h₂⟩ := ho.exec he ht.2
        exact ⟨h₁.trans ht.1, h₂⟩) (later_settlePayment outcome) hrun ⟨rfl, hkey₂⟩
    exact ⟨h₁, h₂ p hp hid⟩
  rcases callProcessor_cases env req with ⟨hcall, hsent⟩ | ⟨c, hcall, hsent, hckey, hlen⟩
  · rw [hcall, Prog.pure_bind_eq] at h₁
    obtain ⟨h₂, h₃⟩ := htail _ h₁ hkey₁
    have hnone : madeCharge env req (ch 3) = none := by
      unfold madeCharge
      rw [hsent]
    rw [hnone, h₂, hproc, h₃]
    exact ⟨hnew, (List.append_nil _).symm, nofun⟩
  · rw [hcall] at h₁
    obtain ⟨q, s₂, he, h₂⟩ := Prog.run_call_bind h₁
    have hlen : req.idempotencyKey = row.idempotencyKey :=
      (column_ok_eq hrowkey ((length_le_utf16Length _).trans hlen)).symm
    rw [hlen] at hckey
    obtain ⟨hdb₂, hcharges⟩ := exec_charge_new he hsent (by rw [hproc, hckey]; exact hnew)
    have hkey₂ : ∀ q ∈ s₂.db.payments, q.id = env.uuid → q.idempotencyKey = row.idempotencyKey := by
      rw [hdb₂]
      exact hkey₁
    obtain ⟨h₃, h₄⟩ : s'.processor.charges = s₂.processor.charges ∧ p.idempotencyKey = row.idempotencyKey := by
      cases q with
      | ok a => exact htail (truthy (some a.1), decide (a.2 = .succeeded)) h₂ hkey₂
      | error e => exact htail (none, false) h₂ hkey₂
    rw [h₃, hcharges, hproc, h₄]
    refine ⟨hnew, rfl, fun d hd => ?_⟩
    unfold madeCharge at hd
    rw [hsent] at hd
    cases hans : (ch 3).answer with
    | refuses message =>
      rw [hans] at hd
      cases hd
    | accepts id status _ =>
      rw [hans] at hd
      dsimp only at hd
      split at hd
      · cases hd
      · cases hd
        exact hckey

end

end Payments

end Archisynapse
