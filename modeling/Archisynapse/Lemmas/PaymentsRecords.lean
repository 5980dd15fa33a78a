import Archisynapse.Lemmas.PaymentsCharges
import Archisynapse.Lemmas.PaymentsPrograms

/-!
# Recorded runs of the transaction service

The contract of a call in a run whose calls are recorded. `Traced` says that each payment was inserted by one worker, and that the
processor was asked to charge under a key at most once, by the worker that inserted the payment with the key. What a worker counts
on (`Leaves`) is that the others leave the charges of its payment to it.
-/

namespace Archisynapse

namespace Payments

/-! ## Records -/

/-- A payment that was inserted: by which worker, on which session, with which values. -/
structure Insert where
  worker : Nat
  sess : Session
  values : PaymentValues

/-- The insert a record tells of. -/
def insertOf : machine.Record → Option Insert
  | ⟨w, .sql sess (.insertPayment v), .ok _⟩ => some ⟨w, sess, v⟩
  | _ => none

/-- The idempotency key of the charge a record tells of. -/
def chargeOf : machine.Record → Option String
  | ⟨_, .charge req, _⟩ => some req.idempotencyKey
  | _ => none

/-- The payments that were inserted. -/
def inserts (log : List machine.Record) : List Insert := log.filterMap insertOf

/-- The keys the processor was asked to charge under, whether it answered or not. -/
def asked (log : List machine.Record) : List String := log.filterMap chargeOf

/-- The tables, the processor and the ledger, and the calls that were made. -/
abbrev Traced : Type := World × List machine.Record

/-- The state after a recorded call. -/
abbrev Traced.add (s : Traced) (t : World) (w : Nat) (o : Action) (r : Except PaymentError o.Result) : Traced :=
  (t, s.2 ++ [⟨w, o, r⟩])

/-- Payments were inserted once, and charges were asked for once, by who inserted the payment. -/
structure OneCharge (s : Traced) : Prop where
  ids : (s.1.db.payments.map (·.id)).Nodup
  row : ∀ x ∈ inserts s.2, ∃ p ∈ s.1.db.payments, p.id = x.values.id ∧ p.organizationId = x.sess.organizationId ∧
    positive x.values.amount = .ok p.amount ∧ numeric x.values.feeAmount = .ok p.feeAmount ∧
    column 255 x.values.idempotencyKey = .ok p.idempotencyKey
  once : ∀ x ∈ inserts s.2, ∀ y ∈ inserts s.2,
    x.values.id = y.values.id ∨ x.values.idempotencyKey = y.values.idempotencyKey → x.worker = y.worker
  single : (asked s.2).Nodup
  owner : ∀ key ∈ asked s.2, ∃ x ∈ inserts s.2, x.values.idempotencyKey = key

theorem oneCharge_empty : OneCharge (.empty, []) := by
  constructor <;> simp [World.empty, Tables.empty, inserts, asked]

/-- What a worker counts on: payments stay, and no one else inserts for it, asks to charge for its payment or lets it succeed. -/
structure Leaves (w : Nat) (s s' : Traced) : Prop where
  kept : Kept s.1.db s'.1.db
  mine : ∀ x, x.worker = w → (x ∈ inserts s'.2 ↔ x ∈ inserts s.2)
  charges : ∀ x ∈ inserts s.2, x.worker = w → x.values.idempotencyKey ∈ asked s'.2 → x.values.idempotencyKey ∈ asked s.2
  unsucceeded : ∀ x ∈ inserts s.2, x.worker = w → s.1.db.Unsucceeded x.values.id → s'.1.db.Unsucceeded x.values.id

theorem Leaves.refl (w : Nat) (s : Traced) : Leaves w s s := ⟨.refl _, fun _ _ => Iff.rfl, fun _ _ _ h => h, fun _ _ _ h => h⟩

theorem Leaves.trans {w : Nat} {s s' s'' : Traced} (h : Leaves w s s') (h' : Leaves w s' s'') : Leaves w s s'' where
  kept := h.kept.trans h'.kept
  mine x hx := (h'.mine x hx).trans (h.mine x hx)
  charges x hx hw hk := h.charges x hx hw (h'.charges x ((h.mine x hw).2 hx) hw hk)
  unsucceeded x hx hw hu := h'.unsucceeded x ((h.mine x hw).2 hx) hw (h.unsucceeded x hx hw hu)

section

variable {s : Traced} {t : World} {w : Nat} {o : Action} {ch : Choice}

theorem inserts_add (r : Except PaymentError o.Result) :
    inserts (s.add t w o r).2 = inserts s.2 ++ (insertOf ⟨w, o, r⟩).toList := by
  simp [inserts, List.filterMap_append, List.filterMap_cons]
  cases insertOf ⟨w, o, r⟩ <;> rfl

theorem asked_add (r : Except PaymentError o.Result) :
    asked (s.add t w o r).2 = asked s.2 ++ (chargeOf ⟨w, o, r⟩).toList := by
  simp [asked, List.filterMap_append, List.filterMap_cons]
  cases chargeOf ⟨w, o, r⟩ <;> rfl

/-- A call that inserts no payment and asks for no charge, and lets no payment of another worker succeed. -/
theorem OneCharge.other (h : OneCharge s) {r : Except PaymentError o.Result} (he : exec o ch s.1 = some (r, t))
    (hi : insertOf ⟨w, o, r⟩ = none) (hc : chargeOf ⟨w, o, r⟩ = none) :
    OneCharge (s.add t w o r) ∧ ∀ w', (∀ x ∈ inserts s.2, x.worker = w' → ¬ o.succeeds x.values.id) →
      Leaves w' s (s.add t w o r) := by
  have heff := exec_effect he
  have hins : inserts (s.add t w o r).2 = inserts s.2 := by
    rw [inserts_add, hi]
    exact List.append_nil _
  have hask : asked (s.add t w o r).2 = asked s.2 := by
    rw [asked_add, hc]
    exact List.append_nil _
  refine ⟨⟨heff.ids h.ids, ?_, ?_, ?_, ?_⟩, fun w' hw' => ⟨heff.kept, fun x _ => by rw [hins], fun x _ _ hk => ?_, fun x hx hw hu => ?_⟩⟩
  · rw [hins]
    intro x hx
    obtain ⟨p, hp, h₁, h₂, h₃, h₄, h₅⟩ := h.row x hx
    obtain ⟨p', hp', h₆, h₇, h₈, h₉, h₁₀, -⟩ := heff.kept.payment p hp
    exact ⟨p', hp', h₆.trans h₁, h₇.trans h₂, by rw [h₈]; exact h₃, by rw [h₉]; exact h₄, by rw [h₁₀]; exact h₅⟩
  · rw [hins]
    exact h.once
  · rw [hask]
    exact h.single
  · rw [hask, hins]
    exact h.owner
  · rw [hask] at hk
    exact hk
  · exact heff.unsucceeded (hw' x hx hw) hu

/-- A call that has nothing to do with charges. -/
def Action.Chargeless : Action → Prop
  | .charge _ => False
  | .sql _ (.insertPayment _) => False
  | .sql _ (.updatePayment _ (.failed _)) => False
  | .sql _ (.updatePayment _ (.succeeded _)) => False
  | .sql _ (.updatePayment _ (.status st)) => st ≠ .succeeded
  | _ => True

theorem OneCharge.chargeless (h : OneCharge s) {r : Except PaymentError o.Result} (he : exec o ch s.1 = some (r, t))
    (ho : o.Chargeless) : OneCharge (s.add t w o r) ∧ ∀ w', Leaves w' s (s.add t w o r) := by
  have hi : insertOf ⟨w, o, r⟩ = none := by
    cases o with
    | sql sess o => cases o with
      | insertPayment v => exact ho.elim
      | _ => rfl
    | _ => rfl
  have hc : chargeOf ⟨w, o, r⟩ = none := by
    cases o with
    | charge req => exact ho.elim
    | _ => rfl
  have hs : ∀ id, ¬ o.succeeds id := by
    rintro id ⟨sess, ⟨x, rfl⟩ | rfl⟩
    · exact ho
    · exact ho rfl
  obtain ⟨h₁, h₂⟩ := h.other he hi hc
  exact ⟨h₁, fun w' => h₂ w' (fun x _ _ => hs x.values.id)⟩

/-- A payment that was inserted. -/
theorem insertPayment_ok {s t : World} {sess : Session} {v : PaymentValues} {u : Unit}
    (h : exec (.sql sess (.insertPayment v)) ch s = some (.ok u, t)) :
    ∃ row, s.db.paymentRow sess v = .ok row ∧ t.db = { s.db with payments := s.db.payments ++ [row] } := by
  rcases exec_cases h with h | ⟨h, -⟩ | ⟨h, -⟩
  · simp only [World.perform, Tables.perform, Tables.insert] at h
    cases hrow : s.db.paymentRow sess v with
    | error e =>
      rw [hrow] at h
      cases h
    | ok row =>
      rw [hrow] at h
      cases h
      exact ⟨row, rfl, rfl⟩
  · cases h
  · cases h

/-- An insert that is answered: its worker owns the payment, and no charge was asked for under its key. -/
theorem OneCharge.insert (h : OneCharge s) {sess : Session} {v : PaymentValues} {u : Unit}
    (he : exec (.sql sess (.insertPayment v)) ch s.1 = some (.ok u, t)) :
    OneCharge (s.add t w (.sql sess (.insertPayment v)) (.ok u)) ∧
    (∀ w', w' ≠ w → Leaves w' s (s.add t w (.sql sess (.insertPayment v)) (.ok u))) ∧
    ⟨w, sess, v⟩ ∈ inserts (s.add t w (.sql sess (.insertPayment v)) (.ok u)).2 ∧
    v.idempotencyKey ∉ asked (s.add t w (.sql sess (.insertPayment v)) (.ok u)).2 := by
  obtain ⟨row, hrow, ht⟩ := insertPayment_ok he
  obtain ⟨hid, hkey, hfresh, hunused, -⟩ := paymentRow_ok hrow
  obtain ⟨horg, hamount, hfee⟩ := paymentRow_columns hrow
  have heff : Effect s.1.db t.db (.sql sess (.insertPayment v)) := exec_effect he
  have hins : inserts (s.add t w (.sql sess (.insertPayment v)) (.ok u)).2 = inserts s.2 ++ [⟨w, sess, v⟩] := inserts_add _
  have hask : asked (s.add t w (.sql sess (.insertPayment v)) (.ok u)).2 = asked s.2 := by
    rw [asked_add]
    exact List.append_nil _
  -- a payment inserted before has another id and another key
  have hother : ∀ x ∈ inserts s.2, x.values.id ≠ v.id ∧ x.values.idempotencyKey ≠ v.idempotencyKey := by
    intro x hx
    obtain ⟨p, hp, hpid, -, -, -, hpkey⟩ := h.row x hx
    refine ⟨fun heq => hfresh p hp (hpid.trans (heq.trans hid.symm)), fun heq => hunused p hp ?_⟩
    rw [heq, hkey] at hpkey
    exact (Except.ok.inj hpkey).symm
  refine ⟨⟨heff.ids h.ids, ?_, ?_, ?_, ?_⟩, fun w' hne => ⟨heff.kept, ?_, ?_, ?_⟩, ?_, ?_⟩
  · intro x hx
    rw [hins] at hx
    rcases List.mem_append.1 hx with hx | hx
    · obtain ⟨p, hp, h₁⟩ := h.row x hx
      exact ⟨p, by rw [ht]; exact List.mem_append_left _ hp, h₁⟩
    · rw [List.mem_singleton.1 hx]
      exact ⟨row, by rw [ht]; exact List.mem_append_right _ (List.mem_singleton_self _), hid, horg, hamount, hfee, hkey⟩
  · intro x hx y hy hxy
    rw [hins] at hx hy
    rcases List.mem_append.1 hx with hx | hx <;> rcases List.mem_append.1 hy with hy | hy
    · exact h.once x hx y hy hxy
    · rw [List.mem_singleton.1 hy] at hxy ⊢
      exact hxy.elim (fun h => absurd h (hother x hx).1) (fun h => absurd h (hother x hx).2)
    · rw [List.mem_singleton.1 hx] at hxy ⊢
      exact hxy.elim (fun h => absurd h.symm (hother y hy).1) (fun h => absurd h.symm (hother y hy).2)
    · rw [List.mem_singleton.1 hx, List.mem_singleton.1 hy]
  · rw [hask]
    exact h.single
  · rw [hask, hins]
    intro key hk
    obtain ⟨x, hx, hxk⟩ := h.owner key hk
    exact ⟨x, List.mem_append_left _ hx, hxk⟩
  · intro x hx
    rw [hins, List.mem_append, List.mem_singleton]
    constructor
    · rintro (hmem | rfl)
      · exact hmem
      · exact absurd hx.symm hne
    · exact Or.inl
  · rw [hask]
    exact fun _ _ _ hk => hk
  · refine fun x _ _ hu => heff.unsucceeded ?_ hu
    rintro ⟨sess, ⟨y, hy⟩ | hy⟩ <;> cases hy
  · rw [hins]
    exact List.mem_append_right _ (List.mem_singleton_self _)
  · rw [hask]
    intro hk
    obtain ⟨x, hx, hxk⟩ := h.owner _ hk
    exact (hother x hx).2 hxk

/-- A charge, asked for the first time by the worker that inserted the payment with the key. -/
theorem OneCharge.charge (h : OneCharge s) {req : ChargeRequest} {r : Except PaymentError (String × ChargeStatus)}
    (he : exec (.charge req) ch s.1 = some (r, t)) {x : Insert} (hx : x ∈ inserts s.2) (hw : x.worker = w)
    (hkey : x.values.idempotencyKey = req.idempotencyKey) (hfirst : req.idempotencyKey ∉ asked s.2) :
    OneCharge (s.add t w (.charge req) r) ∧ (∀ w', w' ≠ w → Leaves w' s (s.add t w (.charge req) r)) ∧
      inserts (s.add t w (.charge req) r).2 = inserts s.2 := by
  have heff : Effect s.1.db t.db (.charge req) := exec_effect he
  have hins : inserts (s.add t w (.charge req) r).2 = inserts s.2 := by
    rw [inserts_add]
    exact List.append_nil _
  have hask : asked (s.add t w (.charge req) r).2 = asked s.2 ++ [req.idempotencyKey] := asked_add _
  refine ⟨⟨heff.ids h.ids, ?_, ?_, ?_, ?_⟩, fun w' hne => ⟨heff.kept, fun y _ => by rw [hins], ?_, ?_⟩, hins⟩
  · rw [hins]
    intro y hy
    obtain ⟨p, hp, h₁, h₂, h₃, h₄, h₅⟩ := h.row y hy
    obtain ⟨p', hp', h₆, h₇, h₈, h₉, h₁₀, -⟩ := heff.kept.payment p hp
    exact ⟨p', hp', h₆.trans h₁, h₇.trans h₂, by rw [h₈]; exact h₃, by rw [h₉]; exact h₄, by rw [h₁₀]; exact h₅⟩
  · rw [hins]
    exact h.once
  · rw [hask]
    exact List.nodup_append.2 ⟨h.single, List.nodup_singleton _, fun k hk k' hk' => by
      rw [List.mem_singleton.1 hk']
      rintro rfl
      exact hfirst hk⟩
  · rw [hask, hins]
    intro key hk
    rcases List.mem_append.1 hk with hk | hk
    · exact h.owner key hk
    · rw [List.mem_singleton.1 hk]
      exact ⟨x, hx, hkey⟩
  · intro y hy hyw hk
    rw [hask] at hk
    rcases List.mem_append.1 hk with hk | hk
    · exact hk
    · have hsame := h.once y hy x hx (Or.inr ((List.mem_singleton.1 hk).trans hkey.symm))
      exact absurd (hyw.symm.trans (hsame.trans hw)) hne
  · refine fun y _ _ hu => heff.unsucceeded ?_ hu
    rintro ⟨sess, ⟨z, hz⟩ | hz⟩ <;> cases hz

/-! ## The contract -/

/-- The calls of a worker. -/
abbrev RecordedDoes (w : Nat) := machine.recorded.Does (.numbered machine) w

/-- The contract of a worker: it leaves to every other worker what that one counts on. -/
abbrev recordedContract (w : Nat) : Contract Traced := ⟨OneCharge, Leaves w, fun s s' => ∀ w', w' ≠ w → Leaves w' s s'⟩

variable {α β : Type}

/-- One recorded call. -/
theorem recorded_step_wp {o : Action} {Q : Except PaymentError o.Result → Traced → Prop}
    (h : ∀ s₁ ch r t, Leaves w s s₁ → OneCharge s₁ → exec o ch s₁.1 = some (r, t) →
      OneCharge (s₁.add t w o r) ∧ (∀ w', w' ≠ w → Leaves w' s₁ (s₁.add t w o r)) ∧ Q r (s₁.add t w o r)) :
    (step o).wp (RecordedDoes w) (recordedContract w) Q s := by
  unfold step
  rw [Prog.wp_perform]
  rintro s₁ hl hi r s₂ ⟨-, ch, he⟩
  obtain ⟨⟨r', t⟩, ht, heq⟩ := Option.map_eq_some_iff.1 he
  obtain ⟨rfl, rfl⟩ := Prod.mk.inj heq
  exact h s₁ ch r' t hl hi ht

/-- A program that has nothing to do with charges. -/
theorem recorded_wp {p : Program α} (hp : p.Calls Action.Chargeless) {Q : Except PaymentError α → Traced → Prop}
    (hQ : ∀ r s', Leaves w s s' → Q r s') : p.wp (RecordedDoes w) (recordedContract w) Q s := by
  induction p generalizing s with
  | pure a => exact hQ _ _ (.refl w s)
  | throw e => exact hQ _ _ (.refl w s)
  | call o k ih =>
    rintro s₁ hl hi r s₂ ⟨-, ch, he⟩
    obtain ⟨⟨r', t⟩, ht, heq⟩ := Option.map_eq_some_iff.1 he
    obtain ⟨rfl, rfl⟩ := Prod.mk.inj heq
    obtain ⟨h₁, h₂⟩ := hi.chargeless (w := w) ht hp.1
    exact ⟨h₁, fun w' _ => h₂ w', ih r' (hp.2 r') (fun r s' h => hQ r s' ((hl.trans (h₂ w)).trans h))⟩

/-- A program that needs nothing has nothing to do with charges. -/
theorem Harmless.chargeless {p : Program α} (hp : Harmless p) : p.Calls Action.Chargeless := by
  refine hp.mono (fun o ho => ?_)
  cases o with
  | charge req => exact ho
  | sql sess o =>
    cases o with
    | updatePayment id change => cases change <;> exact ho
    | _ => exact ho
  | _ => exact trivial

/-- A program that needs nothing, and then another. -/
theorem Harmless.recorded_bind {p : Program α} (hp : Harmless p) {f : α → Program β} {Q : Except PaymentError β → Traced → Prop}
    (herror : ∀ e s', Leaves w s s' → Q (.error e) s')
    (hf : ∀ a s', Leaves w s s' → (f a).wp (RecordedDoes w) (recordedContract w) Q s') :
    (p >>= f).wp (RecordedDoes w) (recordedContract w) Q s := by
  rw [Prog.wp_bind]
  refine recorded_wp hp.chargeless (fun r s' h => ?_)
  cases r with
  | ok a => exact hf a s' h
  | error e => exact herror e s' h

end

end Payments

end Archisynapse
