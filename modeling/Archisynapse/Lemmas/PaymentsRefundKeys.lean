import Archisynapse.Lemmas.PaymentsRuns
import Archisynapse.Lemmas.LedgerApi
import Archisynapse.Lemmas.PaymentsCalls

/-!
# The calls of one refund key

Runs of `refundPayment` with one request, from a state in which its key is new. `Single` says what any of them leaves: at most one
attempt, one refund row and one ledger transaction more than at the start. It is kept by calls that start one after another, each
only when the reversal of the one before, if there was one, has its refund row (`keyOnly`).
-/

namespace Archisynapse

namespace Payments

/-! ## The ledger of the transaction service

The ledger's books stay in order in every run of the transaction service (`inBooks_run`). -/

/-- The ledger's books are in order. -/
def InBooks (s : World) : Prop := Ledger.Books s.ledger ∧ Ledger.Balances s.ledger

theorem inBooks_empty : InBooks .empty := ⟨Ledger.books_empty, by simp [Ledger.Balances, World.empty, Ledger.Tables.empty]⟩

section

variable {s s' : World} {o : Action} {ch : Choice}

theorem perform_inBooks {r : Except PaymentError o.Result} (hi : InBooks s) (h : s.perform ch o = some (r, s')) : InBooks s' := by
  cases o with
  | ledger asked q =>
    obtain ⟨a, ha, he⟩ := Option.map_eq_some_iff.1 h
    cases he
    exact Ledger.serve_books hi.1 hi.2 ha
  | charge req =>
    obtain ⟨a, -, he⟩ := Option.map_eq_some_iff.1 h
    cases he
    exact hi
  | _ =>
    cases h
    exact hi

/-- Every call keeps the books in order. -/
theorem exec_inBooks {r : Except PaymentError o.Result} (hi : InBooks s) (h : exec o ch s = some (r, s')) : InBooks s' := by
  rcases exec_cases h with h | ⟨-, rfl⟩ | ⟨-, q, h⟩
  · exact perform_inBooks hi h
  · exact hi
  · exact perform_inBooks hi h

/-- The books are in order in every run. -/
theorem inBooks_run {cfg : machine.Config} (hrun : machine.Run (.any machine) (.init machine .empty) cfg) : InBooks cfg.state :=
  hrun.keeps (I := InBooks) (fun _ _ _ _ _ _ hi he => exec_inBooks hi he) (fun _ _ hi => hi) inBooks_empty

end

/-- The values of the attempt of a refund. -/
def RefundRequest.attempt (req : RefundRequest) (payment : PaymentRow) (chargeId : String) (uuid : Uuid) : AttemptValues :=
  ⟨uuid, payment.id, payment.organizationId, req.idempotencyKey, chargeId, .fin (req.refundAmount payment), payment.currency,
    req.reason⟩

/-- What `refundPayment` finds before it claims its key. -/
structure Refundable (env : Env) (req : RefundRequest) (d : Tables) (payment : PaymentRow) (chargeId : String) (t : Uuid) :
    Prop where
  organization : req.organizationId ≠ ""
  selected : (d.perform (env.session req.organizationId) (.selectPayment req.paymentId)).1 = .ok (some payment)
  status : payment.status = .succeeded ∨ payment.status = .partiallyRefunded
  charge : truthy payment.processorTransactionId = some chargeId
  ledger : payment.ledgerTransactionId = some t
  room : ((Decimal.ofNumeric (d.refundedTotal (env.session req.organizationId) payment.id)).plus
    (.fin (req.refundAmount payment))).greaterThan (.ofNumeric payment.amount) = false

/-- The key of a request is new. -/
structure NewKey (req : RefundRequest) (d : Tables) : Prop where
  attempt : ∀ a ∈ d.attempts, a.idempotencyKey ≠ req.idempotencyKey ∧ column 255 req.idempotencyKey ≠ .ok a.idempotencyKey
  refund : ∀ r ∈ d.refunds, r.idempotencyKey ≠ req.idempotencyKey ∧ column 255 req.idempotencyKey ≠ .ok r.idempotencyKey

/-- The attempt of the request, made when the tables were `d`, whatever became of it. -/
structure AttemptOf (env : Env) (req : RefundRequest) (d : Tables) (a : AttemptRow) : Prop where
  made : ∃ payment chargeId t uuid a₀, Refundable env req d payment chargeId t ∧
    d.attemptRow (env.session req.organizationId) (req.attempt payment chargeId uuid) = .ok (some a₀) ∧
    a.id = a₀.id ∧ a.idempotencyKey = a₀.idempotencyKey ∧ a.organizationId = a₀.organizationId

/-- What calls with one request leave, from a state with a new key: at most one attempt, one refund and one transaction more. -/
structure Single (env : Env) (req : RefundRequest) (s₀ s : World) : Prop where
  attempts : s.db.attempts = s₀.db.attempts ∨ ∃ a, s.db.attempts = s₀.db.attempts ++ [a] ∧ AttemptOf env req s₀.db a
  refunds : (s.db.refunds = s₀.db.refunds ∧ s.db.payments = s₀.db.payments) ∨
    ∃ row, s.db.refunds = s₀.db.refunds ++ [row] ∧ row.idempotencyKey = req.idempotencyKey ∧
      row.organizationId = req.organizationId ∧ req.organizationId ≠ ""
  posts : s.ledger.transactions.length ≤ s₀.ledger.transactions.length + 1
  books : InBooks s

/-- The refund of the request is recorded. -/
def Recorded (req : RefundRequest) (s : World) : Prop := ∃ row ∈ s.db.refunds, row.idempotencyKey = req.idempotencyKey

/-- Nothing changed but the processor. -/
def Same (s s' : World) : Prop := s'.db = s.db ∧ s'.ledger = s.ledger

section

variable {env : Env} {req : RefundRequest} {s₀ s s' : World}

theorem Single.refl (h : InBooks s₀) : Single env req s₀ s₀ := ⟨Or.inl rfl, Or.inl ⟨rfl, rfl⟩, Nat.le_succ _, h⟩

theorem Same.refl (s : World) : Same s s := ⟨rfl, rfl⟩

theorem Same.trans {s'' : World} (h : Same s s') (h' : Same s' s'') : Same s s'' := ⟨h'.1.trans h.1, h'.2.trans h.2⟩

theorem Single.same (h : Single env req s₀ s) (hs : Same s s') : Single env req s₀ s' := by
  obtain ⟨hdb, hl⟩ := hs
  refine ⟨?_, ?_, ?_, ?_⟩
  · rw [hdb]
    exact h.attempts
  · rw [hdb]
    exact h.refunds
  · rw [hl]
    exact h.posts
  · unfold InBooks
    rw [hl]
    exact h.books

/-! ## Attempts -/

/-- A column keeps a text that is not too long. -/
theorem column_eq_ok {n : Nat} {text : String} (h : text.length ≤ n) : column n text = .ok text := by
  unfold column varchar
  rw [if_pos h]

/-- A stored text is not longer than its column. -/
theorem length_of_column {n : Nat} {text stored : String} (h : column n text = .ok stored) : stored.length ≤ n := by
  unfold column varchar at h
  split at h
  · rename_i text' heq
    cases h
    split at heq
    · rename_i hlen
      cases heq
      exact hlen
    · split at heq
      · cases heq
        rw [String.length_ofList]
        exact List.length_take_le _ _
      · cases heq
  · cases h

/-- The attempt an insert makes. -/
theorem attemptRow_some {d : Tables} {sess : Session} {v : AttemptValues} {a : AttemptRow}
    (h : d.attemptRow sess v = .ok (some a)) :
    a.id = v.id ∧ a.organizationId = v.organizationId ∧ column 255 v.idempotencyKey = .ok a.idempotencyKey ∧
      (∀ b ∈ d.attempts, b.id ≠ a.id) ∧ (∀ b ∈ d.attempts, b.idempotencyKey ≠ a.idempotencyKey) ∧
      (∃ n, positive v.amount = .ok n) ∧ d.mayAttach sess v.organizationId v.paymentId = .ok () := by
  obtain ⟨amount, hamount, h₁⟩ := ok_of_except_bind h
  obtain ⟨key, hkey, h₂⟩ := ok_of_except_bind h₁
  obtain ⟨chargeId, -, h₃⟩ := ok_of_except_bind h₂
  obtain ⟨currency, -, h₄⟩ := ok_of_except_bind h₃
  obtain ⟨u, hmay, h₅⟩ := ok_of_except_bind h₄
  split at h₅
  · cases h₅
  · rename_i hfree
    split at h₅
    · cases h₅
    · rename_i hid
      cases h₅
      rw [Bool.not_eq_true, List.any_eq_false] at hfree hid
      exact ⟨rfl, rfl, hkey, fun b hb he => hid b hb (decide_eq_true he), fun b hb he => hfree b hb (decide_eq_true he),
        ⟨amount, hamount⟩, hmay⟩

/-- The refund an attempt is for. -/
theorem attemptRow_refund {d : Tables} {sess : Session} {v : AttemptValues} {a : AttemptRow}
    (h : d.attemptRow sess v = .ok (some a)) : a.paymentId = v.paymentId ∧ positive v.amount = .ok a.amount := by
  obtain ⟨amount, hamount, h₁⟩ := ok_of_except_bind h
  obtain ⟨key, -, h₂⟩ := ok_of_except_bind h₁
  obtain ⟨chargeId, -, h₃⟩ := ok_of_except_bind h₂
  obtain ⟨currency, -, h₄⟩ := ok_of_except_bind h₃
  obtain ⟨u, -, h₅⟩ := ok_of_except_bind h₄
  split at h₅
  · cases h₅
  · split at h₅
    · cases h₅
    · cases h₅
      exact ⟨rfl, hamount⟩

/-- An attempt insert that did nothing: its key is taken. -/
theorem attemptRow_none {d : Tables} {sess : Session} {v : AttemptValues} (h : d.attemptRow sess v = .ok none) :
    ∃ a ∈ d.attempts, column 255 v.idempotencyKey = .ok a.idempotencyKey := by
  obtain ⟨amount, -, h₁⟩ := ok_of_except_bind h
  obtain ⟨key, hkey, h₂⟩ := ok_of_except_bind h₁
  obtain ⟨chargeId, -, h₃⟩ := ok_of_except_bind h₂
  obtain ⟨currency, -, h₄⟩ := ok_of_except_bind h₃
  obtain ⟨u, -, h₅⟩ := ok_of_except_bind h₄
  split at h₅
  · rename_i htaken
    obtain ⟨a, ha, hak⟩ := List.any_eq_true.1 htaken
    exact ⟨a, ha, by rw [of_decide_eq_true hak]; exact hkey⟩
  · split at h₅
    · cases h₅
    · cases h₅

theorem attemptRow_status {d : Tables} {sess : Session} {v : AttemptValues} {a : AttemptRow}
    (h : d.attemptRow sess v = .ok (some a)) : a.status = .processing := by
  obtain ⟨amount, -, h₁⟩ := ok_of_except_bind h
  obtain ⟨key, -, h₂⟩ := ok_of_except_bind h₁
  obtain ⟨chargeId, -, h₃⟩ := ok_of_except_bind h₂
  obtain ⟨currency, -, h₄⟩ := ok_of_except_bind h₃
  obtain ⟨u, -, h₅⟩ := ok_of_except_bind h₄
  split at h₅
  · cases h₅
  · split at h₅
    · cases h₅
    · cases h₅
      rfl

/-- A refund insert that did nothing: its key is taken. -/
theorem refundRow_none {d : Tables} {sess : Session} {v : RefundValues} (h : d.refundRow sess v = .ok none) :
    ∃ r ∈ d.refunds, column 255 v.idempotencyKey = .ok r.idempotencyKey := by
  obtain ⟨amount, -, h₁⟩ := ok_of_except_bind h
  obtain ⟨key, hkey, h₂⟩ := ok_of_except_bind h₁
  obtain ⟨refundId, -, h₃⟩ := ok_of_except_bind h₂
  obtain ⟨u, -, h₄⟩ := ok_of_except_bind h₃
  split at h₄
  · rename_i htaken
    obtain ⟨r, hr, hrk⟩ := List.any_eq_true.1 htaken
    exact ⟨r, hr, by rw [of_decide_eq_true hrk]; exact hkey⟩
  · split at h₄
    · cases h₄
    · cases h₄

/-- The key and the organization of a refund row. -/
theorem refundRow_key {d : Tables} {sess : Session} {v : RefundValues} {row : RefundRow}
    (h : d.refundRow sess v = .ok (some row)) :
    column 255 v.idempotencyKey = .ok row.idempotencyKey ∧ row.organizationId = v.organizationId := by
  obtain ⟨amount, -, h₁⟩ := ok_of_except_bind h
  obtain ⟨key, hkey, h₂⟩ := ok_of_except_bind h₁
  obtain ⟨refundId, -, h₃⟩ := ok_of_except_bind h₂
  obtain ⟨u, -, h₄⟩ := ok_of_except_bind h₃
  split at h₄
  · cases h₄
  · split at h₄
    · cases h₄
    · cases h₄
      exact ⟨hkey, rfl⟩

/-- With the same payments, an insert of the same attempt is refused quietly once the key is taken. -/
theorem attemptRow_taken {d d' : Tables} {sess : Session} {v : AttemptValues} {a : AttemptRow}
    (h : d.attemptRow sess v = .ok (some a)) (hp : d'.payments = d.payments)
    (ha : ∃ b ∈ d'.attempts, b.idempotencyKey = a.idempotencyKey) (uuid : Uuid) :
    d'.attemptRow sess { v with id := uuid } = .ok none := by
  obtain ⟨amount, hamount, h₁⟩ := ok_of_except_bind h
  obtain ⟨key, hkey, h₂⟩ := ok_of_except_bind h₁
  obtain ⟨chargeId, hcharge, h₃⟩ := ok_of_except_bind h₂
  obtain ⟨currency, hcurrency, h₄⟩ := ok_of_except_bind h₃
  obtain ⟨u, hmay, h₅⟩ := ok_of_except_bind h₄
  have hstored : key = a.idempotencyKey := Except.ok.inj (hkey.symm.trans (attemptRow_some h).2.2.1)
  have hmay' : d'.mayAttach sess v.organizationId v.paymentId = .ok u := by
    unfold Tables.mayAttach at hmay ⊢
    rw [hp]
    exact hmay
  have htaken : d'.attempts.any (fun b => decide (b.idempotencyKey = key)) = true := by
    obtain ⟨b, hb, hbk⟩ := ha
    exact List.any_eq_true.2 ⟨b, hb, decide_eq_true (hbk.trans hstored.symm)⟩
  unfold Tables.attemptRow
  simp only [hamount, hkey, hcharge, hcurrency, hmay', htaken, bind, Except.bind, if_true]

theorem attemptRow_congr {d d' : Tables} (hp : d'.payments = d.payments) (ha : d'.attempts = d.attempts) (sess : Session)
    (v : AttemptValues) : d'.attemptRow sess v = d.attemptRow sess v := by
  unfold Tables.attemptRow Tables.mayAttach
  rw [hp, ha]

/-- The attempt of the request has the key its column keeps, and an id of its own. -/
theorem AttemptOf.key {a : AttemptRow} (h : AttemptOf env req s₀.db a) :
    column 255 req.idempotencyKey = .ok a.idempotencyKey ∧ ∀ b ∈ s₀.db.attempts, b.id ≠ a.id := by
  obtain ⟨payment, chargeId, t, uuid, a₀, -, hrow, hid, hkey, -⟩ := h.made
  obtain ⟨-, -, hcol, hids, -⟩ := attemptRow_some hrow
  rw [hid, hkey]
  exact ⟨hcol, hids⟩

/-- The attempt of the request is there, under an id. -/
def Owned (env : Env) (req : RefundRequest) (s₀ s : World) (id : Uuid) : Prop :=
  ∃ a, s.db.attempts = s₀.db.attempts ++ [a] ∧ AttemptOf env req s₀.db a ∧ a.id = id

theorem Owned.same {id : Uuid} (h : Owned env req s₀ s id) (hs : Same s s') : Owned env req s₀ s' id := by
  obtain ⟨a, ha, hof⟩ := h
  exact ⟨a, by rw [hs.1]; exact ha, hof⟩

/-- Nothing but attempts and the processor changed. -/
structure Apart (s s' : World) : Prop where
  payments : s'.db.payments = s.db.payments
  refunds : s'.db.refunds = s.db.refunds
  ledger : s'.ledger = s.ledger

theorem Same.apart (h : Same s s') : Apart s s' := ⟨by rw [h.1], by rw [h.1], h.2⟩

theorem Apart.trans {s'' : World} (h : Apart s s') (h' : Apart s' s'') : Apart s s'' :=
  ⟨h'.payments.trans h.payments, h'.refunds.trans h.refunds, h'.ledger.trans h.ledger⟩

theorem Single.apart (h : Single env req s₀ s) (hs : Apart s s')
    (ha : s'.db.attempts = s₀.db.attempts ∨ ∃ a, s'.db.attempts = s₀.db.attempts ++ [a] ∧ AttemptOf env req s₀.db a) :
    Single env req s₀ s' := by
  refine ⟨ha, ?_, ?_, ?_⟩
  · rw [hs.refunds, hs.payments]
    exact h.refunds
  · rw [hs.ledger]
    exact h.posts
  · unfold InBooks
    rw [hs.ledger]
    exact h.books

/-- The claim of the key. -/
theorem Single.insertAttempt (h : Single env req s₀ s) (hp : s.db.payments = s₀.db.payments) {payment : PaymentRow}
    {chargeId : String} {t : Uuid} (hr : Refundable env req s₀.db payment chargeId t) {uuid : Uuid} {ch : Choice}
    {r : Except PaymentError (Option AttemptRow)}
    (he : exec (.sql (env.session req.organizationId) (.insertAttempt (req.attempt payment chargeId uuid))) ch s = some (r, s')) :
    Single env req s₀ s' ∧ Apart s s' ∧ ∀ a, r = .ok (some a) → Owned env req s₀ s' a.id ∧ a.status = .processing := by
  obtain ⟨-, hledger, hdb, hok⟩ := exec_sql he
  have hperform : ((s.db.perform (env.session req.organizationId) (.insertAttempt (req.attempt payment chargeId uuid))).2 = s.db ∧
      ∀ a, (s.db.perform (env.session req.organizationId) (.insertAttempt (req.attempt payment chargeId uuid))).1 ≠ .ok (some a)) ∨
      ∃ a, AttemptOf env req s₀.db a ∧ a.status = .processing ∧
        (s.db.perform (env.session req.organizationId) (.insertAttempt (req.attempt payment chargeId uuid))).1 = .ok (some a) ∧
        (s.db.perform (env.session req.organizationId) (.insertAttempt (req.attempt payment chargeId uuid))).2 =
          { s.db with attempts := s₀.db.attempts ++ [a] } := by
    simp only [Tables.perform, Tables.insert]
    cases hrow : s.db.attemptRow (env.session req.organizationId) (req.attempt payment chargeId uuid) with
    | error e => exact Or.inl ⟨rfl, fun a ha => by cases ha⟩
    | ok row =>
      cases row with
      | none =>
        refine Or.inl ⟨?_, fun a ha => by cases ha⟩
        simp
      | some a =>
        rcases h.attempts with ha | ⟨b, ha, hb⟩
        · have hrow' := hrow
          rw [attemptRow_congr hp ha] at hrow'
          refine Or.inr ⟨a, ⟨payment, chargeId, t, uuid, a, hr, hrow', rfl, rfl, rfl⟩, attemptRow_status hrow, rfl, ?_⟩
          simp [ha]
        · obtain ⟨-, -, hcol, -, hfree, -⟩ := attemptRow_some hrow
          have hbk := Except.ok.inj (hb.key.1.symm.trans hcol)
          refine absurd hbk (hfree b ?_)
          rw [ha]
          exact List.mem_append_right _ (List.mem_singleton_self _)
  rcases hperform with ⟨hsame, hnone⟩ | ⟨a, hof, hst, hans, hnew⟩
  · rw [hsame, or_self] at hdb
    have hs : Same s s' := ⟨hdb, hledger⟩
    exact ⟨h.same hs, hs.apart, fun a ha => absurd (hok _ ha).2 (hnone a)⟩
  · have hapart : Apart s s' := by
      rcases hdb with hdb | hdb
      · exact ⟨by rw [hdb], by rw [hdb], hledger⟩
      · rw [hnew] at hdb
        exact ⟨by rw [hdb], by rw [hdb], hledger⟩
    refine ⟨h.apart hapart ?_, hapart, fun b hb => ?_⟩
    · rcases hdb with hdb | hdb
      · rw [hdb]
        exact h.attempts
      · rw [hdb, hnew]
        exact Or.inr ⟨a, rfl, hof⟩
    · obtain ⟨hdb', hb'⟩ := hok _ hb
      rw [hans] at hb'
      cases hb'
      rw [hnew] at hdb'
      exact ⟨⟨a, by rw [hdb'], hof, rfl⟩, hst⟩

theorem AttemptRow.change_key (a : AttemptRow) (c : AttemptChange) : (a.change c).id = a.id ∧
    (a.change c).idempotencyKey = a.idempotencyKey ∧ (a.change c).organizationId = a.organizationId := by
  cases c <;> exact ⟨rfl, rfl, rfl⟩

/-- An update of the request's attempt. -/
theorem Single.updateAttempt (h : Single env req s₀ s) {id : Uuid} (ho : Owned env req s₀ s id) {sess : Session}
    {change : AttemptChange} {ch : Choice} {r : Except PaymentError Unit}
    (he : exec (.sql sess (.updateAttempt id change)) ch s = some (r, s')) :
    Single env req s₀ s' ∧ Apart s s' ∧ Owned env req s₀ s' id := by
  obtain ⟨-, hledger, hdb, -⟩ := exec_sql he
  rcases hdb with hdb | hdb
  · have hs : Same s s' := ⟨hdb, hledger⟩
    obtain ⟨a, ha, hof⟩ := ho
    exact ⟨h.same hs, hs.apart, a, by rw [hdb]; exact ha, hof⟩
  · obtain ⟨a, ha, hof, hid⟩ := ho
    have hapart : Apart s s' := ⟨by rw [hdb]; rfl, by rw [hdb]; rfl, hledger⟩
    obtain ⟨b, hb, hbid, hbkey, hborg⟩ : ∃ b, s'.db.attempts = s₀.db.attempts ++ [b] ∧ b.id = a.id ∧
        b.idempotencyKey = a.idempotencyKey ∧ b.organizationId = a.organizationId := by
      rw [hdb]
      change ∃ b, updateKey _ _ _ s.db.attempts = _ ∧ _
      rw [ha]
      refine ⟨if sess.sees a.organizationId then a.change change else a, ?_, ?_⟩
      · have hold := updateKey_of_not_mem (fun b : AttemptRow => b.id) id
          (fun b => if sess.sees b.organizationId then b.change change else b) s₀.db.attempts
          (fun b hb => by rw [← hid]; exact hof.key.2 b hb)
        unfold updateKey at hold ⊢
        rw [List.map_append, hold, List.map_singleton, if_pos hid]
      · split
        · exact a.change_key change
        · exact ⟨rfl, rfl, rfl⟩
    have hof' : AttemptOf env req s₀.db b := by
      obtain ⟨payment, chargeId, t, uuid, a₀, h₁, h₂, h₃, h₄, h₅⟩ := hof.made
      exact ⟨payment, chargeId, t, uuid, a₀, h₁, h₂, hbid.trans h₃, hbkey.trans h₄, hborg.trans h₅⟩
    exact ⟨h.apart hapart (Or.inr ⟨b, hb, hof'⟩), hapart, b, hb, hof', hbid.trans hid⟩

/-! ## The ledger and the refund row -/

/-- The reversal, when no reversal was posted yet. -/
theorem Single.reverse (h : Single env req s₀ s) (hposts : s.ledger.transactions.length = s₀.ledger.transactions.length)
    {asked organizationId reason : String} {t : UuidText} {ch : Choice} {r : Except PaymentError Transaction}
    (he : exec (.ledger asked (.reverse organizationId t reason)) ch s = some (r, s')) :
    Single env req s₀ s' ∧ s'.db = s.db := by
  have hbooks := exec_inBooks h.books he
  have hperform : ∀ q, s.perform ch (.ledger asked (.reverse organizationId t reason)) = some (q, s') →
      Single env req s₀ s' ∧ s'.db = s.db := by
    intro q hq
    obtain ⟨a, ha, heq⟩ := Option.map_eq_some_iff.1 hq
    cases heq
    refine ⟨⟨h.attempts, h.refunds, ?_, hbooks⟩, rfl⟩
    rcases Ledger.serve_reverse h.books.1 h.books.2 ha with ⟨-, hsame⟩ | ⟨_, row, rows, -, hadds, -⟩
    · rw [hsame]
      exact h.posts
    · rw [hadds.length, hposts]
  rcases exec_cases he with he | ⟨-, rfl⟩ | ⟨-, q, he⟩
  · exact hperform _ he
  · exact ⟨h, rfl⟩
  · exact hperform q he

/-- The refund row, when there is none yet. -/
theorem Single.insertRefund (h : Single env req s₀ s) (hnew : NewKey req s₀.db) (hrefunds : s.db.refunds = s₀.db.refunds)
    {v : RefundValues} (hkey : v.idempotencyKey = req.idempotencyKey) (horg : v.organizationId = req.organizationId)
    (hlen : req.idempotencyKey.length ≤ 255) (hne : req.organizationId ≠ "") {sess : Session} {ch : Choice}
    {r : Except PaymentError Unit} (he : exec (.sql sess (.insertRefund v)) ch s = some (r, s')) :
    Single env req s₀ s' ∧ s'.db.attempts = s.db.attempts ∧ s'.ledger = s.ledger ∧
      (r = .ok () → ∃ row, s'.db.refunds = s₀.db.refunds ++ [row] ∧ row.idempotencyKey = req.idempotencyKey ∧
        row.organizationId = req.organizationId ∧ req.organizationId ≠ "") := by
  obtain ⟨-, hledger, hdb, hok⟩ := exec_sql he
  have hperform : (s.db.perform sess (.insertRefund v)).2 = s.db ∧ (s.db.perform sess (.insertRefund v)).1 ≠ .ok () ∨
      ∃ row : RefundRow, (s.db.perform sess (.insertRefund v)).2 = { s.db with refunds := s₀.db.refunds ++ [row] } ∧
        row.idempotencyKey = req.idempotencyKey ∧ row.organizationId = req.organizationId ∧ req.organizationId ≠ "" := by
    simp only [Tables.perform, Tables.insert]
    cases hrow : s.db.refundRow sess v with
    | error e => exact Or.inl ⟨rfl, fun hr => by cases hr⟩
    | ok row =>
      cases row with
      | none =>
        obtain ⟨r, hr, hrk⟩ := refundRow_none hrow
        rw [hrefunds] at hr
        rw [hkey] at hrk
        exact absurd hrk (hnew.refund r hr).2
      | some row =>
        obtain ⟨hrk, hro⟩ := refundRow_key hrow
        rw [hkey] at hrk
        refine Or.inr ⟨row, by simp [hrefunds], column_ok_eq hrk hlen, hro.trans horg, hne⟩
  rcases hperform with ⟨hsame, hno⟩ | ⟨row, hrow, hrowkey, hroworg⟩
  · rw [hsame, or_self] at hdb
    have hs : Same s s' := ⟨hdb, hledger⟩
    exact ⟨h.same hs, by rw [hdb], hledger, fun hr => absurd (hok () hr).2 hno⟩
  · rcases hdb with hdb | hdb
    · have hs : Same s s' := ⟨hdb, hledger⟩
      refine ⟨h.same hs, by rw [hdb], hledger, fun hr => ?_⟩
      have hdb' := (hok () hr).1
      rw [hrow] at hdb'
      exact ⟨row, by rw [hdb'], hrowkey, hroworg⟩
    · rw [hrow] at hdb
      refine ⟨⟨?_, Or.inr ⟨row, by rw [hdb], hrowkey, hroworg⟩, ?_, ?_⟩, by rw [hdb], hledger,
        fun _ => ⟨row, by rw [hdb], hrowkey, hroworg⟩⟩
      · rw [hdb]
        exact h.attempts
      · rw [hledger]
        exact h.posts
      · unfold InBooks
        rw [hledger]
        exact h.books

/-- An update of a payment, when the refund row is there. -/
theorem Single.updatePayment (h : Single env req s₀ s) (hrow : ∃ row, s.db.refunds = s₀.db.refunds ++ [row] ∧
      row.idempotencyKey = req.idempotencyKey ∧ row.organizationId = req.organizationId ∧ req.organizationId ≠ "")
    {sess : Session} {id : Uuid} {change : PaymentChange} {ch : Choice} {r : Except PaymentError Unit}
    (he : exec (.sql sess (.updatePayment id change)) ch s = some (r, s')) : Single env req s₀ s' := by
  obtain ⟨-, hledger, hdb, -⟩ := exec_sql he
  rcases hdb with hdb | hdb
  · exact h.same ⟨hdb, hledger⟩
  · refine ⟨?_, Or.inr ?_, ?_, ?_⟩
    · rw [hdb]
      exact h.attempts
    · rw [hdb]
      exact hrow
    · rw [hledger]
      exact h.posts
    · unfold InBooks
      rw [hledger]
      exact h.books

/-! ## Runs -/

/-- A refund call. -/
def Call.isRefund : Call → Bool
  | .refundPayment _ _ => true
  | _ => false

/-- Only calls of one request and events at the processor, from `s₀`: a call starts when no other one is live and, if a reversal
was posted, the refund row is there. -/
def keyOnly (env : Env) (req : RefundRequest) (s₀ : World) : machine.Cond where
  start cfg c :=
    match c with
    | .refundPayment env' req' => env' = { env with uuid := env'.uuid } ∧ req' = req ∧
        (∀ x ∈ cfg.live, x.call.isRefund = false) ∧
        (cfg.state.ledger.transactions.length = s₀.ledger.transactions.length ∨ Recorded req cfg.state)
    | .createPayment _ _ => False
    | _ => True
  step _ _ _ := True

/-- Only calls of one request and events at the processor. -/
def sameRequest (env : Env) (req : RefundRequest) : machine.Cond where
  start _ c :=
    match c with
    | .refundPayment env' req' => env' = { env with uuid := env'.uuid } ∧ req' = req
    | .createPayment _ _ => False
    | _ => True
  step _ _ _ := True

/-- A refund call has the tables and the ledger to itself. -/
def keyOutline (env : Env) (req : RefundRequest) (s₀ : World) : Machine.Outline machine where
  inv := Single env req s₀
  rely _ c s s' := c.isRefund = true → Same s s'
  guar _ c s s' := c.isRefund = false → Same s s'
  compat _ c _ c' := c.isRefund = true → c'.isRefund = false

variable {w : Nat} {c : Call} {α : Type}

/-- What a refund call may do. -/
abbrev KeyDoes (env : Env) (req : RefundRequest) (s₀ : World) (w : Nat) := machine.Does (keyOnly env req s₀) w

/-- The contract of a refund call. -/
abbrev keyContract (env : Env) (req : RefundRequest) (s₀ : World) (w : Nat) (c : Call) := (keyOutline env req s₀).contract w c

/-- One call. -/
theorem key_step (hc : c.isRefund = true) {o : Action} {Q : Except PaymentError o.Result → World → Prop}
    (h : ∀ s₁ ch r s₂, Same s s₁ → Single env req s₀ s₁ → exec o ch s₁ = some (r, s₂) → Single env req s₀ s₂ ∧ Q r s₂) :
    (step o).wp (KeyDoes env req s₀ w) (keyContract env req s₀ w c) Q s := by
  unfold step
  rw [Prog.wp_perform]
  rintro s₁ hrely hinv r s₂ ⟨-, ch, he⟩
  obtain ⟨h₁, h₂⟩ := h s₁ ch r s₂ (hrely hc) hinv he
  refine ⟨h₁, fun hf => ?_, h₂⟩
  rw [hc] at hf
  cases hf

/-- A statement that only reads. -/
theorem key_read (hc : c.isRefund = true) {sess : Session} {o : Statement} (ho : o.reads)
    {Q : Except PaymentError o.Result → World → Prop}
    (hQ : ∀ r s₂, Same s s₂ → Single env req s₀ s₂ → (∀ a, r = .ok a → (s₂.db.perform sess o).1 = .ok a) → Q r s₂) :
    (query sess o).wp (KeyDoes env req s₀ w) (keyContract env req s₀ w c) Q s := by
  refine key_step hc (fun s₁ ch r s₂ hs hi he => ?_)
  obtain ⟨rfl, hr⟩ := exec_reads he ho
  exact ⟨hi, hQ r s₂ hs hi hr⟩

/-- A request to the processor, and an event there, is nothing to the tables and the ledger. -/
theorem exec_same {o : Action} {ch : Choice} {r : Except PaymentError o.Result} (h : exec o ch s = some (r, s'))
    (ho : (∃ q, o = .refund q) ∨ (∃ id status, o = .settleCharge id status) ∨ ∃ id status, o = .settleRefund id status) :
    Same s s' := by
  have hperform : ∀ q, s.perform ch o = some (q, s') → Same s s' := by
    intro q h
    obtain ⟨_, rfl⟩ | ⟨_, _, rfl⟩ | ⟨_, _, rfl⟩ := ho <;> cases h <;> exact .refl s
  rcases exec_cases h with h | ⟨-, rfl⟩ | ⟨-, a, h⟩
  · exact hperform _ h
  · exact .refl _
  · exact hperform a h

/-- The processor's part of a refund. -/
theorem refundAtProcessor_key (hc : c.isRefund = true) {env' : Env} {sess : Session} {payment : PaymentRow} {chargeId : String}
    {refundAmount : ℚ} {attempt : AttemptRow} (ho : Owned env req s₀ s attempt.id)
    {Q : Except PaymentError (Option String) → World → Prop} (herror : ∀ e s', Q (.error e) s')
    (hQ : ∀ a s', Apart s s' → Owned env req s₀ s' attempt.id →
      (attempt.status = .processorSucceeded ∨ utf16Length req.idempotencyKey ≤ 255) → Q (.ok a) s') :
    (refundAtProcessor env' sess req payment chargeId refundAmount attempt).wp (KeyDoes env req s₀ w)
      (keyContract env req s₀ w c) Q s := by
  unfold refundAtProcessor
  split
  · rename_i hst
    exact hQ _ s (Same.refl s).apart ho (Or.inl hst)
  rcases decimalStringToMinorUnits_eq refundAmount payment.currency with ⟨e, he⟩ | ⟨n, hn⟩
  · rw [he]
    exact herror e s
  rw [hn, Prog.pure_bind_eq]
  rcases refund_eq env' ⟨chargeId, n, req.reason, req.idempotencyKey⟩ with ⟨e, he⟩ | ⟨hlen, he⟩
  · rw [he]
    exact herror e s
  rw [he]
  refine (Prog.wp_bind _ _ _).2 (key_step hc (fun s₁ ch r s₂ h₁ hi he => ?_))
  have hsame := exec_same he (Or.inl ⟨_, rfl⟩)
  refine ⟨hi.same hsame, ?_⟩
  have h₂ : Same s s₂ := h₁.trans hsame
  -- the statement that records the answer
  have hrecord : ∀ change {β : Type} {f : Unit → Program β} {Q' : Except PaymentError β → World → Prop},
      (∀ e s', Q' (.error e) s') → (∀ s', Apart s s' → Owned env req s₀ s' attempt.id →
        (f ()).wp (KeyDoes env req s₀ w) (keyContract env req s₀ w c) Q' s') →
      (query sess (.updateAttempt attempt.id change) >>= f).wp (KeyDoes env req s₀ w) (keyContract env req s₀ w c) Q' s₂ := by
    intro change β f Q' herr hf
    refine (Prog.wp_bind _ _ _).2 (key_step hc (fun s₃ ch r s₄ h₃ hi₃ he₃ => ?_))
    obtain ⟨h₄, h₅, h₆⟩ := hi₃.updateAttempt (ho.same (h₂.trans h₃)) he₃
    refine ⟨h₄, ?_⟩
    cases r with
    | error e => exact herr e s₄
    | ok u => exact hf s₄ (((h₂.trans h₃).apart).trans h₅) h₆
  cases r with
  | error e => exact herror e s₂
  | ok a =>
    dsimp only
    split
    · exact hrecord _ herror (fun s' _ _ => herror _ s')
    · exact hrecord _ herror (fun s' h h' => hQ _ s' h h' (Or.inr hlen))

/-- The claim of the key. -/
theorem claimAttempt_key (hc : c.isRefund = true) (hnew : NewKey req s₀.db) {payment : PaymentRow} {chargeId : String} {t : Uuid} (uuid : Uuid)
    (hp : s.db.payments = s₀.db.payments) (hr : Refundable env req s₀.db payment chargeId t)
    {Q : Except PaymentError Claim → World → Prop} (herror : ∀ e s', Q (.error e) s') (hdone : ∀ row s', Q (.ok (.done row)) s')
    (hQ : ∀ a s', Apart s s' → Owned env req s₀ s' a.id →
      (a.status = .processorSucceeded → req.idempotencyKey.length ≤ 255) → Q (.ok (.attempt a)) s') :
    (claimAttempt (env.session req.organizationId) (req.attempt payment chargeId uuid)).wp (KeyDoes env req s₀ w)
      (keyContract env req s₀ w c) Q s := by
  unfold claimAttempt
  refine (Prog.wp_bind _ _ _).2 (key_step hc (fun s₁ ch r s₂ h₁ hi he => ?_))
  obtain ⟨h₂, h₃, h₄⟩ := hi.insertAttempt (by rw [h₁.1]; exact hp) hr he
  refine ⟨h₂, ?_⟩
  have hapart := h₁.apart.trans h₃
  cases r with
  | error e => exact herror e s₂
  | ok row =>
    cases row with
    | some a =>
      obtain ⟨ho, hst⟩ := h₄ a rfl
      refine hQ a s₂ hapart ho (fun h => ?_)
      rw [hst] at h
      cases h
    | none =>
      refine (Prog.wp_bind _ _ _).2 (key_read hc (by trivial) (fun r s₃ h₅ hi₃ hans => ?_))
      cases r with
      | error e => exact herror e s₃
      | ok row =>
        cases row with
        | none => exact herror _ s₃
        | some attempt =>
          have hfind := Except.ok.inj (hans _ rfl)
          have hkey : attempt.idempotencyKey = req.idempotencyKey := by
            have := List.find?_some hfind
            rw [Bool.and_eq_true] at this
            exact of_decide_eq_true this.1
          -- the key is new in `s₀`, so the attempt is the one of this request
          obtain ⟨ho, hlen⟩ : Owned env req s₀ s₃ attempt.id ∧ req.idempotencyKey.length ≤ 255 := by
            have hmem := List.mem_of_find?_eq_some hfind
            rcases hi₃.attempts with ha | ⟨b, ha, hof⟩
            · rw [ha] at hmem
              exact absurd hkey (hnew.attempt attempt hmem).1
            · rw [ha] at hmem
              rcases List.mem_append.1 hmem with hmem | hmem
              · exact absurd hkey (hnew.attempt attempt hmem).1
              · obtain rfl := List.mem_singleton.1 hmem
                refine ⟨⟨attempt, ha, hof, rfl⟩, ?_⟩
                rw [← hkey]
                exact length_of_column hof.key.1
          have hapart₃ := hapart.trans h₅.apart
          dsimp only
          split
          · exact herror _ s₃
          · refine (Prog.wp_bind _ _ _).2 (key_read hc (by trivial) (fun r s₄ h₆ _ _ => ?_))
            cases r with
            | error e => exact herror e s₄
            | ok row =>
              cases row with
              | some row => exact hdone row s₄
              | none => exact hQ attempt s₄ (hapart₃.trans h₆.apart) (ho.same h₆) (fun _ => hlen)
          · refine (Prog.wp_bind _ _ _).2 (key_step hc (fun s₄ ch r s₅ h₆ hi₄ he₄ => ?_))
            obtain ⟨h₇, h₈, h₉⟩ := hi₄.updateAttempt (ho.same h₆) he₄
            refine ⟨h₇, ?_⟩
            cases r with
            | error e => exact herror e s₅
            | ok u => exact hQ _ s₅ ((hapart₃.trans h₆.apart).trans h₈) h₉ (fun _ => hlen)
          · exact hQ attempt s₃ hapart₃ ho (fun _ => hlen)

/-- The ledger's part of a refund, when no reversal was posted yet. -/
theorem reverseInLedger_key (hc : c.isRefund = true) {sess : Session} {payment : PaymentRow} {t : Uuid} {attempt : AttemptRow}
    (hposts : s.ledger.transactions.length = s₀.ledger.transactions.length) (ho : Owned env req s₀ s attempt.id)
    {Q : Except PaymentError Transaction → World → Prop} (herror : ∀ e s', Q (.error e) s')
    (hQ : ∀ a s', s'.db = s.db → Q (.ok a) s') :
    (reverseInLedger sess req payment t attempt).wp (KeyDoes env req s₀ w) (keyContract env req s₀ w c) Q s := by
  unfold reverseInLedger
  refine (Prog.wp_tryCatch _ _ _).2 (key_step hc (fun s₁ ch r s₂ h₁ hi he => ?_))
  obtain ⟨h₂, hdb⟩ := hi.reverse (by rw [h₁.2]; exact hposts) he
  refine ⟨h₂, ?_⟩
  cases r with
  | ok a => exact hQ a s₂ (hdb.trans h₁.1)
  | error e =>
    refine (Prog.wp_bind _ _ _).2 (key_step hc (fun s₃ ch r s₄ h₃ hi₃ he₃ => ?_))
    have ho₃ : Owned env req s₀ s₃ attempt.id := by
      obtain ⟨a, ha, hof⟩ := ho
      exact ⟨a, by rw [h₃.1, hdb, h₁.1]; exact ha, hof⟩
    refine ⟨(hi₃.updateAttempt ho₃ he₃).1, ?_⟩
    cases r with
    | error e => exact herror e s₄
    | ok u => exact herror e s₄

/-- The records of a refund, when there are none yet. -/
theorem recordRefund_key (hc : c.isRefund = true) (hnew : NewKey req s₀.db) {env' : Env} {sess : Session} {payment : PaymentRow}
    {refundAmount : ℚ} {alreadyRefunded : Decimal} {attempt : AttemptRow} {processorRefundId : Option String}
    {reversal : Transaction} (hrefunds : s.db.refunds = s₀.db.refunds) (ho : Owned env req s₀ s attempt.id)
    (horg : payment.organizationId = req.organizationId) (hlen : req.idempotencyKey.length ≤ 255)
    (hne : req.organizationId ≠ "") :
    (recordRefund env' sess req payment refundAmount alreadyRefunded attempt processorRefundId reversal).wp
      (KeyDoes env req s₀ w) (keyContract env req s₀ w c) (fun _ _ => True) s := by
  unfold recordRefund
  refine (Prog.wp_bind _ _ _).2 (key_step hc (fun s₁ ch r s₂ h₁ hi he => ?_))
  obtain ⟨h₂, hattempts, -, hrow⟩ := hi.insertRefund hnew (by rw [h₁.1]; exact hrefunds) rfl horg hlen hne he
  refine ⟨h₂, ?_⟩
  cases r with
  | error e => exact trivial
  | ok u =>
    obtain ⟨row, hrow, hrowkey⟩ := hrow rfl
    refine (Prog.wp_bind _ _ _).2 (key_step hc (fun s₃ ch r s₄ h₃ hi₃ he₃ => ?_))
    have ho₃ : Owned env req s₀ s₃ attempt.id := by
      obtain ⟨a, ha, hof⟩ := ho
      exact ⟨a, by rw [h₃.1, hattempts, h₁.1]; exact ha, hof⟩
    obtain ⟨h₄, h₅, -⟩ := hi₃.updateAttempt ho₃ he₃
    refine ⟨h₄, ?_⟩
    cases r with
    | error e => exact trivial
    | ok u =>
      have hrow₄ : s₄.db.refunds = s₀.db.refunds ++ [row] := by
        rw [h₅.refunds, h₃.1]
        exact hrow
      refine (Prog.wp_bind _ _ _).2 (key_step hc (fun s₅ ch r s₆ h₆ hi₅ he₅ => ?_))
      refine ⟨hi₅.updatePayment ⟨row, by rw [h₆.1]; exact hrow₄, hrowkey⟩ he₅, ?_⟩
      cases r with
      | error e => exact trivial
      | ok u =>
        refine (Prog.wp_bind _ _ _).2 (key_read hc (by trivial) (fun r s₇ _ _ _ => ?_))
        cases r with
        | error e => exact trivial
        | ok row => cases row <;> exact trivial

/-- `refundPayment` on a payment in order. -/
theorem refundPosted_key (hc : c.isRefund = true) (hnew : NewKey req s₀.db) {uuid : Uuid} {payment : PaymentRow} {chargeId : String}
    {t : Uuid} (hp : s.db.payments = s₀.db.payments) (hrefunds : s.db.refunds = s₀.db.refunds)
    (hposts : s.ledger.transactions.length = s₀.ledger.transactions.length)
    (horg : payment.organizationId = req.organizationId)
    (hr : ((Decimal.ofNumeric (s₀.db.refundedTotal (env.session req.organizationId) payment.id)).plus
      (.fin (req.refundAmount payment))).greaterThan (.ofNumeric payment.amount) = false →
        Refundable env req s₀.db payment chargeId t) :
    (refundPosted { env with uuid } (env.session req.organizationId) req payment chargeId t).wp (KeyDoes env req s₀ w)
      (keyContract env req s₀ w c) (fun _ _ => True) s := by
  unfold refundPosted
  refine (Prog.wp_bind _ _ _).2 (key_read hc (by trivial) (fun r s₁ h₁ hi hans => ?_))
  cases r with
  | error e => exact trivial
  | ok total =>
    have htotal : s₀.db.refundedTotal (env.session req.organizationId) payment.id = total := by
      have h := Except.ok.inj (hans _ rfl)
      unfold Tables.refundedTotal at h ⊢
      rw [← hrefunds, ← h₁.1]
      exact h
    rw [htotal] at hr
    dsimp only
    split
    · exact trivial
    · rename_i hcheck
      rw [Bool.not_eq_true] at hcheck
      have hrefundable := hr hcheck
      refine (Prog.wp_bind _ _ _).2 (claimAttempt_key hc hnew uuid (by rw [h₁.1]; exact hp) hrefundable
        (fun _ _ => trivial) (fun _ _ => trivial) (fun a s₂ h₂ ho hlen => ?_))
      refine (Prog.wp_bind _ _ _).2 (refundAtProcessor_key hc ho (fun _ _ => trivial) (fun id s₃ h₃ ho₃ hlen₃ => ?_))
      have hapart := (h₁.apart.trans h₂).trans h₃
      have hlen' : req.idempotencyKey.length ≤ 255 := by
        rcases hlen₃ with hst | hlen₃
        · exact hlen hst
        · exact (length_le_utf16Length _).trans hlen₃
      refine (Prog.wp_bind _ _ _).2 (reverseInLedger_key hc (by rw [hapart.ledger]; exact hposts) ho₃ (fun _ _ => trivial) ?_)
      intro reversal s₄ hdb
      refine recordRefund_key hc hnew ?_ ?_ horg hlen' hrefundable.organization
      · rw [hdb, hapart.refunds]
        exact hrefunds
      · obtain ⟨b, hb, hof⟩ := ho₃
        exact ⟨b, by rw [hdb]; exact hb, hof⟩

/-- A session sees the refund row of its organization. -/
theorem Single.select_refund (h : Single env req s₀ s) (hnew : NewKey req s₀.db)
    (hnone : (s.db.perform (env.session req.organizationId) (.selectRefund req.idempotencyKey)).1 = .ok none) :
    (s.db.refunds = s₀.db.refunds ∧ s.db.payments = s₀.db.payments) ∧ ¬ Recorded req s := by
  have hfind := List.find?_eq_none.1 (Except.ok.inj hnone)
  rcases h.refunds with hold | ⟨row, hrow, hkey, horg, -⟩
  · refine ⟨hold, ?_⟩
    rintro ⟨r, hr, hrk⟩
    rw [hold.1] at hr
    exact (hnew.refund r hr).1 hrk
  · refine absurd ?_ (hfind row (by rw [hrow]; exact List.mem_append_right _ (List.mem_singleton_self _)))
    rw [decide_eq_true hkey]
    simp [Session.sees, Env.session, horg]

/-- A payment that was selected is one of the organization. -/
theorem selected_organization {d : Tables} {sess : Session} {id : UuidText} {payment : PaymentRow}
    (h : (d.perform sess (.selectPayment id)).1 = .ok (some payment)) : payment.organizationId = sess.organizationId := by
  simp only [Tables.perform] at h
  split at h
  · cases h
  · have hfind := List.find?_some (Except.ok.inj h)
    exact (of_decide_eq_true hfind).2

/-- `refundPayment`, when no reversal was posted yet or the refund row is there. -/
theorem refundPayment_key (hc : c.isRefund = true) (hnew : NewKey req s₀.db) {uuid : Uuid}
    (hs : s.ledger.transactions.length = s₀.ledger.transactions.length ∨ Recorded req s) :
    (refundPayment { env with uuid } req).wp (KeyDoes env req s₀ w) (keyContract env req s₀ w c) (fun _ _ => True) s := by
  unfold refundPayment
  split
  · exact trivial
  rename_i hne
  dsimp only
  rw [openSession_eq (Env.session { env with uuid } req.organizationId) hne]
  refine (Prog.wp_bind _ _ _).2 (key_read hc (by trivial) (fun r s₁ h₁ _ _ => ?_))
  cases r with
  | error e => exact trivial
  | ok u =>
    refine (Prog.wp_bind _ _ _).2 (key_read hc (by trivial) (fun r s₂ h₂ hi₂ hans => ?_))
    cases r with
    | error e => exact trivial
    | ok row =>
      cases row with
      | some row => exact trivial
      | none =>
        obtain ⟨⟨hrefunds, hpayments⟩, hnot⟩ := hi₂.select_refund hnew (hans _ rfl)
        have hsame := h₁.trans h₂
        have hposts : s₂.ledger.transactions.length = s₀.ledger.transactions.length := by
          rw [hsame.2]
          refine hs.resolve_right (fun h => hnot ?_)
          obtain ⟨row, hrow, hkey⟩ := h
          exact ⟨row, by rw [hsame.1]; exact hrow, hkey⟩
        refine (Prog.wp_bind _ _ _).2 (key_read hc (by trivial) (fun r s₃ h₃ hi₃ hans₃ => ?_))
        cases r with
        | error e => exact trivial
        | ok row =>
          cases row with
          | none => exact trivial
          | some payment =>
            dsimp only
            split
            · exact trivial
            rename_i hstatus
            split
            · exact trivial
            · exact trivial
            · rename_i chargeId t hcharge hledger
              have hselected := hans₃ _ rfl
              have hp₃ : s₃.db.payments = s₀.db.payments := by
                rw [h₃.1]
                exact hpayments
              refine refundPosted_key hc hnew hp₃ (by rw [h₃.1]; exact hrefunds) (by rw [h₃.2]; exact hposts)
                (selected_organization hselected) (fun hroom => ⟨hne, ?_, ?_, hcharge, hledger, hroom⟩)
              · rw [← hselected]
                simp only [Tables.perform, hp₃]
                split <;> rfl
              · rw [not_and_or, not_not, not_not] at hstatus
                exact hstatus

/-- Every call keeps its contract. -/
theorem keyOutline_sound (hnew : NewKey req s₀.db) : (keyOutline env req s₀).Sound (keyOnly env req s₀) where
  refl _ _ s _ := .refl s
  trans _ _ _ _ _ h h' hc := (h hc).trans (h' hc)
  symm _ c _ c' h hc' := by
    by_contra hc
    rw [Bool.not_eq_false] at hc
    rw [h hc] at hc'
    cases hc'
  guar _ c _ c' _ _ _ hcompat _ h hc' := by
    refine h ?_
    by_contra hc
    rw [Bool.not_eq_false] at hc
    rw [hcompat hc] at hc'
    cases hc'
  start cfg c hinv hstart := by
    cases c with
    | createPayment env' req' => exact hstart.elim
    | refundPayment env' req' =>
      obtain ⟨henv, rfl, hlive, hposts⟩ := hstart
      refine ⟨fun x hx _ => hlive x hx, (Prog.wp_bind _ _ _).2 ?_⟩
      rw [henv]
      refine Prog.wp_mono (fun r s' _ => ?_) _ (refundPayment_key rfl hnew hposts)
      cases r <;> exact trivial
    | settleCharge id status =>
      refine ⟨fun _ _ h => (by cases h), (Prog.wp_bind _ _ _).2 ((Prog.wp_perform _ _).2 ?_)⟩
      rintro s₁ - hi r s₂ ⟨-, ch, he⟩
      have hsame := exec_same he (Or.inr (Or.inl ⟨_, _, rfl⟩))
      exact ⟨hi.same hsame, fun _ => hsame, by cases r <;> exact trivial⟩
    | settleRefund id status =>
      refine ⟨fun _ _ h => (by cases h), (Prog.wp_bind _ _ _).2 ((Prog.wp_perform _ _).2 ?_)⟩
      rintro s₁ - hi r s₂ ⟨-, ch, he⟩
      have hsame := exec_same he (Or.inr (Or.inr ⟨_, _, rfl⟩))
      exact ⟨hi.same hsame, fun _ => hsame, by cases r <;> exact trivial⟩
  crash _ s hinv := ⟨hinv, fun _ _ _ _ => .refl s⟩

/-! ## Completion -/

/-- Calls that all go through, with a ledger that serves the reversal. -/
structure Healthy (ch : Nat → Choice) (s : World) (req : RefundRequest) : Prop where
  faultless : ∀ n, (ch n).fault = .none
  ledger : ∀ payment ∈ s.db.payments, ∀ t, payment.ledgerTransactionId = some t → ∀ n, ∃ reversal d',
    Ledger.serve (ch n).ledgerEnv (ch n).ledgerFails s.ledger (.reverse payment.organizationId (.stored t) req.reason) =
      some (.ok reversal, d')

/-- The attempt of a key records that the processor has refunded; the processor's id fits its column. -/
def ProcessorRecorded (req : RefundRequest) (s : World) : Prop :=
  ∃ a ∈ s.db.attempts, a.idempotencyKey = req.idempotencyKey ∧ a.status = .processorSucceeded ∧
    ∀ id, a.processorRefundId = some id → id.length ≤ 255

variable {ch : Nat → Choice} {n : Nat}

/-- A statement that goes through. -/
theorem run_query {sess : Session} {o : Statement} {f : o.Result → Program α} (hf : (ch n).fault = .none) {a : o.Result}
    {d : Tables} (h : s.db.perform sess o = (.ok a, d)) :
    Prog.run exec ch n (query sess o >>= f) s = Prog.run exec ch (n + 1) (f a) { s with db := d } := by
  refine Prog.run_bind_ok ?_
  unfold exec
  rw [hf]
  simp only [World.perform, h]
  rfl

/-- The refund row is made when the checks of the attempt passed and the key and the id are new. -/
theorem refundRow_new (d : Tables) (sess : Session) (v : RefundValues) {n : Int} {key : String} (hamount : positive v.amount = .ok n)
    (hkey : column 255 v.idempotencyKey = .ok key) (hid : ∀ id, v.processorRefundId = some id → id.length ≤ 255)
    (hmay : d.mayAttach sess v.organizationId v.paymentId = .ok ()) (hfree : ∀ r ∈ d.refunds, r.idempotencyKey ≠ key)
    (hfresh : ∀ r ∈ d.refunds, r.id ≠ v.id) :
    ∃ row, d.refundRow sess v = .ok (some row) ∧ row.idempotencyKey = key ∧ row.organizationId = v.organizationId := by
  have hcol : columnOrNull 255 v.processorRefundId = .ok v.processorRefundId := by
    cases hp : v.processorRefundId with
    | none => rfl
    | some id => exact congrArg (Except.map some) (column_eq_ok (hid id hp))
  have hkeys : d.refunds.any (fun r => decide (r.idempotencyKey = key)) = false :=
    List.any_eq_false.2 (fun r hr => by simpa using hfree r hr)
  have hids : d.refunds.any (fun r => decide (r.id = v.id)) = false :=
    List.any_eq_false.2 (fun r hr => by simpa using hfresh r hr)
  refine ⟨⟨v.id, v.paymentId, v.organizationId, n, v.reason, .succeeded, key, v.processorRefundId, some v.ledgerTransactionId⟩,
    ?_, rfl, rfl⟩
  unfold Tables.refundRow
  simp only [hamount, hkey, hcol, hmay, hkeys, hids, bind, Except.bind, if_false, Bool.false_eq_true]

/-- A lookup by key where the last row is the first with the key. -/
theorem find?_concat {β : Type} {p : β → Bool} {l : List β} {x : β} (hl : ∀ y ∈ l, p y = false) (hx : p x = true) :
    (l ++ [x]).find? p = some x := by
  rw [List.find?_append, List.find?_eq_none.2 (fun y hy => by rw [hl y hy]; exact Bool.false_ne_true)]
  simp [hx]

/-- The refund row of a key is found. -/
theorem selectRefund_concat {d : Tables} {old : List RefundRow} {row : RefundRow} {key : String} {sess : Session}
    (hd : d.refunds = old ++ [row]) (hold : ∀ r ∈ old, r.idempotencyKey ≠ key) (hkey : row.idempotencyKey = key)
    (hsees : sess.sees row.organizationId = true) : d.perform sess (.selectRefund key) = (.ok (some row), d) := by
  simp only [Tables.perform]
  rw [hd, find?_concat (fun r hr => ?_) (by rw [decide_eq_true hkey, hsees]; rfl)]
  rw [decide_eq_false (hold r hr)]
  rfl

/-- The records of a refund are made when the statements go through. -/
theorem recordRefund_run (hf : ∀ n, (ch n).fault = .none) {env' : Env} {sess : Session} {payment : PaymentRow} {refundAmount : ℚ}
    (alreadyRefunded : Decimal) (attempt : AttemptRow) {processorRefundId : Option String} {reversal : Transaction}
    {row : RefundRow} (hrow : s.db.refundRow sess ⟨env'.uuid, payment.id, payment.organizationId, .fin refundAmount, req.reason,
      req.idempotencyKey, processorRefundId, reversal.id⟩ = .ok (some row))
    (hold : ∀ r ∈ s.db.refunds, r.idempotencyKey ≠ req.idempotencyKey) (hkey : row.idempotencyKey = req.idempotencyKey)
    (hsees : sess.sees row.organizationId = true) :
    ∃ s', Prog.run exec ch n
      (recordRefund env' sess req payment refundAmount alreadyRefunded attempt processorRefundId reversal) s =
        some (.ok row, s') ∧ row ∈ s'.db.refunds := by
  have hinsert : s.db.perform sess (.insertRefund ⟨env'.uuid, payment.id, payment.organizationId, .fin refundAmount, req.reason,
      req.idempotencyKey, processorRefundId, reversal.id⟩) = (.ok (), { s.db with refunds := s.db.refunds ++ [row] }) := by
    simp only [Tables.perform, Tables.insert, hrow]
    rfl
  unfold recordRefund
  rw [run_query (hf n) hinsert, run_query (hf _) rfl]
  dsimp only
  rw [run_query (hf _) rfl]
  rw [run_query (hf _) (selectRefund_concat rfl hold hkey hsees)]
  exact ⟨_, rfl, List.mem_append_right _ (List.mem_singleton_self _)⟩

/-- A call finds the refund row. -/
theorem refundPayment_recorded (hs : Single env req s₀ s) (hnew : NewKey req s₀.db) (hf : ∀ n, (ch n).fault = .none)
    (hrec : Recorded req s) (uuid : Uuid) :
    ∃ row, alone (refundPayment { env with uuid } req) ch s = some (.ok row, s) ∧ row ∈ s.db.refunds ∧
      row.idempotencyKey = req.idempotencyKey := by
  rcases hs.refunds with hold | ⟨row, hrow, hkey, horg, hne⟩
  · obtain ⟨r, hr, hrk⟩ := hrec
    rw [hold.1] at hr
    exact absurd hrk (hnew.refund r hr).1
  refine ⟨row, ?_, by rw [hrow]; exact List.mem_append_right _ (List.mem_singleton_self _), hkey⟩
  unfold alone refundPayment
  rw [if_neg hne]
  dsimp only
  rw [openSession_eq (Env.session { env with uuid } req.organizationId) hne, run_query (hf _) rfl,
    run_query (hf _) (selectRefund_concat hrow (fun r hr => (hnew.refund r hr).1) hkey ?_)]
  · rfl
  · simp [Session.sees, Env.session, horg]

/-- The claim of a key whose attempt records that the processor has refunded. -/
theorem claimAttempt_run (hf : ∀ n, (ch n).fault = .none) {sess : Session} {v : AttemptValues} {a : AttemptRow}
    {f : Claim → Program α} (hrow : s.db.attemptRow sess v = .ok none)
    (hfind : s.db.attempts.find? (fun a => decide (a.idempotencyKey = v.idempotencyKey) && sess.sees a.organizationId) = some a)
    (hst : a.status = .processorSucceeded) :
    Prog.run exec ch n (claimAttempt sess v >>= f) s = Prog.run exec ch (n + 2) (f (.attempt a)) s := by
  have hinsert : s.db.perform sess (.insertAttempt v) = (.ok none, s.db) := by
    simp only [Tables.perform, Tables.insert, hrow]
    simp
  have hselect : s.db.perform sess (.selectAttempt v.idempotencyKey) = (.ok (some a), s.db) :=
    Prod.ext (congrArg Except.ok hfind) rfl
  unfold claimAttempt
  rw [Prog.bind_assoc_eq, run_query (hf _) hinsert]
  dsimp only
  rw [Prog.bind_assoc_eq, run_query (hf _) hselect]
  dsimp only
  rw [hst]
  rfl

/-- The rest of a call on a payment in order, when the attempt of the key records that the processor has refunded. -/
theorem refundPosted_run (hf : ∀ n, (ch n).fault = .none) (env' : Env) {sess : Session} {payment : PaymentRow} {chargeId : String}
    {t : Uuid} {total : Int} {a : AttemptRow} {reversal : Transaction} {ledger : Ledger.Tables} {row : RefundRow}
    (htotal : s.db.perform sess (.sumRefunds payment.id) = (.ok total, s.db))
    (hroom : ((Decimal.ofNumeric total).plus (.fin (req.refundAmount payment))).greaterThan (.ofNumeric payment.amount) = false)
    (hattempt : s.db.attemptRow sess (req.attempt payment chargeId env'.uuid) = .ok none)
    (hfind : s.db.attempts.find? (fun a => decide (a.idempotencyKey = req.idempotencyKey) && sess.sees a.organizationId) = some a)
    (hst : a.status = .processorSucceeded)
    (hreverse : exec (.ledger "reversal" (.reverse payment.organizationId (.stored t) req.reason)) (ch (n + 1 + 2)) s =
      some (.ok reversal, { s with ledger }))
    (hrow : s.db.refundRow sess ⟨env'.uuid, payment.id, payment.organizationId, .fin (req.refundAmount payment), req.reason,
      req.idempotencyKey, truthy a.processorRefundId, reversal.id⟩ = .ok (some row))
    (hold : ∀ r ∈ s.db.refunds, r.idempotencyKey ≠ req.idempotencyKey) (hkey : row.idempotencyKey = req.idempotencyKey)
    (hsees : sess.sees row.organizationId = true) :
    ∃ s', Prog.run exec ch n (refundPosted env' sess req payment chargeId t) s = some (.ok row, s') ∧ row ∈ s'.db.refunds := by
  obtain ⟨s', hrun, hmem⟩ := recordRefund_run (s := { s with ledger }) (n := n + 1 + 2 + 1) hf (.ofNumeric total) a hrow hold hkey hsees
  refine ⟨s', ?_, hmem⟩
  unfold refundPosted
  rw [run_query (hf _) htotal]
  dsimp only
  rw [if_neg (by rw [hroom]; exact Bool.false_ne_true)]
  refine (claimAttempt_run (v := req.attempt payment chargeId env'.uuid) hf hattempt hfind hst).trans ?_
  dsimp only
  unfold refundAtProcessor reverseInLedger postRefund step
  rw [if_pos hst, Prog.pure_bind_eq]
  exact (Prog.run_tryCatch_ok hreverse).trans hrun

/-- A call with healthy services completes a refund whose attempt records that the processor has refunded. -/
theorem refundPayment_completes (hs : Single env req s₀ s) (hnew : NewKey req s₀.db) (hh : Healthy ch s req)
    (hnot : ¬ Recorded req s) (hrec : ProcessorRecorded req s) {uuid : Uuid} (hfresh : ∀ r ∈ s.db.refunds, r.id ≠ uuid) :
    ∃ row s', alone (refundPayment { env with uuid } req) ch s = some (.ok row, s') ∧ row ∈ s'.db.refunds ∧
      row.idempotencyKey = req.idempotencyKey := by
  obtain ⟨hrefunds, hpayments⟩ : s.db.refunds = s₀.db.refunds ∧ s.db.payments = s₀.db.payments := by
    refine hs.refunds.resolve_right ?_
    rintro ⟨row, hrow, hkey, -⟩
    exact hnot ⟨row, by rw [hrow]; exact List.mem_append_right _ (List.mem_singleton_self _), hkey⟩
  obtain ⟨a, hmem, hkey, hst, hid⟩ := hrec
  obtain ⟨ha, hof⟩ : s.db.attempts = s₀.db.attempts ++ [a] ∧ AttemptOf env req s₀.db a := by
    rcases hs.attempts with ha | ⟨b, ha, hof⟩
    · rw [ha] at hmem
      exact absurd hkey (hnew.attempt a hmem).1
    · rw [ha] at hmem
      rcases List.mem_append.1 hmem with hmem | hmem
      · exact absurd hkey (hnew.attempt a hmem).1
      · rw [List.mem_singleton.1 hmem]
        exact ⟨ha, hof⟩
  obtain ⟨payment, chargeId, t, uuid₀, a₀, hr, hrow, -, hkey₀, horg₀⟩ := hof.made
  obtain ⟨-, horg₁, hcol, -, -, ⟨amount, hamount⟩, hmay⟩ := attemptRow_some hrow
  have horg := selected_organization hr.selected
  have hsees : ∀ o, o = payment.organizationId → (env.session req.organizationId).sees o = true := by
    rintro o rfl
    rw [horg]
    simp [Session.sees, Env.session]
  have hf := hh.faultless
  -- the lookups of the call, in the state it starts in
  have hnone : s.db.perform (env.session req.organizationId) (.selectRefund req.idempotencyKey) = (.ok none, s.db) := by
    refine Prod.ext (congrArg Except.ok (List.find?_eq_none.2 (fun r hr => ?_))) rfl
    rw [decide_eq_false (fun hk => hnot ⟨r, hr, hk⟩)]
    exact Bool.false_ne_true
  have hselect : s.db.perform (env.session req.organizationId) (.selectPayment req.paymentId) = (.ok (some payment), s.db) := by
    refine Prod.ext ?_ (Statement.reads.perform (by trivial) _)
    rw [← hr.selected]
    simp only [Tables.perform, hpayments]
    split <;> rfl
  have hmem : payment ∈ s.db.payments := by
    have h := congrArg Prod.fst hselect
    simp only [Tables.perform] at h
    split at h
    · cases h
    · exact List.mem_of_find?_eq_some (Except.ok.inj h)
  have htotal : s.db.perform (env.session req.organizationId) (.sumRefunds payment.id) =
      (.ok (s₀.db.refundedTotal (env.session req.organizationId) payment.id), s.db) := by
    simp only [Tables.perform, Tables.refundedTotal, hrefunds]
  have hattempt : s.db.attemptRow (env.session req.organizationId) (req.attempt payment chargeId uuid) = .ok none :=
    attemptRow_taken hrow hpayments ⟨a, by rw [ha]; exact List.mem_append_right _ (List.mem_singleton_self _), hkey₀⟩ uuid
  have hfind : s.db.attempts.find? (fun a => decide (a.idempotencyKey = req.idempotencyKey) &&
      (env.session req.organizationId).sees a.organizationId) = some a := by
    rw [ha]
    refine find?_concat (fun b hb => ?_) ?_
    · rw [decide_eq_false (hnew.attempt b hb).1]
      rfl
    · rw [decide_eq_true hkey, hsees a.organizationId (horg₀.trans horg₁)]
      rfl
  obtain ⟨reversal, ledger, hserve⟩ := hh.ledger payment hmem t hr.ledger 6
  have hreverse : exec (.ledger "reversal" (.reverse payment.organizationId (.stored t) req.reason)) (ch 6) s =
      some (.ok reversal, { s with ledger }) := by
    unfold exec
    rw [hf 6]
    simp only [World.perform, hserve]
    rfl
  have hlen : req.idempotencyKey.length ≤ 255 := by
    rw [← hkey, hkey₀]
    exact length_of_column hcol
  obtain ⟨row, hrow', hrowkey, hroworg⟩ := refundRow_new s.db (env.session req.organizationId)
    ⟨uuid, payment.id, payment.organizationId, .fin (req.refundAmount payment), req.reason, req.idempotencyKey,
      truthy a.processorRefundId, reversal.id⟩ hamount (column_eq_ok hlen)
    (fun id h => hid id (eq_some_of_truthy h)) (by unfold Tables.mayAttach; rw [hpayments]; exact hmay)
    (fun r hr hk => hnot ⟨r, hr, hk⟩) hfresh
  have hsess : Env.session { env with uuid } req.organizationId = env.session req.organizationId := rfl
  have hstatus : ¬ (payment.status ≠ .succeeded ∧ payment.status ≠ .partiallyRefunded) := by
    rw [not_and_or, not_not, not_not]
    exact hr.status
  unfold alone refundPayment
  rw [if_neg hr.organization]
  dsimp only
  rw [hsess, openSession_eq (env.session req.organizationId) hr.organization, run_query (hf _) rfl,
    run_query (hf _) hnone]
  dsimp only
  rw [run_query (hf _) hselect]
  dsimp only
  rw [if_neg hstatus]
  simp only [hr.charge, hr.ledger]
  obtain ⟨s', hrun, hmem'⟩ := refundPosted_run (n := 3) hf { env with uuid } htotal hr.room hattempt hfind hst hreverse
    hrow' (fun r hr hk => hnot ⟨r, hr, hk⟩) hrowkey (hsees _ hroworg)
  exact ⟨row, s', hrun, hmem', hrowkey⟩

end

end Payments

end Archisynapse
