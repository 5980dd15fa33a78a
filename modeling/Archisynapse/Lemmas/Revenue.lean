import Archisynapse.Lemmas.Recovery
import Mathlib.Algebra.Order.BigOperators.Group.List
import Mathlib.Data.Rat.Cast.Order

/-!
# The revenue of a history

A payment adds its amount to the revenue of its merchant exactly when it is completed, and a refund adds nothing: its row is
"refunded", and the revenue is the sum of the "completed" rows (`record_effect`).
-/

namespace Archisynapse

/-! ## Sums -/

/-- A sum of numbers that are not negative is zero exactly when each of them is. -/
theorem sum_eq_zero_iff_all {α : Type} {f : α → ℚ} {l : List α} (h : ∀ x ∈ l, 0 ≤ f x) :
    (l.map f).sum = 0 ↔ ∀ x ∈ l, f x = 0 := by
  induction l with
  | nil => simp
  | cons x l ih =>
    have hrest : ∀ y ∈ l, 0 ≤ f y := fun y hy => h y (List.mem_cons_of_mem x hy)
    have hx := h x List.mem_cons_self
    have hsum : 0 ≤ (l.map f).sum := List.sum_nonneg (fun y hy => by
      obtain ⟨z, hz, rfl⟩ := List.mem_map.1 hy
      exact hrest z hz)
    rw [List.map_cons, List.sum_cons, List.forall_mem_cons, ← ih hrest]
    exact add_eq_zero_iff_of_nonneg hx hsum

namespace Analytics

/-- The rows that count. -/
theorem revenueRows_append (merchants : List MerchantRow) (rows : List TransactionRow) (row : TransactionRow) (merchantId : String)
    (cutoff : Int) :
    (Tables.mk merchants (rows ++ [row])).revenueRows merchantId cutoff = (Tables.mk merchants rows).revenueRows merchantId cutoff ++
      if row.merchantId = merchantId ∧ cutoff ≤ row.createdAt ∧ row.event.status = "completed" then [row] else [] := by
  unfold Tables.revenueRows
  rw [List.filter_append]
  congr 1
  by_cases h : row.merchantId = merchantId ∧ cutoff ≤ row.createdAt ∧ row.event.status = "completed"
  · rw [if_pos h]
    simp [h]
  · rw [if_neg h]
    simp only [List.filter_cons, decide_eq_false h, List.filter_nil, Bool.false_eq_true, if_false]

/-- The revenue of a merchant since a time. -/
def Tables.revenue (d : Tables) (merchantId : String) (cutoff : Int) : ℚ := (d.revenueStats merchantId cutoff).totalRevenue

/-- What a new row adds to the revenue. -/
theorem revenue_append (d : Tables) (row : TransactionRow) (merchantId : String) (cutoff : Int) :
    Tables.revenue { d with transactions := d.transactions ++ [row] } merchantId cutoff = d.revenue merchantId cutoff +
      if row.merchantId = merchantId ∧ cutoff ≤ row.createdAt ∧ row.event.status = "completed" then row.event.amount else 0 := by
  change (((Tables.mk d.merchants (d.transactions ++ [row])).revenueRows merchantId cutoff).map (·.event.amount)).sum =
    ((d.revenueRows merchantId cutoff).map (·.event.amount)).sum + _
  rw [revenueRows_append, List.map_append, List.sum_append]
  congr 1
  split
  · exact List.sum_singleton
  · rfl

end Analytics

namespace Gateway

variable {env : ServicesEnv}

/-! ## Entries -/

/-- An API key is that of a merchant at analytics. -/
def KeyOf (env : ServicesEnv) (a : Analytics.Tables) (apiKey : Option String) (merchantId : String) : Prop :=
  ∃ merchant, a.getCurrentMerchant env.hashValue apiKey = .ok merchant ∧ merchant.merchantId = merchantId

/-- The services are healthy for an entry: a payment has the merchant's key of analytics and the clock is past the cutoff; a refund is
answered, with a body that is JSON, and its amount is positive, as the route requires. -/
def Entry.Healthy (env : ServicesEnv) (a : Analytics.Tables) (cutoff : Int) : Entry → Prop
  | .payment _ merchantId _ _ credentials answers =>
    KeyOf env a (truthy credentials.analyticsApiKey) merchantId ∧ ∀ n, cutoff ≤ (answers n).now
  | .refund c answer _ => 0 < c.amount ∧ ∃ response refund, answer = .ok response ∧ response.json = .ok refund

/-- What an entry refunds of a merchant's payments: a refund that the transaction service answers 200 or 201. -/
def Entry.refundAmount (merchantId : String) : Entry → ℚ
  | .refund c (.ok response) _ =>
    if c.merchantId = merchantId ∧ (response.statusCode = 200 ∨ response.statusCode = 201) then c.amount else 0
  | _ => 0

/-- An entry refunds a payment of a merchant. -/
def Entry.Refunds (merchantId : String) : Entry → Prop
  | .refund c (.ok response) _ => c.merchantId = merchantId ∧ (response.statusCode = 200 ∨ response.statusCode = 201)
  | _ => False

theorem Entry.refundAmount_nonneg {a : Analytics.Tables} {cutoff : Int} {e : Entry} (h : e.Healthy env a cutoff)
    (merchantId : String) : 0 ≤ e.refundAmount merchantId := by
  cases e with
  | payment => exact le_refl 0
  | refund c answer now =>
    obtain ⟨hpos, response, refund, rfl, -⟩ := h
    unfold refundAmount
    dsimp only
    split
    · exact hpos.le
    · exact le_refl 0

theorem Entry.refundAmount_eq_zero {a : Analytics.Tables} {cutoff : Int} {e : Entry} (h : e.Healthy env a cutoff)
    (merchantId : String) : e.refundAmount merchantId = 0 ↔ ¬ e.Refunds merchantId := by
  cases e with
  | payment => exact ⟨fun _ h => h, fun _ => rfl⟩
  | refund c answer now =>
    obtain ⟨hpos, response, refund, rfl, -⟩ := h
    unfold refundAmount Refunds
    dsimp only
    split
    · rename_i hrefunds
      exact ⟨fun h => absurd h hpos.ne', fun h => absurd hrefunds h⟩
    · rename_i hrefunds
      exact ⟨fun _ => hrefunds, fun _ => rfl⟩

/-! ## What an entry does -/

/-- What an entry does to analytics: its merchants stay, the revenue of each merchant grows by what the entry completed, and what it
refunded is what the transaction service refunded. -/
structure RevenueEffect (env : ServicesEnv) (cutoff : Int) (e : Entry) (s : Services) (o : Outcome) (s' : Services) : Prop where
  merchants : s'.analytics.merchants = s.analytics.merchants
  revenue : ∀ m, s'.analytics.revenue m cutoff = s.analytics.revenue m cutoff + o.completed m
  refunded : ∀ m, o.refunded m = e.refundAmount m

theorem payment_effect {cutoff : Int} {s : Services} (draws : Draws) {m : String} (key : String) (req : PaymentCreateRequest)
    {credentials : ServiceCredentials} {answers : Nat → Answers}
    (h : (Entry.payment draws m key req credentials answers).Healthy env s.analytics cutoff) :
    ∃ o s', s.record env (.payment draws m key req credentials answers) = some (o, s') ∧
      RevenueEffect env cutoff (.payment draws m key req credentials answers) s o s' := by
  obtain ⟨⟨merchant, hmerchant, rfl⟩, hclock⟩ := h
  obtain ⟨r, s', hrun, -⟩ := Prog.run_isSome (Services.exec env) answers (P := fun _ => True)
    (fun o ch s _ => ⟨_, _, rfl, trivial⟩) (processPayment env.gateway draws merchant.merchantId key req credentials) (n := 0)
    (s := s) trivial
  refine ⟨.payment merchant.merchantId r, s', ?_, ?_⟩
  · change Option.map _ (Prog.run _ _ 0 _ s) = _
    rw [hrun]
    rfl
  have hlate := Prog.run_choice (Services.exec env) (fun ch : { ch : Answers // cutoff ≤ ch.now } => ch.1)
    (fun n => ⟨answers n, hclock n⟩) (processPayment env.gateway draws merchant.merchantId key req credentials) (n := 0) (s := s)
  rw [hrun] at hlate
  have hpost := (Prog.wp_run (S := signature) _
    (fun o ch s r s' he => (⟨ch.1, ch.2, Option.some.inj he⟩ : Served env (fun ch => cutoff ≤ ch.now) o s r s')) (fun _ => rfl) _
    trivial (processPayment_wp draws merchant.merchantId key req credentials s) hlate).2
  rcases hpost with ⟨receipt, rfl, hdone, row, merchant', ch, hrows, hlate, hcreated, hmerchant', hid, hstatus, hamount⟩ |
    ⟨hdone, hkept⟩
  · obtain rfl := Except.ok.inj (hmerchant.symm.trans hmerchant')
    refine ⟨by rw [hrows], fun m => ?_, fun m => rfl⟩
    rw [hrows, Analytics.revenue_append]
    congr 1
    unfold Outcome.completed
    dsimp only
    have hcounts : (row.merchantId = m ∧ cutoff ≤ row.createdAt ∧ row.event.status = "completed") ↔
        (merchant.merchantId = m ∧ receipt.status = .completed) := by
      rw [hid, hcreated, hstatus, hdone]
      exact ⟨fun h => ⟨h.1, rfl⟩, fun h => ⟨h.1, hlate, rfl⟩⟩
    rw [if_congr hcounts hamount rfl]
  · refine ⟨by rw [hkept], fun m => ?_, fun m => rfl⟩
    rw [hkept]
    cases r with
    | error e => exact (add_zero _).symm
    | ok receipt =>
      unfold Outcome.completed
      dsimp only
      rw [if_neg (fun h => hdone receipt rfl h.2), add_zero]

/-- A call of a refund, and how the refund goes on. -/
theorem run_refundStep {β : Type} {answer : Except GatewayError (Response Json)} {now : Int} {n : Nat} {o : RefundAction}
    {f : Except GatewayError o.Result → Prog refundSignature β} {s s' : Services} {r : Except GatewayError o.Result}
    (h : Services.execRefund env answer o now s = some (r, s')) :
    (refundStep o >>= f).run (Services.execRefund env answer) (fun _ => now) n s =
      (f r).run (Services.execRefund env answer) (fun _ => now) (n + 1) s' := by
  change Prog.run _ _ n (.call (S := refundSignature) o _) s = _
  rw [Prog.run, h]
  rfl

/-- The reversal of a refund adds nothing to the revenue. -/
theorem reverse_effect {answer : Except GatewayError (Response Json)} {now : Int} (c : RefundCall) (n : Nat) (s : Services) :
    ∃ b s', (reverseAnalytics c).run (Services.execRefund env answer) (fun _ => now) n s = some (.ok b, s') ∧
      s'.analytics.merchants = s.analytics.merchants ∧
      ∀ m cutoff, s'.analytics.revenue m cutoff = s.analytics.revenue m cutoff := by
  unfold reverseAnalytics
  split
  · exact ⟨false, s, rfl, rfl, fun _ _ => rfl⟩
  · rename_i key _
    cases hmerchant : s.analytics.getCurrentMerchant env.hashValue (some key) with
    | ok merchant =>
      let row : Analytics.TransactionRow := ⟨s.analytics.transactions.length + 1, merchant.merchantId, c.reversal, now⟩
      let reversed : Analytics.Tables := { s.analytics with transactions := s.analytics.transactions ++ [row] }
      have hexec : Services.execRefund env answer (.recordTransaction (some key) c.reversal) now s =
          some (.ok ⟨200, "", .ok (s.analytics.transactions.length + 1)⟩, { s with analytics := reversed }) := by
        simp only [Services.execRefund, Analytics.Tables.recordTransaction, hmerchant]
        rfl
      refine ⟨true, { s with analytics := reversed }, ?_, rfl, fun m cutoff => ?_⟩
      · rw [run_refundStep hexec]
        rfl
      · have hrevenue := Analytics.revenue_append s.analytics row m cutoff
        have hstatus : ¬ (row.merchantId = m ∧ cutoff ≤ row.createdAt ∧ row.event.status = "completed") :=
          fun h => absurd (show ("refunded" : String) = "completed" from h.2.2) (by decide +kernel)
        rw [if_neg hstatus, add_zero] at hrevenue
        exact hrevenue
    | error statusCode =>
      have hexec : Services.execRefund env answer (.recordTransaction (some key) c.reversal) now s =
          some (.ok (.refused statusCode), s) := by
        simp only [Services.execRefund, Analytics.Tables.recordTransaction, hmerchant]
        rfl
      refine ⟨decide (statusCode = 200), s, ?_, rfl, fun _ _ => rfl⟩
      rw [run_refundStep hexec]
      rfl

theorem refund_effect {cutoff : Int} {s : Services} {c : RefundCall} {answer : Except GatewayError (Response Json)} {now : Int}
    (h : (Entry.refund c answer now).Healthy env s.analytics cutoff) :
    ∃ o s', s.record env (.refund c answer now) = some (o, s') ∧ RevenueEffect env cutoff (.refund c answer now) s o s' := by
  obtain ⟨-, response, refund, rfl, hjson⟩ := h
  by_cases hstatus : response.statusCode = 200 ∨ response.statusCode = 201
  · obtain ⟨b, s', hreverse, hmerchants, hrevenue⟩ :=
      @reverse_effect env (.ok response) now c 1 s
    refine ⟨.refund c.merchantId c.amount (.ok ⟨c.transactionId, true, some refund, b, none⟩), s', ?_, hmerchants, fun m => ?_,
      fun m => ?_⟩
    · have hrun : (processRefund c).run (Services.execRefund env (.ok response)) (fun _ => now) 0 s =
          some (.ok ⟨c.transactionId, true, some refund, b, none⟩, s') := by
        unfold processRefund
        rw [run_refundStep rfl]
        dsimp only
        rw [if_pos hstatus, hjson]
        have hmap := Prog.run_map (Services.execRefund env (.ok response)) (fun _ => now)
          (fun b => (⟨c.transactionId, true, some refund, b, none⟩ : RefundResult)) (reverseAnalytics c) (n := 1) (s := s)
        rw [hreverse] at hmap
        exact hmap
      change Option.map _ (Prog.run _ _ 0 _ s) = _
      rw [hrun]
      rfl
    · rw [hrevenue]
      exact (add_zero _).symm
    · unfold Outcome.refunded Entry.refundAmount
      dsimp only
      refine if_congr ⟨fun h => ⟨h.1, hstatus⟩, fun h => ⟨h.1, rfl⟩⟩ rfl rfl
  · refine ⟨.refund c.merchantId c.amount (.ok ⟨c.transactionId, false, none, false,
      some ("Transaction refund failed: HTTP " ++ toString response.statusCode)⟩), s, ?_, rfl, fun m => (add_zero _).symm,
      fun m => ?_⟩
    · have hrun : (processRefund c).run (Services.execRefund env (.ok response)) (fun _ => now) 0 s =
          some (.ok ⟨c.transactionId, false, none, false,
            some ("Transaction refund failed: HTTP " ++ toString response.statusCode)⟩, s) := by
        unfold processRefund
        rw [run_refundStep rfl]
        dsimp only
        rw [if_neg hstatus]
        rfl
      change Option.map _ (Prog.run _ _ 0 _ s) = _
      rw [hrun]
      rfl
    · unfold Outcome.refunded Entry.refundAmount
      dsimp only
      rw [if_neg (fun h => absurd h.2 Bool.false_ne_true), if_neg (fun h => hstatus h.2)]

/-- What one entry does. -/
theorem record_effect {cutoff : Int} {s : Services} {e : Entry} (h : e.Healthy env s.analytics cutoff) :
    ∃ o s', s.record env e = some (o, s') ∧ RevenueEffect env cutoff e s o s' := by
  cases e with
  | payment draws m key req credentials answers => exact payment_effect draws key req h
  | refund c answer now => exact refund_effect h

/-! ## Histories -/

/-- Merchants decide whose a key is. -/
theorem KeyOf.of_merchants {a a' : Analytics.Tables} (h : a'.merchants = a.merchants) {apiKey : Option String} {merchantId : String}
    (hkey : KeyOf env a apiKey merchantId) : KeyOf env a' apiKey merchantId := by
  obtain ⟨merchant, hmerchant, hid⟩ := hkey
  refine ⟨merchant, ?_, hid⟩
  unfold Analytics.Tables.getCurrentMerchant at hmerchant ⊢
  rw [h]
  exact hmerchant

theorem Entry.Healthy.of_merchants {a a' : Analytics.Tables} (h : a'.merchants = a.merchants) {cutoff : Int} {e : Entry}
    (he : e.Healthy env a cutoff) : e.Healthy env a' cutoff := by
  cases e with
  | payment draws m key req credentials answers => exact ⟨he.1.of_merchants h, he.2⟩
  | refund c answer now => exact he

/-- What a history does. -/
theorem recordAll_effect {cutoff : Int} {history : List Entry} {s : Services}
    (h : ∀ e ∈ history, e.Healthy env s.analytics cutoff) :
    ∃ outcomes s', s.recordAll env history = some (outcomes, s') ∧ s'.analytics.merchants = s.analytics.merchants ∧
      (∀ m, s'.analytics.revenue m cutoff = s.analytics.revenue m cutoff + (outcomes.map (·.completed m)).sum) ∧
      ∀ m, (outcomes.map (·.refunded m)).sum = (history.map (·.refundAmount m)).sum := by
  induction history generalizing s with
  | nil => exact ⟨[], s, rfl, rfl, fun m => (add_zero _).symm, fun m => rfl⟩
  | cons e history ih =>
    obtain ⟨o, s₁, hrecord, heffect⟩ := record_effect (h e List.mem_cons_self)
    obtain ⟨outcomes, s', hrest, hmerchants, hrevenue, hrefunded⟩ := ih (s := s₁)
      (fun e' he' => (h e' (List.mem_cons_of_mem e he')).of_merchants heffect.merchants)
    refine ⟨o :: outcomes, s', ?_, hmerchants.trans heffect.merchants, fun m => ?_, fun m => ?_⟩
    · unfold Services.recordAll
      rw [hrecord, Option.bind_some, hrest]
      rfl
    · rw [hrevenue, heffect.revenue, List.map_cons, List.sum_cons, add_assoc]
    · rw [List.map_cons, List.sum_cons, List.map_cons, List.sum_cons, heffect.refunded, hrefunded]

end Gateway

end Archisynapse
