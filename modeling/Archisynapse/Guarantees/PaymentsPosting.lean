import Archisynapse.Lemmas.PaymentsCreate
import Archisynapse.Lemmas.PaymentsPhases
import Archisynapse.Payments.Service
import Archisynapse.Guarantees.Payments

/-!
# The posting of a payment

A payment that was charged is posted with its gross, fee and net amounts. The ledger takes the posting exactly when the fee is less
than the amount (`payment_postable_iff`): a fee of the whole amount leaves an entry of zero, and a larger one an entry whose text the
ledger's schema refuses, so that the payment is charged and stays unposted (`fee_unposted`).
-/

namespace Archisynapse

/-! ## Decimals of ten-thousandths -/

namespace Decimal

/-- Sums of ten-thousandths are exact. -/
theorem plus_ofNumeric {a b : Int} (h : (a + b).natAbs < 10 ^ 20) : (ofNumeric a).plus (ofNumeric b) = ofNumeric (a + b) := by
  have hsum : (a / 10000 : ℚ) + b / 10000 = ((a + b : Int) : ℚ) / 10000 := by
    push_cast
    ring
  rw [ofNumeric, ofNumeric, plus, hsum, significant_exact h]
  rfl

theorem minus_ofNumeric {a b : Int} (h : (a - b).natAbs < 10 ^ 20) : (ofNumeric a).minus (ofNumeric b) = ofNumeric (a - b) := by
  have hneg : Decimal.fin (-(b / 10000 : ℚ)) = ofNumeric (-b) := by
    rw [ofNumeric]
    congr 1
    push_cast
    ring
  rw [sub_eq_add_neg] at h ⊢
  rw [← plus_ofNumeric h, ← hneg]
  rfl

theorem greaterThan_ofNumeric {a b : Int} : (ofNumeric a).greaterThan (ofNumeric b) = decide (b < a) := by
  rw [ofNumeric, ofNumeric, greaterThan]
  refine decide_eq_decide.2 ?_
  rw [div_lt_div_iff_of_pos_right (by norm_num)]
  exact Int.cast_lt

theorem equals_ofNumeric (a : Int) : (ofNumeric a).equals (ofNumeric a) = true := by
  simp [ofNumeric, equals]

/-- A column keeps a number of ten-thousandths that fits. -/
theorem toNumeric_eq {n : Int} (h : n.natAbs < 10 ^ 19) : (ofNumeric n).toNumeric = some (some n) := by
  have hq : (n / 10000 * 10000 : ℚ) = n := div_mul_cancel₀ _ (by norm_num)
  rw [ofNumeric, toNumeric, hq, roundHalfUp_intCast, if_pos h]

end Decimal

/-- The ledger's schema takes the text of a number of ten-thousandths when it is not negative. -/
theorem Ledger.acceptsAmount_ofNumeric {n : Int} (h : n.natAbs < 10 ^ 19) :
    Ledger.acceptsAmount (.ofNumeric n) = true ↔ 0 ≤ n := by
  have hq : (n / 10000 * 10000 : ℚ) = n := div_mul_cancel₀ _ (by norm_num)
  rw [Decimal.ofNumeric, Ledger.acceptsAmount, decide_eq_true_eq, hq]
  constructor
  · rintro ⟨h₁, -, -⟩
    have : (0 : ℚ) ≤ n := by linarith [mul_nonneg h₁ (by norm_num : (0 : ℚ) ≤ 10000)]
    exact_mod_cast this
  · intro h₀
    have hn : (n : ℚ) < 10 ^ 19 := by exact_mod_cast (by omega : n < 10 ^ 19)
    have h₀' : (0 : ℚ) ≤ n := by exact_mod_cast h₀
    refine ⟨by positivity, ?_, rfl⟩
    rw [div_lt_iff₀ (by norm_num)]
    calc (n : ℚ) < 10 ^ 19 := hn
      _ ≤ 10 ^ 21 * 10000 := by norm_num

namespace Payments

/-! ## What the ledger takes -/

/-- The ledger takes a posting: its schema accepts the request, its balance is valid, and every entry's amount fits the column and is
more than zero. -/
structure Postable (q : PostTransactionRequest) : Prop where
  accepted : Ledger.Request.accepts (.postTransaction q) = true
  balanced : Ledger.validateTransactionBalance q.entries = true
  positive : ∀ e ∈ q.entries, ∃ n : Int, e.amount.toNumeric = some (some n) ∧ 0 < n

section

variable {n k : Int} {accounts : Accounts}

/-- The entries of a payment's posting. -/
theorem paymentRequest_entries (organizationId : String) (paymentId : Uuid) (currency : String) :
    (paymentRequest organizationId paymentId (.ofNumeric n) (.ofNumeric k) (.ofNumeric (n - k)) currency accounts).entries =
      [⟨accounts.processorClearingAccountId, .debit, .ofNumeric n, "Gross payment received from processor"⟩,
       ⟨accounts.merchantPayableAccountId, .credit, .ofNumeric (n - k), "Net amount payable to merchant"⟩] ++
      (if 0 < k then [⟨accounts.platformFeeRevenueAccountId, .credit, .ofNumeric k, "Platform fee revenue"⟩] else []) := by
  have hzero : Decimal.fin 0 = .ofNumeric 0 := by simp [Decimal.ofNumeric]
  rw [paymentRequest, hzero, Decimal.greaterThan_ofNumeric]
  simp only [decide_eq_true_eq]

/-- The entries of a payment's posting balance. -/
theorem paymentRequest_balanced (hn : 0 < n) (hn' : n < 10 ^ 19) (hk : 0 ≤ k) (hk' : k < 10 ^ 19) (organizationId : String)
    (paymentId : Uuid) (currency : String) : Ledger.validateTransactionBalance
      (paymentRequest organizationId paymentId (.ofNumeric n) (.ofNumeric k) (.ofNumeric (n - k)) currency accounts).entries = true := by
  have hzero : Decimal.fin 0 = .ofNumeric 0 := by simp [Decimal.ofNumeric]
  have hsums : Ledger.entrySums
      (paymentRequest organizationId paymentId (.ofNumeric n) (.ofNumeric k) (.ofNumeric (n - k)) currency accounts).entries =
      (.ofNumeric n, .ofNumeric n) := by
    have hgross : (Decimal.ofNumeric 0).plus (.ofNumeric n) = .ofNumeric n := by
      rw [Decimal.plus_ofNumeric (by omega), zero_add]
    have hnet : (Decimal.ofNumeric 0).plus (.ofNumeric (n - k)) = .ofNumeric (n - k) := by
      rw [Decimal.plus_ofNumeric (by omega), zero_add]
    rw [paymentRequest_entries, Ledger.entrySums, hzero]
    split
    · have hfee : (Decimal.ofNumeric (n - k)).plus (.ofNumeric k) = .ofNumeric n := by
        rw [Decimal.plus_ofNumeric (by omega), sub_add_cancel]
      simp only [List.cons_append, List.nil_append, List.foldl_cons, List.foldl_nil, Ledger.addEntry, hgross, hnet, hfee]
    · obtain rfl : k = 0 := by omega
      simp only [List.append_nil, List.foldl_cons, List.foldl_nil, Ledger.addEntry, hgross, sub_zero]
  rw [Ledger.validateTransactionBalance, hsums]
  dsimp only
  rw [Decimal.equals_ofNumeric, hzero, Decimal.greaterThan_ofNumeric, decide_eq_true hn]
  rfl

/-- An entry of a posting that is taken names an account. -/
theorem Postable.account {q : PostTransactionRequest} (h : Postable q) {e : PostJournalEntryRequest} (he : e ∈ q.entries) :
    e.accountId.value.isSome = true := by
  have haccepted := h.accepted
  rw [Ledger.Request.accepts, Bool.and_eq_true, List.all_eq_true] at haccepted
  have hentry := haccepted.2 e he
  rw [Ledger.acceptsEntry, Bool.and_eq_true, Bool.and_eq_true] at hentry
  exact hentry.1.1

/-- A text that starts with another one that is not empty is not empty. -/
theorem append_ne_empty {a : String} (ha : a ≠ "") (b : String) : a ++ b ≠ "" := by
  intro h
  have hlist := congrArg String.toList h
  rw [String.toList_append] at hlist
  exact ha (String.toList_injective (List.append_eq_nil_iff.1 hlist).1)

/-- A payment's posting is taken exactly when its accounts are uuids and the fee is less than the amount. -/
theorem paymentRequest_postable (hn : 0 < n) (hn' : n < 10 ^ 19) (hk : 0 ≤ k) (hk' : k < 10 ^ 19) {currency : String}
    (hcurrency : utf16Length currency = 3) (organizationId : String) (paymentId : Uuid) :
    Postable (paymentRequest organizationId paymentId (.ofNumeric n) (.ofNumeric k) (.ofNumeric (n - k)) currency accounts) ↔
      accounts.Valid k ∧ k < n := by
  have hentries : (paymentRequest organizationId paymentId (.ofNumeric n) (.ofNumeric k) (.ofNumeric (n - k)) currency accounts).entries = _ :=
    paymentRequest_entries organizationId paymentId currency
  constructor
  · intro h
    have hclearing := h.account (by rw [hentries]; exact List.mem_append_left _ (List.mem_cons_self ..))
    have hmem : ⟨accounts.merchantPayableAccountId, .credit, .ofNumeric (n - k), "Net amount payable to merchant"⟩ ∈
        (paymentRequest organizationId paymentId (.ofNumeric n) (.ofNumeric k) (.ofNumeric (n - k)) currency accounts).entries := by
      rw [hentries]
      exact List.mem_append_left _ (List.mem_cons_of_mem _ (List.mem_singleton_self _))
    obtain ⟨m, hm, hpos⟩ := h.positive _ hmem
    have hnet := Decimal.toNumeric_ofNumeric hm
    refine ⟨⟨hclearing, h.account hmem, fun hfee => ?_⟩, by omega⟩
    refine h.account (e := ⟨accounts.platformFeeRevenueAccountId, .credit, .ofNumeric k, "Platform fee revenue"⟩) ?_
    rw [hentries, if_pos hfee]
    exact List.mem_append_right _ (List.mem_singleton_self _)
  · rintro ⟨⟨hclearing, hpayable, hplatform⟩, hlt⟩
    have hentry {account : UuidText} (haccount : account.value.isSome = true) (side : DebitCredit) {m : Int} (hm : 0 < m)
        (hm' : m < 10 ^ 19) {description : String} (hd : description ≠ "") :
        Ledger.acceptsEntry ⟨account, side, .ofNumeric m, description⟩ = true ∧
          ∃ x : Int, (Decimal.ofNumeric m).toNumeric = some (some x) ∧ 0 < x := by
      refine ⟨?_, m, Decimal.toNumeric_eq (by omega), hm⟩
      rw [Ledger.acceptsEntry, haccount, (Ledger.acceptsAmount_ofNumeric (by omega)).2 hm.le, decide_eq_true hd]
      rfl
    have hall : ∀ e ∈ (paymentRequest organizationId paymentId (.ofNumeric n) (.ofNumeric k) (.ofNumeric (n - k)) currency
        accounts).entries, Ledger.acceptsEntry e = true ∧ ∃ x : Int, e.amount.toNumeric = some (some x) ∧ 0 < x := by
      intro e he
      rw [hentries] at he
      rcases List.mem_append.1 he with he | he
      · rcases List.mem_cons.1 he with rfl | he
        · exact hentry hclearing .debit hn hn' (by decide +kernel)
        · obtain rfl := List.mem_singleton.1 he
          exact hentry hpayable .credit (by omega) (by omega) (by decide +kernel)
      · split at he
        · rename_i hfee
          obtain rfl := List.mem_singleton.1 he
          exact hentry (hplatform hfee) .credit hfee hk' (by decide +kernel)
        · cases he
    refine ⟨?_, paymentRequest_balanced hn hn' hk hk' organizationId paymentId currency, fun e he => (hall e he).2⟩
    rw [Ledger.Request.accepts, Bool.and_eq_true, Bool.and_eq_true, List.all_eq_true, decide_eq_true_eq]
    refine ⟨⟨⟨?_, append_ne_empty (by decide +kernel) _, hcurrency, ?_, ?_⟩, (Ledger.acceptsAmount_ofNumeric (by omega)).2 hn.le⟩,
      fun e he => (hall e he).1⟩
    · intro h
      have := Uuid.length_text paymentId
      rw [Option.some.inj h] at this
      cases this
    · exact fun h => append_ne_empty (by decide +kernel) _ (Option.some.inj h)
    · rw [hentries, List.length_append]
      exact Nat.le_add_right _ _

end

/-- A call asks for a posting with a property, if for any. -/
def Action.Posts (P : PostTransactionRequest → Prop) : Action → Prop
  | .ledger _ (.postTransaction q) => P q
  | _ => True

/-- The row of a request keeps its amounts. -/
theorem amounts_of_row {req : CreatePaymentRequest} (hreq : req.Admitted) {d : Tables} {sess : Session} {uuid : Uuid} {row : PaymentRow}
    (hrow : d.paymentRow sess (req.values uuid) = .ok row) :
    Decimal.fin req.amount = .ofNumeric row.amount ∧ Decimal.fin (req.feeAmount.getD 0) = .ofNumeric row.feeAmount ∧
      (0 < row.amount ∧ row.amount < 10 ^ 19) ∧ (0 ≤ row.feeAmount ∧ row.feeAmount < 10 ^ 19) := by
  obtain ⟨n, hn⟩ := hreq.amount
  obtain ⟨k, hk⟩ := hreq.feeAmount
  obtain ⟨-, hamount, hfee⟩ := paymentRow_columns hrow
  have hn' : Decimal.fin req.amount = .ofNumeric (n : Int) := by
    rw [hn, Decimal.ofNumeric]
    norm_num
  have hk' : Decimal.fin (req.feeAmount.getD 0) = .ofNumeric (k : Int) := by
    rw [hk, Decimal.ofNumeric]
    norm_num
  have hpos := positive_ok hamount
  have hamount' := numeric_of_positive hamount
  change numeric (.fin req.amount) = _ at hamount'
  change numeric (.fin (req.feeAmount.getD 0)) = _ at hfee
  rw [hn'] at hamount'
  rw [hk'] at hfee
  obtain ⟨hrowamount, -⟩ := numeric_ofNumeric hamount'
  obtain ⟨hrowfee, hlt⟩ := numeric_ofNumeric hfee
  exact ⟨by rw [hn', hrowamount], by rw [hk', hrowfee], hpos, by omega⟩

/-- Whatever its calls are answered, each posting that `createPayment` asks for, of a request that the route lets through and whose row
the table takes, is one the ledger takes if and only if the configured accounts are uuids and the fee is less than the amount. -/
theorem payment_postable_iff (env : Env) (req : CreatePaymentRequest) (hreq : req.Admitted) (d : Tables) (sess : Session)
    (row : PaymentRow) (hrow : d.paymentRow sess (req.values env.uuid) = .ok row) :
    (createPayment env req).Calls (Action.Posts (fun q =>
      Postable q ↔ env.ledgerAccounts.Valid row.feeAmount ∧ req.feeAmount.getD 0 < req.amount)) := by
  obtain ⟨hamount, hfee, ⟨hn, hn'⟩, hk, hk'⟩ := amounts_of_row hreq hrow
  have hless : req.feeAmount.getD 0 < req.amount ↔ row.feeAmount < row.amount := by
    rw [Decimal.fin.inj hamount, Decimal.fin.inj hfee, div_lt_div_iff_of_pos_right (by norm_num)]
    exact Int.cast_lt
  have hnet : req.net = .ofNumeric (row.amount - row.feeAmount) := by
    rw [CreatePaymentRequest.net, hamount, hfee, Decimal.minus_ofNumeric (by omega)]
  refine Prog.Calls.mono (fun o ho => ?_) createPayment_calls
  cases ho with
  | post accounts hvalid =>
    change Postable (req.posting env.uuid accounts) ↔ _
    rw [CreatePaymentRequest.posting, hamount, hfee, hnet, paymentRequest_postable hn hn' hk hk' hreq.currency, hvalid, hless]
  | _ => exact trivial

/-- A payment of 100.00 with a fee. -/
def feeRequest (fee : ℚ) : CreatePaymentRequest := { saleRequest with feeAmount := some fee }

theorem feeRequest_admitted {k : Nat} {fee : ℚ} (h : fee = k / 10000) : (feeRequest fee).Admitted where
  organizationId := (by decide +kernel : "org" ≠ "" ∧ utf16Length "org" ≤ 255)
  amount := ⟨1000000, by norm_num [feeRequest, saleRequest]⟩
  feeAmount := ⟨k, h⟩
  currency := (by decide +kernel : utf16Length "USD" = 3)
  token := (by decide +kernel : "pm_card" ≠ "")
  idempotencyKey := (by decide +kernel : "order-1" ≠ "")

/-- The theorem at a payment of 100.00 with a fee of 3.00: every posting that is asked for is taken. -/
theorem payment_postable_iff_sale : (createPayment (saleEnv 1) (feeRequest 3)).Calls (Action.Posts Postable) := by
  have hrow : Tables.empty.paymentRow ⟨"org", true⟩ ((feeRequest 3).values (saleEnv 1).uuid) =
      .ok ⟨1, "org", 1000000, "USD", .pending, "order-1", none, none, 30000⟩ := by decide +kernel
  have hless : (feeRequest 3).feeAmount.getD 0 < (feeRequest 3).amount := by decide +kernel
  have hcalls := payment_postable_iff (saleEnv 1) (feeRequest 3) (feeRequest_admitted (k := 30000) (by norm_num)) .empty ⟨"org", true⟩ _ hrow
  refine Prog.Calls.mono (fun o ho => ?_) hcalls
  unfold Action.Posts at ho ⊢
  split
  · exact ho.2 ⟨trivial, hless⟩
  · exact trivial

/-- Calls that all go well. -/
def healthyChoices (n : Nat) : Choice :=
  ⟨.none, .accepts "pi_1" .succeeded .succeeded, ⟨true, 0, fun i => 1000 * n + i⟩, fun _ => false⟩

/-- Where every call goes well, a payment that is charged with a fee of its whole amount stays unposted. -/
theorem fee_unposted : ¬ ∀ (env : Env) (req : CreatePaymentRequest) (ch : Nat → Choice) (r : Except PaymentError PaymentRow) (s : World),
    req.Admitted → (∀ n, (ch n).fault = .none ∧ ∀ i, (ch n).ledgerFails i = false) →
    alone (createPayment env req) ch .empty = some (r, s) →
    ∀ p ∈ s.db.payments, p.status = .succeeded → p.ledgerTransactionId.isSome = true := by
  intro h
  obtain ⟨⟨r, s⟩, halone, htest⟩ := (Option.any_eq_true _ _).1
    (show (alone (createPayment (saleEnv 1) (feeRequest 100)) healthyChoices .empty).any (fun outcome =>
      outcome.2.db.payments.any (fun p => decide (p.status = .succeeded) && !p.ledgerTransactionId.isSome)) = true by decide +kernel)
  obtain ⟨p, hp, htest⟩ := List.any_eq_true.1 htest
  rw [Bool.and_eq_true, decide_eq_true_eq, Bool.not_eq_true'] at htest
  have hposted := h _ _ _ r s (feeRequest_admitted (k := 1000000) (by norm_num)) (fun n => ⟨rfl, fun i => rfl⟩) halone p hp htest.1
  rw [htest.2] at hposted
  cases hposted

end Payments

end Archisynapse
