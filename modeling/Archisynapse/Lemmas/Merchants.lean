import Archisynapse.Merchants.Account
import Archisynapse.Merchants.Service

/-!
# Transactions on one merchant

What a transaction knows while it holds a merchant's row: what the merchant's account was and what it wrote itself (`Owns`). Every
statement but the commit leaves the tables as they are; a commit whose writes make one step of the merchant's account keeps what
holds of the database (`State.Sound`), and touches no other account.
-/

namespace Archisynapse

namespace Merchants

/-! ## Writes on an account -/

/-- What a write makes of a merchant's account. -/
def Write.on (merchantId : String) : Write → Account → Account
  | .insertMerchant row, a => if row.merchantId = merchantId then { a with merchant := a.merchant.or (some row) } else a
  | .insertKey row _, a => if row.merchantId = merchantId then { a with keys := a.keys ++ [row] } else a
  | .revokeKeys m keyIds, a =>
    if m = merchantId then { a with keys := a.keys.map (fun k => if k.keyId ∈ keyIds then k.retire else k) } else a
  | .setStatus m status, a => if m = merchantId then { a with merchant := a.merchant.map (fun r => { r with status }) } else a
  | .audit _, a => a

/-- The merchant whose account a write changes. -/
def Write.about : Write → Option String
  | .insertMerchant row => some row.merchantId
  | .insertKey row _ => some row.merchantId
  | .revokeKeys m _ => some m
  | .setStatus m _ => some m
  | .audit _ => none

/-- A write on another account. -/
theorem Write.on_other {x : Write} {merchantId : String} (h : x.about ≠ some merchantId) (a : Account) : x.on merchantId a = a := by
  cases x with
  | insertMerchant row => exact if_neg (fun he => h (congrArg some he))
  | insertKey row apiKey => exact if_neg (fun he => h (congrArg some he))
  | revokeKeys m keyIds => exact if_neg (fun he => h (congrArg some he))
  | setStatus m status => exact if_neg (fun he => h (congrArg some he))
  | audit row => rfl

/-- The account after a write. -/
theorem account_apply (x : Write) (d : Tables) (merchantId : String) : (x.apply d).account merchantId = x.on merchantId (d.account merchantId) := by
  cases x with
  | insertMerchant row =>
    have hfound : (d.merchants ++ [row]).find? (fun m => decide (m.merchantId = merchantId)) =
        (d.merchantOf merchantId).or (if row.merchantId = merchantId then some row else none) := by
      rw [List.find?_append]
      congr 1
      by_cases h : row.merchantId = merchantId
      · simp [h]
      · simp [h]
    by_cases h : row.merchantId = merchantId
    · refine Eq.trans ?_ (if_pos h).symm
      exact congrArg (fun m => Account.mk m _) (hfound.trans (by rw [if_pos h]; rfl))
    · refine Eq.trans ?_ (if_neg h).symm
      exact congrArg (fun m => Account.mk m _) (hfound.trans (by rw [if_neg h, Option.or_none]))
  | insertKey row apiKey =>
    unfold Tables.account Write.apply Write.on
    by_cases h : row.merchantId = merchantId
    · simp [Tables.keysOf, Tables.merchantOf, List.filter_append, h]
    · simp [Tables.keysOf, Tables.merchantOf, List.filter_append, h]
  | revokeKeys m keyIds =>
    have hkeys : ((Write.revokeKeys m keyIds).apply d).keysOf merchantId =
        (d.keysOf merchantId).map (fun k => if k.merchantId = m ∧ k.keyId ∈ keyIds then k.retire else k) := by
      unfold Tables.keysOf Write.apply
      rw [List.filter_map]
      congr 1
      refine List.filter_congr (fun k _ => ?_)
      rw [Function.comp_apply]
      split <;> rfl
    unfold Tables.account
    rw [hkeys]
    by_cases h : m = merchantId
    · subst h
      refine (congrArg (Account.mk _) ?_).trans (if_pos rfl).symm
      refine List.map_congr_left (fun k hk => ?_)
      have hm : k.merchantId = m := of_decide_eq_true (List.mem_filter.1 hk).2
      simp only [hm, true_and]
    · refine (congrArg (Account.mk _) ?_).trans (if_neg h).symm
      refine (List.map_congr_left (fun k hk => ?_)).trans (List.map_id _)
      have hm : k.merchantId = merchantId := of_decide_eq_true (List.mem_filter.1 hk).2
      rw [if_neg (fun hk' => h (hk'.1.symm.trans hm))]
      rfl
  | setStatus m status =>
    have hfound : ∀ rows : List MerchantRow,
        (rows.map (fun r => if r.merchantId = m then { r with status } else r)).find? (fun r => decide (r.merchantId = merchantId)) =
          if m = merchantId then (rows.find? (fun r => decide (r.merchantId = merchantId))).map (fun r => { r with status })
          else rows.find? (fun r => decide (r.merchantId = merchantId)) := by
      intro rows
      induction rows with
      | nil => simp
      | cons r rows ih =>
        rw [List.map_cons]
        by_cases hr : r.merchantId = merchantId
        · by_cases hm : m = merchantId
          · subst hm
            simp [hr]
          · have hne : r.merchantId ≠ m := fun he => hm (he.symm.trans hr)
            rw [if_neg hne, if_neg hm, List.find?_cons_of_pos (by simpa using hr), List.find?_cons_of_pos (by simpa using hr)]
        · have hkept : (if r.merchantId = m then { r with status } else r).merchantId ≠ merchantId := by
            split
            · exact hr
            · exact hr
          rw [List.find?_cons_of_neg (by simpa using hkept), List.find?_cons_of_neg (by simpa using hr)]
          exact ih
    by_cases h : m = merchantId
    · refine Eq.trans ?_ (if_pos h).symm
      exact congrArg (fun r => Account.mk r _) ((hfound d.merchants).trans (if_pos h))
    · refine Eq.trans ?_ (if_neg h).symm
      exact congrArg (fun r => Account.mk r _) ((hfound d.merchants).trans (if_neg h))
  | audit row => rfl

/-- The account after some writes. -/
theorem account_applied (writes : List Write) (d : Tables) (merchantId : String) :
    (writes.foldl (fun d x => x.apply d) d).account merchantId = writes.foldl (fun a x => x.on merchantId a) (d.account merchantId) := by
  induction writes generalizing d with
  | nil => rfl
  | cons x writes ih => rw [List.foldl_cons, List.foldl_cons, ih, account_apply]

/-- The account as a transaction sees it. -/
theorem account_view (s : State) (w : Nat) (merchantId : String) :
    (s.view w).account merchantId = (s.writes w).foldl (fun a x => x.on merchantId a) (s.tables.account merchantId) :=
  account_applied _ _ _

/-- Writes on other accounts. -/
theorem applied_other {writes : List Write} {merchantId : String} (h : ∀ x ∈ writes, x.about ≠ some merchantId) (a : Account) :
    writes.foldl (fun a x => x.on merchantId a) a = a := by
  induction writes generalizing a with
  | nil => rfl
  | cons x writes ih =>
    rw [List.foldl_cons, Write.on_other (h x List.mem_cons_self)]
    exact ih (fun y hy => h y (List.mem_cons_of_mem x hy)) a

/-! ## Keys and ids in the tables -/

/-- The ids of the keys after some writes. -/
theorem keyIds_applied (writes : List Write) (d : Tables) :
    (writes.foldl (fun d x => x.apply d) d).keys.map (·.keyId) = d.keys.map (·.keyId) ++ writes.filterMap Write.keyId := by
  induction writes generalizing d with
  | nil => simp
  | cons x writes ih =>
    rw [List.foldl_cons, ih]
    cases x with
    | insertMerchant row => rfl
    | insertKey row apiKey =>
      rw [Write.apply, List.map_append, List.append_assoc]
      rfl
    | revokeKeys m keyIds =>
      have hids : ((Write.revokeKeys m keyIds).apply d).keys.map (·.keyId) = d.keys.map (·.keyId) := by
        rw [Write.apply, List.map_map]
        refine List.map_congr_left (fun k _ => ?_)
        rw [Function.comp_apply]
        split <;> rfl
      rw [hids]
      rfl
    | setStatus m status => rfl
    | audit row => rfl

/-- The id of the merchant a write inserts. -/
def Write.merchantId : Write → Option String
  | .insertMerchant row => some row.merchantId
  | _ => none

/-- The ids of the merchants after some writes. -/
theorem merchantIds_applied (writes : List Write) (d : Tables) :
    (writes.foldl (fun d x => x.apply d) d).merchants.map (·.merchantId) =
      d.merchants.map (·.merchantId) ++ writes.filterMap Write.merchantId := by
  induction writes generalizing d with
  | nil => simp
  | cons x writes ih =>
    rw [List.foldl_cons, ih]
    cases x with
    | insertMerchant row =>
      rw [Write.apply, List.map_append, List.append_assoc]
      rfl
    | insertKey row apiKey => rfl
    | revokeKeys m keyIds => rfl
    | setStatus m status =>
      have hids : ((Write.setStatus m status).apply d).merchants.map (·.merchantId) = d.merchants.map (·.merchantId) := by
        rw [Write.apply, List.map_map]
        refine List.map_congr_left (fun r _ => ?_)
        rw [Function.comp_apply]
        split <;> rfl
      rw [hids]
      rfl
    | audit row => rfl

/-- A key is in the tables when it is in its merchant's account. -/
theorem mem_keys {d : Tables} {k : KeyRow} : k ∈ d.keys ↔ k ∈ (d.account k.merchantId).keys := by
  simp [Tables.account, Tables.keysOf]

end Merchants

end Archisynapse
