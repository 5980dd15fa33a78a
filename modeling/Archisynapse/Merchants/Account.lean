import Archisynapse.Merchants.Store

/-!
# A merchant's account

What the two tables are for, one merchant at a time: an account is the merchant's row and its keys, and its life is a sequence of
five steps, each made at once. What the steps keep (`Account.Sound`) is that an account has at most one `ACTIVE` key, and none
unless the merchant is `ACTIVE`. The programs of `Merchants/Service.lean` take these steps, one for each transaction they commit
(`Lemmas/Merchants.lean`).
-/

namespace Archisynapse

namespace Merchants

/-- A merchant's row and its keys. -/
structure Account where
  merchant : Option MerchantRow
  keys : List KeyRow

/-- A merchant's account in the tables. -/
def Tables.account (d : Tables) (merchantId : String) : Account := ⟨d.merchantOf merchantId, d.keysOf merchantId⟩

/-- The account's `ACTIVE` keys. -/
def Account.activeKeys (a : Account) : List KeyRow := a.keys.filter KeyRow.active

/-- A step in the life of an account. `vouched` says of which keys the row may be one. -/
inductive Account.Step (vouched : KeyRow → Prop) : Account → Account → Prop where
  | provision (m : MerchantRow) (k : KeyRow) (hm : m.status = .active) (hk : vouched k) : Step vouched ⟨none, []⟩ ⟨some m, [k]⟩
  | rotate (m : MerchantRow) (keys : List KeyRow) (k : KeyRow) (hm : m.status = .active) (hk : vouched k) :
      Step vouched ⟨some m, keys⟩ ⟨some m, keys.map KeyRow.retire ++ [k]⟩
  | revoke (m : MerchantRow) (keys : List KeyRow) (keyId : String) :
      Step vouched ⟨some m, keys⟩ ⟨some m, keys.map (fun k => if k.keyId = keyId then k.retire else k)⟩
  | suspend (m : MerchantRow) (keys : List KeyRow) (hm : m.status ≠ .closed) :
      Step vouched ⟨some m, keys⟩ ⟨some { m with status := .suspended }, keys.map KeyRow.retire⟩
  | resume (m : MerchantRow) (keys : List KeyRow) (k : KeyRow) (hm : m.status = .suspended) (hk : vouched k) :
      Step vouched ⟨some m, keys⟩ ⟨some { m with status := .active }, keys.map KeyRow.retire ++ [k]⟩

/-- What holds of an account at any time of its life. -/
structure Account.Sound (vouched : KeyRow → Prop) (a : Account) : Prop where
  owned : a.merchant = none → a.keys = []
  single : a.activeKeys.length ≤ 1
  barred : ∀ m, a.merchant = some m → m.status ≠ .active → a.activeKeys = []
  vouched : ∀ k ∈ a.keys, vouched k

variable {vouched : KeyRow → Prop} {a b : Account}

/-- Keys that are all revoked. -/
theorem filter_active_retire (keys : List KeyRow) : (keys.map KeyRow.retire).filter KeyRow.active = [] := by
  rw [List.filter_eq_nil_iff]
  intro k hk
  obtain ⟨k₀, -, rfl⟩ := List.mem_map.1 hk
  simp [KeyRow.active, KeyRow.retire]

/-- One key beside keys that are all revoked. -/
theorem activeKeys_issued (m : Option MerchantRow) (keys : List KeyRow) (k : KeyRow) :
    (Account.mk m (keys.map KeyRow.retire ++ [k])).activeKeys.length ≤ 1 := by
  unfold Account.activeKeys
  rw [List.filter_append, filter_active_retire, List.nil_append]
  exact List.length_filter_le _ _

/-- Revoking a key leaves no more `ACTIVE` keys. -/
theorem activeKeys_revoked (keyId : String) (keys : List KeyRow) :
    ((keys.map (fun k => if k.keyId = keyId then k.retire else k)).filter KeyRow.active).length ≤
      (keys.filter KeyRow.active).length := by
  induction keys with
  | nil => exact le_rfl
  | cons k keys ih =>
    rw [List.map_cons]
    by_cases h : k.keyId = keyId
    · have hretired : ¬ k.retire.active = true := by simp [KeyRow.active, KeyRow.retire]
      rw [if_pos h, List.filter_cons_of_neg hretired]
      exact ih.trans ((List.sublist_cons_self k keys).filter _).length_le
    · rw [if_neg h]
      by_cases hk : k.active = true
      · rw [List.filter_cons_of_pos hk, List.filter_cons_of_pos hk, List.length_cons, List.length_cons]
        exact Nat.succ_le_succ ih
      · rw [List.filter_cons_of_neg hk, List.filter_cons_of_neg hk]
        exact ih

/-- Every step keeps what holds of an account. -/
theorem Account.Step.sound (hretire : ∀ k, vouched k → vouched k.retire) (h : Account.Step vouched a b)
    (ha : a.Sound vouched) : b.Sound vouched := by
  have hretired : ∀ {m keys}, (Account.mk m keys).Sound vouched → ∀ k ∈ keys.map KeyRow.retire, vouched k := by
    intro m keys hkeys k hk
    obtain ⟨k₀, hk₀, rfl⟩ := List.mem_map.1 hk
    exact hretire k₀ (hkeys.vouched k₀ hk₀)
  have hissued : ∀ {m keys k}, (Account.mk m keys).Sound vouched → vouched k →
      ∀ k' ∈ keys.map KeyRow.retire ++ [k], vouched k' := by
    intro m keys k hkeys hk k' hk'
    rcases List.mem_append.1 hk' with hk' | hk'
    · exact hretired hkeys k' hk'
    · rw [List.mem_singleton.1 hk']
      exact hk
  cases h with
  | provision m k hm hk =>
    refine ⟨nofun, List.length_filter_le _ _, ?_, ?_⟩
    · rintro _ ⟨⟩ hne
      exact absurd hm hne
    · intro k' hk'
      rw [List.mem_singleton.1 hk']
      exact hk
  | rotate m keys k hm hk =>
    refine ⟨nofun, activeKeys_issued _ keys k, ?_, hissued ha hk⟩
    rintro _ ⟨⟩ hne
    exact absurd hm hne
  | revoke m keys keyId =>
    refine ⟨nofun, (activeKeys_revoked keyId keys).trans ha.single, ?_, ?_⟩
    · rintro _ ⟨⟩ hne
      have hnone := ha.barred m rfl hne
      refine List.eq_nil_of_length_eq_zero (Nat.le_zero.1 ((activeKeys_revoked keyId keys).trans ?_))
      exact Nat.le_of_eq (congrArg List.length hnone)
    · intro k hk
      obtain ⟨k₀, hk₀, rfl⟩ := List.mem_map.1 hk
      by_cases h : k₀.keyId = keyId
      · rw [if_pos h]
        exact hretire k₀ (ha.vouched k₀ hk₀)
      · rw [if_neg h]
        exact ha.vouched k₀ hk₀
  | suspend m keys hm =>
    have hnone : (Account.mk (some { m with status := .suspended }) (keys.map KeyRow.retire)).activeKeys = [] :=
      filter_active_retire keys
    refine ⟨nofun, ?_, fun _ _ _ => hnone, hretired ha⟩
    rw [hnone]
    exact Nat.zero_le 1
  | resume m keys k hm hk =>
    refine ⟨nofun, activeKeys_issued _ keys k, ?_, hissued ha hk⟩
    rintro _ ⟨⟩ hne
    exact absurd rfl hne

/-- A key that is revoked is kept as it is. -/
theorem Account.Step.retired (h : Account.Step vouched a b) {k : KeyRow} (hk : k ∈ a.keys) (hrevoked : k.status = .revoked) :
    k ∈ b.keys := by
  have hsame : k.retire = k := by
    unfold KeyRow.retire
    rw [← hrevoked]
  cases h with
  | provision m k' hm hk' => cases hk
  | rotate m keys k' hm hk' => exact List.mem_append_left _ (List.mem_map.2 ⟨k, hk, hsame⟩)
  | revoke m keys keyId =>
    refine List.mem_map.2 ⟨k, hk, ?_⟩
    by_cases h : k.keyId = keyId
    · rw [if_pos h, hsame]
    · rw [if_neg h]
  | suspend m keys hm => exact List.mem_map.2 ⟨k, hk, hsame⟩
  | resume m keys k' hm hk' => exact List.mem_append_left _ (List.mem_map.2 ⟨k, hk, hsame⟩)

/-- A step stays one when more keys are vouched for. -/
theorem Account.Step.mono {vouched' : KeyRow → Prop} (hmono : ∀ k, vouched k → vouched' k) (h : Account.Step vouched a b) :
    Account.Step vouched' a b := by
  cases h with
  | provision m k hm hk => exact .provision m k hm (hmono k hk)
  | rotate m keys k hm hk => exact .rotate m keys k hm (hmono k hk)
  | revoke m keys keyId => exact .revoke m keys keyId
  | suspend m keys hm => exact .suspend m keys hm
  | resume m keys k hm hk => exact .resume m keys k hm (hmono k hk)

/-- More keys may be vouched for. -/
theorem Account.Sound.mono {vouched' : KeyRow → Prop} (h : ∀ k, vouched k → vouched' k) (ha : a.Sound vouched) : a.Sound vouched' :=
  ⟨ha.owned, ha.single, ha.barred, fun k hk => h k (ha.vouched k hk)⟩

end Merchants

end Archisynapse
