import Archisynapse.Lemmas.RoyaltyGatewayBalance
import Archisynapse.Lemmas.RoyaltyMaps

/-!
# The two money engines

`computeRoyalty` of the transaction service, where none of its 20 digits are lost: it pays each split its share rounded down, and a
cent more for the first owners in its own order (`computeRoyalty_paid`). The shares and the cents left over are the gateway's, for
the same pool; the order of owners is the gateway's where texts of the same part compare alike (`inOrder_toGateway`).
-/

namespace Archisynapse

namespace Royalty

open RoyaltyGateway (wholeCents restOfCent leftCents truncate_tdiv truncate_intCast wholeCents_restOfCent)

/-- A split as the gateway has it. -/
def RoyaltySplit.toGateway (s : RoyaltySplit) : RoyaltyGateway.Split := ⟨s.ownerId, s.bps⟩

/-- No operation of the transaction service loses a digit. -/
structure WithinDigits (n : Nat) (splits : List RoyaltySplit) : Prop where
  shares : ∀ s ∈ splits, Decimal.significant (n * s.bps) = n * s.bps
  sums : n + splits.length < 10 ^ 20

/-- The rests of the shares, by owner. -/
def restsByOwner (n : Nat) (splits : List RoyaltySplit) : List (String × ℚ) :=
  splits.map (fun s => (s.ownerId, (restOfCent n s.toGateway : ℚ) / 10 ^ 6))

/-- The owners in the order of the sort. -/
def inOrder (n : Nat) (splits : List RoyaltySplit) : List String :=
  (splits.map (·.ownerId)).insertionSort
    (fun a b => notAfter (restsByOwner n splits) (splits.map (fun s => (s.ownerId, s.bps))) a b = true)

/-- The owners that get a cent more. -/
def centMore (n : Nat) (splits : List RoyaltySplit) : List String :=
  (inOrder n splits).take (leftCents n (splits.map RoyaltySplit.toGateway)).toNat

/-- The cents a split is paid. -/
def paidCents (n : Nat) (splits : List RoyaltySplit) (s : RoyaltySplit) : Int :=
  wholeCents n s.toGateway + if s.ownerId ∈ centMore n splits then 1 else 0

variable {n : Nat} {splits : List RoyaltySplit}

/-! ## Bounds -/

theorem units_toGateway (n : Nat) (s : RoyaltySplit) : RoyaltyGateway.Exact.units n s.toGateway = (n * s.bps : Nat) := by
  unfold RoyaltyGateway.Exact.units RoyaltySplit.toGateway
  push_cast
  rfl

theorem wholeCents_toGateway (n : Nat) (s : RoyaltySplit) : wholeCents n s.toGateway = (n * s.bps / 10000 : Nat) := by
  unfold wholeCents
  rw [units_toGateway]
  rfl

theorem sum_bps_cast (splits : List RoyaltySplit) :
    ((splits.map RoyaltySplit.toGateway).map (·.bps)).sum = ((splits.map (·.bps)).sum : Nat) := by
  induction splits with
  | nil => rfl
  | cons s l ih =>
    rw [List.map_cons, List.map_cons, List.sum_cons, ih, List.map_cons, List.sum_cons]
    push_cast
    rfl

theorem sum_bps_toGateway (hsum : (splits.map (·.bps)).sum = 10000) :
    ((splits.map RoyaltySplit.toGateway).map (·.bps)).sum = 10000 := by
  rw [sum_bps_cast, hsum]
  rfl

theorem owners_toGateway : (splits.map RoyaltySplit.toGateway).map (·.ownerId) = splits.map (·.ownerId) := by
  rw [List.map_map]
  rfl

/-- The whole cents together are not more than the pool. -/
theorem sum_wholeCents_le (hsum : (splits.map (·.bps)).sum = 10000) : (splits.map (fun s => n * s.bps / 10000)).sum ≤ n := by
  have hle : ∀ l : List RoyaltySplit, 10000 * (l.map (fun s => n * s.bps / 10000)).sum ≤ n * (l.map (·.bps)).sum := by
    intro l
    induction l with
    | nil => simp
    | cons s l ih =>
      have hs := Nat.mul_div_le (n * s.bps) 10000
      rw [List.map_cons, List.sum_cons, List.map_cons, List.sum_cons, Nat.mul_add, Nat.mul_add]
      omega
  have hsplits := hle splits
  rw [hsum] at hsplits
  omega

theorem sum_wholeCents_toGateway : ((splits.map RoyaltySplit.toGateway).map (wholeCents n)).sum =
    ((splits.map (fun s => n * s.bps / 10000)).sum : Nat) := by
  induction splits with
  | nil => rfl
  | cons s l ih =>
    rw [List.map_cons, List.map_cons, List.sum_cons, ih, List.map_cons, List.sum_cons, wholeCents_toGateway]
    push_cast
    rfl

theorem leftCents_nonneg (hsum : (splits.map (·.bps)).sum = 10000) : 0 ≤ leftCents n (splits.map RoyaltySplit.toGateway) := by
  have hle := sum_wholeCents_le (n := n) hsum
  unfold leftCents
  rw [sum_wholeCents_toGateway]
  omega

/-- One split's whole cents are not more than the pool. -/
theorem wholeCents_le (hsum : (splits.map (·.bps)).sum = 10000) {s : RoyaltySplit} (hs : s ∈ splits) :
    n * s.bps / 10000 ≤ n := by
  have hle : s.bps ≤ 10000 := by
    rw [← hsum]
    exact List.single_le_sum (fun _ _ => Nat.zero_le _) _ (List.mem_map_of_mem hs)
  exact Nat.div_le_of_le_mul (by rw [Nat.mul_comm 10000]; exact Nat.mul_le_mul_left n hle)

/-! ## Shares -/

/-- A share is not rounded. -/
theorem rawShare_units (hw : WithinDigits n splits) {s : RoyaltySplit} (hs : s ∈ splits) :
    rawShare (n / 100) s = ((n * s.bps : Nat) : ℚ) / 10 ^ 6 := by
  have hshare := hw.shares s hs
  have hmul : (n / 100 : ℚ) * s.bps = (n * s.bps : ℚ) / 10 ^ 2 := by ring
  have hdiv : (n * s.bps : ℚ) / 10 ^ 2 / 10000 = (n * s.bps : ℚ) / 10 ^ 6 := by
    rw [div_div]
    norm_num
  unfold rawShare mul div
  rw [hmul, Decimal.significant_shift, hshare, hdiv, Decimal.significant_shift, hshare]
  push_cast
  rfl

/-- A share is rounded towards zero. -/
theorem toCentsDown_units (hw : WithinDigits n splits) {s : RoyaltySplit} (hs : s ∈ splits) :
    toCentsDown (rawShare (n / 100) s) = (wholeCents n s.toGateway : ℚ) / 100 := by
  have hcents : ((n * s.bps : Nat) : ℚ) / 10 ^ 6 * 100 = (((n * s.bps : Nat) : Int) : ℚ) / 10000 := by
    push_cast
    ring
  unfold toCentsDown wholeCents
  rw [rawShare_units hw hs, hcents, truncate_tdiv, units_toGateway]

/-- The rest of a share is not rounded. -/
theorem minus_rest (hw : WithinDigits n splits) {s : RoyaltySplit} (hs : s ∈ splits) :
    minus (rawShare (n / 100) s) (toCentsDown (rawShare (n / 100) s)) = (restOfCent n s.toGateway : ℚ) / 10 ^ 6 := by
  have hsplit := wholeCents_restOfCent n s.toGateway
  rw [units_toGateway] at hsplit
  have hrest : ((n * s.bps : Nat) : ℚ) / 10 ^ 6 - (wholeCents n s.toGateway : ℚ) / 100 = (restOfCent n s.toGateway : ℚ) / 10 ^ 6 := by
    have hcast : ((n * s.bps : Nat) : ℚ) = ((10000 * wholeCents n s.toGateway + restOfCent n s.toGateway : Int) : ℚ) := by
      rw [hsplit]
      push_cast
      rfl
    rw [hcast]
    push_cast
    ring
  have hlt := RoyaltyGateway.restOfCent_lt n s.toGateway
  have hlt' := RoyaltyGateway.lt_restOfCent n s.toGateway
  unfold minus
  rw [toCentsDown_units hw hs, rawShare_units hw hs, hrest, Decimal.significant_of_digits (by omega)]

/-! ## Sums -/

/-- Sums of cents are not rounded while they are within the digits. -/
theorem foldl_plus (l : List Nat) (a : Nat) (h : a + l.sum < 10 ^ 20) (j : Nat) :
    l.foldl (fun (sum : ℚ) (c : Nat) => plus sum ((c : ℚ) / 10 ^ j)) ((a : ℚ) / 10 ^ j) = ((a + l.sum : Nat) : ℚ) / 10 ^ j := by
  induction l generalizing a with
  | nil => simp
  | cons c l ih =>
    rw [List.sum_cons] at h
    have hadd : (a : ℚ) / 10 ^ j + (c : ℚ) / 10 ^ j = (((a + c : Nat) : Int) : ℚ) / 10 ^ j := by
      push_cast
      ring
    have hcast : (((a + c : Nat) : Int) : ℚ) / 10 ^ j = ((a + c : Nat) : ℚ) / 10 ^ j := rfl
    rw [List.foldl_cons, plus, hadd, Decimal.significant_of_digits (by omega), hcast, ih (a + c) (by omega), List.sum_cons, add_assoc]

/-- The cents left over, as they are computed. -/
theorem leftover_eq (hw : WithinDigits n splits) (hsum : (splits.map (·.bps)).sum = 10000) :
    minus (truncate (div (n / 100) (1 / 100)))
      ((splits.map (fun s => (s.ownerId, (wholeCents n s.toGateway : ℚ) / 100))).foldl (fun sum e => plus sum (div e.2 (1 / 100))) 0) =
      (leftCents n (splits.map RoyaltySplit.toGateway) : ℚ) := by
  have hle := sum_wholeCents_le (n := n) hsum
  have hsums := hw.sums
  have hpool : div (n / 100) (1 / 100) = ((n : Int) : ℚ) := by
    have hn : (n / 100 : ℚ) / (1 / 100) = ((n : Int) : ℚ) / 10 ^ 0 := by
      push_cast
      ring
    unfold div
    rw [hn, Decimal.significant_of_digits (by omega), pow_zero, div_one]
  have hfold : (splits.map (fun s => (s.ownerId, (wholeCents n s.toGateway : ℚ) / 100))).foldl
      (fun sum e => plus sum (div e.2 (1 / 100))) 0 = (((splits.map (fun s => n * s.bps / 10000)).sum : Nat) : ℚ) := by
    have hcents : ∀ l : List RoyaltySplit, (∀ s ∈ l, s ∈ splits) → ∀ sum : ℚ,
        (l.map (fun s => (s.ownerId, (wholeCents n s.toGateway : ℚ) / 100))).foldl (fun sum e => plus sum (div e.2 (1 / 100))) sum =
          (l.map (fun s => n * s.bps / 10000)).foldl (fun (sum : ℚ) (c : Nat) => plus sum ((c : ℚ) / 10 ^ 0)) sum := by
      intro l hl
      induction l with
      | nil => exact fun _ => rfl
      | cons s l ih =>
        intro sum
        have hwhole := wholeCents_le (n := n) hsum (hl s List.mem_cons_self)
        have hdiv : div ((wholeCents n s.toGateway : ℚ) / 100) (1 / 100) = ((n * s.bps / 10000 : Nat) : ℚ) / 10 ^ 0 := by
          have hexact : (wholeCents n s.toGateway : ℚ) / 100 / (1 / 100) = ((n * s.bps / 10000 : Nat) : Int) / 10 ^ 0 := by
            rw [wholeCents_toGateway]
            ring
          unfold div
          rw [hexact, Decimal.significant_of_digits (by omega)]
          rfl
        rw [List.map_cons, List.foldl_cons, List.map_cons, List.foldl_cons, hdiv]
        exact ih (fun t ht => hl t (List.mem_cons_of_mem _ ht)) _
    have hplus := foldl_plus (splits.map (fun s => n * s.bps / 10000)) 0 (by omega) 0
    rw [Nat.cast_zero, zero_div, pow_zero, div_one, Nat.zero_add] at hplus
    rw [hcents splits (fun _ hs => hs) 0]
    exact hplus
  have hleft : (((n : Int) : ℚ)) - (((splits.map (fun s => n * s.bps / 10000)).sum : Nat) : ℚ) =
      (leftCents n (splits.map RoyaltySplit.toGateway) : ℚ) / 10 ^ 0 := by
    unfold leftCents
    rw [sum_wholeCents_toGateway, Int.cast_sub, Int.cast_natCast, Int.cast_natCast, pow_zero, div_one]
  have hsmall : (leftCents n (splits.map RoyaltySplit.toGateway)).natAbs < 10 ^ 20 := by
    have hnonneg := leftCents_nonneg (n := n) hsum
    unfold leftCents at hnonneg ⊢
    rw [sum_wholeCents_toGateway] at hnonneg ⊢
    omega
  rw [hpool, hfold, truncate_intCast, minus, hleft, Decimal.significant_of_digits hsmall, pow_zero, div_one]

/-! ## The cents left over -/

/-- A cent more for each of the first owners of an ordering. -/
theorem giveCents_ok {ordering : List String} (hnd : ordering.Nodup) {m : List (String × ℚ)}
    (hm : ∀ owner ∈ ordering, ∃ c : Int, (c + 1).natAbs < 10 ^ 20 ∧ getKey m owner = some ((c : ℚ) / 100)) {k : Nat}
    (hk : k ≤ ordering.length) :
    ∃ paid, giveCents k ordering m = .ok paid ∧
      ∀ key, (getKey paid key).getD 0 = (getKey m key).getD 0 + if key ∈ ordering.take k then 1 / 100 else 0 := by
  induction ordering generalizing m k with
  | nil =>
    obtain rfl : k = 0 := Nat.le_zero.1 hk
    exact ⟨m, rfl, fun key => by simp⟩
  | cons owner ordering ih =>
    cases k with
    | zero => exact ⟨m, rfl, fun key => by simp⟩
    | succ k =>
      rw [List.nodup_cons] at hnd
      obtain ⟨c, hc, hvalue⟩ := hm owner List.mem_cons_self
      have hadd : plus ((c : ℚ) / 100) (1 / 100) = (c : ℚ) / 100 + 1 / 100 := by
        have hcents : (c : ℚ) / 100 + 1 / 100 = ((c + 1 : Int) : ℚ) / 10 ^ 2 := by
          push_cast
          ring
        rw [plus, hcents, Decimal.significant_of_digits hc]
      have hlater : ∀ o ∈ ordering, ∃ c' : Int, (c' + 1).natAbs < 10 ^ 20 ∧
          getKey (setKey m owner ((c : ℚ) / 100 + 1 / 100)) o = some ((c' : ℚ) / 100) := by
        intro o ho
        have hne : owner ≠ o := by
          rintro rfl
          exact hnd.1 ho
        rw [getKey_setKey, if_neg hne]
        exact hm o (List.mem_cons_of_mem _ ho)
      obtain ⟨paid, hpaid, hget⟩ := ih hnd.2 hlater (Nat.le_of_succ_le_succ hk)
      refine ⟨paid, ?_, fun key => ?_⟩
      · rw [giveCents, hvalue]
        dsimp only
        rw [hadd]
        exact hpaid
      · rw [hget, getKey_setKey, List.take_succ_cons]
        by_cases hkey : owner = key
        · subst hkey
          have hnot : owner ∉ ordering.take k := fun h => hnd.1 (List.mem_of_mem_take h)
          rw [if_pos rfl, if_neg hnot, if_pos List.mem_cons_self, hvalue]
          simp
        · rw [if_neg hkey]
          congr 1
          simp [Ne.symm hkey]

theorem inOrder_perm (n : Nat) (splits : List RoyaltySplit) : (inOrder n splits).Perm (splits.map (·.ownerId)) :=
  List.perm_insertionSort _ _

/-- There are not more cents left over than owners. -/
theorem left_le_inOrder (hsum : (splits.map (·.bps)).sum = 10000) :
    (leftCents n (splits.map RoyaltySplit.toGateway)).toNat ≤ (inOrder n splits).length := by
  have hle := RoyaltyGateway.leftCents_le (n := n) (sum_bps_toGateway hsum)
  rw [(inOrder_perm n splits).length_eq, List.length_map]
  rw [List.length_map] at hle
  omega

/-- What `distributeSplits` pays. -/
theorem distributeSplits_paid (hnd : (splits.map (·.ownerId)).Nodup) (hw : WithinDigits n splits)
    (hsum : (splits.map (·.bps)).sum = 10000) :
    distributeSplits (n / 100) splits = .ok (splits.map (fun s => ⟨s.ownerId, (paidCents n splits s : ℚ) / 100⟩)) := by
  have hfloored : byOwner (fun s => toCentsDown (rawShare (n / 100) s)) splits =
      splits.map (fun s => (s.ownerId, (wholeCents n s.toGateway : ℚ) / 100)) := by
    refine (foldl_setKey hnd _).trans (List.map_congr_left fun s hs => ?_)
    rw [toCentsDown_units hw hs]
  have hrests : byOwner (fun s => minus (rawShare (n / 100) s) (toCentsDown (rawShare (n / 100) s))) splits = restsByOwner n splits := by
    refine (foldl_setKey hnd _).trans (List.map_congr_left fun s hs => ?_)
    rw [minus_rest hw hs]
  have hbps : byOwner (·.bps) splits = splits.map (fun s => (s.ownerId, s.bps)) := foldl_setKey hnd _
  have hfind : ∀ s ∈ splits, getKey (splits.map (fun s => (s.ownerId, (wholeCents n s.toGateway : ℚ) / 100))) s.ownerId =
      some ((wholeCents n s.toGateway : ℚ) / 100) :=
    fun s hs => getKey_map hnd (fun s => (wholeCents n s.toGateway : ℚ) / 100) hs
  have hsums := hw.sums
  obtain ⟨paid, hpaid, hget⟩ := giveCents_ok (m := splits.map (fun s => (s.ownerId, (wholeCents n s.toGateway : ℚ) / 100)))
    ((inOrder_perm n splits).nodup_iff.2 hnd) (fun owner howner => by
      obtain ⟨s, hs, rfl⟩ := List.mem_map.1 ((inOrder_perm n splits).mem_iff.1 howner)
      have hwhole := wholeCents_le (n := n) hsum hs
      have hlen := List.length_pos_of_mem hs
      refine ⟨wholeCents n s.toGateway, ?_, hfind s hs⟩
      rw [wholeCents_toGateway]
      omega) (left_le_inOrder hsum)
  have hceil : ⌈(leftCents n (splits.map RoyaltySplit.toGateway) : ℚ)⌉.toNat =
      (leftCents n (splits.map RoyaltySplit.toGateway)).toNat := by rw [Int.ceil_intCast]
  unfold distributeSplits
  dsimp only
  rw [if_neg (not_not.2 hsum), hfloored, hrests, hbps, leftover_eq hw hsum, hceil]
  change (do
    let paid ← giveCents _ (inOrder n splits) _
    _) = _
  rw [hpaid]
  refine congrArg Except.ok (List.map_congr_left fun s hs => ?_)
  have hcents := hget s.ownerId
  rw [hfind s hs] at hcents
  rw [hcents]
  congr 1
  unfold paidCents centMore
  push_cast
  split <;> simp [add_div]

/-! ## The balance -/

theorem centMore_nodup (hnd : (splits.map (·.ownerId)).Nodup) : (centMore n splits).Nodup :=
  ((inOrder_perm n splits).nodup_iff.2 hnd).sublist (List.take_sublist _ _)

theorem centMore_owner {owner : String} (h : owner ∈ centMore n splits) : owner ∈ splits.map (·.ownerId) :=
  (inOrder_perm n splits).subset (List.mem_of_mem_take h)

/-- The cents a split is paid, as a natural number. -/
theorem paidCents_eq (n : Nat) (splits : List RoyaltySplit) (s : RoyaltySplit) :
    paidCents n splits s = ((n * s.bps / 10000 + if s.ownerId ∈ centMore n splits then 1 else 0 : Nat) : Int) := by
  unfold paidCents
  rw [wholeCents_toGateway]
  push_cast
  split <;> rfl

/-- What is paid together is the pool. -/
theorem sum_paidCents (hnd : (splits.map (·.ownerId)).Nodup) (hsum : (splits.map (·.bps)).sum = 10000) :
    (splits.map (paidCents n splits)).sum = n := by
  have hgiven : (splits.map (fun s => if s.ownerId ∈ centMore n splits then (1 : Int) else 0)).sum = (centMore n splits).length :=
    Apportion.sum_given hnd (centMore_nodup hnd) (fun _ hk => centMore_owner hk)
  have hlength : ((centMore n splits).length : Int) = leftCents n (splits.map RoyaltySplit.toGateway) := by
    have hnonneg := leftCents_nonneg (n := n) hsum
    have hle := left_le_inOrder (n := n) hsum
    unfold centMore
    rw [List.length_take]
    omega
  have hparts : (splits.map (paidCents n splits)).sum = (splits.map (fun s => wholeCents n s.toGateway)).sum +
      (splits.map (fun s => if s.ownerId ∈ centMore n splits then (1 : Int) else 0)).sum := by
    rw [← List.sum_map_add]
    rfl
  have hwhole : (splits.map (fun s => wholeCents n s.toGateway)) = (splits.map RoyaltySplit.toGateway).map (wholeCents n) := by
    rw [List.map_map]
    rfl
  rw [hparts, hgiven, hlength, hwhole]
  unfold leftCents
  omega

/-- `computeRoyalty` pays these cents. -/
theorem computeRoyalty_paid (hnd : (splits.map (·.ownerId)).Nodup) (hw : WithinDigits n splits)
    (hsum : (splits.map (·.bps)).sum = 10000) {gross : ℚ} (hgross : roundHalfUp (gross * 100) = n) :
    computeRoyalty gross splits = .ok (splits.map (fun s => ⟨s.ownerId, (paidCents n splits s : ℚ) / 100⟩)) := by
  have hpool : toCents gross = (n : ℚ) / 100 := by
    unfold toCents
    rw [hgross]
    push_cast
    rfl
  have htotal : (splits.map (fun s => (⟨s.ownerId, (paidCents n splits s : ℚ) / 100⟩ : Payout))).foldl
      (fun sum p => plus sum p.amount) 0 = (n : ℚ) / 100 := by
    have hpaid : splits.map (paidCents n splits) = (splits.map (fun s =>
        n * s.bps / 10000 + if s.ownerId ∈ centMore n splits then 1 else 0)).map (fun c : Nat => (c : Int)) := by
      rw [List.map_map]
      exact List.map_congr_left fun s _ => paidCents_eq n splits s
    have hsums : (splits.map (fun s => n * s.bps / 10000 + if s.ownerId ∈ centMore n splits then 1 else 0)).sum = n := by
      have hcast := sum_paidCents (n := n) hnd hsum
      have hsumCast : ∀ l : List Nat, (l.map (fun c : Nat => (c : Int))).sum = (l.sum : Nat) := by
        intro l
        induction l with
        | nil => rfl
        | cons c l ih =>
          rw [List.map_cons, List.sum_cons, ih, List.sum_cons]
          push_cast
          rfl
      rw [hpaid, hsumCast] at hcast
      exact_mod_cast hcast
    have hplus := foldl_plus (splits.map (fun s => n * s.bps / 10000 + if s.ownerId ∈ centMore n splits then 1 else 0)) 0
      (by have := hw.sums; omega) 2
    rw [hsums, Nat.cast_zero, zero_div, Nat.zero_add, List.foldl_map] at hplus
    rw [List.foldl_map]
    refine Eq.trans ?_ (hplus.trans (by norm_num))
    refine congrArg (fun f => splits.foldl f 0) (funext fun sum => funext fun s => ?_)
    rw [paidCents_eq, Int.cast_natCast]
    norm_num
  unfold computeRoyalty
  dsimp only
  rw [hpool, distributeSplits_paid hnd hw hsum]
  change (if _ ≠ _ then _ else _) = _
  rw [htotal, if_neg (not_not.2 rfl)]

/-! ## The order -/

/-- Owners with the same part compare alike by code points and by UTF-16 code units. -/
def SameOrder (splits : List RoyaltySplit) : Prop :=
  ∀ s ∈ splits, ∀ t ∈ splits, s.bps = t.bps → textLess t.ownerId s.ownerId = !RoyaltyGateway.textAtMost s.ownerId t.ownerId

/-- Ids without characters beyond the first 65536 compare alike. -/
theorem sameOrder_of_lt (h : ∀ s ∈ splits, ∀ c ∈ s.ownerId.toList, c.toNat < 0x10000) : SameOrder splits := by
  have hunits : ∀ s ∈ splits, utf16 s.ownerId = s.ownerId.toList.map Char.toNat := by
    intro s hs
    have hchars : ∀ l : List Char, (∀ c ∈ l, c.toNat < 0x10000) → l.flatMap (fun c =>
        if c.toNat < 0x10000 then [c.toNat]
        else [0xd800 + (c.toNat - 0x10000) / 0x400, 0xdc00 + (c.toNat - 0x10000) % 0x400]) = l.map Char.toNat := by
      intro l hl
      induction l with
      | nil => rfl
      | cons c l ih =>
        rw [List.flatMap_cons, if_pos (hl c List.mem_cons_self), ih (fun d hd => hl d (List.mem_cons_of_mem _ hd))]
        rfl
    exact hchars _ (h s hs)
  intro s hs t ht _
  unfold textLess RoyaltyGateway.textAtMost
  rw [hunits s hs, hunits t ht, ← decide_not]
  exact decide_eq_decide.2 not_le.symm

/-- The two services sort such owners alike. -/
theorem inOrder_toGateway (hnd : (splits.map (·.ownerId)).Nodup) (horder : SameOrder splits) :
    inOrder n splits = RoyaltyGateway.inOrder n (splits.map RoyaltySplit.toGateway) := by
  have hrests : RoyaltyGateway.restsByOwner n (splits.map RoyaltySplit.toGateway) = restsByOwner n splits := by
    unfold RoyaltyGateway.restsByOwner restsByOwner
    rw [List.map_map]
    rfl
  have hbps : RoyaltyGateway.Exact.bpsByOwner (splits.map RoyaltySplit.toGateway) =
      splits.map (fun s => (s.ownerId, (s.bps : Int))) := by
    unfold RoyaltyGateway.Exact.bpsByOwner
    rw [List.map_map]
    rfl
  have hsame : ∀ a ∈ splits.map (·.ownerId), ∀ b ∈ splits.map (·.ownerId),
      (notAfter (restsByOwner n splits) (splits.map (fun s => (s.ownerId, s.bps))) a b = true ↔
        RoyaltyGateway.notAfter (restsByOwner n splits) (splits.map (fun s => (s.ownerId, (s.bps : Int)))) a b = true) := by
    intro a ha b hb
    obtain ⟨s, hs, rfl⟩ := List.mem_map.1 ha
    obtain ⟨t, ht, rfl⟩ := List.mem_map.1 hb
    unfold notAfter RoyaltyGateway.notAfter
    dsimp only
    simp only [getKey_map hnd (·.bps) hs, getKey_map hnd (·.bps) ht, getKey_map hnd (fun s => (s.bps : Int)) hs,
      getKey_map hnd (fun s => (s.bps : Int)) ht, Option.getD_some, Nat.cast_lt, Nat.cast_inj]
    by_cases heq : t.bps = s.bps
    · rw [horder s hs t ht heq.symm, Bool.not_not]
    · rw [decide_eq_false heq, Bool.false_and, Bool.false_and]
  unfold inOrder RoyaltyGateway.inOrder
  rw [hrests, hbps, owners_toGateway]
  have hmap := List.map_insertionSort
    (r := fun a b => notAfter (restsByOwner n splits) (splits.map (fun s => (s.ownerId, s.bps))) a b = true)
    (s := fun a b => RoyaltyGateway.notAfter (restsByOwner n splits) (splits.map (fun s => (s.ownerId, (s.bps : Int)))) a b = true)
    id (splits.map (·.ownerId)) hsame
  rw [List.map_id, List.map_id] at hmap
  exact hmap

end Royalty

end Archisynapse
