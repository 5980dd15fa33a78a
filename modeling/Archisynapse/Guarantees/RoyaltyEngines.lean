import Archisynapse.Lemmas.RoyaltyEngines
import Archisynapse.Guarantees.RoyaltyGatewayMoney

/-!
# The two money engines

The gateway and the transaction service compute the payouts of an amount each for itself. Where no digit is lost and no owner is
repeated they agree exactly on the amounts that are not an even number of cents and a half, as long as their orders of the owners
put the same ones first (`engines_agree_iff`).
-/

namespace Archisynapse

namespace Royalty

open RoyaltyGateway (poolCents)

/-- Both engines fail, or both pay the same to every owner in the same order. -/
def Agree (value : Nat) (splits : List RoyaltySplit) : Prop :=
  (∃ payouts, computeRoyalty ((value : ℚ) / 10000) splits = .ok payouts ∧
    RoyaltyGateway.computeRoyalty ((value : ℚ) / 10000) (splits.map RoyaltySplit.toGateway) =
      .ok (payouts.map (fun p => (p.ownerId, p.amount)))) ∨
  ∃ e e', computeRoyalty ((value : ℚ) / 10000) splits = .error e ∧
    RoyaltyGateway.computeRoyalty ((value : ℚ) / 10000) (splits.map RoyaltySplit.toGateway) = .error e'

/-- The agreement, computed. -/
def agrees (value : Nat) (splits : List RoyaltySplit) : Bool :=
  match computeRoyalty ((value : ℚ) / 10000) splits,
    RoyaltyGateway.computeRoyalty ((value : ℚ) / 10000) (splits.map RoyaltySplit.toGateway) with
  | .ok payouts, .ok payouts' => decide (payouts.map (fun p => (p.ownerId, p.amount)) = payouts')
  | .error _, .error _ => true
  | _, _ => false

theorem agrees_iff {value : Nat} {splits : List RoyaltySplit} : agrees value splits = true ↔ Agree value splits := by
  unfold agrees Agree
  cases computeRoyalty ((value : ℚ) / 10000) splits with
  | ok payouts =>
    cases RoyaltyGateway.computeRoyalty ((value : ℚ) / 10000) (splits.map RoyaltySplit.toGateway) with
    | ok payouts' => simp [eq_comm]
    | error e' => simp
  | error e =>
    cases RoyaltyGateway.computeRoyalty ((value : ℚ) / 10000) (splits.map RoyaltySplit.toGateway) with
    | ok payouts' => simp
    | error e' => simp

instance (value : Nat) (splits : List RoyaltySplit) : Decidable (Agree value splits) := decidable_of_iff _ agrees_iff

/-- An even number of cents and a half: the gateway rounds it down, the transaction service up. -/
def HalfCent (value : Nat) : Prop := value % 100 = 50 ∧ value / 100 % 2 = 0

instance (value : Nat) : Decidable (HalfCent value) := by
  unfold HalfCent
  infer_instance

/-- The cents of an amount, as the transaction service rounds it. -/
def roundedCents (value : Nat) : Nat := if value % 100 < 50 then value / 100 else value / 100 + 1

/-- The cents left over go to the same owners in both orders. -/
def SameFirst (n : Nat) (splits : List RoyaltySplit) : Prop :=
  ∀ s ∈ splits, s.ownerId ∈ centMore n splits ↔ s.ownerId ∈ RoyaltyGateway.centMore n (splits.map RoyaltySplit.toGateway)

/-! ## Rounding the amount -/

theorem value_cents (value : Nat) : (value : ℚ) / 10000 * 100 = ((value : Int) : ℚ) / (100 : Nat) := by
  push_cast
  ring

theorem roundHalfUp_value (value : Nat) : roundHalfUp ((value : ℚ) / 10000 * 100) = roundedCents value := by
  have hnonneg : (0 : ℚ) ≤ (value : ℚ) / 10000 * 100 := by positivity
  have hhalf : (value : ℚ) / 10000 * 100 + 1 / 2 = ((value + 50 : Int) : ℚ) / (100 : Nat) := by
    push_cast
    ring
  unfold roundHalfUp roundedCents
  rw [if_pos hnonneg, hhalf, Rat.floor_intCast_div_natCast]
  split <;> push_cast <;> omega

theorem roundHalfEven_value (value : Nat) : roundHalfEven ((value : ℚ) / 10000 * 100) =
    ((if HalfCent value then value / 100 else roundedCents value : Nat) : Int) := by
  have hfloor : ⌊(value : ℚ) / 10000 * 100⌋ = (value / 100 : Nat) := by
    rw [value_cents, Rat.floor_intCast_div_natCast]
    rfl
  have hrest : (value : ℚ) / 10000 * 100 - ((value / 100 : Nat) : Int) = ((value % 100 : Nat) : ℚ) / 100 := by
    have hsplit : (value : ℚ) = ((100 * (value / 100) + value % 100 : Nat) : ℚ) := by rw [Nat.div_add_mod]
    have hcast : (((value / 100 : Nat) : Int) : ℚ) = ((value / 100 : Nat) : ℚ) := rfl
    rw [hcast]
    conv_lhs => rw [hsplit]
    push_cast
    ring
  have hless : ((value % 100 : Nat) : ℚ) / 100 < 1 / 2 ↔ value % 100 < 50 := by
    rw [div_lt_iff₀ (by norm_num), show (1 / 2 * 100 : ℚ) = ((50 : Nat) : ℚ) by norm_num, Nat.cast_lt]
  have hequal : ((value % 100 : Nat) : ℚ) / 100 = 1 / 2 ↔ value % 100 = 50 := by
    rw [div_eq_iff (by norm_num), show (1 / 2 * 100 : ℚ) = ((50 : Nat) : ℚ) by norm_num, Nat.cast_inj]
  unfold roundHalfEven
  dsimp only
  rw [hfloor, hrest]
  simp only [hless, hequal]
  unfold roundedCents
  by_cases hhalf : HalfCent value
  · rw [if_pos hhalf]
    unfold HalfCent at hhalf
    rw [if_pos (by omega)]
  · rw [if_neg hhalf]
    unfold HalfCent at hhalf
    by_cases hdown : value % 100 < 50
    · rw [if_pos (Or.inl hdown), if_pos hdown]
    · rw [if_neg (by omega), if_neg hdown]
      push_cast
      rfl

/-- The gateway's cents are those of the transaction service, or one less at half a cent. -/
theorem poolCents_value (value : Nat) : poolCents value = if HalfCent value then value / 100 else roundedCents value := by
  unfold poolCents
  rw [roundHalfEven_value]
  split
  · exact Int.toNat_natCast _
  · exact Int.toNat_natCast _

/-! ## Agreement -/

variable {value : Nat} {splits : List RoyaltySplit}

/-- Splits whose parts do not make up 10000 fail in both. -/
theorem agree_of_sum (hsum : (splits.map (·.bps)).sum ≠ 10000) : Agree value splits := by
  have hservice : ∀ pool : ℚ, ∃ e, distributeSplits pool splits = .error e := by
    intro pool
    unfold distributeSplits
    dsimp only
    rw [if_pos hsum]
    exact ⟨_, rfl⟩
  have hgateway : ∀ pool : ℚ, ∃ e, RoyaltyGateway.distributeSplits pool (splits.map RoyaltySplit.toGateway) = .error e := by
    intro pool
    unfold RoyaltyGateway.distributeSplits
    dsimp only
    rw [sum_bps_cast, if_pos (by exact_mod_cast hsum)]
    exact ⟨_, rfl⟩
  obtain ⟨e, he⟩ := hservice (toCents ((value : ℚ) / 10000))
  refine Or.inr ⟨e, ?_⟩
  have hthrows : computeRoyalty ((value : ℚ) / 10000) splits = .error e := by
    unfold computeRoyalty
    dsimp only
    rw [he]
    rfl
  unfold RoyaltyGateway.computeRoyalty
  cases hpool : RoyaltyGateway.quantizeCent ((value : ℚ) / 10000) with
  | error e' => exact ⟨e', hthrows, rfl⟩
  | ok pool =>
    obtain ⟨e', he'⟩ := hgateway pool
    refine ⟨e', hthrows, ?_⟩
    change (do
      let payouts ← RoyaltyGateway.distributeSplits pool (splits.map RoyaltySplit.toGateway)
      _) = _
    rw [he']
    rfl

/-- A pool that loses no digit here loses none in the gateway. -/
theorem gateway_withinDigits {n m : Nat} (hw : WithinDigits n splits) (hm : m ≤ n) (hsum : (splits.map (·.bps)).sum = 10000) :
    RoyaltyGateway.WithinDigits m (splits.map RoyaltySplit.toGateway) := by
  have habs : (splits.map RoyaltySplit.toGateway).map (fun s => |s.bps|) = (splits.map RoyaltySplit.toGateway).map (·.bps) := by
    rw [List.map_map, List.map_map]
    exact List.map_congr_left fun s _ => abs_of_nonneg (Int.natCast_nonneg s.bps)
  have hsums := hw.sums
  unfold RoyaltyGateway.WithinDigits
  rw [habs, sum_bps_toGateway hsum, List.length_map]
  omega

/-- What the gateway pays for such splits. -/
theorem gateway_paid {n : Nat} (hnd : (splits.map (·.ownerId)).Nodup) (hsum : (splits.map (·.bps)).sum = 10000)
    (hw : RoyaltyGateway.WithinDigits n (splits.map RoyaltySplit.toGateway)) (hn : n < 10 ^ 28) {gross : ℚ}
    (hgross : roundHalfEven (gross * 100) = n) :
    RoyaltyGateway.computeRoyalty gross (splits.map RoyaltySplit.toGateway) =
      .ok (splits.map (fun s => (s.ownerId, (RoyaltyGateway.paidCents n (splits.map RoyaltySplit.toGateway) s.toGateway : ℚ) / 100))) ∧
    (splits.map (fun s => RoyaltyGateway.paidCents n (splits.map RoyaltySplit.toGateway) s.toGateway)).sum = n := by
  have hnd' : ((splits.map RoyaltySplit.toGateway).map (·.ownerId)).Nodup := by
    rw [owners_toGateway]
    exact hnd
  have hsum' := sum_bps_toGateway hsum
  have htotal := RoyaltyGateway.sum_paidCents (n := n) hnd'
  have hlength := RoyaltyGateway.length_centMore (n := n) hsum' (leftCents_nonneg hsum)
  have hpaid : ((splits.map RoyaltySplit.toGateway).map (RoyaltyGateway.paidCents n (splits.map RoyaltySplit.toGateway))).sum = n := by
    unfold RoyaltyGateway.leftCents at hlength
    omega
  have hpays := (RoyaltyGateway.computeRoyalty_paid hnd' hw hn hsum' hgross).1 hpaid
  rw [List.map_map] at hpays hpaid
  exact ⟨hpays, hpaid⟩

/-- With distinct owners, and where no digit is lost, the engines agree exactly if the amount is not an even number of cents and a
half and both orders put the same owners first. -/
theorem agree_iff (hsum : (splits.map (·.bps)).sum = 10000) (hnd : (splits.map (·.ownerId)).Nodup)
    (hw : WithinDigits (roundedCents value) splits) :
    Agree value splits ↔ ¬HalfCent value ∧ SameFirst (roundedCents value) splits := by
  have hservice := computeRoyalty_paid hnd hw hsum (roundHalfUp_value value)
  have hle : poolCents value ≤ roundedCents value := by
    rw [poolCents_value]
    unfold roundedCents
    split <;> split <;> omega
  have hsums := hw.sums
  obtain ⟨hgateway, hgatewaySum⟩ := gateway_paid hnd hsum (gateway_withinDigits hw hle hsum) (by omega)
    (RoyaltyGateway.roundHalfEven_pool value)
  have hagree : Agree value splits ↔ ∀ s ∈ splits, paidCents (roundedCents value) splits s =
      RoyaltyGateway.paidCents (poolCents value) (splits.map RoyaltySplit.toGateway) s.toGateway := by
    have hcents : ∀ a b : Int, (a : ℚ) / 100 = (b : ℚ) / 100 ↔ a = b := by
      intro a b
      rw [div_left_inj' (by norm_num), Int.cast_inj]
    constructor
    · rintro (⟨payouts, hpaid, hpaid'⟩ | ⟨e, e', he, -⟩)
      · rw [hservice] at hpaid
        rw [hgateway] at hpaid'
        obtain rfl := Except.ok.inj hpaid
        rw [List.map_map] at hpaid'
        intro s hs
        have hpair := List.map_inj_left.1 (Except.ok.inj hpaid') s hs
        exact ((hcents _ _).1 (Prod.ext_iff.1 hpair).2).symm
      · rw [hservice] at he
        cases he
    · intro h
      refine Or.inl ⟨_, hservice, hgateway.trans (congrArg Except.ok ?_)⟩
      rw [List.map_map]
      exact List.map_congr_left fun s hs => Prod.ext rfl ((hcents _ _).2 (h s hs).symm)
  rw [hagree]
  by_cases hhalf : HalfCent value
  · -- the pools differ by a cent, and each engine pays its own
    refine ⟨fun h => ?_, fun h => absurd hhalf h.1⟩
    have hserviceSum := sum_paidCents (n := roundedCents value) hnd hsum
    rw [List.map_congr_left h, hgatewaySum, poolCents_value, if_pos hhalf] at hserviceSum
    unfold HalfCent at hhalf
    unfold roundedCents at hserviceSum
    rw [if_neg (by omega)] at hserviceSum
    omega
  · rw [poolCents_value, if_neg hhalf, and_iff_right hhalf]
    refine forall₂_congr (fun s _ => ?_)
    unfold paidCents RoyaltyGateway.paidCents
    rw [Int.add_right_inj]
    change (if _ then (1 : Int) else 0) = (if s.ownerId ∈ _ then 1 else 0) ↔ _
    by_cases hmore : s.ownerId ∈ centMore (roundedCents value) splits <;>
      by_cases hmore' : s.ownerId ∈ RoyaltyGateway.centMore (roundedCents value) (splits.map RoyaltySplit.toGateway) <;>
      simp [hmore, hmore']

/-- Where owners with the same part compare alike, both orders put the same owners first. -/
theorem sameFirst_of_order {n : Nat} (hsum : (splits.map (·.bps)).sum = 10000) (hnd : (splits.map (·.ownerId)).Nodup)
    (horder : SameOrder splits) : SameFirst n splits := by
  have hslice : RoyaltyGateway.centMore n (splits.map RoyaltySplit.toGateway) = centMore n splits := by
    unfold RoyaltyGateway.centMore centMore RoyaltyGateway.slice
    rw [if_pos (leftCents_nonneg hsum), inOrder_toGateway hnd horder]
  intro s _
  rw [hslice]

end Royalty

end Archisynapse
