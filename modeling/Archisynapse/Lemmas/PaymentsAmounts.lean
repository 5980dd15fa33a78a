import Archisynapse.Base.Digits
import Archisynapse.Payments.Service

/-!
# Amounts

Rounding where the transaction service rounds: decimal sums (20 digits), cents, and JavaScript numbers. A sum that does not
exceed a stored amount does not exceed it before it is rounded either, and cents that pass `validateMinorAmount` are exact.
-/

namespace Archisynapse

/-- Rounding does not fall below an integer. -/
theorem le_roundHalfUp {z : Int} {q : ℚ} (h : (z : ℚ) ≤ q) : z ≤ roundHalfUp q := by
  unfold roundHalfUp
  split
  · rw [Int.le_floor]
    linarith
  · have hfloor : ⌊-q + 1 / 2⌋ ≤ -z := by
      have hlt : ⌊-q + 1 / 2⌋ < -z + 1 := by
        rw [Int.floor_lt]
        push_cast
        linarith
      omega
    omega

/-- A number of ten-thousandths of at most 20 digits is not rounded. -/
theorem Decimal.significant_exact {n : Int} (h : n.natAbs < 10 ^ 20) : Decimal.significant (n / 10000) = n / 10000 := by
  have hshift : (n / 10000 : ℚ) = n / 10 ^ 4 := by norm_num
  rw [hshift, significant_of_digits h 4]

/-- Rounding to 20 digits does not fall below a number of ten-thousandths of at most 20 digits. -/
theorem Decimal.le_significant {n : Int} {q : ℚ} (hpos : 0 < n) (hn : n ≤ 10 ^ 19) (h : (n / 10000 : ℚ) ≤ q) :
    (n / 10000 : ℚ) ≤ Decimal.significant q := by
  have hnq : (0 : ℚ) < n := by exact_mod_cast hpos
  have hq : 0 < q := lt_of_lt_of_le (by positivity) h
  unfold Decimal.significant
  rw [if_neg hq.ne']
  dsimp only
  rw [abs_of_pos hq]
  generalize hL : Int.log 10 q = L
  have hscale : (0 : ℚ) < 10 ^ ((Decimal.precision : Int) - 1 - L) := zpow_pos (by norm_num) _
  rw [le_div_iff₀ hscale]
  by_cases hsmall : L ≤ 15
  · -- the ten-thousandths are a whole number of the last digit kept
    obtain ⟨k, hk⟩ : ∃ k : ℕ, (Decimal.precision : Int) - 1 - L = 4 + k := ⟨(15 - L).toNat, by simp [Decimal.precision]; omega⟩
    have hten : (10 : ℚ) ^ ((Decimal.precision : Int) - 1 - L) = 10000 * 10 ^ k := by
      rw [hk, zpow_add₀ (by norm_num), zpow_natCast]
      norm_num
    have hz : ((n * 10 ^ k : Int) : ℚ) = n / 10000 * 10 ^ ((Decimal.precision : Int) - 1 - L) := by
      rw [hten]
      push_cast
      ring
    have hround : n * 10 ^ k ≤ roundHalfUp (q * 10 ^ ((Decimal.precision : Int) - 1 - L)) := by
      refine le_roundHalfUp ?_
      rw [hz]
      exact mul_le_mul_of_nonneg_right h hscale.le
    rw [← hz]
    exact Int.cast_le.2 hround
  · -- the number is less than the power of ten below `q`
    have hlog : (10 : ℚ) ^ L ≤ q := by
      rw [← hL]
      exact Int.zpow_log_le_self (by norm_num) hq
    have hsplit : (10 : ℚ) ^ L * 10 ^ ((Decimal.precision : Int) - 1 - L) = 10 ^ 19 := by
      rw [← zpow_add₀ (by norm_num)]
      have : L + ((Decimal.precision : Int) - 1 - L) = (19 : ℕ) := by simp [Decimal.precision]
      rw [this, zpow_natCast]
    have hround : (10 ^ 19 : Int) ≤ roundHalfUp (q * 10 ^ ((Decimal.precision : Int) - 1 - L)) := by
      refine le_roundHalfUp ?_
      rw [Int.cast_pow, Int.cast_ofNat, ← hsplit]
      exact mul_le_mul_of_nonneg_right hlog hscale.le
    have hbig : (n / 10000 : ℚ) ≤ 10 ^ L := by
      have hn' : (n : ℚ) ≤ 10 ^ 19 := by exact_mod_cast hn
      have h16 : (10 : ℚ) ^ (16 : Int) ≤ 10 ^ L := zpow_le_zpow_right₀ (by norm_num) (by omega)
      have : (10 : ℚ) ^ (16 : Int) = 10 ^ 16 := by norm_cast
      rw [this] at h16
      linarith
    calc (n / 10000 : ℚ) * 10 ^ ((Decimal.precision : Int) - 1 - L)
        ≤ 10 ^ L * 10 ^ ((Decimal.precision : Int) - 1 - L) := mul_le_mul_of_nonneg_right hbig hscale.le
      _ = ((10 ^ 19 : Int) : ℚ) := by
        rw [hsplit]
        norm_cast
      _ ≤ _ := Int.cast_le.2 hround

/-- A sum that a stored amount is not exceeded by is, in whole ten-thousandths, no more than the amount. -/
theorem Decimal.le_of_not_greaterThan {total amount m : Int} {q : ℚ} (hpos : 0 < amount) (hlt : amount < 10 ^ 19)
    (h : ((Decimal.ofNumeric total).plus (.fin q)).greaterThan (.ofNumeric amount) = false) (hm : (m : ℚ) ≤ total + q * 10000) :
    m ≤ amount := by
  by_contra hgt
  have hle : ((amount + 1 : Int) / 10000 : ℚ) ≤ total / 10000 + q := by
    have hm' : ((amount + 1 : Int) : ℚ) ≤ m := by exact_mod_cast (by omega : amount + 1 ≤ m)
    linarith
  have hsig := Decimal.le_significant (by omega) (by omega) hle
  simp only [Decimal.ofNumeric, Decimal.plus, Decimal.greaterThan, decide_eq_false_iff_not, not_lt] at h
  push_cast at hsig
  linarith

/-! ## Numbers -/

theorem double_of_lt {n : Nat} (h : n < 2 ^ 53) : double n = n := by
  unfold double
  rw [if_pos h]

/-- A number that is not safe is not rounded to a safe one. -/
theorem le_double {n : Nat} (h : 2 ^ 53 ≤ n) : 2 ^ 53 ≤ double n := by
  have hlog : 53 ≤ n.log2 := (Nat.le_log2 (by omega)).2 h
  have hself : 2 ^ n.log2 ≤ n := Nat.log2_self_le (by omega)
  have hpow : 2 ^ 52 * 2 ^ (n.log2 - 52) = 2 ^ n.log2 := by
    rw [← pow_add]
    congr 1
    omega
  have hdown : 2 ^ 52 * 2 ^ (n.log2 - 52) ≤ n / 2 ^ (n.log2 - 52) * 2 ^ (n.log2 - 52) := by
    refine Nat.mul_le_mul_right _ ?_
    rw [Nat.le_div_iff_mul_le (by positivity), hpow]
    exact hself
  have h53 : 2 ^ 53 ≤ 2 ^ n.log2 := Nat.pow_le_pow_right (by norm_num) hlog
  unfold double
  rw [if_neg (by omega)]
  dsimp only
  split
  · omega
  · rw [Nat.add_mul]
    omega

namespace Payments

/-- Cents that pass the check of a safe integer are exact. -/
theorem minorUnits_exact {n : Nat} (h : double (double (double (n / 100) * 100) + n % 100) < 2 ^ 53) :
    double (double (double (n / 100) * 100) + n % 100) = n := by
  have hwhole : n / 100 < 2 ^ 53 := by
    by_contra hge
    have h₁ := le_double (Nat.le_of_not_lt hge)
    have h₂ := le_double (n := double (n / 100) * 100) (by omega)
    have h₃ := le_double (n := double (double (n / 100) * 100) + n % 100) (by omega)
    omega
  rw [double_of_lt hwhole] at h ⊢
  have hhundred : n / 100 * 100 < 2 ^ 53 := by
    by_contra hge
    have h₂ := le_double (Nat.le_of_not_lt hge)
    have h₃ := le_double (n := double (n / 100 * 100) + n % 100) (by omega)
    omega
  rw [double_of_lt hhundred] at h ⊢
  have hsum : n / 100 * 100 + n % 100 < 2 ^ 53 := by
    by_contra hge
    have h₃ := le_double (Nat.le_of_not_lt hge)
    omega
  rw [double_of_lt hsum]
  omega

end Payments

end Archisynapse
