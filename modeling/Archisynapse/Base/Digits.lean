import Archisynapse.Base.Values

/-!
# Significant digits

Rounding to a number of significant digits leaves a number with no more digits as it is (`round_digits`), and does not depend on
where the point is (`Decimal.significant_shift`).
-/

namespace Archisynapse

/-- Moving the point moves the logarithm. -/
theorem log_div_pow {q : ℚ} (hq : 0 < q) (j : Nat) : Int.log 10 (q / 10 ^ j) = Int.log 10 q - j := by
  have hten : (10 : ℚ) ≠ 0 := by norm_num
  have hpow : (0 : ℚ) < 10 ^ j := by positivity
  have hdiv : 0 < q / 10 ^ j := div_pos hq hpow
  have hshift : ∀ z : Int, ((10 : ℕ) : ℚ) ^ (z - j) = ((10 : ℕ) : ℚ) ^ z / 10 ^ j := by
    intro z
    push_cast
    rw [zpow_sub₀ hten, zpow_natCast]
  refine le_antisymm ?_ ?_
  · have hlt : q / 10 ^ j < ((10 : ℕ) : ℚ) ^ (Int.log 10 q + 1 - j) := by
      rw [hshift]
      exact div_lt_div_of_pos_right (Int.lt_zpow_succ_log_self (by norm_num) q) hpow
    have hlog := (Int.lt_zpow_iff_log_lt (by norm_num) hdiv).1 hlt
    omega
  · rw [← Int.zpow_le_iff_le_log (by norm_num) hdiv, hshift]
    exact div_le_div_of_nonneg_right (Int.zpow_log_le_self (by norm_num) hq) hpow.le

/-- Rounding at the last of a number of digits keeps a decimal that has no more. -/
theorem round_digits {round : ℚ → Int} (hround : ∀ z : Int, round z = z) {digits : Nat} {k : Int} (hk : k.natAbs < 10 ^ digits)
    (j : Nat) (hne : (k / 10 ^ j : ℚ) ≠ 0) :
    round (k / 10 ^ j * 10 ^ ((digits : Int) - 1 - Int.log 10 |(k / 10 ^ j : ℚ)|)) /
      10 ^ ((digits : Int) - 1 - Int.log 10 |(k / 10 ^ j : ℚ)|) = (k / 10 ^ j : ℚ) := by
  have hten : (10 : ℚ) ≠ 0 := by norm_num
  have hpow : (0 : ℚ) < 10 ^ j := by positivity
  have hk0 : (0 : ℚ) < |(k : ℚ)| := by
    refine abs_pos.2 (fun h => hne ?_)
    rw [h, zero_div]
  have hlog : Int.log 10 |(k / 10 ^ j : ℚ)| < digits - j := by
    rw [abs_div, abs_of_pos hpow, log_div_pow hk0]
    have hlt : |(k : ℚ)| < ((10 : ℕ) : ℚ) ^ (digits : Int) := by
      rw [← Int.cast_abs, Int.abs_eq_natAbs, zpow_natCast]
      exact_mod_cast hk
    have := (Int.lt_zpow_iff_log_lt (by norm_num) hk0).1 hlt
    omega
  obtain ⟨i, hi⟩ : ∃ i : Nat, (digits : Int) - 1 - Int.log 10 |(k / 10 ^ j : ℚ)| = j + i :=
    ⟨((digits : Int) - 1 - Int.log 10 |(k / 10 ^ j : ℚ)| - j).toNat, by omega⟩
  rw [hi]
  -- the last digit that is kept is at most the last one there is
  have hscale : (k / 10 ^ j : ℚ) * 10 ^ ((j : Int) + i) = ((k * 10 ^ i : Int) : ℚ) := by
    rw [zpow_add₀ hten, zpow_natCast, zpow_natCast]
    push_cast
    field_simp
  rw [hscale, hround, ← hscale, mul_div_assoc, div_self (zpow_ne_zero _ hten), mul_one]

namespace Decimal

/-- A decimal of at most 20 digits is not rounded. -/
theorem significant_of_digits {k : Int} (hk : k.natAbs < 10 ^ 20) (j : Nat) : significant (k / 10 ^ j) = k / 10 ^ j := by
  unfold significant
  split
  · rename_i h
    exact h.symm
  · rename_i hne
    exact round_digits roundHalfUp_intCast hk j hne

/-- The digits that are kept do not depend on where the point is. -/
theorem significant_shift (q : ℚ) (j : Nat) : significant (q / 10 ^ j) = significant q / 10 ^ j := by
  have hten : (10 : ℚ) ≠ 0 := by norm_num
  have hpow : (0 : ℚ) < 10 ^ j := by positivity
  unfold significant
  by_cases hq : q = 0
  · rw [hq, zero_div, if_pos rfl, zero_div]
  · rw [if_neg (div_ne_zero hq hpow.ne'), if_neg hq]
    dsimp only
    rw [abs_div, abs_of_pos hpow, log_div_pow (abs_pos.2 hq)]
    have hscale : (10 : ℚ) ^ ((precision : Int) - 1 - (Int.log 10 |q| - j)) =
        10 ^ ((precision : Int) - 1 - Int.log 10 |q|) * 10 ^ j := by
      rw [← zpow_natCast, ← zpow_add₀ hten]
      congr 1
      ring
    have harg : q / 10 ^ j * (10 ^ ((precision : Int) - 1 - Int.log 10 |q|) * 10 ^ j) =
        q * 10 ^ ((precision : Int) - 1 - Int.log 10 |q|) := by
      field_simp
    rw [hscale, harg, div_div]

end Decimal

end Archisynapse
