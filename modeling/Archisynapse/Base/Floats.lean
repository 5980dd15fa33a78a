import Archisynapse.Base.Values

/-!
# Floats

The 64-bit floats of IEEE 754 as the rational numbers they stand for. A result of float arithmetic is the float nearest to the
exact one (`binary64`), or none where that is too large to be a float.
-/

namespace Archisynapse

/-- The unit in the last place of the float nearest to a number. -/
def binary64Unit (q : ℚ) : ℚ := 2 ^ max (Int.log 2 q - 52) (-1074)

/-- The 64-bit float nearest to a number that is not negative, halves to the even one. -/
def binary64 (q : ℚ) : Option ℚ :=
  let value := roundHalfEven (q / binary64Unit q) * binary64Unit q
  if value < 2 ^ 1024 then some value else none

/-- Rounding adds less than one. -/
theorem roundHalfEven_le (q : ℚ) : (roundHalfEven q : ℚ) ≤ q + 1 := by
  have hfloor : (⌊q⌋ : ℚ) ≤ q := Int.floor_le q
  unfold roundHalfEven
  dsimp only
  split
  · linarith
  · push_cast
    linarith

theorem binary64Unit_pos (q : ℚ) : 0 < binary64Unit q := zpow_pos (by norm_num) _

/-- The unit of a number is at most the number, or at most one. -/
theorem binary64Unit_lt {q : ℚ} (h0 : 0 ≤ q) (h : q < 2 ^ 1023) : binary64Unit q < 2 ^ 1023 := by
  have hone : ∀ n : Int, n ≤ 0 → (2 : ℚ) ^ n < 2 ^ 1023 := by
    intro n hn
    calc (2 : ℚ) ^ n ≤ 2 ^ (0 : Int) := zpow_le_zpow_right₀ (by norm_num) hn
      _ = 1 := zpow_zero 2
      _ < 2 ^ 1023 := one_lt_pow₀ (by norm_num) (by omega)
  unfold binary64Unit
  rcases max_cases (Int.log 2 q - 52) (-1074) with ⟨hmax, -⟩ | ⟨hmax, -⟩
  · rw [hmax]
    rcases h0.lt_or_eq with hpos | rfl
    · calc (2 : ℚ) ^ (Int.log 2 q - 52) ≤ 2 ^ Int.log 2 q := zpow_le_zpow_right₀ (by norm_num) (by omega)
        _ ≤ q := by exact_mod_cast Int.zpow_log_le_self (by norm_num) hpos
        _ < 2 ^ 1023 := h
    · rw [Int.log_zero_right]
      exact hone _ (by omega)
  · rw [hmax]
    exact hone _ (by omega)

/-- A number below half of the greatest float has a float. -/
theorem binary64_isSome {q : ℚ} (h0 : 0 ≤ q) (h : q < 2 ^ 1023) : (binary64 q).isSome := by
  have hunit := binary64Unit_lt h0 h
  have hround : (roundHalfEven (q / binary64Unit q) : ℚ) * binary64Unit q ≤ q + binary64Unit q := by
    have hpos := binary64Unit_pos q
    calc (roundHalfEven (q / binary64Unit q) : ℚ) * binary64Unit q
        ≤ (q / binary64Unit q + 1) * binary64Unit q := mul_le_mul_of_nonneg_right (roundHalfEven_le _) hpos.le
      _ = q + binary64Unit q := by field_simp
  have hlt : (roundHalfEven (q / binary64Unit q) : ℚ) * binary64Unit q < 2 ^ 1024 := by
    calc (roundHalfEven (q / binary64Unit q) : ℚ) * binary64Unit q ≤ q + binary64Unit q := hround
      _ < 2 ^ 1023 + 2 ^ 1023 := add_lt_add h hunit
      _ = 2 ^ 1024 := by rw [pow_succ (2 : ℚ) 1023, mul_two]
  unfold binary64
  dsimp only
  rw [if_pos hlt]
  rfl

end Archisynapse
