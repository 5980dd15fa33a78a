import Archisynapse.Base.Floats
import Archisynapse.TokenSpend.Types

/-!
# The cost of a call

`calculate_cost` of token_rates.py, on token counts and rates that are not negative: the numerator is an exact integer, its
quotient a float, and the cost the next integer. A quotient that is too large to be a float raises.
-/

namespace Archisynapse

namespace TokenSpend

/-- The cost of the tokens in millionths of a micro-dollar. -/
def costNumerator (rate : RateCard) (tokens : Tokens) : Int :=
  tokens.input * rate.inputMicrousdPerMillion + tokens.output * rate.outputMicrousdPerMillion +
    tokens.cachedInput * rate.cachedInputMicrousdPerMillion + tokens.reasoning * rate.reasoningMicrousdPerMillion

/-- `calculate_cost` -/
def calculateCost (rate : RateCard) (tokens : Tokens) : Option Nat :=
  (binary64 (costNumerator rate tokens / 1000000)).map (fun cost => ⌈cost⌉.toNat)

/-- An integer that SQLite stores. -/
def Stored (n : Int) : Prop := -2 ^ 63 ≤ n ∧ n < 2 ^ 63

/-- A rate card as the table holds it: its rates are integers that are not negative. -/
def RateCard.Stored (c : RateCard) : Prop :=
  ∀ n ∈ [c.inputMicrousdPerMillion, c.outputMicrousdPerMillion, c.cachedInputMicrousdPerMillion, c.reasoningMicrousdPerMillion],
    0 ≤ n ∧ TokenSpend.Stored n

/-- Token counts that are not negative and can be stored. -/
def Tokens.Stored (t : Tokens) : Prop :=
  ∀ n ∈ [t.input, t.output, t.cachedInput, t.reasoning], 0 ≤ n ∧ TokenSpend.Stored n

instance (n : Int) : Decidable (Stored n) := inferInstanceAs (Decidable (-2 ^ 63 ≤ n ∧ n < 2 ^ 63))

instance (c : RateCard) : Decidable c.Stored := by
  unfold RateCard.Stored
  infer_instance

/-- A product of a stored count and a stored rate. -/
theorem mul_stored {a b : Int} (ha : 0 ≤ a ∧ Stored a) (hb : 0 ≤ b ∧ Stored b) : 0 ≤ a * b ∧ a * b < 2 ^ 126 := by
  refine ⟨mul_nonneg ha.1 hb.1, ?_⟩
  calc a * b < 2 ^ 63 * 2 ^ 63 := mul_lt_mul'' ha.2.2 hb.2.2 ha.1 hb.1
    _ = 2 ^ 126 := by norm_num

/-- The cost of stored counts on a stored card never raises. -/
theorem calculateCost_isSome {rate : RateCard} {tokens : Tokens} (hr : rate.Stored) (ht : tokens.Stored) :
    (calculateCost rate tokens).isSome := by
  simp only [RateCard.Stored, Tokens.Stored, List.forall_mem_cons, List.not_mem_nil, false_imp_iff, implies_true, and_true]
    at hr ht
  obtain ⟨hr₁, hr₂, hr₃, hr₄⟩ := hr
  obtain ⟨ht₁, ht₂, ht₃, ht₄⟩ := ht
  have h₁ := mul_stored ht₁ hr₁
  have h₂ := mul_stored ht₂ hr₂
  have h₃ := mul_stored ht₃ hr₃
  have h₄ := mul_stored ht₄ hr₄
  have hnonneg : 0 ≤ costNumerator rate tokens := by
    unfold costNumerator
    omega
  have hsmall : costNumerator rate tokens < 2 ^ 128 := by
    unfold costNumerator
    omega
  have hlow : (0 : ℚ) ≤ costNumerator rate tokens / 1000000 := by
    have hcast : (0 : ℚ) ≤ costNumerator rate tokens := by exact_mod_cast hnonneg
    positivity
  have hhigh : (costNumerator rate tokens / 1000000 : ℚ) < 2 ^ 1023 := by
    have hcast : (costNumerator rate tokens : ℚ) < 2 ^ 128 := by exact_mod_cast hsmall
    calc (costNumerator rate tokens / 1000000 : ℚ) < 2 ^ 128 := by linarith
      _ < 2 ^ 1023 := pow_lt_pow_right₀ (by norm_num) (by omega)
  unfold calculateCost
  rw [Option.isSome_map]
  exact binary64_isSome hlow hhigh

end TokenSpend

end Archisynapse
