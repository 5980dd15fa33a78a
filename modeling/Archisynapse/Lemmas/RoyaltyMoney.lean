import Archisynapse.Royalty.MoneyMath
import Archisynapse.Base.Exec

/-!
# What the money math pays

`computeRoyalty` pays one amount for each split, to its owner (`computeRoyalty_owners`), and every amount is one of whole cents
(`computeRoyalty_cents`), so that the column that stores it keeps it as it is.
-/

namespace Archisynapse

namespace Royalty

/-- An amount of whole cents. -/
def Cents (q : ℚ) : Prop := ∃ n : Int, q = n / 100

/-- Rounding to significant digits leaves an amount of whole cents one. -/
theorem Cents.significant {q : ℚ} (h : Cents q) : Cents (Decimal.significant q) := by
  obtain ⟨n, rfl⟩ := h
  unfold Decimal.significant
  split
  · exact ⟨0, by norm_num⟩
  · dsimp only
    generalize hs : (Decimal.precision : Int) - 1 - Int.log 10 |(n / 100 : ℚ)| = e
    have hten : (10 : ℚ) ≠ 0 := by norm_num
    by_cases he : 2 ≤ e
    · -- the last digit that is kept is a fraction of a cent: nothing is rounded
      obtain ⟨k, rfl⟩ : ∃ k : Nat, e = k + 2 := ⟨(e - 2).toNat, by omega⟩
      have hint : (n / 100 : ℚ) * 10 ^ ((k : Int) + 2) = ((n * 10 ^ k : Int) : ℚ) := by
        rw [zpow_add₀ hten]
        push_cast
        rw [zpow_natCast]
        ring
      refine ⟨n, ?_⟩
      rw [hint, roundHalfUp_intCast, ← hint, mul_div_assoc, div_self (zpow_ne_zero _ hten), mul_one]
    · obtain ⟨k, rfl⟩ : ∃ k : Nat, e = 2 - k := ⟨(2 - e).toNat, by omega⟩
      refine ⟨roundHalfUp (n / 100 * 10 ^ (2 - (k : Int))) * 10 ^ k, ?_⟩
      have hpow : (10 : ℚ) ^ (2 - (k : Int)) = 100 / 10 ^ k := by
        rw [zpow_sub₀ hten, zpow_natCast]
        norm_num
      push_cast
      rw [hpow, div_div_eq_mul_div]

theorem Cents.add {a b : ℚ} (ha : Cents a) (hb : Cents b) : Cents (a + b) := by
  obtain ⟨n, rfl⟩ := ha
  obtain ⟨m, rfl⟩ := hb
  refine ⟨n + m, ?_⟩
  push_cast
  ring

theorem cents_toCentsDown (q : ℚ) : Cents (toCentsDown q) := ⟨truncate (q * 100), rfl⟩

/-! ## Maps -/

section

variable {β : Type} {P : β → Prop}

/-- A map all of whose values have a property. -/
def Each (P : β → Prop) (m : List (String × β)) : Prop := ∀ e ∈ m, P e.2

theorem Each.setKey {m : List (String × β)} (hm : Each P m) (key : String) {value : β} (hv : P value) :
    Each P (setKey m key value) := by
  intro e he
  unfold Royalty.setKey at he
  split at he
  · obtain ⟨e', he', rfl⟩ := List.mem_map.1 he
    split
    · exact hv
    · exact hm e' he'
  · rcases List.mem_append.1 he with he | he
    · exact hm e he
    · obtain rfl := List.mem_singleton.1 he
      exact hv

theorem Each.getKey {m : List (String × β)} (hm : Each P m) {key : String} {value : β} (h : getKey m key = some value) :
    P value := by
  obtain ⟨e, he, rfl⟩ := Option.map_eq_some_iff.1 h
  exact hm e (List.mem_of_find?_eq_some he)

theorem each_byOwner {f : RoyaltySplit → β} (hf : ∀ s, P (f s)) (splits : List RoyaltySplit) : Each P (byOwner f splits) := by
  have h : ∀ (splits : List RoyaltySplit) (m : List (String × β)), Each P m →
      Each P (splits.foldl (fun m s => Royalty.setKey m s.ownerId (f s)) m) := by
    intro splits
    induction splits with
    | nil => exact fun _ hm => hm
    | cons s splits ih => exact fun m hm => ih _ (hm.setKey s.ownerId (hf s))
  exact h splits [] (fun e he => by cases he)

end

/-- Cents given to amounts of whole cents leave such amounts. -/
theorem giveCents_cents {n : Nat} {ordering : List String} {floored paid : List (String × ℚ)} (hf : Each Cents floored)
    (h : giveCents n ordering floored = .ok paid) : Each Cents paid := by
  induction n generalizing ordering floored with
  | zero =>
    cases h
    exact hf
  | succ n ih =>
    cases ordering with
    | nil => cases h
    | cons ownerId ordering =>
      unfold giveCents at h
      split at h
      · rename_i amount hamount
        have hcent : Cents (1 / 100) := ⟨1, by norm_num⟩
        exact ih (hf.setKey ownerId ((hf.getKey hamount).add hcent).significant) h
      · cases h

/-! ## Payouts -/

/-- What the splits of a pool pay: one amount of whole cents for each split. -/
theorem distributeSplits_ok {pool : ℚ} {splits : List RoyaltySplit} {payouts : List Payout}
    (h : distributeSplits pool splits = .ok payouts) :
    payouts.map (·.ownerId) = splits.map (·.ownerId) ∧ ∀ p ∈ payouts, Cents p.amount := by
  unfold distributeSplits at h
  dsimp only at h
  split at h
  · cases h
  · obtain ⟨paid, hpaid, h₁⟩ := ok_of_except_bind h
    cases h₁
    have hcents : Each Cents paid := giveCents_cents (each_byOwner (fun s => cents_toCentsDown _) splits) hpaid
    refine ⟨by simp, fun p hp => ?_⟩
    obtain ⟨s, -, rfl⟩ := List.mem_map.1 hp
    cases hget : getKey paid s.ownerId with
    | none => exact ⟨0, by simp⟩
    | some amount => exact hcents.getKey hget

theorem computeRoyalty_distribute {gross : ℚ} {splits : List RoyaltySplit} {payouts : List Payout}
    (h : computeRoyalty gross splits = .ok payouts) : distributeSplits (toCents gross) splits = .ok payouts := by
  obtain ⟨shares, hshares, h₁⟩ := ok_of_except_bind h
  dsimp only at h₁
  split at h₁
  · cases h₁
  · cases h₁
    exact hshares

/-- The money math pays the owner of each split, in their order. -/
theorem computeRoyalty_owners {gross : ℚ} {splits : List RoyaltySplit} {payouts : List Payout}
    (h : computeRoyalty gross splits = .ok payouts) : payouts.map (·.ownerId) = splits.map (·.ownerId) :=
  (distributeSplits_ok (computeRoyalty_distribute h)).1

/-- The money math pays whole cents. -/
theorem computeRoyalty_cents {gross : ℚ} {splits : List RoyaltySplit} {payouts : List Payout}
    (h : computeRoyalty gross splits = .ok payouts) : ∀ p ∈ payouts, Cents p.amount :=
  (distributeSplits_ok (computeRoyalty_distribute h)).2

end Royalty

end Archisynapse
