import Archisynapse.Lemmas.RoyaltyGatewayBalance

/-!
# The distribution of a pool

Every cent of a pool is handed out, in a way that the order of the splits does not matter for (`splits_distributed`); on Python's
decimals as well, for pools below `10 ^ 24` cents (`distributeSplits_exact`). The schema asks only that the parts of the splits make
up 10000: the assertion of `compute_royalty` and payouts below zero are out of reach where no owner is repeated and the shares round
to no cents below zero and no more than the pool (`computeRoyalty_balanced_iff`).
-/

namespace Archisynapse

namespace RoyaltyGateway

/-- For a pool of whole cents and splits with distinct owners and parts that are not negative and make up 10000: there is one payout
for each split, in their order, of its share rounded down to the cent, or of a cent more for fewer owners than there are splits, who
come before the others; the payouts make up the pool; and splits in another order get the same payouts in that order. -/
theorem splits_distributed (n : Nat) (splits : List Split) (hnd : (splits.map (·.ownerId)).Nodup) (hpos : ∀ s ∈ splits, 0 ≤ s.bps)
    (hsum : (splits.map (·.bps)).sum = 10000) :
    ∃ more : List String, more.Nodup ∧ more.length < splits.length ∧ (∀ owner ∈ more, owner ∈ splits.map (·.ownerId)) ∧
      (∀ s ∈ splits, ∀ t ∈ splits, s.ownerId ∈ more → t.ownerId ∉ more → Exact.Before (n / 100) s t) ∧
      ∃ payouts, Exact.distributeSplits (n / 100) splits = .ok payouts ∧
        payouts = splits.map (fun s => (s.ownerId,
          Exact.quantizeCentDown (Exact.rawShare (n / 100) s) + if s.ownerId ∈ more then 1 / 100 else 0)) ∧
        (payouts.map Prod.snd).sum = n / 100 ∧
        ∀ splits' : List Split, splits'.Perm splits →
          ∃ payouts', Exact.distributeSplits (n / 100) splits' = .ok payouts' ∧ payouts'.Perm payouts := by
  refine ⟨Exact.given n splits, Exact.given_nodup hnd, ?_, fun owner howner => Exact.given_owner howner,
    fun s hs t ht => Exact.given_before hnd hs ht, Exact.payouts n splits, Exact.distributeSplits_eq hnd hpos hsum, rfl,
    Exact.payouts_sum hnd hpos hsum, fun splits' hperm => ?_⟩
  · have hlength := Exact.given_length (n := n) hsum
    have hlt := Apportion.left_lt_length (Exact.units n) (by decide) (Exact.splits_ne_nil hsum) (Exact.sum_units (n := n) hsum)
    omega
  · have hnd' : (splits'.map (·.ownerId)).Nodup := (hperm.map _).nodup_iff.2 hnd
    have hpos' : ∀ s ∈ splits', 0 ≤ s.bps := fun s hs => hpos s (hperm.mem_iff.1 hs)
    have hsum' : (splits'.map (·.bps)).sum = 10000 := (hperm.map _).sum_eq.trans hsum
    refine ⟨_, Exact.distributeSplits_eq hnd' hpos' hsum', ?_⟩
    unfold Exact.payouts
    rw [Exact.given_perm hnd hperm]
    exact hperm.map _

/-- Five cents among three: two get a cent more than they would rounded down. -/
theorem splits_distributed_play : ∃ payouts,
    Exact.distributeSplits ((5 : Nat) / 100) [⟨"a", 3333⟩, ⟨"b", 3333⟩, ⟨"c", 3334⟩] = .ok payouts ∧
      (payouts.map Prod.snd).sum = (5 : Nat) / 100 := by
  obtain ⟨-, -, -, -, -, payouts, hpaid, -, hsum, -⟩ := splits_distributed 5 [⟨"a", 3333⟩, ⟨"b", 3333⟩, ⟨"c", 3334⟩] (by decide)
    (by decide) (by decide)
  exact ⟨payouts, hpaid, hsum⟩

/-! ## The balance of a payout -/

/-- The assertion is not raised, and no payout is below zero. -/
def Balanced (r : Except MoneyError (List (String × ℚ))) : Prop :=
  (∀ message, r ≠ .error (.assertionError message)) ∧ ∀ payouts, r = .ok payouts → ∀ p ∈ payouts, 0 ≤ p.2

/-- The cents of an amount of ten-thousandths. -/
def poolCents (value : Nat) : Nat := (roundHalfEven ((value : ℚ) / 10000 * 100)).toNat

/-- No share is one of minus a cent or less, and the shares rounded towards zero are not more than the pool. -/
def Shareable (n : Nat) (splits : List Split) : Prop :=
  (∀ s ∈ splits, -10000 < n * s.bps) ∧ (splits.map (fun s => ((n : Int) * s.bps).tdiv 10000)).sum ≤ n

theorem roundHalfEven_pool (value : Nat) : roundHalfEven ((value : ℚ) / 10000 * 100) = poolCents value := by
  have hfloor : 0 ≤ ⌊(value : ℚ) / 10000 * 100⌋ := Int.floor_nonneg.2 (by positivity)
  have hnonneg : 0 ≤ roundHalfEven ((value : ℚ) / 10000 * 100) := by
    unfold roundHalfEven
    dsimp only
    split <;> omega
  exact (Int.toNat_of_nonneg hnonneg).symm

/-- Parts that are not negative can be shared. -/
theorem shareable_of_nonneg (n : Nat) {splits : List Split} (hpos : ∀ s ∈ splits, 0 ≤ s.bps)
    (hsum : (splits.map (·.bps)).sum = 10000) : Shareable n splits := by
  constructor
  · intro s hs
    have hunits := mul_nonneg (Int.natCast_nonneg n) (hpos s hs)
    omega
  · have hleft := Apportion.left_nonneg (Exact.units n) (by decide) (Exact.sum_units (n := n) hsum)
    have hfloors : splits.map (fun s => ((n : Int) * s.bps).tdiv 10000) = splits.map (fun s => Exact.units n s / 10000) :=
      List.map_congr_left fun s hs => Int.tdiv_eq_ediv_of_nonneg (mul_nonneg (Int.natCast_nonneg n) (hpos s hs))
    rw [hfloors]
    unfold Apportion.left at hleft
    omega

/-- With distinct owners and within the digits, the payouts are balanced exactly where the shares can be. -/
theorem balanced_iff {n : Nat} {splits : List Split} (hsum : (splits.map (·.bps)).sum = 10000)
    (hnd : (splits.map (·.ownerId)).Nodup) (hw : WithinDigits n splits) {gross : ℚ} (hgross : roundHalfEven (gross * 100) = n) :
    Balanced (computeRoyalty gross splits) ↔ Shareable n splits := by
  have hpool : n < 10 ^ 28 := by
    have hle : (10000 : Int) ≤ (splits.map (fun s => |s.bps|)).sum := by
      rw [← hsum]
      exact List.sum_le_sum fun s _ => le_abs_self _
    have hmul : (n : Int) * 10000 ≤ n * (splits.map (fun s => |s.bps|)).sum := mul_le_mul_of_nonneg_left hle (Int.natCast_nonneg n)
    unfold WithinDigits at hw
    omega
  obtain ⟨hpays, hraises⟩ := computeRoyalty_paid hnd hw hpool hsum hgross
  have htotal := sum_paidCents (n := n) hnd
  have hleft : leftCents n splits = n - (splits.map (wholeCents n)).sum := rfl
  have hmost : Shareable n splits → 0 ≤ leftCents n splits := by
    rintro ⟨-, hmost⟩
    change (splits.map (wholeCents n)).sum ≤ n at hmost
    omega
  constructor
  · rintro ⟨hquiet, hnonneg⟩
    have hpaid : (splits.map (paidCents n splits)).sum = n := by
      by_contra hne
      obtain ⟨message, hraised⟩ := hraises hne
      exact hquiet message hraised
    have hleftNonneg : 0 ≤ leftCents n splits := by omega
    refine ⟨fun s hs => ?_, ?_⟩
    · by_contra hlow
      obtain ⟨hneg, hrest⟩ := wholeCents_neg (n := n) (s := s) (Int.not_lt.1 hlow)
      have hcents := hnonneg _ (hpays hpaid) _ (List.mem_map_of_mem hs)
      have hless : paidCents n splits s < 0 := by
        unfold paidCents
        rw [if_neg (not_centMore hnd hsum hleftNonneg hs hrest)]
        omega
      have hcast : ((paidCents n splits s : Int) : ℚ) < 0 := by exact_mod_cast hless
      dsimp only at hcents
      linarith
    · change (splits.map (wholeCents n)).sum ≤ n
      omega
  · intro h
    have hleftNonneg := hmost h
    have hlength := length_centMore hsum hleftNonneg
    have hpaid : (splits.map (paidCents n splits)).sum = n := by omega
    rw [hpays hpaid]
    refine ⟨fun message h => (by cases h), fun payouts hpayouts p hp => ?_⟩
    obtain rfl := Except.ok.inj hpayouts
    obtain ⟨s, hs, rfl⟩ := List.mem_map.1 hp
    have hcents : 0 ≤ paidCents n splits s := by
      have hwhole := wholeCents_nonneg (n := n) (h.1 s hs)
      unfold paidCents
      split <;> omega
    have hcast : (0 : ℚ) ≤ (paidCents n splits s : Int) := by exact_mod_cast hcents
    exact div_nonneg hcast (by norm_num)

end RoyaltyGateway

end Archisynapse
