import Archisynapse.Lemmas.RoyaltyGatewayMoney

/-!
# The money math with parts below zero

The schema asks only that the parts make up 10000, so a part may be negative. With distinct owners and within the digits of the
context, each split is paid its share rounded towards zero, and a cent more for the owners of a slice (`distributeSplits_paid`).
-/

namespace Archisynapse

namespace RoyaltyGateway

open Royalty (setKey getKey truncate getKey_setKey)

variable {n : Nat} {splits : List Split}

/-- The whole cents of a share, rounded towards zero. -/
def wholeCents (n : Nat) (s : Split) : Int := (Exact.units n s).tdiv 10000

/-- The ten-thousandths of a cent a share has besides. -/
def restOfCent (n : Nat) (s : Split) : Int := (Exact.units n s).tmod 10000

/-- No amount has more digits than the context. -/
def WithinDigits (n : Nat) (splits : List Split) : Prop := n * (splits.map (fun s => |s.bps|)).sum + splits.length < 10 ^ 28

/-! ## Quotients -/

theorem wholeCents_restOfCent (n : Nat) (s : Split) : 10000 * wholeCents n s + restOfCent n s = Exact.units n s :=
  Int.mul_tdiv_add_tmod _ _

theorem restOfCent_lt (n : Nat) (s : Split) : restOfCent n s < 10000 := Int.tmod_lt_of_pos _ (by decide)

theorem lt_restOfCent (n : Nat) (s : Split) : -10000 < restOfCent n s := Int.lt_tmod_of_pos _ (by decide)

/-- A share above minus one cent has no whole cents below zero. -/
theorem wholeCents_nonneg {s : Split} (h : -10000 < Exact.units n s) : 0 ≤ wholeCents n s := by
  have hsplit := wholeCents_restOfCent n s
  rcases Int.le_total 0 (Exact.units n s) with hunits | hunits
  · exact Int.tdiv_nonneg hunits (by decide)
  · have hneg : -Exact.units n s < 10000 := by omega
    have hzero : (-Exact.units n s).tdiv 10000 = 0 := Int.tdiv_eq_zero_of_lt (by omega) hneg
    rw [Int.neg_tdiv] at hzero
    unfold wholeCents
    omega

/-- A share of minus one cent or less has whole cents below zero, and no part of a cent above. -/
theorem wholeCents_neg {s : Split} (h : Exact.units n s ≤ -10000) : wholeCents n s < 0 ∧ restOfCent n s ≤ 0 := by
  have hrest : restOfCent n s ≤ 0 := by
    have hnonneg := Int.tmod_nonneg 10000 (a := -Exact.units n s) (by omega)
    rw [Int.neg_tmod] at hnonneg
    unfold restOfCent
    omega
  have hsplit := wholeCents_restOfCent n s
  have hlt := lt_restOfCent n s
  exact ⟨by omega, hrest⟩

/-- Rounding a quotient towards zero. -/
theorem truncate_tdiv (k : Int) : truncate ((k : ℚ) / 10000) = k.tdiv 10000 := by
  have hpos : ∀ m : Int, ⌊(m : ℚ) / 10000⌋ = m / 10000 := fun m => Rat.floor_intCast_div_natCast m 10000
  unfold truncate
  by_cases hk : 0 ≤ k
  · have hq : (0 : ℚ) ≤ (k : ℚ) / 10000 := by positivity
    rw [if_pos hq, hpos, Int.tdiv_eq_ediv_of_nonneg hk]
  · have hneg : (k : ℚ) < 0 := by exact_mod_cast Int.not_le.1 hk
    have hq : ¬ (0 : ℚ) ≤ (k : ℚ) / 10000 := not_le.2 (div_neg_of_neg_of_pos hneg (by norm_num))
    have hcast : -((k : ℚ) / 10000) = ((-k : Int) : ℚ) / 10000 := by
      push_cast
      ring
    rw [if_neg hq, hcast, hpos, ← Int.tdiv_eq_ediv_of_nonneg (by omega), Int.neg_tdiv, neg_neg]

theorem truncate_intCast (k : Int) : truncate (k : ℚ) = k := by
  unfold truncate
  split
  · exact Int.floor_intCast k
  · rw [← Int.cast_neg, Int.floor_intCast, neg_neg]

/-! ## Digits -/

/-- The parts of some splits are within the parts of all. -/
theorem abs_units_le {s : Split} (hs : s ∈ splits) : |Exact.units n s| ≤ n * (splits.map (fun s => |s.bps|)).sum := by
  have hle : |s.bps| ≤ (splits.map (fun s => |s.bps|)).sum := by
    refine List.single_le_sum (fun x hx => ?_) _ (List.mem_map_of_mem (f := fun s => |s.bps|) hs)
    obtain ⟨t, -, rfl⟩ := List.mem_map.1 hx
    exact abs_nonneg _
  unfold Exact.units
  rw [abs_mul, abs_of_nonneg (Int.natCast_nonneg n)]
  exact mul_le_mul_of_nonneg_left hle (Int.natCast_nonneg n)

theorem natAbs_units_lt (hw : WithinDigits n splits) {s : Split} (hs : s ∈ splits) : (Exact.units n s).natAbs < 10 ^ 28 := by
  have hle := abs_units_le (n := n) hs
  unfold WithinDigits at hw
  rw [Int.abs_eq_natAbs] at hle
  omega

/-- The whole cents of the shares are within the digits together, with a cent more for each. -/
theorem sum_abs_wholeCents (hw : WithinDigits n splits) :
    (splits.map (fun s => |wholeCents n s|)).sum + splits.length < 10 ^ 28 := by
  have hle : ∀ l : List Split, (l.map (fun s => |wholeCents n s|)).sum ≤ n * (l.map (fun s => |s.bps|)).sum := by
    intro l
    induction l with
    | nil => simp
    | cons s l ih =>
      have hs : |wholeCents n s| ≤ n * |s.bps| := by
        have habs := Int.natAbs_tdiv_le_natAbs (Exact.units n s) 10000
        have hunits : |Exact.units n s| = n * |s.bps| := by
          unfold Exact.units
          rw [abs_mul, abs_of_nonneg (Int.natCast_nonneg n)]
        rw [← hunits, Int.abs_eq_natAbs, Int.abs_eq_natAbs]
        unfold wholeCents
        omega
      rw [List.map_cons, List.sum_cons, List.map_cons, List.sum_cons, mul_add]
      omega
  have hsplits := hle splits
  unfold WithinDigits at hw
  omega

/-! ## Shares -/

theorem exact_rawShare (n : Nat) (s : Split) : Exact.rawShare (n / 100) s = (Exact.units n s : ℚ) / 10 ^ 6 := by
  unfold Exact.rawShare Exact.units
  push_cast
  ring

/-- A share is not rounded. -/
theorem rawShare_units (hw : WithinDigits n splits) {s : Split} (hs : s ∈ splits) :
    rawShare (n / 100) s = (Exact.units n s : ℚ) / 10 ^ 6 := by
  have hunits := natAbs_units_lt hw hs
  have hmul : (n / 100 : ℚ) * s.bps = (Exact.units n s : ℚ) / 10 ^ 2 := by
    unfold Exact.units
    push_cast
    ring
  have hdiv : (Exact.units n s : ℚ) / 10 ^ 2 / 10000 = (Exact.units n s : ℚ) / 10 ^ 6 := by
    norm_num
    ring
  unfold rawShare
  rw [hmul, context_of_digits hunits, hdiv, context_of_digits hunits]

/-- A share is rounded towards zero. -/
theorem quantizeCentDown_units (hw : WithinDigits n splits) {s : Split} (hs : s ∈ splits) :
    quantizeCentDown (rawShare (n / 100) s) = .ok ((wholeCents n s : ℚ) / 100) := by
  have hunits := natAbs_units_lt hw hs
  have hcents : (Exact.units n s : ℚ) / 10 ^ 6 * 100 = (Exact.units n s : ℚ) / 10000 := by
    norm_num
    ring
  have hle := Int.natAbs_tdiv_le_natAbs (Exact.units n s) 10000
  unfold quantizeCentDown coefficient
  rw [rawShare_units hw hs, hcents, truncate_tdiv, if_pos (by omega)]
  rfl

/-- The rest of a share is not rounded. -/
theorem context_rest (hw : WithinDigits n splits) {s : Split} (hs : s ∈ splits) :
    context (rawShare (n / 100) s - (wholeCents n s : ℚ) / 100) = (restOfCent n s : ℚ) / 10 ^ 6 := by
  have hrest : (Exact.units n s : ℚ) / 10 ^ 6 - (wholeCents n s : ℚ) / 100 = (restOfCent n s : ℚ) / 10 ^ 6 := by
    rw [← wholeCents_restOfCent]
    push_cast
    ring
  have hlt := restOfCent_lt n s
  have hlt' := lt_restOfCent n s
  rw [rawShare_units hw hs, hrest, context_of_digits (by omega)]

/-- Sums of cents are not rounded while they are within the digits. -/
theorem foldl_cents (l : List Int) (a : Int) (h : |a| + (l.map (fun c => |c|)).sum < 10 ^ 28) :
    l.foldl (fun (sum : ℚ) (c : Int) => context (sum + (c : ℚ) / 100)) ((a : ℚ) / 100) = ((a + l.sum : Int) : ℚ) / 100 := by
  induction l generalizing a with
  | nil => simp
  | cons c l ih =>
    rw [List.map_cons, List.sum_cons] at h
    have htail : 0 ≤ (l.map (fun c => |c|)).sum := by
      refine List.sum_nonneg (fun x hx => ?_)
      obtain ⟨y, -, rfl⟩ := List.mem_map.1 hx
      exact abs_nonneg _
    have htriangle := abs_add_le a c
    have hadd : (a : ℚ) / 100 + (c : ℚ) / 100 = ((a + c : Int) : ℚ) / 10 ^ 2 := by
      push_cast
      ring
    have hlt : (a + c).natAbs < 10 ^ 28 := by
      rw [Int.abs_eq_natAbs (a + c)] at htriangle
      omega
    have hhundred : ((a + c : Int) : ℚ) / 10 ^ 2 = ((a + c : Int) : ℚ) / 100 := by norm_num
    rw [List.foldl_cons, hadd, context_of_digits hlt, hhundred, ih (a + c) (by omega), List.sum_cons, add_assoc]

/-! ## The distribution -/

/-- The dictionaries of splits with distinct owners: the whole cents, and the rests of a cent. -/
def centsByOwner (n : Nat) (splits : List Split) : List (String × ℚ) :=
  splits.map (fun s => (s.ownerId, (wholeCents n s : ℚ) / 100))

def restsByOwner (n : Nat) (splits : List Split) : List (String × ℚ) :=
  splits.map (fun s => (s.ownerId, (restOfCent n s : ℚ) / 10 ^ 6))

/-- The cents left over. -/
def leftCents (n : Nat) (splits : List Split) : Int := n - (splits.map (wholeCents n)).sum

/-- The owners in the order of the sort. -/
def inOrder (n : Nat) (splits : List Split) : List String :=
  (splits.map (·.ownerId)).insertionSort (fun a b => notAfter (restsByOwner n splits) (Exact.bpsByOwner splits) a b = true)

/-- The owners that get a cent more. -/
def centMore (n : Nat) (splits : List Split) : List String := slice (leftCents n splits) (inOrder n splits)

/-- The cents a split is paid. -/
def paidCents (n : Nat) (splits : List Split) (s : Split) : Int := wholeCents n s + if s.ownerId ∈ centMore n splits then 1 else 0

/-- A slice is a first part. -/
theorem slice_prefix {α : Type} (k : Int) (items : List α) : ∃ m, slice k items = items.take m := by
  unfold slice
  split
  · exact ⟨_, rfl⟩
  · exact ⟨_, rfl⟩

theorem inOrder_perm (n : Nat) (splits : List Split) : (inOrder n splits).Perm (splits.map (·.ownerId)) := List.perm_insertionSort _ _

theorem centMore_sublist (n : Nat) (splits : List Split) : (centMore n splits).Sublist (inOrder n splits) := by
  obtain ⟨m, hm⟩ := slice_prefix (leftCents n splits) (inOrder n splits)
  unfold centMore
  rw [hm]
  exact List.take_sublist m _

theorem centMore_nodup (hnd : (splits.map (·.ownerId)).Nodup) : (centMore n splits).Nodup :=
  ((inOrder_perm n splits).nodup_iff.2 hnd).sublist (centMore_sublist n splits)

theorem centMore_owner {owner : String} (h : owner ∈ centMore n splits) : owner ∈ splits.map (·.ownerId) :=
  (inOrder_perm n splits).subset ((centMore_sublist n splits).subset h)

/-- A cent more for each owner it is given to, while the amounts are within the digits. -/
theorem getD_giveCents {owners : List String} (hnd : owners.Nodup) {m : List (String × ℚ)}
    (hm : ∀ owner ∈ owners, ∃ c : Int, (c + 1).natAbs < 10 ^ 28 ∧ (getKey m owner).getD 0 = (c : ℚ) / 100) (key : String) :
    (getKey (giveCents owners m) key).getD 0 = (getKey m key).getD 0 + if key ∈ owners then 1 / 100 else 0 := by
  unfold giveCents
  induction owners generalizing m with
  | nil => simp
  | cons owner owners ih =>
    rw [List.nodup_cons] at hnd
    obtain ⟨c, hc, hvalue⟩ := hm owner List.mem_cons_self
    have hadd : context ((getKey m owner).getD 0 + 1 / 100) = (getKey m owner).getD 0 + 1 / 100 := by
      have hcents : (getKey m owner).getD 0 + 1 / 100 = ((c + 1 : Int) : ℚ) / 10 ^ 2 := by
        rw [hvalue]
        push_cast
        ring
      rw [hcents, context_of_digits hc]
    have hlater : ∀ o ∈ owners, ∃ c : Int, (c + 1).natAbs < 10 ^ 28 ∧
        (getKey (setKey m owner ((getKey m owner).getD 0 + 1 / 100)) o).getD 0 = (c : ℚ) / 100 := by
      intro o ho
      have hne : owner ≠ o := by
        rintro rfl
        exact hnd.1 ho
      rw [getKey_setKey, if_neg hne]
      exact hm o (List.mem_cons_of_mem _ ho)
    rw [List.foldl_cons, hadd, ih hnd.2 hlater, getKey_setKey]
    by_cases hk : owner = key
    · subst hk
      rw [if_pos rfl, if_neg hnd.1, if_pos List.mem_cons_self]
      simp
    · rw [if_neg hk]
      congr 1
      simp [Ne.symm hk]

/-- One split's cents are within the digits, also with a cent more. -/
theorem natAbs_wholeCents_lt (hw : WithinDigits n splits) {s : Split} (hs : s ∈ splits) : (wholeCents n s + 1).natAbs < 10 ^ 28 := by
  have hsum := sum_abs_wholeCents hw
  have hle : |wholeCents n s| ≤ (splits.map (fun s => |wholeCents n s|)).sum := by
    refine List.single_le_sum (fun x hx => ?_) _ (List.mem_map_of_mem (f := fun s => |wholeCents n s|) hs)
    obtain ⟨t, -, rfl⟩ := List.mem_map.1 hx
    exact abs_nonneg _
  have hlen : 0 < splits.length := List.length_pos_of_mem hs
  rw [Int.abs_eq_natAbs] at hle
  omega

/-- The dictionary of the whole cents. -/
theorem floors_eq (hnd : (splits.map (·.ownerId)).Nodup) (hw : WithinDigits n splits) :
    floors (n / 100) splits = .ok (centsByOwner n splits) := by
  unfold floors centsByOwner
  rw [← Exact.byOwner_eq hnd]
  exact byOwner_ok (fun s hs => quantizeCentDown_units hw hs) []

/-- The dictionary of the rests. -/
theorem rests_eq (hnd : (splits.map (·.ownerId)).Nodup) (hw : WithinDigits n splits) :
    byOwner (fun s => .ok (context (rawShare (n / 100) s - (getKey (centsByOwner n splits) s.ownerId).getD 0))) splits [] =
      .ok (restsByOwner n splits) := by
  unfold restsByOwner
  rw [← Exact.byOwner_eq hnd]
  refine byOwner_ok (fun s hs => congrArg Except.ok ?_) []
  unfold centsByOwner
  rw [getKey_owner hnd _ hs]
  exact context_rest hw hs

/-- The whole cents together are within the digits. -/
theorem natAbs_sum_wholeCents (hw : WithinDigits n splits) : (splits.map (wholeCents n)).sum.natAbs < 10 ^ 28 := by
  have hsum := sum_abs_wholeCents hw
  have hle : ∀ l : List Split, ((l.map (wholeCents n)).sum.natAbs : Int) ≤ (l.map (fun s => |wholeCents n s|)).sum := by
    intro l
    induction l with
    | nil => simp
    | cons s l ih =>
      have habs := Int.abs_eq_natAbs (wholeCents n s)
      rw [List.map_cons, List.sum_cons, List.map_cons, List.sum_cons]
      omega
  have hsplits := hle splits
  omega

/-- The sum of the whole cents is not rounded. -/
theorem foldl_centsByOwner (hw : WithinDigits n splits) :
    (centsByOwner n splits).foldl (fun sum e => context (sum + e.2)) 0 = (((splits.map (wholeCents n)).sum : Int) : ℚ) / 100 := by
  have hdigits : |(0 : Int)| + ((splits.map (wholeCents n)).map (fun c => |c|)).sum < 10 ^ 28 := by
    have hsum := sum_abs_wholeCents hw
    rw [List.map_map, abs_zero, zero_add]
    change (splits.map (fun s => |wholeCents n s|)).sum < _
    omega
  have hcents := foldl_cents (splits.map (wholeCents n)) 0 hdigits
  rw [Int.cast_zero, zero_div, zero_add, List.foldl_map] at hcents
  unfold centsByOwner
  rw [List.foldl_map]
  exact hcents

/-- The cents left over, as they are computed. -/
theorem leftCents_eq (hw : WithinDigits n splits) (hpool : n < 10 ^ 28) :
    truncate (context ((n / 100 : ℚ) / (1 / 100))) -
      truncate (context ((centsByOwner n splits).foldl (fun sum e => context (sum + e.2)) 0 / (1 / 100))) = leftCents n splits := by
  have hn : (n / 100 : ℚ) / (1 / 100) = ((n : Int) : ℚ) / 10 ^ 0 := by
    push_cast
    ring
  have hsum : (((splits.map (wholeCents n)).sum : Int) : ℚ) / 100 / (1 / 100) =
      (((splits.map (wholeCents n)).sum : Int) : ℚ) / 10 ^ 0 := by
    ring
  rw [foldl_centsByOwner hw, hn, hsum, context_of_digits (by omega), context_of_digits (natAbs_sum_wholeCents hw), pow_zero, div_one,
    div_one, truncate_intCast, truncate_intCast]
  rfl

/-- What `distribute_splits` pays. -/
theorem distributeSplits_paid (hnd : (splits.map (·.ownerId)).Nodup) (hw : WithinDigits n splits) (hpool : n < 10 ^ 28)
    (hsum : (splits.map (·.bps)).sum = 10000) :
    distributeSplits (n / 100) splits = .ok (splits.map (fun s => (s.ownerId, (paidCents n splits s : ℚ) / 100))) := by
  have hbps : byOwner (fun s => .ok s.bps) splits [] = .ok (Exact.bpsByOwner splits) := by
    rw [Exact.bpsByOwner, ← Exact.byOwner_eq hnd]
    exact byOwner_ok (fun s _ => rfl) []
  unfold distributeSplits
  dsimp only
  rw [if_neg (not_not.2 hsum), floors_eq hnd hw]
  change (do
    let remainders ← byOwner (fun s => .ok (context (rawShare (n / 100) s - (getKey (centsByOwner n splits) s.ownerId).getD 0)))
      splits []
    _) = _
  rw [rests_eq hnd hw]
  change (do
    let bps ← byOwner (fun s => .ok s.bps) splits []
    _) = _
  rw [hbps]
  change Except.ok _ = _
  rw [leftCents_eq hw hpool]
  refine congrArg Except.ok (List.map_congr_left fun s hs => ?_)
  have hpaid : ∀ owner ∈ centMore n splits, ∃ c : Int, (c + 1).natAbs < 10 ^ 28 ∧
      (getKey (centsByOwner n splits) owner).getD 0 = (c : ℚ) / 100 := by
    intro owner howner
    obtain ⟨t, ht, rfl⟩ := List.mem_map.1 (centMore_owner howner)
    refine ⟨wholeCents n t, natAbs_wholeCents_lt hw ht, ?_⟩
    unfold centsByOwner
    rw [getKey_owner hnd _ ht]
    rfl
  have hget := getD_giveCents (centMore_nodup hnd) hpaid s.ownerId
  have hcents : (getKey (centsByOwner n splits) s.ownerId).getD 0 = (wholeCents n s : ℚ) / 100 := by
    unfold centsByOwner
    rw [getKey_owner hnd _ hs]
    rfl
  rw [hcents] at hget
  refine Prod.ext rfl (hget.trans ?_)
  unfold paidCents
  push_cast
  split <;> ring

/-! ## The balance -/

theorem length_inOrder (n : Nat) (splits : List Split) : (inOrder n splits).length = splits.length := by
  rw [(inOrder_perm n splits).length_eq, List.length_map]

/-- One cent for each owner that gets a cent more. -/
theorem sum_centMore (hnd : (splits.map (·.ownerId)).Nodup) :
    (splits.map (fun s => if s.ownerId ∈ centMore n splits then (1 : Int) else 0)).sum = (centMore n splits).length :=
  Apportion.sum_given hnd (centMore_nodup hnd) (fun _ hk => centMore_owner hk)

/-- What is paid together: the whole cents, and the cents that are given. -/
theorem sum_paidCents (hnd : (splits.map (·.ownerId)).Nodup) :
    (splits.map (paidCents n splits)).sum = (splits.map (wholeCents n)).sum + (centMore n splits).length := by
  have hgiven := sum_centMore (n := n) hnd
  rw [← hgiven, ← List.sum_map_add]
  rfl

/-- The sum of the payouts is not rounded. -/
theorem foldl_paidCents (hw : WithinDigits n splits) :
    (splits.map (fun s => (s.ownerId, (paidCents n splits s : ℚ) / 100))).foldl (fun sum p => context (sum + p.2)) 0 =
      (((splits.map (paidCents n splits)).sum : Int) : ℚ) / 100 := by
  have hle : ∀ l : List Split, (l.map (fun s => |paidCents n splits s|)).sum ≤ (l.map (fun s => |wholeCents n s|)).sum + l.length := by
    intro l
    induction l with
    | nil => simp
    | cons s l ih =>
      have hs : |paidCents n splits s| ≤ |wholeCents n s| + 1 := by
        unfold paidCents
        split
        · exact (abs_add_le _ _).trans (by simp)
        · rw [add_zero]
          omega
      rw [List.map_cons, List.sum_cons, List.map_cons, List.sum_cons, List.length_cons]
      push_cast
      omega
  have hdigits : |(0 : Int)| + ((splits.map (paidCents n splits)).map (fun c => |c|)).sum < 10 ^ 28 := by
    have hsum := sum_abs_wholeCents hw
    have hsplits := hle splits
    rw [List.map_map, abs_zero, zero_add]
    change (splits.map (fun s => |paidCents n splits s|)).sum < _
    omega
  have hcents := foldl_cents (splits.map (paidCents n splits)) 0 hdigits
  rw [Int.cast_zero, zero_div, zero_add, List.foldl_map] at hcents
  rw [List.foldl_map]
  exact hcents

/-- `compute_royalty` pays these cents when they make up the pool, and raises its assertion when they do not. -/
theorem computeRoyalty_paid (hnd : (splits.map (·.ownerId)).Nodup) (hw : WithinDigits n splits) (hpool : n < 10 ^ 28)
    (hsum : (splits.map (·.bps)).sum = 10000) {gross : ℚ} (hgross : roundHalfEven (gross * 100) = n) :
    ((splits.map (paidCents n splits)).sum = n →
      computeRoyalty gross splits = .ok (splits.map (fun s => (s.ownerId, (paidCents n splits s : ℚ) / 100)))) ∧
    ((splits.map (paidCents n splits)).sum ≠ n → ∃ message, computeRoyalty gross splits = .error (.assertionError message)) := by
  have hquantize : quantizeCent gross = .ok ((n : ℚ) / 100) := by
    unfold quantizeCent coefficient
    rw [hgross, if_pos (by omega)]
    rfl
  have hpays : computeRoyalty gross splits =
      if (((splits.map (paidCents n splits)).sum : Int) : ℚ) / 100 ≠ (n : ℚ) / 100 then
        .error (.assertionError (s!"balanced-journal invariant violated: payouts({centsText
          ((((splits.map (paidCents n splits)).sum : Int) : ℚ) / 100)}) != pool({centsText ((n : ℚ) / 100)})"))
      else .ok (splits.map (fun s => (s.ownerId, (paidCents n splits s : ℚ) / 100))) := by
    unfold computeRoyalty
    rw [hquantize]
    change (do
      let payouts ← distributeSplits ((n : ℚ) / 100) splits
      _) = _
    rw [distributeSplits_paid hnd hw hpool hsum, ← foldl_paidCents hw]
    rfl
  have hequal : (((splits.map (paidCents n splits)).sum : Int) : ℚ) / 100 = (n : ℚ) / 100 ↔ (splits.map (paidCents n splits)).sum = n := by
    rw [div_left_inj' (by norm_num)]
    norm_cast
  constructor
  · intro h
    rw [hpays, if_neg (not_not.2 (hequal.2 h))]
  · intro h
    rw [hpays, if_pos (fun heq => h (hequal.1 heq))]
    exact ⟨_, rfl⟩

/-- The parts below zero of a cent, and above, are the cents left over. -/
theorem sum_restOfCent (hsum : (splits.map (·.bps)).sum = 10000) :
    (splits.map (restOfCent n)).sum = 10000 * leftCents n splits := by
  have hparts : ∀ l : List Split,
      (l.map (Exact.units n)).sum = 10000 * (l.map (wholeCents n)).sum + (l.map (restOfCent n)).sum := by
    intro l
    induction l with
    | nil => simp
    | cons s l ih =>
      have hs := wholeCents_restOfCent n s
      rw [List.map_cons, List.sum_cons, List.map_cons, List.sum_cons, List.map_cons, List.sum_cons, ih]
      omega
  have hunits := Exact.sum_units (n := n) hsum
  rw [hparts splits] at hunits
  unfold leftCents
  omega

/-- There are not more cents left over than there are splits. -/
theorem leftCents_le (hsum : (splits.map (·.bps)).sum = 10000) : leftCents n splits ≤ splits.length := by
  have hle : ∀ l : List Split, (l.map (restOfCent n)).sum ≤ 10000 * l.length := by
    intro l
    induction l with
    | nil => simp
    | cons s l ih =>
      have hs := restOfCent_lt n s
      rw [List.map_cons, List.sum_cons, List.length_cons]
      push_cast
      omega
  have hsplits := hle splits
  rw [sum_restOfCent hsum] at hsplits
  omega

/-- All the cents left over are given. -/
theorem length_centMore (hsum : (splits.map (·.bps)).sum = 10000) (hleft : 0 ≤ leftCents n splits) :
    ((centMore n splits).length : Int) = leftCents n splits := by
  have hle := leftCents_le (n := n) hsum
  have hlen := length_inOrder n splits
  unfold centMore slice
  rw [if_pos hleft, List.length_take]
  omega

/-- The owners that get a cent more have at least the rests of the others. -/
theorem rest_le_of_centMore (hnd : (splits.map (·.ownerId)).Nodup) {s t : Split} (hs : s ∈ splits) (ht : t ∈ splits)
    (hmore : s.ownerId ∈ centMore n splits) (hnot : t.ownerId ∉ centMore n splits) : restOfCent n t ≤ restOfCent n s := by
  have hsorted : (inOrder n splits).Pairwise
      (fun a b => notAfter (restsByOwner n splits) (Exact.bpsByOwner splits) a b = true) := List.pairwise_insertionSort _ _
  have hmem : t.ownerId ∈ inOrder n splits := (inOrder_perm n splits).mem_iff.2 (List.mem_map_of_mem ht)
  obtain ⟨m, hm⟩ := slice_prefix (leftCents n splits) (inOrder n splits)
  unfold centMore at hmore hnot
  rw [hm] at hmore hnot
  have hbefore := Apportion.before_of_take hsorted hmore hmem hnot
  rw [notAfter_iff] at hbefore
  unfold sortKey restsByOwner at hbefore
  rw [getKey_owner hnd _ hs, getKey_owner hnd _ ht, Prod.Lex.toLex_le_toLex] at hbefore
  simp only [Option.getD_some, neg_lt_neg_iff, neg_inj] at hbefore
  have hle : (restOfCent n t : ℚ) / 10 ^ 6 ≤ (restOfCent n s : ℚ) / 10 ^ 6 := by
    rcases hbefore with h | ⟨h, -⟩
    · exact h.le
    · exact h.ge
  rw [div_le_div_iff_of_pos_right (by norm_num)] at hle
  exact_mod_cast hle

/-- A split with no part of a cent above zero gets no cent more. -/
theorem not_centMore (hnd : (splits.map (·.ownerId)).Nodup) (hsum : (splits.map (·.bps)).sum = 10000)
    (hleft : 0 ≤ leftCents n splits) {s : Split} (hs : s ∈ splits) (hrest : restOfCent n s ≤ 0) :
    s.ownerId ∉ centMore n splits := by
  intro hmore
  have hle : ∀ l : List Split, (∀ t ∈ l, t ∈ splits) →
      (l.map (restOfCent n)).sum ≤ 9999 * (l.map (fun t => if t.ownerId ∈ centMore n splits then (1 : Int) else 0)).sum := by
    intro l hl
    induction l with
    | nil => simp
    | cons t l ih =>
      have htail := ih (fun u hu => hl u (List.mem_cons_of_mem _ hu))
      have ht : restOfCent n t ≤ 9999 * (if t.ownerId ∈ centMore n splits then (1 : Int) else 0) := by
        have hlt := restOfCent_lt n t
        split
        · omega
        · rename_i hnot
          have hleast := rest_le_of_centMore hnd hs (hl t List.mem_cons_self) hmore hnot
          omega
      rw [List.map_cons, List.sum_cons, List.map_cons, List.sum_cons]
      omega
  have hgiven := sum_centMore (n := n) hnd
  have hsplits := hle splits (fun t ht => ht)
  rw [hgiven, sum_restOfCent hsum, length_centMore hsum hleft] at hsplits
  have hnone : (centMore n splits).length = 0 := by
    have hlen := length_centMore (n := n) hsum hleft
    omega
  rw [List.length_eq_zero_iff.1 hnone] at hmore
  exact absurd hmore List.not_mem_nil

/-! ## Nothing to share -/

/-- A dictionary all of whose values are one. -/
theorem setKey_const {m : List (String × ℚ)} (hm : ∀ e ∈ m, e.2 = 0) (key : String) : ∀ e ∈ setKey m key 0, e.2 = 0 := by
  unfold setKey
  intro e he
  split at he
  · obtain ⟨e', he', rfl⟩ := List.mem_map.1 he
    split
    · rfl
    · exact hm e' he'
  · rcases List.mem_append.1 he with he | he
    · exact hm e he
    · rw [List.mem_singleton.1 he]

theorem foldl_setKey_zero (l : List Split) (m : List (String × ℚ)) (hm : ∀ e ∈ m, e.2 = 0) :
    ∀ e ∈ l.foldl (fun m s => setKey m s.ownerId 0) m, e.2 = 0 := by
  induction l generalizing m with
  | nil => exact hm
  | cons s l ih => exact ih _ (setKey_const hm s.ownerId)

/-- Sums of nothing are nothing. -/
theorem foldl_context_zero (l : List (String × ℚ)) (hl : ∀ e ∈ l, e.2 = 0) : l.foldl (fun sum e => context (sum + e.2)) 0 = 0 := by
  induction l with
  | nil => rfl
  | cons e l ih =>
    have hzero : context (0 + e.2) = 0 := by
      rw [hl e List.mem_cons_self, zero_add]
      exact if_pos rfl
    rw [List.foldl_cons, hzero]
    exact ih (fun e he => hl e (List.mem_cons_of_mem _ he))

/-- A pool of nothing is shared as nothing, whatever the splits. -/
theorem computeRoyalty_zero (hsum : (splits.map (·.bps)).sum = 10000) {gross : ℚ} (hgross : roundHalfEven (gross * 100) = 0) :
    computeRoyalty gross splits = .ok (splits.map (fun s => (s.ownerId, 0))) := by
  have hcontext : context 0 = 0 := if_pos rfl
  have htruncate : truncate 0 = 0 := truncate_intCast 0
  have hquantize : quantizeCent gross = .ok 0 := by
    unfold quantizeCent
    rw [hgross]
    exact congrArg Except.ok (zero_div _)
  have hshare : ∀ s : Split, rawShare 0 s = 0 := by
    intro s
    unfold rawShare
    rw [zero_mul, hcontext, zero_div, hcontext]
  have hdown : quantizeCentDown 0 = .ok 0 := by
    unfold quantizeCentDown
    rw [zero_mul, htruncate]
    exact congrArg Except.ok (zero_div _)
  obtain ⟨floored, hfloored, hzero⟩ : ∃ floored, floors 0 splits = .ok floored ∧ ∀ e ∈ floored, e.2 = 0 := by
    refine ⟨_, byOwner_ok (g := fun _ => 0) (fun s _ => ?_) [], foldl_setKey_zero splits [] (fun e he => absurd he List.not_mem_nil)⟩
    rw [hshare s, hdown]
  have hget : ∀ owner, (getKey floored owner).getD 0 = 0 := by
    intro owner
    cases hfind : getKey floored owner with
    | none => rfl
    | some q =>
      obtain ⟨e, he, rfl⟩ := Option.map_eq_some_iff.1 hfind
      exact hzero e (List.mem_of_find?_eq_some he)
  have hdistribute : distributeSplits 0 splits = .ok (splits.map (fun s => (s.ownerId, 0))) := by
    unfold distributeSplits
    dsimp only
    rw [if_neg (not_not.2 hsum), hfloored]
    change (do
      let remainders ← byOwner (fun s => .ok (context (rawShare 0 s - (getKey floored s.ownerId).getD 0))) splits []
      _) = _
    rw [byOwner_ok (g := fun s => context (rawShare 0 s - (getKey floored s.ownerId).getD 0)) (fun s _ => rfl)]
    change (do
      let bps ← byOwner (fun s => .ok s.bps) splits []
      _) = _
    rw [byOwner_ok (g := fun s => s.bps) (fun s _ => rfl)]
    change Except.ok _ = _
    rw [foldl_context_zero floored hzero, zero_div, hcontext, htruncate, sub_zero]
    have hnone : ∀ owners : List String, slice 0 owners = [] := fun owners => rfl
    rw [hnone]
    refine congrArg Except.ok (List.map_congr_left fun s _ => Prod.ext rfl ?_)
    exact hget s.ownerId
  unfold computeRoyalty
  rw [hquantize]
  change (do
    let payouts ← distributeSplits 0 splits
    _) = _
  rw [hdistribute]
  have hnothing : ∀ e ∈ splits.map (fun s => (s.ownerId, (0 : ℚ))), e.2 = 0 := by
    intro e he
    obtain ⟨s, -, rfl⟩ := List.mem_map.1 he
    rfl
  change (if (splits.map (fun s => (s.ownerId, (0 : ℚ)))).foldl (fun sum p => context (sum + p.2)) 0 ≠ 0 then _ else Except.ok _) = _
  rw [foldl_context_zero _ hnothing, if_neg (not_not.2 rfl)]

/-- A pool with more digits than the context is refused. -/
theorem computeRoyalty_invalid {gross : ℚ} (hgross : 10 ^ 28 ≤ (roundHalfEven (gross * 100)).natAbs) :
    computeRoyalty gross splits = .error .invalidOperation := by
  unfold computeRoyalty quantizeCent coefficient
  rw [if_neg (Nat.not_lt.2 hgross)]
  rfl

end RoyaltyGateway

end Archisynapse
