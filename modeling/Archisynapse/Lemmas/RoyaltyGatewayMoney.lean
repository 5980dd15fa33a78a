import Archisynapse.Base.Apportion
import Archisynapse.Base.Digits
import Archisynapse.Lemmas.RoyaltyMaps
import Archisynapse.RoyaltyGateway.MoneyMath
import Mathlib.Data.Prod.Lex
import Mathlib.Data.Rat.Floor
import Mathlib.Tactic.FieldSimp

/-!
# The money math, exactly

With distinct owners the dictionaries are the splits themselves, the sort is one by a key, and the cents left over are fewer than
the splits (`Base/Apportion.lean`).
-/

namespace Archisynapse

namespace RoyaltyGateway

open Royalty (setKey getKey truncate getKey_setKey foldl_setKey getKey_map)

/-! ## Dictionaries -/

section

variable {β : Type}

variable {splits : List Split}

/-- The dictionary of splits with distinct owners. -/
theorem Exact.byOwner_eq (hnd : (splits.map (·.ownerId)).Nodup) (f : Split → β) :
    Exact.byOwner f splits = splits.map (fun s => (s.ownerId, f s)) := foldl_setKey hnd f

/-- What such a dictionary has for an owner. -/
theorem getKey_owner (hnd : (splits.map (·.ownerId)).Nodup) (f : Split → β) {s : Split} (hs : s ∈ splits) :
    getKey (splits.map (fun s => (s.ownerId, f s))) s.ownerId = some (f s) := getKey_map hnd f hs

end

/-- A cent more for each owner it is given to. -/
theorem Exact.getD_giveCents {owners : List String} (hnd : owners.Nodup) (m : List (String × ℚ)) (key : String) :
    (getKey (Exact.giveCents owners m) key).getD 0 = (getKey m key).getD 0 + if key ∈ owners then 1 / 100 else 0 := by
  unfold Exact.giveCents
  induction owners generalizing m with
  | nil => simp
  | cons owner owners ih =>
    rw [List.nodup_cons] at hnd
    rw [List.foldl_cons, ih hnd.2, getKey_setKey]
    by_cases hk : owner = key
    · subst hk
      rw [if_pos rfl, if_neg hnd.1, if_pos List.mem_cons_self]
      simp
    · rw [if_neg hk]
      congr 1
      simp [Ne.symm hk]

/-! ## The order -/

/-- `(-remainders[owner_id], -bps_by_owner[owner_id], owner_id)` -/
def sortKey (remainders : List (String × ℚ)) (bps : List (String × Int)) (owner : String) : ℚ ×ₗ Int ×ₗ List Nat :=
  toLex (-(getKey remainders owner).getD 0, toLex (-(getKey bps owner).getD 0, owner.toList.map Char.toNat))

theorem sortKey_injective (remainders : List (String × ℚ)) (bps : List (String × Int)) :
    Function.Injective (sortKey remainders bps) := by
  intro a b h
  have hcodes : a.toList.map Char.toNat = b.toList.map Char.toNat := congrArg (fun k => (ofLex (ofLex k).2).2) h
  have hchars : Function.Injective Char.toNat := fun c d h => Char.ext (UInt32.toNat_inj.1 h)
  exact String.toList_inj.1 (List.map_injective_iff.2 hchars hcodes)

/-- The comparison of the sort compares the keys. -/
theorem notAfter_iff (remainders : List (String × ℚ)) (bps : List (String × Int)) (a b : String) :
    notAfter remainders bps a b = true ↔ sortKey remainders bps a ≤ sortKey remainders bps b := by
  unfold notAfter sortKey textAtMost
  rw [Prod.Lex.toLex_le_toLex, Prod.Lex.toLex_le_toLex]
  simp only [Bool.or_eq_true, Bool.and_eq_true, decide_eq_true_eq, neg_lt_neg_iff, neg_inj]
  constructor
  · rintro (h | ⟨h, h' | ⟨h', h''⟩⟩)
    · exact Or.inl h
    · exact Or.inr ⟨h.symm, Or.inl h'⟩
    · exact Or.inr ⟨h.symm, Or.inr ⟨h'.symm, h''⟩⟩
  · rintro (h | ⟨h, h' | ⟨h', h''⟩⟩)
    · exact Or.inl h
    · exact Or.inr ⟨h.symm, Or.inl h'⟩
    · exact Or.inr ⟨h.symm, Or.inr ⟨h'.symm, h''⟩⟩

section

variable (remainders : List (String × ℚ)) (bps : List (String × Int))

instance : Std.Total (fun a b => notAfter remainders bps a b = true) where
  total a b := by
    rw [notAfter_iff, notAfter_iff]
    exact le_total _ _

instance : IsTrans String (fun a b => notAfter remainders bps a b = true) where
  trans a b c h h' := by
    rw [notAfter_iff] at h h' ⊢
    exact h.trans h'

instance : Std.Antisymm (fun a b => notAfter remainders bps a b = true) where
  antisymm a b h h' := by
    rw [notAfter_iff] at h h'
    exact sortKey_injective remainders bps (le_antisymm h h')

end

/-! ## Shares -/

namespace Exact

variable {n : Nat} {splits : List Split}

/-- The share of a split in whole cents, and its remainder in ten-thousandths of a cent. -/
def units (n : Nat) (s : Split) : Int := n * s.bps

theorem truncate_of_nonneg {q : ℚ} (h : 0 ≤ q) : truncate q = ⌊q⌋ := if_pos h

theorem quantizeCentDown_rawShare {s : Split} (hs : 0 ≤ s.bps) :
    quantizeCentDown (rawShare (n / 100) s) = ((units n s / 10000 : Int) : ℚ) / 100 := by
  have hshare : rawShare (n / 100) s * 100 = ((units n s : Int) : ℚ) / ((10000 : Nat) : ℚ) := by
    unfold rawShare units
    push_cast
    ring
  have hnonneg : (0 : ℚ) ≤ ((units n s : Int) : ℚ) / ((10000 : Nat) : ℚ) := by
    have hunits : 0 ≤ units n s := mul_nonneg (Int.natCast_nonneg n) hs
    positivity
  unfold quantizeCentDown
  rw [hshare, truncate_of_nonneg hnonneg, Rat.floor_intCast_div_natCast]
  rfl

theorem truncate_pool : truncate ((n / 100 : ℚ) / (1 / 100)) = n := by
  have hpool : (n / 100 : ℚ) / (1 / 100) = ((n : Int) : ℚ) := by
    push_cast
    ring
  rw [hpool, truncate_of_nonneg (by positivity), Int.floor_intCast]

/-- The cents that the shares, rounded down, make up. -/
theorem truncate_floors (hpos : ∀ s ∈ splits, 0 ≤ s.bps) :
    truncate ((splits.map (fun s => quantizeCentDown (rawShare (n / 100) s))).sum / (1 / 100)) =
      (splits.map (fun s => units n s / 10000)).sum := by
  have hsum : (splits.map (fun s => quantizeCentDown (rawShare (n / 100) s))).sum / (1 / 100) =
      (((splits.map (fun s => units n s / 10000)).sum : Int) : ℚ) := by
    induction splits with
    | nil => simp
    | cons s splits ih =>
      have htail := ih (fun t ht => hpos t (List.mem_cons_of_mem _ ht))
      rw [List.map_cons, List.sum_cons, List.map_cons, List.sum_cons, add_div, htail,
        quantizeCentDown_rawShare (hpos s List.mem_cons_self)]
      push_cast
      ring
  have hnonneg : 0 ≤ (splits.map (fun s => units n s / 10000)).sum := by
    refine List.sum_nonneg (fun x hx => ?_)
    obtain ⟨s, hs, rfl⟩ := List.mem_map.1 hx
    exact Int.ediv_nonneg (mul_nonneg (Int.natCast_nonneg n) (hpos s hs)) (by decide)
  rw [hsum, truncate_of_nonneg (by exact_mod_cast hnonneg), Int.floor_intCast]

/-- The shares of a pool make up the pool. -/
theorem sum_units (hsum : (splits.map (·.bps)).sum = 10000) : (splits.map (units n)).sum = 10000 * (n : Int) := by
  have hmul : ∀ l : List Split, (l.map (units n)).sum = n * (l.map (·.bps)).sum := by
    intro l
    induction l with
    | nil => simp
    | cons s l ih =>
      rw [List.map_cons, List.sum_cons, ih, List.map_cons, List.sum_cons, mul_add]
      rfl
  rw [hmul, hsum, mul_comm]

/-! ## The distribution -/

/-- The dictionaries of splits with distinct owners: the shares rounded down to the cent, their remainders and their bps. -/
def floored (n : Nat) (splits : List Split) : List (String × ℚ) :=
  splits.map (fun s => (s.ownerId, quantizeCentDown (rawShare (n / 100) s)))

def remainders (n : Nat) (splits : List Split) : List (String × ℚ) := splits.map (fun s => (s.ownerId, remainder (n / 100) s))

def bpsByOwner (splits : List Split) : List (String × Int) := splits.map (fun s => (s.ownerId, s.bps))

/-- The owners in the order of the sort. -/
def ordering (n : Nat) (splits : List Split) : List String :=
  (splits.map (·.ownerId)).insertionSort (fun a b => notAfter (remainders n splits) (bpsByOwner splits) a b = true)

/-- The owners that get a cent more: the first ones, as many as cents are left over. -/
def given (n : Nat) (splits : List Split) : List String :=
  (ordering n splits).take (Apportion.left (units n) 10000 n splits).toNat

/-- What is paid: each split's share rounded down to the cent, and a cent more for the owners it is given to. -/
def payouts (n : Nat) (splits : List Split) : List (String × ℚ) :=
  splits.map (fun s => (s.ownerId, quantizeCentDown (rawShare (n / 100) s) + if s.ownerId ∈ given n splits then 1 / 100 else 0))

theorem ordering_perm (n : Nat) (splits : List Split) : (ordering n splits).Perm (splits.map (·.ownerId)) :=
  List.perm_insertionSort _ _

theorem given_sublist (n : Nat) (splits : List Split) : (given n splits).Sublist (ordering n splits) := List.take_sublist _ _

theorem given_nodup (hnd : (splits.map (·.ownerId)).Nodup) : (given n splits).Nodup :=
  ((ordering_perm n splits).nodup_iff.2 hnd).sublist (given_sublist n splits)

theorem given_owner {owner : String} (h : owner ∈ given n splits) : owner ∈ splits.map (·.ownerId) :=
  (ordering_perm n splits).subset ((given_sublist n splits).subset h)

theorem splits_ne_nil (hsum : (splits.map (·.bps)).sum = 10000) : splits ≠ [] := by
  rintro rfl
  cases hsum

theorem given_length (hsum : (splits.map (·.bps)).sum = 10000) :
    ((given n splits).length : Int) = Apportion.left (units n) 10000 n splits := by
  have hnonneg := Apportion.left_nonneg (units n) (by decide) (sum_units (n := n) hsum)
  have hlt := Apportion.left_lt_length (units n) (by decide) (splits_ne_nil hsum) (sum_units (n := n) hsum)
  have hlen : (ordering n splits).length = splits.length := by
    rw [(ordering_perm n splits).length_eq, List.length_map]
  unfold given
  rw [List.length_take, hlen]
  omega

theorem byOwner_floored (hnd : (splits.map (·.ownerId)).Nodup) :
    byOwner (fun s => quantizeCentDown (rawShare (n / 100) s)) splits = floored n splits := byOwner_eq hnd _

theorem byOwner_remainders (hnd : (splits.map (·.ownerId)).Nodup) :
    byOwner (fun s => rawShare (n / 100) s - (getKey (floored n splits) s.ownerId).getD 0) splits = remainders n splits := by
  rw [byOwner_eq hnd]
  refine List.map_congr_left (fun s hs => ?_)
  unfold floored
  rw [getKey_owner hnd _ hs]
  rfl

/-- The cents left over, as they are computed. -/
theorem leftover_eq (hpos : ∀ s ∈ splits, 0 ≤ s.bps) :
    truncate ((n / 100 : ℚ) / (1 / 100)) - truncate (((floored n splits).map (·.2)).sum / (1 / 100)) =
      Apportion.left (units n) 10000 n splits := by
  unfold floored
  rw [List.map_map, truncate_pool]
  change (n : Int) - truncate ((splits.map (fun s => quantizeCentDown (rawShare (n / 100) s))).sum / (1 / 100)) = _
  rw [truncate_floors hpos]
  rfl

/-- `distribute_splits` pays what is said above. -/
theorem distributeSplits_eq (hnd : (splits.map (·.ownerId)).Nodup) (hpos : ∀ s ∈ splits, 0 ≤ s.bps)
    (hsum : (splits.map (·.bps)).sum = 10000) : distributeSplits (n / 100) splits = .ok (payouts n splits) := by
  have hbps : byOwner (·.bps) splits = bpsByOwner splits := byOwner_eq hnd _
  have hslice : slice (Apportion.left (units n) 10000 n splits) (ordering n splits) = given n splits :=
    if_pos (Apportion.left_nonneg (units n) (by decide) (sum_units hsum))
  unfold distributeSplits
  dsimp only
  rw [if_neg (not_not.2 hsum), byOwner_floored hnd, byOwner_remainders hnd, hbps, leftover_eq hpos]
  change Except.ok (splits.map (fun s => (s.ownerId, (getKey (giveCents (slice (Apportion.left (units n) 10000 n splits)
    (ordering n splits)) _) s.ownerId).getD 0))) = _
  rw [hslice]
  refine congrArg Except.ok (List.map_congr_left (fun s hs => ?_))
  unfold floored
  rw [getD_giveCents (given_nodup hnd), getKey_owner hnd _ hs]
  rfl

/-- The payouts make up the pool. -/
theorem payouts_sum (hnd : (splits.map (·.ownerId)).Nodup) (hpos : ∀ s ∈ splits, 0 ≤ s.bps)
    (hsum : (splits.map (·.bps)).sum = 10000) : ((payouts n splits).map Prod.snd).sum = n / 100 := by
  have hcents : ∀ l : List Split, (∀ s ∈ l, 0 ≤ s.bps) →
      (l.map (fun s => quantizeCentDown (rawShare (n / 100) s) + if s.ownerId ∈ given n splits then 1 / 100 else 0)).sum =
        (((l.map (fun s => units n s / 10000)).sum + (l.map (fun s => if s.ownerId ∈ given n splits then (1 : Int) else 0)).sum :
          Int) : ℚ) / 100 := by
    intro l hl
    induction l with
    | nil => simp
    | cons s l ih =>
      rw [List.map_cons, List.sum_cons, ih (fun t ht => hl t (List.mem_cons_of_mem _ ht)), List.map_cons, List.sum_cons,
        List.map_cons, List.sum_cons, quantizeCentDown_rawShare (hl s List.mem_cons_self)]
      push_cast
      split <;> ring
  have hgiven := Apportion.sum_given hnd (given_nodup (n := n) hnd) (fun k hk => given_owner hk)
  unfold payouts
  rw [List.map_map]
  change (splits.map (fun s => quantizeCentDown (rawShare (n / 100) s) + if s.ownerId ∈ given n splits then 1 / 100 else 0)).sum = _
  rw [hcents splits hpos, hgiven, given_length hsum]
  unfold Apportion.left
  rw [add_sub_cancel]
  rfl

/-- The owners that get a cent more come before the others. -/
theorem given_before (hnd : (splits.map (·.ownerId)).Nodup) {s t : Split} (hs : s ∈ splits) (ht : t ∈ splits)
    (hgiven : s.ownerId ∈ given n splits) (hnot : t.ownerId ∉ given n splits) : Before (n / 100) s t := by
  have hsorted : (ordering n splits).Pairwise (fun a b => notAfter (remainders n splits) (bpsByOwner splits) a b = true) :=
    List.pairwise_insertionSort _ _
  have hmem : t.ownerId ∈ ordering n splits := (ordering_perm n splits).mem_iff.2 (List.mem_map_of_mem ht)
  have hbefore := Apportion.before_of_take hsorted hgiven hmem hnot
  rw [notAfter_iff] at hbefore
  have hne : sortKey (remainders n splits) (bpsByOwner splits) s.ownerId ≠ sortKey (remainders n splits) (bpsByOwner splits) t.ownerId := by
    intro he
    rw [sortKey_injective _ _ he] at hgiven
    exact hnot hgiven
  have hlt := lt_of_le_of_ne hbefore hne
  unfold sortKey remainders bpsByOwner at hlt
  rw [getKey_owner hnd _ hs, getKey_owner hnd _ hs, getKey_owner hnd _ ht, getKey_owner hnd _ ht] at hlt
  rw [Prod.Lex.toLex_lt_toLex, Prod.Lex.toLex_lt_toLex] at hlt
  simp only [Option.getD_some, neg_lt_neg_iff, neg_inj] at hlt
  rcases hlt with h | ⟨h, h' | ⟨h', h''⟩⟩
  · exact Or.inl h
  · exact Or.inr ⟨h.symm, Or.inl h'⟩
  · exact Or.inr ⟨h.symm, Or.inr ⟨h'.symm, h''⟩⟩

/-- The order of the splits does not matter for who gets a cent more. -/
theorem given_perm {splits' : List Split} (hnd : (splits.map (·.ownerId)).Nodup) (h : splits'.Perm splits) :
    given n splits' = given n splits := by
  have hget : ∀ {β : Type} (f : Split → β) (owner : String), getKey (splits'.map (fun s => (s.ownerId, f s))) owner =
      getKey (splits.map (fun s => (s.ownerId, f s))) owner := by
    intro β f owner
    have hnd' : (splits'.map (·.ownerId)).Nodup := (h.map _).nodup_iff.2 hnd
    by_cases hmem : ∃ s ∈ splits, s.ownerId = owner
    · obtain ⟨s, hs, rfl⟩ := hmem
      rw [getKey_owner hnd f hs, getKey_owner hnd' f (h.mem_iff.2 hs)]
    · have hnone : ∀ l : List Split, (∀ s ∈ l, s ∈ splits) → getKey (l.map (fun s => (s.ownerId, f s))) owner = none := by
        intro l hl
        refine Option.map_eq_none_iff.2 (List.find?_eq_none.2 (fun e he hk => hmem ?_))
        obtain ⟨s, hs, rfl⟩ := List.mem_map.1 he
        exact ⟨s, hl s hs, of_decide_eq_true hk⟩
      rw [hnone splits' (fun s hs => h.mem_iff.1 hs), hnone splits (fun s hs => hs)]
  have hrel : ∀ a b, notAfter (remainders n splits') (bpsByOwner splits') a b = notAfter (remainders n splits) (bpsByOwner splits) a b := by
    intro a b
    unfold notAfter remainders bpsByOwner
    simp only [hget]
  have hordering : ordering n splits' = ordering n splits := by
    have hsorted' : (ordering n splits').Pairwise (fun a b => notAfter (remainders n splits) (bpsByOwner splits) a b = true) := by
      have hsorted := List.pairwise_insertionSort (fun a b => notAfter (remainders n splits') (bpsByOwner splits') a b = true)
        (splits'.map (·.ownerId))
      exact hsorted.imp (fun hab => (hrel _ _).symm.trans hab)
    refine List.Perm.eq_of_pairwise' hsorted' (List.pairwise_insertionSort _ _) ?_
    exact (ordering_perm n splits').trans ((h.map _).trans (ordering_perm n splits).symm)
  have hleft : Apportion.left (units n) 10000 n splits' = Apportion.left (units n) 10000 n splits := by
    unfold Apportion.left
    rw [(h.map _).sum_eq]
  unfold given
  rw [hordering, hleft]

end Exact

/-! ## Within the digits of the context -/

theorem roundHalfEven_intCast (z : Int) : roundHalfEven z = z := by
  unfold roundHalfEven
  rw [Int.floor_intCast]
  simp

/-- A decimal that has no more digits than the context is not rounded. -/
theorem context_of_digits {k : Int} (hk : k.natAbs < 10 ^ 28) (j : Nat) : context (k / 10 ^ j) = k / 10 ^ j := by
  unfold context
  split
  · rename_i h
    exact h.symm
  · rename_i hne
    exact round_digits roundHalfEven_intCast hk j hne

/-- An amount of whole cents, not more than a bound. -/
def CentsTo (bound : Int) (q : ℚ) : Prop := ∃ c : Int, 0 ≤ c ∧ c ≤ bound ∧ q = c / 100

theorem CentsTo.context {bound : Int} (hb : bound < 10 ^ 28) {q : ℚ} (h : CentsTo bound q) : context q = q := by
  obtain ⟨c, hc, hle, rfl⟩ := h
  have hk := context_of_digits (k := c) (by omega) 2
  norm_num at hk
  exact hk

section

variable {n : Nat} {splits : List Split}

/-- A share is not rounded. -/
theorem rawShare_exact (hn : n < 10 ^ 24) {s : Split} (hs : 0 ≤ s.bps) (hle : s.bps ≤ 10000) :
    rawShare (n / 100) s = Exact.rawShare (n / 100) s := by
  have hunits : 0 ≤ Exact.units n s := mul_nonneg (Int.natCast_nonneg n) hs
  have hbound : Exact.units n s ≤ n * 10000 := mul_le_mul_of_nonneg_left hle (Int.natCast_nonneg n)
  have hmul : (n / 100 : ℚ) * s.bps = (Exact.units n s : ℚ) / 10 ^ 2 := by
    unfold Exact.units
    push_cast
    ring
  have hdiv : (Exact.units n s : ℚ) / 10 ^ 2 / 10000 = (Exact.units n s : ℚ) / 10 ^ 6 := by
    norm_num
    ring
  unfold rawShare
  rw [hmul, context_of_digits (by omega), hdiv, context_of_digits (by omega), ← hdiv, ← hmul]
  rfl

/-- A part of a whole is at most the whole. -/
theorem bps_le (hpos : ∀ s ∈ splits, 0 ≤ s.bps) (hsum : (splits.map (·.bps)).sum = 10000) {s : Split} (hs : s ∈ splits) :
    s.bps ≤ 10000 := by
  rw [← hsum]
  refine List.single_le_sum (fun x hx => ?_) _ (List.mem_map_of_mem hs)
  obtain ⟨t, ht, rfl⟩ := List.mem_map.1 hx
  exact hpos t ht

/-- A dictionary none of whose values fails to be made. -/
theorem byOwner_ok {β : Type} {f : Split → Except MoneyError β} {g : Split → β} {l : List Split} (h : ∀ s ∈ l, f s = .ok (g s))
    (m : List (String × β)) : byOwner f l m = .ok (l.foldl (fun m s => setKey m s.ownerId (g s)) m) := by
  induction l generalizing m with
  | nil => rfl
  | cons s l ih =>
    unfold byOwner
    rw [h s List.mem_cons_self]
    exact ih (fun t ht => h t (List.mem_cons_of_mem _ ht)) _

/-- A share rounded down to the cent has no more digits than the context. -/
theorem quantizeCentDown_exact (hn : n < 10 ^ 24) {s : Split} (hs : 0 ≤ s.bps) (hle : s.bps ≤ 10000) :
    quantizeCentDown (Exact.rawShare (n / 100) s) = .ok (Exact.quantizeCentDown (Exact.rawShare (n / 100) s)) := by
  have hunits : 0 ≤ Exact.units n s := mul_nonneg (Int.natCast_nonneg n) hs
  have hbound : Exact.units n s ≤ n * 10000 := mul_le_mul_of_nonneg_left hle (Int.natCast_nonneg n)
  have htrunc : truncate (Exact.rawShare (n / 100) s * 100) = Exact.units n s / 10000 := by
    have hcents := Exact.quantizeCentDown_rawShare (n := n) hs
    unfold Exact.quantizeCentDown at hcents
    have hcast : (truncate (Exact.rawShare (n / 100) s * 100) : ℚ) = ((Exact.units n s / 10000 : Int) : ℚ) := by
      linarith
    exact_mod_cast hcast
  have hquot : 0 ≤ Exact.units n s / 10000 ∧ Exact.units n s / 10000 ≤ n := by omega
  unfold quantizeCentDown Exact.quantizeCentDown coefficient
  rw [htrunc, if_pos (by omega)]
  rfl

/-- Sums of cents are not rounded while the total is within the digits. -/
theorem foldl_context (hn : n < 10 ^ 24) (l : List Int) (hl : ∀ c ∈ l, 0 ≤ c) (a : Int) (ha : 0 ≤ a) (hsum : a + l.sum ≤ n) :
    l.foldl (fun (sum : ℚ) (c : Int) => context (sum + (c : ℚ) / 100)) ((a : ℚ) / 100) = ((a + l.sum : Int) : ℚ) / 100 := by
  induction l generalizing a with
  | nil => simp
  | cons c l ih =>
    have hc := hl c List.mem_cons_self
    have htail : 0 ≤ l.sum := List.sum_nonneg (fun x hx => hl x (List.mem_cons_of_mem _ hx))
    rw [List.sum_cons] at hsum
    have hadd : (a : ℚ) / 100 + (c : ℚ) / 100 = ((a + c : Int) : ℚ) / 100 := by
      push_cast
      ring
    have hexact : context (((a + c : Int) : ℚ) / 100) = ((a + c : Int) : ℚ) / 100 :=
      have hcents : CentsTo (n : Int) (((a + c : Int) : ℚ) / 100) := ⟨a + c, by omega, by omega, rfl⟩
      hcents.context (by omega)
    rw [List.foldl_cons, hadd, hexact, ih (fun x hx => hl x (List.mem_cons_of_mem _ hx)) (a + c) (by omega) (by omega),
      List.sum_cons, add_assoc]

/-- Cents that are given are not rounded while the amounts are within the digits. -/
theorem giveCents_exact {owners : List String} {bound : Int} (hbound : 0 ≤ bound) (hdigits : bound + owners.length < 10 ^ 28)
    {m : List (String × ℚ)} (hm : ∀ key, CentsTo bound ((getKey m key).getD 0)) :
    giveCents owners m = Exact.giveCents owners m := by
  unfold giveCents Exact.giveCents
  induction owners generalizing bound m with
  | nil => rfl
  | cons owner owners ih =>
    rw [List.length_cons] at hdigits
    obtain ⟨c, hc, hle, hvalue⟩ := hm owner
    have hadd : CentsTo (bound + 1) ((getKey m owner).getD 0 + 1 / 100) := by
      refine ⟨c + 1, by omega, by omega, ?_⟩
      rw [hvalue]
      push_cast
      ring
    rw [List.foldl_cons, List.foldl_cons, hadd.context (by omega)]
    have hnext : ∀ key, CentsTo (bound + 1) ((getKey (setKey m owner ((getKey m owner).getD 0 + 1 / 100)) key).getD 0) := by
      intro key
      rw [getKey_setKey]
      split
      · exact hadd
      · obtain ⟨c', hc', hle', hvalue'⟩ := hm key
        exact ⟨c', hc', by omega, hvalue'⟩
    exact ih (by omega) (by omega) hnext

/-- A remainder is not rounded. -/
theorem remainder_exact {s : Split} (hs : 0 ≤ s.bps) :
    context (Exact.rawShare (n / 100) s - Exact.quantizeCentDown (Exact.rawShare (n / 100) s)) =
      Exact.rawShare (n / 100) s - Exact.quantizeCentDown (Exact.rawShare (n / 100) s) := by
  have hrest : Exact.rawShare (n / 100) s - ((Exact.units n s / 10000 : Int) : ℚ) / 100 =
      ((Exact.units n s % 10000 : Int) : ℚ) / 10 ^ 6 := by
    have hsplit : (Exact.units n s : ℚ) = ((Exact.units n s / 10000 : Int) : ℚ) * 10000 + ((Exact.units n s % 10000 : Int) : ℚ) := by
      exact_mod_cast (Int.ediv_mul_add_emod (Exact.units n s) 10000).symm
    have hraw : Exact.rawShare (n / 100) s = (Exact.units n s : ℚ) / 10 ^ 6 := by
      unfold Exact.rawShare Exact.units
      push_cast
      ring
    rw [hraw, hsplit]
    ring
  rw [Exact.quantizeCentDown_rawShare hs, hrest, context_of_digits (by omega)]

/-- The shares in whole cents are not negative and not more than the pool together. -/
theorem sum_floors (hpos : ∀ s ∈ splits, 0 ≤ s.bps) (hsum : (splits.map (·.bps)).sum = 10000) :
    (∀ s ∈ splits, 0 ≤ Exact.units n s / 10000) ∧ 0 ≤ (splits.map (fun s => Exact.units n s / 10000)).sum ∧
      (splits.map (fun s => Exact.units n s / 10000)).sum ≤ n := by
  have hunits : ∀ s ∈ splits, 0 ≤ Exact.units n s / 10000 :=
    fun s hs => Int.ediv_nonneg (mul_nonneg (Int.natCast_nonneg n) (hpos s hs)) (by decide)
  refine ⟨hunits, List.sum_nonneg (fun x hx => ?_), ?_⟩
  · obtain ⟨s, hs, rfl⟩ := List.mem_map.1 hx
    exact hunits s hs
  · have hleft := Apportion.left_nonneg (Exact.units n) (by decide) (Exact.sum_units (n := n) hsum)
    unfold Apportion.left at hleft
    omega

/-- The sum of the shares rounded down is not rounded. -/
theorem sum_floored_exact (hn : n < 10 ^ 24) (hpos : ∀ s ∈ splits, 0 ≤ s.bps) (hsum : (splits.map (·.bps)).sum = 10000) :
    (Exact.floored n splits).foldl (fun sum e => context (sum + e.2)) 0 = ((Exact.floored n splits).map (·.2)).sum ∧
      context (((Exact.floored n splits).map (·.2)).sum / (1 / 100)) = ((Exact.floored n splits).map (·.2)).sum / (1 / 100) := by
  obtain ⟨hunits, hnonneg, hmost⟩ := sum_floors (n := n) hpos hsum
  have hcents : (Exact.floored n splits).map (·.2) =
      (splits.map (fun s => Exact.units n s / 10000)).map (fun (c : Int) => (c : ℚ) / 100) := by
    unfold Exact.floored
    rw [List.map_map, List.map_map]
    exact List.map_congr_left (fun s hs => Exact.quantizeCentDown_rawShare (hpos s hs))
  have htotal : ((splits.map (fun s => Exact.units n s / 10000)).map (fun (c : Int) => (c : ℚ) / 100)).sum =
      ((splits.map (fun s => Exact.units n s / 10000)).sum : Int) / 100 := by
    generalize splits.map (fun s => Exact.units n s / 10000) = l
    induction l with
    | nil => simp
    | cons c l ih =>
      rw [List.map_cons, List.sum_cons, ih, List.sum_cons]
      push_cast
      ring
  have hvalues : (Exact.floored n splits).foldl (fun sum e => context (sum + e.2)) 0 =
      ((Exact.floored n splits).map (·.2)).foldl (fun sum q => context (sum + q)) 0 := by
    rw [List.foldl_map]
  have hrun := foldl_context hn (splits.map (fun s => Exact.units n s / 10000)) (fun c hc => by
    obtain ⟨s, hs, rfl⟩ := List.mem_map.1 hc
    exact hunits s hs) 0 le_rfl (by omega)
  rw [Int.cast_zero, zero_div, zero_add] at hrun
  rw [hvalues, hcents, htotal, List.foldl_map]
  refine ⟨hrun, ?_⟩
  have hk := context_of_digits (k := (splits.map (fun s => Exact.units n s / 10000)).sum) (by omega) 0
  have heq : (((splits.map (fun s => Exact.units n s / 10000)).sum : Int) : ℚ) / 100 / (1 / 100) =
      (((splits.map (fun s => Exact.units n s / 10000)).sum : Int) : ℚ) / 10 ^ 0 := by
    ring
  rw [heq]
  exact hk

/-- A pool of cents is not rounded. -/
theorem pool_exact (hn : n < 10 ^ 24) : context ((n / 100 : ℚ) / (1 / 100)) = (n / 100 : ℚ) / (1 / 100) := by
  have hk := context_of_digits (k := n) (by omega) 0
  have heq : (n / 100 : ℚ) / (1 / 100) = ((n : Int) : ℚ) / 10 ^ 0 := by
    push_cast
    ring
  rw [heq]
  exact hk

/-- Every share rounded down is one of at most the pool. -/
theorem floored_centsTo (hpos : ∀ s ∈ splits, 0 ≤ s.bps) (hsum : (splits.map (·.bps)).sum = 10000) (key : String) :
    CentsTo n ((getKey (Exact.floored n splits) key).getD 0) := by
  cases hget : getKey (Exact.floored n splits) key with
  | none => exact ⟨0, le_rfl, Int.natCast_nonneg n, by simp⟩
  | some q =>
    obtain ⟨e, he, rfl⟩ := Option.map_eq_some_iff.1 hget
    obtain ⟨s, hs, rfl⟩ := List.mem_map.1 (List.mem_of_find?_eq_some he)
    have hbound : Exact.units n s ≤ n * 10000 := mul_le_mul_of_nonneg_left (bps_le hpos hsum hs) (Int.natCast_nonneg n)
    exact ⟨_, (sum_floors hpos hsum).1 s hs, by omega, Exact.quantizeCentDown_rawShare (hpos s hs)⟩

/-- Not more owners get a cent than there are cents. -/
theorem length_slice_le (hpos : ∀ s ∈ splits, 0 ≤ s.bps) (hsum : (splits.map (·.bps)).sum = 10000) (owners : List String) :
    ((slice (Apportion.left (Exact.units n) 10000 n splits) owners).length : Int) ≤ n := by
  have hnonneg := Apportion.left_nonneg (Exact.units n) (by decide) (Exact.sum_units (n := n) hsum)
  have hmost : Apportion.left (Exact.units n) 10000 n splits ≤ n := by
    have hfloors := (sum_floors (n := n) hpos hsum).2.1
    unfold Apportion.left
    omega
  unfold slice
  rw [if_pos hnonneg, List.length_take]
  omega

/-- Below `10 ^ 24` cents, `distribute_splits` on Python's decimals is the one on exact numbers. -/
theorem distributeSplits_exact (hn : n < 10 ^ 24) (hnd : (splits.map (·.ownerId)).Nodup) (hpos : ∀ s ∈ splits, 0 ≤ s.bps)
    (hsum : (splits.map (·.bps)).sum = 10000) : distributeSplits (n / 100) splits = Exact.distributeSplits (n / 100) splits := by
  have hshare : ∀ s ∈ splits, rawShare (n / 100) s = Exact.rawShare (n / 100) s :=
    fun s hs => rawShare_exact hn (hpos s hs) (bps_le hpos hsum hs)
  have hfloors : floors (n / 100) splits = .ok (Exact.floored n splits) := by
    rw [← Exact.byOwner_floored hnd]
    refine byOwner_ok (fun s hs => ?_) []
    rw [hshare s hs]
    exact quantizeCentDown_exact hn (hpos s hs) (bps_le hpos hsum hs)
  have hremainders : byOwner (fun s => .ok (context (rawShare (n / 100) s - (getKey (Exact.floored n splits) s.ownerId).getD 0)))
      splits [] = .ok (Exact.remainders n splits) := by
    rw [← Exact.byOwner_remainders hnd]
    refine byOwner_ok (fun s hs => congrArg Except.ok ?_) []
    unfold Exact.floored
    rw [hshare s hs, getKey_owner hnd _ hs]
    exact remainder_exact (hpos s hs)
  have hbps : byOwner (fun s => .ok s.bps) splits [] = .ok (Exact.bpsByOwner splits) := by
    rw [Exact.bpsByOwner, ← Exact.byOwner_eq hnd]
    exact byOwner_ok (fun s _ => rfl) []
  obtain ⟨hfold, hfloorCents⟩ := sum_floored_exact hn hpos hsum
  have hlength := length_slice_le (n := n) hpos hsum (Exact.ordering n splits)
  unfold distributeSplits
  dsimp only
  rw [if_neg (not_not.2 hsum), hfloors]
  change (do
    let remainders ← byOwner (fun s => .ok (context (rawShare (n / 100) s - (getKey (Exact.floored n splits) s.ownerId).getD 0)))
      splits []
    _) = _
  rw [hremainders]
  change (do
    let bps ← byOwner (fun s => .ok s.bps) splits []
    _) = _
  rw [hbps]
  change Except.ok _ = _
  rw [hfold, hfloorCents, pool_exact hn, Exact.leftover_eq hpos]
  change Except.ok (splits.map (fun s => (s.ownerId, (getKey (giveCents (slice (Apportion.left (Exact.units n) 10000 n splits)
    (Exact.ordering n splits)) (Exact.floored n splits)) s.ownerId).getD 0))) = _
  rw [giveCents_exact (Int.natCast_nonneg n) (by omega) (floored_centsTo hpos hsum)]
  unfold Exact.distributeSplits
  dsimp only
  rw [if_neg (not_not.2 hsum), Exact.byOwner_floored hnd, Exact.byOwner_remainders hnd, Exact.byOwner_eq hnd (·.bps),
    Exact.leftover_eq hpos]
  rfl

end

end RoyaltyGateway

end Archisynapse
