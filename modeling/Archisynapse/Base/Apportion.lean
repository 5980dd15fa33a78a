import Mathlib.Algebra.BigOperators.Group.List.Basic
import Mathlib.Algebra.Order.BigOperators.Group.List
import Mathlib.Data.List.Sort
import Mathlib.Data.List.Perm.Basic
import Mathlib.Tactic.Linarith

/-!
# Largest remainders

A whole number of units is divided over the items of a list: each item gets its share rounded down, and the units left over go one
each to the first items of an order. The units left over are as many as the remainders make up, fewer than there are items
(`left_nonneg`, `left_lt_length`), so that one each is enough and everything is handed out (`sum_given`).
-/

namespace Archisynapse

namespace Apportion

variable {ι κ : Type} (f : ι → Int) (c : Int)

/-- The units that the shares, rounded down, leave of `n`. -/
def left (n : Int) (l : List ι) : Int := n - (l.map (fun i => f i / c)).sum

/-- Quotients and remainders, summed. -/
theorem sum_ediv_emod (l : List ι) :
    c * (l.map (fun i => f i / c)).sum + (l.map (fun i => f i % c)).sum = (l.map f).sum := by
  induction l with
  | nil => simp
  | cons i l ih =>
    simp only [List.map_cons, List.sum_cons]
    rw [← ih]
    have hi := Int.mul_ediv_add_emod (f i) c
    linarith

/-- The remainders make up the units left over. -/
theorem mul_left {n : Int} {l : List ι} (h : (l.map f).sum = c * n) : c * left f c n l = (l.map (fun i => f i % c)).sum := by
  have hsum := sum_ediv_emod f c l
  unfold left
  rw [mul_sub, ← h]
  linarith

variable {c}

theorem sum_emod_nonneg (hc : 0 < c) (l : List ι) : 0 ≤ (l.map (fun i => f i % c)).sum := by
  refine List.sum_nonneg (fun x hx => ?_)
  obtain ⟨i, -, rfl⟩ := List.mem_map.1 hx
  exact Int.emod_nonneg _ (ne_of_gt hc)

theorem sum_emod_lt (hc : 0 < c) {l : List ι} (hl : l ≠ []) : (l.map (fun i => f i % c)).sum < c * l.length := by
  induction l with
  | nil => exact absurd rfl hl
  | cons i l ih =>
    have hi := Int.emod_lt_of_pos (f i) hc
    rw [List.map_cons, List.sum_cons, List.length_cons]
    push_cast
    rcases eq_or_ne l [] with rfl | hne
    · simpa using hi
    · linarith [ih hne]

/-- The shares rounded down are not more than there is. -/
theorem left_nonneg (hc : 0 < c) {n : Int} {l : List ι} (h : (l.map f).sum = c * n) : 0 ≤ left f c n l := by
  have hnonneg := sum_emod_nonneg f hc l
  rw [← mul_left f c h] at hnonneg
  exact nonneg_of_mul_nonneg_right hnonneg hc

/-- Fewer units are left over than there are items. -/
theorem left_lt_length (hc : 0 < c) {n : Int} {l : List ι} (hl : l ≠ []) (h : (l.map f).sum = c * n) :
    left f c n l < l.length := by
  have hlt := sum_emod_lt f hc hl
  rw [← mul_left f c h] at hlt
  exact lt_of_mul_lt_mul_left hlt (le_of_lt hc)

/-- The first items of a list in an order come before the others. -/
theorem before_of_take {r : κ → κ → Prop} {l : List κ} (hl : l.Pairwise r) {n : Nat} {a b : κ} (ha : a ∈ l.take n)
    (hb : b ∈ l) (hnot : b ∉ l.take n) : r a b := by
  rw [← List.take_append_drop n l, List.mem_append] at hb
  exact hl.rel_of_mem_take_of_mem_drop ha (hb.resolve_left hnot)

variable [DecidableEq κ] {key : ι → κ}

/-- One unit each for the items whose keys are given. -/
theorem sum_given {l : List ι} (hnd : (l.map key).Nodup) {given : List κ} (hgiven : given.Nodup)
    (hsub : ∀ k ∈ given, k ∈ l.map key) : (l.map (fun i => if key i ∈ given then (1 : Int) else 0)).sum = given.length := by
  have hcount : ∀ ks : List κ, (ks.map (fun k => if k ∈ given then (1 : Int) else 0)).sum =
      ((ks.filter (fun k => decide (k ∈ given))).length : Int) := by
    intro ks
    induction ks with
    | nil => rfl
    | cons k ks ih =>
      by_cases hk : k ∈ given
      · rw [List.map_cons, List.sum_cons, if_pos hk, ih, List.filter_cons_of_pos (by simpa using hk), List.length_cons]
        omega
      · rw [List.map_cons, List.sum_cons, if_neg hk, ih, List.filter_cons_of_neg (by simpa using hk), zero_add]
  have hperm : ((l.map key).filter (fun k => decide (k ∈ given))).Perm given := by
    refine (List.perm_ext_iff_of_nodup (hnd.filter _) hgiven).2 (fun k => ?_)
    rw [List.mem_filter, decide_eq_true_eq]
    exact ⟨And.right, fun hk => ⟨hsub k hk, hk⟩⟩
  rw [← hperm.length_eq, ← hcount, List.map_map]
  rfl

end Apportion

end Archisynapse
