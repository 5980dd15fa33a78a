import Mathlib.Algebra.BigOperators.Group.List.Basic
import Mathlib.Algebra.Order.BigOperators.Group.List
import Mathlib.Data.Int.Basic
import Mathlib.Data.List.Nodup
import Mathlib.Tactic.Linarith

/-!
# Sums over the rows of a table

`sumWhere p f l` is `SELECT COALESCE(SUM(f), 0) FROM l WHERE p`. The lemmas say how it changes when a row is appended or one row
is updated, and that sums over the keys of a table add up to the sum over the table.
-/

namespace Archisynapse

variable {α κ : Type}

/-- The sum of `f` over the rows that satisfy `p`. -/
def sumWhere (p : α → Bool) (f : α → Int) (l : List α) : Int := ((l.filter p).map f).sum

@[simp] theorem sumWhere_nil (p : α → Bool) (f : α → Int) : sumWhere p f [] = 0 := rfl

theorem sumWhere_cons (p : α → Bool) (f : α → Int) (x : α) (l : List α) :
    sumWhere p f (x :: l) = (if p x then f x else 0) + sumWhere p f l := by
  unfold sumWhere
  by_cases h : p x = true
  · simp [h]
  · simp [h]

@[simp] theorem sumWhere_append (p : α → Bool) (f : α → Int) (l l' : List α) :
    sumWhere p f (l ++ l') = sumWhere p f l + sumWhere p f l' := by
  simp [sumWhere]

@[simp] theorem sumWhere_singleton (p : α → Bool) (f : α → Int) (x : α) :
    sumWhere p f [x] = if p x then f x else 0 := by
  simp [sumWhere_cons]

/-- Only the rows that are there matter. -/
theorem sumWhere_congr {p q : α → Bool} {f g : α → Int} {l : List α}
    (h : ∀ x ∈ l, (if p x then f x else 0) = (if q x then g x else 0)) : sumWhere p f l = sumWhere q g l := by
  induction l with
  | nil => rfl
  | cons x l ih =>
    rw [sumWhere_cons, sumWhere_cons, h x List.mem_cons_self, ih (fun y hy => h y (List.mem_cons_of_mem x hy))]

/-- Rows that do not count add nothing. -/
theorem sumWhere_eq_zero {p : α → Bool} {f : α → Int} {l : List α} (h : ∀ x ∈ l, p x = true → f x = 0) :
    sumWhere p f l = 0 := by
  induction l with
  | nil => rfl
  | cons x l ih =>
    rw [sumWhere_cons, ih (fun y hy => h y (List.mem_cons_of_mem x hy))]
    split
    · rename_i hp
      rw [h x List.mem_cons_self hp, add_zero]
    · rfl

/-- A sum of rows that count at least zero. -/
theorem sumWhere_nonneg {p : α → Bool} {f : α → Int} {l : List α} (h : ∀ x ∈ l, p x = true → 0 ≤ f x) :
    0 ≤ sumWhere p f l := by
  unfold sumWhere
  apply List.sum_nonneg
  intro y hy
  obtain ⟨x, hx, rfl⟩ := List.mem_map.1 hy
  exact h x (List.mem_of_mem_filter hx) (by simpa using (List.mem_filter.1 hx).2)

/-- A row counts for no more than the sum, when no row counts for less than nothing. -/
theorem le_sumWhere {p : α → Bool} {f : α → Int} {l : List α} (h : ∀ x ∈ l, p x = true → 0 ≤ f x) {x : α} (hx : x ∈ l)
    (hp : p x = true) : f x ≤ sumWhere p f l := by
  induction l with
  | nil => cases hx
  | cons y l ih =>
    have hl : ∀ z ∈ l, p z = true → 0 ≤ f z := fun z hz => h z (List.mem_cons_of_mem y hz)
    rw [sumWhere_cons]
    rcases List.mem_cons.1 hx with rfl | hx
    · rw [if_pos hp]
      have := sumWhere_nonneg hl
      omega
    · have hle := ih hl hx
      by_cases hy : p y = true
      · rw [if_pos hy]
        have := h y List.mem_cons_self hy
        omega
      · rw [if_neg hy]
        omega

/-- A sum of rows that count for no more. -/
theorem sumWhere_le_sumWhere {p q : α → Bool} {f g : α → Int} {l : List α}
    (h : ∀ x ∈ l, (if p x then f x else 0) ≤ (if q x then g x else 0)) : sumWhere p f l ≤ sumWhere q g l := by
  induction l with
  | nil => exact le_refl 0
  | cons x l ih =>
    rw [sumWhere_cons, sumWhere_cons]
    exact add_le_add (h x List.mem_cons_self) (ih (fun y hy => h y (List.mem_cons_of_mem x hy)))

/-- Counting the rows. -/
theorem sumWhere_one (p : α → Bool) (l : List α) : sumWhere p (fun _ => 1) l = ((l.filter p).length : Int) := by
  induction l with
  | nil => rfl
  | cons x l ih =>
    rw [sumWhere_cons, ih, List.filter_cons]
    split
    · rw [List.length_cons, Int.natCast_add, Int.natCast_one, Int.add_comm]
    · rw [Int.zero_add]

/-- Filtering first is asking for both. -/
theorem sumWhere_filter (p q : α → Bool) (f : α → Int) (l : List α) :
    sumWhere p f (l.filter q) = sumWhere (fun x => q x && p x) f l := by
  induction l with
  | nil => rfl
  | cons x l ih =>
    rw [sumWhere_cons, List.filter_cons, ← ih]
    by_cases hq : q x = true
    · simp [hq, sumWhere_cons]
    · simp [hq]

/-- Summing over mapped rows. -/
theorem sumWhere_map {β : Type} (p : β → Bool) (f : β → Int) (g : α → β) (l : List α) :
    sumWhere p f (l.map g) = sumWhere (fun x => p (g x)) (fun x => f (g x)) l := by
  induction l with
  | nil => rfl
  | cons x l ih => rw [List.map_cons, sumWhere_cons, sumWhere_cons, ih]

/-- The sum over one key, taken over a list of keys that has each key of the table once, is the sum over the table. -/
theorem sum_sumWhere_key [DecidableEq κ] (f : α → Int) (key : α → κ) {ks : List κ} (hnd : ks.Nodup) {l : List α}
    (h : ∀ x ∈ l, key x ∈ ks) :
    (ks.map (fun k => sumWhere (fun x => decide (key x = k)) f l)).sum = (l.map f).sum := by
  induction l with
  | nil => simp
  | cons x l ih =>
    have hone : (ks.map (fun k => if decide (key x = k) = true then f x else 0)).sum = f x := by
      have hx : key x ∈ ks := h x List.mem_cons_self
      clear ih h
      induction ks with
      | nil => cases hx
      | cons k ks ih =>
        obtain ⟨hk, hnd⟩ := List.nodup_cons.1 hnd
        rw [List.map_cons, List.sum_cons]
        by_cases hkx : key x = k
        · subst hkx
          have hz : (ks.map (fun k => if decide (key x = k) = true then f x else 0)).sum = 0 := by
            refine List.sum_eq_zero (fun y hy => ?_)
            obtain ⟨k, hk', rfl⟩ := List.mem_map.1 hy
            have hne : key x ≠ k := fun he => hk (he ▸ hk')
            simp [hne]
          rw [hz, if_pos (decide_eq_true rfl), add_zero]
        · rw [ih hnd ((List.mem_cons.1 hx).resolve_left hkx)]
          simp [hkx]
    simp only [sumWhere_cons, List.map_cons, List.sum_cons]
    rw [List.sum_map_add, hone, ih (fun y hy => h y (List.mem_cons_of_mem x hy))]

/-- Update the rows with a key. -/
def updateKey [DecidableEq κ] (key : α → κ) (k : κ) (u : α → α) (l : List α) : List α :=
  l.map (fun x => if key x = k then u x else x)

/-- A sum after one row was updated: the row's old count goes, its new one comes. -/
theorem sumWhere_updateKey [DecidableEq κ] (p : α → Bool) (f : α → Int) (key : α → κ) (k : κ) (u : α → α) {l : List α}
    (hnd : (l.map key).Nodup) {x : α} (hx : x ∈ l) (hk : key x = k) :
    sumWhere p f (updateKey key k u l) =
      sumWhere p f l - (if p x then f x else 0) + (if p (u x) then f (u x) else 0) := by
  unfold updateKey
  induction l with
  | nil => cases hx
  | cons y l ih =>
    rw [List.map_cons, List.nodup_cons] at hnd
    obtain ⟨hy, hnd⟩ := hnd
    rw [List.map_cons, sumWhere_cons, sumWhere_cons]
    rcases List.mem_cons.1 hx with rfl | hx
    · have hrest : l.map (fun z => if key z = k then u z else z) = l := by
        conv_rhs => rw [← List.map_id l]
        refine List.map_congr_left (fun z hz => if_neg (fun he => hy ?_))
        rw [hk, ← he]
        exact List.mem_map_of_mem hz
      rw [hrest, if_pos hk]
      omega
    · have hne : key y ≠ k := fun he => hy (by rw [he, ← hk]; exact List.mem_map_of_mem hx)
      rw [if_neg hne, ih hnd hx]
      omega

/-- An update that changes nothing of what is counted. -/
theorem sumWhere_updateKey_same [DecidableEq κ] (p : α → Bool) (f : α → Int) {key : α → κ} {k : κ} (u : α → α)
    (hp : ∀ x, p (u x) = p x) (hf : ∀ x, f (u x) = f x) (l : List α) : sumWhere p f (updateKey key k u l) = sumWhere p f l := by
  unfold updateKey
  rw [sumWhere_map]
  refine sumWhere_congr (fun x _ => ?_)
  by_cases hx : key x = k
  · rw [if_pos hx, hp, hf]
  · rw [if_neg hx]

/-- A row with a key of its own leaves the others alone. -/
theorem mem_updateKey [DecidableEq κ] {key : α → κ} {k : κ} {u : α → α} {l : List α} {y : α} :
    y ∈ updateKey key k u l ↔ (∃ x ∈ l, key x = k ∧ y = u x) ∨ (y ∈ l ∧ key y ≠ k) := by
  unfold updateKey
  rw [List.mem_map]
  constructor
  · rintro ⟨x, hx, rfl⟩
    by_cases h : key x = k
    · rw [if_pos h]
      exact Or.inl ⟨x, hx, h, rfl⟩
    · rw [if_neg h]
      exact Or.inr ⟨hx, h⟩
  · rintro (⟨x, hx, h, rfl⟩ | ⟨hy, h⟩)
    · exact ⟨x, hx, if_pos h⟩
    · exact ⟨y, hy, if_neg h⟩

/-- A key that no row has changes nothing. -/
theorem updateKey_of_not_mem [DecidableEq κ] (key : α → κ) (k : κ) (u : α → α) (l : List α) (h : ∀ x ∈ l, key x ≠ k) :
    updateKey key k u l = l := by
  unfold updateKey
  conv_rhs => rw [← List.map_id l]
  exact List.map_congr_left (fun x hx => if_neg (h x hx))

/-- An update that keeps a projection keeps the column it reads. -/
theorem map_updateKey {β : Type} [DecidableEq κ] (g : α → β) {key : α → κ} {k : κ} {u : α → α} (h : ∀ x, g (u x) = g x)
    (l : List α) : (updateKey key k u l).map g = l.map g := by
  unfold updateKey
  rw [List.map_map]
  refine List.map_congr_left (fun x _ => ?_)
  by_cases hx : key x = k
  · simp [hx, h]
  · simp [hx]

/-- Two updates of the rows with a key, one after the other. -/
theorem updateKey_updateKey [DecidableEq κ] (key : α → κ) {k : κ} (u : α → α) {v : α → α} (h : ∀ x, key (v x) = key x)
    (l : List α) : updateKey key k u (updateKey key k v l) = updateKey key k (fun x => u (v x)) l := by
  unfold updateKey
  rw [List.map_map]
  refine List.map_congr_left (fun x _ => ?_)
  by_cases hx : key x = k
  · simp [hx, h]
  · simp [hx]

/-- An update that changes nothing. -/
theorem updateKey_id [DecidableEq κ] (key : α → κ) (k : κ) (l : List α) : updateKey key k (fun x => x) l = l := by
  unfold updateKey
  simp

/-! ## Tables with a key -/

/-- A row with a key of its own keeps the keys apart. -/
theorem nodup_map_concat {key : α → κ} {l : List α} {x : α} (hnd : (l.map key).Nodup) (hx : ∀ y ∈ l, key y ≠ key x) :
    ((l ++ [x]).map key).Nodup := by
  rw [List.map_append, List.nodup_append]
  refine ⟨hnd, by simp, ?_⟩
  rintro i hi j hj rfl
  obtain ⟨y, hy, rfl⟩ := List.mem_map.1 hi
  simp only [List.map_cons, List.map_nil, List.mem_singleton] at hj
  exact hx y hy hj

/-- A row is found under its key. -/
theorem find?_key [DecidableEq κ] {key : α → κ} {l : List α} (hnd : (l.map key).Nodup) {x : α} (hx : x ∈ l) :
    l.find? (fun y => decide (key y = key x)) = some x := by
  cases h : l.find? (fun y => decide (key y = key x)) with
  | none => exact absurd (decide_eq_true rfl) (List.find?_eq_none.1 h x hx)
  | some y =>
    have hk : key y = key x := by simpa using List.find?_some h
    rw [List.inj_on_of_nodup_map hnd (List.mem_of_find?_eq_some h) hx hk]

/-- The row under a key after an update of the rows with a key. -/
theorem find?_updateKey [DecidableEq κ] {key : α → κ} {u : α → α} (h : ∀ x, key (u x) = key x) (k k' : κ) (l : List α) :
    (updateKey key k u l).find? (fun x => decide (key x = k')) =
      (l.find? (fun x => decide (key x = k'))).map (fun x => if k' = k then u x else x) := by
  unfold updateKey
  induction l with
  | nil => rfl
  | cons x l ih =>
    have hkey : key (if key x = k then u x else x) = key x := by
      split
      · exact h x
      · rfl
    rw [List.map_cons, List.find?_cons, List.find?_cons, hkey]
    by_cases hx : key x = k'
    · simp only [hx, decide_true, Option.map_some]
    · simp only [hx, decide_false]
      exact ih

/-- The row under a key after another row came. -/
theorem find?_concat [DecidableEq κ] (key : α → κ) (k : κ) (l : List α) (x : α) :
    (l ++ [x]).find? (fun y => decide (key y = k)) =
      (l.find? (fun y => decide (key y = k))).or (if key x = k then some x else none) := by
  rw [List.find?_append, List.find?_cons]
  by_cases hx : key x = k <;> simp [hx]

/-- The rows after one was updated: it and the others. -/
theorem mem_updateKey_row [DecidableEq κ] {key : α → κ} {u : α → α} {l : List α} (hnd : (l.map key).Nodup) {x : α}
    (hx : x ∈ l) {y : α} : y ∈ updateKey key (key x) u l ↔ y = u x ∨ (y ∈ l ∧ key y ≠ key x) := by
  rw [mem_updateKey]
  constructor
  · rintro (⟨z, hz, hk, rfl⟩ | h)
    · rw [List.inj_on_of_nodup_map hnd hz hx hk]
      exact Or.inl rfl
    · exact Or.inr h
  · rintro (rfl | h)
    · exact Or.inl ⟨x, hx, rfl, rfl⟩
    · exact Or.inr h

/-- At most one row has a key. -/
theorem length_filter_key_le_one [DecidableEq κ] {key : α → κ} {l : List α} (hnd : (l.map key).Nodup) (k : κ) :
    (l.filter (fun x => decide (key x = k))).length ≤ 1 := by
  have hkeys : (l.filter (fun x => decide (key x = k))).map key =
      List.replicate (l.filter (fun x => decide (key x = k))).length k := by
    rw [List.eq_replicate_iff, List.length_map]
    refine ⟨rfl, fun b hb => ?_⟩
    obtain ⟨x, hx, rfl⟩ := List.mem_map.1 hb
    exact of_decide_eq_true (List.mem_filter.1 hx).2
  have hnd' : ((l.filter (fun x => decide (key x = k))).map key).Nodup :=
    hnd.sublist (List.Sublist.map _ List.filter_sublist)
  rw [hkeys, List.nodup_replicate] at hnd'
  exact hnd'

end Archisynapse
