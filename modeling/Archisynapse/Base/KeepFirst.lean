import Mathlib.Data.List.Nodup

/-!
# The first item of each key

Going through a list and keeping the items whose key was not seen yet. Every key of the list is kept once, so an item is dropped
exactly where an earlier one has its key; and every item is kept exactly where no two different items share a key.
-/

namespace Archisynapse

variable {α κ : Type} [DecidableEq κ]

/-- The items whose keys are neither among some keys nor the key of an earlier item. -/
def keepFirst (key : α → κ) (seen : List κ) : List α → List α
  | [] => []
  | a :: l => if key a ∈ seen then keepFirst key seen l else a :: keepFirst key (seen ++ [key a]) l

variable {key : α → κ} {seen : List κ} {l : List α} {a b : α}

/-- A kept item is an item of the list, with a key that was not seen. -/
theorem mem_of_mem_keepFirst (h : a ∈ keepFirst key seen l) : a ∈ l ∧ key a ∉ seen := by
  induction l generalizing seen with
  | nil => cases h
  | cons b l ih =>
    unfold keepFirst at h
    by_cases hseen : key b ∈ seen
    · rw [if_pos hseen] at h
      exact ⟨List.mem_cons_of_mem b (ih h).1, (ih h).2⟩
    · rw [if_neg hseen] at h
      rcases List.mem_cons.1 h with rfl | h
      · exact ⟨List.mem_cons_self, hseen⟩
      · exact ⟨List.mem_cons_of_mem b (ih h).1, fun hmem => (ih h).2 (List.mem_append_left _ hmem)⟩

/-- Every key of the list was seen or is kept. -/
theorem key_mem_keepFirst (key : α → κ) (seen : List κ) (ha : a ∈ l) : key a ∈ seen ∨ ∃ b ∈ keepFirst key seen l, key b = key a := by
  induction l generalizing seen with
  | nil => cases ha
  | cons b l ih =>
    unfold keepFirst
    by_cases hseen : key b ∈ seen
    · rw [if_pos hseen]
      rcases List.mem_cons.1 ha with rfl | ha
      · exact Or.inl hseen
      · exact ih seen ha
    · rw [if_neg hseen]
      rcases List.mem_cons.1 ha with rfl | ha
      · exact Or.inr ⟨a, List.mem_cons_self, rfl⟩
      · rcases ih (seen ++ [key b]) ha with hmem | ⟨c, hc, hkey⟩
        · rcases List.mem_append.1 hmem with hmem | hmem
          · exact Or.inl hmem
          · exact Or.inr ⟨b, List.mem_cons_self, (List.mem_singleton.1 hmem).symm⟩
        · exact Or.inr ⟨c, List.mem_cons_of_mem b hc, hkey⟩

/-- A key is kept once. -/
theorem keepFirst_inj (ha : a ∈ keepFirst key seen l) (hb : b ∈ keepFirst key seen l) (h : key a = key b) : a = b := by
  induction l generalizing seen with
  | nil => cases ha
  | cons c l ih =>
    unfold keepFirst at ha hb
    by_cases hseen : key c ∈ seen
    · rw [if_pos hseen] at ha hb
      exact ih ha hb
    · rw [if_neg hseen] at ha hb
      -- no later item has the key of the first
      have hlater : ∀ d ∈ keepFirst key (seen ++ [key c]) l, key d ≠ key c := fun d hd he =>
        (mem_of_mem_keepFirst hd).2 (List.mem_append_right seen (List.mem_singleton.2 he))
      rcases List.mem_cons.1 ha with rfl | ha
      · rcases List.mem_cons.1 hb with rfl | hb
        · rfl
        · exact absurd h.symm (hlater b hb)
      · rcases List.mem_cons.1 hb with rfl | hb
        · exact absurd h (hlater a ha)
        · exact ih ha hb

/-- Every item is kept exactly where no two different items share a key. -/
theorem keepFirst_all_iff : (∀ a ∈ l, a ∈ keepFirst key [] l) ↔ ∀ a ∈ l, ∀ b ∈ l, key a = key b → a = b := by
  constructor
  · exact fun hall a ha b hb hkey => keepFirst_inj (hall a ha) (hall b hb) hkey
  · intro hinj a ha
    rcases key_mem_keepFirst key [] ha with hmem | ⟨b, hb, hkey⟩
    · cases hmem
    · rw [← hinj b (mem_of_mem_keepFirst hb).1 a ha hkey]
      exact hb

end Archisynapse
