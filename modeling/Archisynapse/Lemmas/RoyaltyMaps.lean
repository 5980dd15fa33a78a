import Archisynapse.Base.Sums
import Archisynapse.Royalty.MoneyMath

/-!
# The maps of the money math

JavaScript's maps and Python's dictionaries keep a key's first place and its last value: what is read after a key is set, and the
map that a list with distinct keys builds.
-/

namespace Archisynapse

namespace Royalty

variable {α β : Type}

theorem getKey_setKey (m : List (String × β)) (key key' : String) (value : β) :
    getKey (setKey m key value) key' = if key = key' then some value else getKey m key' := by
  unfold setKey getKey
  split
  · rename_i hany
    by_cases hk : key = key'
    · subst hk
      rw [if_pos rfl]
      obtain ⟨e, he, hkey⟩ := List.any_eq_true.1 hany
      induction m with
      | nil => exact absurd he List.not_mem_nil
      | cons x m ih =>
        rw [List.map_cons]
        by_cases hx : x.1 = key
        · rw [if_pos hx, List.find?_cons_of_pos (by simp)]
          rfl
        · rw [if_neg hx, List.find?_cons_of_neg (by simpa using hx)]
          rcases List.mem_cons.1 he with rfl | he
          · exact absurd (of_decide_eq_true hkey) hx
          · exact ih (List.any_eq_true.2 ⟨e, he, hkey⟩) he
    · rw [if_neg hk]
      congr 1
      clear hany
      induction m with
      | nil => rfl
      | cons x m ih =>
        rw [List.map_cons]
        by_cases hx : x.1 = key
        · rw [if_pos hx, List.find?_cons_of_neg (by simpa using hk), List.find?_cons_of_neg (by rw [hx]; simpa using hk)]
          exact ih
        · rw [if_neg hx]
          by_cases hx' : x.1 = key'
          · rw [List.find?_cons_of_pos (by simpa using hx'), List.find?_cons_of_pos (by simpa using hx')]
          · rw [List.find?_cons_of_neg (by simpa using hx'), List.find?_cons_of_neg (by simpa using hx')]
            exact ih
  · rename_i hany
    rw [List.find?_append]
    by_cases hk : key = key'
    · subst hk
      have hnone : m.find? (fun e => decide (e.1 = key)) = none := by
        refine List.find?_eq_none.2 (fun e he hkey => hany ?_)
        exact List.any_eq_true.2 ⟨e, he, hkey⟩
      rw [hnone, if_pos rfl, Option.none_or, List.find?_cons_of_pos (by simp)]
      rfl
    · rw [if_neg hk, List.find?_cons_of_neg (by simpa using hk)]
      simp

/-- A new key comes last. -/
theorem setKey_new {m : List (String × β)} {key : String} (h : ∀ e ∈ m, e.1 ≠ key) (value : β) :
    setKey m key value = m ++ [(key, value)] := by
  unfold setKey
  rw [if_neg]
  intro hany
  obtain ⟨e, he, hkey⟩ := List.any_eq_true.1 hany
  exact h e he (of_decide_eq_true hkey)

/-- The map that items with distinct keys build, in their order. -/
theorem foldl_setKey {key : α → String} {l : List α} (hnd : (l.map key).Nodup) (f : α → β) :
    l.foldl (fun m a => setKey m (key a) (f a)) [] = l.map (fun a => (key a, f a)) := by
  have hfold : ∀ (l : List α) (m : List (String × β)), (l.map key).Nodup → (∀ a ∈ l, ∀ e ∈ m, e.1 ≠ key a) →
      l.foldl (fun m a => setKey m (key a) (f a)) m = m ++ l.map (fun a => (key a, f a)) := by
    intro l
    induction l with
    | nil =>
      intro m _ _
      simp
    | cons a l ih =>
      intro m hnd hnew
      rw [List.map_cons, List.nodup_cons] at hnd
      rw [List.foldl_cons, setKey_new (hnew a List.mem_cons_self), ih _ hnd.2]
      · simp
      · intro b hb e he
        rcases List.mem_append.1 he with he | he
        · exact hnew b (List.mem_cons_of_mem _ hb) e he
        · rw [List.mem_singleton.1 he]
          exact fun heq => hnd.1 (List.mem_map.2 ⟨b, hb, heq.symm⟩)
  exact hfold l [] hnd (fun _ _ e he => absurd he List.not_mem_nil)

/-- What such a map has for a key. -/
theorem getKey_map {key : α → String} {l : List α} (hnd : (l.map key).Nodup) (f : α → β) {a : α} (ha : a ∈ l) :
    getKey (l.map (fun a => (key a, f a))) (key a) = some (f a) := by
  unfold getKey
  rw [List.find?_map]
  have hfind : l.find? (fun b => decide (key b = key a)) = some a := find?_key hnd ha
  change ((l.find? (fun b => decide (key b = key a))).map _).map _ = _
  rw [hfind]
  rfl

end Royalty

end Archisynapse
