import Mathlib.Algebra.BigOperators.Group.List.Basic
import Mathlib.Algebra.GroupWithZero.Nat
import Mathlib.Data.List.Infix

/-!
# Hash chains

Entries that each carry the hash of the one before and their own, and the check that recomputes them in order. What the hashes
say about the entries depends on what can be read back from a hashed text: `unique` when all that matters can, and
`verify_replace` when an entry can be exchanged. Of a text that is joined from fields the fields can be read back when none of
them holds the separator (`joinWith_inj`), and not when one does (`joinWith_move`).
-/

namespace Archisynapse

/-- What a chain is made of: the hashes an entry carries, and the hash of an entry after a hash. -/
structure HashChain (α η : Type) where
  previous : α → Option η
  hash : α → η
  digest : Option η → α → η

namespace HashChain

variable {α η β : Type} (L : HashChain α η)

/-- Every entry carries the hash of the one before, and its own. -/
def verify [DecidableEq η] : Option η → List α → Bool
  | _, [] => true
  | previous, a :: as =>
    let expected := L.digest previous a
    decide (L.previous a = previous ∧ L.hash a = expected) && verify (some expected) as

/-- The hash of the last entry. -/
def head (previous : Option η) (as : List α) : Option η := (as.getLast?.map L.hash).or previous

variable {L} {previous : Option η} {as bs : List α} {a b : α}

@[simp] theorem head_nil : L.head previous [] = previous := rfl

@[simp] theorem head_concat : L.head previous (as ++ [a]) = some (L.hash a) := by
  rw [head, List.getLast?_concat]
  rfl

theorem head_cons : L.head previous (a :: as) = L.head (some (L.hash a)) as := by
  unfold head
  cases has : as.getLast? with
  | none =>
    rw [List.getLast?_eq_none_iff.1 has]
    rfl
  | some b =>
    rw [List.getLast?_cons, has]
    rfl

variable [DecidableEq η]

theorem verify_cons : L.verify previous (a :: as) = true ↔
    L.previous a = previous ∧ L.hash a = L.digest previous a ∧ L.verify (some (L.hash a)) as = true := by
  rw [verify, Bool.and_eq_true, decide_eq_true_eq, and_assoc]
  refine and_congr_right fun _ => and_congr_right fun h => ?_
  rw [h]

/-- A chain is checked through an append exactly when its first part is, and the second from the last hash of the first. -/
theorem verify_append : L.verify previous (as ++ bs) = true ↔
    L.verify previous as = true ∧ L.verify (L.head previous as) bs = true := by
  induction as generalizing previous with
  | nil => simp [verify]
  | cons a as ih => rw [List.cons_append, verify_cons, verify_cons, ih, head_cons, and_assoc, and_assoc]

theorem verify_concat : L.verify previous (as ++ [a]) = true ↔ L.verify previous as = true ∧
    L.previous a = L.head previous as ∧ L.hash a = L.digest (L.head previous as) a := by
  rw [verify_append, verify_cons]
  simp only [verify, and_true]

/-- An entry exchanged for one with the same hashes. -/
theorem verify_replace (hprev : L.previous b = L.previous a) (hhash : L.hash b = L.hash a)
    (hdigest : L.digest (L.head previous as) b = L.digest (L.head previous as) a)
    (h : L.verify previous (as ++ a :: bs) = true) : L.verify previous (as ++ b :: bs) = true := by
  rw [verify_append, verify_cons] at h ⊢
  rw [hprev, hhash, hdigest]
  exact h

/-- Two entries that follow one another. -/
theorem verify_link {c : List α} (h : L.verify previous (as ++ a :: b :: c) = true) : L.previous b = some (L.hash a) := by
  rw [verify_append, verify_cons, verify_cons] at h
  exact h.2.2.2.1

variable (L) in
/-- What an entry of a chain may carry as the hash of the one before: none, or a hash that was made. -/
def Made (previous : Option η) : Prop := previous = none ∨ ∃ q c, previous = some (L.digest q c)

/-- The last hash of a chain. -/
theorem made_head (h : L.verify none as = true) : L.Made (L.head none as) := by
  cases as using List.reverseRecOn with
  | nil => exact Or.inl rfl
  | append_singleton as a =>
    rw [head_concat, (verify_concat.1 h).2.2]
    exact Or.inr ⟨_, _, rfl⟩

/-- Two chains with the same last hash agree on what the hashed texts of the first determine. -/
theorem unique (f : α → β) (has : L.verify none as = true) (hbs : L.verify none bs = true)
    (hdigest : ∀ a ∈ as, ∀ b p q, L.Made p → L.Made q → L.digest p a = L.digest q b → p = q ∧ f a = f b)
    (hhead : L.head none as = L.head none bs) : as.map f = bs.map f := by
  induction as using List.reverseRecOn generalizing bs with
  | nil =>
    cases bs using List.reverseRecOn with
    | nil => rfl
    | append_singleton bs b =>
      rw [head_concat] at hhead
      cases hhead
  | append_singleton as a ih =>
    cases bs using List.reverseRecOn with
    | nil =>
      rw [head_concat] at hhead
      cases hhead
    | append_singleton bs b =>
      obtain ⟨has, -, ha⟩ := verify_concat.1 has
      obtain ⟨hbs, -, hb⟩ := verify_concat.1 hbs
      rw [head_concat, head_concat, Option.some.injEq, ha, hb] at hhead
      obtain ⟨hprev, hf⟩ := hdigest a (List.mem_append_right _ (List.mem_singleton_self a)) b _ _ (made_head has)
        (made_head hbs) hhead
      have heq := ih has hbs (fun a' ha' => hdigest a' (List.mem_append_left _ ha')) hprev
      rw [List.map_append, List.map_append, heq, List.map_singleton, List.map_singleton, hf]

end HashChain

/-! ## Joined texts -/

/-- `sep.join(fields)` -/
def joinWith (sep : Char) (fields : List String) : String := String.ofList ([sep].intercalate (fields.map String.toList))

/-- The separators of a joined text: those inside the fields, and one between any two. -/
theorem count_intercalate {α : Type} [DecidableEq α] (x : α) (l : List α) (ls : List (List α)) :
    ([x].intercalate (l :: ls)).count x = ((l :: ls).map (List.count x)).sum + ls.length := by
  induction ls generalizing l with
  | nil => simp [List.intercalate_singleton]
  | cons l' ls ih =>
    rw [List.intercalate_cons_cons, List.count_append, List.count_append, ih, List.count_singleton_self, List.map_cons,
      List.map_cons, List.map_cons, List.sum_cons, List.sum_cons, List.sum_cons, List.length_cons]
    omega

/-- Joined texts of as many fields are equal only when the fields are, when the fields of one do not hold the separator. -/
theorem joinWith_inj {sep : Char} {as bs : List String} (has : ∀ f ∈ as, sep ∉ f.toList) (hlen : as.length = bs.length)
    (h : joinWith sep as = joinWith sep bs) : as = bs := by
  have hchars := String.ofList_injective h
  cases as with
  | nil => exact (List.length_eq_zero_iff.1 hlen.symm).symm
  | cons a as =>
    cases bs with
    | nil => cases hlen
    | cons b bs =>
      have hcount := congrArg (List.count sep) hchars
      rw [List.map_cons, List.map_cons, count_intercalate, count_intercalate, List.length_map, List.length_map,
        Nat.succ.inj hlen, Nat.add_right_cancel_iff, ← List.map_cons, ← List.map_cons] at hcount
      have hzero : (((a :: as).map String.toList).map (List.count sep)).sum = 0 := by
        refine List.sum_eq_zero_iff_forall_eq_nat.2 fun n hn => ?_
        obtain ⟨l, hl, rfl⟩ := List.mem_map.1 hn
        obtain ⟨f, hf, rfl⟩ := List.mem_map.1 hl
        exact List.count_eq_zero.2 (has f hf)
      have hbs : ∀ l ∈ (b :: bs).map String.toList, sep ∉ l := fun l hl =>
        List.count_eq_zero.1 (List.sum_eq_zero_iff_forall_eq_nat.1 (hcount.symm.trans hzero) _ (List.mem_map_of_mem hl))
      have hsplit := congrArg (List.splitOn sep) hchars
      rw [List.splitOn_intercalate sep (by simpa using has) (by simp), List.splitOn_intercalate sep hbs (by simp)] at hsplit
      exact List.map_injective_iff.2 (fun _ _ => String.toList_injective) hsplit

/-- What stands at the front of the first item stands at the front of the whole. -/
theorem intercalate_append {α : Type} (x : α) (l l' : List α) (ls : List (List α)) :
    [x].intercalate ((l ++ l') :: ls) = l ++ [x].intercalate (l' :: ls) := by
  cases ls with
  | nil => rw [List.intercalate_singleton, List.intercalate_singleton]
  | cons l'' ls =>
    rw [List.intercalate_cons_cons, List.intercalate_cons_cons, List.append_assoc, List.append_assoc, List.append_assoc]

/-- A field that holds a separator, split there, and its rest put in front of the next field. -/
theorem joinWith_move {sep : Char} {x y : List Char} {f g : String} (hf : f.toList = x ++ sep :: y) (pre post : List String) :
    joinWith sep (pre ++ String.ofList x :: String.ofList (y ++ sep :: g.toList) :: post) =
      joinWith sep (pre ++ f :: g :: post) := by
  refine congrArg String.ofList ?_
  rw [List.map_append, List.map_append, List.map_cons, List.map_cons, List.map_cons, List.map_cons, hf, String.toList_ofList,
    String.toList_ofList]
  induction pre with
  | nil =>
    rw [List.map_nil, List.nil_append, List.nil_append, List.intercalate_cons_cons, List.intercalate_cons_cons,
      List.append_cons y sep, List.append_cons x sep y, intercalate_append, ← List.append_assoc, List.append_assoc _ _ [sep]]
  | cons p pre ih =>
    rw [List.map_cons, List.cons_append, List.cons_append, List.intercalate_cons_of_ne_nil (by simp),
      List.intercalate_cons_of_ne_nil (by simp), ih]

end Archisynapse
