import Mathlib.Data.List.Nodup
import Mathlib.Order.Lattice

/-!
# Paging by a cursor

A list is served in pages of `n` items. The cursor of a page is the key of its last item, and the next page starts over with the
items whose keys are below the cursor, in the order of the list. When no two items share a key, following the cursors serves each
item once exactly where every page boundary separates the keys: those before it are greater, and those after it smaller.
-/

namespace Archisynapse

namespace Paging

variable {α κ : Type} (key : α → κ) (n : Nat) (l : List α)

/-- The first page of a list, and the cursor after it when there is more. -/
def page : List α × Option κ := if n < l.length then (l.take n, (l.take n).getLast?.map key) else (l, none)

variable [LinearOrder κ]

/-- What a cursor leaves of the list. -/
def rest : Option κ → List α
  | none => l
  | some c => l.filter (fun a => decide (key a < c))

/-- What following the cursors serves, from a cursor until there is none. -/
inductive Serves : Option κ → List α → Prop where
  | last {c : Option κ} {items : List α} (h : page key n (rest key l c) = (items, none)) : Serves c items
  | more {c : Option κ} {items : List α} {c' : κ} {later : List α} (h : page key n (rest key l c) = (items, some c'))
      (hlater : Serves (some c') later) : Serves c (items ++ later)

/-- The boundary after a whole page separates the keys. -/
def Separates (l : List α) : Prop :=
  ∀ pre a post, l = pre ++ a :: post → n ∣ pre.length + 1 → post ≠ [] → (∀ b ∈ pre, key a < key b) ∧ ∀ b ∈ post, key b < key a

variable {key n l}

/-! ## Pages -/

/-- A list that does not fit on a page is a whole page and more. -/
theorem exists_page (hn : 0 < n) (h : n < l.length) : ∃ pre a post, l = pre ++ a :: post ∧ pre.length + 1 = n ∧ post ≠ [] := by
  have hlast : n - 1 < l.length := by omega
  refine ⟨l.take (n - 1), l[n - 1], l.drop n, ?_, ?_, ?_⟩
  · have hdrop := List.drop_eq_getElem_cons hlast
    rw [Nat.sub_add_cancel hn] at hdrop
    rw [← hdrop, List.take_append_drop]
  · rw [List.length_take]
    omega
  · exact List.ne_nil_of_length_pos (by rw [List.length_drop]; omega)

omit [LinearOrder κ] in
/-- The page of a list with a whole page and more. -/
theorem page_more {pre post : List α} {a : α} (hpre : pre.length + 1 = n) (hpost : post ≠ []) :
    page key n (pre ++ a :: post) = (pre ++ [a], some (key a)) := by
  have hlen : n < (pre ++ a :: post).length := by
    have hpos := List.length_pos_iff.2 hpost
    rw [List.length_append, List.length_cons]
    omega
  have htake : (pre ++ a :: post).take n = pre ++ [a] := by
    rw [← hpre, List.take_append, List.take_of_length_le (by omega), show pre.length + 1 - pre.length = 1 by omega]
    rfl
  unfold page
  rw [if_pos hlen, htake, List.getLast?_append_cons]
  rfl

omit [LinearOrder κ] in
/-- The page of a list that fits. -/
theorem page_last (h : l.length ≤ n) : page key n l = (l, none) := if_neg (Nat.not_lt.2 h)

omit [LinearOrder κ] in
/-- What is on a page is in the list, and so is the item whose key is the cursor. -/
theorem page_subset {items : List α} {c : Option κ} (h : page key n l = (items, c)) :
    (∀ a ∈ items, a ∈ l) ∧ ∀ k ∈ c, ∃ a ∈ l, key a = k := by
  unfold page at h
  by_cases hlen : n < l.length
  · rw [if_pos hlen] at h
    obtain ⟨rfl, rfl⟩ := Prod.mk.inj h
    refine ⟨fun a => List.mem_of_mem_take, fun k hk => ?_⟩
    obtain ⟨a, ha, rfl⟩ := Option.map_eq_some_iff.1 hk
    exact ⟨a, List.mem_of_mem_take (List.mem_of_getLast? ha), rfl⟩
  · rw [if_neg hlen] at h
    obtain ⟨rfl, rfl⟩ := Prod.mk.inj h
    exact ⟨fun a ha => ha, fun k hk => by cases hk⟩

theorem rest_some (c : κ) : rest key l (some c) = l.filter (fun a => decide (key a < c)) := rfl

/-- What the key of an item that is left leaves. -/
theorem rest_of_mem {c : Option κ} {a : α} (ha : a ∈ rest key l c) :
    rest key l (some (key a)) = (rest key l c).filter (fun b => decide (key b < key a)) := by
  cases c with
  | none => rfl
  | some c =>
    have hlt : key a < c := of_decide_eq_true (List.mem_filter.1 ha).2
    unfold rest
    rw [List.filter_filter]
    refine List.filter_congr fun b _ => ?_
    by_cases hb : key b < key a
    · rw [decide_eq_true hb, decide_eq_true (hb.trans hlt), Bool.and_self]
    · rw [decide_eq_false hb, Bool.false_and]

/-! ## Following the cursors -/

/-- Following the cursors serves what is left, or a page of it and what the key of the last item serves. -/
theorem serves_iff (hn : 0 < n) {c : Option κ} {items : List α} : Serves key n l c items ↔
    ((rest key l c).length ≤ n ∧ items = rest key l c) ∨
    ∃ pre a post later, rest key l c = pre ++ a :: post ∧ pre.length + 1 = n ∧ post ≠ [] ∧ items = pre ++ a :: later ∧
      Serves key n l (some (key a)) later := by
  constructor
  · intro h
    by_cases hfits : (rest key l c).length ≤ n
    · refine Or.inl ⟨hfits, ?_⟩
      have hpage : page key n (rest key l c) = (rest key l c, none) := page_last hfits
      cases h with
      | last h => exact (Prod.mk.inj (h.symm.trans hpage)).1
      | more h _ => cases (Prod.mk.inj (h.symm.trans hpage)).2
    · obtain ⟨pre, a, post, hsplit, hpre, hpost⟩ := exists_page hn (Nat.not_le.1 hfits)
      have hpage : page key n (pre ++ a :: post) = (pre ++ [a], some (key a)) := page_more hpre hpost
      rw [← hsplit] at hpage
      cases h with
      | last h => cases (Prod.mk.inj (h.symm.trans hpage)).2
      | more h hlater =>
        obtain ⟨rfl, hc⟩ := Prod.mk.inj (h.symm.trans hpage)
        obtain rfl := Option.some.inj hc
        exact Or.inr ⟨pre, a, post, _, hsplit, hpre, hpost, List.append_cons _ _ _ ▸ rfl, hlater⟩
  · rintro (⟨hfits, rfl⟩ | ⟨pre, a, post, later, hsplit, hpre, hpost, rfl, hlater⟩)
    · exact .last (page_last hfits)
    · rw [← List.singleton_append, ← List.append_assoc]
      refine .more ?_ hlater
      rw [hsplit]
      exact page_more hpre hpost

/-- Following the cursors ends: each leaves fewer items. -/
theorem exists_serves (hn : 0 < n) (c : Option κ) : ∃ items, Serves key n l c items := by
  induction hsize : (rest key l c).length using Nat.strongRecOn generalizing c with
  | _ size ih =>
    by_cases hfits : (rest key l c).length ≤ n
    · exact ⟨_, .last (page_last hfits)⟩
    · obtain ⟨pre, a, post, hsplit, hpre, hpost⟩ := exists_page hn (Nat.not_le.1 hfits)
      have ha : a ∈ rest key l c := hsplit ▸ List.mem_append_right pre List.mem_cons_self
      have hfewer : (rest key l (some (key a))).length < size := by
        rw [rest_of_mem ha, ← hsize]
        exact List.length_filter_lt_length_iff_exists.2 ⟨a, ha, by simp⟩
      obtain ⟨later, hlater⟩ := ih _ hfewer _ rfl
      exact ⟨_, (serves_iff hn).2 (Or.inr ⟨pre, a, post, later, hsplit, hpre, hpost, rfl, hlater⟩)⟩

/-- What is served is left by the cursor. -/
theorem Serves.subset {c : Option κ} {items : List α} (h : Serves key n l c items) : ∀ a ∈ items, a ∈ rest key l c := by
  induction h with
  | last h => exact (page_subset h).1
  | @more c _ _ _ h _ ih =>
    obtain ⟨hitems, hc⟩ := page_subset h
    intro b hb
    rcases List.mem_append.1 hb with hb | hb
    · exact hitems b hb
    · obtain ⟨a, ha, rfl⟩ := hc _ rfl
      have hb' := ih b hb
      rw [rest_of_mem ha] at hb'
      exact (List.mem_filter.1 hb').1

/-- The first item that is left is served. -/
theorem Serves.first (hn : 0 < n) {c : Option κ} {items post : List α} {a : α} (h : Serves key n l c items)
    (hrest : rest key l c = a :: post) : a ∈ items := by
  rcases (serves_iff hn).1 h with ⟨-, rfl⟩ | ⟨pre, b, later, -, hsplit, -, -, rfl, -⟩
  · rw [hrest]
    exact List.mem_cons_self
  · rw [hrest] at hsplit
    cases pre with
    | nil => exact List.mem_cons.2 (Or.inl (List.cons.inj hsplit).1)
    | cons d pre => exact List.mem_cons.2 (Or.inl (List.cons.inj hsplit).1)

/-- The cursors serve one list. -/
theorem Serves.unique {c : Option κ} {items others : List α} (h : Serves key n l c items) (h' : Serves key n l c others) :
    items = others := by
  induction h generalizing others with
  | last h =>
    cases h' with
    | last h' => exact (Prod.mk.inj (h.symm.trans h')).1
    | more h' _ => cases (Prod.mk.inj (h.symm.trans h')).2
  | more h _ ih =>
    cases h' with
    | last h' => cases (Prod.mk.inj (h.symm.trans h')).2
    | more h' hlater' =>
      obtain ⟨rfl, hc⟩ := Prod.mk.inj (h.symm.trans h')
      obtain rfl := Option.some.inj hc
      rw [ih hlater']

/-! ## Completeness -/

/-- A boundary that separates the keys leaves what comes after it. -/
theorem rest_boundary {pre post : List α} {a : α} (hbefore : ∀ b ∈ pre, key a < key b) (hafter : ∀ b ∈ post, key b < key a) :
    rest key (pre ++ a :: post) (some (key a)) = post := by
  have hnone : pre.filter (fun b => decide (key b < key a)) = [] :=
    List.filter_eq_nil_iff.2 fun b hb => by simpa using (hbefore b hb).le
  have hall : post.filter (fun b => decide (key b < key a)) = post :=
    List.filter_eq_self.2 fun b hb => decide_eq_true (hafter b hb)
  rw [rest_some, List.filter_append, List.filter_cons_of_neg (by simp), hnone, hall, List.nil_append]

/-- Where the boundaries separate the keys, each page leaves what comes after it. -/
theorem serves_of_separates (hn : 0 < n) (hl : Separates key n l) (pre post : List α) (c : Option κ) (hsplit : l = pre ++ post)
    (hdvd : n ∣ pre.length) (hrest : rest key l c = post) : Serves key n l c post := by
  induction hsize : post.length using Nat.strongRecOn generalizing pre post c with
  | _ size ih =>
    by_cases hfits : post.length ≤ n
    · exact (serves_iff hn).2 (Or.inl ⟨hrest ▸ hfits, hrest.symm⟩)
    · obtain ⟨mid, a, later, rfl, hmid, hlater⟩ := exists_page hn (Nat.not_le.1 hfits)
      have hsplit' : l = (pre ++ mid) ++ a :: later := by rw [hsplit, List.append_assoc]
      have hdvd' : n ∣ (pre ++ mid).length + 1 := by
        rw [List.length_append, Nat.add_assoc, hmid]
        exact Nat.dvd_add hdvd (Nat.dvd_refl n)
      obtain ⟨hbefore, hafter⟩ := hl _ _ _ hsplit' hdvd' hlater
      have hleft : rest key l (some (key a)) = later := by
        rw [hsplit']
        exact rest_boundary hbefore hafter
      refine (serves_iff hn).2 (Or.inr ⟨mid, a, later, later, hrest, hmid, hlater, rfl, ?_⟩)
      refine ih later.length ?_ (pre ++ mid ++ [a]) later _ ?_ ?_ hleft rfl
      · rw [← hsize, List.length_append, List.length_cons]
        omega
      · rw [hsplit', List.append_assoc (pre ++ mid), List.singleton_append]
      · rw [List.length_append]
        exact hdvd'

/-- Where what is left is served once, the boundaries in it separate the keys. -/
theorem separates_of_serves (hn : 0 < n) (hnd : (l.map key).Nodup) (pre post : List α) (c : Option κ) (hsplit : l = pre ++ post)
    (hrest : rest key l c = post) {items : List α} (h : Serves key n l c items) (hperm : items.Perm post) :
    Separates key n post := by
  induction hsize : post.length using Nat.strongRecOn generalizing pre post c items with
  | _ size ih =>
    intro before b after hpost hdvd hafter
    rcases (serves_iff hn).1 h with ⟨hfits, -⟩ | ⟨mid, a, later, served, hpage, hmid, hlater, rfl, hserved⟩
    · -- a list that fits on a page has no boundary inside
      have hle := Nat.le_of_dvd (Nat.succ_pos _) hdvd
      have hpos := List.length_pos_iff.2 hafter
      rw [hrest, hpost, List.length_append, List.length_cons] at hfits
      omega
    · obtain rfl : post = mid ++ a :: later := hrest.symm.trans hpage
      have hservedPerm : served.Perm later := by
        have hcons := (List.perm_append_left_iff mid).1 hperm
        exact (List.perm_cons a).1 hcons
      have hbelow : ∀ d ∈ later, key d < key a := by
        intro d hd
        have hmem := hserved.subset d (hservedPerm.mem_iff.2 hd)
        exact of_decide_eq_true (List.mem_filter.1 hmem).2
      have hdisjoint : ∀ d ∈ mid, d ∉ later ∧ key d ≠ key a := by
        intro d hd
        rw [hsplit, List.map_append, List.map_append, List.map_cons] at hnd
        have hmidNodup := (List.nodup_append.1 hnd).2.1
        have hne := (List.nodup_append.1 hmidNodup).2.2 (key d) (List.mem_map_of_mem hd)
        exact ⟨fun hlate => hne _ (List.mem_cons_of_mem _ (List.mem_map_of_mem hlate)) rfl, hne _ List.mem_cons_self⟩
      -- an item of the page below its last one would be served again at once
      have hlate : later.filter (fun b => decide (key b < key a)) = later :=
        List.filter_eq_self.2 fun d hd => decide_eq_true (hbelow d hd)
      have hleft : rest key l (some (key a)) = mid.filter (fun b => decide (key b < key a)) ++ later := by
        have ha : a ∈ rest key l c := hpage ▸ List.mem_append_right mid List.mem_cons_self
        rw [rest_of_mem ha, hpage, List.filter_append, List.filter_cons_of_neg (by simp), hlate]
      have hnone : mid.filter (fun b => decide (key b < key a)) = [] := by
        cases hcons : mid.filter (fun b => decide (key b < key a)) with
        | nil => rfl
        | cons d more =>
          rw [hcons, List.cons_append] at hleft
          have hmem : d ∈ mid.filter (fun b => decide (key b < key a)) := hcons ▸ List.mem_cons_self
          have hd : d ∈ mid := (List.mem_filter.1 hmem).1
          exact absurd (hservedPerm.mem_iff.1 (hserved.first hn hleft)) (hdisjoint d hd).1
      have habove : ∀ d ∈ mid, key a < key d := by
        intro d hd
        have hnot : ¬ key d < key a := by simpa using List.filter_eq_nil_iff.1 hnone d hd
        exact lt_of_le_of_ne (not_lt.1 hnot) (hdisjoint d hd).2.symm
      rw [hnone, List.nil_append] at hleft
      have hsep : Separates key n later := by
        refine ih later.length ?_ (pre ++ mid ++ [a]) later _ ?_ hleft hserved hservedPerm rfl
        · rw [← hsize, List.length_append, List.length_cons]
          omega
        · rw [hsplit, List.append_assoc (pre ++ mid), List.singleton_append, List.append_assoc]
      rcases List.append_eq_append_iff.1 hpost with ⟨as, hbefore, hrest'⟩ | ⟨bs, hmid', hrest'⟩
      · cases as with
        | nil =>
          -- the boundary is the end of this page
          obtain ⟨rfl, rfl⟩ := List.cons.inj hrest'
          rw [hbefore, List.append_nil]
          exact ⟨habove, hbelow⟩
        | cons d as =>
          -- the boundary is on a later page
          obtain ⟨rfl, hlater'⟩ := List.cons.inj hrest'
          have hdvd' : n ∣ as.length + 1 := by
            have hlen : before.length + 1 = n + (as.length + 1) := by
              rw [hbefore, List.length_append, List.length_cons]
              omega
            rw [hlen] at hdvd
            exact (Nat.dvd_add_right (Nat.dvd_refl n)).1 hdvd
          obtain ⟨hbefore', hafter'⟩ := hsep as b after hlater' hdvd' hafter
          have hb : key b < key a := hbelow b (hlater' ▸ List.mem_append_right as List.mem_cons_self)
          refine ⟨fun d hd => ?_, hafter'⟩
          rw [hbefore] at hd
          rcases List.mem_append.1 hd with hd | hd
          · exact hb.trans (habove d hd)
          · rcases List.mem_cons.1 hd with rfl | hd
            · exact hb
            · exact hbefore' d hd
      · cases bs with
        | nil =>
          -- the boundary is the end of this page
          obtain ⟨rfl, rfl⟩ := List.cons.inj hrest'
          rw [List.append_nil] at hmid'
          exact ⟨hmid' ▸ habove, hbelow⟩
        | cons d bs =>
          -- no boundary is inside this page
          have hle := Nat.le_of_dvd (Nat.succ_pos _) hdvd
          rw [hmid', List.length_append, List.length_cons] at hmid
          omega

/-- When no two items share a key, following the cursors from the start serves each item once exactly where every page boundary
separates the keys. -/
theorem Serves.complete_iff (hn : 0 < n) (hnd : (l.map key).Nodup) {items : List α} (h : Serves key n l none items) :
    items.Perm l ↔ Separates key n l := by
  constructor
  · intro hperm
    exact separates_of_serves hn hnd [] l none rfl rfl h hperm
  · intro hl
    exact List.Perm.of_eq (h.unique (serves_of_separates hn hl [] l none rfl (Nat.dvd_zero n) rfl))

end Paging

end Archisynapse
