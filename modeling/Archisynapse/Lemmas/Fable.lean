import Archisynapse.Base.Sums
import Archisynapse.Contracts.Fable

/-!
# Issues that do not overlap

While no issue reads a key that another issue found free and has not come to an end with, the free keys stay free until they are
inserted (`Apart`), so every insert is the first one under its key (`outline_sound`).
-/

namespace Archisynapse

namespace Fable

open Commerce (CommerceError)

variable {sign : Signer}

/-! ## Reads -/

theorem earliest_mem {rows : List FableReceipt} {r : FableReceipt} (h : earliest rows = some r) : r ∈ rows :=
  (List.perm_insertionSort _ _).mem_iff.1 (List.mem_of_mem_head? h)

theorem earliest_eq_none {rows : List FableReceipt} (h : earliest rows = none) : rows = [] := by
  have hnil := List.head?_eq_none_iff.1 h
  exact List.perm_nil.1 (hnil ▸ (List.perm_insertionSort _ rows).symm)

theorem latest_mem {rows : List FableReceipt} {r : FableReceipt} (h : latest rows = some r) : r ∈ rows :=
  (List.perm_insertionSort _ _).mem_iff.1 (List.mem_of_mem_head? h)

theorem World.find_mem {s : World} {key : Key} {r : FableReceipt} (h : s.find key = some r) : r ∈ s.rows ∧ r.key = key := by
  obtain ⟨hr, hkey⟩ := List.mem_filter.1 (earliest_mem h)
  exact ⟨hr, of_decide_eq_true hkey⟩

theorem World.find_eq_none {s : World} {key : Key} (h : s.find key = none) : ∀ r ∈ s.rows, r.key ≠ key := by
  intro r hr heq
  have hnil := earliest_eq_none h
  exact List.filter_eq_nil_iff.1 hnil r hr (decide_eq_true heq)

/-! ## One step -/

/-- An insert that came about: the receipt is the last row. -/
theorem World.insert_cases {s s' : World} {receipt : FableReceipt} {r : Except CommerceError FableReceipt}
    (h : s.insert receipt = (r, s')) :
    (∃ e, r = .error e ∧ s' = s) ∨ (r = .ok receipt ∧ s' = { s with rows := s.rows ++ [receipt] }) := by
  unfold World.insert at h
  split at h
  · cases h
    exact Or.inl ⟨_, rfl, rfl⟩
  split at h
  · cases h
    exact Or.inl ⟨_, rfl, rfl⟩
  · cases h
    exact Or.inr ⟨rfl, rfl⟩

/-! ## The outline -/

/-- No issue reads a key that another issue found free and has not come to an end with. -/
def apart (sign : Signer) : (machine sign).Cond where
  start _ _ := True
  step _ o s := match o with
    | .find key => ∀ p ∈ s.issuing, p.2 ≠ key
    | _ => True

/-- One receipt a key, and the keys that issues found free are free and distinct. -/
structure Apart (s : World) : Prop where
  keys : (s.rows.map (·.key)).Nodup
  free : ∀ p ∈ s.issuing, ∀ r ∈ s.rows, r.key ≠ p.2
  distinct : (s.issuing.map (·.2)).Nodup

theorem apart_empty : Apart .empty := ⟨List.nodup_nil, by simp [World.empty], List.nodup_nil⟩

/-- A worker that is gone or has come to an end. -/
theorem Apart.settle {s : World} (h : Apart s) (w : Nat) : Apart (s.settle w) :=
  ⟨h.keys, fun p hp => h.free p (List.mem_of_mem_filter hp), h.distinct.sublist (List.filter_sublist.map _)⟩

/-- What other workers found free is still recorded, and rows stay. -/
def Rely (w : Nat) (s s' : World) : Prop :=
  (∀ key, (w, key) ∈ s.issuing → (w, key) ∈ s'.issuing) ∧ ∀ r ∈ s.rows, r ∈ s'.rows

/-- The outline of the issues. -/
def outline (sign : Signer) : Machine.Outline (machine sign) where
  inv := Apart
  rely w _ := Rely w
  guar w _ s s' := ∀ w', w' ≠ w → Rely w' s s'
  compat _ _ _ _ := True
  post _ args r s := ∀ a, r = .ok a → a ∈ s.rows ∧ a.key = args.key

theorem rely_settle {s : World} {w w' : Nat} (hne : w' ≠ w) : Rely w' s (s.settle w) := by
  refine ⟨fun key hkey => List.mem_filter.2 ⟨hkey, ?_⟩, fun r hr => hr⟩
  simp [hne]

/-- A read that meets the condition. -/
theorem exec_find {w : Nat} {key : Key} {ch : Choice} {s s' : World} {r : Except CommerceError (Option FableReceipt)}
    (h : exec sign w (.find key) ch s = some (r, s')) (hs : Apart s) (hcond : ∀ p ∈ s.issuing, p.2 ≠ key) :
    Apart s' ∧ (∀ w', Rely w' s s') ∧
      ((∃ e, r = .error e) ∨ (∃ p, r = .ok (some p) ∧ p ∈ s'.rows ∧ p.key = key) ∨ (r = .ok none ∧ (w, key) ∈ s'.issuing)) := by
  have hrefl : ∀ w', Rely w' s s := fun _ => ⟨fun _ h => h, fun _ h => h⟩
  unfold exec at h
  cases hf : ch.fails with
  | some e =>
    rw [hf] at h
    cases h
    exact ⟨hs, hrefl, Or.inl ⟨e, rfl⟩⟩
  | none =>
    rw [hf] at h
    dsimp only at h
    cases hfind : s.find key with
    | some p =>
      rw [hfind] at h
      cases h
      exact ⟨hs, hrefl, Or.inr (Or.inl ⟨p, rfl, s.find_mem hfind⟩)⟩
    | none =>
      rw [hfind] at h
      cases h
      refine ⟨⟨hs.keys, ?_, ?_⟩, fun w' => ⟨fun _ h => List.mem_append_left _ h, fun _ h => h⟩,
        Or.inr (Or.inr ⟨rfl, List.mem_append_right _ (List.mem_singleton_self _)⟩)⟩
      · intro p hp
        rcases List.mem_append.1 hp with hp | hp
        · exact hs.free p hp
        · rw [List.mem_singleton.1 hp]
          exact s.find_eq_none hfind
      · exact nodup_map_concat hs.distinct hcond

/-- An insert of a key that was found free. -/
theorem exec_insert {w : Nat} {args : IssueArgs} {ch : Choice} {s s' : World} {r : Except CommerceError FableReceipt}
    (h : exec sign w (.insert args) ch s = some (r, s')) (hs : Apart s) (hfree : (w, args.key) ∈ s.issuing) :
    Apart s' ∧ (∀ w', w' ≠ w → Rely w' s s') ∧ ∀ a, r = .ok a → a ∈ s'.rows ∧ a.key = args.key := by
  have hsettled := hs.settle w
  unfold exec at h
  cases hf : ch.fails with
  | some e =>
    rw [hf] at h
    cases h
    exact ⟨hsettled, fun w' hne => rely_settle hne, fun a ha => by cases ha⟩
  | none =>
    rw [hf] at h
    rcases World.insert_cases (Option.some.inj h) with ⟨e, rfl, rfl⟩ | ⟨rfl, rfl⟩
    · exact ⟨hsettled, fun w' hne => rely_settle hne, fun a ha => by cases ha⟩
    · refine ⟨⟨?_, ?_, hsettled.distinct⟩, fun w' hne => ?_, fun a ha => ?_⟩
      · exact nodup_map_concat hs.keys (hs.free _ hfree)
      · intro p hp x hx
        rcases List.mem_append.1 hx with hx | hx
        · exact hsettled.free p hp x hx
        · -- another issue that found the same key free would be this one
          rw [List.mem_singleton.1 hx]
          intro heq
          obtain ⟨hp, hne⟩ := List.mem_filter.1 hp
          have hsame : p = (w, args.key) := List.inj_on_of_nodup_map hs.distinct hp hfree heq.symm
          rw [hsame] at hne
          simp at hne
      · exact ⟨(rely_settle hne).1, fun x hx => List.mem_append_left _ hx⟩
      · cases ha
        exact ⟨List.mem_append_right _ (List.mem_singleton_self _), rfl⟩

/-- An issue keeps the keys apart, and what it returns is stored under its key. -/
theorem issue_keeps (w : Nat) (args : IssueArgs) (s : World) : (outline sign).Keeps (apart sign) w args (issue sign args) s := by
  unfold Machine.Outline.Keeps issue
  refine (Prog.wp_bind _ _ _).2 ?_
  refine (Prog.wp_perform (S := signature) (.find args.key) s).2 ?_
  intro s₁ hrely hinv r s₂ hdoes
  obtain ⟨hcond, ch, he⟩ := hdoes
  obtain ⟨hinv₂, hguar, hr⟩ := exec_find he hinv hcond
  refine ⟨hinv₂, fun w' _ => hguar w', ?_⟩
  rcases hr with ⟨e, rfl⟩ | ⟨p, rfl, hp, hkey⟩ | ⟨rfl, hfree⟩
  · exact fun a ha => by cases ha
  · dsimp only
    split
    · exact fun a ha => by cases ha
    split
    · exact fun a ha => by cases ha
    · intro a ha
      cases ha
      exact ⟨hp, hkey⟩
  · refine (Prog.wp_perform (S := signature) (.insert args) s₂).2 ?_
    intro s₃ hrely₃ hinv₃ r₄ s₄ hdoes₄
    obtain ⟨-, ch₄, he₄⟩ := hdoes₄
    exact exec_insert he₄ hinv₃ (hrely₃.1 _ hfree)

/-- Issues that do not overlap keep the keys apart. -/
theorem outline_sound (sign : Signer) : (outline sign).Sound (apart sign) where
  refl _ _ _ := ⟨fun _ h => h, fun _ h => h⟩
  trans _ _ _ _ _ h h' := ⟨fun key hkey => h'.1 key (h.1 key hkey), fun r hr => h'.2 r (h.2 r hr)⟩
  symm _ _ _ _ _ := trivial
  guar _ _ w' _ _ _ hne _ _ h := h w' hne.symm
  start cfg args _ _ := ⟨fun _ _ => trivial, issue_keeps cfg.started args cfg.state⟩
  crash w _ hs := ⟨hs.settle w, fun _ _ hne => rely_settle hne⟩

end Fable

end Archisynapse
