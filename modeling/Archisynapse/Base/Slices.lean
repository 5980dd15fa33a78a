import Archisynapse.Base.Exec
import Archisynapse.Base.Sums

/-!
# Slices of a state

A slice is the part of a state that belongs to someone. Code that is about a slice commutes with taking it (`Exec.Commutes`): run on
the slice, it ends as it does on the whole state, and leaves the slice of what it leaves there.

In a run whose steps either are someone's own, and commute with their slice, or leave the slice as it was, the slice moves as if
nobody else had taken a step: `slice_foldl` for where the run ends, `visits_slice` for each step on the way.
-/

namespace Archisynapse

/-! ## Code that commutes with a slice -/

namespace Exec

variable {σ ε α β : Type} {π : σ → σ} {s : σ}

/-- On the slice of a state, the code ends as it does on the state, and leaves the slice of what it leaves there. -/
def Commutes (π : σ → σ) (x : Exec σ ε α) (s : σ) : Prop := x (π s) = ((x s).1, π (x s).2)

theorem commutes_pure (a : α) : Commutes π (pure a : Exec σ ε α) s := rfl

theorem commutes_throw (e : ε) : Commutes π (throw e : Exec σ ε α) s := rfl

theorem commutes_gets {f : σ → α} (h : f (π s) = f s) : Commutes π (gets f : Exec σ ε α) s := by
  unfold Commutes gets
  rw [h]

theorem commutes_modify {f : σ → σ} (h : f (π s) = π (f s)) : Commutes π (modify f : Exec σ ε Unit) s := by
  unfold Commutes modify
  rw [h]

/-- A step after another: the second is run where the first leaves the state. -/
theorem Commutes.bind {x : Exec σ ε α} {f : α → Exec σ ε β} (hx : Commutes π x s)
    (hf : ∀ a s', x s = (.ok a, s') → Commutes π (f a) s') : Commutes π (x >>= f) s := by
  unfold Commutes at hx ⊢
  simp only [Bind.bind]
  rw [hx]
  cases h : x s with
  | mk r s' =>
    cases r with
    | ok a => exact hf a s' h
    | error e => rfl

/-- A first step that reads what the slice has. -/
theorem commutes_gets_bind {f : σ → α} {k : α → Exec σ ε β} (h : f (π s) = f s) (hk : Commutes π (k (f s)) s) :
    Commutes π (gets f >>= k) s := by
  refine (commutes_gets h).bind (fun a s' hrun => ?_)
  obtain ⟨rfl, rfl⟩ := gets_eq_ok.1 hrun
  exact hk

/-- A first step that writes the same on the slice. -/
theorem commutes_modify_bind {f : σ → σ} {k : Unit → Exec σ ε β} (h : f (π s) = π (f s)) (hk : Commutes π (k ()) (f s)) :
    Commutes π (modify f >>= k) s := by
  refine (commutes_modify h).bind (fun _ s' hrun => ?_)
  obtain rfl := modify_eq_ok.1 hrun
  exact hk

theorem commutes_ite {c : Prop} [Decidable c] {x y : Exec σ ε α} (hx : c → Commutes π x s) (hy : ¬ c → Commutes π y s) :
    Commutes π (if c then x else y) s := by
  by_cases h : c
  · rw [if_pos h]
    exact hx h
  · rw [if_neg h]
    exact hy h

theorem Commutes.transaction {x : Exec σ ε α} (hx : Commutes π x s) : Commutes π (transaction x) s := by
  unfold Commutes at hx ⊢
  unfold Exec.transaction
  rw [hx]
  cases h : x s with
  | mk r s' => cases r <;> rfl

end Exec

/-! ## Slices of tables -/

section

variable {α κ : Type} [DecidableEq κ]

/-- Updating rows and then keeping some: the update does not move a row in or out. -/
theorem filter_updateKey {key : α → κ} {u : α → α} {p : α → Bool} (h : ∀ x, p (u x) = p x) (k : κ) (l : List α) :
    (updateKey key k u l).filter p = updateKey key k u (l.filter p) := by
  unfold updateKey
  rw [List.filter_map]
  congr 1
  refine List.filter_congr (fun x _ => ?_)
  by_cases hk : key x = k
  · simp [hk, h]
  · simp [hk]

/-- An update of rows that are not kept. -/
theorem filter_updateKey_other {key : α → κ} {u : α → α} {p : α → Bool} (h : ∀ x, p (u x) = p x) {k : κ} {l : List α}
    (hother : ∀ x ∈ l, key x = k → p x = false) : (updateKey key k u l).filter p = l.filter p := by
  rw [filter_updateKey h, updateKey_of_not_mem]
  intro x hx hk
  obtain ⟨hmem, hp⟩ := List.mem_filter.1 hx
  rw [hother x hmem hk] at hp
  cases hp

end

/-- A search whose hits are all kept finds the same row among the rows that are kept. -/
theorem find?_filter_of_imp {α : Type} {p q : α → Bool} {l : List α} (h : ∀ x ∈ l, q x = true → p x = true) :
    (l.filter p).find? q = l.find? q := by
  induction l with
  | nil => rfl
  | cons x l ih =>
    have hl := ih (fun y hy => h y (List.mem_cons_of_mem _ hy))
    by_cases hp : p x = true
    · rw [List.filter_cons_of_pos hp, List.find?_cons, List.find?_cons, hl]
    · have hq : q x = false := by
        rw [← Bool.not_eq_true]
        exact fun hq => hp (h x List.mem_cons_self hq)
      rw [List.filter_cons_of_neg hp, hl, List.find?_cons, hq]

/-! ## Runs -/

section

variable {σ τ ι : Type}

/-- The steps of a run, each with the state it is taken in. -/
def visits (step : σ → ι → σ) (s : σ) : List ι → List (σ × ι)
  | [] => []
  | c :: cs => (s, c) :: visits step (step s c) cs

/-- The steps of a run that are someone's own, each with the state it is taken in. -/
def ownVisits (step : σ → ι → σ) (mine : σ → ι → Bool) (s : σ) (cs : List ι) : List (σ × ι) :=
  (visits step s cs).filter (fun v => mine v.1 v.2)

variable {step : σ → ι → σ} {step' : τ → ι → τ} {mine : σ → ι → Bool} {π : σ → τ} {s : σ} {c : ι} {cs : List ι}

theorem ownVisits_mine (h : mine s c = true) :
    ownVisits step mine s (c :: cs) = (s, c) :: ownVisits step mine (step s c) cs := List.filter_cons_of_pos h

theorem ownVisits_other (h : mine s c = false) : ownVisits step mine s (c :: cs) = ownVisits step mine (step s c) cs :=
  List.filter_cons_of_neg (by simp [h])

/-- A slice that own steps commute with and that other steps leave alone, while an invariant of the run lasts. -/
structure Slice (step : σ → ι → σ) (step' : τ → ι → τ) (mine : σ → ι → Bool) (π : σ → τ) (I : σ → List ι → Prop) : Prop where
  keeps : ∀ s c cs, I s (c :: cs) → I (step s c) cs
  own : ∀ s c cs, I s (c :: cs) → mine s c = true → step' (π s) c = π (step s c)
  other : ∀ s c cs, I s (c :: cs) → mine s c = false → π (step s c) = π s

variable {I : σ → List ι → Prop}

/-- The slice of a run is the run of its own steps. -/
theorem slice_foldl (h : Slice step step' mine π I) (hs : I s cs) :
    π (cs.foldl step s) = ((ownVisits step mine s cs).map (·.2)).foldl step' (π s) := by
  induction cs generalizing s with
  | nil => rfl
  | cons c cs ih =>
    rw [List.foldl_cons, ih (h.keeps s c cs hs)]
    cases hm : mine s c with
    | true => rw [ownVisits_mine hm, List.map_cons, List.foldl_cons, h.own s c cs hs hm]
    | false => rw [ownVisits_other hm, h.other s c cs hs hm]

/-- The run of the own steps takes each where the run of all of them does, as far as the slice shows. -/
theorem visits_slice (h : Slice step step' mine π I) (hs : I s cs) :
    visits step' (π s) ((ownVisits step mine s cs).map (·.2)) = (ownVisits step mine s cs).map (fun v => (π v.1, v.2)) := by
  induction cs generalizing s with
  | nil => rfl
  | cons c cs ih =>
    have htail := ih (h.keeps s c cs hs)
    cases hm : mine s c with
    | true =>
      rw [ownVisits_mine hm, List.map_cons, List.map_cons, visits, h.own s c cs hs hm, htail]
    | false =>
      rw [ownVisits_other hm, ← h.other s c cs hs hm]
      exact htail

/-- A step of a run is taken while the invariant lasts. -/
theorem Slice.visits_inv (h : Slice step step' mine π I) (hs : I s cs) :
    ∀ v ∈ visits step s cs, ∃ rest, I v.1 (v.2 :: rest) := by
  induction cs generalizing s with
  | nil => simp [visits]
  | cons c cs ih =>
    intro v hv
    rcases List.mem_cons.1 hv with rfl | hv
    · exact ⟨cs, hs⟩
    · exact ih (h.keeps s c cs hs) v hv

/-- What own steps answer is what they answer on the slice, when each step's answer is read off its slice. -/
theorem answers_slice {ρ : Type} (h : Slice step step' mine π I) (hs : I s cs) {answer : σ → ι → ρ} {answer' : τ → ι → ρ}
    (ha : ∀ s c cs, I s (c :: cs) → mine s c = true → answer' (π s) c = answer s c) :
    (visits step' (π s) ((ownVisits step mine s cs).map (·.2))).map (fun v => answer' v.1 v.2) =
      (ownVisits step mine s cs).map (fun v => answer v.1 v.2) := by
  rw [visits_slice h hs, List.map_map]
  refine List.map_congr_left (fun v hv => ?_)
  obtain ⟨hmem, hm⟩ := List.mem_filter.1 hv
  obtain ⟨rest, hI⟩ := h.visits_inv hs v hmem
  exact ha v.1 v.2 rest hI hm

end

end Archisynapse
