import Mathlib.Logic.Basic

/-!
# Transactions over a state

Code that reads and writes a state and may throw: `Exec σ ε α` is a function from the state to an outcome and the state it
leaves. What was written before an error stays written, unless the code runs in a `transaction`, which puts the state back.
The lemmas `*_eq_ok` turn "this code returned" into what each of its steps did.
-/

namespace Archisynapse

/-- Code that reads and writes a state and may throw. -/
def Exec (σ ε α : Type) : Type := σ → Except ε α × σ

namespace Exec

variable {σ ε α β : Type}

instance : Monad (Exec σ ε) where
  pure a := fun s => (.ok a, s)
  bind x f := fun s => match x s with
    | (.ok a, s') => f a s'
    | (.error e, s') => (.error e, s')

/-- End with an error. -/
def throw (e : ε) : Exec σ ε α := fun s => (.error e, s)

/-- Read something off the state. -/
def gets (f : σ → α) : Exec σ ε α := fun s => (.ok (f s), s)

/-- Write the state. -/
def modify (f : σ → σ) : Exec σ ε Unit := fun s => (.ok (), f s)

/-- Run in a transaction: an error puts the state back. -/
def transaction (x : Exec σ ε α) : Exec σ ε α := fun s => match x s with
  | (.ok a, s') => (.ok a, s')
  | (.error e, _) => (.error e, s)

@[simp] theorem pure_eq_ok {a b : α} {s s' : σ} : (pure a : Exec σ ε α) s = (.ok b, s') ↔ a = b ∧ s = s' := by
  simp [pure]

@[simp] theorem throw_eq_ok {e : ε} {b : α} {s s' : σ} : (throw e : Exec σ ε α) s = (.ok b, s') ↔ False := by
  simp [throw]

@[simp] theorem gets_eq_ok {f : σ → α} {b : α} {s s' : σ} : (gets f : Exec σ ε α) s = (.ok b, s') ↔ f s = b ∧ s = s' := by
  simp [gets]

@[simp] theorem modify_eq_ok {f : σ → σ} {u : Unit} {s s' : σ} :
    (modify f : Exec σ ε Unit) s = (.ok u, s') ↔ f s = s' := by
  simp [modify]

@[simp] theorem bind_eq_ok {x : Exec σ ε α} {f : α → Exec σ ε β} {b : β} {s s' : σ} :
    (x >>= f) s = (.ok b, s') ↔ ∃ a s₁, x s = (.ok a, s₁) ∧ f a s₁ = (.ok b, s') := by
  simp only [bind]
  cases h : x s with
  | mk r s₁ =>
    cases r with
    | ok a =>
      constructor
      · exact fun hf => ⟨a, s₁, rfl, hf⟩
      · rintro ⟨a', s₁', heq, hf⟩
        cases heq
        exact hf
    | error e => simp

@[simp] theorem ite_eq_ok {c : Prop} [Decidable c] {x y : Exec σ ε α} {b : α} {s s' : σ} :
    (if c then x else y) s = (.ok b, s') ↔ (c ∧ x s = (.ok b, s')) ∨ (¬ c ∧ y s = (.ok b, s')) := by
  by_cases h : c <;> simp [h]

theorem ite_eq_error {c : Prop} [Decidable c] {x y : Exec σ ε α} {e : ε} {s s' : σ} :
    (if c then x else y) s = (.error e, s') ↔ (c ∧ x s = (.error e, s')) ∨ (¬ c ∧ y s = (.error e, s')) := by
  by_cases h : c <;> simp [h]

@[simp] theorem transaction_eq_ok {x : Exec σ ε α} {b : α} {s s' : σ} :
    transaction x s = (.ok b, s') ↔ x s = (.ok b, s') := by
  unfold transaction
  cases h : x s with
  | mk r s₁ =>
    cases r with
    | ok a => simp
    | error e => simp

/-- A first step that returned. -/
theorem bind_ok {x : Exec σ ε α} {f : α → Exec σ ε β} {a : α} {s s₁ : σ} (h : x s = (.ok a, s₁)) : (x >>= f) s = f a s₁ := by
  simp only [bind, h]

/-- A first step that reads. -/
theorem gets_bind (f : σ → α) (g : α → Exec σ ε β) (s : σ) : (gets f >>= g) s = g (f s) s := rfl

/-- A transaction that returned. -/
theorem transaction_ok {x : Exec σ ε α} {a : α} {s s₁ : σ} (h : x s = (.ok a, s₁)) : transaction x s = (.ok a, s₁) :=
  transaction_eq_ok.2 h

/-- A transaction that threw. -/
theorem transaction_error {x : Exec σ ε α} {e : ε} {s t : σ} (h : x s = (.error e, t)) :
    transaction x s = (.error e, s) := by
  unfold transaction
  rw [h]

/-- A sequence that threw: one of its parts did. -/
theorem bind_eq_error {x : Exec σ ε α} {f : α → Exec σ ε β} {e : ε} {s s' : σ} (h : (x >>= f) s = (.error e, s')) :
    x s = (.error e, s') ∨ ∃ a s₁, x s = (.ok a, s₁) ∧ f a s₁ = (.error e, s') := by
  simp only [bind] at h
  cases hx : x s with
  | mk r s₁ =>
    rw [hx] at h
    cases r with
    | ok a => exact Or.inr ⟨a, s₁, rfl, h⟩
    | error e' =>
      cases h
      exact Or.inl rfl

/-- The body of a transaction that threw. -/
theorem body_of_transaction_error {x : Exec σ ε α} {e : ε} {s s' : σ} (h : transaction x s = (.error e, s')) :
    ∃ t, x s = (.error e, t) := by
  unfold transaction at h
  split at h
  · cases h
  · rename_i e' t hx
    cases h
    exact ⟨t, hx⟩

/-- Code whose last step returns throws where its first step does. -/
theorem bind_pure_eq_error {x : Exec σ ε α} {f : α → β} {e : ε} {s s' : σ}
    (h : (x >>= fun a => pure (f a)) s = (.error e, s')) : x s = (.error e, s') := by
  simp only [bind] at h
  cases hx : x s with
  | mk r s₁ =>
    rw [hx] at h
    cases r with
    | ok a => exact absurd (Prod.mk.inj h).1 (by simp)
    | error e' =>
      cases h
      rfl

/-- A transaction that throws leaves the state as it was. -/
theorem transaction_eq_error {x : Exec σ ε α} {e : ε} {s s' : σ} (h : transaction x s = (.error e, s')) : s' = s := by
  unfold transaction at h
  split at h
  · cases h
  · exact (Prod.mk.inj h).2.symm

/-! ## What code does to the state -/

/-- However the code ends, it moves the state along `R`. -/
def Moves (R : σ → σ → Prop) (x : Exec σ ε α) : Prop := ∀ s r s', x s = (r, s') → R s s'

/-- The code only reads. -/
def Reads (x : Exec σ ε α) : Prop := Moves (fun s s' => s' = s) x

theorem reads_pure (a : α) : Reads (pure a : Exec σ ε α) := fun _ _ _ h => (Prod.mk.inj h).2.symm

theorem reads_throw (e : ε) : Reads (throw e : Exec σ ε α) := fun _ _ _ h => (Prod.mk.inj h).2.symm

theorem reads_gets (f : σ → α) : Reads (gets f : Exec σ ε α) := fun _ _ _ h => (Prod.mk.inj h).2.symm

variable {R : σ → σ → Prop}

/-- Code that only reads moves the state along any relation that is reflexive. -/
theorem Reads.moves {x : Exec σ ε α} (hx : Reads x) (hR : ∀ s, R s s) : Moves R x := by
  intro s r s' h
  rw [hx s r s' h]
  exact hR s

theorem moves_ite {c : Prop} [Decidable c] {x y : Exec σ ε α} (hx : Moves R x) (hy : Moves R y) :
    Moves R (if c then x else y) := by
  by_cases h : c
  · rw [if_pos h]
    exact hx
  · rw [if_neg h]
    exact hy

/-- A first step that only reads. -/
theorem Reads.bind {x : Exec σ ε α} {f : α → Exec σ ε β} (hx : Reads x) (hR : ∀ s, R s s) (hf : ∀ a, Moves R (f a)) :
    Moves R (x >>= f) := by
  intro s r s' h
  simp only [Bind.bind] at h
  cases hxs : x s with
  | mk q s₁ =>
    rw [hxs] at h
    obtain rfl := hx s q s₁ hxs
    cases q with
    | ok a => exact hf a _ r s' h
    | error e =>
      obtain rfl := (Prod.mk.inj h).2
      exact hR _

/-- Steps after the first that only read. -/
theorem Moves.bind {x : Exec σ ε α} {f : α → Exec σ ε β} (hx : Moves R x) (hf : ∀ a, Reads (f a)) : Moves R (x >>= f) := by
  intro s r s' h
  simp only [Bind.bind] at h
  cases hxs : x s with
  | mk q s₁ =>
    rw [hxs] at h
    cases q with
    | ok a =>
      obtain rfl := hf a s₁ r s' h
      exact hx s _ _ hxs
    | error e =>
      obtain rfl := (Prod.mk.inj h).2
      exact hx s _ _ hxs

/-- A step after another, along a relation that is transitive. -/
theorem Moves.andThen {x : Exec σ ε α} {f : α → Exec σ ε β} (hx : Moves R x) (htrans : ∀ s t u, R s t → R t u → R s u)
    (hf : ∀ a, Moves R (f a)) : Moves R (x >>= f) := by
  intro s r s' h
  simp only [Bind.bind] at h
  cases hxs : x s with
  | mk q s₁ =>
    rw [hxs] at h
    cases q with
    | ok a => exact htrans s s₁ s' (hx s _ _ hxs) (hf a s₁ r s' h)
    | error e =>
      obtain rfl := (Prod.mk.inj h).2
      exact hx s _ _ hxs

theorem moves_modify {f : σ → σ} (h : ∀ s, R s (f s)) : Moves R (modify f : Exec σ ε Unit) := by
  intro s r s' hrun
  obtain rfl := (Prod.mk.inj hrun).2
  exact h s

/-- A transaction moves the state as its body does when it returns. -/
theorem moves_transaction {x : Exec σ ε α} (hR : ∀ s, R s s) (hx : ∀ a s s', x s = (.ok a, s') → R s s') :
    Moves R (transaction x) := by
  intro s r s' h
  cases r with
  | ok a => exact hx a s s' (transaction_eq_ok.1 h)
  | error e =>
    rw [transaction_eq_error h]
    exact hR s

end Exec

/-- A sequence that returned: each of its parts did. -/
theorem ok_of_except_bind {ε α β : Type} {x : Except ε α} {f : α → Except ε β} {b : β} (h : (x >>= f) = .ok b) :
    ∃ a, x = .ok a ∧ f a = .ok b := by
  cases x with
  | error e => cases h
  | ok a => exact ⟨a, rfl, h⟩

end Archisynapse
