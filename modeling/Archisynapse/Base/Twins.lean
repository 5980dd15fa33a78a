import Archisynapse.Base.Prog

/-!
# Two runs of a program

A program that is run alone from two states with the same choices. `Prog.Twin` is the weakest precondition of both runs together:
each call is blocked in both, or it is answered alike in both, and the postcondition holds of the outcome and the two states that
are left (`Twin.run`).
-/

namespace Archisynapse

namespace Prog

variable {S : Signature} {α β σ τ Choice : Type}

/-- The outcomes of two runs: none in both, or one result and two states that are related. -/
def Alike (Q : α → σ → τ → Prop) (x : Option (α × σ)) (y : Option (α × τ)) : Prop :=
  (x = none ∧ y = none) ∨ ∃ a s t, x = some (a, s) ∧ y = some (a, t) ∧ Q a s t

theorem Alike.mono {Q Q' : α → σ → τ → Prop} {x : Option (α × σ)} {y : Option (α × τ)} (h : Alike Q x y)
    (hQ : ∀ a s t, Q a s t → Q' a s t) : Alike Q' x y := by
  rcases h with h | ⟨a, s, t, hx, hy, h⟩
  · exact Or.inl h
  · exact Or.inr ⟨a, s, t, hx, hy, hQ a s t h⟩

/-- Outcomes that are rewritten in the same way. -/
theorem Alike.map {σ' τ' : Type} {Q : α → σ → τ → Prop} {Q' : β → σ' → τ' → Prop} {x : Option (α × σ)} {y : Option (α × τ)}
    (h : Alike Q x y) (f : α → β) (g : σ → σ') (g' : τ → τ') (hQ : ∀ a s t, Q a s t → Q' (f a) (g s) (g' t)) :
    Alike Q' (x.map (fun r => (f r.1, g r.2))) (y.map (fun r => (f r.1, g' r.2))) := by
  rcases h with ⟨rfl, rfl⟩ | ⟨a, s, t, rfl, rfl, h⟩
  · exact Or.inl ⟨rfl, rfl⟩
  · exact Or.inr ⟨f a, g s, g' t, rfl, rfl, hQ a s t h⟩

/-- What both runs of a program, with the same choices, make sure of. -/
def Twin (exec : (o : S.Op) → Choice → σ → Option (Except S.Err (S.Res o) × σ))
    (exec' : (o : S.Op) → Choice → τ → Option (Except S.Err (S.Res o) × τ)) :
    Prog S α → (Except S.Err α → σ → τ → Prop) → σ → τ → Prop
  | .pure a, Q => Q (.ok a)
  | .throw e, Q => Q (.error e)
  | .call o k, Q => fun s t => ∀ c, Alike (fun r s' t' => (k r).Twin exec exec' Q s' t') (exec o c s) (exec' o c t)

variable {exec : (o : S.Op) → Choice → σ → Option (Except S.Err (S.Res o) × σ)}
  {exec' : (o : S.Op) → Choice → τ → Option (Except S.Err (S.Res o) × τ)} {Q Q' : Except S.Err α → σ → τ → Prop}

theorem twin_mono {p : Prog S α} {s : σ} {t : τ} (hp : p.Twin exec exec' Q s t) (h : ∀ r s t, Q r s t → Q' r s t) :
    p.Twin exec exec' Q' s t := by
  induction p generalizing s t with
  | pure a => exact h _ _ _ hp
  | throw e => exact h _ _ _ hp
  | call o k ih => exact fun c => (hp c).mono (fun r _ _ hr => ih r hr)

theorem twin_bind {Q : Except S.Err β → σ → τ → Prop} {p : Prog S α} {f : α → Prog S β} {s : σ} {t : τ}
    (hp : p.Twin exec exec' (fun r s t => match r with
      | .ok a => (f a).Twin exec exec' Q s t
      | .error e => Q (.error e) s t) s t) : (p >>= f).Twin exec exec' Q s t := by
  induction p generalizing s t with
  | pure a => exact hp
  | throw e => exact hp
  | call o k ih => exact fun c => (hp c).mono (fun r _ _ hr => ih r hr)

/-- Sequencing, from a postcondition of the first program. -/
theorem twin_seq {Q₁ : Except S.Err α → σ → τ → Prop} {Q : Except S.Err β → σ → τ → Prop} {p : Prog S α} {f : α → Prog S β}
    {s : σ} {t : τ} (hp : p.Twin exec exec' Q₁ s t) (hok : ∀ a s t, Q₁ (.ok a) s t → (f a).Twin exec exec' Q s t)
    (herr : ∀ e s t, Q₁ (.error e) s t → Q (.error e) s t) : (p >>= f).Twin exec exec' Q s t := by
  refine twin_bind (twin_mono hp (fun r s t h => ?_))
  cases r with
  | ok a => exact hok a s t h
  | error e => exact herr e s t h

/-- A handler, from a postcondition of the body. -/
theorem twin_handle {Q₁ : Except S.Err α → σ → τ → Prop} {p : Prog S α} {h : S.Err → Prog S α} {s : σ} {t : τ}
    (hp : p.Twin exec exec' Q₁ s t) (hok : ∀ a s t, Q₁ (.ok a) s t → Q (.ok a) s t)
    (herr : ∀ e s t, Q₁ (.error e) s t → (h e).Twin exec exec' Q s t) : (p.tryCatch h).Twin exec exec' Q s t := by
  induction p generalizing s t with
  | pure a => exact hok a s t hp
  | throw e => exact herr e s t hp
  | call o k ih => exact fun c => (hp c).mono (fun r _ _ hr => ih r hr)

/-- One call. -/
theorem twin_perform {o : S.Op} {Q : Except S.Err (S.Res o) → σ → τ → Prop} {s : σ} {t : τ}
    (h : ∀ c, Alike Q (exec o c s) (exec' o c t)) : (perform o).Twin exec exec' Q s t := by
  intro c
  refine (h c).mono (fun r _ _ hr => ?_)
  cases r with
  | ok a => exact hr
  | error e => exact hr

/-- A program whose calls all keep a relation of the two states. -/
theorem Calls.twin {P : S.Op → Prop} {R : σ → τ → Prop}
    (hstep : ∀ o c s t, P o → R s t → Alike (fun _ => R) (exec o c s) (exec' o c t)) {p : Prog S α} (hp : p.Calls P) {s : σ} {t : τ}
    (hs : R s t) : p.Twin exec exec' (fun _ => R) s t := by
  induction p generalizing s t with
  | pure a => exact hs
  | throw e => exact hs
  | call o k ih => exact fun c => (hstep o c s t hp.1 hs).mono (fun r _ _ h => ih r (hp.2 r) h)

/-- The two runs. -/
theorem Twin.run {p : Prog S α} {s : σ} {t : τ} (hp : p.Twin exec exec' Q s t) (ch : Nat → Choice) (n : Nat) :
    Alike Q (Prog.run exec ch n p s) (Prog.run exec' ch n p t) := by
  induction p generalizing s t n with
  | pure a => exact Or.inr ⟨_, _, _, rfl, rfl, hp⟩
  | throw e => exact Or.inr ⟨_, _, _, rfl, rfl, hp⟩
  | call o k ih =>
    unfold Prog.run
    rcases hp (ch n) with ⟨hs, ht⟩ | ⟨r, s', t', hs, ht, hr⟩
    · rw [hs, ht]
      exact Or.inl ⟨rfl, rfl⟩
    · rw [hs, ht]
      exact ih r hr (n + 1)

end Prog

end Archisynapse
