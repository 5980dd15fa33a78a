import Archisynapse.Base.Prog

/-!
# Programs run alone

What a program run alone may come to, when it is said what its calls may do (`Prog.Runs`), and where it may stop on the way
(`Prog.Stops`). A program over one signature runs inside a program over another (`Prog.translate`), on a part of its state
(`Part`), as it runs alone on that part (`Prog.runs_translate`).
-/

namespace Archisynapse

namespace Prog

variable {S T : Signature} {α β σ τ : Type}

/-- A program run alone from one state ends with an outcome in another: `E o s r s'` says that the call `o` made in `s` may answer
`r` and leave `s'`. -/
def Runs (E : (o : S.Op) → σ → Except S.Err (S.Res o) → σ → Prop) : Prog S α → σ → Except S.Err α → σ → Prop
  | .pure a, s, out, s' => out = .ok a ∧ s' = s
  | .throw e, s, out, s' => out = .error e ∧ s' = s
  | .call o k, s, out, s' => ∃ r s₁, E o s r s₁ ∧ (k r).Runs E s₁ out s'

/-- A program run alone from one state is in another after some of its calls, or all. -/
def Stops (E : (o : S.Op) → σ → Except S.Err (S.Res o) → σ → Prop) : Prog S α → σ → σ → Prop
  | .pure _, s, s' => s' = s
  | .throw _, s, s' => s' = s
  | .call o k, s, s' => s' = s ∨ ∃ r s₁, E o s r s₁ ∧ (k r).Stops E s₁ s'

section

variable {E : (o : S.Op) → σ → Except S.Err (S.Res o) → σ → Prop} {s s' : σ}

@[simp] theorem runs_pure {a : α} {out : Except S.Err α} :
    (pure a : Prog S α).Runs E s out s' ↔ out = .ok a ∧ s' = s := Iff.rfl

@[simp] theorem runs_throw {e : S.Err} {out : Except S.Err α} :
    (Prog.throw e : Prog S α).Runs E s out s' ↔ out = .error e ∧ s' = s := Iff.rfl

/-- One call. -/
theorem runs_perform {o : S.Op} {out : Except S.Err (S.Res o)} : (perform o).Runs E s out s' ↔ E o s out s' := by
  constructor
  · rintro ⟨r, s₁, he, hr⟩
    cases r with
    | ok a =>
      obtain ⟨rfl, rfl⟩ := hr
      exact he
    | error e =>
      obtain ⟨rfl, rfl⟩ := hr
      exact he
  · intro he
    refine ⟨out, s', he, ?_⟩
    cases out with
    | ok a => exact ⟨rfl, rfl⟩
    | error e => exact ⟨rfl, rfl⟩

/-- A sequence runs its first program and then the second, or ends with the first one's error. -/
theorem runs_bind {p : Prog S α} {f : α → Prog S β} {out : Except S.Err β} :
    (p >>= f).Runs E s out s' ↔ (∃ a s₁, p.Runs E s (.ok a) s₁ ∧ (f a).Runs E s₁ out s') ∨
      ∃ e, p.Runs E s (.error e) s' ∧ out = .error e := by
  induction p generalizing s with
  | pure a =>
    constructor
    · exact fun h => Or.inl ⟨a, s, ⟨rfl, rfl⟩, h⟩
    · rintro (⟨b, s₁, ⟨hb, rfl⟩, h⟩ | ⟨e, ⟨he, -⟩, -⟩)
      · cases hb
        exact h
      · cases he
  | throw e =>
    constructor
    · exact fun h => Or.inr ⟨e, ⟨rfl, h.2⟩, h.1⟩
    · rintro (⟨b, s₁, ⟨hb, -⟩, -⟩ | ⟨e', ⟨he, hs⟩, hout⟩)
      · cases hb
      · cases he
        exact ⟨hout, hs⟩
  | call o k ih =>
    constructor
    · rintro ⟨r, s₁, he, h⟩
      rcases (ih r).1 h with ⟨a, s₂, hp, hf⟩ | ⟨e, hp, hout⟩
      · exact Or.inl ⟨a, s₂, ⟨r, s₁, he, hp⟩, hf⟩
      · exact Or.inr ⟨e, ⟨r, s₁, he, hp⟩, hout⟩
    · rintro (⟨a, s₂, ⟨r, s₁, he, hp⟩, hf⟩ | ⟨e, ⟨r, s₁, he, hp⟩, hout⟩)
      · exact ⟨r, s₁, he, (ih r).2 (Or.inl ⟨a, s₂, hp, hf⟩)⟩
      · exact ⟨r, s₁, he, (ih r).2 (Or.inr ⟨e, hp, hout⟩)⟩

/-- A sequence whose first program is one call. -/
theorem runs_perform_bind {o : S.Op} {f : S.Res o → Prog S β} {out : Except S.Err β} :
    (perform o >>= f).Runs E s out s' ↔ (∃ a s₁, E o s (.ok a) s₁ ∧ (f a).Runs E s₁ out s') ∨
      ∃ e, E o s (.error e) s' ∧ out = .error e := by
  rw [runs_bind]
  simp only [runs_perform]

/-- A program may stop before its first call. -/
theorem stops_start (p : Prog S α) (s : σ) : p.Stops E s s := by
  cases p with
  | pure a => exact rfl
  | throw e => exact rfl
  | call o k => exact Or.inl rfl

/-- A sequence stops in its first program, or in the second after the first. -/
theorem stops_bind {p : Prog S α} {f : α → Prog S β} :
    (p >>= f).Stops E s s' ↔ p.Stops E s s' ∨ ∃ a s₁, p.Runs E s (.ok a) s₁ ∧ (f a).Stops E s₁ s' := by
  induction p generalizing s with
  | pure a =>
    constructor
    · exact fun h => Or.inr ⟨a, s, ⟨rfl, rfl⟩, h⟩
    · rintro (h | ⟨b, s₁, ⟨hb, rfl⟩, h⟩)
      · rw [show s' = s from h]
        exact stops_start _ _
      · cases hb
        exact h
  | throw e =>
    constructor
    · exact fun h => Or.inl h
    · rintro (h | ⟨b, s₁, ⟨hb, -⟩, -⟩)
      · exact h
      · cases hb
  | call o k ih =>
    constructor
    · rintro (h | ⟨r, s₁, he, h⟩)
      · exact Or.inl (Or.inl h)
      · rcases (ih r).1 h with h | ⟨a, s₂, hp, hf⟩
        · exact Or.inl (Or.inr ⟨r, s₁, he, h⟩)
        · exact Or.inr ⟨a, s₂, ⟨r, s₁, he, hp⟩, hf⟩
    · rintro ((h | ⟨r, s₁, he, h⟩) | ⟨a, s₂, ⟨r, s₁, he, hp⟩, hf⟩)
      · exact Or.inl h
      · exact Or.inr ⟨r, s₁, he, (ih r).2 (Or.inl h)⟩
      · exact Or.inr ⟨r, s₁, he, (ih r).2 (Or.inr ⟨a, s₂, hp, hf⟩)⟩

/-- Where a run ends it stops. -/
theorem Runs.stops {p : Prog S α} {out : Except S.Err α} (h : p.Runs E s out s') : p.Stops E s s' := by
  induction p generalizing s with
  | pure a => exact h.2
  | throw e => exact h.2
  | call o k ih =>
    obtain ⟨r, s₁, he, h⟩ := h
    exact Or.inr ⟨r, s₁, he, ih r h⟩

/-- What every call of a program keeps holds where it stops. -/
theorem Stops.keeps {P : S.Op → Prop} {R : σ → Prop} (hstep : ∀ o s r s', P o → E o s r s' → R s → R s') {p : Prog S α}
    (hp : p.Calls P) (h : p.Stops E s s') (hs : R s) : R s' := by
  induction p generalizing s with
  | pure a => exact (show s' = s from h) ▸ hs
  | throw e => exact (show s' = s from h) ▸ hs
  | call o k ih =>
    rcases h with rfl | ⟨r, s₁, he, h⟩
    · exact hs
    · exact ih r (hp.2 r) h (hstep o s r s₁ hp.1 he hs)

/-- A program run alone ends in a state of its postcondition. -/
theorem Runs.wp {C : Contract σ} {Q : Except S.Err α → σ → Prop} (hrefl : ∀ s, C.rely s s) {p : Prog S α}
    {out : Except S.Err α} (h : p.Runs E s out s') (hp : p.wp E C Q s) (hi : C.inv s) : C.inv s' ∧ Q out s' := by
  induction p generalizing s with
  | pure a =>
    obtain ⟨rfl, rfl⟩ := h
    exact ⟨hi, hp⟩
  | throw e =>
    obtain ⟨rfl, rfl⟩ := h
    exact ⟨hi, hp⟩
  | call o k ih =>
    obtain ⟨r, s₁, he, h⟩ := h
    obtain ⟨hinv, -, hrest⟩ := hp s (hrefl s) hi r s₁ he
    exact ih r h hrest hinv

end

/-! ## Programs inside programs -/

/-- A program over one signature as one over another: each call is a program that gives its outcome. -/
def translate (op : (o : S.Op) → Prog T (Except S.Err (S.Res o))) (err : S.Err → T.Err) : Prog S α → Prog T α
  | .pure a => .pure a
  | .throw e => .throw (err e)
  | .call o k => (op o).bind (fun r => (k r).translate op err)

end Prog

/-- A part of a state, which is read and replaced. -/
structure Part (τ σ : Type) where
  get : τ → σ
  put : τ → σ → τ
  get_put : ∀ t a, get (put t a) = a
  put_put : ∀ t a b, put (put t a) b = put t b
  put_get : ∀ t, put t (get t) = t

namespace Prog

variable {S T : Signature} {α σ τ : Type}

/-- An outcome with the errors of another signature. -/
def outcome (err : S.Err → T.Err) : Except S.Err α → Except T.Err α
  | .ok a => .ok a
  | .error e => .error (err e)

/-- A translated program keeps what the program keeps, when its calls stand for the program's. -/
theorem wp_translate {ES : (o : S.Op) → τ → Except S.Err (S.Res o) → τ → Prop}
    {ET : (o : T.Op) → τ → Except T.Err (T.Res o) → τ → Prop} {C : Contract τ}
    {op : (o : S.Op) → Prog T (Except S.Err (S.Res o))} {err : S.Err → T.Err}
    (hop : ∀ o t (Q : Except T.Err (Except S.Err (S.Res o)) → τ → Prop), (∀ t₁, C.rely t t₁ → C.inv t₁ → ∀ r t₂, ES o t₁ r t₂ →
      C.inv t₂ ∧ C.guar t₁ t₂ ∧ Q (.ok r) t₂) → (op o).wp ET C Q t)
    {p : Prog S α} {Q : Except T.Err α → τ → Prop} {t : τ} (hp : p.wp ES C (fun r t' => Q (outcome err r) t') t) :
    (p.translate op err).wp ET C Q t := by
  induction p generalizing t with
  | pure a => exact hp
  | throw e => exact hp
  | call o k ih =>
    refine (wp_bind (op o) _ t).2 (hop o t _ fun t₁ hr hi r t₂ he => ?_)
    obtain ⟨hinv, hguar, hrest⟩ := hp t₁ hr hi r t₂ he
    exact ⟨hinv, hguar, ih r hrest⟩

/-- The calls of a translated program. -/
theorem calls_translate {P : S.Op → Prop} {P' : T.Op → Prop} {op : (o : S.Op) → Prog T (Except S.Err (S.Res o))}
    {err : S.Err → T.Err} (hop : ∀ o, P o → (op o).Calls P') {p : Prog S α} (hp : p.Calls P) : (p.translate op err).Calls P' := by
  induction p with
  | pure a => exact trivial
  | throw e => exact trivial
  | call o k ih => exact calls_bind (p := op o) (hop o hp.1) (fun r => ih r (hp.2 r))

/-- A translated program runs as the program does on its part of the state. -/
theorem runs_translate {ES : (o : S.Op) → σ → Except S.Err (S.Res o) → σ → Prop}
    {ET : (o : T.Op) → τ → Except T.Err (T.Res o) → τ → Prop} (part : Part τ σ)
    {op : (o : S.Op) → Prog T (Except S.Err (S.Res o))} {err : S.Err → T.Err}
    (hop : ∀ o t x t', (op o).Runs ET t x t' ↔ ∃ r a, x = .ok r ∧ ES o (part.get t) r a ∧ t' = part.put t a) {p : Prog S α}
    {t t' : τ} {out : Except T.Err α} :
    (p.translate op err).Runs ET t out t' ↔
      ∃ r a, p.Runs ES (part.get t) r a ∧ out = outcome err r ∧ t' = part.put t a := by
  induction p generalizing t with
  | pure a =>
    constructor
    · rintro ⟨rfl, rfl⟩
      exact ⟨.ok a, part.get t', ⟨rfl, rfl⟩, rfl, (part.put_get t').symm⟩
    · rintro ⟨r, b, ⟨rfl, rfl⟩, rfl, rfl⟩
      exact ⟨rfl, part.put_get t⟩
  | throw e =>
    constructor
    · rintro ⟨rfl, rfl⟩
      exact ⟨.error e, part.get t', ⟨rfl, rfl⟩, rfl, (part.put_get t').symm⟩
    · rintro ⟨r, b, ⟨rfl, rfl⟩, rfl, rfl⟩
      exact ⟨rfl, part.put_get t⟩
  | call o k ih =>
    refine (runs_bind (p := op o)).trans ?_
    constructor
    · rintro (⟨r, t₁, hr, h⟩ | ⟨e, hr, -⟩)
      · obtain ⟨r', a, hr', he, rfl⟩ := (hop o t _ t₁).1 hr
        cases hr'
        obtain ⟨r₁, b, hrun, hout, rfl⟩ := (ih r).1 h
        rw [part.get_put] at hrun
        exact ⟨r₁, b, ⟨r, a, he, hrun⟩, hout, part.put_put t a b⟩
      · obtain ⟨r', a, hr', -⟩ := (hop o t _ t').1 hr
        cases hr'
    · rintro ⟨r₁, b, ⟨r, a, he, hrun⟩, hout, rfl⟩
      refine Or.inl ⟨r, part.put t a, (hop o t _ _).2 ⟨r, a, rfl, he, rfl⟩, (ih r).2 ⟨r₁, b, ?_, hout, ?_⟩⟩
      · rw [part.get_put]
        exact hrun
      · exact (part.put_put t a b).symm

end Prog

end Archisynapse
