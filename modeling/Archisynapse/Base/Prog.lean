import Mathlib.Logic.Relation

/-!
# Programs over a shared state

A program is a tree of calls: it makes a call, reads the answer and goes on, until it returns or throws. What a call does
to the state, and what it answers, is said by a machine (`Base/Machine.lean`), one call at a time, so that the same program
can be run alone or between the calls of others.

`Prog.wp` is the weakest precondition of a program whose calls are interleaved with the steps of others: before each of its
own calls the state may have moved along `rely`, and each of its own calls moves it along `guar`. With `rely` the equality
it is the weakest precondition of the program run alone (`Prog.wp_run`).
-/

namespace Archisynapse

/-- What programs may call: the calls, the type each one answers with, and the errors a call or a program may end with. -/
structure Signature where
  Op : Type
  Res : Op → Type
  Err : Type

/-- A program: it returns, it throws, or it makes a call and goes on with the answer. -/
inductive Prog (S : Signature) (α : Type) : Type where
  | pure (a : α) : Prog S α
  | throw (e : S.Err) : Prog S α
  | call (o : S.Op) (k : Except S.Err (S.Res o) → Prog S α) : Prog S α

namespace Prog

variable {S : Signature} {α β : Type}

/-- Run a program, then the one its result picks; an error skips the second. -/
def bind : Prog S α → (α → Prog S β) → Prog S β
  | .pure a, f => f a
  | .throw e, _ => .throw e
  | .call o k, f => .call o (fun r => (k r).bind f)

/-- Run a program and, when it throws, the handler. -/
def tryCatch : Prog S α → (S.Err → Prog S α) → Prog S α
  | .pure a, _ => .pure a
  | .throw e, h => h e
  | .call o k, h => .call o (fun r => (k r).tryCatch h)

/-- Run a program and then, however it ended, the closing one; an error of the closing one takes its place. -/
def ensure : Prog S α → Prog S Unit → Prog S α
  | .pure a, q => q.bind (fun _ => .pure a)
  | .throw e, q => q.bind (fun _ => .throw e)
  | .call o k, q => .call o (fun r => (k r).ensure q)

instance : Monad (Prog S) where
  pure := Prog.pure
  bind := Prog.bind

instance : MonadExceptOf S.Err (Prog S) where
  throw := Prog.throw
  tryCatch := Prog.tryCatch

theorem pure_bind_eq (a : α) (f : α → Prog S β) : (Pure.pure a >>= f : Prog S β) = f a := rfl

theorem bind_assoc_eq {γ : Type} (p : Prog S α) (f : α → Prog S β) (g : β → Prog S γ) :
    (p >>= f) >>= g = p >>= fun a => f a >>= g := by
  induction p with
  | pure a => rfl
  | throw e => rfl
  | call o k ih => exact congrArg (Prog.call o) (funext ih)

/-- One call: its answer, or its error thrown. -/
def perform (o : S.Op) : Prog S (S.Res o) :=
  .call o (fun r => match r with
    | .ok a => .pure a
    | .error e => .throw e)

/-- The program still has a call to make. -/
def isCall : Prog S α → Bool
  | .call _ _ => true
  | _ => false

end Prog

/-- What a worker keeps and what it may count on: the invariant of the shared state, the steps others may take between its
own, and the steps it takes itself. -/
structure Contract (σ : Type) where
  inv : σ → Prop
  rely : σ → σ → Prop
  guar : σ → σ → Prop

/-- The contract of a program run alone: nothing moves but by its own calls. -/
def Contract.alone (σ : Type) : Contract σ := ⟨fun _ => True, (· = ·), fun _ _ => True⟩

namespace Prog

variable {S : Signature} {α β σ : Type}

/-- The weakest precondition of a program under a contract: `E o s r s'` says that the call `o` made in `s` may answer `r` and
leave `s'`. Every own call keeps the invariant and the guarantee, and `Q` holds of the outcome when the program ends. -/
def wp (E : (o : S.Op) → σ → Except S.Err (S.Res o) → σ → Prop) (C : Contract σ) :
    Prog S α → (Except S.Err α → σ → Prop) → σ → Prop
  | .pure a, Q => Q (.ok a)
  | .throw e, Q => Q (.error e)
  | .call o k, Q => fun s => ∀ s₁, C.rely s s₁ → C.inv s₁ → ∀ r s₂, E o s₁ r s₂ →
      C.inv s₂ ∧ C.guar s₁ s₂ ∧ (k r).wp E C Q s₂

variable {E : (o : S.Op) → σ → Except S.Err (S.Res o) → σ → Prop} {C : Contract σ}
  {Q Q' : Except S.Err α → σ → Prop}

@[simp] theorem wp_pure (a : α) (s : σ) : (pure a : Prog S α).wp E C Q s ↔ Q (.ok a) s := Iff.rfl

@[simp] theorem wp_throw (e : S.Err) (s : σ) : (throw e : Prog S α).wp E C Q s ↔ Q (.error e) s := Iff.rfl

/-- A weaker postcondition has a weaker precondition. -/
theorem wp_mono (h : ∀ r s, Q r s → Q' r s) (p : Prog S α) {s : σ} (hp : p.wp E C Q s) : p.wp E C Q' s := by
  induction p generalizing s with
  | pure a => exact h _ _ hp
  | throw e => exact h _ _ hp
  | call o k ih =>
    intro s₁ hr hi r s₂ he
    obtain ⟨h₁, h₂, h₃⟩ := hp s₁ hr hi r s₂ he
    exact ⟨h₁, h₂, ih r h₃⟩

/-- A program under a contract that asks for nothing. -/
theorem wp_trivial (hinv : ∀ s, C.inv s) (hguar : ∀ s s', C.guar s s') (hQ : ∀ r s, Q r s) (p : Prog S α) (s : σ) :
    p.wp E C Q s := by
  induction p generalizing s with
  | pure a => exact hQ _ _
  | throw e => exact hQ _ _
  | call o k ih => exact fun _ _ _ r s₂ _ => ⟨hinv s₂, hguar _ _, ih r s₂⟩

/-- Calls that do less need no more. -/
theorem wp_calls {E' : (o : S.Op) → σ → Except S.Err (S.Res o) → σ → Prop} (h : ∀ o s r s', E' o s r s' → E o s r s')
    (p : Prog S α) {s : σ} (hp : p.wp E C Q s) : p.wp E' C Q s := by
  induction p generalizing s with
  | pure a => exact hp
  | throw e => exact hp
  | call o k ih =>
    intro s₁ hr hi r s₂ he
    obtain ⟨h₁, h₂, h₃⟩ := hp s₁ hr hi r s₂ (h _ _ _ _ he)
    exact ⟨h₁, h₂, ih r h₃⟩

/-- A fact that the steps of others and the program's own steps keep holds at the end too. -/
theorem wp_frame {F : σ → Prop} (hrely : ∀ s s', C.rely s s' → F s → F s') (hguar : ∀ s s', C.guar s s' → F s → F s')
    (p : Prog S α) {s : σ} (hp : p.wp E C Q s) (hF : F s) : p.wp E C (fun r s => Q r s ∧ F s) s := by
  induction p generalizing s with
  | pure a => exact ⟨hp, hF⟩
  | throw e => exact ⟨hp, hF⟩
  | call o k ih =>
    intro s₁ hr hi r s₂ he
    obtain ⟨h₁, h₂, h₃⟩ := hp s₁ hr hi r s₂ he
    exact ⟨h₁, h₂, ih r h₃ (hguar s₁ s₂ h₂ (hrely s s₁ hr hF))⟩

/-- Sequencing: the first program leaves what the second needs, and an error of the first is an error of the whole. -/
theorem wp_bind {Q : Except S.Err β → σ → Prop} (p : Prog S α) (f : α → Prog S β) (s : σ) :
    (p >>= f).wp E C Q s ↔
      p.wp E C (fun r s => match r with
        | .ok a => (f a).wp E C Q s
        | .error e => Q (.error e) s) s := by
  induction p generalizing s with
  | pure a => exact Iff.rfl
  | throw e => exact Iff.rfl
  | call o k ih =>
    constructor
    · intro h s₁ hr hi r s₂ he
      obtain ⟨h₁, h₂, h₃⟩ := h s₁ hr hi r s₂ he
      exact ⟨h₁, h₂, (ih r s₂).1 h₃⟩
    · intro h s₁ hr hi r s₂ he
      obtain ⟨h₁, h₂, h₃⟩ := h s₁ hr hi r s₂ he
      exact ⟨h₁, h₂, (ih r s₂).2 h₃⟩

/-- Sequencing, from a postcondition of the first program. -/
theorem wp_seq {Q₁ : Except S.Err α → σ → Prop} {Q : Except S.Err β → σ → Prop} {p : Prog S α} {f : α → Prog S β} {s : σ}
    (hp : p.wp E C Q₁ s) (hok : ∀ a s', Q₁ (.ok a) s' → (f a).wp E C Q s') (herr : ∀ e s', Q₁ (.error e) s' → Q (.error e) s') :
    (p >>= f).wp E C Q s := by
  rw [wp_bind]
  refine wp_mono (fun r s' h => ?_) p hp
  cases r with
  | ok a => exact hok a s' h
  | error e => exact herr e s' h

/-- A postcondition on what a program returns, that asks nothing when it throws. -/
def Returning {ε : Type} (P : α → σ → Prop) : Except ε α → σ → Prop
  | .ok a, s => P a s
  | .error _, _ => True

/-- Sequencing, when nothing is asked of a program that throws. -/
theorem wp_then {P₁ : α → σ → Prop} {P : β → σ → Prop} {p : Prog S α} {f : α → Prog S β} {s : σ}
    (hp : p.wp E C (Returning P₁) s) (hf : ∀ a s', P₁ a s' → (f a).wp E C (Returning P) s') :
    (p >>= f).wp E C (Returning P) s :=
  wp_seq hp hf (fun _ _ _ => trivial)

/-- A handler: the body leaves what the handler needs when it throws. -/
theorem wp_tryCatch (p : Prog S α) (h : S.Err → Prog S α) (s : σ) :
    (tryCatch p h : Prog S α).wp E C Q s ↔
      p.wp E C (fun r s => match r with
        | .ok a => Q (.ok a) s
        | .error e => (h e).wp E C Q s) s := by
  induction p generalizing s with
  | pure a => exact Iff.rfl
  | throw e => exact Iff.rfl
  | call o k ih =>
    constructor
    · intro hw s₁ hr hi r s₂ he
      obtain ⟨h₁, h₂, h₃⟩ := hw s₁ hr hi r s₂ he
      exact ⟨h₁, h₂, (ih r s₂).1 h₃⟩
    · intro hw s₁ hr hi r s₂ he
      obtain ⟨h₁, h₂, h₃⟩ := hw s₁ hr hi r s₂ he
      exact ⟨h₁, h₂, (ih r s₂).2 h₃⟩

/-- A handler, from a postcondition of the body. -/
theorem wp_handle {Q₁ : Except S.Err α → σ → Prop} {p : Prog S α} {h : S.Err → Prog S α} {s : σ} (hp : p.wp E C Q₁ s)
    (hok : ∀ a s', Q₁ (.ok a) s' → Q (.ok a) s') (herr : ∀ e s', Q₁ (.error e) s' → (h e).wp E C Q s') :
    (tryCatch p h : Prog S α).wp E C Q s := by
  rw [wp_tryCatch]
  refine wp_mono (fun r s' hr => ?_) p hp
  cases r with
  | ok a => exact hok a s' hr
  | error e => exact herr e s' hr

/-- A closing program: the body leaves what the closing program needs, however it ends. -/
theorem wp_ensure (p : Prog S α) (q : Prog S Unit) (s : σ) :
    (p.ensure q).wp E C Q s ↔
      p.wp E C (fun r s => q.wp E C (fun r' s => match r' with
        | .ok _ => Q r s
        | .error e => Q (.error e) s) s) s := by
  have hend : ∀ (r : Except S.Err α) (p : Prog S α), (∀ s, p.wp E C Q s ↔ Q r s) → ∀ s, (q.bind (fun _ => p)).wp E C Q s ↔
      q.wp E C (fun r' s => match r' with
        | .ok _ => Q r s
        | .error e => Q (.error e) s) s := by
    intro r p hp s
    refine (wp_bind q (fun _ => p) s).trans ⟨fun h => wp_mono ?_ q h, fun h => wp_mono ?_ q h⟩
    · intro r' s h
      cases r' with
      | ok _ => exact (hp s).1 h
      | error e => exact h
    · intro r' s h
      cases r' with
      | ok _ => exact (hp s).2 h
      | error e => exact h
  induction p generalizing s with
  | pure a => exact hend (.ok a) (.pure a) (fun _ => Iff.rfl) s
  | throw e => exact hend (.error e) (.throw e) (fun _ => Iff.rfl) s
  | call o k ih =>
    constructor
    · intro hw s₁ hr hi r s₂ he
      obtain ⟨h₁, h₂, h₃⟩ := hw s₁ hr hi r s₂ he
      exact ⟨h₁, h₂, (ih r s₂).1 h₃⟩
    · intro hw s₁ hr hi r s₂ he
      obtain ⟨h₁, h₂, h₃⟩ := hw s₁ hr hi r s₂ he
      exact ⟨h₁, h₂, (ih r s₂).2 h₃⟩

/-- One call. -/
theorem wp_perform (o : S.Op) {Q : Except S.Err (S.Res o) → σ → Prop} (s : σ) :
    (perform o).wp E C Q s ↔ ∀ s₁, C.rely s s₁ → C.inv s₁ → ∀ r s₂, E o s₁ r s₂ →
      C.inv s₂ ∧ C.guar s₁ s₂ ∧ Q r s₂ := by
  constructor
  · intro h s₁ hr hi r s₂ he
    obtain ⟨h₁, h₂, h₃⟩ := h s₁ hr hi r s₂ he
    cases r with
    | ok a => exact ⟨h₁, h₂, h₃⟩
    | error e => exact ⟨h₁, h₂, h₃⟩
  · intro h s₁ hr hi r s₂ he
    obtain ⟨h₁, h₂, h₃⟩ := h s₁ hr hi r s₂ he
    cases r with
    | ok a => exact ⟨h₁, h₂, h₃⟩
    | error e => exact ⟨h₁, h₂, h₃⟩

/-- A program that waits to make a call keeps its precondition along the steps of others. -/
theorem wp_of_rely (htrans : ∀ a b c, C.rely a b → C.rely b c → C.rely a c) {p : Prog S α} (hc : p.isCall = true)
    {s s' : σ} (hp : p.wp E C Q s) (hr : C.rely s s') : p.wp E C Q s' := by
  cases p with
  | pure a => exact Bool.noConfusion hc
  | throw e => exact Bool.noConfusion hc
  | call o k => exact fun s₁ hr₁ => hp s₁ (htrans _ _ _ hr hr₁)

/-- Every call of the program satisfies `P`, whatever the answers. -/
def Calls (P : S.Op → Prop) : Prog S α → Prop
  | .pure _ => True
  | .throw _ => True
  | .call o k => P o ∧ ∀ r, (k r).Calls P

section

variable {P : S.Op → Prop}

theorem calls_pure (a : α) : (pure a : Prog S α).Calls P := trivial

theorem calls_throw (e : S.Err) : (Prog.throw e : Prog S α).Calls P := trivial

theorem calls_perform {o : S.Op} (h : P o) : (perform o).Calls P := by
  refine ⟨h, fun r => ?_⟩
  cases r with
  | ok a => exact trivial
  | error e => exact trivial

theorem calls_bind {p : Prog S α} {f : α → Prog S β} (hp : p.Calls P) (hf : ∀ a, (f a).Calls P) : (p >>= f).Calls P := by
  induction p with
  | pure a => exact hf a
  | throw e => exact trivial
  | call o k ih => exact ⟨hp.1, fun r => ih r (hp.2 r)⟩

theorem calls_tryCatch {p : Prog S α} {h : S.Err → Prog S α} (hp : p.Calls P) (hh : ∀ e, (h e).Calls P) :
    (p.tryCatch h).Calls P := by
  induction p with
  | pure a => exact trivial
  | throw e => exact hh e
  | call o k ih => exact ⟨hp.1, fun r => ih r (hp.2 r)⟩

theorem calls_ensure {p : Prog S α} {q : Prog S Unit} (hp : p.Calls P) (hq : q.Calls P) : (p.ensure q).Calls P := by
  induction p with
  | pure a => exact calls_bind hq (fun _ => trivial)
  | throw e => exact calls_bind hq (fun _ => trivial)
  | call o k ih => exact ⟨hp.1, fun r => ih r (hp.2 r)⟩

theorem calls_ite {c : Prop} [Decidable c] {p q : Prog S α} (hp : p.Calls P) (hq : q.Calls P) :
    (if c then p else q).Calls P := by
  by_cases h : c
  · rw [if_pos h]
    exact hp
  · rw [if_neg h]
    exact hq

/-- Calls that satisfy more satisfy less. -/
theorem Calls.mono {P' : S.Op → Prop} (h : ∀ o, P o → P' o) {p : Prog S α} (hp : p.Calls P) : p.Calls P' := by
  induction p with
  | pure a => exact trivial
  | throw e => exact trivial
  | call o k ih => exact ⟨h o hp.1, fun r => ih r (hp.2 r)⟩

/-- Nothing is asked of the calls. -/
theorem calls_true (p : Prog S α) : p.Calls (fun _ => True) := by
  induction p with
  | pure a => exact trivial
  | throw e => exact trivial
  | call o k ih => exact ⟨trivial, ih⟩

/-- Calls that satisfy one thing and another satisfy both. -/
theorem Calls.and {P' : S.Op → Prop} {p : Prog S α} (hp : p.Calls P) (hp' : p.Calls P') : p.Calls (fun o => P o ∧ P' o) := by
  induction p with
  | pure a => exact trivial
  | throw e => exact trivial
  | call o k ih => exact ⟨⟨hp.1, hp'.1⟩, fun r => ih r (hp.2 r) (hp'.2 r)⟩

/-- What every call of a program keeps can be added to the invariant, and holds at the end. -/
theorem Calls.wp_inv {J : σ → Prop} (hstep : ∀ o s r s', P o → C.inv s → E o s r s' → C.guar s s' → J s → J s') {p : Prog S α}
    (hcalls : p.Calls P) {s : σ} (hp : p.wp E C Q s) (hJ : J s) :
    p.wp E ⟨fun s => C.inv s ∧ J s, C.rely, C.guar⟩ (fun r s' => Q r s' ∧ J s') s := by
  induction p generalizing s with
  | pure a => exact ⟨hp, hJ⟩
  | throw e => exact ⟨hp, hJ⟩
  | call o k ih =>
    rintro s₁ hr ⟨hi, hJ₁⟩ r s₂ he
    obtain ⟨h₁, h₂, h₃⟩ := hp s₁ hr hi r s₂ he
    have hJ₂ := hstep o s₁ r s₂ hcalls.1 hi he h₂ hJ₁
    exact ⟨⟨h₁, hJ₂⟩, h₂, ih r (hcalls.2 r) h₃ hJ₂⟩

/-- A program whose calls all keep the contract ends in a state reached along `R`, which the steps of others and its own extend. -/
theorem Calls.wp {R : σ → σ → Prop} (hrely : ∀ a b c, R a b → C.rely b c → R a c) (hguar : ∀ a b c, R a b → C.guar b c → R a c)
    (hstep : ∀ o s r s', P o → C.inv s → E o s r s' → C.inv s' ∧ C.guar s s') {p : Prog S α} (hp : p.Calls P) {s₀ s : σ}
    (hs : R s₀ s) : p.wp E C (fun _ s' => R s₀ s') s := by
  induction p generalizing s with
  | pure a => exact hs
  | throw e => exact hs
  | call o k ih =>
    intro s₁ hr hi r s₂ he
    obtain ⟨hinv, hg⟩ := hstep o s₁ r s₂ hp.1 hi he
    exact ⟨hinv, hg, ih r (hp.2 r) (hguar _ _ _ (hrely _ _ _ hs hr) hg)⟩

/-- A program whose calls all keep the contract and extend `R` ends in a state reached along `R`, when the steps of others extend
`R` too. -/
theorem Calls.wp_moves {R : σ → σ → Prop} (hrely : ∀ a b c, R a b → C.rely b c → R a c)
    (hstep : ∀ o s r s', P o → C.inv s → E o s r s' → C.inv s' ∧ C.guar s s' ∧ ∀ a, R a s → R a s') {p : Prog S α}
    (hp : p.Calls P) {t s : σ} (hs : R t s) : p.wp E C (fun _ s' => R t s') s := by
  induction p generalizing s with
  | pure a => exact hs
  | throw e => exact hs
  | call o k ih =>
    intro s₁ hr hi r s₂ he
    obtain ⟨hinv, hg, hmoves⟩ := hstep o s₁ r s₂ hp.1 hi he
    exact ⟨hinv, hg, ih r (hp.2 r) (hmoves t (hrely _ _ _ hs hr))⟩

end

/-- Every call of the program satisfies `P`, and whatever the answers, the program returns something that satisfies `R`. -/
def Gives (P : S.Op → Prop) (R : α → Prop) : Prog S α → Prop
  | .pure a => R a
  | .throw _ => False
  | .call o k => P o ∧ ∀ r, (k r).Gives P R

section

variable {P : S.Op → Prop} {R : α → Prop}

theorem gives_bind {R' : β → Prop} {p : Prog S α} {f : α → Prog S β} (hp : p.Gives P R) (hf : ∀ a, R a → (f a).Gives P R') :
    (p >>= f).Gives P R' := by
  induction p with
  | pure a => exact hf a hp
  | throw e => exact hp.elim
  | call o k ih => exact ⟨hp.1, fun r => ih r (hp.2 r)⟩

theorem Gives.mono {P' : S.Op → Prop} {R' : α → Prop} {p : Prog S α} (hp : p.Gives P R) (hP : ∀ o, P o → P' o)
    (hR : ∀ a, R a → R' a) : p.Gives P' R' := by
  induction p with
  | pure a => exact hR a hp
  | throw e => exact hp
  | call o k ih => exact ⟨hP o hp.1, fun r => ih r (hp.2 r)⟩

theorem Gives.calls {p : Prog S α} (hp : p.Gives P R) : p.Calls P := by
  induction p with
  | pure a => exact trivial
  | throw e => exact trivial
  | call o k ih => exact ⟨hp.1, fun r => ih r (hp.2 r)⟩

/-- The calls of a sequence, whose second program need not go well for what the first does not give. -/
theorem Gives.calls_bind {p : Prog S α} {f : α → Prog S β} (hp : p.Gives P R) (hf : ∀ a, R a → (f a).Calls P) :
    (p >>= f).Calls P := by
  induction p with
  | pure a => exact hf a hp
  | throw e => exact hp.elim
  | call o k ih => exact ⟨hp.1, fun r => ih r (hp.2 r)⟩

/-- A program whose calls all keep the contract and extend `M` ends in a state reached along `M`, and what it returns is what it
gives. -/
theorem Gives.wp {M : σ → σ → Prop} (hrely : ∀ a b c, M a b → C.rely b c → M a c)
    (hstep : ∀ o s r s', P o → C.inv s → E o s r s' → C.inv s' ∧ C.guar s s' ∧ ∀ a, M a s → M a s') {p : Prog S α}
    (hp : p.Gives P R) {s₀ s : σ} (hs : M s₀ s) :
    p.wp E C (fun r s' => M s₀ s' ∧ ∃ a, r = .ok a ∧ R a) s := by
  induction p generalizing s with
  | pure a => exact ⟨hs, a, rfl, hp⟩
  | throw e => exact hp.elim
  | call o k ih =>
    intro s₁ hr hi r s₂ he
    obtain ⟨hinv, hg, hmoves⟩ := hstep o s₁ r s₂ hp.1 hi he
    exact ⟨hinv, hg, ih r (hp.2 r) (hmoves s₀ (hrely _ _ _ hs hr))⟩

end

/-- Whatever the answers, what the program returns satisfies `R`, if it returns. -/
def Yields (R : α → Prop) : Prog S α → Prop
  | .pure a => R a
  | .throw _ => True
  | .call _ k => ∀ r, (k r).Yields R

section

variable {R : α → Prop}

/-- Nothing is asked of what is returned. -/
theorem yields_true (p : Prog S α) : p.Yields (fun _ => True) := by
  induction p with
  | pure a => exact trivial
  | throw e => exact trivial
  | call o k ih => exact ih

theorem yields_bind {R' : β → Prop} {p : Prog S α} {f : α → Prog S β} (hp : p.Yields R) (hf : ∀ a, R a → (f a).Yields R') :
    (p >>= f).Yields R' := by
  induction p with
  | pure a => exact hf a hp
  | throw e => exact trivial
  | call o k ih => exact fun r => ih r (hp r)

/-- What a program that keeps its contract returns satisfies what it yields. -/
theorem Yields.wp {p : Prog S α} (hp : p.Yields R) {s : σ} (hQ : p.wp E C Q s) :
    p.wp E C (fun r s' => Q r s' ∧ ∀ a, r = .ok a → R a) s := by
  induction p generalizing s with
  | pure a => exact ⟨hQ, fun b h => by cases h; exact hp⟩
  | throw e => exact ⟨hQ, fun b h => by cases h⟩
  | call o k ih =>
    intro s₁ hr hi r s₂ he
    obtain ⟨hinv, hg, hrest⟩ := hQ s₁ hr hi r s₂ he
    exact ⟨hinv, hg, ih r (hp r) hrest⟩

end

/-- Whatever the program throws satisfies `P`, when the errors of its calls do. -/
def Throws (P : S.Err → Prop) : Prog S α → Prop
  | .pure _ => True
  | .throw e => P e
  | .call o k => ∀ r : Except S.Err (S.Res o), (∀ e, r = .error e → P e) → (k r).Throws P

section

variable {P : S.Err → Prop}

theorem throws_perform (o : S.Op) : (perform o).Throws P := by
  intro r hr
  cases r with
  | ok a => exact trivial
  | error e => exact hr e rfl

theorem throws_bind {p : Prog S α} {f : α → Prog S β} (hp : p.Throws P) (hf : ∀ a, (f a).Throws P) : (p >>= f).Throws P := by
  induction p with
  | pure a => exact hf a
  | throw e => exact hp
  | call o k ih => exact fun r hr => ih r (hp r hr)

theorem throws_tryCatch {p : Prog S α} {h : S.Err → Prog S α} (hp : p.Throws P) (hh : ∀ e, P e → (h e).Throws P) :
    (p.tryCatch h).Throws P := by
  induction p with
  | pure a => exact trivial
  | throw e => exact hh e hp
  | call o k ih => exact fun r hr => ih r (hp r hr)

/-- What a program throws under a contract that asks for nothing. -/
theorem Throws.wp (hinv : ∀ s, C.inv s) (hguar : ∀ s s', C.guar s s') (hE : ∀ o s e s', E o s (.error e) s' → P e) {p : Prog S α}
    (hp : p.Throws P) (s : σ) : p.wp E C (fun r _ => ∀ e, r = .error e → P e) s := by
  induction p generalizing s with
  | pure a => exact nofun
  | throw e =>
    rintro _ ⟨⟩
    exact hp
  | call o k ih =>
    intro s₁ _ _ r s₂ he
    refine ⟨hinv s₂, hguar _ _, ih r (hp r ?_) s₂⟩
    rintro e rfl
    exact hE o s₁ e s₂ he

end

/-- Run a program alone: `exec o c s` performs one call, the `n`-th with the choice `ch n`; none when a call is blocked. -/
def run {Choice : Type} (exec : (o : S.Op) → Choice → σ → Option (Except S.Err (S.Res o) × σ)) (ch : Nat → Choice) :
    Nat → Prog S α → σ → Option (Except S.Err α × σ)
  | _, .pure a, s => some (.ok a, s)
  | _, .throw e, s => some (.error e, s)
  | n, .call o k, s =>
    match exec o (ch n) s with
    | none => none
    | some (r, s') => run exec ch (n + 1) (k r) s'

section

variable {Choice : Type} {exec : (o : S.Op) → Choice → σ → Option (Except S.Err (S.Res o) × σ)} {ch : Nat → Choice} {n : Nat}
  {o : S.Op} {f : S.Res o → Prog S β} {s s' : σ}

/-- A program run alone whose first call was answered. -/
theorem run_bind_ok {a : S.Res o} (h : exec o (ch n) s = some (.ok a, s')) :
    run exec ch n (perform o >>= f) s = run exec ch (n + 1) (f a) s' := by
  change run exec ch n (.call o _) s = _
  rw [run, h]
  rfl

/-- A program run alone whose first call failed. -/
theorem run_bind_error {e : S.Err} (h : exec o (ch n) s = some (.error e, s')) :
    run exec ch n (perform o >>= f) s = some (.error e, s') := by
  change run exec ch n (.call o _) s = _
  rw [run, h]
  rfl

/-- A program run alone whose first call, under a handler, was answered. -/
theorem run_tryCatch_ok {h : S.Err → Prog S (S.Res o)} {a : S.Res o} (he : exec o (ch n) s = some (.ok a, s')) :
    run exec ch n ((perform o).tryCatch h >>= f) s = run exec ch (n + 1) (f a) s' := by
  change run exec ch n (.call o _) s = _
  rw [run, he]
  rfl

/-- How a program run alone goes on after its first call. -/
theorem run_call_bind {k : Except S.Err (S.Res o) → Prog S α} {f : α → Prog S β} {r : Except S.Err β}
    (h : run exec ch n ((Prog.call o k : Prog S α) >>= f) s = some (r, s')) :
    ∃ r₁ s₁, exec o (ch n) s = some (r₁, s₁) ∧ run exec ch (n + 1) (k r₁ >>= f) s₁ = some (r, s') := by
  change run exec ch n (.call o _) s = _ at h
  rw [run] at h
  cases he : exec o (ch n) s with
  | none =>
    rw [he] at h
    cases h
  | some a =>
    rw [he] at h
    exact ⟨a.1, a.2, rfl, h⟩

/-- A program run alone, all of whose calls keep a relation to the first state. -/
theorem Calls.run {P : S.Op → Prop} {R : σ → Prop} (hstep : ∀ o c s r s', P o → exec o c s = some (r, s') → R s → R s')
    {p : Prog S β} (hp : p.Calls P) {n : Nat} {s s' : σ} {r : Except S.Err β} (h : Prog.run exec ch n p s = some (r, s'))
    (hs : R s) : R s' := by
  induction p generalizing n s with
  | pure a =>
    cases h
    exact hs
  | throw e =>
    cases h
    exact hs
  | call o k ih =>
    unfold Prog.run at h
    split at h
    · cases h
    · rename_i r₁ s₁ he
      exact ih r₁ (hp.2 r₁) h (hstep o (ch n) s r₁ s₁ hp.1 he hs)

end

/-- What a program run alone throws, when the errors of the calls it makes satisfy `P`. -/
theorem Throws.run {Choice : Type} {exec : (o : S.Op) → Choice → σ → Option (Except S.Err (S.Res o) × σ)} {ch : Nat → Choice}
    {P : S.Err → Prop} {Q : S.Op → Prop} (hstep : ∀ o n s e s', Q o → exec o (ch n) s = some (.error e, s') → P e) {p : Prog S α}
    (hp : p.Throws P) (hq : p.Calls Q) {n : Nat} {s s' : σ} {e : S.Err} (h : Prog.run exec ch n p s = some (.error e, s')) :
    P e := by
  induction p generalizing n s with
  | pure a => cases h
  | throw e =>
    cases h
    exact hp
  | call o k ih =>
    unfold Prog.run at h
    split at h
    · cases h
    · rename_i r₁ s₁ he
      refine ih r₁ (hp r₁ ?_) (hq.2 r₁) h
      rintro e₁ rfl
      exact hstep o n s e₁ s₁ hq.1 he

/-- A program run alone, from its first call on. -/
theorem run_call {Choice : Type} (exec : (o : S.Op) → Choice → σ → Option (Except S.Err (S.Res o) × σ)) (ch : Nat → Choice)
    (n : Nat) (o : S.Op) (k : Except S.Err (S.Res o) → Prog S α) (s : σ) :
    run exec ch n (.call o k) s = (exec o (ch n) s).bind (fun r => run exec ch (n + 1) (k r.1) r.2) := by
  rw [run]
  cases exec o (ch n) s with
  | none => rfl
  | some r => rfl

/-- With one choice for every call, the number of the next call does not matter. -/
theorem run_const {Choice : Type} (exec : (o : S.Op) → Choice → σ → Option (Except S.Err (S.Res o) × σ)) (c : Choice)
    (p : Prog S α) (n m : Nat) (s : σ) : run exec (fun _ => c) n p s = run exec (fun _ => c) m p s := by
  induction p generalizing n m s with
  | pure a => rfl
  | throw e => rfl
  | call o k ih =>
    rw [run_call, run_call]
    cases exec o c s with
    | none => rfl
    | some r => exact ih r.1 (n + 1) (m + 1) r.2

/-- With one choice for every call, a sequence runs its first program and then the second, or ends with the first one's error. -/
theorem run_const_bind {Choice : Type} (exec : (o : S.Op) → Choice → σ → Option (Except S.Err (S.Res o) × σ)) (c : Choice)
    (p : Prog S α) (f : α → Prog S β) (n : Nat) (s : σ) :
    run exec (fun _ => c) n (p >>= f) s =
      match run exec (fun _ => c) n p s with
      | some (.ok a, s') => run exec (fun _ => c) n (f a) s'
      | some (.error e, s') => some (.error e, s')
      | none => none := by
  induction p generalizing n s with
  | pure a => rfl
  | throw e => rfl
  | call o k ih =>
    change run exec (fun _ => c) n (.call o _) s = _
    rw [run_call, run_call]
    cases exec o c s with
    | none => rfl
    | some r =>
      refine (ih r.1 (n + 1) r.2).trans ?_
      rw [Option.bind_some]
      cases run exec (fun _ => c) (n + 1) (k r.1) r.2 with
      | none => rfl
      | some a =>
        obtain ⟨out, s'⟩ := a
        cases out with
        | ok a => exact run_const exec c (f a) (n + 1) n s'
        | error e => rfl

/-- A program whose result is only rewritten at the end. -/
theorem run_map {Choice : Type} (exec : (o : S.Op) → Choice → σ → Option (Except S.Err (S.Res o) × σ)) (ch : Nat → Choice)
    (f : α → β) (p : Prog S α) {n : Nat} {s : σ} :
    run exec ch n (p >>= fun a => Pure.pure (f a)) s = (run exec ch n p s).map (fun r => (r.1.map f, r.2)) := by
  induction p generalizing n s with
  | pure a => rfl
  | throw e => rfl
  | call o k ih =>
    change run exec ch n (.call o _) s = _
    unfold run
    cases exec o (ch n) s with
    | none => rfl
    | some r => exact ih r.1

/-- Choices taken from another type. -/
theorem run_choice {Choice Choice' : Type} (exec : (o : S.Op) → Choice → σ → Option (Except S.Err (S.Res o) × σ))
    (f : Choice' → Choice) (ch : Nat → Choice') (p : Prog S α) {n : Nat} {s : σ} :
    run (fun o c s => exec o (f c) s) ch n p s = run exec (fun i => f (ch i)) n p s := by
  induction p generalizing n s with
  | pure a => rfl
  | throw e => rfl
  | call o k ih =>
    unfold run
    cases exec o (f (ch n)) s with
    | none => rfl
    | some r => exact ih r.1

/-- A program run alone ends in a state of its postcondition, and keeps the invariant. -/
theorem wp_run {Choice : Type} (exec : (o : S.Op) → Choice → σ → Option (Except S.Err (S.Res o) × σ))
    {ch : Nat → Choice} (hE : ∀ o c s r s', exec o c s = some (r, s') → E o s r s') (hrefl : ∀ s, C.rely s s)
    (p : Prog S α) {n : Nat} {s s' : σ} {r : Except S.Err α} (hi : C.inv s) (hp : p.wp E C Q s)
    (h : run exec ch n p s = some (r, s')) : C.inv s' ∧ Q r s' := by
  induction p generalizing n s with
  | pure a =>
    simp only [run, Option.some.injEq, Prod.mk.injEq] at h
    obtain ⟨rfl, rfl⟩ := h
    exact ⟨hi, hp⟩
  | throw e =>
    simp only [run, Option.some.injEq, Prod.mk.injEq] at h
    obtain ⟨rfl, rfl⟩ := h
    exact ⟨hi, hp⟩
  | call o k ih =>
    unfold run at h
    split at h
    · cases h
    · rename_i r₁ s₁ he
      obtain ⟨h₁, -, h₃⟩ := hp s (hrefl s) hi r₁ s₁ (hE _ _ _ _ _ he)
      exact ih r₁ h₁ h₃ h

/-- A program none of whose calls is blocked while `P` holds runs to its end. -/
theorem run_isSome {Choice : Type} (exec : (o : S.Op) → Choice → σ → Option (Except S.Err (S.Res o) × σ))
    (ch : Nat → Choice) {P : σ → Prop} (hexec : ∀ o c s, P s → ∃ r s', exec o c s = some (r, s') ∧ P s')
    (p : Prog S α) {n : Nat} {s : σ} (hs : P s) : ∃ r s', run exec ch n p s = some (r, s') ∧ P s' := by
  induction p generalizing n s with
  | pure a => exact ⟨_, _, rfl, hs⟩
  | throw e => exact ⟨_, _, rfl, hs⟩
  | call o k ih =>
    obtain ⟨r₁, s₁, he, hs₁⟩ := hexec o (ch n) s hs
    obtain ⟨r, s', hr, hs'⟩ := ih r₁ (n := n + 1) hs₁
    refine ⟨r, s', ?_, hs'⟩
    unfold run
    rw [he]
    exact hr

end Prog

end Archisynapse
