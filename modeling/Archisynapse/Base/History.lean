import Archisynapse.Base.Machine

/-!
# What a program has called

A guard says which calls may be made after which calls of the same program and their answers. A program that keeps a guard
(`Prog.Guarded`) keeps it whatever its calls answer, so each of its calls in a run keeps it, however the calls of others fall
between them (`Machine.recorded_guarded`).
-/

namespace Archisynapse

namespace Prog

variable {S : Signature} {α : Type}

/-- A call and its answer. -/
abbrev Answered (S : Signature) : Type := (o : S.Op) × Except S.Err (S.Res o)

/-- A call is put after the ones that were made. -/
def Logs (o : S.Op) (past : List (Answered S)) (r : Except S.Err (S.Res o)) (past' : List (Answered S)) : Prop :=
  past' = past ++ [⟨o, r⟩]

/-- The contract of a guard. -/
def guarded (H : List (Answered S) → S.Op → Prop) : Contract (List (Answered S)) where
  inv _ := True
  rely := (· = ·)
  guar past past' := ∀ o r, past' = past ++ [⟨o, r⟩] → H past o

/-- Every call of the program is one that the guard allows after the calls before it. -/
def Guarded (H : List (Answered S) → S.Op → Prop) (p : Prog S α) : Prop := p.wp Logs (guarded H) (fun _ _ => True) []

variable {H : List (Answered S) → S.Op → Prop} {past : List (Answered S)}

/-- A call that the guard allows. -/
theorem guarded_call {o : S.Op} (ho : H past o) (r : Except S.Err (S.Res o)) :
    (guarded H).guar past (past ++ [⟨o, r⟩]) := by
  intro o' r' he
  obtain ⟨rfl, -⟩ := Sigma.mk.inj (List.singleton_inj.1 (List.append_cancel_left he))
  exact ho

/-- One call. -/
theorem guarded_perform {o : S.Op} {Q : Except S.Err (S.Res o) → List (Answered S) → Prop} (ho : H past o)
    (hQ : ∀ r, Q r (past ++ [⟨o, r⟩])) : (perform o).wp Logs (guarded H) Q past := by
  rw [wp_perform]
  rintro _ rfl - r _ rfl
  exact ⟨trivial, guarded_call ho r, hQ r⟩

/-- A program whose calls the guard allows at any time only adds to the calls that were made. -/
theorem Calls.guarded {A : S.Op → Prop} {p : Prog S α} (hp : p.Calls A) (hA : ∀ past o, A o → H past o) :
    p.wp Logs (guarded H) (fun _ past' => past <+: past') past := by
  refine hp.wp_moves (R := (· <+: ·)) ?_ ?_ (List.prefix_refl past)
  · rintro a b _ hab rfl
    exact hab
  · rintro o p₁ r _ ho - rfl
    exact ⟨trivial, guarded_call (hA _ o ho) r, fun a ha => ha.trans (List.prefix_append _ _)⟩

end Prog

namespace Machine

variable {M : Machine} {H : List (Prog.Answered M.sig) → M.sig.Op → Prop}

/-- The calls of a worker among those of a run. -/
def own (w : Nat) (log : List M.Record) : List (Prog.Answered M.sig) :=
  (log.filter (fun r => decide (r.worker = w))).map (fun r => ⟨r.op, r.result⟩)

theorem own_append (w : Nat) (log : List M.Record) (r : M.Record) :
    own w (log ++ [r]) = own w log ++ (if r.worker = w then [⟨r.op, r.result⟩] else []) := by
  unfold own
  rw [List.filter_append, List.map_append]
  congr 1
  by_cases h : r.worker = w
  · simp [h]
  · simp [h]

/-- Every call of a run keeps the guard after its worker's own calls. -/
def LogGuarded (H : List (Prog.Answered M.sig) → M.sig.Op → Prop) (log : List M.Record) : Prop :=
  ∀ before r after, log = before ++ r :: after → H (own r.worker before) r.op

theorem LogGuarded.append {log : List M.Record} (h : LogGuarded H log) {r : M.Record} (hr : H (own r.worker log) r.op) :
    LogGuarded H (log ++ [r]) := by
  intro before x after he
  rcases List.eq_nil_or_concat after with rfl | ⟨after, y, rfl⟩
  · obtain ⟨rfl, hx⟩ := List.append_inj' he rfl
    obtain rfl := (List.singleton_inj.1 hx)
    exact hr
  · have he' : log ++ [r] = (before ++ x :: after) ++ [y] := by
      rw [he]
      simp
    exact h before x after (List.append_inj' he' rfl).1

/-- The outline of a recorded machine whose programs keep a guard. -/
def guardedOutline (H : List (Prog.Answered M.sig) → M.sig.Op → Prop) : Outline M.recorded where
  inv s := LogGuarded H s.2
  rely w _ s s' := own w s'.2 = own w s.2
  guar w _ s s' := ∀ w' ≠ w, own w' s'.2 = own w' s.2
  compat _ _ _ _ := True
  post _ _ _ _ := True

/-- A program that keeps a guard after the calls its worker made keeps the outline. -/
theorem keeps_of_guarded {C : M.recorded.Cond} {w : Nat} {c : M.Call} (p : Prog M.sig M.Reply) {s : M.recorded.State}
    (hp : p.wp Prog.Logs (Prog.guarded H) (fun _ _ => True) (own w s.2)) : (guardedOutline H).Keeps C w c p s := by
  induction p generalizing s with
  | pure a => exact trivial
  | throw e => exact trivial
  | call o k ih =>
    rintro s₁ hrely hinv r s₂ ⟨-, ch, he⟩
    obtain ⟨x, hx, he⟩ := Option.map_eq_some_iff.1 he
    obtain ⟨rfl, rfl⟩ := Prod.mk.inj he
    have hown : own w s₁.2 = own w s.2 := hrely
    obtain ⟨-, hguard, hrest⟩ := hp _ rfl trivial x.1 _ rfl
    have hlog : own w (s₁.2 ++ [⟨w, o, x.1⟩]) = own w s.2 ++ [⟨o, x.1⟩] := by rw [own_append, if_pos rfl, hown]
    refine ⟨hinv.append ?_, fun w' hw' => ?_, ih x.1 ?_⟩
    · rw [hown]
      exact hguard o x.1 rfl
    · rw [own_append, if_neg (fun h => hw' h.symm), List.append_nil]
    · rw [hlog]
      exact hrest

theorem guardedOutline_sound (hprog : ∀ c, (M.program c).Guarded H) :
    (guardedOutline (M := M) H).Sound (.numbered M) where
  refl _ _ _ := rfl
  trans _ _ _ _ _ h₁ h₂ := h₂.trans h₁
  symm _ _ _ _ _ := trivial
  guar w _ w' _ _ _ hne _ _ hg := hg w' (fun h => hne h.symm)
  start cfg c _ hnew := by
    refine ⟨fun _ _ => trivial, keeps_of_guarded _ ?_⟩
    have hnone : own cfg.started cfg.state.2 = [] := by
      unfold own
      rw [List.map_eq_nil_iff, List.filter_eq_nil_iff]
      intro r hr heq
      have := hnew r hr
      have := of_decide_eq_true heq
      omega
    rw [hnone]
    exact hprog c
  crash _ _ hinv := ⟨hinv, fun _ _ _ => rfl⟩

/-- In a run of programs that keep a guard, every call keeps it after the calls its worker made before. -/
theorem recorded_guarded (hprog : ∀ c, (M.program c).Guarded H) {s : M.State} {cfg : M.recorded.Config}
    (hrun : M.recorded.Run (.any _) (.init _ (s, [])) cfg) : LogGuarded H cfg.state.2 := by
  have hinit : (guardedOutline (M := M) H).inv (s, []) := by
    intro before r after he
    cases before <;> cases he
  exact Outline.run_inv (guardedOutline_sound hprog) hinit (run_numbered hrun)

/-- Every call of the first calls of a run keeps the guard too. -/
theorem LogGuarded.of_append {log : List M.Record} {r : M.Record} (h : LogGuarded H (log ++ [r])) :
    LogGuarded H log ∧ H (own r.worker log) r.op := by
  refine ⟨fun before x after he => h before x (after ++ [r]) ?_, h log r [] rfl⟩
  rw [he]
  simp

/-- What calls that keep a guard, and every crash, keep of the state and of the calls made holds in every state reached. -/
theorem recorded_keeps (hprog : ∀ c, (M.program c).Guarded H) {K : M.State → List M.Record → Prop}
    (hexec : ∀ w o ch s log r s', LogGuarded H log → H (own w log) o → K s log → M.exec w o ch s = some (r, s') →
      K s' (log ++ [⟨w, o, r⟩]))
    (hcrash : ∀ w s log, K s log → K (M.crash w s) log) {s : M.State} (hK : K s []) {cfg : M.recorded.Config}
    (hrun : M.recorded.Run (.any _) (.init _ (s, [])) cfg) : K cfg.state.1 cfg.state.2 := by
  refine Run.keeps (M := M.recorded) (I := fun s => LogGuarded H s.2 → K s.1 s.2) (fun w o ch s r s' hs he hlog => ?_)
    (fun w s hs hlog => hcrash w s.1 s.2 (hs hlog)) hrun (fun _ => hK) (recorded_guarded hprog hrun)
  obtain ⟨x, hx, heq⟩ := Option.map_eq_some_iff.1 he
  obtain ⟨rfl, rfl⟩ := Prod.mk.inj heq
  obtain ⟨hlog, hguard⟩ := hlog.of_append
  exact hexec w o ch s.1 s.2 x.1 x.2 hlog hguard (hs hlog) hx

/-! ## Proving over the states calls were made in -/

/-- The outline of a machine, on the machine that keeps its calls: every call kept was made in a state that satisfies the invariant,
and calls are only added. -/
def Outline.traced (P : Outline M) (post : Nat → M.Call → Except M.sig.Err M.Reply → M.traced.State → Prop) : Outline M.traced where
  inv s := P.inv s.1 ∧ ∀ e ∈ s.2, P.inv e.before ∧ ∃ ch s', M.exec e.worker e.op ch e.before = some (e.result, s')
  rely w c s s' := P.rely w c s.1 s'.1 ∧ s.2 <+: s'.2
  guar w c s s' := P.guar w c s.1 s'.1 ∧ s.2 <+: s'.2
  compat := P.compat
  post := post

variable {P : Outline M} {post : Nat → M.Call → Except M.sig.Err M.Reply → M.traced.State → Prop}

/-- What a program keeps it keeps when its calls are kept too. -/
theorem wp_traced {α : Type} {w : Nat} {c : M.Call} {Q : Except M.sig.Err α → M.State → Prop} (p : Prog M.sig α)
    {s : M.traced.State} (hp : p.wp (M.Does (.any M) w) (P.contract w c) Q s.1) :
    p.wp (M.traced.Does (.any _) w) ((P.traced post).contract w c) (fun r s => Q r s.1) s := by
  induction p generalizing s with
  | pure a => exact hp
  | throw e => exact hp
  | call o k ih =>
    rintro s₁ ⟨hrely, -⟩ ⟨hinv, hcalls⟩ r s₂ ⟨-, ch, he⟩
    obtain ⟨x, hx, he⟩ := Option.map_eq_some_iff.1 he
    obtain ⟨rfl, rfl⟩ := Prod.mk.inj he
    obtain ⟨hinv', hguar, hrest⟩ := hp s₁.1 hrely hinv x.1 x.2 ⟨trivial, ch, hx⟩
    refine ⟨⟨hinv', fun e hmem => ?_⟩, ⟨hguar, List.prefix_append _ _⟩, ih x.1 hrest⟩
    rcases List.mem_append.1 hmem with hmem | hmem
    · exact hcalls e hmem
    · obtain rfl := List.mem_singleton.1 hmem
      exact ⟨hinv, ch, x.2, hx⟩

/-- The outline on the machine that keeps its calls is sound when the programs keep it. -/
theorem Outline.Sound.traced (hs : P.Sound (.any M)) (hcompat : ∀ w c w' c', P.compat w c w' c')
    (hprog : ∀ w c s, (P.traced post).inv s → (P.traced post).Keeps (.any _) w c (M.program c) s) :
    (P.traced post).Sound (.any M.traced) where
  refl w c s := ⟨hs.refl w c s.1, List.prefix_refl _⟩
  trans w c _ _ _ h h' := ⟨hs.trans w c _ _ _ h.1 h'.1, h.2.trans h'.2⟩
  symm := hs.symm
  guar w c w' c' _ _ hne hc hi hg := ⟨hs.guar w c w' c' _ _ hne hc hi.1 hg.1, hg.2⟩
  start _ c hi _ := ⟨fun _ _ => hcompat _ _ _ _, hprog _ c _ hi⟩
  crash w s hi := ⟨⟨(hs.crash w s.1 hi.1).1, hi.2⟩, fun w' c hne => ⟨(hs.crash w s.1 hi.1).2 w' c hne, List.prefix_refl _⟩⟩

end Machine

end Archisynapse
