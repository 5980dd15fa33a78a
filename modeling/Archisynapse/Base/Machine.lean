import Archisynapse.Base.Prog
import Mathlib.Data.List.Pairwise

/-!
# Machines: any number of programs interleaved over one state

A machine says which programs callers may start and what one call of a program does to the shared state. A configuration is
the state and the workers that still run; a step starts a program, performs the next call of a worker, or crashes a worker
between two calls. `Machine.run_inv` is the rule for what holds in every configuration reached: each program keeps its
contract (`Prog.wp`), and what one live worker guarantees is what the others rely on.

The steps can be restricted by a condition (`Machine.Cond`) on the configuration before them, for the statements that hold of
every run whose steps meet it. A run can also be replayed from a list of events (`Config.replay`), which computes.
-/

namespace Archisynapse

/-- A machine: the programs callers may start, one call of a program on the shared state (worker, call, choice of the
environment; none when the call is blocked), and what a crash of a worker leaves. -/
structure Machine where
  sig : Signature
  State : Type
  Choice : Type
  Call : Type
  Reply : Type
  program : Call → Prog sig Reply
  exec : Nat → (o : sig.Op) → Choice → State → Option (Except sig.Err (sig.Res o) × State)
  crash : Nat → State → State

namespace Machine

variable (M : Machine)

/-- A worker that still runs: its number, the call it was started for and what is left of its program. -/
structure Worker where
  id : Nat
  call : M.Call
  rest : Prog M.sig M.Reply

/-- The shared state, the workers that still run, and how many were ever started (numbers are not used twice). -/
structure Config where
  state : M.State
  live : List M.Worker
  started : Nat

/-- No worker runs yet. -/
def Config.init (s : M.State) : M.Config := ⟨s, [], 0⟩

variable {M}

/-- Keep a worker's program while it has a call to make. -/
def Worker.keep (w : M.Worker) (rest : Prog M.sig M.Reply) : Option M.Worker :=
  if rest.isCall then some { w with rest } else none

/-- A program is started. -/
def Config.add (cfg : M.Config) (c : M.Call) : M.Config :=
  { cfg with
    live := cfg.live ++ ((Worker.keep ⟨cfg.started, c, M.program c⟩ (M.program c)).toList)
    started := cfg.started + 1 }

/-- A worker made a call: the state it left and what is left of its program. -/
def Config.move (cfg : M.Config) (w : Nat) (rest : Prog M.sig M.Reply) (s : M.State) : M.Config :=
  { cfg with state := s, live := cfg.live.filterMap (fun x => if x.id = w then x.keep rest else some x) }

/-- A worker is gone. -/
def Config.drop (cfg : M.Config) (w : Nat) : M.Config :=
  { cfg with state := M.crash w cfg.state, live := cfg.live.filter (fun x => !decide (x.id = w)) }

variable (M)

/-- A condition on the steps of a run: on the configuration a program is started in, and on the state a call is made in. -/
structure Cond where
  start : M.Config → M.Call → Prop
  step : Nat → M.sig.Op → M.State → Prop

/-- No condition. -/
def Cond.any : M.Cond := ⟨fun _ _ => True, fun _ _ _ => True⟩

/-- One step of a machine under a condition. -/
inductive Step (C : M.Cond) : M.Config → M.Config → Prop where
  | start (cfg : M.Config) (c : M.Call) (hc : C.start cfg c) : Step C cfg (cfg.add c)
  | call (cfg : M.Config) (w : M.Worker) (o : M.sig.Op) (k : Except M.sig.Err (M.sig.Res o) → Prog M.sig M.Reply)
      (ch : M.Choice) (r : Except M.sig.Err (M.sig.Res o)) (s : M.State) (hw : w ∈ cfg.live) (hk : w.rest = .call o k)
      (hc : C.step w.id o cfg.state) (he : M.exec w.id o ch cfg.state = some (r, s)) :
      Step C cfg (cfg.move w.id (k r) s)
  | crash (cfg : M.Config) (w : M.Worker) (hw : w ∈ cfg.live) : Step C cfg (cfg.drop w.id)

/-- The configurations reached from one by steps that meet the condition. -/
def Run (C : M.Cond) : M.Config → M.Config → Prop := Relation.ReflTransGen (M.Step C)

/-- What a call of worker `w` may do under a condition. -/
def Does (C : M.Cond) (w : Nat) (o : M.sig.Op) (s : M.State) (r : Except M.sig.Err (M.sig.Res o)) (s' : M.State) : Prop :=
  C.step w o s ∧ ∃ ch, M.exec w o ch s = some (r, s')

/-! ## Recording a run -/

/-- One call of a run: the worker, the call and its answer. -/
structure Record where
  worker : Nat
  op : M.sig.Op
  result : Except M.sig.Err (M.sig.Res op)

/-- The machine that also keeps the calls that were made, in their order. -/
abbrev recorded : Machine where
  sig := M.sig
  State := M.State × List M.Record
  Choice := M.Choice
  Call := M.Call
  Reply := M.Reply
  program := M.program
  exec w o ch s := (M.exec w o ch s.1).map (fun r => (r.1, r.2, s.2 ++ [⟨w, o, r.1⟩]))
  crash w s := (M.crash w s.1, s.2)

/-- One call of a run, with the state it was made in. -/
structure Entry where
  worker : Nat
  op : M.sig.Op
  result : Except M.sig.Err (M.sig.Res op)
  before : M.State

/-- The machine that also keeps the calls that were made and the states they were made in, in their order. -/
abbrev traced : Machine where
  sig := M.sig
  State := M.State × List M.Entry
  Choice := M.Choice
  Call := M.Call
  Reply := M.Reply
  program := M.program
  exec w o ch s := (M.exec w o ch s.1).map (fun r => (r.1, r.2, s.2 ++ [⟨w, o, r.1, s.1⟩]))
  crash w s := (M.crash w s.1, s.2)

/-! ## Replaying a run -/

/-- What happened at one step of a run. -/
inductive Event where
  | start (c : M.Call)
  | call (w : Nat) (ch : M.Choice)
  | crash (w : Nat)

variable {M}

/-- The configuration after one event; none when the event cannot happen. -/
def Config.next (cfg : M.Config) : M.Event → Option M.Config
  | .start c => some (cfg.add c)
  | .call w ch =>
    match cfg.live.find? (fun x => decide (x.id = w)) with
    | none => none
    | some x =>
      match x.rest with
      | .call o k =>
        match M.exec x.id o ch cfg.state with
        | some (r, s) => some (cfg.move x.id (k r) s)
        | none => none
      | _ => none
  | .crash w =>
    match cfg.live.find? (fun x => decide (x.id = w)) with
    | none => none
    | some x => some (cfg.drop x.id)

/-- The configuration after a list of events, each of which `ok` lets happen. -/
def Config.replay (ok : M.Config → M.Event → Bool) : List M.Event → M.Config → Option M.Config
  | [], cfg => some cfg
  | e :: es, cfg => if ok cfg e then (cfg.next e).bind (Config.replay ok es) else none

/-- A condition lets an event happen. -/
def Cond.Allows (C : M.Cond) (cfg : M.Config) : M.Event → Prop
  | .start c => C.start cfg c
  | .call w _ => ∀ x ∈ cfg.live, x.id = w → ∀ o k, x.rest = .call o k → C.step w o cfg.state
  | .crash _ => True

/-- An event that happens, and that the condition allows, is a step. -/
theorem Config.next_step {C : M.Cond} {cfg cfg' : M.Config} {e : M.Event} (hC : C.Allows cfg e)
    (h : cfg.next e = some cfg') : M.Step C cfg cfg' := by
  cases e with
  | start c =>
    simp only [next, Option.some.injEq] at h
    subst h
    exact .start cfg c hC
  | call w ch =>
    simp only [next] at h
    split at h
    · cases h
    · rename_i x hx
      obtain rfl : x.id = w := by simpa using List.find?_some hx
      split at h
      · rename_i o k hk
        split at h
        · rename_i r s he
          cases h
          have hx := List.mem_of_find?_eq_some hx
          exact .call cfg x o k ch r s hx hk (hC x hx rfl o k hk) he
        · cases h
      · cases h
  | crash w =>
    simp only [next] at h
    split at h
    · cases h
    · rename_i x hx
      cases h
      exact .crash cfg x (List.mem_of_find?_eq_some hx)

/-- A replayed list of events is a run under a condition that allows what `ok` lets happen. -/
theorem Config.replay_run {C : M.Cond} {ok : M.Config → M.Event → Bool} (hok : ∀ cfg e, ok cfg e = true → C.Allows cfg e)
    {es : List M.Event} {cfg cfg' : M.Config} (h : cfg.replay ok es = some cfg') : M.Run C cfg cfg' := by
  induction es generalizing cfg with
  | nil =>
    simp only [replay, Option.some.injEq] at h
    subst h
    exact .refl
  | cons e es ih =>
    unfold replay at h
    split at h
    · rename_i hcfg
      obtain ⟨cfg₁, h₁, h₂⟩ := Option.bind_eq_some_iff.1 h
      exact .head (next_step (hok cfg e hcfg) h₁) (ih h₂)
    · cases h

/-- A replay whose last configuration passes a test is a run to one that does. -/
theorem Config.replay_any {C : M.Cond} {ok : M.Config → M.Event → Bool} (hok : ∀ cfg e, ok cfg e = true → C.Allows cfg e)
    (es : List M.Event) (cfg : M.Config) (test : M.Config → Bool) (h : (cfg.replay ok es).any test = true) :
    ∃ cfg', M.Run C cfg cfg' ∧ test cfg' = true := by
  obtain ⟨cfg', hcfg, htest⟩ := (Option.any_eq_true _ _).1 h
  exact ⟨cfg', replay_run hok hcfg, htest⟩

/-- Every event is allowed when there is no condition. -/
theorem Cond.allows_any (cfg : M.Config) (e : M.Event) : (Cond.any M).Allows cfg e := by
  cases e <;> simp [Cond.Allows, Cond.any]

/-! ## The rule for runs -/

/-- What is proved about a machine's programs: the invariant of the state, what each worker relies on and guarantees, which
workers may be live at once, and what holds when a program has ended. -/
structure Outline (M : Machine) where
  inv : M.State → Prop
  rely : Nat → M.Call → M.State → M.State → Prop
  guar : Nat → M.Call → M.State → M.State → Prop
  compat : Nat → M.Call → Nat → M.Call → Prop
  post : Nat → M.Call → Except M.sig.Err M.Reply → M.State → Prop := fun _ _ _ _ => True

/-- The contract of one worker in an outline. -/
def Outline.contract (P : Outline M) (w : Nat) (c : M.Call) : Contract M.State := ⟨P.inv, P.rely w c, P.guar w c⟩

/-- What a program must keep to be a worker of the outline. -/
def Outline.Keeps (P : Outline M) (C : M.Cond) (w : Nat) (c : M.Call) (p : Prog M.sig M.Reply) (s : M.State) : Prop :=
  p.wp (M.Does C w) (P.contract w c) (P.post w c) s

/-- An outline is sound under a condition: relying is a preorder; a step that one worker guarantees is one that every worker
live beside it relies on; a program started under the condition keeps its contract and may be live beside the workers that
are; and a crash is a step everyone else relies on. -/
structure Outline.Sound (P : Outline M) (C : M.Cond) : Prop where
  refl : ∀ w c s, P.rely w c s s
  trans : ∀ w c s s' s'', P.rely w c s s' → P.rely w c s' s'' → P.rely w c s s''
  symm : ∀ w c w' c', P.compat w c w' c' → P.compat w' c' w c
  guar : ∀ w c w' c' s s', w ≠ w' → P.compat w c w' c' → P.inv s → P.guar w c s s' → P.rely w' c' s s'
  start : ∀ cfg c, P.inv cfg.state → C.start cfg c →
    (∀ x ∈ cfg.live, P.compat cfg.started c x.id x.call) ∧ P.Keeps C cfg.started c (M.program c) cfg.state
  crash : ∀ w s, P.inv s → P.inv (M.crash w s) ∧ ∀ w' c, w' ≠ w → P.rely w' c s (M.crash w s)

/-- What holds of a configuration in a run: the invariant of its state, worker numbers that are distinct and were given out,
workers that may be live together, each with a program that keeps its contract and has a call to make. -/
structure Outline.Holds (P : Outline M) (C : M.Cond) (cfg : M.Config) : Prop where
  inv : P.inv cfg.state
  ids : ∀ x ∈ cfg.live, x.id < cfg.started
  nodup : cfg.live.Pairwise (fun x y => x.id ≠ y.id ∧ P.compat x.id x.call y.id y.call)
  calls : ∀ x ∈ cfg.live, x.rest.isCall = true
  keeps : ∀ x ∈ cfg.live, P.Keeps C x.id x.call x.rest cfg.state

/-- What holds of a configuration without workers. -/
theorem Outline.holds_init {P : Outline M} {C : M.Cond} {s : M.State} (h : P.inv s) : P.Holds C (Config.init M s) :=
  ⟨h, by simp [Config.init], by simp [Config.init], by simp [Config.init], by simp [Config.init]⟩

/-- A worker kept with a program is the worker with that program, which has a call to make. -/
theorem Worker.keep_eq_some {x y : M.Worker} {p : Prog M.sig M.Reply} (h : x.keep p = some y) :
    y = { x with rest := p } ∧ p.isCall = true := by
  unfold keep at h
  split at h
  · rename_i hp
    exact ⟨(Option.some.inj h).symm, hp⟩
  · cases h

/-- The live workers after a call: the one that made it, with the rest of its program, and the others as they were. -/
theorem Config.mem_move {cfg : M.Config} {w : Nat} {p : Prog M.sig M.Reply} {s : M.State} {y : M.Worker}
    (h : y ∈ (cfg.move w p s).live) :
    (∃ x ∈ cfg.live, x.id = w ∧ y = { x with rest := p } ∧ p.isCall = true) ∨ (y ∈ cfg.live ∧ y.id ≠ w) := by
  simp only [move, List.mem_filterMap] at h
  obtain ⟨x, hx, h⟩ := h
  by_cases hw : x.id = w
  · rw [if_pos hw] at h
    obtain ⟨h₁, h₂⟩ := Worker.keep_eq_some h
    exact Or.inl ⟨x, hx, hw, h₁, h₂⟩
  · rw [if_neg hw, Option.some.injEq] at h
    subst h
    exact Or.inr ⟨hx, hw⟩

/-- Two workers of a configuration with the same number are the same. -/
theorem Outline.Holds.eq_of_id {P : Outline M} {C : M.Cond} {cfg : M.Config} (h : P.Holds C cfg) {x y : M.Worker}
    (hx : x ∈ cfg.live) (hy : y ∈ cfg.live) (he : x.id = y.id) : x = y := by
  by_contra hne
  have : Std.Symm (fun x y : M.Worker => x.id ≠ y.id) := ⟨fun _ _ hab => hab.symm⟩
  have hp : cfg.live.Pairwise (fun x y => x.id ≠ y.id) := h.nodup.imp And.left
  exact hp.forall hx hy hne he

/-- Two different workers of a configuration may be live together. -/
theorem Outline.Holds.compat_of_ne {P : Outline M} {C : M.Cond} (hs : P.Sound C) {cfg : M.Config} (h : P.Holds C cfg)
    {x y : M.Worker} (hx : x ∈ cfg.live) (hy : y ∈ cfg.live) (hne : x.id ≠ y.id) :
    P.compat x.id x.call y.id y.call := by
  have : Std.Symm (fun x y : M.Worker => x.id ≠ y.id ∧ P.compat x.id x.call y.id y.call) :=
    ⟨fun _ _ hab => ⟨hab.1.symm, hs.symm _ _ _ _ hab.2⟩⟩
  exact (h.nodup.forall hx hy (fun he => hne (by rw [he]))).2

/-- Starting a program the condition allows. -/
theorem Outline.Holds.add {P : Outline M} {C : M.Cond} (hs : P.Sound C) {cfg : M.Config} (h : P.Holds C cfg) {c : M.Call}
    (hc : C.start cfg c) : P.Holds C (cfg.add c) := by
  obtain ⟨hcompat, hkeeps⟩ := hs.start cfg c h.inv hc
  have hmem : ∀ x ∈ (cfg.add c).live, x ∈ cfg.live ∨ (x = ⟨cfg.started, c, M.program c⟩ ∧ x.rest.isCall = true) := by
    intro x hx
    simp only [Config.add, List.mem_append, Option.mem_toList] at hx
    rcases hx with hx | hx
    · exact Or.inl hx
    · obtain ⟨h₁, h₂⟩ := Worker.keep_eq_some hx
      subst h₁
      exact Or.inr ⟨rfl, h₂⟩
  refine ⟨h.inv, ?_, ?_, ?_, ?_⟩
  · intro x hx
    rcases hmem x hx with hx | ⟨rfl, -⟩
    · exact Nat.lt_succ_of_lt (h.ids x hx)
    · exact Nat.lt_succ_self _
  · simp only [Config.add]
    refine List.pairwise_append.2 ⟨h.nodup, ?_, ?_⟩
    · cases Worker.keep ⟨cfg.started, c, M.program c⟩ (M.program c) with
      | none => exact List.Pairwise.nil
      | some y => exact List.pairwise_singleton _ _
    · intro x hx y hy
      obtain ⟨rfl, -⟩ := Worker.keep_eq_some (Option.mem_toList.1 hy)
      exact ⟨Nat.ne_of_lt (h.ids x hx), hs.symm _ _ _ _ (hcompat x hx)⟩
  · intro x hx
    rcases hmem x hx with hx | ⟨-, hcall⟩
    · exact h.calls x hx
    · exact hcall
  · intro x hx
    rcases hmem x hx with hx | ⟨rfl, -⟩
    · exact h.keeps x hx
    · exact hkeeps

/-- A worker's own call: what it guarantees is what the others rely on. -/
theorem Outline.Holds.move {P : Outline M} {C : M.Cond} (hs : P.Sound C) {cfg : M.Config} (h : P.Holds C cfg)
    {w : M.Worker} (hw : w ∈ cfg.live) {o : M.sig.Op} {k : Except M.sig.Err (M.sig.Res o) → Prog M.sig M.Reply}
    (hk : w.rest = .call o k) {r : Except M.sig.Err (M.sig.Res o)} {s : M.State} (hd : M.Does C w.id o cfg.state r s) :
    P.Holds C (cfg.move w.id (k r) s) := by
  have hkeep := h.keeps w hw
  unfold Outline.Keeps at hkeep
  rw [hk] at hkeep
  obtain ⟨hinv, hguar, hrest⟩ := hkeep cfg.state (hs.refl _ _ _) h.inv r s hd
  -- the worker that made the call goes on with `k r`; every other one keeps its precondition along the guarantee
  refine ⟨hinv, ?_, ?_, ?_, ?_⟩
  · intro y hy
    rcases Config.mem_move hy with ⟨x, hx, -, rfl, -⟩ | ⟨hy, -⟩
    · exact h.ids x hx
    · exact h.ids y hy
  · refine List.Pairwise.filterMap _ ?_ h.nodup
    intro x y hxy x' hx' y' hy'
    have hid : ∀ {z z' : M.Worker}, (if z.id = w.id then z.keep (k r) else some z) = some z' →
        z'.id = z.id ∧ z'.call = z.call := by
      intro z z' hz
      split at hz
      · obtain ⟨rfl, -⟩ := Worker.keep_eq_some hz
        exact ⟨rfl, rfl⟩
      · cases hz
        exact ⟨rfl, rfl⟩
    obtain ⟨h₁, h₂⟩ := hid hx'
    obtain ⟨h₃, h₄⟩ := hid hy'
    rw [h₁, h₂, h₃, h₄]
    exact hxy
  · intro y hy
    rcases Config.mem_move hy with ⟨x, -, -, rfl, hcall⟩ | ⟨hy, -⟩
    · exact hcall
    · exact h.calls y hy
  · intro y hy
    rcases Config.mem_move hy with ⟨x, hx, hid, rfl, -⟩ | ⟨hy, hne⟩
    · obtain rfl := h.eq_of_id hx hw hid
      exact hrest
    · have hrely := hs.guar w.id w.call y.id y.call _ _ hne.symm (h.compat_of_ne hs hw hy hne.symm) h.inv hguar
      exact Prog.wp_of_rely (hs.trans y.id y.call) (h.calls y hy) (h.keeps y hy) hrely

/-- A crash of a worker between two of its calls. -/
theorem Outline.Holds.drop {P : Outline M} {C : M.Cond} (hs : P.Sound C) {cfg : M.Config} (h : P.Holds C cfg) (w : Nat) :
    P.Holds C (cfg.drop w) := by
  obtain ⟨hinv, hrely⟩ := hs.crash w cfg.state h.inv
  have hmem : ∀ x ∈ (cfg.drop w).live, x ∈ cfg.live ∧ x.id ≠ w := by
    intro x hx
    simpa [Config.drop, List.mem_filter] using hx
  refine ⟨hinv, ?_, ?_, ?_, ?_⟩
  · exact fun x hx => h.ids x (hmem x hx).1
  · exact h.nodup.filter _
  · exact fun x hx => h.calls x (hmem x hx).1
  · intro x hx
    obtain ⟨hx, hne⟩ := hmem x hx
    exact Prog.wp_of_rely (hs.trans x.id x.call) (h.calls x hx) (h.keeps x hx) (hrely x.id x.call hne)

/-- One step keeps what holds of a configuration. -/
theorem Outline.holds_step {P : Outline M} {C : M.Cond} (hs : P.Sound C) {cfg cfg' : M.Config} (h : P.Holds C cfg)
    (hstep : M.Step C cfg cfg') : P.Holds C cfg' := by
  cases hstep with
  | start c hc => exact h.add hs hc
  | call w o k ch r s hw hk hc he => exact h.move hs hw hk ⟨hc, ch, he⟩
  | crash w hw => exact h.drop hs w.id

/-- The rule for runs: what a sound outline says holds in every configuration reached from one without workers. -/
theorem Outline.holds_run {P : Outline M} {C : M.Cond} (hs : P.Sound C) {s : M.State} (hi : P.inv s) {cfg : M.Config}
    (hrun : M.Run C (Config.init M s) cfg) : P.Holds C cfg := by
  induction hrun with
  | refl => exact holds_init hi
  | tail _ hstep ih => exact holds_step hs ih hstep

/-- A worker's next call may be its last: its program then returns `a`, and the state is `s`. -/
def Config.Returns (cfg : M.Config) (w : M.Worker) (a : M.Reply) (s : M.State) : Prop :=
  w ∈ cfg.live ∧ ∃ o k ch r, w.rest = .call o k ∧ M.exec w.id o ch cfg.state = some (r, s) ∧ k r = .pure a

/-- A worker's next call and what its program then returns, computed. -/
def Config.returned (cfg : M.Config) (w : Nat) (ch : M.Choice) : Option (M.Worker × M.Reply × M.State) :=
  match cfg.live.find? (fun x => decide (x.id = w)) with
  | none => none
  | some x =>
    match x.rest with
    | .call o k =>
      match M.exec x.id o ch cfg.state with
      | some (r, s) =>
        match k r with
        | .pure a => some (x, a, s)
        | _ => none
      | none => none
    | _ => none

theorem Config.returns_of_returned {cfg : M.Config} {w : Nat} {ch : M.Choice} {x : M.Worker} {a : M.Reply} {s : M.State}
    (h : cfg.returned w ch = some (x, a, s)) : cfg.Returns x a s := by
  unfold returned at h
  split at h
  · cases h
  · rename_i y hy
    split at h
    · rename_i o k hk
      split at h
      · rename_i r s' he
        split at h
        · rename_i b hb
          cases h
          exact ⟨List.mem_of_find?_eq_some hy, o, k, ch, r, hk, he, hb⟩
        · cases h
      · cases h
    · cases h

/-- What holds when a worker returns by a call that meets the condition. -/
theorem Outline.returns_of_step {P : Outline M} {C : M.Cond} (hs : P.Sound C) {s₀ : M.State} (hi : P.inv s₀)
    {cfg : M.Config} (hrun : M.Run C (Config.init M s₀) cfg) {w : M.Worker} {a : M.Reply} {s : M.State}
    (hC : ∀ o k, w.rest = .call o k → C.step w.id o cfg.state) (h : cfg.Returns w a s) :
    P.inv s ∧ P.post w.id w.call (.ok a) s := by
  obtain ⟨hw, o, k, ch, r, hk, he, hpure⟩ := h
  have hold := holds_run hs hi hrun
  have hkeep := hold.keeps w hw
  unfold Outline.Keeps at hkeep
  rw [hk] at hkeep
  obtain ⟨hinv, -, hrest⟩ := hkeep cfg.state (hs.refl _ _ _) hold.inv r s ⟨hC o k hk, ch, he⟩
  rw [hpure] at hrest
  exact ⟨hinv, hrest⟩

/-- What holds when a worker returns, where every call meets the condition. -/
theorem Outline.returns {P : Outline M} {C : M.Cond} (hs : P.Sound C) (hC : ∀ w o s, C.step w o s) {s₀ : M.State} (hi : P.inv s₀)
    {cfg : M.Config} (hrun : M.Run C (Config.init M s₀) cfg) {w : M.Worker} {a : M.Reply} {s : M.State}
    (h : cfg.Returns w a s) : P.inv s ∧ P.post w.id w.call (.ok a) s :=
  returns_of_step hs hi hrun (fun o _ _ => hC w.id o cfg.state) h

/-- The numbers of a configuration were given out. -/
def Config.Numbered (cfg : M.recorded.Config) : Prop :=
  (∀ x ∈ cfg.live, x.id < cfg.started) ∧ ∀ r ∈ cfg.state.2, r.worker < cfg.started

/-- A worker that is started has made no call yet. -/
def Cond.numbered (M : Machine) : M.recorded.Cond := ⟨fun cfg _ => ∀ r ∈ cfg.state.2, r.worker < cfg.started, fun _ _ _ => True⟩

/-- Every step of a recorded run is one of a worker whose number was given out. -/
theorem Config.Numbered.step {cfg cfg' : M.recorded.Config} (h : cfg.Numbered) (hs : M.recorded.Step (.any _) cfg cfg') :
    M.recorded.Step (.numbered M) cfg cfg' ∧ cfg'.Numbered := by
  cases hs with
  | start c _ =>
    refine ⟨.start cfg c h.2, fun x hx => ?_, fun r hr => Nat.lt_succ_of_lt (h.2 r hr)⟩
    simp only [Config.add, List.mem_append, Option.mem_toList] at hx
    rcases hx with hx | hx
    · exact Nat.lt_succ_of_lt (h.1 x hx)
    · obtain ⟨rfl, -⟩ := Worker.keep_eq_some hx
      exact Nat.lt_succ_self _
  | call w o k ch r s hw hk _ he =>
    refine ⟨.call cfg w o k ch r s hw hk trivial he, fun x hx => ?_, fun x hx => ?_⟩
    · rcases Config.mem_move hx with ⟨y, hy, -, rfl, -⟩ | ⟨hx, -⟩
      · exact h.1 y hy
      · exact h.1 x hx
    · obtain ⟨a, -, he⟩ := Option.map_eq_some_iff.1 he
      obtain ⟨-, rfl⟩ := Prod.mk.inj he
      rcases List.mem_append.1 hx with hx | hx
      · exact h.2 x hx
      · rw [List.mem_singleton.1 hx]
        exact h.1 w hw
  | crash w hw => exact ⟨.crash cfg w hw, fun x hx => h.1 x (List.mem_filter.1 hx).1, h.2⟩

/-- A recorded run is one whose workers are numbered. -/
theorem run_numbered {s : M.State} {cfg : M.recorded.Config} (hrun : M.recorded.Run (.any _) (.init _ (s, [])) cfg) :
    M.recorded.Run (.numbered M) (.init _ (s, [])) cfg := by
  suffices h : M.recorded.Run (.numbered M) (.init _ (s, [])) cfg ∧ cfg.Numbered from h.1
  induction hrun with
  | refl => exact ⟨.refl, by simp [Config.Numbered, Config.init]⟩
  | tail _ hstep ih =>
    obtain ⟨h₁, h₂⟩ := ih.2.step hstep
    exact ⟨.tail ih.1 h₁, h₂⟩

/-- A run under a condition is a run under a weaker one. -/
theorem Run.mono {C C' : M.Cond} (hstart : ∀ cfg c, C.start cfg c → C'.start cfg c)
    (hstep : ∀ w o s, C.step w o s → C'.step w o s) {cfg cfg' : M.Config} (h : M.Run C cfg cfg') : M.Run C' cfg cfg' := by
  refine Relation.ReflTransGen.mono (fun a b hab => ?_) _ _ h
  cases hab with
  | start c hc => exact .start a c (hstart a c hc)
  | call w o k ch r s hw hk hc he => exact .call a w o k ch r s hw hk (hstep w.id o a.state hc) he
  | crash w hw => exact .crash a w hw

/-- What every call and every crash keeps holds in every state reached. -/
theorem Run.keeps {C : M.Cond} {I : M.State → Prop} (hexec : ∀ w o ch s r s', I s → M.exec w o ch s = some (r, s') → I s')
    (hcrash : ∀ w s, I s → I (M.crash w s)) {cfg cfg' : M.Config} (h : M.Run C cfg cfg') (hi : I cfg.state) : I cfg'.state := by
  induction h with
  | refl => exact hi
  | tail _ hstep ih =>
    cases hstep with
    | start c hc => exact ih
    | call w o k ch r s hw hk hc he => exact hexec w.id o ch _ r s ih he
    | crash w hw => exact hcrash w.id _ ih

/-- What the calls of the programs and every crash keep, in states of a sound outline, holds in every state reached. -/
theorem Outline.Sound.keeps_calls {P : Outline M} {C : M.Cond} (hs : P.Sound C) {A : M.sig.Op → Prop}
    (hcalls : ∀ c, (M.program c).Calls A) {J : M.State → Prop}
    (hexec : ∀ w c o ch s r s', A o → C.step w o s → P.inv s → P.guar w c s s' → J s → M.exec w o ch s = some (r, s') → J s')
    (hcrash : ∀ w s, P.inv s → J s → J (M.crash w s)) {s : M.State} (hi : P.inv s) (hJ : J s) {cfg : M.Config}
    (hrun : M.Run C (Config.init M s) cfg) : J cfg.state := by
  suffices h : P.Holds C cfg ∧ J cfg.state ∧ ∀ x ∈ cfg.live, x.rest.Calls A from h.2.1
  induction hrun with
  | refl => exact ⟨holds_init hi, hJ, by simp [Config.init]⟩
  | tail _ hstep ih =>
    obtain ⟨hold, hJ, hlive⟩ := ih
    refine ⟨holds_step hs hold hstep, ?_, ?_⟩
    · cases hstep with
      | start c hc => exact hJ
      | call w o k ch r s hw hk hc he =>
        have hcall := hlive w hw
        have hkeep := hold.keeps w hw
        unfold Outline.Keeps at hkeep
        rw [hk] at hcall hkeep
        obtain ⟨-, hguar, -⟩ := hkeep _ (hs.refl _ _ _) hold.inv r s ⟨hc, ch, he⟩
        exact hexec w.id w.call o ch _ r s hcall.1 hc hold.inv hguar hJ he
      | crash w hw => exact hcrash w.id _ hold.inv hJ
    · intro x hx
      cases hstep with
      | start c hc =>
        simp only [Config.add, List.mem_append, Option.mem_toList] at hx
        rcases hx with hx | hx
        · exact hlive x hx
        · obtain ⟨rfl, -⟩ := Worker.keep_eq_some hx
          exact hcalls c
      | call w o k ch r s hw hk hc he =>
        rcases Config.mem_move hx with ⟨y, hy, hid, rfl, -⟩ | ⟨hx, -⟩
        · have hcall := hlive w hw
          rw [hk] at hcall
          exact hcall.2 r
        · exact hlive x hx
      | crash w hw => exact hlive x (List.mem_filter.1 hx).1

/-- The outline that asks for nothing. -/
def Outline.anything (M : Machine) : Outline M where
  inv _ := True
  rely _ _ _ _ := True
  guar _ _ _ _ := True
  compat _ _ _ _ := True

theorem Outline.anything_sound (C : M.Cond) : (Outline.anything M).Sound C where
  refl _ _ _ := trivial
  trans _ _ _ _ _ _ _ := trivial
  symm _ _ _ _ _ := trivial
  guar _ _ _ _ _ _ _ _ _ _ := trivial
  start _ _ _ _ := ⟨fun _ _ => trivial, Prog.wp_trivial (fun _ => trivial) (fun _ _ => trivial) (fun _ _ => trivial) _ _⟩
  crash _ _ _ := ⟨trivial, fun _ _ _ => trivial⟩

/-- What the calls of the programs and every crash keep holds in every state reached. -/
theorem Run.keeps_calls {C : M.Cond} {A : M.sig.Op → Prop} (hcalls : ∀ c, (M.program c).Calls A) {J : M.State → Prop}
    (hexec : ∀ w o ch s r s', A o → C.step w o s → J s → M.exec w o ch s = some (r, s') → J s')
    (hcrash : ∀ w s, J s → J (M.crash w s)) {s : M.State} (hJ : J s) {cfg : M.Config}
    (hrun : M.Run C (Config.init M s) cfg) : J cfg.state :=
  (Outline.anything_sound C).keeps_calls hcalls (fun w _ o ch s r s' hA hC _ _ => hexec w o ch s r s' hA hC)
    (fun w s _ => hcrash w s) trivial hJ hrun

/-- A worker's next call, which the condition allows, is its last: its program ends with `out`, and the state is `s`. -/
def Config.Ends (C : M.Cond) (cfg : M.Config) (w : M.Worker) (out : Except M.sig.Err M.Reply) (s : M.State) : Prop :=
  w ∈ cfg.live ∧ ∃ o k ch r, w.rest = .call o k ∧ C.step w.id o cfg.state ∧ M.exec w.id o ch cfg.state = some (r, s) ∧
    k r = match out with
      | .ok a => .pure a
      | .error e => .throw e

/-- A worker's next call and what its program then ends with, computed. -/
def Config.ended (cfg : M.Config) (w : Nat) (ch : M.Choice) : Option (M.Worker × Except M.sig.Err M.Reply × M.State) :=
  match cfg.live.find? (fun x => decide (x.id = w)) with
  | none => none
  | some x =>
    match x.rest with
    | .call o k =>
      match M.exec x.id o ch cfg.state with
      | some (r, s) =>
        match k r with
        | .pure a => some (x, .ok a, s)
        | .throw e => some (x, .error e, s)
        | .call _ _ => none
      | none => none
    | _ => none

theorem Config.ends_of_ended {C : M.Cond} {cfg : M.Config} {w : Nat} {ch : M.Choice} {x : M.Worker}
    {out : Except M.sig.Err M.Reply} {s : M.State} (hC : C.Allows cfg (.call w ch)) (h : cfg.ended w ch = some (x, out, s)) :
    cfg.Ends C x out s := by
  unfold ended at h
  split at h
  · cases h
  · rename_i y hy
    have hmem := List.mem_of_find?_eq_some hy
    obtain rfl : y.id = w := by simpa using List.find?_some hy
    split at h
    · rename_i o k hk
      have hstep := hC y hmem rfl o k hk
      split at h
      · rename_i r s' he
        split at h
        · rename_i b hb
          cases h
          exact ⟨hmem, o, k, ch, r, hk, hstep, he, hb⟩
        · rename_i e hb
          cases h
          exact ⟨hmem, o, k, ch, r, hk, hstep, he, hb⟩
        · cases h
      · cases h
    · cases h

/-- A worker that returns ends. -/
theorem Config.Returns.ends {cfg : M.Config} {w : M.Worker} {a : M.Reply} {s : M.State} (h : cfg.Returns w a s) :
    cfg.Ends (.any M) w (.ok a) s := by
  obtain ⟨hw, o, k, ch, r, hk, he, hpure⟩ := h
  exact ⟨hw, o, k, ch, r, hk, trivial, he, hpure⟩

/-- A worker's last call is a step. -/
theorem Config.Ends.run {C : M.Cond} {cfg : M.Config} {w : M.Worker} {out : Except M.sig.Err M.Reply} {s : M.State}
    (h : cfg.Ends C w out s) : ∃ cfg', M.Run C cfg cfg' ∧ cfg'.state = s := by
  obtain ⟨hw, o, k, ch, r, hk, hc, he, -⟩ := h
  exact ⟨cfg.move w.id (k r) s, .single (.call cfg w o k ch r s hw hk hc he), rfl⟩

/-- What holds when a worker ends. -/
theorem Outline.ends {P : Outline M} {C : M.Cond} (hs : P.Sound C) {s₀ : M.State} (hi : P.inv s₀) {cfg : M.Config}
    (hrun : M.Run C (Config.init M s₀) cfg) {w : M.Worker} {out : Except M.sig.Err M.Reply} {s : M.State}
    (h : cfg.Ends C w out s) : P.inv s ∧ P.post w.id w.call out s := by
  obtain ⟨hw, o, k, ch, r, hk, hc, he, hend⟩ := h
  have hold := holds_run hs hi hrun
  have hkeep := hold.keeps w hw
  unfold Outline.Keeps at hkeep
  rw [hk] at hkeep
  obtain ⟨hinv, -, hrest⟩ := hkeep cfg.state (hs.refl _ _ _) hold.inv r s ⟨hc, ch, he⟩
  rw [hend] at hrest
  cases out with
  | ok a => exact ⟨hinv, hrest⟩
  | error e => exact ⟨hinv, hrest⟩

/-- Along a run the state moves as the guarantees and the crashes do. -/
theorem Outline.Sound.run_moves {P : Outline M} {C : M.Cond} (hs : P.Sound C) {R : M.State → M.State → Prop}
    (hrefl : ∀ s, R s s) (htrans : ∀ s s' s'', R s s' → R s' s'' → R s s'')
    (hguar : ∀ w c s s', P.inv s → P.guar w c s s' → R s s') (hcrash : ∀ w s, P.inv s → R s (M.crash w s)) {s : M.State}
    (hi : P.inv s) {cfg cfg' : M.Config} (hrun : M.Run C (Config.init M s) cfg) (hrun' : M.Run C cfg cfg') :
    R cfg.state cfg'.state := by
  suffices h : P.Holds C cfg' ∧ R cfg.state cfg'.state from h.2
  induction hrun' with
  | refl => exact ⟨holds_run hs hi hrun, hrefl _⟩
  | tail _ hstep ih =>
    obtain ⟨hold, hR⟩ := ih
    refine ⟨holds_step hs hold hstep, ?_⟩
    cases hstep with
    | start c hc => exact hR
    | call w o k ch r s hw hk hc he =>
      have hkeep := hold.keeps w hw
      unfold Outline.Keeps at hkeep
      rw [hk] at hkeep
      obtain ⟨-, hg, -⟩ := hkeep _ (hs.refl _ _ _) hold.inv r s ⟨hc, ch, he⟩
      exact htrans _ _ _ hR (hguar w.id w.call _ s hold.inv hg)
    | crash w hw => exact htrans _ _ _ hR (hcrash w.id _ hold.inv)

/-- The invariant of a sound outline holds in every state reached. -/
theorem Outline.run_inv {P : Outline M} {C : M.Cond} (hs : P.Sound C) {s : M.State} (hi : P.inv s) {cfg : M.Config}
    (hrun : M.Run C (Config.init M s) cfg) : P.inv cfg.state :=
  (holds_run hs hi hrun).inv

/-! ## Runs with a clock -/

/-- One step of a machine with a clock: time passes, or a step is made; a call is made at the time its choice reads, which is
not before the time it was. -/
inductive TimedStep (clock : M.Choice → Int) : M.Config × Int → M.Config × Int → Prop where
  | wait (cfg : M.Config) (t t' : Int) (ht : t ≤ t') : TimedStep clock (cfg, t) (cfg, t')
  | start (cfg : M.Config) (t : Int) (c : M.Call) : TimedStep clock (cfg, t) (cfg.add c, t)
  | call (cfg : M.Config) (t : Int) (w : M.Worker) (o : M.sig.Op) (k : Except M.sig.Err (M.sig.Res o) → Prog M.sig M.Reply)
      (ch : M.Choice) (r : Except M.sig.Err (M.sig.Res o)) (s : M.State) (hw : w ∈ cfg.live) (hk : w.rest = .call o k)
      (ht : t ≤ clock ch) (he : M.exec w.id o ch cfg.state = some (r, s)) :
      TimedStep clock (cfg, t) (cfg.move w.id (k r) s, clock ch)
  | crash (cfg : M.Config) (t : Int) (w : M.Worker) (hw : w ∈ cfg.live) : TimedStep clock (cfg, t) (cfg.drop w.id, t)

/-- The configurations and times reached from one by steps with a clock. -/
def TimedRun (clock : M.Choice → Int) : M.Config × Int → M.Config × Int → Prop := Relation.ReflTransGen (TimedStep clock)

/-- A run with a clock is a run. -/
theorem TimedRun.run {clock : M.Choice → Int} {a b : M.Config × Int} (h : TimedRun clock a b) : M.Run (.any M) a.1 b.1 := by
  induction h with
  | refl => exact .refl
  | tail _ hstep ih =>
    cases hstep with
    | wait cfg t t' ht => exact ih
    | start cfg t c => exact ih.tail (.start cfg c trivial)
    | call cfg t w o k ch r s hw hk ht he => exact ih.tail (.call cfg w o k ch r s hw hk trivial he)
    | crash cfg t w hw => exact ih.tail (.crash cfg w hw)

/-- The event happens at a time. -/
def Event.at (clock : M.Choice → Int) (t : Int) : M.Event → Bool
  | .call _ ch => decide (clock ch = t)
  | _ => true

/-- A replayed list of events at one time is a run at that time. -/
theorem Config.replay_timed {clock : M.Choice → Int} {t : Int} {es : List M.Event} {cfg cfg' : M.Config}
    (h : cfg.replay (fun _ e => e.at clock t) es = some cfg') : TimedRun clock (cfg, t) (cfg', t) := by
  induction es generalizing cfg with
  | nil =>
    simp only [replay, Option.some.injEq] at h
    subst h
    exact .refl
  | cons e es ih =>
    unfold replay at h
    split at h
    · rename_i hat
      obtain ⟨cfg₁, h₁, h₂⟩ := Option.bind_eq_some_iff.1 h
      refine .head ?_ (ih h₂)
      cases e with
      | start c =>
        obtain rfl := Option.some.inj h₁
        exact .start cfg t c
      | crash w =>
        simp only [next] at h₁
        split at h₁
        · cases h₁
        · rename_i x hx
          cases h₁
          exact .crash cfg t x (List.mem_of_find?_eq_some hx)
      | call w ch =>
        have hclock : clock ch = t := of_decide_eq_true hat
        simp only [next] at h₁
        split at h₁
        · cases h₁
        · rename_i x hx
          split at h₁
          · rename_i o k hk
            split at h₁
            · rename_i r s he
              cases h₁
              have hcall := TimedStep.call cfg t x o k ch r s (List.mem_of_find?_eq_some hx) hk (Int.le_of_eq hclock.symm) he
              rw [hclock] at hcall
              exact hcall
            · cases h₁
          · cases h₁
    · cases h

/-- Who is live after a run was live before it, or was started in it. -/
theorem Run.live_ids {C : M.Cond} {cfg cfg' : M.Config} (h : M.Run C cfg cfg') :
    cfg.started ≤ cfg'.started ∧ ∀ y ∈ cfg'.live, (∃ x ∈ cfg.live, x.id = y.id) ∨ cfg.started ≤ y.id := by
  induction h with
  | refl => exact ⟨Nat.le_refl _, fun y hy => Or.inl ⟨y, hy, rfl⟩⟩
  | tail _ hstep ih =>
    obtain ⟨hle, hlive⟩ := ih
    cases hstep with
    | start c hc =>
      refine ⟨Nat.le_succ_of_le hle, fun y hy => ?_⟩
      simp only [Config.add, List.mem_append, Option.mem_toList] at hy
      rcases hy with hy | hy
      · exact hlive y hy
      · obtain ⟨rfl, -⟩ := Worker.keep_eq_some hy
        exact Or.inr hle
    | call w o k ch r s hw hk hc he =>
      refine ⟨hle, fun y hy => ?_⟩
      rcases Config.mem_move hy with ⟨x, hx, -, rfl, -⟩ | ⟨hy, -⟩
      · exact hlive x hx
      · exact hlive y hy
    | crash w hw => exact ⟨hle, fun y hy => hlive y (List.mem_filter.1 hy).1⟩

end Machine

end Archisynapse
