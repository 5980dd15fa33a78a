import Archisynapse.Base.Machine

/-!
# Runs that what the environment does is restricted in

A guard restricts the steps of a run by more than the state before them: by what the environment chooses for a call, and by which
workers crash. `GuardedRun.inv` is the rule for what holds in every configuration of such a run; it is a statement about
configurations, so that it may tie the state to the programs that are live.
-/

namespace Archisynapse

namespace Machine

variable (M : Machine)

/-- A condition on the starts, the calls with what the environment chooses for them, and the crashes of a run. -/
structure Guard where
  start : M.Config → M.Call → Prop
  call : M.Worker → M.sig.Op → M.Choice → M.State → Prop
  crash : M.Worker → M.State → Prop

variable {M}

/-- One step of a machine under a guard. -/
inductive GuardedStep (G : M.Guard) : M.Config → M.Config → Prop where
  | start (cfg : M.Config) (c : M.Call) (hc : G.start cfg c) : GuardedStep G cfg (cfg.add c)
  | call (cfg : M.Config) (w : M.Worker) (o : M.sig.Op) (k : Except M.sig.Err (M.sig.Res o) → Prog M.sig M.Reply)
      (ch : M.Choice) (r : Except M.sig.Err (M.sig.Res o)) (s : M.State) (hw : w ∈ cfg.live) (hk : w.rest = .call o k)
      (hc : G.call w o ch cfg.state) (he : M.exec w.id o ch cfg.state = some (r, s)) :
      GuardedStep G cfg (cfg.move w.id (k r) s)
  | crash (cfg : M.Config) (w : M.Worker) (hw : w ∈ cfg.live) (hc : G.crash w cfg.state) : GuardedStep G cfg (cfg.drop w.id)

/-- The configurations reached from one by steps under a guard. -/
def GuardedRun (G : M.Guard) : M.Config → M.Config → Prop := Relation.ReflTransGen (GuardedStep G)

/-- A run under a guard is a run. -/
theorem GuardedRun.run {G : M.Guard} {cfg cfg' : M.Config} (h : GuardedRun G cfg cfg') : M.Run (.any M) cfg cfg' := by
  induction h with
  | refl => exact .refl
  | tail _ hstep ih =>
    cases hstep with
    | start c hc => exact ih.tail (.start _ c trivial)
    | call w o k ch r s hw hk hc he => exact ih.tail (.call _ w o k ch r s hw hk trivial he)
    | crash w hw hc => exact ih.tail (.crash _ w hw)

/-- The workers of a recorded run under a guard are numbered. -/
theorem GuardedRun.numbered {G : M.recorded.Guard} {s : M.State} {cfg : M.recorded.Config}
    (h : GuardedRun G (.init M.recorded (s, [])) cfg) : cfg.Numbered := by
  have hrun := h.run
  clear h
  induction hrun with
  | refl => simp [Config.Numbered, Config.init]
  | tail _ hstep ih => exact (Config.Numbered.step ih hstep).2

/-! ## The rule for runs under a guard -/

/-- The numbers of the live workers were given out, and are distinct. -/
structure Config.Distinct (cfg : M.Config) : Prop where
  ids : ∀ x ∈ cfg.live, x.id < cfg.started
  nodup : cfg.live.Pairwise (fun x y => x.id ≠ y.id)

theorem Config.distinct_init (s : M.State) : (Config.init M s).Distinct := ⟨by simp [init], by simp [init]⟩

/-- Two workers of one number are one. -/
theorem Config.Distinct.eq_of_id {cfg : M.Config} (h : cfg.Distinct) {x y : M.Worker} (hx : x ∈ cfg.live) (hy : y ∈ cfg.live)
    (hid : x.id = y.id) : x = y := by
  by_contra hne
  have : Std.Symm (fun x y : M.Worker => x.id ≠ y.id) := ⟨fun _ _ hab => hab.symm⟩
  exact h.nodup.forall hx hy hne hid

/-- Who is live after a start was live before it, or is the new worker. -/
theorem Config.mem_add {cfg : M.Config} {c : M.Call} {x : M.Worker} (h : x ∈ (cfg.add c).live) :
    x ∈ cfg.live ∨ x = ⟨cfg.started, c, M.program c⟩ := by
  simp only [add, List.mem_append, Option.mem_toList] at h
  rcases h with h | h
  · exact Or.inl h
  · exact Or.inr (Worker.keep_eq_some h).1

/-- A worker that made a call and has another one to make is live with the rest of its program. -/
theorem Config.mem_move_self {cfg : M.Config} {w : M.Worker} (hw : w ∈ cfg.live) {p : Prog M.sig M.Reply} (hp : p.isCall = true)
    (s : M.State) : { w with rest := p } ∈ (cfg.move w.id p s).live := by
  refine List.mem_filterMap.2 ⟨w, hw, ?_⟩
  rw [if_pos rfl]
  exact if_pos hp

/-- The other workers stay. -/
theorem Config.mem_move_other {cfg : M.Config} {x : M.Worker} (hx : x ∈ cfg.live) {w : Nat} (hne : x.id ≠ w) (p : Prog M.sig M.Reply)
    (s : M.State) : x ∈ (cfg.move w p s).live :=
  List.mem_filterMap.2 ⟨x, hx, if_neg hne⟩

theorem Config.Distinct.step {G : M.Guard} {cfg cfg' : M.Config} (h : cfg.Distinct) (hstep : GuardedStep G cfg cfg') :
    cfg'.Distinct := by
  cases hstep with
  | start c hc =>
    refine ⟨fun x hx => ?_, ?_⟩
    · rcases mem_add hx with hx | rfl
      · exact Nat.lt_succ_of_lt (h.ids x hx)
      · exact Nat.lt_succ_self _
    · simp only [add]
      refine List.pairwise_append.2 ⟨h.nodup, ?_, ?_⟩
      · cases Worker.keep ⟨cfg.started, c, M.program c⟩ (M.program c) with
        | none => exact List.Pairwise.nil
        | some y => exact List.pairwise_singleton _ _
      · intro x hx y hy
        obtain ⟨rfl, -⟩ := Worker.keep_eq_some (Option.mem_toList.1 hy)
        exact Nat.ne_of_lt (h.ids x hx)
  | call w o k ch r s hw hk hc he =>
    refine ⟨fun x hx => ?_, ?_⟩
    · rcases mem_move hx with ⟨y, hy, -, rfl, -⟩ | ⟨hx, -⟩
      · exact h.ids y hy
      · exact h.ids x hx
    · refine List.Pairwise.filterMap _ ?_ h.nodup
      intro x y hne x' hx' y' hy'
      have hid : ∀ z z' : M.Worker, (if z.id = w.id then z.keep (k r) else some z) = some z' → z'.id = z.id := by
        intro z z' hz
        split at hz
        · obtain ⟨rfl, -⟩ := Worker.keep_eq_some hz
          rfl
        · rw [Option.some.inj hz]
      rw [hid x x' hx', hid y y' hy']
      exact hne
  | crash w hw hc => exact ⟨fun x hx => h.ids x (List.mem_filter.1 hx).1, h.nodup.filter _⟩

/-- What holds of a configuration without workers, and is kept by every step under a guard from a configuration that was reached,
holds in every configuration of a run. -/
theorem GuardedRun.inv {G : M.Guard} {J : M.Config → Prop} {s : M.State}
    (hstep : ∀ cfg cfg', GuardedRun G (Config.init M s) cfg → cfg.Distinct → J cfg → GuardedStep G cfg cfg' → J cfg')
    (hs : J (Config.init M s)) {cfg : M.Config} (hrun : GuardedRun G (Config.init M s) cfg) : cfg.Distinct ∧ J cfg := by
  induction hrun with
  | refl => exact ⟨Config.distinct_init s, hs⟩
  | tail hrun h ih => exact ⟨ih.1.step h, hstep _ _ hrun ih.1 ih.2 h⟩

/-- A worker's next call, which the guard allows, is its last: its program ends with `out`, and the state is `s`. -/
def Config.GuardedEnds (G : M.Guard) (cfg : M.Config) (w : M.Worker) (out : Except M.sig.Err M.Reply) (s : M.State) : Prop :=
  w ∈ cfg.live ∧ ∃ o k ch r, w.rest = .call o k ∧ G.call w o ch cfg.state ∧ M.exec w.id o ch cfg.state = some (r, s) ∧
    k r = match out with
      | .ok a => .pure a
      | .error e => .throw e

/-- A worker that ends by a call the guard allows ends, and leaves the others behind. -/
theorem Config.GuardedEnds.step {G : M.Guard} {cfg : M.Config} {w : M.Worker} {out : Except M.sig.Err M.Reply} {s : M.State}
    (h : cfg.GuardedEnds G w out s) : cfg.Ends (.any M) w out s ∧
      ∃ cfg', GuardedStep G cfg cfg' ∧ cfg'.state = s ∧ ∀ x ∈ cfg'.live, x ∈ cfg.live ∧ x.id ≠ w.id := by
  obtain ⟨hw, o, k, ch, r, hk, hc, he, hend⟩ := h
  refine ⟨⟨hw, o, k, ch, r, hk, trivial, he, hend⟩, _, .call cfg w o k ch r s hw hk hc he, rfl, fun x hx => ?_⟩
  rcases mem_move hx with ⟨y, -, -, -, hcall⟩ | hx
  · rw [hend] at hcall
    cases out <;> cases hcall
  · exact hx

/-! ## Replaying a run under a guard -/

/-- A guard lets an event happen. -/
def Guard.Allows (G : M.Guard) (cfg : M.Config) : M.Event → Prop
  | .start c => G.start cfg c
  | .call w ch => ∀ x ∈ cfg.live, x.id = w → ∀ o k, x.rest = .call o k → G.call x o ch cfg.state
  | .crash w => ∀ x ∈ cfg.live, x.id = w → G.crash x cfg.state

/-- An event that happens, and that the guard allows, is a step. -/
theorem Config.next_guarded {G : M.Guard} {cfg cfg' : M.Config} {e : M.Event} (hG : G.Allows cfg e) (h : cfg.next e = some cfg') :
    GuardedStep G cfg cfg' := by
  cases e with
  | start c =>
    simp only [next, Option.some.injEq] at h
    subst h
    exact .start cfg c hG
  | call w ch =>
    simp only [next] at h
    split at h
    · cases h
    · rename_i x hx
      obtain rfl : x.id = w := by simpa using List.find?_some hx
      split at h
      · rename_i o k hk
        split at h
        · rename_i r s he
          cases h
          have hx := List.mem_of_find?_eq_some hx
          exact .call cfg x o k ch r s hx hk (hG x hx rfl o k hk) he
        · cases h
      · cases h
  | crash w =>
    simp only [next] at h
    split at h
    · cases h
    · rename_i x hx
      cases h
      have hid : x.id = w := by simpa using List.find?_some hx
      have hx := List.mem_of_find?_eq_some hx
      exact .crash cfg x hx (hG x hx hid)

/-- A replayed list of events, each of which the guard allows, is a run under the guard. -/
theorem Config.replay_guarded {G : M.Guard} {ok : M.Config → M.Event → Bool} (hok : ∀ cfg e, ok cfg e = true → G.Allows cfg e)
    {es : List M.Event} {cfg cfg' : M.Config} (h : cfg.replay ok es = some cfg') : GuardedRun G cfg cfg' := by
  induction es generalizing cfg with
  | nil =>
    simp only [replay, Option.some.injEq] at h
    subst h
    exact .refl
  | cons e es ih =>
    unfold replay at h
    split at h
    · rename_i hcfg
      obtain ⟨cfg₁, h₁, h₂⟩ := Option.bind_eq_some_iff.1 h
      exact .head (next_guarded (hok cfg e hcfg) h₁) (ih h₂)
    · cases h

/-- A replay whose last configuration passes a test is a run under the guard to one that does. -/
theorem Config.replay_guarded_any {G : M.Guard} {ok : M.Config → M.Event → Bool} (hok : ∀ cfg e, ok cfg e = true → G.Allows cfg e)
    (es : List M.Event) (cfg : M.Config) (test : M.Config → Bool) (h : (cfg.replay ok es).any test = true) :
    ∃ cfg', GuardedRun G cfg cfg' ∧ test cfg' = true := by
  obtain ⟨cfg', hcfg, htest⟩ := (Option.any_eq_true _ _).1 h
  exact ⟨cfg', replay_guarded hok hcfg, htest⟩

/-- A computed end, by a call that the guard allows. -/
theorem Config.guardedEnds_of_ended {G : M.Guard} {cfg : M.Config} {w : Nat} {ch : M.Choice} {x : M.Worker}
    {out : Except M.sig.Err M.Reply} {s : M.State} (hG : G.Allows cfg (.call w ch)) (h : cfg.ended w ch = some (x, out, s)) :
    cfg.GuardedEnds G x out s := by
  unfold ended at h
  split at h
  · cases h
  · rename_i y hy
    have hmem := List.mem_of_find?_eq_some hy
    obtain rfl : y.id = w := by simpa using List.find?_some hy
    split at h
    · rename_i o k hk
      have hcall := hG y hmem rfl o k hk
      split at h
      · rename_i r s' he
        split at h
        · rename_i b hb
          cases h
          exact ⟨hmem, o, k, ch, r, hk, hcall, he, hb⟩
        · rename_i e hb
          cases h
          exact ⟨hmem, o, k, ch, r, hk, hcall, he, hb⟩
        · cases h
      · cases h
    · cases h

end Machine

end Archisynapse
