import Archisynapse.Base.Machine
import Mathlib.Data.Fintype.Lattice
import Mathlib.Data.Set.Finite.Basic
import Mathlib.Logic.Hydra

/-!
# Locks taken in one order

Workers hold locks and want more. When every worker wants only locks that come after those it holds, some worker waits for no other
(`exists_not_waiting`). When some worker can always make its next call, all calls can be made to their end: every call makes its
program smaller, and the programs are well-founded trees (`Machine.completes`).
-/

namespace Archisynapse

/-- Workers that hold locks and want others. When a lock that a worker wants and another one holds comes after all that the worker
holds itself, then some worker wants no lock that another one holds. -/
theorem exists_not_waiting {ι κ ρ : Type} [LinearOrder ρ] (rank : κ → ρ) (holds wants : ι → κ → Prop) {live : List ι}
    (hlive : live ≠ []) (horder : ∀ y ∈ live, ∀ l l', holds y l → wants y l' → (∃ z ∈ live, z ≠ y ∧ holds z l') →
      rank l < rank l') :
    ∃ x ∈ live, ∀ y ∈ live, y ≠ x → ∀ l, wants x l → ¬holds y l := by
  by_contra hnone
  have hwait : ∀ x : { x // x ∈ live }, ∃ l, wants x.1 l ∧ ∃ y ∈ live, y ≠ x.1 ∧ holds y l := by
    rintro ⟨x, hx⟩
    by_contra hfree
    exact hnone ⟨x, hx, fun y hy hne l hw hh => hfree ⟨l, hw, y, hy, hne, hh⟩⟩
  choose lock hwants hheld using hwait
  have : Finite { x // x ∈ live } := (List.finite_toSet live).to_subtype
  have : Nonempty { x // x ∈ live } := by
    obtain ⟨x, hx⟩ := List.exists_mem_of_ne_nil live hlive
    exact ⟨⟨x, hx⟩⟩
  -- the worker that waits for the last lock waits for one that waits for a later one
  obtain ⟨x, hmax⟩ := Finite.exists_max (fun x => rank (lock x))
  obtain ⟨y, hy, hne, hh⟩ := hheld x
  exact absurd (hmax ⟨y, hy⟩) (not_le.2 (horder y hy _ _ hh (hwants ⟨y, hy⟩) (hheld ⟨y, hy⟩)))

namespace Prog

variable {S : Signature} {α : Type}

/-- What is left of a program after its first call. -/
def Rest (q p : Prog S α) : Prop := ∃ (o : S.Op) (k : Except S.Err (S.Res o) → Prog S α) (r : Except S.Err (S.Res o)),
  p = .call o k ∧ q = k r

/-- Every program ends. -/
theorem rest_wellFounded : WellFounded (Rest : Prog S α → Prog S α → Prop) := by
  refine ⟨fun p => ?_⟩
  induction p with
  | pure a => exact ⟨_, fun q ⟨o, k, r, h, _⟩ => by cases h⟩
  | throw e => exact ⟨_, fun q ⟨o, k, r, h, _⟩ => by cases h⟩
  | call o k ih =>
    refine ⟨_, ?_⟩
    rintro q ⟨o', k', r, h, rfl⟩
    cases h
    exact ih r

end Prog

namespace Machine

variable {M : Machine}

/-- A call is made that the choices let be made. -/
def Goes (ok : M.Choice → Prop) (cfg cfg' : M.Config) : Prop :=
  ∃ w ∈ cfg.live, ∃ (o : M.sig.Op) (k : Except M.sig.Err (M.sig.Res o) → Prog M.sig M.Reply) (ch : M.Choice)
    (r : Except M.sig.Err (M.sig.Res o)) (s : M.State), w.rest = .call o k ∧ ok ch ∧
      M.exec w.id o ch cfg.state = some (r, s) ∧ cfg' = cfg.move w.id (k r) s

/-- Such a call is a step under a condition on nothing but what is started. -/
theorem Goes.step {C : M.Cond} {ok : M.Choice → Prop} {cfg cfg' : M.Config} (hC : ∀ w o s, C.step w o s) (h : Goes ok cfg cfg') :
    M.Step C cfg cfg' := by
  obtain ⟨w, hw, o, k, ch, r, s, hk, -, he, rfl⟩ := h
  exact .call cfg w o k ch r s hw hk (hC _ _ _) he

/-- The programs of the workers. -/
def Config.rests (cfg : M.Config) : Multiset (Prog M.sig M.Reply) := ((cfg.live.map Worker.rest : List _) : Multiset _)

/-- A call leaves less to do. -/
theorem Goes.smaller {ok : M.Choice → Prop} {cfg cfg' : M.Config} (hids : (cfg.live.map Worker.id).Nodup) (h : Goes ok cfg cfg') :
    Relation.CutExpand Prog.Rest cfg'.rests cfg.rests := by
  obtain ⟨w, hw, o, k, ch, r, s, hk, -, -, rfl⟩ := h
  obtain ⟨before, after, hlive⟩ := List.append_of_mem hw
  have hothers : ∀ l : List M.Worker, (∀ x ∈ l, x.id ≠ w.id) →
      l.filterMap (fun x => if x.id = w.id then x.keep (k r) else some x) = l := by
    intro l hl
    induction l with
    | nil => rfl
    | cons x l ih =>
      rw [List.filterMap_cons, if_neg (hl x List.mem_cons_self)]
      simp only
      rw [ih (fun y hy => hl y (List.mem_cons_of_mem x hy))]
  rw [hlive, List.map_append, List.map_cons, List.nodup_append] at hids
  obtain ⟨-, hafter, hdisjoint⟩ := hids
  rw [List.nodup_cons] at hafter
  have hmove : (cfg.move w.id (k r) s).live = before ++ ((w.keep (k r)).toList ++ after) := by
    unfold Config.move
    rw [hlive, List.filterMap_append, List.filterMap_cons, if_pos rfl,
      hothers before (fun x hx heq => hdisjoint _ (List.mem_map_of_mem hx) _ List.mem_cons_self heq),
      hothers after (fun x hx heq => hafter.1 (heq ▸ List.mem_map_of_mem hx))]
    cases w.keep (k r) <;> rfl
  unfold Config.rests
  rw [hmove, hlive]
  refine ⟨((w.keep (k r)).toList.map Worker.rest : List _), w.rest, ?_, ?_⟩
  · intro p hp
    rw [Multiset.mem_coe, List.mem_map] at hp
    obtain ⟨y, hy, rfl⟩ := hp
    rw [Option.mem_toList] at hy
    obtain ⟨rfl, -⟩ := Worker.keep_eq_some hy
    exact ⟨o, k, r, hk, rfl⟩
  · simp only [List.map_append, List.map_cons, ← Multiset.coe_add, ← Multiset.cons_coe, ← Multiset.singleton_add]
    ac_rfl

/-- When workers that are left can always make a call, they can be carried to their end. -/
theorem completes {ok : M.Choice → Prop} {I : M.Config → Prop} (hids : ∀ cfg, I cfg → (cfg.live.map Worker.id).Nodup)
    (hkeeps : ∀ cfg cfg', I cfg → Goes ok cfg cfg' → I cfg') (hgoes : ∀ cfg, I cfg → cfg.live ≠ [] → ∃ cfg', Goes ok cfg cfg')
    {cfg : M.Config} (h : I cfg) : ∃ cfg', Relation.ReflTransGen (Goes ok) cfg cfg' ∧ cfg'.live = [] := by
  have hwf : WellFounded (Relation.CutExpand (Prog.Rest : Prog M.sig M.Reply → Prog M.sig M.Reply → Prop)) :=
    Prog.rest_wellFounded.cutExpand
  suffices hall : ∀ rests : Multiset (Prog M.sig M.Reply), ∀ cfg, cfg.rests = rests → I cfg →
      ∃ cfg', Relation.ReflTransGen (Goes ok) cfg cfg' ∧ cfg'.live = [] from hall _ cfg rfl h
  intro rests
  induction rests using hwf.induction with
  | _ rests ih =>
    rintro cfg rfl hcfg
    by_cases hlive : cfg.live = []
    · exact ⟨cfg, .refl, hlive⟩
    · obtain ⟨cfg₁, hstep⟩ := hgoes cfg hcfg hlive
      obtain ⟨cfg', hrun, hend⟩ := ih _ (hstep.smaller (hids cfg hcfg)) cfg₁ rfl (hkeeps cfg cfg₁ hcfg hstep)
      exact ⟨cfg', .head hstep hrun, hend⟩

end Machine

end Archisynapse
