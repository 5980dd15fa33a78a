import Archisynapse.Lemmas.RoyaltyMoney
import Archisynapse.Lemmas.RoyaltyPrograms

/-!
# What runs of the royalty service keep

The writes of the programs are the service's transactions (`program_proper`); along a run obligations only move on
(`history_later`); the ledger gains one transaction at a time, and a reversal only by a request for one (`exec_posts`).
-/

namespace Archisynapse

namespace Royalty

open Payments (column positive)

/-! ## Transactions -/

/-- A call of the service: what it commits is one of the service's transactions. -/
def Action.Proper : Action → Prop
  | .sql (.commit ws) => Commits ws
  | _ => True

theorem Action.Calm.proper {o : Action} (h : o.Calm) : o.Proper := by
  cases o with
  | ledger asked q => exact trivial
  | sql o =>
    cases o with
    | commit ws =>
      cases h
      exact .nothing
    | _ => exact trivial

theorem Action.IsLedger.proper {o : Action} (h : o.IsLedger) : o.Proper := by
  cases o with
  | ledger asked q => exact trivial
  | sql o => exact h.elim

/-- A program all of whose commits are the service's. -/
def Proper {α : Type} (p : Program α) : Prop := p.Calls Action.Proper

section

variable {α : Type}

theorem proper_query {o : Statement} (h : Action.Proper (.sql o)) : Proper (query o) := Prog.calls_perform h

theorem proper_orRollback {body : Program α} (h : Proper body) : Proper (orRollback body) := by
  refine Prog.calls_tryCatch h (fun e => Prog.calls_bind (Prog.calls_tryCatch (proper_query trivial) ?_) (fun _ => Prog.calls_throw e))
  exact fun _ => Prog.calls_pure ()

theorem proper_compute (gross : ℚ) (splits : List RoyaltySplit) : Proper (compute gross splits) := by
  unfold compute
  split
  · exact Prog.calls_pure _
  · exact Prog.calls_throw _

theorem proper_refuse (name : ErrorName) (message : String) : Proper (do query .rollback; fault name message : Program α) :=
  Prog.calls_bind (proper_query trivial) (fun _ => Prog.calls_throw _)

theorem proper_loadObligation (id : Uuid) : Proper (loadObligation id) :=
  (calm_loadObligation id).mono (fun _ h => h.proper)

theorem proper_carryOut (req : CreateRoyaltyObligationRequest) : Proper (carryOut req) := by
  unfold carryOut
  split
  · exact Prog.calls_pure _
  · exact Prog.calls_bind ((calls_postHold _ _ _ _).mono (fun _ h => h.proper)) (fun _ => Prog.calls_pure _)
  · refine Prog.calls_bind (proper_compute _ _) (fun payouts => ?_)
    exact Prog.calls_bind ((calls_postAllow _ _ _ _ _).mono (fun _ h => h.proper)) (fun _ => Prog.calls_pure _)

theorem proper_createObligation (uuid : Nat → Uuid) (req : CreateRoyaltyObligationRequest) :
    Proper (createObligation uuid req) := by
  refine Prog.calls_bind (proper_query trivial) (fun _ => Prog.calls_bind (proper_query trivial) (fun found => ?_))
  cases found with
  | some row => exact Prog.calls_ite (Prog.calls_throw _) (proper_loadObligation _)
  | none =>
    refine Prog.calls_bind (proper_carryOut req) (fun a => Prog.calls_bind ?_ (fun _ => proper_loadObligation _))
    refine Prog.calls_tryCatch (proper_query (.create _ _ _ _ _ _)) (fun e => ?_)
    exact Prog.calls_bind (proper_query trivial) (fun _ => Prog.calls_throw e)

theorem proper_releaseObligation (uuid : Nat → Uuid) (eventId key : String) : Proper (releaseObligation uuid eventId key) := by
  refine Prog.calls_bind (proper_query trivial) (fun _ => proper_orRollback ?_)
  refine Prog.calls_bind (proper_query trivial) (fun found => ?_)
  cases found with
  | none => exact proper_refuse _ _
  | some row =>
    refine Prog.calls_ite (Prog.calls_bind (proper_query .nothing) (fun _ => proper_loadObligation _)) ?_
    refine Prog.calls_ite (proper_refuse _ _) (Prog.calls_bind (proper_compute _ _) (fun payouts => ?_))
    refine Prog.calls_bind ((calls_postRelease _ _ _ _ _).mono (fun _ h => h.proper)) (fun t => ?_)
    exact Prog.calls_bind (proper_query (.release _ _ _ _)) (fun _ => proper_loadObligation _)

theorem proper_reverseObligation (uuid : Nat → Uuid) (reversedEventId reversalEventId key reason : String) :
    Proper (reverseObligation uuid reversedEventId reversalEventId key reason) := by
  refine Prog.calls_bind (proper_query trivial) (fun _ => proper_orRollback ?_)
  refine Prog.calls_bind (proper_query trivial) (fun found => ?_)
  cases found with
  | some existing =>
    refine Prog.calls_bind (proper_query trivial) (fun row => Prog.calls_bind (proper_query .nothing) (fun _ => ?_))
    cases row with
    | none => exact Prog.calls_throw _
    | some row => exact Prog.calls_bind (proper_loadObligation _) (fun _ => Prog.calls_pure _)
  | none =>
    refine Prog.calls_bind (proper_query trivial) (fun found => ?_)
    cases found with
    | none => exact proper_refuse _ _
    | some row =>
      refine Prog.calls_ite (proper_refuse _ _) ?_
      split
      · exact proper_refuse _ _
      · refine Prog.calls_bind (Prog.calls_bind (Prog.calls_perform trivial) (fun _ => Prog.calls_pure _)) (fun t => ?_)
        refine Prog.calls_bind (proper_query (.reverse _ _ _ _ _)) (fun _ => ?_)
        exact Prog.calls_bind (proper_loadObligation _) (fun _ => Prog.calls_pure _)

end

/-- Every program commits the service's transactions. -/
theorem program_proper (c : Call) : Proper (Call.program c) := by
  cases c with
  | createObligation uuid req => exact Prog.calls_bind (proper_createObligation _ _) (fun _ => Prog.calls_pure _)
  | releaseObligation uuid eventId key => exact Prog.calls_bind (proper_releaseObligation _ _ _) (fun _ => Prog.calls_pure _)
  | reverseObligation uuid reversedEventId reversalEventId key reason =>
    exact Prog.calls_bind (proper_reverseObligation _ _ _ _ _) (fun _ => Prog.calls_pure _)
  | getObligationByEventId eventId =>
    exact Prog.calls_bind ((calm_getObligationByEventId eventId).mono (fun _ h => h.proper)) (fun _ => Prog.calls_pure _)

/-! ## Histories -/

/-- Every obligation of a state is there later on. -/
def Moves (s s' : World) : Prop := ∀ id, (s.db.record id).Later (s'.db.record id)

/-- The states of a run, in their order. -/
def Trace.states (s : Trace) : List World := s.2.map (·.before) ++ [s.1]

/-- What a call adds to a run. -/
theorem traced_exec {w : Nat} {o : Action} {ch : Choice} {s s' : Trace} {r : Except RoyaltyError o.Result}
    (h : machine.traced.exec w o ch s = some (r, s')) :
    exec w o ch s.1 = some (r, s'.1) ∧ s' = (s'.1, s.2 ++ [⟨w, o, r, s.1⟩]) := by
  obtain ⟨⟨r', x⟩, he, heq⟩ := Option.map_eq_some_iff.1 h
  cases heq
  exact ⟨he, rfl⟩

/-- The states of a run after a call. -/
theorem states_after {w : Nat} {o : Action} {ch : Choice} {s s' : Trace} {r : Except RoyaltyError o.Result}
    (h : machine.traced.exec w o ch s = some (r, s')) : Trace.states s' = Trace.states s ++ [s'.1] := by
  obtain ⟨-, hs'⟩ := traced_exec h
  rw [hs']
  simp [Trace.states]

/-- A relation along a run: it holds of every call's states and is transitive. -/
theorem states_pairwise {R : World → World → Prop} (htrans : ∀ a b c, R a b → R b c → R a c) {s s' : Trace}
    (hs : (Trace.states s).Pairwise R) (hstates : Trace.states s' = Trace.states s ++ [s'.1]) (hstep : R s.1 s'.1) :
    (Trace.states s').Pairwise R := by
  rw [hstates, List.pairwise_append]
  refine ⟨hs, List.pairwise_singleton _ _, fun a ha b hb => ?_⟩
  obtain rfl := List.mem_singleton.1 hb
  unfold Trace.states at ha hs
  rcases List.mem_append.1 ha with ha | ha
  · exact htrans _ _ _ ((List.pairwise_append.1 hs).2.2 a ha s.1 (List.mem_singleton_self _)) hstep
  · obtain rfl := List.mem_singleton.1 ha
    exact hstep

/-- A crash changes no state that `R` looks at. -/
theorem states_crash {R : World → World → Prop} (hR : ∀ a b b', b'.store.tables = b.store.tables → R a b → R a b') {s : Trace} {w : Nat}
    (hs : (Trace.states s).Pairwise R) : (Trace.states (machine.traced.crash w s)).Pairwise R := by
  unfold Trace.states at hs ⊢
  rw [List.pairwise_append] at hs ⊢
  refine ⟨hs.1, List.pairwise_singleton _ _, fun a ha b hb => ?_⟩
  obtain rfl := List.mem_singleton.1 hb
  exact hR a s.1 _ rfl (hs.2.2 a ha s.1 (List.mem_singleton_self _))

/-- Every state of a run is in order. -/
theorem history_sound {keyed : Prop} {C : machine.traced.Cond} (hsound : (outline keyed).Sound C) {cfg : machine.traced.Config}
    (hrun : machine.traced.Run C (.init _ (World.empty, [])) cfg) : ∀ x ∈ Trace.states cfg.state, Sound x := by
  have hinit : (outline keyed).inv (World.empty, []) := sound_empty
  have hlog : ∀ e ∈ cfg.state.2, Sound e.before := by
    refine hsound.keeps_calls (A := Action.Proper) (J := fun s => ∀ e ∈ s.2, Sound e.before) program_proper ?_ ?_ hinit ?_ hrun
    · intro w c o ch s r s' _ _ hinv _ hs he
      obtain ⟨-, hs'⟩ := traced_exec he
      rw [hs']
      intro e hmem
      rcases List.mem_append.1 hmem with hmem | hmem
      · exact hs e hmem
      · obtain rfl := List.mem_singleton.1 hmem
        exact hinv
    · exact fun w s _ hs => hs
    · exact fun e he => by cases he
  intro x hx
  rcases List.mem_append.1 hx with hx | hx
  · obtain ⟨e, he, rfl⟩ := List.mem_map.1 hx
    exact hlog e he
  · obtain rfl := List.mem_singleton.1 hx
    exact Machine.Outline.run_inv hsound hinit hrun

/-- Along every run obligations only move on. -/
theorem history_later {keyed : Prop} {C : machine.traced.Cond} (hsound : (outline keyed).Sound C) {cfg : machine.traced.Config}
    (hrun : machine.traced.Run C (.init _ (World.empty, [])) cfg) : (Trace.states cfg.state).Pairwise Moves := by
  have hinit : (outline keyed).inv (World.empty, []) := sound_empty
  refine hsound.keeps_calls (A := Action.Proper) (J := fun s => (Trace.states s).Pairwise Moves) program_proper ?_ ?_ hinit ?_ hrun
  · intro w c o ch s r s' _ _ _ hguar hs he
    refine states_pairwise (fun _ _ _ h h' id => (h id).trans (h' id)) hs (states_after he) ?_
    exact (hguar.steady (w + 1) (by omega)).later
  · intro w s _ hs
    refine states_crash (fun a b b' hb h id => ?_) hs
    rw [show b'.db = b.db from hb]
    exact h id
  · exact List.pairwise_singleton _ _

/-! ## The ledger -/

/-- What a call adds to the ledger's transactions. -/
theorem exec_posts {w : Nat} {o : Action} {ch : Choice} {x x' : World} {r : Except RoyaltyError o.Result}
    (hs : Sound x) (h : exec w o ch x = some (r, x')) :
    x'.ledger.posts = x.ledger.posts ∨ (∃ p, x'.ledger.posts = x.ledger.posts ++ [p] ∧ p.reverses = none) ∨
      ∃ p asked organizationId t reason u, x'.ledger.posts = x.ledger.posts ++ [p] ∧ p.reverses = some u ∧
        o = .ledger asked (.reverse organizationId t reason) ∧ t.value = some u := by
  cases o with
  | sql o => exact Or.inl (congrArg Ledger.Tables.posts (exec_sql h).1)
  | ledger asked q =>
    rcases exec_ledger h with ⟨rfl, -⟩ | ⟨-, a, hserve, -⟩
    · exact Or.inl rfl
    · cases q with
      | listAccounts organizationId =>
        rw [(Ledger.serve_listAccounts hserve).1]
        exact Or.inl rfl
      | createAccount organizationId code name type currency =>
        obtain ⟨rows, hd, -⟩ := Ledger.serve_createAccount hs.books hs.balances hserve
        rw [hd]
        exact Or.inl rfl
      | postTransaction req =>
        rcases Ledger.serve_post hs.books hs.balances hserve with ⟨-, hd⟩ | ⟨t, -, hd, -⟩ | ⟨t, row, rows, responses, -, hadds, -, hposts⟩
        · rw [hd]
          exact Or.inl rfl
        · rw [hd]
          exact Or.inl rfl
        · exact Or.inr (Or.inl ⟨_, hadds.posts, hposts.rowed.reverses⟩)
      | reverse organizationId t reason =>
        rcases Ledger.serve_reverse hs.books hs.balances hserve with ⟨-, hd⟩ | ⟨t', row, rows, -, hadds, -, u, hu, hrev⟩
        · rw [hd]
          exact Or.inl rfl
        · exact Or.inr (Or.inr ⟨_, asked, organizationId, t, reason, u, hadds.posts, hrev, rfl, hu⟩)

end Royalty

end Archisynapse
