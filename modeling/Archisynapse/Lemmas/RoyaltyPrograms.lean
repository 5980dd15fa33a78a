import Archisynapse.Lemmas.RoyaltyRuns

/-!
# The programs of the royalty service

Each program of the service keeps its contract (`program_wp`), so the outline of runs is sound (`outline_sound`).
-/

namespace Archisynapse

namespace Royalty

open Payments (column)

section

variable {C : machine.traced.Cond} {keyed : Prop} {w : Nat} {c : Call} {s : Trace} {α β : Type} {ch : Choice} {x x' : World}

/-! ## Answers -/

/-- A statement that was answered. -/
theorem exec_sql_ok {o : Statement} {a : o.Result} (h : exec w (.sql o) ch x = some (.ok a, x')) :
    x.store.perform w ch.order o = some (.ok a, x'.store) := by
  obtain ⟨-, ⟨q, hq, ha⟩ | ⟨⟨e, he⟩, -⟩⟩ := exec_sql h
  · rw [ha a rfl] at hq
    exact hq
  · cases he

/-- A statement fails with an error of the database. -/
theorem exec_sql_error {o : Statement} {e : RoyaltyError} (h : exec w (.sql o) ch x = some (.error e, x')) :
    ∃ reason, e = .database reason := by
  rcases exec_cases h with h | ⟨h, -⟩ | ⟨h, -⟩
  · obtain ⟨⟨q, st⟩, -, he⟩ := Option.map_eq_some_iff.1 h
    obtain ⟨hq, -⟩ := Prod.mk.inj he
    cases q with
    | ok a => cases hq
    | error reason =>
      cases hq
      exact ⟨reason, rfl⟩
  · cases h
    exact ⟨_, rfl⟩
  · cases h
    exact ⟨_, rfl⟩

/-! ## The ledger client -/

theorem calls_ensureAccount (organizationId code name : String) (type : AccountType) :
    (ensureAccount organizationId code name type).Calls Action.IsLedger := by
  refine Prog.calls_bind (Prog.calls_perform trivial) (fun existing => ?_)
  split
  · exact Prog.calls_pure _
  · exact Prog.calls_bind (Prog.calls_perform trivial) (fun _ => Prog.calls_pure _)

theorem calls_payableEntries (organizationId eventId suffix : String) (payouts : List Payout) :
    (payableEntries organizationId eventId suffix payouts).Calls Action.IsLedger := by
  induction payouts with
  | nil => exact Prog.calls_pure _
  | cons payout payouts ih =>
    refine Prog.calls_bind (calls_ensureAccount _ _ _ _) (fun account => ?_)
    exact Prog.calls_bind ih (fun _ => Prog.calls_pure _)

theorem calls_postTransaction (req : PostTransactionRequest) : (postTransaction req).Calls Action.IsLedger :=
  Prog.calls_bind (Prog.calls_perform trivial) (fun _ => Prog.calls_pure _)

theorem calls_postAllow (organizationId eventId idempotencyKey : String) (gross : ℚ) (payouts : List Payout) :
    (postAllow organizationId eventId idempotencyKey gross payouts).Calls Action.IsLedger := by
  refine Prog.calls_bind (calls_ensureAccount _ _ _ _) (fun expense => ?_)
  exact Prog.calls_bind (calls_payableEntries _ _ _ _) (fun payable => calls_postTransaction _)

theorem calls_postHold (organizationId eventId idempotencyKey : String) (gross : ℚ) :
    (postHold organizationId eventId idempotencyKey gross).Calls Action.IsLedger := by
  refine Prog.calls_bind (calls_ensureAccount _ _ _ _) (fun expense => ?_)
  exact Prog.calls_bind (calls_ensureAccount _ _ _ _) (fun held => calls_postTransaction _)

theorem calls_postRelease (organizationId eventId idempotencyKey : String) (gross : ℚ) (payouts : List Payout) :
    (postRelease organizationId eventId idempotencyKey gross payouts).Calls Action.IsLedger := by
  refine Prog.calls_bind (calls_ensureAccount _ _ _ _) (fun held => ?_)
  exact Prog.calls_bind (calls_payableEntries _ _ _ _) (fun payable => calls_postTransaction _)

/-- A reversal of the ledger that was answered is there. -/
theorem postReversal_wp {t : Uuid} {organizationId reason : String} {Q : Except RoyaltyError Uuid → Trace → Prop}
    (hok : ∀ id s', Rely keyed w c s s' → (∃ p ∈ s'.1.ledger.posts, p.id = id ∧ p.reverses = some t) → Q (.ok id) s')
    (herror : ∀ e s', Rely keyed w c s s' → Q (.error e) s') :
    (postReversal t organizationId reason).wp (Does C w) (contract keyed w c) Q s := by
  refine (Prog.wp_bind _ _ _).2 (call_wp (fun s₁ hrely hs ch r x he => ?_))
  obtain ⟨hgood, hstore⟩ := Good.ledger (c := c) hs he
  have hdb : x.db = s₁.1.db := congrArg Store.tables hstore
  have hrely' : Rely keyed w c s (after w _ r s₁ x) :=
    hrely.trans ⟨(hs.ledger he).2 w, after_log w _ r s₁ x, fun _ => unclaimed_of_eq hdb⟩
  refine ⟨hgood, ?_⟩
  cases r with
  | error e => exact herror e _ hrely'
  | ok transaction =>
    refine hok transaction.id _ hrely' ?_
    rcases exec_ledger he with ⟨-, e, he'⟩ | ⟨-, a, hserve, ha⟩
    · cases he'
    · rw [ha transaction rfl] at hserve
      rcases Ledger.serve_reverse hs.books hs.balances hserve with ⟨⟨e, he'⟩, -⟩ | ⟨transaction', row, rows, htr, hadds, hid, original, horiginal, hrev⟩
      · cases he'
      · cases htr
        cases horiginal
        refine ⟨Ledger.post row, ?_, hid.symm, hrev⟩
        rw [hadds.posts]
        exact List.mem_append_right _ (List.mem_singleton_self _)

/-! ## Obligations -/

/-- A stored obligation stays. -/
theorem Onward.row {s s' : Trace} (h : Onward keyed c s s') {id : Uuid} (hrow : ∃ o, (s.1.db.record id).rows = [o]) :
    ∃ o, (s'.1.db.record id).rows = [o] := by
  obtain ⟨o, ho⟩ := hrow
  obtain ⟨o', ho', -⟩ := (h.later id).rows o ho
  exact ⟨o', ho'⟩

/-- The row that is found under an id. -/
theorem selectObligation_found {id : Uuid} {found : Option ObligationRow} (hrow : ∃ o, (x.db.record id).rows = [o])
    (h : exec w (.sql (.selectObligation id)) ch x = some (.ok found, x')) : ∃ row, found = some row ∧ row.id = id := by
  have hq := exec_sql_ok h
  simp only [Store.perform, Option.some.injEq, Prod.mk.injEq, Except.ok.injEq] at hq
  obtain ⟨hfound, -⟩ := hq
  obtain ⟨o, ho⟩ := hrow
  obtain ⟨hmem, hid⟩ := mem_record_rows.1 (ho ▸ List.mem_singleton_self o)
  cases hf : found with
  | none =>
    rw [hf, List.find?_eq_none] at hfound
    exact absurd (decide_eq_true hid) (hfound o hmem)
  | some row =>
    rw [hf] at hfound
    exact ⟨row, rfl, by simpa using List.find?_some hfound⟩

/-- Loading a stored obligation. -/
theorem loadObligation_wp {id : Uuid} (hrow : ∃ o, (s.1.db.record id).rows = [o])
    {Q : Except RoyaltyError RoyaltyObligation → Trace → Prop}
    (hok : ∀ a s', a.id = id → Onward keyed c s s' → Q (.ok a) s')
    (herror : ∀ e s', Onward keyed c s s' → Q (.error (.database e)) s') :
    (loadObligation id).wp (Does C w) (contract keyed w c) Q s := by
  refine (Prog.wp_bind _ _ _).2 (reads_wp (o := .selectObligation id) trivial (fun s₁ hrely hs ch r x he honward => ?_))
  cases r with
  | error e =>
    obtain ⟨reason, rfl⟩ := exec_sql_error he
    exact herror reason _ honward
  | ok found =>
    obtain ⟨row, rfl, hid⟩ := selectObligation_found (hrely.onward.row hrow) he
    refine (Prog.wp_bind _ _ _).2 (reads_wp (o := .selectPayouts id) trivial (fun s₂ _ _ ch r x' he' honward' => ?_))
    cases r with
    | error e =>
      obtain ⟨reason, rfl⟩ := exec_sql_error he'
      exact herror reason _ (honward.trans honward')
    | ok payouts => exact hok _ _ hid (honward.trans honward')

/-- A write and its commit, with what fails rolled back. -/
theorem commit_wp {ws : List Write} {Q : Except RoyaltyError Unit → Trace → Prop}
    (hgood : ∀ s₁, Rely keyed w c s s₁ → Sound s₁.1 → ∀ ch r x, exec w (.sql (.commit ws)) ch s₁.1 = some (r, x) →
      Good w c s₁.1 x) (hok : ∀ s', Q (.ok ()) s') (herror : ∀ e s', Q (.error e) s') :
    (commit ws).wp (Does C w) (contract keyed w c) Q s := by
  refine (Prog.wp_tryCatch _ _ _).2 (call_wp (fun s₁ hrely hs ch r x he => ⟨hgood s₁ hrely hs ch r x he, ?_⟩))
  cases r with
  | ok u => exact hok _
  | error e =>
    refine (Prog.wp_bind _ _ _).2 (reads_onward (o := .rollback) trivial (fun r s' _ => ?_))
    cases r with
    | ok u => exact herror e s'
    | error e' => exact herror e' s'

/-- The decision carried out. -/
theorem carryOut_wp {req : CreateRoyaltyObligationRequest} {Q : Except RoyaltyError (RoyaltyStatus × Option Uuid × List Payout) → Trace → Prop}
    (hok : ∀ status t payouts s', Carried req status t payouts → Q (.ok (status, t, payouts)) s')
    (herror : ∀ e s', Q (.error e) s') : (carryOut req).wp (Does C w) (contract keyed w c) Q s := by
  unfold carryOut
  split
  · exact hok .blocked none [] s ⟨rfl, rfl⟩
  · refine (Prog.wp_bind _ _ _).2 (ledger_wp (calls_postHold _ _ _ _) (fun r s' _ => ?_))
    cases r with
    | error e => exact herror e s'
    | ok id => exact hok .held (some id) [] s' rfl
  · refine (Prog.wp_bind _ _ _).2 ?_
    unfold compute
    split
    · rename_i payouts hpayouts
      refine (Prog.wp_bind _ _ _).2 (ledger_wp (calls_postAllow _ _ _ _ _) (fun r s' _ => ?_))
      cases r with
      | error e => exact herror e s'
      | ok id => exact hok .posted (some id) payouts s' hpayouts
    · exact herror _ s

theorem calm_loadObligation (id : Uuid) : (loadObligation id).Calls Action.Calm := by
  refine Prog.calls_bind (Prog.calls_perform trivial) (fun found => ?_)
  refine Prog.calls_bind (Prog.calls_perform trivial) (fun payouts => ?_)
  cases found with
  | none => exact Prog.calls_throw _
  | some row => exact Prog.calls_pure _

/-- A program that goes on whatever its first call answers, and ends with an error of it. -/
theorem reads_bind_wp {o : Statement} (ho : o.Reads) {f : o.Result → Program α} {Q : Except RoyaltyError α → Trace → Prop}
    (herror : ∀ e s', Onward keyed c s s' → Q (.error (.database e)) s')
    (hf : ∀ s₁, Rely keyed w c s s₁ → Sound s₁.1 → ∀ ch a x, exec w (.sql o) ch s₁.1 = some (.ok a, x) →
      Onward keyed c s (after w (.sql o) (.ok a) s₁ x) → (f a).wp (Does C w) (contract keyed w c) Q (after w (.sql o) (.ok a) s₁ x)) :
    (query o >>= f).wp (Does C w) (contract keyed w c) Q s := by
  refine (Prog.wp_bind _ _ _).2 (reads_wp ho (fun s₁ hrely hs ch r x he honward => ?_))
  cases r with
  | error e =>
    obtain ⟨reason, rfl⟩ := exec_sql_error he
    exact herror reason _ honward
  | ok a => exact hf s₁ hrely hs ch a x he honward

theorem createObligation_wp {uuid : Nat → Uuid} {req : CreateRoyaltyObligationRequest} :
    (createObligation uuid req).wp (Does C w) (contract keyed w c) (fun _ _ => True) s := by
  refine reads_bind_wp (o := .connect) trivial (fun _ _ _ => trivial) (fun s₁ _ _ ch a x _ _ => ?_)
  refine reads_bind_wp (o := .selectByKey req.idempotencyKey) trivial (fun _ _ _ => trivial) (fun s₂ _ _ ch found x _ _ => ?_)
  cases found with
  | some row =>
    dsimp only
    split
    · exact trivial
    · exact calm_wp (calm_loadObligation row.id) (fun _ _ _ => trivial)
  | none =>
    refine (Prog.wp_bind _ _ _).2 (carryOut_wp (fun status t payouts s' hcarried => ?_) (fun _ _ => trivial))
    refine (Prog.wp_bind _ _ _).2 (commit_wp (fun s₃ _ hs ch r x he => Good.create hs hcarried he) (fun s'' => ?_) (fun _ _ => trivial))
    exact calm_wp (calm_loadObligation (uuid 0)) (fun _ _ _ => trivial)

/-! ## Release -/

/-- The first of several rows is one of them. -/
theorem mem_of_firstOf {order : Nat} {rows : List α} {a : α} (h : firstOf order rows = some a) : a ∈ rows :=
  List.mem_of_getElem? h

/-- The row a worker locked. -/
theorem lockByEvent_found {eventId : String} {row : ObligationRow} (hs : Sound x)
    (h : exec w (.sql (.lockByEvent eventId)) ch x = some (.ok (some row), x')) :
    x'.db = x.db ∧ row.eventId = eventId ∧ (w, row.id) ∈ x'.store.locks ∧ (x'.db.record row.id).rows = [row] := by
  obtain ⟨hfirst, hst⟩ := perform_lockByEvent (exec_sql_ok h)
  have hmem := mem_of_firstOf (Except.ok.inj hfirst).symm
  obtain ⟨hrow, hevent⟩ := List.mem_filter.1 hmem
  have hdb : x'.db = x.db := by
    change x'.store.tables = x.store.tables
    rw [hst]
    rfl
  refine ⟨hdb, by simpa using hevent, ?_, ?_⟩
  · rw [hst]
    exact List.mem_append_right _ (List.mem_map_of_mem hmem)
  · rw [hdb]
    exact (hs.row hrow).1

/-- What a release returned with. -/
def Released (w : Nat) (eventId : String) (out : Except RoyaltyError RoyaltyObligation) (s : Trace) : Prop :=
  ∀ a, out = .ok a → ∃ row, Found s w eventId row ∧ (row.status = .held ∨ row.status = .posted) ∧ a.id = row.id ∧
    ∃ o, (s.1.db.record row.id).rows = [o] ∧ (o.status = .posted ∨ o.status = .reversed)

theorem Found.onward {s s' : Trace} {eventId : String} {row : ObligationRow} (h : Found s w eventId row)
    (hs : Onward keyed c s s') : Found s' w eventId row := by
  obtain ⟨before, hmem⟩ := h
  exact ⟨before, hs.log.subset hmem⟩

/-- An obligation that is POSTED or REVERSED stays so. -/
theorem Onward.posted {s s' : Trace} (h : Onward keyed c s s') {id : Uuid} {o : ObligationRow}
    (ho : (s.1.db.record id).rows = [o]) (hst : o.status = .posted ∨ o.status = .reversed) :
    ∃ o', (s'.1.db.record id).rows = [o'] ∧ (o'.status = .posted ∨ o'.status = .reversed) := by
  obtain ⟨o', ho', hl⟩ := (h.later id).rows o ho
  refine ⟨o', ho', ?_⟩
  rcases hl.follows with h | ⟨h, -⟩ | ⟨-, h⟩
  · rw [← h]
    exact hst
  · rw [h] at hst
    rcases hst with hst | hst <;> cases hst
  · exact Or.inr h

/-- The answer of a release whose row is POSTED. -/
theorem loadReleased_wp {eventId : String} {row o : ObligationRow} (hfound : Found s w eventId row)
    (hstatus : row.status = .held ∨ row.status = .posted) (ho : (s.1.db.record row.id).rows = [o])
    (hposted : o.status = .posted ∨ o.status = .reversed) :
    (loadObligation row.id).wp (Does C w) (contract keyed w c) (Released w eventId) s := by
  refine loadObligation_wp ⟨o, ho⟩ (fun a s' hid honward => ?_) (fun _ _ _ => nofun)
  intro a' ha'
  cases ha'
  exact ⟨row, hfound.onward honward, hstatus, hid, honward.posted ho hposted⟩

theorem releaseObligation_wp {uuid : Nat → Uuid} {eventId key : String} :
    (releaseObligation uuid eventId key).wp (Does C w) (contract keyed w c) (Released w eventId) s := by
  refine reads_bind_wp (o := .connect) trivial (fun _ _ _ => nofun) (fun s₁ _ _ ch a x _ _ => ?_)
  refine orRollback_wp (F := Released w eventId) ?_ (fun _ _ h => h) (fun _ _ _ _ _ => nofun)
  refine reads_bind_wp (o := .lockByEvent eventId) trivial (fun _ _ _ => nofun) (fun s₂ _ hs₂ ch found x he _ => ?_)
  cases found with
  | none => exact reads_bind_wp (o := .rollback) trivial (fun _ _ _ => nofun) (fun _ _ _ _ _ _ _ _ => nofun)
  | some row =>
    obtain ⟨hdb, hevent, hlock, hrow⟩ := lockByEvent_found hs₂ he
    have hfound : Found (after w (.sql (.lockByEvent eventId)) (.ok (some row)) s₂ x) w eventId row :=
      ⟨s₂.1, List.mem_append_right _ (List.mem_singleton_self _)⟩
    dsimp only
    split
    · rename_i hposted
      refine reads_bind_wp (o := .commit []) rfl (fun _ _ _ => nofun) (fun s₃ _ _ ch u x' he' honward => ?_)
      obtain ⟨o, ho, hst⟩ := honward.posted hrow (Or.inl hposted)
      exact loadReleased_wp (hfound.onward honward) (Or.inr hposted) ho hst
    · split
      · exact reads_bind_wp (o := .rollback) trivial (fun _ _ _ => nofun) (fun _ _ _ _ _ _ _ _ => nofun)
      · rename_i hheld
        have hheld : row.status = .held := by simpa using hheld
        refine (Prog.wp_bind _ _ _).2 ?_
        unfold compute
        split
        · rename_i shares hshares
          refine (Prog.wp_bind _ _ _).2 (ledger_wp (calls_postRelease _ _ _ _ _) (fun r s₃ hrely₃ => ?_))
          cases r with
          | error e => exact nofun
          | ok t =>
            refine (Prog.wp_bind _ _ _).2 (call_wp (fun s₄ hrely₄ hs₄ ch r x' he' => ?_))
            have hkept := (hrely₃.trans hrely₄).steady.locks row.id hlock
            have hrow₄ : (s₄.1.db.record row.id).rows = [row] := (congrArg Record.rows hkept.2).trans hrow
            obtain ⟨hgood, hposted⟩ := Good.release hs₄ hrow₄ hheld hshares he'
            refine ⟨hgood, ?_⟩
            cases r with
            | error e => exact nofun
            | ok u =>
              refine loadReleased_wp ?_ (Or.inl hheld) (hposted rfl) (Or.inl rfl)
              obtain ⟨before, hmem⟩ := hfound
              exact ⟨before, List.mem_append_left _ ((hrely₃.trans hrely₄).log.subset hmem)⟩
        · exact nofun

/-! ## Reversal -/

/-- What a reversal ended with. -/
def Reversed (eventId key : String) (out : Except RoyaltyError (RoyaltyObligation × Bool)) (s : Trace) : Prop :=
  (∀ r ∈ s.1.db.reversals, r.reversalIdempotencyKey = key →
    (∃ a, out = .ok a ∧ a.1.id = r.reversedObligationId) ∨ ∃ e, out = .error (.database e)) ∧
  ∀ a, out = .ok a → ∃ r ∈ s.1.db.reversals, r.reversalIdempotencyKey = key ∧ a.1.id = r.reversedObligationId ∧
    OfEvent s.1 r eventId

/-- No reversal has a key. -/
def Absent (key : String) (s : Trace) : Prop := ∀ r ∈ s.1.db.reversals, r.reversalIdempotencyKey ≠ key

variable {eventId key : String}

theorem Absent.onward {s s' : Trace} (hk : keyed) (hc : c.reversalKey = some key) (h : Absent key s)
    (hs : Onward keyed c s s') : Absent key s' := fun r hr hkey => h r (hs.unclaimed hk key hc r hr hkey) hkey

theorem OfEvent.onward {s s' : Trace} {r : ReversalRow} (h : OfEvent s.1 r eventId) (hs : Onward keyed c s s') :
    OfEvent s'.1 r eventId := by
  obtain ⟨o, ho, hevent⟩ := h
  obtain ⟨o', ho', hl⟩ := (hs.later r.reversedObligationId).rows o ho
  refine ⟨o', ho', ?_⟩
  have hsame := congrArg ObligationRow.eventId hl.same
  exact hsame.trans hevent

/-- A stored reversal stays. -/
theorem Onward.reversal {s s' : Trace} (h : Onward keyed c s s') {r : ReversalRow} (hr : r ∈ s.1.db.reversals) :
    r ∈ s'.1.db.reversals := by
  have hmem : r ∈ (s.1.db.record r.reversedObligationId).reversals := List.mem_filter.2 ⟨hr, by simp⟩
  exact (List.mem_filter.1 ((h.later _).reversals r hmem)).1

/-- A failed call of the database. -/
theorem reversed_database (e : DatabaseError) (s : Trace) : Reversed eventId key (.error (.database e)) s :=
  ⟨fun _ _ _ => Or.inr ⟨e, rfl⟩, nofun⟩

/-- An error while no reversal has the key. -/
theorem Absent.reversed {s : Trace} (h : Absent key s) (e : RoyaltyError) : Reversed eventId key (.error e) s :=
  ⟨fun r hr hkey => absurd hkey (h r hr), nofun⟩

/-- The obligation of the only reversal with the key. -/
theorem reversed_ok {s : Trace} {r : ReversalRow} {a : RoyaltyObligation × Bool} (hr : r ∈ s.1.db.reversals)
    (hkey : r.reversalIdempotencyKey = key) (honly : ∀ r' ∈ s.1.db.reversals, r'.reversalIdempotencyKey = key → r' = r)
    (hid : a.1.id = r.reversedObligationId) (hevent : OfEvent s.1 r eventId) : Reversed eventId key (.ok a) s := by
  refine ⟨fun r' hr' hkey' => ?_, fun a' ha' => ?_⟩
  · rw [honly r' hr' hkey']
    exact Or.inl ⟨a, rfl, hid⟩
  · cases ha'
    exact ⟨r, hr, hkey, hid, hevent⟩

/-- The answer to a reversal that is stored. -/
theorem loadReversed_wp {r : ReversalRow} {id : Uuid} {replayed : Bool} (hc : c.reversalKey = some key)
    (hr : r ∈ s.1.db.reversals) (hkey : keyed → r.reversalIdempotencyKey = key)
    (honly : keyed → ∀ r' ∈ s.1.db.reversals, r'.reversalIdempotencyKey = key → r' = r)
    (hid : r.reversedObligationId = id) (hrow : ∃ o, (s.1.db.record id).rows = [o]) (hevent : keyed → OfEvent s.1 r eventId) :
    (do return (← loadObligation id, replayed) : Program (RoyaltyObligation × Bool)).wp (Does C w) (contract keyed w c)
      (fun out s => keyed → Reversed eventId key out s) s := by
  refine (Prog.wp_bind _ _ _).2 (loadObligation_wp hrow (fun a s' ha honward hk => ?_) (fun e s' _ _ => reversed_database e s'))
  refine reversed_ok (honward.reversal hr) (hkey hk) (fun r' hr' hkey' => ?_) (ha.trans hid.symm) ((hevent hk).onward honward)
  exact honly hk r' (honward.unclaimed hk key hc r' hr' hkey') hkey'

/-- The reversal found under a key. -/
theorem selectReversal_found {found : Option ReversalRow} (h : exec w (.sql (.selectReversal key)) ch x = some (.ok found, x')) :
    match found with
    | some r => r ∈ x.db.reversals ∧ r.reversalIdempotencyKey = key
    | none => ∀ r ∈ x.db.reversals, r.reversalIdempotencyKey ≠ key := by
  have hq := exec_sql_ok h
  simp only [Store.perform, Option.some.injEq, Prod.mk.injEq, Except.ok.injEq] at hq
  obtain ⟨hfound, -⟩ := hq
  cases found with
  | none =>
    rw [List.find?_eq_none] at hfound
    exact fun r hr hkey => hfound r hr (decide_eq_true hkey)
  | some r => exact ⟨List.mem_of_find?_eq_some hfound, by simpa using List.find?_some hfound⟩

/-- The obligation of a stored reversal is stored. -/
theorem Sound.reversal_row (hs : Sound x) {r : ReversalRow} (hr : r ∈ x.db.reversals) :
    ∃ o, (x.db.record r.reversedObligationId).rows = [o] := by
  have hmem : r ∈ (x.db.record r.reversedObligationId).reversals := List.mem_filter.2 ⟨hr, by simp⟩
  rcases hs.filed r.reversedObligationId with ⟨-, -, hnil⟩ | ⟨o, ho, -⟩
  · rw [hnil] at hmem
    cases hmem
  · exact ⟨o, ho⟩

/-- A refusal: the transaction is rolled back and an error is thrown. -/
theorem refuse_wp {name : ErrorName} {message : String} (hc : c.reversalKey = some key) (habsent : keyed → Absent key s) :
    (do query .rollback; fault name message : Program (RoyaltyObligation × Bool)).wp (Does C w) (contract keyed w c)
      (fun out s => keyed → Reversed eventId key out s) s := by
  refine reads_bind_wp (o := .rollback) trivial (fun e s' _ _ => reversed_database e s') (fun s₁ _ _ ch a x _ honward hk => ?_)
  exact ((habsent hk).onward hk hc honward).reversed _

/-- Nothing but reads between two states. -/
theorem Onward.of_reads {s₁ : Trace} {o : Statement} {r : Except RoyaltyError o.Result} (ho : o.Reads)
    (h : exec w (.sql o) ch s₁.1 = some (r, x)) : Onward keyed c s₁ (after w (.sql o) r s₁ x) := onward_of_eq (reads_db ho h)

/-- A reversal whose key is stored. -/
theorem replayReversal_wp {existing : ReversalRow} (hc : c.reversalKey = some key) (hmem : existing ∈ s.1.db.reversals)
    (hkey : existing.reversalIdempotencyKey = key) (hrow : ∃ o, (s.1.db.record existing.reversedObligationId).rows = [o])
    (honly : ∀ r' ∈ s.1.db.reversals, r'.reversalIdempotencyKey = key → r' = existing)
    (hevent : keyed → OfEvent s.1 existing eventId) :
    (do
      let found ← query (.selectObligation existing.reversedObligationId)
      query (.commit [])
      match found with
      | some row => return (← loadObligation row.id, true)
      | none => fault .typeError "Cannot read properties of undefined (reading 'id')" :
      Program (RoyaltyObligation × Bool)).wp (Does C w) (contract keyed w c) (fun out s => keyed → Reversed eventId key out s) s := by
  refine reads_bind_wp (o := .selectObligation existing.reversedObligationId) trivial (fun e s' _ _ => reversed_database e s')
    (fun s₁ hrely₁ _ ch found x₁ he₁ honward₁ => ?_)
  obtain ⟨row, rfl, hid⟩ := selectObligation_found (hrely₁.onward.row hrow) he₁
  refine reads_bind_wp (o := .commit []) rfl (fun e s' _ _ => reversed_database e s') (fun s₂ _ _ ch u x₂ _ honward₂ => ?_)
  have honward := honward₁.trans honward₂
  refine loadReversed_wp (r := existing) hc (honward.reversal hmem) (fun _ => hkey) (fun hk r' hr' hkey' => ?_) hid.symm ?_
    (fun hk => (hevent hk).onward honward)
  · exact honly r' (honward.unclaimed hk key hc r' hr' hkey') hkey'
  · rw [hid]
    exact honward.row hrow

/-- The ledger's reversal and the commit, for a row that the worker holds. -/
theorem undo_wp {uuid : Nat → Uuid} {reversalEventId reason : String} {row : ObligationRow} {t : Uuid}
    (hc : c.reversalKey = some key) (hfits : keyed → key.length ≤ 255) (habsent : keyed → Absent key s)
    (hlock : (w, row.id) ∈ s.1.store.locks) (hrow : (s.1.db.record row.id).rows = [row]) (hst : row.status ≠ .reversed)
    (ht : row.ledgerTransactionId = some t) (hevent : row.eventId = eventId) :
    (do
      let reversalId ← postReversal t row.organizationId reason
      query (.commit [.reverse row.id, .insertReversal (uuid 0) row.id reversalEventId key reversalId])
      return (← loadObligation row.id, false) : Program (RoyaltyObligation × Bool)).wp (Does C w) (contract keyed w c)
        (fun out s => keyed → Reversed eventId key out s) s := by
  refine (Prog.wp_bind _ _ _).2 (postReversal_wp (fun t' s₁ hrely₁ hp => ?_) (fun e s₁ hrely₁ hk => ?_))
  · refine (Prog.wp_bind _ _ _).2 (call_wp (fun s₂ hrely₂ hs₂ ch r x he => ?_))
    have hrely := hrely₁.trans hrely₂
    have hrow₂ : (s₂.1.db.record row.id).rows = [row] :=
      (congrArg Record.rows (hrely.steady.locks row.id hlock).2).trans hrow
    have hp₂ : ∃ p ∈ s₂.1.ledger.posts, p.id = t' ∧ p.reverses = some t := by
      obtain ⟨p, hp, h⟩ := hp
      exact ⟨p, hrely₂.steady.ledger.posts p hp, h⟩
    obtain ⟨hgood, hwritten⟩ := Good.reverse hs₂ hc hrow₂ hst ht hp₂ he
    refine ⟨hgood, ?_⟩
    cases r with
    | error e =>
      obtain ⟨reason, rfl⟩ := exec_sql_error he
      exact fun _ => reversed_database reason _
    | ok u =>
      rcases hwritten with ⟨reversal, hreversals, hid, hcolumn, hrows⟩ | ⟨⟨e, he'⟩, -⟩
      · have hmem : reversal ∈ x.db.reversals := by
          rw [hreversals]
          exact List.mem_append_right _ (List.mem_singleton_self _)
        have hkey : keyed → reversal.reversalIdempotencyKey = key := fun hk =>
          Payments.column_ok_eq hcolumn (hfits hk)
        refine loadReversed_wp (r := reversal) hc hmem hkey (fun hk r' hr' hkey' => ?_) hid ⟨_, hrows⟩ (fun _ => ?_)
        · change r' ∈ x.db.reversals at hr'
          rw [hreversals, List.mem_append, List.mem_singleton] at hr'
          rcases hr' with hr' | hr'
          · exact absurd hkey' ((habsent hk).onward hk hc hrely.onward r' hr')
          · exact hr'
        · rw [← hid] at hrows
          exact ⟨_, hrows, hevent⟩
      · cases he'
  · exact ((habsent hk).onward hk hc hrely₁.onward).reversed e

theorem reverseObligation_wp (eventId key : String) {uuid : Nat → Uuid} {reversalEventId reason : String}
    (hc : c.reversalKey = some key) (hfits : keyed → key.length ≤ 255)
    (hevent : keyed → ∀ r ∈ s.1.db.reversals, r.reversalIdempotencyKey = key → OfEvent s.1 r eventId) :
    (reverseObligation uuid eventId reversalEventId key reason).wp (Does C w) (contract keyed w c)
      (fun out s => keyed → Reversed eventId key out s) s := by
  refine reads_bind_wp (o := .connect) trivial (fun e s' _ _ => reversed_database e s') (fun s₁ _ _ ch a x _ honward₁ => ?_)
  refine orRollback_wp (F := fun out s => keyed → Reversed eventId key out s) ?_ (fun _ _ h => h) (fun e s₁ s₂ h honward hk => ?_)
  · refine reads_bind_wp (o := .selectReversal key) trivial (fun e s' _ _ => reversed_database e s')
      (fun s₂ hrely₂ hs₂ ch found x he _ => ?_)
    have hsame : Onward keyed c s₂ (after w (.sql (.selectReversal key)) (.ok found) s₂ x) := .of_reads trivial he
    have hdb : x.db = s₂.1.db := reads_db (o := .selectReversal key) trivial he
    have hfound := selectReversal_found he
    cases found with
    | some existing =>
      obtain ⟨hmem, hkey⟩ := hfound
      refine replayReversal_wp hc (hsame.reversal hmem) hkey (hsame.row (hs₂.reversal_row hmem)) (fun r' hr' hkey' => ?_)
        (fun hk => ?_)
      · change r' ∈ x.db.reversals at hr'
        rw [hdb] at hr'
        exact List.inj_on_of_nodup_map hs₂.keys hr' hmem (hkey'.trans hkey.symm)
      · have honward := honward₁.trans hrely₂.onward
        have hmem' := honward.unclaimed hk key hc existing hmem hkey
        exact ((hevent hk existing hmem' hkey).onward honward).onward hsame
    | none =>
      have habsent : Absent key (after w (.sql (.selectReversal key)) (.ok none) s₂ x) := by
        intro r hr
        change r ∈ x.db.reversals at hr
        rw [hdb] at hr
        exact hfound r hr
      refine reads_bind_wp (o := .lockByEvent eventId) trivial (fun e s' _ _ => reversed_database e s')
        (fun s₃ _ hs₃ ch found x₃ he₃ honward₃ => ?_)
      have habsent₃ := fun hk => habsent.onward hk hc honward₃
      cases found with
      | none => exact refuse_wp hc habsent₃
      | some row =>
        obtain ⟨-, hrowEvent, hlock, hrow⟩ := lockByEvent_found hs₃ he₃
        dsimp only
        split
        · exact refuse_wp hc habsent₃
        · rename_i hst
          cases ht : row.ledgerTransactionId with
          | none => exact refuse_wp hc habsent₃
          | some t => exact undo_wp hc hfits habsent₃ hlock hrow hst ht hrowEvent
  · refine ⟨fun r hr hkey => ?_, nofun⟩
    have hr' := honward.unclaimed hk key hc r hr hkey
    rcases (h hk).1 r hr' hkey with ⟨a, ha, -⟩ | ⟨e', he'⟩
    · cases ha
    · exact Or.inr ⟨e', he'⟩

theorem calm_getObligationByEventId (eventId : String) : (getObligationByEventId eventId).Calls Action.Calm := by
  refine Prog.calls_bind (Prog.calls_perform trivial) (fun _ => ?_)
  refine Prog.calls_bind (Prog.calls_perform trivial) (fun found => ?_)
  cases found with
  | none => exact Prog.calls_throw _
  | some id => exact calm_loadObligation id

/-- A reversal may start: its key fits its column and is not stored for another event. -/
def Startable (s : World) (c : Call) : Prop :=
  match c with
  | .reverseObligation _ reversedEventId _ key _ =>
    key.length ≤ 255 ∧ ∀ r ∈ s.db.reversals, r.reversalIdempotencyKey = key → OfEvent s r reversedEventId
  | _ => True

/-- Every program keeps its contract. -/
theorem program_wp (c : Call) (hstart : keyed → Startable s.1 c) :
    (Call.program c).wp (Does C w) (contract keyed w c) (Post keyed w c) s := by
  cases c with
  | createObligation uuid req =>
    refine (Prog.wp_bind _ _ _).2 (Prog.wp_mono (fun r s' _ => ?_) _ createObligation_wp)
    cases r with
    | ok a => exact trivial
    | error e => exact trivial
  | releaseObligation uuid eventId key =>
    refine (Prog.wp_bind _ _ _).2 (Prog.wp_mono (fun r s' h => ?_) _ releaseObligation_wp)
    cases r with
    | ok a =>
      intro a' ha'
      cases ha'
      exact h a rfl
    | error e => exact nofun
  | reverseObligation uuid reversedEventId reversalEventId key reason =>
    refine (Prog.wp_bind _ _ _).2 (Prog.wp_mono (fun r s' h => ?_) _
      (reverseObligation_wp reversedEventId key rfl (fun hk => (hstart hk).1) (fun hk => (hstart hk).2)))
    cases r with
    | ok a =>
      intro hk
      obtain ⟨h₁, h₂⟩ := h hk
      refine ⟨fun r hr hkey => ?_, fun a' ha' => ?_⟩
      · rcases h₁ r hr hkey with ⟨b, hb, hid⟩ | ⟨e, he⟩
        · cases hb
          exact Or.inl ⟨_, rfl, hid⟩
        · cases he
      · cases ha'
        exact h₂ a rfl
    | error e =>
      intro hk
      refine ⟨fun r hr hkey => ?_, nofun⟩
      rcases (h hk).1 r hr hkey with ⟨b, hb, -⟩ | ⟨e', he⟩
      · cases hb
      · cases he
        exact Or.inr ⟨e', rfl⟩
  | getObligationByEventId eventId =>
    refine (Prog.wp_bind _ _ _).2 (calm_wp (calm_getObligationByEventId eventId) (fun r s' _ => ?_))
    cases r with
    | ok a => exact trivial
    | error e => exact trivial

end

/-- What one call adds under its own key, a call with another key does not find. -/
theorem Claims.unclaimed {c c' : Call} {s s' : World} (h : Claims c s s') (hapart : Apart c c') : Unclaimed c' s s' := by
  intro key' hc' r hr hkey
  by_contra hnew
  obtain ⟨key, hc, hcolumn⟩ := h r hr hnew
  obtain ⟨hne, hfits, -⟩ := hapart key key' hc hc'
  exact hne ((Payments.column_ok_eq hcolumn hfits).symm.trans hkey)

/-- The outline is sound under every condition; with `keyed`, under those that keep calls with one reversal key apart. -/
theorem outline_sound {keyed : Prop} {C : machine.traced.Cond}
    (hstart : keyed → ∀ cfg c, C.start cfg c → Startable cfg.state.1 c ∧ ∀ x ∈ cfg.live, Apart c x.call) :
    (outline keyed).Sound C where
  refl w c s := .refl w c s
  trans _ _ _ _ _ h h' := h.trans h'
  symm _ c _ c' h hk := fun key key' h₁ h₂ => by
    obtain ⟨hne, hfits, hfits'⟩ := h hk key' key h₂ h₁
    exact ⟨hne.symm, hfits', hfits⟩
  guar _ _ w' _ _ _ hne hcompat _ hguar :=
    ⟨hguar.steady w' hne.symm, hguar.log, fun hk => hguar.claims.unclaimed (hcompat hk)⟩
  start cfg c _ hc := ⟨fun x hx hk => (hstart hk cfg c hc).2 x hx, program_wp c (fun hk => (hstart hk cfg c hc).1)⟩
  crash w s hs := ⟨(Sound.unlock hs w).1, fun w' c hne =>
    ⟨(Sound.unlock hs w).2 w' hne, List.prefix_rfl, fun _ => unclaimed_of_eq rfl⟩⟩

end Royalty

end Archisynapse
