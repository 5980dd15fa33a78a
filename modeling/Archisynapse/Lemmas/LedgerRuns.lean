import Archisynapse.Lemmas.LedgerCalls

/-!
# Runs of the ledger: calls alone and calls interleaved

Every call keeps its contract (`program_wp`). From that, what a call alone does (`alone_postTransaction`,
`alone_reverseTransaction`), and that the contracts of calls that are open together fit (`outline_sound`), which gives the
invariant of every run.
-/

namespace Archisynapse

namespace Ledger

section

variable {m : Mode} {w : Nat} {c : Call} {s : State}

/-! ## Accounts -/

/-- The row of an account insert. -/
theorem accountRow_ok {d : Tables} {sess : Session} {v : AccountValues} {row : AccountRow}
    (h : d.accountRow sess v = .ok row) :
    (∀ a ∈ d.accounts, a.id ≠ row.id) ∧ row.isActive = true ∧ row.balance = 0 ∧ row.organizationId = sess.organizationId ∧
      varchar 20 v.code = some row.code ∧ row.type = v.type := by
  unfold Tables.accountRow at h
  split at h
  · rename_i hcode _ _
    split at h
    · cases h
    · rename_i hid
      split at h
      · cases h
      · cases h
        exact ⟨by simpa using hid, rfl, rfl, rfl, hcode, rfl⟩
  · cases h

/-- A new account has no entries. -/
theorem Balances.addAccount {d : Tables} (h : Balances d) (hb : Books d) {row : AccountRow}
    (hid : ∀ a ∈ d.accounts, a.id ≠ row.id) (hzero : row.balance = 0) :
    Balances { d with accounts := d.accounts ++ [row] } := by
  intro a ha
  rcases List.mem_append.1 ha with ha | ha
  · exact h a ha
  · obtain rfl := List.mem_singleton.1 ha
    rw [hzero]
    refine (sumWhere_eq_zero (fun e he hacc => ?_)).symm
    obtain ⟨x, hx, hxid, -⟩ := hb.account e he
    exact absurd (hxid.trans (of_decide_eq_true hacc)) (hid x hx)

/-- What creating an account does to the tables: accounts of the organization with the code and the type are added, among them the
one it returns. -/
def Opens (organizationId code : String) (type : AccountType) (d d' : Tables) (r : Except LedgerError AccountRow) : Prop :=
  ∃ rows, d' = { d with accounts := d.accounts ++ rows } ∧
    (∀ row ∈ rows, row.organizationId = organizationId ∧ varchar 20 code = some row.code ∧ row.type = type) ∧
    ∀ row, r = .ok row → row ∈ rows

/-- Creating an account: alone, nothing but an account is added. -/
theorem createAccount_wp {env : Env} {organizationId code name : String} {type : AccountType} {currency : String} {d₀ : Tables}
    (hdb : m.alone = true → s.db = d₀) :
    (createAccount env organizationId code name type currency).wp (Does m w) (contract m w c)
      (fun r s' => m.alone = true → Opens organizationId code type d₀ s'.db r) s := by
  have hsame : ∀ {s' : State} (e : LedgerError), (m.alone = true → s'.db = s.db) → m.alone = true →
      Opens organizationId code type d₀ s'.db (.error e) :=
    fun e h hal => ⟨[], by rw [h hal, hdb hal, List.append_nil], nofun, nofun⟩
  unfold createAccount
  refine withSession_wp (fun e _ hr => hsame e hr.alone) ?_ (fun s₁ hr₁ _ => ?_)
  · intro r s₁ s₂ hq hr hal
    rw [State.db_discard, hr.alone hal]
    exact hq hal
  rw [Prog.wp_bind]
  refine wp_query rfl (fun s₂ hr₂ hi => ⟨fun e => hsame e (hr₁.trans hr₂).alone, ?_⟩)
  intro row s₃ hp
  simp only [State.perform] at hp
  split at hp
  · cases hp
  · rename_i row' hrow
    cases hp
    obtain ⟨hid, hactive, hzero, horg, hcode, htype⟩ := accountRow_ok hrow
    refine ⟨⟨hi.books.addAccount hid hactive, fun hal => (hi.balances hal).addAccount hi.books hid hzero, ?_, hi.fresh,
      hi.apart⟩, ⟨fun _ _ => rfl, ⟨?_, fun _ h => h, fun _ _ => rfl⟩, fun _ _ _ h => h, fun _ _ _ _ _ => rfl⟩, ?_⟩
    · exact fun hg => ⟨(hi.once hg).atMost, (hi.once hg).marked⟩
    · rintro id organizationId ⟨a, ha, hao⟩
      exact ⟨a, List.mem_append_left _ ha, hao⟩
    · dsimp only
      rw [Prog.wp_bind]
      have hadd : ∀ {s' : State} (r : Except LedgerError AccountRow), (∀ row', r = .ok row' → row' = row) →
          (m.alone = true → s'.db = { s₂.db with accounts := s₂.db.accounts ++ [row] }) →
          m.alone = true → Opens organizationId code type d₀ s'.db r := by
        intro s' r hr h hal
        have hdb₂ := ((hr₁.trans hr₂).alone hal).trans (hdb hal)
        refine ⟨[row], (h hal).trans (by rw [hdb₂]), fun row' hrow' => ?_, fun row' hrow' => ?_⟩
        · rw [List.mem_singleton.1 hrow']
          exact ⟨horg, hcode, htype⟩
        · rw [hr row' hrow']
          exact List.mem_singleton_self _
      exact wp_read rfl (fun _ hr _ => ⟨fun e => hadd (.error e) nofun hr.alone,
        fun _ _ => hadd (.ok row) (fun _ h => (Except.ok.inj h).symm) hr.alone⟩)

/-- Every call keeps its contract, when one that reverses a transaction under the guard finds it unreversed. -/
theorem program_wp (hguard : m.guarded = true → ∀ t, c.reverses = some t → Unreversed s.db t) :
    c.program.wp (Does m w) (contract m w c) (fun _ _ => True) s := by
  cases c with
  | createAccount env organizationId code name type currency =>
    refine (Prog.wp_bind _ _ _).2 (Prog.wp_mono ?_ _ (createAccount_wp (fun _ => rfl)))
    intro r _ _
    cases r <;> trivial
  | postTransaction env req =>
    refine (Prog.wp_bind _ _ _).2 (Prog.wp_mono ?_ _ (postTransaction_wp (fun _ => rfl) hguard))
    intro r _ _
    cases r <;> trivial
  | reverseTransaction env organizationId transactionId reason =>
    refine (Prog.wp_bind _ _ _).2 (Prog.wp_mono ?_ _ (reverseTransaction_wp rfl (fun _ => rfl) hguard))
    intro r _ _
    cases r <;> trivial

end

/-! ## One call at a time -/

/-- Books in order with balances that are right are the invariant of a ledger without open transactions. -/
theorem inv_single {d : Tables} (hb : Books d) (hbal : Balances d) : Inv .single ⟨d, []⟩ :=
  ⟨hb, fun _ => hbal, nofun, fun _ _ h => by simp [State.writes] at h, fun _ _ _ _ _ h => by simp [State.writes] at h⟩

/-- Every pending write is worker 0's. -/
def State.Single (s : State) : Prop := ∀ p ∈ s.pending, p.1 = 0

theorem State.Single.discard {s : State} (h : s.Single) : (s.discard 0).Single :=
  fun p hp => h p (List.mem_of_mem_filter hp)

theorem State.Single.write {s : State} (h : s.Single) (x : Write) : (s.write 0 x).Single := by
  intro p hp
  rcases List.mem_append.1 hp with hp | hp
  · exact h p hp
  · rw [List.mem_singleton.1 hp]

/-- The only worker waits for no one. -/
theorem State.Single.insert {s : State} (h : s.Single) {α β : Type} (locks : List Lock) (row : Except DatabaseError α)
    (x : α → List Write) (answer : α → β) : ∃ r s', s.insert 0 locks row x answer = some (r, s') ∧ s'.Single := by
  have hfree : s.waits 0 locks = false := by
    simp only [State.waits, List.any_eq_false]
    intro p hp
    simp [h p hp]
  have hwrites : ∀ (xs : List Write) (s : State), s.Single → (xs.foldl (fun s x => s.write 0 x) s).Single := by
    intro xs
    induction xs with
    | nil => exact fun s hs => hs
    | cons y ys ih => exact fun s hs => ih _ (hs.write y)
  unfold State.insert
  rw [hfree]
  cases row with
  | error e => exact ⟨_, _, rfl, h⟩
  | ok a => exact ⟨_, _, rfl, hwrites (x a) s h⟩

theorem State.Single.selectBy {s : State} (h : s.Single) {α : Type} (id : UuidText) (f : Uuid → α) :
    ∃ r s', Ledger.selectBy s id f = some (r, s') ∧ s'.Single := by
  unfold Ledger.selectBy
  cases id.value <;> exact ⟨_, _, rfl, h⟩

/-- A statement of the only worker is never blocked. -/
theorem State.Single.perform {s : State} (h : s.Single) (sess : Session) (o : Statement) :
    ∃ r s', s.perform 0 sess o = some (r, s') ∧ s'.Single := by
  cases o with
  | begin => exact ⟨_, _, rfl, h.discard⟩
  | commit => exact ⟨_, _, rfl, h.discard⟩
  | rollback => exact ⟨_, _, rfl, h.discard⟩
  | close => exact ⟨_, _, rfl, h.discard⟩
  | insertAccount v =>
    simp only [State.perform]
    cases s.db.accountRow sess v <;> exact ⟨_, _, rfl, h⟩
  | insertTransaction v => exact h.insert ..
  | insertEntry v => exact h.insert ..
  | updateAccountBalance a n => exact h.insert ..
  | upsertResponse k r t => exact h.insert ..
  | selectAccount id => exact h.selectBy ..
  | selectTransaction id => exact h.selectBy ..
  | selectEntries id => exact h.selectBy ..
  | updateTransactionStatus st id =>
    simp only [State.perform]
    cases id.value with
    | none => exact ⟨_, _, rfl, h⟩
    | some u => exact h.insert ..
  | _ => exact ⟨_, _, rfl, h⟩

theorem exec_alone (o : Session × Statement) (fails : Bool) (s : State) (h : s.Single) :
    ∃ r s', exec 0 o fails s = some (r, s') ∧ s'.Single := by
  unfold exec
  split
  · obtain ⟨sess, o⟩ := o
    cases o <;> first | exact ⟨_, _, rfl, h⟩ | exact ⟨_, _, rfl, h.discard⟩
  · exact h.perform o.1 o.2

/-- An operation alone comes to an end. -/
theorem alone_isSome {α : Type} (p : Action α) (fails : Nat → Bool) (d : Tables) : ∃ r d', alone p fails d = some (r, d') := by
  obtain ⟨r, s', hrun, -⟩ := Prog.run_isSome (S := signature) (exec 0) fails (P := State.Single)
    exec_alone p (n := 0) (s := ⟨d, []⟩) (by simp [State.Single])
  exact ⟨r, s'.db, by simp [alone, hrun]⟩

/-- What an operation alone leaves is what its weakest precondition says. -/
theorem alone_wp {α : Type} {p : Action α} {c : Call} {fails : Nat → Bool} {d d' : Tables} {r : Except LedgerError α}
    {Q : Except LedgerError α → State → Prop} (hb : Books d) (hbal : Balances d)
    (hp : p.wp (Does .single 0) (contract .single 0 c) Q ⟨d, []⟩) (h : alone p fails d = some (r, d')) :
    Books d' ∧ Balances d' ∧ ∃ s', s'.db = d' ∧ Q r s' := by
  obtain ⟨⟨r₁, s'⟩, hrun, heq⟩ := Option.map_eq_some_iff.1 h
  obtain ⟨rfl, rfl⟩ := Prod.mk.inj heq
  obtain ⟨hi, hQ⟩ := Prog.wp_run (S := signature) (exec 0) (fun o ch s r s' he => ⟨nofun, ch, he⟩)
    (fun s => Rely.refl .single 0 c s) p (inv_single hb hbal) hp hrun
  exact ⟨hi.books, hi.balances rfl, s', rfl, hQ⟩

/-- `createAccount` alone: nothing but an account is added. -/
theorem alone_createAccount {env : Env} {organizationId code name : String} {type : AccountType} {currency : String}
    {fails : Nat → Bool} {d d' : Tables} {r : Except LedgerError AccountRow} (hb : Books d) (hbal : Balances d)
    (h : alone (createAccount env organizationId code name type currency) fails d = some (r, d')) :
    Books d' ∧ Balances d' ∧ Opens organizationId code type d d' r := by
  obtain ⟨hb', hbal', s', rfl, hQ⟩ := alone_wp hb hbal
    (createAccount_wp (c := .createAccount env organizationId code name type currency) (fun _ => rfl)) h
  exact ⟨hb', hbal', hQ rfl⟩

/-- A call alone whose result is only rewritten at the end. -/
theorem alone_map {α β : Type} {p : Action α} {f : α → β} {fails : Nat → Bool} {d d' : Tables} {r : Except LedgerError β}
    (h : alone (p >>= fun a => pure (f a)) fails d = some (r, d')) :
    ∃ q, alone p fails d = some (q, d') ∧ r = q.map f := by
  unfold alone at h ⊢
  rw [Prog.run_map] at h
  obtain ⟨a, ha, he⟩ := Option.map_eq_some_iff.1 h
  obtain ⟨b, hb, rfl⟩ := Option.map_eq_some_iff.1 ha
  obtain ⟨rfl, rfl⟩ := Prod.mk.inj he
  exact ⟨b.1, by rw [hb]; rfl, rfl⟩

/-- `postTransaction` alone: it throws and changes nothing, returns a stored response and changes nothing, or posts. -/
theorem alone_postTransaction {env : Env} {req : PostTransactionRequest} {fails : Nat → Bool} {d d' : Tables}
    {r : Except LedgerError Transaction} (hb : Books d) (hbal : Balances d)
    (h : alone (postTransaction env req) fails d = some (r, d')) :
    Books d' ∧ Balances d' ∧ match r with
      | .ok t => (d' = d ∧ Replays d (env.session req.organizationId) req t) ∨
          ∃ row rows responses, Adds d d' row rows ∧ d'.responses = responses.foldl storeResponse d.responses ∧
            Posts env (env.session req.organizationId) req d t row rows responses
      | .error _ => d' = d := by
  obtain ⟨hb', hbal', s', rfl, hQ⟩ := alone_wp hb hbal
    (postTransaction_wp (c := .postTransaction env req) (fun _ => rfl) nofun) h
  refine ⟨hb', hbal', ?_⟩
  cases r <;> exact hQ rfl

/-- `reverseTransaction` alone: it throws and changes nothing, or posts the reversal of a transaction that is there. -/
theorem alone_reverseTransaction {env : Env} {organizationId : String} {transactionId : UuidText} {reason : String}
    {fails : Nat → Bool} {d d' : Tables} {r : Except LedgerError Transaction} (hb : Books d) (hbal : Balances d)
    (h : alone (reverseTransaction env organizationId transactionId reason) fails d = some (r, d')) :
    Books d' ∧ Balances d' ∧ match r with
      | .ok t => ∃ row rows responses, Adds d d' row rows ∧ d'.responses = responses.foldl storeResponse d.responses ∧
          Reverses env transactionId t row rows responses
      | .error _ => d' = d := by
  obtain ⟨hb', hbal', s', rfl, hQ⟩ := alone_wp hb hbal
    (reverseTransaction_wp (c := .reverseTransaction env organizationId transactionId reason) rfl (fun _ => rfl) nofun) h
  refine ⟨hb', hbal', ?_⟩
  have hout := hQ rfl
  cases r with
  | error e => exact hout
  | ok t => exact hout.resolve_left (fun hf => hf.2)

/-- A call alone keeps books and balances. -/
theorem alone_program {c : Call} {fails : Nat → Bool} {d d' : Tables} {r : Except LedgerError Reply} (hb : Books d)
    (hbal : Balances d) (h : alone c.program fails d = some (r, d')) : Books d' ∧ Balances d' := by
  obtain ⟨hb', hbal', -⟩ := alone_wp hb hbal (program_wp (c := c) nofun) h
  exact ⟨hb', hbal'⟩

/-! ## Interleaved calls -/

/-- The outline of the ledger's calls. -/
def outline (m : Mode) : Machine.Outline machine where
  inv := Inv m
  rely := Rely m
  guar := Guar m
  compat _ c _ c' := m.alone = false ∧ (m.guarded = true → ∀ t, c.reverses = some t → c'.reverses ≠ some t)

/-- The contracts of calls that are open together fit. Under the guard, a call that reverses a transaction is started only when
the transaction is not marked as reversed and no call that reverses it is open; in the mode `apart`, transactions commit apart. -/
theorem outline_sound {m : Mode} (hm : m.alone = false) {C : machine.Cond}
    (hC : m.guarded = true → ∀ cfg c, C.start cfg c → ∀ t, c.reverses = some t →
      Unreversed cfg.state.db t ∧ ∀ x ∈ cfg.live, x.call.reverses ≠ some t)
    (hstep : m.apart = true → ∀ w o s, C.step w o s → o.2 = .commit → s.Apart w) : (outline m).Sound C where
  refl w c s := .refl m w c s
  trans w c _ _ _ h h' := Rely.trans h h'
  symm w c w' c' h := ⟨h.1, fun hg t ht ht' => h.2 hg t ht' ht⟩
  guar w c w' c' s s' hne hcompat _ hg := by
    refine ⟨hg.writes w' hne.symm, hg.grows, fun hal => ?_, fun hgd t ht => ?_, fun htally a ha => ?_⟩
    · rw [hm] at hal
      cases hal
    · exact hg.guarded hgd t (fun hc => hcompat.2 hgd t hc ht)
    · rw [Mode.tallies, hm, Bool.false_or] at htally
      exact hg.sums htally w' hne.symm a ha
  start cfg c _ hc := by
    refine ⟨fun x hx => ⟨hm, fun hg t ht => (hC hg cfg c hc t ht).2 x hx⟩, ?_⟩
    refine Prog.wp_calls (fun o s _ _ he => ⟨fun ha => hstep ha _ o s he.1, he.2⟩) _ (program_wp (fun hg t ht => ?_))
    exact (hC hg cfg c hc t ht).1
  crash w s hi := by
    refine ⟨hi.discard w, fun w' c hne => ⟨s.writes_discard_of_ne hne, .refl _, fun _ => rfl, fun _ _ _ h => h, fun _ _ _ => rfl⟩⟩

/-- The invariant holds of the empty ledger. -/
theorem inv_empty (m : Mode) : Inv m .empty :=
  ⟨books_empty, fun _ => by simp [Balances, State.empty, Tables.empty],
    fun _ => ⟨fun _ => by simp [Tables.reversals, Tables.posts, State.empty, Tables.empty],
      fun _ _ => by simp [Tables.reversals, Tables.posts, State.empty, Tables.empty]⟩,
    fun _ _ h => by simp [State.writes, State.empty] at h, fun _ _ _ _ _ h => by simp [State.writes, State.empty] at h⟩

end Ledger

end Archisynapse
