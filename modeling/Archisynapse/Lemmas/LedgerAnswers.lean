import Archisynapse.Lemmas.LedgerRuns

/-!
# What the ledger answers with

A posting is answered with a transaction that is in the books, as it is there (`Booked`): one it has just committed, or one that was
stored for its key, and every stored response is of a transaction in the books under its key (`Answers`). This is added to the
invariant of interleaved calls; only a commit has anything to show for it.
-/

namespace Archisynapse

namespace Ledger

/-- A transaction is in the books under a key (or under none), with its entries. -/
structure Booked (d : Tables) (key : Option String) (t : Transaction) : Prop where
  posted : ∃ p ∈ d.posts, p.id = t.id ∧ p.organizationId = t.organizationId ∧ p.idempotencyKey = key
  entries : entriesOf d.entries t.id = t.entries

/-- Every stored response is of a transaction that is in the books under its key. -/
def Answers (d : Tables) : Prop := ∀ r ∈ d.responses, Booked d (some r.idempotencyKey) r.response

/-- What an answer to a call has to do with the call: a posting was committed under its key, with the entries it asked for, or one
was stored under its key; a reversal takes back the effect of a transaction that is in the books. -/
def Answered (d : Tables) (t : Transaction) : Call → Prop
  | .createAccount _ _ _ _ _ _ => False
  | .postTransaction env req =>
    (∃ key, varcharOrNull 255 (truthy req.idempotencyKey) = some key ∧ Booked d key t ∧ t.id = env.uuid 0 ∧
      List.Forall₂ (Entered (env.session req.organizationId) t.id) req.entries t.entries) ∨
    ∃ key, truthy req.idempotencyKey = some key ∧ Booked d (some key) t
  | .reverseTransaction env _ transactionId _ =>
    Booked d none t ∧ t.id = env.uuid 0 ∧ ∃ o, transactionId.value = some o ∧ (∃ p ∈ d.posts, p.id = o) ∧
      ∀ a, accountSum t.entries a = -effect d.entries o a

section

variable {d d' : Tables} {key : Option String} {t : Transaction}

theorem Booked.grows (h : Booked d key t) (hg : Grows d d') : Booked d' key t := by
  obtain ⟨p, hp, hid, horg, hkey⟩ := h.posted
  refine ⟨⟨p, hg.posts p hp, hid, horg, hkey⟩, ?_⟩
  rw [← hid, hg.entries p hp, hid]
  exact h.entries

theorem Answers.grows (h : Answers d) (hg : Grows d d') (hsame : d'.responses = d.responses) : Answers d' := by
  intro r hr
  rw [hsame] at hr
  exact (h r hr).grows hg

theorem Answered.grows {c : Call} (h : Answered d t c) (hg : Grows d d') : Answered d' t c := by
  cases c with
  | createAccount env organizationId code name type currency => exact h
  | postTransaction env req =>
    rcases h with ⟨key, hkey, hbooked, hrest⟩ | ⟨key, hkey, hbooked⟩
    · exact Or.inl ⟨key, hkey, hbooked.grows hg, hrest⟩
    · exact Or.inr ⟨key, hkey, hbooked.grows hg⟩
  | reverseTransaction env organizationId transactionId reason =>
    obtain ⟨hbooked, hid, o, ho, ⟨p, hp, hpo⟩, heff⟩ := h
    refine ⟨hbooked.grows hg, hid, o, ho, ⟨p, hg.posts p hp, hpo⟩, fun a => ?_⟩
    rw [heff a, effect_eq, effect_eq, ← hpo, hg.entries p hp]

/-- What is answered is in the books. -/
theorem Answered.booked {c : Call} (h : Answered d t c) : ∃ key, Booked d key t := by
  cases c with
  | createAccount env organizationId code name type currency => exact h.elim
  | postTransaction env req =>
    rcases h with ⟨key, -, hbooked, -⟩ | ⟨key, -, hbooked⟩
    · exact ⟨key, hbooked⟩
    · exact ⟨some key, hbooked⟩
  | reverseTransaction env organizationId transactionId reason => exact ⟨none, h.1⟩

/-- The transaction that was just added. -/
theorem Adds.booked {row : TransactionRow} {rows : List EntryRow} (h : Adds d d' row rows) (hb : Books d) (hid : t.id = row.id)
    (horg : t.organizationId = row.organizationId) (hrows : t.entries = rows) : Booked d' row.idempotencyKey t := by
  refine ⟨⟨post row, ?_, hid.symm, horg.symm, rfl⟩, ?_⟩
  · rw [h.posts]
    exact List.mem_append_right _ (List.mem_singleton_self _)
  · rw [hid, hrows]
    exact h.entriesOf_new hb

/-- What is stored after some responses were: what was, or one of them. -/
theorem mem_storeResponses {rows rs : List ResponseRow} {r : ResponseRow} (h : r ∈ rows.foldl storeResponse rs) :
    r ∈ rs ∨ ∃ row ∈ rows, r.idempotencyKey = row.idempotencyKey ∧ r.response = row.response := by
  induction rows generalizing rs with
  | nil => exact Or.inl h
  | cons row rows ih =>
    rcases ih h with h | ⟨row', hrow', hsame⟩
    · unfold storeResponse Tables.apply at h
      dsimp only at h
      split at h
      · rcases mem_updateKey.1 h with ⟨x, -, hkey, rfl⟩ | ⟨hr, -⟩
        · exact Or.inr ⟨row, List.mem_cons_self, hkey, rfl⟩
        · exact Or.inl hr
      · rcases List.mem_append.1 h with h | h
        · exact Or.inl h
        · rw [List.mem_singleton.1 h]
          exact Or.inr ⟨row, List.mem_cons_self, rfl, rfl⟩
    · exact Or.inr ⟨row', List.mem_cons_of_mem _ hrow', hsame⟩

end

/-! ## The statements -/

/-- Interleaved calls, under no condition. -/
def Mode.free : Mode := ⟨false, false, false⟩

/-- The contract of a call, with what is stored. -/
def answersContract (w : Nat) (c : Call) : Contract State :=
  ⟨fun s => Inv .free s ∧ Answers s.db, Rely .free w c, Guar .free w c⟩

/-- An insert commits nothing. -/
theorem insert_db {α β : Type} {s s' : State} {w : Nat} {locks : List Lock} {row : Except DatabaseError α} {x : α → List Write}
    {answer : α → β} {r : Except LedgerError β} (h : s.insert w locks row x answer = some (r, s')) : s'.db = s.db := by
  have hwrites : ∀ (xs : List Write) (s : State), (xs.foldl (fun s x => s.write w x) s).db = s.db := by
    intro xs
    induction xs with
    | nil => exact fun _ => rfl
    | cons x xs ih => exact fun s => ih (s.write w x)
  cases r with
  | ok a =>
    obtain ⟨-, b, -, -, rfl⟩ := insert_ok h
    exact hwrites (x b) s
  | error e => rw [insert_error h]

/-- Only a commit changes what is stored. -/
theorem exec_responses {s s' : State} {w : Nat} {o : Session × Statement} {fails : Bool} {r : Except LedgerError o.2.Result}
    (ho : o.2 ≠ .commit) (h : exec w o fails s = some (r, s')) : s'.db.responses = s.db.responses := by
  obtain ⟨sess, o⟩ := o
  unfold exec at h
  split at h
  · cases o <;> cases h <;> rfl
  · cases o with
    | begin => cases h; rfl
    | commit => exact absurd rfl ho
    | rollback => cases h; rfl
    | close => cases h; rfl
    | insertAccount v =>
      simp only [State.perform] at h
      split at h <;> cases h <;> rfl
    | insertTransaction v => rw [insert_db h]
    | insertEntry v => rw [insert_db h]
    | updateAccountBalance a n => rw [insert_db h]
    | upsertResponse k r t => rw [insert_db h]
    | updateTransactionStatus st id =>
      simp only [State.perform] at h
      split at h
      · cases h
        rfl
      · rw [insert_db h]
    | _ => rw [perform_reads rfl h]

/-- No statement of a program is a commit. -/
abbrev Commitless {α : Type} (p : Action α) : Prop := p.Calls (S := signature) (fun o : Session × Statement => o.2 ≠ .commit)

section

variable {w : Nat} {c : Call} {sess : Session} {s : State}

/-- A program that does not commit keeps what is stored. -/
theorem Commitless.answers {α : Type} {p : Action α} (hp : Commitless p) {Q : Except LedgerError α → State → Prop}
    (h : p.wp (Does .free w) (contract .free w c) Q s) (ha : Answers s.db) :
    p.wp (Does .free w) (answersContract w c) (fun r s' => Q r s' ∧ Answers s'.db) s := by
  refine Prog.Calls.wp_inv (J := fun s => Answers s.db) ?_ hp h ha
  rintro o s r s' ho - ⟨-, fails, he⟩ hguar ha
  exact ha.grows hguar.grows (exec_responses ho he)

theorem commitless_query {o : Statement} (h : o ≠ .commit) : Commitless (query sess o) :=
  Prog.calls_perform (S := signature) (o := (sess, o)) h

theorem commitless_insertEntry (v : EntryValues) : Commitless (insertEntry sess v) :=
  Prog.calls_bind (commitless_query (fun h => by cases h))
    (fun _ => Prog.calls_bind (commitless_query (fun h => by cases h)) (fun _ => Prog.calls_pure _))

theorem commitless_postEntries {env : Env} {id : Uuid} (es : List PostJournalEntryRequest) (i : Nat) :
    Commitless (postEntries env sess id i es) := by
  induction es generalizing i with
  | nil => exact Prog.calls_pure _
  | cons e es ih =>
    refine Prog.calls_bind (commitless_query (fun h => by cases h)) (fun found => ?_)
    refine Prog.calls_ite (Prog.calls_throw _) ?_
    exact Prog.calls_bind (commitless_insertEntry _) (fun _ => Prog.calls_bind (ih (i + 1)) (fun _ => Prog.calls_pure _))

theorem commitless_postNew {env : Env} {req : PostTransactionRequest} {reverses : Option Uuid} :
    Commitless (postNew env sess req reverses) := by
  refine Prog.calls_ite (Prog.calls_throw _) ?_
  refine Prog.calls_bind (commitless_query (fun h => by cases h)) (fun _ => Prog.calls_bind (commitless_postEntries _ _) (fun _ => ?_))
  refine Prog.calls_bind (commitless_query (fun h => by cases h)) (fun _ => Prog.calls_ite (Prog.calls_throw _) ?_)
  have hstore : ∀ key t, Commitless (storeIdempotencyResponse env sess key t) := by
    intro key t
    cases key with
    | none => exact Prog.calls_pure _
    | some key => exact commitless_query (fun h => by cases h)
  exact Prog.calls_bind (hstore _ _) (fun _ => Prog.calls_bind (commitless_query (fun h => by cases h)) (fun _ => Prog.calls_pure _))

theorem commitless_postWithClient {env : Env} {req : PostTransactionRequest} {reverses : Option Uuid} :
    Commitless (postWithClient env sess req reverses) := by
  unfold postWithClient
  split
  · refine Prog.calls_bind (commitless_query (fun h => by cases h)) (fun response => ?_)
    cases response with
    | some t => exact Prog.calls_pure _
    | none => exact commitless_postNew
  · exact commitless_postNew

/-! ## The transactions -/

/-- What the body of a transaction leaves for its answer: nothing, when that was stored before, or what is to be committed, with the
responses that store it. -/
def Leaves (w : Nat) (c : Call) (sess : Session) (t : Transaction) (s : State) : Prop :=
  (s.writes w = [] ∧ Answered s.db t c) ∨
    ∃ row rows responses, Ready .free w c sess .empty row rows responses s ∧
      (∀ r ∈ responses, row.idempotencyKey = some r.idempotencyKey ∧ r.response = t) ∧
      (t.id = row.id ∧ t.organizationId = row.organizationId ∧ t.entries = rows) ∧
      ∀ d d', Grows s.db d → Adds d d' row rows → Booked d' row.idempotencyKey t → Answered d' t c

variable {t : Transaction}

theorem Leaves.rely {s' : State} (h : Leaves w c sess t s) (hr : Rely .free w c s s') : Leaves w c sess t s' := by
  rcases h with ⟨hw, hans⟩ | ⟨row, rows, responses, hready, hresp, ht, hans⟩
  · exact Or.inl ⟨hr.writes.trans hw, hans.grows hr.grows⟩
  · exact Or.inr ⟨row, rows, responses, hready.rely hr, hresp, ht, fun d d' hg => hans d d' (hr.grows.trans hg)⟩

/-- `COMMIT` puts into the books what is answered, and stores it. -/
theorem commit_answers {Q : Except LedgerError Unit → State → Prop} (h : Leaves w c sess t s)
    (herr : ∀ e s', Answers s'.db → Q (.error e) s') (hok : ∀ s', Answers s'.db → Answered s'.db t c → Q (.ok ()) s') :
    (query sess .commit).wp (Does .free w) (answersContract w c) Q s := by
  refine (Prog.wp_perform (S := signature) (sess, .commit) s).2 ?_
  rintro s₁ hr ⟨hi, ha⟩ r s₂ ⟨-, fails, he⟩
  unfold exec at he
  split at he
  · cases he
    exact ⟨⟨hi.discard w, ha⟩, .discard .free w c s₁, herr _ _ ha⟩
  · cases he
    rcases h.rely hr with ⟨hw, hans⟩ | ⟨row, rows, responses, hready, hresp, ⟨hid, horg, hrows⟩, hans⟩
    · rw [commit_nil hw]
      exact ⟨⟨hi.discard w, ha⟩, .discard .free w c s₁, hok _ ha hans⟩
    · have hadds := hready.adds hi
      have hbooked := hadds.booked hi.books hid horg hrows
      have hstored : Answers (s₁.commit w).db := by
        intro r hr
        rw [State.db_commit] at hr ⊢
        have hview : (s₁.view w).responses = responses.foldl storeResponse s₁.db.responses := by
          rw [← hready.responses]
          exact responses_foldl _ _
        rw [hview] at hr
        rcases mem_storeResponses hr with hr | ⟨r', hr', hkey, hresponse⟩
        · exact (ha r hr).grows hadds.grows
        · obtain ⟨hk, ht⟩ := hresp r' hr'
          rw [hkey, hresponse, ht, ← hk]
          exact hbooked
      exact ⟨⟨hready.inv_commit hi, hstored⟩, hready.guar_commit hi (fun h => by cases h),
        hok _ hstored (hans _ _ (.refl _) hadds hbooked)⟩

/-- A transaction is answered with what it has put into the books. -/
theorem inTransaction_answers {body : Action Transaction} (ha : Answers s.db)
    (hbody : ∀ s₁, s₁.writes w = [] → Answers s₁.db → body.wp (Does .free w) (answersContract w c)
      (fun r s' => (∀ t, r = .ok t → Leaves w c sess t s') ∧ Answers s'.db) s₁) :
    (inTransaction sess body).wp (Does .free w) (answersContract w c)
      (fun r s' => (∀ t, r = .ok t → Answered s'.db t c) ∧ Answers s'.db) s := by
  unfold inTransaction
  refine Prog.wp_handle (show Prog.wp _ _ _ (fun r s' => (∀ t, r = .ok t → Answered s'.db t c) ∧ Answers s'.db) _ from ?_)
    (fun _ _ h => h) (fun e s₁ h => ?_)
  · have hbegin : (query sess .begin).wp (Does .free w) (answersContract w c)
        (fun r s' => (∀ a, r = .ok a → s'.writes w = []) ∧ Answers s'.db) s :=
      (commitless_query (fun h => by cases h)).answers
        (wp_begin (fun s₁ _ _ => ⟨fun e a h => (by cases h), fun _ _ => s₁.writes_discard w⟩)) ha
    refine Prog.wp_seq hbegin (fun _ s₁ h₁ => ?_) (fun e s₁ h₁ => ⟨fun t h => (by cases h), h₁.2⟩)
    refine Prog.wp_seq (hbody s₁ (h₁.1 () rfl) h₁.2) (fun t s₂ h₂ => ?_) (fun e s₂ h₂ => ⟨fun t h => (by cases h), h₂.2⟩)
    rw [Prog.wp_bind]
    refine commit_answers (h₂.1 t rfl) (fun e s₃ h₃ => ⟨fun t h => (by cases h), h₃⟩) (fun s₃ h₃ hans => ⟨fun t' h => ?_, h₃⟩)
    cases h
    exact hans
  · have hrollback : (query sess .rollback).wp (Does .free w) (answersContract w c) (fun _ s' => True ∧ Answers s'.db) s₁ :=
      (commitless_query (fun h => by cases h)).answers (wp_rollback (fun _ _ _ _ => trivial)) h.2
    exact Prog.wp_seq hrollback (fun _ s₂ h₂ => ⟨fun t h => (by cases h), h₂.2⟩) (fun _ s₂ h₂ => ⟨fun t h => (by cases h), h₂.2⟩)

/-- What a session's body answers is in the books when the session is closed. -/
theorem withSession_answers {body : Action Transaction} (ha : Answers s.db)
    (hbody : ∀ s₁, Answers s₁.db → body.wp (Does .free w) (answersContract w c)
      (fun r s' => (∀ t, r = .ok t → Answered s'.db t c) ∧ Answers s'.db) s₁) :
    (withSession sess body).wp (Does .free w) (answersContract w c) (fun r s' => ∀ t, r = .ok t → Answered s'.db t c) s := by
  unfold withSession
  split
  · exact fun t h => by cases h
  · have hconnect : (query sess .connect).wp (Does .free w) (answersContract w c) (fun _ s' => True ∧ Answers s'.db) s :=
      (commitless_query (fun h => by cases h)).answers (wp_read rfl (fun _ _ _ => ⟨fun _ => trivial, fun _ _ => trivial⟩)) ha
    refine Prog.wp_seq hconnect (fun _ s₁ h₁ => ?_) (fun _ _ _ t h => by cases h)
    rw [Prog.wp_ensure]
    refine Prog.wp_mono (fun r s₂ h₂ => ?_) _ (hbody s₁ h₁.2)
    have hclose : (query sess .close).wp (Does .free w) (answersContract w c)
        (fun _ s' => (∀ t, r = .ok t → Answered s'.db t c) ∧ Answers s'.db) s₂ :=
      (commitless_query (fun h => by cases h)).answers (wp_close (fun s₃ hr₃ _ t ht => (h₂.1 t ht).grows hr₃.grows)) h₂.2
    refine Prog.wp_mono (fun r' s₃ h₃ => ?_) _ hclose
    cases r' with
    | ok _ => exact h₃.1
    | error e => exact fun t h => by cases h

/-! ## The calls -/

/-- Nothing is asked of the tables that calls alone start with. -/
theorem alone_free (d : Tables) : Mode.free.alone = true → d = .empty := fun h => by cases h

/-- A posting is answered with what it commits, or with what was stored under its key. -/
theorem postTransaction_answers {env : Env} {req : PostTransactionRequest} (ha : Answers s.db) :
    (postTransaction env req).wp (Does .free w) (answersContract w (.postTransaction env req))
      (fun r s' => ∀ t, r = .ok t → Answered s'.db t (.postTransaction env req)) s := by
  refine withSession_answers ha (fun s₁ h₁ => inTransaction_answers h₁ (fun s₂ hw₂ h₂ => ?_))
  have hbase : (postWithClient env (env.session req.organizationId) req none).wp (Does .free w)
      (contract .free w (.postTransaction env req)) (fun r s' => ∀ t, r = .ok t →
        (s'.writes w = [] ∧ ∃ key, truthy req.idempotencyKey = some key ∧
          s'.db.liveResponse (env.session req.organizationId) key = some t) ∨
        ∃ row rows, Draft .free w (.postTransaction env req) (env.session req.organizationId) .empty row rows
          (storedResponses env (env.session req.organizationId) row t) s' ∧ Rowed .free env req none .empty row ∧
          List.Forall₂ (Entered (env.session req.organizationId) row.id) req.entries rows ∧ t = postedTransaction env req rows) s₂ := by
    refine postWithClient_wp hw₂ (alone_free _) (fun h => by cases h) (fun e s' _ t h => by cases h) ?_ ?_
    · intro key t s' hkey hw _ hlive t' ht'
      cases ht'
      exact Or.inl ⟨hw, key, hkey, hlive⟩
    · intro row rows s' hdraft hrow hentered t' ht'
      cases ht'
      exact Or.inr ⟨row, rows, hdraft, hrow, hentered, rfl⟩
  refine Prog.wp_mono (fun r s' h => ⟨fun t ht => ?_, h.2⟩) _ (commitless_postWithClient.answers hbase h₂)
  rcases h.1 t ht with ⟨hw, key, hkey, hlive⟩ | ⟨row, rows, hdraft, hrow, hentered, rfl⟩
  · obtain ⟨r, hr, rfl⟩ := Option.map_eq_some_iff.1 hlive
    have hfound := List.find?_some hr
    simp only [Bool.and_eq_true, decide_eq_true_eq] at hfound
    refine Or.inl ⟨hw, Or.inr ⟨key, hkey, ?_⟩⟩
    rw [← hfound.1.1]
    exact h.2 r (List.mem_of_find?_eq_some hr)
  · refine Or.inr ⟨row, rows, _, hdraft.ready hrow.reverses, ?_, ⟨hrow.id.symm, hdraft.organizationId.symm, rfl⟩, ?_⟩
    · intro r hr
      obtain ⟨key, hkey, rfl⟩ := List.mem_map.1 hr
      exact ⟨Option.mem_toList.1 hkey, rfl⟩
    · intro d d' _ _ hbooked
      refine Or.inl ⟨row.idempotencyKey, hrow.key, hbooked, rfl, ?_⟩
      rw [show (postedTransaction env req rows).id = row.id from hrow.id.symm]
      exact hentered

theorem commitless_reversal {env : Env} {organizationId : String} {transactionId : UuidText} {reason : String} :
    Commitless (reversal env organizationId transactionId reason) := by
  refine Prog.calls_bind (commitless_query (fun h => by cases h)) (fun found => ?_)
  cases found with
  | none => exact Prog.calls_throw _
  | some original =>
    refine Prog.calls_bind (commitless_query (fun h => by cases h)) (fun entries => Prog.calls_ite (Prog.calls_throw _) ?_)
    refine Prog.calls_bind commitless_postWithClient (fun t => ?_)
    exact Prog.calls_bind (commitless_query (fun h => by cases h)) (fun _ => Prog.calls_pure _)

/-- A reversal is answered with the transaction that takes back another. -/
theorem reverseTransaction_answers {env : Env} {organizationId : String} {transactionId : UuidText} {reason : String}
    (ha : Answers s.db) :
    (reverseTransaction env organizationId transactionId reason).wp (Does .free w)
      (answersContract w (.reverseTransaction env organizationId transactionId reason))
      (fun r s' => ∀ t, r = .ok t → Answered s'.db t (.reverseTransaction env organizationId transactionId reason)) s := by
  rw [reverseTransaction_eq]
  refine withSession_answers ha (fun s₁ h₁ => inTransaction_answers h₁ (fun s₂ hw₂ h₂ => ?_))
  refine commitless_reversal.answers (reversal_wp rfl hw₂ (alone_free _) (fun h => by cases h)
    (fun e s' _ t h => by cases h) ?_) h₂
  rintro t row rows s' hready ⟨htid, horg, hrows⟩ hid hkey ⟨o, ho, hrev⟩ t' ht'
  cases ht'
  refine Or.inr ⟨row, rows, [], hready, by simp, ⟨htid, horg.trans hready.organizationId.symm, hrows⟩, fun d d' hg hadds hbooked => ?_⟩
  obtain ⟨-, ⟨q, hq, hqo⟩, heff⟩ := hready.reversal o hrev
  have hq' := hg.posts q hq
  refine ⟨hkey ▸ hbooked, htid.trans hid, o, ho, ⟨q, hadds.grows.posts q hq', hqo⟩, fun a => ?_⟩
  rw [hrows, heff a, effect_eq, effect_eq, ← hqo, hadds.grows.entries q hq', hg.entries q hq]

/-- Every call is answered with what is in the books. -/
theorem program_answers (ha : Answers s.db) : c.program.wp (Does .free w) (answersContract w c)
    (fun r s' => ∀ t, r = .ok (.transaction t) → Answered s'.db t c) s := by
  have hmap : ∀ {p : Action Transaction},
      p.wp (Does .free w) (answersContract w c) (fun r s' => ∀ t, r = .ok t → Answered s'.db t c) s →
      (do return .transaction (← p) : Action Reply).wp (Does .free w) (answersContract w c)
        (fun r s' => ∀ t, r = .ok (.transaction t) → Answered s'.db t c) s := by
    intro p hp
    refine Prog.wp_seq hp (fun t s' h t' ht' => ?_) (fun e s' _ t h => by cases h)
    cases ht'
    exact h t rfl
  cases c with
  | createAccount env organizationId code name type currency =>
    have hcommitless : Commitless (createAccount env organizationId code name type currency) := by
      unfold createAccount withSession
      refine Prog.calls_ite (Prog.calls_throw _) (Prog.calls_bind (commitless_query (fun h => by cases h)) (fun _ => ?_))
      refine Prog.calls_ensure (Prog.calls_bind (commitless_query (fun h => by cases h)) (fun _ => ?_))
        (commitless_query (fun h => by cases h))
      exact Prog.calls_bind (commitless_query (fun h => by cases h)) (fun _ => Prog.calls_pure _)
    exact Prog.wp_seq (hcommitless.answers (createAccount_wp (alone_free _)) ha) (fun _ _ _ t h => by cases h)
      (fun _ _ _ t h => by cases h)
  | postTransaction env req => exact hmap (postTransaction_answers ha)
  | reverseTransaction env organizationId transactionId reason => exact hmap (reverseTransaction_answers ha)

end

/-! ## Runs -/

/-- The outline of interleaved calls, with what is stored and what is answered. -/
def answersOutline : Machine.Outline machine where
  inv s := Inv .free s ∧ Answers s.db
  rely := Rely .free
  guar := Guar .free
  compat _ _ _ _ := True
  post _ c r s := ∀ t, r = .ok (.transaction t) → Answered s.db t c

theorem answersOutline_sound : answersOutline.Sound (.any machine) := by
  have hs : (outline .free).Sound (.any machine) := outline_sound rfl (fun h => by cases h) (fun h => by cases h)
  refine ⟨hs.refl, hs.trans, fun _ _ _ _ _ => trivial, ?_, ?_, ?_⟩
  · intro w c w' c' s s' hne _ hi h
    exact hs.guar w c w' c' s s' hne ⟨rfl, fun h => by cases h⟩ hi.1 h
  · intro cfg c hi _
    refine ⟨fun _ _ => trivial, ?_⟩
    exact Prog.wp_calls (fun o s r s' he => ⟨fun ha => (by cases ha), he.2⟩) _ (program_answers hi.2)
  · intro w s hi
    exact ⟨⟨(hs.crash w s hi.1).1, hi.2⟩, (hs.crash w s hi.1).2⟩

theorem answersOutline_empty : answersOutline.inv .empty := ⟨inv_empty _, by simp [Answers, State.empty, Tables.empty]⟩

end Ledger

end Archisynapse
