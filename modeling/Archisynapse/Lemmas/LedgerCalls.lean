import Archisynapse.Lemmas.LedgerPosting

/-!
# What the ledger's calls keep

A draft that is ready is committed (`Ready.inv_commit`, `Ready.guar_commit`); from that, the weakest preconditions of
`createAccount`, `postTransaction` and `reverseTransaction`, and what each of them does when it is the only call open.
-/

namespace Archisynapse

namespace Ledger

/-! ## Commit -/

/-- The mark a reversal leaves on the transaction it reverses. -/
def reversalMark : Option Uuid → List Write
  | none => []
  | some t => [.status t .reversed]

/-- A draft that may be committed: a posting, or the reversal of a transaction that is there, with its opposite effect. -/
structure Ready (m : Mode) (w : Nat) (c : Call) (sess : Session) (d₀ : Tables) (row : TransactionRow) (rows : List EntryRow)
    (responses : List ResponseRow) (s : State) : Prop where
  writes : ∃ rest, s.writes w = .transaction row :: rest ++ reversalMark row.reverses ∧ (∀ x ∈ rest, x.isBook = true) ∧
    entryRows rest = rows
  responses : responseRows (s.writes w) = responses
  drafting : Drafting m w c sess row.id d₀ s
  organizationId : row.organizationId = sess.organizationId
  status : row.status = .posted
  balanced : debitSum rows row.id = creditSum rows row.id
  reversal : ∀ t, row.reverses = some t → c.reverses = some t ∧ (∃ q ∈ s.db.posts, q.id = t) ∧
    ∀ a, accountSum rows a = -effect s.db.entries t a

section

variable {m : Mode} {w : Nat} {c : Call} {sess : Session} {d₀ : Tables} {s s' : State} {row : TransactionRow}
  {rows : List EntryRow} {responses : List ResponseRow}

theorem Ready.rely (h : Ready m w c sess d₀ row rows responses s) (hr : Rely m w c s s') : Ready m w c sess d₀ row rows responses s' where
  writes := by rw [hr.writes]; exact h.writes
  responses := by rw [hr.writes]; exact h.responses
  drafting := h.drafting.rely hr
  organizationId := h.organizationId
  status := h.status
  balanced := h.balanced
  reversal t ht := by
    obtain ⟨hc, ⟨q, hq, rfl⟩, heff⟩ := h.reversal t ht
    refine ⟨hc, ⟨q, hr.grows.posts q hq, rfl⟩, fun a => ?_⟩
    rw [heff a, effect_eq, effect_eq, hr.grows.entries q hq]

/-- What a commit adds to the tables. -/
theorem Ready.adds (h : Ready m w c sess d₀ row rows responses s) (hi : Inv m s) : Adds s.db (s.view w) row rows := by
  obtain ⟨rest, hw, hbook, hrows⟩ := h.writes
  have hmark : (reversalMark row.reverses).filterMap Write.transaction? = [] ∧ entryRows (reversalMark row.reverses) = [] := by
    cases row.reverses <;> exact ⟨rfl, rfl⟩
  have hpending : entryRows (s.writes w) = rows := by
    rw [hw, entryRows_append, entryRows_cons, hrows, hmark.2]
    simp [Write.entryOf]
  refine ⟨?_, ?_, ?_, chart_foldl _ _, ?_, h.balanced⟩
  · exact hi.fresh w row (by rw [hw]; simp)
  · unfold State.view
    rw [posts_foldl, hw, List.filterMap_append, hmark.1, List.filterMap_cons, filterMap_transaction_of_isBook hbook]
    rfl
  · rw [State.entries_view, hpending]
  · intro e he
    have hrow := h.drafting.rows e (by rw [hpending]; exact he)
    rw [h.organizationId]
    exact hrow

/-- The balances after a commit, where they are followed. -/
theorem Ready.balances (h : Ready m w c sess d₀ row rows responses s) (hi : Inv m s) (ht : m.tallies = true) :
    Balances (s.view w) := by
  have htallied := h.drafting.tallied ht
  intro x hx
  by_cases htouch : s.touches w x.id
  · have hlast := htallied.touched x.id htouch
    rcases balance_foldl _ _ hx with h₁ | ⟨h₁, -⟩
    · exact Option.some.inj (h₁.symm.trans hlast)
    · rw [h₁] at hlast
      cases hlast
  · have hlast := htallied.untouched x.id htouch
    rcases balance_foldl _ _ hx with h₁ | ⟨-, y, hy, hid, hbal⟩
    · rw [h₁] at hlast
      cases hlast
    · have hzero : accountSum (entryRows (s.writes w)) x.id = 0 :=
        sumWhere_eq_zero (fun e he hacc => absurd ⟨e, he, of_decide_eq_true hacc⟩ htouch)
      rw [← hbal, hi.balances ht y hy, hid, State.entries_view, accountSum_append, hzero, add_zero]

/-- The transactions after a commit: the new one, and the mark on the one it reverses. -/
theorem Ready.transactions (h : Ready m w c sess d₀ row rows responses s) :
    (s.view w).transactions = match row.reverses with
      | none => s.db.transactions ++ [row]
      | some t => updateKey (·.id) t (fun x => { x with status := .reversed }) (s.db.transactions ++ [row]) := by
  obtain ⟨rest, hw, hbook, -⟩ := h.writes
  have hrest : (rest.foldl Tables.apply (s.db.apply (.transaction row))).transactions = s.db.transactions ++ [row] :=
    transactions_foldl_of_isBook hbook _
  unfold State.view
  rw [hw, List.foldl_append, List.foldl_cons]
  cases row.reverses with
  | none => exact hrest
  | some t =>
    simp only [reversalMark, List.foldl_cons, List.foldl_nil, Tables.apply]
    exact congrArg _ hrest

/-- A commit leaves the marks of the transactions it does not reverse. -/
theorem Ready.unreversed (h : Ready m w c sess d₀ row rows responses s) {t : Uuid} (ht : row.reverses ≠ some t) :
    Unreversed (s.view w) t ↔ Unreversed s.db t := by
  have hrow : row.status ≠ .reversed := by
    rw [h.status]
    exact TransactionStatus.noConfusion
  unfold Unreversed
  rw [h.transactions]
  cases hrev : row.reverses with
  | none =>
    constructor
    · exact fun hu x hx => hu x (List.mem_append_left _ hx)
    · intro hu x hx hid
      rcases List.mem_append.1 hx with hx | hx
      · exact hu x hx hid
      · rw [List.mem_singleton.1 hx]
        exact hrow
  | some t' =>
    have hne : t ≠ t' := fun he => ht (by rw [hrev, he])
    constructor
    · exact fun hu x hx hid => hu x (mem_updateKey.2 (Or.inr ⟨List.mem_append_left _ hx, fun he => hne (hid.symm.trans he)⟩)) hid
    · intro hu x hx hid
      rcases mem_updateKey.1 hx with ⟨y, -, hy, rfl⟩ | ⟨hx, -⟩
      · exact absurd (hid.symm.trans hy) hne
      · rcases List.mem_append.1 hx with hx | hx
        · exact hu x hx hid
        · rw [List.mem_singleton.1 hx]
          exact hrow

/-- A transaction that a commit reverses is marked. -/
theorem Ready.marked (h : Ready m w c sess d₀ row rows responses s) {t : Uuid} (ht : row.reverses = some t) :
    ¬ Unreversed (s.view w) t := by
  intro hu
  obtain ⟨-, ⟨q, hq, hid⟩, -⟩ := h.reversal t ht
  obtain ⟨x, hx, rfl⟩ := List.mem_map.1 hq
  refine hu { x with status := .reversed } ?_ hid rfl
  rw [h.transactions, ht]
  exact mem_updateKey.2 (Or.inl ⟨x, List.mem_append_left _ hx, hid, rfl⟩)

/-- Guarded reversals reverse at most once. -/
theorem Ready.once (h : Ready m w c sess d₀ row rows responses s) (hi : Inv m s) (hg : m.guarded = true) : Once (s.view w) := by
  have hrev : ∀ t, (s.view w).reversals t = s.db.reversals t ++ if row.reverses = some t then [post row] else [] := by
    intro t
    unfold Tables.reversals
    rw [(h.adds hi).posts, List.filter_append, List.filter_cons]
    by_cases ht : row.reverses = some t
    · simp [ht, post]
    · simp [ht, post]
  have honce := hi.once hg
  constructor
  · intro t
    rw [hrev t]
    by_cases ht : row.reverses = some t
    · simp [honce.marked t (h.drafting.guard hg t (h.reversal t ht).1), ht]
    · simpa [ht] using honce.atMost t
  · intro t hu
    by_cases ht : row.reverses = some t
    · exact absurd hu (h.marked ht)
    · rw [hrev t, if_neg ht, List.append_nil]
      exact honce.marked t ((h.unreversed ht).1 hu)

/-- A commit keeps the invariant. -/
theorem Ready.inv_commit (h : Ready m w c sess d₀ row rows responses s) (hi : Inv m s) : Inv m (s.commit w) := by
  have hadds := h.adds hi
  refine ⟨hi.books.adds hadds ?_, h.balances hi, h.once hi, ?_, ?_⟩
  · intro t ht
    exact (h.reversal t ht).2
  · intro w' row' hr p hp
    by_cases hw : w' = w
    · subst hw
      simp at hr
    · rw [s.writes_commit_of_ne hw] at hr
      rw [State.db_commit, hadds.posts, List.mem_append, List.mem_singleton] at hp
      rcases hp with hp | rfl
      · exact hi.fresh w' row' hr p hp
      · obtain ⟨rest, hws, -, -⟩ := h.writes
        exact hi.apart w w' row row' (Ne.symm hw) (by rw [hws]; simp) hr
  · intro w₁ w₂ row₁ row₂ hne hr₁ hr₂
    by_cases hw₁ : w₁ = w
    · subst hw₁
      simp at hr₁
    · by_cases hw₂ : w₂ = w
      · subst hw₂
        simp at hr₂
      · rw [s.writes_commit_of_ne hw₁] at hr₁
        rw [s.writes_commit_of_ne hw₂] at hr₂
        exact hi.apart w₁ w₂ row₁ row₂ hne hr₁ hr₂

/-- A commit adds to the books, and marks only what its call reverses. -/
theorem Ready.guar_commit (h : Ready m w c sess d₀ row rows responses s) (hi : Inv m s) (hapart : m.apart = true → s.Apart w) :
    Guar m w c s (s.commit w) where
  writes _ hw := s.writes_commit_of_ne hw
  grows := (h.adds hi).grows
  guarded _ t hc hu := (h.unreversed (fun ht => hc (h.reversal t ht).1)).2 hu
  sums hm w' hne a ha := by
    have hzero : accountSum (entryRows (s.writes w)) a = 0 :=
      sumWhere_eq_zero (fun e he hacc => absurd ha (hapart hm w' hne a ⟨e, he, of_decide_eq_true hacc⟩))
    rw [State.db_commit, State.entries_view, accountSum_append, hzero, add_zero]

/-- Committing nothing. -/
theorem commit_nil (hw : s.writes w = []) : s.commit w = s.discard w := by
  unfold State.commit
  rw [State.view_of_nil hw]
  rfl

/-! ## Sessions and transactions -/

/-- What a transaction's body leaves: nothing, when its result was stored before, or a draft that may be committed. `R` says
what the result has to do with the draft. -/
def Body (m : Mode) (w : Nat) (c : Call) (sess : Session) (d₀ : Tables) (replay : Transaction → Prop)
    (R : Transaction → TransactionRow → List EntryRow → List ResponseRow → Prop) (r : Except LedgerError Transaction)
    (s : State) : Prop :=
  match r with
  | .ok t => (s.writes w = [] ∧ (m.alone = true → s.db = d₀ ∧ replay t)) ∨
      ∃ row rows responses, Ready m w c sess d₀ row rows responses s ∧ (m.alone = true → R t row rows responses)
  | .error _ => m.alone = true → s.db = d₀

/-- What a call that runs alone leaves: the tables as they were when it throws or its result was stored before, else the tables
with a posting added and the responses it stores. -/
def Outcome (m : Mode) (d₀ : Tables) (replay : Transaction → Prop)
    (R : Transaction → TransactionRow → List EntryRow → List ResponseRow → Prop) (r : Except LedgerError Transaction)
    (s : State) : Prop :=
  m.alone = true →
    match r with
    | .ok t => (s.db = d₀ ∧ replay t) ∨ ∃ row rows responses, Adds d₀ s.db row rows ∧
        s.db.responses = responses.foldl storeResponse d₀.responses ∧ R t row rows responses
    | .error _ => s.db = d₀

/-- A body in a transaction: what it drafts is committed, or everything is given up. -/
theorem inTransaction_wp {body : Action Transaction} {replay : Transaction → Prop}
    {R : Transaction → TransactionRow → List EntryRow → List ResponseRow → Prop} (hdb : m.alone = true → s.db = d₀)
    (hbody : ∀ s₁, Rely m w c s s₁ → Inv m (s₁.discard w) →
      body.wp (Does m w) (contract m w c) (Body m w c sess d₀ replay R) (s₁.discard w)) :
    (inTransaction sess body).wp (Does m w) (contract m w c) (Outcome m d₀ replay R) s := by
  have hrollback : ∀ (e : LedgerError) (s : State), (m.alone = true → s.db = d₀) →
      (do query sess .rollback; throw e : Action Transaction).wp (Does m w) (contract m w c) (Outcome m d₀ replay R) s := by
    intro e s hdb
    rw [Prog.wp_bind]
    refine wp_rollback (fun s₁ hr _ r => ?_)
    cases r with
    | ok _ => exact fun hal => (hr.alone hal).trans (hdb hal)
    | error _ => exact fun hal => (hr.alone hal).trans (hdb hal)
  unfold inTransaction
  rw [Prog.wp_tryCatch]
  rw [Prog.wp_bind]
  refine wp_begin (fun s₁ hr₁ hi₁ => ⟨fun e => hrollback e s₁ (fun hal => (hr₁.alone hal).trans (hdb hal)), ?_⟩)
  dsimp only
  rw [Prog.wp_bind]
  refine Prog.wp_mono ?_ body (hbody s₁ hr₁ (hi₁.discard w))
  intro r s₂ hr₂
  cases r with
  | error e => exact hrollback e s₂ hr₂
  | ok t =>
    dsimp only
    rw [Prog.wp_bind]
    refine wp_commit (fun s₃ hr₃ hi₃ hapart => ?_)
    rcases hr₂ with ⟨hw, hrep⟩ | ⟨row, rows, responses, hready, hR⟩
    · have hw₃ := hr₃.writes.trans hw
      have hdb₃ : m.alone = true → s₃.db = d₀ := fun hal => (hr₃.alone hal).trans (hrep hal).1
      rw [commit_nil hw₃]
      refine ⟨fun e => hrollback e _ hdb₃, hi₃.discard w, .discard m w c s₃, ?_⟩
      exact fun hal => Or.inl ⟨hdb₃ hal, (hrep hal).2⟩
    · have hready₃ := hready.rely hr₃
      refine ⟨fun e => hrollback e _ hready₃.drafting.db, hready₃.inv_commit hi₃, hready₃.guar_commit hi₃ hapart, ?_⟩
      intro hal
      refine Or.inr ⟨row, rows, responses, ?_, ?_, hR hal⟩
      · rw [← hready₃.drafting.db hal]
        exact hready₃.adds hi₃
      · rw [← hready₃.drafting.db hal, ← hready₃.responses]
        exact responses_foldl _ _

/-- A body on a session. -/
theorem withSession_wp {α : Type} {body : Action α} {Q : Except LedgerError α → State → Prop}
    (hthrow : ∀ e s₁, Rely m w c s s₁ → Q (.error e) s₁)
    (hstable : ∀ r s₁ s₂, Q r s₁ → Rely m w c s₁ s₂ → Q r (s₂.discard w))
    (hbody : ∀ s₁, Rely m w c s s₁ → Inv m s₁ → body.wp (Does m w) (contract m w c) Q s₁) :
    (withSession sess body).wp (Does m w) (contract m w c) Q s := by
  unfold withSession
  split
  · exact hthrow _ s (.refl _ _ _ _)
  · rw [Prog.wp_bind]
    refine wp_read rfl (fun s₁ hr₁ hi₁ => ⟨fun e => hthrow e s₁ hr₁, fun _ _ => ?_⟩)
    dsimp only
    rw [Prog.wp_ensure]
    refine Prog.wp_mono ?_ body (hbody s₁ hr₁ hi₁)
    intro r s₂ hq
    exact wp_close (fun s₃ hr₃ _ => hstable r s₂ s₃ hq hr₃)

/-! ## The calls -/

/-- A draft that reverses nothing is ready. -/
theorem Draft.ready (h : Draft m w c sess d₀ row rows responses s) (hrev : row.reverses = none) :
    Ready m w c sess d₀ row rows responses s := by
  obtain ⟨rest, hw, hbook, hrows⟩ := h.writes
  refine ⟨⟨rest, ?_, hbook, hrows⟩, h.responses, h.drafting, h.organizationId, h.status, h.balanced, ?_⟩
  · rw [hw, hrev]
    simp [reversalMark]
  · intro t ht
    rw [hrev] at ht
    cases ht

/-- What a posting's result has to do with what it adds. -/
structure Posts (env : Env) (sess : Session) (req : PostTransactionRequest) (d : Tables) (t : Transaction)
    (row : TransactionRow) (rows : List EntryRow) (responses : List ResponseRow) : Prop where
  result : t = postedTransaction env req rows
  rowed : Rowed .single env req none d row
  entries : List.Forall₂ (Entered sess row.id) req.entries rows
  organizationId : row.organizationId = sess.organizationId
  responses : responses = storedResponses env sess row t

/-- A result that was stored before. -/
def Replays (d : Tables) (sess : Session) (req : PostTransactionRequest) (t : Transaction) : Prop :=
  ∃ key, truthy req.idempotencyKey = some key ∧ d.liveResponse sess key = some t

theorem postTransaction_wp {env : Env} {req : PostTransactionRequest} (hdb : m.alone = true → s.db = d₀)
    (hguard : m.guarded = true → ∀ t, c.reverses = some t → Unreversed s.db t) :
    (postTransaction env req).wp (Does m w) (contract m w c)
      (Outcome m d₀ (Replays d₀ (env.session req.organizationId) req) (Posts env (env.session req.organizationId) req d₀)) s := by
  unfold postTransaction
  refine withSession_wp (fun e s₁ hr hal => (hr.alone hal).trans (hdb hal)) ?_ (fun s₁ hr₁ hi₁ => ?_)
  · intro r s₁ s₂ hq hr hal
    have hrest := hq hal
    rw [State.db_discard, hr.alone hal]
    exact hrest
  · refine inTransaction_wp (fun hal => (hr₁.alone hal).trans (hdb hal)) (fun s₂ hr₂ hi₂ => ?_)
    have hr := hr₁.trans hr₂
    refine postWithClient_wp (s₂.writes_discard w) (fun hal => (hr.alone hal).trans (hdb hal))
      (fun hg t ht => hr.guarded hg t ht (hguard hg t ht)) (fun e s' h => h) ?_ ?_
    · intro key t s' hkey hw hdb' hresp
      refine Or.inl ⟨hw, fun hal => ⟨hdb' hal, key, hkey, ?_⟩⟩
      rw [← hdb' hal]
      exact hresp
    · intro row rows s' hdraft hrow hentered
      refine Or.inr ⟨row, rows, _, hdraft.ready hrow.reverses, fun hal => ?_⟩
      exact ⟨rfl, ⟨hrow.id, hrow.reverses, hrow.key, fun _ => hrow.unused hal⟩, hentered, hdraft.organizationId, rfl⟩

/-- Entries that take back stored ones have the opposite sums. -/
theorem accountSum_reversal {id : Uuid} {es rows : List EntryRow}
    (h : List.Forall₂ (Entered sess id) (es.map reversalEntry) rows) (a : Uuid) : accountSum rows a = -accountSum es a := by
  induction es generalizing rows with
  | nil =>
    cases h
    rfl
  | cons e es ih =>
    rw [List.map_cons] at h
    cases h with
    | cons he hes =>
      rename_i row rows
      have hacc : row.accountId = e.accountId := (Option.some.inj he.accountId).symm
      have hamount : row.amount = e.amount := Decimal.toNumeric_ofNumeric he.amount
      have hside : row.debitCredit = e.debitCredit.swap := he.debitCredit
      have hsigned : row.signed = -e.signed := by
        unfold EntryRow.signed
        rw [hside, hamount]
        cases e.debitCredit <;> simp [DebitCredit.swap]
      have hrest := ih hes
      unfold accountSum at hrest ⊢
      rw [sumWhere_cons, sumWhere_cons, hrest, hacc, hsigned]
      split <;> omega

/-- The entries of a transaction of the organization are seen on its sessions. -/
theorem entriesOf_entriesSeen {d : Tables} (hb : Books d) {t : Uuid} {p : Post} (hp : p ∈ d.posts) (hid : p.id = t)
    (ho : p.organizationId = sess.organizationId) : entriesOf (d.entriesSeen sess) t = entriesOf d.entries t := by
  unfold entriesOf Tables.entriesSeen
  rw [List.filter_filter]
  refine List.filter_congr (fun e he => ?_)
  by_cases ht : e.transactionId = t
  · obtain ⟨q, hq, hqid, hqo⟩ := hb.transaction e he
    have hpq : q = p := List.inj_on_of_nodup_map hb.ids hq hp (by rw [hqid, ht, hid])
    simp [ht, Session.sees, ← hqo, hpq, ho]
  · simp [ht]

/-- What a reversal's result has to do with what it adds. -/
def Reverses (env : Env) (transactionId : UuidText) (t : Transaction) (row : TransactionRow) (_ : List EntryRow)
    (responses : List ResponseRow) : Prop :=
  t.id = row.id ∧ row.id = env.uuid 0 ∧ row.idempotencyKey = none ∧ responses = [] ∧
    ∃ original, transactionId.value = some original ∧ row.reverses = some original

/-- Marking the transaction a draft reverses makes the draft ready. -/
theorem Draft.markReversed (h : Draft m w c sess d₀ row rows responses s) {t : Uuid} (hrev : row.reverses = some t)
    (hc : c.reverses = some t) (hq : ∃ q ∈ s.db.posts, q.id = t)
    (heff : ∀ a, accountSum rows a = -effect s.db.entries t a) :
    Ready m w c sess d₀ row rows responses (s.write w (.status t .reversed)) := by
  obtain ⟨rest, hw, hbook, hrows⟩ := h.writes
  refine ⟨⟨rest, ?_, hbook, hrows⟩, ?_, ⟨?_, h.drafting.db, ?_, h.drafting.guard⟩, h.organizationId, h.status, h.balanced, ?_⟩
  · rw [State.writes_write, hw, hrev]
    rfl
  · rw [State.writes_write, responseRows_append, h.responses]
    exact List.append_nil _
  · intro e he
    rw [State.writes_write, entryRows_append] at he
    exact h.drafting.rows e (by simpa [Write.entryOf] using he)
  · exact fun ht => (h.drafting.tallied ht).write rfl (by simp)
  · intro t' ht'
    obtain rfl : t = t' := Option.some.inj (hrev.symm.trans ht')
    exact ⟨hc, hq, heff⟩

/-- What a reversal does in its transaction. -/
def reversal (env : Env) (organizationId : String) (transactionId : UuidText) (reason : String) : Action Transaction :=
  let sess := env.session organizationId
  do
    match ← query sess (.selectTransaction transactionId) with
    | none => throw (.error s!"Transaction {transactionId.text} not found")
    | some original => do
      let entries ← query sess (.selectEntries transactionId)
      if entries.isEmpty then
        throw (.error s!"Transaction {transactionId.text} has no entries (corrupted state)")
      else do
        let reversal ← postWithClient env sess (reversalRequest organizationId transactionId reason original entries)
          transactionId.value
        query sess (.updateTransactionStatus .reversed transactionId)
        pure reversal

theorem reverseTransaction_eq (env : Env) (organizationId : String) (transactionId : UuidText) (reason : String) :
    reverseTransaction env organizationId transactionId reason =
      withSession (env.session organizationId) (inTransaction (env.session organizationId)
        (reversal env organizationId transactionId reason)) := rfl

/-- A reversal drafts the opposite of a transaction that is there, and marks that as reversed. -/
theorem reversal_wp {env : Env} {organizationId : String} {transactionId : UuidText} {reason : String}
    (hc : c.reverses = transactionId.value) (hw : s.writes w = []) (hdb : m.alone = true → s.db = d₀)
    (hguard : m.guarded = true → ∀ t, c.reverses = some t → Unreversed s.db t)
    {Q : Except LedgerError Transaction → State → Prop} (herr : ∀ e s', (m.alone = true → s'.db = d₀) → Q (.error e) s')
    (hok : ∀ t row rows s', Ready m w c (env.session organizationId) d₀ row rows [] s' →
      (t.id = row.id ∧ t.organizationId = organizationId ∧ t.entries = rows) → row.id = env.uuid 0 → row.idempotencyKey = none →
      (∃ o, transactionId.value = some o ∧ row.reverses = some o) → Q (.ok t) s') :
    (reversal env organizationId transactionId reason).wp (Does m w) (contract m w c) Q s := by
  unfold reversal
  rw [Prog.wp_bind]
  refine wp_read rfl (fun s₃ hr₃ hi₃ => ⟨fun e => herr e s₃ (fun hal => (hr₃.alone hal).trans (hdb hal)), ?_⟩)
  have hdb₃ : m.alone = true → s₃.db = d₀ := fun hal => (hr₃.alone hal).trans (hdb hal)
  have hw₃ : s₃.writes w = [] := hr₃.writes.trans hw
  intro found hfound
  obtain ⟨t, ht, rfl⟩ := selectBy_ok hfound
  dsimp only
  split
  · exact herr _ s₃ hdb₃
  · rename_i original horiginal
    rw [State.view_of_nil hw₃] at horiginal
    -- the original is a committed transaction of the organization, and stays one with the entries it has
    have hmem : post original ∈ s₃.db.posts := List.mem_map_of_mem (List.mem_of_find?_eq_some horiginal)
    have hkey := List.find?_some horiginal
    simp only [decide_eq_true_eq] at hkey
    obtain ⟨hid, ho⟩ := hkey
    rw [Prog.wp_bind]
    refine wp_read rfl (fun s₄ hr₄ hi₄ => ⟨fun e => herr e s₄ (fun hal => (hr₄.alone hal).trans (hdb₃ hal)), ?_⟩)
    have hdb₄ : m.alone = true → s₄.db = d₀ := fun hal => (hr₄.alone hal).trans (hdb₃ hal)
    have hw₄ : s₄.writes w = [] := hr₄.writes.trans hw₃
    have hmem₄ := hr₄.grows.posts _ hmem
    intro entries hentries
    obtain ⟨t', ht', rfl⟩ := selectBy_ok hentries
    obtain rfl : t = t' := Option.some.inj (ht.symm.trans ht')
    rw [State.view_of_nil hw₄, entriesOf_entriesSeen hi₄.books hmem₄ hid ho]
    dsimp only
    split
    · exact herr _ s₄ hdb₄
    · rw [Prog.wp_bind]
      have hguard₄ : m.guarded = true → ∀ t, c.reverses = some t → Unreversed s₄.db t := fun hg t ht =>
        hr₄.guarded hg t ht (hr₃.guarded hg t ht (hguard hg t ht))
      -- what the original is carries over the posting: no step of this call or of another takes it back
      refine Prog.wp_mono ?_ _ (Prog.wp_frame (F := fun s => post original ∈ s.db.posts ∧
          entriesOf s.db.entries t = entriesOf s₄.db.entries t) ?_ ?_ _ (postWithClient_wp hw₄ hdb₄ hguard₄
            (Q := fun r s' => match r with
              | .ok txn => ∃ row rows, Draft m w c (env.session organizationId) d₀ row rows [] s' ∧ row.id = env.uuid 0 ∧
                  row.idempotencyKey = none ∧ row.reverses = some t ∧
                  (txn.id = row.id ∧ txn.organizationId = organizationId ∧ txn.entries = rows) ∧ ∀ a, accountSum rows a = -effect s₄.db.entries t a
              | .error _ => m.alone = true → s'.db = d₀) (fun e s' h => h) ?_ ?_) ⟨hmem₄, rfl⟩)
      · rintro r s₅ ⟨hq, hmem₅, hes₅⟩
        cases r with
        | error e => exact herr e s₅ hq
        | ok txn =>
          obtain ⟨row, rows, hdraft, hrid, hkey, hrev, htxn, heff⟩ := hq
          dsimp only
          rw [Prog.wp_bind]
          refine wp_query rfl (fun s₆ hr₆ hi₆ => ⟨fun e => herr e s₆ (hdraft.rely hr₆).drafting.db, ?_⟩)
          intro r s₇ hp
          simp only [State.perform, ht] at hp
          obtain ⟨-, -, -, -, rfl⟩ := insert_ok hp
          have hmem₆ := hr₆.grows.posts _ hmem₅
          have hseen : (s₆.view w).transactions.any (fun x => decide (x.id = t) &&
              (env.session organizationId).sees x.organizationId) = true := by
            have hview : post original ∈ (s₆.view w).posts := by
              unfold State.view
              rw [posts_foldl]
              exact List.mem_append_left _ hmem₆
            obtain ⟨x, hx, hpost⟩ := List.mem_map.1 hview
            simp only [post, Post.mk.injEq] at hpost
            simp only [List.any_eq_true, Bool.and_eq_true, decide_eq_true_eq]
            exact ⟨x, hx, hpost.1.trans hid, by simp [Session.sees, hpost.2.1, ho]⟩
          rw [if_pos hseen]
          refine ⟨hi₆.write w rfl, .write m w c s₆ _, hok txn row rows _ ?_ htxn hrid hkey ⟨t, ht, hrev⟩⟩
          refine (hdraft.rely hr₆).markReversed hrev (hc.trans ht) ⟨_, hmem₆, hid⟩ (fun a => ?_)
          have hes₆ := hr₆.grows.entries _ hmem₅
          rw [show (post original).id = t from hid] at hes₆
          rw [heff a, effect_eq, effect_eq, hes₆, hes₅]
      · rintro s s' hrel ⟨h₁, h₂⟩
        have hes := hrel.grows.entries _ h₁
        rw [show (post original).id = t from hid] at hes
        exact ⟨hrel.grows.posts _ h₁, hes.trans h₂⟩
      · rintro s s' hgu ⟨h₁, h₂⟩
        have hes := hgu.grows.entries _ h₁
        rw [show (post original).id = t from hid] at hes
        exact ⟨hgu.grows.posts _ h₁, hes.trans h₂⟩
      · intro key txn s' hkey
        cases hkey
      · intro row rows s' hdraft hrow hentered
        have hkey : row.idempotencyKey = none := (Option.some.inj hrow.key).symm
        have hnone : storedResponses env (env.session organizationId) row (postedTransaction env
            (reversalRequest organizationId transactionId reason original (entriesOf s₄.db.entries t)) rows) = [] := by
          rw [storedResponses, hkey]
          rfl
        rw [hnone] at hdraft
        refine ⟨row, rows, hdraft, hrow.id, hkey, hrow.reverses.trans ht, ⟨hrow.id.symm, rfl, rfl⟩, fun a => ?_⟩
        rw [accountSum_reversal hentered a, effect_eq]


theorem reverseTransaction_wp {env : Env} {organizationId : String} {transactionId : UuidText} {reason : String}
    (hc : c.reverses = transactionId.value) (hdb : m.alone = true → s.db = d₀)
    (hguard : m.guarded = true → ∀ t, c.reverses = some t → Unreversed s.db t) :
    (reverseTransaction env organizationId transactionId reason).wp (Does m w) (contract m w c)
      (Outcome m d₀ (fun _ => False) (Reverses env transactionId)) s := by
  rw [reverseTransaction_eq]
  refine withSession_wp (fun e s₁ hr hal => (hr.alone hal).trans (hdb hal)) ?_ (fun s₁ hr₁ hi₁ => ?_)
  · intro r s₁ s₂ hq hr hal
    have hrest := hq hal
    rw [State.db_discard, hr.alone hal]
    exact hrest
  refine inTransaction_wp (fun hal => (hr₁.alone hal).trans (hdb hal)) (fun s₂ hr₂ hi₂ => ?_)
  have hr := hr₁.trans hr₂
  refine reversal_wp hc (s₂.writes_discard w) (fun hal => (hr.alone hal).trans (hdb hal))
    (fun hg t ht => hr.guarded hg t ht (hguard hg t ht)) (fun e s' h => h) ?_
  intro t row rows s' hready ht hid hkey hrev
  exact Or.inr ⟨row, rows, [], hready, fun _ => ⟨ht.1, hid, hkey, rfl, hrev⟩⟩

end

end Ledger

end Archisynapse
