import Archisynapse.Lemmas.LedgerContract

/-!
# What a posting drafts

The weakest preconditions of the parts of `postWithClient`: the entries one after another (`postEntries_wp`), the posting
(`postNew_wp`). What they leave pending is a draft: one new transaction and its entries, which balance.
-/

namespace Archisynapse

namespace Ledger

/-- A sum that is not a number stays one. -/
theorem foldl_addEntry_nan (entries : List PostJournalEntryRequest) (sums : Decimal × Decimal)
    (h : sums.1 = .nan ∨ sums.2 = .nan ∨ ∃ e ∈ entries, e.amount = .nan) :
    (entries.foldl addEntry sums).1 = .nan ∨ (entries.foldl addEntry sums).2 = .nan := by
  induction entries generalizing sums with
  | nil => simpa using h
  | cons e es ih =>
    have hcase : sums.1 = .nan ∨ sums.2 = .nan ∨ e.amount = .nan ∨ ∃ e ∈ es, e.amount = .nan := by simpa using h
    refine ih _ ?_
    unfold addEntry
    cases e.debitCredit with
    | debit =>
      rcases hcase with h | h | h | h
      · exact Or.inl (by rw [h]; rfl)
      · exact Or.inr (Or.inl h)
      · exact Or.inl (by rw [h]; exact Decimal.plus_nan_right _)
      · exact Or.inr (Or.inr h)
    | credit =>
      rcases hcase with h | h | h | h
      · exact Or.inl h
      · exact Or.inr (Or.inl (by rw [h]; rfl))
      · exact Or.inr (Or.inl (by rw [h]; exact Decimal.plus_nan_right _))
      · exact Or.inr (Or.inr h)

/-- A balanced request has no amount that is not a number. -/
theorem validateTransactionBalance_num {entries : List PostJournalEntryRequest}
    (h : validateTransactionBalance entries = true) : ∀ e ∈ entries, e.amount ≠ .nan := by
  intro e he hnan
  have hne := Decimal.not_equals_nan (foldl_addEntry_nan entries (.fin 0, .fin 0) (Or.inr (Or.inr ⟨e, he, hnan⟩)))
  simp [validateTransactionBalance, entrySums, hne] at h

/-- What a stored entry has of the request it was made for. -/
structure Entered (sess : Session) (transactionId : Uuid) (e : PostJournalEntryRequest) (row : EntryRow) : Prop where
  transactionId : row.transactionId = transactionId
  organizationId : row.organizationId = sess.organizationId
  accountId : e.accountId.value = some row.accountId
  debitCredit : row.debitCredit = e.debitCredit
  amount : e.amount.toNumeric = some (some row.amount)
  positive : 0 < row.amount

/-- The row of an entry insert. -/
theorem entryRow_ok {d : Tables} {sess : Session} {v : EntryValues} {row : EntryRow} (h : d.entryRow sess v = .ok row) :
    row.transactionId = v.transactionId ∧ row.organizationId = sess.organizationId ∧
      v.accountId.value = some row.accountId ∧ row.debitCredit = v.debitCredit ∧
      v.amount.toNumeric = some (some row.amount) ∧ 0 < row.amount := by
  unfold Tables.entryRow at h
  split at h
  · cases h
  · cases h
  · cases h
  · rename_i accountId amount hid hamount
    split at h
    · cases h
    · split at h
      · cases h
      · split at h
        · cases h
        · split at h
          · cases h
          · cases h
            exact ⟨rfl, rfl, hid, rfl, hamount, Int.not_le.1 (by assumption)⟩

/-- A session that sees every entry of an account sums them all. -/
theorem accountSum_entriesSeen {d : Tables} {sess : Session} {a : Uuid}
    (h : ∀ e ∈ d.entries, e.accountId = a → e.organizationId = sess.organizationId) :
    accountSum (d.entriesSeen sess) a = accountSum d.entries a := by
  unfold accountSum Tables.entriesSeen
  rw [sumWhere_filter]
  refine sumWhere_congr (fun e he => ?_)
  by_cases ha : e.accountId = a
  · simp [ha, Session.sees, h e he ha]
  · simp [ha]

/-- The balances a worker's open transaction has written: on each account it has entries on, what all entries add up to. -/
structure Tallied (s : State) (w : Nat) : Prop where
  touched : ∀ a, s.touches w a → lastBalance (s.writes w) a = some (accountSum (s.view w).entries a)
  untouched : ∀ a, ¬ s.touches w a → lastBalance (s.writes w) a = none

/-- A posting in progress: what its entries are, and, alone, that the committed tables are those it started with; that the balances
it has written are right, where they are followed; guarded, that what its call reverses is not reversed yet. -/
structure Drafting (m : Mode) (w : Nat) (c : Call) (sess : Session) (id : Uuid) (d₀ : Tables) (s : State) : Prop where
  rows : ∀ e ∈ entryRows (s.writes w), e.transactionId = id ∧ e.organizationId = sess.organizationId ∧ 0 < e.amount ∧
    s.db.HasAccount e.accountId sess.organizationId
  db : m.alone = true → s.db = d₀
  tallied : m.tallies = true → Tallied s w
  guard : m.guarded = true → ∀ t, c.reverses = some t → Unreversed s.db t

section

variable {m : Mode} {w : Nat} {c : Call} {sess : Session} {id : Uuid} {d₀ : Tables} {s s' : State}

/-- A worker touches what it touched. -/
theorem Rely.touches (h : Rely m w c s s') (a : Uuid) : s'.touches w a ↔ s.touches w a := by
  unfold State.touches
  rw [h.writes]

theorem Tallied.rely (h : Tallied s w) (hr : Rely m w c s s') (ht : m.tallies = true) : Tallied s' w := by
  refine ⟨fun a ha => ?_, fun a ha => ?_⟩
  · have ha := (hr.touches a).1 ha
    rw [hr.writes, h.touched a ha, State.entries_view, State.entries_view, accountSum_append, accountSum_append, hr.writes,
      hr.sums ht a ha]
  · rw [hr.writes]
    exact h.untouched a (fun ha' => ha ((hr.touches a).2 ha'))

/-- A write that is neither an entry nor a balance. -/
theorem Tallied.write (h : Tallied s w) {x : Write} (he : x.entryOf = none) (hb : ∀ id n, x ≠ .balance id n) :
    Tallied (s.write w x) w := by
  have hrows : entryRows ((s.write w x).writes w) = entryRows (s.writes w) := by
    rw [State.writes_write, entryRows_append, entryRows_cons, he]
    exact List.append_nil _
  have htouch : ∀ a, (s.write w x).touches w a ↔ s.touches w a := by
    intro a
    unfold State.touches
    rw [hrows]
  refine ⟨fun a ha => ?_, fun a ha => ?_⟩
  · rw [State.writes_write, lastBalance_concat _ hb, h.touched a ((htouch a).1 ha), State.entries_view, State.entries_view, hrows]
    rfl
  · rw [State.writes_write, lastBalance_concat _ hb]
    exact h.untouched a (fun ha' => ha ((htouch a).2 ha'))

/-- An entry, and the balance its trigger writes: what all entries add up to. -/
theorem Tallied.entry (h : Tallied s w) {row : EntryRow} {sum : Int}
    (hw : s'.writes w = s.writes w ++ [.entry row, .balance row.accountId sum])
    (hsums : ∀ a, s.touches w a ∨ a = row.accountId → accountSum s'.db.entries a = accountSum s.db.entries a)
    (hsum : sum = accountSum ((s.view w).entries ++ [row]) row.accountId) : Tallied s' w := by
  have hrows : entryRows (s'.writes w) = entryRows (s.writes w) ++ [row] := by
    rw [hw, entryRows_append]
    rfl
  have htouch : ∀ a, s'.touches w a ↔ s.touches w a ∨ a = row.accountId := by
    intro a
    unfold State.touches
    rw [hrows]
    simp only [List.mem_append, List.mem_singleton, or_and_right, exists_or, exists_eq_left]
    exact or_congr_right eq_comm
  have hlast : ∀ a, lastBalance (s'.writes w) a = if row.accountId = a then some sum else lastBalance (s.writes w) a := by
    intro a
    rw [hw, show [Write.entry row, .balance row.accountId sum] = [.entry row] ++ [.balance row.accountId sum] from rfl,
      ← List.append_assoc, lastBalance_concat_balance, lastBalance_concat _ (by simp)]
  have hall : ∀ a, s.touches w a ∨ a = row.accountId →
      accountSum (s'.view w).entries a = accountSum ((s.view w).entries ++ [row]) a := by
    intro a ha
    rw [State.entries_view, State.entries_view, hrows, ← List.append_assoc, accountSum_append, accountSum_append,
      accountSum_append, accountSum_append, hsums a ha]
  refine ⟨fun a ha => ?_, fun a ha => ?_⟩
  · have ha := (htouch a).1 ha
    rw [hlast, hall a ha]
    by_cases he : row.accountId = a
    · rw [if_pos he, ← he, hsum]
    · rw [if_neg he, h.touched a (ha.resolve_right (Ne.symm he)), accountSum_append]
      simp [accountSum, he]
  · have ha := fun ha' => ha ((htouch a).2 ha')
    rw [hlast, if_neg (fun he => ha (Or.inr he.symm))]
    exact h.untouched a (fun ha' => ha (Or.inl ha'))

theorem Drafting.rely (h : Drafting m w c sess id d₀ s) (hr : Rely m w c s s') : Drafting m w c sess id d₀ s' where
  rows e he := by
    rw [hr.writes] at he
    obtain ⟨ht, ho, hp, ha⟩ := h.rows e he
    exact ⟨ht, ho, hp, hr.grows.account _ _ ha⟩
  db ha := (hr.alone ha).trans (h.db ha)
  tallied ht := (h.tallied ht).rely hr ht
  guard hg t ht := hr.guarded hg t ht (h.guard hg t ht)

/-- An account of the organization has no entry of another in what the posting sees. -/
theorem Drafting.organization (h : Drafting m w c sess id d₀ s) (hb : Books s.db) {a : Uuid}
    (ha : s.db.HasAccount a sess.organizationId) :
    ∀ e ∈ (s.view w).entries, e.accountId = a → e.organizationId = sess.organizationId := by
  intro e he hea
  rw [State.entries_view, List.mem_append] at he
  rcases he with he | he
  · have hacc := hb.account e he
    rw [hea] at hacc
    exact hb.organization_unique hacc ha
  · exact (h.rows e he).2.1

/-- One entry: the insert, then the write of its trigger. -/
theorem insertEntry_wp {v : EntryValues} {a : Uuid} (hd : Drafting m w c sess id d₀ s) (hid : v.transactionId = id)
    (hv : v.accountId.value = some a) (ha : s.db.HasAccount a sess.organizationId)
    {Q : Except LedgerError EntryRow → State → Prop} (herr : ∀ e s', (m.alone = true → s'.db = d₀) → Q (.error e) s')
    (hok : ∀ row s' rest, Drafting m w c sess id d₀ s' → s'.writes w = s.writes w ++ rest →
      (∀ x ∈ rest, x.isBook = true) → entryRows rest = [row] → responseRows rest = [] →
      Entered sess id ⟨v.accountId, v.debitCredit, v.amount, v.description⟩ row → Q (.ok row) s') :
    (insertEntry sess v).wp (Does m w) (contract m w c) Q s := by
  unfold insertEntry
  rw [Prog.wp_bind]
  refine wp_query rfl (fun s₁ hr₁ hi₁ => ⟨fun e => herr e s₁ (hd.rely hr₁).db, ?_⟩)
  rintro ⟨row, sum⟩ s₂ hp
  have hd₁ := hd.rely hr₁
  obtain ⟨-, row', hrow, heq, rfl⟩ := insert_ok hp
  obtain ⟨rfl, rfl⟩ := Prod.mk.inj heq
  obtain ⟨ht, ho, hacc, hside, hamount, hpos⟩ := entryRow_ok hrow
  obtain rfl : row.accountId = a := Option.some.inj (hacc.symm.trans hv)
  have ha₁ := hr₁.grows.account _ _ ha
  refine ⟨hi₁.write w rfl, .write m w c s₁ _, ?_⟩
  simp only [List.foldl_cons, List.foldl_nil]
  rw [Prog.wp_bind]
  refine wp_query rfl (fun s₃ hr₃ hi₃ => ⟨fun e => herr e s₃ (fun hal => (hr₃.alone hal).trans (hd₁.db hal)), ?_⟩)
  rintro _ s₄ hp₃
  obtain ⟨-, -, -, -, rfl⟩ := insert_ok hp₃
  have hvisible : (s₃.view w).accounts.any (fun x => decide (x.id = row.accountId) && sess.sees x.organizationId) = true := by
    obtain ⟨x, hx, hxid, hxo⟩ := State.hasAccount_view.2 (hr₃.grows.account _ _ ha₁)
    simp only [List.any_eq_true, Bool.and_eq_true, decide_eq_true_eq]
    exact ⟨x, hx, hxid, by simp [Session.sees, hxo]⟩
  rw [if_pos hvisible]
  simp only [List.foldl_cons, List.foldl_nil]
  refine ⟨hi₃.write w rfl, .write m w c s₃ _, ?_⟩
  have hwrites : (s₃.write w (.balance row.accountId
      (accountSum ((s₁.view w).entriesSeen sess ++ [row]) row.accountId))).writes w = s.writes w ++
      [.entry row, .balance row.accountId (accountSum ((s₁.view w).entriesSeen sess ++ [row]) row.accountId)] := by
    rw [State.writes_write, hr₃.writes, State.writes_write, hr₁.writes, List.append_assoc]
    rfl
  refine hok row _ _ ?_ hwrites ?_ rfl rfl ⟨ht.trans hid, ho, hacc, hside, hamount, hpos⟩
  · refine ⟨?_, fun hal => ?_, fun htally => ?_, fun hg t ht => hr₃.guarded hg t ht (hd₁.guard hg t ht)⟩
    · intro e he
      rw [hwrites, entryRows_append, List.mem_append] at he
      rcases he with he | he
      · obtain ⟨h₁, h₂, h₃, h₄⟩ := hd.rows e he
        exact ⟨h₁, h₂, h₃, hr₃.grows.account _ _ (hr₁.grows.account _ _ h₄)⟩
      · obtain rfl : e = row := by simpa [Write.entryOf] using he
        exact ⟨ht.trans hid, ho, hpos, hr₃.grows.account _ _ ha₁⟩
    · exact (hr₃.alone hal).trans (hd₁.db hal)
    · refine (hd₁.tallied htally).entry (hwrites.trans (by rw [hr₁.writes])) ?_ ?_
      · intro b hb
        refine hr₃.sums htally b ?_
        unfold State.touches
        rw [State.writes_write, entryRows_append]
        rcases hb with ⟨e, he, heb⟩ | rfl
        · exact ⟨e, List.mem_append_left _ he, heb⟩
        · exact ⟨row, List.mem_append_right _ (by simp [Write.entryOf]), rfl⟩
      · rw [accountSum_append, accountSum_append, accountSum_entriesSeen (hd₁.organization hi₁.books ha₁)]
  · intro x hx
    simp only [List.mem_cons, List.not_mem_nil, or_false] at hx
    rcases hx with rfl | rfl <;> rfl

/-- The entries of a request, one after another. -/
theorem postEntries_wp {env : Env} {es : List PostJournalEntryRequest} {i : Nat} (hd : Drafting m w c sess id d₀ s)
    {Q : Except LedgerError (List EntryRow) → State → Prop}
    (herr : ∀ e s', (m.alone = true → s'.db = d₀) → Q (.error e) s')
    (hok : ∀ rows s' rest, Drafting m w c sess id d₀ s' → s'.writes w = s.writes w ++ rest →
      (∀ x ∈ rest, x.isBook = true) → entryRows rest = rows → responseRows rest = [] → List.Forall₂ (Entered sess id) es rows → Q (.ok rows) s') :
    (postEntries env sess id i es).wp (Does m w) (contract m w c) Q s := by
  induction es generalizing i s Q with
  | nil => exact hok [] s [] hd (by simp) (by simp) rfl rfl .nil
  | cons e es ih =>
    unfold postEntries
    rw [Prog.wp_bind]
    refine wp_read rfl (fun s₁ hr₁ hi₁ => ⟨fun e => herr e s₁ (hd.rely hr₁).db, ?_⟩)
    intro found hp
    obtain ⟨a, ha, rfl⟩ := selectBy_ok hp
    dsimp only
    split
    · exact herr _ s₁ (hd.rely hr₁).db
    · rename_i hfound
      have hacc : s₁.db.HasAccount a sess.organizationId := by
        rw [← State.hasAccount_view (w := w)]
        simpa [Tables.HasAccount] using hfound
      rw [Prog.wp_bind]
      refine insertEntry_wp (hd.rely hr₁) rfl ha hacc herr ?_
      intro row s₂ rest hd₂ hw₂ hbook hrow hresp hentered
      simp only [Prog.wp_bind]
      refine ih hd₂ herr ?_
      intro rows s₃ rest' hd₃ hw₃ hbook' hrows hresp' hentered'
      refine hok (row :: rows) s₃ (rest ++ rest') hd₃ ?_ ?_ ?_ ?_ (.cons hentered hentered')
      · rw [hw₃, hw₂, hr₁.writes, List.append_assoc]
      · intro x hx
        exact (List.mem_append.1 hx).elim (hbook x) (hbook' x)
      · rw [entryRows_append, hrow, hrows]
        rfl
      · rw [responseRows_append, hresp, hresp']
        rfl

end

/-! ## The posting -/

/-- The row of a transaction insert. -/
theorem transactionRow_ok {d : Tables} {sess : Session} {v : TransactionValues} {row : TransactionRow}
    (h : d.transactionRow sess v = .ok row) :
    row.id = v.id ∧ row.organizationId = sess.organizationId ∧ row.status = v.status ∧ row.reverses = v.reverses ∧
      (∀ p ∈ d.posts, p.id ≠ row.id) ∧ varcharOrNull 255 v.idempotencyKey = some row.idempotencyKey ∧
      ∀ key, row.idempotencyKey = some key → ∀ p ∈ d.posts, p.idempotencyKey ≠ some key := by
  unfold Tables.transactionRow at h
  split at h
  · rename_i hkey
    split at h
    · cases h
    · split at h
      · cases h
      · rename_i hid
        split at h
        · cases h
        · rename_i hunused
          cases h
          refine ⟨rfl, rfl, rfl, rfl, ?_, hkey, ?_⟩
          · simpa [Tables.posts, post] using hid
          · rintro key rfl
            simpa [Tables.posts, post] using hunused
  · cases h

/-- What the row of a posting has of its request: alone, no transaction had its key. -/
structure Rowed (m : Mode) (env : Env) (req : PostTransactionRequest) (reverses : Option Uuid) (d₀ : Tables)
    (row : TransactionRow) : Prop where
  id : row.id = env.uuid 0
  reverses : row.reverses = reverses
  key : varcharOrNull 255 (truthy req.idempotencyKey) = some row.idempotencyKey
  unused : m.alone = true → ∀ key, row.idempotencyKey = some key → ∀ p ∈ d₀.posts, p.idempotencyKey ≠ some key

/-- The response a posting stores, when it has a key. -/
def storedResponses (env : Env) (sess : Session) (row : TransactionRow) (t : Transaction) : List ResponseRow :=
  row.idempotencyKey.toList.map (fun key => ⟨key, sess.organizationId, t, env.now + responseLifetime⟩)

/-- A draft: one new transaction and its entries, balanced, the responses stored, and nothing else that touches the
transactions. -/
structure Draft (m : Mode) (w : Nat) (c : Call) (sess : Session) (d₀ : Tables) (row : TransactionRow) (rows : List EntryRow)
    (responses : List ResponseRow) (s : State) : Prop where
  writes : ∃ rest, s.writes w = .transaction row :: rest ∧ (∀ x ∈ rest, x.isBook = true) ∧ entryRows rest = rows
  responses : responseRows (s.writes w) = responses
  drafting : Drafting m w c sess row.id d₀ s
  organizationId : row.organizationId = sess.organizationId
  status : row.status = .posted
  balanced : debitSum rows row.id = creditSum rows row.id

section

variable {m : Mode} {w : Nat} {c : Call} {sess : Session} {d₀ : Tables} {s s' : State} {row : TransactionRow}
  {rows : List EntryRow} {responses : List ResponseRow}

theorem Draft.rely (h : Draft m w c sess d₀ row rows responses s) (hr : Rely m w c s s') :
    Draft m w c sess d₀ row rows responses s' :=
  ⟨by rw [hr.writes]; exact h.writes, by rw [hr.writes]; exact h.responses, h.drafting.rely hr, h.organizationId, h.status,
    h.balanced⟩

/-- Storing a response leaves a draft a draft. -/
theorem Draft.writeResponse (h : Draft m w c sess d₀ row rows responses s) (r : ResponseRow) :
    Draft m w c sess d₀ row rows (responses ++ [r]) (s.write w (.response r)) := by
  obtain ⟨rest, hw, hbook, hrows⟩ := h.writes
  refine ⟨⟨rest ++ [.response r], ?_, ?_, ?_⟩, ?_, ⟨?_, h.drafting.db, ?_, h.drafting.guard⟩, h.organizationId, h.status,
    h.balanced⟩
  · rw [State.writes_write, hw, List.cons_append]
  · intro x hx
    rcases List.mem_append.1 hx with hx | hx
    · exact hbook x hx
    · rw [List.mem_singleton.1 hx]
      rfl
  · rw [entryRows_append, hrows]
    simp [Write.entryOf]
  · rw [State.writes_write, responseRows_append, h.responses]
    rfl
  · intro e he
    rw [State.writes_write, entryRows_append] at he
    exact h.drafting.rows e (by simpa [Write.entryOf] using he)
  · exact fun ht => (h.drafting.tallied ht).write rfl (by simp)

/-- What the recheck in the database says about a posting: the entries it has drafted balance. -/
theorem balanced_of_check (hi : Inv m s) {rest : List Write} (hw : s.writes w = .transaction row :: rest)
    (hrows : entryRows rest = rows) (hd : Drafting m w c sess row.id d₀ s)
    (h : debitSum ((s.view w).entriesSeen sess) row.id = creditSum ((s.view w).entriesSeen sess) row.id) :
    debitSum rows row.id = creditSum rows row.id := by
  have hpending : entryRows (s.writes w) = rows := by
    rw [hw, entryRows_cons, hrows]
    rfl
  have hold : entriesOf s.db.entries row.id = [] := by
    refine entriesOf_eq_nil (fun e he ht => ?_)
    obtain ⟨p, hp, hid, -⟩ := hi.books.transaction e he
    exact hi.fresh w row (by rw [hw]; exact List.mem_cons_self) p hp (hid.trans ht)
  have hseen : entriesOf ((s.view w).entriesSeen sess) row.id = rows := by
    unfold Tables.entriesSeen
    rw [State.entries_view, hpending, List.filter_append, entriesOf_append]
    have hnew : rows.filter (fun e => sess.sees e.organizationId) = rows := by
      rw [List.filter_eq_self]
      intro e he
      simp [Session.sees, (hd.rows e (by rw [hpending]; exact he)).2.1]
    have holdseen : entriesOf (s.db.entries.filter (fun e => sess.sees e.organizationId)) row.id = [] := by
      refine entriesOf_eq_nil (fun e he ht => ?_)
      have hmem : e ∈ entriesOf s.db.entries row.id := mem_entriesOf.2 ⟨List.mem_of_mem_filter he, ht⟩
      rw [hold] at hmem
      cases hmem
    rw [holdseen, hnew, List.nil_append]
    exact entriesOf_eq_self (fun e he => (hd.rows e (by rw [hpending]; exact he)).1)
  rw [← debitSum_entriesOf, ← creditSum_entriesOf, hseen] at h
  exact h

/-- Storing the response of a posting. -/
theorem storeIdempotencyResponse_wp {env : Env} {key : Option String} {t : Transaction}
    (hd : Draft m w c sess d₀ row rows [] s) (hkey : varcharOrNull 255 key = some row.idempotencyKey)
    {Q : Except LedgerError Unit → State → Prop} (herr : ∀ e s', (m.alone = true → s'.db = d₀) → Q (.error e) s')
    (hok : ∀ s', Draft m w c sess d₀ row rows (storedResponses env sess row t) s' → Q (.ok ()) s') :
    (storeIdempotencyResponse env sess key t).wp (Does m w) (contract m w c) Q s := by
  unfold storeIdempotencyResponse
  split
  · rename_i key
    obtain ⟨stored, hstored, hrow⟩ := Option.map_eq_some_iff.1 hkey
    refine wp_query rfl (fun s₁ hr₁ hi₁ => ⟨fun e => herr e s₁ (hd.rely hr₁).drafting.db, ?_⟩)
    intro r s₂ hp
    obtain ⟨-, response, hresponse, -, rfl⟩ := insert_ok hp
    refine ⟨hi₁.write w rfl, .write m w c s₁ _, hok _ ?_⟩
    have hsame : [] ++ [response] = storedResponses env sess row t := by
      rw [hstored] at hresponse
      dsimp only at hresponse
      split at hresponse
      · cases hresponse
      · cases hresponse
        simp [storedResponses, ← hrow]
    rw [← hsame]
    exact (hd.rely hr₁).writeResponse response
  · refine hok s ?_
    have hnone : storedResponses env sess row t = [] := by
      rw [storedResponses, ← Option.some.inj hkey]
      rfl
    rw [hnone]
    exact hd

/-- A posting that is not a replay. -/
theorem postNew_wp {env : Env} {req : PostTransactionRequest} {reverses : Option Uuid} (hw : s.writes w = [])
    (hdb : m.alone = true → s.db = d₀) (hguard : m.guarded = true → ∀ t, c.reverses = some t → Unreversed s.db t)
    {Q : Except LedgerError Transaction → State → Prop}
    (herr : ∀ e s', (m.alone = true → s'.db = d₀) → Q (.error e) s')
    (hok : ∀ row rows s',
      Draft m w c sess d₀ row rows (storedResponses env sess row (postedTransaction env req rows)) s' →
      Rowed m env req reverses d₀ row → List.Forall₂ (Entered sess row.id) req.entries rows →
      Q (.ok (postedTransaction env req rows)) s') :
    (postNew env sess req reverses).wp (Does m w) (contract m w c) Q s := by
  unfold postNew
  split
  · exact herr _ s hdb
  · rw [Prog.wp_bind]
    refine wp_query rfl (fun s₁ hr₁ hi₁ => ⟨fun e => herr e s₁ (fun hal => (hr₁.alone hal).trans (hdb hal)), ?_⟩)
    intro r s₂ hp
    obtain ⟨hwait, row, hrow, -, rfl⟩ := insert_ok hp
    have hw₁ : s₁.writes w = [] := hr₁.writes.trans hw
    rw [State.view_of_nil hw₁] at hrow
    obtain ⟨hid, horg, hstatus, hrev, hfresh, hkey, hunused⟩ := transactionRow_ok hrow
    change row.id = env.uuid 0 at hid
    have hrowed : Rowed m env req reverses d₀ row := by
      refine ⟨hid, hrev, hkey, fun hal => ?_⟩
      rw [← hdb hal, ← hr₁.alone hal]
      exact hunused
    have hother : ∀ w' row', w' ≠ w → .transaction row' ∈ s₁.writes w' → row'.id ≠ row.id := by
      intro w' row' hne hr he
      refine State.not_locked hwait hne hr List.mem_cons_self ?_
      rw [← hid, ← he]
      exact List.mem_cons_self (a := Lock.transactionId row'.id)
    refine ⟨hi₁.writeTransaction hfresh hother, .write m w c s₁ _, ?_⟩
    simp only [List.foldl_cons, List.foldl_nil]
    have hd₂ : Drafting m w c sess row.id d₀ (s₁.write w (.transaction row)) := by
      refine ⟨?_, fun hal => (hr₁.alone hal).trans (hdb hal), fun _ => ?_,
        fun hg t ht => hr₁.guarded hg t ht (hguard hg t ht)⟩
      · simp [hw₁, Write.entryOf]
      · refine Tallied.write ⟨fun a ha => ?_, fun a _ => ?_⟩ rfl (by simp)
        · obtain ⟨e, he, -⟩ := ha
          rw [hw₁] at he
          cases he
        · rw [hw₁]
          rfl
    rw [Prog.wp_bind]
    rw [← hid]
    refine postEntries_wp hd₂ herr ?_
    intro rows s₃ rest hd₃ hw₃ hbook hrows hresp hentered
    simp only [Prog.wp_bind]
    rw [State.writes_write, hw₁, List.nil_append, List.singleton_append] at hw₃
    refine wp_read rfl (fun s₄ hr₄ hi₄ => ⟨fun e => herr e s₄ (hd₃.rely hr₄).db, ?_⟩)
    intro isBalanced hp
    have hd₄ := hd₃.rely hr₄
    have hw₄ := hr₄.writes.trans hw₃
    simp only [State.perform, Option.some.injEq, Prod.mk.injEq, Except.ok.injEq, and_true] at hp
    subst hp
    dsimp only
    split
    · exact herr _ s₄ hd₄.db
    · rename_i hbal
      rw [Bool.not_eq_true', Bool.not_eq_false, decide_eq_true_eq] at hbal
      have hbal' := balanced_of_check hi₄ hw₄ hrows hd₄ hbal.1
      have hdraft : Draft m w c sess d₀ row rows [] s₄ :=
        ⟨⟨rest, hw₄, hbook, hrows⟩, by rw [hw₄]; exact hresp, hd₄, horg, hstatus, hbal'⟩
      simp only [Prog.wp_bind]
      refine storeIdempotencyResponse_wp hdraft hkey herr ?_
      intro s₅ hdraft₅
      refine wp_read rfl
        (fun s₆ hr₆ _ => ⟨fun e => herr e s₆ (hdraft₅.rely hr₆).drafting.db, fun _ _ => ?_⟩)
      exact hok row rows s₆ (hdraft₅.rely hr₆) hrowed hentered

/-- The stored response of a key that a session sees and that has not expired. -/
def Tables.liveResponse (d : Tables) (sess : Session) (key : String) : Option Transaction :=
  (d.responses.find? (fun r => decide (r.idempotencyKey = key ∧ sess.now < r.expiresAt) && sess.sees r.organizationId)).map
    (·.response)

/-- A posting, replayed or new. -/
theorem postWithClient_wp {env : Env} {req : PostTransactionRequest} {reverses : Option Uuid} (hw : s.writes w = [])
    (hdb : m.alone = true → s.db = d₀) (hguard : m.guarded = true → ∀ t, c.reverses = some t → Unreversed s.db t)
    {Q : Except LedgerError Transaction → State → Prop}
    (herr : ∀ e s', (m.alone = true → s'.db = d₀) → Q (.error e) s')
    (hreplay : ∀ key t s', truthy req.idempotencyKey = some key → s'.writes w = [] → (m.alone = true → s'.db = d₀) →
      s'.db.liveResponse sess key = some t → Q (.ok t) s')
    (hok : ∀ row rows s',
      Draft m w c sess d₀ row rows (storedResponses env sess row (postedTransaction env req rows)) s' →
      Rowed m env req reverses d₀ row → List.Forall₂ (Entered sess row.id) req.entries rows →
      Q (.ok (postedTransaction env req rows)) s') :
    (postWithClient env sess req reverses).wp (Does m w) (contract m w c) Q s := by
  unfold postWithClient
  split
  · rename_i key hkey
    rw [Prog.wp_bind]
    refine wp_read rfl
      (fun s₁ hr₁ _ => ⟨fun e => herr e s₁ (fun hal => (hr₁.alone hal).trans (hdb hal)), ?_⟩)
    intro response hp
    have hw₁ := hr₁.writes.trans hw
    simp only [State.perform, State.view_of_nil hw₁, Option.some.injEq, Prod.mk.injEq, Except.ok.injEq, and_true] at hp
    cases response with
    | some t =>
      exact hreplay key t s₁ hkey hw₁ (fun hal => (hr₁.alone hal).trans (hdb hal)) hp
    | none =>
      exact postNew_wp hw₁ (fun hal => (hr₁.alone hal).trans (hdb hal))
        (fun hg t ht => hr₁.guarded hg t ht (hguard hg t ht)) herr hok
  · exact postNew_wp hw hdb hguard herr hok

end

end Ledger

end Archisynapse
