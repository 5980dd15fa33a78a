import Archisynapse.Lemmas.LedgerState
import Mathlib.Data.List.Nodup

/-!
# Helper lemmas: books that are in order, and what a posting adds to them

`Books` is what holds of the committed tables however the calls are interleaved. A posting adds one transaction with its entries
(`Adds`); it keeps the books (`Books.adds`) and every transaction that was there keeps its entries (`Adds.grows`).
-/

namespace Archisynapse

namespace Ledger

/-! ## Entries of a transaction -/

theorem mem_entriesOf {es : List EntryRow} {t : Uuid} {e : EntryRow} : e ∈ entriesOf es t ↔ e ∈ es ∧ e.transactionId = t := by
  simp [entriesOf]

theorem entriesOf_append (es es' : List EntryRow) (t : Uuid) :
    entriesOf (es ++ es') t = entriesOf es t ++ entriesOf es' t := List.filter_append ..

theorem entriesOf_eq_nil {es : List EntryRow} {t : Uuid} (h : ∀ e ∈ es, e.transactionId ≠ t) : entriesOf es t = [] := by
  simpa [entriesOf, List.filter_eq_nil_iff] using h

theorem entriesOf_eq_self {es : List EntryRow} {t : Uuid} (h : ∀ e ∈ es, e.transactionId = t) : entriesOf es t = es := by
  simpa [entriesOf, List.filter_eq_self] using h

/-- A transaction's effect is read off its entries. -/
theorem effect_eq (es : List EntryRow) (t a : Uuid) :
    effect es t a = accountSum (entriesOf es t) a := by
  unfold effect accountSum entriesOf
  rw [sumWhere_filter]
  refine sumWhere_congr (fun e _ => ?_)
  simp [Bool.decide_and]

/-- Debits less credits of a transaction, read off its entries. -/
theorem debitSum_sub_creditSum (es : List EntryRow) (t : Uuid) :
    debitSum es t - creditSum es t = ((entriesOf es t).map EntryRow.signed).sum := by
  induction es with
  | nil => rfl
  | cons e es ih =>
    simp only [debitSum, creditSum, entriesOf, Bool.decide_and] at ih ⊢
    rw [sumWhere_cons, sumWhere_cons, List.filter_cons]
    by_cases ht : e.transactionId = t
    · cases hs : e.debitCredit <;> simp [ht, hs, EntryRow.signed] <;> omega
    · simp [ht, ih]

/-- Sums over a transaction are sums over its entries. -/
theorem debitSum_entriesOf (es : List EntryRow) (t : Uuid) : debitSum (entriesOf es t) t = debitSum es t := by
  unfold debitSum entriesOf
  rw [sumWhere_filter]
  refine sumWhere_congr (fun e _ => ?_)
  by_cases h : e.transactionId = t <;> simp [h]

theorem creditSum_entriesOf (es : List EntryRow) (t : Uuid) : creditSum (entriesOf es t) t = creditSum es t := by
  unfold creditSum entriesOf
  rw [sumWhere_filter]
  refine sumWhere_congr (fun e _ => ?_)
  by_cases h : e.transactionId = t <;> simp [h]

/-- Debits less credits of an account. -/
theorem accountSum_eq (es : List EntryRow) (a : Uuid) :
    accountSum es a = sumWhere (fun e => decide (e.accountId = a ∧ e.debitCredit = .debit)) (·.amount) es -
      sumWhere (fun e => decide (e.accountId = a ∧ e.debitCredit = .credit)) (·.amount) es := by
  unfold accountSum
  induction es with
  | nil => rfl
  | cons e es ih =>
    rw [sumWhere_cons, sumWhere_cons, sumWhere_cons, ih]
    by_cases ha : e.accountId = a
    · cases hs : e.debitCredit <;> simp [ha, hs, EntryRow.signed] <;> omega
    · simp [ha]

theorem accountSum_append (es es' : List EntryRow) (a : Uuid) :
    accountSum (es ++ es') a = accountSum es a + accountSum es' a := sumWhere_append ..

/-! ## Books -/

/-- What a transaction row says that never changes. -/
structure Post where
  id : Uuid
  organizationId : String
  reverses : Option Uuid
  idempotencyKey : Option String
  deriving DecidableEq

/-- The part of a transaction row that never changes. -/
def post (t : TransactionRow) : Post := ⟨t.id, t.organizationId, t.reverses, t.idempotencyKey⟩

/-- The transactions, without what a reversal changes. -/
def Tables.posts (d : Tables) : List Post := d.transactions.map post

/-- The accounts, without their balances. -/
def Tables.chart (d : Tables) : List AccountRow := d.accounts.map (fun a => { a with balance := 0 })

/-- The transactions after some writes: those that were there and those they insert. -/
theorem posts_foldl (ws : List Write) (d : Tables) :
    (ws.foldl Tables.apply d).posts = d.posts ++ (ws.filterMap Write.transaction?).map post := by
  induction ws generalizing d with
  | nil => simp
  | cons x ws ih =>
    rw [List.foldl_cons, ih]
    cases x with
    | status id st =>
      have h : (d.apply (.status id st)).posts = d.posts :=
        map_updateKey (u := fun t => { t with status := st }) post (fun _ => rfl) d.transactions
      simp [h, List.filterMap_cons, Write.transaction?]
    | _ => simp [Tables.apply, Tables.posts, List.filterMap_cons, Write.transaction?]

/-- Writes leave the chart of accounts alone. -/
theorem chart_foldl (ws : List Write) (d : Tables) : (ws.foldl Tables.apply d).chart = d.chart :=
  accounts_foldl _ (fun _ _ => rfl) ws d

/-- Writes that leave the transactions alone insert none. -/
theorem filterMap_transaction_of_isBook {ws : List Write} (h : ∀ x ∈ ws, x.isBook = true) :
    ws.filterMap Write.transaction? = [] := by
  rw [List.filterMap_eq_nil_iff]
  intro x hx
  have hb := h x hx
  cases x <;> first | rfl | cases hb

/-- Books in order: keys are unique; accounts are active; every entry is positive, part of a transaction and on an account of
the same organization; every transaction balances; and one that reverses another takes back its effect on every account. -/
structure Books (d : Tables) : Prop where
  ids : (d.posts.map (·.id)).Nodup
  accounts : (d.chart.map (·.id)).Nodup
  active : ∀ a ∈ d.chart, a.isActive = true
  positive : ∀ e ∈ d.entries, 0 < e.amount
  transaction : ∀ e ∈ d.entries, ∃ p ∈ d.posts, p.id = e.transactionId ∧ p.organizationId = e.organizationId
  account : ∀ e ∈ d.entries, d.HasAccount e.accountId e.organizationId
  balanced : ∀ p ∈ d.posts, debitSum d.entries p.id = creditSum d.entries p.id
  reversal : ∀ p ∈ d.posts, ∀ t, p.reverses = some t →
    (∃ q ∈ d.posts, q.id = t) ∧ ∀ a, effect d.entries p.id a = -effect d.entries t a

/-- Every balance is what its account's entries add up to. -/
def Balances (d : Tables) : Prop := ∀ a ∈ d.accounts, a.balance = accountSum d.entries a.id

/-- What other calls may do to the committed tables: no account and no transaction is lost, and a transaction that is there
keeps its entries. -/
structure Grows (d d' : Tables) : Prop where
  account : ∀ id organizationId, d.HasAccount id organizationId → d'.HasAccount id organizationId
  posts : ∀ p ∈ d.posts, p ∈ d'.posts
  entries : ∀ p ∈ d.posts, entriesOf d'.entries p.id = entriesOf d.entries p.id

theorem Grows.refl (d : Tables) : Grows d d := ⟨fun _ _ h => h, fun _ h => h, fun _ _ => rfl⟩

theorem Grows.trans {d d' d'' : Tables} (h : Grows d d') (h' : Grows d' d'') : Grows d d'' where
  account id organizationId ha := h'.account _ _ (h.account id organizationId ha)
  posts p hp := h'.posts p (h.posts p hp)
  entries p hp := (h'.entries p (h.posts p hp)).trans (h.entries p hp)

/-- What is in the chart is what organizations have. -/
theorem Tables.hasAccount_iff {d : Tables} {id : Uuid} {organizationId : String} :
    d.HasAccount id organizationId ↔ ∃ a ∈ d.chart, a.id = id ∧ a.organizationId = organizationId := by
  simp [Tables.HasAccount, Tables.chart]

/-- An account belongs to one organization. -/
theorem Books.organization_unique {d : Tables} (h : Books d) {id : Uuid} {o o' : String} (ha : d.HasAccount id o)
    (ha' : d.HasAccount id o') : o = o' := by
  obtain ⟨a, hmem, rfl, rfl⟩ := Tables.hasAccount_iff.1 ha
  obtain ⟨a', hmem', hid, rfl⟩ := Tables.hasAccount_iff.1 ha'
  rw [List.inj_on_of_nodup_map h.accounts hmem' hmem hid]

/-- Books that agree with books in order but for balances and states. -/
theorem Books.congr {d d' : Tables} (h : Books d) (hp : d'.posts = d.posts) (hc : d'.chart = d.chart)
    (he : d'.entries = d.entries) : Books d' := by
  have hacc : ∀ id organizationId, d'.HasAccount id organizationId ↔ d.HasAccount id organizationId := by
    intro id organizationId
    rw [Tables.hasAccount_iff, Tables.hasAccount_iff, hc]
  refine ⟨?_, ?_, ?_, ?_, ?_, ?_, ?_, ?_⟩ <;> simp only [hp, hc, he, hacc]
  · exact h.ids
  · exact h.accounts
  · exact h.active
  · exact h.positive
  · exact h.transaction
  · exact h.account
  · exact h.balanced
  · exact h.reversal

/-- The empty ledger's books. -/
theorem books_empty : Books .empty := by
  constructor <;> simp [Tables.empty, Tables.posts, Tables.chart]

/-! ## Postings -/

/-- What a posting adds: a new transaction, its entries (positive, on accounts of the organization, balanced), and nothing else
but balances and states. -/
structure Adds (d d' : Tables) (row : TransactionRow) (rows : List EntryRow) : Prop where
  fresh : ∀ p ∈ d.posts, p.id ≠ row.id
  posts : d'.posts = d.posts ++ [post row]
  entries : d'.entries = d.entries ++ rows
  chart : d'.chart = d.chart
  drafted : ∀ e ∈ rows, e.transactionId = row.id ∧ e.organizationId = row.organizationId ∧ 0 < e.amount ∧
    d.HasAccount e.accountId row.organizationId
  balanced : debitSum rows row.id = creditSum rows row.id

namespace Adds

variable {d d' : Tables} {row : TransactionRow} {rows : List EntryRow}

/-- A transaction that was there keeps its entries. -/
theorem entriesOf_old (h : Adds d d' row rows) {p : Post} (hp : p ∈ d.posts) :
    entriesOf d'.entries p.id = entriesOf d.entries p.id := by
  have hrows : entriesOf rows p.id = [] :=
    entriesOf_eq_nil (fun e he ht => h.fresh p hp (by rw [← ht, (h.drafted e he).1]))
  rw [h.entries, entriesOf_append, hrows, List.append_nil]

/-- The new transaction has the new entries. -/
theorem entriesOf_new (h : Adds d d' row rows) (hb : Books d) : entriesOf d'.entries row.id = rows := by
  have hold : entriesOf d.entries row.id = [] := by
    refine entriesOf_eq_nil (fun e he ht => ?_)
    obtain ⟨p, hp, hid, -⟩ := hb.transaction e he
    exact h.fresh p hp (hid.trans ht)
  rw [h.entries, entriesOf_append, hold, List.nil_append]
  exact entriesOf_eq_self (fun e he => (h.drafted e he).1)

theorem hasAccount_iff (h : Adds d d' row rows) {id : Uuid} {organizationId : String} :
    d'.HasAccount id organizationId ↔ d.HasAccount id organizationId := by
  rw [Tables.hasAccount_iff, Tables.hasAccount_iff, h.chart]

theorem grows (h : Adds d d' row rows) : Grows d d' where
  account _ _ ha := h.hasAccount_iff.2 ha
  posts p hp := by
    rw [h.posts]
    exact List.mem_append_left _ hp
  entries _ hp := h.entriesOf_old hp

/-- The effect of a transaction that was there. -/
theorem effect_old (h : Adds d d' row rows) {p : Post} (hp : p ∈ d.posts) (a : Uuid) :
    effect d'.entries p.id a = effect d.entries p.id a := by
  rw [effect_eq, effect_eq, h.entriesOf_old hp]

/-- The effect of the new transaction. -/
theorem effect_new (h : Adds d d' row rows) (hb : Books d) (a : Uuid) : effect d'.entries row.id a = accountSum rows a := by
  rw [effect_eq, h.entriesOf_new hb]

end Adds

/-- A posting keeps the books, when one that reverses a transaction takes back its effect. -/
theorem Books.adds {d d' : Tables} {row : TransactionRow} {rows : List EntryRow} (hb : Books d) (h : Adds d d' row rows)
    (hrev : ∀ t, row.reverses = some t →
      (∃ q ∈ d.posts, q.id = t) ∧ ∀ a, accountSum rows a = -effect d.entries t a) : Books d' := by
  have hmem : ∀ p ∈ d'.posts, p ∈ d.posts ∨ p = post row := by
    intro p hp
    rw [h.posts, List.mem_append, List.mem_singleton] at hp
    exact hp
  have hentry : ∀ e ∈ d'.entries, e ∈ d.entries ∨ e ∈ rows := by
    intro e he
    rw [h.entries, List.mem_append] at he
    exact he
  refine ⟨?_, ?_, ?_, ?_, ?_, ?_, ?_, ?_⟩
  · rw [h.posts]
    exact nodup_map_concat hb.ids h.fresh
  · rw [h.chart]
    exact hb.accounts
  · rw [h.chart]
    exact hb.active
  · intro e he
    rcases hentry e he with he | he
    · exact hb.positive e he
    · exact (h.drafted e he).2.2.1
  · intro e he
    rcases hentry e he with he | he
    · obtain ⟨p, hp, hpe⟩ := hb.transaction e he
      exact ⟨p, h.grows.posts p hp, hpe⟩
    · obtain ⟨ht, ho, -⟩ := h.drafted e he
      exact ⟨post row, by rw [h.posts]; simp, ht.symm, ho.symm⟩
  · intro e he
    rw [h.hasAccount_iff]
    rcases hentry e he with he | he
    · exact hb.account e he
    · obtain ⟨-, ho, -, ha⟩ := h.drafted e he
      rw [ho]
      exact ha
  · intro p hp
    rw [← debitSum_entriesOf, ← creditSum_entriesOf]
    rcases hmem p hp with hp | rfl
    · rw [h.entriesOf_old hp, debitSum_entriesOf, creditSum_entriesOf]
      exact hb.balanced p hp
    · rw [post, h.entriesOf_new hb]
      exact h.balanced
  · intro p hp t ht
    rcases hmem p hp with hp | rfl
    · obtain ⟨⟨q, hq, rfl⟩, heff⟩ := hb.reversal p hp t ht
      refine ⟨⟨q, h.grows.posts q hq, rfl⟩, fun a => ?_⟩
      rw [h.effect_old hp, h.effect_old hq]
      exact heff a
    · obtain ⟨⟨q, hq, rfl⟩, heff⟩ := hrev t ht
      refine ⟨⟨q, h.grows.posts q hq, rfl⟩, fun a => ?_⟩
      rw [post, h.effect_new hb, h.effect_old hq]
      exact heff a

/-- A new account keeps the books. -/
theorem Books.addAccount {d : Tables} (hb : Books d) {row : AccountRow} (hid : ∀ a ∈ d.accounts, a.id ≠ row.id)
    (hactive : row.isActive = true) : Books { d with accounts := d.accounts ++ [row] } := by
  have hacc : ∀ id organizationId, d.HasAccount id organizationId →
      Tables.HasAccount { d with accounts := d.accounts ++ [row] } id organizationId := by
    rintro id organizationId ⟨a, ha, hao⟩
    exact ⟨a, List.mem_append_left _ ha, hao⟩
  refine ⟨hb.ids, ?_, ?_, hb.positive, hb.transaction, fun e he => hacc _ _ (hb.account e he), hb.balanced, hb.reversal⟩
  · have hnd := hb.accounts
    simp only [Tables.chart, List.map_append, List.map_map] at hnd ⊢
    refine List.nodup_append.2 ⟨hnd, by simp, ?_⟩
    rintro i hi j hj rfl
    obtain ⟨a, ha, rfl⟩ := List.mem_map.1 hi
    simp only [List.map_cons, List.map_nil, List.mem_singleton, Function.comp_apply] at hj
    exact hid a ha hj
  · intro a ha
    simp only [Tables.chart, List.map_append, List.mem_append] at ha
    rcases ha with ha | ha
    · exact hb.active a ha
    · simp only [List.map_cons, List.map_nil, List.mem_singleton] at ha
      subst ha
      exact hactive

end Ledger

end Archisynapse
