import Archisynapse.Ledger.Api
import Archisynapse.Lemmas.LedgerIdempotency

/-!
# Requests to the ledger

What one request of another service does to the ledger: the books and the balances stay in order (`serve_books`); a posting is
answered from the store or adds one transaction (`serve_post`); and a reversal adds one transaction, which takes back the effect
of the one it reverses (`serve_reverse`). No request loses an account or a transaction or changes the entries of one
(`serve_extends`).
-/

namespace Archisynapse

namespace Ledger

variable {env : Env} {fails : Nat → Bool} {d d' : Tables}

/-- An answer is the outcome of the operation. -/
theorem answer_eq_some {α : Type} {named : List (String × Nat)} {outcome : Option (Except LedgerError α × Tables)}
    {q : Except Refusal α} (h : answer named outcome = some (q, d')) :
    ∃ r, outcome = some (r, d') ∧ q = r.mapError (refusal named) := by
  obtain ⟨⟨r, d₁⟩, hr, he⟩ := Option.map_eq_some_iff.1 h
  obtain ⟨rfl, rfl⟩ := Prod.mk.inj he
  exact ⟨r, hr, rfl⟩

/-- A request that reached its route, or one that was refused and changed nothing. -/
theorem serve_cases {r : Request} {q : Except Refusal r.Result} (h : serve env fails d r = some (q, d')) :
    ((∃ e, q = .error e) ∧ d' = d) ∨ (r.accepts = true ∧ route env fails d r = some (q, d')) := by
  unfold serve at h
  split at h
  · cases h
    exact Or.inl ⟨⟨_, rfl⟩, rfl⟩
  · split at h
    · cases h
      exact Or.inl ⟨⟨_, rfl⟩, rfl⟩
    · rename_i haccepts
      exact Or.inr ⟨by simpa using haccepts, h⟩

/-- Every request keeps the books and the balances. -/
theorem serve_books {r : Request} {q : Except Refusal r.Result} (hb : Books d) (hbal : Balances d)
    (h : serve env fails d r = some (q, d')) : Books d' ∧ Balances d' := by
  rcases serve_cases h with ⟨-, rfl⟩ | ⟨-, h⟩
  · exact ⟨hb, hbal⟩
  cases r with
  | listAccounts organizationId =>
    simp only [route] at h
    split at h
    · cases h
      exact ⟨hb, hbal⟩
    · cases h
      exact ⟨hb, hbal⟩
  | createAccount organizationId code name type currency =>
    obtain ⟨r, hr, -⟩ := answer_eq_some h
    obtain ⟨hb', hbal', -⟩ := alone_createAccount hb hbal hr
    exact ⟨hb', hbal'⟩
  | postTransaction req =>
    obtain ⟨r, hr, -⟩ := answer_eq_some h
    obtain ⟨hb', hbal', -⟩ := alone_postTransaction hb hbal hr
    exact ⟨hb', hbal'⟩
  | reverse organizationId transactionId reason =>
    obtain ⟨r, hr, -⟩ := answer_eq_some h
    obtain ⟨hb', hbal', -⟩ := alone_reverseTransaction hb hbal hr
    exact ⟨hb', hbal'⟩

/-- A reversal: it is refused and changes nothing, or one transaction is added, which reverses the one asked for. -/
theorem serve_reverse {organizationId : String} {transactionId : UuidText} {reason : String} {q : Except Refusal Transaction}
    (hb : Books d) (hbal : Balances d) (h : serve env fails d (.reverse organizationId transactionId reason) = some (q, d')) :
    ((∃ e, q = .error e) ∧ d' = d) ∨ ∃ t row rows, q = .ok t ∧ Adds d d' row rows ∧ t.id = row.id ∧
      ∃ original, transactionId.value = some original ∧ row.reverses = some original := by
  rcases serve_cases h with h | ⟨-, h⟩
  · exact Or.inl h
  obtain ⟨r, hr, rfl⟩ := answer_eq_some h
  obtain ⟨-, -, hout⟩ := alone_reverseTransaction hb hbal hr
  cases r with
  | error e =>
    rw [show d' = d from hout]
    exact Or.inl ⟨⟨_, rfl⟩, rfl⟩
  | ok t =>
    obtain ⟨row, rows, responses, hadds, -, hid, -, -, -, horiginal⟩ := hout
    exact Or.inr ⟨t, row, rows, rfl, hadds, hid, horiginal⟩

/-- A posting: it is refused and changes nothing, it is answered from the store, or one transaction is added. -/
theorem serve_post {req : PostTransactionRequest} {q : Except Refusal Transaction} (hb : Books d) (hbal : Balances d)
    (h : serve env fails d (.postTransaction req) = some (q, d')) :
    ((∃ e, q = .error e) ∧ d' = d) ∨
      (∃ t, q = .ok t ∧ d' = d ∧ Replays d (env.session req.organizationId) req t) ∨
      ∃ t row rows responses, q = .ok t ∧ Adds d d' row rows ∧ d'.responses = responses.foldl storeResponse d.responses ∧
        Posts env (env.session req.organizationId) req d t row rows responses := by
  rcases serve_cases h with h | ⟨-, h⟩
  · exact Or.inl h
  obtain ⟨r, hr, rfl⟩ := answer_eq_some h
  obtain ⟨-, -, hout⟩ := alone_postTransaction hb hbal hr
  cases r with
  | error e =>
    rw [show d' = d from hout]
    exact Or.inl ⟨⟨_, rfl⟩, rfl⟩
  | ok t =>
    rcases hout with ⟨hd, hreplays⟩ | ⟨row, rows, responses, hposted⟩
    · exact Or.inr (Or.inl ⟨t, rfl, hd, hreplays⟩)
    · exact Or.inr (Or.inr ⟨t, row, rows, responses, rfl, hposted⟩)

/-- The accounts that are listed. -/
theorem serve_listAccounts {organizationId : String} {q : Except Refusal (List AccountRow)}
    (h : serve env fails d (.listAccounts organizationId) = some (q, d')) :
    d' = d ∧ ∀ accounts, q = .ok accounts → ∀ a ∈ accounts, a ∈ d.accounts ∧ a.organizationId = organizationId := by
  rcases serve_cases h with ⟨⟨e, rfl⟩, rfl⟩ | ⟨-, h⟩
  · exact ⟨rfl, nofun⟩
  simp only [route] at h
  split at h
  · cases h
    exact ⟨rfl, nofun⟩
  · cases h
    refine ⟨rfl, fun accounts ha a hmem => ?_⟩
    cases ha
    simpa using hmem

/-- The account that is created. -/
theorem serve_createAccount {organizationId code name : String} {type : AccountType} {currency : String}
    {q : Except Refusal AccountRow} (hb : Books d) (hbal : Balances d)
    (h : serve env fails d (.createAccount organizationId code name type currency) = some (q, d')) :
    ∃ rows, d' = { d with accounts := d.accounts ++ rows } ∧
      (∀ row ∈ rows, row.organizationId = organizationId ∧ row.code = code ∧ code.length ≤ 20 ∧ row.type = type) ∧
      ∀ row, q = .ok row → row ∈ rows := by
  rcases serve_cases h with ⟨⟨e, rfl⟩, rfl⟩ | ⟨haccepts, h⟩
  · exact ⟨[], by simp, nofun, nofun⟩
  obtain ⟨r, hr, rfl⟩ := answer_eq_some h
  obtain ⟨-, -, rows, hd, hrows, hopened⟩ := alone_createAccount hb hbal hr
  simp only [Request.accepts, decide_eq_true_eq] at haccepts
  have hfits : code.length ≤ 20 := (length_le_utf16Length code).trans haccepts.2.1
  refine ⟨rows, hd, fun row hrow => ?_, fun row hrow => ?_⟩
  · obtain ⟨horg, hcode, htype⟩ := hrows row hrow
    rw [varchar_fits hfits] at hcode
    exact ⟨horg, (Option.some.inj hcode).symm, hfits, htype⟩
  · cases r with
    | error e => cases hrow
    | ok row' =>
      cases hrow
      exact hopened _ rfl

/-! ## What requests keep -/

/-- What requests may do to the tables: no account and no transaction is lost, and a transaction that is there keeps its
entries. -/
structure Extends (d d' : Tables) : Prop where
  chart : ∀ a ∈ d.chart, a ∈ d'.chart
  posts : ∀ p ∈ d.posts, p ∈ d'.posts
  entries : ∀ p ∈ d.posts, entriesOf d'.entries p.id = entriesOf d.entries p.id

theorem Extends.refl (d : Tables) : Extends d d := ⟨fun _ h => h, fun _ h => h, fun _ _ => rfl⟩

theorem Extends.trans {d d' d'' : Tables} (h : Extends d d') (h' : Extends d' d'') : Extends d d'' where
  chart a ha := h'.chart a (h.chart a ha)
  posts p hp := h'.posts p (h.posts p hp)
  entries p hp := (h'.entries p (h.posts p hp)).trans (h.entries p hp)

theorem Adds.extends {row : TransactionRow} {rows : List EntryRow} (h : Adds d d' row rows) : Extends d d' where
  chart a ha := by
    rw [h.chart]
    exact ha
  posts := h.grows.posts
  entries := h.grows.entries

/-- Every request extends the tables. -/
theorem serve_extends {r : Request} {q : Except Refusal r.Result} (hb : Books d) (hbal : Balances d)
    (h : serve env fails d r = some (q, d')) : Extends d d' := by
  cases r with
  | listAccounts organizationId =>
    obtain ⟨rfl, -⟩ := serve_listAccounts h
    exact .refl _
  | createAccount organizationId code name type currency =>
    obtain ⟨rows, rfl, -⟩ := serve_createAccount hb hbal h
    refine ⟨fun a ha => ?_, fun _ hp => hp, fun _ _ => rfl⟩
    unfold Tables.chart at ha ⊢
    rw [List.map_append]
    exact List.mem_append_left _ ha
  | postTransaction req =>
    rcases serve_post hb hbal h with ⟨-, rfl⟩ | ⟨t, -, rfl, -⟩ | ⟨t, row, rows, responses, -, hadds, -⟩
    · exact .refl _
    · exact .refl _
    · exact hadds.extends
  | reverse organizationId transactionId reason =>
    rcases serve_reverse hb hbal h with ⟨-, rfl⟩ | ⟨t, row, rows, -, hadds, -⟩
    · exact .refl _
    · exact hadds.extends

/-- The accounts after a request: those that were there, and ones with a code that fits its column. -/
theorem serve_codes {r : Request} {q : Except Refusal r.Result} (hb : Books d) (hbal : Balances d)
    (h : serve env fails d r = some (q, d')) : ∀ a ∈ d'.chart, a ∈ d.chart ∨ a.code.length ≤ 20 := by
  intro a ha
  cases r with
  | listAccounts organizationId =>
    obtain ⟨rfl, -⟩ := serve_listAccounts h
    exact Or.inl ha
  | createAccount organizationId code name type currency =>
    obtain ⟨rows, rfl, hrows, -⟩ := serve_createAccount hb hbal h
    unfold Tables.chart at ha
    rw [List.map_append] at ha
    rcases List.mem_append.1 ha with ha | ha
    · exact Or.inl ha
    · obtain ⟨row, hrow, rfl⟩ := List.mem_map.1 ha
      obtain ⟨-, hcode, hfits, -⟩ := hrows row hrow
      exact Or.inr (hcode ▸ hfits)
  | postTransaction req =>
    rcases serve_post hb hbal h with ⟨-, rfl⟩ | ⟨t, -, rfl, -⟩ | ⟨t, row, rows, responses, -, hadds, -⟩
    · exact Or.inl ha
    · exact Or.inl ha
    · exact Or.inl (hadds.chart ▸ ha)
  | reverse organizationId transactionId reason =>
    rcases serve_reverse hb hbal h with ⟨-, rfl⟩ | ⟨t, row, rows, -, hadds, -⟩
    · exact Or.inl ha
    · exact Or.inl (hadds.chart ▸ ha)

/-- A request that is no posting leaves the stored responses as they are. -/
theorem serve_responses {r : Request} {q : Except Refusal r.Result} (hb : Books d) (hbal : Balances d)
    (hr : ∀ req, r ≠ .postTransaction req) (h : serve env fails d r = some (q, d')) : d'.responses = d.responses := by
  cases r with
  | listAccounts organizationId =>
    obtain ⟨rfl, -⟩ := serve_listAccounts h
    rfl
  | createAccount organizationId code name type currency =>
    obtain ⟨rows, rfl, -⟩ := serve_createAccount hb hbal h
    rfl
  | postTransaction req => exact absurd rfl (hr req)
  | reverse organizationId transactionId reason =>
    rcases serve_cases h with ⟨-, rfl⟩ | ⟨-, h⟩
    · rfl
    obtain ⟨r, hr, -⟩ := answer_eq_some h
    obtain ⟨-, -, hout⟩ := alone_reverseTransaction hb hbal hr
    cases r with
    | error e => rw [show d' = d from hout]
    | ok t =>
      obtain ⟨row, rows, responses, -, hresponses, -, -, -, rfl, -⟩ := hout
      exact hresponses

/-- The number of transactions a posting adds. -/
theorem Adds.length {row : TransactionRow} {rows : List EntryRow} (h : Adds d d' row rows) :
    d'.transactions.length = d.transactions.length + 1 := by
  have hlen := congrArg List.length h.posts
  simpa [Tables.posts] using hlen

end Ledger

end Archisynapse
