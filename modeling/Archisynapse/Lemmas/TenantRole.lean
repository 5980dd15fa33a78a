import Archisynapse.TenantRole.Statements
import Mathlib.Algebra.BigOperators.Group.List.Basic
import Mathlib.Data.List.Pairwise

/-!
# What a statement of the role leaves

A statement sets columns of rows that the role sees, which are none of a key, of a reference or of the tenant (`Change`), or adds rows
that pass the checks. So the rows of other tenants stay as they were (`Change.foreign`), rows keep the tenant of what they
reference (`SameTenant`), and balances are those of the entries as long as accounts are opened with none (`Balanced`).
-/

namespace Archisynapse

namespace TenantRole

/-! ## Values and keys -/

@[simp] theorem eq_iff {a b : Value} : a.eq b = true ↔ a ≠ .null ∧ a = b := decide_eq_true_iff

/-- The unique columns of the tables hold for their rows. -/
def Unique (db : Database) : Prop := ∀ t, (db t).Pairwise (fun r r' => conflicts t r r' = false)

/-- The constraints of the tables: their unique columns and their references. -/
structure Constrained (db : Database) : Prop where
  unique : Unique db
  referenced : ∀ t, ∀ r ∈ db t, referenced db t r = true

theorem conflicts_symm {t : Table} {r r' : Row} (h : conflicts t r r' = false) : conflicts t r' r = false := by
  unfold conflicts at h ⊢
  rw [List.any_eq_false] at h ⊢
  intro key hkey hall
  refine h key hkey ?_
  rw [List.all_eq_true] at hall ⊢
  intro c hc
  obtain ⟨hne, heq⟩ := eq_iff.1 (hall c hc)
  exact eq_iff.2 ⟨heq ▸ hne, heq.symm⟩

/-- Two rows with one value in a key column are one. -/
theorem Unique.eq_of_key {db : Database} (h : Unique db) {t : Table} {k : Column} (hk : [k] ∈ uniques t) {p q : Row} (hp : p ∈ db t)
    (hq : q ∈ db t) {v : Value} (hpv : (p k).eq v = true) (hqv : (q k).eq v = true) : p = q := by
  by_contra hne
  have : Std.Symm (fun r r' : Row => conflicts t r r' = false) := ⟨fun _ _ => conflicts_symm⟩
  have hnot := (h t).forall hp hq hne
  unfold conflicts at hnot
  rw [List.any_eq_false] at hnot
  refine hnot [k] hk ?_
  obtain ⟨-, hpe⟩ := eq_iff.1 hpv
  obtain ⟨hqn, hqe⟩ := eq_iff.1 hqv
  simp [hqn, hpe.trans hqe.symm]

/-- The columns that no statement sets in a stored row. -/
def Fixed (t : Table) (c : Column) : Prop := c ∉ updatable t ∧ c ≠ .updatedAt

instance (t : Table) (c : Column) : Decidable (Fixed t c) := inferInstanceAs (Decidable (_ ∧ _))

theorem fixed_key {t : Table} : ∀ key ∈ uniques t, ∀ c ∈ key, Fixed t c := by
  cases t with
  | other name => exact fun _ h => absurd h List.not_mem_nil
  | _ => decide

theorem fixed_tenant {t : Table} : ∀ c ∈ tenantColumn t, Fixed t c := by
  cases t with
  | other name => exact fun _ h => by cases h
  | _ => decide

theorem fixed_obligation {t : Table} : ∀ c ∈ obligationColumn t, Fixed t c := by
  cases t with
  | other name => exact fun _ h => by cases h
  | _ => decide

/-- A reference names the key of a table. -/
theorem reference_key {t : Table} : ∀ f ∈ references t, [f.key] ∈ uniques f.table := by
  cases t with
  | other name => exact fun _ h => absurd h List.not_mem_nil
  | _ => decide

theorem obligation_reference {t : Table} : ∀ c ∈ obligationColumn t, ⟨c, .royaltyObligations, .id⟩ ∈ references t := by
  cases t with
  | other name => exact fun _ h => by cases h
  | _ => decide

/-! ## Changes -/

variable {setting : String} {db db' : Database}

/-- What a statement may do to a table: it sets columns of rows that the role sees, and adds rows that are the role's. -/
structure TableChange (setting : String) (db db' : Database) (t : Table) (f : Row → Row) (rows : List Row) : Prop where
  shape : db' t = (db t).map f ++ rows
  fixed : ∀ r ∈ db t, ∀ c, Fixed t c → f r c = r c
  foreign : ∀ r ∈ db t, tenantIsolation setting db t r = false → f r = r
  own : ∀ r ∈ rows, tenantIsolation setting db t r = true

/-- What a statement may do to the tables. -/
def Change (setting : String) (db db' : Database) : Prop := ∀ t, ∃ f rows, TableChange setting db db' t f rows

/-- The rows of the other tenants. -/
def foreignRows (setting : String) (db : Database) (t : Table) : List Row := (db t).filter (fun r => !tenantIsolation setting db t r)

/-- A row with a key is still there after a change. -/
theorem Change.parent (h : Change setting db db') {t : Table} {k : Column} (hk : Fixed t k) {p : Row} (hp : p ∈ db t) :
    ∃ p' ∈ db' t, p' k = p k ∧ ∀ c, Fixed t c → p' c = p c := by
  obtain ⟨f, rows, ht⟩ := h t
  refine ⟨f p, ?_, ht.fixed p hp k hk, fun c hc => ht.fixed p hp c hc⟩
  rw [ht.shape]
  exact List.mem_append_left _ (List.mem_map_of_mem hp)

/-- After a change, a row with a key that a row had before is that one. -/
theorem Change.parent_back (h : Change setting db db') (hu : Unique db') {t : Table} {k : Column} (hk : [k] ∈ uniques t) {p p' : Row}
    (hp : p ∈ db t) (hp' : p' ∈ db' t) {v : Value} (hv : (p k).eq v = true) (hv' : (p' k).eq v = true) :
    ∀ c, Fixed t c → p' c = p c := by
  obtain ⟨q, hq, hqk, hqc⟩ := h.parent (fixed_key _ hk _ List.mem_cons_self) hp
  have heq := hu.eq_of_key hk hp' hq hv' (by rw [hqk]; exact hv)
  intro c hc
  rw [heq]
  exact hqc c hc

/-- A reference to a row stays one. -/
theorem Change.referenced (h : Change setting db db') {t : Table} {r : Row} (hr : referenced db t r = true) : referenced db' t r = true := by
  unfold TenantRole.referenced at hr ⊢
  rw [List.all_eq_true] at hr ⊢
  intro f hf
  have hone := hr f hf
  rw [Bool.or_eq_true, List.any_eq_true] at hone ⊢
  rcases hone with hnull | ⟨p, hp, heq⟩
  · exact Or.inl hnull
  · obtain ⟨p', hp', hkey, -⟩ := h.parent (fixed_key _ (reference_key f hf) _ List.mem_cons_self) hp
    exact Or.inr ⟨p', hp', by rw [hkey]; exact heq⟩

/-- A row that is referenced, and a row of the same key after a change. -/
theorem Change.referenced_back (h : Change setting db db') (hu : Unique db') {t : Table} {r : Row} (hr : TenantRole.referenced db t r = true)
    {f : Reference} (hf : f ∈ references t) {p' : Row} (hp' : p' ∈ db' f.table) (heq : (p' f.key).eq (r f.column) = true) :
    ∃ p ∈ db f.table, (p f.key).eq (r f.column) = true ∧ ∀ c, Fixed f.table c → p' c = p c := by
  unfold TenantRole.referenced at hr
  have hone := List.all_eq_true.1 hr f hf
  rw [Bool.or_eq_true, List.any_eq_true] at hone
  rcases hone with hnull | ⟨p, hp, hpeq⟩
  · obtain ⟨hne, hsame⟩ := eq_iff.1 heq
    exact absurd (hsame.trans (of_decide_eq_true hnull)) hne
  · exact ⟨p, hp, hpeq, h.parent_back hu (reference_key f hf) hp hp' hpeq heq⟩

/-- A row that is referenced is the role's after a change exactly when a row with the same fixed columns was before. -/
theorem Change.isolation (h : Change setting db db') (hu : Unique db') {t : Table} {r r' : Row} (hr : TenantRole.referenced db t r = true)
    (hfixed : ∀ c, Fixed t c → r' c = r c) : tenantIsolation setting db' t r' = tenantIsolation setting db t r := by
  unfold tenantIsolation
  cases ht : tenantColumn t with
  | some c =>
    dsimp only
    rw [hfixed c (fixed_tenant c ht)]
  | none =>
    cases ho : obligationColumn t with
    | none => rfl
    | some c =>
      dsimp only
      rw [hfixed c (fixed_obligation c ho), Bool.eq_iff_iff, List.any_eq_true, List.any_eq_true]
      have hid : Fixed .royaltyObligations .id := by simp [Fixed, updatable]
      have horg : Fixed .royaltyObligations .organizationId := by simp [Fixed, updatable]
      constructor
      · rintro ⟨o', ho', hboth⟩
        rw [Bool.and_eq_true] at hboth
        obtain ⟨o, hmem, hkey, hback⟩ := h.referenced_back hu hr (obligation_reference c ho) ho' hboth.1
        refine ⟨o, hmem, ?_⟩
        rw [Bool.and_eq_true, ← hback .organizationId horg]
        exact ⟨hkey, hboth.2⟩
      · rintro ⟨o, hmem, hboth⟩
        obtain ⟨o', ho', hkey, hsame⟩ := h.parent hid hmem
        exact ⟨o', ho', by rw [hkey, hsame .organizationId horg]; exact hboth⟩

/-- The rows of the other tenants stay as they were. -/
theorem Change.foreign (h : Change setting db db') (hdb : Constrained db) (hu : Unique db')
    (htable : ∀ t, ∃ f rows, TableChange setting db db' t f rows ∧ ∀ r ∈ rows, TenantRole.referenced db t r = true) (t : Table) :
    foreignRows setting db' t = foreignRows setting db t := by
  obtain ⟨f, rows, ht, hrows⟩ := htable t
  unfold foreignRows
  rw [ht.shape, List.filter_append, List.filter_map]
  have hnew : rows.filter (fun r => !tenantIsolation setting db' t r) = [] := by
    rw [List.filter_eq_nil_iff]
    intro r hr
    rw [h.isolation hu (hrows r hr) (fun _ _ => rfl), ht.own r hr]
    simp
  have hold : (db t).filter ((fun r => !tenantIsolation setting db' t r) ∘ f) = (db t).filter (fun r => !tenantIsolation setting db t r) := by
    refine List.filter_congr (fun r hr => ?_)
    rw [Function.comp_apply, h.isolation hu (hdb.referenced t r hr) (fun c hc => ht.fixed r hr c hc)]
  rw [hnew, hold, List.append_nil]
  have hsame : ((db t).filter (fun r => !tenantIsolation setting db t r)).map f =
      ((db t).filter (fun r => !tenantIsolation setting db t r)).map id := by
    refine List.map_congr_left (fun r hr => ?_)
    obtain ⟨hmem, hforeign⟩ := List.mem_filter.1 hr
    exact ht.foreign r hmem (by simpa using hforeign)
  rw [hsame, List.map_id]

/-! ## References of one tenant -/

/-- A row's references are to rows of its own tenant. -/
def Fits (db : Database) (t : Table) (r : Row) : Prop :=
  ∀ c f c', tenantColumn t = some c → f ∈ references t → tenantColumn f.table = some c' →
    ∀ p ∈ db f.table, (p f.key).eq (r f.column) = true → p c' = r c

/-- Every row references rows of its own tenant. The rows without a tenant's column are of the tenant of the obligation they
reference. -/
def SameTenant (db : Database) : Prop := ∀ t, ∀ r ∈ db t, Fits db t r

/-- A row that fits still does after a change. -/
theorem Change.fits (h : Change setting db db') (hu : Unique db') {t : Table} {r : Row} (hr : TenantRole.referenced db t r = true)
    (hfits : Fits db t r) : Fits db' t r := by
  intro c f c' hc hf hc' p' hp' heq
  obtain ⟨p, hp, hkey, hback⟩ := h.referenced_back hu hr hf hp' heq
  rw [hback c' (fixed_tenant c' hc')]
  exact hfits c f c' hc hf hc' p hp hkey

/-- A row that passes the checks fits. -/
theorem fits_of_check (hu : Unique db) {t : Table} {r : Row} (hcheck : withCheck setting db t r = true) : Fits db t r := by
  unfold withCheck at hcheck
  rw [Bool.and_eq_true] at hcheck
  obtain ⟨-, hsame⟩ := hcheck
  -- a parent that the restrictive policy finds is the only one with its key
  have hparent : ∀ (f : Reference) (tenant : Column), [f.key] ∈ uniques f.table → sameTenantParent t = some (f, tenant) →
      ∀ p ∈ db f.table, (p f.key).eq (r f.column) = true → p tenant = r tenant := by
    intro f tenant hkey hpolicy p hp heq
    unfold sameTenant at hsame
    rw [hpolicy] at hsame
    simp only [Bool.or_eq_true, Bool.and_eq_true, List.any_eq_true, decide_eq_true_eq] at hsame
    rcases hsame with ⟨-, hnull⟩ | ⟨q, hq, hqkey, hqtenant⟩
    · obtain ⟨hne, hsame⟩ := eq_iff.1 heq
      exact absurd (hsame.trans hnull) hne
    · rw [hu.eq_of_key hkey hp (List.mem_filter.1 hq).1 heq hqkey]
      exact (eq_iff.1 hqtenant).2
  intro c f c' hc hf hc' p hp heq
  cases t with
  | refunds | processorRefundAttempts | journalEntries | royaltyIdempotency =>
    simp only [references, List.mem_singleton] at hf
    subst hf
    cases hc
    cases hc'
    exact hparent _ _ (by decide) rfl p hp heq
  | gatewayPaymentReceipts | gatewayAuditEvents =>
    simp only [references, List.mem_singleton] at hf
    subst hf
    cases hc
    cases hc'
    exact (eq_iff.1 heq).2
  | gatewayPaymentIdempotency =>
    simp only [references, List.mem_cons, List.not_mem_nil, or_false] at hf
    cases hc
    rcases hf with rfl | rfl
    · cases hc'
      exact (eq_iff.1 heq).2
    · cases hc'
      exact hparent _ _ (by decide) rfl p hp heq
  | royaltyPayouts | royaltyReversals => cases hc
  | _ => simp [references] at hf

/-! ## Balances -/

/-- Every account's balance is the debits less the credits of its entries. -/
def Balanced (db : Database) : Prop := ∀ a ∈ db .accounts, a .balance = .number (entriesOf (db .journalEntries) (a .id))

/-- Entries of other accounts count nothing. -/
theorem entriesOf_append (entries more : List Row) (account : Value) (h : ∀ e ∈ more, (e .accountId).eq account = false) :
    entriesOf (entries ++ more) account = entriesOf entries account := by
  unfold entriesOf
  have hnone : more.filter (fun e => (e .accountId).eq account) = [] := List.filter_eq_nil_iff.2 (fun e he => by rw [h e he]; simp)
  rw [List.filter_append, hnone, List.append_nil]

/-- The entries of an account of the role are among those it sees. -/
theorem entriesOf_visible (hsame : SameTenant db) {a : Row} (ha : a ∈ db .accounts)
    (hown : tenantIsolation setting db .accounts a = true) {account : Value} (hid : (a .id).eq account = true) :
    entriesOf (visible setting db .journalEntries) account = entriesOf (db .journalEntries) account := by
  unfold entriesOf visible
  rw [List.filter_filter]
  congr 2
  refine List.filter_congr (fun e he => ?_)
  cases heq : (e .accountId).eq account with
  | false => rfl
  | true =>
    obtain ⟨hne, haccount⟩ := eq_iff.1 heq
    obtain ⟨hnid, hida⟩ := eq_iff.1 hid
    have horg : a .organizationId = e .organizationId :=
      hsame .journalEntries e he .organizationId ⟨.accountId, .accounts, .id⟩ .organizationId rfl (by decide) rfl a ha
        (eq_iff.2 ⟨hnid, hida.trans haccount.symm⟩)
    have hvisible : tenantIsolation setting db .journalEntries e = true := by
      unfold tenantIsolation at hown ⊢
      dsimp only [tenantColumn] at hown ⊢
      rw [← horg]
      exact hown
    rw [hvisible]
    rfl

/-- An account after the triggers of entries of some accounts. -/
def settledRow (setting : String) (now : Value) (entries : List Row) (accounts : List Value) (a : Row) : Row :=
  if (a .organizationId).eq (currentTenant setting) = true ∧ accounts.any (fun account => (a .id).eq account) = true then
    fun c => if c = .balance then .number (entriesOf entries (a .id)) else if c = .updatedAt then now else a c
  else a

theorem settledRow_fixed (now : Value) (entries : List Row) (accounts : List Value) (a : Row) {c : Column} (hc : Fixed .accounts c) :
    settledRow setting now entries accounts a c = a c := by
  obtain ⟨hupdatable, htime⟩ := hc
  unfold settledRow
  split
  · simp only [updatable, List.mem_cons, not_or] at hupdatable
    simp only [hupdatable.1, htime, if_false]
  · rfl

/-- Triggers run one after another. -/
theorem settledRow_cons (now : Value) (entries : List Row) (account : Value) (accounts : List Value) (a : Row) :
    settledRow setting now entries accounts (settledRow setting now entries [account] a) =
      settledRow setting now entries (account :: accounts) a := by
  have horg : settledRow setting now entries [account] a .organizationId = a .organizationId := settledRow_fixed _ _ _ _ (by decide)
  have hid : settledRow setting now entries [account] a .id = a .id := settledRow_fixed _ _ _ _ (by decide)
  have hlater : settledRow setting now entries accounts (settledRow setting now entries [account] a) =
      if (a .organizationId).eq (currentTenant setting) = true ∧ accounts.any (fun account => (a .id).eq account) = true then
        fun c => if c = .balance then .number (entriesOf entries (a .id)) else if c = .updatedAt then now
          else settledRow setting now entries [account] a c
      else settledRow setting now entries [account] a := by
    conv_lhs => unfold settledRow
    unfold settledRow at horg hid ⊢
    simp only [horg, hid]
  rw [hlater]
  unfold settledRow
  by_cases hown : (a .organizationId).eq (currentTenant setting) = true
  · by_cases hone : (a .id).eq account = true
    · by_cases hmore : accounts.any (fun account => (a .id).eq account) = true
      · simp only [hown, hone, hmore, List.any_cons, List.any_nil, Bool.or_true, Bool.true_or, and_self, if_true]
        funext c
        by_cases hb : c = .balance
        · simp [hb]
        · by_cases hu : c = .updatedAt
          · simp [hu]
          · simp [hb, hu]
      · simp [hown, hone, hmore]
    · simp [hown, hone]
  · simp [hown]

/-- The triggers of entries leave every table but the accounts. -/
theorem triggers_tables (now : Value) (accounts : List Value) (db : Database) {t : Table} (ht : t ≠ .accounts) :
    (accounts.foldl (updateAccountBalance setting now) db) t = db t := by
  induction accounts generalizing db with
  | nil => rfl
  | cons account accounts ih => exact (ih _).trans (if_neg ht)

/-- The triggers of entries settle the accounts. -/
theorem triggers_accounts (now : Value) (accounts : List Value) (db : Database) :
    (accounts.foldl (updateAccountBalance setting now) db) .accounts =
      (db .accounts).map (settledRow setting now (visible setting db .journalEntries) accounts) := by
  induction accounts generalizing db with
  | nil =>
    have hid : settledRow setting now (visible setting db .journalEntries) [] = id := by
      funext a
      exact if_neg (by simp)
    rw [hid, List.map_id]
    rfl
  | cons account accounts ih =>
    have hone : updateAccountBalance setting now db account .accounts =
        (db .accounts).map (settledRow setting now (visible setting db .journalEntries) [account]) := by
      unfold updateAccountBalance Database.with
      rw [if_pos rfl]
      refine List.map_congr_left (fun a _ => ?_)
      unfold settledRow tenantIsolation
      dsimp only [tenantColumn]
      by_cases heq : (a .id).eq account = true
      · rw [← (eq_iff.1 heq).2]
        simp
      · simp [heq]
    have hentries : visible setting (updateAccountBalance setting now db account) .journalEntries = visible setting db .journalEntries := by
      have hsame : updateAccountBalance setting now db account .journalEntries = db .journalEntries := rfl
      unfold visible
      rw [hsame]
      rfl
    rw [List.foldl_cons, ih, hone, hentries, List.map_map]
    exact List.map_congr_left (fun a _ => settledRow_cons now _ account accounts a)

/-! ## What a statement keeps -/

/-- The tables that no statement changes a row of: the entries, the audit logs and the refunds. -/
def history : List Table := [.journalEntries, .auditLogs, .refunds]

/-- What a statement keeps. -/
structure Keeps (setting : String) (db db' : Database) : Prop where
  constrained : Constrained db'
  sameTenant : SameTenant db'
  foreign : ∀ t, foreignRows setting db' t = foreignRows setting db t
  history : ∀ t ∈ history, db t <+: db' t

theorem Keeps.refl (hdb : Constrained db) (hsame : SameTenant db) : Keeps setting db db := ⟨hdb, hsame, fun _ => rfl, fun _ _ => List.prefix_rfl⟩

theorem Keeps.trans {db'' : Database} (h : Keeps setting db db') (h' : Keeps setting db' db'') : Keeps setting db db'' :=
  ⟨h'.constrained, h'.sameTenant, fun t => (h'.foreign t).trans (h.foreign t), fun t ht => (h.history t ht).trans (h'.history t ht)⟩

/-- Columns of rows of a table are set, and rows are added to it. -/
theorem keeps_change (rows : List Row) (hdb : Constrained db) (hsame : SameTenant db) {t : Table} {f : Row → Row}
    (hshape : db' = db.with t ((db t).map f ++ rows)) (hfixed : ∀ r ∈ db t, ∀ c, Fixed t c → f r c = r c)
    (hforeign : ∀ r ∈ db t, tenantIsolation setting db t r = false → f r = r)
    (hunique : ((db t).map f ++ rows).Pairwise (fun r r' => conflicts t r r' = false))
    (hmapped : ∀ r ∈ db t, f r = r ∨ references t = [] ∨ (withCheck setting db t (f r) = true ∧ referenced db t (f r) = true))
    (hrows : ∀ r ∈ rows, withCheck setting db t r = true ∧ referenced db t r = true)
    (hhistory : t ∈ history → ∀ r ∈ db t, f r = r) : Keeps setting db db' := by
  have hother : ∀ t', t' ≠ t → db' t' = db t' := fun t' ht' => by rw [hshape]; exact if_neg ht'
  have hthis : db' t = (db t).map f ++ rows := by rw [hshape]; exact if_pos rfl
  have hu : Unique db' := by
    intro t'
    by_cases ht' : t' = t
    · subst ht'
      rw [hthis]
      exact hunique
    · rw [hother t' ht']
      exact hdb.unique t'
  have hown : ∀ r, withCheck setting db t r = true → tenantIsolation setting db t r = true :=
    fun r hr => (Bool.and_eq_true_iff.1 hr).1
  have htable : ∀ t', ∃ g more, TableChange setting db db' t' g more ∧ ∀ r ∈ more, referenced db t' r = true := by
    intro t'
    by_cases ht' : t' = t
    · subst ht'
      exact ⟨f, rows, ⟨hthis, hfixed, hforeign, fun r hr => hown r (hrows r hr).1⟩, fun r hr => (hrows r hr).2⟩
    · refine ⟨id, [], ⟨?_, fun _ _ _ _ => rfl, fun _ _ _ => rfl, fun r hr => absurd hr List.not_mem_nil⟩,
        fun r hr => absurd hr List.not_mem_nil⟩
      rw [hother t' ht', List.map_id, List.append_nil]
  have hchange : Change setting db db' := fun t' => by
    obtain ⟨g, more, h, -⟩ := htable t'
    exact ⟨g, more, h⟩
  -- every row is one that was there, one that was checked, or one without references
  have hcases : ∀ t', ∀ r ∈ db' t', r ∈ db t' ∨ references t' = [] ∨ (withCheck setting db t' r = true ∧ referenced db t' r = true) := by
    intro t' r hr
    by_cases ht' : t' = t
    · subst ht'
      rw [hthis] at hr
      rcases List.mem_append.1 hr with hr | hr
      · obtain ⟨x, hx, rfl⟩ := List.mem_map.1 hr
        rcases hmapped x hx with h | h | h
        · rw [h]
          exact Or.inl hx
        · exact Or.inr (Or.inl h)
        · exact Or.inr (Or.inr h)
      · exact Or.inr (Or.inr (hrows r hr))
    · rw [hother t' ht'] at hr
      exact Or.inl hr
  refine ⟨⟨hu, fun t' r hr => ?_⟩, fun t' r hr => ?_, fun t' => hchange.foreign hdb hu htable t', fun t' ht' => ?_⟩
  · rcases hcases t' r hr with h | h | h
    · exact hchange.referenced (hdb.referenced t' r h)
    · unfold referenced
      rw [h]
      rfl
    · exact hchange.referenced h.2
  · rcases hcases t' r hr with h | h | h
    · exact hchange.fits hu (hdb.referenced t' r h) (hsame t' r h)
    · intro c g c' _ hg
      rw [h] at hg
      exact absurd hg List.not_mem_nil
    · exact hchange.fits hu h.2 (fits_of_check hdb.unique h.1)
  · by_cases heq : t' = t
    · subst heq
      rw [hthis]
      have hmap : (db t').map f = db t' := (List.map_congr_left (fun r hr => hhistory ht' r hr)).trans (List.map_id _)
      rw [hmap]
      exact List.prefix_append _ _
    · exact ⟨[], by rw [List.append_nil, hother t' heq]⟩

/-! ## Inserts -/

variable {now : Value} {t : Table} {rows : List Row}

/-- Rows that are added. -/
theorem keeps_append (hdb : Constrained db) (hsame : SameTenant db)
    (hrows : ∀ r ∈ rows, withCheck setting db t r = true ∧ referenced db t r = true)
    (hunique : (db t ++ rows).Pairwise (fun r r' => conflicts t r r' = false)) : Keeps setting db (db.with t (db t ++ rows)) := by
  have hid : (db t).map id = db t := List.map_id _
  refine keeps_change rows (t := t) (f := id) hdb hsame (by rw [hid]) (fun _ _ _ _ => rfl) (fun _ _ _ => rfl)
    (by rw [hid]; exact hunique) (fun _ _ => Or.inl rfl) hrows (fun _ _ _ => rfl)

/-- Accounts that are settled. -/
theorem keeps_triggers (hdb : Constrained db) (hsame : SameTenant db) (accounts : List Value) :
    Keeps setting db (accounts.foldl (updateAccountBalance setting now) db) := by
  have hfixed : ∀ a c, Fixed .accounts c → settledRow setting now (visible setting db .journalEntries) accounts a c = a c :=
    fun a c hc => settledRow_fixed now _ accounts a hc
  refine keeps_change [] (t := .accounts) (f := settledRow setting now (visible setting db .journalEntries) accounts) hdb hsame ?_
    (fun a _ c hc => hfixed a c hc) (fun a _ hforeign => if_neg ?_) ?_ (fun _ _ => Or.inr (Or.inl rfl))
    (fun r hr => absurd hr List.not_mem_nil) (fun h => absurd h (by decide))
  · funext t
    by_cases ht : t = .accounts
    · subst ht
      rw [triggers_accounts, List.append_nil]
      exact (if_pos rfl).symm
    · rw [triggers_tables _ _ _ ht]
      exact (if_neg ht).symm
  · rintro ⟨hown, -⟩
    have hnot : (a .organizationId).eq (currentTenant setting) = false := hforeign
    rw [hnot] at hown
    cases hown
  · rw [List.append_nil, List.pairwise_map]
    refine (hdb.unique .accounts).imp (fun {r r'} hne => ?_)
    unfold conflicts at hne ⊢
    rw [List.any_eq_false] at hne ⊢
    intro key hkey hall
    refine hne key hkey ?_
    rw [List.all_eq_true] at hall ⊢
    intro c hc
    have := hall c hc
    rwa [hfixed r c (fixed_key key hkey c hc), hfixed r' c (fixed_key key hkey c hc)] at this

/-- What an insert that is not refused checks, and leaves. -/
theorem insertRows_some (h : insertRows setting now t rows db = some db') :
    (∀ r ∈ rows, withCheck setting db t r = true ∧ referenced db t r = true) ∧
    (db t ++ rows).Pairwise (fun r r' => conflicts t r r' = false) ∧
    db' = if t = .journalEntries then (rows.map (· .accountId)).foldl (updateAccountBalance setting now) (db.with t (db t ++ rows))
      else db.with t (db t ++ rows) := by
  unfold insertRows at h
  split at h
  · rename_i hchecks
    exact ⟨hchecks.2.1, hchecks.2.2, (Option.some.inj h).symm⟩
  · cases h

theorem keeps_insert (hdb : Constrained db) (hsame : SameTenant db) (h : insertRows setting now t rows db = some db') :
    Keeps setting db db' := by
  obtain ⟨hrows, hunique, rfl⟩ := insertRows_some h
  have happend := keeps_append hdb hsame hrows hunique
  split
  · exact happend.trans (keeps_triggers happend.constrained happend.sameTenant _)
  · exact happend

/-! ## Updates -/

variable {columns : List Column} {set : Row → Option Row}

/-- What an update that is not refused checks, and leaves. -/
theorem updateRows_some (h : updateRows setting now t columns set db = some db') :
    (∀ c ∈ columns, c ∈ updatable t) ∧
    (∀ r ∈ db t, ∀ r', newRow setting now db t columns set r = some r' →
      t ≠ .accounts ∧ withCheck setting db t r' = true ∧ referenced db t r' = true) ∧
    ((db t).map (fun r => (newRow setting now db t columns set r).getD r)).Pairwise (fun r r' => conflicts t r r' = false) ∧
    db' = db.with t ((db t).map (fun r => (newRow setting now db t columns set r).getD r)) := by
  unfold updateRows at h
  dsimp only at h
  split at h
  · rename_i hchecks
    refine ⟨hchecks.1, fun r hr r' hr' => ?_, hchecks.2.2, (Option.some.inj h).symm⟩
    have hone := hchecks.2.1 r hr
    rw [hr'] at hone
    simpa [and_assoc] using hone
  · cases h

/-- A row that is picked keeps the columns that are not updated. -/
theorem newRow_fixed {r r' : Row} (hcolumns : ∀ c ∈ columns, c ∈ updatable t) (h : newRow setting now db t columns set r = some r')
    {c : Column} (hc : Fixed t c) : r' c = r c := by
  unfold newRow at h
  split at h
  · obtain ⟨values, -, rfl⟩ := Option.map_eq_some_iff.1 h
    dsimp only
    rw [if_neg (fun hu => hc.2 hu.1), if_neg (fun hmem => hc.1 (hcolumns c hmem))]
  · cases h

/-- A row of a table without columns to update stays. -/
theorem newRow_same {r r' : Row} (hcolumns : ∀ c ∈ columns, c ∈ updatable t) (hnone : updatable t = []) (hstamps : stampsUpdates t = false)
    (h : newRow setting now db t columns set r = some r') : r' = r := by
  unfold newRow at h
  split at h
  · obtain ⟨values, -, rfl⟩ := Option.map_eq_some_iff.1 h
    funext c
    rw [if_neg (by rw [hstamps]; simp), if_neg (fun hmem => by have := hcolumns c hmem; rw [hnone] at this; exact absurd this List.not_mem_nil)]
  · cases h

theorem keeps_update (hdb : Constrained db) (hsame : SameTenant db) (h : updateRows setting now t columns set db = some db') :
    Keeps setting db db' := by
  obtain ⟨hcolumns, hpicked, hunique, hshape⟩ := updateRows_some h
  refine keeps_change [] (t := t) (f := fun r => (newRow setting now db t columns set r).getD r) hdb hsame
    (by rw [List.append_nil]; exact hshape) (fun r hr c hc => ?_) (fun r hr hforeign => ?_) (by rw [List.append_nil]; exact hunique)
    (fun r hr => ?_) (fun r hr => absurd hr List.not_mem_nil) (fun ht r hr => ?_)
  · cases hnew : newRow setting now db t columns set r with
    | none => rfl
    | some r' => exact newRow_fixed hcolumns hnew hc
  · unfold newRow
    rw [if_neg (by rw [hforeign]; decide)]
    rfl
  · cases hnew : newRow setting now db t columns set r with
    | none => exact Or.inl rfl
    | some r' => exact Or.inr (Or.inr (hpicked r hr r' hnew).2)
  · cases hnew : newRow setting now db t columns set r with
    | none => rfl
    | some r' =>
      have hnone : updatable t = [] ∧ stampsUpdates t = false := by
        simp only [history, List.mem_cons, List.not_mem_nil, or_false] at ht
        rcases ht with rfl | rfl | rfl
        · exact ⟨rfl, rfl⟩
        · exact ⟨rfl, rfl⟩
        · exact ⟨rfl, rfl⟩
      exact newRow_same hcolumns hnone.1 hnone.2 hnew

/-- What is left by an insert. -/
theorem after_insert (rs : Snapshot → List Row) :
    after setting db (now, .insert t rs) = (insertRows setting now t (rs (visible setting db)) db).getD db := by
  change (((insertRows setting now t (rs (visible setting db)) db).map (fun db' => (([] : List Row), db'))).map (·.2)).getD db = _
  rw [Option.map_map]
  exact congrArg (·.getD db) (Option.map_id' (x := insertRows setting now t (rs (visible setting db)) db))

/-- What is left by an update. -/
theorem after_update (sets : Snapshot → Row → Option Row) :
    after setting db (now, .update t columns sets) = (updateRows setting now t columns (sets (visible setting db)) db).getD db := by
  change (((updateRows setting now t columns (sets (visible setting db)) db).map (fun db' => (([] : List Row), db'))).map (·.2)).getD db = _
  rw [Option.map_map]
  exact congrArg (·.getD db) (Option.map_id' (x := updateRows setting now t columns (sets (visible setting db)) db))

/-- A statement keeps the tables, whether it is refused or not. -/
theorem keeps_after (hdb : Constrained db) (hsame : SameTenant db) (x : Value × Statement) : Keeps setting db (after setting db x) := by
  obtain ⟨now, stmt⟩ := x
  cases stmt with
  | select query => exact .refl hdb hsame
  | insert t rows =>
    rw [after_insert]
    cases h : insertRows setting now t (rows (visible setting db)) db with
    | none => exact .refl hdb hsame
    | some db' => exact keeps_insert hdb hsame h
  | update t columns set =>
    rw [after_update]
    cases h : updateRows setting now t columns (set (visible setting db)) db with
    | none => exact .refl hdb hsame
    | some db' => exact keeps_update hdb hsame h

/-! ## Balances of a statement -/

/-- The statement opens accounts with no balance only, if it is not refused. -/
def OpensEmpty (setting : String) (db : Database) (x : Value × Statement) : Prop :=
  match x.2 with
  | .insert .accounts rows => (execute setting x.1 db x.2).isSome = true → ∀ r ∈ rows (visible setting db), r .balance = .number 0
  | _ => True

/-- An account that is inserted has no entries. -/
theorem entriesOf_new (hdb : Constrained db) {a : Row} (hnew : ∀ r ∈ db .accounts, conflicts .accounts r a = false) :
    entriesOf (db .journalEntries) (a .id) = 0 := by
  have hnone : (db .journalEntries).filter (fun e => (e .accountId).eq (a .id)) = [] := by
    rw [List.filter_eq_nil_iff]
    intro e he heq
    have href := List.all_eq_true.1 (hdb.referenced .journalEntries e he) ⟨.accountId, .accounts, .id⟩ (by decide)
    obtain ⟨hne, hid⟩ := eq_iff.1 heq
    rw [Bool.or_eq_true, List.any_eq_true] at href
    rcases href with hnull | ⟨r, hr, hrid⟩
    · exact hne (of_decide_eq_true hnull)
    · have hconflict := hnew r hr
      unfold conflicts at hconflict
      rw [List.any_eq_false] at hconflict
      refine hconflict [.id] (by decide) ?_
      have hida : r .id = a .id := (eq_iff.1 hrid).2.trans hid
      have hnid : a .id ≠ .null := hid ▸ hne
      simp [hida, hnid]
  unfold entriesOf
  rw [hnone]
  rfl

/-- New accounts leave the balances in order exactly when they are opened with none. -/
theorem balanced_accounts (hdb : Constrained db) (hb : Balanced db) (h : insertRows setting now .accounts rows db = some db') :
    Balanced db' ↔ ∀ r ∈ rows, r .balance = .number 0 := by
  obtain ⟨-, hunique, rfl⟩ := insertRows_some h
  rw [if_neg (by decide)]
  have haccounts : db.with .accounts (db .accounts ++ rows) .accounts = db .accounts ++ rows := if_pos rfl
  have hentries : db.with .accounts (db .accounts ++ rows) .journalEntries = db .journalEntries := if_neg (by decide)
  have hzero : ∀ r ∈ rows, entriesOf (db .journalEntries) (r .id) = 0 :=
    fun r hr => entriesOf_new hdb (fun x hx => (List.pairwise_append.1 hunique).2.2 x hx r hr)
  unfold Balanced
  rw [haccounts, hentries]
  constructor
  · intro h r hr
    rw [h r (List.mem_append_right _ hr), hzero r hr]
  · intro h a ha
    rcases List.mem_append.1 ha with ha | ha
    · exact hb a ha
    · rw [h a ha, hzero a ha]

/-- Entries leave the balances in order. -/
theorem balanced_entries (hdb : Constrained db) (hsame : SameTenant db) (hb : Balanced db)
    (h : insertRows setting now .journalEntries rows db = some db') : Balanced db' := by
  obtain ⟨hrows, hunique, rfl⟩ := insertRows_some h
  rw [if_pos rfl]
  have happend := keeps_append hdb hsame hrows hunique
  generalize hstored : db.with .journalEntries (db .journalEntries ++ rows) = stored at happend
  have hentries : stored .journalEntries = db .journalEntries ++ rows := by rw [← hstored]; exact if_pos rfl
  have haccounts : stored .accounts = db .accounts := by rw [← hstored]; exact if_neg (by decide)
  intro a' ha'
  rw [triggers_accounts] at ha'
  rw [triggers_tables _ _ _ (by decide)]
  obtain ⟨a, ha, rfl⟩ := List.mem_map.1 ha'
  rw [settledRow_fixed _ _ _ _ (show Fixed .accounts .id by decide)]
  unfold settledRow
  split
  · rename_i hsettled
    obtain ⟨account, -, hid⟩ := List.any_eq_true.1 hsettled.2
    have hself : (a .id).eq (a .id) = true := eq_iff.2 ⟨(eq_iff.1 hid).1, rfl⟩
    exact congrArg Value.number (entriesOf_visible happend.sameTenant ha hsettled.1 hself)
  · rename_i hunsettled
    rw [haccounts] at ha
    rw [hb a ha, hentries, entriesOf_append]
    intro e he
    by_contra heq
    rw [Bool.not_eq_false] at heq
    -- an entry of the account is the role's, and so is the account
    obtain ⟨hne, hid⟩ := eq_iff.1 heq
    refine hunsettled ⟨?_, List.any_eq_true.2 ⟨e .accountId, List.mem_map.2 ⟨e, he, rfl⟩, eq_iff.2 ⟨hid ▸ hne, hid.symm⟩⟩⟩
    have hcheck := (hrows e he).1
    have hfits : a .organizationId = e .organizationId :=
      fits_of_check hdb.unique hcheck .organizationId ⟨.accountId, .accounts, .id⟩ .organizationId rfl (by decide) rfl a ha
        (eq_iff.2 ⟨hid ▸ hne, hid.symm⟩)
    rw [hfits]
    exact (Bool.and_eq_true_iff.1 hcheck).1

/-- Rows of another table leave the balances. -/
theorem balanced_other (hb : Balanced db) (haccounts : db' .accounts = db .accounts) (hentries : db' .journalEntries = db .journalEntries) :
    Balanced db' := by
  unfold Balanced
  rw [haccounts, hentries]
  exact hb

/-- An update leaves the balances. -/
theorem balanced_update (hb : Balanced db) (h : updateRows setting now t columns set db = some db') : Balanced db' := by
  obtain ⟨hcolumns, hpicked, -, rfl⟩ := updateRows_some h
  have hsame : ∀ t', t' = .accounts ∨ t' = .journalEntries →
      db.with t ((db t).map (fun r => (newRow setting now db t columns set r).getD r)) t' = db t' := by
    intro t' ht'
    by_cases heq : t' = t
    · subst heq
      refine (if_pos rfl).trans ((List.map_congr_left (fun r hr => ?_)).trans (List.map_id _))
      cases hnew : newRow setting now db t' columns set r with
      | none => rfl
      | some r' =>
        rcases ht' with rfl | rfl
        · exact absurd rfl (hpicked r hr r' hnew).1
        · exact newRow_same hcolumns rfl rfl hnew
    · exact if_neg heq
  exact balanced_other hb (hsame _ (Or.inl rfl)) (hsame _ (Or.inr rfl))

/-- A statement leaves the balances in order exactly when it opens accounts with none. -/
theorem balanced_after_iff (hdb : Constrained db) (hsame : SameTenant db) (hb : Balanced db) (x : Value × Statement) :
    Balanced (after setting db x) ↔ OpensEmpty setting db x := by
  obtain ⟨now, stmt⟩ := x
  cases stmt with
  | select query => exact ⟨fun _ => trivial, fun _ => hb⟩
  | update t columns set =>
    refine ⟨fun _ => trivial, fun _ => ?_⟩
    rw [after_update]
    cases h : updateRows setting now t columns (set (visible setting db)) db with
    | none => exact hb
    | some db' => exact balanced_update hb h
  | insert t rows =>
    by_cases ht : t = .accounts
    · subst ht
      rw [after_insert]
      unfold OpensEmpty execute
      dsimp only
      cases h : insertRows setting now .accounts (rows (visible setting db)) db with
      | none => exact ⟨fun _ hsome => (by cases hsome), fun _ => hb⟩
      | some db' => exact (balanced_accounts hdb hb h).trans ⟨fun hzero _ => hzero, fun hzero => hzero rfl⟩
    · have htrue : OpensEmpty setting db (now, .insert t rows) := by
        unfold OpensEmpty
        split
        · rename_i heq
          cases heq
          exact absurd rfl ht
        · trivial
      refine ⟨fun _ => htrue, fun _ => ?_⟩
      rw [after_insert]
      cases h : insertRows setting now t (rows (visible setting db)) db with
      | none => exact hb
      | some db' =>
        by_cases hentries : t = .journalEntries
        · subst hentries
          exact balanced_entries hdb hsame hb h
        · obtain ⟨-, -, rfl⟩ := insertRows_some h
          change Balanced (if t = .journalEntries then _ else _)
          rw [if_neg hentries]
          exact balanced_other hb (if_neg (fun heq => ht heq.symm)) (if_neg (fun heq => hentries heq.symm))

end TenantRole

end Archisynapse
