import Archisynapse.Lemmas.TenantRole
import Mathlib.Data.List.Induction

/-!
# The role of tenants is confined

Along any statements of the role, rows reference rows of their own tenant, the rows of other tenants are neither seen nor changed, and
no entry, audit log or refund is changed; and balances are those of the entries in every state reached exactly when the role opens
every account with a balance of 0 (`tenant_confined_iff`). An insert may open an account with any balance (`balance_inserted`).
-/

namespace Archisynapse

namespace TenantRole

/-- The tenant that a row belongs to: the one its column names, or that of the obligation it references. -/
inductive BelongsTo (db : Database) (t : Table) (r : Row) : Value → Prop where
  | named (c : Column) (h : tenantColumn t = some c) : BelongsTo db t r (r c)
  | child (c : Column) (o : Row) (h : obligationColumn t = some c) (ho : o ∈ db .royaltyObligations) (hid : (o .id).eq (r c) = true) :
      BelongsTo db t r (o .organizationId)

/-- The role sees rows of the tenant only. -/
theorem visible_own {setting : String} {db : Database} (hdb : Constrained db) {t : Table} {r : Row} (hr : r ∈ visible setting db t)
    {tenant : Value} (h : BelongsTo db t r tenant) : tenant = currentTenant setting := by
  obtain ⟨-, hown⟩ := List.mem_filter.1 hr
  unfold tenantIsolation at hown
  cases h with
  | named c hc =>
    rw [hc] at hown
    exact (eq_iff.1 hown).2
  | child c o hc ho hid =>
    have hnone : tenantColumn t = none := by
      cases t <;> simp [obligationColumn] at hc <;> rfl
    rw [hnone, hc] at hown
    obtain ⟨o', ho', hboth⟩ := List.any_eq_true.1 hown
    rw [Bool.and_eq_true] at hboth
    rw [hdb.unique.eq_of_key (by decide) ho ho' hid hboth.1]
    exact (eq_iff.1 hboth.2).2

/-- What the role leaves of tables it started from. -/
structure Confined (setting : String) (db db' : Database) : Prop where
  /-- Every row references rows of its own tenant. -/
  sameTenant : SameTenant db'
  /-- The rows the role sees are the tenant's. -/
  seen : ∀ t, ∀ r ∈ visible setting db' t, ∀ tenant, BelongsTo db' t r tenant → tenant = currentTenant setting
  /-- The other rows are as they were. -/
  foreign : ∀ t, foreignRows setting db' t = foreignRows setting db t
  /-- The entries, audit logs and refunds are still there, and come first. -/
  history : ∀ t ∈ history, db t <+: db' t

/-- What statements keep. -/
theorem keeps_afterAll (setting : String) {db : Database} (hdb : Constrained db) (hsame : SameTenant db) (xs : List (Value × Statement)) :
    Keeps setting db (afterAll setting db xs) := by
  induction xs using List.reverseRecOn with
  | nil => exact .refl hdb hsame
  | append_singleton xs x ih =>
    have hstep : afterAll setting db (xs ++ [x]) = after setting (afterAll setting db xs) x := by
      unfold afterAll
      rw [List.foldl_append]
      rfl
    rw [hstep]
    exact ih.trans (keeps_after ih.constrained ih.sameTenant x)

/-- For tables whose constraints hold, whose rows reference rows of their own tenant and whose balances are those of the entries, and any
statements of the role with one tenant set, refused or not: what the statements leave is confined at every point; and the balances are
those of the entries at every point if and only if no statement opens an account with a balance other than 0. -/
theorem tenant_confined_iff (setting : String) {db : Database} (hdb : Constrained db) (hsame : SameTenant db) (hb : Balanced db)
    (xs : List (Value × Statement)) :
    ((∀ ys, ys <+: xs → Confined setting db (afterAll setting db ys) ∧ Balanced (afterAll setting db ys)) ↔
      ∀ ys x, ys ++ [x] <+: xs → OpensEmpty setting (afterAll setting db ys) x) ∧
    ∀ ys, ys <+: xs → Confined setting db (afterAll setting db ys) := by
  have hconfined : ∀ ys, Confined setting db (afterAll setting db ys) := by
    intro ys
    have hkeeps := keeps_afterAll setting hdb hsame ys
    exact ⟨hkeeps.sameTenant, fun t r hr tenant h => visible_own hkeeps.constrained hr h, hkeeps.foreign, hkeeps.history⟩
  have hstep : ∀ ys x, afterAll setting db (ys ++ [x]) = after setting (afterAll setting db ys) x := by
    intro ys x
    unfold afterAll
    rw [List.foldl_append]
    rfl
  refine ⟨⟨fun h ys x hprefix => ?_, fun h ys hprefix => ⟨hconfined ys, ?_⟩⟩, fun ys _ => hconfined ys⟩
  · have hkeeps := keeps_afterAll setting hdb hsame ys
    have hbefore := (h ys ((List.prefix_append ys [x]).trans hprefix)).2
    have hafter := (h (ys ++ [x]) hprefix).2
    rw [hstep] at hafter
    exact (balanced_after_iff hkeeps.constrained hkeeps.sameTenant hbefore x).1 hafter
  · induction ys using List.reverseRecOn with
    | nil => exact hb
    | append_singleton ys x ih =>
      have hkeeps := keeps_afterAll setting hdb hsame ys
      rw [hstep]
      exact (balanced_after_iff hkeeps.constrained hkeeps.sameTenant (ih ((List.prefix_append ys [x]).trans hprefix)) x).2 (h ys x hprefix)

/-! ## An account of a tenant -/

/-- No rows. -/
def emptyDatabase : Database := fun _ => []

/-- An account that is opened with a balance. -/
def openedAccount (balance : Int) : Row
  | .id => .text "acc-1"
  | .organizationId => .text "lyrica"
  | .code => .text "1000"
  | .balance => .number balance
  | _ => .null

/-- An account is opened, and an entry of 1.25 is posted to it. -/
def openingStatements (balance : Int) : List (Value × Statement) :=
  [(.null, .insert .accounts (fun _ => [openedAccount balance])),
    (.null, .insert .journalEntries (fun _ => [fun
      | .id => .text "entry-1"
      | .organizationId => .text "lyrica"
      | .accountId => .text "acc-1"
      | .debitCredit => .text "DEBIT"
      | .amount => .number 12500
      | _ => .null]))]

theorem emptyDatabase_starts : Constrained emptyDatabase ∧ SameTenant emptyDatabase ∧ Balanced emptyDatabase :=
  ⟨⟨fun _ => .nil, fun _ _ h => absurd h List.not_mem_nil⟩, fun _ _ h => absurd h List.not_mem_nil, fun _ h => absurd h List.not_mem_nil⟩

/-- The theorem at an account that is opened with 0 and posted to: its balance is 1.25. -/
theorem tenant_confined_opened :
    (afterAll "lyrica" emptyDatabase (openingStatements 0) .accounts).map (· .balance) = [.number 12500] ∧
    Balanced (afterAll "lyrica" emptyDatabase (openingStatements 0)) ∧
    Confined "lyrica" emptyDatabase (afterAll "lyrica" emptyDatabase (openingStatements 0)) := by
  obtain ⟨hdb, hsame, hb⟩ := emptyDatabase_starts
  have hall := (tenant_confined_iff "lyrica" hdb hsame hb (openingStatements 0)).1.2 (fun ys x hprefix => ?_) _ List.prefix_rfl
  · exact ⟨by decide +kernel, hall.2, hall.1⟩
  · obtain ⟨now, stmt⟩ := x
    have hmem : (now, stmt) ∈ openingStatements 0 := hprefix.subset (List.mem_append_right _ List.mem_cons_self)
    rcases List.mem_cons.1 hmem with h | h
    · cases h
      intro _ r hr
      rw [List.mem_singleton.1 hr]
      rfl
    · rcases List.mem_cons.1 h with h | h
      · cases h
        trivial
      · cases h

/-- An account may be opened with any balance. -/
theorem balance_inserted : ¬ ∀ (setting : String) (db : Database), Constrained db → SameTenant db → Balanced db →
    ∀ xs : List (Value × Statement), Balanced (afterAll setting db xs) := by
  intro h
  obtain ⟨hdb, hsame, hb⟩ := emptyDatabase_starts
  have hbalanced := h "lyrica" emptyDatabase hdb hsame hb [(.null, .insert .accounts (fun _ => [openedAccount 10000000]))]
  have haccount : openedAccount 10000000 ∈
      afterAll "lyrica" emptyDatabase [(.null, .insert .accounts (fun _ => [openedAccount 10000000]))] .accounts := by
    have hinsert : (insertRows "lyrica" .null .accounts [openedAccount 10000000] emptyDatabase).isSome = true := by decide +kernel
    obtain ⟨db', hdb'⟩ := Option.isSome_iff_exists.1 hinsert
    have hafter : afterAll "lyrica" emptyDatabase [(.null, .insert .accounts (fun _ => [openedAccount 10000000]))] = db' := by
      unfold afterAll
      rw [List.foldl_cons, List.foldl_nil, after_insert, hdb']
      rfl
    rw [hafter, (insertRows_some hdb').2.2, if_neg (by decide)]
    exact List.mem_cons_self
  have hentries : afterAll "lyrica" emptyDatabase [(.null, .insert .accounts (fun _ => [openedAccount 10000000]))] .journalEntries = [] := by
    rfl
  have hbalance := hbalanced _ haccount
  rw [hentries] at hbalance
  exact absurd hbalance (by decide)

end TenantRole

end Archisynapse
