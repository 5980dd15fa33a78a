import Archisynapse.Ledger.Service
import Mathlib.Data.List.Induction

/-!
# Helper lemmas: pending writes and what a view holds

What a worker's writes are after a write, a commit or a rollback, and what the writes of a transaction do to each table: entries
are appended, accounts keep everything but their balance, and the transactions change only by the writes that name them.
-/

namespace Archisynapse

namespace Ledger

/-! ## Pending writes -/

@[simp] theorem State.db_write (s : State) (w : Nat) (x : Write) : (s.write w x).db = s.db := rfl

@[simp] theorem State.db_discard (s : State) (w : Nat) : (s.discard w).db = s.db := rfl

@[simp] theorem State.db_commit (s : State) (w : Nat) : (s.commit w).db = s.view w := rfl

@[simp] theorem State.writes_write (s : State) (w : Nat) (x : Write) : (s.write w x).writes w = s.writes w ++ [x] := by
  simp [State.writes, State.write, List.filter_append]

theorem State.writes_write_of_ne (s : State) {w w' : Nat} (x : Write) (h : w' ≠ w) :
    (s.write w x).writes w' = s.writes w' := by
  simp [State.writes, State.write, List.filter_append, h.symm]

@[simp] theorem State.writes_discard (s : State) (w : Nat) : (s.discard w).writes w = [] := by
  simp [State.writes, State.discard, List.filter_filter]

theorem State.writes_discard_of_ne (s : State) {w w' : Nat} (h : w' ≠ w) : (s.discard w).writes w' = s.writes w' := by
  simp only [State.writes, State.discard, List.filter_filter]
  congr 1
  refine List.filter_congr (fun p _ => ?_)
  by_cases hp : p.1 = w'
  · simp [hp, h]
  · simp [hp]

@[simp] theorem State.writes_commit (s : State) (w : Nat) : (s.commit w).writes w = [] := s.writes_discard w

theorem State.writes_commit_of_ne (s : State) {w w' : Nat} (h : w' ≠ w) : (s.commit w).writes w' = s.writes w' :=
  s.writes_discard_of_ne h

/-- A pending write is one of the writes of its worker. -/
theorem State.mem_writes {s : State} {w : Nat} {x : Write} : x ∈ s.writes w ↔ (w, x) ∈ s.pending := by
  simp only [State.writes, List.mem_map, List.mem_filter, decide_eq_true_eq]
  constructor
  · rintro ⟨⟨w', y⟩, ⟨hp, rfl⟩, rfl⟩
    exact hp
  · intro h
    exact ⟨(w, x), ⟨h, rfl⟩, rfl⟩

/-- A statement that does not wait for a lock finds it in no write of another worker. -/
theorem State.not_locked {s : State} {w : Nat} {locks : List Lock} (h : s.waits w locks = false) {w' : Nat} (hw : w' ≠ w)
    {x : Write} (hx : x ∈ s.writes w') {l : Lock} (hl : l ∈ locks) : l ∉ x.locks := by
  intro hlx
  simp only [State.waits, List.any_eq_false] at h
  refine h (w', x) (State.mem_writes.1 hx) ?_
  simp only [Bool.and_eq_true, Bool.not_eq_true', decide_eq_false_iff_not, List.any_eq_true, decide_eq_true_eq]
  exact ⟨hw, l, hlx, hl⟩

/-! ## What writes do to the tables -/

/-- The journal entry a write inserts. -/
def Write.entryOf : Write → Option EntryRow
  | .entry row => some row
  | _ => none

/-- The journal entries some writes insert. -/
def entryRows (ws : List Write) : List EntryRow := ws.filterMap Write.entryOf

/-- A write that leaves the transactions alone. -/
def Write.isBook : Write → Bool
  | .transaction _ => false
  | .status _ _ => false
  | _ => true

@[simp] theorem entryRows_nil : entryRows [] = [] := rfl

@[simp] theorem entryRows_append (ws ws' : List Write) : entryRows (ws ++ ws') = entryRows ws ++ entryRows ws' := by
  simp [entryRows]

@[simp] theorem entryRows_cons (x : Write) (ws : List Write) : entryRows (x :: ws) = x.entryOf.toList ++ entryRows ws := by
  unfold entryRows
  cases h : x.entryOf <;> simp [h]

/-- The entries after some writes: what was there and what they insert. -/
theorem entries_foldl (ws : List Write) (d : Tables) :
    (ws.foldl Tables.apply d).entries = d.entries ++ entryRows ws := by
  induction ws generalizing d with
  | nil => simp
  | cons x ws ih =>
    rw [List.foldl_cons, ih]
    cases x <;> simp [Tables.apply, Write.entryOf]

/-- Writes that leave the transactions alone. -/
theorem transactions_foldl_of_isBook {ws : List Write} (h : ∀ x ∈ ws, x.isBook = true) (d : Tables) :
    (ws.foldl Tables.apply d).transactions = d.transactions := by
  induction ws generalizing d with
  | nil => rfl
  | cons x ws ih =>
    rw [List.foldl_cons, ih (fun y hy => h y (List.mem_cons_of_mem x hy))]
    have hx := h x List.mem_cons_self
    cases x <;> first | rfl | cases hx

/-- Writes change nothing of an account but its balance. -/
theorem accounts_foldl {β : Type} (g : AccountRow → β) (hg : ∀ a n, g { a with balance := n } = g a) (ws : List Write)
    (d : Tables) : (ws.foldl Tables.apply d).accounts.map g = d.accounts.map g := by
  induction ws generalizing d with
  | nil => rfl
  | cons x ws ih =>
    rw [List.foldl_cons, ih]
    cases x with
    | balance id n => exact map_updateKey g (fun a => hg a n) d.accounts
    | _ => rfl

/-- The balance some writes leave on an account, if they write it. -/
def lastBalance (ws : List Write) (a : Uuid) : Option Int :=
  ws.foldl (fun n x => match x with
    | .balance id m => if id = a then some m else n
    | _ => n) none

@[simp] theorem lastBalance_nil (a : Uuid) : lastBalance [] a = none := rfl

theorem lastBalance_concat_balance (ws : List Write) (id : Uuid) (n : Int) (a : Uuid) :
    lastBalance (ws ++ [.balance id n]) a = if id = a then some n else lastBalance ws a := by
  simp [lastBalance, List.foldl_append]

/-- Only writes of balances change it. -/
theorem lastBalance_concat (ws : List Write) {x : Write} (hx : ∀ id n, x ≠ .balance id n) (a : Uuid) :
    lastBalance (ws ++ [x]) a = lastBalance ws a := by
  cases x with
  | balance id n => exact absurd rfl (hx id n)
  | _ => simp [lastBalance, List.foldl_append]

/-- The balance of an account after some writes: the last one they write, or the one it had. -/
theorem balance_foldl (ws : List Write) (d : Tables) {x : AccountRow} (hx : x ∈ (ws.foldl Tables.apply d).accounts) :
    lastBalance ws x.id = some x.balance ∨
      lastBalance ws x.id = none ∧ ∃ y ∈ d.accounts, y.id = x.id ∧ y.balance = x.balance := by
  induction ws using List.reverseRecOn generalizing x with
  | nil => exact Or.inr ⟨rfl, x, hx, rfl, rfl⟩
  | append_singleton ws w ih =>
    rw [List.foldl_append, List.foldl_cons, List.foldl_nil] at hx
    cases w with
    | balance id n =>
      rw [lastBalance_concat_balance]
      rcases mem_updateKey.1 hx with ⟨y, -, hy, rfl⟩ | ⟨hx, hne⟩
      · exact Or.inl (if_pos hy.symm)
      · rw [if_neg (Ne.symm hne)]
        exact ih hx
    | _ =>
      rw [lastBalance_concat _ (by simp)]
      exact ih hx

/-- The response a write stores. -/
def Write.response? : Write → Option ResponseRow
  | .response row => some row
  | _ => none

/-- The responses some writes store. -/
def responseRows (ws : List Write) : List ResponseRow := ws.filterMap Write.response?

@[simp] theorem responseRows_append (ws ws' : List Write) : responseRows (ws ++ ws') = responseRows ws ++ responseRows ws' := by
  simp [responseRows]

/-- Insert or update a stored response. -/
def storeResponse (rs : List ResponseRow) (row : ResponseRow) : List ResponseRow :=
  (Tables.apply ⟨[], [], [], rs⟩ (.response row)).responses

/-- The responses after some writes. -/
theorem responses_foldl (ws : List Write) (d : Tables) :
    (ws.foldl Tables.apply d).responses = (responseRows ws).foldl storeResponse d.responses := by
  induction ws generalizing d with
  | nil => rfl
  | cons x ws ih =>
    rw [List.foldl_cons, ih]
    cases x <;> rfl

/-- The transaction a write inserts. -/
def Write.transaction? : Write → Option TransactionRow
  | .transaction row => some row
  | _ => none

@[simp] theorem State.view_write (s : State) (w : Nat) (x : Write) : (s.write w x).view w = (s.view w).apply x := by
  simp [State.view, List.foldl_append]

@[simp] theorem State.entries_view (s : State) (w : Nat) : (s.view w).entries = s.db.entries ++ entryRows (s.writes w) :=
  entries_foldl _ _

/-- The view of a worker that wrote nothing. -/
theorem State.view_of_nil {s : State} {w : Nat} (h : s.writes w = []) : s.view w = s.db := by
  simp [State.view, h]

/-- A worker's open transaction has inserted an entry on an account. -/
def State.touches (s : State) (w : Nat) (a : Uuid) : Prop := ∃ e ∈ entryRows (s.writes w), e.accountId = a

/-- No other open transaction has inserted an entry on an account this worker's has. -/
def State.Apart (s : State) (w : Nat) : Prop := ∀ w', w' ≠ w → ∀ a, s.touches w a → ¬ s.touches w' a

/-- An organization has an account. -/
def Tables.HasAccount (d : Tables) (id : Uuid) (organizationId : String) : Prop :=
  ∃ a ∈ d.accounts, a.id = id ∧ a.organizationId = organizationId

/-- A view has the accounts that are committed. -/
theorem State.hasAccount_view {s : State} {w : Nat} {id : Uuid} {organizationId : String} :
    (s.view w).HasAccount id organizationId ↔ s.db.HasAccount id organizationId := by
  have h := accounts_foldl (fun a => (a.id, a.organizationId)) (fun _ _ => rfl) (s.writes w) s.db
  have hmem : ∀ d : Tables, d.HasAccount id organizationId ↔
      (id, organizationId) ∈ d.accounts.map (fun a => (a.id, a.organizationId)) := by
    intro d
    simp [Tables.HasAccount]
  rw [hmem, hmem, ← h]
  rfl

end Ledger

end Archisynapse
