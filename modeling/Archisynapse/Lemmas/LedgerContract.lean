import Archisynapse.Lemmas.LedgerBooks

/-!
# The contract of a ledger call, and its statements one by one

The contract of a ledger call (`contract`) and the weakest precondition of each kind of statement under it. The invariant
`Inv` says that the committed books are in order and that the transactions being posted are new; between two statements of a
call the others may only add to the books (`Rely`). In the mode `alone` no other call is open, and in the mode `apart` no
transaction commits an entry on an account on which another open one has an entry, so that the balances can be followed through
the triggers; in the mode `guarded` no transaction is reversed that is reversed already or being reversed.
-/

namespace Archisynapse

namespace Ledger

/-! ## The contract -/

/-- What is assumed of the calls: that one is made at a time, that reversals are guarded, and that commits are apart. -/
structure Mode where
  alone : Bool
  guarded : Bool
  apart : Bool

/-- One call at a time, reversals not guarded. -/
def Mode.single : Mode := ⟨true, false, false⟩

/-- The modes in which balances are followed. -/
def Mode.tallies (m : Mode) : Bool := m.alone || m.apart

/-- The transaction a call reverses. -/
def Call.reverses : Call → Option Uuid
  | .reverseTransaction _ _ transactionId _ => transactionId.value
  | _ => none

/-- No row of the transaction says it was reversed. -/
def Unreversed (d : Tables) (t : Uuid) : Prop := ∀ x ∈ d.transactions, x.id = t → x.status ≠ .reversed

/-- The transactions that reverse one. -/
def Tables.reversals (d : Tables) (t : Uuid) : List Post := d.posts.filter (fun p => decide (p.reverses = some t))

/-- Every transaction was reversed at most once, and only if its row says so. -/
structure Once (d : Tables) : Prop where
  atMost : ∀ t, (d.reversals t).length ≤ 1
  marked : ∀ t, Unreversed d t → d.reversals t = []

/-- The invariant of the database. -/
structure Inv (m : Mode) (s : State) : Prop where
  books : Books s.db
  balances : m.tallies = true → Balances s.db
  once : m.guarded = true → Once s.db
  fresh : ∀ w row, .transaction row ∈ s.writes w → ∀ p ∈ s.db.posts, p.id ≠ row.id
  apart : ∀ w w' row row', w ≠ w' → .transaction row ∈ s.writes w → .transaction row' ∈ s.writes w' → row.id ≠ row'.id

/-- What a call counts on between two of its statements. -/
structure Rely (m : Mode) (w : Nat) (c : Call) (s s' : State) : Prop where
  writes : s'.writes w = s.writes w
  grows : Grows s.db s'.db
  alone : m.alone = true → s'.db = s.db
  guarded : m.guarded = true → ∀ t, c.reverses = some t → Unreversed s.db t → Unreversed s'.db t
  sums : m.tallies = true → ∀ a, s.touches w a → accountSum s'.db.entries a = accountSum s.db.entries a

/-- What a statement of a call does. -/
structure Guar (m : Mode) (w : Nat) (c : Call) (s s' : State) : Prop where
  writes : ∀ w', w' ≠ w → s'.writes w' = s.writes w'
  grows : Grows s.db s'.db
  guarded : m.guarded = true → ∀ t, c.reverses ≠ some t → Unreversed s.db t → Unreversed s'.db t
  sums : m.apart = true → ∀ w', w' ≠ w → ∀ a, s.touches w' a → accountSum s'.db.entries a = accountSum s.db.entries a

/-- The contract of a call. -/
def contract (m : Mode) (w : Nat) (c : Call) : Contract State := ⟨Inv m, Rely m w c, Guar m w c⟩

/-- What a statement of a worker may do. -/
def Does (m : Mode) (w : Nat) (o : Session × Statement) (s : State) (r : Except LedgerError o.2.Result) (s' : State) : Prop :=
  (m.apart = true → o.2 = .commit → s.Apart w) ∧ ∃ fails, exec w o fails s = some (r, s')

section

variable {m : Mode} {w : Nat} {c : Call} {s s' s'' : State}

theorem Rely.refl (m : Mode) (w : Nat) (c : Call) (s : State) : Rely m w c s s :=
  ⟨rfl, .refl _, fun _ => rfl, fun _ _ _ h => h, fun _ _ _ => rfl⟩

theorem Rely.trans (h : Rely m w c s s') (h' : Rely m w c s' s'') : Rely m w c s s'' where
  writes := h'.writes.trans h.writes
  grows := h.grows.trans h'.grows
  alone ha := (h'.alone ha).trans (h.alone ha)
  guarded hg t ht hu := h'.guarded hg t ht (h.guarded hg t ht hu)
  sums ht a ha := by
    have ha' : s'.touches w a := by
      unfold State.touches
      rw [h.writes]
      exact ha
    exact (h'.sums ht a ha').trans (h.sums ht a ha)

/-- A statement that leaves the committed tables alone and writes for its own worker only. -/
theorem Guar.of_db (hdb : s'.db = s.db) (hw : ∀ w', w' ≠ w → s'.writes w' = s.writes w') : Guar m w c s s' where
  writes := hw
  grows := by rw [hdb]; exact .refl _
  guarded _ t _ hu := by rw [hdb]; exact hu
  sums _ _ _ _ _ := by rw [hdb]

theorem Guar.refl (m : Mode) (w : Nat) (c : Call) (s : State) : Guar m w c s s := .of_db rfl (fun _ _ => rfl)

/-- Giving a transaction up. -/
theorem Inv.discard (h : Inv m s) (w : Nat) : Inv m (s.discard w) := by
  have hsub : ∀ w' x, x ∈ (s.discard w).writes w' → x ∈ s.writes w' := by
    intro w' x hx
    by_cases hw : w' = w
    · subst hw
      simp at hx
    · rwa [s.writes_discard_of_ne hw] at hx
  exact ⟨h.books, h.balances, h.once, fun w' row hr => h.fresh w' row (hsub _ _ hr),
    fun w₁ w₂ row row' hne hr hr' => h.apart w₁ w₂ row row' hne (hsub _ _ hr) (hsub _ _ hr')⟩

theorem Guar.discard (m : Mode) (w : Nat) (c : Call) (s : State) : Guar m w c s (s.discard w) :=
  .of_db rfl (fun _ hw => s.writes_discard_of_ne hw)

/-- A write that inserts no transaction. -/
theorem Inv.write (h : Inv m s) (w : Nat) {x : Write} (hx : x.transaction? = none) : Inv m (s.write w x) := by
  have hsub : ∀ w' row, .transaction row ∈ (s.write w x).writes w' → .transaction row ∈ s.writes w' := by
    intro w' row hr
    by_cases hw : w' = w
    · subst hw
      rw [State.writes_write, List.mem_append, List.mem_singleton] at hr
      rcases hr with hr | rfl
      · exact hr
      · cases hx
    · rwa [s.writes_write_of_ne x hw] at hr
  exact ⟨h.books, h.balances, h.once, fun w' row hr => h.fresh w' row (hsub _ _ hr),
    fun w₁ w₂ row row' hne hr hr' => h.apart w₁ w₂ row row' hne (hsub _ _ hr) (hsub _ _ hr')⟩

/-- A write that inserts a transaction no one has. -/
theorem Inv.writeTransaction (h : Inv m s) {row : TransactionRow} (hdb : ∀ p ∈ s.db.posts, p.id ≠ row.id)
    (hother : ∀ w' row', w' ≠ w → .transaction row' ∈ s.writes w' → row'.id ≠ row.id) :
    Inv m (s.write w (.transaction row)) := by
  have hcase : ∀ w' row', .transaction row' ∈ (s.write w (.transaction row)).writes w' →
      .transaction row' ∈ s.writes w' ∨ (w' = w ∧ row' = row) := by
    intro w' row' hr
    by_cases hw : w' = w
    · subst hw
      rw [State.writes_write, List.mem_append, List.mem_singleton, Write.transaction.injEq] at hr
      exact hr.imp id (fun he => ⟨rfl, he⟩)
    · rw [s.writes_write_of_ne _ hw] at hr
      exact Or.inl hr
  refine ⟨h.books, h.balances, h.once, ?_, ?_⟩
  · intro w' row' hr
    rcases hcase w' row' hr with hr | ⟨-, rfl⟩
    · exact h.fresh w' row' hr
    · exact hdb
  · intro w₁ w₂ row₁ row₂ hne hr₁ hr₂
    rcases hcase w₁ row₁ hr₁ with h₁ | ⟨rfl, rfl⟩ <;> rcases hcase w₂ row₂ hr₂ with h₂ | ⟨rfl, rfl⟩
    · exact h.apart w₁ w₂ row₁ row₂ hne h₁ h₂
    · exact hother w₁ row₁ hne h₁
    · exact (hother w₂ row₂ hne.symm h₂).symm
    · exact absurd rfl hne

theorem Guar.write (m : Mode) (w : Nat) (c : Call) (s : State) (x : Write) : Guar m w c s (s.write w x) :=
  .of_db rfl (fun _ hw => s.writes_write_of_ne x hw)

end

/-! ## One statement -/

/-- A statement that neither opens nor ends a transaction. -/
def Statement.plain : Statement → Bool
  | .begin => false
  | .commit => false
  | .rollback => false
  | .close => false
  | _ => true

/-- A successful insert: it did not wait, the schema took the row, and the row was written. -/
theorem insert_ok {α β : Type} {s s' : State} {w : Nat} {locks : List Lock} {row : Except DatabaseError α}
    {x : α → List Write} {answer : α → β} {b : β} (h : s.insert w locks row x answer = some (.ok b, s')) :
    s.waits w locks = false ∧ ∃ a, row = .ok a ∧ b = answer a ∧ s' = (x a).foldl (fun s x => s.write w x) s := by
  unfold State.insert at h
  split at h
  · cases h
  · rename_i hw
    split at h
    · cases h
    · rename_i a
      cases h
      exact ⟨by simpa using hw, a, rfl, rfl, rfl⟩

/-- A refused insert writes nothing. -/
theorem insert_error {α β : Type} {s s' : State} {w : Nat} {locks : List Lock} {row : Except DatabaseError α}
    {x : α → List Write} {answer : α → β} {e : LedgerError} (h : s.insert w locks row x answer = some (.error e, s')) :
    s' = s := by
  unfold State.insert at h
  split at h
  · cases h
  · split at h
    · cases h
      rfl
    · cases h

/-- A select leaves the database alone. -/
theorem selectBy_state {α : Type} {s s' : State} {id : UuidText} {f : Uuid → α} {r : Except LedgerError α}
    (h : selectBy s id f = some (r, s')) : s' = s := by
  unfold selectBy at h
  split at h <;> cases h <;> rfl

/-- A successful select read its argument. -/
theorem selectBy_ok {α : Type} {s s' : State} {id : UuidText} {f : Uuid → α} {a : α}
    (h : selectBy s id f = some (.ok a, s')) : ∃ u, id.value = some u ∧ a = f u := by
  unfold selectBy at h
  split at h
  · cases h
  · rename_i u hu
    cases h
    exact ⟨u, hu, rfl⟩

/-- A plain statement that is refused leaves the database alone. -/
theorem perform_error {s s' : State} {w : Nat} {sess : Session} {o : Statement} (hp : o.plain = true) {e : LedgerError}
    (h : s.perform w sess o = some (.error e, s')) : s' = s := by
  cases o with
  | begin => cases hp
  | commit => cases hp
  | rollback => cases hp
  | close => cases hp
  | insertAccount v =>
    simp only [State.perform] at h
    split at h <;> cases h
    rfl
  | insertTransaction v => exact insert_error h
  | insertEntry v => exact insert_error h
  | updateAccountBalance a n => exact insert_error h
  | upsertResponse k r t => exact insert_error h
  | selectAccount id => exact selectBy_state h
  | selectTransaction id => exact selectBy_state h
  | selectEntries id => exact selectBy_state h
  | updateTransactionStatus st id =>
    simp only [State.perform] at h
    split at h
    · cases h
      rfl
    · exact insert_error h
  | _ => cases h

/-- A statement that only reads, or writes only what is left out. -/
def Statement.reads : Statement → Bool
  | .connect => true
  | .insertAuditLog => true
  | .selectResponse _ => true
  | .selectAccount _ => true
  | .checkTransactionBalanced _ => true
  | .selectTransaction _ => true
  | .selectEntries _ => true
  | _ => false

/-- A statement that only reads leaves the database alone. -/
theorem perform_reads {s s' : State} {w : Nat} {sess : Session} {o : Statement} (hp : o.reads = true)
    {r : Except LedgerError o.Result} (h : s.perform w sess o = some (r, s')) : s' = s := by
  cases o with
  | selectAccount id => exact selectBy_state h
  | selectTransaction id => exact selectBy_state h
  | selectEntries id => exact selectBy_state h
  | _ => first | cases hp; done | (cases h; rfl)

section

variable {m : Mode} {w : Nat} {c : Call} {s : State} {sess : Session}

/-- One plain statement: an error leaves the state to the others alone, and what it does when it succeeds keeps the contract. -/
theorem wp_query {o : Statement} (hp : o.plain = true) {Q : Except LedgerError o.Result → State → Prop}
    (h : ∀ s₁, Rely m w c s s₁ → Inv m s₁ → (∀ e, Q (.error e) s₁) ∧
      ∀ r s₂, s₁.perform w sess o = some (.ok r, s₂) → Inv m s₂ ∧ Guar m w c s₁ s₂ ∧ Q (.ok r) s₂) :
    (query sess o).wp (Does m w) (contract m w c) Q s := by
  refine (Prog.wp_perform (S := signature) (sess, o) s).2 ?_
  rintro s₁ hr hi r s₂ ⟨-, fails, he⟩
  obtain ⟨herr, hok⟩ := h s₁ hr hi
  unfold exec at he
  split at he
  · have hfail : s₁.fail w o = (.error (.database .failure), s₁) := by
      cases o <;> first | rfl | cases hp
    rw [hfail] at he
    cases he
    exact ⟨hi, .refl _ _ _ _, herr _⟩
  · cases r with
    | ok a => exact hok a s₂ he
    | error e =>
      obtain rfl := perform_error hp he
      exact ⟨hi, .refl _ _ _ _, herr e⟩

/-- A statement that only reads. -/
theorem wp_read {o : Statement} (hp : o.reads = true) {Q : Except LedgerError o.Result → State → Prop}
    (h : ∀ s₁, Rely m w c s s₁ → Inv m s₁ → (∀ e, Q (.error e) s₁) ∧
      ∀ r, s₁.perform w sess o = some (.ok r, s₁) → Q (.ok r) s₁) :
    (query sess o).wp (Does m w) (contract m w c) Q s := by
  have hplain : o.plain = true := by
    cases o <;> first | rfl | cases hp
  refine wp_query hplain (fun s₁ hr hi => ⟨(h s₁ hr hi).1, fun r s₂ he => ?_⟩)
  obtain rfl := perform_reads hp he
  exact ⟨hi, .refl _ _ _ _, (h _ hr hi).2 r he⟩

/-- `BEGIN` opens an empty transaction. -/
theorem wp_begin {Q : Except LedgerError Unit → State → Prop}
    (h : ∀ s₁, Rely m w c s s₁ → Inv m s₁ → (∀ e, Q (.error e) s₁) ∧ Q (.ok ()) (s₁.discard w)) :
    (query sess .begin).wp (Does m w) (contract m w c) Q s := by
  refine (Prog.wp_perform (S := signature) (sess, .begin) s).2 ?_
  rintro s₁ hr hi r s₂ ⟨-, fails, he⟩
  obtain ⟨herr, hok⟩ := h s₁ hr hi
  unfold exec at he
  split at he
  · cases he
    exact ⟨hi, .refl _ _ _ _, herr _⟩
  · cases he
    exact ⟨hi.discard w, .discard m w c s₁, hok⟩

/-- `ROLLBACK` gives the transaction up, also when it fails. -/
theorem wp_rollback {Q : Except LedgerError Unit → State → Prop}
    (h : ∀ s₁, Rely m w c s s₁ → Inv m s₁ → ∀ r, Q r (s₁.discard w)) :
    (query sess .rollback).wp (Does m w) (contract m w c) Q s := by
  refine (Prog.wp_perform (S := signature) (sess, .rollback) s).2 ?_
  rintro s₁ hr hi r s₂ ⟨-, fails, he⟩
  have hs₂ : s₂ = s₁.discard w := by
    unfold exec at he
    split at he <;> cases he <;> rfl
  subst hs₂
  exact ⟨hi.discard w, .discard m w c s₁, h s₁ hr hi r⟩

/-- Closing a session gives up what was left open. -/
theorem wp_close {Q : Except LedgerError Unit → State → Prop}
    (h : ∀ s₁, Rely m w c s s₁ → Inv m s₁ → Q (.ok ()) (s₁.discard w)) :
    (query sess .close).wp (Does m w) (contract m w c) Q s := by
  refine (Prog.wp_perform (S := signature) (sess, .close) s).2 ?_
  rintro s₁ hr hi r s₂ ⟨-, fails, he⟩
  unfold exec at he
  split at he
  · cases he
    exact ⟨hi.discard w, .discard m w c s₁, h s₁ hr hi⟩
  · cases he
    exact ⟨hi.discard w, .discard m w c s₁, h s₁ hr hi⟩

/-- `COMMIT` makes the transaction's view the tables, or fails and gives it up. -/
theorem wp_commit {Q : Except LedgerError Unit → State → Prop}
    (h : ∀ s₁, Rely m w c s s₁ → Inv m s₁ → (m.apart = true → s₁.Apart w) → (∀ e, Q (.error e) (s₁.discard w)) ∧
      Inv m (s₁.commit w) ∧ Guar m w c s₁ (s₁.commit w) ∧ Q (.ok ()) (s₁.commit w)) :
    (query sess .commit).wp (Does m w) (contract m w c) Q s := by
  refine (Prog.wp_perform (S := signature) (sess, .commit) s).2 ?_
  intro s₁ hr hi r s₂ ⟨hapart, fails, he⟩
  obtain ⟨herr, hok⟩ := h s₁ hr hi (fun hm => hapart hm rfl)
  unfold exec at he
  split at he
  · cases he
    exact ⟨hi.discard w, .discard m w c s₁, herr _⟩
  · cases he
    exact hok

end

end Ledger

end Archisynapse
