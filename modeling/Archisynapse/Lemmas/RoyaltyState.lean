import Archisynapse.Lemmas.RoyaltyRecords

/-!
# The state of the royalty service

What holds in every state (`Sound`): each obligation has one row, with the payouts and the reversals its status calls for, and
the ledger's books are in order. What a worker may count on while others run (`Steady`): a row it holds keeps its record, a row
only moves on from status to status, and the ledger loses nothing.
-/

namespace Archisynapse

namespace Royalty

open Payments (column)

/-! ## Statuses -/

/-- The statuses an obligation may have after a status. -/
def RoyaltyStatus.Follows (a b : RoyaltyStatus) : Prop :=
  a = b ∨ (a = .held ∧ (b = .posted ∨ b = .reversed)) ∨ (a = .posted ∧ b = .reversed)

theorem RoyaltyStatus.Follows.trans {a b c : RoyaltyStatus} (h : a.Follows b) (h' : b.Follows c) : a.Follows c := by
  rcases h with rfl | ⟨rfl, rfl | rfl⟩ | ⟨rfl, rfl⟩
  · exact h'
  · rcases h' with rfl | ⟨h', -⟩ | ⟨-, rfl⟩
    · exact Or.inr (Or.inl ⟨rfl, Or.inl rfl⟩)
    · cases h'
    · exact Or.inr (Or.inl ⟨rfl, Or.inr rfl⟩)
  · rcases h' with rfl | ⟨h', -⟩ | ⟨h', -⟩
    · exact Or.inr (Or.inl ⟨rfl, Or.inr rfl⟩)
    · cases h'
    · cases h'
  · rcases h' with rfl | ⟨h', -⟩ | ⟨h', -⟩
    · exact Or.inr (Or.inr ⟨rfl, rfl⟩)
    · cases h'
    · cases h'

theorem RoyaltyStatus.Follows.antisymm {a b : RoyaltyStatus} (h : a.Follows b) (h' : b.Follows a) : a = b := by
  rcases h with rfl | ⟨rfl, rfl | rfl⟩ | ⟨rfl, rfl⟩
  · rfl
  · rcases h' with h' | ⟨h', -⟩ | ⟨-, h'⟩ <;> cases h'
  · rcases h' with h' | ⟨h', -⟩ | ⟨h', -⟩ <;> cases h'
  · rcases h' with h' | ⟨h', -⟩ | ⟨h', -⟩ <;> cases h'

/-- A row and a later state of it: only its status and its ledger transaction change, and they change together. -/
structure Later (o o' : ObligationRow) : Prop where
  same : { o' with status := o.status, ledgerTransactionId := o.ledgerTransactionId } = o
  follows : o.status.Follows o'.status
  still : o'.status = o.status → o' = o

theorem Later.refl (o : ObligationRow) : Later o o := ⟨rfl, Or.inl rfl, fun _ => rfl⟩

theorem Later.trans {o o' o'' : ObligationRow} (h : Later o o') (h' : Later o' o'') : Later o o'' where
  same := by
    rw [← h.same, ← h'.same]
  follows := h.follows.trans h'.follows
  still := by
    intro hst
    have hback : o'.status.Follows o.status := hst ▸ h'.follows
    have ho' := h.still (hback.antisymm h.follows)
    subst ho'
    exact h'.still hst

theorem later_released {o : ObligationRow} (h : o.status = .held) (t : Uuid) : Later o (o.released t) := by
  refine ⟨rfl, Or.inr (Or.inl ⟨h, Or.inl rfl⟩), fun hst => ?_⟩
  rw [h] at hst
  cases hst

theorem later_reversed {o : ObligationRow} (h : o.status = .held ∨ o.status = .posted) : Later o o.reversed := by
  refine ⟨rfl, ?_, fun hst => ?_⟩
  · rcases h with h | h
    · exact Or.inr (Or.inl ⟨h, Or.inr rfl⟩)
    · exact Or.inr (Or.inr ⟨h, rfl⟩)
  · have hreversed : o.status = .reversed := hst.symm
    rcases h with h | h <;> rw [h] at hreversed <;> cases hreversed

/-- A record and a later state of it. -/
structure Record.Later (x x' : Record) : Prop where
  rows : ∀ o, x.rows = [o] → ∃ o', x'.rows = [o'] ∧ Royalty.Later o o'
  reversals : ∀ r ∈ x.reversals, r ∈ x'.reversals

theorem Record.Later.refl (x : Record) : x.Later x := ⟨fun o ho => ⟨o, ho, .refl o⟩, fun _ h => h⟩

theorem Record.Later.trans {x x' x'' : Record} (h : x.Later x') (h' : x'.Later x'') : x.Later x'' where
  rows o ho := by
    obtain ⟨o', ho', hl⟩ := h.rows o ho
    obtain ⟨o'', ho'', hl'⟩ := h'.rows o' ho'
    exact ⟨o'', ho'', hl.trans hl'⟩
  reversals r hr := h'.reversals r (h.reversals r hr)

/-! ## Records in order -/

/-- The payouts and the ledger transaction that an obligation's status calls for. -/
def PaysOut (o : ObligationRow) (payouts : List PayoutRow) : Prop :=
  match o.status with
  | .posted => ∃ shares, computeRoyalty (o.amount / 10000) o.splits = .ok shares ∧ List.Forall₂ (Paid o.id) shares payouts
  | .held => payouts = []
  | .blocked => payouts = [] ∧ o.ledgerTransactionId = none
  | .pending => False
  | .reversed => True

/-- The reversals that an obligation's status calls for: one, posted in the ledger for the obligation's transaction. -/
def Undone (posts : List Ledger.Post) (o : ObligationRow) (reversals : List ReversalRow) : Prop :=
  if o.status = .reversed then
    ∃ r t, reversals = [r] ∧ o.ledgerTransactionId = some t ∧
      ∃ p ∈ posts, p.id = r.reversalLedgerTransactionId ∧ p.reverses = some t
  else reversals = []

/-- A record in order: an obligation has one row, and what belongs to it is what its status calls for. -/
def Filed (posts : List Ledger.Post) (x : Record) : Prop :=
  (x.rows = [] ∧ x.payouts = [] ∧ x.reversals = []) ∨ ∃ o, x.rows = [o] ∧ PaysOut o x.payouts ∧ Undone posts o x.reversals

theorem Undone.mono {posts posts' : List Ledger.Post} (h : ∀ p ∈ posts, p ∈ posts') {o : ObligationRow}
    {reversals : List ReversalRow} (hu : Undone posts o reversals) : Undone posts' o reversals := by
  unfold Undone at hu ⊢
  split
  · rename_i hst
    rw [if_pos hst] at hu
    obtain ⟨r, t, h₁, h₂, p, hp, h₃⟩ := hu
    exact ⟨r, t, h₁, h₂, p, h p hp, h₃⟩
  · rename_i hst
    rw [if_neg hst] at hu
    exact hu

theorem Filed.mono {posts posts' : List Ledger.Post} (h : ∀ p ∈ posts, p ∈ posts') {x : Record} (hf : Filed posts x) :
    Filed posts' x := by
  rcases hf with hf | ⟨o, h₁, h₂, h₃⟩
  · exact Or.inl hf
  · exact Or.inr ⟨o, h₁, h₂, h₃.mono h⟩

/-- What holds in every state. -/
structure Sound (s : World) : Prop where
  filed : ∀ id, Filed s.ledger.posts (s.db.record id)
  locks : ∀ l ∈ s.store.locks, (s.db.record l.2).rows ≠ []
  keys : (s.db.reversals.map (·.reversalIdempotencyKey)).Nodup
  books : Ledger.Books s.ledger
  balances : Ledger.Balances s.ledger

theorem sound_empty : Sound .empty where
  filed id := Or.inl ⟨rfl, rfl, rfl⟩
  locks l hl := by cases hl
  keys := List.nodup_nil
  books := Ledger.books_empty
  balances a ha := by cases ha

/-- The record of a stored obligation. -/
theorem Sound.row {s : World} (hs : Sound s) {o : ObligationRow} (ho : o ∈ s.db.obligations) :
    (s.db.record o.id).rows = [o] ∧ PaysOut o (s.db.record o.id).payouts ∧
      Undone s.ledger.posts o (s.db.record o.id).reversals := by
  have hmem : o ∈ (s.db.record o.id).rows := mem_record_rows.2 ⟨ho, rfl⟩
  rcases hs.filed o.id with ⟨hrows, -⟩ | ⟨o', hrows, hpays, hundone⟩
  · rw [hrows] at hmem
    cases hmem
  · rw [hrows] at hmem
    obtain rfl := List.mem_singleton.1 hmem
    exact ⟨hrows, hpays, hundone⟩

/-- An obligation that can be reversed. -/
theorem PaysOut.reversible {o : ObligationRow} {payouts : List PayoutRow} {t : Uuid} (h : PaysOut o payouts)
    (hst : o.status ≠ .reversed) (ht : o.ledgerTransactionId = some t) : o.status = .held ∨ o.status = .posted := by
  unfold PaysOut at h
  cases hs : o.status with
  | held => exact Or.inl rfl
  | posted => exact Or.inr rfl
  | reversed => exact absurd hs hst
  | pending =>
    rw [hs] at h
    exact h.elim
  | blocked =>
    rw [hs] at h
    rw [h.2] at ht
    cases ht

/-! ## What a worker counts on -/

/-- What a worker counts on while others run. -/
structure Steady (w : Nat) (s s' : World) : Prop where
  locks : ∀ id, (w, id) ∈ s.store.locks → (w, id) ∈ s'.store.locks ∧ s'.db.record id = s.db.record id
  later : ∀ id, (s.db.record id).Later (s'.db.record id)
  ledger : Ledger.Extends s.ledger s'.ledger

theorem Steady.refl (w : Nat) (s : World) : Steady w s s := ⟨fun _ h => ⟨h, rfl⟩, fun _ => .refl _, .refl _⟩

theorem Steady.trans {w : Nat} {s s' s'' : World} (h : Steady w s s') (h' : Steady w s' s'') : Steady w s s'' where
  locks id hid := by
    obtain ⟨h₁, h₂⟩ := h.locks id hid
    obtain ⟨h₃, h₄⟩ := h'.locks id h₁
    exact ⟨h₃, h₄.trans h₂⟩
  later id := (h.later id).trans (h'.later id)
  ledger := h.ledger.trans h'.ledger

/-! ## Calls that write nothing -/

variable {s s' : World} {w : Nat} {ch : Choice}

theorem mem_unlock {st : Store} {w w' : Nat} {id : Uuid} (hne : w' ≠ w) (h : (w', id) ∈ st.locks) :
    (w', id) ∈ (st.unlock w).locks := by
  simp [Store.unlock, h, hne]

theorem of_mem_unlock {st : Store} {w : Nat} {l : Nat × Uuid} (h : l ∈ (st.unlock w).locks) : l ∈ st.locks :=
  (List.mem_filter.1 h).1

/-- A crash, or a call that is not made, keeps everything but the worker's own locks. -/
theorem Sound.unlock (hs : Sound s) (w : Nat) :
    Sound { s with store := s.store.unlock w } ∧ ∀ w', w' ≠ w → Steady w' s { s with store := s.store.unlock w } := by
  refine ⟨⟨hs.filed, fun l hl => hs.locks l (of_mem_unlock hl), hs.keys, hs.books, hs.balances⟩, fun w' hne => ?_⟩
  exact ⟨fun id hid => ⟨mem_unlock hne hid, rfl⟩, fun _ => .refl _, .refl _⟩

/-- A request to the ledger keeps the tables and the locks. -/
theorem Sound.ledger {asked : String} {q : Ledger.Request} {r : Except RoyaltyError q.Result} (hs : Sound s)
    (h : exec w (.ledger asked q) ch s = some (r, s')) : Sound s' ∧ ∀ w', Steady w' s s' := by
  rcases exec_ledger h with ⟨rfl, -⟩ | ⟨hstore, a, hserve, -⟩
  · exact ⟨hs, fun w' => .refl w' _⟩
  · have hext := Ledger.serve_extends hs.books hs.balances hserve
    obtain ⟨hbooks, hbalances⟩ := Ledger.serve_books hs.books hs.balances hserve
    have hdb : s'.db = s.db := congrArg Store.tables hstore
    refine ⟨⟨fun id => ?_, ?_, ?_, hbooks, hbalances⟩, fun w' => ⟨fun id hid => ?_, fun id => ?_, hext⟩⟩
    · rw [hdb]
      exact (hs.filed id).mono hext.posts
    · rw [hstore, hdb]
      exact hs.locks
    · rw [hdb]
      exact hs.keys
    · rw [hstore, hdb]
      exact ⟨hid, rfl⟩
    · rw [hdb]
      exact .refl _

/-- The rows of an event that a worker locks. -/
theorem perform_lockByEvent {st st' : Store} {order : Nat} {eventId : String} {q : Except DatabaseError (Option ObligationRow)}
    (h : st.perform w order (.lockByEvent eventId) = some (q, st')) :
    q = .ok (firstOf order (st.tables.ofEvent eventId)) ∧ st' = st.lock w (st.tables.ofEvent eventId) := by
  simp only [Store.perform] at h
  split at h
  · cases h
  · cases h
    exact ⟨rfl, rfl⟩

/-- The statements that write nothing. -/
def Statement.Reads : Statement → Prop
  | .commit ws => ws = []
  | _ => True

/-- Locks of rows that are there. -/
theorem Sound.lock (hs : Sound s) (w : Nat) (eventId : String) :
    Sound { s with store := s.store.lock w (s.db.ofEvent eventId) } ∧
      ∀ w', Steady w' s { s with store := s.store.lock w (s.db.ofEvent eventId) } := by
  refine ⟨⟨hs.filed, fun l hl => ?_, hs.keys, hs.books, hs.balances⟩, fun w' => ⟨fun id hid => ?_, fun _ => .refl _, .refl _⟩⟩
  · simp only [Store.lock, List.mem_append, List.mem_map] at hl
    rcases hl with hl | ⟨o, ho, rfl⟩
    · exact hs.locks l hl
    · have ho' : o ∈ s.db.obligations := (List.mem_filter.1 ho).1
      exact List.ne_nil_of_mem (mem_record_rows.2 ⟨ho', rfl⟩)
  · exact ⟨List.mem_append_left _ hid, rfl⟩

/-- A statement that writes nothing keeps everything but the worker's own locks. -/
theorem Sound.reads {o : Statement} {r : Except RoyaltyError o.Result} (hs : Sound s) (ho : o.Reads)
    (h : exec w (.sql o) ch s = some (r, s')) : Sound s' ∧ ∀ w', w' ≠ w → Steady w' s s' := by
  obtain ⟨hledger, ⟨q, hq, -⟩ | ⟨-, rfl⟩⟩ := exec_sql h
  · obtain ⟨st, l⟩ := s'
    obtain rfl : l = s.ledger := hledger
    cases o with
    | lockByEvent eventId =>
      obtain ⟨-, rfl⟩ := perform_lockByEvent hq
      exact ⟨(hs.lock w eventId).1, fun w' _ => (hs.lock w eventId).2 w'⟩
    | commit ws =>
      cases ho
      simp only [Store.perform, List.filterMap_nil, List.any_nil, Bool.false_eq_true, if_false, Tables.writes] at hq
      cases hq
      exact hs.unlock w
    | rollback =>
      cases hq
      exact hs.unlock w
    | _ =>
      cases hq
      exact ⟨hs, fun w' _ => .refl w' s⟩
  · cases o with
    | rollback => exact hs.unlock w
    | _ => exact ⟨hs, fun w' _ => .refl w' s⟩

/-! ## Commits -/

/-- A commit: it waits for no other worker, and writes everything or nothing. -/
theorem perform_commit {st st' : Store} {order : Nat} {ws : List Write} {q : Except DatabaseError Unit}
    (h : st.perform w order (.commit ws) = some (q, st')) :
    (∀ id ∈ ws.filterMap Write.updates, ∀ w', w' ≠ w → (w', id) ∉ st.locks) ∧
      ((∃ tables, st.tables.writes ws = .ok tables ∧ st' = { st with tables }.unlock w) ∨ ((∃ e, q = .error e) ∧ st' = st)) := by
  simp only [Store.perform] at h
  split at h
  · cases h
  · rename_i hheld
    rw [Bool.not_eq_true, List.any_eq_false] at hheld
    refine ⟨fun id hid w' hne hmem => hheld id hid ?_, ?_⟩
    · exact List.any_eq_true.2 ⟨(w', id), hmem, by simp [hne]⟩
    · split at h
      · rename_i tables hws
        cases h
        exact Or.inl ⟨tables, hws, rfl⟩
      · cases h
        exact Or.inr ⟨⟨_, rfl⟩, rfl⟩

/-- A commit as a call: everything is written, or nothing and it failed. -/
theorem exec_commit {ws : List Write} {r : Except RoyaltyError Unit} (h : exec w (.sql (.commit ws)) ch s = some (r, s')) :
    (∃ tables, s.db.writes ws = .ok tables ∧ s' = { s with store := { s.store with tables }.unlock w } ∧
      (∀ id ∈ ws.filterMap Write.updates, ∀ w', w' ≠ w → (w', id) ∉ s.store.locks)) ∨ ((∃ e, r = .error e) ∧ s' = s) := by
  obtain ⟨hledger, ⟨q, hq, hr⟩ | ⟨⟨e, rfl⟩, rfl⟩⟩ := exec_sql h
  · have hs' : s' = { s with store := s'.store } := by
      rw [← hledger]
    obtain ⟨hfree, ⟨tables, hws, hst⟩ | ⟨⟨e, rfl⟩, hst⟩⟩ := perform_commit hq
    · rw [hst] at hs'
      exact Or.inl ⟨tables, hws, hs', hfree⟩
    · rw [hst] at hs'
      refine Or.inr ⟨?_, hs'⟩
      cases r with
      | ok a => cases hr a rfl
      | error e' => exact ⟨e', rfl⟩
  · exact Or.inr ⟨⟨e, rfl⟩, rfl⟩

/-- A commit that changes one record, which no other worker holds. -/
theorem Sound.commit (hs : Sound s) {d : Tables} {id : Uuid} {x : Record}
    (hrecord : ∀ id', d.record id' = if id' = id then x else s.db.record id') (hlater : (s.db.record id).Later x)
    (hfiled : Filed s.ledger.posts x) (hrows : x.rows ≠ []) (hkeys : (d.reversals.map (·.reversalIdempotencyKey)).Nodup)
    (hfree : ∀ w', w' ≠ w → (w', id) ∉ s.store.locks) :
    Sound { s with store := { s.store with tables := d }.unlock w } ∧
      ∀ w', w' ≠ w → Steady w' s { s with store := { s.store with tables := d }.unlock w } := by
  have hother : ∀ {id'}, id' ≠ id → d.record id' = s.db.record id' := by
    intro id' hne
    rw [hrecord, if_neg hne]
  have hself : d.record id = x := by
    rw [hrecord, if_pos rfl]
  refine ⟨⟨fun id' => ?_, fun l hl => ?_, hkeys, hs.books, hs.balances⟩, fun w' hne => ⟨fun id' hid' => ?_, fun id' => ?_, .refl _⟩⟩
  · change Filed s.ledger.posts (d.record id')
    by_cases hid : id' = id
    · rw [hid, hself]
      exact hfiled
    · rw [hother hid]
      exact hs.filed id'
  · change (d.record l.2).rows ≠ []
    by_cases hid : l.2 = id
    · rw [hid, hself]
      exact hrows
    · rw [hother hid]
      exact hs.locks l (of_mem_unlock hl)
  · have hid : id' ≠ id := by
      rintro rfl
      exact hfree w' hne hid'
    exact ⟨mem_unlock hne hid', hother hid⟩
  · change (s.db.record id').Later (d.record id')
    by_cases hid : id' = id
    · rw [hid, hself]
      exact hlater
    · rw [hother hid]
      exact .refl _

end Royalty

end Archisynapse
