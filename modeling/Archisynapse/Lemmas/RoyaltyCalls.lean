import Archisynapse.Lemmas.LedgerApi
import Archisynapse.Lemmas.PaymentsCalls
import Archisynapse.Royalty.Service

/-!
# What each call of the royalty service does

A call that is not made changes nothing but locks; a statement leaves the ledger alone and a request to the ledger the royalty
tables (`exec_sql`, `exec_ledger`); only a commit changes the tables (`exec_sql_tables`).
-/

namespace Archisynapse

namespace Royalty

open Payments (column positive numeric)

variable {s s' : World} {w : Nat} {ch : Choice}

/-- A call is made and answered, is not made, or is made and loses its answer. -/
theorem exec_cases {o : Action} {r : Except RoyaltyError o.Result} (h : exec w o ch s = some (r, s')) :
    s.perform w ch o = some (r, s') ∨ (r = .error o.lost ∧ s' = s.unmade w o) ∨
      (r = .error o.lost ∧ ∃ q, s.perform w ch o = some (q, s')) := by
  unfold exec at h
  split at h
  · exact Or.inl h
  · cases h
    exact Or.inr (Or.inl ⟨rfl, rfl⟩)
  · obtain ⟨⟨q, s₁⟩, hq, he⟩ := Option.map_eq_some_iff.1 h
    cases he
    exact Or.inr (Or.inr ⟨rfl, q, hq⟩)

/-- A request to the ledger: it is not made, or served, with its answer or an error in its place. -/
theorem exec_ledger {asked : String} {q : Ledger.Request} {r : Except RoyaltyError q.Result}
    (h : exec w (.ledger asked q) ch s = some (r, s')) :
    (s' = s ∧ ∃ e, r = .error e) ∨ (s'.store = s.store ∧ ∃ a, Ledger.serve ch.ledgerEnv ch.ledgerFails s.ledger q =
      some (a, s'.ledger) ∧ ∀ b, r = .ok b → a = .ok b) := by
  have hserved : ∀ {p : Except RoyaltyError q.Result}, s.perform w ch (.ledger asked q) = some (p, s') →
      ∃ a, Ledger.serve ch.ledgerEnv ch.ledgerFails s.ledger q = some (a, s'.ledger) ∧ s'.store = s.store ∧
        p = a.mapError (.ledger asked) := by
    intro p hp
    obtain ⟨⟨a, d⟩, ha, he⟩ := Option.map_eq_some_iff.1 hp
    cases he
    exact ⟨a, ha, rfl, rfl⟩
  rcases exec_cases h with h | ⟨rfl, rfl⟩ | ⟨rfl, p, h⟩
  · obtain ⟨a, ha, hstore, rfl⟩ := hserved h
    refine Or.inr ⟨hstore, a, ha, fun b hb => ?_⟩
    cases a with
    | ok b' =>
      cases hb
      rfl
    | error e => cases hb
  · exact Or.inl ⟨rfl, _, rfl⟩
  · obtain ⟨a, ha, hstore, -⟩ := hserved h
    exact Or.inr ⟨hstore, a, ha, nofun⟩

/-- A statement: it is made, and answered or not, or it is not made. -/
theorem exec_sql {o : Statement} {r : Except RoyaltyError o.Result} (h : exec w (.sql o) ch s = some (r, s')) :
    s'.ledger = s.ledger ∧
      ((∃ q, s.store.perform w ch.order o = some (q, s'.store) ∧ ∀ a, r = .ok a → q = .ok a) ∨
        ((∃ e, r = .error e) ∧ s' = s.unmade w (.sql o))) := by
  have hmade : ∀ {p : Except RoyaltyError o.Result}, s.perform w ch (.sql o) = some (p, s') →
      ∃ q, s.store.perform w ch.order o = some (q, s'.store) ∧ s'.ledger = s.ledger ∧ p = q.mapError .database := by
    intro p hp
    obtain ⟨⟨q, d⟩, hq, he⟩ := Option.map_eq_some_iff.1 hp
    cases he
    exact ⟨q, hq, rfl, rfl⟩
  rcases exec_cases h with h | ⟨rfl, rfl⟩ | ⟨rfl, p, h⟩
  · obtain ⟨q, hq, hledger, rfl⟩ := hmade h
    refine ⟨hledger, Or.inl ⟨q, hq, fun a ha => ?_⟩⟩
    cases q with
    | ok b =>
      cases ha
      rfl
    | error e => cases ha
  · refine ⟨?_, Or.inr ⟨⟨_, rfl⟩, rfl⟩⟩
    cases o <;> rfl
  · obtain ⟨q, hq, hledger, -⟩ := hmade h
    exact ⟨hledger, Or.inl ⟨q, hq, nofun⟩⟩

/-- A call that is not made leaves the tables. -/
theorem unmade_db (s : World) (w : Nat) (o : Action) : (s.unmade w o).db = s.db := by
  unfold World.unmade
  split <;> rfl

/-- Only a commit changes the tables. -/
theorem perform_tables {st st' : Store} {order : Nat} {o : Statement} {q : Except DatabaseError o.Result}
    (h : st.perform w order o = some (q, st')) :
    st'.tables = st.tables ∨ ∃ ws, o = .commit ws ∧ st.tables.writes ws = .ok st'.tables := by
  cases o with
  | lockByEvent eventId =>
    simp only [Store.perform] at h
    split at h
    · cases h
    · cases h
      exact Or.inl rfl
  | commit ws =>
    simp only [Store.perform] at h
    split at h
    · cases h
    · split at h
      · rename_i tables hws
        cases h
        exact Or.inr ⟨ws, rfl, hws⟩
      · cases h
        exact Or.inl rfl
  | _ =>
    cases h
    exact Or.inl rfl

/-- Only a commit changes the tables, and a statement leaves the ledger. -/
theorem exec_sql_tables {o : Statement} {r : Except RoyaltyError o.Result} (h : exec w (.sql o) ch s = some (r, s')) :
    s'.ledger = s.ledger ∧ (s'.db = s.db ∨ ∃ ws, o = .commit ws ∧ s.db.writes ws = .ok s'.db) := by
  obtain ⟨hledger, ⟨q, hq, -⟩ | ⟨-, rfl⟩⟩ := exec_sql h
  · exact ⟨hledger, perform_tables hq⟩
  · exact ⟨hledger, Or.inl (unmade_db s w _)⟩

/-! ## Writes -/

/-- What a stored payout has of the payout it was made for. -/
structure Paid (obligationId : Uuid) (payout : Payout) (row : PayoutRow) : Prop where
  royaltyObligationId : row.royaltyObligationId = obligationId
  ownerId : column 255 payout.ownerId = .ok row.ownerId
  amount : positive (.fin payout.amount) = .ok row.amount

theorem payoutRow_ok {d : Tables} {id royaltyObligationId : Uuid} {payout : Payout} {row : PayoutRow}
    (h : d.payoutRow id royaltyObligationId payout = .ok row) : Paid royaltyObligationId payout row := by
  obtain ⟨ownerId, howner, h₁⟩ := ok_of_except_bind h
  obtain ⟨amount, hamount, h₂⟩ := ok_of_except_bind h₁
  split at h₂
  · cases h₂
  · split at h₂
    · cases h₂
    · cases h₂
      exact ⟨rfl, howner, hamount⟩

/-- The inserts of payouts that went through. -/
theorem writes_insertPayouts {uuid : Nat → Uuid} {id : Uuid} {payouts : List Payout} {i : Nat} {d d' : Tables}
    (h : d.writes (insertPayouts uuid id i payouts) = .ok d') :
    ∃ rows, d' = { d with payouts := d.payouts ++ rows } ∧ List.Forall₂ (Paid id) payouts rows := by
  induction payouts generalizing i d with
  | nil =>
    cases h
    exact ⟨[], by simp, .nil⟩
  | cons payout payouts ih =>
    obtain ⟨d₁, h₁, hrest⟩ := ok_of_except_bind h
    obtain ⟨row, hrow, h₂⟩ := ok_of_except_bind h₁
    cases h₂
    obtain ⟨rows, rfl, hrows⟩ := ih hrest
    exact ⟨row :: rows, by simp, .cons (payoutRow_ok hrow) hrows⟩

/-- An amount of ten-thousandths is stored as it is. -/
theorem positive_ofNumeric {n m : Int} (h : positive (.ofNumeric n) = .ok m) : m = n := by
  obtain ⟨k, hk, h₁⟩ := ok_of_except_bind h
  have hkm : m = k := by
    split at h₁
    · cases h₁
    · exact (Except.ok.inj h₁).symm
  unfold numeric at hk
  split at hk
  · rename_i hnum
    cases hk
    rw [hkm]
    exact Decimal.toNumeric_ofNumeric hnum
  · cases hk
  · cases hk

/-- What a stored obligation has of its request. -/
structure Made (d : Tables) (obligationId : Uuid) (req : CreateRoyaltyObligationRequest) (state : RoyaltyStatus)
    (transactionId : Option Uuid) (row : ObligationRow) : Prop where
  id : row.id = obligationId
  fresh : ∀ o ∈ d.obligations, o.id ≠ obligationId
  organizationId : row.organizationId = req.organizationId
  eventId : column 255 req.eventId = .ok row.eventId
  idempotencyKey : column 255 req.idempotencyKey = .ok row.idempotencyKey
  unused : ∀ o ∈ d.obligations, o.idempotencyKey ≠ row.idempotencyKey
  amount : row.amount = req.amount
  splits : row.splits = req.splits
  status : row.status = state
  ledgerTransactionId : row.ledgerTransactionId = transactionId

theorem obligationRow_ok {d : Tables} {id : Uuid} {req : CreateRoyaltyObligationRequest} {status : RoyaltyStatus}
    {ledgerTransactionId : Option Uuid} {row : ObligationRow}
    (h : d.obligationRow id req status ledgerTransactionId = .ok row) : Made d id req status ledgerTransactionId row := by
  obtain ⟨eventId, hevent, h₁⟩ := ok_of_except_bind h
  obtain ⟨correlationId, -, h₂⟩ := ok_of_except_bind h₁
  obtain ⟨key, hkey, h₃⟩ := ok_of_except_bind h₂
  obtain ⟨tenantId, -, h₄⟩ := ok_of_except_bind h₃
  obtain ⟨trackId, -, h₅⟩ := ok_of_except_bind h₄
  obtain ⟨creatorId, -, h₆⟩ := ok_of_except_bind h₅
  obtain ⟨amount, hamount, h₇⟩ := ok_of_except_bind h₆
  obtain ⟨currency, -, h₈⟩ := ok_of_except_bind h₇
  obtain ⟨policy, -, h₉⟩ := ok_of_except_bind h₈
  obtain ⟨hash, -, h₁₀⟩ := ok_of_except_bind h₉
  split at h₁₀
  · cases h₁₀
  · rename_i hnone
    cases h₁₀
    rw [Bool.not_eq_true, List.any_eq_false] at hnone
    refine ⟨rfl, fun o ho he => hnone o ho ?_, rfl, hevent, hkey, fun o ho he => hnone o ho ?_, positive_ofNumeric hamount, rfl,
      rfl, rfl⟩
    · exact decide_eq_true (Or.inl he)
    · exact decide_eq_true (Or.inr he)

/-- A new obligation and its payouts. -/
theorem writes_create {uuid : Nat → Uuid} {id : Uuid} {req : CreateRoyaltyObligationRequest} {status : RoyaltyStatus}
    {t : Option Uuid} {payouts : List Payout} {i : Nat} {d d' : Tables}
    (h : d.writes (.insertObligation id req status t :: insertPayouts uuid id i payouts) = .ok d') :
    ∃ row rows, d' = { d with obligations := d.obligations ++ [row], payouts := d.payouts ++ rows } ∧
      Made d id req status t row ∧ List.Forall₂ (Paid id) payouts rows := by
  obtain ⟨d₁, h₁, hrest⟩ := ok_of_except_bind h
  obtain ⟨row, hrow, h₂⟩ := ok_of_except_bind h₁
  cases h₂
  obtain ⟨rows, rfl, hrows⟩ := writes_insertPayouts hrest
  exact ⟨row, rows, rfl, obligationRow_ok hrow, hrows⟩

end Royalty

end Archisynapse
