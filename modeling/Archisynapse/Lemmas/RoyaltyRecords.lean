import Archisynapse.Lemmas.RoyaltyCalls

/-!
# Obligations and what belongs to them

An obligation's record is its row with its payouts and its reversals (`Tables.record`). A transaction of the service changes one
record and leaves the others (`Commits.others`), and a record is in order (`Filed`) when the payouts and the reversals are those
its status calls for.
-/

namespace Archisynapse

namespace Royalty

open Payments (column positive)

/-! ## Records -/

/-- The row of an obligation, its payouts and its reversals. -/
structure Record where
  rows : List ObligationRow
  payouts : List PayoutRow
  reversals : List ReversalRow

/-- The record of an obligation. -/
def Tables.record (d : Tables) (id : Uuid) : Record where
  rows := d.obligations.filter (fun o => decide (o.id = id))
  payouts := d.payoutsOf id
  reversals := d.reversals.filter (fun r => decide (r.reversedObligationId = id))

theorem mem_record_rows {d : Tables} {id : Uuid} {o : ObligationRow} : o ∈ (d.record id).rows ↔ o ∈ d.obligations ∧ o.id = id := by
  simp [Tables.record]

/-- The row of an obligation after a status is set. -/
theorem filter_updateKey_self {u : ObligationRow → ObligationRow} (hu : ∀ o, (u o).id = o.id) (id : Uuid) (l : List ObligationRow) :
    (updateKey (·.id) id u l).filter (fun o => decide (o.id = id)) = (l.filter (fun o => decide (o.id = id))).map u := by
  induction l with
  | nil => rfl
  | cons o l ih =>
    unfold updateKey at ih ⊢
    rw [List.map_cons]
    by_cases ho : o.id = id
    · rw [if_pos ho, List.filter_cons_of_pos (by simp [hu, ho]), List.filter_cons_of_pos (by simp [ho]), List.map_cons, ih]
    · rw [if_neg ho, List.filter_cons_of_neg (by simp [ho]), List.filter_cons_of_neg (by simp [ho]), ih]

/-- The rows of another obligation after a status is set. -/
theorem filter_updateKey_other {u : ObligationRow → ObligationRow} (hu : ∀ o, (u o).id = o.id) {id id' : Uuid} (hne : id' ≠ id)
    (l : List ObligationRow) :
    (updateKey (·.id) id u l).filter (fun o => decide (o.id = id')) = l.filter (fun o => decide (o.id = id')) := by
  induction l with
  | nil => rfl
  | cons o l ih =>
    unfold updateKey at ih ⊢
    rw [List.map_cons]
    by_cases ho : o.id = id
    · have hne' : o.id ≠ id' := fun h => hne (h.symm.trans ho)
      rw [if_pos ho, List.filter_cons_of_neg (by simp [hu, hne']), List.filter_cons_of_neg (by simp [hne']), ih]
    · rw [if_neg ho, List.filter_cons, List.filter_cons, ih]

/-- Payouts that were added, by their obligation. -/
theorem filter_paid_self {id : Uuid} {payouts : List Payout} {rows : List PayoutRow} (h : List.Forall₂ (Paid id) payouts rows) :
    rows.filter (fun p => decide (p.royaltyObligationId = id)) = rows := by
  induction h with
  | nil => rfl
  | cons hpaid _ ih => rw [List.filter_cons_of_pos (by simp [hpaid.royaltyObligationId]), ih]

theorem filter_paid_other {id id' : Uuid} (hne : id' ≠ id) {payouts : List Payout} {rows : List PayoutRow}
    (h : List.Forall₂ (Paid id) payouts rows) : rows.filter (fun p => decide (p.royaltyObligationId = id')) = [] := by
  induction h with
  | nil => rfl
  | cons hpaid _ ih =>
    have hne' := hpaid.royaltyObligationId ▸ hne.symm
    rw [List.filter_cons_of_neg (by simp [hne']), ih]

/-! ## Transactions -/

/-- The row after a release. -/
def ObligationRow.released (t : Uuid) (o : ObligationRow) : ObligationRow :=
  { o with status := .posted, ledgerTransactionId := some t }

/-- The row after a reversal. -/
def ObligationRow.reversed (o : ObligationRow) : ObligationRow := { o with status := .reversed }

/-- What the transactions of the service write. -/
inductive Commits : List Write → Prop where
  | nothing : Commits []
  | create (uuid : Nat → Uuid) (id : Uuid) (req : CreateRoyaltyObligationRequest) (status : RoyaltyStatus) (t : Option Uuid)
      (payouts : List Payout) : Commits (.insertObligation id req status t :: insertPayouts uuid id 1 payouts)
  | release (uuid : Nat → Uuid) (id t : Uuid) (payouts : List Payout) :
      Commits (.post id t :: insertPayouts uuid id 0 payouts)
  | reverse (id reversalId : Uuid) (eventId key : String) (t : Uuid) :
      Commits [.reverse id, .insertReversal reversalId id eventId key t]

/-- A release. -/
theorem writes_release {uuid : Nat → Uuid} {id t : Uuid} {payouts : List Payout} {i : Nat} {d d' : Tables}
    (h : d.writes (.post id t :: insertPayouts uuid id i payouts) = .ok d') :
    ∃ rows, d' = { d with obligations := updateKey (·.id) id (ObligationRow.released t) d.obligations, payouts := d.payouts ++ rows } ∧
      List.Forall₂ (Paid id) payouts rows := by
  obtain ⟨d₁, h₁, hrest⟩ := ok_of_except_bind h
  cases h₁
  obtain ⟨rows, rfl, hrows⟩ := writes_insertPayouts hrest
  exact ⟨rows, rfl, hrows⟩

/-- What a stored reversal has of what it was made for. -/
structure Reverses (d : Tables) (obligationId : Uuid) (eventId key : String) (t : Uuid) (row : ReversalRow) : Prop where
  reversedObligationId : row.reversedObligationId = obligationId
  reversalEventId : column 255 eventId = .ok row.reversalEventId
  reversalIdempotencyKey : column 255 key = .ok row.reversalIdempotencyKey
  unused : ∀ r ∈ d.reversals, r.reversalIdempotencyKey ≠ row.reversalIdempotencyKey
  reversalLedgerTransactionId : row.reversalLedgerTransactionId = t
  obligation : ∃ o ∈ d.obligations, o.id = obligationId

theorem reversalRow_ok {d : Tables} {id obligationId : Uuid} {eventId key : String} {t : Uuid} {row : ReversalRow}
    (h : d.reversalRow id obligationId eventId key t = .ok row) : Reverses d obligationId eventId key t row := by
  obtain ⟨eventId', hevent, h₁⟩ := ok_of_except_bind h
  obtain ⟨key', hkey, h₂⟩ := ok_of_except_bind h₁
  split at h₂
  · cases h₂
  · rename_i hnone
    split at h₂
    · cases h₂
    · rename_i hsome
      cases h₂
      rw [Bool.not_eq_true, List.any_eq_false] at hnone
      refine ⟨rfl, hevent, hkey, fun r hr he => hnone r hr (decide_eq_true (Or.inr he)), rfl, ?_⟩
      simpa using hsome

/-- A reversal. -/
theorem writes_reverse {id reversalId : Uuid} {eventId key : String} {t : Uuid} {d d' : Tables}
    (h : d.writes [.reverse id, .insertReversal reversalId id eventId key t] = .ok d') :
    ∃ row, d' = { d with obligations := updateKey (·.id) id ObligationRow.reversed d.obligations, reversals := d.reversals ++ [row] } ∧
      Reverses { d with obligations := updateKey (·.id) id ObligationRow.reversed d.obligations } id eventId key t row := by
  obtain ⟨d₁, h₁, h₂⟩ := ok_of_except_bind h
  cases h₁
  obtain ⟨d₂, h₃, h₄⟩ := ok_of_except_bind h₂
  obtain ⟨row, hrow, h₅⟩ := ok_of_except_bind h₃
  cases h₅
  cases h₄
  exact ⟨row, rfl, reversalRow_ok hrow⟩

/-- The records after an obligation was made. -/
theorem record_create {d : Tables} {id : Uuid} {req : CreateRoyaltyObligationRequest} {status : RoyaltyStatus} {t : Option Uuid}
    {row : ObligationRow} {payouts : List Payout} {rows : List PayoutRow} (hmade : Made d id req status t row)
    (hpaid : List.Forall₂ (Paid id) payouts rows) (id' : Uuid) :
    ({ d with obligations := d.obligations ++ [row], payouts := d.payouts ++ rows } : Tables).record id' =
      if id' = id then ⟨[row], (d.record id).payouts ++ rows, (d.record id).reversals⟩ else d.record id' := by
  by_cases hid : id' = id
  · subst hid
    have hnone : d.obligations.filter (fun o => decide (o.id = id')) = [] := by
      rw [List.filter_eq_nil_iff]
      exact fun o ho => by simpa using hmade.fresh o ho
    rw [if_pos rfl]
    simp [Tables.record, Tables.payoutsOf, List.filter_append, hnone, hmade.id, filter_paid_self hpaid]
  · have hne : row.id ≠ id' := by
      rw [hmade.id]
      exact Ne.symm hid
    rw [if_neg hid]
    simp [Tables.record, Tables.payoutsOf, List.filter_append, hne, filter_paid_other hid hpaid]

/-- The records after a release. -/
theorem record_release {d : Tables} {id t : Uuid} {payouts : List Payout} {rows : List PayoutRow}
    (hpaid : List.Forall₂ (Paid id) payouts rows) (id' : Uuid) :
    ({ d with obligations := updateKey (·.id) id (ObligationRow.released t) d.obligations, payouts := d.payouts ++ rows } :
      Tables).record id' = if id' = id then
        ⟨(d.record id).rows.map (ObligationRow.released t), (d.record id).payouts ++ rows, (d.record id).reversals⟩
      else d.record id' := by
  by_cases hid : id' = id
  · subst hid
    have hrows := filter_updateKey_self (u := ObligationRow.released t) (fun _ => rfl) id' d.obligations
    rw [if_pos rfl]
    simp [Tables.record, Tables.payoutsOf, List.filter_append, hrows, filter_paid_self hpaid]
  · have hrows := filter_updateKey_other (u := ObligationRow.released t) (fun _ => rfl) hid d.obligations
    rw [if_neg hid]
    simp [Tables.record, Tables.payoutsOf, List.filter_append, hrows, filter_paid_other hid hpaid]

/-- The records after a reversal. -/
theorem record_reverse {d d₁ : Tables} {id : Uuid} {eventId key : String} {t : Uuid} {row : ReversalRow}
    (hrow : Reverses d₁ id eventId key t row) (id' : Uuid) :
    ({ d with obligations := updateKey (·.id) id ObligationRow.reversed d.obligations, reversals := d.reversals ++ [row] } :
      Tables).record id' = if id' = id then
        ⟨(d.record id).rows.map ObligationRow.reversed, (d.record id).payouts, (d.record id).reversals ++ [row]⟩
      else d.record id' := by
  by_cases hid : id' = id
  · subst hid
    have hrows := filter_updateKey_self (u := ObligationRow.reversed) (fun _ => rfl) id' d.obligations
    rw [if_pos rfl]
    simp [Tables.record, Tables.payoutsOf, List.filter_append, hrows, hrow.reversedObligationId]
  · have hrows := filter_updateKey_other (u := ObligationRow.reversed) (fun _ => rfl) hid d.obligations
    rw [if_neg hid]
    have hne : row.reversedObligationId ≠ id' := by
      rw [hrow.reversedObligationId]
      exact Ne.symm hid
    simp [Tables.record, Tables.payoutsOf, List.filter_append, hrows, hne]

end Royalty

end Archisynapse
