import Archisynapse.Base.Twins
import Archisynapse.Lemmas.RoyaltyRecords

/-!
# The rows of one organization among those of others

A database in which the rows of an organization stand among those of others (`Among`). The operations look rows up by event id,
by idempotency key and by row id, and never by organization. While no row of the others has an event, a key or an id that an
organization's requests name (`Call.Spares`), every statement answers as in the database of the organization's rows alone
(`Among.perform`), and leaves the others' rows as they were.
-/

namespace Archisynapse

namespace Royalty

open Payments (column)

/-! ## Rows of an organization -/

/-- The obligations that pass a test, with their payouts and their reversals. -/
def Tables.part (d : Tables) (mine : ObligationRow → Bool) : Tables :=
  let own := d.obligations.filter mine
  { obligations := own
    payouts := d.payouts.filter (fun p => own.any (fun o => decide (o.id = p.royaltyObligationId)))
    reversals := d.reversals.filter (fun r => own.any (fun o => decide (o.id = r.reversedObligationId))) }

/-- The rows of an organization. -/
def Tables.ofOrg (d : Tables) (organizationId : String) : Tables := d.part (fun o => decide (o.organizationId = organizationId))

/-- The rows of the others. -/
def Tables.ofOthers (d : Tables) (organizationId : String) : Tables :=
  d.part (fun o => !decide (o.organizationId = organizationId))

/-- The constraints of the tables: the primary key of the obligations, and the references to them. -/
structure Tables.Constrained (d : Tables) : Prop where
  ids : (d.obligations.map (·.id)).Nodup
  payouts : ∀ p ∈ d.payouts, ∃ o ∈ d.obligations, o.id = p.royaltyObligationId
  reversals : ∀ r ∈ d.reversals, ∃ o ∈ d.obligations, o.id = r.reversedObligationId

/-- The rows `a` of an organization stand among the rows `others`. -/
structure Among (organizationId : String) (others d a : Tables) : Prop where
  own : d.ofOrg organizationId = a
  rest : d.ofOthers organizationId = others
  constrained : d.Constrained

section

variable {organizationId : String} {others d a d' a' : Tables}

/-- A row is one of the organization's or one of the others'. -/
theorem Among.mem (h : Among organizationId others d a) (o : ObligationRow) :
    (o ∈ a.obligations ↔ o ∈ d.obligations ∧ o.organizationId = organizationId) ∧
      (o ∈ d.obligations → o ∈ a.obligations ∨ o ∈ others.obligations) := by
  obtain ⟨rfl, rfl, -⟩ := h
  refine ⟨List.mem_filter.trans (and_congr_right (fun _ => decide_eq_true_iff)), fun ho => ?_⟩
  by_cases horg : o.organizationId = organizationId
  · exact Or.inl (List.mem_filter.2 ⟨ho, decide_eq_true horg⟩)
  · exact Or.inr (List.mem_filter.2 ⟨ho, by simp [horg]⟩)

/-- The organization's rows have ids of their own. -/
theorem Among.ids (h : Among organizationId others d a) {o : ObligationRow} (ho : o ∈ a.obligations) :
    ∀ x ∈ others.obligations, x.id ≠ o.id := by
  obtain ⟨hmem, horg⟩ := ((h.mem o).1).1 ho
  obtain ⟨-, rfl, hd⟩ := h
  intro x hx hid
  obtain ⟨hx, hother⟩ := List.mem_filter.1 hx
  rw [List.inj_on_of_nodup_map hd.ids hx hmem hid] at hother
  simp [horg] at hother

/-- A search that finds none of the others' rows. -/
theorem find?_mine {α : Type} {l : List α} (mine : α → Bool) {test : α → Bool} (h : ∀ x ∈ l, mine x = false → test x = false) :
    l.find? test = (l.filter mine).find? test := by
  induction l with
  | nil => rfl
  | cons x l ih =>
    have hrest := ih (fun y hy => h y (List.mem_cons_of_mem x hy))
    cases hmine : mine x with
    | true => rw [List.filter_cons_of_pos hmine, List.find?_cons, List.find?_cons, hrest]
    | false =>
      rw [List.filter_cons_of_neg (by simp [hmine]), List.find?_cons_of_neg (by simp [h x List.mem_cons_self hmine]), hrest]

/-- A test that none of the others' rows passes. -/
theorem any_mine {α : Type} {l : List α} (mine : α → Bool) {test : α → Bool} (h : ∀ x ∈ l, mine x = false → test x = false) :
    l.any test = (l.filter mine).any test := by
  rw [Bool.eq_iff_iff, List.any_eq_true, List.any_eq_true]
  constructor
  · rintro ⟨x, hx, htest⟩
    refine ⟨x, List.mem_filter.2 ⟨hx, ?_⟩, htest⟩
    by_contra hmine
    rw [h x hx (by simpa using hmine)] at htest
    cases htest
  · rintro ⟨x, hx, htest⟩
    exact ⟨x, (List.mem_filter.1 hx).1, htest⟩

/-- The rows that pass a test that none of the others' rows passes. -/
theorem filter_mine {α : Type} {l : List α} (mine : α → Bool) {test : α → Bool} (h : ∀ x ∈ l, mine x = false → test x = false) :
    l.filter test = (l.filter mine).filter test := by
  rw [List.filter_filter]
  refine List.filter_congr (fun x hx => ?_)
  cases hmine : mine x with
  | true => simp
  | false => simp [h x hx hmine]

/-- An update of rows that keeps what a filter reads. -/
theorem filter_updateKey {α κ : Type} [DecidableEq κ] {mine : α → Bool} {key : α → κ} {k : κ} {u : α → α}
    (h : ∀ x, mine (u x) = mine x) (l : List α) : (updateKey key k u l).filter mine = updateKey key k u (l.filter mine) := by
  unfold updateKey
  rw [List.filter_map]
  congr 1
  refine List.filter_congr (fun x _ => ?_)
  by_cases hx : key x = k
  · simp [hx, h]
  · simp [hx]

/-- The others' obligations are those of other organizations. -/
theorem Among.others_spare (h : Among organizationId others d a) {test : ObligationRow → Bool}
    (hspare : ∀ o ∈ others.obligations, test o = false) :
    ∀ o ∈ d.obligations, decide (o.organizationId = organizationId) = false → test o = false := by
  intro o ho horg
  refine hspare o ?_
  rw [← h.rest]
  exact List.mem_filter.2 ⟨ho, by simpa using horg⟩

/-- A payout is of one of the organization's obligations or one of the others'. -/
theorem Among.payout (h : Among organizationId others d a) {p : PayoutRow} (hp : p ∈ d.payouts) :
    (p ∈ a.payouts ∧ ∃ o ∈ a.obligations, o.id = p.royaltyObligationId) ∨
      (p ∈ others.payouts ∧ ∃ o ∈ others.obligations, o.id = p.royaltyObligationId) := by
  obtain ⟨o, ho, hid⟩ := h.constrained.payouts p hp
  rcases (h.mem o).2 ho with hown | hother
  · refine Or.inl ⟨?_, o, hown, hid⟩
    rw [← h.own] at hown ⊢
    exact List.mem_filter.2 ⟨hp, List.any_eq_true.2 ⟨o, hown, decide_eq_true hid⟩⟩
  · refine Or.inr ⟨?_, o, hother, hid⟩
    rw [← h.rest] at hother ⊢
    exact List.mem_filter.2 ⟨hp, List.any_eq_true.2 ⟨o, hother, decide_eq_true hid⟩⟩

/-- A reversal is of one of the organization's obligations or one of the others'. -/
theorem Among.reversal (h : Among organizationId others d a) {r : ReversalRow} (hr : r ∈ d.reversals) :
    (r ∈ a.reversals ∧ ∃ o ∈ a.obligations, o.id = r.reversedObligationId) ∨
      (r ∈ others.reversals ∧ ∃ o ∈ others.obligations, o.id = r.reversedObligationId) := by
  obtain ⟨o, ho, hid⟩ := h.constrained.reversals r hr
  rcases (h.mem o).2 ho with hown | hother
  · refine Or.inl ⟨?_, o, hown, hid⟩
    rw [← h.own] at hown ⊢
    exact List.mem_filter.2 ⟨hr, List.any_eq_true.2 ⟨o, hown, decide_eq_true hid⟩⟩
  · refine Or.inr ⟨?_, o, hother, hid⟩
    rw [← h.rest] at hother ⊢
    exact List.mem_filter.2 ⟨hr, List.any_eq_true.2 ⟨o, hother, decide_eq_true hid⟩⟩

/-! ## Lookups -/

/-- A search for an obligation that none of the others is. -/
theorem Among.find (h : Among organizationId others d a) {test : ObligationRow → Bool}
    (hspare : ∀ o ∈ others.obligations, test o = false) : d.obligations.find? test = a.obligations.find? test := by
  rw [find?_mine _ (h.others_spare hspare), ← h.own]
  rfl

theorem Among.any (h : Among organizationId others d a) {test : ObligationRow → Bool}
    (hspare : ∀ o ∈ others.obligations, test o = false) : d.obligations.any test = a.obligations.any test := by
  rw [any_mine _ (h.others_spare hspare), ← h.own]
  rfl

/-- The obligations of an event that none of the others has. -/
theorem Among.ofEvent (h : Among organizationId others d a) {eventId : String} (hspare : ∀ o ∈ others.obligations, o.eventId ≠ eventId) :
    d.ofEvent eventId = a.ofEvent eventId := by
  unfold Tables.ofEvent
  rw [filter_mine _ (h.others_spare (fun o ho => decide_eq_false (hspare o ho))), ← h.own]
  rfl

/-- The payouts of an obligation that is none of the others'. -/
theorem Among.payoutsOf (h : Among organizationId others d a) {id : Uuid} (hspare : ∀ o ∈ others.obligations, o.id ≠ id) :
    d.payoutsOf id = a.payoutsOf id := by
  unfold Tables.payoutsOf
  rw [filter_mine (fun p => a.obligations.any (fun o => decide (o.id = p.royaltyObligationId))) ?_]
  · rw [← h.own]
    rfl
  · intro p hp hmine
    refine decide_eq_false (fun hid => ?_)
    rcases h.payout hp with ⟨-, o, ho, hobligation⟩ | ⟨-, o, ho, hobligation⟩
    · rw [List.any_eq_false] at hmine
      exact hmine o ho (decide_eq_true hobligation)
    · exact hspare o ho (hobligation.trans hid)

/-- A test of payouts that none of the others' passes. -/
theorem Among.anyPayout (h : Among organizationId others d a) {test : PayoutRow → Bool} (hspare : ∀ p ∈ others.payouts, test p = false) :
    d.payouts.any test = a.payouts.any test := by
  rw [Bool.eq_iff_iff, List.any_eq_true, List.any_eq_true]
  constructor
  · rintro ⟨p, hp, htest⟩
    rcases h.payout hp with ⟨hp, -⟩ | ⟨hp, -⟩
    · exact ⟨p, hp, htest⟩
    · rw [hspare p hp] at htest
      cases htest
  · rintro ⟨p, hp, htest⟩
    rw [← h.own] at hp
    exact ⟨p, (List.mem_filter.1 hp).1, htest⟩

/-- A search for a reversal that none of the others is. -/
theorem Among.findReversal (h : Among organizationId others d a) {test : ReversalRow → Bool}
    (hspare : ∀ r ∈ others.reversals, test r = false) : d.reversals.find? test = a.reversals.find? test := by
  rw [find?_mine (fun r => a.obligations.any (fun o => decide (o.id = r.reversedObligationId))) ?_]
  · rw [← h.own]
    rfl
  · intro r hr hmine
    rcases h.reversal hr with ⟨-, o, ho, hobligation⟩ | ⟨hr, -⟩
    · rw [List.any_eq_false] at hmine
      exact absurd (decide_eq_true hobligation) (hmine o ho)
    · exact hspare r hr

theorem Among.anyReversal (h : Among organizationId others d a) {test : ReversalRow → Bool}
    (hspare : ∀ r ∈ others.reversals, test r = false) : d.reversals.any test = a.reversals.any test := by
  have hfind := congrArg Option.isSome (h.findReversal hspare)
  rw [Bool.eq_iff_iff, List.find?_isSome, List.find?_isSome] at hfind
  rw [Bool.eq_iff_iff, List.any_eq_true, List.any_eq_true]
  exact hfind

/-! ## Writes -/

/-- A write of the organization's, which meets no id and no key of the others. -/
def Write.Spares (organizationId : String) (others : Tables) : Write → Prop
  | .insertObligation id req _ _ => req.organizationId = organizationId ∧
      ∀ o ∈ others.obligations, o.id ≠ id ∧ column 255 req.idempotencyKey ≠ .ok o.idempotencyKey
  | .insertPayout id obligationId _ => (∀ p ∈ others.payouts, p.id ≠ id) ∧ ∀ o ∈ others.obligations, o.id ≠ obligationId
  | .post id _ => ∀ o ∈ others.obligations, o.id ≠ id
  | .reverse id => ∀ o ∈ others.obligations, o.id ≠ id
  | .insertReversal id obligationId _ key _ => (∀ r ∈ others.reversals, r.id ≠ id ∧ column 255 key ≠ .ok r.reversalIdempotencyKey) ∧
      ∀ o ∈ others.obligations, o.id ≠ obligationId

theorem part_eq {mine : ObligationRow → Bool} (hobligations : d.obligations.filter mine = a.obligations)
    (hpayouts : d.payouts.filter (fun p => a.obligations.any (fun o => decide (o.id = p.royaltyObligationId))) = a.payouts)
    (hreversals : d.reversals.filter (fun r => a.obligations.any (fun o => decide (o.id = r.reversedObligationId))) = a.reversals) :
    d.part mine = a := by
  unfold Tables.part
  simp only [hobligations, hpayouts, hreversals]

/-- The lists of an organization's rows and of the others'. -/
theorem Among.lists (h : Among organizationId others d a) :
    (d.obligations.filter (fun o => decide (o.organizationId = organizationId)) = a.obligations ∧
      d.payouts.filter (fun p => a.obligations.any (fun o => decide (o.id = p.royaltyObligationId))) = a.payouts ∧
      d.reversals.filter (fun r => a.obligations.any (fun o => decide (o.id = r.reversedObligationId))) = a.reversals) ∧
    d.obligations.filter (fun o => !decide (o.organizationId = organizationId)) = others.obligations ∧
      d.payouts.filter (fun p => others.obligations.any (fun o => decide (o.id = p.royaltyObligationId))) = others.payouts ∧
      d.reversals.filter (fun r => others.obligations.any (fun o => decide (o.id = r.reversedObligationId))) = others.reversals := by
  obtain ⟨rfl, rfl, -⟩ := h
  exact ⟨⟨rfl, rfl, rfl⟩, rfl, rfl, rfl⟩

/-- A new obligation of the organization. -/
theorem Among.insertObligation (h : Among organizationId others d a) {row : ObligationRow} (horg : row.organizationId = organizationId)
    (hfresh : ∀ o ∈ d.obligations, o.id ≠ row.id) :
    Among organizationId others { d with obligations := d.obligations ++ [row] } { a with obligations := a.obligations ++ [row] } := by
  obtain ⟨⟨hobligations, hpayouts, hreversals⟩, hrest⟩ := h.lists
  have hsame : ∀ id, (∃ o ∈ d.obligations, o.id = id) →
      (a.obligations ++ [row]).any (fun o => decide (o.id = id)) = a.obligations.any (fun o => decide (o.id = id)) := by
    rintro id ⟨o, ho, rfl⟩
    simp [(hfresh o ho).symm]
  refine ⟨part_eq ?_ ?_ ?_, part_eq ?_ hrest.2.1 hrest.2.2, ?_, fun p hp => ?_, fun r hr => ?_⟩
  · simp [hobligations, horg]
  · rw [← hpayouts]
    exact List.filter_congr (fun p hp => hsame _ (h.constrained.payouts p hp))
  · rw [← hreversals]
    exact List.filter_congr (fun r hr => hsame _ (h.constrained.reversals r hr))
  · simp [hrest.1, horg]
  · exact nodup_map_concat h.constrained.ids hfresh
  · obtain ⟨o, ho, hid⟩ := h.constrained.payouts p hp
    exact ⟨o, List.mem_append_left _ ho, hid⟩
  · obtain ⟨o, ho, hid⟩ := h.constrained.reversals r hr
    exact ⟨o, List.mem_append_left _ ho, hid⟩

/-- An update of an obligation that is none of the others'. -/
theorem Among.update (h : Among organizationId others d a) {id : Uuid} (hspare : ∀ o ∈ others.obligations, o.id ≠ id)
    {u : ObligationRow → ObligationRow} (hid : ∀ o, (u o).id = o.id) (horg : ∀ o, (u o).organizationId = o.organizationId) :
    Among organizationId others { d with obligations := updateKey (·.id) id u d.obligations }
      { a with obligations := updateKey (·.id) id u a.obligations } := by
  obtain ⟨⟨hobligations, hpayouts, hreversals⟩, hrest⟩ := h.lists
  have hsame : ∀ id', (updateKey (·.id) id u a.obligations).any (fun o => decide (o.id = id')) =
      a.obligations.any (fun o => decide (o.id = id')) := by
    intro id'
    have hmap : (updateKey (fun o : ObligationRow => o.id) id u a.obligations).map (·.id) = a.obligations.map (·.id) :=
      map_updateKey (fun o : ObligationRow => o.id) hid _
    have hany := congrArg (fun ids => ids.any (fun i => decide (i = id'))) hmap
    simpa [List.any_map, Function.comp_def] using hany
  have hkept : ∀ id', (∃ o ∈ d.obligations, o.id = id') → ∃ o ∈ updateKey (·.id) id u d.obligations, o.id = id' := by
    rintro id' ⟨o, ho, rfl⟩
    refine ⟨if o.id = id then u o else o, List.mem_map.2 ⟨o, ho, rfl⟩, ?_⟩
    split
    · exact hid o
    · rfl
  refine ⟨part_eq ?_ ?_ ?_, part_eq ?_ hrest.2.1 hrest.2.2, ?_, fun p hp => hkept _ (h.constrained.payouts p hp),
    fun r hr => hkept _ (h.constrained.reversals r hr)⟩
  · exact (filter_updateKey (fun o => by rw [horg]) _).trans (by rw [hobligations])
  · rw [← hpayouts]
    exact List.filter_congr (fun p _ => hsame _)
  · rw [← hreversals]
    exact List.filter_congr (fun r _ => hsame _)
  · refine (filter_updateKey (fun o => by rw [horg]) _).trans ?_
    rw [hrest.1]
    exact updateKey_of_not_mem _ _ _ _ hspare
  · have hmap : (updateKey (fun o : ObligationRow => o.id) id u d.obligations).map (·.id) = d.obligations.map (·.id) :=
      map_updateKey (fun o : ObligationRow => o.id) hid _
    exact (congrArg List.Nodup hmap).mpr h.constrained.ids

/-- A new payout of an obligation that is none of the others'. -/
theorem Among.insertPayout (h : Among organizationId others d a) {row : PayoutRow}
    (hobligation : ∃ o ∈ d.obligations, o.id = row.royaltyObligationId)
    (hspare : ∀ o ∈ others.obligations, o.id ≠ row.royaltyObligationId) :
    Among organizationId others { d with payouts := d.payouts ++ [row] } { a with payouts := a.payouts ++ [row] } := by
  obtain ⟨⟨hobligations, hpayouts, hreversals⟩, hrest⟩ := h.lists
  have hmine : a.obligations.any (fun o => decide (o.id = row.royaltyObligationId)) = true := by
    obtain ⟨o, ho, hid⟩ := hobligation
    rcases (h.mem o).2 ho with hown | hother
    · exact List.any_eq_true.2 ⟨o, hown, decide_eq_true hid⟩
    · exact absurd hid (hspare o hother)
  have hother : others.obligations.any (fun o => decide (o.id = row.royaltyObligationId)) = false :=
    List.any_eq_false.2 (fun o ho => by simp [hspare o ho])
  refine ⟨part_eq hobligations ?_ hreversals, part_eq hrest.1 ?_ hrest.2.2, h.constrained.ids, fun p hp => ?_,
    h.constrained.reversals⟩
  · simp [hpayouts, hmine]
  · simp [hrest.2.1, hother]
  · rcases List.mem_append.1 hp with hp | hp
    · exact h.constrained.payouts p hp
    · rw [List.mem_singleton.1 hp]
      exact hobligation

/-- A new reversal of an obligation that is none of the others'. -/
theorem Among.insertReversal (h : Among organizationId others d a) {row : ReversalRow}
    (hobligation : ∃ o ∈ d.obligations, o.id = row.reversedObligationId)
    (hspare : ∀ o ∈ others.obligations, o.id ≠ row.reversedObligationId) :
    Among organizationId others { d with reversals := d.reversals ++ [row] } { a with reversals := a.reversals ++ [row] } := by
  obtain ⟨⟨hobligations, hpayouts, hreversals⟩, hrest⟩ := h.lists
  have hmine : a.obligations.any (fun o => decide (o.id = row.reversedObligationId)) = true := by
    obtain ⟨o, ho, hid⟩ := hobligation
    rcases (h.mem o).2 ho with hown | hother
    · exact List.any_eq_true.2 ⟨o, hown, decide_eq_true hid⟩
    · exact absurd hid (hspare o hother)
  have hother : others.obligations.any (fun o => decide (o.id = row.reversedObligationId)) = false :=
    List.any_eq_false.2 (fun o ho => by simp [hspare o ho])
  refine ⟨part_eq hobligations hpayouts ?_, part_eq hrest.1 hrest.2.1 ?_, h.constrained.ids, h.constrained.payouts, fun r hr => ?_⟩
  · simp [hreversals, hmine]
  · simp [hrest.2.2, hother]
  · rcases List.mem_append.1 hr with hr | hr
    · exact h.constrained.reversals r hr
    · rw [List.mem_singleton.1 hr]
      exact hobligation

/-- Two outcomes of writes: the same error, or tables that stand so again. -/
inductive Written (organizationId : String) (others : Tables) : Except DatabaseError Tables → Except DatabaseError Tables → Prop where
  | refused (e : DatabaseError) : Written organizationId others (.error e) (.error e)
  | written (d a : Tables) (h : Among organizationId others d a) : Written organizationId others (.ok d) (.ok a)

theorem Among.obligationRow (h : Among organizationId others d a) {id : Uuid} {req : CreateRoyaltyObligationRequest}
    (hspare : ∀ o ∈ others.obligations, o.id ≠ id ∧ column 255 req.idempotencyKey ≠ .ok o.idempotencyKey) (status : RoyaltyStatus)
    (t : Option Uuid) : d.obligationRow id req status t = a.obligationRow id req status t := by
  unfold Tables.obligationRow
  cases hkey : column 255 req.idempotencyKey with
  | error e => rfl
  | ok key =>
    have hany : d.obligations.any (fun o => decide (o.id = id ∨ o.idempotencyKey = key)) =
        a.obligations.any (fun o => decide (o.id = id ∨ o.idempotencyKey = key)) := by
      refine h.any (fun o ho => decide_eq_false ?_)
      rintro (hid | hsame)
      · exact (hspare o ho).1 hid
      · exact (hspare o ho).2 (by rw [hkey, hsame])
    simp only [bind, Except.bind, hany]

theorem Among.payoutRow (h : Among organizationId others d a) {id obligationId : Uuid} (hid : ∀ p ∈ others.payouts, p.id ≠ id)
    (hspare : ∀ o ∈ others.obligations, o.id ≠ obligationId) (payout : Payout) :
    d.payoutRow id obligationId payout = a.payoutRow id obligationId payout := by
  unfold Tables.payoutRow
  rw [h.anyPayout (fun p hp => decide_eq_false (hid p hp)), h.any (fun o ho => decide_eq_false (hspare o ho))]

theorem Among.reversalRow (h : Among organizationId others d a) {id obligationId : Uuid} {key : String}
    (hkeys : ∀ r ∈ others.reversals, r.id ≠ id ∧ column 255 key ≠ .ok r.reversalIdempotencyKey)
    (hspare : ∀ o ∈ others.obligations, o.id ≠ obligationId) (eventId : String) (t : Uuid) :
    d.reversalRow id obligationId eventId key t = a.reversalRow id obligationId eventId key t := by
  unfold Tables.reversalRow
  rw [h.any (fun o ho => decide_eq_false (hspare o ho))]
  cases hkey : column 255 key with
  | error e => rfl
  | ok stored =>
    have hany : d.reversals.any (fun r => decide (r.id = id ∨ r.reversalIdempotencyKey = stored)) =
        a.reversals.any (fun r => decide (r.id = id ∨ r.reversalIdempotencyKey = stored)) := by
      refine h.anyReversal (fun r hr => decide_eq_false ?_)
      rintro (hid | hsame)
      · exact (hkeys r hr).1 hid
      · exact (hkeys r hr).2 (by rw [hkey, hsame])
    simp only [bind, Except.bind, hany]

/-- One write. -/
theorem Among.write (h : Among organizationId others d a) {x : Write} (hx : x.Spares organizationId others) :
    Written organizationId others (d.write x) (a.write x) := by
  cases x with
  | insertObligation id req status t =>
    obtain ⟨horg, hspare⟩ := hx
    unfold Tables.write
    simp only [← h.obligationRow hspare status t]
    cases hrow : d.obligationRow id req status t with
    | error e => exact .refused e
    | ok row =>
      have hmade := obligationRow_ok hrow
      exact .written _ _ (h.insertObligation (hmade.organizationId.trans horg) (fun o ho => hmade.id ▸ hmade.fresh o ho))
  | insertPayout id obligationId payout =>
    obtain ⟨hid, hspare⟩ := hx
    unfold Tables.write
    simp only [← h.payoutRow hid hspare payout]
    cases hrow : d.payoutRow id obligationId payout with
    | error e => exact .refused e
    | ok row =>
      have hpaid := payoutRow_ok hrow
      have hobligation : ∃ o ∈ d.obligations, o.id = obligationId := by
        obtain ⟨owner, -, h₁⟩ := ok_of_except_bind hrow
        obtain ⟨amount, -, h₂⟩ := ok_of_except_bind h₁
        split at h₂
        · cases h₂
        · split at h₂
          · cases h₂
          · rename_i hsome
            simpa using hsome
      rw [← hpaid.royaltyObligationId] at hobligation hspare
      exact .written _ _ (h.insertPayout hobligation hspare)
  | post id t => exact .written _ _ (h.update hx (fun _ => rfl) (fun _ => rfl))
  | reverse id => exact .written _ _ (h.update hx (fun _ => rfl) (fun _ => rfl))
  | insertReversal id obligationId eventId key t =>
    obtain ⟨hkeys, hspare⟩ := hx
    unfold Tables.write
    simp only [← h.reversalRow hkeys hspare eventId t]
    cases hrow : d.reversalRow id obligationId eventId key t with
    | error e => exact .refused e
    | ok row =>
      have hreverses := reversalRow_ok hrow
      have hobligation := hreverses.obligation
      rw [← hreverses.reversedObligationId] at hobligation hspare
      exact .written _ _ (h.insertReversal hobligation hspare)

/-- The writes of a transaction. -/
theorem Among.writes (h : Among organizationId others d a) {xs : List Write} (hxs : ∀ x ∈ xs, x.Spares organizationId others) :
    Written organizationId others (d.writes xs) (a.writes xs) := by
  induction xs generalizing d a with
  | nil => exact .written d a h
  | cons x xs ih =>
    unfold Tables.writes
    have hx := h.write (hxs x List.mem_cons_self)
    generalize hd : d.write x = rd at hx
    generalize ha : a.write x = ra at hx
    cases hx with
    | refused e => exact .refused e
    | written d' a' h' => exact ih h' (fun y hy => hxs y (List.mem_cons_of_mem x hy))

end

/-! ## Statements -/

/-- No obligation has an id. -/
def Tables.Spares (others : Tables) (id : Uuid) : Prop := ∀ o ∈ others.obligations, o.id ≠ id

/-- A statement of the organization's, which names no event, no key and no id of the others. -/
def Statement.Spares (organizationId : String) (others : Tables) : Statement → Prop
  | .selectByKey key => ∀ o ∈ others.obligations, o.idempotencyKey ≠ key
  | .selectByEvent eventId => ∀ o ∈ others.obligations, o.eventId ≠ eventId
  | .lockByEvent eventId => ∀ o ∈ others.obligations, o.eventId ≠ eventId
  | .selectReversal key => ∀ r ∈ others.reversals, r.reversalIdempotencyKey ≠ key
  | .selectObligation id => others.Spares id
  | .selectPayouts id => others.Spares id
  | .commit writes => ∀ x ∈ writes, x.Spares organizationId others
  | _ => True

/-- What a statement answers names no id of the others. -/
def Statement.Known (others : Tables) : (o : Statement) → o.Result → Prop
  | .selectByKey _, found => ∀ row : ObligationRow, found = some row → others.Spares row.id
  | .selectByEvent _, found => ∀ id : Uuid, found = some id → others.Spares id
  | .lockByEvent _, found => ∀ row : ObligationRow, found = some row → others.Spares row.id
  | .selectReversal _, found => ∀ row : ReversalRow, found = some row → others.Spares row.reversedObligationId
  | .selectObligation _, found => ∀ row : ObligationRow, found = some row → others.Spares row.id
  | _, _ => True

/-- A state and the state of the organization's rows alone. -/
structure Beside (organizationId : String) (others : Tables) (s t : World) : Prop where
  tables : Among organizationId others s.db t.db
  locks : s.store.locks = t.store.locks
  ledger : s.ledger = t.ledger

theorem firstOf_mem {α : Type} {order : Nat} {rows : List α} {row : α} (h : firstOf order rows = some row) : row ∈ rows :=
  List.mem_of_getElem? h

section

variable {organizationId : String} {others : Tables} {s t : World} {w : Nat}

/-- A worker's transaction ends in both. -/
theorem Beside.unlock (h : Beside organizationId others s t) (w : Nat) :
    Beside organizationId others { s with store := s.store.unlock w } { t with store := t.store.unlock w } := by
  refine ⟨h.tables, ?_, h.ledger⟩
  unfold Store.unlock
  rw [h.locks]

/-- A statement is answered as in the database of the organization's rows alone, and leaves the others' rows. -/
theorem Beside.perform (h : Beside organizationId others s t) (w order : Nat) {o : Statement} (ho : o.Spares organizationId others) :
    Prog.Alike (fun r st st' => (Among organizationId others st.tables st'.tables ∧ st.locks = st'.locks) ∧
      ∀ a, r = .ok a → o.Known others a) (s.store.perform w order o) (t.store.perform w order o) := by
  have hheld : ∀ id, s.store.held w id = t.store.held w id := by
    intro id
    unfold Store.held
    rw [h.locks]
  have hevent : ∀ eventId, (∀ o ∈ others.obligations, o.eventId ≠ eventId) →
      s.store.tables.ofEvent eventId = t.store.tables.ofEvent eventId := fun eventId hspare => h.tables.ofEvent hspare
  have hfirst : ∀ eventId row, firstOf order (t.store.tables.ofEvent eventId) = some row → others.Spares row.id :=
    fun eventId row hrow => h.tables.ids (List.mem_filter.1 (firstOf_mem hrow)).1
  cases o with
  | connect => exact Or.inr ⟨_, _, _, rfl, rfl, ⟨h.tables, h.locks⟩, fun _ _ => trivial⟩
  | rollback => exact Or.inr ⟨_, _, _, rfl, rfl, ⟨h.tables, (h.unlock w).locks⟩, fun _ _ => trivial⟩
  | selectByKey key =>
    have hfind : s.store.tables.obligations.find? _ = t.store.tables.obligations.find? _ :=
      h.tables.find (fun o hmem => decide_eq_false (ho o hmem))
    unfold Store.perform
    simp only [hfind]
    refine Or.inr ⟨_, _, _, rfl, rfl, ⟨h.tables, h.locks⟩, ?_⟩
    rintro found hfound row rfl
    exact h.tables.ids (List.mem_of_find?_eq_some (Except.ok.inj hfound))
  | selectByEvent eventId =>
    unfold Store.perform
    simp only [hevent eventId ho]
    refine Or.inr ⟨_, _, _, rfl, rfl, ⟨h.tables, h.locks⟩, ?_⟩
    rintro found hfound id rfl
    obtain ⟨row, hrow, rfl⟩ := Option.map_eq_some_iff.1 (Except.ok.inj hfound)
    exact hfirst eventId row hrow
  | lockByEvent eventId =>
    unfold Store.perform
    simp only [hevent eventId ho, hheld]
    split
    · exact Or.inl ⟨rfl, rfl⟩
    · refine Or.inr ⟨_, _, _, rfl, rfl, ⟨h.tables, ?_⟩, ?_⟩
      · unfold Store.lock
        rw [h.locks]
      · rintro found hfound row rfl
        exact hfirst eventId row (Except.ok.inj hfound)
  | selectReversal key =>
    have hfind : s.store.tables.reversals.find? _ = t.store.tables.reversals.find? _ :=
      h.tables.findReversal (fun r hmem => decide_eq_false (ho r hmem))
    unfold Store.perform
    simp only [← hfind]
    refine Or.inr ⟨_, _, _, rfl, rfl, ⟨h.tables, h.locks⟩, ?_⟩
    rintro found hfound row rfl
    have hfound := Except.ok.inj hfound
    have hrow : row ∈ s.db.reversals := List.mem_of_find?_eq_some hfound
    rcases h.tables.reversal hrow with ⟨-, o, hmem, hid⟩ | ⟨hother, -⟩
    · rw [← hid]
      exact h.tables.ids hmem
    · have hkey := List.find?_some hfound
      exact absurd (of_decide_eq_true hkey) (ho row hother)
  | selectObligation id =>
    have hfind : s.store.tables.obligations.find? _ = t.store.tables.obligations.find? _ :=
      h.tables.find (fun o hmem => decide_eq_false (ho o hmem))
    unfold Store.perform
    simp only [hfind]
    refine Or.inr ⟨_, _, _, rfl, rfl, ⟨h.tables, h.locks⟩, ?_⟩
    rintro found hfound row rfl
    exact h.tables.ids (List.mem_of_find?_eq_some (Except.ok.inj hfound))
  | selectPayouts id =>
    have hpayouts : s.store.tables.payoutsOf id = t.store.tables.payoutsOf id := h.tables.payoutsOf ho
    unfold Store.perform
    simp only [hpayouts]
    exact Or.inr ⟨_, _, _, rfl, rfl, ⟨h.tables, h.locks⟩, fun _ _ => trivial⟩
  | commit writes =>
    have hwritten := h.tables.writes ho
    unfold Store.perform
    simp only [hheld]
    split
    · exact Or.inl ⟨rfl, rfl⟩
    · generalize hd : s.store.tables.writes writes = rd
      generalize ha : t.store.tables.writes writes = ra
      change Written organizationId others (s.store.tables.writes writes) (t.store.tables.writes writes) at hwritten
      rw [hd, ha] at hwritten
      cases hwritten with
      | refused e => exact Or.inr ⟨_, _, _, rfl, rfl, ⟨h.tables, h.locks⟩, fun _ _ => trivial⟩
      | written d a htables => exact Or.inr ⟨_, _, _, rfl, rfl, ⟨htables, (h.unlock w).locks⟩, fun _ _ => trivial⟩

/-- A statement of a worker, which may fail or lose its answer. -/
theorem Beside.exec (h : Beside organizationId others s t) (w : Nat) (ch : Choice) {o : Statement} (ho : o.Spares organizationId others) :
    Prog.Alike (fun r s' t' => Beside organizationId others s' t' ∧ ∀ a, r = .ok a → o.Known others a)
      (exec w (.sql o) ch s) (exec w (.sql o) ch t) := by
  have hmade : Prog.Alike (fun r s' t' => Beside organizationId others s' t' ∧ ∀ a, r = .ok a → o.Known others a)
      (s.perform w ch (.sql o)) (t.perform w ch (.sql o)) := by
    refine (h.perform w ch.order ho).map (fun r : Except DatabaseError o.Result => r.mapError RoyaltyError.database)
      (fun st => { s with store := st }) (fun st => { t with store := st }) (fun r st st' hr => ?_)
    refine ⟨⟨hr.1.1, hr.1.2, h.ledger⟩, fun a ha => hr.2 a ?_⟩
    cases r with
    | error e => cases ha
    | ok b =>
      cases ha
      rfl
  unfold Royalty.exec
  split
  · exact hmade
  · refine Or.inr ⟨_, _, _, rfl, rfl, ?_, nofun⟩
    unfold World.unmade
    split
    · exact h.unlock w
    · exact h
  · exact hmade.map (fun _ => (Except.error (Action.sql o).lost : Except RoyaltyError o.Result)) (fun s' => s') (fun t' => t')
      (fun r s' t' hr => ⟨hr.1, nofun⟩)

/-- A request to the ledger. -/
theorem Beside.ask (h : Beside organizationId others s t) (w : Nat) (ch : Choice) (asked : String) (q : Ledger.Request) :
    Prog.Alike (fun _ => Beside organizationId others) (Royalty.exec w (.ledger asked q) ch s) (Royalty.exec w (.ledger asked q) ch t) := by
  have hmade : Prog.Alike (fun _ => Beside organizationId others) (s.perform w ch (.ledger asked q)) (t.perform w ch (.ledger asked q)) := by
    unfold World.perform
    simp only [h.ledger]
    cases Ledger.serve ch.ledgerEnv ch.ledgerFails t.ledger q with
    | none => exact Or.inl ⟨rfl, rfl⟩
    | some a => exact Or.inr ⟨_, _, _, rfl, rfl, h.tables, h.locks, rfl⟩
  unfold Royalty.exec
  split
  · exact hmade
  · exact Or.inr ⟨_, _, _, rfl, rfl, h⟩
  · exact hmade.map (fun _ => (Except.error (Action.ledger asked q).lost : Except RoyaltyError (Action.ledger asked q).Result))
      (fun s' => s') (fun t' => t') (fun _ _ _ hr => hr)

/-! ## Programs -/

/-- Both runs of a program, of which the second is in the database of the organization's rows alone. -/
abbrev Program.Twin {α : Type} (w : Nat) (p : Program α) (Q : Except RoyaltyError α → World → World → Prop) (s t : World) : Prop :=
  Prog.Twin (Royalty.exec w) (Royalty.exec w) p Q s t

theorem query_twin (h : Beside organizationId others s t) {o : Statement} (ho : o.Spares organizationId others) :
    Program.Twin w (query o) (fun r s' t' => Beside organizationId others s' t' ∧ ∀ a, r = .ok a → o.Known others a) s t :=
  Prog.twin_perform (fun ch => h.exec w ch ho)

/-- The requests to the ledger. -/
def Asks : Action → Prop
  | .sql _ => False
  | .ledger _ _ => True

theorem asks_twin {α : Type} {p : Program α} (hp : p.Calls Asks) (h : Beside organizationId others s t) :
    Program.Twin w p (fun _ => Beside organizationId others) s t := by
  refine Prog.Calls.twin (fun o ch s t ho h => ?_) hp h
  cases o with
  | sql o => exact ho.elim
  | ledger asked q => exact h.ask w ch asked q

theorem asks_ensureAccount (org code name : String) (type : AccountType) : (ensureAccount org code name type).Calls Asks := by
  refine Prog.calls_bind (Prog.calls_perform trivial) (fun existing => ?_)
  split
  · exact trivial
  · exact Prog.calls_bind (Prog.calls_perform trivial) (fun _ => trivial)

theorem asks_payableEntries (org eventId suffix : String) (payouts : List Payout) :
    (payableEntries org eventId suffix payouts).Calls Asks := by
  induction payouts with
  | nil => exact trivial
  | cons payout payouts ih =>
    exact Prog.calls_bind (asks_ensureAccount _ _ _ _) (fun _ => Prog.calls_bind ih (fun _ => trivial))

theorem asks_postTransaction (req : PostTransactionRequest) : (postTransaction req).Calls Asks :=
  Prog.calls_bind (Prog.calls_perform trivial) (fun _ => trivial)

theorem asks_compute (gross : ℚ) (splits : List RoyaltySplit) : (compute gross splits).Calls Asks := by
  unfold compute
  split
  · exact trivial
  · exact trivial

theorem asks_carryOut (req : CreateRoyaltyObligationRequest) : (carryOut req).Calls Asks := by
  unfold carryOut
  split
  · exact trivial
  · exact Prog.calls_bind (Prog.calls_bind (asks_ensureAccount _ _ _ _) (fun _ => Prog.calls_bind (asks_ensureAccount _ _ _ _)
      (fun _ => asks_postTransaction _))) (fun _ => trivial)
  · exact Prog.calls_bind (asks_compute _ _) (fun _ => Prog.calls_bind (Prog.calls_bind (asks_ensureAccount _ _ _ _)
      (fun _ => Prog.calls_bind (asks_payableEntries _ _ _ _) (fun _ => asks_postTransaction _))) (fun _ => trivial))

theorem asks_postRelease (org eventId key : String) (gross : ℚ) (payouts : List Payout) :
    (postRelease org eventId key gross payouts).Calls Asks :=
  Prog.calls_bind (asks_ensureAccount _ _ _ _) (fun _ => Prog.calls_bind (asks_payableEntries _ _ _ _)
    (fun _ => asks_postTransaction _))

theorem asks_postReversal (id : Uuid) (org reason : String) : (postReversal id org reason).Calls Asks :=
  Prog.calls_bind (Prog.calls_perform trivial) (fun _ => trivial)

theorem loadObligation_twin (h : Beside organizationId others s t) {id : Uuid} (hid : others.Spares id) :
    Program.Twin w (loadObligation id) (fun _ => Beside organizationId others) s t := by
  unfold loadObligation
  refine Prog.twin_seq (query_twin h (o := .selectObligation id) hid) (fun found s₁ t₁ h₁ => ?_) (fun _ _ _ h₁ => h₁.1)
  refine Prog.twin_seq (query_twin h₁.1 (o := .selectPayouts id) hid) (fun payouts s₂ t₂ h₂ => ?_) (fun _ _ _ h₂ => h₂.1)
  cases found with
  | none => exact h₂.1
  | some row => exact h₂.1

theorem commit_twin (h : Beside organizationId others s t) {writes : List Write} (hspare : ∀ x ∈ writes, x.Spares organizationId others) :
    Program.Twin w (commit writes) (fun _ => Beside organizationId others) s t := by
  refine Prog.twin_handle (query_twin h (o := .commit writes) hspare) (fun _ _ _ h₁ => h₁.1) (fun e s₁ t₁ h₁ => ?_)
  exact Prog.twin_seq (query_twin h₁.1 (o := .rollback) trivial) (fun _ _ _ h₂ => h₂.1) (fun _ _ _ h₂ => h₂.1)

theorem orRollback_twin {α : Type} {body : Program α} (hbody : Program.Twin w body (fun _ => Beside organizationId others) s t) :
    Program.Twin w (orRollback body) (fun _ => Beside organizationId others) s t := by
  refine Prog.twin_handle hbody (fun _ _ _ h => h) (fun e s₁ t₁ h => ?_)
  have hrollback : Program.Twin w ((query .rollback).tryCatch (fun _ => pure ())) (fun _ => Beside organizationId others) s₁ t₁ :=
    Prog.twin_handle (query_twin h (o := .rollback) trivial) (fun _ _ _ h₁ => h₁.1) (fun _ _ _ h₁ => h₁.1)
  exact Prog.twin_seq hrollback (fun _ _ _ h₁ => h₁) (fun _ _ _ h₁ => h₁)

/-- Giving up with an error, after a rollback. -/
theorem refuse_twin {α : Type} (h : Beside organizationId others s t) (name : ErrorName) (message : String) :
    Program.Twin w (do query .rollback; fault name message : Program α) (fun _ => Beside organizationId others) s t :=
  Prog.twin_seq (query_twin h (o := .rollback) trivial) (fun _ _ _ h₁ => h₁.1) (fun _ _ _ h₁ => h₁.1)

theorem spares_insertPayouts {uuid : Nat → Uuid} {id : Uuid} (hid : others.Spares id) (hpayouts : ∀ i, ∀ p ∈ others.payouts, p.id ≠ uuid i)
    (payouts : List Payout) (i : Nat) : ∀ x ∈ insertPayouts uuid id i payouts, x.Spares organizationId others := by
  induction payouts generalizing i with
  | nil => exact fun x hx => by cases hx
  | cons payout payouts ih =>
    intro x hx
    rcases List.mem_cons.1 hx with rfl | hx
    · exact ⟨hpayouts i, hid⟩
    · exact ih (i + 1) x hx

/-- A request made for an organization. Only the request for an obligation names one. -/
def Call.MadeFor (organizationId : String) : Call → Prop
  | .createObligation _ req => req.organizationId = organizationId
  | _ => True

/-- A request that names no event and no key of the others and draws none of their ids. -/
def Call.Spares (others : Tables) : Call → Prop
  | .createObligation uuid req =>
    (∀ o ∈ others.obligations, o.id ≠ uuid 0 ∧ o.idempotencyKey ≠ req.idempotencyKey ∧
      column 255 req.idempotencyKey ≠ .ok o.idempotencyKey) ∧
    ∀ i, ∀ p ∈ others.payouts, p.id ≠ uuid i
  | .releaseObligation uuid eventId _ =>
    (∀ o ∈ others.obligations, o.eventId ≠ eventId) ∧ ∀ i, ∀ p ∈ others.payouts, p.id ≠ uuid i
  | .reverseObligation uuid eventId _ key _ => (∀ o ∈ others.obligations, o.eventId ≠ eventId) ∧
      ∀ r ∈ others.reversals, r.id ≠ uuid 0 ∧ r.reversalIdempotencyKey ≠ key ∧ column 255 key ≠ .ok r.reversalIdempotencyKey
  | .getObligationByEventId eventId => ∀ o ∈ others.obligations, o.eventId ≠ eventId

theorem createObligation_twin (h : Beside organizationId others s t) {uuid : Nat → Uuid} {req : CreateRoyaltyObligationRequest}
    (horg : req.organizationId = organizationId)
    (hc : (Call.createObligation uuid req).Spares others) :
    Program.Twin w (createObligation uuid req) (fun _ => Beside organizationId others) s t := by
  obtain ⟨hspare, hpayouts⟩ := hc
  unfold createObligation
  refine Prog.twin_seq (query_twin h (o := .connect) trivial) (fun _ s₁ t₁ h₁ => ?_) (fun _ _ _ h₁ => h₁.1)
  refine Prog.twin_seq (query_twin h₁.1 (o := .selectByKey req.idempotencyKey) (fun o ho => (hspare o ho).2.1))
    (fun found s₂ t₂ h₂ => ?_) (fun _ _ _ h₂ => h₂.1)
  cases found with
  | some row =>
    simp only
    split
    · exact h₂.1
    · exact loadObligation_twin h₂.1 (h₂.2 _ rfl row rfl)
  | none =>
    refine Prog.twin_seq (asks_twin (asks_carryOut req) h₂.1) (fun carried s₃ t₃ h₃ => ?_) (fun _ _ _ h₃ => h₃)
    obtain ⟨status, ledgerTransactionId, payouts⟩ := carried
    refine Prog.twin_seq (commit_twin h₃ (fun x hx => ?_)) (fun _ s₄ t₄ h₄ => ?_) (fun _ _ _ h₄ => h₄)
    · rcases List.mem_cons.1 hx with rfl | hx
      · exact ⟨horg, fun o ho => ⟨(hspare o ho).1, (hspare o ho).2.2⟩⟩
      · exact spares_insertPayouts (fun o ho => (hspare o ho).1) hpayouts payouts 1 x hx
    · exact loadObligation_twin h₄ (fun o ho => (hspare o ho).1)

theorem releaseObligation_twin (h : Beside organizationId others s t) {uuid : Nat → Uuid} {eventId key : String}
    (hc : (Call.releaseObligation uuid eventId key).Spares others) :
    Program.Twin w (releaseObligation uuid eventId key) (fun _ => Beside organizationId others) s t := by
  obtain ⟨hspare, hpayouts⟩ := hc
  unfold releaseObligation
  refine Prog.twin_seq (query_twin h (o := .connect) trivial) (fun _ s₁ t₁ h₁ => ?_) (fun _ _ _ h₁ => h₁.1)
  refine orRollback_twin ?_
  refine Prog.twin_seq (query_twin h₁.1 (o := .lockByEvent eventId) hspare) (fun found s₂ t₂ h₂ => ?_) (fun _ _ _ h₂ => h₂.1)
  cases found with
  | none => exact refuse_twin h₂.1 _ _
  | some row =>
    have hid : others.Spares row.id := h₂.2 _ rfl row rfl
    simp only
    split
    · exact Prog.twin_seq (query_twin h₂.1 (o := .commit []) (fun x hx => by cases hx))
        (fun _ _ _ h₃ => loadObligation_twin h₃.1 hid) (fun _ _ _ h₃ => h₃.1)
    · split
      · exact refuse_twin h₂.1 _ _
      · refine Prog.twin_seq (asks_twin (asks_compute _ _) h₂.1) (fun payouts s₃ t₃ h₃ => ?_) (fun _ _ _ h₃ => h₃)
        refine Prog.twin_seq (asks_twin (asks_postRelease _ _ _ _ _) h₃) (fun ledgerId s₄ t₄ h₄ => ?_) (fun _ _ _ h₄ => h₄)
        refine Prog.twin_seq (query_twin h₄ (o := .commit _) (fun x hx => ?_)) (fun _ _ _ h₅ => loadObligation_twin h₅.1 hid)
          (fun _ _ _ h₅ => h₅.1)
        rcases List.mem_cons.1 hx with rfl | hx
        · exact hid
        · exact spares_insertPayouts hid hpayouts payouts 0 x hx

theorem reverseObligation_twin (h : Beside organizationId others s t) {uuid : Nat → Uuid} {eventId reversalEventId key reason : String}
    (hc : (Call.reverseObligation uuid eventId reversalEventId key reason).Spares others) :
    Program.Twin w (reverseObligation uuid eventId reversalEventId key reason) (fun _ => Beside organizationId others) s t := by
  obtain ⟨hspare, hreversals⟩ := hc
  unfold reverseObligation
  refine Prog.twin_seq (query_twin h (o := .connect) trivial) (fun _ s₁ t₁ h₁ => ?_) (fun _ _ _ h₁ => h₁.1)
  refine orRollback_twin ?_
  refine Prog.twin_seq (query_twin h₁.1 (o := .selectReversal key) (fun r hr => (hreversals r hr).2.1)) (fun existing s₂ t₂ h₂ => ?_)
    (fun _ _ _ h₂ => h₂.1)
  cases existing with
  | some reversal =>
    have hid : others.Spares reversal.reversedObligationId := h₂.2 _ rfl reversal rfl
    refine Prog.twin_seq (query_twin h₂.1 (o := .selectObligation reversal.reversedObligationId) hid) (fun found s₃ t₃ h₃ => ?_)
      (fun _ _ _ h₃ => h₃.1)
    refine Prog.twin_seq (query_twin h₃.1 (o := .commit []) (fun x hx => by cases hx)) (fun _ s₄ t₄ h₄ => ?_) (fun _ _ _ h₄ => h₄.1)
    cases found with
    | none => exact h₄.1
    | some row =>
      exact Prog.twin_seq (loadObligation_twin h₄.1 (h₃.2 _ rfl row rfl)) (fun _ _ _ h₅ => h₅) (fun _ _ _ h₅ => h₅)
  | none =>
    refine Prog.twin_seq (query_twin h₂.1 (o := .lockByEvent eventId) hspare) (fun found s₃ t₃ h₃ => ?_) (fun _ _ _ h₃ => h₃.1)
    cases found with
    | none => exact refuse_twin h₃.1 _ _
    | some row =>
      have hid : others.Spares row.id := h₃.2 _ rfl row rfl
      simp only
      split
      · exact refuse_twin h₃.1 _ _
      · split
        · exact refuse_twin h₃.1 _ _
        · refine Prog.twin_seq (asks_twin (asks_postReversal _ _ _) h₃.1) (fun reversalId s₄ t₄ h₄ => ?_) (fun _ _ _ h₄ => h₄)
          refine Prog.twin_seq (query_twin h₄ (o := .commit _) (fun x hx => ?_)) (fun _ s₅ t₅ h₅ => ?_) (fun _ _ _ h₅ => h₅.1)
          · simp only [List.mem_cons, List.not_mem_nil, or_false] at hx
            rcases hx with rfl | rfl
            · exact hid
            · exact ⟨fun r hr => ⟨(hreversals r hr).1, (hreversals r hr).2.2⟩, hid⟩
          · exact Prog.twin_seq (loadObligation_twin h₅.1 hid) (fun _ _ _ h₆ => h₆) (fun _ _ _ h₆ => h₆)

theorem getObligationByEventId_twin (h : Beside organizationId others s t) {eventId : String}
    (hc : (Call.getObligationByEventId eventId).Spares others) :
    Program.Twin w (getObligationByEventId eventId) (fun _ => Beside organizationId others) s t := by
  unfold getObligationByEventId
  refine Prog.twin_seq (query_twin h (o := .connect) trivial) (fun _ s₁ t₁ h₁ => ?_) (fun _ _ _ h₁ => h₁.1)
  refine Prog.twin_seq (query_twin h₁.1 (o := .selectByEvent eventId) hc) (fun found s₂ t₂ h₂ => ?_) (fun _ _ _ h₂ => h₂.1)
  cases found with
  | none => exact h₂.1
  | some id => exact loadObligation_twin h₂.1 (h₂.2 _ rfl id rfl)

/-- A request is answered as in the database of the organization's rows alone, and leaves the others' rows. -/
theorem Call.twin (h : Beside organizationId others s t) {c : Call} (hfor : c.MadeFor organizationId)
    (hc : c.Spares others) : Program.Twin w c.program (fun _ => Beside organizationId others) s t := by
  cases c with
  | createObligation uuid req => exact Prog.twin_seq (createObligation_twin h hfor hc) (fun _ _ _ h => h) (fun _ _ _ h => h)
  | releaseObligation uuid eventId key => exact Prog.twin_seq (releaseObligation_twin h hc) (fun _ _ _ h => h) (fun _ _ _ h => h)
  | reverseObligation uuid eventId reversalEventId key reason =>
    exact Prog.twin_seq (reverseObligation_twin h hc) (fun _ _ _ h => h) (fun _ _ _ h => h)
  | getObligationByEventId eventId => exact Prog.twin_seq (getObligationByEventId_twin h hc) (fun _ _ _ h => h) (fun _ _ _ h => h)

/-! ## Sequences of requests -/

/-- Requests made one after another, each with the choices of its calls: what they are answered with, and the state they leave. -/
def responses : List (Call × (Nat → Choice)) → World → Option (List (Except RoyaltyError Reply) × World)
  | [], s => some ([], s)
  | (c, ch) :: cs, s =>
    match alone c.program ch s with
    | none => none
    | some (r, s') => (responses cs s').map (fun rs => (r :: rs.1, rs.2))

theorem responses_alike (h : Beside organizationId others s t) {cs : List (Call × (Nat → Choice))}
    (hfor : ∀ c ∈ cs, c.1.MadeFor organizationId) (hcs : ∀ c ∈ cs, c.1.Spares others) :
    Prog.Alike (fun _ => Beside organizationId others) (responses cs s) (responses cs t) := by
  induction cs generalizing s t with
  | nil => exact Or.inr ⟨_, _, _, rfl, rfl, h⟩
  | cons x cs ih =>
    obtain ⟨c, ch⟩ := x
    have halone := (Call.twin (w := 0) h (hfor _ List.mem_cons_self) (hcs _ List.mem_cons_self)).run ch 0
    unfold responses alone
    rcases halone with ⟨hs, ht⟩ | ⟨r, s', t', hs, ht, h'⟩
    · rw [hs, ht]
      exact Or.inl ⟨rfl, rfl⟩
    · rw [hs, ht]
      have hrest := ih h' (fun x hx => hfor x (List.mem_cons_of_mem _ hx)) (fun x hx => hcs x (List.mem_cons_of_mem _ hx))
      exact hrest.map (fun rs => r :: rs) (fun s => s) (fun t => t) (fun _ _ _ h => h)

end

end Royalty

end Archisynapse
