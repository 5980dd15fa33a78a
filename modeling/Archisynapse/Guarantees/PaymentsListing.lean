import Archisynapse.Base.Paging
import Archisynapse.Payments.Listing

/-!
# Completeness of the list of payments

`listPayments` orders by time and id, and its cursor selects by id only. Following the cursors always ends; it visits each
matching payment once exactly where every page boundary of the ordered list separates the ids (`listPayments_complete_iff`).
-/

namespace Archisynapse

namespace Payments

open Paging

/-- The matching payments of an organization, in the order of the statement. -/
def listed (rows : List StampedPayment) (organizationId : String) (status : Option String) : List StampedPayment :=
  (rows.filter (·.matching organizationId status)).insertionSort NewerFirst

/-- The id a payment is paged by. -/
abbrev StampedPayment.key (p : StampedPayment) : Uuid := p.row.id

/-! ## The order -/

instance : IsTrans StampedPayment NewerFirst where
  trans p q r hpq hqr := by
    unfold NewerFirst Uuid at *
    omega

instance : Std.Total NewerFirst where
  total p q := by
    unfold NewerFirst Uuid
    omega

/-- Payments that are before each other have one id. -/
theorem NewerFirst.key_eq {p q : StampedPayment} (hpq : NewerFirst p q) (hqp : NewerFirst q p) : p.key = q.key := by
  unfold NewerFirst Uuid at hpq hqp
  unfold StampedPayment.key Uuid
  omega

/-- The list has the matching payments. -/
theorem listed_perm (rows : List StampedPayment) (organizationId : String) (status : Option String) :
    (listed rows organizationId status).Perm (rows.filter (·.matching organizationId status)) :=
  List.perm_insertionSort _ _

/-- No two payments of the list have one id. -/
theorem listed_nodup (ps : StampedPayments) (organizationId : String) (status : Option String) :
    ((listed ps.rows organizationId status).map (·.key)).Nodup :=
  (((listed_perm ps.rows organizationId status).map _).nodup_iff).2 (ps.nodup.sublist (List.filter_sublist.map _))

/-- A list is in the order of the statement. -/
theorem listed_pairwise (rows : List StampedPayment) (organizationId : String) (status : Option String) :
    (listed rows organizationId status).Pairwise NewerFirst := List.pairwise_insertionSort _ _

/-- What is below a cursor is in the order of the list. -/
theorem listed_below (ps : StampedPayments) (organizationId : String) (status : Option String) (below : StampedPayment → Bool) :
    (ps.rows.filter (fun p => p.matching organizationId status && below p)).insertionSort NewerFirst =
      (listed ps.rows organizationId status).filter below := by
  refine List.Perm.eq_of_pairwise ?_ (List.pairwise_insertionSort NewerFirst _)
    ((listed_pairwise ps.rows organizationId status).filter below) ?_
  · intro p q hp hq hpq hqp
    have hp' : p ∈ ps.rows := (List.mem_filter.1 ((List.mem_insertionSort _).1 hp)).1
    have hq' : q ∈ ps.rows :=
      (List.mem_filter.1 ((listed_perm ps.rows organizationId status).mem_iff.1 (List.mem_filter.1 hq).1)).1
    exact List.inj_on_of_nodup_map ps.nodup hp' hq' (hpq.key_eq hqp)
  · calc (ps.rows.filter (fun p => p.matching organizationId status && below p)).insertionSort NewerFirst
        |>.Perm (ps.rows.filter (fun p => p.matching organizationId status && below p)) := List.perm_insertionSort _ _
      _ |>.Perm ((ps.rows.filter (·.matching organizationId status)).filter below) := by
          rw [List.filter_filter]
          simp only [Bool.and_comm]
          exact List.Perm.refl _
      _ |>.Perm _ := ((listed_perm ps.rows organizationId status).symm.filter below)

/-! ## Pages -/

/-- A page has room. -/
theorem pageSize_pos {limit : Option Int} (hlimit : ∀ n ∈ limit, 0 < n) : 0 < pageSize limit := by
  unfold pageSize
  cases limit with
  | none => decide
  | some n =>
    have hn := hlimit n rfl
    rw [Option.getD_some]
    split <;> omega

/-- The text of a uuid is not empty. -/
theorem uuidText_ne (id : Uuid) : Uuid.text id ≠ "" := by
  intro h
  have hlen := congrArg String.length h
  unfold Uuid.text at hlen
  simp only [String.length_append] at hlen
  have hdash : "-".length = 1 := rfl
  rw [hdash] at hlen
  have hempty : "".length = 0 := rfl
  omega

/-- The statement of a page: the first of what the cursor leaves, one more than a page. -/
theorem selectPayments_eq (tenantIsolation : Bool) (ps : StampedPayments) (organizationId : String) (status : Option String)
    (cursor : Option Uuid) {limit : Int} (hlimit : 0 ≤ limit) :
    selectPayments ⟨organizationId, tenantIsolation⟩ ps.rows status (cursor.map .stored) limit =
      .ok ((rest StampedPayment.key (listed ps.rows organizationId status) cursor).take limit.toNat) := by
  have hid : cursorId (cursor.map .stored) = .ok cursor := by cases cursor <;> rfl
  have hwhere : ∀ p : StampedPayment, (Session.sees ⟨organizationId, tenantIsolation⟩ p.row.organizationId &&
      p.matching organizationId status && p.below cursor) = (p.matching organizationId status && p.below cursor) := by
    intro p
    by_cases horg : p.row.organizationId = organizationId
    · have hsees : Session.sees ⟨organizationId, tenantIsolation⟩ p.row.organizationId = true := by
        unfold Session.sees
        rw [decide_eq_true horg, Bool.or_true]
      rw [hsees, Bool.true_and]
    · have hmatching : p.matching organizationId status = false := by
        unfold StampedPayment.matching
        rw [decide_eq_false horg, Bool.false_and]
      rw [hmatching, Bool.and_false]
  unfold selectPayments
  rw [hid]
  simp only [hwhere, bind, Except.bind]
  rw [if_neg (Int.not_lt.2 hlimit), listed_below]
  cases cursor with
  | none =>
    have hall : (listed ps.rows organizationId status).filter (·.below none) = listed ps.rows organizationId status :=
      List.filter_eq_self.2 fun _ _ => rfl
    rw [hall]
    rfl
  | some id => rfl

/-- A page of the list is a page of what the cursor leaves. -/
theorem listPayments_eq (tenantIsolation : Bool) (ps : StampedPayments) {organizationId : String} (horg : organizationId ≠ "")
    {limit : Option Int} (hlimit : ∀ n ∈ limit, 0 < n) (status : Option String) (cursor : Option Uuid) {left : List StampedPayment}
    (hleft : rest StampedPayment.key (listed ps.rows organizationId (truthy status)) cursor = left) :
    listPayments tenantIsolation ps.rows organizationId ⟨limit, cursor.map .stored, status⟩ =
      .ok ⟨(page StampedPayment.key (pageSize limit).toNat left).1, (page StampedPayment.key (pageSize limit).toNat left).2⟩ := by
  have hsize := pageSize_pos hlimit
  have hcursor : (cursor.map UuidText.stored).filter (fun text => decide (text.text ≠ "")) = cursor.map .stored := by
    cases cursor with
    | none => rfl
    | some id => exact if_pos (decide_eq_true (uuidText_ne id))
  have hroom : 0 ≤ pageSize limit + 1 := by omega
  have hselect := selectPayments_eq tenantIsolation ps organizationId (truthy status) cursor hroom
  unfold listPayments page
  rw [if_neg horg]
  dsimp only
  rw [hcursor, hselect, hleft]
  dsimp only
  rw [List.length_take]
  by_cases hmore : (pageSize limit).toNat < left.length
  · have hlast : (left.take (pageSize limit).toNat) ≠ [] := by
      refine List.ne_nil_of_length_pos ?_
      rw [List.length_take]
      omega
    rw [if_pos hmore, if_pos (by omega), List.take_take, min_eq_left (by omega), List.getLast?_eq_some_getLast hlast]
    rfl
  · rw [if_neg hmore, if_neg (by omega), List.take_of_length_le (by omega)]

/-- Following the cursors of the list is following the cursors of its pages. -/
theorem visits_iff (tenantIsolation : Bool) (ps : StampedPayments) {organizationId : String} (horg : organizationId ≠ "")
    {limit : Option Int} (hlimit : ∀ n ∈ limit, 0 < n) (status : Option String) (cursor : Option Uuid) (visited : List StampedPayment) :
    Visits tenantIsolation ps.rows organizationId limit status (cursor.map .stored) visited ↔
      Serves StampedPayment.key (pageSize limit).toNat (listed ps.rows organizationId (truthy status)) cursor visited := by
  constructor
  · intro h
    generalize hc : cursor.map UuidText.stored = given at h
    induction h generalizing cursor with
    | last h =>
      rw [← hc, listPayments_eq tenantIsolation ps horg hlimit status cursor rfl] at h
      obtain ⟨hitems, hnext⟩ := PaymentPage.mk.inj (Except.ok.inj h)
      exact .last (Prod.ext hitems hnext)
    | @more _ _ _ id h _ ih =>
      rw [← hc, listPayments_eq tenantIsolation ps horg hlimit status cursor rfl] at h
      obtain ⟨hitems, hnext⟩ := PaymentPage.mk.inj (Except.ok.inj h)
      exact .more (Prod.ext hitems hnext) (ih (some id) rfl)
  · intro h
    induction h with
    | @last cursor _ h =>
      refine .last ((listPayments_eq tenantIsolation ps horg hlimit status cursor rfl).trans ?_)
      rw [h]
    | @more cursor _ _ _ h _ ih =>
      refine .more ((listPayments_eq tenantIsolation ps horg hlimit status cursor rfl).trans ?_) ih
      rw [h]

/-! ## Completeness -/

/-- The list is from the newest to the oldest. -/
theorem listed_newest_first (rows : List StampedPayment) (organizationId : String) (status : Option String) :
    (listed rows organizationId status).Pairwise (fun p q => q.createdAt ≤ p.createdAt) := by
  refine (listed_pairwise rows organizationId status).imp fun {p q} hpq => ?_
  unfold NewerFirst at hpq
  omega

/-- For every payments of an organization, every status and every positive limit, following `nextCursor` from the first page ends.
What it visits is each matching payment once, from the newest to the oldest, exactly where every page boundary of the list in its
order separates the ids: the ids up to the boundary are greater, and those after it smaller. -/
theorem listPayments_complete_iff (tenantIsolation : Bool) (ps : StampedPayments) (organizationId : String) (limit : Option Int)
    (status : Option String) (horg : organizationId ≠ "") (hlimit : ∀ n ∈ limit, 0 < n) :
    (∃ visited, Visits tenantIsolation ps.rows organizationId limit status none visited) ∧
    ∀ visited, Visits tenantIsolation ps.rows organizationId limit status none visited →
      (visited.Perm (ps.rows.filter (·.matching organizationId (truthy status))) ∧
        visited.Pairwise (fun p q => q.createdAt ≤ p.createdAt) ↔
      Separates StampedPayment.key (pageSize limit).toNat (listed ps.rows organizationId (truthy status))) := by
  have hsize : 0 < (pageSize limit).toNat := by
    have hpos := pageSize_pos hlimit
    omega
  have hiff := visits_iff tenantIsolation ps horg hlimit status none
  have hnd := listed_nodup ps organizationId (truthy status)
  have hperm := listed_perm ps.rows organizationId (truthy status)
  constructor
  · obtain ⟨visited, h⟩ : ∃ visited, Serves StampedPayment.key (pageSize limit).toNat
        (listed ps.rows organizationId (truthy status)) none visited := exists_serves hsize none
    exact ⟨visited, (hiff visited).2 h⟩
  · intro visited hvisits
    have h := (hiff visited).1 hvisits
    constructor
    · rintro ⟨hvisited, -⟩
      exact (h.complete_iff hsize hnd).1 (hvisited.trans hperm.symm)
    · intro hseparates
      have heq := h.unique (serves_of_separates hsize hseparates [] _ none rfl (Nat.dvd_zero _) rfl)
      rw [heq]
      exact ⟨hperm, listed_newest_first ps.rows organizationId (truthy status)⟩

/-- A payment of an organization. -/
def playPayment (id : Uuid) (createdAt : Int) : StampedPayment :=
  ⟨⟨id, "0b6f1f4e-0000-4000-8000-000000000001", 100000, "USD", .succeeded, Uuid.text id, none, none, 0⟩, createdAt⟩

/-- Two payments, the older with the smaller id. -/
def playPayments : StampedPayments := ⟨[playPayment 1 0, playPayment 2 1], by decide⟩

theorem listPayments_complete_iff_play :
    (∃ visited, Visits true playPayments.rows "0b6f1f4e-0000-4000-8000-000000000001" (some 1) none none visited) ∧
    ∀ visited, Visits true playPayments.rows "0b6f1f4e-0000-4000-8000-000000000001" (some 1) none none visited →
      (visited.Perm (playPayments.rows.filter (·.matching "0b6f1f4e-0000-4000-8000-000000000001" (truthy none))) ∧
        visited.Pairwise (fun p q => q.createdAt ≤ p.createdAt) ↔
      Separates StampedPayment.key (pageSize (some 1)).toNat
        (listed playPayments.rows "0b6f1f4e-0000-4000-8000-000000000001" (truthy none))) :=
  listPayments_complete_iff true playPayments "0b6f1f4e-0000-4000-8000-000000000001" (some 1) none (by decide +kernel)
    (fun n hn => by obtain rfl := Option.some.inj hn; decide)

/-- Two payments, the older with the greater id. -/
def skippedPayments : StampedPayments := ⟨[playPayment 2 0, playPayment 1 1], by decide⟩

/-- One payment a page: after the newer payment, the cursor leaves out the older one. -/
theorem listPayments_skips :
    ¬ ∃ visited, Visits true skippedPayments.rows "0b6f1f4e-0000-4000-8000-000000000001" (some 1) none none visited ∧
      visited.Perm (skippedPayments.rows.filter (·.matching "0b6f1f4e-0000-4000-8000-000000000001" none)) ∧
      visited.Pairwise (fun p q => q.createdAt ≤ p.createdAt) := by
  rintro ⟨visited, hvisits, hperm, -⟩
  have hlimit : ∀ n ∈ some (1 : Int), 0 < n := fun n hn => by
    obtain rfl := Option.some.inj hn
    decide
  have h := (visits_iff true skippedPayments (by decide +kernel) hlimit none none visited).1 hvisits
  have hsize : 0 < (pageSize (some 1)).toNat := by decide
  have hseparates := (h.complete_iff hsize (listed_nodup skippedPayments _ none)).1
    (hperm.trans (listed_perm skippedPayments.rows _ none).symm)
  have hlisted : listed skippedPayments.rows "0b6f1f4e-0000-4000-8000-000000000001" none =
      [] ++ playPayment 1 1 :: [playPayment 2 0] := by decide +kernel
  have hlater := (hseparates [] _ _ hlisted (by decide) (by decide)).2 (playPayment 2 0) List.mem_cons_self
  exact absurd hlater (by decide)

end Payments

end Archisynapse
