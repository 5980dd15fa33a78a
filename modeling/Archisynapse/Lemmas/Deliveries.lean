import Archisynapse.Contracts.Store

/-!
# What a delivery that passes has

A delivery passes when nothing speaks against it (`blockers_nil_iff`). A path that is found leads through objects to a value that is
not empty (`hasPath_iff`), but paths are only looked for in a body that is an object.
-/

namespace Archisynapse

namespace Contracts

open Commerce (PaymentReceipt)

/-! ## Paths -/

/-- A path of names leads through objects to a value. -/
inductive Leads : Json → List String → Json → Prop where
  | here (value : Json) : Leads value [] value
  | member {members : List (String × Json)} {name : String} {value target : Json} {path : List String}
      (h : Json.member name members = some value) (rest : Leads value path target) : Leads (.obj members) (name :: path) target

/-- A value that is neither null nor empty. -/
def Present (value : Json) : Prop := value ≠ .null ∧ value ≠ .str "" ∧ value ≠ .arr [] ∧ value ≠ .obj []

theorem valueAt_iff (value : Json) (path : List String) (target : Json) :
    valueAt value path = some target ↔ Leads value path target := by
  induction path generalizing value with
  | nil =>
    constructor
    · intro h
      cases value <;> cases h <;> exact .here _
    · intro h
      cases h
      cases target <;> rfl
  | cons name path ih =>
    constructor
    · intro h
      cases value with
      | obj members =>
        unfold valueAt at h
        split at h
        · rename_i value hvalue
          exact .member hvalue ((ih value).1 h)
        · cases h
      | null => cases h
      | bool b => cases h
      | number text => cases h
      | str text => cases h
      | arr items => cases h
    · intro h
      cases h with
      | member hvalue rest =>
        unfold valueAt
        rw [hvalue]
        exact (ih _).2 rest

/-- A path is found exactly when it leads to a value that is neither null nor empty. -/
theorem hasPath_iff (value : Json) (path : String) :
    hasPath value path = true ↔ ∃ target, Leads value (path.splitOn ".") target ∧ Present target := by
  have htarget : ∀ target, valueAt value (path.splitOn ".") = some target → (hasPath value path = true ↔ Present target) := by
    intro target h
    unfold hasPath Present
    rw [h]
    cases target with
    | null => simp
    | bool b => simp
    | number text => simp
    | str text => simp
    | arr items => cases items <;> simp
    | obj members => cases members <;> simp
  constructor
  · intro h
    cases hvalue : valueAt value (path.splitOn ".") with
    | none =>
      unfold hasPath at h
      rw [hvalue] at h
      cases h
    | some target => exact ⟨target, (valueAt_iff value _ target).1 hvalue, (htarget target hvalue).1 h⟩
  · rintro ⟨target, hleads, hpresent⟩
    exact (htarget target ((valueAt_iff value _ target).2 hleads)).2 hpresent

/-- No item of a requirement is missing in an object exactly when each leads to a value that is neither null nor empty. -/
theorem missing_nil_iff (items : List String) (members : List (String × Json)) :
    missing items (some (.obj members)) = [] ↔
      ∀ path ∈ items, ∃ target, Leads (.obj members) (path.splitOn ".") target ∧ Present target := by
  unfold missing
  rw [List.filter_eq_nil_iff]
  refine forall₂_congr fun path _ => ?_
  rw [← hasPath_iff, Bool.not_eq_true', Bool.not_eq_false]

/-! ## Verdicts -/

theorem ite_nil_iff {c : Prop} [Decidable c] {text : String} : (if c then ([] : List String) else [text]) = [] ↔ c := by
  by_cases h : c <;> simp [h]

theorem ite_text_iff {c : Prop} [Decidable c] {text : String} : (if c then [text] else ([] : List String)) = [] ↔ ¬ c := by
  by_cases h : c <;> simp [h]

/-- Nothing speaks against a delivery exactly when each check passes. -/
theorem blockers_nil_iff (contract : ServiceContract) (receipt : PaymentReceipt) (body : List UInt8) (parsed : Option Json) :
    contract.blockers receipt body parsed = [] ↔
      receipt.delivery.status = .delivered ∧ receipt.delivery.latencyMs ≤ contract.deliveryDeadlineMs ∧
        (body.length : Int) ≤ contract.maxResponseBytes ∧ parsed.isSome = true ∧
        missing contract.requiredDeliverables parsed = [] ∧ missing contract.requiredEvidence parsed = [] := by
  unfold ServiceContract.blockers
  simp only [List.append_eq_nil_iff, ite_nil_iff, ite_text_iff, Int.not_lt, Option.isNone_iff_eq_none, ← Option.isSome_iff_ne_none,
    and_assoc]

/-- The member of an evaluation that says whether the delivery passed. -/
theorem member_passed (contract : ServiceContract) (receipt : PaymentReceipt) (body : List UInt8) (parsed : Option Json) :
    Json.member "technical_delivery_passed" (contract.evaluation receipt body parsed) =
      some (.bool (contract.blockers receipt body parsed).isEmpty) := by
  unfold ServiceContract.evaluation Json.member
  simp

/-- What a contract asks of the delivery itself. -/
def ServiceContract.Timely (contract : ServiceContract) (receipt : PaymentReceipt) (body : List UInt8) : Prop :=
  receipt.delivery.status = .delivered ∧ receipt.delivery.latencyMs ≤ contract.deliveryDeadlineMs ∧
    (body.length : Int) ≤ contract.maxResponseBytes

/-- What a contract asks of the body: an object in which every required path leads to a value. -/
def ServiceContract.Complete (env : Env) (contract : ServiceContract) (body : List UInt8) : Prop :=
  ∃ members, parseBody env body = .ok (some (.obj members)) ∧
    ∀ path ∈ contract.requiredDeliverables ++ contract.requiredEvidence,
      ∃ target, Leads (.obj members) (path.splitOn ".") target ∧ Present target

/-- An evaluation reports that the delivery passed. -/
def Passes (env : Env) (contract : ServiceContract) (receipt : PaymentReceipt) (body : List UInt8) : Prop :=
  ∃ evaluation, evaluateDelivery env contract receipt body = .ok evaluation ∧
    Json.member "technical_delivery_passed" evaluation = some (.bool true)

/-- A delivery passes exactly when it is timely and its body is complete, or JSON that is not an object. -/
theorem passes_iff (env : Env) (contract : ServiceContract) (receipt : PaymentReceipt) (body : List UInt8) :
    Passes env contract receipt body ↔ contract.Timely receipt body ∧
      (contract.Complete env body ∨ ∃ value, parseBody env body = .ok (some value) ∧ ∀ members, value ≠ .obj members) := by
  have hpasses : ∀ parsed, parseBody env body = .ok parsed →
      (Passes env contract receipt body ↔ contract.blockers receipt body parsed = []) := by
    intro parsed hparsed
    have heval : evaluateDelivery env contract receipt body = .ok (contract.evaluation receipt body parsed) := by
      unfold evaluateDelivery
      rw [hparsed]
      rfl
    constructor
    · rintro ⟨evaluation, hevaluation, hpassed⟩
      rw [heval] at hevaluation
      cases hevaluation
      rw [member_passed] at hpassed
      exact List.isEmpty_iff.1 (Json.bool.inj (Option.some.inj hpassed))
    · intro hnil
      refine ⟨_, heval, ?_⟩
      rw [member_passed, hnil]
      rfl
  cases hparsed : parseBody env body with
  | error failure =>
    refine iff_of_false ?_ ?_
    · rintro ⟨evaluation, hevaluation, -⟩
      unfold evaluateDelivery at hevaluation
      rw [hparsed] at hevaluation
      cases hevaluation
    · rintro ⟨-, ⟨members, hmembers, -⟩ | ⟨value, hvalue, -⟩⟩
      · rw [hparsed] at hmembers
        cases hmembers
      · cases hvalue
  | ok parsed =>
    rw [hpasses parsed hparsed, blockers_nil_iff]
    unfold ServiceContract.Timely ServiceContract.Complete
    rw [hparsed]
    cases parsed with
    | none => simp
    | some value =>
      cases value with
      | obj members =>
        rw [missing_nil_iff, missing_nil_iff, ← List.forall_mem_append]
        simp [and_assoc]
      | null => simp [missing]
      | bool b => simp [missing]
      | number text => simp [missing]
      | str text => simp [missing]
      | arr items => simp [missing]

end Contracts

end Archisynapse
