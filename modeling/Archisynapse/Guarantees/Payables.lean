import Archisynapse.Lemmas.Payables
import Archisynapse.Guarantees.Royalty

/-!
# Payable accounts

The accounts that royalty payouts are credited to are looked up by the owner's id itself, among the organization's other accounts.
They are kept apart from each other and from the platform's accounts exactly while no owner has the code of one of these for an id
(`payables_separate_iff`).
-/

namespace Archisynapse

namespace Payables

/-- The payable accounts are kept apart: each is a liability, is used as the payable of one owner of one organization only, and is
none of the organization's accounts with a platform code. -/
structure Separate (d : Ledger.Tables) (uses : List Use) : Prop where
  liability : ∀ u ∈ uses, ∀ owner, u.role = .payable owner → ∃ a ∈ d.accounts, u.account = .stored a.id ∧ a.type = .liability
  own : ∀ u ∈ uses, ∀ owner, u.role = .payable owner → ∀ v ∈ uses, v.account = u.account →
    v.role = .payable owner ∧ v.organizationId = u.organizationId
  platform : ∀ u ∈ uses, ∀ owner, u.role = .payable owner → ∀ a ∈ d.accounts, a.organizationId = u.organizationId →
    a.code ∈ platformCodes → u.account ≠ .stored a.id

theorem stored_injective : Function.Injective UuidText.stored := fun _ _ h => Option.some.inj (UuidText.mk.inj h).2

/-- The account row of a use. -/
theorem Use.Coded.row {d : Ledger.Tables} {u : Use} (h : u.Coded d) :
    ∃ a ∈ d.accounts, u.account = .stored a.id ∧ a.organizationId = u.organizationId ∧ a.code = u.role.code := by
  obtain ⟨id, hid, b, hb, rfl, horg, hcode⟩ := h
  obtain ⟨a, ha, rfl⟩ := List.mem_map.1 hb
  exact ⟨a, ha, hid, horg, hcode⟩

/-- An id is one account's. -/
theorem Kept.unique {d : Ledger.Tables} (h : Kept d) {a b : AccountRow} (ha : a ∈ d.accounts) (hb : b ∈ d.accounts)
    (hid : a.id = b.id) : a.organizationId = b.organizationId ∧ a.code = b.code := by
  have ha' : { a with balance := 0 } ∈ d.chart := List.mem_map.2 ⟨a, ha, rfl⟩
  have hb' : { b with balance := 0 } ∈ d.chart := List.mem_map.2 ⟨b, hb, rfl⟩
  have heq := List.inj_on_of_nodup_map h.books.accounts ha' hb' hid
  have hfields := AccountRow.mk.injEq .. ▸ heq
  exact ⟨hfields.2.1, hfields.2.2.1⟩

/-- A role with the code of an owner that is not a platform code is the owner's payable. -/
theorem Role.eq_payable {role : Role} {owner : String} (h : role.code = owner) (howner : owner ∉ platformCodes) :
    role = .payable owner := by
  cases role with
  | payable ownerId => exact congrArg Role.payable h
  | _ =>
    subst h
    exact absurd (by decide +kernel) howner

/-- After every sequence of postings, whatever failed in it, the payable accounts are kept apart exactly if no owner that was
credited has the code of a platform account for an id. -/
theorem payables_separate_iff {d : Ledger.Tables} {uses : List Use} (h : Posted d uses) :
    Separate d uses ↔ ∀ u ∈ uses, ∀ owner, u.role = .payable owner → owner ∉ platformCodes := by
  obtain ⟨hkept, hcoded⟩ := h.kept
  constructor
  · intro hseparate u hu owner hrole howner
    obtain ⟨a, ha, haccount, horg, hcode⟩ := (hcoded u hu).row
    rw [hrole] at hcode
    exact hseparate.platform u hu owner hrole a ha horg (by rw [hcode]; exact howner) haccount
  · intro howners
    have hrow : ∀ u ∈ uses, ∀ owner, u.role = .payable owner →
        ∃ a ∈ d.accounts, u.account = .stored a.id ∧ a.organizationId = u.organizationId ∧ a.code = owner := by
      intro u hu owner hrole
      obtain ⟨a, ha, haccount, horg, hcode⟩ := (hcoded u hu).row
      rw [hrole] at hcode
      exact ⟨a, ha, haccount, horg, hcode⟩
    refine ⟨?_, ?_, ?_⟩
    · intro u hu owner hrole
      obtain ⟨a, ha, haccount, -, rfl⟩ := hrow u hu owner hrole
      refine ⟨a, ha, haccount, hkept.types a ha (fun hmem => howners u hu _ hrole ?_)⟩
      simp only [List.mem_cons, List.not_mem_nil, or_false] at hmem
      rcases hmem with hcode | hcode | hcode <;> simp [platformCodes, hcode]
    · intro u hu owner hrole v hv hsame
      obtain ⟨a, ha, haccount, horg, hcode⟩ := hrow u hu owner hrole
      obtain ⟨b, hb, haccount', horg', hcode'⟩ := (hcoded v hv).row
      have hid : b.id = a.id := stored_injective (haccount'.symm.trans (hsame.trans haccount))
      obtain ⟨horg₂, hcode₂⟩ := hkept.unique hb ha hid
      exact ⟨Role.eq_payable (hcode'.symm.trans (hcode₂.trans hcode)) (howners u hu owner hrole),
        horg'.symm.trans (horg₂.trans horg)⟩
    · intro u hu owner hrole b hb _ hplatform hstored
      obtain ⟨a, ha, haccount, -, hcode⟩ := hrow u hu owner hrole
      have hid : b.id = a.id := stored_injective (hstored.symm.trans haccount)
      rw [(hkept.unique hb ha hid).2, hcode] at hplatform
      exact howners u hu owner hrole hplatform

/-! ## A royalty for an owner -/

/-- A royalty of 1.25 for one owner. -/
def playPosting (ownerId : String) : RoyaltyPosting := .allow "lyrica" "event-1" "key-1" (5 / 4) [⟨ownerId, 5 / 4⟩]

/-- The posting, every call of which goes well. -/
def playPosted (ownerId : String) : Option (Except Royalty.RoyaltyError (List Use) × Royalty.World) :=
  Royalty.alone (playPosting ownerId).program (fun n => Royalty.goes n .none) ⟨⟨.empty, []⟩, .empty⟩

/-- A posting that goes well is a sequence of postings. -/
theorem playPosted_any (ownerId : String) (test : List Use → Bool)
    (h : (playPosted ownerId).any (fun outcome =>
      decide ((playPosting ownerId).Taken outcome.2.ledger) && test (outcome.1.toOption.getD [])) = true) :
    ∃ d uses, Posted d uses ∧ test uses = true := by
  obtain ⟨⟨r, s⟩, halone, htest⟩ := (Option.any_eq_true _ _).1 h
  obtain ⟨htaken, htest⟩ := Bool.and_eq_true_iff.1 htest
  have hposted := Posted.start.royalty (playPosting ownerId) _ ⟨.empty, []⟩ r s halone
  rw [if_pos (of_decide_eq_true htaken)] at hposted
  exact ⟨s.ledger, _, hposted, htest⟩

/-- The theorem at a royalty for an owner with an id of their own. -/
theorem payables_separate_iff_play : ∃ d uses, Posted d uses ∧ uses.map (·.role) = [.expense, .payable "creator-1"] ∧
    (Separate d uses ↔ ∀ u ∈ uses, ∀ owner, u.role = .payable owner → owner ∉ platformCodes) := by
  obtain ⟨d, uses, hposted, hroles⟩ := playPosted_any "creator-1"
    (fun uses => decide (uses.map (·.role) = [.expense, .payable "creator-1"])) (by decide +kernel)
  exact ⟨d, uses, hposted, of_decide_eq_true hroles, payables_separate_iff hposted⟩

/-- A royalty for the owner `royalty_expense` is credited to the expense account it is debited to. -/
theorem payables_confused : ¬ ∀ d uses, Posted d uses → Separate d uses := by
  intro h
  obtain ⟨d, uses, hposted, hboth⟩ := playPosted_any "royalty_expense"
    (fun uses => uses.any (fun u => uses.any (fun v =>
      decide (u.role = .payable "royalty_expense" ∧ v.account = u.account ∧ v.role = .expense)))) (by decide +kernel)
  obtain ⟨u, hu, hboth⟩ := List.any_eq_true.1 hboth
  obtain ⟨v, hv, hboth⟩ := List.any_eq_true.1 hboth
  obtain ⟨hrole, hsame, hexpense⟩ := of_decide_eq_true hboth
  have hown := ((h d uses hposted).own u hu _ hrole v hv hsame).1
  rw [hexpense] at hown
  cases hown

end Payables

end Archisynapse
