import Archisynapse.Lemmas.PaymentsCalls
import Archisynapse.Lemmas.RoyaltyJournal

/-!
# The accounts of royalty and payment postings

Both services find an account by its code and create it when the list does not have it. What an account was used as in a sequence of
postings, and what the chart of accounts keeps: an account of a code that is not the platform's is a liability, and an account that
was used as something has the code of it.
-/

namespace Archisynapse

namespace Payables

/-- What a posting uses an account as. -/
inductive Role where
  | expense | held | clearing | merchantPayable | platformFee
  | payable (ownerId : String)
  deriving DecidableEq

/-- The code an account is looked up by. -/
def Role.code : Role → String
  | .expense => "royalty_expense"
  | .held => "royalty_held_liab"
  | .clearing => "1100"
  | .merchantPayable => "2001"
  | .platformFee => "4001"
  | .payable ownerId => ownerId

/-- The type an account of a role is created with. -/
def Role.type : Role → AccountType
  | .expense => .expense
  | .held => .liability
  | .clearing => .asset
  | .merchantPayable => .liability
  | .platformFee => .revenue
  | .payable _ => .liability

/-- The codes of the platform's own accounts. -/
def platformCodes : List String := ["royalty_expense", "royalty_held_liab", "1100", "2001", "4001"]

/-- An account that a posting of an organization used. -/
structure Use where
  organizationId : String
  role : Role
  account : UuidText
  deriving DecidableEq

/-! ## Postings -/

section postings

variable (organizationId eventId idempotencyKey : String) (gross : ℚ) (payouts : List Royalty.Payout)

/-- The accounts the credits of payouts go to. -/
def payableUses (entries : List PostJournalEntryRequest) : List Use :=
  List.zipWith (fun payout e => ⟨organizationId, .payable payout.ownerId, e.accountId⟩) payouts entries

/-- What `postAllow` asks the ledger for, with the accounts it uses. -/
def resolveAllow : Royalty.Program (List Use × PostTransactionRequest) := do
  let expense ← Royalty.ensureExpense organizationId
  let payable ← Royalty.payableEntries organizationId eventId "" payouts
  pure (⟨organizationId, .expense, expense⟩ :: payableUses organizationId payouts payable,
    Royalty.allowRequest organizationId eventId idempotencyKey gross expense payable)

/-- What `postHold` asks the ledger for, with the accounts it uses. -/
def resolveHold : Royalty.Program (List Use × PostTransactionRequest) := do
  let expense ← Royalty.ensureExpense organizationId
  let held ← Royalty.ensureHeld organizationId
  pure ([⟨organizationId, .expense, expense⟩, ⟨organizationId, .held, held⟩],
    Royalty.holdRequest organizationId eventId idempotencyKey gross expense held)

/-- What `postRelease` asks the ledger for, with the accounts it uses. -/
def resolveRelease : Royalty.Program (List Use × PostTransactionRequest) := do
  let held ← Royalty.ensureHeld organizationId
  let payable ← Royalty.payableEntries organizationId eventId " (released)" payouts
  pure (⟨organizationId, .held, held⟩ :: payableUses organizationId payouts payable,
    Royalty.releaseRequest organizationId eventId idempotencyKey gross held payable)

theorem postAllow_eq : Royalty.postAllow organizationId eventId idempotencyKey gross payouts =
    (do let asked ← resolveAllow organizationId eventId idempotencyKey gross payouts; Royalty.postTransaction asked.2) := by
  unfold resolveAllow Royalty.postAllow
  simp only [Prog.bind_assoc_eq, Prog.pure_bind_eq]

theorem postHold_eq : Royalty.postHold organizationId eventId idempotencyKey gross =
    (do let asked ← resolveHold organizationId eventId idempotencyKey gross; Royalty.postTransaction asked.2) := by
  unfold resolveHold Royalty.postHold
  simp only [Prog.bind_assoc_eq, Prog.pure_bind_eq]

theorem postRelease_eq : Royalty.postRelease organizationId eventId idempotencyKey gross payouts =
    (do let asked ← resolveRelease organizationId eventId idempotencyKey gross payouts; Royalty.postTransaction asked.2) := by
  unfold resolveRelease Royalty.postRelease
  simp only [Prog.bind_assoc_eq, Prog.pure_bind_eq]

end postings

/-- The accounts a payment's posting found by their codes. -/
def accountUses (organizationId : String) (accounts : Payments.Accounts) : List Use :=
  [⟨organizationId, .clearing, accounts.processorClearingAccountId⟩,
    ⟨organizationId, .merchantPayable, accounts.merchantPayableAccountId⟩,
    ⟨organizationId, .platformFee, accounts.platformFeeRevenueAccountId⟩]

/-- All accounts of payments are configured, so that none is looked up. -/
def Configured (env : Payments.Env) : Prop := ∃ clearing payable fee, env.ledgerAccounts = ⟨some clearing, some payable, some fee⟩

instance (env : Payments.Env) : Decidable (Configured env) :=
  decidable_of_iff (env.ledgerAccounts.processorClearingAccountId.isSome ∧ env.ledgerAccounts.merchantPayableAccountId.isSome ∧
    env.ledgerAccounts.platformFeeRevenueAccountId.isSome) (by
      unfold Configured
      rcases env.ledgerAccounts with ⟨_ | _, _ | _, _ | _⟩ <;> simp)

/-- The posting of a payment, with the accounts it found by their codes, also when the answer to the posting is an error or lost. -/
def paymentUses (env : Payments.Env) (req : Payments.CreatePaymentRequest) : Payments.Program (List Use) := do
  let accounts ← Payments.resolveLedgerAccounts env req.organizationId
  Prog.tryCatch (do
    let _ ← Payments.postPaymentSucceeded (Payments.paymentRequest req.organizationId env.uuid (.fin req.amount)
      (.fin (req.feeAmount.getD 0)) req.net req.currency accounts)
    pure ()) (fun _ => pure ())
  pure (if Configured env then [] else accountUses req.organizationId accounts)

/-- A posting of the royalty service. -/
inductive RoyaltyPosting where
  | allow (organizationId eventId idempotencyKey : String) (gross : ℚ) (payouts : List Royalty.Payout)
  | hold (organizationId eventId idempotencyKey : String) (gross : ℚ)
  | release (organizationId eventId idempotencyKey : String) (gross : ℚ) (payouts : List Royalty.Payout)

/-- What a posting asks the ledger for. -/
def RoyaltyPosting.resolve : RoyaltyPosting → Royalty.Program (List Use × PostTransactionRequest)
  | .allow organizationId eventId idempotencyKey gross payouts => resolveAllow organizationId eventId idempotencyKey gross payouts
  | .hold organizationId eventId idempotencyKey gross => resolveHold organizationId eventId idempotencyKey gross
  | .release organizationId eventId idempotencyKey gross payouts => resolveRelease organizationId eventId idempotencyKey gross payouts

/-- The organization and the key a posting is made under. -/
def RoyaltyPosting.key : RoyaltyPosting → String × String
  | .allow organizationId _ idempotencyKey _ _ => (organizationId, idempotencyKey)
  | .hold organizationId _ idempotencyKey _ => (organizationId, idempotencyKey)
  | .release organizationId _ idempotencyKey _ _ => (organizationId, idempotencyKey ++ "-release")

/-- A posting, and the accounts it uses, also when the answer to the posting is an error or lost. -/
def RoyaltyPosting.program (p : RoyaltyPosting) : Royalty.Program (List Use) := do
  let asked ← p.resolve
  Prog.tryCatch (do let _ ← Royalty.postTransaction asked.2; pure ()) (fun _ => pure ())
  pure asked.1

/-- The ledger has a transaction under the key of a posting. -/
def RoyaltyPosting.Taken (p : RoyaltyPosting) (d : Ledger.Tables) : Prop :=
  ∃ t ∈ d.posts, t.organizationId = p.key.1 ∧ t.idempotencyKey = some p.key.2

instance (p : RoyaltyPosting) (d : Ledger.Tables) : Decidable (p.Taken d) := by
  unfold RoyaltyPosting.Taken
  infer_instance

/-- What a sequence of postings, any of whose calls may fail or lose its answer, leaves: the ledger, and the accounts used by those
that the ledger took. -/
inductive Posted : Ledger.Tables → List Use → Prop where
  | start : Posted .empty []
  | royalty {d : Ledger.Tables} {uses : List Use} (h : Posted d uses) (p : RoyaltyPosting) (ch : Nat → Royalty.Choice)
      (store : Royalty.Store) (r : Except Royalty.RoyaltyError (List Use)) (s' : Royalty.World)
      (hrun : Royalty.alone p.program ch ⟨store, d⟩ = some (r, s')) :
      Posted s'.ledger (uses ++ if p.Taken s'.ledger then r.toOption.getD [] else [])
  | payment {d : Ledger.Tables} {uses : List Use} (h : Posted d uses) (env : Payments.Env) (req : Payments.CreatePaymentRequest)
      (ch : Nat → Payments.Choice) (db : Payments.Tables) (processor : Payments.Processor)
      (r : Except Payments.PaymentError (List Use)) (s' : Payments.World)
      (hrun : Payments.alone (paymentUses env req) ch ⟨db, processor, d⟩ = some (r, s')) :
      Posted s'.ledger (uses ++ r.toOption.getD [])

/-! ## What requests keep -/

open Ledger (Extends)

open Royalty (HasCode)

/-- An account that is created with another code than the expense, clearing and fee accounts is a liability. -/
def Typed (code : String) (type : AccountType) : Prop :=
  code ∉ ["royalty_expense", "1100", "4001"] → type = .liability

theorem Role.typed (role : Role) : Typed role.code role.type := by
  unfold Typed
  cases role <;> simp [Role.code, Role.type]

/-- The ledger in order, its accounts of the types their codes call for. -/
structure Kept (d : Ledger.Tables) : Prop where
  books : Ledger.Books d
  balances : Ledger.Balances d
  types : ∀ a ∈ d.accounts, Typed a.code a.type

theorem kept_empty : Kept .empty := ⟨Ledger.books_empty, nofun, nofun⟩

/-- A request that creates no account of a wrong type. -/
def Proper : Ledger.Request → Prop
  | .createAccount _ code _ type _ => Typed code type
  | _ => True

/-- A request as its sender sees it: it is not made, or served, with its answer or an error in its place. -/
def Answered {ε : Type} (q : Ledger.Request) (d d' : Ledger.Tables) (r : Except ε q.Result) : Prop :=
  (d' = d ∧ ∃ e, r = .error e) ∨ ∃ env fails a, Ledger.serve env fails d q = some (a, d') ∧ ∀ b, r = .ok b → a = .ok b

variable {d d' : Ledger.Tables} {ε : Type}

/-- An account whose chart row is of a type is an account of the type. -/
theorem mem_accounts_of_chart (h : d'.chart = d.chart) {a : AccountRow} (ha : a ∈ d'.accounts) :
    ∃ b ∈ d.accounts, b.id = a.id ∧ b.organizationId = a.organizationId ∧ b.code = a.code ∧ b.type = a.type := by
  have hmem : { a with balance := 0 } ∈ d.chart := by
    rw [← h]
    exact List.mem_map.2 ⟨a, ha, rfl⟩
  obtain ⟨b, hb, heq⟩ := List.mem_map.1 hmem
  have hfields := AccountRow.mk.injEq .. ▸ heq
  exact ⟨b, hb, hfields.1, hfields.2.1, hfields.2.2.1, hfields.2.2.2.2.1⟩

/-- A request keeps the ledger in order. -/
theorem Kept.answered (h : Kept d) {q : Ledger.Request} (hq : Proper q) {r : Except ε q.Result} (ha : Answered q d d' r) :
    Kept d' ∧ Extends d d' := by
  rcases ha with ⟨rfl, -⟩ | ⟨env, fails, a, hserve, -⟩
  · exact ⟨h, .refl _⟩
  obtain ⟨hbooks, hbalances⟩ := Ledger.serve_books h.books h.balances hserve
  have hextends := Ledger.serve_extends h.books h.balances hserve
  have hsame : d'.chart = d.chart → Kept d' ∧ Extends d d' := by
    intro hchart
    refine ⟨⟨hbooks, hbalances, fun a ha => ?_⟩, hextends⟩
    obtain ⟨b, hb, -, -, hcode, htype⟩ := mem_accounts_of_chart hchart ha
    rw [← hcode, ← htype]
    exact h.types b hb
  cases q with
  | listAccounts organizationId =>
    obtain ⟨rfl, -⟩ := Ledger.serve_listAccounts hserve
    exact ⟨h, .refl _⟩
  | createAccount organizationId code name type currency =>
    obtain ⟨rows, rfl, hrows, -⟩ := Ledger.serve_createAccount h.books h.balances hserve
    refine ⟨⟨hbooks, hbalances, fun a ha => ?_⟩, hextends⟩
    rcases List.mem_append.1 ha with ha | ha
    · exact h.types a ha
    · obtain ⟨-, hcode, -, htype⟩ := hrows a ha
      rw [hcode, htype]
      exact hq
  | postTransaction req =>
    rcases Ledger.serve_post h.books h.balances hserve with ⟨-, rfl⟩ | ⟨t, -, rfl, -⟩ | ⟨t, row, rows, responses, -, hadds, -⟩
    · exact ⟨h, .refl _⟩
    · exact ⟨h, .refl _⟩
    · exact hsame hadds.chart
  | reverse organizationId transactionId reason =>
    rcases Ledger.serve_reverse h.books h.balances hserve with ⟨-, rfl⟩ | ⟨t, row, rows, -, hadds, -⟩
    · exact ⟨h, .refl _⟩
    · exact hsame hadds.chart

/-- The accounts that are listed are those of the organization. -/
theorem Answered.listed {organizationId : String} {existing : List AccountRow}
    (ha : Answered (ε := ε) (.listAccounts organizationId) d d' (.ok existing)) {code : String} {found : AccountRow}
    (hfound : existing.find? (fun a => decide (a.code = code)) = some found) : HasCode d' organizationId code found.id := by
  rcases ha with ⟨-, e, he⟩ | ⟨env, fails, a, hserve, ha⟩
  · cases he
  obtain ⟨rfl, hmem⟩ := Ledger.serve_listAccounts hserve
  obtain ⟨hstored, horg⟩ := hmem existing (ha existing rfl) found (List.mem_of_find?_eq_some hfound)
  have hcode : found.code = code := by simpa using List.find?_some hfound
  rw [← horg, ← hcode]
  exact Royalty.hasCode_of_mem hstored

/-- The account that is created has the code. -/
theorem Answered.created (h : Kept d) {organizationId code name currency : String} {type : AccountType} {row : AccountRow}
    (ha : Answered (ε := ε) (.createAccount organizationId code name type currency) d d' (.ok row)) :
    HasCode d' organizationId code row.id := by
  rcases ha with ⟨-, e, he⟩ | ⟨env, fails, a, hserve, ha⟩
  · cases he
  obtain ⟨rows, rfl, hrows, hcreated⟩ := Ledger.serve_createAccount h.books h.balances hserve
  have hmem := hcreated row (ha row rfl)
  obtain ⟨horg, hcode, -⟩ := hrows row hmem
  rw [← horg, ← hcode]
  exact Royalty.hasCode_of_mem (List.mem_append_right _ hmem)

/-- The account of a use is one of the organization with the code of its role. -/
def Use.Coded (d : Ledger.Tables) (u : Use) : Prop :=
  ∃ id, u.account = .stored id ∧ HasCode d u.organizationId u.role.code id

theorem Use.Coded.extends {u : Use} (h : u.Coded d) (hd : Extends d d') : u.Coded d' := by
  obtain ⟨id, hid, hcode⟩ := h
  exact ⟨id, hid, hcode.extends hd⟩

/-! ## Royalty postings -/

section royalty

variable {d₀ : Ledger.Tables} {s : Royalty.World} {organizationId : String}

/-- A call of the royalty service that runs alone. -/
abbrev RoyaltyRuns (o : Royalty.Action) (s : Royalty.World) (r : Except Royalty.RoyaltyError o.Result) (s' : Royalty.World) : Prop :=
  ∃ ch, Royalty.exec 0 o ch s = some (r, s')

/-- The ledger stays in order, and loses nothing it had. -/
abbrev royaltyContract (d₀ : Ledger.Tables) : Contract Royalty.World :=
  ⟨fun s => Kept s.ledger ∧ Extends d₀ s.ledger, (· = ·), fun _ _ => True⟩

/-- A request of the royalty service. -/
theorem royaltyAsk_wp {asked : String} {q : Ledger.Request} (hq : Proper q)
    {Q : Except Royalty.RoyaltyError q.Result → Royalty.World → Prop}
    (h : ∀ r s', Kept s.ledger → Extends s.ledger s'.ledger → Answered q s.ledger s'.ledger r → Q r s') :
    (Royalty.step (.ledger asked q)).wp RoyaltyRuns (royaltyContract d₀) Q s := by
  unfold Royalty.step
  rw [Prog.wp_perform]
  rintro s₁ rfl ⟨hkept, hextends⟩ r s₂ ⟨ch, he⟩
  have hanswered : Answered q s.ledger s₂.ledger r := by
    rcases Royalty.exec_ledger he with ⟨rfl, herror⟩ | ⟨-, a, hserve, ha⟩
    · exact Or.inl ⟨rfl, herror⟩
    · exact Or.inr ⟨_, _, a, hserve, ha⟩
  obtain ⟨hkept', hd⟩ := hkept.answered hq hanswered
  exact ⟨⟨hkept', hextends.trans hd⟩, trivial, h r s₂ hkept hd hanswered⟩

/-- The account of a code, as the royalty service finds or creates it. -/
theorem royaltyAccount_wp {code name : String} {type : AccountType} (ht : Typed code type) {P : UuidText → Royalty.World → Prop}
    (hok : ∀ id s', Extends s.ledger s'.ledger → HasCode s'.ledger organizationId code id → P (.stored id) s') :
    (Royalty.ensureAccount organizationId code name type).wp RoyaltyRuns (royaltyContract d₀) (Prog.Returning P) s := by
  refine (Prog.wp_bind _ _ _).2 (royaltyAsk_wp (q := .listAccounts organizationId) trivial (fun r s₁ _ hd₁ hlisted => ?_))
  cases r with
  | error e => trivial
  | ok existing =>
    dsimp only
    split
    · rename_i found hfound
      exact hok found.id s₁ hd₁ (hlisted.listed hfound)
    · refine (Prog.wp_bind _ _ _).2 (royaltyAsk_wp (q := .createAccount organizationId code name type "USD") ht
        (fun r s₂ hkept hd₂ hcreated => ?_))
      cases r with
      | error e => trivial
      | ok row => exact hok row.id s₂ (hd₁.trans hd₂) (hcreated.created hkept)

/-- The accounts of the credits of payouts. -/
theorem royaltyPayables_wp (eventId suffix : String) (payouts : List Royalty.Payout)
    {P : List PostJournalEntryRequest → Royalty.World → Prop}
    (hok : ∀ entries s', Extends s.ledger s'.ledger → (∀ u ∈ payableUses organizationId payouts entries, u.Coded s'.ledger) →
      P entries s') :
    (Royalty.payableEntries organizationId eventId suffix payouts).wp RoyaltyRuns (royaltyContract d₀) (Prog.Returning P) s := by
  induction payouts generalizing s P with
  | nil => exact hok [] s (.refl _) nofun
  | cons payout payouts ih =>
    refine Prog.wp_then (royaltyAccount_wp (fun _ => rfl) (fun id s₁ hd₁ hcode => ?_)) (fun account s₁ h => h)
    refine Prog.wp_then (ih (fun entries s₂ hd₂ hcoded => ?_)) (fun entries s₂ h => h)
    refine hok _ s₂ (hd₁.trans hd₂) (fun u hu => ?_)
    rcases List.mem_cons.1 hu with rfl | hu
    · exact ⟨id, rfl, hcode.extends hd₂⟩
    · exact hcoded u hu

/-- The transaction itself, whatever its answer. -/
theorem royaltyPost_wp (req : PostTransactionRequest) {P : Unit → Royalty.World → Prop}
    (hok : ∀ s', Extends s.ledger s'.ledger → P () s') :
    (Prog.tryCatch (do let _ ← Royalty.postTransaction req; pure ()) (fun _ => pure ()) : Royalty.Program Unit).wp RoyaltyRuns
      (royaltyContract d₀) (Prog.Returning P) s := by
  rw [Prog.wp_tryCatch]
  refine (Prog.wp_bind _ _ _).2 ?_
  refine (Prog.wp_bind _ _ _).2 (royaltyAsk_wp (q := .postTransaction req) trivial (fun r s₁ _ hd₁ _ => ?_))
  cases r with
  | error e => exact hok s₁ hd₁
  | ok transaction => exact hok s₁ hd₁

/-- The accounts a royalty posting is about to use have the codes of their roles. -/
theorem resolve_posting_wp (p : RoyaltyPosting) :
    p.resolve.wp RoyaltyRuns (royaltyContract d₀) (Prog.Returning (fun asked s' => ∀ u ∈ asked.1, u.Coded s'.ledger)) s := by
  cases p with
  | allow organizationId eventId idempotencyKey gross payouts =>
    refine Prog.wp_then (royaltyAccount_wp Role.expense.typed (fun expense s₁ _ hexpense => ?_)) (fun _ _ h => h)
    refine Prog.wp_then (royaltyPayables_wp eventId "" payouts (fun payable s₂ hd₂ hpayable => ?_)) (fun _ _ h => h)
    exact List.forall_mem_cons.2 ⟨⟨expense, rfl, hexpense.extends hd₂⟩, hpayable⟩
  | hold organizationId eventId idempotencyKey gross =>
    refine Prog.wp_then (royaltyAccount_wp Role.expense.typed (fun expense s₁ _ hexpense => ?_)) (fun _ _ h => h)
    refine Prog.wp_then (royaltyAccount_wp Role.held.typed (fun held s₂ hd₂ hheld => ?_)) (fun _ _ h => h)
    exact List.forall_mem_cons.2 ⟨⟨expense, rfl, hexpense.extends hd₂⟩, List.forall_mem_singleton.2 ⟨held, rfl, hheld⟩⟩
  | release organizationId eventId idempotencyKey gross payouts =>
    refine Prog.wp_then (royaltyAccount_wp Role.held.typed (fun held s₁ _ hheld => ?_)) (fun _ _ h => h)
    refine Prog.wp_then (royaltyPayables_wp eventId " (released)" payouts (fun payable s₂ hd₂ hpayable => ?_)) (fun _ _ h => h)
    exact List.forall_mem_cons.2 ⟨⟨held, rfl, hheld.extends hd₂⟩, hpayable⟩

/-- The accounts a royalty posting used have the codes of their roles. -/
theorem royaltyPosting_wp (p : RoyaltyPosting) :
    p.program.wp RoyaltyRuns (royaltyContract d₀) (Prog.Returning (fun uses s' => ∀ u ∈ uses, u.Coded s'.ledger)) s := by
  refine Prog.wp_then (resolve_posting_wp p) (fun asked s₁ hcoded => ?_)
  exact Prog.wp_then (royaltyPost_wp asked.2 (fun s₂ hd₂ u hu => (hcoded u hu).extends hd₂)) (fun _ _ h => h)

/-- What a royalty posting keeps and uses. -/
theorem royaltyPosting_run {p : RoyaltyPosting} {ch : Nat → Royalty.Choice} {store : Royalty.Store} {d : Ledger.Tables}
    {r : Except Royalty.RoyaltyError (List Use)} {s' : Royalty.World} (hkept : Kept d)
    (hrun : Royalty.alone p.program ch ⟨store, d⟩ = some (r, s')) :
    Kept s'.ledger ∧ Extends d s'.ledger ∧ ∀ u ∈ r.toOption.getD [], u.Coded s'.ledger := by
  obtain ⟨⟨hkept', hd⟩, hQ⟩ := Prog.wp_run (S := Royalty.signature) (Royalty.exec 0) (C := royaltyContract d)
    (E := RoyaltyRuns) (fun o c s r s' he => ⟨c, he⟩) (fun _ => rfl) p.program (s := ⟨store, d⟩) ⟨hkept, .refl _⟩
    (royaltyPosting_wp p) hrun
  refine ⟨hkept', hd, ?_⟩
  cases r with
  | error e => exact nofun
  | ok uses => exact hQ

end royalty

/-! ## Payment postings -/

section payments

variable {d₀ : Ledger.Tables} {s : Payments.World} {organizationId : String}

/-- A call of the transaction service that runs alone. -/
abbrev PaymentRuns (o : Payments.Action) (s : Payments.World) (r : Except Payments.PaymentError o.Result) (s' : Payments.World) : Prop :=
  ∃ ch, Payments.exec o ch s = some (r, s')

abbrev paymentContract (d₀ : Ledger.Tables) : Contract Payments.World :=
  ⟨fun s => Kept s.ledger ∧ Extends d₀ s.ledger, (· = ·), fun _ _ => True⟩

/-- A request to the ledger as the transaction service sees it. -/
theorem answered_exec {asked : String} {q : Ledger.Request} {ch : Payments.Choice} {r : Except Payments.PaymentError q.Result}
    {s' : Payments.World} (h : Payments.exec (.ledger asked q) ch s = some (r, s')) : Answered q s.ledger s'.ledger r := by
  have hserved : ∀ {p : Except Payments.PaymentError q.Result}, s.perform ch (.ledger asked q) = some (p, s') →
      ∃ a, Ledger.serve ch.ledgerEnv ch.ledgerFails s.ledger q = some (a, s'.ledger) ∧ p = a.mapError (.ledger asked) := by
    intro p hp
    obtain ⟨⟨a, d⟩, ha, he⟩ := Option.map_eq_some_iff.1 hp
    cases he
    exact ⟨a, ha, rfl⟩
  rcases Payments.exec_cases h with h | ⟨rfl, rfl⟩ | ⟨rfl, p, h⟩
  · obtain ⟨a, ha, rfl⟩ := hserved h
    refine Or.inr ⟨_, _, a, ha, fun b hb => ?_⟩
    cases a with
    | ok b' =>
      cases hb
      rfl
    | error e => cases hb
  · exact Or.inl ⟨rfl, _, rfl⟩
  · obtain ⟨a, ha, -⟩ := hserved h
    exact Or.inr ⟨_, _, a, ha, nofun⟩

/-- A request of the transaction service. -/
theorem paymentAsk_wp {asked : String} {q : Ledger.Request} (hq : Proper q)
    {Q : Except Payments.PaymentError q.Result → Payments.World → Prop}
    (h : ∀ r s', Kept s.ledger → Extends s.ledger s'.ledger → Answered q s.ledger s'.ledger r → Q r s') :
    (Payments.step (.ledger asked q)).wp PaymentRuns (paymentContract d₀) Q s := by
  unfold Payments.step
  rw [Prog.wp_perform]
  rintro s₁ rfl ⟨hkept, hextends⟩ r s₂ ⟨ch, he⟩
  have hanswered : Answered q s.ledger s₂.ledger r := answered_exec he
  obtain ⟨hkept', hd⟩ := hkept.answered hq hanswered
  exact ⟨⟨hkept', hextends.trans hd⟩, trivial, h r s₂ hkept hd hanswered⟩

/-- The account of a code, as the transaction service finds or creates it. -/
theorem paymentAccount_wp {existing : List AccountRow} {code name : String} {type : AccountType} (ht : Typed code type)
    (hlisted : ∀ found, existing.find? (fun a => decide (a.code = code)) = some found → HasCode s.ledger organizationId code found.id)
    {P : UuidText → Payments.World → Prop}
    (hok : ∀ id s', Extends s.ledger s'.ledger → HasCode s'.ledger organizationId code id → P (.stored id) s') :
    (Payments.findOrCreate existing organizationId code name type).wp PaymentRuns (paymentContract d₀) (Prog.Returning P) s := by
  unfold Payments.findOrCreate
  split
  · rename_i found hfound
    exact hok found.id s (.refl _) (hlisted found hfound)
  · refine (Prog.wp_bind _ _ _).2 (paymentAsk_wp (q := .createAccount organizationId code name type "USD") ht
      (fun r s₂ hkept hd₂ hcreated => ?_))
    cases r with
    | error e => trivial
    | ok row => exact hok row.id s₂ hd₂ (hcreated.created hkept)

/-- The accounts of payments, where not all of them are configured. -/
theorem resolve_wp {env : Payments.Env} (hnot : ¬ Configured env) {P : Payments.Accounts → Payments.World → Prop}
    (hok : ∀ accounts s', Extends s.ledger s'.ledger → (∀ u ∈ accountUses organizationId accounts, u.Coded s'.ledger) →
      P accounts s') :
    (Payments.resolveLedgerAccounts env organizationId).wp PaymentRuns (paymentContract d₀) (Prog.Returning P) s := by
  unfold Payments.resolveLedgerAccounts
  split
  · rename_i clearing payable fee hconfigured
    exact absurd ⟨clearing, payable, fee, hconfigured⟩ hnot
  · refine (Prog.wp_bind _ _ _).2 (paymentAsk_wp (q := .listAccounts organizationId) trivial (fun r s₁ _ hd₁ hanswered => ?_))
    cases r with
    | error e => trivial
    | ok existing =>
      have hlisted : ∀ {d : Ledger.Tables} {code : String} (found : AccountRow), Extends s₁.ledger d →
          existing.find? (fun a => decide (a.code = code)) = some found → HasCode d organizationId code found.id :=
        fun found hd hfound => (hanswered.listed hfound).extends hd
      refine Prog.wp_then (paymentAccount_wp Role.clearing.typed (fun found hfound => hlisted found (.refl _) hfound)
        (fun clearing s₂ hd₂ hclearing => ?_)) (fun _ _ h => h)
      refine Prog.wp_then (paymentAccount_wp Role.merchantPayable.typed (fun found hfound => hlisted found hd₂ hfound)
        (fun payable s₃ hd₃ hpayable => ?_)) (fun _ _ h => h)
      refine Prog.wp_then (paymentAccount_wp Role.platformFee.typed (fun found hfound => hlisted found (hd₂.trans hd₃) hfound)
        (fun fee s₄ hd₄ hfee => ?_)) (fun _ _ h => h)
      refine hok _ s₄ (((hd₁.trans hd₂).trans hd₃).trans hd₄) ?_
      exact List.forall_mem_cons.2 ⟨⟨clearing, rfl, (hclearing.extends hd₃).extends hd₄⟩,
        List.forall_mem_cons.2 ⟨⟨payable, rfl, hpayable.extends hd₄⟩, List.forall_mem_singleton.2 ⟨fee, rfl, hfee⟩⟩⟩

/-- The accounts a payment's posting used have the codes of their roles. -/
theorem paymentUses_wp (env : Payments.Env) (req : Payments.CreatePaymentRequest) :
    (paymentUses env req).wp PaymentRuns (paymentContract d₀) (Prog.Returning (fun uses s' => ∀ u ∈ uses, u.Coded s'.ledger)) s := by
  have hpost : ∀ {s : Payments.World} (request : PostTransactionRequest) {P : Unit → Payments.World → Prop},
      (∀ s', Extends s.ledger s'.ledger → P () s') →
      (Prog.tryCatch (do let _ ← Payments.postPaymentSucceeded request; pure ()) (fun _ => pure ()) : Payments.Program Unit).wp PaymentRuns
        (paymentContract d₀) (Prog.Returning P) s := by
    intro s request P hok
    rw [Prog.wp_tryCatch]
    refine (Prog.wp_bind _ _ _).2 (paymentAsk_wp (q := .postTransaction request) trivial (fun r s₁ _ hd₁ _ => ?_))
    cases r with
    | error e => exact hok s₁ hd₁
    | ok t => exact hok s₁ hd₁
  unfold paymentUses
  by_cases hconfigured : Configured env
  · obtain ⟨clearing, payable, fee, haccounts⟩ := id hconfigured
    have hresolve : Payments.resolveLedgerAccounts env req.organizationId = pure ⟨clearing, payable, fee⟩ := by
      unfold Payments.resolveLedgerAccounts
      rw [haccounts]
    rw [hresolve, Prog.pure_bind_eq]
    refine Prog.wp_then (hpost _ (fun s₁ _ => ?_)) (fun _ _ h => h)
    rw [if_pos hconfigured]
    exact fun u hu => absurd hu List.not_mem_nil
  · refine Prog.wp_then (resolve_wp hconfigured (fun accounts s₁ _ hcoded => ?_)) (fun _ _ h => h)
    refine Prog.wp_then (hpost _ (fun s₂ hd₂ => ?_)) (fun _ _ h => h)
    rw [if_neg hconfigured]
    exact fun u hu => (hcoded u hu).extends hd₂

/-- What a payment's posting keeps and uses. -/
theorem paymentUses_run {env : Payments.Env} {req : Payments.CreatePaymentRequest} {ch : Nat → Payments.Choice} {db : Payments.Tables}
    {processor : Payments.Processor} {d : Ledger.Tables} {r : Except Payments.PaymentError (List Use)} {s' : Payments.World}
    (hkept : Kept d) (hrun : Payments.alone (paymentUses env req) ch ⟨db, processor, d⟩ = some (r, s')) :
    Kept s'.ledger ∧ Extends d s'.ledger ∧ ∀ u ∈ r.toOption.getD [], u.Coded s'.ledger := by
  obtain ⟨⟨hkept', hd⟩, hQ⟩ := Prog.wp_run (S := Payments.signature) Payments.exec (C := paymentContract d) (E := PaymentRuns)
    (fun o c s r s' he => ⟨c, he⟩) (fun _ => rfl) (paymentUses env req) (s := ⟨db, processor, d⟩) ⟨hkept, .refl _⟩
    (paymentUses_wp env req) hrun
  refine ⟨hkept', hd, ?_⟩
  cases r with
  | error e => exact nofun
  | ok uses => exact hQ

end payments

/-! ## Sequences -/

/-- What every sequence of postings keeps. -/
theorem Posted.kept {uses : List Use} (h : Posted d uses) : Kept d ∧ ∀ u ∈ uses, u.Coded d := by
  have hstep : ∀ {d d' : Ledger.Tables} {uses new : List Use}, (Kept d ∧ ∀ u ∈ uses, u.Coded d) →
      Kept d' ∧ Extends d d' ∧ (∀ u ∈ new, u.Coded d') → Kept d' ∧ ∀ u ∈ uses ++ new, u.Coded d' := by
    rintro d d' uses new ⟨-, huses⟩ ⟨hkept, hd, hnew⟩
    refine ⟨hkept, fun u hu => ?_⟩
    rcases List.mem_append.1 hu with hu | hu
    · exact (huses u hu).extends hd
    · exact hnew u hu
  induction h with
  | start => exact ⟨kept_empty, nofun⟩
  | royalty h p ch store r s' hrun ih =>
    obtain ⟨hkept, hd, hcoded⟩ := royaltyPosting_run ih.1 hrun
    refine hstep ih ⟨hkept, hd, fun u hu => ?_⟩
    split at hu
    · exact hcoded u hu
    · exact absurd hu List.not_mem_nil
  | payment h env req ch db processor r s' hrun ih => exact hstep ih (paymentUses_run ih.1 hrun)

end Payables

end Archisynapse
