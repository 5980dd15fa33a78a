import Archisynapse.Lemmas.RoyaltyHistory

/-!
# Obligations and their journals

What the ledger has for an obligation (`Journaled`): an allowed one is credited to the owners of its splits, a held one to what is
held. A posting is answered with a transaction that was stored under its key before, or is added; while the decision behind a key
stays the same, either is the journal of the request (`postJournal_wp`), and every stored obligation has the journal its status
calls for (`Journals`).
-/

namespace Archisynapse

namespace Royalty

open Payments (column)
open Ledger (Extends entriesOf)

/-! ## Journals -/

/-- A request is sent again: only what the decision says may differ. -/
def Retry (a b : CreateRoyaltyObligationRequest) : Prop :=
  b = { a with decision := b.decision, decisionPolicy := b.decisionPolicy, riskScore := b.riskScore, statusReasons := b.statusReasons }

/-- An organization's account with a code. -/
def HasCode (d : Ledger.Tables) (organizationId code : String) (id : Uuid) : Prop :=
  ∃ a ∈ d.chart, a.id = id ∧ a.organizationId = organizationId ∧ a.code = code

/-- The credits of a transaction. -/
def creditsOf (d : Ledger.Tables) (t : Uuid) : List EntryRow :=
  (entriesOf d.entries t).filter (fun e => decide (e.debitCredit = .credit))

/-- A credit is a share of the money math, to the account of its owner. -/
def Credited (d : Ledger.Tables) (organizationId : String) (share : Payout) (e : EntryRow) : Prop :=
  HasCode d organizationId share.ownerId e.accountId ∧ (e.amount : ℚ) = share.amount * 10000

/-- What the ledger has for a request that is allowed (a payout) or held (an adjustment). -/
def Journaled (d : Ledger.Tables) (req : CreateRoyaltyObligationRequest) (type : TransactionType) (t : Uuid) : Prop :=
  (∃ p ∈ d.posts, p.id = t) ∧
  match type with
  | .payout => ∃ shares, computeRoyalty (req.amount / 10000) req.splits = .ok shares ∧
      List.Forall₂ (Credited d req.organizationId) shares (creditsOf d t)
  | .adjustment => creditsOf d t ≠ [] ∧ ∀ e ∈ creditsOf d t, HasCode d req.organizationId "royalty_held_liab" e.accountId
  | _ => False

theorem HasCode.extends {d d' : Ledger.Tables} {organizationId code : String} {id : Uuid} (h : HasCode d organizationId code id)
    (hd : Extends d d') : HasCode d' organizationId code id := by
  obtain ⟨a, ha, h⟩ := h
  exact ⟨a, hd.chart a ha, h⟩

theorem Journaled.extends {d d' : Ledger.Tables} {req : CreateRoyaltyObligationRequest} {type : TransactionType} {t : Uuid}
    (h : Journaled d req type t) (hd : Extends d d') : Journaled d' req type t := by
  obtain ⟨⟨p, hp, rfl⟩, hjournal⟩ := h
  have hcredits : creditsOf d' p.id = creditsOf d p.id := by
    unfold creditsOf
    rw [hd.entries p hp]
  refine ⟨⟨p, hd.posts p hp, rfl⟩, ?_⟩
  cases type with
  | payout =>
    obtain ⟨shares, hshares, hcredited⟩ := hjournal
    refine ⟨shares, hshares, ?_⟩
    rw [hcredits]
    exact hcredited.imp (fun _ _ h => ⟨h.1.extends hd, h.2⟩)
  | adjustment =>
    obtain ⟨hne, hheld⟩ := hjournal
    refine ⟨by rw [hcredits]; exact hne, fun e he => ?_⟩
    rw [hcredits] at he
    exact (hheld e he).extends hd
  | _ => exact hjournal.elim

/-- The journal of a request is that of a retry. -/
theorem Journaled.retry {d : Ledger.Tables} {a b : CreateRoyaltyObligationRequest} {type : TransactionType} {t : Uuid}
    (h : Retry a b) : Journaled d b type t ↔ Journaled d a type t := by
  rw [h]
  exact Iff.rfl

/-- An entry of a request to the ledger that credits a share. -/
def Credits (d : Ledger.Tables) (organizationId : String) (share : Payout) (e : PostJournalEntryRequest) : Prop :=
  e.debitCredit = .credit ∧ e.amount = .fin share.amount ∧ ∃ id, e.accountId = .stored id ∧ HasCode d organizationId share.ownerId id

/-- A request to the ledger that makes the journal of a request: its first entry is the debit. -/
structure Drafts (d : Ledger.Tables) (req : CreateRoyaltyObligationRequest) (q : PostTransactionRequest) : Prop where
  idempotencyKey : q.idempotencyKey = some req.idempotencyKey
  entries : ∃ debit credits, q.entries = debit :: credits ∧ debit.debitCredit = .debit ∧
    match q.type with
    | .payout => ∃ shares, computeRoyalty (req.amount / 10000) req.splits = .ok shares ∧
        List.Forall₂ (Credits d req.organizationId) shares credits
    | .adjustment => ∃ e id, credits = [e] ∧ e.debitCredit = .credit ∧ e.accountId = .stored id ∧
        HasCode d req.organizationId "royalty_held_liab" id
    | _ => False

theorem Credits.extends {d d' : Ledger.Tables} (hd : Extends d d') {organizationId : String} {share : Payout}
    {e : PostJournalEntryRequest} (h : Credits d organizationId share e) : Credits d' organizationId share e := by
  obtain ⟨h₁, h₂, id, h₃, h₄⟩ := h
  exact ⟨h₁, h₂, id, h₃, h₄.extends hd⟩

theorem Drafts.extends {d d' : Ledger.Tables} (hd : Extends d d') {req : CreateRoyaltyObligationRequest}
    {q : PostTransactionRequest} (h : Drafts d req q) : Drafts d' req q := by
  obtain ⟨hkey, debit, credits, hentries, hdebit, hcredits⟩ := h
  refine ⟨hkey, debit, credits, hentries, hdebit, ?_⟩
  split
  · rename_i ht
    rw [ht] at hcredits
    obtain ⟨shares, hshares, hcredits⟩ := hcredits
    exact ⟨shares, hshares, hcredits.imp (fun _ _ h => h.extends hd)⟩
  · rename_i ht
    rw [ht] at hcredits
    obtain ⟨e, id, h₁, h₂, h₃, h₄⟩ := hcredits
    exact ⟨e, id, h₁, h₂, h₃, h₄.extends hd⟩
  · rename_i h₁ h₂
    cases ht : q.type <;> rw [ht] at hcredits <;> first | exact hcredits.elim | exact (h₁ ht).elim | exact (h₂ ht).elim

/-- The entry of a share. -/
theorem credited_of_entered {d : Ledger.Tables} {sess : Ledger.Session} {t : Uuid} {organizationId : String} {share : Payout}
    {e : PostJournalEntryRequest} {row : EntryRow} (hcents : Cents share.amount) (h : Credits d organizationId share e)
    (hrow : Ledger.Entered sess t e row) : Credited d organizationId share row := by
  obtain ⟨-, hamount, id, hid, hcode⟩ := h
  have haccount := hrow.accountId
  rw [hid] at haccount
  obtain ⟨n, hn⟩ := hcents
  have hnum : Decimal.fin share.amount = .ofNumeric (n * 100) := by
    unfold Decimal.ofNumeric
    rw [hn]
    congr 1
    push_cast
    ring
  have hstored := hrow.amount
  rw [hamount, hnum] at hstored
  refine ⟨Option.some.inj haccount ▸ hcode, ?_⟩
  rw [Decimal.toNumeric_ofNumeric hstored, hn]
  push_cast
  ring

/-- The credits of the shares, entered. -/
theorem credited_of_forall {d : Ledger.Tables} {sess : Ledger.Session} {t : Uuid} {organizationId : String} {shares : List Payout}
    {credits : List PostJournalEntryRequest} {rows : List EntryRow} (hcents : ∀ p ∈ shares, Cents p.amount)
    (h : List.Forall₂ (Credits d organizationId) shares credits) (hrows : List.Forall₂ (Ledger.Entered sess t) credits rows) :
    rows.filter (fun e => decide (e.debitCredit = .credit)) = rows ∧ List.Forall₂ (Credited d organizationId) shares rows := by
  induction h generalizing rows with
  | nil =>
    cases hrows
    exact ⟨rfl, .nil⟩
  | cons hshare _ ih =>
    cases hrows with
    | cons hrow hrest =>
      obtain ⟨h₁, h₂⟩ := ih (fun p hp => hcents p (List.mem_cons_of_mem _ hp)) hrest
      have hcredit := hrow.debitCredit.trans hshare.1
      refine ⟨?_, .cons (credited_of_entered (hcents _ (List.mem_cons_self ..)) hshare hrow) h₂⟩
      rw [List.filter_cons_of_pos (by simp [hcredit]), h₁]

/-- A posting that was added is the journal it was drafted for. -/
theorem Drafts.journaled {d d' : Ledger.Tables} {req : CreateRoyaltyObligationRequest} {q : PostTransactionRequest} {sess : Ledger.Session}
    {row : TransactionRow} {rows : List EntryRow} (h : Drafts d req q) (hb : Ledger.Books d) (hadds : Ledger.Adds d d' row rows)
    (hrows : List.Forall₂ (Ledger.Entered sess row.id) q.entries rows) : Journaled d' req q.type row.id := by
  have hd := hadds.extends
  obtain ⟨-, debit, credits, hentries, hdebit, hcredits⟩ := h
  have hnew : entriesOf d'.entries row.id = rows := hadds.entriesOf_new hb
  refine ⟨⟨Ledger.post row, ?_, rfl⟩, ?_⟩
  · rw [hadds.posts]
    exact List.mem_append_right _ (List.mem_singleton_self _)
  unfold creditsOf
  rw [hnew]
  rw [hentries] at hrows
  cases hrows with
  | @cons _ first _ rest hfirst hrest =>
    have hskip : (first :: rest).filter (fun e => decide (e.debitCredit = .credit)) =
        rest.filter (fun e => decide (e.debitCredit = .credit)) := by
      rw [List.filter_cons_of_neg]
      rw [hfirst.debitCredit, hdebit]
      decide
    rw [hskip]
    cases ht : q.type with
    | payout =>
      rw [ht] at hcredits
      obtain ⟨shares, hshares, hcredits⟩ := hcredits
      obtain ⟨hall, hcredited⟩ := credited_of_forall (computeRoyalty_cents hshares) hcredits hrest
      dsimp only
      rw [hall]
      exact ⟨shares, hshares, hcredited.imp (fun _ _ h => ⟨h.1.extends hd, h.2⟩)⟩
    | adjustment =>
      rw [ht] at hcredits
      obtain ⟨e, id, rfl, hcredit, hid, hcode⟩ := hcredits
      cases hrest with
      | @cons _ second _ rest hsecond hnil =>
        cases hnil
        have haccount := hsecond.accountId
        rw [hid] at haccount
        have hone : [second].filter (fun e => decide (e.debitCredit = .credit)) = [second] := by
          rw [List.filter_cons_of_pos]
          · rfl
          · rw [hsecond.debitCredit, hcredit]
            decide
        dsimp only
        rw [hone]
        refine ⟨by simp, fun e' he' => ?_⟩
        obtain rfl := List.mem_singleton.1 he'
        exact Option.some.inj haccount ▸ hcode.extends hd
    | _ =>
      rw [ht] at hcredits
      exact hcredits.elim

/-! ## States -/

/-- What the ledger has for a stored obligation, by its status; `req` is what it was made for. -/
structure JournalOf (d : Ledger.Tables) (req : CreateRoyaltyObligationRequest) (o : ObligationRow) : Prop where
  organizationId : o.organizationId = req.organizationId
  amount : o.amount = req.amount
  splits : o.splits = req.splits
  journal : match o.status with
    | .posted => ∃ t, o.ledgerTransactionId = some t ∧ Journaled d req .payout t
    | .held => ∃ t, o.ledgerTransactionId = some t ∧ Journaled d req .adjustment t
    | .blocked => o.ledgerTransactionId = none ∧ ∀ p ∈ d.posts, p.idempotencyKey ≠ some o.idempotencyKey
    | _ => False

/-- What holds in every state, when the requests under a key are retries of `events key`: every stored response is the journal of
its key's request, and every obligation has the journal its status calls for. -/
structure Journals (events : String → CreateRoyaltyObligationRequest) (s : World) : Prop where
  books : Ledger.Books s.ledger
  balances : Ledger.Balances s.ledger
  codes : ∀ a ∈ s.ledger.chart, a.code.length ≤ 20
  responses : ∀ r ∈ s.ledger.responses, varchar 255 r.idempotencyKey = some r.idempotencyKey ∧
    Journaled s.ledger (events r.idempotencyKey) r.response.type r.response.id
  obligations : ∀ o ∈ s.db.obligations, JournalOf s.ledger (events o.idempotencyKey) o

/-- When a posting is asked for, every posting stored under its key is of its kind, and no obligation with the key is BLOCKED. -/
def SameDecision (q : PostTransactionRequest) (s : World) : Prop :=
  ∀ key, q.idempotencyKey.bind (varchar 255) = some key →
    (∀ r ∈ s.ledger.responses, r.idempotencyKey = key → r.response.type = q.type) ∧
    ∀ o ∈ s.db.obligations, o.status = .blocked → o.idempotencyKey ≠ key

/-- The ledger has no posting under a request's key. -/
def Unposted (req : CreateRoyaltyObligationRequest) (s : World) : Prop :=
  ∀ key, varchar 255 req.idempotencyKey = some key → ∀ p ∈ s.ledger.posts, p.idempotencyKey ≠ some key

/-- Runs of `createObligation`, each request a retry of its key's, in which the decision stays what it was when the ledger was first
asked: a posting finds only postings of its kind under its key, and a BLOCKED obligation is inserted while there are none. -/
def steadfast (events : String → CreateRoyaltyObligationRequest) : machine.traced.Cond where
  start _ c :=
    match c with
    | .createObligation _ req => ∀ key, varchar 255 req.idempotencyKey = some key → Retry (events key) req
    | _ => False
  step _ o s :=
    match o with
    | .ledger _ (.postTransaction q) => SameDecision q s.1
    | .sql (.commit (.insertObligation _ req .blocked _ :: _)) => Unposted req s.1
    | _ => True

variable {events : String → CreateRoyaltyObligationRequest}

theorem journals_empty : Journals events .empty where
  books := Ledger.books_empty
  balances a ha := by cases ha
  codes a ha := by cases ha
  responses r hr := by cases hr
  obligations o ho := by cases ho

/-- An obligation's journal stays what it is while the ledger gains nothing under its key. -/
theorem JournalOf.extends {d d' : Ledger.Tables} {req : CreateRoyaltyObligationRequest} {o : ObligationRow} (h : JournalOf d req o)
    (hd : Extends d d') (hposts : o.status = .blocked → ∀ p ∈ d'.posts, p ∈ d.posts ∨ p.idempotencyKey ≠ some o.idempotencyKey) :
    JournalOf d' req o := by
  refine ⟨h.organizationId, h.amount, h.splits, ?_⟩
  have hjournal := h.journal
  cases hst : o.status with
  | posted =>
    rw [hst] at hjournal
    obtain ⟨t, ht, hj⟩ := hjournal
    exact ⟨t, ht, hj.extends hd⟩
  | held =>
    rw [hst] at hjournal
    obtain ⟨t, ht, hj⟩ := hjournal
    exact ⟨t, ht, hj.extends hd⟩
  | blocked =>
    rw [hst] at hjournal
    refine ⟨hjournal.1, fun p hp => ?_⟩
    rcases hposts hst p hp with hp | hne
    · exact hjournal.2 p hp
    · exact hne
  | pending =>
    rw [hst] at hjournal
    exact hjournal
  | reversed =>
    rw [hst] at hjournal
    exact hjournal

/-- A request to the ledger keeps the journals when what it adds to the responses and the transactions is in order. -/
theorem Journals.served {s s' : World} (h : Journals events s) {env : Ledger.Env} {fails : Nat → Bool} {q : Ledger.Request}
    {a : Except Ledger.Refusal q.Result} (hserve : Ledger.serve env fails s.ledger q = some (a, s'.ledger))
    (hstore : s'.store = s.store)
    (hresponses : ∀ r ∈ s'.ledger.responses, r ∈ s.ledger.responses ∨ (varchar 255 r.idempotencyKey = some r.idempotencyKey ∧
      Journaled s'.ledger (events r.idempotencyKey) r.response.type r.response.id))
    (hposts : ∀ p ∈ s'.ledger.posts, p ∈ s.ledger.posts ∨
      ∀ o ∈ s.db.obligations, o.status = .blocked → p.idempotencyKey ≠ some o.idempotencyKey) : Journals events s' := by
  have hd := Ledger.serve_extends h.books h.balances hserve
  obtain ⟨hbooks, hbalances⟩ := Ledger.serve_books h.books h.balances hserve
  refine ⟨hbooks, hbalances, fun a ha => ?_, fun r hr => ?_, fun o ho => ?_⟩
  · rcases Ledger.serve_codes h.books h.balances hserve a ha with ha | ha
    · exact h.codes a ha
    · exact ha
  · rcases hresponses r hr with hr | hr
    · obtain ⟨hkey, hj⟩ := h.responses r hr
      exact ⟨hkey, hj.extends hd⟩
    · exact hr
  · rw [show s'.db = s.db from congrArg Store.tables hstore] at ho
    refine (h.obligations o ho).extends hd (fun hst p hp => ?_)
    rcases hposts p hp with hp | hne
    · exact Or.inl hp
    · exact Or.inr (hne o ho hst)

/-- A statement that leaves the tables keeps the journals. -/
theorem Journals.of_eq {s s' : World} (h : Journals events s) (hledger : s'.ledger = s.ledger) (hdb : s'.db = s.db) :
    Journals events s' := by
  refine ⟨?_, ?_, ?_, ?_, ?_⟩ <;> simp only [hledger, hdb]
  · exact h.books
  · exact h.balances
  · exact h.codes
  · exact h.responses
  · exact h.obligations

/-! ## Runs -/

/-- The outline of runs of `createObligation`. -/
def journalOutline (events : String → CreateRoyaltyObligationRequest) : Machine.Outline machine.traced where
  inv s := Journals events s.1
  rely _ _ s s' := Extends s.1.ledger s'.1.ledger
  guar _ _ s s' := Extends s.1.ledger s'.1.ledger
  compat _ _ _ _ := True

section

variable {w : Nat} {c : Call} {s : Trace} {α β : Type}

/-- The calls of a worker under the condition. -/
abbrev Acts (events : String → CreateRoyaltyObligationRequest) (w : Nat) := machine.traced.Does (steadfast events) w

/-- The contract of a call. -/
abbrev journalContract (events : String → CreateRoyaltyObligationRequest) (w : Nat) (c : Call) :=
  (journalOutline events).contract w c

/-- One call. -/
theorem act_wp {o : Action} {Q : Except RoyaltyError o.Result → Trace → Prop}
    (h : ∀ s₁ : Trace, Extends s.1.ledger s₁.1.ledger → Journals events s₁.1 → (steadfast events).step w o s₁ →
      ∀ ch r x, exec w o ch s₁.1 = some (r, x) →
        Journals events x ∧ Extends s₁.1.ledger x.ledger ∧ ∀ log, Q r (x, log)) :
    (step o).wp (Acts events w) (journalContract events w c) Q s := by
  unfold step
  rw [Prog.wp_perform]
  rintro s₁ hrely hinv r s₂ ⟨hC, ch, he⟩
  obtain ⟨he', hs₂⟩ := traced_exec he
  obtain ⟨hinv', hguar, hQ⟩ := h s₁ hrely hinv hC ch r s₂.1 he'
  refine ⟨hinv', hguar, ?_⟩
  rw [hs₂]
  exact hQ _

/-- A request to the ledger that posts nothing. -/
def Ledger.Request.Asks : Ledger.Request → Prop
  | .listAccounts _ => True
  | .createAccount _ _ _ _ _ => True
  | _ => False

/-- What a request that posts nothing keeps. -/
theorem Journals.asks {x x' : World} {asked : String} {q : Ledger.Request} (hq : Ledger.Request.Asks q) {ch : Choice}
    {r : Except RoyaltyError q.Result} (h : Journals events x) (he : exec w (.ledger asked q) ch x = some (r, x')) :
    Journals events x' ∧ Extends x.ledger x'.ledger := by
  rcases exec_ledger he with ⟨rfl, -⟩ | ⟨hstore, a, hserve, -⟩
  · exact ⟨h, .refl _⟩
  · refine ⟨h.served hserve hstore (fun r hr => Or.inl ?_) (fun p hp => Or.inl ?_), Ledger.serve_extends h.books h.balances hserve⟩
    · rw [Ledger.serve_responses h.books h.balances (by rintro req rfl; exact hq) hserve] at hr
      exact hr
    · cases q with
      | listAccounts organizationId =>
        rw [(Ledger.serve_listAccounts hserve).1] at hp
        exact hp
      | createAccount organizationId code name type currency =>
        obtain ⟨rows, hd, -⟩ := Ledger.serve_createAccount h.books h.balances hserve
        rw [hd] at hp
        exact hp
      | postTransaction req => exact hq.elim
      | reverse organizationId t reason => exact hq.elim

/-- An account that is listed is in the chart. -/
theorem hasCode_of_mem {d : Ledger.Tables} {a : AccountRow} (ha : a ∈ d.accounts) : HasCode d a.organizationId a.code a.id :=
  ⟨{ a with balance := 0 }, List.mem_map.2 ⟨a, ha, rfl⟩, rfl, rfl, rfl⟩

/-- The account of a code. -/
theorem ensureAccount_wp {organizationId code name : String} {type : AccountType} {Q : Except RoyaltyError UuidText → Trace → Prop}
    (hok : ∀ id s', Extends s.1.ledger s'.1.ledger → HasCode s'.1.ledger organizationId code id → Q (.ok (.stored id)) s')
    (herror : ∀ e s', Extends s.1.ledger s'.1.ledger → Q (.error e) s') :
    (ensureAccount organizationId code name type).wp (Acts events w) (journalContract events w c) Q s := by
  refine (Prog.wp_bind _ _ _).2 (act_wp (fun s₁ hd₁ hj₁ _ ch r x he => ?_))
  obtain ⟨hj, hd⟩ := hj₁.asks (q := .listAccounts organizationId) trivial he
  refine ⟨hj, hd, fun log => ?_⟩
  cases r with
  | error e => exact herror e _ (hd₁.trans hd)
  | ok existing =>
    have hlisted : ∀ a ∈ existing, a ∈ x.ledger.accounts ∧ a.organizationId = organizationId := by
      rcases exec_ledger he with ⟨-, e, he'⟩ | ⟨-, a, hserve, ha⟩
      · cases he'
      · obtain ⟨hsame, hmem⟩ := Ledger.serve_listAccounts hserve
        rw [hsame]
        exact hmem existing (ha existing rfl)
    dsimp only
    split
    · rename_i found hfound
      obtain ⟨hmem, horg⟩ := hlisted found (List.mem_of_find?_eq_some hfound)
      have hcode : found.code = code := by simpa using List.find?_some hfound
      have hhas := hasCode_of_mem hmem
      rw [horg, hcode] at hhas
      exact hok found.id _ (hd₁.trans hd) hhas
    · refine (Prog.wp_bind _ _ _).2 (act_wp (fun s₂ hd₂ hj₂ _ ch r x' he' => ?_))
      obtain ⟨hj', hd'⟩ := hj₂.asks (q := .createAccount organizationId code name type "USD") trivial he'
      have hd₃ := (hd₁.trans hd).trans (hd₂.trans hd')
      refine ⟨hj', hd', fun log => ?_⟩
      cases r with
      | error e => exact herror e _ hd₃
      | ok created =>
        refine hok created.id _ hd₃ ?_
        rcases exec_ledger he' with ⟨-, e, hr⟩ | ⟨-, a, hserve, ha⟩
        · cases hr
        · obtain ⟨rows, hsame, hrows, hcreated⟩ := Ledger.serve_createAccount hj₂.books hj₂.balances hserve
          have hmem := hcreated created (ha created rfl)
          obtain ⟨horg, hcode, -⟩ := hrows created hmem
          have hstored : created ∈ x'.ledger.accounts := by
            rw [hsame]
            exact List.mem_append_right _ hmem
          have hhas := hasCode_of_mem hstored
          rw [horg, hcode] at hhas
          exact hhas

/-- The credits of the shares. -/
theorem payableEntries_wp {organizationId eventId suffix : String} (payouts : List Payout) {s : Trace}
    {Q : Except RoyaltyError (List PostJournalEntryRequest) → Trace → Prop}
    (hok : ∀ entries s', Extends s.1.ledger s'.1.ledger → List.Forall₂ (Credits s'.1.ledger organizationId) payouts entries →
      Q (.ok entries) s')
    (herror : ∀ e s', Extends s.1.ledger s'.1.ledger → Q (.error e) s') :
    (payableEntries organizationId eventId suffix payouts).wp (Acts events w) (journalContract events w c) Q s := by
  induction payouts generalizing s Q with
  | nil => exact hok [] s (.refl _) .nil
  | cons payout payouts ih =>
    refine (Prog.wp_bind _ _ _).2 (ensureAccount_wp (fun id s₁ hd₁ hcode => ?_) herror)
    refine (Prog.wp_bind _ _ _).2 (ih (fun entries s₂ hd₂ hcredits => ?_) (fun e s₂ hd₂ => herror e s₂ (hd₁.trans hd₂)))
    exact hok _ s₂ (hd₁.trans hd₂) (.cons ⟨rfl, rfl, id, rfl, hcode.extends hd₂⟩ hcredits)

/-- A stored response that answers a posting. -/
theorem mem_of_liveResponse {d : Ledger.Tables} {sess : Ledger.Session} {key : String} {t : Transaction}
    (h : d.liveResponse sess key = some t) : ∃ r ∈ d.responses, r.idempotencyKey = key ∧ r.response = t := by
  obtain ⟨r, hr, rfl⟩ := Option.map_eq_some_iff.1 h
  have hfound := List.find?_some hr
  simp only [Bool.and_eq_true, decide_eq_true_eq] at hfound
  exact ⟨r, List.mem_of_find?_eq_some hr, hfound.1.1, rfl⟩

/-- A key that counts as true is the key. -/
theorem truthy_some {text key : String} (h : truthy (some text) = some key) : key = text := by
  unfold truthy at h
  split at h
  · cases h
  · exact (Option.some.inj h).symm

/-- Every request under a key is a retry. -/
def Retries (events : String → CreateRoyaltyObligationRequest) (req : CreateRoyaltyObligationRequest) : Prop :=
  ∀ key, varchar 255 req.idempotencyKey = some key → Retry (events key) req

variable {req : CreateRoyaltyObligationRequest} {x x' : World} {ch : Choice}

/-- A posting whose key was posted before is answered with its journal. -/
theorem Journals.replayed {q : PostTransactionRequest} {sess : Ledger.Session} {t : Transaction} (h : Journals events x)
    (hdraft : Drafts x.ledger req q) (hretry : Retries events req) (hC : SameDecision q x)
    (hreplays : Ledger.Replays x.ledger sess q t) : Journaled x.ledger req q.type t.id := by
  obtain ⟨key, hkey, hlive⟩ := hreplays
  obtain ⟨r, hr, hrkey, rfl⟩ := mem_of_liveResponse hlive
  obtain ⟨hfits, hj⟩ := h.responses r hr
  rw [hdraft.idempotencyKey] at hkey
  obtain rfl := truthy_some hkey
  rw [hrkey] at hfits hj
  have htype := (hC _ (by rw [hdraft.idempotencyKey]; exact hfits)).1 r hr hrkey
  rw [htype] at hj
  exact (Journaled.retry (hretry _ hfits)).2 hj

/-- A posting that is added keeps the journals and is the journal of its request. -/
theorem Journals.added {q : PostTransactionRequest} {env : Ledger.Env} {fails : Nat → Bool} {a : Except Ledger.Refusal Transaction}
    {t : Transaction} {row : TransactionRow} {rows : List EntryRow} {responses : List ResponseRow} (h : Journals events x)
    (hdraft : Drafts x.ledger req q) (hretry : Retries events req) (hC : SameDecision q x) (hstore : x'.store = x.store)
    (hserve : Ledger.serve env fails x.ledger (.postTransaction q) = some (a, x'.ledger))
    (hadds : Ledger.Adds x.ledger x'.ledger row rows) (hstored : x'.ledger.responses = responses.foldl Ledger.storeResponse x.ledger.responses)
    (hposts : Ledger.Posts env (env.session q.organizationId) q x.ledger t row rows responses) :
    Journals events x' ∧ Journaled x'.ledger req q.type t.id := by
  have hj : Journaled x'.ledger req q.type row.id := hdraft.journaled h.books hadds hposts.entries
  have hid : t.id = row.id := by
    rw [hposts.result, hposts.rowed.id]
    rfl
  have htype : t.type = q.type := by
    rw [hposts.result]
    rfl
  -- the key that the row was stored with is the column's form of the request's key
  have hkey : ∀ key, row.idempotencyKey = some key → varchar 255 req.idempotencyKey = some key := by
    intro key hrow
    have hstored := hposts.rowed.key
    rw [hdraft.idempotencyKey, hrow] at hstored
    cases htr : truthy (some req.idempotencyKey) with
    | none =>
      rw [htr] at hstored
      cases hstored
    | some text =>
      rw [htr] at hstored
      obtain rfl := truthy_some htr
      obtain ⟨stored, hvar, hsome⟩ := Option.map_eq_some_iff.1 hstored
      cases hsome
      exact hvar
  refine ⟨h.served hserve hstore (fun r hr => ?_) (fun p hp => ?_), hid ▸ hj⟩
  · rcases hposts.mem_responses hstored hr with hr | ⟨hres, hrow⟩
    · exact Or.inl hr
    · have hfits := hkey _ hrow
      refine Or.inr ⟨varchar_idem hfits, ?_⟩
      rw [hres, htype, hid]
      exact (Journaled.retry (hretry _ hfits)).1 hj
  · rw [hadds.posts] at hp
    rcases List.mem_append.1 hp with hp | hp
    · exact Or.inl hp
    · obtain rfl := List.mem_singleton.1 hp
      refine Or.inr (fun o ho hst hrow => ?_)
      have hfits := hkey _ hrow
      exact (hC _ (by rw [hdraft.idempotencyKey]; exact hfits)).2 o ho hst rfl

/-- A posting: it keeps the journals, and what it is answered with is the journal of its request. -/
theorem Journals.posting {asked : String} {q : PostTransactionRequest} {r : Except RoyaltyError Transaction} (h : Journals events x)
    (hdraft : Drafts x.ledger req q) (hretry : Retries events req) (hC : SameDecision q x)
    (he : exec w (.ledger asked (.postTransaction q)) ch x = some (r, x')) :
    Journals events x' ∧ Extends x.ledger x'.ledger ∧ ∀ t, r = .ok t → Journaled x'.ledger req q.type t.id := by
  rcases exec_ledger he with ⟨rfl, e, rfl⟩ | ⟨hstore, a, hserve, ha⟩
  · exact ⟨h, .refl _, nofun⟩
  · have hd := Ledger.serve_extends h.books h.balances hserve
    have hdb : x'.db = x.db := congrArg Store.tables hstore
    rcases Ledger.serve_post h.books h.balances hserve with
      ⟨⟨e, rfl⟩, hsame⟩ | ⟨t, rfl, hsame, hreplays⟩ | ⟨t, row, rows, responses, rfl, hadds, hstored, hposts⟩
    · exact ⟨h.of_eq hsame hdb, hd, fun t ht => by cases ha t ht⟩
    · refine ⟨h.of_eq hsame hdb, hd, fun t' ht' => ?_⟩
      cases ha t' ht'
      rw [hsame]
      exact h.replayed hdraft hretry hC hreplays
    · obtain ⟨hj, hjournal⟩ := h.added hdraft hretry hC hstore hserve hadds hstored hposts
      refine ⟨hj, hd, fun t' ht' => ?_⟩
      cases ha t' ht'
      exact hjournal

/-- A posting and the id it is answered with. -/
theorem postJournal_wp {q : PostTransactionRequest} (hretry : Retries events req)
    (hdraft : ∀ d, Extends s.1.ledger d → Drafts d req q) {Q : Except RoyaltyError Uuid → Trace → Prop}
    (hok : ∀ id s', Journaled s'.1.ledger req q.type id → Q (.ok id) s') (herror : ∀ e s', Q (.error e) s') :
    (postTransaction q).wp (Acts events w) (journalContract events w c) Q s := by
  refine (Prog.wp_bind _ _ _).2 (act_wp (fun s₁ hd hj hC ch r x he => ?_))
  obtain ⟨hj', hd', hjournal⟩ := hj.posting (hdraft _ hd) hretry hC he
  refine ⟨hj', hd', fun log => ?_⟩
  cases r with
  | error e => exact herror e _
  | ok t => exact hok t.id _ (hjournal t rfl)

/-- What `carryOut` leaves to be written, and what the ledger has for it. -/
def CarriedOut (d : Ledger.Tables) (req : CreateRoyaltyObligationRequest) (status : RoyaltyStatus) (t : Option Uuid) : Prop :=
  match status with
  | .posted => ∃ id, t = some id ∧ Journaled d req .payout id
  | .held => ∃ id, t = some id ∧ Journaled d req .adjustment id
  | .blocked => t = none
  | _ => False

theorem CarriedOut.extends {d d' : Ledger.Tables} {status : RoyaltyStatus} {t : Option Uuid} (h : CarriedOut d req status t)
    (hd : Extends d d') : CarriedOut d' req status t := by
  cases status with
  | posted =>
    obtain ⟨id, ht, hj⟩ := h
    exact ⟨id, ht, hj.extends hd⟩
  | held =>
    obtain ⟨id, ht, hj⟩ := h
    exact ⟨id, ht, hj.extends hd⟩
  | _ => exact h

theorem carriedOut_wp (hretry : Retries events req) {Q : Except RoyaltyError (RoyaltyStatus × Option Uuid × List Payout) → Trace → Prop}
    (hok : ∀ status t payouts s', CarriedOut s'.1.ledger req status t → Q (.ok (status, t, payouts)) s')
    (herror : ∀ e s', Q (.error e) s') : (carryOut req).wp (Acts events w) (journalContract events w c) Q s := by
  unfold carryOut
  split
  · exact hok .blocked none [] s rfl
  · refine (Prog.wp_bind _ _ _).2 ((Prog.wp_bind _ _ _).2 (ensureAccount_wp (fun expense s₁ _ _ => ?_) (fun e s' _ => herror e s')))
    refine (Prog.wp_bind _ _ _).2 (ensureAccount_wp (fun held s₂ _ hheld => ?_) (fun e s' _ => herror e s'))
    refine postJournal_wp hretry (fun d hd => ?_) (fun id s₃ hj => hok .held (some id) [] s₃ ⟨id, rfl, hj⟩) herror
    exact ⟨rfl, _, _, rfl, rfl, _, held, rfl, rfl, rfl, hheld.extends hd⟩
  · refine (Prog.wp_bind _ _ _).2 ?_
    unfold compute
    split
    · rename_i payouts hpayouts
      refine (Prog.wp_bind _ _ _).2 ((Prog.wp_bind _ _ _).2 (ensureAccount_wp (fun expense s₁ _ _ => ?_) (fun e s' _ => herror e s')))
      refine (Prog.wp_bind _ _ _).2 (payableEntries_wp payouts (fun entries s₂ _ hcredits => ?_) (fun e s' _ => herror e s'))
      refine postJournal_wp hretry (fun d hd => ?_) (fun id s₃ hj => hok .posted (some id) payouts s₃ ⟨id, rfl, hj⟩) herror
      exact ⟨rfl, _, _, rfl, rfl, payouts, hpayouts, hcredits.imp (fun _ _ h => h.extends hd)⟩
    · exact herror _ s

/-- A new obligation has the journal its status calls for. -/
theorem Journals.insert {uuid : Nat → Uuid} {id : Uuid} {status : RoyaltyStatus} {t : Option Uuid} {payouts : List Payout}
    {r : Except RoyaltyError Unit} (h : Journals events x) (hretry : Retries events req)
    (hcarried : CarriedOut x.ledger req status t) (hC : status = .blocked → Unposted req x)
    (he : exec w (.sql (.commit (.insertObligation id req status t :: insertPayouts uuid id 1 payouts))) ch x = some (r, x')) :
    Journals events x' ∧ Extends x.ledger x'.ledger := by
  rcases exec_commit he with ⟨tables, hws, rfl, -⟩ | ⟨-, rfl⟩
  · obtain ⟨row, rows, rfl, hmade, -⟩ := writes_create hws
    refine ⟨⟨h.books, h.balances, h.codes, h.responses, fun o ho => ?_⟩, .refl _⟩
    rcases List.mem_append.1 ho with ho | ho
    · exact h.obligations o ho
    · obtain rfl := List.mem_singleton.1 ho
      have hkey : varchar 255 req.idempotencyKey = some o.idempotencyKey := by
        have hcolumn := hmade.idempotencyKey
        unfold Payments.column at hcolumn
        split at hcolumn
        · rename_i stored hstored
          cases hcolumn
          exact hstored
        · cases hcolumn
      have hre := hretry _ hkey
      have hreq : JournalOf x.ledger req o := by
        refine ⟨hmade.organizationId, hmade.amount, hmade.splits, ?_⟩
        rw [hmade.status, hmade.ledgerTransactionId]
        cases hst : status with
        | posted =>
          rw [hst] at hcarried
          exact hcarried
        | held =>
          rw [hst] at hcarried
          exact hcarried
        | blocked =>
          rw [hst] at hcarried
          exact ⟨hcarried, fun p hp => hC hst _ hkey p hp⟩
        | pending =>
          rw [hst] at hcarried
          exact hcarried
        | reversed =>
          rw [hst] at hcarried
          exact hcarried
      rw [hre] at hreq
      exact ⟨hreq.organizationId, hreq.amount, hreq.splits, hreq.journal⟩
  · exact ⟨h, .refl _⟩

/-- The statements that write nothing, as calls. -/
def Action.IsRead : Action → Prop
  | .sql o => o.Reads
  | _ => False

/-- A program of reads keeps the journals. -/
theorem reading_wp {p : Program α} (hp : p.Calls Action.IsRead) {Q : Except RoyaltyError α → Trace → Prop} (hQ : ∀ r s', Q r s') :
    p.wp (Acts events w) (journalContract events w c) Q s := by
  refine Prog.wp_mono (fun r s' _ => hQ r s') p
    (Prog.Calls.wp_moves (R := fun _ _ => True) (fun _ _ _ _ _ => trivial) ?_ hp (t := s) trivial)
  rintro o s₁ r s₂ ho hinv ⟨-, ch, he⟩
  obtain ⟨he', -⟩ := traced_exec he
  cases o with
  | ledger asked q => exact ho.elim
  | sql q =>
    have hledger := (exec_sql he').1
    refine ⟨Journals.of_eq hinv hledger (reads_db ho he'), ?_, fun _ _ => trivial⟩
    change Extends s₁.1.ledger s₂.1.ledger
    rw [hledger]
    exact .refl _

theorem reads_query {o : Statement} (h : o.Reads) : (query o).Calls Action.IsRead := Prog.calls_perform h

theorem reads_loadObligation (id : Uuid) : (loadObligation id).Calls Action.IsRead := by
  refine Prog.calls_bind (Prog.calls_perform trivial) (fun found => ?_)
  refine Prog.calls_bind (Prog.calls_perform trivial) (fun payouts => ?_)
  cases found with
  | none => exact Prog.calls_throw _
  | some row => exact Prog.calls_pure _

/-- `createObligation` keeps the journals. -/
theorem createJournal_wp {uuid : Nat → Uuid} (hretry : Retries events req) :
    (createObligation uuid req).wp (Acts events w) (journalContract events w c) (fun _ _ => True) s := by
  refine (Prog.wp_bind _ _ _).2 (reading_wp (reads_query (o := .connect) trivial) (fun r s₁ => ?_))
  cases r with
  | error e => exact trivial
  | ok u =>
    refine (Prog.wp_bind _ _ _).2 (reading_wp (reads_query (o := .selectByKey req.idempotencyKey) trivial) (fun r s₂ => ?_))
    cases r with
    | error e => exact trivial
    | ok found =>
      cases found with
      | some row =>
        dsimp only
        split
        · exact trivial
        · exact reading_wp (reads_loadObligation row.id) (fun _ _ => trivial)
      | none =>
        refine (Prog.wp_bind _ _ _).2 (carriedOut_wp hretry (fun status t payouts s₃ hcarried => ?_) (fun _ _ => trivial))
        refine (Prog.wp_bind _ _ _).2 ((Prog.wp_tryCatch _ _ _).2 (act_wp (fun s₄ hd hj hC ch r x he => ?_)))
        obtain ⟨hj', hd'⟩ := hj.insert hretry (hcarried.extends hd) (fun hst => by subst hst; exact hC) he
        refine ⟨hj', hd', fun log => ?_⟩
        cases r with
        | ok u => exact reading_wp (reads_loadObligation (uuid 0)) (fun _ _ => trivial)
        | error e =>
          refine (Prog.wp_bind _ _ _).2 (reading_wp (reads_query (o := .rollback) trivial) (fun r s₅ => ?_))
          cases r with
          | ok u => exact trivial
          | error e' => exact trivial

end

/-- The outline of runs of `createObligation` is sound under the condition. -/
theorem journalOutline_sound (events : String → CreateRoyaltyObligationRequest) : (journalOutline events).Sound (steadfast events) where
  refl _ _ _ := .refl _
  trans _ _ _ _ _ h h' := h.trans h'
  symm _ _ _ _ _ := trivial
  guar _ _ _ _ _ _ _ _ _ h := h
  start cfg c _ hc := by
    refine ⟨fun _ _ => trivial, ?_⟩
    cases c with
    | createObligation uuid req =>
      refine (Prog.wp_bind _ _ _).2 (Prog.wp_mono (fun r s' _ => ?_) _ (createJournal_wp hc))
      cases r with
      | ok a => exact trivial
      | error e => exact trivial
    | _ => exact hc.elim
  crash w s h := ⟨Journals.of_eq h rfl rfl, fun _ _ _ => .refl _⟩

end Royalty

end Archisynapse
