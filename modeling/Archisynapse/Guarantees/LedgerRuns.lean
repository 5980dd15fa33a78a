import Archisynapse.Base.Digits
import Archisynapse.Guarantees.Ledger
import Archisynapse.Lemmas.LedgerAnswers
import Archisynapse.Lemmas.LedgerLocks

/-!
# The ledger under any interleaving

The books are in order in every run, however statements, failures and crashes are interleaved (`books_interleaved`). When every
posting lists its accounts in ascending order, the calls that are open can always be brought to their end
(`ordered_postings_end`); two postings that list them in opposite orders can wait for each other.
-/

namespace Archisynapse

namespace Ledger

/-- In every run from the empty ledger, whatever the calls and however their statements, lock waits, failures and crashes are
interleaved: no two transactions and no two accounts have one id; every transaction's debits equal its credits; every entry is
positive, and on an account of the organization of the transaction it is part of; one that reverses another takes back its effect on
every account; every organization's trial balance adds up to zero; and later no transaction is gone or has other entries. -/
theorem books_interleaved (cfg cfg' : machine.Config) (hrun : machine.Run (.any machine) (.init machine .empty) cfg)
    (hrun' : machine.Run (.any machine) cfg cfg') :
    let d := cfg.state.db
    ((d.transactions.map (·.id)).Nodup ∧ (d.accounts.map (·.id)).Nodup) ∧
      (∀ t ∈ d.transactions, debitSum d.entries t.id = creditSum d.entries t.id) ∧
      (∀ e ∈ d.entries, 0 < e.amount ∧ ∃ t ∈ d.transactions, t.id = e.transactionId ∧
        ∃ a ∈ d.accounts, a.id = e.accountId ∧ a.organizationId = t.organizationId) ∧
      (∀ v ∈ d.transactions, ∀ t, v.reverses = some t → ∀ a, effect d.entries v.id a = -effect d.entries t a) ∧
      (∀ organizationId, ((d.trialBalance organizationId).map (·.balance)).sum = 0) ∧
      ∀ t ∈ d.transactions, (∃ t' ∈ cfg'.state.db.transactions, t'.id = t.id ∧ t'.organizationId = t.organizationId) ∧
        entriesOf cfg'.state.db.entries t.id = entriesOf d.entries t.id := by
  have hs : (outline ⟨false, false, false⟩).Sound (.any machine) := outline_sound rfl (fun h => by cases h) (fun h => by cases h)
  have hb : Books cfg.state.db := (Machine.Outline.run_inv hs (inv_empty _) hrun).books
  have hgrows : Grows cfg.state.db cfg'.state.db := hs.run_moves (R := fun s s' => Grows s.db s'.db) (fun s => .refl s.db)
    (fun _ _ _ h h' => h.trans h') (fun _ _ _ _ _ h => h.grows) (fun _ s _ => .refl s.db) (inv_empty _) hrun hrun'
  have hids := hb.ids
  have haccs := hb.accounts
  simp only [Tables.posts, Tables.chart, List.map_map] at hids haccs
  refine ⟨⟨hids, haccs⟩, ?_, ?_, ?_, trialBalance_sum hb, ?_⟩
  · intro t ht
    exact hb.balanced (post t) (List.mem_map_of_mem ht)
  · intro e he
    obtain ⟨p, hp, hid, ho⟩ := hb.transaction e he
    obtain ⟨t, ht, rfl⟩ := List.mem_map.1 hp
    obtain ⟨a, ha, haid, hao⟩ := hb.account e he
    exact ⟨hb.positive e he, t, ht, hid, a, ha, haid, hao.trans ho.symm⟩
  · intro v hv t ht
    exact (hb.reversal (post v) (List.mem_map_of_mem hv) t ht).2
  · intro t ht
    have hpost : post t ∈ cfg.state.db.posts := List.mem_map_of_mem ht
    obtain ⟨t', ht', heq⟩ := List.mem_map.1 (hgrows.posts _ hpost)
    simp only [post, Post.mk.injEq] at heq
    exact ⟨⟨t', ht', heq.1, heq.2.1⟩, hgrows.entries _ hpost⟩

/-- The theorem at two sales that are open together, the second of which inserts its first entry before the first commits. -/
theorem books_interleaved_sales : ∃ cfg, machine.Run (.any machine) (.init machine .empty) cfg ∧ cfg.state.db.transactions.length = 2 ∧
    (∀ t ∈ cfg.state.db.transactions, debitSum cfg.state.db.entries t.id = creditSum cfg.state.db.entries t.id) ∧
    ∀ organizationId, ((cfg.state.db.trialBalance organizationId).map (·.balance)).sum = 0 := by
  obtain ⟨cfg, hrun, htest⟩ := Machine.Config.replay_any (C := .any machine) (fun cfg e _ => Machine.Cond.allows_any cfg e)
    (overlapEvents 6 5) (.init machine .empty) (fun cfg => decide (cfg.state.db.transactions.length = 2))
    (show ((Machine.Config.init machine .empty).replay (fun _ _ => true) (overlapEvents 6 5)).any _ = true by decide +kernel)
  obtain ⟨-, hbalanced, -, -, htrial, -⟩ := books_interleaved cfg cfg hrun .refl
  exact ⟨cfg, hrun, of_decide_eq_true htest, hbalanced, htrial⟩

/-! ## Answers -/

/-- In every run from the empty ledger, however calls are interleaved, with any failures and crashes: when a posting or a reversal
returns a transaction, that is in the books then and at any later time, with the entries it was returned with. A posting's was
committed by it under its key, with an entry for each of the request, or it was stored under the key before; a reversal's takes back
the effect of a transaction in the books. -/
theorem answers_in_books (cfg cfg' : machine.Config) (x : machine.Worker) (t : Transaction) (s : State)
    (hrun : machine.Run (.any machine) (.init machine .empty) cfg) (h : cfg.Returns x (.transaction t) s)
    (hrun' : machine.Run (.any machine) (cfg.move x.id (.pure (.transaction t)) s) cfg') :
    (∃ key, Booked cfg'.state.db key t) ∧ Answered cfg'.state.db t x.call := by
  obtain ⟨-, hpost⟩ := Machine.Outline.returns answersOutline_sound (fun _ _ _ => trivial) answersOutline_empty hrun h
  have hstep : machine.Step (.any machine) cfg (cfg.move x.id (.pure (.transaction t)) s) := by
    obtain ⟨hx, o, k, ch, r, hk, he, hpure⟩ := h
    rw [← hpure]
    exact .call cfg x o k ch r s hx hk trivial he
  have hgrows : Grows s.db cfg'.state.db := answersOutline_sound.run_moves (R := fun s s' => Grows s.db s'.db) (fun s => .refl s.db)
    (fun _ _ _ h h' => h.trans h') (fun _ _ _ _ _ h => h.grows) (fun _ s _ => .refl s.db) answersOutline_empty (hrun.tail hstep) hrun'
  have hanswered := (hpost t rfl).grows hgrows
  exact ⟨hanswered.booked, hanswered⟩

/-- The transaction that worker 2 returns. -/
def saleAnswered (cfg : machine.Config) : Bool :=
  match cfg.returned 2 false with
  | some (_, .transaction t, _) => decide (t.id = 300 ∧ t.entries.length = 2)
  | _ => false

/-- The theorem at a sale. -/
theorem answers_in_books_sale : ∃ (cfg : machine.Config) (x : machine.Worker) (t : Transaction) (s : State),
    machine.Run (.any machine) (.init machine .empty) cfg ∧ cfg.Returns x (.transaction t) s ∧ t.id = 300 ∧ t.entries.length = 2 ∧
      (∃ key, Booked s.db key t) ∧ Answered s.db t x.call := by
  obtain ⟨cfg, hrun, htest⟩ := Machine.Config.replay_any (C := .any machine) (fun cfg e _ => Machine.Cond.allows_any cfg e)
    (saleEvents 2 ++ .start (sale 3) :: List.replicate 12 (.call 2 false)) (.init machine .empty) saleAnswered
    (show ((Machine.Config.init machine .empty).replay (fun _ _ => true) _).any _ = true by decide +kernel)
  unfold saleAnswered at htest
  split at htest
  · rename_i x t s hreturned
    have hreturns := Machine.Config.returns_of_returned hreturned
    obtain ⟨hid, hentries⟩ := of_decide_eq_true htest
    exact ⟨cfg, x, t, s, hrun, hreturns, hid, hentries, answers_in_books cfg _ x t s hrun hreturns .refl⟩
  · cases htest

/-! ## Reconciliation -/

/-- Totals of fewer than 20 digits are exact. -/
theorem totalBalance_exact {rows : List TrialBalance} (h : (rows.map (·.balance.natAbs)).sum < 10 ^ 20) :
    totalBalance rows = .ofNumeric (rows.map (·.balance)).sum := by
  suffices hall : ∀ (rows : List TrialBalance) (n : Int), n.natAbs + (rows.map (·.balance.natAbs)).sum < 10 ^ 20 →
      rows.foldl (fun sum row => Decimal.plus sum (.ofNumeric row.balance)) (.ofNumeric n) =
        Decimal.ofNumeric (n + (rows.map (·.balance)).sum) by
    have hzero := hall rows 0 (by simpa using h)
    rw [zero_add] at hzero
    rw [← hzero]
    simp [totalBalance, Decimal.ofNumeric]
  clear h rows
  intro rows
  induction rows with
  | nil => simp
  | cons row rows ih =>
    intro n hn
    rw [List.map_cons, List.sum_cons] at hn
    have hplus : (Decimal.ofNumeric n).plus (.ofNumeric row.balance) = .ofNumeric (n + row.balance) := by
      have hexact := Decimal.significant_of_digits (k := n + row.balance) (by omega) 4
      simp only [Decimal.ofNumeric, Decimal.plus]
      rw [← add_div, ← Int.cast_add, show (10000 : ℚ) = 10 ^ 4 by norm_num, hexact]
    rw [List.foldl_cons, hplus, ih (n + row.balance) (by omega), List.map_cons, List.sum_cons, add_assoc]

/-- Balances of 21 digits that add up to zero are not seen to. -/
example : (totalBalance ([10 ^ 20 + 1, -10 ^ 20, -1].map (fun n => ⟨0, "", "", 0, 0, n⟩))).equals (.fin 0) = false := by
  decide +kernel

/-- Books in order have no discrepancies. -/
theorem discrepancies_eq_nil {d : Tables} (hb : Books d) (sess : Session) : d.discrepancies sess = [] := by
  unfold Tables.discrepancies
  refine List.filterMap_eq_nil_iff.2 (fun t ht => ?_)
  obtain ⟨ht, hpass⟩ := List.mem_filter.1 ht
  have hpost : post t ∈ d.posts := List.mem_map_of_mem ht
  have hsum := debitSum_sub_creditSum d.entries t.id
  rw [show debitSum d.entries t.id = creditSum d.entries t.id from hb.balanced _ hpost, sub_self] at hsum
  rw [entriesOf_entriesSeen hb (t := t.id) hpost rfl (of_decide_eq_true hpass).1]
  exact if_pos (Or.inr hsum.symm)

/-- In every run from the empty ledger, however calls are interleaved with each other and with the queries of `reconcile`: it reports
no discrepancy; it counts as balanced every transaction that is posted; and it reports the books balanced when the amounts of the
trial balance have fewer than 20 digits together. -/
theorem reconcile_agrees (sess : Session) (atBalance atEntries : machine.Config) (atCounts : Tables) (result : ReconciliationResult)
    (hbalance : machine.Run (.any machine) (.init machine .empty) atBalance)
    (hentries : machine.Run (.any machine) atBalance atEntries)
    (h : reconcile sess atBalance.state.db atEntries.state.db atCounts = .ok result) :
    result.discrepancies = [] ∧
      (∀ n, result.balancedTransactions = some n → n = (atCounts.transactions.countP (fun t =>
        decide (t.organizationId = sess.organizationId ∧ t.status = .posted)) : Int) ∧ n ≤ result.totalTransactions) ∧
      ((result.trialBalance.map (·.balance.natAbs)).sum < 10 ^ 20 → result.isBalanced = true) := by
  have hs : (outline ⟨false, false, false⟩).Sound (.any machine) := outline_sound rfl (fun h => by cases h) (fun h => by cases h)
  have hbooks : ∀ cfg, machine.Run (.any machine) (.init machine .empty) cfg → Books cfg.state.db :=
    fun cfg hrun => (Machine.Outline.run_inv hs (inv_empty _) hrun).books
  have hnone := discrepancies_eq_nil (hbooks atEntries (hbalance.trans hentries)) sess
  unfold reconcile at h
  split at h
  · cases h
  obtain rfl := Except.ok.inj h
  refine ⟨hnone, fun n hn => ?_, fun hdigits => ?_⟩
  · dsimp only at hn
    split at hn
    · cases hn
    · rw [hnone, List.length_nil, Nat.cast_zero, sub_zero] at hn
      obtain rfl := Option.some.inj hn
      refine ⟨?_, Int.ofNat_le.2 List.countP_le_length⟩
      rw [List.countP_filter]
      refine congrArg _ (List.countP_congr (fun t _ => ?_))
      simp [and_comm]
  · dsimp only at hdigits ⊢
    rw [totalBalance_exact hdigits, trialBalance_sum (hbooks atBalance hbalance)]
    simp [Decimal.ofNumeric, Decimal.equals]

/-- The second of two sales. -/
def lateSale : List machine.Event := .start (sale 4) :: List.replicate 13 (.call 3 false)

/-- `reconcile` sees two posted transactions, and amounts of few digits. -/
def reconciled (cfg cfg' : machine.Config) : Bool :=
  (reconcile ⟨"org", true, 0⟩ cfg.state.db cfg'.state.db cfg'.state.db).toOption.any (fun result =>
    decide (result.balancedTransactions = some 2 ∧ (result.trialBalance.map (·.balance.natAbs)).sum < 10 ^ 20))

/-- The theorem at two sales, the second of which is posted while `reconcile` reads. -/
theorem reconcile_agrees_sales : ∃ (atBalance atEntries : machine.Config) (result : ReconciliationResult),
    machine.Run (.any machine) (.init machine .empty) atBalance ∧ machine.Run (.any machine) atBalance atEntries ∧
      reconcile ⟨"org", true, 0⟩ atBalance.state.db atEntries.state.db atEntries.state.db = .ok result ∧
      result.balancedTransactions = some 2 ∧ result.discrepancies = [] ∧ result.isBalanced = true := by
  obtain ⟨cfg, hrun, htest⟩ := Machine.Config.replay_any (C := .any machine) (fun cfg e _ => Machine.Cond.allows_any cfg e)
    (saleEvents 3) (.init machine .empty) (fun cfg => (cfg.replay (fun _ _ => true) lateSale).any (reconciled cfg))
    (show ((Machine.Config.init machine .empty).replay (fun _ _ => true) (saleEvents 3)).any _ = true by decide +kernel)
  obtain ⟨cfg', hrun', htest'⟩ := Machine.Config.replay_any (C := .any machine) (fun cfg e _ => Machine.Cond.allows_any cfg e)
    lateSale cfg (reconciled cfg) htest
  obtain ⟨result, hresult, hpass⟩ := (Option.any_eq_true _ _).1 htest'
  have hok : reconcile ⟨"org", true, 0⟩ cfg.state.db cfg'.state.db cfg'.state.db = .ok result := by
    cases h : reconcile ⟨"org", true, 0⟩ cfg.state.db cfg'.state.db cfg'.state.db with
    | error e =>
      rw [h] at hresult
      cases hresult
    | ok r =>
      rw [h] at hresult
      exact congrArg _ (Option.some.inj hresult)
  obtain ⟨hposted, hdigits⟩ := of_decide_eq_true hpass
  obtain ⟨hnone, -, hbalanced⟩ := reconcile_agrees ⟨"org", true, 0⟩ cfg cfg' cfg'.state.db result hrun hrun' hok
  exact ⟨cfg, cfg', result, hrun, hrun', hok, hposted, hnone, hbalanced hdigits⟩

/-! ## Waiting for one another -/

/-- In every run in which each posting lists its accounts in ascending order and is given uuids that no open call was given, with
any failures and crashes: the calls that are open can be brought to their end by statements alone, none of which fails for a reason
outside the schema, and then no transaction is open. -/
theorem ordered_postings_end (cfg : machine.recorded.Config)
    (hrun : machine.recorded.Run orderedPostings (.init machine.recorded (.empty, [])) cfg) :
    ∃ cfg', Relation.ReflTransGen (Machine.Goes (M := machine.recorded) (fun fails => fails = false)) cfg cfg' ∧
      cfg'.live = [] ∧ cfg'.state.1.pending = [] := by
  have hqueued : Queued cfg := by
    induction hrun with
    | refl => exact queued_init
    | tail _ hstep ih => exact ih.step hstep
  have hgoes : ∀ {cfg cfg'}, Queued cfg → Machine.Goes (M := machine.recorded) (fun fails => fails = false) cfg cfg' →
      Queued cfg' := fun h hgo => h.step (hgo.step (fun _ _ _ => trivial))
  obtain ⟨cfg', hend, hlive⟩ := Machine.completes (I := Queued)
    (fun cfg h => List.pairwise_map.2 (h.holds.nodup.imp And.left)) (fun _ _ => hgoes) (fun _ h hne => h.goes hne) hqueued
  have hqueued' : Queued cfg' := by
    clear hlive
    induction hend with
    | refl => exact hqueued
    | tail _ hgo ih => exact hgoes ih hgo
  refine ⟨cfg', hend, hlive, List.eq_nil_iff_forall_not_mem.2 (fun p hp => ?_)⟩
  have hnone : cfg'.state.1.writes p.1 = [] := hqueued'.idle p.1 (by simp [hlive])
  have hmem : p.2 ∈ cfg'.state.1.writes p.1 := State.mem_writes.2 hp
  rw [hnone] at hmem
  cases hmem

/-! Two accounts, and transfers between them that are posted together. -/

/-- What the calls of the runs take from outside: call `n` is given the uuids that end in `n`. -/
def transferEnv (n : Nat) : Env := ⟨true, 0, fun i => 10 * i + n⟩

/-- The accounts are made, one call after another. -/
def transferAccounts : List machine.recorded.Event :=
  [.start (.createAccount (transferEnv 1) "org" "1000" "Cash" .asset "USD")] ++ List.replicate 4 (.call 0 false) ++
    [.start (.createAccount (transferEnv 2) "org" "1001" "Till" .asset "USD")] ++ List.replicate 4 (.call 1 false)

/-- A transfer of 10.0000. -/
def transfer (n : Nat) (debit credit : Uuid) : Call :=
  .postTransaction (transferEnv n) ⟨"org", .payment, none, "transfer", .fin 10, "USD",
    [⟨⟨"debit", some debit⟩, .debit, .fin 10, "in"⟩, ⟨⟨"credit", some credit⟩, .credit, .fin 10, "out"⟩], none⟩

/-- An account is made while no other call is open. -/
def accountAlone (cfg : machine.recorded.Config) : machine.recorded.Event → Bool
  | .start (.createAccount _ _ _ _ _ _) => cfg.live.isEmpty
  | .start _ => false
  | _ => true

theorem accountAlone_allows (cfg : machine.recorded.Config) (e : machine.recorded.Event) (h : accountAlone cfg e = true) :
    orderedPostings.Allows cfg e := by
  cases e with
  | start c =>
    cases c with
    | createAccount env organizationId code name type currency =>
      have hlive : cfg.live = [] := List.isEmpty_iff.1 h
      exact ⟨trivial, by simp [hlive]⟩
    | postTransaction env req => cases h
    | reverseTransaction env organizationId transactionId reason => cases h
  | call w ch => exact fun _ _ _ _ _ _ => trivial
  | crash w => exact trivial

/-- The theorem at two transfers that are started on the same two accounts. -/
theorem ordered_postings_end_transfers : ∃ cfg cfg' : machine.recorded.Config,
    machine.recorded.Run orderedPostings (.init machine.recorded (.empty, [])) cfg ∧ cfg.live.length = 2 ∧
      Relation.ReflTransGen (Machine.Goes (M := machine.recorded) (fun fails => fails = false)) cfg cfg' ∧
      cfg'.live = [] ∧ cfg'.state.1.pending = [] := by
  obtain ⟨cfg, hrun, htest⟩ := Machine.Config.replay_any accountAlone_allows transferAccounts (.init machine.recorded (.empty, []))
    (fun cfg => cfg.live.isEmpty) (by decide +kernel)
  have hlive : cfg.live = [] := List.isEmpty_iff.1 htest
  have hfirst : machine.recorded.Step orderedPostings cfg (cfg.add (transfer 3 1 2)) :=
    .start cfg _ ⟨by simp [Call.Ascends, AscendingRequest, transfer], by simp [hlive]⟩
  have hsecond : machine.recorded.Step orderedPostings (cfg.add (transfer 3 1 2)) ((cfg.add (transfer 3 1 2)).add (transfer 4 1 2)) := by
    refine .start _ _ ⟨by simp [Call.Ascends, AscendingRequest, transfer], fun x hx i j heq => ?_⟩
    simp only [Machine.Config.add, hlive, List.nil_append, Option.mem_toList] at hx
    obtain ⟨rfl, -⟩ := Machine.Worker.keep_eq_some hx
    have huuids : 10 * i + 4 = 10 * j + 3 := heq
    omega
  obtain ⟨cfg', hend, hlive', hpending⟩ := ordered_postings_end _ ((hrun.tail hfirst).tail hsecond)
  refine ⟨_, cfg', (hrun.tail hfirst).tail hsecond, ?_, hend, hlive', hpending⟩
  simp only [Machine.Config.add, hlive, List.nil_append]
  rfl

/-- Two transfers in opposite orders, each of which has written the balance of its first account: neither can go on. -/
example : ((Machine.Config.init machine.recorded (.empty, [])).replay (fun _ _ => true) (transferAccounts ++
    [.start (transfer 3 1 2), .start (transfer 4 2 1)] ++ List.replicate 8 (.call 2 false) ++ List.replicate 8 (.call 3 false))).any
      (fun cfg => cfg.live.length == 2 && cfg.live.all (fun x => (cfg.next (.call x.id false)).isNone)) = true := by decide +kernel

end Ledger

end Archisynapse
