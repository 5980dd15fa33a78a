import Archisynapse.Lemmas.LedgerIdempotency

/-!
# The ledger

What holds of the ledger after any calls one after another, failed ones included (`ledger_in_order`), and of every run in which
calls are interleaved and a transaction is reversed only while it is not reversed and not being reversed (`reversed_at_most_once`).
Without that condition a transaction can be reversed twice, one call after another (`reversed_twice`): `reverseTransaction`
never looks at the status it sets.
-/

namespace Archisynapse

namespace Ledger

/-! ## Calls one after another -/

/-- Calls one after another come to an end and keep books and balances. -/
theorem calls_books (cs : List (Call × (Nat → Bool))) {d : Tables} (hb : Books d) (hbal : Balances d) :
    ∃ d', calls cs d = some d' ∧ Books d' ∧ Balances d' := by
  induction cs generalizing d with
  | nil => exact ⟨d, rfl, hb, hbal⟩
  | cons c cs ih =>
    obtain ⟨r, d₁, h₁⟩ := alone_isSome c.1.program c.2 d
    obtain ⟨hb₁, hbal₁⟩ := alone_program hb hbal h₁
    obtain ⟨d', h', hd'⟩ := ih hb₁ hbal₁
    refine ⟨d', ?_, hd'⟩
    unfold calls
    rw [h₁]
    exact h'

/-- The entries of an organization. -/
def Tables.entriesFor (d : Tables) (organizationId : String) : List EntryRow :=
  d.entries.filter (fun e => decide (e.organizationId = organizationId))

/-- The entries of an organization are those of its transactions, each of which balances. -/
theorem entriesFor_sum {d : Tables} (hb : Books d) (organizationId : String) :
    ((d.entriesFor organizationId).map EntryRow.signed).sum = 0 := by
  have hpost : ∀ e ∈ d.entriesFor organizationId, e.transactionId ∈ d.posts.map (·.id) := by
    intro e he
    obtain ⟨p, hp, hid, -⟩ := hb.transaction e (List.mem_of_mem_filter he)
    exact List.mem_map.2 ⟨p, hp, hid⟩
  rw [← sum_sumWhere_key EntryRow.signed EntryRow.transactionId hb.ids hpost, List.map_map]
  refine List.sum_eq_zero (fun x hx => ?_)
  obtain ⟨p, hp, rfl⟩ := List.mem_map.1 hx
  have hpost : ∀ e ∈ d.entries, e.transactionId = p.id → e.organizationId = p.organizationId := by
    intro e he ht
    obtain ⟨q, hq, hqid, hqo⟩ := hb.transaction e he
    rw [← hqo, List.inj_on_of_nodup_map hb.ids hq hp (hqid.trans ht)]
  have hzero : sumWhere (fun e => decide (e.transactionId = p.id)) EntryRow.signed d.entries = 0 := by
    have h := debitSum_sub_creditSum d.entries p.id
    rw [hb.balanced p hp, sub_self] at h
    exact h.symm
  unfold Tables.entriesFor
  rw [Function.comp_apply, sumWhere_filter]
  by_cases ho : p.organizationId = organizationId
  · rw [← hzero]
    refine sumWhere_congr (fun e he => ?_)
    by_cases ht : e.transactionId = p.id
    · simp [ht, hpost e he ht, ho]
    · simp [ht]
  · refine sumWhere_eq_zero (fun e he hand => ?_)
    simp only [Bool.and_eq_true, decide_eq_true_eq] at hand
    exact absurd ((hpost e he hand.2).symm.trans hand.1) ho

/-- The balances of a trial balance add up to zero: they are the sums over the accounts of the organization, and every entry of
the organization is on one of these. -/
theorem trialBalance_sum {d : Tables} (hb : Books d) (organizationId : String) :
    ((d.trialBalance organizationId).map (·.balance)).sum = 0 := by
  have hactive : ∀ a ∈ d.accounts, a.isActive = true := fun a ha =>
    hb.active { a with balance := 0 } (List.mem_map_of_mem ha)
  have hnd : ((d.accounts.filter (fun a => a.isActive && decide (a.organizationId = organizationId))).map (·.id)).Nodup := by
    have h := hb.accounts
    simp only [Tables.chart, List.map_map] at h
    exact h.sublist (List.Sublist.map _ List.filter_sublist)
  have haccount : ∀ e ∈ d.entriesFor organizationId, e.accountId ∈
      (d.accounts.filter (fun a => a.isActive && decide (a.organizationId = organizationId))).map (·.id) := by
    intro e he
    obtain ⟨he, ho⟩ := List.mem_filter.1 he
    obtain ⟨a, ha, haid, hao⟩ := hb.account e he
    refine List.mem_map.2 ⟨a, List.mem_filter.2 ⟨ha, ?_⟩, haid⟩
    simp [hactive a ha, hao, of_decide_eq_true ho]
  have hsame : ∀ a ∈ d.accounts.filter (fun a => a.isActive && decide (a.organizationId = organizationId)),
      accountSum d.entries a.id =
        sumWhere (fun e => decide (e.accountId = a.id)) EntryRow.signed (d.entriesFor organizationId) := by
    intro a ha
    obtain ⟨ha, hao⟩ := List.mem_filter.1 ha
    rw [Bool.and_eq_true, decide_eq_true_eq] at hao
    unfold accountSum Tables.entriesFor
    rw [sumWhere_filter]
    refine sumWhere_congr (fun e he => ?_)
    by_cases hea : e.accountId = a.id
    · have hacc := hb.account e he
      rw [hea] at hacc
      simp [hea, hb.organization_unique hacc ⟨a, ha, rfl, rfl⟩, hao.2]
    · simp [hea]
  unfold Tables.trialBalance
  rw [List.map_map]
  calc ((d.accounts.filter (fun a => a.isActive && decide (a.organizationId = organizationId))).map
        (fun a => accountSum d.entries a.id)).sum
      = ((d.entriesFor organizationId).map EntryRow.signed).sum := by
        rw [List.map_congr_left hsame, ← sum_sumWhere_key EntryRow.signed EntryRow.accountId hnd haccount, List.map_map]
        rfl
    _ = 0 := entriesFor_sum hb organizationId

/-- The effect of a transaction on an account together with the effects of the transactions that reverse it. -/
def Tables.netEffect (d : Tables) (t a : Uuid) : Int :=
  effect d.entries t a +
    ((d.transactions.filter (fun v => decide (v.reverses = some t))).map (fun v => effect d.entries v.id a)).sum

/-- A transaction is reversed only while it is not marked as reversed and no other reversal of it is in progress. -/
def guardedReversals : machine.Cond where
  start cfg c := ∀ t, c.reverses = some t →
    (∀ x ∈ cfg.state.db.transactions, x.id = t → x.status ≠ .reversed) ∧ ∀ x ∈ cfg.live, x.call.reverses ≠ some t
  step _ _ _ := True

/-- In every run, whatever the calls and however their statements are interleaved, in which transactions are reversed only
under the guard: a transaction and what reverses it have the transaction's own effect or none. -/
theorem reversed_at_most_once (cfg : machine.Config) (hrun : machine.Run guardedReversals (.init machine .empty) cfg) :
    ∀ t ∈ cfg.state.db.transactions, ∀ a,
      cfg.state.db.netEffect t.id a = effect cfg.state.db.entries t.id a ∨ cfg.state.db.netEffect t.id a = 0 := by
  have hs : (outline ⟨false, true, false⟩).Sound guardedReversals := outline_sound rfl (fun _ _ _ hc => hc) nofun
  have hi : Inv ⟨false, true, false⟩ cfg.state := Machine.Outline.run_inv hs (inv_empty _) hrun
  intro t _ a
  have hlen := (hi.once rfl).atMost t.id
  have hrev : (cfg.state.db.transactions.filter (fun v => decide (v.reverses = some t.id))).map post =
      cfg.state.db.reversals t.id := by
    unfold Tables.reversals Tables.posts
    rw [List.filter_map]
    rfl
  rw [← hrev, List.length_map] at hlen
  unfold Tables.netEffect
  rcases Nat.le_one_iff_eq_zero_or_eq_one.1 hlen with hnone | hone
  · rw [List.length_eq_zero_iff.1 hnone]
    exact Or.inl (by simp)
  · right
    obtain ⟨v, hv⟩ := List.length_eq_one_iff.1 hone
    have hmem : v ∈ cfg.state.db.transactions.filter (fun v => decide (v.reverses = some t.id)) := by
      rw [hv]
      exact List.mem_singleton_self v
    obtain ⟨hvm, hvr⟩ := List.mem_filter.1 hmem
    have heff := (hi.books.reversal (post v) (List.mem_map_of_mem hvm) t.id (of_decide_eq_true hvr)).2 a
    simp only [post] at heff
    rw [hv, List.map_singleton, List.sum_singleton, heff]
    omega

/-! A run: two accounts, a posting of 10.0000 and two reversals of it, one call after another. -/

/-- The calls of the run. -/
def saleCalls : List Call :=
  let env := fun n : Nat => (⟨true, 0, fun i => 100 * n + i⟩ : Env)
  [.createAccount (env 1) "org" "1000" "Cash" .asset "USD",
    .createAccount (env 2) "org" "4000" "Sales" .revenue "USD",
    .postTransaction (env 3) ⟨"org", .payment, none, "sale", .fin 10, "USD",
      [⟨⟨"cash", some 100⟩, .debit, .fin 10, "in"⟩, ⟨⟨"sales", some 200⟩, .credit, .fin 10, "out"⟩], none⟩,
    .reverseTransaction (env 4) "org" ⟨"t", some 300⟩ "refund",
    .reverseTransaction (env 5) "org" ⟨"t", some 300⟩ "refund again"]

/-- The events of the first `n` calls: each is started and all its statements are performed. -/
def saleEvents (n : Nat) : List machine.Event :=
  ((saleCalls.take n).zipIdx.map (fun p => Machine.Event.start p.1 ::
    List.replicate (if p.2 < 2 then 4 else if p.2 = 2 then 13 else 16) (Machine.Event.call p.2 false))).flatten

/-- `guardedReversals`, computed. -/
def guardedCheck (cfg : machine.Config) : machine.Event → Bool
  | .start c => match c.reverses with
    | none => true
    | some t => cfg.state.db.transactions.all (fun x => !decide (x.id = t ∧ x.status = .reversed)) &&
        cfg.live.all (fun x => !decide (x.call.reverses = some t))
  | _ => true

theorem guardedCheck_allows (cfg : machine.Config) (e : machine.Event) (h : guardedCheck cfg e = true) :
    guardedReversals.Allows cfg e := by
  cases e with
  | start c =>
    intro t ht
    simp only [guardedCheck, ht, Bool.and_eq_true, List.all_eq_true, Bool.not_eq_true', decide_eq_false_iff_not] at h
    exact ⟨fun x hx hid hst => h.1 x hx ⟨hid, hst⟩, h.2⟩
  | call w ch => exact fun _ _ _ _ _ _ => trivial
  | crash w => exact trivial

/-- The theorem at a run that reverses a transaction: the sale and its reversal leave nothing on the cash account. -/
theorem reversed_at_most_once_sale : ∃ cfg, machine.Run guardedReversals (.init machine .empty) cfg ∧
    cfg.state.db.netEffect 300 100 = 0 ∧ effect cfg.state.db.entries 300 100 = 100000 ∧
    ∀ t ∈ cfg.state.db.transactions, ∀ a,
      cfg.state.db.netEffect t.id a = effect cfg.state.db.entries t.id a ∨ cfg.state.db.netEffect t.id a = 0 := by
  obtain ⟨cfg, hrun, htest⟩ := Machine.Config.replay_any guardedCheck_allows (saleEvents 4) (.init machine .empty)
    (fun cfg => decide (cfg.state.db.netEffect 300 100 = 0 ∧ effect cfg.state.db.entries 300 100 = 100000)) (by decide +kernel)
  obtain ⟨hnet, heff⟩ := of_decide_eq_true htest
  exact ⟨cfg, hrun, hnet, heff, reversed_at_most_once cfg hrun⟩

/-- Reversed twice, one call after another, the sale leaves minus its own effect on the cash account. -/
theorem reversed_twice : ¬ ∀ cfg, machine.Run (.any machine) (.init machine .empty) cfg →
    ∀ t ∈ cfg.state.db.transactions, ∀ a,
      cfg.state.db.netEffect t.id a = effect cfg.state.db.entries t.id a ∨ cfg.state.db.netEffect t.id a = 0 := by
  intro h
  obtain ⟨cfg, hrun, htest⟩ := Machine.Config.replay_any (fun cfg e _ => Machine.Cond.allows_any cfg e)
    (saleEvents 5) (.init machine .empty)
    (fun cfg => cfg.state.db.transactions.any (fun t => decide (t.id = 300)) &&
      decide (cfg.state.db.netEffect 300 100 = -100000 ∧ effect cfg.state.db.entries 300 100 = 100000))
    (show ((Machine.Config.init machine .empty).replay (fun _ _ => true) (saleEvents 5)).any _ = true by decide +kernel)
  simp only [Bool.and_eq_true, List.any_eq_true, decide_eq_true_eq] at htest
  obtain ⟨⟨t, ht, hid⟩, hnet, heff⟩ := htest
  have hbad := h cfg hrun t ht 100
  rw [hid, hnet, heff] at hbad
  rcases hbad with hbad | hbad
  · cases hbad
  · cases hbad

/-! ## Balances of interleaved calls -/

/-- A transaction commits only while no other open one has inserted an entry on an account on which it has inserted one. -/
def apartCommits : machine.Cond where
  start _ _ := True
  step w o s := o.2 = .commit → s.Apart w

/-- In every run, whatever the calls and however their statements, lock waits and commits are interleaved, in which transactions
commit apart: every balance is its account's debits less its credits. -/
theorem balances_apart (cfg : machine.Config) (hrun : machine.Run apartCommits (.init machine .empty) cfg) :
    ∀ a ∈ cfg.state.db.accounts, a.balance =
      sumWhere (fun e => decide (e.accountId = a.id ∧ e.debitCredit = .debit)) (·.amount) cfg.state.db.entries -
        sumWhere (fun e => decide (e.accountId = a.id ∧ e.debitCredit = .credit)) (·.amount) cfg.state.db.entries := by
  have hs : (outline ⟨false, false, true⟩).Sound apartCommits := outline_sound rfl nofun (fun _ _ _ _ h => h)
  have hi : Inv ⟨false, false, true⟩ cfg.state := Machine.Outline.run_inv hs (inv_empty _) hrun
  intro a ha
  rw [← accountSum_eq]
  exact hi.balances rfl a ha

/-! Two runs: the accounts are made, and two sales are posted on them while both transactions are open. -/

/-- A sale of 10.0000. -/
def sale (n : Nat) : Call :=
  .postTransaction ⟨true, 0, fun i => 100 * n + i⟩ ⟨"org", .payment, none, "sale", .fin 10, "USD",
    [⟨⟨"cash", some 100⟩, .debit, .fin 10, "in"⟩, ⟨⟨"sales", some 200⟩, .credit, .fin 10, "out"⟩], none⟩

/-- The first sale has made `n` statements when the second starts, then the second makes `k`; the first ends and then the
second. -/
def overlapEvents (n k : Nat) : List machine.Event :=
  saleEvents 2 ++ [.start (sale 3)] ++ List.replicate n (.call 2 false) ++ [.start (sale 4)] ++ List.replicate k (.call 3 false) ++
    List.replicate (13 - n) (.call 2 false) ++ List.replicate (13 - k) (.call 3 false)

/-- `apartCommits`, computed: no other transaction has inserted an entry. -/
def apartCheck (cfg : machine.Config) : machine.Event → Bool
  | .call w _ => cfg.state.pending.all (fun p => decide (p.1 = w) || p.2.entryOf.isNone) ||
      !cfg.live.any (fun x => decide (x.id = w) && match x.rest with
        | .call (_, .commit) _ => true
        | _ => false)
  | _ => true

theorem apartCheck_allows (cfg : machine.Config) (e : machine.Event) (h : apartCheck cfg e = true) :
    apartCommits.Allows cfg e := by
  cases e with
  | start c => exact trivial
  | crash w => exact trivial
  | call w ch =>
    rintro x hx rfl o k hk hcommit
    simp only [apartCheck, Bool.or_eq_true, List.all_eq_true, Bool.not_eq_true'] at h
    rcases h with h | h
    · intro w' hne a _ hother
      obtain ⟨e, he, -⟩ := hother
      obtain ⟨x', hx', he'⟩ := List.mem_filterMap.1 he
      have hnone := h (w', x') (State.mem_writes.1 hx')
      simp [hne, he'] at hnone
    · obtain ⟨sess, o⟩ := o
      obtain rfl : o = .commit := hcommit
      have hno := List.any_eq_false.1 h x hx
      rw [hk] at hno
      simp at hno

/-- The theorem at a run in which the second sale inserts its entries after the first has committed. -/
theorem balances_apart_sales : ∃ cfg, machine.Run apartCommits (.init machine .empty) cfg ∧
    cfg.state.db.accounts.map (·.balance) = [200000, -200000] ∧
    ∀ a ∈ cfg.state.db.accounts, a.balance =
      sumWhere (fun e => decide (e.accountId = a.id ∧ e.debitCredit = .debit)) (·.amount) cfg.state.db.entries -
        sumWhere (fun e => decide (e.accountId = a.id ∧ e.debitCredit = .credit)) (·.amount) cfg.state.db.entries := by
  obtain ⟨cfg, hrun, htest⟩ := Machine.Config.replay_any apartCheck_allows (overlapEvents 6 3) (.init machine .empty)
    (fun cfg => decide (cfg.state.db.accounts.map (·.balance) = [200000, -200000])) (by decide +kernel)
  exact ⟨cfg, hrun, of_decide_eq_true htest, balances_apart cfg hrun⟩

/-- When the second sale inserts its first entry before the first commits, the balance of the cash account loses the first sale. -/
theorem balance_lost : ¬ ∀ cfg, machine.Run (.any machine) (.init machine .empty) cfg → cfg.live = [] →
    ∀ a ∈ cfg.state.db.accounts, a.balance =
      sumWhere (fun e => decide (e.accountId = a.id ∧ e.debitCredit = .debit)) (·.amount) cfg.state.db.entries -
        sumWhere (fun e => decide (e.accountId = a.id ∧ e.debitCredit = .credit)) (·.amount) cfg.state.db.entries := by
  intro h
  obtain ⟨cfg, hrun, htest⟩ := Machine.Config.replay_any (fun cfg e _ => Machine.Cond.allows_any cfg e)
    (overlapEvents 6 5) (.init machine .empty)
    (fun cfg => cfg.live.isEmpty && cfg.state.db.accounts.any (fun a => decide (a.id = 100 ∧ a.balance = 100000)) &&
      decide (sumWhere (fun e => decide (e.accountId = 100 ∧ e.debitCredit = .debit)) (·.amount) cfg.state.db.entries -
        sumWhere (fun e => decide (e.accountId = 100 ∧ e.debitCredit = .credit)) (·.amount) cfg.state.db.entries = 200000))
    (show ((Machine.Config.init machine .empty).replay (fun _ _ => true) (overlapEvents 6 5)).any _ = true by decide +kernel)
  simp only [Bool.and_eq_true, List.isEmpty_iff, List.any_eq_true, decide_eq_true_eq] at htest
  obtain ⟨⟨hlive, a, ha, hid, hbal⟩, hsum⟩ := htest
  have hbad := h cfg hrun hlive a ha
  rw [hid, hbal, hsum] at hbad
  cases hbad

/-! ## Idempotency keys -/

/-- A posting without an organization is refused. -/
theorem alone_no_organization {env : Env} {req : PostTransactionRequest} {fails : Nat → Bool} {d d' : Tables} {t : Transaction}
    (horg : req.organizationId = "") : alone (postTransaction env req) fails d ≠ some (.ok t, d') := by
  unfold alone postTransaction withSession
  dsimp only
  rw [if_pos (show (env.session req.organizationId).organizationId = "" from horg)]
  intro h
  cases h

/-- A sale under a key. -/
def keyedSale (description : String) : PostTransactionRequest :=
  ⟨"org", .payment, none, description, .fin 10, "USD",
    [⟨⟨"cash", some 100⟩, .debit, .fin 10, "in"⟩, ⟨⟨"sales", some 200⟩, .credit, .fin 10, "out"⟩], some "key"⟩

/-- Two accounts are made, and a sale is posted under a key. -/
def keyedCalls : List (Call × (Nat → Bool)) :=
  (saleCalls.take 2 ++ [Call.postTransaction ⟨true, 0, fun i => 300 + i⟩ (keyedSale "first")]).map (fun c => (c, fun _ => false))

end Ledger

end Archisynapse
