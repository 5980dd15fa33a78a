import Archisynapse.Lemmas.LedgerRuns

/-!
# Postings under idempotency keys

The ledger keeps the key of a posting twice: in the unique column of its transaction, for good, and with the response in
`idempotency_store`, for 24 hours. `Recorded` ties both to the postings that were made: each key is the key of one posting, and
every stored response is the result of the posting with its key.
-/

namespace Archisynapse

namespace Ledger

/-! ## The postings of a sequence of calls -/

/-- A posting: the request, and the transaction it was answered with. -/
structure Posting where
  request : PostTransactionRequest
  result : Transaction

/-- The posting a call made: it returned a transaction that was not there. -/
def Call.posting (c : Call) (d : Tables) (r : Except LedgerError Reply) : List Posting :=
  match c, r with
  | .postTransaction _ req, .ok (.transaction t) => if d.transactions.any (fun x => decide (x.id = t.id)) then [] else [⟨req, t⟩]
  | _, _ => []

/-- Calls one after another, with the failures of each: the tables they leave and the postings they made. -/
def history : List (Call × (Nat → Bool)) → Tables → List Posting → Option (Tables × List Posting)
  | [], d, log => some (d, log)
  | (c, fails) :: cs, d, log => (alone c.program fails d).bind (fun r => history cs r.2 (log ++ c.posting d r.1))

/-- The key a posting's transaction has. -/
def Posting.key (x : Posting) : Option (Option String) := varcharOrNull 255 (truthy x.request.idempotencyKey)

/-- The tables are those the postings made. -/
structure Recorded (d : Tables) (log : List Posting) : Prop where
  books : Books d
  balances : Balances d
  keys : (d.posts.filterMap (·.idempotencyKey)).Nodup
  posted : ∀ x ∈ log, ∃ p ∈ d.posts, p.id = x.result.id ∧ x.key = some p.idempotencyKey
  ids : (log.map (·.result.id)).Nodup
  responses : ∀ r ∈ d.responses, ∃ x ∈ log, x.result = r.response ∧ x.key = some (some r.idempotencyKey)

theorem recorded_empty : Recorded .empty [] :=
  ⟨books_empty, by simp [Balances, Tables.empty], by simp [Tables.posts, Tables.empty], by simp, by simp,
    by simp [Tables.empty]⟩

section

variable {d d' : Tables} {log : List Posting}

/-- Two transactions do not have one key. -/
theorem Recorded.key_unique (h : Recorded d log) {p q : Post} (hp : p ∈ d.posts) (hq : q ∈ d.posts) {key : String}
    (hpk : p.idempotencyKey = some key) (hqk : q.idempotencyKey = some key) : p = q := by
  have hnd := h.keys
  generalize d.posts = posts at hnd hp hq
  induction posts with
  | nil => cases hp
  | cons x xs ih =>
    have hmem : ∀ y ∈ xs, y.idempotencyKey = some key → key ∈ xs.filterMap (·.idempotencyKey) :=
      fun y hy hyk => List.mem_filterMap.2 ⟨y, hy, hyk⟩
    rw [List.filterMap_cons] at hnd
    rcases List.mem_cons.1 hp with hpx | hpx <;> rcases List.mem_cons.1 hq with hqx | hqx
    · exact hpx.trans hqx.symm
    · rw [← hpx, hpk] at hnd
      exact absurd (hmem q hqx hqk) (List.nodup_cons.1 hnd).1
    · rw [← hqx, hqk] at hnd
      exact absurd (hmem p hpx hpk) (List.nodup_cons.1 hnd).1
    · refine ih ?_ hpx hqx
      split at hnd
      · exact hnd
      · exact (List.nodup_cons.1 hnd).2

/-- A posting that was made has its transaction's id in the table. -/
theorem Recorded.mem_transactions (h : Recorded d log) {x : Posting} (hx : x ∈ log) :
    d.transactions.any (fun t => decide (t.id = x.result.id)) = true := by
  obtain ⟨p, hp, hid, -⟩ := h.posted x hx
  obtain ⟨t, ht, rfl⟩ := List.mem_map.1 hp
  exact List.any_eq_true.2 ⟨t, ht, decide_eq_true hid⟩

/-- A live response is the result of a posting with its key. -/
theorem Recorded.liveResponse (h : Recorded d log) {sess : Session} {key : String} {t : Transaction}
    (ht : d.liveResponse sess key = some t) : ∃ x ∈ log, x.result = t ∧ x.key = some (some key) := by
  obtain ⟨r, hr, rfl⟩ := Option.map_eq_some_iff.1 ht
  have hfound := List.find?_some hr
  simp only [Bool.and_eq_true, decide_eq_true_eq] at hfound
  obtain ⟨x, hx, hres, hkey⟩ := h.responses r (List.mem_of_find?_eq_some hr)
  exact ⟨x, hx, hres, by rw [hkey, hfound.1.1]⟩

/-- The response of a key is the result of the posting under the key. -/
theorem Recorded.liveResponse_eq (h : Recorded d log) {sess : Session} {key : String} {t : Transaction}
    (ht : d.liveResponse sess key = some t) {x : Posting} (hx : x ∈ log) (hkey : truthy x.request.idempotencyKey = some key) :
    t = x.result := by
  obtain ⟨y, hy, rfl, hykey⟩ := h.liveResponse ht
  have hfits : varchar 255 key = some key := by
    unfold Posting.key varcharOrNull at hykey
    split at hykey
    · cases hykey
    · obtain ⟨stored, hstored, he⟩ := Option.map_eq_some_iff.1 hykey
      cases he
      exact varchar_idem hstored
  have hxkey : x.key = some (some key) := by
    unfold Posting.key
    rw [hkey]
    exact congrArg (Option.map some) hfits
  obtain ⟨p, hp, hpid, hpk⟩ := h.posted x hx
  obtain ⟨q, hq, hqid, hqk⟩ := h.posted y hy
  obtain rfl := h.key_unique hp hq (Option.some.inj (hpk.symm.trans hxkey)) (Option.some.inj (hqk.symm.trans hykey))
  rw [List.inj_on_of_nodup_map h.ids hx hy (hpid.symm.trans hqid)]

/-- The responses after one was stored. -/
theorem mem_storeResponse {rs : List ResponseRow} {row r : ResponseRow} (h : r ∈ storeResponse rs row) :
    r ∈ rs ∨ (r.idempotencyKey = row.idempotencyKey ∧ r.response = row.response) := by
  unfold storeResponse Tables.apply at h
  dsimp only at h
  split at h
  · rcases mem_updateKey.1 h with ⟨q, -, hq, rfl⟩ | ⟨h, -⟩
    · exact Or.inr ⟨hq, rfl⟩
    · exact Or.inl h
  · rcases List.mem_append.1 h with h | h
    · exact Or.inl h
    · rw [List.mem_singleton.1 h]
      exact Or.inr ⟨rfl, rfl⟩

/-- The stored responses after a posting that added a transaction: those that were there, and its own. -/
theorem Posts.mem_responses {env : Env} {sess : Session} {req : PostTransactionRequest} {t : Transaction} {row : TransactionRow}
    {rows : List EntryRow} {responses : List ResponseRow} (h : Posts env sess req d t row rows responses)
    (hr : d'.responses = responses.foldl storeResponse d.responses) {x : ResponseRow} (hx : x ∈ d'.responses) :
    x ∈ d.responses ∨ (x.response = t ∧ row.idempotencyKey = some x.idempotencyKey) := by
  rw [hr, h.responses] at hx
  unfold storedResponses at hx
  cases hkey : row.idempotencyKey with
  | none =>
    rw [hkey] at hx
    exact Or.inl hx
  | some key =>
    rw [hkey] at hx
    rcases mem_storeResponse hx with hx | ⟨hk, hres⟩
    · exact Or.inl hx
    · exact Or.inr ⟨hres, by rw [hk]⟩

/-- A call that adds accounts only. -/
theorem Recorded.accounts (h : Recorded d log) {accounts : List AccountRow} (hb : Books { d with accounts })
    (hbal : Balances { d with accounts }) : Recorded { d with accounts } log :=
  ⟨hb, hbal, h.keys, h.posted, h.ids, h.responses⟩

/-- A new posting. -/
theorem Recorded.post (h : Recorded d log) (hb : Books d') (hbal : Balances d') {env : Env} {req : PostTransactionRequest}
    {t : Transaction} {row : TransactionRow} {rows : List EntryRow} {responses : List ResponseRow} (ha : Adds d d' row rows)
    (hr : d'.responses = responses.foldl storeResponse d.responses)
    (hp : Posts env (env.session req.organizationId) req d t row rows responses) : Recorded d' (log ++ [⟨req, t⟩]) := by
  have hid : t.id = row.id := by
    rw [hp.result, hp.rowed.id]
    rfl
  refine ⟨hb, hbal, ?_, ?_, ?_, ?_⟩
  · rw [ha.posts, List.filterMap_append, List.filterMap_cons, List.filterMap_nil]
    cases hkey : row.idempotencyKey with
    | none => simpa [Ledger.post, hkey] using h.keys
    | some key =>
      simp only [Ledger.post, hkey]
      refine List.nodup_append.2 ⟨h.keys, List.nodup_singleton _, fun k hk k' hk' => ?_⟩
      obtain ⟨p, hpm, hpk⟩ := List.mem_filterMap.1 hk
      rw [List.mem_singleton] at hk'
      rintro rfl
      exact hp.rowed.unused rfl key hkey p hpm (hpk.trans (congrArg some hk'))
  · intro x hx
    rw [ha.posts]
    rcases List.mem_append.1 hx with hx | hx
    · obtain ⟨p, hpm, hpx⟩ := h.posted x hx
      exact ⟨p, List.mem_append_left _ hpm, hpx⟩
    · rw [List.mem_singleton.1 hx]
      exact ⟨Ledger.post row, List.mem_append_right _ (List.mem_singleton_self _), hid.symm, hp.rowed.key⟩
  · refine nodup_map_concat h.ids (fun x hx he => ?_)
    obtain ⟨p, hpm, hpid, -⟩ := h.posted x hx
    exact ha.fresh p hpm (hpid.trans (he.trans hid))
  · intro r hrm
    rcases hp.mem_responses hr hrm with hrm | ⟨hres, hkey⟩
    · obtain ⟨x, hx, hxr⟩ := h.responses r hrm
      exact ⟨x, List.mem_append_left _ hx, hxr⟩
    · exact ⟨⟨req, t⟩, List.mem_append_right _ (List.mem_singleton_self _), hres.symm, hp.rowed.key.trans (congrArg some hkey)⟩

/-- A reversal. -/
theorem Recorded.reverse (h : Recorded d log) (hb : Books d') (hbal : Balances d') {env : Env} {transactionId : UuidText}
    {t : Transaction} {row : TransactionRow} {rows : List EntryRow} {responses : List ResponseRow} (ha : Adds d d' row rows)
    (hr : d'.responses = responses.foldl storeResponse d.responses)
    (hp : Reverses env transactionId t row rows responses) : Recorded d' log := by
  obtain ⟨-, -, hkey, rfl, -⟩ := hp
  refine ⟨hb, hbal, ?_, ?_, h.ids, ?_⟩
  · rw [ha.posts, List.filterMap_append, List.filterMap_cons, List.filterMap_nil]
    simpa [Ledger.post, hkey] using h.keys
  · intro x hx
    obtain ⟨p, hpm, hpx⟩ := h.posted x hx
    exact ⟨p, ha.grows.posts p hpm, hpx⟩
  · rw [hr]
    exact h.responses

/-- One call keeps the record. -/
theorem Recorded.call (h : Recorded d log) {c : Call} {fails : Nat → Bool} {r : Except LedgerError Reply}
    (hc : alone c.program fails d = some (r, d')) : Recorded d' (log ++ c.posting d r) := by
  cases c with
  | createAccount env organizationId code name type currency =>
    obtain ⟨q, hq, rfl⟩ := alone_map hc
    obtain ⟨hb, hbal, rows, rfl, -⟩ := alone_createAccount h.books h.balances hq
    have hnone : Call.posting (.createAccount env organizationId code name type currency) d (q.map .account) = [] := by
      cases q <;> rfl
    rw [hnone, List.append_nil]
    exact h.accounts hb hbal
  | postTransaction env req =>
    obtain ⟨q, hq, rfl⟩ := alone_map hc
    obtain ⟨hb, hbal, hout⟩ := alone_postTransaction h.books h.balances hq
    cases q with
    | error e =>
      rw [show d' = d from hout]
      exact (List.append_nil log).symm ▸ h
    | ok t =>
      rcases hout with ⟨rfl, key, -, hlive⟩ | ⟨row, rows, responses, ha, hr, hp⟩
      · obtain ⟨x, hx, rfl, -⟩ := h.liveResponse hlive
        have hnone : Call.posting (.postTransaction env req) d' (.ok (.transaction x.result)) = [] := by
          unfold Call.posting
          exact if_pos (h.mem_transactions hx)
        change Recorded d' (log ++ Call.posting (.postTransaction env req) d' (.ok (.transaction x.result)))
        rw [hnone, List.append_nil]
        exact h
      · have hnew : Call.posting (.postTransaction env req) d (.ok (.transaction t)) = [⟨req, t⟩] := by
          unfold Call.posting
          refine if_neg (fun hany => ?_)
          obtain ⟨x, hx, hid⟩ := List.any_eq_true.1 hany
          refine ha.fresh (Ledger.post x) (List.mem_map_of_mem hx) ((of_decide_eq_true hid).trans ?_)
          rw [hp.result, hp.rowed.id]
          rfl
        change Recorded d' (log ++ Call.posting (.postTransaction env req) d (.ok (.transaction t)))
        rw [hnew]
        exact h.post hb hbal ha hr hp
  | reverseTransaction env organizationId transactionId reason =>
    obtain ⟨q, hq, rfl⟩ := alone_map hc
    obtain ⟨hb, hbal, hout⟩ := alone_reverseTransaction h.books h.balances hq
    have hnone : Call.posting (.reverseTransaction env organizationId transactionId reason) d (q.map .transaction) = [] := by
      cases q <;> rfl
    rw [hnone, List.append_nil]
    cases q with
    | error e =>
      rw [show d' = d from hout]
      exact h
    | ok t =>
      obtain ⟨row, rows, responses, ha, hr, hp⟩ := hout
      exact h.reverse hb hbal ha hr hp

/-- Any calls keep the record. -/
theorem Recorded.history {cs : List (Call × (Nat → Bool))} (h : Recorded d log) {log' : List Posting}
    (hc : history cs d log = some (d', log')) : Recorded d' log' := by
  induction cs generalizing d log with
  | nil =>
    simp only [Ledger.history, Option.some.injEq, Prod.mk.injEq] at hc
    obtain ⟨rfl, rfl⟩ := hc
    exact h
  | cons x cs ih =>
    obtain ⟨c, fails⟩ := x
    obtain ⟨r, hr, hrest⟩ := Option.bind_eq_some_iff.1 hc
    exact ih (h.call hr) hrest

/-- A posting whose key has a live response, and that nothing goes wrong with, returns the response. -/
theorem alone_replay {env : Env} {req : PostTransactionRequest} {key : String} {t : Transaction}
    (hkey : truthy req.idempotencyKey = some key) (horg : req.organizationId ≠ "")
    (hlive : d.liveResponse (env.session req.organizationId) key = some t) :
    alone (postTransaction env req) (fun _ => false) d = some (.ok t, d) := by
  simp only [Tables.liveResponse, Bool.decide_and] at hlive
  unfold alone postTransaction withSession
  dsimp only
  rw [if_neg (show (env.session req.organizationId).organizationId ≠ "" from horg)]
  unfold inTransaction postWithClient
  rw [hkey]
  simp [Prog.run, Prog.perform, Prog.ensure, Prog.tryCatch, query, bind, Prog.bind, exec, State.perform, State.discard,
    State.commit, State.view, State.writes, hlive, pure]

end

end Ledger

end Archisynapse
