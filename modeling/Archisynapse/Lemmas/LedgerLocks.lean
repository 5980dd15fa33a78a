import Archisynapse.Base.Locks
import Archisynapse.Lemmas.LedgerPosting
import Mathlib.Data.Prod.Lex

/-!
# The locks of the ledger's calls

Which locks a statement asks for and which an open transaction holds. When every posting lists its accounts in ascending order, so
do the entries of every transaction that is stored (`Ordered`), and every statement asks for locks that come after those its
transaction holds (`Mannered`).
-/

namespace Archisynapse

namespace Ledger

/-! ## Locks -/

/-- The locks a statement asks for. -/
def Statement.locks : Statement → List Lock
  | .insertTransaction v => .transactionId v.id :: (((varcharOrNull 255 v.idempotencyKey).bind id).toList.map .transactionKey)
  | .insertEntry v => [.entryId v.id]
  | .updateAccountBalance accountId _ => [.account accountId]
  | .upsertResponse key _ _ => (varchar 255 key).toList.map .responseKey
  | .updateTransactionStatus _ id => id.value.toList.map .transactionRow
  | _ => []

/-- The locks of some writes. -/
def heldBy (ws : List Write) : List Lock := ws.flatMap Write.locks

/-- The locks of a worker's open transaction. -/
def State.held (s : State) (w : Nat) : List Lock := heldBy (s.writes w)

/-- The uuid of a new row, which only the transaction that inserts it knows. -/
def Lock.uuid? : Lock → Option Uuid
  | .transactionId id => some id
  | .entryId id => some id
  | _ => none

/-- The order in which a transaction asks for the locks that others ask for too: its key, its accounts in ascending order, the key of
its response, the transaction it reverses. -/
def Lock.rank : Lock → Nat ×ₗ Nat
  | .account id => toLex (1, id)
  | .responseKey _ => toLex (2, 0)
  | .transactionRow _ => toLex (3, 0)
  | _ => toLex (0, 0)

@[simp] theorem heldBy_nil : heldBy [] = [] := rfl

@[simp] theorem heldBy_append (ws ws' : List Write) : heldBy (ws ++ ws') = heldBy ws ++ heldBy ws' := List.flatMap_append

@[simp] theorem heldBy_cons (x : Write) (ws : List Write) : heldBy (x :: ws) = x.locks ++ heldBy ws := rfl

/-- The id of an entry's row. -/
theorem entryRow_id {d : Tables} {sess : Session} {v : EntryValues} {row : EntryRow} (h : d.entryRow sess v = .ok row) :
    row.id = v.id := by
  unfold Tables.entryRow at h
  repeat' split at h
  all_goals cases h
  rfl

section

variable {s s' : State} {w : Nat}

/-- A statement waits for the locks that others hold. -/
theorem waits_iff {locks : List Lock} : s.waits w locks = true ↔ ∃ w', w' ≠ w ∧ ∃ l ∈ locks, l ∈ s.held w' := by
  unfold State.waits State.held heldBy
  simp only [List.any_eq_true, Bool.and_eq_true, Bool.not_eq_true', decide_eq_false_iff_not, decide_eq_true_eq, List.mem_flatMap]
  constructor
  · rintro ⟨p, hp, hne, l, hl, hin⟩
    exact ⟨p.1, hne, l, hin, p.2, State.mem_writes.2 hp, hl⟩
  · rintro ⟨w', hne, l, hin, x, hx, hl⟩
    exact ⟨(w', x), State.mem_writes.1 hx, hne, l, hl, hin⟩

theorem not_waits {locks : List Lock} (h : s.waits w locks = false) {w' : Nat} (hne : w' ≠ w) {l : Lock} (hl : l ∈ locks) :
    l ∉ s.held w' := by
  intro hheld
  rw [waits_iff.2 ⟨w', hne, l, hl, hheld⟩] at h
  cases h

/-- An insert that waits for no other one goes on. -/
theorem insert_isSome {α β : Type} {locks : List Lock} {row : Except DatabaseError α} {x : α → List Write} {answer : α → β}
    (h : s.waits w locks = false) : ∃ r s', s.insert w locks row x answer = some (r, s') := by
  unfold State.insert
  rw [h, if_neg (by decide)]
  cases row with
  | error e => exact ⟨_, _, rfl⟩
  | ok a => exact ⟨_, _, rfl⟩

theorem selectBy_isSome {α : Type} (id : UuidText) (f : Uuid → α) : ∃ r s', selectBy s id f = some (r, s') := by
  unfold selectBy
  cases id.value with
  | none => exact ⟨_, _, rfl⟩
  | some u => exact ⟨_, _, rfl⟩

/-- A statement none of whose locks another transaction holds goes on. -/
theorem perform_isSome {sess : Session} {o : Statement} (h : ∀ w', w' ≠ w → ∀ l ∈ o.locks, l ∉ s.held w') :
    ∃ r s', s.perform w sess o = some (r, s') := by
  have hfree : ∀ locks, locks = o.locks → s.waits w locks = false := by
    rintro locks rfl
    cases hw : s.waits w o.locks with
    | false => rfl
    | true =>
      obtain ⟨w', hne, l, hl, hheld⟩ := waits_iff.1 hw
      exact absurd hheld (h w' hne l hl)
  cases o with
  | insertAccount v =>
    simp only [State.perform]
    split <;> exact ⟨_, _, rfl⟩
  | insertTransaction v => exact insert_isSome (hfree _ rfl)
  | insertEntry v => exact insert_isSome (hfree _ rfl)
  | updateAccountBalance a n => exact insert_isSome (hfree _ rfl)
  | upsertResponse k r t => exact insert_isSome (hfree _ rfl)
  | selectAccount id => exact selectBy_isSome id _
  | selectTransaction id => exact selectBy_isSome id _
  | selectEntries id => exact selectBy_isSome id _
  | updateTransactionStatus st id =>
    simp only [State.perform]
    cases hid : id.value with
    | none => exact ⟨_, _, rfl⟩
    | some u => exact insert_isSome (hfree _ (by simp [Statement.locks, hid]))
  | _ => exact ⟨_, _, rfl⟩

/-- What a plain statement writes: rows under the locks it asked for, and no transaction that is stored already. -/
structure Wrote (o : Statement) (w : Nat) (ws : List Write) (s s' : State) : Prop where
  others : ∀ w', w' ≠ w → s'.writes w' = s.writes w'
  writes : s'.writes w = s.writes w ++ ws
  locks : ∀ l ∈ heldBy ws, l ∈ o.locks ∧ ∀ w', w' ≠ w → l ∉ s.held w'
  entries : s'.db.entries = s.db.entries
  posts : s'.db.posts = s.db.posts
  fresh : ∀ row, .transaction row ∈ ws → ∀ p ∈ s.db.posts, p.id ≠ row.id

theorem Wrote.nothing (o : Statement) (w : Nat) (s : State) : Wrote o w [] s s :=
  ⟨fun _ _ => rfl, by simp, by simp, rfl, rfl, by simp⟩

/-- One write under the locks that were asked for. -/
theorem Wrote.one {o : Statement} {x : Write} (hlocks : ∀ l ∈ x.locks, l ∈ o.locks) (hfree : s.waits w o.locks = false)
    (hfresh : ∀ row, x = .transaction row → ∀ p ∈ s.db.posts, p.id ≠ row.id) : Wrote o w [x] s (s.write w x) where
  others _ hne := s.writes_write_of_ne x hne
  writes := s.writes_write w x
  locks l hl := by
    simp only [heldBy_cons, heldBy_nil, List.append_nil] at hl
    exact ⟨hlocks l hl, fun w' hne => not_waits hfree hne (hlocks l hl)⟩
  entries := rfl
  posts := rfl
  fresh row hrow := hfresh row (List.mem_singleton.1 hrow).symm

/-- What a plain statement that goes well writes. -/
theorem perform_wrote {sess : Session} {o : Statement} (hp : o.plain = true) {a : o.Result}
    (h : s.perform w sess o = some (.ok a, s')) : ∃ ws, Wrote o w ws s s' := by
  have hread : o.reads = true → ∃ ws, Wrote o w ws s s' := by
    intro hr
    obtain rfl := perform_reads hr h
    exact ⟨[], .nothing o w s'⟩
  cases o with
  | begin => cases hp
  | commit => cases hp
  | rollback => cases hp
  | close => cases hp
  | insertAccount v =>
    simp only [State.perform] at h
    split at h
    · cases h
    · cases h
      exact ⟨[], fun _ _ => rfl, (List.append_nil _).symm, by simp, rfl, rfl, by simp⟩
  | insertTransaction v =>
    obtain ⟨hfree, row, hrow, -, rfl⟩ := insert_ok h
    obtain ⟨hid, -, -, -, hnew, hkey, -⟩ := transactionRow_ok hrow
    refine ⟨[.transaction row], .one (fun l hl => ?_) hfree (fun row' heq p hp => ?_)⟩
    · simp only [Write.locks, List.mem_cons] at hl
      simp only [Statement.locks, hkey, Option.bind_some, id_eq, List.mem_cons]
      rw [← hid]
      exact hl
    · obtain rfl := Write.transaction.inj heq
      refine hnew p ?_
      rw [show (s.view w).posts = s.db.posts ++ _ from posts_foldl _ _]
      exact List.mem_append_left _ hp
  | insertEntry v =>
    obtain ⟨hfree, row, hrow, -, rfl⟩ := insert_ok h
    refine ⟨[.entry row], .one (fun l hl => ?_) hfree (fun row' heq => by cases heq)⟩
    simpa [Write.locks, Statement.locks, entryRow_id hrow] using hl
  | updateAccountBalance accountId n =>
    obtain ⟨hfree, -, -, -, rfl⟩ := insert_ok h
    split
    · exact ⟨[.balance accountId n], .one (fun l hl => hl) hfree (fun row' heq => by cases heq)⟩
    · exact ⟨[], .nothing _ w s⟩
  | upsertResponse k r t =>
    obtain ⟨hfree, row, hrow, -, rfl⟩ := insert_ok h
    refine ⟨[.response row], .one (fun l hl => ?_) hfree (fun row' heq => by cases heq)⟩
    cases hk : varchar 255 k with
    | none =>
      rw [hk] at hrow
      cases hrow
    | some key =>
      rw [hk] at hrow
      dsimp only at hrow
      split at hrow
      · cases hrow
      · cases hrow
        simpa [Statement.locks, hk, Write.locks] using hl
  | updateTransactionStatus st id =>
    simp only [State.perform] at h
    cases hid : id.value with
    | none =>
      rw [hid] at h
      cases h
    | some u =>
      rw [hid] at h
      obtain ⟨hfree, -, -, -, rfl⟩ := insert_ok h
      have hlocks : (Statement.updateTransactionStatus st id).locks = [.transactionRow u] := by simp [Statement.locks, hid]
      split
      · refine ⟨[.status u st], .one (fun l hl => ?_) ?_ (fun row' heq => by cases heq)⟩
        · rw [hlocks]
          exact hl
        · rw [hlocks]
          exact hfree
      · exact ⟨[], .nothing _ w s⟩
  | _ => exact hread rfl

/-! ## Entries in ascending order -/

/-- The accounts of entries do not descend. -/
def Ascending (es : List EntryRow) : Prop := (es.map (·.accountId)).Pairwise (· ≤ ·)

theorem Ascending.sublist {es es' : List EntryRow} (h : Ascending es) (hs : es'.Sublist es) : Ascending es' :=
  List.Pairwise.sublist (hs.map _) h

/-- What may be committed: entries of one transaction that is inserted with them, in ascending order. -/
structure Committable (ws : List Write) : Prop where
  entries : ∀ e ∈ entryRows ws, ∃ row, .transaction row ∈ ws ∧ row.id = e.transactionId
  one : ∀ e ∈ entryRows ws, ∀ e' ∈ entryRows ws, e.transactionId = e'.transactionId
  ascending : Ascending (entryRows ws)

theorem committable_nil : Committable [] := ⟨by simp, by simp, by simp [Ascending]⟩

/-- What holds of the ledger at any time: the entries of every transaction are in ascending order and those of one that is stored, a
transaction that is inserted is not stored, and no lock is held twice. -/
structure Ordered (s : State) : Prop where
  ascending : ∀ t, Ascending (entriesOf s.db.entries t)
  known : ∀ e ∈ s.db.entries, ∃ p ∈ s.db.posts, p.id = e.transactionId
  fresh : ∀ w row, .transaction row ∈ s.writes w → ∀ p ∈ s.db.posts, p.id ≠ row.id
  apart : ∀ w w', w ≠ w' → ∀ l ∈ s.held w, l ∉ s.held w'

theorem ordered_empty : Ordered .empty where
  ascending _ := by simp [State.empty, Tables.empty, Ascending, entriesOf]
  known := by simp [State.empty, Tables.empty]
  fresh := by simp [State.empty, State.writes]
  apart := by simp [State.empty, State.held, State.writes]

/-- What a plain statement writes keeps the order. -/
theorem Ordered.wrote {o : Statement} {ws : List Write} (h : Ordered s) (hw : Wrote o w ws s s') : Ordered s' := by
  have hheld : ∀ w', w' ≠ w → s'.held w' = s.held w' := fun w' hne => by
    unfold State.held
    rw [hw.others w' hne]
  have hown : s'.held w = s.held w ++ heldBy ws := by
    unfold State.held
    rw [hw.writes, heldBy_append]
  refine ⟨fun t => ?_, ?_, fun w' row hrow => ?_, fun w₁ w₂ hne l hl hl' => ?_⟩
  · rw [hw.entries]
    exact h.ascending t
  · rw [hw.entries, hw.posts]
    exact h.known
  · rw [hw.posts]
    by_cases hww : w' = w
    · subst hww
      rw [hw.writes] at hrow
      rcases List.mem_append.1 hrow with hrow | hrow
      · exact h.fresh w' row hrow
      · exact hw.fresh row hrow
    · rw [hw.others w' hww] at hrow
      exact h.fresh w' row hrow
  · by_cases h₁ : w₁ = w
    · subst h₁
      rw [hown] at hl
      rw [hheld w₂ hne.symm] at hl'
      rcases List.mem_append.1 hl with hl | hl
      · exact h.apart w₁ w₂ hne l hl hl'
      · exact (hw.locks l hl).2 w₂ hne.symm hl'
    · rw [hheld w₁ h₁] at hl
      by_cases h₂ : w₂ = w
      · subst h₂
        rw [hown] at hl'
        rcases List.mem_append.1 hl' with hl' | hl'
        · exact h.apart w₁ w₂ hne l hl hl'
        · exact (hw.locks l hl').2 w₁ hne hl
      · rw [hheld w₂ h₂] at hl'
        exact h.apart w₁ w₂ hne l hl hl'

/-- Giving a transaction up keeps the order. -/
theorem Ordered.discard (h : Ordered s) (w : Nat) : Ordered (s.discard w) := by
  have hsub : ∀ w' x, x ∈ (s.discard w).writes w' → x ∈ s.writes w' := by
    intro w' x hx
    by_cases hw : w' = w
    · subst hw
      simp at hx
    · rwa [s.writes_discard_of_ne hw] at hx
  have hheld : ∀ w' l, l ∈ (s.discard w).held w' → l ∈ s.held w' := by
    intro w' l hl
    obtain ⟨x, hx, hl⟩ := List.mem_flatMap.1 hl
    exact List.mem_flatMap.2 ⟨x, hsub w' x hx, hl⟩
  exact ⟨h.ascending, h.known, fun w' row hrow => h.fresh w' row (hsub _ _ hrow),
    fun w₁ w₂ hne l hl hl' => h.apart w₁ w₂ hne l (hheld _ _ hl) (hheld _ _ hl')⟩

/-- Committing a transaction keeps the order. -/
theorem Ordered.commit (h : Ordered s) (hc : Committable (s.writes w)) : Ordered (s.commit w) := by
  have hentries : (s.commit w).db.entries = s.db.entries ++ entryRows (s.writes w) := s.entries_view w
  have hposts : (s.commit w).db.posts = s.db.posts ++ ((s.writes w).filterMap Write.transaction?).map post := posts_foldl _ _
  have hdiscard := h.discard w
  refine ⟨fun t => ?_, fun e he => ?_, fun w' row hrow p hp => ?_, hdiscard.apart⟩
  · rw [hentries, entriesOf_append]
    by_cases ht : ∃ e ∈ entryRows (s.writes w), e.transactionId = t
    · obtain ⟨e, he, rfl⟩ := ht
      obtain ⟨row, hrow, hid⟩ := hc.entries e he
      have hnone : entriesOf s.db.entries e.transactionId = [] := entriesOf_eq_nil (fun x hx heq => by
        obtain ⟨p, hp, hpid⟩ := h.known x hx
        exact h.fresh w row hrow p hp (hpid.trans (heq.trans hid.symm)))
      rw [hnone, List.nil_append]
      exact hc.ascending.sublist List.filter_sublist
    · have hnone : entriesOf (entryRows (s.writes w)) t = [] := entriesOf_eq_nil (fun x hx heq => ht ⟨x, hx, heq⟩)
      rw [hnone, List.append_nil]
      exact h.ascending t
  · rw [hentries] at he
    rw [hposts]
    rcases List.mem_append.1 he with he | he
    · obtain ⟨p, hp, hid⟩ := h.known e he
      exact ⟨p, List.mem_append_left _ hp, hid⟩
    · obtain ⟨row, hrow, hid⟩ := hc.entries e he
      exact ⟨post row, List.mem_append_right _ (List.mem_map_of_mem (List.mem_filterMap.2 ⟨.transaction row, hrow, rfl⟩)), hid⟩
  · have hne : w' ≠ w := by
      rintro rfl
      rw [s.writes_commit w'] at hrow
      cases hrow
    rw [s.writes_commit_of_ne hne] at hrow
    rw [hposts] at hp
    rcases List.mem_append.1 hp with hp | hp
    · exact h.fresh w' row hrow p hp
    · obtain ⟨row', hrow', rfl⟩ := List.mem_map.1 hp
      obtain ⟨x, hx, hxrow⟩ := List.mem_filterMap.1 hrow'
      intro heq
      have hl : Lock.transactionId row.id ∈ s.held w' :=
        List.mem_flatMap.2 ⟨.transaction row, hrow, by simp [Write.locks]⟩
      refine h.apart w' w hne _ hl (List.mem_flatMap.2 ⟨x, hx, ?_⟩)
      cases x with
      | transaction row'' =>
        obtain rfl := Option.some.inj hxrow
        rw [← heq]
        simp [Write.locks, post]
      | _ => cases hxrow

/-! ## Calls that list accounts in ascending order -/

/-- Where a call takes its uuids from. -/
def Call.env : Call → Env
  | .createAccount env _ _ _ _ _ => env
  | .postTransaction env _ => env
  | .reverseTransaction env _ _ _ => env

/-- The accounts of a request do not descend. -/
def AscendingRequest (entries : List PostJournalEntryRequest) : Prop := (entries.filterMap (·.accountId.value)).Pairwise (· ≤ ·)

/-- A posting lists its accounts in ascending order. -/
def Call.Ascends : Call → Prop
  | .postTransaction _ req => AscendingRequest req.entries
  | _ => True

/-- Two calls are given no common uuid. -/
def Call.Apart (c c' : Call) : Prop := ∀ i j, c.env.uuid i ≠ c'.env.uuid j

/-- Every posting lists its accounts in ascending order, and is given uuids that no call that is live was given. -/
def orderedPostings : machine.recorded.Cond := ⟨fun cfg c => c.Ascends ∧ ∀ x ∈ cfg.live, c.Apart x.call, fun _ _ _ => True⟩

/-- The same, and a worker that is started has nothing pending. -/
def freshPostings : machine.recorded.Cond :=
  ⟨fun cfg c => orderedPostings.start cfg c ∧ cfg.state.1.writes cfg.started = [], fun _ _ _ => True⟩

/-- The new rows of some locks are a call's own. -/
def Mine (c : Call) (locks : List Lock) : Prop := ∀ l ∈ locks, ∀ u, l.uuid? = some u → ∃ i, c.env.uuid i = u

/-- A statement of a call asks for locks that come after those the call's transaction holds. -/
structure Mannered (c : Call) (ws : List Write) (locks : List Lock) : Prop where
  mine : Mine c (heldBy ws)
  asks : Mine c locks
  order : ∀ l ∈ heldBy ws, l.uuid? = none → ∀ l' ∈ locks, l'.uuid? = none → l.rank < l'.rank ∨ l = l'

/-- The outline of calls that list accounts in ascending order. -/
def lockOutline : Machine.Outline machine.recorded where
  inv st := Ordered st.1
  rely w _ st st' := st'.1.writes w = st.1.writes w
  guar w c st st' := (∀ w', w' ≠ w → st'.1.writes w' = st.1.writes w') ∧
    ∃ (o : Session × Statement) (r : Except LedgerError o.2.Result), st'.2 = st.2 ++ [⟨w, o, r⟩] ∧
      Mannered c (st.1.writes w) o.2.locks
  compat _ c _ c' := c.Apart c'
  post w _ _ st := st.1.writes w = []

/-- What a worker's calls do. -/
abbrev LockDoes (w : Nat) : (o : Session × Statement) → machine.recorded.State → Except LedgerError o.2.Result →
    machine.recorded.State → Prop := machine.recorded.Does freshPostings w

variable {c : Call} {st : machine.recorded.State} {sess : Session}

theorem mannered_nil {ws : List Write} (h : Mine c (heldBy ws)) : Mannered c ws [] := ⟨h, by simp [Mine], by simp⟩

/-- One plain statement. -/
theorem query_locks {o : Statement} (hp : o.plain = true) {Q : Except LedgerError o.Result → machine.recorded.State → Prop}
    (hmannered : Mannered c (st.1.writes w) o.locks)
    (herr : ∀ e st', st'.1.writes w = st.1.writes w → Q (.error e) st')
    (hok : ∀ s₁ a s₂ log, s₁.writes w = st.1.writes w → Ordered s₁ → s₁.perform w sess o = some (.ok a, s₂) →
      Q (.ok a) (s₂, log)) :
    (query sess o).wp (LockDoes w) (lockOutline.contract w c) Q st := by
  refine (Prog.wp_perform (S := signature) (sess, o) st).2 ?_
  rintro ⟨s₁, log⟩ hrely hinv r st₂ ⟨-, fails, he⟩
  obtain ⟨⟨r', s₂⟩, hx, heq⟩ := Option.map_eq_some_iff.1 he
  obtain ⟨rfl, rfl⟩ := Prod.mk.inj heq
  have hrely' : s₁.writes w = st.1.writes w := hrely
  have hman : Mannered c (s₁.writes w) o.locks := by
    rw [hrely']
    exact hmannered
  have hsame : s₂ = s₁ → Ordered s₂ ∧ ∀ w', w' ≠ w → s₂.writes w' = s₁.writes w' := by
    rintro rfl
    exact ⟨hinv, fun _ _ => rfl⟩
  replace hx : exec w (sess, o) fails s₁ = some (r', s₂) := hx
  unfold exec at hx
  split at hx
  · have hfail : s₁.fail w o = (.error (.database .failure), s₁) := by
      cases o <;> first | rfl | cases hp
    rw [hfail] at hx
    cases hx
    exact ⟨hinv, ⟨fun _ _ => rfl, _, _, rfl, hman⟩, herr _ _ hrely'⟩
  · cases r' with
    | ok a =>
      obtain ⟨ws, hw⟩ := perform_wrote hp hx
      exact ⟨Ordered.wrote hinv hw, ⟨hw.others, _, _, rfl, hman⟩, hok s₁ a s₂ _ hrely' hinv hx⟩
    | error e =>
      obtain rfl := perform_error hp hx
      exact ⟨hinv, ⟨fun _ _ => rfl, _, _, rfl, hman⟩, herr e _ hrely'⟩

/-- A statement that only reads. -/
theorem read_locks {o : Statement} (hp : o.reads = true) {Q : Except LedgerError o.Result → machine.recorded.State → Prop}
    (hmine : Mine c (heldBy (st.1.writes w))) (herr : ∀ e st', st'.1.writes w = st.1.writes w → Q (.error e) st')
    (hok : ∀ s₁ a log, s₁.writes w = st.1.writes w → Ordered s₁ → s₁.perform w sess o = some (.ok a, s₁) →
      Q (.ok a) (s₁, log)) :
    (query sess o).wp (LockDoes w) (lockOutline.contract w c) Q st := by
  have hplain : o.plain = true := by
    cases o <;> first | rfl | cases hp
  have hlocks : o.locks = [] := by
    cases o <;> first | rfl | cases hp
  refine query_locks hplain (by rw [hlocks]; exact mannered_nil hmine) herr (fun s₁ a s₂ log hw ho he => ?_)
  obtain rfl := perform_reads hp he
  exact hok s₂ a log hw ho he

/-- A statement that opens or gives up a transaction. -/
theorem discard_locks {o : Statement} (ho : o = .begin ∨ o = .rollback ∨ o = .close)
    {Q : Except LedgerError o.Result → machine.recorded.State → Prop} (hmine : Mine c (heldBy (st.1.writes w)))
    (h : ∀ r st', st'.1.writes w = [] ∨ (o = .begin ∧ st'.1.writes w = st.1.writes w ∧ ∃ e, r = .error e) → Q r st') :
    (query sess o).wp (LockDoes w) (lockOutline.contract w c) Q st := by
  refine (Prog.wp_perform (S := signature) (sess, o) st).2 ?_
  rintro ⟨s₁, log⟩ hrely hinv r st₂ ⟨-, fails, he⟩
  obtain ⟨⟨r', s₂⟩, hx, heq⟩ := Option.map_eq_some_iff.1 he
  obtain ⟨rfl, rfl⟩ := Prod.mk.inj heq
  have hrely' : s₁.writes w = st.1.writes w := hrely
  have hman : Mannered c (s₁.writes w) o.locks := by
    rw [hrely']
    rcases ho with rfl | rfl | rfl <;> exact mannered_nil hmine
  have hdiscard : s₂ = s₁.discard w ∨ (o = .begin ∧ s₂ = s₁ ∧ ∃ e, r' = .error e) := by
    replace hx : exec w (sess, o) fails s₁ = some (r', s₂) := hx
    unfold exec at hx
    split at hx <;> rcases ho with rfl | rfl | rfl <;> cases hx <;> simp
  rcases hdiscard with rfl | ⟨rfl, rfl, hr⟩
  · exact ⟨Ordered.discard hinv w, ⟨fun _ hne => s₁.writes_discard_of_ne hne, _, _, rfl, hman⟩,
      h _ _ (Or.inl (s₁.writes_discard w))⟩
  · exact ⟨hinv, ⟨fun _ _ => rfl, _, _, rfl, hman⟩, h _ _ (Or.inr ⟨rfl, hrely', hr⟩)⟩

/-- `COMMIT` of what may be committed. -/
theorem commit_locks {Q : Except LedgerError Unit → machine.recorded.State → Prop} (hmine : Mine c (heldBy (st.1.writes w)))
    (hc : Committable (st.1.writes w)) (h : ∀ r st', st'.1.writes w = [] → Q r st') :
    (query sess .commit).wp (LockDoes w) (lockOutline.contract w c) Q st := by
  refine (Prog.wp_perform (S := signature) (sess, .commit) st).2 ?_
  rintro ⟨s₁, log⟩ hrely hinv r st₂ ⟨-, fails, he⟩
  obtain ⟨⟨r', s₂⟩, hx, heq⟩ := Option.map_eq_some_iff.1 he
  obtain ⟨rfl, rfl⟩ := Prod.mk.inj heq
  have hrely' : s₁.writes w = st.1.writes w := hrely
  have hman : Mannered c (s₁.writes w) [] := by
    rw [hrely']
    exact mannered_nil hmine
  replace hx : exec w (sess, .commit) fails s₁ = some (r', s₂) := hx
  unfold exec at hx
  split at hx
  · cases hx
    exact ⟨Ordered.discard hinv w, ⟨fun _ hne => s₁.writes_discard_of_ne hne, _, _, rfl, hman⟩, h _ _ (s₁.writes_discard w)⟩
  · cases hx
    refine ⟨Ordered.commit hinv ?_, ⟨fun _ hne => s₁.writes_commit_of_ne hne, _, _, rfl, hman⟩, h _ _ (s₁.writes_commit w)⟩
    rw [hrely']
    exact hc

/-! ## The transaction of a posting -/

/-- The open transaction of a posting: its row, and entries on accounts in ascending order, none after those that are still to come.
Its locks come before those of class `top`. -/
structure Climbing (c : Call) (id : Uuid) (todo : List Uuid) (top : Nat) (ws : List Write) : Prop where
  mine : Mine c (heldBy ws)
  row : ∃ row, .transaction row ∈ ws ∧ row.id = id
  entries : ∀ e ∈ entryRows ws, e.transactionId = id
  ascending : Ascending (entryRows ws)
  below : ∀ e ∈ entryRows ws, ∀ a ∈ todo, e.accountId ≤ a
  behind : ∀ l ∈ heldBy ws, l.uuid? = none → ∀ a ∈ todo, l.rank ≤ toLex (1, a)
  under : ∀ l ∈ heldBy ws, l.uuid? = none → l.rank < toLex (top, 0)

variable {id : Uuid} {todo todo' : List Uuid} {top : Nat} {ws : List Write}

theorem Climbing.committable (h : Climbing c id todo top ws) : Committable ws where
  entries e he := by
    obtain ⟨row, hrow, hid⟩ := h.row
    exact ⟨row, hrow, hid.trans (h.entries e he).symm⟩
  one e he e' he' := (h.entries e he).trans (h.entries e' he').symm
  ascending := h.ascending

theorem Climbing.fewer (h : Climbing c id todo top ws) (hsub : ∀ a ∈ todo', a ∈ todo) : Climbing c id todo' top ws :=
  { h with below := fun e he a ha => h.below e he a (hsub a ha), behind := fun l hl hu a ha => h.behind l hl hu a (hsub a ha) }

/-- A write that is no entry. -/
theorem Climbing.write (h : Climbing c id todo top ws) {x : Write} {top' : Nat} (hx : x.entryOf = none) (hmine : Mine c x.locks)
    (hbehind : ∀ l ∈ x.locks, ∀ a ∈ todo, l.rank ≤ toLex (1, a)) (hunder : ∀ l ∈ x.locks, l.rank < toLex (top', 0))
    (htop : top ≤ top') : Climbing c id todo top' (ws ++ [x]) := by
  have hrows : entryRows (ws ++ [x]) = entryRows ws := by simp [hx]
  have hheld : heldBy (ws ++ [x]) = heldBy ws ++ x.locks := by simp
  have hle : toLex (top, 0) ≤ toLex (top', 0) := by
    rw [Prod.Lex.toLex_le_toLex]
    rcases Nat.lt_or_eq_of_le htop with hlt | heq
    · exact Or.inl hlt
    · exact Or.inr ⟨heq, Nat.le_refl 0⟩
  refine ⟨?_, ?_, ?_, ?_, ?_, ?_, ?_⟩
  · intro l hl
    rw [hheld] at hl
    exact (List.mem_append.1 hl).elim (h.mine l) (hmine l)
  · obtain ⟨row, hrow, hid⟩ := h.row
    exact ⟨row, List.mem_append_left _ hrow, hid⟩
  · rw [hrows]
    exact h.entries
  · rw [hrows]
    exact h.ascending
  · rw [hrows]
    exact h.below
  · intro l hl hu
    rw [hheld] at hl
    exact (List.mem_append.1 hl).elim (fun hl => h.behind l hl hu) (hbehind l)
  · intro l hl hu
    rw [hheld] at hl
    exact (List.mem_append.1 hl).elim (fun hl => lt_of_lt_of_le (h.under l hl hu) hle) (hunder l)

/-- An entry on the next account. -/
theorem Climbing.entry {row : EntryRow} (h : Climbing c id (row.accountId :: todo) top ws) (hid : row.transactionId = id)
    (hown : ∃ i, c.env.uuid i = row.id) (htodo : ∀ a ∈ todo, row.accountId ≤ a) :
    Climbing c id (row.accountId :: todo) top (ws ++ [.entry row]) := by
  have hrows : entryRows (ws ++ [.entry row]) = entryRows ws ++ [row] := by simp [Write.entryOf]
  have hheld : heldBy (ws ++ [.entry row]) = heldBy ws ++ [.entryId row.id] := by simp [Write.locks]
  have hpublic : ∀ l ∈ heldBy (ws ++ [.entry row]), l.uuid? = none → l ∈ heldBy ws := by
    intro l hl hu
    rw [hheld] at hl
    rcases List.mem_append.1 hl with hl | hl
    · exact hl
    · obtain rfl := List.mem_singleton.1 hl
      cases hu
  refine ⟨?_, ?_, ?_, ?_, ?_, fun l hl hu => h.behind l (hpublic l hl hu) hu, fun l hl hu => h.under l (hpublic l hl hu) hu⟩
  · intro l hl u hu
    rw [hheld] at hl
    rcases List.mem_append.1 hl with hl | hl
    · exact h.mine l hl u hu
    · obtain rfl := List.mem_singleton.1 hl
      cases hu
      exact hown
  · obtain ⟨row', hrow, hid'⟩ := h.row
    exact ⟨row', List.mem_append_left _ hrow, hid'⟩
  · intro e he
    rw [hrows] at he
    rcases List.mem_append.1 he with he | he
    · exact h.entries e he
    · rw [List.mem_singleton.1 he]
      exact hid
  · unfold Ascending
    rw [hrows, List.map_append, List.pairwise_append]
    refine ⟨h.ascending, List.pairwise_singleton _ _, fun a ha b hb => ?_⟩
    obtain ⟨e, he, rfl⟩ := List.mem_map.1 ha
    obtain rfl : b = row.accountId := by simpa using hb
    exact h.below e he _ List.mem_cons_self
  · intro e he a ha
    rw [hrows] at he
    rcases List.mem_append.1 he with he | he
    · exact h.below e he a ha
    · obtain rfl := List.mem_singleton.1 he
      rcases List.mem_cons.1 ha with rfl | ha
      · exact Nat.le_refl _
      · exact htodo a ha

/-- A lock that is not after an account is before it or is the account's. -/
theorem rank_account {l : Lock} {a : Uuid} (hu : l.uuid? = none) (h : l.rank ≤ toLex (1, a)) :
    l.rank < (Lock.account a).rank ∨ l = .account a := by
  cases l with
  | account b =>
    rw [Lock.rank, Prod.Lex.toLex_le_toLex] at h
    rcases h with h | ⟨-, h⟩
    · exact absurd h (Nat.lt_irrefl 1)
    · rcases Nat.lt_or_eq_of_le h with h | h
      · exact Or.inl (Prod.Lex.toLex_lt_toLex.2 (Or.inr ⟨rfl, h⟩))
      · exact Or.inr (congrArg Lock.account h)
  | transactionKey k => exact Or.inl (Prod.Lex.toLex_lt_toLex.2 (Or.inl Nat.one_pos))
  | transactionId _ => cases hu
  | entryId _ => cases hu
  | responseKey k =>
    rw [Lock.rank, Prod.Lex.toLex_le_toLex] at h
    omega
  | transactionRow t =>
    rw [Lock.rank, Prod.Lex.toLex_le_toLex] at h
    omega

/-- The insert of an entry and the write of its trigger. -/
theorem insertEntry_locks {v : EntryValues} {Q : Except LedgerError EntryRow → machine.recorded.State → Prop}
    (hc : Climbing c id (v.accountId.value.toList ++ todo) 2 (st.1.writes w)) (hid : v.transactionId = id)
    (hown : ∃ i, c.env.uuid i = v.id) (htodo : ∀ a ∈ v.accountId.value, ∀ b ∈ todo, a ≤ b)
    (herr : ∀ e st', Mine c (heldBy (st'.1.writes w)) → Q (.error e) st')
    (hok : ∀ row st', Climbing c id todo 2 (st'.1.writes w) → Q (.ok row) st') :
    (insertEntry sess v).wp (LockDoes w) (lockOutline.contract w c) Q st := by
  unfold insertEntry
  rw [Prog.wp_bind]
  refine query_locks rfl ⟨hc.mine, ?_, by simp [Statement.locks, Lock.uuid?]⟩ (fun e st' h => herr e st' (h ▸ hc.mine)) ?_
  · intro l hl u hu
    obtain rfl := List.mem_singleton.1 hl
    cases hu
    exact hown
  rintro s₁ ⟨row, sum⟩ s₂ log hw₁ - hx
  obtain ⟨-, row', hrow, heq, rfl⟩ := insert_ok hx
  obtain ⟨rfl, -⟩ := Prod.mk.inj heq
  obtain ⟨ht, -, hacc, -⟩ := entryRow_ok hrow
  rw [hacc] at hc htodo
  have hentry := hc.entry (ht.trans hid) (by rw [entryRow_id hrow]; exact hown) (htodo _ rfl)
  have hw₂ : (s₁.write w (.entry row)).writes w = st.1.writes w ++ [.entry row] := by rw [State.writes_write, hw₁]
  rw [← hw₂] at hentry
  dsimp only
  rw [Prog.wp_bind]
  refine query_locks rfl ⟨hentry.mine, by simp [Mine, Statement.locks, Lock.uuid?], ?_⟩
    (fun e st' h => herr e st' (h ▸ hentry.mine)) ?_
  · intro l hl hu l' hl' _
    obtain rfl := List.mem_singleton.1 hl'
    exact rank_account hu (hentry.behind l hl hu _ List.mem_cons_self)
  intro s₃ _ s₄ log' hw₃ _ hx
  obtain ⟨-, -, -, -, rfl⟩ := insert_ok hx
  refine hok row _ ?_
  replace hentry : Climbing c id todo 2 (s₃.writes w) := by
    rw [hw₃]
    exact hentry.fewer (fun a ha => List.mem_cons_of_mem _ ha)
  dsimp only
  split
  · simp only [List.foldl_cons, List.foldl_nil, State.writes_write]
    refine hentry.write rfl (by simp [Mine, Write.locks, Lock.uuid?]) ?_ ?_ (Nat.le_refl 2)
    · intro l hl a ha
      obtain rfl := List.mem_singleton.1 hl
      exact Prod.Lex.toLex_le_toLex.2 (Or.inr ⟨rfl, htodo _ rfl a ha⟩)
    · intro l hl
      obtain rfl := List.mem_singleton.1 hl
      exact Prod.Lex.toLex_lt_toLex.2 (Or.inl (Nat.lt_succ_self 1))
  · exact hentry

/-- The entries of a request that lists its accounts in ascending order. -/
theorem postEntries_locks {es : List PostJournalEntryRequest} {i : Nat}
    {Q : Except LedgerError (List EntryRow) → machine.recorded.State → Prop} (hasc : AscendingRequest es)
    (hc : Climbing c id (es.filterMap (·.accountId.value)) 2 (st.1.writes w))
    (herr : ∀ e st', Mine c (heldBy (st'.1.writes w)) → Q (.error e) st')
    (hok : ∀ rows st', Climbing c id [] 2 (st'.1.writes w) → Q (.ok rows) st') :
    (postEntries c.env sess id i es).wp (LockDoes w) (lockOutline.contract w c) Q st := by
  induction es generalizing i st Q with
  | nil => exact hok [] st hc
  | cons e es ih =>
    have hcons : (e :: es).filterMap (·.accountId.value) = e.accountId.value.toList ++ es.filterMap (·.accountId.value) := by
      rw [List.filterMap_cons]
      cases e.accountId.value <;> rfl
    unfold AscendingRequest at hasc
    rw [hcons] at hasc hc
    obtain ⟨-, hes, hbefore⟩ := List.pairwise_append.1 hasc
    unfold postEntries
    rw [Prog.wp_bind]
    refine read_locks rfl hc.mine (fun e st' h => herr e st' (h ▸ hc.mine)) (fun s₁ found log hw₁ _ _ => ?_)
    dsimp only
    split
    · exact herr _ _ (hw₁ ▸ hc.mine)
    · rw [Prog.wp_bind]
      replace hc : Climbing c id (e.accountId.value.toList ++ es.filterMap (·.accountId.value)) 2 (s₁.writes w) := hw₁ ▸ hc
      refine insertEntry_locks hc rfl ⟨i + 1, rfl⟩
        (fun a ha b hb => hbefore a (Option.mem_toList.2 ha) b hb) herr (fun row st₂ hc₂ => ?_)
      dsimp only
      rw [Prog.wp_bind]
      exact ih hes hc₂ herr (fun rows st₃ hc₃ => hok _ st₃ hc₃)

/-- Storing the response of a posting. -/
theorem storeIdempotencyResponse_locks {key : Option String} {t : Transaction}
    {Q : Except LedgerError Unit → machine.recorded.State → Prop} (hc : Climbing c id [] 2 (st.1.writes w))
    (herr : ∀ e st', Mine c (heldBy (st'.1.writes w)) → Q (.error e) st')
    (hok : ∀ st', Climbing c id [] 3 (st'.1.writes w) → Q (.ok ()) st') :
    (storeIdempotencyResponse c.env sess key t).wp (LockDoes w) (lockOutline.contract w c) Q st := by
  have hlater : Climbing c id [] 3 (st.1.writes w) :=
    { hc with under := fun l hl hu => (hc.under l hl hu).trans (Prod.Lex.toLex_lt_toLex.2 (Or.inl (Nat.lt_succ_self 2))) }
  unfold storeIdempotencyResponse
  split
  · rename_i key
    have hkeys : ∀ l ∈ (Statement.upsertResponse key t (c.env.now + responseLifetime)).locks, ∃ k, l = .responseKey k := by
      intro l hl
      obtain ⟨k, -, rfl⟩ := List.mem_map.1 hl
      exact ⟨k, rfl⟩
    refine query_locks rfl ⟨hc.mine, ?_, ?_⟩ (fun e st' h => herr e st' (h ▸ hc.mine)) ?_
    · intro l hl u hu
      obtain ⟨k, rfl⟩ := hkeys l hl
      cases hu
    · intro l hl hu l' hl' _
      obtain ⟨k, rfl⟩ := hkeys l' hl'
      exact Or.inl (hc.under l hl hu)
    · intro s₁ _ s₂ log hw₁ _ hx
      obtain ⟨-, response, -, -, rfl⟩ := insert_ok hx
      refine hok _ ?_
      simp only [List.foldl_cons, List.foldl_nil, State.writes_write, hw₁]
      exact hc.write rfl (by simp [Mine, Write.locks, Lock.uuid?]) (by simp) (by simp [Write.locks, Lock.rank, Prod.Lex.toLex_lt_toLex])
        (Nat.le_succ 2)
  · exact hok st hlater

/-- A posting that is not a replay. -/
theorem postNew_locks {req : PostTransactionRequest} {reverses : Option Uuid}
    {Q : Except LedgerError Transaction → machine.recorded.State → Prop} (hw : st.1.writes w = [])
    (hasc : AscendingRequest req.entries) (herr : ∀ e st', Mine c (heldBy (st'.1.writes w)) → Q (.error e) st')
    (hok : ∀ t st', Climbing c (c.env.uuid 0) [] 3 (st'.1.writes w) → Q (.ok t) st') :
    (postNew c.env sess req reverses).wp (LockDoes w) (lockOutline.contract w c) Q st := by
  have hnone : Mine c (heldBy (st.1.writes w)) := by simp [hw, Mine]
  unfold postNew
  split
  · exact herr _ st hnone
  · dsimp only
    rw [Prog.wp_bind]
    refine query_locks rfl ⟨hnone, ?_, by simp [hw]⟩ (fun e st' h => herr e st' (h ▸ hnone)) ?_
    · intro l hl u hu
      rcases List.mem_cons.1 hl with rfl | hl
      · cases hu
        exact ⟨0, rfl⟩
      · obtain ⟨k, -, rfl⟩ := List.mem_map.1 hl
        cases hu
    intro s₁ _ s₂ log hw₁ _ hx
    obtain ⟨-, row, hrow, -, rfl⟩ := insert_ok hx
    obtain ⟨hid, -⟩ := transactionRow_ok hrow
    have hlocks : ∀ l ∈ heldBy [.transaction row], l = .transactionId (c.env.uuid 0) ∨ ∃ k, l = .transactionKey k := by
      intro l hl
      simp only [heldBy_cons, heldBy_nil, List.append_nil, Write.locks, List.mem_cons] at hl
      rcases hl with rfl | hl
      · exact Or.inl (congrArg Lock.transactionId hid)
      · obtain ⟨k, -, rfl⟩ := List.mem_map.1 hl
        exact Or.inr ⟨k, rfl⟩
    have hc : Climbing c (c.env.uuid 0) (req.entries.filterMap (·.accountId.value)) 2 [.transaction row] := by
      refine ⟨fun l hl u hu => ?_, ⟨row, List.mem_singleton_self _, hid⟩, by simp [Write.entryOf],
        by simp [Write.entryOf, Ascending], by simp [Write.entryOf], fun l hl hu a _ => ?_, fun l hl hu => ?_⟩
      · rcases hlocks l hl with rfl | ⟨k, rfl⟩ <;> cases hu
        exact ⟨0, rfl⟩
      · rcases hlocks l hl with rfl | ⟨k, rfl⟩
        · cases hu
        · exact Prod.Lex.toLex_le_toLex.2 (Or.inl Nat.one_pos)
      · rcases hlocks l hl with rfl | ⟨k, rfl⟩
        · cases hu
        · exact Prod.Lex.toLex_lt_toLex.2 (Or.inl Nat.two_pos)
    have hw₂ : (s₁.write w (.transaction row)).writes w = [.transaction row] := by
      rw [State.writes_write, hw₁, hw, List.nil_append]
    rw [← hw₂] at hc
    dsimp only
    rw [Prog.wp_bind]
    refine postEntries_locks hasc hc herr (fun rows st₃ hc₃ => ?_)
    dsimp only
    rw [Prog.wp_bind]
    refine read_locks rfl hc₃.mine (fun e st' h => herr e st' (h ▸ hc₃.mine)) (fun s₄ isBalanced log₄ hw₄ _ _ => ?_)
    dsimp only
    split
    · exact herr _ _ (hw₄ ▸ hc₃.mine)
    · rw [Prog.wp_bind]
      refine storeIdempotencyResponse_locks (hw₄ ▸ hc₃) herr (fun st₅ hc₅ => ?_)
      dsimp only
      rw [Prog.wp_bind]
      exact read_locks rfl hc₅.mine (fun e st' h => herr e st' (h ▸ hc₅.mine)) (fun s₆ _ log₆ hw₆ _ _ => hok _ _ (hw₆ ▸ hc₅))

/-- A posting, replayed or new. -/
theorem postWithClient_locks {req : PostTransactionRequest} {reverses : Option Uuid}
    {Q : Except LedgerError Transaction → machine.recorded.State → Prop} (hw : st.1.writes w = [])
    (hasc : AscendingRequest req.entries) (herr : ∀ e st', Mine c (heldBy (st'.1.writes w)) → Q (.error e) st')
    (hreplay : ∀ t st', st'.1.writes w = [] → Q (.ok t) st')
    (hok : ∀ t st', Climbing c (c.env.uuid 0) [] 3 (st'.1.writes w) → Q (.ok t) st') :
    (postWithClient c.env sess req reverses).wp (LockDoes w) (lockOutline.contract w c) Q st := by
  have hnone : Mine c (heldBy (st.1.writes w)) := by simp [hw, Mine]
  unfold postWithClient
  split
  · rw [Prog.wp_bind]
    refine read_locks rfl hnone (fun e st' h => herr e st' (h ▸ hnone)) (fun s₁ response log hw₁ _ _ => ?_)
    cases response with
    | some t => exact hreplay t _ (hw₁.trans hw)
    | none => exact postNew_locks (hw₁.trans hw) hasc herr hok
  · exact postNew_locks hw hasc herr hok

/-! ## The calls -/

/-- A transaction whose body leaves what may be committed. -/
theorem inTransaction_locks {α : Type} {body : Action α} (hmine : Mine c (heldBy (st.1.writes w)))
    (hbody : ∀ st₁, st₁.1.writes w = [] → body.wp (LockDoes w) (lockOutline.contract w c)
      (fun r st' => Mine c (heldBy (st'.1.writes w)) ∧ ∀ a, r = .ok a → Committable (st'.1.writes w)) st₁) :
    (inTransaction sess body).wp (LockDoes w) (lockOutline.contract w c) (fun _ st' => Mine c (heldBy (st'.1.writes w))) st := by
  have hempty : ∀ st' : machine.recorded.State, st'.1.writes w = [] → Mine c (heldBy (st'.1.writes w)) := by
    intro st' h
    simp [h, Mine]
  unfold inTransaction
  refine Prog.wp_handle (show Prog.wp _ _ _ (fun _ st' => Mine c (heldBy (st'.1.writes w))) _ from ?_) (fun _ _ h => h) ?_
  · rw [Prog.wp_bind]
    refine discard_locks (Or.inl rfl) hmine (fun r st₁ h => ?_)
    rcases h with h | ⟨-, h, e, rfl⟩
    · cases r with
      | error e => exact hempty st₁ h
      | ok _ =>
        dsimp only
        refine Prog.wp_seq (hbody st₁ h) (fun a st₂ h₂ => ?_) (fun e st₂ h₂ => h₂.1)
        rw [Prog.wp_bind]
        refine commit_locks h₂.1 (h₂.2 a rfl) (fun r st₃ h₃ => ?_)
        cases r <;> exact hempty st₃ h₃
    · exact h ▸ hmine
  · intro e st₁ h
    rw [Prog.wp_bind]
    refine discard_locks (Or.inr (Or.inl rfl)) h (fun r st₂ h₂ => ?_)
    rcases h₂ with h₂ | ⟨h₂, -⟩
    · cases r <;> exact hempty st₂ h₂
    · cases h₂

/-- A session that is closed whatever its body does. -/
theorem withSession_locks {α : Type} {body : Action α} (hw : st.1.writes w = [])
    (hbody : ∀ st₁, st₁.1.writes w = [] → body.wp (LockDoes w) (lockOutline.contract w c)
      (fun _ st' => Mine c (heldBy (st'.1.writes w))) st₁) :
    (withSession sess body).wp (LockDoes w) (lockOutline.contract w c) (fun _ st' => st'.1.writes w = []) st := by
  unfold withSession
  split
  · exact hw
  · rw [Prog.wp_bind]
    refine read_locks rfl (by simp [hw, Mine]) (fun _ _ h => h.trans hw) (fun s₁ _ log hw₁ _ _ => ?_)
    dsimp only
    rw [Prog.wp_ensure]
    refine Prog.wp_mono (fun r st₂ h₂ => ?_) _ (hbody _ (hw₁.trans hw))
    refine discard_locks (Or.inr (Or.inr rfl)) h₂ (fun r' st₃ h₃ => ?_)
    rcases h₃ with h₃ | ⟨h₃, -⟩
    · cases r' <;> exact h₃
    · cases h₃

/-- The entries a reversal posts are in the order of the entries it takes back. -/
theorem reversal_ascending {s : State} (h : Ordered s) (hw : s.writes w = []) (t : Uuid) :
    AscendingRequest ((entriesOf ((s.view w).entriesSeen sess) t).map reversalEntry) := by
  have haccounts : ∀ es : List EntryRow, (es.map reversalEntry).filterMap (·.accountId.value) = es.map (·.accountId) := by
    intro es
    rw [List.filterMap_map]
    exact List.filterMap_eq_map (f := EntryRow.accountId) ▸ rfl
  unfold AscendingRequest
  rw [haccounts, State.view_of_nil hw]
  exact (h.ascending t).sublist (List.filter_sublist.filter _)

/-- What the update of a status writes. -/
theorem updateTransactionStatus_writes {s s' : State} {status : TransactionStatus} {id : UuidText} {a : Unit}
    (h : s.perform w sess (.updateTransactionStatus status id) = some (.ok a, s')) :
    s'.writes w = s.writes w ∨ ∃ t, s'.writes w = s.writes w ++ [.status t status] := by
  simp only [State.perform] at h
  split at h
  · cases h
  · rename_i t _
    obtain ⟨-, -, -, -, rfl⟩ := insert_ok h
    split
    · exact Or.inr ⟨t, s.writes_write w _⟩
    · exact Or.inl rfl

/-- Every call asks for its locks in the order. -/
theorem program_locks (hc : c.Ascends) (hw : st.1.writes w = []) :
    c.program.wp (LockDoes w) (lockOutline.contract w c) (fun _ st' => st'.1.writes w = []) st := by
  have hnone : ∀ st' : machine.recorded.State, st'.1.writes w = [] → Mine c (heldBy (st'.1.writes w)) := by
    intro st' h
    simp [h, Mine]
  have hmap : ∀ {α : Type} {p : Action α} {f : α → Reply},
      p.wp (LockDoes w) (lockOutline.contract w c) (fun _ st' => st'.1.writes w = []) st →
      (do return f (← p) : Action Reply).wp (LockDoes w) (lockOutline.contract w c) (fun _ st' => st'.1.writes w = []) st := by
    intro α p f hp
    refine (Prog.wp_bind _ _ _).2 (Prog.wp_mono ?_ _ hp)
    intro r _ h
    cases r <;> exact h
  cases c with
  | createAccount env organizationId code name type currency =>
    refine hmap (withSession_locks hw (fun st₁ hw₁ => ?_))
    rw [Prog.wp_bind]
    refine query_locks rfl (mannered_nil (hnone st₁ hw₁)) (fun e st' h => hnone st' (h.trans hw₁)) ?_
    intro s₂ row s₃ log hw₂ _ hx
    have hw₃ : s₃.writes w = [] := by
      simp only [State.perform] at hx
      split at hx
      · cases hx
      · cases hx
        exact hw₂.trans hw₁
    dsimp only
    rw [Prog.wp_bind]
    exact read_locks rfl (hnone (s₃, log) hw₃) (fun e st' h => hnone st' (h.trans hw₃))
      (fun s₄ _ log' hw₄ _ _ => hnone (s₄, log') (hw₄.trans hw₃))
  | postTransaction env req =>
    refine hmap (withSession_locks hw (fun st₁ hw₁ => inTransaction_locks (hnone st₁ hw₁) (fun st₂ hw₂ => ?_)))
    refine postWithClient_locks (c := .postTransaction env req) hw₂ hc (fun e st' h => ⟨h, fun a ha => by cases ha⟩) ?_ ?_
    · exact fun t st' h => ⟨hnone st' h, fun _ _ => h ▸ committable_nil⟩
    · exact fun t st' h => ⟨h.mine, fun _ _ => h.committable⟩
  | reverseTransaction env organizationId transactionId reason =>
    refine hmap (withSession_locks hw (fun st₁ hw₁ => inTransaction_locks (hnone st₁ hw₁) (fun st₂ hw₂ => ?_)))
    have hthrow : ∀ (e : LedgerError) (st' : machine.recorded.State),
        Mine (.reverseTransaction env organizationId transactionId reason) (heldBy (st'.1.writes w)) →
        Mine (.reverseTransaction env organizationId transactionId reason) (heldBy (st'.1.writes w)) ∧
          ∀ a : Transaction, (Except.error e : Except LedgerError Transaction) = .ok a → Committable (st'.1.writes w) :=
      fun e st' h => ⟨h, fun a ha => by cases ha⟩
    rw [Prog.wp_bind]
    refine read_locks rfl (hnone st₂ hw₂) (fun e st' h => hthrow e st' (hnone st' (h.trans hw₂))) ?_
    intro s₃ found log₃ hw₃ _ _
    dsimp only
    split
    · exact hthrow _ _ (hnone (s₃, log₃) (hw₃.trans hw₂))
    rw [Prog.wp_bind]
    refine read_locks rfl (hnone (s₃, log₃) (hw₃.trans hw₂)) (fun e st' h => hthrow e st' (hnone st' (h.trans (hw₃.trans hw₂)))) ?_
    intro s₄ entries log₄ hw₄ hordered hx
    have hw₄' : s₄.writes w = [] := hw₄.trans (hw₃.trans hw₂)
    obtain ⟨t, -, rfl⟩ := selectBy_ok hx
    dsimp only
    split
    · exact hthrow _ _ (hnone (s₄, log₄) hw₄')
    rw [Prog.wp_bind]
    refine postNew_locks (c := .reverseTransaction env organizationId transactionId reason) hw₄' (reversal_ascending hordered hw₄' t)
      hthrow (fun reversal st₅ hc₅ => ?_)
    dsimp only
    rw [Prog.wp_bind]
    have hrows : ∀ l ∈ (Statement.updateTransactionStatus .reversed transactionId).locks, ∃ id, l = .transactionRow id := by
      intro l hl
      obtain ⟨id, -, rfl⟩ := List.mem_map.1 hl
      exact ⟨id, rfl⟩
    refine query_locks rfl ⟨hc₅.mine, ?_, ?_⟩ (fun e st' h => hthrow e st' (h ▸ hc₅.mine)) ?_
    · intro l hl u hu
      obtain ⟨id, rfl⟩ := hrows l hl
      cases hu
    · intro l hl hu l' hl' _
      obtain ⟨id, rfl⟩ := hrows l' hl'
      exact Or.inl (hc₅.under l hl hu)
    intro s₆ _ s₇ log₇ hw₆ _ hx
    have hc₆ : Climbing (.reverseTransaction env organizationId transactionId reason) (env.uuid 0) [] 3 (s₆.writes w) := hw₆ ▸ hc₅
    rcases updateTransactionStatus_writes hx with hsame | ⟨u, hstatus⟩
    · rw [← hsame] at hc₆
      exact ⟨hc₆.mine, fun _ _ => hc₆.committable⟩
    · have hc₇ : Climbing (.reverseTransaction env organizationId transactionId reason) (env.uuid 0) [] 4 (s₇.writes w) := by
        rw [hstatus]
        exact hc₆.write rfl (by simp [Mine, Write.locks, Lock.uuid?]) (by simp)
          (by simp [Write.locks, Lock.rank, Prod.Lex.toLex_lt_toLex]) (Nat.le_succ 3)
      exact ⟨hc₇.mine, fun _ _ => hc₇.committable⟩

/-- The outline of calls that list accounts in ascending order fits together. -/
theorem lockOutline_sound : lockOutline.Sound freshPostings where
  refl _ _ _ := rfl
  trans _ _ _ _ _ h h' := Eq.trans h' h
  symm _ _ _ _ h i j := (h j i).symm
  guar _ _ w' _ _ _ hne _ _ h := h.1 w' hne.symm
  start _ _ _ h := ⟨h.1.2, program_locks h.1.1 h.2⟩
  crash w s h := ⟨Ordered.discard h w, fun _ _ hne => s.1.writes_discard_of_ne hne⟩

/-! ## Runs -/

/-- A statement changes nothing that another worker has pending. -/
theorem exec_others {s s' : State} {o : Session × Statement} {fails : Bool} {r : Except LedgerError o.2.Result}
    (h : exec w o fails s = some (r, s')) {w' : Nat} (hne : w' ≠ w) : s'.writes w' = s.writes w' := by
  obtain ⟨sess, o⟩ := o
  unfold exec at h
  split at h
  · cases o <;> cases h <;> first | rfl | exact s.writes_discard_of_ne hne
  · by_cases hp : o.plain = true
    · cases r with
      | ok a =>
        obtain ⟨ws, hws⟩ := perform_wrote hp h
        exact hws.others w' hne
      | error e => rw [perform_error hp h]
    · cases o with
      | begin => cases h; exact s.writes_discard_of_ne hne
      | commit => cases h; exact s.writes_commit_of_ne hne
      | rollback => cases h; exact s.writes_discard_of_ne hne
      | close => cases h; exact s.writes_discard_of_ne hne
      | _ => exact absurd rfl hp

/-- Only workers that are live have anything pending. -/
def Idle (cfg : machine.recorded.Config) : Prop := ∀ w, (∀ x ∈ cfg.live, x.id ≠ w) → cfg.state.1.writes w = []

/-- What holds of calls that list accounts in ascending order. -/
structure Queued (cfg : machine.recorded.Config) : Prop where
  holds : lockOutline.Holds freshPostings cfg
  idle : Idle cfg

theorem queued_init : Queued (.init machine.recorded (.empty, [])) :=
  ⟨Machine.Outline.holds_init ordered_empty, fun _ _ => by simp [Machine.Config.init, State.empty, State.writes]⟩

/-- Every step keeps it. -/
theorem Queued.step {cfg cfg' : machine.recorded.Config} (h : Queued cfg) (hstep : machine.recorded.Step orderedPostings cfg cfg') :
    Queued cfg' := by
  have hfresh : machine.recorded.Step freshPostings cfg cfg' := by
    cases hstep with
    | start c hc => exact .start cfg c ⟨hc, h.idle _ (fun x hx => Nat.ne_of_lt (h.holds.ids x hx))⟩
    | call w o k ch r s hw hk hc he => exact .call cfg w o k ch r s hw hk trivial he
    | crash w hw => exact .crash cfg w hw
  refine ⟨Machine.Outline.holds_step lockOutline_sound h.holds hfresh, ?_⟩
  cases hstep with
  | start c hc =>
    intro w hw
    exact h.idle w (fun x hx => hw x (List.mem_append_left _ hx))
  | call y o k ch r st hy hk hc he =>
    obtain ⟨⟨r', s'⟩, hx, heq⟩ := Option.map_eq_some_iff.1 he
    obtain ⟨rfl, rfl⟩ := Prod.mk.inj heq
    intro w hw
    by_cases hyw : y.id = w
    · subst hyw
      -- the worker has ended, and left nothing pending
      have hkeep := h.holds.keeps y hy
      unfold Machine.Outline.Keeps at hkeep
      rw [hk] at hkeep
      obtain ⟨-, -, hrest⟩ := hkeep cfg.state rfl h.holds.inv r' _ ⟨trivial, ch, he⟩
      cases hk' : k r' with
      | call o' k' =>
        refine absurd rfl (hw { y with rest := k r' } ?_)
        unfold Machine.Config.move
        refine List.mem_filterMap.2 ⟨y, hy, ?_⟩
        rw [if_pos rfl]
        unfold Machine.Worker.keep
        rw [hk']
        rfl
      | pure a =>
        rw [hk'] at hrest
        exact hrest
      | throw e =>
        rw [hk'] at hrest
        exact hrest
    · refine (exec_others hx (Ne.symm hyw)).trans (h.idle w (fun x hx' hid => hw x ?_ hid))
      unfold Machine.Config.move
      exact List.mem_filterMap.2 ⟨x, hx', if_neg (fun hxy => hyw (hxy.symm.trans hid))⟩
  | crash y hy =>
    intro w hw
    by_cases hyw : w = y.id
    · subst hyw
      exact cfg.state.1.writes_discard y.id
    · refine (cfg.state.1.writes_discard_of_ne hyw).trans (h.idle w (fun x hx hid => hw x ?_ hid))
      exact List.mem_filter.2 ⟨hx, by simpa using fun hxy => hyw (hid.symm.trans hxy)⟩

/-- What a live worker asks for next comes after what it holds. -/
theorem Queued.mannered {cfg : machine.recorded.Config} (h : Queued cfg) {x : machine.recorded.Worker} (hx : x ∈ cfg.live)
    {o : Session × Statement} {k : Except LedgerError o.2.Result → Action Reply} (hk : x.rest = .call o k) :
    Mannered x.call (cfg.state.1.writes x.id) o.2.locks := by
  have hkeep := h.holds.keeps x hx
  unfold Machine.Outline.Keeps at hkeep
  rw [hk] at hkeep
  -- seen from the statement that fails, which is always possible
  obtain ⟨-, ⟨-, o', r', hlog, hmannered⟩, -⟩ := hkeep cfg.state rfl h.holds.inv (cfg.state.1.fail x.id o.2).1
    ((cfg.state.1.fail x.id o.2).2, cfg.state.2 ++ [⟨x.id, o, (cfg.state.1.fail x.id o.2).1⟩]) ⟨trivial, true, rfl⟩
  obtain ⟨-, hop, -⟩ := Machine.Record.mk.inj (List.singleton_inj.1 (List.append_cancel_left hlog))
  rw [hop]
  exact hmannered

/-- Some live worker's next statement goes on without failing. -/
theorem Queued.goes {cfg : machine.recorded.Config} (h : Queued cfg) (hlive : cfg.live ≠ []) :
    ∃ cfg', Machine.Goes (M := machine.recorded) (fun fails => fails = false) cfg cfg' := by
  obtain ⟨x, hx, hfree⟩ := exists_not_waiting Lock.rank (fun (x : machine.recorded.Worker) l => l ∈ cfg.state.1.held x.id ∧ l.uuid? = none)
    (fun x l => (∃ o k, x.rest = .call o k ∧ l ∈ o.2.locks) ∧ l.uuid? = none) hlive (by
      rintro y hy l l' ⟨hl, hu⟩ ⟨⟨o, k, hk, hl'⟩, hu'⟩ ⟨z, hz, hne, hheld, -⟩
      rcases (h.mannered hy hk).order l hl hu l' hl' hu' with hlt | rfl
      · exact hlt
      · exact absurd hheld (h.holds.inv.apart y.id z.id (fun hid => hne (h.holds.eq_of_id hy hz hid).symm) l hl))
  cases hk : x.rest with
  | pure a =>
    have hcall := h.holds.calls x hx
    rw [hk] at hcall
    cases hcall
  | throw e =>
    have hcall := h.holds.calls x hx
    rw [hk] at hcall
    cases hcall
  | call o k =>
    have hmannered := h.mannered hx hk
    obtain ⟨r, s', he⟩ : ∃ r s', cfg.state.1.perform x.id o.1 o.2 = some (r, s') := perform_isSome (by
      intro w' hne l hl hheld
      by_cases hw' : ∃ y ∈ cfg.live, y.id = w'
      · obtain ⟨y, hy, rfl⟩ := hw'
        cases hu : l.uuid? with
        | none => exact hfree y hy (fun hyx => hne (congrArg _ hyx)) l ⟨⟨o, k, hk, hl⟩, hu⟩ ⟨hheld, hu⟩
        | some u =>
          -- a new row is known to one call only
          obtain ⟨i, hi⟩ := hmannered.asks l hl u hu
          cases hky : y.rest with
          | call o' k' =>
            obtain ⟨j, hj⟩ := (h.mannered hy hky).mine l hheld u hu
            exact h.holds.compat_of_ne lockOutline_sound hx hy hne.symm i j (hi.trans hj.symm)
          | pure a =>
            have hcall := h.holds.calls y hy
            rw [hky] at hcall
            cases hcall
          | throw e =>
            have hcall := h.holds.calls y hy
            rw [hky] at hcall
            cases hcall
      · have hnone := h.idle w' (fun y hy hid => hw' ⟨y, hy, hid⟩)
        unfold State.held at hheld
        rw [hnone] at hheld
        cases hheld)
    have he' : machine.recorded.exec x.id o false cfg.state = some (r, s', cfg.state.2 ++ [⟨x.id, o, r⟩]) :=
      Option.map_eq_some_iff.2 ⟨(r, s'), he, rfl⟩
    exact ⟨_, x, hx, o, k, false, r, _, hk, rfl, he', rfl⟩

end

end Ledger

end Archisynapse
