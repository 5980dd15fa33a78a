import Archisynapse.Base.Guarded
import Archisynapse.Lemmas.PaymentsPhases
import Archisynapse.Lemmas.PaymentsRefundKeys

/-!
# Attempts in status PROCESSING

In a run whose steps all meet `retryable`, every attempt in status PROCESSING is in the hands of a refund that runs (`InHand`): that
refund's next call asks the processor, or writes down what the processor answered.
-/

namespace Archisynapse

namespace Payments

/-- The key of a refund. -/
def Call.refundKey : Call → Option String
  | .refundPayment _ req => some req.idempotencyKey
  | _ => none

/-- The processor's mode in a call. -/
def Call.mode : Call → ProcessorMode
  | .refundPayment env _ => env.mode
  | _ => .disabled

/-- An attempt in status PROCESSING waits for a call: the request for its refund, or the statement that says what came of it. -/
def Tables.AttemptsWait (d : Tables) : Action → Prop
  | .refund req => ∃ a ∈ d.attempts, a.status = .processing ∧ column 255 req.idempotencyKey = .ok a.idempotencyKey
  | .sql _ (.updateAttempt id change) => change.settles ∧ ∃ a ∈ d.attempts, a.status = .processing ∧ a.id = id
  | _ => False

/-- Runs in which what is started on an attempt is brought to an end. A statement that puts an attempt in status PROCESSING is one for
a refund that the adapter sends, and its answer is not lost; a request for a refund that an attempt waits for is answered, and the
statement that an attempt waits for reaches the tables; and a call that an attempt waits for does not crash. -/
def retryable : machine.recorded.Guard where
  start _ _ := True
  call w o ch s := match o with
    | .sql sess (.insertAttempt v) => (∃ a db, s.1.db.perform sess (.insertAttempt v) = (.ok (some a), db)) → ch.fault ≠ .before →
      ch.fault = .none ∧ Sendable w.call.mode v
    | .sql _ (.updateAttempt _ .processing) => ch.fault ≠ .before →
      ch.fault = .none ∧ ∀ v a, phase (Machine.own w.id s.2) = .read v a → Sendable w.call.mode v
    | .refund req => s.1.db.AttemptsWait (.refund req) → ∃ answer t, exec (.refund req) ch s.1 = some (.ok answer, t)
    | .sql sess (.updateAttempt id change) => s.1.db.AttemptsWait (.sql sess (.updateAttempt id change)) → ch.fault ≠ .before
    | _ => True
  crash w s := ∀ o k, w.rest = .call o k → ¬ s.1.db.AttemptsWait o

/-! ## What a call does to the attempts -/

section

variable {s t : World} {o : Action} {ch : Choice}

/-- A statement that is not lost before it is made is made. -/
theorem exec_sql_db {sess : Session} {o : Statement} {r : Except PaymentError o.Result} (h : exec (.sql sess o) ch s = some (r, t)) :
    t.db = if ch.fault = .before then s.db else (s.db.perform sess o).2 := by
  unfold exec at h
  cases hf : ch.fault with
  | none =>
    rw [hf] at h
    cases h
    rfl
  | before =>
    rw [hf] at h
    cases h
    rfl
  | after =>
    rw [hf] at h
    obtain ⟨a, ha, he⟩ := Option.map_eq_some_iff.1 h
    cases ha
    cases he
    rfl

/-- The processor and the ledger have nothing to do with the tables. -/
theorem exec_db {r : Except PaymentError o.Result} (h : exec o ch s = some (r, t)) (ho : ∀ sess st, o ≠ .sql sess st) : t.db = s.db := by
  have hperform : ∀ q, s.perform ch o = some (q, t) → t.db = s.db := by
    intro q hq
    cases o with
    | sql sess st => exact absurd rfl (ho sess st)
    | charge req =>
      obtain ⟨a, -, he⟩ := Option.map_eq_some_iff.1 hq
      cases he
      rfl
    | ledger asked req =>
      obtain ⟨a, -, he⟩ := Option.map_eq_some_iff.1 hq
      cases he
      rfl
    | refund req =>
      cases hq
      rfl
    | settleCharge id status =>
      cases hq
      rfl
    | settleRefund id status =>
      cases hq
      rfl
  rcases exec_cases h with hq | ⟨-, rfl⟩ | ⟨-, q, hq⟩
  · exact hperform _ hq
  · rfl
  · exact hperform q hq

/-- An attempt stays what it is for: its id, its key and its organization. -/
structure AttemptRow.Same (a b : AttemptRow) : Prop where
  id : a.id = b.id
  idempotencyKey : a.idempotencyKey = b.idempotencyKey
  organizationId : a.organizationId = b.organizationId

theorem AttemptRow.Same.refl (a : AttemptRow) : a.Same a := ⟨rfl, rfl, rfl⟩

/-- How a call leaves an attempt. -/
inductive LeavesAttempt (d : Tables) (o : Action) (ch : Choice) (a' : AttemptRow) : Prop where
  /-- it was there, and is in status PROCESSING only if it was and no statement says what came of it -/
  | kept (a : AttemptRow) (ha : a ∈ d.attempts) (hsame : a.Same a')
      (hstatus : a'.status = .processing → a.status = .processing ∧ ∀ sess change,
        o = .sql sess (.updateAttempt a'.id change) → sess.sees a'.organizationId = true → ch.fault ≠ .before → ¬ change.settles)
  /-- it was put in status PROCESSING -/
  | renewed (a : AttemptRow) (ha : a ∈ d.attempts) (hsame : a.Same a') (sess : Session)
      (ho : o = .sql sess (.updateAttempt a'.id .processing)) (hsees : sess.sees a'.organizationId = true) (hfault : ch.fault ≠ .before)
  | inserted (sess : Session) (v : AttemptValues) (ho : o = .sql sess (.insertAttempt v))
      (hrow : d.attemptRow sess v = .ok (some a')) (hfault : ch.fault ≠ .before)

/-- What a call leaves in `processor_refund_attempts`. -/
structure Attempted (d d' : Tables) (o : Action) (ch : Choice) : Prop where
  stays : ∀ a ∈ d.attempts, ∃ a' ∈ d'.attempts, a.Same a'
  ids : (d.attempts.map (·.id)).Nodup → (d'.attempts.map (·.id)).Nodup
  leaves : ∀ a' ∈ d'.attempts, LeavesAttempt d o ch a'

/-- A call that leaves the attempts as they are, and is no statement about them. -/
theorem Attempted.of_eq {d d' : Tables} (h : d'.attempts = d.attempts)
    (ho : ∀ sess id change, o = .sql sess (.updateAttempt id change) → ch.fault = .before) : Attempted d d' o ch := by
  refine ⟨fun a ha => ⟨a, by rw [h]; exact ha, .refl a⟩, fun hnd => by rw [h]; exact hnd, fun a' ha' => ?_⟩
  rw [h] at ha'
  exact .kept a' ha' (.refl a') (fun hst => ⟨hst, fun sess change heq _ hfault => absurd (ho sess _ change heq) hfault⟩)

theorem attempts_insert {α β : Type} {d : Tables} {row : Except DatabaseError α} {write : α → Tables} {answer : α → β}
    (hwrite : ∀ x, (write x).attempts = d.attempts) : (d.insert row write answer).2.attempts = d.attempts := by
  unfold Tables.insert
  split
  · rfl
  · exact hwrite _

/-- An update of an attempt. -/
theorem attempted_update {d : Tables} {sess : Session} {id : Uuid} {change : AttemptChange} (hfault : ch.fault ≠ .before) :
    Attempted d (d.perform sess (.updateAttempt id change)).2 (.sql sess (.updateAttempt id change)) ch := by
  let u (a : AttemptRow) : AttemptRow := if sess.sees a.organizationId then a.change change else a
  have hsame (a : AttemptRow) : a.Same (u a) := by
    dsimp only [u]
    split
    · obtain ⟨h₁, h₂, h₃⟩ := a.change_key change
      exact ⟨h₁.symm, h₂.symm, h₃.symm⟩
    · exact .refl a
  refine ⟨fun a ha => ?_, fun hnd => ?_, fun a' ha' => ?_⟩
  · by_cases hid : a.id = id
    · exact ⟨u a, mem_updateKey.2 (Or.inl ⟨a, ha, hid, rfl⟩), hsame a⟩
    · exact ⟨a, mem_updateKey.2 (Or.inr ⟨ha, hid⟩), .refl a⟩
  · have hids : (updateKey (·.id) id u d.attempts).map (·.id) = d.attempts.map (·.id) :=
      map_updateKey (fun a : AttemptRow => a.id) (fun a => (hsame a).id.symm) d.attempts
    exact hids.symm ▸ hnd
  · rcases mem_updateKey.1 ha' with ⟨a, ha, rfl, rfl⟩ | ⟨ha, hne⟩
    · change LeavesAttempt d _ ch (u a)
      cases hsees : sess.sees a.organizationId with
      | false =>
        have hu : u a = a := by
          dsimp only [u]
          rw [hsees]
          rfl
        rw [hu]
        refine .kept a ha (.refl a) (fun hst => ⟨hst, fun sess' change' heq hsees' => ?_⟩)
        cases heq
        rw [hsees] at hsees'
        cases hsees'
      | true =>
        have hu : u a = a.change change := by
          dsimp only [u]
          rw [hsees]
          rfl
        have hsees' : sess.sees (u a).organizationId = true := by
          rw [← (hsame a).organizationId]
          exact hsees
        cases change with
        | processing => exact .renewed a ha (hsame a) sess (by rw [← (hsame a).id]) hsees' hfault
        | ledgerPending =>
          rw [hu]
          refine .kept a ha (.refl a) (fun hst => ⟨hst, fun sess' change' heq _ _ => ?_⟩)
          cases heq
          exact id
        | _ =>
          refine .kept a ha (hsame a) (fun hst => ?_)
          rw [hu] at hst
          cases hst
    · refine .kept a' ha (.refl a') (fun hst => ⟨hst, fun sess' change' heq => ?_⟩)
      cases heq
      exact absurd rfl hne

/-- An insert of an attempt. -/
theorem attempted_insert {d : Tables} {sess : Session} {v : AttemptValues} (hfault : ch.fault ≠ .before) :
    Attempted d (d.perform sess (.insertAttempt v)).2 (.sql sess (.insertAttempt v)) ch := by
  simp only [Tables.perform, Tables.insert]
  split
  · exact .of_eq rfl (fun _ _ _ heq => by cases heq)
  rename_i row hrow
  cases row with
  | none => exact .of_eq (List.append_nil _) (fun _ _ _ heq => by cases heq)
  | some row =>
    refine ⟨fun a ha => ⟨a, List.mem_append_left _ ha, .refl a⟩, fun hnd => ?_, fun a' ha' => ?_⟩
    · change ((d.attempts ++ [row]).map (·.id)).Nodup
      rw [List.map_append, List.nodup_append]
      refine ⟨hnd, List.nodup_singleton _, ?_⟩
      rintro _ hx _ hy rfl
      obtain ⟨b, hb, hid⟩ := List.mem_map.1 hx
      exact (attemptRow_some hrow).2.2.2.1 b hb (hid.trans (List.mem_singleton.1 hy))
    · rcases List.mem_append.1 ha' with ha | ha
      · exact .kept a' ha (.refl a') (fun hst => ⟨hst, fun _ _ heq => by cases heq⟩)
      · obtain rfl := List.mem_singleton.1 ha
        exact .inserted sess v rfl hrow hfault

/-- What a call does to the attempts. -/
theorem exec_attempted {r : Except PaymentError o.Result} (h : exec o ch s = some (r, t)) : Attempted s.db t.db o ch := by
  have hother (ho : ∀ sess st, o ≠ .sql sess st) : Attempted s.db t.db o ch :=
    .of_eq (by rw [exec_db h ho]) (fun sess id change heq => absurd heq (ho sess _))
  cases o with
  | sql sess st =>
    have hdb := exec_sql_db h
    by_cases hfault : ch.fault = .before
    · rw [if_pos hfault] at hdb
      exact .of_eq (by rw [hdb]) (fun _ _ _ _ => hfault)
    rw [if_neg hfault] at hdb
    rw [hdb]
    cases st with
    | updateAttempt id change => exact attempted_update hfault
    | insertAttempt v => exact attempted_insert hfault
    | insertPayment v => exact .of_eq (attempts_insert (fun _ => rfl)) (fun _ _ _ heq => by cases heq)
    | insertUnposted v => exact .of_eq (attempts_insert (fun _ => rfl)) (fun _ _ _ heq => by cases heq)
    | insertRefund v => exact .of_eq (attempts_insert (fun _ => rfl)) (fun _ _ _ heq => by cases heq)
    | selectPayment id =>
      refine .of_eq ?_ (fun _ _ _ heq => by cases heq)
      simp only [Tables.perform]
      split <;> rfl
    | _ => exact .of_eq rfl (fun _ _ _ heq => by cases heq)
  | charge req => exact hother (fun _ _ heq => by cases heq)
  | refund req => exact hother (fun _ _ heq => by cases heq)
  | ledger asked req => exact hother (fun _ _ heq => by cases heq)
  | settleCharge id status => exact hother (fun _ _ heq => by cases heq)
  | settleRefund id status => exact hother (fun _ _ heq => by cases heq)

end

/-! ## Attempts in hand -/

/-- A call has an attempt in hand: the next it does is to ask the processor for the refund under the attempt's key, which the adapter
sends, or to write down what the processor answered. -/
structure InHand (c : Call) (ph : Phase) (a : AttemptRow) : Prop where
  key : ∃ key, c.refundKey = some key ∧ column 255 key = .ok a.idempotencyKey
  busy : (∃ sess v, ph = .claimed sess v a.id ∧ c.refundKey = some v.idempotencyKey ∧ Sendable c.mode v ∧
      sess.sees a.organizationId = true) ∨
    ∃ sess, ph = .answered sess a.id ∧ sess.sees a.organizationId = true

theorem InHand.same {c : Call} {ph : Phase} {a b : AttemptRow} (h : InHand c ph a) (hs : a.Same b) : InHand c ph b := by
  obtain ⟨hkey, hbusy⟩ := h
  rw [hs.id, hs.organizationId] at hbusy
  rw [hs.idempotencyKey] at hkey
  exact ⟨hkey, hbusy⟩

/-- What a call knows of the attempt it found. -/
def Phase.Known (d : Tables) (c : Call) : Phase → Prop
  | .taken v => c.refundKey = some v.idempotencyKey
  | .read v attempt => c.refundKey = some v.idempotencyKey ∧
      ∃ a ∈ d.attempts, a.id = attempt.id ∧ a.idempotencyKey = v.idempotencyKey
  | _ => True

/-- Every attempt in status PROCESSING is in the hands of a call that runs. -/
structure Attended (cfg : machine.recorded.Config) : Prop where
  ids : (cfg.state.1.db.attempts.map (·.id)).Nodup
  disciplined : ∀ w ∈ cfg.live, Disciplined w.call.refundKey w.call.mode w.rest (Machine.own w.id cfg.state.2)
  known : ∀ w ∈ cfg.live, (phase (Machine.own w.id cfg.state.2)).Known cfg.state.1.db w.call
  held : ∀ a ∈ cfg.state.1.db.attempts, a.status = .processing → ∃ w ∈ cfg.live, InHand w.call (phase (Machine.own w.id cfg.state.2)) a

section

variable {key : Option String} {mode : ProcessorMode} {past : List (Prog.Answered signature)} {α : Type}

/-- The next call of a program that keeps to the phases. -/
theorem Disciplined.call {o : Action} {k : Except PaymentError o.Result → Program α} (h : Disciplined key mode (.call o k) past) :
    (phase past).Allows key o ∧ ∀ r, Disciplined key mode (k r) (past ++ [⟨o, r⟩]) := by
  refine ⟨?_, fun r => (h past rfl trivial r _ rfl).2.2⟩
  obtain ⟨-, hallows, -⟩ := h past rfl trivial (.error (.database .failure)) _ rfl
  exact hallows o _ rfl

/-- A call with an attempt in hand does not end. -/
theorem InHand.isCall {c : Call} {a : AttemptRow} (h : InHand c (phase past) a) {p : Program α}
    (hp : Disciplined key c.mode p past) : p.isCall = true := by
  have hnot : ¬ (phase past).Ended c.mode := by
    rcases h.busy with ⟨sess, v, hph, -, hs, -⟩ | ⟨sess, hph, -⟩
    · rw [hph]
      exact not_not.2 hs
    · rw [hph]
      exact id
  cases p with
  | pure a => exact absurd hp hnot
  | throw e => exact absurd hp hnot
  | call o k => rfl

/-- The next call of one with an attempt in hand is one the attempt waits for. -/
theorem InHand.waits {c : Call} {a : AttemptRow} (h : InHand c (phase past) a) {o : Action} {key : Option String}
    (ho : (phase past).Allows key o) {d : Tables} (ha : a ∈ d.attempts) (hstatus : a.status = .processing) : d.AttemptsWait o := by
  obtain ⟨text, htext, hcolumn⟩ := h.key
  rcases h.busy with ⟨sess, v, hph, hkey, -, -⟩ | ⟨sess, hph, -⟩
  · rw [hph] at ho
    obtain ⟨req, rfl, hreq⟩ := ho
    rw [hkey] at htext
    cases htext
    exact ⟨a, ha, hstatus, by rw [hreq]; exact hcolumn⟩
  · rw [hph] at ho
    obtain ⟨change, rfl, hc⟩ := ho
    exact ⟨hc, a, ha, hstatus, rfl⟩

/-- A phase of a taken key comes from an insert. -/
theorem next_taken {ph : Phase} {o : Action} {r : Except PaymentError o.Result} {v : AttemptValues} (h : ph.next ⟨o, r⟩ = .taken v) :
    ∃ sess, o = .sql sess (.insertAttempt v) := by
  unfold Phase.next at h
  split at h
  · split at h <;> cases h
  · rename_i sess v' heq
    cases h
    cases heq
    exact ⟨sess, rfl⟩
  all_goals cases h

/-- A phase of an attempt that was read comes from a read after an insert. -/
theorem next_read {ph : Phase} {o : Action} {r : Except PaymentError o.Result} {v : AttemptValues} {attempt : AttemptRow}
    (h : ph.next ⟨o, r⟩ = .read v attempt) :
    ph = .taken v ∧ ∃ sess key, (⟨o, r⟩ : Prog.Answered signature) = ⟨.sql sess (.selectAttempt key), .ok (some attempt)⟩ := by
  unfold Phase.next at h
  split at h
  · split at h <;> cases h
  · cases h
  · rename_i heq
    cases h
    cases heq
    exact ⟨rfl, _, _, rfl⟩
  all_goals cases h

end

section

variable {w : machine.recorded.Worker} {o : Action} {ch : Choice} {s : machine.recorded.State} {t : World}
  {r : Except PaymentError o.Result}

/-- What a call knows of the attempt it found, after its next call. -/
theorem known_next {c : Call} {ph : Phase} (hallows : ph.Allows c.refundKey o) (hknown : ph.Known s.1.db c)
    (he : exec o ch s.1 = some (r, t)) : (ph.next ⟨o, r⟩).Known t.db c := by
  cases hnext : ph.next ⟨o, r⟩ with
  | taken v =>
    obtain ⟨sess, rfl⟩ := next_taken hnext
    exact hallows.insert.2
  | read v attempt =>
    obtain ⟨rfl, sess, key, heq⟩ := next_read hnext
    cases heq
    obtain ⟨sess', heq⟩ := hallows
    cases heq
    refine ⟨hknown, ?_⟩
    obtain ⟨rfl, hanswer⟩ := exec_reads he trivial
    have hfound := List.find?_some (Except.ok.inj (hanswer _ rfl))
    rw [Bool.and_eq_true, decide_eq_true_eq] at hfound
    exact ⟨attempt, List.mem_of_find?_eq_some (Except.ok.inj (hanswer _ rfl)), rfl, hfound.1⟩
  | _ => exact trivial

/-- An attempt in status PROCESSING after a call that meets the condition is in the hands of the call that made it, or was in status
PROCESSING, and in the hands of another one if of any. -/
theorem held_next {past : List (Prog.Answered signature)} (hpast : past = Machine.own w.id s.2)
    (hids : (s.1.db.attempts.map (·.id)).Nodup) (hallows : (phase past).Allows w.call.refundKey o)
    (hknown : (phase past).Known s.1.db w.call) (hc : retryable.call w o ch s) (he : exec o ch s.1 = some (r, t))
    {a' : AttemptRow} (ha' : a' ∈ t.db.attempts) (hstatus : a'.status = .processing) :
    InHand w.call (phase (past ++ [⟨o, r⟩])) a' ∨
      ∃ a ∈ s.1.db.attempts, a.status = .processing ∧ a.Same a' ∧ ¬ InHand w.call (phase past) a := by
  rw [phase_append]
  cases (exec_attempted he).leaves a' ha' with
  | kept a ha hsame hst =>
    obtain ⟨hproc, hnot⟩ := hst hstatus
    by_cases hin : InHand w.call (phase past) a
    · refine Or.inl (InHand.same ⟨hin.key, Or.inr ?_⟩ hsame)
      have hwaits := hin.waits hallows ha hproc
      rcases hin.busy with ⟨sess, v, hph, -, -, hsees⟩ | ⟨sess, hph, hsees⟩
      · rw [hph] at hallows ⊢
        obtain ⟨req, rfl, -⟩ := hallows
        obtain ⟨answer, t', hok⟩ := hc hwaits
        rw [he] at hok
        cases hok
        exact ⟨sess, rfl, hsees⟩
      · rw [hph] at hallows
        obtain ⟨change, rfl, hsettles⟩ := hallows
        have hfault : ch.fault ≠ .before := by
          cases change with
          | processing => exact hsettles.elim
          | _ => exact hc hwaits
        rw [hsame.organizationId] at hsees
        exact absurd hsettles (hnot sess change (by rw [hsame.id]) hsees hfault)
    · exact Or.inr ⟨a, ha, hproc, hsame, hin⟩
  | renewed a ha hsame sess ho hsees hfault =>
    subst ho
    obtain ⟨hnone, hsendable⟩ := hc hfault
    obtain ⟨v, attempt, hph, hid⟩ := hallows.renew
    rw [hph] at hknown ⊢
    obtain ⟨hkey, b, hb, hbid, hbkey⟩ := hknown
    obtain rfl := List.inj_on_of_nodup_map hids hb ha (hbid.trans (hid.symm.trans hsame.id.symm))
    have hs := hsendable v attempt (by rw [← hpast, hph])
    have hok : r = .ok () := by
      unfold exec at he
      rw [hnone] at he
      cases he
      rfl
    refine Or.inl ⟨⟨v.idempotencyKey, hkey, ?_⟩, Or.inl ⟨sess, v, ?_, hkey, hs, hsees⟩⟩
    · rw [← hsame.idempotencyKey, hbkey]
      exact column_eq_ok ((length_le_utf16Length _).trans hs.key.2)
    · rw [hok, hid]
      rfl
  | inserted sess v ho hrow hfault =>
    subst ho
    have hperform : s.1.db.perform sess (.insertAttempt v) =
        (.ok (some a'), { s.1.db with attempts := s.1.db.attempts ++ [a'] }) := by
      simp only [Tables.perform, Tables.insert, hrow]
      rfl
    obtain ⟨hnone, hs⟩ := hc ⟨a', _, hperform⟩ hfault
    have hok : r = .ok (some a') := by
      unfold exec at he
      rw [hnone] at he
      simp only [World.perform, hperform, Option.some.injEq, Prod.mk.injEq] at he
      exact he.1.symm
    obtain ⟨hid, horganization, hcolumn, -, -, -, hmay⟩ := attemptRow_some hrow
    have hkey := hallows.insert.2
    have hsees : sess.sees a'.organizationId = true := by
      rw [horganization]
      unfold Tables.mayAttach at hmay
      split at hmay
      · cases hmay
      · rename_i hsees
        simpa using hsees
    refine Or.inl ⟨⟨v.idempotencyKey, hkey, hcolumn⟩, Or.inl ⟨sess, v, ?_, hkey, hs, hsees⟩⟩
    rw [hok]
    exact if_pos hstatus

end

/-! ## Runs -/

/-- The programs of the service keep to the phases. -/
theorem program_disciplined (c : Call) : Disciplined c.refundKey c.mode c.program [] := by
  have hdone {p : Program Unit} (hp : p.Calls Action.Quiet) :
      Disciplined (α := Reply) none .disabled (p >>= fun _ => pure .done) [] :=
    quiet_disciplined (Prog.calls_bind hp (fun _ => Prog.calls_pure _)) trivial
  cases c with
  | createPayment env req =>
    exact quiet_disciplined (Prog.calls_bind (quiet_createPayment env req) (fun _ => Prog.calls_pure _)) trivial
  | refundPayment env req =>
    exact Prog.wp_seq (refundPayment_disciplined env req rfl) (fun _ _ h => h) (fun _ _ h => h)
  | settleCharge id status => exact hdone (Prog.calls_perform (S := signature) (o := .settleCharge id status) trivial)
  | settleRefund id status => exact hdone (Prog.calls_perform (S := signature) (o := .settleRefund id status) trivial)

section

variable {cfg cfg' : machine.recorded.Config}

/-- A call that is started has made no calls. -/
theorem Attended.start (h : Attended cfg) (hlog : ∀ r ∈ cfg.state.2, r.worker < cfg.started) (c : Call) : Attended (cfg.add c) := by
  have hnone : Machine.own cfg.started cfg.state.2 = [] := by
    unfold Machine.own
    rw [List.map_eq_nil_iff, List.filter_eq_nil_iff]
    intro r hr heq
    exact absurd (of_decide_eq_true heq) (Nat.ne_of_lt (hlog r hr))
  refine ⟨h.ids, fun x hx => ?_, fun x hx => ?_, fun a ha hstatus => ?_⟩
  · rcases Machine.Config.mem_add hx with hx | rfl
    · exact h.disciplined x hx
    · change Disciplined c.refundKey c.mode c.program (Machine.own cfg.started cfg.state.2)
      rw [hnone]
      exact program_disciplined c
  · rcases Machine.Config.mem_add hx with hx | rfl
    · exact h.known x hx
    · change (phase (Machine.own cfg.started cfg.state.2)).Known cfg.state.1.db c
      rw [hnone]
      trivial
  · obtain ⟨x, hx, hin⟩ := h.held a ha hstatus
    exact ⟨x, List.mem_append_left _ hx, hin⟩

/-- A call of a worker that meets the condition. -/
theorem Attended.call (h : Attended cfg) (hdist : cfg.Distinct) {w : machine.recorded.Worker} {o : Action}
    {k : Except PaymentError o.Result → Program Reply} {ch : Choice} {r : Except PaymentError o.Result} {t : World} (hw : w ∈ cfg.live)
    (hk : w.rest = .call o k) (hc : retryable.call w o ch cfg.state) (he : exec o ch cfg.state.1 = some (r, t)) :
    Attended (cfg.move w.id (k r) (t, cfg.state.2 ++ [⟨w.id, o, r⟩])) := by
  have hself : Machine.own w.id (cfg.state.2 ++ [⟨w.id, o, r⟩]) = Machine.own w.id cfg.state.2 ++ [⟨o, r⟩] := by
    rw [Machine.own_append, if_pos rfl]
  have hother {x : machine.recorded.Worker} (hne : x.id ≠ w.id) :
      Machine.own x.id (cfg.state.2 ++ [⟨w.id, o, r⟩]) = Machine.own x.id cfg.state.2 := by
    rw [Machine.own_append, if_neg (fun heq => hne heq.symm), List.append_nil]
  have hdisc := h.disciplined w hw
  rw [hk] at hdisc
  obtain ⟨hallows, hrest⟩ := hdisc.call
  have hattempted := exec_attempted he
  refine ⟨hattempted.ids h.ids, fun x hx => ?_, fun x hx => ?_, fun a' ha' hstatus => ?_⟩
  · rcases Machine.Config.mem_move hx with ⟨y, hy, hid, rfl, -⟩ | ⟨hx, hne⟩
    · obtain rfl := hdist.eq_of_id hy hw hid
      change Disciplined _ _ (k r) (Machine.own y.id (cfg.state.2 ++ [⟨y.id, o, r⟩]))
      rw [hself]
      exact hrest r
    · change Disciplined _ _ _ (Machine.own x.id (cfg.state.2 ++ [⟨w.id, o, r⟩]))
      rw [hother hne]
      exact h.disciplined x hx
  · rcases Machine.Config.mem_move hx with ⟨y, hy, hid, rfl, -⟩ | ⟨hx, hne⟩
    · obtain rfl := hdist.eq_of_id hy hw hid
      change (phase (Machine.own y.id (cfg.state.2 ++ [⟨y.id, o, r⟩]))).Known t.db y.call
      rw [hself, phase_append]
      exact known_next hallows (h.known y hw) he
    · change (phase (Machine.own x.id (cfg.state.2 ++ [⟨w.id, o, r⟩]))).Known t.db x.call
      rw [hother hne]
      have hknown := h.known x hx
      cases hph : phase (Machine.own x.id cfg.state.2) with
      | read v attempt =>
        rw [hph] at hknown
        obtain ⟨hkey, a, ha, hid, hakey⟩ := hknown
        obtain ⟨a', ha', hsame⟩ := hattempted.stays a ha
        exact ⟨hkey, a', ha', hsame.id.symm.trans hid, hsame.idempotencyKey.symm.trans hakey⟩
      | taken v =>
        rw [hph] at hknown
        exact hknown
      | _ => exact trivial
  · rcases held_next rfl h.ids hallows (h.known w hw) hc he ha' hstatus with hin | ⟨a, ha, hproc, hsame, hnot⟩
    · refine ⟨{ w with rest := k r }, Machine.Config.mem_move_self hw (hin.isCall (hrest r)) _, ?_⟩
      change InHand w.call (phase (Machine.own w.id (cfg.state.2 ++ [⟨w.id, o, r⟩]))) a'
      rw [hself]
      exact hin
    · obtain ⟨x, hx, hin⟩ := h.held a ha hproc
      have hne : x.id ≠ w.id := by
        intro hid
        obtain rfl := hdist.eq_of_id hx hw hid
        exact hnot hin
      refine ⟨x, Machine.Config.mem_move_other hx hne _ _, ?_⟩
      change InHand x.call (phase (Machine.own x.id (cfg.state.2 ++ [⟨w.id, o, r⟩]))) a'
      rw [hother hne]
      exact hin.same hsame

/-- A crash of a worker that no attempt waits for. -/
theorem Attended.crash (h : Attended cfg) (hdist : cfg.Distinct) {w : machine.recorded.Worker} (hw : w ∈ cfg.live)
    (hc : retryable.crash w cfg.state) : Attended (cfg.drop w.id) := by
  have hmem {x : machine.recorded.Worker} (hx : x ∈ (cfg.drop w.id).live) : x ∈ cfg.live := (List.mem_filter.1 hx).1
  refine ⟨h.ids, fun x hx => h.disciplined x (hmem hx), fun x hx => h.known x (hmem hx), fun a ha hstatus => ?_⟩
  obtain ⟨x, hx, hin⟩ := h.held a ha hstatus
  refine ⟨x, List.mem_filter.2 ⟨hx, ?_⟩, hin⟩
  rw [Bool.not_eq_true', decide_eq_false_iff_not]
  intro hid
  obtain rfl := hdist.eq_of_id hx hw hid
  have hdisc := h.disciplined x hx
  have hcall := hin.isCall hdisc
  cases hrest : x.rest with
  | call o k =>
    rw [hrest] at hdisc
    exact hc o k hrest (hin.waits hdisc.call.1 ha hstatus)
  | pure a =>
    rw [hrest] at hcall
    cases hcall
  | throw e =>
    rw [hrest] at hcall
    cases hcall

/-- In a run whose steps all meet the condition, every attempt in status PROCESSING is in the hands of a call that runs. -/
theorem attended_run (hrun : Machine.GuardedRun retryable (.init _ (.empty, [])) cfg) : Attended cfg := by
  refine (Machine.GuardedRun.inv (J := Attended) ?_ ?_ hrun).2
  · intro cfg cfg' hrun hdist h hstep
    cases hstep with
    | start c _ => exact h.start hrun.numbered.2 c
    | call w o k ch r s hw hk hc he =>
      obtain ⟨x, hx, heq⟩ := Option.map_eq_some_iff.1 he
      obtain ⟨rfl, rfl⟩ := Prod.mk.inj heq
      exact h.call hdist hw hk hc hx
    | crash w hw hc => exact h.crash hdist hw hc
  · exact ⟨List.nodup_nil, fun w hw => absurd hw List.not_mem_nil, fun w hw => absurd hw List.not_mem_nil,
      fun a ha => absurd ha List.not_mem_nil⟩

end

end Payments

end Archisynapse
