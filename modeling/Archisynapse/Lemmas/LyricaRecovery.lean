import Archisynapse.Lemmas.LyricaOutbox

/-!
# Lyrica's outbox: recovery

What a worker that runs alone makes of the rows when the gateway answers: every row that waits is settled by an answer (`Settles`).
-/

namespace Archisynapse

namespace Lyrica

open EconomicTruth (Payload Raised Fault connectionLost clip)

/-- What an answer that is not to be tried again makes of a row. -/
inductive SettledBy (env : Env) (answer : Answer) (row : OutboxRow) : OutboxRow → Prop where
  | receipted (statusCode : Nat) (text : String) (value : Json) (ha : answer = .answered statusCode text)
      (hstatus : statusCode = 200 ∨ statusCode = 201) (hvalue : env.jsonb text = some value) :
      SettledBy env answer row { row with state := .receipted, receipt := some value, attempts := row.attempts + 1 }
  | rejected (statusCode : Nat) (text : String) (ha : answer = .answered statusCode text)
      (hstatus : ¬(statusCode = 200 ∨ statusCode = 201)) (hretry : statusCode ≠ 503) :
      SettledBy env answer row
        { row with state := .rejected, lastError := some (toString statusCode ++ ": " ++ text), attempts := row.attempts + 1 }

/-- The gateway answers a request, not to be tried again, with a text that the database takes; no connection is lost. -/
structure Choice.Conclusive (env : Env) (ch : Choice) : Prop where
  fault : ch.fault = none
  answer : ∃ statusCode text, ch.answer = .ok (.answered statusCode text) ∧ statusCode ≠ 503 ∧
    ((statusCode = 200 ∨ statusCode = 201) → (env.jsonb text).isSome) ∧
    (¬(statusCode = 200 ∨ statusCode = 201) → textColumn (toString statusCode ++ ": " ++ text) =
      .ok (toString statusCode ++ ": " ++ text))

/-- A row, and what has become of it: it is as it was, or an answer settled it. -/
def Settling (env : Env) (P : Choice → Prop) (row row' : OutboxRow) : Prop :=
  row' = row ∨ (row.settled = false ∧ ∃ ch answer, P ch ∧ ch.answer = .ok answer ∧ SettledBy env answer row row')

/-- What has become of the rows. -/
structure Settles (env : Env) (P : Choice → Prop) (s s' : State) : Prop where
  events : s'.identities = s.identities
  rows : ∀ y ∈ s'.rows, ∃ x ∈ s.rows, Settling env P x y

section

variable {env : Env} {P : Choice → Prop} {s s' s'' : State}

theorem SettledBy.identity {answer : Answer} {x y : OutboxRow} (h : SettledBy env answer x y) : y.identity = x.identity := by
  cases h <;> rfl

theorem SettledBy.settled {answer : Answer} {x y : OutboxRow} (h : SettledBy env answer x y) : y.settled = true := by
  cases h <;> simp [OutboxRow.settled]

theorem Settling.identity {x y : OutboxRow} (h : Settling env P x y) : y.identity = x.identity := by
  rcases h with rfl | ⟨-, ch, answer, -, -, h⟩
  · rfl
  · exact h.identity

theorem Settling.trans {x y z : OutboxRow} (h : Settling env P x y) (h' : Settling env P y z) : Settling env P x z := by
  rcases h' with rfl | ⟨hopen, h'⟩
  · exact h
  · rcases h with rfl | ⟨-, ch, answer, -, -, h⟩
    · exact Or.inr ⟨hopen, h'⟩
    · rw [h.settled] at hopen
      cases hopen

theorem Settles.refl (s : State) : Settles env P s s := ⟨rfl, fun y hy => ⟨y, hy, Or.inl rfl⟩⟩

theorem Settles.trans (h : Settles env P s s') (h' : Settles env P s' s'') : Settles env P s s'' := by
  refine ⟨h'.events.trans h.events, fun z hz => ?_⟩
  obtain ⟨y, hy, hyz⟩ := h'.rows z hz
  obtain ⟨x, hx, hxy⟩ := h.rows y hy
  exact ⟨x, hx, hxy.trans hyz⟩

theorem eventIds_of_identities (h : s'.identities = s.identities) : s'.rows.map (·.eventId) = s.rows.map (·.eventId) := by
  have hmap := congrArg (List.map Identity.eventId) h
  unfold State.identities at hmap
  rw [List.map_map, List.map_map] at hmap
  exact hmap

/-- A row that is settled stays as it is. -/
theorem Settles.keeps (h : Settles env P s s') (hids : (s.rows.map (·.eventId)).Nodup) {x : OutboxRow} (hx : x ∈ s.rows)
    (hset : x.settled = true) : x ∈ s'.rows := by
  have hmem : x.identity ∈ s'.identities := by
    rw [h.events]
    exact List.mem_map_of_mem hx
  obtain ⟨y, hy, hid⟩ := mem_identities hmem
  obtain ⟨x', hx', hxy⟩ := h.rows y hy
  have hxid : x'.eventId = x.eventId := (congrArg Identity.eventId hxy.identity).symm.trans (congrArg Identity.eventId hid)
  obtain rfl := eq_of_eventId hids hx' hx hxid
  rcases hxy with rfl | ⟨hopen, -⟩
  · exact hy
  · rw [hset] at hopen
    cases hopen

/-- An event whose row is settled stays settled. -/
theorem Settles.keeps_settled (h : Settles env P s s') (hids : (s.rows.map (·.eventId)).Nodup) {x y : OutboxRow}
    (hx : x ∈ s.rows) (hset : x.settled = true) (hy : y ∈ s'.rows) (hid : y.eventId = x.eventId) : y.settled = true := by
  have hids' : (s'.rows.map (·.eventId)).Nodup := by
    rw [eventIds_of_identities h.events]
    exact hids
  rw [eq_of_eventId hids' hy (h.keeps hids hx hset) hid]
  exact hset

/-! ## A worker alone -/

/-- What a call made alone does. -/
def Alone (env : Env) (P : Choice → Prop) (o : Op) (s : State) (r : Except Raised o.Result) (s' : State) : Prop :=
  ∃ ch, P ch ∧ exec env o ch s = some (r, s')

/-- One call made alone. -/
theorem step_alone {o : Op} {Q : Except Raised o.Result → State → Prop}
    (h : ∀ ch r s', P ch → exec env o ch s = some (r, s') → Q r s') :
    (step o).wp (Alone env P) (Contract.alone State) Q s := by
  refine (Prog.wp_perform (S := sig) o s).2 ?_
  rintro _ rfl - r s' ⟨ch, hP, he⟩
  exact ⟨trivial, trivial, h ch r s' hP he⟩

variable (hP : ∀ ch, P ch → ch.Conclusive env)

theorem change_receipted {text : String} {value : Json} (now : Int) (h : env.jsonb text = some value) :
    (Outcome.receipted text).change env now = .ok (fun row => { row with state := .receipted, receipt := some value }) := by
  have hcolumn : jsonColumn env text = .ok value := by
    unfold jsonColumn
    rw [h]
  exact congrArg (Except.map _) hcolumn

theorem change_rejected {error : String} (now : Int) (h : textColumn error = .ok error) :
    (Outcome.rejected error).change env now = .ok (fun row => { row with state := .rejected, lastError := some error }) :=
  congrArg (Except.map _) h

/-- A row that waits can be sent, and its attempts counted. -/
def OutboxRow.Ready (env : Env) (row : OutboxRow) : Prop := row.Sendable env ∧ row.attempts + 1 < 2 ^ 31

/-- An update of a row that waits, of what was answered. -/
theorem update_alone {row : OutboxRow} (hids : (s.rows.map (·.eventId)).Nodup) (hrow : row ∈ s.rows)
    (hattempts : row.attempts + 1 < 2 ^ 31) {outcome : Outcome} {change : OutboxRow → OutboxRow}
    (hchange : outcome.change env s.now = .ok change) :
    s.update env row.eventId outcome = .ok { s with rows := updateKey (·.eventId) row.eventId (attempted change) s.rows } := by
  unfold State.update
  rw [hchange, rowOf_of_mem hids hrow]
  exact if_pos hattempts

/-- The rows after an update of one that waits. -/
theorem settles_update {row : OutboxRow} (hids : (s.rows.map (·.eventId)).Nodup) (hrow : row ∈ s.rows)
    (hopen : row.settled = false) {outcome : Outcome} {change : OutboxRow → OutboxRow}
    (hchange : outcome.change env s.now = .ok change) {ch : Choice} {answer : Answer} (hch : P ch)
    (ha : ch.answer = .ok answer) (hset : SettledBy env answer row (attempted change row)) :
    Settles env P s { s with rows := updateKey (·.eventId) row.eventId (attempted change) s.rows } := by
  refine ⟨map_updateKey _ (identity_change hchange) s.rows, fun y hy => ?_⟩
  rcases mem_updateKey.1 hy with ⟨x, hx, hid, rfl⟩ | ⟨hy, -⟩
  · obtain rfl := eq_of_eventId hids hx hrow hid
    exact ⟨x, hx, Or.inr ⟨hopen, ch, answer, hch, ha, hset⟩⟩
  · exact ⟨y, hy, Or.inl rfl⟩

/-- What an attempt alone leaves: the rows of other events are as they were, and the row's event is settled. -/
structure Attempted (env : Env) (P : Choice → Prop) (row : OutboxRow) (s s' : State) : Prop where
  now : s'.now = s.now
  settles : Settles env P s s'
  others : ∀ x ∈ s.rows, x.eventId ≠ row.eventId → x ∈ s'.rows
  row : ∃ y ∈ s'.rows, y.eventId = row.eventId ∧ y.settled = true

section

variable {row : OutboxRow} (hids : (s.rows.map (·.eventId)).Nodup) (hrow : row ∈ s.rows) (hopen : row.settled = false)
  (hready : row.attempts + 1 < 2 ^ 31)

include hP hids hrow hopen hready

/-- An update that writes down what the gateway answered. -/
theorem record_alone {outcome : Outcome} {change : OutboxRow → OutboxRow} (hchange : outcome.change env s.now = .ok change)
    {ch : Choice} {answer : Answer} (hch : P ch) (ha : ch.answer = .ok answer)
    (hset : SettledBy env answer row (attempted change row)) :
    (step (.update row.eventId outcome)).wp (Alone env P) (Contract.alone State)
      (fun r s' => r = .ok () ∧ Attempted env P row s s') s := by
  refine step_alone (fun ch' r s' hch' he => ?_)
  have hupdate := update_alone hids hrow hready hchange
  have hexec : exec env (.update row.eventId outcome) ch' s =
      some (s.write none (s.update env row.eventId outcome)) := by
    rw [← (hP ch' hch').fault]
    rfl
  rw [hexec, hupdate] at he
  obtain ⟨rfl, rfl⟩ := Prod.mk.inj (Option.some.inj he)
  refine ⟨rfl, rfl, settles_update hids hrow hopen hchange hch ha hset, fun x hx hne => ?_, ?_⟩
  · exact mem_updateKey.2 (Or.inr ⟨hx, hne⟩)
  · exact ⟨attempted change row, mem_updateKey.2 (Or.inl ⟨row, hrow, rfl, rfl⟩), congrArg Identity.eventId
      (identity_change hchange row), hset.settled⟩

/-- An attempt alone settles its row. -/
theorem attemptOne_alone {client : Client} (hsend : row.Sendable env) :
    (attemptOne env client row).wp (Alone env P) (Contract.alone State)
      (fun r s' => r = .ok () ∧ Attempted env P row s s') s := by
  obtain ⟨request, hreq⟩ := (sendable_iff client row).1 hsend
  unfold attemptOne
  rw [hreq, show (orRaise (.ok request) : Prog sig Request) = pure request from rfl, Prog.pure_bind_eq]
  refine Prog.wp_seq (show Prog.wp _ _ _ (fun r s' => s' = s ∧ ∃ ch statusCode text, P ch ∧ r = .ok (.answered statusCode text) ∧
      ch.answer = .ok (.answered statusCode text) ∧ statusCode ≠ 503 ∧
      ((statusCode = 200 ∨ statusCode = 201) → (env.jsonb text).isSome) ∧
      (¬(statusCode = 200 ∨ statusCode = 201) → textColumn (toString statusCode ++ ": " ++ text) =
        .ok (toString statusCode ++ ": " ++ text))) _ from ?_) ?_ ?_
  · refine step_alone (o := .post row.eventId request) (fun ch r s' hch he => ?_)
    obtain ⟨rfl, rfl⟩ := Prod.mk.inj (Option.some.inj he)
    obtain ⟨statusCode, text, ha, hstatus⟩ := (hP ch hch).answer
    exact ⟨rfl, ch, statusCode, text, hch, ha, ha, hstatus⟩
  · rintro answer s' ⟨rfl, ch, statusCode, text, hch, hr, ha, hretry, hjson, htext⟩
    obtain rfl := Except.ok.inj hr
    by_cases hstatus : statusCode = 200 ∨ statusCode = 201
    · obtain ⟨value, hvalue⟩ := Option.isSome_iff_exists.1 (hjson hstatus)
      rw [recordAnswer_accepted row text hstatus]
      exact record_alone hP hids hrow hopen hready (change_receipted s'.now hvalue) hch ha
        (.receipted statusCode text value rfl hstatus hvalue)
    · rw [recordAnswer_refused row text hstatus hretry]
      exact record_alone hP hids hrow hopen hready (change_rejected s'.now (htext hstatus)) hch ha
        (.rejected statusCode text rfl hstatus hretry)
  · rintro e s' ⟨-, ch, statusCode, text, -, hr, -⟩
    cases hr

end

/-- The rows that are left can all be sent and are as they were selected. -/
structure Selected (env : Env) (s : State) (todo : List OutboxRow) : Prop where
  ids : (todo.map (·.eventId)).Nodup
  rows : ∀ x ∈ todo, x ∈ s.rows ∧ x.settled = false ∧ x.Ready env

include hP in
/-- Alone, the loop settles every row that was selected. -/
theorem attemptAll_alone {client : Client} (todo : List OutboxRow) (hids : (s.rows.map (·.eventId)).Nodup)
    (h : Selected env s todo) :
    (attemptAll env client todo).wp (Alone env P) (Contract.alone State) (fun r s' => r = .ok () ∧ s'.now = s.now ∧
      Settles env P s s' ∧ ∀ x ∈ todo, ∀ y ∈ s'.rows, y.eventId = x.eventId → y.settled = true) s := by
  induction todo generalizing s with
  | nil => exact ⟨rfl, rfl, .refl s, fun x hx => by cases hx⟩
  | cons row todo ih =>
    obtain ⟨hrow, hopen, hsend, hready⟩ := h.rows row List.mem_cons_self
    have hnodup := h.ids
    rw [List.map_cons, List.nodup_cons] at hnodup
    refine Prog.wp_seq (attemptOne_alone hP hids hrow hopen hready hsend) ?_ (fun e s' h' => by cases h'.1)
    rintro _ s₁ ⟨-, h₁⟩
    have hids₁ : (s₁.rows.map (·.eventId)).Nodup := by
      rw [eventIds_of_identities h₁.settles.events]
      exact hids
    have hleft : Selected env s₁ todo := by
      refine ⟨hnodup.2, fun x hx => ?_⟩
      obtain ⟨hmem, hrest⟩ := h.rows x (List.mem_cons_of_mem _ hx)
      exact ⟨h₁.others x hmem (fun heq => hnodup.1 (heq ▸ List.mem_map_of_mem hx)), hrest⟩
    refine Prog.wp_mono ?_ _ (ih hids₁ hleft)
    rintro r s' ⟨rfl, hnow, hsettles, hdone⟩
    refine ⟨rfl, hnow.trans h₁.now, h₁.settles.trans hsettles, fun x hx y hy hid => ?_⟩
    rcases List.mem_cons.1 hx with rfl | hx
    · obtain ⟨z, hz, hzid, hzset⟩ := h₁.row
      exact hsettles.keeps_settled hids₁ hz hzset hy (hid.trans hzid.symm)
    · exact hdone x hx y hy hid

/-- The rows that wait can be sent, and are due at a time. -/
structure State.ReadyBy (env : Env) (s : State) (deadline : Int) : Prop where
  ids : (s.rows.map (·.eventId)).Nodup
  ready : ∀ x ∈ s.rows, x.settled = false → x.Ready env
  due : ∀ x ∈ s.rows, x.settled = false → x.nextAttemptAt ≤ deadline

/-- A row that still waits is as it was. -/
theorem Settles.waiting (h : Settles env P s s') {y : OutboxRow} (hy : y ∈ s'.rows) (hopen : y.settled = false) : y ∈ s.rows := by
  obtain ⟨x, hx, hxy⟩ := h.rows y hy
  rcases hxy with rfl | ⟨-, ch, answer, -, -, hset⟩
  · exact hx
  · rw [hset.settled] at hopen
    cases hopen

theorem State.ReadyBy.settles {deadline : Int} (h : s.ReadyBy env deadline) (hs : Settles env P s s') :
    s'.ReadyBy env deadline := by
  refine ⟨?_, fun y hy hopen => h.ready y (hs.waiting hy hopen) hopen, fun y hy hopen => h.due y (hs.waiting hy hopen) hopen⟩
  rw [eventIds_of_identities hs.events]
  exact h.ids

include hP in
/-- Alone, `run_once` settles every row that is due. -/
theorem runOnce_alone {client : Client} {deadline : Int} (h : s.ReadyBy env deadline) :
    (runOnce env client).wp (Alone env P) (Contract.alone State) (fun r s' => (∃ n, r = .ok n) ∧ s'.now = s.now ∧
      Settles env P s s' ∧ ∀ y ∈ s'.rows, y.settled = false → s.now < y.nextAttemptAt) s := by
  refine Prog.wp_seq (show Prog.wp _ _ _ (fun r s' => r = .ok s.selectDue ∧ s' = s) _ from ?_) ?_ (fun e s' h' => by cases h'.1)
  · refine step_alone (o := .selectDue) (fun ch r s' hch he => ?_)
    have hexec : exec env .selectDue ch s = some (s.read none s.selectDue) := by
      rw [← (hP ch hch).fault]
      rfl
    rw [hexec] at he
    obtain ⟨rfl, rfl⟩ := Prod.mk.inj (Option.some.inj he)
    exact ⟨rfl, rfl⟩
  · rintro rows s₁ ⟨hrows, rfl⟩
    obtain rfl := Except.ok.inj hrows
    have hselected : Selected env s₁ s₁.selectDue := by
      refine ⟨selectDue_ids h.ids, fun x hx => ?_⟩
      obtain ⟨hmem, hopen, -⟩ := mem_selectDue.1 hx
      exact ⟨hmem, hopen, h.ready x hmem hopen⟩
    refine Prog.wp_seq (attemptAll_alone hP _ h.ids hselected) ?_ (fun e s' h' => by cases h'.1)
    rintro _ s' ⟨-, hnow, hsettles, hdone⟩
    refine ⟨⟨_, rfl⟩, hnow, hsettles, fun y hy hopen => ?_⟩
    by_contra hle
    have hset := hdone y (mem_selectDue.2 ⟨hsettles.waiting hy hopen, hopen, not_lt.1 hle⟩) y hy rfl
    rw [hopen] at hset
    cases hset

/-- Nothing waits when nothing that waits is counted. -/
theorem countUnsettled_eq_zero : s.countUnsettled = 0 ↔ ∀ x ∈ s.rows, x.settled = true := by
  unfold State.countUnsettled
  rw [List.length_eq_zero_iff, List.filter_eq_nil_iff]
  simp

/-- The rounds that are left are enough: nothing waits, or what waits is due two rounds before the last. -/
def EnoughRounds (s : State) (deadline : Int) (rounds : Nat) : Prop :=
  ((∀ x ∈ s.rows, x.settled = true) ∧ 1 ≤ rounds) ∨ (2 ≤ rounds ∧ deadline ≤ s.now + 200000 * (rounds - 2 : Nat))

include hP in
/-- Alone, `run_until_all_settled` settles every row. -/
theorem runUntilAllSettled_alone (client : Client) {deadline : Int} (rounds : Nat) (h : s.ReadyBy env deadline)
    (hrounds : EnoughRounds s deadline rounds) :
    (runUntilAllSettled env client rounds).wp (Alone env P) (Contract.alone State)
      (fun r s' => r = .ok () ∧ Settles env P s s' ∧ ∀ y ∈ s'.rows, y.settled = true) s := by
  induction rounds generalizing s with
  | zero => rcases hrounds with ⟨-, hlt⟩ | ⟨hlt, -⟩ <;> omega
  | succ rounds ih =>
    refine Prog.wp_seq (show Prog.wp _ _ _ (fun r s' => r = .ok s.countUnsettled ∧ s' = s) _ from ?_) ?_
      (fun e s' h' => by cases h'.1)
    · refine step_alone (o := .countUnsettled) (fun ch r s' hch he => ?_)
      have hexec : exec env .countUnsettled ch s = some (s.read none s.countUnsettled) := by
        rw [← (hP ch hch).fault]
        rfl
      rw [hexec] at he
      obtain ⟨rfl, rfl⟩ := Prod.mk.inj (Option.some.inj he)
      exact ⟨rfl, rfl⟩
    · rintro pending s₁ ⟨hpending, rfl⟩
      obtain rfl := Except.ok.inj hpending
      split
      · rename_i hzero
        exact ⟨rfl, .refl s₁, countUnsettled_eq_zero.1 hzero⟩
      · rename_i hsome
        have hleft : 2 ≤ rounds + 1 ∧ deadline ≤ s₁.now + 200000 * (rounds + 1 - 2 : Nat) := by
          rcases hrounds with ⟨hall, -⟩ | hleft
          · exact absurd (countUnsettled_eq_zero.2 hall) hsome
          · exact hleft
        refine Prog.wp_seq (runOnce_alone hP h) ?_ (fun e s' h' => by obtain ⟨⟨n, hn⟩, -⟩ := h'; cases hn)
        rintro _ s₂ ⟨-, hnow, hsettles, hdone⟩
        refine Prog.wp_seq (show Prog.wp _ _ _ (fun r s' => r = .ok () ∧
            s' = { s₂ with now := s₂.now + (200000 : Nat) }) _ from ?_) ?_ (fun e s' h' => by cases h'.1)
        · refine step_alone (o := .wait 200000) (fun ch r s' hch he => ?_)
          obtain ⟨rfl, rfl⟩ := Prod.mk.inj (Option.some.inj he)
          exact ⟨rfl, rfl⟩
        · rintro _ s₃ ⟨-, rfl⟩
          have hsettles' : Settles env P s₁ { s₂ with now := s₂.now + (200000 : Nat) } := ⟨hsettles.events, hsettles.rows⟩
          have hready := h.settles hsettles'
          refine Prog.wp_mono ?_ _ (ih hready ?_)
          · rintro r s' ⟨rfl, hs', hall⟩
            exact ⟨rfl, hsettles'.trans hs', hall⟩
          · by_cases hlate : deadline ≤ s₁.now
            · -- what was due before this round is settled now
              refine Or.inl ⟨fun y hy => ?_, by omega⟩
              cases hset : y.settled with
              | true => rfl
              | false =>
                have := hdone y hy hset
                have := h.due y (hsettles.waiting hy hset) hset
                omega
            · refine Or.inr ⟨by omega, ?_⟩
              dsimp only
              omega

end

end Lyrica

end Archisynapse
