import Archisynapse.Base.History
import Archisynapse.Lyrica.Outbox

/-!
# Lyrica's outbox: what calls make of the rows

What an insert and an update make of the rows (`Moves`), what no call changes of a row (`OutboxRow.identity`), and which calls the
programs make after which of their own (`Justified`).
-/

namespace Archisynapse

namespace Lyrica

open EconomicTruth (Payload Raised Fault connectionLost clip)

/-! ## Delays -/

/-- A number that is at most an integer is rounded to at most that. -/
theorem roundHalfEven_le_intCast {q : ℚ} {n : Int} (h : q ≤ n) : roundHalfEven q ≤ n := by
  unfold roundHalfEven
  rcases h.lt_or_eq with hlt | rfl
  · have hfloor : ⌊q⌋ < n := Int.floor_lt.2 hlt
    dsimp only
    split <;> omega
  · simp

/-- A delay is at least half of what it is capped at, and at most that. -/
theorem backoffSeconds_mem (attempts : Nat) (random : Draw) :
    min (2 ^ attempts) (maxBackoffSeconds : ℚ) / 2 ≤ backoffSeconds attempts random ∧
      backoffSeconds attempts random ≤ min (2 ^ attempts) (maxBackoffSeconds : ℚ) := by
  have hcap : 0 ≤ min (2 ^ attempts) (maxBackoffSeconds : ℚ) := le_min (by positivity) (Nat.cast_nonneg _)
  have hdraw := mul_nonneg hcap random.nonneg
  have hdraw' := mul_le_mul_of_nonneg_left random.lt_one.le hcap
  unfold backoffSeconds
  dsimp only
  constructor <;> linarith

/-- A delay is at most 30 seconds. -/
theorem backoffSeconds_le (attempts : Nat) (random : Draw) : backoffSeconds attempts random ≤ 30 := by
  refine (backoffSeconds_mem attempts random).2.trans ((min_le_right _ _).trans ?_)
  norm_num [maxBackoffSeconds]

/-! ## Rows -/

/-- What a row says of its event, which no attempt changes. -/
structure Identity where
  eventId : String
  idempotencyKey : String
  correlationId : String
  payload : Json
  privateKeyB64 : String
  keyId : String
  createdAt : Int

/-- What no attempt changes of a row. -/
def OutboxRow.identity (row : OutboxRow) : Identity :=
  ⟨row.eventId, row.idempotencyKey, row.correlationId, row.payload, row.privateKeyB64, row.keyId, row.createdAt⟩

/-- The identities of the rows. -/
def State.identities (s : State) : List Identity := s.rows.map (·.identity)

/-- Rows with one identity make the same requests. -/
theorem request_congr {env : Env} {client : Client} {a b : OutboxRow} (h : a.identity = b.identity) :
    a.request env client = b.request env client := by
  simp only [OutboxRow.identity, Identity.mk.injEq] at h
  obtain ⟨-, -, -, hpayload, hkey, hid, -⟩ := h
  unfold OutboxRow.request
  rw [hpayload, hkey, hid]

section

variable {env : Env} {s s' : State}

/-- The row of an event that has one. -/
theorem rowOf_of_mem (hids : (s.rows.map (·.eventId)).Nodup) {row : OutboxRow} (hrow : row ∈ s.rows) :
    s.rowOf row.eventId = some row := find?_key hids hrow

theorem rowOf_some {eventId : String} {row : OutboxRow} (h : s.rowOf eventId = some row) : row ∈ s.rows ∧ row.eventId = eventId :=
  ⟨List.mem_of_find?_eq_some h, by simpa using List.find?_some h⟩

/-- A row after an attempt. -/
def attempted (change : OutboxRow → OutboxRow) (row : OutboxRow) : OutboxRow := { change row with attempts := row.attempts + 1 }

/-- A value that was made of another. -/
theorem map_ok {ε α β : Type} {f : α → β} {x : Except ε α} {b : β} (h : x.map f = .ok b) : ∃ a, x = .ok a ∧ b = f a := by
  cases x with
  | error e => cases h
  | ok a =>
    cases h
    exact ⟨a, rfl, rfl⟩

/-- What a column takes is a value of JSON. -/
theorem jsonColumn_ok {text : String} {value : Json} (h : jsonColumn env text = .ok value) : env.jsonb text = some value := by
  unfold jsonColumn at h
  cases hj : env.jsonb text with
  | none =>
    rw [hj] at h
    cases h
  | some value' =>
    rw [hj] at h
    cases h
    rfl

/-- What an outcome makes of a row. -/
theorem change_ok {now : Int} {outcome : Outcome} {change : OutboxRow → OutboxRow} (h : outcome.change env now = .ok change) :
    match outcome with
    | .receipted receipt => ∃ value, env.jsonb receipt = some value ∧
        change = fun row => { row with state := .receipted, receipt := some value }
    | .rejected error => ∃ text, textColumn error = .ok text ∧
        change = fun row => { row with state := .rejected, lastError := some text }
    | .retry error delay => ∃ text, textColumn error = .ok text ∧ change = fun row =>
        { row with state := .sent, lastError := some text, nextAttemptAt := now + roundHalfEven (delay * 1000000) } := by
  cases outcome with
  | receipted receipt =>
    obtain ⟨value, hvalue, hchange⟩ := map_ok h
    exact ⟨value, jsonColumn_ok hvalue, hchange⟩
  | rejected error => exact map_ok h
  | retry error delay => exact map_ok h

/-- An attempt changes nothing of the identity. -/
theorem identity_change {now : Int} {outcome : Outcome} {change : OutboxRow → OutboxRow}
    (h : outcome.change env now = .ok change) (row : OutboxRow) : (attempted change row).identity = row.identity := by
  have hchange := change_ok h
  cases outcome with
  | receipted receipt =>
    obtain ⟨value, -, rfl⟩ := hchange
    rfl
  | rejected error =>
    obtain ⟨text, -, rfl⟩ := hchange
    rfl
  | retry error delay =>
    obtain ⟨text, -, rfl⟩ := hchange
    rfl

/-- An update that goes well: there is no such row, or the row was changed. -/
theorem update_ok {eventId : String} {outcome : Outcome} (h : s.update env eventId outcome = .ok s') :
    ∃ change, outcome.change env s.now = .ok change ∧
      (s' = s ∨ ∃ row, s.rowOf eventId = some row ∧ row.attempts + 1 < 2 ^ 31 ∧
        s' = { s with rows := updateKey (·.eventId) eventId (attempted change) s.rows }) := by
  unfold State.update at h
  cases hc : outcome.change env s.now with
  | error e =>
    rw [hc] at h
    cases h
  | ok change =>
    rw [hc] at h
    refine ⟨change, rfl, ?_⟩
    dsimp only [bind, Except.bind] at h
    cases hrow : s.rowOf eventId with
    | none =>
      rw [hrow] at h
      cases h
      exact Or.inl rfl
    | some row =>
      rw [hrow] at h
      dsimp only at h
      split at h
      · rename_i hlt
        cases h
        exact Or.inr ⟨row, rfl, hlt, rfl⟩
      · cases h

/-- The row of an insert is new: it is pending, was not attempted, and is due at once. -/
theorem row_ok {now : Int} {v : Values} {row : OutboxRow} (h : v.row env now = .ok row) :
    row.state = .pending ∧ row.attempts = 0 ∧ row.nextAttemptAt = now ∧ row.receipt = none ∧ row.createdAt = now ∧
      column v.eventId = .ok row.eventId ∧ column v.idempotencyKey = .ok row.idempotencyKey ∧
      column v.correlationId = .ok row.correlationId ∧ jsonColumn env v.payload = .ok row.payload := by
  unfold Values.row at h
  cases h₁ : column v.eventId with
  | error e =>
    rw [h₁] at h
    cases h
  | ok eventId =>
    cases h₂ : column v.idempotencyKey with
    | error e =>
      rw [h₁, h₂] at h
      cases h
    | ok idempotencyKey =>
      cases h₃ : column v.correlationId with
      | error e =>
        rw [h₁, h₂, h₃] at h
        cases h
      | ok correlationId =>
        cases h₄ : jsonColumn env v.payload with
        | error e =>
          rw [h₁, h₂, h₃, h₄] at h
          cases h
        | ok payload =>
          cases h₅ : column v.privateKeyB64 with
          | error e =>
            rw [h₁, h₂, h₃, h₄, h₅] at h
            cases h
          | ok privateKeyB64 =>
            cases h₆ : column v.keyId with
            | error e =>
              rw [h₁, h₂, h₃, h₄, h₅, h₆] at h
              cases h
            | ok keyId =>
              rw [h₁, h₂, h₃, h₄, h₅, h₆] at h
              cases h
              exact ⟨rfl, rfl, rfl, rfl, rfl, rfl, rfl, rfl, rfl⟩

/-- An insert that goes well: its event has a row already, or gets one. -/
theorem insert_ok {v : Values} (h : s.insert env v = .ok s') :
    s' = s ∨ ∃ row, v.row env s.now = .ok row ∧ s.rowOf row.eventId = none ∧ s' = { s with rows := s.rows ++ [row] } := by
  obtain ⟨row, hrow, rfl⟩ := map_ok h
  cases hfound : s.rowOf row.eventId with
  | some found => exact Or.inl rfl
  | none => exact Or.inr ⟨row, hrow, hfound, rfl⟩

/-- What a text column takes is left as it is. -/
theorem textColumn_ok {text stored : String} (h : textColumn text = .ok stored) : stored = text := by
  unfold textColumn RoyaltyGateway.argument at h
  split at h
  · cases h
  · cases h
    rfl

/-! ## One call -/

/-- A statement that writes leaves what it makes, or nothing. -/
theorem write_cases {fault : Option Fault} {result : Except Raised State} {r : Except Raised Unit}
    (h : s.write fault result = (r, s')) : s' = s ∨ result = .ok s' := by
  unfold State.write at h
  split at h
  · exact Or.inl (Prod.mk.inj h).2.symm
  · exact Or.inl (Prod.mk.inj h).2.symm
  · exact Or.inr (by rw [(Prod.mk.inj h).2])
  · exact Or.inr (by rw [(Prod.mk.inj h).2])

/-- A statement that reads leaves everything as it is, and answers what it reads. -/
theorem read_cases {α : Type} {fault : Option Fault} {a : α} {r : Except Raised α} (h : s.read fault a = (r, s')) :
    s' = s ∧ ∀ b, r = .ok b → b = a := by
  unfold State.read at h
  cases fault with
  | some fault =>
    obtain ⟨rfl, rfl⟩ := Prod.mk.inj h
    exact ⟨rfl, fun b hb => by cases hb⟩
  | none =>
    obtain ⟨rfl, rfl⟩ := Prod.mk.inj h
    exact ⟨rfl, fun b hb => (Except.ok.inj hb).symm⟩

/-- What a call makes of the outbox: nothing, or what an insert or an update makes of it that goes well, or time passes. -/
theorem exec_moves {o : Op} {ch : Choice} {r : Except Raised o.Result} (h : exec env o ch s = some (r, s')) :
    s' = s ∨ (∃ v, o = .insert v ∧ s.insert env v = .ok s') ∨
      (∃ eventId outcome, o = .update eventId outcome ∧ s.update env eventId outcome = .ok s') ∨
      ∃ duration, o = .wait duration ∧ s' = { s with now := s.now + duration } := by
  cases o with
  | insert v =>
    rcases write_cases (Option.some.inj h) with h | h
    · exact Or.inl h
    · exact Or.inr (Or.inl ⟨v, rfl, h⟩)
  | selectDue => exact Or.inl (read_cases (Option.some.inj h)).1
  | countUnsettled => exact Or.inl (read_cases (Option.some.inj h)).1
  | post eventId request =>
    obtain ⟨-, rfl⟩ := Prod.mk.inj (Option.some.inj h)
    exact Or.inl rfl
  | random =>
    obtain ⟨-, rfl⟩ := Prod.mk.inj (Option.some.inj h)
    exact Or.inl rfl
  | update eventId outcome =>
    rcases write_cases (Option.some.inj h) with h | h
    · exact Or.inl h
    · exact Or.inr (Or.inr (Or.inl ⟨eventId, outcome, rfl, h⟩))
  | wait duration =>
    obtain ⟨-, rfl⟩ := Prod.mk.inj (Option.some.inj h)
    exact Or.inr (Or.inr (Or.inr ⟨duration, rfl, rfl⟩))

/-- An update keeps what the rows say of their events. -/
theorem identities_update {eventId : String} {outcome : Outcome} (h : s.update env eventId outcome = .ok s') :
    s'.identities = s.identities ∧ s'.now = s.now := by
  obtain ⟨change, hchange, rfl | ⟨row, -, -, rfl⟩⟩ := update_ok h
  · exact ⟨rfl, rfl⟩
  · exact ⟨map_updateKey _ (identity_change hchange) s.rows, rfl⟩

/-- No event is lost and none is changed, and time does not go back. -/
structure Later (s s' : State) : Prop where
  events : s.identities <+: s'.identities
  now : s.now ≤ s'.now

theorem Later.refl (s : State) : Later s s := ⟨List.prefix_refl _, le_refl _⟩

theorem Later.trans {s'' : State} (h : Later s s') (h' : Later s' s'') : Later s s'' :=
  ⟨h.events.trans h'.events, h.now.trans h'.now⟩

theorem exec_later {o : Op} {ch : Choice} {r : Except Raised o.Result} (h : exec env o ch s = some (r, s')) : Later s s' := by
  rcases exec_moves h with rfl | ⟨v, -, h⟩ | ⟨eventId, outcome, -, h⟩ | ⟨duration, -, rfl⟩
  · exact .refl _
  · rcases insert_ok h with rfl | ⟨row, -, -, rfl⟩
    · exact .refl _
    · refine ⟨?_, le_refl _⟩
      unfold State.identities
      rw [List.map_append]
      exact List.prefix_append _ _
  · obtain ⟨hrows, hnow⟩ := identities_update h
    exact ⟨by rw [hrows], by rw [hnow]⟩
  · exact ⟨List.prefix_refl _, by dsimp only; omega⟩

/-! ## What holds of the rows -/

/-- What holds of the rows at any time: each event has one, none was made later than now, and none waits for more than half a
minute. -/
structure State.Sound (s : State) : Prop where
  ids : (s.rows.map (·.eventId)).Nodup
  due : ∀ row ∈ s.rows, row.nextAttemptAt ≤ s.now + 30000000
  created : ∀ row ∈ s.rows, row.createdAt ≤ s.now

/-- A call that makes no row wait for longer. -/
def Op.Patient : Op → Prop
  | .update _ (.retry _ delay) => delay ≤ 30
  | _ => True

theorem sound_empty : State.empty.Sound := ⟨List.nodup_nil, by simp [State.empty], by simp [State.empty]⟩

/-- A delay of at most half a minute, in microseconds. -/
theorem roundHalfEven_delay {delay : ℚ} (h : delay ≤ 30) : roundHalfEven (delay * 1000000) ≤ 30000000 := by
  refine roundHalfEven_le_intCast ?_
  push_cast
  linarith

/-- A row after a call is one from before it, changed in what attempts change, or a new one that is due at once. -/
theorem exec_rows {o : Op} {ch : Choice} {r : Except Raised o.Result} (h : exec env o ch s = some (r, s')) {y : OutboxRow}
    (hy : y ∈ s'.rows) :
    y ∈ s.rows ∨
      (∃ outcome change x, o = .update y.eventId outcome ∧ outcome.change env s.now = .ok change ∧ x ∈ s.rows ∧
        x.eventId = y.eventId ∧ y = attempted change x) ∨
      (y.state = .pending ∧ y.nextAttemptAt = s.now ∧ y.receipt = none ∧ y.createdAt = s.now ∧ s'.now = s.now) := by
  rcases exec_moves h with rfl | ⟨v, -, hinsert⟩ | ⟨eventId, outcome, rfl, hupdate⟩ | ⟨duration, -, rfl⟩
  · exact Or.inl hy
  · rcases insert_ok hinsert with rfl | ⟨row, hrow, -, rfl⟩
    · exact Or.inl hy
    · rcases List.mem_append.1 hy with hy | hy
      · exact Or.inl hy
      · obtain rfl := List.mem_singleton.1 hy
        obtain ⟨hstate, -, hnext, hreceipt, hcreated, -⟩ := row_ok hrow
        exact Or.inr (Or.inr ⟨hstate, hnext, hreceipt, hcreated, rfl⟩)
  · obtain ⟨change, hchange, rfl | ⟨row, -, -, rfl⟩⟩ := update_ok hupdate
    · exact Or.inl hy
    · rcases mem_updateKey.1 hy with ⟨x, hx, rfl, rfl⟩ | ⟨hy, -⟩
      · have hid : (attempted change x).eventId = x.eventId := congrArg Identity.eventId (identity_change hchange x)
        exact Or.inr (Or.inl ⟨outcome, change, x, by rw [hid], hchange, hx, hid.symm, rfl⟩)
      · exact Or.inl hy
  · exact Or.inl hy

/-- The rows keep their events distinct. -/
theorem exec_ids {o : Op} {ch : Choice} {r : Except Raised o.Result} (hs : (s.rows.map (·.eventId)).Nodup)
    (h : exec env o ch s = some (r, s')) : (s'.rows.map (·.eventId)).Nodup := by
  rcases exec_moves h with rfl | ⟨v, -, hinsert⟩ | ⟨eventId, outcome, -, hupdate⟩ | ⟨duration, -, rfl⟩
  · exact hs
  · rcases insert_ok hinsert with rfl | ⟨row, -, hnone, rfl⟩
    · exact hs
    · exact nodup_map_concat hs (fun y hy => by simpa using List.find?_eq_none.1 hnone y hy)
  · obtain ⟨change, hchange, rfl | ⟨row, -, -, rfl⟩⟩ := update_ok hupdate
    · exact hs
    · dsimp only
      rw [map_updateKey (·.eventId) (fun x => congrArg Identity.eventId (identity_change hchange x))]
      exact hs
  · exact hs

/-- An attempt makes no row wait for longer than its delay. -/
theorem change_due {now : Int} {outcome : Outcome} {change : OutboxRow → OutboxRow} {eventId : String}
    (h : outcome.change env now = .ok change) (ho : (Op.update eventId outcome).Patient) (x : OutboxRow) :
    (attempted change x).nextAttemptAt ≤ max x.nextAttemptAt (now + 30000000) := by
  have hchange := change_ok h
  cases outcome with
  | receipted receipt =>
    obtain ⟨value, -, rfl⟩ := hchange
    exact le_max_left _ _
  | rejected error =>
    obtain ⟨text, -, rfl⟩ := hchange
    exact le_max_left _ _
  | retry error delay =>
    obtain ⟨text, -, rfl⟩ := hchange
    have hdelay := roundHalfEven_delay ho
    refine le_trans ?_ (le_max_right _ _)
    dsimp only [attempted]
    omega

theorem exec_sound {o : Op} {ch : Choice} {r : Except Raised o.Result} (ho : o.Patient) (hs : s.Sound)
    (h : exec env o ch s = some (r, s')) : s'.Sound := by
  have hnow := (exec_later h).now
  refine ⟨exec_ids hs.ids h, fun y hy => ?_, fun y hy => ?_⟩
  · rcases exec_rows h hy with hold | ⟨outcome, change, x, rfl, hchange, hx, -, rfl⟩ | ⟨-, hnext, -⟩
    · exact (hs.due y hold).trans (by omega)
    · refine (change_due hchange ho x).trans (max_le ?_ (by omega))
      exact (hs.due x hx).trans (by omega)
    · omega
  · rcases exec_rows h hy with hold | ⟨outcome, change, x, -, hchange, hx, -, rfl⟩ | ⟨-, -, -, hcreated, -⟩
    · exact (hs.created y hold).trans hnow
    · have hid : (attempted change x).createdAt = x.createdAt := congrArg Identity.createdAt (identity_change hchange x)
      rw [hid]
      exact (hs.created x hx).trans hnow
    · omega

end

/-! ## What the programs call -/

/-- The gateway answered a request of an event, among some calls. -/
def AnsweredWith (past : List (Prog.Answered sig)) (eventId : String) (answer : Answer) : Prop :=
  ∃ request, (⟨.post eventId request, .ok answer⟩ : Prog.Answered sig) ∈ past

/-- A call may be made after the others of its program: a request is one of a row that was selected, after rows whose requests
can all be made, a row is receipted with the text of a 200 or a 201, rejected with an answer that is not to be tried again, and
tried again after a lost connection or a 503. -/
def Justified (env : Env) (past : List (Prog.Answered sig)) : Op → Prop
  | .post eventId request => ∃ (before : List OutboxRow) (row : OutboxRow) (after : List OutboxRow) (client : Client),
      (⟨.selectDue, .ok (before ++ row :: after)⟩ : Prog.Answered sig) ∈ past ∧ row.eventId = eventId ∧
        row.request env client = Except.ok request ∧ ∀ x ∈ before, ∃ made : Request, x.request env client = Except.ok made
  | .update eventId (.receipted text) => ∃ statusCode : Nat, (statusCode = 200 ∨ statusCode = 201) ∧
      AnsweredWith past eventId (.answered statusCode text)
  | .update eventId (.rejected error) => ∃ (statusCode : Nat) (text : String), statusCode ≠ 200 ∧ statusCode ≠ 201 ∧ statusCode ≠ 503 ∧
      error = toString statusCode ++ ": " ++ text ∧ AnsweredWith past eventId (.answered statusCode text)
  | .update eventId (.retry _ delay) => delay ≤ 30 ∧ ∃ answer : Answer, AnsweredWith past eventId answer ∧
      ((∃ text : String, answer = .requestError text) ∨ ∃ text : String, answer = .answered 503 text)
  | _ => True

section

variable {env : Env} {past past' : List (Prog.Answered sig)}

theorem AnsweredWith.mono {eventId : String} {answer : Answer} (h : AnsweredWith past eventId answer) (hp : past <+: past') :
    AnsweredWith past' eventId answer := by
  obtain ⟨request, hmem⟩ := h
  exact ⟨request, hp.subset hmem⟩

/-- What a program leaves of the calls before it: they are there, and calls were added. -/
abbrev Adds {α : Type} (past : List (Prog.Answered sig)) : Except Raised α → List (Prog.Answered sig) → Prop :=
  fun _ past' => past <+: past'

/-- One call that is justified. -/
theorem step_justified {o : Op} (ho : Justified env past o) :
    (step o).wp Prog.Logs (Prog.guarded (Justified env)) (Adds past) past :=
  Prog.guarded_perform ho (fun _ => List.prefix_append _ _)

/-- A program after another, both of whose calls are justified. -/
theorem adds_bind {α β : Type} {p : Prog sig α} {f : α → Prog sig β}
    (hp : p.wp Prog.Logs (Prog.guarded (Justified env)) (Adds past) past)
    (hf : ∀ a past', past <+: past' → (f a).wp Prog.Logs (Prog.guarded (Justified env)) (Adds past') past') :
    (p >>= f).wp Prog.Logs (Prog.guarded (Justified env)) (Adds past) past := by
  refine Prog.wp_seq hp (fun a past' h => Prog.wp_mono (fun _ _ h' => h.trans h') _ (hf a past' h)) (fun _ _ h => h)

theorem orRaise_justified {α : Type} (x : Except Raised α) :
    (orRaise x).wp Prog.Logs (Prog.guarded (Justified env)) (Adds past) past := by
  cases x <;> exact List.prefix_refl past

theorem enqueue_justified (event : Payload) (privateKeyB64 keyId : String) :
    (enqueue event privateKeyB64 keyId).wp Prog.Logs (Prog.guarded (Justified env)) (Adds past) past := by
  refine adds_bind (orRaise_justified _) (fun _ _ _ => adds_bind (orRaise_justified _) (fun _ _ _ =>
    adds_bind (orRaise_justified _) (fun _ _ _ => step_justified trivial)))

theorem markRetry_justified {eventId : String} {answer : Answer} (h : AnsweredWith past eventId answer)
    (hretry : (∃ text, answer = .requestError text) ∨ ∃ text, answer = .answered 503 text) (attempts : Nat) (error : String) :
    (markRetry eventId attempts error).wp Prog.Logs (Prog.guarded (Justified env)) (Adds past) past :=
  adds_bind (step_justified trivial) (fun random _ hp =>
    step_justified ⟨backoffSeconds_le attempts random, answer, h.mono hp, hretry⟩)

/-- What is made of a 200 or a 201. -/
theorem recordAnswer_accepted (row : OutboxRow) {statusCode : Nat} (text : String) (h : statusCode = 200 ∨ statusCode = 201) :
    recordAnswer row (.answered statusCode text) = step (.update row.eventId (.receipted text)) := if_pos h

/-- What is made of a 503. -/
theorem recordAnswer_retry (row : OutboxRow) (text : String) :
    recordAnswer row (.answered 503 text) = markRetry row.eventId row.attempts ("503 retry_later: " ++ text) := by
  unfold recordAnswer
  exact (if_neg (by omega)).trans (if_pos rfl)

/-- What is made of another status. -/
theorem recordAnswer_refused (row : OutboxRow) {statusCode : Nat} (text : String)
    (h : ¬(statusCode = 200 ∨ statusCode = 201)) (hretry : statusCode ≠ 503) :
    recordAnswer row (.answered statusCode text) =
      step (.update row.eventId (.rejected (toString statusCode ++ ": " ++ text))) := by
  unfold recordAnswer
  exact (if_neg h).trans (if_neg hretry)

theorem recordAnswer_justified {row : OutboxRow} {answer : Answer} (h : AnsweredWith past row.eventId answer) :
    (recordAnswer row answer).wp Prog.Logs (Prog.guarded (Justified env)) (Adds past) past := by
  cases answer with
  | requestError text => exact markRetry_justified h (Or.inl ⟨text, rfl⟩) _ _
  | answered statusCode text =>
    by_cases hstatus : statusCode = 200 ∨ statusCode = 201
    · rw [recordAnswer_accepted row text hstatus]
      exact step_justified (o := .update row.eventId (.receipted text)) ⟨statusCode, hstatus, h⟩
    · by_cases hretry : statusCode = 503
      · subst hretry
        rw [recordAnswer_retry]
        exact markRetry_justified h (Or.inr ⟨text, rfl⟩) _ _
      · rw [recordAnswer_refused row text hstatus hretry]
        rw [not_or] at hstatus
        exact step_justified (o := .update row.eventId (.rejected _))
          ⟨statusCode, text, hstatus.1, hstatus.2, hretry, rfl, h⟩

/-- The request of a row that was selected, and what is made of its answer. -/
theorem attemptOne_justified {client : Client} {before after : List OutboxRow} {row : OutboxRow}
    (h : (⟨.selectDue, .ok (before ++ row :: after)⟩ : Prog.Answered sig) ∈ past)
    (hbefore : ∀ x ∈ before, ∃ made, x.request env client = Except.ok made) :
    (attemptOne env client row).wp Prog.Logs (Prog.guarded (Justified env)) (Adds past) past := by
  unfold attemptOne
  cases hreq : row.request env client with
  | error e => exact List.prefix_refl past
  | ok request =>
    rw [show (orRaise (.ok request) : Prog sig Request) = pure request from rfl, Prog.pure_bind_eq]
    refine Prog.wp_seq (show Prog.wp _ _ _ (fun r past' => past <+: past' ∧
        ∀ answer, r = .ok answer → AnsweredWith past' row.eventId answer) _ from
      Prog.guarded_perform ⟨before, row, after, client, h, rfl, hreq, hbefore⟩ (fun r => ⟨List.prefix_append _ _, ?_⟩))
      (fun answer past' hq => Prog.wp_mono (fun _ _ h' => hq.1.trans h') _ (recordAnswer_justified (hq.2 answer rfl)))
      (fun _ _ hq => hq.1)
    rintro answer rfl
    exact ⟨request, List.mem_append_right _ (List.mem_singleton_self _)⟩

/-- A row whose request cannot be made ends the loop. -/
theorem attemptAll_error {client : Client} {row : OutboxRow} {e : Raised} (h : row.request env client = .error e)
    (rows : List OutboxRow) : attemptAll env client (row :: rows) = Prog.throw e := by
  unfold attemptAll attemptOne
  rw [h]
  rfl

/-- The rows that are left, after rows whose requests could be made. -/
theorem attemptAll_justified {client : Client} (before todo : List OutboxRow)
    (h : (⟨.selectDue, .ok (before ++ todo)⟩ : Prog.Answered sig) ∈ past)
    (hbefore : ∀ x ∈ before, ∃ made, x.request env client = Except.ok made) :
    (attemptAll env client todo).wp Prog.Logs (Prog.guarded (Justified env)) (Adds past) past := by
  induction todo generalizing before past with
  | nil => exact List.prefix_refl past
  | cons row todo ih =>
    cases hreq : row.request env client with
    | error e =>
      rw [attemptAll_error hreq]
      exact List.prefix_refl past
    | ok request =>
      have hbefore' : ∀ x ∈ before ++ [row], ∃ made, x.request env client = Except.ok made := by
        intro x hx
        rcases List.mem_append.1 hx with hx | hx
        · exact hbefore x hx
        · obtain rfl := List.mem_singleton.1 hx
          exact ⟨request, hreq⟩
      refine adds_bind (attemptOne_justified h hbefore) (fun _ past' hp => ih (before ++ [row]) ?_ hbefore')
      rw [List.append_assoc]
      exact hp.subset h

theorem runOnce_justified (client : Client) :
    (runOnce env client).wp Prog.Logs (Prog.guarded (Justified env)) (Adds past) past := by
  refine Prog.wp_seq (show Prog.wp _ _ _ (fun r past' => past <+: past' ∧
      ∀ rows, r = .ok rows → (⟨.selectDue, .ok rows⟩ : Prog.Answered sig) ∈ past') _ from
    Prog.guarded_perform trivial (fun r => ⟨List.prefix_append _ _, ?_⟩)) ?_ (fun _ _ hq => hq.1)
  · rintro rows rfl
    exact List.mem_append_right _ (List.mem_singleton_self _)
  · intro rows past' hq
    exact Prog.wp_mono (fun _ _ h' => hq.1.trans h') _
      (adds_bind (attemptAll_justified [] rows (hq.2 rows rfl) (by simp))
        (fun _ past'' _ => List.prefix_refl past''))

theorem runUntilAllSettled_justified (client : Client) (rounds : Nat) :
    (runUntilAllSettled env client rounds).wp Prog.Logs (Prog.guarded (Justified env)) (Adds past) past := by
  induction rounds generalizing past with
  | zero => exact List.prefix_refl past
  | succ rounds ih =>
    refine adds_bind (step_justified (o := .countUnsettled) trivial) (fun pending past' _ => ?_)
    split
    · exact List.prefix_refl past'
    · exact adds_bind (runOnce_justified client) (fun _ _ _ => adds_bind (step_justified trivial) (fun _ _ _ => ih))

/-- A program whose calls are justified from the start. -/
theorem guarded_of_adds {α : Type} {p : Prog sig α} (h : p.wp Prog.Logs (Prog.guarded (Justified env)) (Adds []) []) :
    p.Guarded (Justified env) := Prog.wp_mono (fun _ _ _ => trivial) _ h

/-- Every call of a program is justified by those before it. -/
theorem program_justified (c : Call) : (program env c).Guarded (Justified env) := by
  cases c with
  | enqueue event privateKeyB64 keyId => exact guarded_of_adds (enqueue_justified event privateKeyB64 keyId)
  | runOnce client => exact guarded_of_adds (adds_bind (runOnce_justified client) (fun _ past' _ => List.prefix_refl past'))
  | runUntilAllSettled client rounds => exact guarded_of_adds (runUntilAllSettled_justified client rounds)
  | wait duration => exact guarded_of_adds (step_justified (o := .wait duration) trivial)

end

/-! ## What holds of the rows and of the calls that were made -/

/-- A request can be made of a row: its key signs, and its payload has the texts that are sent as headers. -/
def OutboxRow.Sendable (env : Env) (row : OutboxRow) : Prop :=
  (∃ signature, env.sign row.privateKeyB64 (dumps row.payload).toUTF8 = .ok signature) ∧
    (∃ text, textAt row.payload "correlation_id" = .ok text) ∧ ∃ text, textAt row.payload "idempotency_key" = .ok text

section

variable {env : Env}

theorem sendable_iff (client : Client) (row : OutboxRow) :
    row.Sendable env ↔ ∃ request, row.request env client = .ok request := by
  unfold OutboxRow.Sendable OutboxRow.request
  dsimp only
  generalize env.sign row.privateKeyB64 (dumps row.payload).toUTF8 = signature
  generalize textAt row.payload "correlation_id" = correlationId
  generalize textAt row.payload "idempotency_key" = idempotencyKey
  cases signature with
  | error e => simp [bind, Except.bind]
  | ok signature =>
    cases correlationId with
    | error e => simp [bind, Except.bind]
    | ok correlationId => cases idempotencyKey <;> simp [bind, Except.bind]

theorem sendable_congr {a b : OutboxRow} (h : a.identity = b.identity) : a.Sendable env ↔ b.Sendable env := by
  simp only [OutboxRow.identity, Identity.mk.injEq] at h
  obtain ⟨-, -, -, hpayload, hkey, -, -⟩ := h
  unfold OutboxRow.Sendable
  rw [hpayload, hkey]

/-- A row of the table with an identity that it has. -/
theorem mem_identities {s : State} {identity : Identity} (h : identity ∈ s.identities) : ∃ row ∈ s.rows, row.identity = identity :=
  List.mem_map.1 h

/-- The row of an event is the only one. -/
theorem eq_of_eventId {s : State} (hids : (s.rows.map (·.eventId)).Nodup) {x y : OutboxRow} (hx : x ∈ s.rows) (hy : y ∈ s.rows)
    (h : x.eventId = y.eventId) : x = y := List.inj_on_of_nodup_map hids hx hy h

/-- What a row says of its answer comes from an update that was made. -/
structure OutboxRow.Recorded (env : Env) (log : List (machine env).Record) (row : OutboxRow) : Prop where
  receipt : ∀ value, row.receipt = some value → ∃ w text r, env.jsonb text = some value ∧
    (⟨w, .update row.eventId (.receipted text), r⟩ : (machine env).Record) ∈ log
  receipted : row.state = .receipted → row.receipt.isSome
  rejected : row.state = .rejected → ∃ w error r, row.lastError = some error ∧
    (⟨w, .update row.eventId (.rejected error), r⟩ : (machine env).Record) ∈ log

/-- What holds of the outbox and of the calls that were made, at any time: rows were selected in the order they were made, before
every row that no request can be made of and that was made earlier; and a row that no request can be made of is as it was made. -/
structure Kept (env : Env) (s : State) (log : List (machine env).Record) : Prop where
  sound : s.Sound
  selected : ∀ w (rows : List OutboxRow), (⟨w, .selectDue, .ok rows⟩ : (machine env).Record) ∈ log →
    rows.Pairwise (fun a b => a.createdAt ≤ b.createdAt) ∧ ∀ row ∈ rows, row.identity ∈ s.identities
  ahead : ∀ w (rows : List OutboxRow), (⟨w, .selectDue, .ok rows⟩ : (machine env).Record) ∈ log → ∀ row ∈ rows, ∀ x ∈ s.rows, ¬x.Sendable env →
    x.createdAt < row.createdAt → ∃ y ∈ rows, y.identity = x.identity
  unsendable : ∀ x ∈ s.rows, ¬x.Sendable env → x.state = .pending ∧ x.nextAttemptAt ≤ s.now
  recorded : ∀ row ∈ s.rows, row.Recorded env log

variable {s s' : State} {log : List (machine env).Record}

/-- A call that is justified makes no row wait for longer than half a minute. -/
theorem Justified.patient {past : List (Prog.Answered sig)} {o : Op} (h : Justified env past o) : o.Patient := by
  cases o with
  | update eventId outcome =>
    cases outcome with
    | retry error delay => exact h.1
    | receipted text => trivial
    | rejected error => trivial
  | _ => trivial

/-- What a worker called is among all calls. -/
theorem mem_of_own {w : Nat} {x : Prog.Answered sig} (h : x ∈ Machine.own (M := machine env) w log) :
    (⟨w, x.1, x.2⟩ : (machine env).Record) ∈ log := by
  obtain ⟨r, hr, rfl⟩ := List.mem_map.1 h
  obtain ⟨hmem, hw⟩ := List.mem_filter.1 hr
  obtain rfl := of_decide_eq_true hw
  exact hmem

/-- A call that was made was justified by calls that were made before it. -/
theorem justified_of_mem {r : (machine env).Record} (hlog : Machine.LogGuarded (M := machine env) (Justified env) log)
    (hr : r ∈ log) : ∃ before, before <+: log ∧ Justified env (Machine.own (M := machine env) r.worker before) r.op := by
  obtain ⟨before, after, rfl⟩ := List.append_of_mem hr
  exact ⟨before, List.prefix_append _ _, hlog before r after rfl⟩

/-- The row a request was made of, which was selected after rows whose requests could be made. -/
theorem posted_selected (hlog : Machine.LogGuarded (M := machine env) (Justified env) log) {w : Nat} {eventId : String}
    {request : Request} {r : Except Raised Answer} (h : (⟨w, .post eventId request, r⟩ : (machine env).Record) ∈ log) :
    ∃ before row after client, (⟨w, .selectDue, .ok (before ++ row :: after)⟩ : (machine env).Record) ∈ log ∧
      row.eventId = eventId ∧ row.request env client = .ok request ∧ ∀ x ∈ before, x.Sendable env := by
  obtain ⟨past, hpast, before, row, after, client, hmem, hid, hreq, hbefore⟩ := justified_of_mem hlog h
  exact ⟨before, row, after, client, hpast.subset (mem_of_own hmem), hid, hreq,
    fun x hx => (sendable_iff client x).2 (hbefore x hx)⟩

/-- A request that was made is one of the row of its event. -/
theorem Kept.posted (h : Kept env s log) (hlog : Machine.LogGuarded (M := machine env) (Justified env) log) {w : Nat}
    {eventId : String} {request : Request} {r : Except Raised Answer}
    (hr : (⟨w, .post eventId request, r⟩ : (machine env).Record) ∈ log) :
    ∃ row ∈ s.rows, row.eventId = eventId ∧ ∃ client, row.request env client = .ok request := by
  obtain ⟨before, row, after, client, hmem, rfl, hreq, -⟩ := posted_selected hlog hr
  obtain ⟨x, hx, hid⟩ := mem_identities ((h.selected _ _ hmem).2 row (List.mem_append_right _ List.mem_cons_self))
  exact ⟨x, hx, congrArg Identity.eventId hid, client, by rw [request_congr hid, hreq]⟩

/-- An update that is justified is one of a row that a request can be made of. -/
theorem Kept.updated_sendable (h : Kept env s log) (hlog : Machine.LogGuarded (M := machine env) (Justified env) log) {w : Nat}
    {eventId : String} {outcome : Outcome}
    (ho : Justified env (Machine.own (M := machine env) w log) (.update eventId outcome)) {x : OutboxRow} (hx : x ∈ s.rows)
    (hid : x.eventId = eventId) : x.Sendable env := by
  have hanswered : ∃ answer, AnsweredWith (Machine.own (M := machine env) w log) eventId answer := by
    cases outcome with
    | receipted text =>
      obtain ⟨statusCode, -, hanswered⟩ := ho
      exact ⟨_, hanswered⟩
    | rejected error =>
      obtain ⟨statusCode, text, -, -, -, -, hanswered⟩ := ho
      exact ⟨_, hanswered⟩
    | retry error delay =>
      obtain ⟨-, answer, hanswered, -⟩ := ho
      exact ⟨answer, hanswered⟩
  obtain ⟨answer, request, hmem⟩ := hanswered
  obtain ⟨y, hy, hyid, client, hreq⟩ := h.posted hlog (mem_of_own hmem)
  rw [eq_of_eventId h.sound.ids hx hy (hid.trans hyid.symm)]
  exact (sendable_iff client y).2 ⟨request, hreq⟩

theorem kept_empty : Kept env .empty [] where
  sound := sound_empty
  selected := by simp
  ahead := by simp
  unsendable := by simp [State.empty]
  recorded := by simp [State.empty]

/-- A row waits as long as it is not settled. -/
theorem waits_iff (row : OutboxRow) : row.state = .pending ∨ row.state = .sent ↔ row.settled = false := by
  unfold OutboxRow.settled
  cases row.state <;> simp

/-- What was selected is what is due, in the order it was made. -/
theorem mem_selectDue {row : OutboxRow} : row ∈ s.selectDue ↔ row ∈ s.rows ∧ row.settled = false ∧ row.nextAttemptAt ≤ s.now := by
  unfold State.selectDue OutboxRow.due
  rw [List.mem_insertionSort, List.mem_filter, Bool.and_eq_true, decide_eq_true_eq, decide_eq_true_eq, waits_iff]

/-- No event is selected twice. -/
theorem selectDue_ids (hids : (s.rows.map (·.eventId)).Nodup) : (s.selectDue.map (·.eventId)).Nodup := by
  have hperm := (List.perm_insertionSort (fun a b : OutboxRow => a.createdAt ≤ b.createdAt)
    (s.rows.filter (fun row => row.due s.now))).map (·.eventId)
  exact hperm.nodup_iff.2 (hids.sublist (List.filter_sublist.map _))

theorem selectDue_pairwise (s : State) : s.selectDue.Pairwise (fun a b => a.createdAt ≤ b.createdAt) :=
  List.pairwise_insertionSort (fun a b : OutboxRow => a.createdAt ≤ b.createdAt) _

/-! ## What a call keeps -/

section

variable {w : Nat} {o : Op} {ch : Choice} {r : Except Raised o.Result}

/-- A selection among the calls is one from before the last call, or the last call, which changed nothing. -/
theorem selected_cases (he : exec env o ch s = some (r, s')) {w' : Nat} {rows : List OutboxRow}
    (h : (⟨w', .selectDue, .ok rows⟩ : (machine env).Record) ∈ log ++ [⟨w, o, r⟩]) :
    (⟨w', .selectDue, .ok rows⟩ : (machine env).Record) ∈ log ∨ (rows = s.selectDue ∧ s' = s) := by
  rcases List.mem_append.1 h with h | h
  · exact Or.inl h
  · cases List.mem_singleton.1 h
    obtain ⟨rfl, hrows⟩ := read_cases (Option.some.inj he)
    exact Or.inr ⟨hrows rows rfl, rfl⟩

theorem Kept.step_selected (h : Kept env s log) (he : exec env o ch s = some (r, s')) {w' : Nat} {rows : List OutboxRow}
    (hr : (⟨w', .selectDue, .ok rows⟩ : (machine env).Record) ∈ log ++ [⟨w, o, r⟩]) :
    rows.Pairwise (fun a b => a.createdAt ≤ b.createdAt) ∧ ∀ row ∈ rows, row.identity ∈ s'.identities := by
  rcases selected_cases he hr with hr | ⟨rfl, rfl⟩
  · obtain ⟨hsorted, hrows⟩ := h.selected _ _ hr
    exact ⟨hsorted, fun row hrow => (exec_later he).events.subset (hrows row hrow)⟩
  · exact ⟨selectDue_pairwise s', fun row hrow => List.mem_map_of_mem (mem_selectDue.1 hrow).1⟩

theorem Kept.step_unsendable (h : Kept env s log) (hlog : Machine.LogGuarded (M := machine env) (Justified env) log)
    (ho : Justified env (Machine.own (M := machine env) w log) o) (he : exec env o ch s = some (r, s')) {x : OutboxRow}
    (hx : x ∈ s'.rows) (hsend : ¬x.Sendable env) : x.state = .pending ∧ x.nextAttemptAt ≤ s'.now := by
  rcases exec_rows he hx with hold | ⟨outcome, change, y, rfl, hchange, hy, hid, rfl⟩ | ⟨hstate, hnext, -, -, hnow⟩
  · obtain ⟨hstate, hnext⟩ := h.unsendable x hold hsend
    exact ⟨hstate, hnext.trans (exec_later he).now⟩
  · rw [sendable_congr (identity_change hchange y)] at hsend
    exact absurd (h.updated_sendable hlog ho hy hid) hsend
  · exact ⟨hstate, by omega⟩

theorem Kept.step_ahead (h : Kept env s log) (he : exec env o ch s = some (r, s')) {w' : Nat} {rows : List OutboxRow}
    (hr : (⟨w', .selectDue, .ok rows⟩ : (machine env).Record) ∈ log ++ [⟨w, o, r⟩]) {row x : OutboxRow} (hrow : row ∈ rows)
    (hx : x ∈ s'.rows) (hsend : ¬x.Sendable env) (hlt : x.createdAt < row.createdAt) : ∃ y ∈ rows, y.identity = x.identity := by
  rcases selected_cases he hr with hr | ⟨rfl, rfl⟩
  · rcases exec_rows he hx with hold | ⟨outcome, change, y, -, hchange, hy, -, rfl⟩ | ⟨-, -, -, hcreated, -⟩
    · exact h.ahead _ _ hr row hrow x hold hsend hlt
    · have hid := identity_change hchange y
      rw [sendable_congr hid] at hsend
      have hcreated : (attempted change y).createdAt = y.createdAt := congrArg Identity.createdAt hid
      rw [hid]
      exact h.ahead _ _ hr row hrow y hy hsend (by rw [← hcreated]; exact hlt)
    · -- a row that is made now is not earlier than one that was selected before
      obtain ⟨y, hy, hid⟩ := mem_identities ((h.selected _ _ hr).2 row hrow)
      have hcreated' : y.createdAt = row.createdAt := congrArg Identity.createdAt hid
      have := h.sound.created y hy
      omega
  · obtain ⟨hstate, hnext⟩ := h.unsendable x hx hsend
    exact ⟨x, mem_selectDue.2 ⟨hx, (waits_iff x).1 (Or.inl hstate), hnext⟩, rfl⟩

theorem Recorded.mono {row : OutboxRow} {log' : List (machine env).Record} (h : row.Recorded env log) (hlog : log ⊆ log') :
    row.Recorded env log' := by
  refine ⟨fun value hvalue => ?_, h.receipted, fun hstate => ?_⟩
  · obtain ⟨w, text, r, htext, hmem⟩ := h.receipt value hvalue
    exact ⟨w, text, r, htext, hlog hmem⟩
  · obtain ⟨w, error, r, herror, hmem⟩ := h.rejected hstate
    exact ⟨w, error, r, herror, hlog hmem⟩

/-- A row that an update changed says what the update was made with. -/
theorem recorded_attempted {now : Int} {outcome : Outcome} {change : OutboxRow → OutboxRow}
    (hchange : outcome.change env now = .ok change) {x : OutboxRow} (hx : x.Recorded env log) {w : Nat}
    {r : Except Raised Unit} (hr : (⟨w, .update x.eventId outcome, r⟩ : (machine env).Record) ∈ log) :
    (attempted change x).Recorded env log := by
  have hspec := change_ok hchange
  cases outcome with
  | receipted receipt =>
    obtain ⟨value, hvalue, rfl⟩ := hspec
    refine ⟨fun v hv => ?_, fun _ => rfl, fun hstate => by cases hstate⟩
    obtain rfl := Option.some.inj hv
    exact ⟨w, receipt, r, hvalue, hr⟩
  | rejected error =>
    obtain ⟨text, htext, rfl⟩ := hspec
    obtain rfl := textColumn_ok htext
    exact ⟨hx.receipt, fun hstate => (by cases hstate), fun _ => ⟨w, text, r, rfl, hr⟩⟩
  | retry error delay =>
    obtain ⟨text, -, rfl⟩ := hspec
    exact ⟨hx.receipt, fun hstate => (by cases hstate), fun hstate => (by cases hstate)⟩

theorem Kept.step_recorded (h : Kept env s log) (he : exec env o ch s = some (r, s')) {x : OutboxRow} (hx : x ∈ s'.rows) :
    x.Recorded env (log ++ [⟨w, o, r⟩]) := by
  have hsub : log ⊆ log ++ [⟨w, o, r⟩] := List.subset_append_left _ _
  rcases exec_rows he hx with hold | ⟨outcome, change, y, rfl, hchange, hy, hid, rfl⟩ | ⟨hstate, -, hreceipt, -⟩
  · exact Recorded.mono (h.recorded x hold) hsub
  · have hid' : (attempted change y).eventId = y.eventId := congrArg Identity.eventId (identity_change hchange y)
    refine recorded_attempted hchange (Recorded.mono (h.recorded y hy) hsub) (w := w) (r := r) ?_
    rw [← hid']
    exact List.mem_append_right _ (List.mem_singleton_self _)
  · refine ⟨fun value hvalue => ?_, fun hreceipted => ?_, fun hrejected => ?_⟩
    · rw [hreceipt] at hvalue
      cases hvalue
    · rw [hstate] at hreceipted
      cases hreceipted
    · rw [hstate] at hrejected
      cases hrejected

/-- A call that is justified keeps what holds. -/
theorem Kept.step (h : Kept env s log) (hlog : Machine.LogGuarded (M := machine env) (Justified env) log)
    (ho : Justified env (Machine.own (M := machine env) w log) o) (he : exec env o ch s = some (r, s')) :
    Kept env s' (log ++ [⟨w, o, r⟩]) where
  sound := exec_sound ho.patient h.sound he
  selected _ _ hr := h.step_selected he hr
  ahead _ _ hr _ hrow _ hx := h.step_ahead he hr hrow hx
  unsendable _ hx := h.step_unsendable hlog ho he hx
  recorded _ hx := h.step_recorded he hx

end

/-- What holds at any time, whatever the workers are and wherever they stop. -/
theorem run_kept {cfg : (machine env).recorded.Config} (hrun : (machine env).recorded.Run (.any _) (.init _ (.empty, [])) cfg) :
    Kept env cfg.state.1 cfg.state.2 :=
  Machine.recorded_keeps (M := machine env) program_justified (K := Kept env) (fun _ _ _ _ _ _ _ hlog ho hK he => hK.step hlog ho he)
    (fun _ _ _ hK => hK) kept_empty hrun

end

/-! ## One sender at a time -/

/-- A call that sends. -/
def Call.sends : Call → Bool
  | .runOnce _ => true
  | .runUntilAllSettled _ _ => true
  | _ => false

/-- A sender is started when no other one is live. -/
def oneSender (env : Env) : (machine env).recorded.Cond :=
  ⟨fun cfg c => c.sends = true → ∀ w ∈ cfg.live, w.call.sends = false, fun _ _ _ => True⟩

/-- The event that a call is about when it sends or writes down an answer. -/
def Op.target : Op → Option String
  | .post eventId _ => some eventId
  | .update eventId _ => some eventId
  | _ => none

/-- A call sends nothing for an event that was answered for good, and changes nothing of it. -/
def Op.Aimed (s : State) (o : Op) : Prop :=
  ∀ eventId, o.target = some eventId → ∀ row ∈ s.rows, row.eventId = eventId → row.settled = false

/-- Rows that are settled stay as they are, and nothing is sent for them. -/
structure Once (env : Env) (s s' : (machine env).recorded.State) : Prop where
  settled : ∀ row ∈ s.1.rows, row.settled = true → row ∈ s'.1.rows
  posts : ∃ new, s'.2 = s.2 ++ new ∧ ∀ x ∈ new, ∀ eventId request, x.op = .post eventId request → ∀ row ∈ s.1.rows,
    row.eventId = eventId → row.settled = false

section

variable {s s' s'' : (machine env).recorded.State}

theorem Once.refl (s : (machine env).recorded.State) : Once env s s := ⟨fun _ hrow _ => hrow, [], by simp, by simp⟩

theorem Once.trans (h : Once env s s') (h' : Once env s' s'') : Once env s s'' := by
  obtain ⟨new, hlog, hposts⟩ := h.posts
  obtain ⟨new', hlog', hposts'⟩ := h'.posts
  refine ⟨fun row hrow hset => h'.settled row (h.settled row hrow hset) hset, new ++ new', ?_, ?_⟩
  · rw [hlog', hlog, List.append_assoc]
  · intro x hx eventId request hop row hrow hid
    rcases List.mem_append.1 hx with hx | hx
    · exact hposts x hx eventId request hop row hrow hid
    · cases hset : row.settled with
      | false => rfl
      | true =>
        have hopen := hposts' x hx eventId request hop row (h.settled row hrow hset) hid
        rw [hset] at hopen
        exact hopen

end

/-- A call that is aimed at what waits changes nothing that is settled. -/
theorem exec_once {w : Nat} {o : Op} {ch : Choice} {r : Except Raised o.Result} (ho : o.Aimed s)
    (he : exec env o ch s = some (r, s')) : Once env (s, log) (s', log ++ [⟨w, o, r⟩]) := by
  refine ⟨fun row hrow hset => ?_, [⟨w, o, r⟩], rfl, fun x hx eventId request hop => ?_⟩
  · rcases exec_moves he with rfl | ⟨v, -, hinsert⟩ | ⟨eventId, outcome, rfl, hupdate⟩ | ⟨duration, -, rfl⟩
    · exact hrow
    · rcases insert_ok hinsert with rfl | ⟨row', -, -, rfl⟩
      · exact hrow
      · exact List.mem_append_left _ hrow
    · obtain ⟨change, hchange, rfl | ⟨row', -, -, rfl⟩⟩ := update_ok hupdate
      · exact hrow
      · refine mem_updateKey.2 (Or.inr ⟨hrow, fun hid => ?_⟩)
        have hopen := ho eventId rfl row hrow hid
        rw [hset] at hopen
        cases hopen
    · exact hrow
  · obtain rfl := List.mem_singleton.1 hx
    obtain rfl : o = .post eventId request := hop
    exact ho eventId rfl

/-- A call that changes no row keeps the rows there are. -/
theorem exec_appends {o : Op} {ch : Choice} {r : Except Raised o.Result} (ho : ∀ eventId outcome, o ≠ .update eventId outcome)
    (he : exec env o ch s = some (r, s')) : s.rows <+: s'.rows := by
  rcases exec_moves he with rfl | ⟨v, -, hinsert⟩ | ⟨eventId, outcome, rfl, -⟩ | ⟨duration, -, rfl⟩
  · exact List.prefix_refl _
  · rcases insert_ok hinsert with rfl | ⟨row', -, -, rfl⟩
    · exact List.prefix_refl _
    · exact List.prefix_append _ _
  · exact absurd rfl (ho eventId outcome)
  · exact List.prefix_refl _

/-- The outline of one sender among callers that write events down. -/
def senderOutline (env : Env) : Machine.Outline (machine env).recorded where
  inv s := (s.1.rows.map (·.eventId)).Nodup
  rely _ c s s' := c.sends = true → s.1.rows <+: s'.1.rows
  guar _ c s s' := Once env s s' ∧ (c.sends = false → s.1.rows <+: s'.1.rows)
  compat _ c _ c' := c.sends = true → c'.sends = false

section

variable {w : Nat} {c : Call} {st : (machine env).recorded.State}

/-- The contract of a worker. -/
abbrev senderContract (env : Env) (w : Nat) (c : Call) : Contract (machine env).recorded.State := (senderOutline env).contract w c

/-- What a worker's calls do. -/
abbrev SenderDoes (env : Env) (w : Nat) : (o : Op) → (machine env).recorded.State → Except Raised o.Result →
    (machine env).recorded.State → Prop := (machine env).recorded.Does (oneSender env) w

/-- One call of a worker that keeps to what waits. -/
theorem step_sender {o : Op} {Q : Except Raised o.Result → (machine env).recorded.State → Prop}
    (haim : ∀ s₁, (s₁.rows.map (·.eventId)).Nodup → (c.sends = true → st.1.rows <+: s₁.rows) → o.Aimed s₁)
    (happend : c.sends = false → ∀ eventId outcome, o ≠ .update eventId outcome)
    (hQ : ∀ s₁ log ch r s₂, (s₁.rows.map (·.eventId)).Nodup → (c.sends = true → st.1.rows <+: s₁.rows) →
      exec env o ch s₁ = some (r, s₂) → Q r (s₂, log)) :
    (step o).wp (SenderDoes env w) (senderContract env w c) Q st := by
  refine (Prog.wp_perform (S := sig) o st).2 (fun s₁ hrely hinv r s₂ hdoes => ?_)
  obtain ⟨-, ch, he⟩ := hdoes
  obtain ⟨x, hx, heq⟩ := Option.map_eq_some_iff.1 he
  obtain ⟨rfl, rfl⟩ := Prod.mk.inj heq
  refine ⟨exec_ids hinv hx, ⟨exec_once (haim s₁.1 hinv hrely) hx, fun hc => exec_appends (happend hc) hx⟩, ?_⟩
  exact hQ s₁.1 _ ch x.1 x.2 hinv hrely hx

/-- One call of a worker that is about no event. -/
theorem step_writer {o : Op} (ho : o.target = none) :
    (step o).wp (SenderDoes env w) (senderContract env w c) (fun _ _ => True) st := by
  have hupdate : ∀ eventId outcome, o ≠ .update eventId outcome := by
    rintro eventId outcome rfl
    cases ho
  refine step_sender (fun s₁ _ _ e he => ?_) (fun _ => hupdate) (fun _ _ _ _ _ _ _ _ => trivial)
  rw [ho] at he
  cases he

/-- An event that is not answered for good. -/
def State.Waiting (s : State) (eventId : String) : Prop := ∃ row ∈ s.rows, row.eventId = eventId ∧ row.settled = false

theorem State.Waiting.mono {s s' : State} {eventId : String} (h : s.Waiting eventId) (hp : s.rows <+: s'.rows) :
    s'.Waiting eventId := by
  obtain ⟨row, hrow, hid, hset⟩ := h
  exact ⟨row, hp.subset hrow, hid, hset⟩

/-- A call about an event that waits is aimed at what waits. -/
theorem aimed_of_waiting {s : State} {o : Op} (eventId : String) (hids : (s.rows.map (·.eventId)).Nodup)
    (ho : ∀ e, o.target = some e → e = eventId) (h : s.Waiting eventId) : o.Aimed s := by
  obtain ⟨row, hrow, hid, hset⟩ := h
  intro e he x hx hxid
  obtain rfl := ho e he
  rw [eq_of_eventId hids hx hrow (hxid.trans hid.symm)]
  exact hset

/-- An update of another event lets an event wait. -/
theorem Waiting.update {s s' : State} {eventId e : String} {outcome : Outcome} (h : s.Waiting e) (hne : e ≠ eventId)
    (hupdate : s.update env eventId outcome = .ok s') : s'.Waiting e := by
  obtain ⟨change, -, rfl | ⟨row', -, -, rfl⟩⟩ := update_ok hupdate
  · exact h
  · obtain ⟨row, hrow, rfl, hset⟩ := h
    exact ⟨row, mem_updateKey.2 (Or.inr ⟨hrow, hne⟩), rfl, hset⟩

variable (hc : c.sends = true)

include hc

/-- An update of an event that waits: the others that wait still do. -/
theorem update_sender {eventId : String} {outcome : Outcome} {todo : List String} (hnot : eventId ∉ todo)
    (h : ∀ e ∈ eventId :: todo, st.1.Waiting e) :
    (step (.update eventId outcome)).wp (SenderDoes env w) (senderContract env w c)
      (fun _ st' => ∀ e ∈ todo, st'.1.Waiting e) st := by
  refine step_sender (fun s₁ hids hp => ?_) (fun h => by rw [hc] at h; cases h) (fun s₁ log ch r s₂ hids hp he e hmem => ?_)
  · refine aimed_of_waiting eventId hids (fun e he => (Option.some.inj he).symm) ?_
    exact (h eventId List.mem_cons_self).mono (hp hc)
  · have hwait := (h e (List.mem_cons_of_mem _ hmem)).mono (hp hc)
    rcases write_cases (Option.some.inj he) with rfl | hupdate
    · exact hwait
    · refine Waiting.update hwait (fun heq => hnot ?_) hupdate
      rw [← heq]
      exact hmem

/-- A call about an event that waits, that changes no row. -/
theorem call_sender {o : Op} {eventId : String} {todo : List String} (ho : ∀ e, o.target = some e → e = eventId)
    (hupdate : ∀ eventId outcome, o ≠ .update eventId outcome) (h : ∀ e ∈ eventId :: todo, st.1.Waiting e) :
    (step o).wp (SenderDoes env w) (senderContract env w c) (fun _ st' => ∀ e ∈ eventId :: todo, st'.1.Waiting e) st := by
  refine step_sender (fun s₁ hids hp => ?_) (fun _ => hupdate) (fun s₁ log ch r s₂ hids hp he e hmem => ?_)
  · exact aimed_of_waiting eventId hids ho ((h eventId List.mem_cons_self).mono (hp hc))
  · exact (h e hmem).mono ((hp hc).trans (exec_appends hupdate he))

theorem markRetry_sender {eventId : String} {todo : List String} (hnot : eventId ∉ todo)
    (h : ∀ e ∈ eventId :: todo, st.1.Waiting e) (attempts : Nat) (error : String) :
    (markRetry eventId attempts error).wp (SenderDoes env w) (senderContract env w c)
      (fun _ st' => ∀ e ∈ todo, st'.1.Waiting e) st := by
  refine Prog.wp_seq (call_sender hc (o := .random) (fun e he => by cases he) (fun _ _ => by intro heq; cases heq) h)
    (fun _ st' h' => update_sender hc hnot h') (fun _ st' h' e hmem => h' e (List.mem_cons_of_mem _ hmem))

theorem recordAnswer_sender {row : OutboxRow} {todo : List String} (hnot : row.eventId ∉ todo)
    (h : ∀ e ∈ row.eventId :: todo, st.1.Waiting e) (answer : Answer) :
    (recordAnswer row answer).wp (SenderDoes env w) (senderContract env w c) (fun _ st' => ∀ e ∈ todo, st'.1.Waiting e) st := by
  cases answer with
  | requestError text => exact markRetry_sender hc hnot h _ _
  | answered statusCode text =>
    by_cases hstatus : statusCode = 200 ∨ statusCode = 201
    · rw [recordAnswer_accepted row text hstatus]
      exact update_sender hc hnot h
    · by_cases hretry : statusCode = 503
      · subst hretry
        rw [recordAnswer_retry]
        exact markRetry_sender hc hnot h _ _
      · rw [recordAnswer_refused row text hstatus hretry]
        exact update_sender hc hnot h

/-- What is left to send waits. -/
theorem attemptAll_sender {client : Client} (todo : List OutboxRow) (hids : (todo.map (·.eventId)).Nodup)
    (h : ∀ e ∈ todo.map (·.eventId), st.1.Waiting e) :
    (attemptAll env client todo).wp (SenderDoes env w) (senderContract env w c) (fun _ _ => True) st := by
  induction todo generalizing st with
  | nil => trivial
  | cons row todo ih =>
    rw [List.map_cons] at hids h
    rw [List.nodup_cons] at hids
    cases hreq : row.request env client with
    | error e =>
      rw [attemptAll_error hreq]
      trivial
    | ok request =>
      unfold attemptAll attemptOne
      rw [hreq, show (orRaise (.ok request) : Prog sig Request) = pure request from rfl, Prog.pure_bind_eq]
      refine Prog.wp_seq (show Prog.wp _ _ _ (fun _ st' => ∀ e ∈ todo.map (·.eventId), st'.1.Waiting e) _ from ?_)
        (fun _ st' h' => ih hids.2 h') (fun _ _ _ => trivial)
      refine Prog.wp_seq (call_sender hc (o := .post row.eventId request) (fun e he => (Option.some.inj he).symm)
        (fun _ _ => by intro heq; cases heq) h)
        (fun answer st' h' => recordAnswer_sender hc hids.1 h' answer) (fun _ _ h' e hmem => h' e (List.mem_cons_of_mem _ hmem))

theorem runOnce_sender (client : Client) :
    (runOnce env client).wp (SenderDoes env w) (senderContract env w c) (fun _ _ => True) st := by
  refine Prog.wp_seq (show Prog.wp _ _ _ (fun r st' => ∀ rows : List OutboxRow, r = .ok rows →
      (rows.map (·.eventId)).Nodup ∧ ∀ e ∈ rows.map (·.eventId), st'.1.Waiting e) _ from ?_) ?_ (fun _ _ _ => trivial)
  · refine step_sender (o := .selectDue) (fun s₁ hids hp e he => by cases he) (fun _ _ _ => by intro heq; cases heq)
      (fun s₁ log ch r s₂ hids hp he rows hrows => ?_)
    obtain ⟨rfl, hread⟩ := read_cases (Option.some.inj he)
    obtain rfl := hread rows hrows
    refine ⟨selectDue_ids hids, fun e hmem => ?_⟩
    obtain ⟨row, hrow, rfl⟩ := List.mem_map.1 hmem
    obtain ⟨hin, hopen, -⟩ := mem_selectDue.1 hrow
    exact ⟨row, hin, rfl, hopen⟩
  · intro rows st' h
    obtain ⟨hids, hwait⟩ := h rows rfl
    exact Prog.wp_seq (attemptAll_sender hc rows hids hwait) (fun _ _ _ => trivial) (fun _ _ _ => trivial)

theorem runUntilAllSettled_sender (client : Client) (rounds : Nat) :
    (runUntilAllSettled env client rounds).wp (SenderDoes env w) (senderContract env w c) (fun _ _ => True) st := by
  induction rounds generalizing st with
  | zero => trivial
  | succ rounds ih =>
    refine Prog.wp_seq (step_writer (o := .countUnsettled) rfl) (fun pending st' _ => ?_) (fun _ _ _ => trivial)
    split
    · trivial
    · exact Prog.wp_seq (runOnce_sender hc client) (fun _ st'' _ => Prog.wp_seq (step_writer (o := .wait 200000) rfl)
        (fun _ _ _ => ih) (fun _ _ _ => trivial)) (fun _ _ _ => trivial)

end

theorem orRaise_bind_writer {α β : Type} {w : Nat} {c : Call} (x : Except Raised α) {f : α → Prog sig β}
    (hf : ∀ a st, (f a).wp (SenderDoes env w) (senderContract env w c) (fun _ _ => True) st) (st : (machine env).recorded.State) :
    (orRaise x >>= f).wp (SenderDoes env w) (senderContract env w c) (fun _ _ => True) st := by
  cases x with
  | error e => trivial
  | ok a => exact hf a st

theorem enqueue_sender {w : Nat} {c : Call} (event : Payload) (privateKeyB64 keyId : String)
    (st : (machine env).recorded.State) :
    (enqueue event privateKeyB64 keyId).wp (SenderDoes env w) (senderContract env w c) (fun _ _ => True) st := by
  refine orRaise_bind_writer _ (fun eventId => orRaise_bind_writer _ (fun idempotencyKey =>
    orRaise_bind_writer _ (fun correlationId st => ?_))) st
  exact step_writer (o := .insert _) rfl

theorem senderOutline_sound : (senderOutline env).Sound (oneSender env) where
  refl _ _ _ _ := List.prefix_refl _
  trans _ _ _ _ _ h h' hc := (h hc).trans (h' hc)
  symm _ c _ c' h hc' := by
    cases hc : c.sends with
    | false => rfl
    | true =>
      rw [h hc] at hc'
      cases hc'
  guar _ c _ c' _ _ _ h _ hguar hc' := by
    refine hguar.2 ?_
    cases hc : c.sends with
    | false => rfl
    | true =>
      rw [h hc] at hc'
      cases hc'
  start cfg c hinv hstart := by
    refine ⟨fun x hx hc => hstart hc x hx, ?_⟩
    unfold Machine.Outline.Keeps
    cases c with
    | enqueue event privateKeyB64 keyId => exact enqueue_sender event privateKeyB64 keyId _
    | runOnce client => exact Prog.wp_seq (runOnce_sender rfl client) (fun _ _ _ => trivial) (fun _ _ _ => trivial)
    | runUntilAllSettled client rounds => exact runUntilAllSettled_sender rfl client rounds
    | wait duration => exact step_writer (o := .wait duration) rfl
  crash _ _ hinv := ⟨hinv, fun _ _ _ _ => List.prefix_refl _⟩

end Lyrica

end Archisynapse
