import Archisynapse.Base.JsonLoads
import Archisynapse.Lemmas.LyricaRecovery

/-!
# What Lyrica's outbox guarantees

With any number of workers, calls and connections that fail, and workers that stop anywhere: no event is lost, every delivery of
an event repeats the same request (`deliveries_repeat`), and what a row says of its answer was answered (`answers_recorded`).
An event that cannot be signed is never sent, and keeps what was written down after it from being sent (`unsendable_blocks`).
When one worker sends at a time, an event that was answered for good is not sent again (`answered_once`). Whatever happened
before, a worker alone settles everything in half a minute once the gateway answers (`settles_alone`).
-/

namespace Archisynapse

namespace Lyrica

open EconomicTruth (Payload Raised Fault connectionLost clip)

section

variable {env : Env} {cfg cfg' : (machine env).recorded.Config}

/-- No event is lost and nothing said of it changes, whoever works on the outbox and wherever they stop. -/
theorem run_later (hrun : (machine env).recorded.Run (.any _) cfg cfg') : Later cfg.state.1 cfg'.state.1 := by
  refine Machine.Run.keeps (M := (machine env).recorded) (I := fun s => Later cfg.state.1 s.1) (fun w o ch s r s' hs he => ?_)
    (fun w s hs => hs) hrun (.refl _)
  obtain ⟨x, hx, heq⟩ := Option.map_eq_some_iff.1 he
  obtain ⟨rfl, rfl⟩ := Prod.mk.inj heq
  exact hs.trans (exec_later hx)

/-- Two requests that differ in nothing but whom they are sent to, and by whom. -/
structure Request.SameEvent (a b : Request) : Prop where
  content : a.content = b.content
  signature : a.signature = b.signature
  keyId : a.keyId = b.keyId
  correlationId : a.correlationId = b.correlationId
  idempotencyKey : a.idempotencyKey = b.idempotencyKey

/-- What workers make of one row differs in nothing else. -/
theorem request_sameEvent {row : OutboxRow} {client client' : Client} {a b : Request} (ha : row.request env client = .ok a)
    (hb : row.request env client' = .ok b) : a.SameEvent b := by
  unfold OutboxRow.request at ha hb
  dsimp only at ha hb
  generalize env.sign row.privateKeyB64 (dumps row.payload).toUTF8 = signature at ha hb
  generalize textAt row.payload "correlation_id" = correlationId at ha hb
  generalize textAt row.payload "idempotency_key" = idempotencyKey at ha hb
  cases signature with
  | error e => cases ha
  | ok signature =>
    cases correlationId with
    | error e => cases ha
    | ok correlationId =>
      cases idempotencyKey with
      | error e => cases ha
      | ok idempotencyKey =>
        cases ha
        cases hb
        exact ⟨rfl, rfl, rfl, rfl, rfl⟩

end

/-! ## A run -/

/-- One key signs, and a column takes JSON. -/
def playEnv : Env where
  sign key _ := if key = "key" then .ok "signature" else .error ⟨"Incorrect padding"⟩
  jsonb := Json.loads id

/-- A client of the gateway. -/
def playClient : Client := ⟨"http://gateway", "api-key"⟩

/-- An event. -/
def playEvent (eventId : String) : Payload :=
  [("event_id", .str eventId), ("correlation_id", .str "loop"), ("idempotency_key", .str eventId)]

/-- The gateway answers a request with a status and a text. -/
def answers (statusCode : Nat) (text : String) : Choice := ⟨none, .ok (.answered statusCode text), ⟨0, le_refl 0, by norm_num⟩⟩

/-- An event is written down and sent: the gateway is busy. -/
def busyEvents : List (machine playEnv).recorded.Event :=
  [.start (.enqueue (playEvent "event-1") "key" "key-1"), .call 0 (answers 201 "{}"), .start (.runOnce playClient)] ++
    List.replicate 4 (.call 1 (answers 503 "retry_later"))

/-- Events are written down, the first of them with a key that cannot sign, and the one before them is sent again: the gateway
takes it. -/
def takenEvents : List (machine playEnv).recorded.Event :=
  [.start (.wait 1), .call 2 (answers 201 "{}"),
   .start (.enqueue (playEvent "event-2") "no key" "key-1"), .call 3 (answers 201 "{}"),
   .start (.wait 30000000), .call 4 (answers 201 "{}"),
   .start (.enqueue (playEvent "event-3") "key" "key-1"), .call 5 (answers 201 "{}"), .start (.runOnce playClient)] ++
    List.replicate 3 (.call 6 (answers 201 "{}"))

/-- The requests made for an event. -/
def sentFor (log : List (machine playEnv).Record) (eventId : String) : Nat :=
  (log.filter (fun r => match r.op with
    | .post e _ => decide (e = eventId)
    | _ => false)).length

/-- The first event was sent twice and is receipted, the others were not sent. -/
def takenCheck (cfg : (machine playEnv).recorded.Config) : Bool :=
  decide (cfg.state.1.rows.map (fun row => (row.eventId, row.privateKeyB64, row.state)) =
    [("event-1", "key", .receipted), ("event-2", "no key", .pending), ("event-3", "key", .pending)]) &&
  decide ([sentFor cfg.state.2 "event-1", sentFor cfg.state.2 "event-2", sentFor cfg.state.2 "event-3"] = [2, 0, 0])

/-- The first event waits after one attempt, and can be sent. -/
def busyCheck (cfg : (machine playEnv).recorded.Config) : Bool :=
  decide (cfg.state.1.rows.map (fun row => (row.eventId, row.attempts, row.state)) = [("event-1", 1, .sent)]) &&
    cfg.state.1.rows.all (fun row => (row.request playEnv playClient).isOk)

/-- `oneSender`, computed. -/
def senderCheck (cfg : (machine playEnv).recorded.Config) : (machine playEnv).recorded.Event → Bool
  | .start c => !c.sends || cfg.live.all (fun w => !w.call.sends)
  | _ => true

theorem senderCheck_allows (cfg : (machine playEnv).recorded.Config) (e : (machine playEnv).recorded.Event)
    (h : senderCheck cfg e = true) : (oneSender playEnv).Allows cfg e := by
  cases e with
  | start c =>
    intro hc w hw
    have hlive : (!c.sends || cfg.live.all (fun w => !w.call.sends)) = true := h
    rw [hc, Bool.not_true, Bool.false_or] at hlive
    simpa using List.all_eq_true.1 hlive w hw
  | call w ch => exact fun _ _ _ _ _ _ => trivial
  | crash w => exact trivial

/-- A run in which an event is sent a second time after the gateway was busy, while an event that cannot be signed keeps another
from being sent. -/
theorem play_run : ∃ cfg cfg', (machine playEnv).recorded.Run (oneSender playEnv) (.init _ (.empty, [])) cfg ∧
    busyCheck cfg = true ∧ (machine playEnv).recorded.Run (oneSender playEnv) cfg cfg' ∧ takenCheck cfg' = true := by
  obtain ⟨cfg, hrun, hcheck⟩ := Machine.Config.replay_any senderCheck_allows busyEvents (.init _ (.empty, []))
    (fun cfg => busyCheck cfg && (cfg.replay senderCheck takenEvents).any takenCheck) (by decide +kernel)
  obtain ⟨hbusy, hagain⟩ := Bool.and_eq_true_iff.1 hcheck
  obtain ⟨cfg', hrun', htaken⟩ := Machine.Config.replay_any senderCheck_allows takenEvents cfg takenCheck hagain
  exact ⟨cfg, cfg', hrun, hbusy, hrun', htaken⟩

theorem run_any {cfg cfg' : (machine playEnv).recorded.Config} (h : (machine playEnv).recorded.Run (oneSender playEnv) cfg cfg') :
    (machine playEnv).recorded.Run (.any _) cfg cfg' := h.mono (fun _ _ _ => trivial) (fun _ _ _ _ => trivial)

/-- The rows of the run. -/
theorem takenCheck_rows {cfg : (machine playEnv).recorded.Config} (h : takenCheck cfg = true) :
    ∃ x ∈ cfg.state.1.rows, ∃ y ∈ cfg.state.1.rows, x.eventId = "event-1" ∧ x.state = .receipted ∧ y.eventId = "event-2" ∧
      y.privateKeyB64 = "no key" := by
  have hrows := of_decide_eq_true (Bool.and_eq_true_iff.1 h).1
  have hfirst : ("event-1", "key", RowState.receipted) ∈
      cfg.state.1.rows.map (fun row => (row.eventId, row.privateKeyB64, row.state)) := by simp [hrows]
  have hsecond : ("event-2", "no key", RowState.pending) ∈
      cfg.state.1.rows.map (fun row => (row.eventId, row.privateKeyB64, row.state)) := by simp [hrows]
  obtain ⟨x, hx, hxrow⟩ := List.mem_map.1 hfirst
  obtain ⟨y, hy, hyrow⟩ := List.mem_map.1 hsecond
  simp only [Prod.mk.injEq] at hxrow hyrow
  exact ⟨x, hx, y, hy, hxrow.1, hxrow.2.2, hyrow.1, hyrow.2.1⟩

theorem takenCheck_sent {cfg : (machine playEnv).recorded.Config} (h : takenCheck cfg = true) :
    sentFor cfg.state.2 "event-1" = 2 ∧ sentFor cfg.state.2 "event-3" = 0 := by
  have hsent := of_decide_eq_true (Bool.and_eq_true_iff.1 h).2
  simp only [List.cons.injEq, and_true] at hsent
  exact ⟨hsent.1, hsent.2.2⟩

/-! ## Results -/

section

variable {env : Env} {cfg cfg' : (machine env).recorded.Config}

/-- In every run, from the empty outbox, of any number of workers that fail and stop anywhere: no row is lost and nothing it says
of its event changes; and every request that was made for an event, by whichever worker and at whatever time, repeats the content,
the signature, the key, the correlation id and the idempotency key of every earlier one. -/
theorem deliveries_repeat (hrun : (machine env).recorded.Run (.any _) (.init _ (.empty, [])) cfg)
    (hrun' : (machine env).recorded.Run (.any _) cfg cfg') :
    cfg.state.1.identities <+: cfg'.state.1.identities ∧ cfg.state.2 <+: cfg'.state.2 ∧
      ∀ w w' eventId request request' r r', (⟨w, .post eventId request, r⟩ : (machine env).Record) ∈ cfg'.state.2 →
        (⟨w', .post eventId request', r'⟩ : (machine env).Record) ∈ cfg'.state.2 → request.SameEvent request' := by
  have hall := hrun.trans hrun'
  have hlog := Machine.recorded_guarded (M := machine env) program_justified hall
  have hkept := run_kept hall
  refine ⟨(run_later hrun').events, ?_, fun w w' eventId request request' r r' h h' => ?_⟩
  · refine Machine.Run.keeps (M := (machine env).recorded) (I := fun s => cfg.state.2 <+: s.2) (fun w o ch s r s' hs he => ?_)
      (fun w s hs => hs) hrun' (List.prefix_refl _)
    obtain ⟨x, hx, heq⟩ := Option.map_eq_some_iff.1 he
    obtain ⟨rfl, rfl⟩ := Prod.mk.inj heq
    exact hs.trans (List.prefix_append _ _)
  · obtain ⟨x, hx, hxid, client, hreq⟩ := hkept.posted hlog h
    obtain ⟨y, hy, hyid, client', hreq'⟩ := hkept.posted hlog h'
    obtain rfl := eq_of_eventId hkept.sound.ids hx hy (hxid.trans hyid.symm)
    exact request_sameEvent hreq hreq'

/-- The theorem at the run, where the first event is sent twice. -/
theorem deliveries_repeat_play : ∃ cfg, (machine playEnv).recorded.Run (.any _) (.init _ (.empty, [])) cfg ∧
    sentFor cfg.state.2 "event-1" = 2 ∧
    ∀ w w' request request' r r', (⟨w, .post "event-1" request, r⟩ : (machine playEnv).Record) ∈ cfg.state.2 →
      (⟨w', .post "event-1" request', r'⟩ : (machine playEnv).Record) ∈ cfg.state.2 → request.SameEvent request' := by
  obtain ⟨cfg, cfg', hrun, -, hrun', htaken⟩ := play_run
  refine ⟨cfg', (run_any hrun).trans (run_any hrun'), (takenCheck_sent htaken).1, fun w w' request request' r r' h h' => ?_⟩
  exact (deliveries_repeat (run_any hrun) (run_any hrun')).2.2 w w' "event-1" request request' r r' h h'

/-- The answer to a request of an event that was made in a run. -/
def WasAnswered (log : List (machine env).Record) (eventId : String) (answer : Answer) : Prop :=
  ∃ w request, (⟨w, .post eventId request, .ok answer⟩ : (machine env).Record) ∈ log

/-- In every such run, what a row says of its answer was answered to a request of its event: a receipt is what a 200 or a 201
brought, a row that counts as receipted has one, and a row is rejected for an answer that is none of these and no 503. -/
theorem answers_recorded (hrun : (machine env).recorded.Run (.any _) (.init _ (.empty, [])) cfg) {row : OutboxRow}
    (hrow : row ∈ cfg.state.1.rows) :
    (∀ value, row.receipt = some value → ∃ statusCode text, (statusCode = 200 ∨ statusCode = 201) ∧
      env.jsonb text = some value ∧ WasAnswered cfg.state.2 row.eventId (.answered statusCode text)) ∧
    (row.state = .receipted → row.receipt.isSome) ∧
    (row.state = .rejected → ∃ statusCode text, statusCode ≠ 200 ∧ statusCode ≠ 201 ∧ statusCode ≠ 503 ∧
      row.lastError = some (toString statusCode ++ ": " ++ text) ∧
      WasAnswered cfg.state.2 row.eventId (.answered statusCode text)) := by
  have hlog := Machine.recorded_guarded (M := machine env) program_justified hrun
  have hrec := (run_kept hrun).recorded row hrow
  have hmem : ∀ {w before answer}, before <+: cfg.state.2 →
      AnsweredWith (Machine.own (M := machine env) w before) row.eventId answer → WasAnswered cfg.state.2 row.eventId answer := by
    rintro w before answer hpre ⟨request, hown⟩
    exact ⟨w, request, hpre.subset (mem_of_own hown)⟩
  refine ⟨fun value hvalue => ?_, hrec.receipted, fun hstate => ?_⟩
  · obtain ⟨w, text, r, htext, hupdate⟩ := hrec.receipt value hvalue
    obtain ⟨before, hpre, statusCode, hstatus, hanswered⟩ := justified_of_mem hlog hupdate
    exact ⟨statusCode, text, hstatus, htext, hmem hpre hanswered⟩
  · obtain ⟨w, error, r, herror, hupdate⟩ := hrec.rejected hstate
    obtain ⟨before, hpre, statusCode, text, h200, h201, h503, rfl, hanswered⟩ := justified_of_mem hlog hupdate
    exact ⟨statusCode, text, h200, h201, h503, herror, hmem hpre hanswered⟩

/-- The theorem at the run, whose first event is receipted. -/
theorem answers_recorded_play : ∃ cfg row, (machine playEnv).recorded.Run (.any _) (.init _ (.empty, [])) cfg ∧
    row ∈ cfg.state.1.rows ∧ row.state = .receipted ∧ row.receipt.isSome := by
  obtain ⟨cfg, cfg', hrun, -, hrun', htaken⟩ := play_run
  obtain ⟨x, hx, -, -, -, hstate, -⟩ := takenCheck_rows htaken
  have hall := (run_any hrun).trans (run_any hrun')
  exact ⟨cfg', x, hall, hx, hstate, (answers_recorded hall hx).2.1 hstate⟩

/-- In every such run, a row that no request can be made of stays pending, no request was made for its event, and none for an event
that was written down later: the loop of every worker ends at it. -/
theorem unsendable_blocks (hrun : (machine env).recorded.Run (.any _) (.init _ (.empty, [])) cfg) {x : OutboxRow}
    (hx : x ∈ cfg.state.1.rows) (hsend : ¬x.Sendable env) :
    x.state = .pending ∧ ∀ w eventId request r, (⟨w, .post eventId request, r⟩ : (machine env).Record) ∈ cfg.state.2 →
      eventId ≠ x.eventId ∧ ∀ row ∈ cfg.state.1.rows, row.eventId = eventId → row.createdAt ≤ x.createdAt := by
  have hlog := Machine.recorded_guarded (M := machine env) program_justified hrun
  have hkept := run_kept hrun
  refine ⟨(hkept.unsendable x hx hsend).1, fun w eventId request r hpost => ⟨?_, fun row hrow hid => ?_⟩⟩
  · rintro rfl
    obtain ⟨y, hy, hyid, client, hreq⟩ := hkept.posted hlog hpost
    obtain rfl := eq_of_eventId hkept.sound.ids hy hx hyid
    exact hsend ((sendable_iff client y).2 ⟨request, hreq⟩)
  · obtain ⟨before, y, after, client, hselected, hyid, hreq, hbefore⟩ := posted_selected hlog hpost
    obtain ⟨hsorted, hknown⟩ := hkept.selected _ _ hselected
    obtain ⟨y', hy', hy'id⟩ := mem_identities (hknown y (List.mem_append_right _ List.mem_cons_self))
    have hsame : y' = row := eq_of_eventId hkept.sound.ids hy' hrow
      ((congrArg Identity.eventId hy'id).trans (hyid.trans hid.symm))
    have hcreated : row.createdAt = y.createdAt := by
      rw [← hsame]
      exact congrArg Identity.createdAt hy'id
    by_contra hlater
    -- the row was selected too, and stands before the one that was sent
    obtain ⟨z, hz, hzid⟩ := hkept.ahead _ _ hselected y (List.mem_append_right _ List.mem_cons_self) x hx hsend (by omega)
    have hzsend : ¬z.Sendable env := fun h => hsend ((sendable_congr hzid).1 h)
    have hzcreated : z.createdAt = x.createdAt := congrArg Identity.createdAt hzid
    rcases List.mem_append.1 hz with hz | hz
    · exact hzsend (hbefore z hz)
    · rcases List.mem_cons.1 hz with rfl | hz
      · exact hzsend ((sendable_iff client z).2 ⟨request, hreq⟩)
      · have := (List.pairwise_cons.1 (List.pairwise_append.1 hsorted).2.1).1 z hz
        omega

/-- The theorem at the run, whose second event cannot be signed. -/
theorem unsendable_blocks_play : ∃ cfg, (machine playEnv).recorded.Run (.any _) (.init _ (.empty, [])) cfg ∧
    ∃ x ∈ cfg.state.1.rows, x.eventId = "event-2" ∧ x.state = .pending := by
  obtain ⟨cfg, cfg', hrun, -, hrun', htaken⟩ := play_run
  obtain ⟨-, -, y, hy, -, -, hid, hkey⟩ := takenCheck_rows htaken
  have hall := (run_any hrun).trans (run_any hrun')
  have hsend : ¬y.Sendable playEnv := by
    rintro ⟨⟨signature, hsign⟩, -⟩
    rw [hkey] at hsign
    cases hsign
  exact ⟨cfg', hall, y, hy, hid, (unsendable_blocks hall hy hsend).1⟩

/-- In every run in which a worker that sends is started only when no other one is live, a row that is settled stays as it is, and
nothing is sent for its event any more. -/
theorem answered_once (hrun : (machine env).recorded.Run (oneSender env) (.init _ (.empty, [])) cfg)
    (hrun' : (machine env).recorded.Run (oneSender env) cfg cfg') {row : OutboxRow} (hrow : row ∈ cfg.state.1.rows)
    (hset : row.settled = true) :
    row ∈ cfg'.state.1.rows ∧ ∃ new, cfg'.state.2 = cfg.state.2 ++ new ∧
      ∀ x ∈ new, ∀ request, x.op ≠ .post row.eventId request := by
  have hinit : (senderOutline env).inv (.empty, []) := List.nodup_nil
  have hmoves := Machine.Outline.Sound.run_moves (P := senderOutline env) senderOutline_sound (R := Once env) (fun s => .refl s)
    (fun _ _ _ h h' => h.trans h') (fun _ _ _ _ _ h => h.1) (fun _ s _ => .refl s) hinit hrun hrun'
  obtain ⟨new, hlog, hposts⟩ := hmoves.posts
  refine ⟨hmoves.settled row hrow hset, new, hlog, fun x hx request hop => ?_⟩
  have hopen := hposts x hx row.eventId request hop row hrow rfl
  rw [hset] at hopen
  cases hopen

/-- The theorem at the run, from where its first event is receipted. -/
theorem answered_once_play : ∃ cfg, (machine playEnv).recorded.Run (oneSender playEnv) (.init _ (.empty, [])) cfg ∧
    ∃ row ∈ cfg.state.1.rows, row.eventId = "event-1" ∧
      ∀ cfg', (machine playEnv).recorded.Run (oneSender playEnv) cfg cfg' → row ∈ cfg'.state.1.rows := by
  obtain ⟨cfg, cfg', hrun, -, hrun', htaken⟩ := play_run
  obtain ⟨x, hx, -, -, hid, hstate, -⟩ := takenCheck_rows htaken
  have hset : x.settled = true := by simp [OutboxRow.settled, hstate]
  exact ⟨cfg', hrun.trans hrun', x, hx, hid, fun cfg'' hrun'' => (answered_once (hrun.trans hrun') hrun'' hx hset).1⟩

/-- From every state that any run reaches in which what waits can be sent: when a worker runs `run_until_all_settled` alone for 152
rounds or more, of a fifth of a second each, and every request is answered, not with a 503, it returns, every row is settled, and
each was settled before or by one of these answers. -/
theorem settles_alone (hrun : (machine env).recorded.Run (.any _) (.init _ (.empty, [])) cfg) (client : Client) {rounds : Nat}
    (hrounds : 152 ≤ rounds) (hready : ∀ row ∈ cfg.state.1.rows, row.settled = false → row.Ready env) {ch : Nat → Choice}
    (hch : ∀ n, (ch n).Conclusive env) :
    ∃ s', (runUntilAllSettled env client rounds).run (exec env) ch 0 cfg.state.1 = some (.ok (), s') ∧
      s'.identities = cfg.state.1.identities ∧
      ∀ y ∈ s'.rows, y.settled = true ∧ ∃ x ∈ cfg.state.1.rows, y = x ∨
        (x.settled = false ∧ ∃ n answer, (ch n).answer = .ok answer ∧ SettledBy env answer x y) := by
  let exec' : (o : Op) → { c : Choice // ∃ n, c = ch n } → State → Option (Except Raised o.Result × State) :=
    fun o c s => exec env o c.val s
  have hP : ∀ c, (∃ n, c = ch n) → c.Conclusive env := by
    rintro c ⟨n, rfl⟩
    exact hch n
  have hready' : cfg.state.1.ReadyBy env (cfg.state.1.now + 30000000) :=
    ⟨(run_kept hrun).sound.ids, hready, fun x hx _ => (run_kept hrun).sound.due x hx⟩
  have henough : EnoughRounds cfg.state.1 (cfg.state.1.now + 30000000) rounds := Or.inr ⟨by omega, by omega⟩
  have hwp := runUntilAllSettled_alone hP client rounds hready' henough
  obtain ⟨r, s', hends, -⟩ := Prog.run_isSome (S := sig) exec' (fun n => ⟨ch n, n, rfl⟩) (P := fun _ => True)
    (fun o c s _ => by cases o <;> exact ⟨_, _, rfl, trivial⟩) (runUntilAllSettled env client rounds) (n := 0)
    (s := cfg.state.1) trivial
  obtain ⟨-, rfl, hsettles, hall⟩ := Prog.wp_run (S := sig) exec' (fun o c s r s' he => ⟨c.val, c.property, he⟩) (fun _ => rfl) _
    trivial hwp hends
  have hsame := Prog.run_choice (exec env) Subtype.val (fun n => (⟨ch n, n, rfl⟩ : { c : Choice // ∃ n, c = ch n }))
    (runUntilAllSettled env client rounds) (n := 0) (s := cfg.state.1)
  rw [show Prog.run exec' _ 0 (runUntilAllSettled env client rounds) cfg.state.1 = _ from hsame] at hends
  refine ⟨s', hends, hsettles.events, fun y hy => ⟨hall y hy, ?_⟩⟩
  obtain ⟨x, hx, hxy⟩ := hsettles.rows y hy
  refine ⟨x, hx, ?_⟩
  rcases hxy with rfl | ⟨hopen, c, answer, ⟨n, rfl⟩, ha, hset⟩
  · exact Or.inl rfl
  · exact Or.inr ⟨hopen, n, answer, ha, hset⟩

/-- The theorem at the run, from where the gateway was busy. -/
theorem settles_alone_play : ∃ cfg, (machine playEnv).recorded.Run (.any _) (.init _ (.empty, [])) cfg ∧
    (∃ row ∈ cfg.state.1.rows, row.settled = false) ∧
    ∃ s', (runUntilAllSettled playEnv playClient 300).run (exec playEnv) (fun _ => answers 201 "{}") 0 cfg.state.1 =
      some (.ok (), s') ∧ ∀ row ∈ s'.rows, row.settled = true := by
  obtain ⟨cfg, -, hrun, hbusy, -, -⟩ := play_run
  obtain ⟨hrows, hsend⟩ := Bool.and_eq_true_iff.1 hbusy
  have hone := of_decide_eq_true hrows
  have hrow : ∀ row ∈ cfg.state.1.rows, row.attempts = 1 ∧ row.state = .sent := by
    intro row hmem
    have hmap := List.mem_map_of_mem (f := fun row : OutboxRow => (row.eventId, row.attempts, row.state)) hmem
    rw [hone, List.mem_singleton] at hmap
    simp only [Prod.mk.injEq] at hmap
    exact hmap.2
  have hready : ∀ row ∈ cfg.state.1.rows, row.settled = false → row.Ready playEnv := by
    intro row hmem _
    have hok := List.all_eq_true.1 hsend row hmem
    refine ⟨(sendable_iff playClient row).2 ?_, by rw [(hrow row hmem).1]; decide⟩
    cases hreq : row.request playEnv playClient with
    | error e =>
      rw [hreq] at hok
      cases hok
    | ok request => exact ⟨request, rfl⟩
  have hch : ∀ n : Nat, ((fun _ => answers 201 "{}" : Nat → Choice) n).Conclusive playEnv := fun _ =>
    ⟨rfl, 201, "{}", rfl, by decide, fun _ => by decide +kernel, fun h => absurd (Or.inr rfl) h⟩
  obtain ⟨s', hends, -, hall⟩ := settles_alone (run_any hrun) playClient (show 152 ≤ 300 by decide) hready hch
  refine ⟨cfg, run_any hrun, ?_, s', hends, fun row hmem => (hall row hmem).1⟩
  have hmem : ("event-1", 1, RowState.sent) ∈ cfg.state.1.rows.map (fun row => (row.eventId, row.attempts, row.state)) := by
    simp [hone]
  obtain ⟨row, hin, heq⟩ := List.mem_map.1 hmem
  simp only [Prod.mk.injEq] at heq
  exact ⟨row, hin, by simp [OutboxRow.settled, heq.2.2]⟩

end

end Lyrica

end Archisynapse
