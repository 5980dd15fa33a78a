import Archisynapse.Lemmas.EconomicTruthPrograms

/-!
# Delivering once

In every run in which rows are picked up only while they are free, and a failed attempt is only recorded for a row that is not
delivered, a delivered row stays delivered, its request is not sent again, and no two workers deliver a row at once
(`delivered_once`). The bridge does not see to it: a request made again is answered with the row that is delivered, and sends it again
(`delivered_again`).
-/

namespace Archisynapse

namespace EconomicTruth

variable {env : Env}

/-- The worker's next call is one of `deliver_event`, for this row. -/
def Delivers (x : (machine env).traced.Worker) (id : Uuid) : Prop :=
  ∃ (o : Op) (k : Except Raised o.Result → Prog sig (List Delivery)), x.rest = .call o k ∧ o.deliveryOf = some id

/-- In every run from `s` under a condition: a row that is delivered stays so; a request is only made for a row that is not delivered,
and in the strict sense, none of whose requests was answered with success; and no two workers deliver a row at the same time. -/
def DeliversOnce (env : Env) (strict : Prop) (s : State) (C : (machine env).traced.Cond) : Prop :=
  ∀ cfg cfg', (machine env).traced.Run C (.init _ (s, [])) cfg → (machine env).traced.Run C cfg cfg' →
    (∀ id, Delivered cfg.state.1 id → Delivered cfg'.state.1 id) ∧
    (∀ before e after, cfg.state.2 = before ++ e :: after → ∀ id url payload, e.op = .post id url payload →
      ¬ Delivered e.before id ∧ (strict → Unanswered before id)) ∧
    ∀ x ∈ cfg.live, ∀ y ∈ cfg.live, ∀ id, Delivers x id → Delivers y id → x.id = y.id

/-- What holds where nobody has a row in hand and no call was made. -/
theorem init_inv {strict firm : Prop} {s : State} (hids : (s.rows.map (·.id)).Nodup) (hhands : s.inHand = []) :
    (outline env strict firm).inv (s, []) := by
  refine ⟨⟨hids, ?_, ?_⟩, ?_, fun e he => absurd he List.not_mem_nil⟩
  · intro w id h
    rw [hhands] at h
    cases h
  · intro w w' id h
    rw [hhands] at h
    cases h
  · intro before e after h
    cases before <;> cases h

/-- Under a condition that does not mind how failures are recorded, a worker that delivers a row has it in hand. -/
theorem delivers_hand {strict : Prop} {s : State} (hids : (s.rows.map (·.id)).Nodup) (hhands : s.inHand = [])
    {cfg : (machine env).traced.Config} (hrun : (machine env).traced.Run (careful env strict False) (.init _ (s, [])) cfg)
    {x : (machine env).traced.Worker} (hx : x ∈ cfg.live) {id : Uuid} (h : Delivers x id) : (x.id, id) ∈ cfg.state.1.inHand := by
  obtain ⟨o, k, hrest, hid⟩ := h
  have hsound : (outline env strict False).Sound (careful env strict False) := outline_sound
  have hold := Machine.Outline.holds_run hsound (init_inv hids hhands) hrun
  have hkeep := hold.keeps x hx
  unfold Machine.Outline.Keeps at hkeep
  rw [hrest] at hkeep
  -- the call can be made, so the worker guarantees that the row is in its hand
  have hown : ∀ (r : Except Raised o.Result) (s' : State),
      (machine env).traced.Does (careful env strict False) x.id o cfg.state r (s', cfg.state.2 ++ [⟨x.id, o, r, cfg.state.1⟩]) →
      (x.id, id) ∈ cfg.state.1.inHand := by
    intro r s' hdoes
    obtain ⟨-, hguar, -⟩ := hkeep cfg.state (Rely.refl _ _) hold.inv r _ hdoes
    exact hguar.own _ rfl id hid
  cases o with
  | upsert source externalId actionId stage payload => cases hid
  | selectDue limit => cases hid
  | markSending id' => exact hown _ _ ⟨trivial, ⟨none, id, .error ⟨""⟩⟩, rfl⟩
  | post id' url payload => exact hown _ _ ⟨trivial, ⟨none, id, .error ⟨""⟩⟩, rfl⟩
  | heartbeat id' url body => exact hown _ _ ⟨trivial, ⟨none, id, .error ⟨""⟩⟩, rfl⟩
  | markDelivered id' response => exact hown _ _ ⟨trivial, ⟨none, id, .error ⟨""⟩⟩, rfl⟩
  | markPending id' error => exact hown _ _ ⟨False.elim, ⟨none, id, .error ⟨""⟩⟩, rfl⟩
  | wait duration => cases hid

/-- The condition that minds how failures are recorded allows less. -/
theorem careful_mono {strict : Prop} {cfg cfg' : (machine env).traced.Config}
    (h : (machine env).traced.Run (careful env strict True) cfg cfg') : (machine env).traced.Run (careful env strict False) cfg cfg' := by
  refine Machine.Run.mono ?_ ?_ h
  · exact fun _ _ h => h
  · intro w o s hstep
    cases o with
    | markPending id error => exact False.elim
    | upsert source externalId actionId stage payload => exact hstep
    | selectDue limit => exact hstep
    | markSending id => exact hstep
    | post id url payload => exact hstep
    | heartbeat id url body => exact hstep
    | markDelivered id response => exact hstep
    | wait duration => exact hstep

/-- From any outbox with unique ids of which nobody has a row in hand, in every run of any requests and flushes, each worker stalled,
crashed or cut off anywhere, in which a row is picked up (by an upsert that finds it or a flush that takes it) only while it is not
delivered and nobody has it in hand, in the strict sense also only while none of its requests was answered with success, and in which
a failed attempt is only recorded for a row that is not delivered: the outbox delivers once. -/
theorem delivered_once (env : Env) (strict : Prop) {s : State} (hids : (s.rows.map (·.id)).Nodup) (hhands : s.inHand = []) :
    DeliversOnce env strict s (careful env strict True) := by
  intro cfg cfg' hrun hrun'
  have hsound : (outline env strict True).Sound (careful env strict True) := outline_sound
  have hinit : (outline env strict True).inv (s, []) := init_inv hids hhands
  have hinv : Inv strict True cfg.state := Machine.Outline.run_inv hsound hinit hrun
  refine ⟨?_, ?_, ?_⟩
  · exact hsound.run_moves (R := fun s s' => ∀ id, Delivered s.1 id → Delivered s'.1 id) (fun _ _ h => h)
      (fun _ _ _ h h' id hd => h' id (h id hd)) (fun _ _ _ _ _ hg => hg.stays trivial) (fun _ _ _ _ h => h) hinit hrun hrun'
  · intro before e after hsplit id url payload hop
    obtain ⟨hnot, hunanswered⟩ := hinv.proper before e after hsplit id url payload hop
    exact ⟨hnot trivial, hunanswered⟩
  · intro x hx y hy id hxid hyid
    have hmine := delivers_hand hids hhands (careful_mono hrun) hx hxid
    have hyours := delivers_hand hids hhands (careful_mono hrun) hy hyid
    exact hinv.sound.single x.id y.id id hmine hyours

/-! ## Runs -/

/-- An endpoint and a key. -/
def playEnv : Env := ⟨"https://truth", "key"⟩

/-- A call that goes well: the id that is drawn is `id`, and a request is answered with success. -/
def goes (id : Uuid) : Choice := ⟨none, id, .ok ⟨200, "", .ok .null⟩⟩

/-- A request that enqueues its event and delivers it, as far as its first calls. -/
def request (w : Nat) (calls : Nat) : List (machine playEnv).traced.Event :=
  .start (.queueAndDeliver "archisynapse-royalty" "outcome:receipt-1" "action-1" .outcome []) :: List.replicate calls (.call w (goes 7))

/-- The row is delivered. -/
def deliveredRow (cfg : (machine playEnv).traced.Config) : Bool :=
  cfg.state.1.rows.any (fun row => decide (row.id = 7 ∧ row.state = .delivered))

theorem deliveredRow_iff {cfg : (machine playEnv).traced.Config} : deliveredRow cfg = true ↔ Delivered cfg.state.1 7 := by
  simp [deliveredRow, Delivered]

/-- The bridge does not deliver once: a request that is made again picks up the row that was delivered, and marks it as being sent. -/
theorem delivered_again : ¬ DeliversOnce playEnv False ⟨[], 0, []⟩ (.any _) := by
  intro h
  have hok : ∀ (cfg : (machine playEnv).traced.Config) (e : (machine playEnv).traced.Event), true = true →
      (Machine.Cond.any (machine playEnv).traced).Allows cfg e := fun cfg e _ => Machine.Cond.allows_any cfg e
  obtain ⟨cfg, hrun, hcheck⟩ := Machine.Config.replay_any hok (request 0 4) (.init _ (⟨[], 0, []⟩, []))
    (fun cfg => deliveredRow cfg && (cfg.replay (fun _ _ => true) (request 1 2)).any (fun cfg' => !deliveredRow cfg')) (by decide +kernel)
  rw [Bool.and_eq_true] at hcheck
  obtain ⟨hdelivered, hagain⟩ := hcheck
  obtain ⟨cfg', hrun', hlost⟩ := Machine.Config.replay_any hok (request 1 2) cfg (fun cfg' => !deliveredRow cfg') hagain
  have hstays := (h cfg cfg' hrun hrun').1 7 (deliveredRow_iff.1 hdelivered)
  rw [deliveredRow_iff.2 hstays] at hlost
  cases hlost

/-- `careful`, computed, for runs that pick up nothing but a row they insert into an empty outbox. -/
def firstOnly (cfg : (machine playEnv).traced.Config) (_ : (machine playEnv).traced.Event) : Bool :=
  cfg.live.all (fun x => match x.rest with
    | .call (.upsert _ _ _ _ _) _ => cfg.state.1.rows.isEmpty
    | .call (.selectDue _) _ => false
    | .call (.markPending _ _) _ => false
    | _ => true)

theorem firstOnly_allows (cfg : (machine playEnv).traced.Config) (e : (machine playEnv).traced.Event)
    (h : firstOnly cfg e = true) : (careful playEnv True True).Allows cfg e := by
  cases e with
  | start c => exact trivial
  | crash w => exact trivial
  | call w ch =>
    intro x hx _ o k hrest
    have hcall := List.all_eq_true.1 h x hx
    rw [hrest] at hcall
    cases o with
    | upsert source externalId actionId stage payload =>
      intro row hrow
      rw [List.isEmpty_iff.1 hcall] at hrow
      cases hrow
    | selectDue limit => cases hcall
    | markPending id error => cases hcall
    | _ => exact trivial

/-- A request delivers its row in a run that meets the condition, and the outbox delivers once. -/
theorem delivered_once_play : (∃ cfg, (machine playEnv).traced.Run (careful playEnv True True) (.init _ (⟨[], 0, []⟩, [])) cfg ∧
    Delivered cfg.state.1 7) ∧ DeliversOnce playEnv True ⟨[], 0, []⟩ (careful playEnv True True) := by
  obtain ⟨cfg, hrun, hcheck⟩ := Machine.Config.replay_any firstOnly_allows (request 0 4) (.init _ (⟨[], 0, []⟩, [])) deliveredRow
    (by decide +kernel)
  exact ⟨⟨cfg, hrun, deliveredRow_iff.1 hcheck⟩, delivered_once playEnv True List.nodup_nil rfl⟩

end EconomicTruth

end Archisynapse
