import Archisynapse.Lemmas.EconomicTruth

/-!
# The bridge keeps its rows in hand

What each call of `deliver_event` leaves of the rows a worker has in hand, and from these, what delivering one row, delivering the rows
of a flush and every program keep.
-/

namespace Archisynapse

namespace EconomicTruth

variable {env : Env} {strict firm : Prop} {w : Nat}

/-- A call of a worker under the condition, from what it makes of the states the others may leave. -/
theorem call_wp {o : Op} {Q : Except Raised o.Result → (machine env).traced.State → Prop} {c : Call}
    {s : (machine env).traced.State}
    (h : ∀ s₁ : (machine env).traced.State, Rely w s s₁ → Inv strict firm s₁ → (careful env strict firm).step w o s₁ → ∀ ch r s₂,
      exec env w o ch s₁.1 = some (r, s₂) →
      (∀ id, o.deliveryOf = some id → (w, id) ∈ s₁.1.inHand) ∧
      (∀ id url payload, o = .post id url payload → (firm → ¬ Delivered s₁.1 id) ∧ (strict → Unanswered s₁.2 id)) ∧
      Moves firm w s₁.1 s₂ ∧ Q r (s₂, s₁.2 ++ [⟨w, o, r, s₁.1⟩])) :
    (Prog.perform (S := sig) o).wp ((machine env).traced.Does (careful env strict firm) w)
      ((outline env strict firm).contract w c) Q s := by
  refine (Prog.wp_perform (S := sig) o s).2 ?_
  rintro s₁ hrely hinv r s₂ ⟨hcareful, ch, he⟩
  obtain ⟨x, hx, he⟩ := Option.map_eq_some_iff.1 he
  obtain ⟨rfl, rfl⟩ := Prod.mk.inj he
  obtain ⟨hhand, hpost, hmoves, hQ⟩ := h s₁ hrely hinv hcareful ch x.1 x.2 hx
  obtain ⟨h₁, h₂⟩ := keeps_of_moves (c := c) (e := ⟨w, o, x.1, s₁.1⟩) hinv rfl hhand hpost hmoves
  exact ⟨h₁, h₂, hQ⟩

/-- What a worker has in hand after a call of its own. -/
theorem Holding.step {ids : List Uuid} {s : (machine env).traced.State} (h : Holding strict firm w ids s) {s' : State}
    {e : (machine env).Entry} (hstate : ∀ id ∈ ids, (w, id) ∈ s'.inHand ∧ (Delivered s' id → Delivered s.1 id))
    (hcall : ∀ id ∈ ids, acknowledges e ≠ some id) : Holding strict firm w ids (s', s.2 ++ [e]) := by
  intro id hid
  obtain ⟨h₁, h₂, h₃⟩ := h id hid
  obtain ⟨h₄, h₅⟩ := hstate id hid
  refine ⟨h₄, fun hf hd => h₂ hf (h₅ hd), fun hst x hx => ?_⟩
  rcases List.mem_append.1 hx with hx | hx
  · exact h₃ hst x hx
  · rw [List.mem_singleton.1 hx]
    exact hcall id hid

/-- A row in hand that was sent or is about to be, beside others that were not. -/
def Working (strict firm : Prop) (w : Nat) (id : Uuid) (ids : List Uuid) (s : (machine env).traced.State) : Prop :=
  ((w, id) ∈ s.1.inHand ∧ (firm → ¬ Delivered s.1 id)) ∧ Holding strict firm w ids s

/-- A row in hand that may have been delivered, beside others that were not sent. -/
def Ended (strict firm : Prop) (w : Nat) (id : Uuid) (ids : List Uuid) (s : (machine env).traced.State) : Prop :=
  (w, id) ∈ s.1.inHand ∧ Holding strict firm w ids s

theorem Working.rely {id : Uuid} {ids : List Uuid} {s s' : (machine env).traced.State} (h : Working strict firm w id ids s)
    (hr : Rely w s s') : Working strict firm w id ids s' := by
  obtain ⟨⟨h₁, h₂⟩, h₃⟩ := h
  obtain ⟨h₄, h₅, -⟩ := hr.held id h₁
  exact ⟨⟨h₄, fun hf hd => h₂ hf (h₅ hd)⟩, h₃.rely hr⟩

theorem Ended.rely {id : Uuid} {ids : List Uuid} {s s' : (machine env).traced.State} (h : Ended strict firm w id ids s)
    (hr : Rely w s s') : Ended strict firm w id ids s' :=
  ⟨(hr.held id h.1).1, h.2.rely hr⟩

theorem Working.ended {id : Uuid} {ids : List Uuid} {s : (machine env).traced.State} (h : Working strict firm w id ids s) :
    Ended strict firm w id ids s :=
  ⟨h.1.1, h.2⟩

/-- The rows beside the one that is updated. -/
theorem delivered_update_other {s : State} {id id' : Uuid} {u : OutboxRow → OutboxRow} (hid : ∀ row, (u row).id = row.id)
    (hne : id' ≠ id) (h : Delivered (s.update id u) id') : Delivered s id' := by
  rw [delivered_update hid, if_neg hne] at h
  exact h

/-- An update that leaves the row undelivered. -/
theorem not_delivered_update {s : State} {id : Uuid} {u : OutboxRow → OutboxRow} (hid : ∀ row, (u row).id = row.id)
    (hstate : ∀ row, (u row).state ≠ .delivered) : ¬ Delivered (s.update id u) id := by
  rw [delivered_update hid, if_pos rfl]
  rintro ⟨row, -, -, h⟩
  exact hstate row h

/-! ## The calls of deliver_event -/

variable {c : Call} {id : Uuid} {ids : List Uuid} {s : (machine env).traced.State}

theorem markSending_wp (hfresh : id ∉ ids) (h : Holding strict firm w (id :: ids) s) :
    (Prog.perform (S := sig) (.markSending id)).wp ((machine env).traced.Does (careful env strict firm) w)
      ((outline env strict firm).contract w c) (Prog.Returning fun _ => Holding strict firm w (id :: ids)) s := by
  refine call_wp (o := .markSending id) (fun s₁ hrely hinv _ ch r s₂ he => ?_)
  have hsound := hinv.sound
  have hheld := h.rely hrely
  obtain ⟨hhand, hnot, -⟩ := hheld id List.mem_cons_self
  have hsend : Moves firm w s₁.1 (s₁.1.update id OutboxRow.send) := moves_update hsound (fun _ => rfl) hhand (Or.inr hnot)
  refine ⟨?_, fun _ _ _ he => (nomatch he), ?_⟩
  · rintro _ ⟨⟩
    exact hhand
  dsimp only [exec] at he
  split at he
  · cases he
    exact ⟨(Moves.refl hsound).leave, trivial⟩
  · cases he
    exact ⟨hsend.leave, trivial⟩
  · cases he
    refine ⟨hsend, hheld.step (fun id' hid' => ⟨(hheld id' hid').1, fun hd => ?_⟩) (fun _ _ => nofun)⟩
    by_cases hne : id' = id
    · subst hne
      exact absurd hd (not_delivered_update (u := OutboxRow.send) (fun _ => rfl) (fun _ => nofun))
    · exact delivered_update_other (u := OutboxRow.send) (fun _ => rfl) hne hd

theorem post_wp {url : String} {payload : Payload} (hfresh : id ∉ ids) (h : Holding strict firm w (id :: ids) s) :
    (Prog.perform (S := sig) (.post id url payload)).wp ((machine env).traced.Does (careful env strict firm) w)
      ((outline env strict firm).contract w c) (fun _ => Working strict firm w id ids) s := by
  refine call_wp (o := .post id url payload) (fun s₁ hrely hinv _ ch r s₂ he => ?_)
  have hsound := hinv.sound
  have hheld := h.rely hrely
  obtain ⟨hhand, hnot, hunanswered⟩ := hheld id List.mem_cons_self
  cases he
  refine ⟨?_, ?_, Moves.refl hsound, ⟨hhand, hnot⟩, ?_⟩
  · rintro _ ⟨⟩
    exact hhand
  · rintro _ _ _ ⟨⟩
    exact ⟨hnot, hunanswered⟩
  · have hrest : Holding strict firm w ids s₁ := fun id' hid' => hheld id' (List.mem_cons_of_mem _ hid')
    refine hrest.step (fun id' hid' => ⟨(hrest id' hid').1, fun hd => hd⟩) (fun id' hid' ha => ?_)
    have hsame : some id = some id' := deliveryOf_acknowledges ha
    exact hfresh (Option.some.inj hsame ▸ hid')

theorem heartbeat_wp {url : String} {body : Payload} (h : Working strict firm w id ids s) :
    (Prog.perform (S := sig) (.heartbeat id url body)).wp ((machine env).traced.Does (careful env strict firm) w)
      ((outline env strict firm).contract w c) (fun _ => Working strict firm w id ids) s := by
  refine call_wp (o := .heartbeat id url body) (fun s₁ hrely hinv _ ch r s₂ he => ?_)
  have hsound := hinv.sound
  have hworking := h.rely hrely
  cases he
  refine ⟨?_, fun _ _ _ he => (nomatch he), Moves.refl hsound, hworking.1, ?_⟩
  · rintro _ ⟨⟩
    exact hworking.1.1
  · exact hworking.2.step (fun id' hid' => ⟨(hworking.2 id' hid').1, fun hd => hd⟩) (fun _ _ => nofun)

/-- Letting go of one row keeps the others in hand. -/
theorem mem_putDown {s : State} {id' : Uuid} (hne : id' ≠ id) (h : (w, id') ∈ s.inHand) : (w, id') ∈ (s.putDown w id).inHand :=
  List.mem_filter.2 ⟨h, decide_eq_true (fun he => hne (Prod.mk.inj he).2)⟩

/-- The rows beside the one a worker updates and may let go of. -/
theorem Holding.beside {u : OutboxRow → OutboxRow} (hid : ∀ row, (u row).id = row.id) (hfresh : id ∉ ids)
    (h : Holding strict firm w ids s) {s' : State} (hrows : s'.rows = (s.1.update id u).rows)
    (hhands : ∀ id', id' ≠ id → (w, id') ∈ s.1.inHand → (w, id') ∈ s'.inHand) {e : (machine env).Entry}
    (hcall : ∀ id ∈ ids, acknowledges e ≠ some id) : Holding strict firm w ids (s', s.2 ++ [e]) := by
  refine h.step (fun id' hid' => ?_) hcall
  have hne : id' ≠ id := by
    rintro rfl
    exact hfresh hid'
  refine ⟨hhands id' hne (h id' hid').1, fun hd => delivered_update_other hid hne ?_⟩
  obtain ⟨row, hrow, hd⟩ := hd
  rw [hrows] at hrow
  exact ⟨row, hrow, hd⟩

theorem markDelivered_wp {response : Json} (hfresh : id ∉ ids) (h : Working strict firm w id ids s) :
    (Prog.perform (S := sig) (.markDelivered id response)).wp ((machine env).traced.Does (careful env strict firm) w)
      ((outline env strict firm).contract w c)
      (fun r s => match r with
        | .ok _ => Holding strict firm w ids s
        | .error _ => Ended strict firm w id ids s) s := by
  refine call_wp (o := .markDelivered id response) (fun s₁ hrely hinv _ ch r s₂ he => ?_)
  have hsound := hinv.sound
  obtain ⟨⟨hhand, -⟩, hrest⟩ := h.rely hrely
  have hdeliver : Moves firm w s₁.1 (s₁.1.update id (OutboxRow.deliver response)) :=
    moves_update hsound (fun _ => rfl) hhand (Or.inl (fun _ => rfl))
  refine ⟨?_, fun _ _ _ he => (nomatch he), ?_⟩
  · rintro _ ⟨⟩
    exact hhand
  dsimp only [exec] at he
  split at he
  · cases he
    exact ⟨Moves.refl hsound, hhand, hrest.step (fun id' hid' => ⟨(hrest id' hid').1, fun hd => hd⟩) (fun _ _ => nofun)⟩
  · cases he
    exact ⟨hdeliver, hhand, hrest.beside (u := OutboxRow.deliver response) (fun _ => rfl) hfresh rfl (fun _ _ h => h)
      (fun _ _ => nofun)⟩
  · cases he
    refine ⟨hdeliver.putDown id, hrest.beside (u := OutboxRow.deliver response) (fun _ => rfl) hfresh ?_ ?_ (fun _ _ => ?_)⟩
    · rfl
    · exact fun _ hne h => mem_putDown hne h
    · exact nofun

theorem markPending_wp {error : String} (hfresh : id ∉ ids) (h : Ended strict firm w id ids s) :
    (Prog.perform (S := sig) (.markPending id error)).wp ((machine env).traced.Does (careful env strict firm) w)
      ((outline env strict firm).contract w c) (Prog.Returning fun _ => Holding strict firm w ids) s := by
  refine call_wp (o := .markPending id error) (fun s₁ hrely hinv hcareful ch r s₂ he => ?_)
  have hsound := hinv.sound
  obtain ⟨hhand, hrest⟩ := h.rely hrely
  have hretry : Moves firm w s₁.1 (s₁.1.update id (OutboxRow.retry s₁.1.now error)) :=
    moves_update hsound (fun _ => rfl) hhand (Or.inr hcareful)
  refine ⟨?_, fun _ _ _ he => (nomatch he), ?_⟩
  · rintro _ ⟨⟩
    exact hhand
  dsimp only [exec] at he
  split at he
  · cases he
    exact ⟨(Moves.refl hsound).leave, trivial⟩
  · cases he
    exact ⟨hretry.leave, trivial⟩
  · cases he
    refine ⟨hretry.putDown id, hrest.beside (u := OutboxRow.retry s₁.1.now error) (fun _ => rfl) hfresh ?_ ?_ (fun _ _ => ?_)⟩
    · rfl
    · exact fun _ hne h => mem_putDown hne h
    · exact nofun

/-! ## Delivering -/

theorem heartbeats_wp {row : OutboxRow} (hid : row.id = id) (surfaces : List Json) (h : Working strict firm w id ids s) :
    (heartbeats env row surfaces).wp ((machine env).traced.Does (careful env strict firm) w)
      ((outline env strict firm).contract w c) (fun _ => Working strict firm w id ids) s := by
  subst hid
  induction surfaces generalizing s with
  | nil => exact h
  | cons surface rest ih =>
    refine Prog.wp_seq (heartbeat_wp h) (fun response s h => ?_) (fun _ _ h => h)
    dsimp only
    split
    · exact h
    · exact ih h

/-- Sending a row in hand: it is delivered and let go, or it is still in hand; the others were not sent. -/
theorem sendRow_wp {row : OutboxRow} (hfresh : row.id ∉ ids) (h : Holding strict firm w (row.id :: ids) s) :
    (sendRow env row).wp ((machine env).traced.Does (careful env strict firm) w) ((outline env strict firm).contract w c)
      (fun r s => match r with
        | .ok _ => Holding strict firm w ids s
        | .error _ => Ended strict firm w row.id ids s) s := by
  have hraise : ∀ {α : Type} (x : Except Raised α) {s : (machine env).traced.State}, Working strict firm w row.id ids s →
      (orRaise x).wp ((machine env).traced.Does (careful env strict firm) w) ((outline env strict firm).contract w c)
        (fun _ => Working strict firm w row.id ids) s := by
    intro α x s h
    cases x with
    | ok a => exact h
    | error e => exact h
  refine Prog.wp_seq (post_wp hfresh h) (fun response s h => ?_) (fun _ _ h => h.ended)
  dsimp only
  split
  · exact h.ended
  · refine Prog.wp_seq (hraise response.json h) (fun body s h => ?_) (fun _ _ h => h.ended)
    refine Prog.wp_seq (hraise (coverageSurfaces row.payload) h) (fun surfaces s h => ?_) (fun _ _ h => h.ended)
    refine Prog.wp_seq (heartbeats_wp rfl surfaces h) (fun _ s h => ?_) (fun _ _ h => h.ended)
    exact Prog.wp_seq (markDelivered_wp hfresh h) (fun _ _ h => h) (fun _ _ h => h)

/-- Delivering a row in hand, beside others. -/
theorem deliverEvent_wp {row : OutboxRow} (hfresh : row.id ∉ ids)
    (h : env.configured = true → Holding strict firm w (row.id :: ids) s) :
    (deliverEvent env row).wp ((machine env).traced.Does (careful env strict firm) w) ((outline env strict firm).contract w c)
      (Prog.Returning fun _ => Holding strict firm w ids) s := by
  unfold deliverEvent
  dsimp only
  split
  · exact trivial
  · rename_i hconfigured
    have hconfigured : env.configured = true := by simpa using hconfigured
    refine Prog.wp_then (markSending_wp hfresh (h hconfigured)) (fun _ s h => ?_)
    refine Prog.wp_handle (sendRow_wp hfresh h) (fun _ _ h => h) (fun e s h => ?_)
    exact Prog.wp_then (markPending_wp hfresh h) (fun _ _ h => h)

/-- Delivering rows in hand, one after the other. -/
theorem deliverAll_wp (rows : List OutboxRow) (hids : (rows.map (·.id)).Nodup)
    (h : env.configured = true → Holding strict firm w (rows.map (·.id)) s) :
    (deliverAll env rows).wp ((machine env).traced.Does (careful env strict firm) w) ((outline env strict firm).contract w c)
      (Prog.Returning fun _ _ => True) s := by
  induction rows generalizing s with
  | nil => exact trivial
  | cons row rows ih =>
    obtain ⟨hfresh, hids⟩ := List.nodup_cons.1 hids
    refine Prog.wp_then (deliverEvent_wp hfresh h) (fun _ s h => ?_)
    exact Prog.wp_then (ih hids (fun _ => h)) (fun _ _ _ => trivial)

/-! ## Picking up -/

/-- The rows a flush takes are rows of the outbox, each once. -/
theorem mem_selectDue {s : State} {limit : Nat} {row : OutboxRow} (h : row ∈ s.selectDue limit) : row ∈ s.rows := by
  have h := List.mem_of_mem_take h
  rw [List.mem_insertionSort] at h
  exact (List.mem_filter.1 h).1

theorem selectDue_nodup {s : State} (hs : s.Sound) (limit : Nat) : ((s.selectDue limit).map (·.id)).Nodup := by
  have hsorted : (((s.rows.filter (fun row => row.due s.now)).insertionSort (fun a b => a.createdAt ≤ b.createdAt)).map (·.id)).Nodup := by
    refine ((List.perm_insertionSort _ _).map _).nodup_iff.2 ?_
    exact hs.ids.sublist (List.filter_sublist.map _)
  exact hsorted.sublist ((List.take_sublist _ _).map _)

/-- Free rows that were just picked up are held. -/
theorem holding_pickUp {s : (machine env).traced.State} {s' : State} {rows : List OutboxRow} {e : (machine env).Entry}
    (hfree : ∀ row ∈ rows, ¬ Delivered s' row.id ∧ (strict → Unanswered s.2 row.id)) (he : acknowledges e = none) :
    Holding strict firm w (rows.map (·.id)) (s'.pickUp w rows, s.2 ++ [e]) := by
  intro id hid
  obtain ⟨row, hrow, rfl⟩ := List.mem_map.1 hid
  obtain ⟨hnot, hunanswered⟩ := hfree row hrow
  refine ⟨List.mem_append_right _ (List.mem_map.2 ⟨row, hrow, rfl⟩), fun _ => hnot, fun hst x hx => ?_⟩
  rcases List.mem_append.1 hx with hx | hx
  · exact hunanswered hst x hx
  · rw [List.mem_singleton.1 hx, he]
    exact nofun

theorem selectDue_wp (limit : Nat) :
    (Prog.perform (S := sig) (.selectDue limit)).wp ((machine env).traced.Does (careful env strict firm) w)
      ((outline env strict firm).contract w c)
      (Prog.Returning fun (rows : List OutboxRow) s => (rows.map (·.id)).Nodup ∧
        (env.configured = true → Holding strict firm w (rows.map (·.id)) s)) s := by
  refine call_wp (o := .selectDue limit) (fun s₁ hrely hinv hcareful ch r s₂ he => ?_)
  have hsound := hinv.sound
  have hfree : ∀ row ∈ s₁.1.selectDue limit, Free strict s₁ row.id := hcareful
  refine ⟨fun _ => nofun, fun _ _ _ he => (nomatch he), ?_⟩
  dsimp only [exec] at he
  split at he
  · cases he
    exact ⟨Moves.refl hsound, trivial⟩
  · cases he
    refine ⟨?_, selectDue_nodup hsound limit, fun hconfigured => ?_⟩
    · split
      · exact (Moves.refl hsound).pickUp (fun row hrow => ⟨mem_selectDue hrow, (hfree row hrow).2.1⟩)
      · exact Moves.refl hsound
    · rw [if_pos hconfigured]
      exact holding_pickUp (fun row hrow => ⟨(hfree row hrow).1, (hfree row hrow).2.2⟩) rfl

/-- An upsert answers with the row that is there, or inserts one. -/
theorem upsert_some {s s' : State} {id : Uuid} {source externalId actionId : String} {stage : RoyaltyGateway.TruthStage}
    {payload : Payload} {row : OutboxRow} (h : s.upsert id source externalId actionId stage payload = some (row, s')) :
    (row ∈ s.rows ∧ row.key = (source, externalId, stage) ∧ s' = s) ∨
      (s.rowOf row.id = none ∧ row.state ≠ .delivered ∧ s' = { s with rows := s.rows ++ [row] }) := by
  unfold State.upsert at h
  split at h
  · rename_i found hfound
    cases h
    have hkey := List.find?_some hfound
    exact Or.inl ⟨List.mem_of_find?_eq_some hfound, of_decide_eq_true hkey, rfl⟩
  · split at h
    · cases h
    · rename_i hfree
      cases h
      exact Or.inr ⟨Option.not_isSome_iff_eq_none.1 hfree, nofun, rfl⟩

/-- A row that an upsert answers with may be picked up. -/
theorem upsert_free {s : (machine env).traced.State} (hinv : Inv strict firm s) {s' : State} {id : Uuid}
    {source externalId actionId : String} {stage : RoyaltyGateway.TruthStage} {payload : Payload} {row : OutboxRow}
    (hcareful : ∀ row ∈ s.1.rows, row.key = (source, externalId, stage) → Free strict s row.id)
    (h : s.1.upsert id source externalId actionId stage payload = some (row, s')) :
    Moves firm w s.1 s' ∧ row ∈ s'.rows ∧ (∀ w', (w', row.id) ∉ s'.inHand) ∧ ¬ Delivered s' row.id ∧
      (strict → Unanswered s.2 row.id) := by
  rcases upsert_some h with ⟨hrow, hkey, rfl⟩ | ⟨hnew, hstate, rfl⟩
  · obtain ⟨hnot, hhands, hunanswered⟩ := hcareful row hrow hkey
    exact ⟨Moves.refl hinv.sound, hrow, hhands, hnot, hunanswered⟩
  · have hfresh : row.id ∉ s.1.rows.map (·.id) := by
      intro hmem
      obtain ⟨y, hy, he⟩ := List.mem_map.1 hmem
      exact List.find?_eq_none.1 hnew y hy (decide_eq_true he)
    have hmoves : Moves firm w s.1 { s.1 with rows := s.1.rows ++ [row] } := moves_insert hinv.sound hnew hstate
    refine ⟨hmoves, List.mem_append_right _ (List.mem_singleton_self _), fun w' hw' => hfresh (hinv.sound.there w' _ hw'), ?_, ?_⟩
    · rintro ⟨y, hy, hyid, hdelivered⟩
      rcases List.mem_append.1 hy with hy | hy
      · exact hfresh (List.mem_map.2 ⟨y, hy, hyid⟩)
      · rw [List.mem_singleton.1 hy] at hdelivered
        exact hstate hdelivered
    · exact fun _ e he ha => hfresh (hinv.known e he _ ha)

theorem upsert_wp (source externalId actionId : String) (stage : RoyaltyGateway.TruthStage) (payload : Payload) :
    (Prog.perform (S := sig) (.upsert source externalId actionId stage payload)).wp
      ((machine env).traced.Does (careful env strict firm) w) ((outline env strict firm).contract w c)
      (Prog.Returning fun (row : OutboxRow) s => env.configured = true → Holding strict firm w [row.id] s) s := by
  refine call_wp (o := .upsert source externalId actionId stage payload) (fun s₁ hrely hinv hcareful ch r s₂ he => ?_)
  have hpicked : ∀ {row s'}, s₁.1.upsert ch.id source externalId actionId stage payload = some (row, s') → _ :=
    fun h => upsert_free (w := w) hinv hcareful h
  refine ⟨fun _ => nofun, fun _ _ _ he => (nomatch he), ?_⟩
  dsimp only [exec] at he
  split at he
  · cases he
    exact ⟨Moves.refl hinv.sound, trivial⟩
  · cases he
    exact ⟨Moves.refl hinv.sound, trivial⟩
  · rename_i hupsert
    cases he
    exact ⟨(hpicked hupsert).1, trivial⟩
  · rename_i row s' _ hupsert
    cases he
    obtain ⟨hmoves, hrow, hhands, hnot, hunanswered⟩ := hpicked hupsert
    have hone : ∀ x ∈ [row], x = row := fun x hx => List.mem_singleton.1 hx
    refine ⟨?_, fun hconfigured => ?_⟩
    · split
      · exact hmoves.pickUp (fun x hx => by rw [hone x hx]; exact ⟨hrow, hhands⟩)
      · exact hmoves
    · rw [if_pos hconfigured]
      have hfree : ∀ x ∈ [row], ¬ Delivered s' x.id ∧ (strict → Unanswered s₁.2 x.id) := by
        intro x hx
        rw [hone x hx]
        exact ⟨hnot, hunanswered⟩
      exact holding_pickUp hfree rfl

/-! ## The programs -/

theorem queueAndDeliver_wp (source externalId actionId : String) (stage : RoyaltyGateway.TruthStage) (payload : Payload) :
    (queueAndDeliver env source externalId actionId stage payload).wp ((machine env).traced.Does (careful env strict firm) w)
      ((outline env strict firm).contract w c) (Prog.Returning fun _ _ => True) s := by
  have henqueue : (enqueueEvent source externalId actionId stage payload).wp ((machine env).traced.Does (careful env strict firm) w)
      ((outline env strict firm).contract w c)
      (Prog.Returning fun found s => ∀ row, found = some row → env.configured = true → Holding strict firm w [row.id] s) s := by
    unfold enqueueEvent
    split
    · exact fun _ => nofun
    · refine Prog.wp_then (upsert_wp source externalId actionId stage payload) (fun row s h => ?_)
      rintro _ ⟨⟩
      exact h
  refine Prog.wp_then henqueue (fun found s h => ?_)
  cases found with
  | none => exact trivial
  | some row =>
    have hnone : row.id ∉ ([] : List Uuid) := List.not_mem_nil
    exact Prog.wp_then (deliverEvent_wp hnone (h row rfl)) (fun _ _ _ => trivial)

/-- Every program keeps the outline. -/
theorem program_wp (call : Call) :
    (program env call).wp ((machine env).traced.Does (careful env strict firm) w) ((outline env strict firm).contract w c)
      (Prog.Returning fun _ _ => True) s := by
  cases call with
  | recordRoyaltyTruth receipt stage reason =>
    have hrecord : (recordRoyaltyTruth env receipt stage reason).wp ((machine env).traced.Does (careful env strict firm) w)
        ((outline env strict firm).contract w c) (Prog.Returning fun _ _ => True) s := by
      unfold recordRoyaltyTruth
      split
      · exact trivial
      · exact queueAndDeliver_wp _ _ _ _ _
    exact Prog.wp_then hrecord (fun _ _ _ => trivial)
  | queueAndDeliver source externalId actionId stage payload =>
    exact Prog.wp_then (queueAndDeliver_wp _ _ _ _ _) (fun _ _ _ => trivial)
  | flushOutbox limit =>
    exact Prog.wp_then (selectDue_wp limit) (fun rows s h => deliverAll_wp rows h.1 h.2)
  | wait duration =>
    have hwait : (Prog.perform (S := sig) (.wait duration)).wp ((machine env).traced.Does (careful env strict firm) w)
        ((outline env strict firm).contract w c) (Prog.Returning fun _ _ => True) s := by
      refine call_wp (o := .wait duration) (fun s₁ _ hinv _ ch r s₂ he => ?_)
      cases he
      exact ⟨fun _ => nofun, fun _ _ _ he => (nomatch he), moves_wait hinv.sound _, trivial⟩
    exact Prog.wp_then hwait (fun _ _ _ => trivial)

/-- A worker that is gone. -/
theorem leave_rely {w w' : Nat} (hne : w' ≠ w) (s : (machine env).traced.State) : Rely w' s (s.1.leave w, s.2) := by
  refine ⟨List.prefix_refl _, fun id hid => ⟨?_, fun hd => hd, fun _ he _ => he⟩⟩
  exact List.mem_filter.2 ⟨hid, decide_eq_true hne⟩

theorem outline_sound : (outline env strict firm).Sound (careful env strict firm) where
  refl w _ s := Rely.refl w s
  trans _ _ _ _ _ h h' := h.trans h'
  symm _ _ _ _ _ := trivial
  guar _ _ _ _ _ _ hne _ hinv hg := hg.rely hinv.sound hne
  start cfg call _ _ := ⟨fun _ _ => trivial, Prog.wp_mono (fun _ _ _ => trivial) _ (program_wp (c := call) call)⟩
  crash w s hinv := by
    have hleft : Moves firm w s.1 (s.1.leave w) := (Moves.refl hinv.sound).leave
    exact ⟨⟨hleft.sound, hinv.proper, hinv.known⟩, fun w' _ hne => leave_rely hne s⟩

end EconomicTruth

end Archisynapse
