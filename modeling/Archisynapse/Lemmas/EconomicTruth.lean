import Archisynapse.Base.History
import Archisynapse.EconomicTruth.Bridge

/-!
# Rows in hand

What a worker may count on for the rows it has in hand, when rows are picked up only while nobody has them in hand (`careful`): the
row stays in its hand and is not delivered by anyone else. `Moves` says what a call makes of the outbox, and `keeps_of_moves` that
such a call keeps the invariant and what the others count on.
-/

namespace Archisynapse

namespace EconomicTruth

/-! ## The condition -/

/-- A row with this id is delivered. -/
def Delivered (s : State) (id : Uuid) : Prop := ∃ row ∈ s.rows, row.id = id ∧ row.state = .delivered

variable {env : Env}

/-- The row whose request a call was, when it was answered with success. -/
def acknowledges : (machine env).Entry → Option Uuid
  | ⟨_, .post id _ _, .ok response, _⟩ => if response.status < 400 then some id else none
  | _ => none

/-- No request of the row was answered with success. -/
def Unanswered (calls : List (machine env).Entry) (id : Uuid) : Prop := ∀ e ∈ calls, acknowledges e ≠ some id

/-- A row may be picked up: it is not delivered and nobody has it in hand, and in the strict sense, no request of it was answered with
success. -/
def Free (strict : Prop) (s : (machine env).traced.State) (id : Uuid) : Prop :=
  ¬ Delivered s.1 id ∧ (∀ w, (w, id) ∉ s.1.inHand) ∧ (strict → Unanswered s.2 id)

/-- Rows are picked up, by an upsert that finds its row there or by a flush, only while they are free; and, when `firm`, a failed
attempt is only recorded for a row that is not delivered. -/
def careful (env : Env) (strict firm : Prop) : (machine env).traced.Cond where
  start _ _ := True
  step _ o s := match o with
    | .upsert source externalId _ stage _ => ∀ row ∈ s.1.rows, row.key = (source, externalId, stage) → Free strict s row.id
    | .selectDue limit => ∀ row ∈ s.1.selectDue limit, Free strict s row.id
    | .markPending id _ => firm → ¬ Delivered s.1 id
    | _ => True

/-- The row that a call of `deliver_event` is about. -/
def Op.deliveryOf : Op → Option Uuid
  | .markSending id => some id
  | .post id _ _ => some id
  | .heartbeat id _ _ => some id
  | .markDelivered id _ => some id
  | .markPending id _ => some id
  | _ => none

theorem deliveryOf_acknowledges {e : (machine env).Entry} {id : Uuid} (h : acknowledges e = some id) : e.op.deliveryOf = some id := by
  unfold acknowledges at h
  split at h
  · split at h
    · exact h
    · cases h
  · cases h

/-! ## What is kept -/

/-- What holds of a row a worker has in hand and has not sent. -/
def Holding (strict firm : Prop) (w : Nat) (ids : List Uuid) (s : (machine env).traced.State) : Prop :=
  ∀ id ∈ ids, (w, id) ∈ s.1.inHand ∧ (firm → ¬ Delivered s.1 id) ∧ (strict → Unanswered s.2 id)

/-- A request is made only for a row that is not delivered, and in the strict sense, none of whose requests was answered with
success. -/
def Proper (strict firm : Prop) (calls : List (machine env).Entry) : Prop :=
  ∀ before e after, calls = before ++ e :: after → ∀ id url payload, e.op = .post id url payload →
    (firm → ¬ Delivered e.before id) ∧ (strict → Unanswered before id)

theorem Proper.append {strict firm : Prop} {calls : List (machine env).Entry} (h : Proper strict firm calls) {e : (machine env).Entry}
    (he : ∀ id url payload, e.op = .post id url payload → (firm → ¬ Delivered e.before id) ∧ (strict → Unanswered calls id)) :
    Proper strict firm (calls ++ [e]) := by
  intro before x after hsplit
  rcases List.eq_nil_or_concat after with rfl | ⟨after, y, rfl⟩
  · obtain ⟨rfl, hx⟩ := List.append_inj' hsplit rfl
    obtain rfl := List.singleton_inj.1 hx
    exact he
  · have hsplit' : calls ++ [e] = (before ++ x :: after) ++ [y] := by
      rw [hsplit]
      simp
    exact h before x after (List.append_inj' hsplit' rfl).1

/-- What holds of the outbox: ids are unique, and a row in hand is there and in one hand only. -/
structure State.Sound (s : State) : Prop where
  ids : (s.rows.map (·.id)).Nodup
  there : ∀ w id, (w, id) ∈ s.inHand → id ∈ s.rows.map (·.id)
  single : ∀ w w' id, (w, id) ∈ s.inHand → (w', id) ∈ s.inHand → w = w'

/-- What a worker counts on for the rows it has in hand. -/
structure Rely (w : Nat) (s s' : (machine env).traced.State) : Prop where
  calls : s.2 <+: s'.2
  held : ∀ id, (w, id) ∈ s.1.inHand → (w, id) ∈ s'.1.inHand ∧ (Delivered s'.1 id → Delivered s.1 id) ∧
    ∀ e ∈ s'.2, acknowledges e = some id → e ∈ s.2

/-- What a worker keeps to: what the others have in hand stays there, it delivers only what it has in hand, when `firm` what is
delivered stays so, and its calls in `deliver_event` are about rows it has in hand. -/
structure Guar (firm : Prop) (w : Nat) (s s' : (machine env).traced.State) : Prop where
  calls : s.2 <+: s'.2
  hands : ∀ w', w' ≠ w → ∀ id, (w', id) ∈ s.1.inHand → (w', id) ∈ s'.1.inHand
  others : ∀ id, (w, id) ∉ s.1.inHand → (Delivered s'.1 id → Delivered s.1 id) ∧ ∀ e ∈ s'.2, acknowledges e = some id → e ∈ s.2
  stays : firm → ∀ id, Delivered s.1 id → Delivered s'.1 id
  own : ∀ e, s'.2 = s.2 ++ [e] → ∀ id, e.op.deliveryOf = some id → (w, id) ∈ s.1.inHand

theorem Rely.refl (w : Nat) (s : (machine env).traced.State) : Rely w s s :=
  ⟨List.prefix_refl _, fun _ h => ⟨h, fun hd => hd, fun _ he _ => he⟩⟩

theorem Rely.trans {w : Nat} {s s' s'' : (machine env).traced.State} (h : Rely w s s') (h' : Rely w s' s'') : Rely w s s'' := by
  refine ⟨h.calls.trans h'.calls, fun id hid => ?_⟩
  obtain ⟨h₁, h₂, h₃⟩ := h.held id hid
  obtain ⟨h₄, h₅, h₆⟩ := h'.held id h₁
  exact ⟨h₄, fun hd => h₂ (h₅ hd), fun e he ha => h₃ e (h₆ e he ha) ha⟩

/-- What one worker keeps to is what the others count on. -/
theorem Guar.rely {firm : Prop} {w w' : Nat} {s s' : (machine env).traced.State} (hs : s.1.Sound) (hne : w ≠ w')
    (h : Guar firm w s s') : Rely w' s s' := by
  refine ⟨h.calls, fun id hid => ?_⟩
  have hnot : (w, id) ∉ s.1.inHand := fun hw => hne (hs.single w w' id hw hid)
  obtain ⟨hd, ha⟩ := h.others id hnot
  exact ⟨h.hands w' hne.symm id hid, hd, ha⟩

/-- The steps of others leave what a worker has in hand as it is. -/
theorem Holding.rely {strict firm : Prop} {w : Nat} {ids : List Uuid} {s s' : (machine env).traced.State}
    (h : Holding strict firm w ids s) (hr : Rely w s s') : Holding strict firm w ids s' := by
  intro id hid
  obtain ⟨h₁, h₂, h₃⟩ := h id hid
  obtain ⟨h₄, h₅, h₆⟩ := hr.held id h₁
  exact ⟨h₄, fun hf hd => h₂ hf (h₅ hd), fun hst e he ha => h₃ hst e (h₆ e he ha) ha⟩

/-! ## What calls make of the outbox -/

/-- What a call of a worker makes of the outbox. -/
structure Moves (firm : Prop) (w : Nat) (s s' : State) : Prop where
  sound : s'.Sound
  rows : ∀ id ∈ s.rows.map (·.id), id ∈ s'.rows.map (·.id)
  hands : ∀ w', w' ≠ w → ∀ id, (w', id) ∈ s.inHand → (w', id) ∈ s'.inHand
  others : ∀ id, (w, id) ∉ s.inHand → Delivered s' id → Delivered s id
  stays : firm → ∀ id, Delivered s id → Delivered s' id

theorem Moves.refl {firm : Prop} {w : Nat} {s : State} (hs : s.Sound) : Moves firm w s s :=
  ⟨hs, fun _ h => h, fun _ _ _ h => h, fun _ _ h => h, fun _ _ h => h⟩

/-- A row is delivered after an update when it is another one that was, or the update delivers it. -/
theorem delivered_update {s : State} {id id' : Uuid} {u : OutboxRow → OutboxRow} (hid : ∀ row, (u row).id = row.id) :
    Delivered (s.update id u) id' ↔ if id' = id then ∃ row ∈ s.rows, row.id = id ∧ (u row).state = .delivered else Delivered s id' := by
  unfold Delivered State.update
  constructor
  · rintro ⟨row, hrow, hrid, hstate⟩
    rcases mem_updateKey.1 hrow with ⟨row₀, hrow₀, hid₀, rfl⟩ | ⟨hrow, hne⟩
    · have he : id' = id := by rw [← hrid, hid, hid₀]
      rw [if_pos he]
      exact ⟨row₀, hrow₀, hid₀, hstate⟩
    · rw [if_neg (fun he => hne (hrid.trans he))]
      exact ⟨row, hrow, hrid, hstate⟩
  · by_cases he : id' = id
    · rw [if_pos he]
      rintro ⟨row, hrow, hrid, hstate⟩
      exact ⟨u row, mem_updateKey.2 (Or.inl ⟨row, hrow, hrid, rfl⟩), by rw [hid, hrid, he], hstate⟩
    · rw [if_neg he]
      rintro ⟨row, hrow, hrid, hstate⟩
      exact ⟨row, mem_updateKey.2 (Or.inr ⟨hrow, fun h => he (hrid.symm.trans h)⟩), hrid, hstate⟩

theorem ids_update {s : State} {id : Uuid} {u : OutboxRow → OutboxRow} (hid : ∀ row, (u row).id = row.id) :
    (s.update id u).rows.map (·.id) = s.rows.map (·.id) :=
  map_updateKey (·.id) hid s.rows

/-- An update of a row in hand, that delivers it or finds it not delivered. -/
theorem moves_update {firm : Prop} {w : Nat} {s : State} (hs : s.Sound) {id : Uuid} {u : OutboxRow → OutboxRow}
    (hid : ∀ row, (u row).id = row.id) (hhand : (w, id) ∈ s.inHand)
    (hstays : (∀ row, (u row).state = .delivered) ∨ (firm → ¬ Delivered s id)) : Moves firm w s (s.update id u) := by
  refine ⟨⟨?_, ?_, hs.single⟩, ?_, fun _ _ _ h => h, ?_, ?_⟩
  · rw [ids_update hid]
    exact hs.ids
  · intro w' id' h
    rw [ids_update hid]
    exact hs.there w' id' h
  · intro id' h
    rw [ids_update hid]
    exact h
  · intro id' hnot hd
    have hne : id' ≠ id := by
      rintro rfl
      exact hnot hhand
    rw [delivered_update hid, if_neg hne] at hd
    exact hd
  · intro hfirm id' hd
    rw [delivered_update hid]
    by_cases he : id' = id
    · rw [if_pos he]
      subst he
      rcases hstays with hdelivers | hnot
      · obtain ⟨row, hrow, hrid, -⟩ := hd
        exact ⟨row, hrow, hrid, hdelivers row⟩
      · exact absurd hd (hnot hfirm)
    · rw [if_neg he]
      exact hd

/-- A worker that lets go of rows. -/
theorem Moves.release {firm : Prop} {w : Nat} {s s' : State} (h : Moves firm w s s') (keep : Nat × Uuid → Bool)
    (hkeep : ∀ w' id, w' ≠ w → keep (w', id) = true) : Moves firm w s { s' with inHand := s'.inHand.filter keep } := by
  refine ⟨⟨h.sound.ids, ?_, ?_⟩, h.rows, ?_, h.others, h.stays⟩
  · exact fun w' id hid => h.sound.there w' id (List.mem_filter.1 hid).1
  · exact fun w' w'' id hid hid' => h.sound.single w' w'' id (List.mem_filter.1 hid).1 (List.mem_filter.1 hid').1
  · exact fun w' hne id hid => List.mem_filter.2 ⟨h.hands w' hne id hid, hkeep w' id hne⟩

theorem Moves.putDown {firm : Prop} {w : Nat} {s s' : State} (h : Moves firm w s s') (id : Uuid) : Moves firm w s (s'.putDown w id) :=
  h.release _ (fun _ _ hne => decide_eq_true (fun he => hne (Prod.mk.inj he).1))

theorem Moves.leave {firm : Prop} {w : Nat} {s s' : State} (h : Moves firm w s s') : Moves firm w s (s'.leave w) :=
  h.release _ (fun _ _ hne => decide_eq_true hne)

/-- A worker that picks up rows nobody has in hand. -/
theorem Moves.pickUp {firm : Prop} {w : Nat} {s s' : State} (h : Moves firm w s s') {rows : List OutboxRow}
    (hrows : ∀ row ∈ rows, row ∈ s'.rows ∧ ∀ w', (w', row.id) ∉ s'.inHand) : Moves firm w s (s'.pickUp w rows) := by
  have hmem : ∀ {w' id}, (w', id) ∈ (s'.pickUp w rows).inHand →
      (w', id) ∈ s'.inHand ∨ (w' = w ∧ ∃ row ∈ rows, row.id = id) := by
    intro w' id hid
    rcases List.mem_append.1 hid with hid | hid
    · exact Or.inl hid
    · obtain ⟨row, hrow, he⟩ := List.mem_map.1 hid
      obtain ⟨rfl, rfl⟩ := Prod.mk.inj he
      exact Or.inr ⟨rfl, row, hrow, rfl⟩
  refine ⟨⟨h.sound.ids, ?_, ?_⟩, h.rows, fun w' hne id hid => List.mem_append_left _ (h.hands w' hne id hid), h.others, h.stays⟩
  · intro w' id hid
    rcases hmem hid with hid | ⟨-, row, hrow, rfl⟩
    · exact h.sound.there w' id hid
    · exact List.mem_map_of_mem (hrows row hrow).1
  · intro w₁ w₂ id h₁ h₂
    rcases hmem h₁ with h₁ | ⟨hw₁, row₁, hrow₁, hid₁⟩
    · rcases hmem h₂ with h₂ | ⟨hw₂, row₂, hrow₂, hid₂⟩
      · exact h.sound.single w₁ w₂ id h₁ h₂
      · exact absurd (hid₂ ▸ h₁) ((hrows row₂ hrow₂).2 w₁)
    · rcases hmem h₂ with h₂ | ⟨hw₂, -⟩
      · exact absurd (hid₁ ▸ h₂) ((hrows row₁ hrow₁).2 w₂)
      · rw [hw₁, hw₂]

/-- A row that is inserted with an id of its own and is not delivered. -/
theorem moves_insert {firm : Prop} {w : Nat} {s : State} (hs : s.Sound) {row : OutboxRow} (hid : s.rowOf row.id = none)
    (hstate : row.state ≠ .delivered) : Moves firm w s { s with rows := s.rows ++ [row] } := by
  have hfresh : ∀ y ∈ s.rows, y.id ≠ row.id := fun y hy he => List.find?_eq_none.1 hid y hy (decide_eq_true he)
  have hmore : ∀ id ∈ s.rows.map (·.id), id ∈ (s.rows ++ [row]).map (·.id) := by
    intro id h
    rw [List.map_append]
    exact List.mem_append_left _ h
  refine ⟨⟨nodup_map_concat hs.ids hfresh, fun w' id h => hmore id (hs.there w' id h), hs.single⟩, hmore, fun _ _ _ h => h, ?_, ?_⟩
  · rintro id - ⟨y, hy, hyid, hdelivered⟩
    rcases List.mem_append.1 hy with hy | hy
    · exact ⟨y, hy, hyid, hdelivered⟩
    · rw [List.mem_singleton.1 hy] at hdelivered
      exact absurd hdelivered hstate
  · rintro - id ⟨y, hy, hyid, hdelivered⟩
    exact ⟨y, List.mem_append_left _ hy, hyid, hdelivered⟩

/-- Time passes. -/
theorem moves_wait {firm : Prop} {w : Nat} {s : State} (hs : s.Sound) (now : Int) : Moves firm w s { s with now } :=
  ⟨⟨hs.ids, hs.there, hs.single⟩, fun _ h => h, fun _ _ _ h => h, fun _ _ h => h, fun _ _ h => h⟩

/-! ## The outline -/

/-- What holds in a run: of the outbox, and of the requests that were made, which were all for rows of it. -/
structure Inv (strict firm : Prop) (s : (machine env).traced.State) : Prop where
  sound : s.1.Sound
  proper : Proper strict firm s.2
  known : ∀ e ∈ s.2, ∀ id, acknowledges e = some id → id ∈ s.1.rows.map (·.id)

/-- What is proved about the workers. -/
def outline (env : Env) (strict firm : Prop) : Machine.Outline (machine env).traced where
  inv := Inv strict firm
  rely w _ := Rely w
  guar w _ := Guar firm w
  compat _ _ _ _ := True

/-- A call that is about a row in hand, and a request of a row that may be sent, keeps the contract when it moves the outbox as calls
may. -/
theorem keeps_of_moves {strict firm : Prop} {w : Nat} {c : Call} {s : (machine env).traced.State} {s' : State}
    {e : (machine env).Entry} (hinv : Inv strict firm s) (hbefore : e.before = s.1)
    (hhand : ∀ id, e.op.deliveryOf = some id → (w, id) ∈ s.1.inHand)
    (hpost : ∀ id url payload, e.op = .post id url payload → (firm → ¬ Delivered s.1 id) ∧ (strict → Unanswered s.2 id))
    (hmoves : Moves firm w s.1 s') :
    (outline env strict firm).inv (s', s.2 ++ [e]) ∧ (outline env strict firm).guar w c s (s', s.2 ++ [e]) := by
  refine ⟨⟨hmoves.sound, hinv.proper.append ?_, ?_⟩, ⟨List.prefix_append _ _, hmoves.hands, ?_, hmoves.stays, ?_⟩⟩
  · rw [hbefore]
    exact hpost
  · intro x hx id ha
    rcases List.mem_append.1 hx with hx | hx
    · exact hmoves.rows id (hinv.known x hx id ha)
    · rw [List.mem_singleton.1 hx] at ha
      exact hmoves.rows id (hinv.sound.there w id (hhand id (deliveryOf_acknowledges ha)))
  · intro id hnot
    refine ⟨hmoves.others id hnot, fun x hx ha => ?_⟩
    rcases List.mem_append.1 hx with hx | hx
    · exact hx
    · rw [List.mem_singleton.1 hx] at ha
      exact absurd (hhand id (deliveryOf_acknowledges ha)) hnot
  · intro x hx id hid
    obtain rfl := List.singleton_inj.1 (List.append_cancel_left hx)
    exact hhand id hid

end EconomicTruth

end Archisynapse
