import Archisynapse.Base.Sums
import Archisynapse.Fraud.Risk

/-!
# Requests of a key that do not overlap

While no request checks a key that another request found free and has not come to an end with, a key has at most one event and one
response (`Once`): a free key stays free until its response is stored, and a request that ends between its two commits keeps its
key from being checked again (`outline_sound`).
-/

namespace Archisynapse

namespace Fraud

variable {env : Env}

/-! ## The invariant -/

/-- No request checks a key that another request found free, unless that one stored its response or ended before its event was
committed. -/
def apart (env : Env) : (machine env).Cond where
  start _ _ := True
  step _ o s := match o with
    | .checkIdempotency scope => ∀ p ∈ s.pending, p.scope ≠ scope
    | _ => True

/-- One event and one response a key; a pending key has no response, and an event only if it is committed; and an event's key has a
response or is pending. -/
structure Once (s : World) : Prop where
  records : (s.records.map (·.1)).Nodup
  events : (s.events.filterMap (·.source)).Nodup
  distinct : (s.pending.map (·.scope)).Nodup
  free : ∀ p ∈ s.pending, p.scope ∉ s.records.map (·.1)
  unsaved : ∀ p ∈ s.pending, p.saved = false → p.scope ∉ s.events.filterMap (·.source)
  accounted : ∀ scope ∈ s.events.filterMap (·.source), scope ∈ s.records.map (·.1) ∨ ∃ p ∈ s.pending, p.scope = scope ∧ p.saved = true

theorem once_empty : Once .empty :=
  ⟨List.nodup_nil, List.nodup_nil, List.nodup_nil, by simp [World.empty], by simp [World.empty], by simp [World.empty]⟩

/-- A request that holds its key: the key is pending for the worker. -/
def Holds (w : Nat) (scope : Option Scope) (saved : Bool) (s : World) : Prop :=
  ∀ sc, scope = some sc → (⟨w, sc, saved⟩ : Pending) ∈ s.pending

/-- What other workers hold is kept, and so are the responses. -/
def Rely (w : Nat) (s s' : World) : Prop :=
  (∀ p ∈ s.pending, p.worker = w → p ∈ s'.pending) ∧ ∀ r ∈ s.records, r ∈ s'.records

/-- A step of a worker: the others may rely on it, and responses stay. -/
def Guar (w : Nat) (s s' : World) : Prop := (∀ w', w' ≠ w → Rely w' s s') ∧ s.records <+: s'.records

theorem guar_refl (w : Nat) (s : World) : Guar w s s := ⟨fun _ _ => ⟨fun _ h _ => h, fun _ h => h⟩, List.prefix_refl _⟩

theorem Holds.rely {w : Nat} {scope : Option Scope} {saved : Bool} {s s' : World} (h : Holds w scope saved s)
    (hr : Rely w s s') : Holds w scope saved s' := fun sc hsc => hr.1 _ (h sc hsc) rfl

/-- The response of a key that has one. -/
theorem World.record_mem {s : World} {scope : Scope} {a : RiskDecisionOut} (h : s.record scope = some a) :
    (scope, a) ∈ s.records := by
  obtain ⟨r, hr, rfl⟩ := Option.map_eq_some_iff.1 h
  have hscope := List.find?_some hr
  rw [decide_eq_true_eq] at hscope
  exact hscope ▸ List.mem_of_find?_eq_some hr

theorem World.record_none {s : World} {scope : Scope} (h : s.record scope = none) : scope ∉ s.records.map (·.1) := by
  intro hmem
  obtain ⟨r, hr, rfl⟩ := List.mem_map.1 hmem
  have hnone := List.find?_eq_none.1 (Option.map_eq_none_iff.1 h) r hr
  exact hnone (decide_eq_true rfl)

/-! ## One step -/

/-- A worker that ends. -/
theorem Once.settle {s : World} (h : Once s) (w : Nat) : Once (s.settle w) ∧ Guar w s (s.settle w) := by
  refine ⟨⟨h.records, h.events, h.distinct.sublist (List.filter_sublist.map _), fun p hp => h.free p (List.mem_of_mem_filter hp),
    fun p hp => h.unsaved p (List.mem_of_mem_filter hp), fun scope hscope => ?_⟩, fun w' hne => ⟨fun p hp hw => ?_, fun r hr => hr⟩,
    List.prefix_refl _⟩
  · rcases h.accounted scope hscope with hrec | ⟨p, hp, hps, hsaved⟩
    · exact Or.inl hrec
    · exact Or.inr ⟨p, List.mem_filter.2 ⟨hp, by simp [hsaved]⟩, hps, hsaved⟩
  · exact List.mem_filter.2 ⟨hp, by simp [hw, hne]⟩

/-- A step that failed. -/
theorem exec_fails {w : Nat} {o : Action} {ch : Choice} {e : String} {s s' : World} {r : Except String o.Result}
    (hf : ch.fails = some e) (h : exec w o ch s = some (r, s')) : r = .error e ∧ s' = s.settle w := by
  unfold exec at h
  rw [hf] at h
  cases h
  exact ⟨rfl, rfl⟩

/-- A check that meets the condition. -/
theorem exec_check {w : Nat} {scope : Scope} {ch : Choice} {s s' : World} {r : Except String (Option RiskDecisionOut)}
    (h : exec w (.checkIdempotency scope) ch s = some (r, s')) (hs : Once s) (hcond : ∀ p ∈ s.pending, p.scope ≠ scope) :
    Once s' ∧ Guar w s s' ∧ ((∃ e, r = .error e) ∨ (∃ a, r = .ok (some a) ∧ (scope, a) ∈ s'.records) ∨
      (r = .ok none ∧ Holds w (some scope) false s')) := by
  cases hf : ch.fails with
  | some e =>
    obtain ⟨rfl, rfl⟩ := exec_fails hf h
    obtain ⟨hinv, hguar⟩ := hs.settle w
    exact ⟨hinv, hguar, Or.inl ⟨e, rfl⟩⟩
  | none =>
    unfold exec at h
    rw [hf] at h
    dsimp only at h
    cases hrec : s.record scope with
    | some a =>
      rw [hrec] at h
      cases h
      exact ⟨hs, guar_refl w s, Or.inr (Or.inl ⟨a, rfl, s.record_mem hrec⟩)⟩
    | none =>
      rw [hrec] at h
      cases h
      have hfree := s.record_none hrec
      -- an event of the key would have a response, or be pending
      have hevents : scope ∉ s.events.filterMap (·.source) := by
        intro hmem
        rcases hs.accounted scope hmem with h | ⟨p, hp, hps, -⟩
        · exact hfree h
        · exact hcond p hp hps
      refine ⟨⟨hs.records, hs.events, nodup_map_concat hs.distinct hcond, fun p hp => ?_, fun p hp hsaved => ?_,
          fun sc hsc => ?_⟩, ⟨fun w' _ => ⟨fun p hp _ => List.mem_append_left _ hp, fun r hr => hr⟩, List.prefix_refl _⟩,
        Or.inr (Or.inr ⟨rfl, fun sc hsc => ?_⟩)⟩
      · rcases List.mem_append.1 hp with hp | hp
        · exact hs.free p hp
        · rw [List.mem_singleton.1 hp]
          exact hfree
      · rcases List.mem_append.1 hp with hp | hp
        · exact hs.unsaved p hp hsaved
        · rw [List.mem_singleton.1 hp]
          exact hevents
      · rcases hs.accounted sc hsc with h | ⟨p, hp, hps⟩
        · exact Or.inl h
        · exact Or.inr ⟨p, List.mem_append_left _ hp, hps⟩
      · cases hsc
        exact List.mem_append_right _ (List.mem_singleton_self _)

/-- A step that leaves the tables as they are. -/
def Action.Reads : Action → Prop
  | .utcnow => True
  | .count _ => True
  | .refresh => True
  | _ => False

theorem exec_reads {w : Nat} {o : Action} {ch : Choice} {s s' : World} {r : Except String o.Result} (ho : o.Reads)
    (h : exec w o ch s = some (r, s')) (hs : Once s) : Once s' ∧ Guar w s s' ∧ (r.isOk = true → s' = s) := by
  cases hf : ch.fails with
  | some e =>
    obtain ⟨rfl, rfl⟩ := exec_fails hf h
    obtain ⟨hinv, hguar⟩ := hs.settle w
    exact ⟨hinv, hguar, fun hr => by cases hr⟩
  | none =>
    unfold exec at h
    rw [hf] at h
    cases o with
    | utcnow =>
      cases h
      exact ⟨hs, guar_refl w s, fun _ => rfl⟩
    | count filter =>
      cases h
      exact ⟨hs, guar_refl w s, fun _ => rfl⟩
    | refresh =>
      cases h
      exact ⟨hs, guar_refl w s, fun _ => rfl⟩
    | checkIdempotency scope => exact ho.elim
    | saveEvent event => exact ho.elim
    | storeIdempotency scope response => exact ho.elim

/-- The keys of the events after one more. -/
theorem filterMap_concat (events : List FraudEvent) (event : FraudEvent) :
    (events ++ [event]).filterMap (·.source) = events.filterMap (·.source) ++ event.source.toList := by
  rw [List.filterMap_append]
  cases hs : event.source with
  | none => simp [hs]
  | some sc => simp [hs]

/-- A committed event of a request without a key. -/
theorem Once.save_none {s : World} (h : Once s) (w : Nat) {event : FraudEvent} (hsource : event.source = none) :
    Once (s.save w event) ∧ Guar w s (s.save w event) := by
  have hpending : (s.save w event).pending = s.pending := by
    refine (List.map_congr_left fun p _ => if_neg ?_).trans (List.map_id _)
    rw [hsource]
    exact fun h => by cases h.2
  have hevents : (s.save w event).events.filterMap (·.source) = s.events.filterMap (·.source) := by
    refine (filterMap_concat s.events event).trans ?_
    rw [hsource]
    exact List.append_nil _
  refine ⟨⟨h.records, hevents.symm ▸ h.events, hpending.symm ▸ h.distinct, hpending.symm ▸ h.free, ?_, ?_⟩,
    fun w' _ => ⟨fun p hp _ => hpending.symm ▸ hp, fun r hr => hr⟩, List.prefix_refl _⟩
  · rw [hpending, hevents]
    exact h.unsaved
  · rw [hpending, hevents]
    exact h.accounted

/-- The committed event of a request that holds its key. -/
theorem Once.save_some {s : World} {event : FraudEvent} {sc : Scope} (h : Once s) {w : Nat} (hsource : event.source = some sc)
    (hhold : (⟨w, sc, false⟩ : Pending) ∈ s.pending) :
    Once (s.save w event) ∧ Guar w s (s.save w event) ∧ (⟨w, sc, true⟩ : Pending) ∈ (s.save w event).pending := by
  have hevents : (s.save w event).events.filterMap (·.source) = s.events.filterMap (·.source) ++ [sc] := by
    refine (filterMap_concat s.events event).trans ?_
    rw [hsource]
    rfl
  have hscopes : (s.save w event).pending.map (·.scope) = s.pending.map (·.scope) := by
    refine (List.map_map ..).trans (List.map_congr_left fun p _ => ?_)
    dsimp only [Function.comp]
    split <;> rfl
  -- what a pending request became
  have hmem : ∀ {p : Pending}, p ∈ (s.save w event).pending → ∃ q ∈ s.pending, q.scope = p.scope ∧
      (p.saved = false → p = q ∧ ¬ (q.worker = w ∧ q.scope = sc)) := by
    intro p hp
    obtain ⟨q, hq, rfl⟩ := List.mem_map.1 hp
    rw [hsource]
    refine ⟨q, hq, ?_, fun hsaved => ?_⟩
    · split <;> rfl
    · split at hsaved
      · cases hsaved
      · rename_i hne
        exact ⟨if_neg hne, fun h => hne ⟨h.1, congrArg some h.2⟩⟩
  have hsavedMem : (⟨w, sc, true⟩ : Pending) ∈ (s.save w event).pending := by
    refine List.mem_map.2 ⟨_, hhold, if_pos ⟨rfl, hsource.symm⟩⟩
  refine ⟨⟨h.records, ?_, hscopes.symm ▸ h.distinct, fun p hp => ?_, fun p hp hsaved => ?_, fun scope hscope => ?_⟩,
    ⟨fun w' hne => ⟨fun p hp hw => ?_, fun r hr => hr⟩, List.prefix_refl _⟩, hsavedMem⟩
  · rw [hevents]
    refine List.nodup_append'.2 ⟨h.events, List.nodup_singleton _, fun x hx hx' => ?_⟩
    rw [List.mem_singleton.1 hx'] at hx
    exact h.unsaved _ hhold rfl hx
  · obtain ⟨q, hq, hqs, -⟩ := hmem hp
    exact hqs ▸ h.free q hq
  · obtain ⟨q, hq, -, hsame⟩ := hmem hp
    obtain ⟨rfl, hne⟩ := hsame hsaved
    rw [hevents]
    intro hx
    rcases List.mem_append.1 hx with hx | hx
    · exact h.unsaved p hq hsaved hx
    · -- another pending request of the key would be this one
      have heq := List.inj_on_of_nodup_map h.distinct hq hhold (List.mem_singleton.1 hx)
      rw [heq] at hne
      exact hne ⟨rfl, rfl⟩
  · rw [hevents] at hscope
    rcases List.mem_append.1 hscope with hx | hx
    · rcases h.accounted scope hx with hrec | ⟨p, hp, hps, hsaved⟩
      · exact Or.inl hrec
      · refine Or.inr ⟨_, List.mem_map_of_mem hp, ?_, ?_⟩
        · split
          · exact hps
          · exact hps
        · split
          · rfl
          · exact hsaved
    · exact Or.inr ⟨_, hsavedMem, (List.mem_singleton.1 hx).symm, rfl⟩
  · refine List.mem_map.2 ⟨p, hp, if_neg fun h => hne (hw.symm.trans h.1)⟩

/-- The commit of an event, of a request that holds its key. -/
theorem exec_saveEvent {w : Nat} {event : FraudEvent} {ch : Choice} {s s' : World} {r : Except String Unit}
    (h : exec w (.saveEvent event) ch s = some (r, s')) (hs : Once s) (hhold : Holds w event.source false s) :
    Once s' ∧ Guar w s s' ∧ (r.isOk = true → Holds w event.source true s') := by
  cases hf : ch.fails with
  | some e =>
    obtain ⟨rfl, rfl⟩ := exec_fails hf h
    obtain ⟨hinv, hguar⟩ := hs.settle w
    exact ⟨hinv, hguar, fun hr => by cases hr⟩
  | none =>
    unfold exec at h
    rw [hf] at h
    cases h
    rcases Option.eq_none_or_eq_some event.source with hsource | ⟨sc, hsource⟩
    · have hsaved : ({ event with createdAt := ch.now } : FraudEvent).source = none := hsource
      obtain ⟨hinv, hguar⟩ := hs.save_none w hsaved
      refine ⟨hinv, hguar, fun _ sc hsc => ?_⟩
      rw [hsource] at hsc
      cases hsc
    · have hsaved : ({ event with createdAt := ch.now } : FraudEvent).source = some sc := hsource
      obtain ⟨hinv, hguar, hmem⟩ := hs.save_some hsaved (hhold sc hsource)
      refine ⟨hinv, hguar, fun _ sc' hsc => ?_⟩
      rw [hsource] at hsc
      cases hsc
      exact hmem

/-- The commit of a response, of a request whose event is committed. -/
theorem exec_store {w : Nat} {scope : Scope} {response : RiskDecisionOut} {ch : Choice} {s s' : World} {r : Except String Unit}
    (h : exec w (.storeIdempotency scope response) ch s = some (r, s')) (hs : Once s) (hhold : Holds w (some scope) true s) :
    Once s' ∧ Guar w s s' ∧ (r.isOk = true → (scope, response) ∈ s'.records) := by
  cases hf : ch.fails with
  | some e =>
    obtain ⟨rfl, rfl⟩ := exec_fails hf h
    obtain ⟨hinv, hguar⟩ := hs.settle w
    exact ⟨hinv, hguar, fun hr => by cases hr⟩
  | none =>
    unfold exec at h
    rw [hf] at h
    cases h
    have hheld := hhold scope rfl
    refine ⟨⟨?_, hs.events, hs.distinct.sublist (List.filter_sublist.map _), fun p hp hx => ?_,
        fun p hp => hs.unsaved p (List.mem_of_mem_filter hp), fun sc hsc => ?_⟩,
      ⟨fun w' hne => ⟨fun p hp hw => ?_, fun r hr => List.mem_append_left _ hr⟩, List.prefix_append _ _⟩,
      fun _ => List.mem_append_right _ (List.mem_singleton_self _)⟩
    · exact nodup_map_concat hs.records fun r hr heq => hs.free _ hheld (List.mem_map.2 ⟨r, hr, heq⟩)
    · obtain ⟨hp, hne⟩ := List.mem_filter.1 hp
      rw [World.store, List.map_append] at hx
      rcases List.mem_append.1 hx with hx | hx
      · exact hs.free p hp hx
      · have heq := List.inj_on_of_nodup_map hs.distinct hp hheld (List.mem_singleton.1 hx)
        rw [heq] at hne
        simp at hne
    · rw [World.store, List.map_append]
      rcases hs.accounted sc hsc with hrec | ⟨p, hp, hps, hsaved⟩
      · exact Or.inl (List.mem_append_left _ hrec)
      · by_cases hsame : p.worker = w ∧ p.scope = scope
        · refine Or.inl (List.mem_append_right _ ?_)
          rw [← hps, hsame.2]
          exact List.mem_singleton_self _
        · exact Or.inr ⟨p, List.mem_filter.2 ⟨hp, by rw [decide_eq_false hsame]; rfl⟩, hps, hsaved⟩
    · refine List.mem_filter.2 ⟨hp, ?_⟩
      simp [hw, hne]

/-! ## Requests -/

/-- The outline of the requests. -/
def outline (env : Env) : Machine.Outline (machine env) where
  inv := Once
  rely w _ := Rely w
  guar w _ := Guar w
  compat _ _ _ _ := True
  post _ request r s := ∀ a sc, r = .ok a → request.scope = some sc → (sc, a) ∈ s.records

/-- The contract of a worker. -/
def contract (w : Nat) : Contract World := ⟨Once, Rely w, Guar w⟩

/-- What a worker's step may do. -/
abbrev Does (env : Env) (w : Nat) := Machine.Does (machine env) (apart env) w

section

variable {w : Nat} {s : World} {scope : Option Scope}

/-- A step that leaves the tables as they are, of a request that holds its key. -/
theorem step_reads {o : Action} (ho : o.Reads) {saved : Bool} (hs : Holds w scope saved s) :
    (step o).wp (Does env w) (contract w) (Prog.Returning (fun _ => Holds w scope saved)) s := by
  refine (Prog.wp_perform (S := signature) o s).2 ?_
  intro s₁ hrely hinv r s₂ hdoes
  obtain ⟨-, ch, he⟩ := hdoes
  obtain ⟨hinv₂, hguar, hsame⟩ := exec_reads ho he hinv
  refine ⟨hinv₂, hguar, ?_⟩
  cases r with
  | error e => exact trivial
  | ok a =>
    obtain rfl := hsame rfl
    exact hs.rely hrely

theorem countIf_keeps (value : Option String) (filter : String → FraudEvent → Bool) (hs : Holds w scope false s) :
    (countIf value filter).wp (Does env w) (contract w) (Prog.Returning (fun _ => Holds w scope false)) s := by
  cases value with
  | none => exact hs
  | some value => exact step_reads (o := .count _) trivial hs

theorem calculateCheckoutRisk_keeps (event : CheckoutRiskIn) (merchantId : String) (hs : Holds w scope false s) :
    (calculateCheckoutRisk env event merchantId).wp (Does env w) (contract w)
      (Prog.Returning (fun _ => Holds w scope false)) s := by
  unfold calculateCheckoutRisk
  refine Prog.wp_then (step_reads (o := .utcnow) trivial hs) fun now s hs => ?_
  refine Prog.wp_then (countIf_keeps _ _ hs) fun deviceFailures s hs => ?_
  refine Prog.wp_then (countIf_keeps _ _ hs) fun ipAttempts s hs => ?_
  refine Prog.wp_then (countIf_keeps _ _ hs) fun emailFailures s hs => ?_
  refine Prog.wp_then (countIf_keeps _ _ hs) fun binFailures s hs => ?_
  refine Prog.wp_then (countIf_keeps _ _ hs) fun sessionAttempts s hs => ?_
  exact hs

theorem calculateRoyaltyRisk_keeps (event : RoyaltyRiskIn) (merchantId : String) (hs : Holds w scope false s) :
    (calculateRoyaltyRisk env event merchantId).wp (Does env w) (contract w)
      (Prog.Returning (fun _ => Holds w scope false)) s := by
  unfold calculateRoyaltyRisk
  refine Prog.wp_then (step_reads (o := .utcnow) trivial hs) fun now s hs => ?_
  refine Prog.wp_then (countIf_keeps _ _ hs) fun creatorPayoutRequests s hs => ?_
  refine Prog.wp_then (countIf_keeps _ _ hs) fun payoutDestinationEvents s hs => ?_
  refine Prog.wp_then (countIf_keeps _ _ hs) fun riskyDeviceEvents s hs => ?_
  refine Prog.wp_then (countIf_keeps _ _ hs) fun riskyEmailEvents s hs => ?_
  exact hs

/-- What a check found: a response that is stored, or a key that the request then holds. -/
def Checked (w : Nat) (scope : Option Scope) (found : Option RiskDecisionOut) (s : World) : Prop :=
  match found with
  | some a => ∀ sc, scope = some sc → (sc, a) ∈ s.records
  | none => Holds w scope false s

theorem checkIdempotency_keeps :
    (checkIdempotency scope).wp (Does env w) (contract w) (Prog.Returning (Checked w scope)) s := by
  cases scope with
  | none =>
    intro sc hsc
    cases hsc
  | some sc =>
    refine (Prog.wp_perform (S := signature) (.checkIdempotency sc) s).2 ?_
    intro s₁ hrely hinv r s₂ hdoes
    obtain ⟨hcond, ch, he⟩ := hdoes
    obtain ⟨hinv₂, hguar, hr⟩ := exec_check he hinv hcond
    refine ⟨hinv₂, hguar, ?_⟩
    rcases hr with ⟨e, rfl⟩ | ⟨a, rfl, hmem⟩ | ⟨rfl, hhold⟩
    · exact trivial
    · intro sc' hsc
      cases hsc
      exact hmem
    · exact hhold

/-- The commit of an event and the read that follows it, of a request that holds its key. -/
theorem saveEvent_keeps {event : FraudEvent} (hevent : event.source = scope) (hs : Holds w scope false s) :
    (saveEvent event).wp (Does env w) (contract w) (Prog.Returning (fun _ => Holds w scope true)) s := by
  have hcommit : (step (.saveEvent event)).wp (Does env w) (contract w) (Prog.Returning (fun _ => Holds w scope true)) s := by
    refine (Prog.wp_perform (S := signature) (.saveEvent event) s).2 ?_
    intro s₁ hrely hinv r s₂ hdoes
    obtain ⟨-, ch, he⟩ := hdoes
    obtain ⟨hinv₂, hguar, hok⟩ := exec_saveEvent he hinv (hevent.symm ▸ hs.rely hrely)
    refine ⟨hinv₂, hguar, ?_⟩
    cases r with
    | error e => exact trivial
    | ok a => exact hevent ▸ hok rfl
  exact Prog.wp_then hcommit fun _ s hs => step_reads (o := .refresh) trivial hs

/-- A request whose score keeps what it holds, and whose event is its key's, leaves its response stored. -/
theorem decideOnce_keeps {calculate : Program RiskDecisionOut} {eventOf : RiskDecisionOut → FraudEvent}
    (hcalc : ∀ s, Holds w scope false s →
      calculate.wp (Does env w) (contract w) (Prog.Returning (fun _ => Holds w scope false)) s)
    (hevent : ∀ response, (eventOf response).source = scope) :
    (decideOnce scope calculate eventOf).wp (Does env w) (contract w)
      (Prog.Returning (fun a s => ∀ sc, scope = some sc → (sc, a) ∈ s.records)) s := by
  unfold decideOnce
  refine Prog.wp_then checkIdempotency_keeps fun found s hfound => ?_
  cases found with
  | some cached => exact hfound
  | none =>
    refine Prog.wp_then (hcalc s hfound) fun response s hs => ?_
    refine Prog.wp_then (saveEvent_keeps (hevent response) hs) fun _ s hs => ?_
    cases scope with
    | none =>
      intro sc hsc
      cases hsc
    | some sc =>
      refine (Prog.wp_bind _ _ _).2 ((Prog.wp_perform (S := signature) (.storeIdempotency sc response) s).2 ?_)
      intro s₁ hrely hinv r s₂ hdoes
      obtain ⟨-, ch, he⟩ := hdoes
      obtain ⟨hinv₂, hguar, hok⟩ := exec_store he hinv (hs.rely hrely)
      refine ⟨hinv₂, hguar, ?_⟩
      cases r with
      | error e => exact trivial
      | ok a =>
        intro sc' hsc
        cases hsc
        exact hok rfl

/-- A request leaves its response stored under its key. -/
theorem program_keeps (request : Request) :
    (request.program env).wp (Does env w) (contract w)
      (Prog.Returning (fun a s => ∀ sc, request.scope = some sc → (sc, a) ∈ s.records)) s := by
  cases request with
  | checkout merchantId event idempotencyKey =>
    exact decideOnce_keeps (fun s hs => calculateCheckoutRisk_keeps event merchantId hs) (fun _ => rfl)
  | royalty merchantId event idempotencyKey =>
    exact decideOnce_keeps (fun s hs => calculateRoyaltyRisk_keeps event merchantId hs) (fun _ => rfl)

end

/-- Requests of a key that do not overlap keep one event and one response a key. -/
theorem outline_sound (env : Env) : (outline env).Sound (apart env) where
  refl _ _ _ := ⟨fun _ h _ => h, fun _ h => h⟩
  trans _ _ _ _ _ h h' := ⟨fun p hp hw => h'.1 p (h.1 p hp hw) hw, fun r hr => h'.2 r (h.2 r hr)⟩
  symm _ _ _ _ _ := trivial
  guar _ _ w' _ _ _ hne _ _ h := h.1 w' hne.symm
  start cfg request _ _ := by
    refine ⟨fun _ _ => trivial, Prog.wp_mono (fun r s h => ?_) _ (program_keeps (w := cfg.started) request)⟩
    intro a sc hr hsc
    subst hr
    exact h sc hsc
  crash w _ hs := ⟨(hs.settle w).1, fun w' _ hne => (hs.settle w).2.1 w' hne⟩

/-- Responses stay stored. -/
theorem run_records {cfg cfg' : (machine env).Config}
    (hrun : (machine env).Run (apart env) (.init (machine env) .empty) cfg) (hrun' : (machine env).Run (apart env) cfg cfg') :
    cfg.state.records <+: cfg'.state.records :=
  (outline_sound env).run_moves (R := fun s s' => s.records <+: s'.records) (fun _ => List.prefix_refl _)
    (fun _ _ _ h h' => h.trans h') (fun _ _ _ _ _ h => h.2) (fun _ _ _ => List.prefix_refl _) once_empty hrun hrun'

end Fraud

end Archisynapse
