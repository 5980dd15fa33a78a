import Archisynapse.Lemmas.GatewayStore

/-!
# Runs of the payment route

Any number of payment requests at once, each of whose steps may fail and each of which may stall and crash. While event ids are
drawn once only and `fail_idempotency` finds its row open (`openFailures`), every request keeps the tables in order and leaves
COMPLETED rows and stored receipts alone (`outline_sound`), and what it returns is the stored receipt of the row's event.
-/

namespace Archisynapse

namespace Gateway

variable {config : StoreConfig} {env : Env}

/-! ## One call -/

/-- The calls that write no table. -/
def Quiet : Action → Prop
  | .claimIdempotency _ _ _ => False
  | .saveReceipt _ _ _ _ => False
  | .completeIdempotency _ _ _ => False
  | .failIdempotency _ _ _ => False
  | _ => True

/-- A call was made and answered, was made and lost its answer, or was not made. -/
theorem exec_cases {o : Action} {ch : Choice} {s s' : State} {r : Except GatewayError o.Result}
    (h : exec config o ch s = some (r, s')) :
    (r, s') = s.perform config ch o ∨ ∃ e, r = .error e ∧ (s' = s ∨ s' = (s.perform config ch o).2) := by
  unfold exec at h
  split at h
  · exact Or.inl (Option.some.inj h).symm
  · cases h
    exact Or.inr ⟨_, rfl, Or.inl rfl⟩
  · cases h
    exact Or.inr ⟨_, rfl, Or.inr rfl⟩

/-- A call that writes no table leaves the tables. -/
theorem perform_quiet {o : Action} (ho : Quiet o) (ch : Choice) (s : State) : (s.perform config ch o).2.tables = s.tables := by
  cases o with
  | claimIdempotency m k h => exact ho.elim
  | saveReceipt m k h p => exact ho.elim
  | completeIdempotency m k e => exact ho.elim
  | failIdempotency m k reason => exact ho.elim
  | pushRecoveryItem file event => cases file <;> rfl
  | removeRecoveryItem file correlationId => cases file <;> rfl
  | _ => rfl

theorem exec_quiet {o : Action} (ho : Quiet o) {ch : Choice} {s s' : State} {r : Except GatewayError o.Result}
    (h : exec config o ch s = some (r, s')) : s'.tables = s.tables := by
  rcases exec_cases h with h | ⟨e, -, rfl | rfl⟩
  · rw [(Prod.mk.inj h).2]
    exact perform_quiet ho ch s
  · rfl
  · exact perform_quiet ho ch s

/-- A claim, whether it is answered or not. -/
theorem exec_claim {m k h : String} {ch : Choice} {s s' : State} {r : Except GatewayError IdempotencyClaim}
    (he : exec config (.claimIdempotency m k h) ch s = some (r, s')) :
    ∃ r', ClaimEffect s.tables m k h r' s'.tables ∧ ∀ a, r = .ok a → r' = r := by
  have heffect := s.tables.claimIdempotency_effect ch.now m k h
  have hcases : (r, s') = s.store (s.tables.claimIdempotency ch.now m k h) ∨
      ∃ e, r = .error e ∧ (s' = s ∨ s' = (s.store (s.tables.claimIdempotency ch.now m k h)).2) := exec_cases he
  generalize (s.tables.claimIdempotency ch.now m k h) = a at heffect hcases
  rcases hcases with hr | ⟨e, rfl, rfl | rfl⟩
  · obtain ⟨rfl, rfl⟩ := Prod.mk.inj hr
    exact ⟨_, heffect, fun _ _ => rfl⟩
  · exact ⟨_, .refused e, fun _ _ => rfl⟩
  · exact ⟨_, heffect, fun _ h => by cases h⟩

/-- A receipt of an event that has none is stored, whether this is answered or not. -/
theorem exec_save {m k h : String} {p : StoredPayload} {ch : Choice} {s s' : State} {r : Except GatewayError Unit}
    (hnew : ∀ r ∈ s.tables.receipts, r.eventId ≠ p.receipt.eventId)
    (he : exec config (.saveReceipt m k h p) ch s = some (r, s')) :
    ∃ r', SaveEffect s.tables m k h p r' s'.tables ∧ ∀ a, r = .ok a → r' = r := by
  have heffect := Tables.saveReceipt_effect config m k h hnew
  have hcases : (r, s') = s.store (s.tables.saveReceipt config m k h p) ∨
      ∃ e, r = .error e ∧ (s' = s ∨ s' = (s.store (s.tables.saveReceipt config m k h p)).2) := exec_cases he
  generalize (s.tables.saveReceipt config m k h p) = a at heffect hcases
  rcases hcases with hr | ⟨e, rfl, rfl | rfl⟩
  · obtain ⟨rfl, rfl⟩ := Prod.mk.inj hr
    exact ⟨_, heffect, fun _ _ => rfl⟩
  · exact ⟨_, .refused e, fun _ _ => rfl⟩
  · exact ⟨_, heffect, fun _ h => by cases h⟩

/-- A key is completed, whether this is answered or not. -/
theorem exec_complete {m k e : String} {ch : Choice} {s s' : State} {r : Except GatewayError Unit}
    (he : exec config (.completeIdempotency m k e) ch s = some (r, s')) :
    ∃ r', CompleteEffect s.tables m k e r' s'.tables ∧ ∀ a, r = .ok a → r' = r := by
  have heffect := s.tables.completeIdempotency_effect config m k e
  have hcases : (r, s') = s.store (s.tables.completeIdempotency config m k e) ∨
      ∃ err, r = .error err ∧ (s' = s ∨ s' = (s.store (s.tables.completeIdempotency config m k e)).2) := exec_cases he
  generalize (s.tables.completeIdempotency config m k e) = a at heffect hcases
  rcases hcases with hr | ⟨e, rfl, rfl | rfl⟩
  · obtain ⟨rfl, rfl⟩ := Prod.mk.inj hr
    exact ⟨_, heffect, fun _ _ => rfl⟩
  · exact ⟨_, .refused e, fun _ _ => rfl⟩
  · exact ⟨_, heffect, fun _ h => by cases h⟩

/-- A key is failed or left alone. -/
theorem exec_fail {m k reason : String} {ch : Choice} {s s' : State} {r : Except GatewayError Unit}
    (he : exec config (.failIdempotency m k reason) ch s = some (r, s')) :
    s' = s ∨ s'.tables = s.tables.failIdempotency m k reason := by
  rcases exec_cases he with hr | ⟨e, -, rfl | rfl⟩
  · rw [(Prod.mk.inj hr).2]
    exact Or.inr rfl
  · exact Or.inl rfl
  · exact Or.inr rfl

/-! ## The outline -/

/-- No receipt is stored for an event. -/
def Tables.Fresh (d : Tables) (eventId : String) : Prop := ∀ r ∈ d.receipts, r.eventId ≠ eventId

/-- The runs in which event ids are drawn once only, and in which `fail_idempotency` does not find its row COMPLETED. -/
def openFailures (config : StoreConfig) (env : Env) : (machine config env).Cond where
  start cfg c := cfg.state.tables.Fresh c.draws.eventId ∧ ∀ x ∈ cfg.live, c.draws.eventId ≠ x.call.draws.eventId
  step _ o s := match o with
    | .failIdempotency m k _ => ∀ row, s.tables.idempotencyOf m k = some row → row.status ≠ .completed
    | _ => True

/-- What a request counts on. -/
structure Rely (c : PaymentCall) (s s' : State) : Prop where
  keeps : s.tables.Keeps s'.tables
  others : ∀ r ∈ s'.tables.receipts, r ∈ s.tables.receipts ∨ r.eventId ≠ c.draws.eventId

/-- What a request leaves to the others. -/
structure Guar (c : PaymentCall) (s s' : State) : Prop where
  keeps : s.tables.Keeps s'.tables
  own : ∀ r ∈ s'.tables.receipts, r ∈ s.tables.receipts ∨ r.eventId = c.draws.eventId

theorem Rely.refl (c : PaymentCall) (s : State) : Rely c s s := ⟨.refl _, fun _ hr => Or.inl hr⟩

theorem Rely.trans {c : PaymentCall} {s s' s'' : State} (h : Rely c s s') (h' : Rely c s' s'') : Rely c s s'' := by
  refine ⟨h.keeps.trans h'.keeps, fun r hr => ?_⟩
  rcases h'.others r hr with hr | hr
  · exact h.others r hr
  · exact Or.inr hr

theorem Guar.of_eq (c : PaymentCall) {s s' : State} (h : s'.tables = s.tables) : Guar c s s' := by
  refine ⟨?_, fun r hr => Or.inl ?_⟩
  · rw [h]
    exact .refl _
  · rwa [h] at hr

/-- A key is COMPLETED with an event, for a request's hash. -/
def Done (env : Env) (c : PaymentCall) (eventId : String) (d : Tables) : Prop :=
  ∃ row, d.idempotencyOf c.merchantId c.idempotencyKey = some row ∧ row.requestHash = c.hash env ∧ row.status = .completed ∧
    row.eventId = some eventId

/-- A key has a row for a request's hash. -/
def Held (env : Env) (c : PaymentCall) (d : Tables) : Prop :=
  ∃ row, d.idempotencyOf c.merchantId c.idempotencyKey = some row ∧ row.requestHash = c.hash env

/-- A receipt is stored for a request's event. -/
def Stored (c : PaymentCall) (receipt : UnifiedReceipt) (d : Tables) : Prop :=
  ∃ r ∈ d.receipts, r.eventId = receipt.eventId ∧ r.key = (c.merchantId, c.idempotencyKey) ∧ r.payload.receipt = receipt

/-- What a response says: the key is COMPLETED with the receipt's event, and the receipt is the one stored for it. -/
def Answered (env : Env) (c : PaymentCall) (receipt : UnifiedReceipt) (d : Tables) : Prop :=
  Done env c receipt.eventId d ∧ ∃ payload, d.getReceipt c.merchantId receipt.eventId = some payload ∧ payload.receipt = receipt

theorem Done.keeps {c : PaymentCall} {e : String} {d d' : Tables} (h : Done env c e d) (hk : d.Keeps d') : Done env c e d' := by
  obtain ⟨row, hrow, hhash, hstatus, hevent⟩ := h
  obtain ⟨row', hrow', hhash', hdone⟩ := hk.records _ _ row hrow
  obtain ⟨hstatus', hevent'⟩ := hdone hstatus
  exact ⟨row', hrow', hhash'.trans hhash, hstatus', hevent'.trans hevent⟩

theorem Held.keeps {c : PaymentCall} {d d' : Tables} (h : Held env c d) (hk : d.Keeps d') : Held env c d' := by
  obtain ⟨row, hrow, hhash⟩ := h
  obtain ⟨row', hrow', hhash', -⟩ := hk.records _ _ row hrow
  exact ⟨row', hrow', hhash'.trans hhash⟩

theorem Stored.keeps {c : PaymentCall} {receipt : UnifiedReceipt} {d d' : Tables} (h : Stored c receipt d) (hk : d.Keeps d') :
    Stored c receipt d' := by
  obtain ⟨r, hr, h⟩ := h
  exact ⟨r, hk.receipts r hr, h⟩

theorem Fresh.rely {c : PaymentCall} {s s' : State} (h : s.tables.Fresh c.draws.eventId) (hr : Rely c s s') :
    s'.tables.Fresh c.draws.eventId := by
  intro r hmem
  rcases hr.others r hmem with hmem | hne
  · exact h r hmem
  · exact hne

/-- A key that is COMPLETED with the event of a stored receipt is answered for with that receipt. -/
theorem Done.answered {c : PaymentCall} {receipt : UnifiedReceipt} {d : Tables} (h : Done env c receipt.eventId d) (hd : d.Sound)
    (hs : Stored c receipt d) : Answered env c receipt d := by
  obtain ⟨r, hr, hevent, hkey, hreceipt⟩ := hs
  have hget := hd.getReceipt hr
  rw [hevent, (Prod.mk.inj hkey).1] at hget
  exact ⟨h, r.payload, hget, hreceipt⟩

/-- A key that is COMPLETED has the receipt of its event stored. -/
theorem Done.stored {c : PaymentCall} {e : String} {d : Tables} (h : Done env c e d) (hd : d.Sound) :
    ∃ r ∈ d.receipts, r.eventId = e ∧ r.key = (c.merchantId, c.idempotencyKey) ∧ r.payload.receipt.eventId = e := by
  obtain ⟨row, hrow, -, -, hevent⟩ := h
  obtain ⟨r, hr, he, hkey⟩ := hd.named _ _ row e hrow hevent
  exact ⟨r, hr, he, hkey, (hd.own r hr).trans he⟩

/-- What holds when a request has ended. -/
def Post (env : Env) (c : PaymentCall) (out : Except GatewayError UnifiedReceipt) (s : State) : Prop :=
  ∀ receipt, out = .ok receipt → Answered env c receipt s.tables

/-- The outline of runs of the route. -/
def outline (config : StoreConfig) (env : Env) : Machine.Outline (machine config env) where
  inv s := s.tables.Sound
  rely _ := Rely
  guar _ := Guar
  compat _ c _ c' := c.draws.eventId ≠ c'.draws.eventId
  post _ := Post env

/-! ## The steps of a request -/

section

variable {w : Nat} {c : PaymentCall} {s : State}

/-- The calls of a request in a run under the condition. -/
abbrev Does (config : StoreConfig) (env : Env) (w : Nat) := (machine config env).Does (openFailures config env) w

/-- The contract of a request. -/
abbrev contract (config : StoreConfig) (env : Env) (w : Nat) (c : PaymentCall) := (outline config env).contract w c

/-- One call. -/
theorem call_wp {o : Action} {Q : Except GatewayError o.Result → State → Prop}
    (h : ∀ s₁, Rely c s s₁ → s₁.tables.Sound → (openFailures config env).step w o s₁ → ∀ ch r s₂,
      exec config o ch s₁ = some (r, s₂) → s₂.tables.Sound ∧ Guar c s₁ s₂ ∧ Q r s₂) :
    (step o).wp (Does config env w) (contract config env w c) Q s := by
  unfold step
  rw [Prog.wp_perform]
  rintro s₁ hrely hinv r s₂ ⟨hstep, ch, he⟩
  exact h s₁ hrely hinv hstep ch r s₂ he

/-- The claim: a request that finds its key COMPLETED knows with which event; another one holds a row of its hash. -/
theorem claim_wp (hfresh : s.tables.Fresh c.draws.eventId) :
    (step (.claimIdempotency c.merchantId c.idempotencyKey (c.hash env))).wp (Does config env w) (contract config env w c)
      (fun r s' => s'.tables.Fresh c.draws.eventId ∧ ∀ claim, r = .ok claim →
        (claim.state = .replay → ∃ e, claim.eventId = some e ∧ Done env c e s'.tables) ∧
        (claim.state ≠ .replay → Held env c s'.tables)) s := by
  refine call_wp (fun s₁ hrely hinv _ ch r s₂ he => ?_)
  obtain ⟨r', heffect, hr⟩ := exec_claim he
  obtain ⟨hsound, hkeeps, hreceipts⟩ := heffect.keeps hinv
  refine ⟨hsound, ⟨hkeeps, fun r hr => Or.inl (by rwa [hreceipts] at hr)⟩, ?_, fun claim hclaim => ?_⟩
  · intro r hr
    rw [hreceipts] at hr
    exact Fresh.rely hfresh hrely r hr
  · have hclaim' : r' = .ok claim := (hr claim hclaim).trans hclaim
    generalize s₂.tables = d at *
    cases heffect with
    | refused e => cases hclaim'
    | replay row hrow hhash hstatus =>
      cases hclaim'
      refine ⟨fun _ => ?_, fun hne => absurd rfl hne⟩
      obtain ⟨e, hevent⟩ := Option.isSome_iff_exists.1 (hinv.completed _ _ row hrow hstatus)
      exact ⟨e, hevent, row, hrow, hhash, hstatus, hevent⟩
    | new stored now hkey hstored hnone =>
      cases hclaim'
      obtain rfl := varchar_of_trimmed c.trimmed hstored
      refine ⟨fun hne => (nomatch hne), fun _ =>
        ⟨⟨c.merchantId, c.idempotencyKey, c.hash env, .processing, none, none, now⟩, ?_, rfl⟩⟩
      rw [Tables.idempotencyOf_insert, hnone]
      exact if_pos rfl
    | taken state row u hrow hhash hstatus hstate hu =>
      cases hclaim'
      exact ⟨fun hs => absurd hs hstate, fun _ => ⟨u row, Tables.idempotencyOf_updated hu.key hrow, (hu.hash row).trans hhash⟩⟩

/-- A call that writes no table. -/
theorem quiet_wp {o : Action} (ho : Quiet o) {F : Tables → Prop} (hF : ∀ s₁, Rely c s s₁ → F s₁.tables) :
    (step o).wp (Does config env w) (contract config env w c) (fun _ s' => F s'.tables) s := by
  refine call_wp (fun s₁ hrely hinv _ ch r s₂ he => ?_)
  have htables := exec_quiet ho he
  refine ⟨by rw [htables]; exact hinv, .of_eq c htables, ?_⟩
  rw [htables]
  exact hF s₁ hrely

/-- The receipt of a key that is COMPLETED. -/
theorem replayReceipt_wp {e : String} (hdone : Done env c e s.tables) :
    (replayReceipt c.merchantId (some e)).wp (Does config env w) (contract config env w c) (Post env c) s := by
  unfold replayReceipt
  simp only
  rw [Prog.wp_bind]
  refine call_wp (fun s₁ hrely hinv _ ch r s₂ he => ?_)
  have htables := exec_quiet (o := .getReceipt c.merchantId e) trivial he
  refine ⟨by rw [htables]; exact hinv, .of_eq c htables, ?_⟩
  have hdone' := hdone.keeps hrely.keeps
  obtain ⟨row, hrow, hevent, hkey, hown⟩ := hdone'.stored hinv
  have hget : s₁.tables.getReceipt c.merchantId e = some row.payload := by
    rw [← (Prod.mk.inj hkey).1, ← hevent]
    exact hinv.getReceipt hrow
  rcases exec_cases he with hr | ⟨err, rfl, -⟩
  · obtain ⟨rfl, rfl⟩ := Prod.mk.inj hr
    simp only [hget]
    intro receipt hreceipt
    cases hreceipt
    rw [← hown] at hdone' hget
    exact ⟨hdone', row.payload, hget, rfl⟩
  · intro receipt hreceipt
    cases hreceipt

/-- Failing the key: the condition says that it is open. -/
theorem fail_wp (reason : String) :
    (step (.failIdempotency c.merchantId c.idempotencyKey reason)).wp (Does config env w) (contract config env w c)
      (fun _ _ => True) s := by
  refine call_wp (fun s₁ hrely hinv hopen ch r s₂ he => ?_)
  rcases exec_fail he with rfl | htables
  · exact ⟨hinv, .of_eq c rfl, trivial⟩
  · obtain ⟨hsound, hkeeps⟩ := Tables.failIdempotency_keeps hinv reason hopen
    refine ⟨by rw [htables]; exact hsound, ⟨by rw [htables]; exact hkeeps, fun r hr => Or.inl ?_⟩, trivial⟩
    rw [htables] at hr
    exact hr

theorem workFailed_wp (e : GatewayError) :
    (workFailed c e).wp (Does config env w) (contract config env w c) (Post env c) s := by
  have hpost : ∀ (err : GatewayError) (s : State), Post env c (.error err) s := fun _ _ _ h => by cases h
  cases e with
  | http statusCode detail => exact hpost _ _
  | _ =>
    unfold workFailed
    rw [Prog.wp_bind]
    refine Prog.wp_mono (fun r s' _ => ?_) _ (fail_wp _)
    cases r with
    | ok _ => exact hpost _ _
    | error err => exact hpost _ _

/-- Storing the receipt of a request's own event. -/
theorem save_wp {receipt : UnifiedReceipt} (hevent : receipt.eventId = c.draws.eventId)
    (hfresh : s.tables.Fresh c.draws.eventId) (hheld : Held env c s.tables) :
    (step (.saveReceipt c.merchantId c.idempotencyKey (c.hash env) (env.attach receipt))).wp (Does config env w)
      (contract config env w c) (fun r s' => r = .ok () → Held env c s'.tables ∧ Stored c receipt s'.tables) s := by
  refine call_wp (fun s₁ hrely hinv _ ch r s₂ he => ?_)
  have hnew : ∀ r ∈ s₁.tables.receipts, r.eventId ≠ (env.attach receipt).receipt.eventId := by
    intro r hr
    have := Fresh.rely hfresh hrely r hr
    rwa [← hevent] at this
  obtain ⟨r', heffect, hr⟩ := exec_save hnew he
  obtain ⟨hsound, hkeeps, -, hadded⟩ := heffect.keeps hinv hnew
  refine ⟨hsound, ⟨hkeeps, fun r hr => ?_⟩, fun hok => ⟨(hheld.keeps hrely.keeps).keeps hkeeps, ?_⟩⟩
  · rcases hadded r hr with hr | hr
    · exact Or.inl hr
    · exact Or.inr (hr.trans hevent)
  · have hok' : r' = .ok () := (hr () hok).trans hok
    generalize s₂.tables = d at *
    cases heffect with
    | refused e => cases hok'
    | added stored hstored hkey =>
      obtain rfl := varchar_of_trimmed c.trimmed hstored
      exact ⟨_, List.mem_append_right _ (List.mem_singleton_self _), rfl, rfl, rfl⟩

/-- Completing the key with a stored receipt. -/
theorem complete_wp {receipt : UnifiedReceipt} (hheld : Held env c s.tables) (hstored : Stored c receipt s.tables) :
    (step (.completeIdempotency c.merchantId c.idempotencyKey receipt.eventId)).wp (Does config env w) (contract config env w c)
      (fun r s' => r = .ok () → Answered env c receipt s'.tables) s := by
  refine call_wp (fun s₁ hrely hinv _ ch r s₂ he => ?_)
  obtain ⟨r', heffect, hr⟩ := exec_complete he
  have hheld' := hheld.keeps hrely.keeps
  have hstored' := hstored.keeps hrely.keeps
  obtain ⟨row, hrow, hevent, hkey, -⟩ := id hstored'
  obtain ⟨hsound, hkeeps, hreceipts⟩ := heffect.keeps hinv hrow hevent hkey
  refine ⟨hsound, ⟨hkeeps, fun r hr => Or.inl (by rwa [hreceipts] at hr)⟩, fun hok => ?_⟩
  refine Done.answered ?_ hsound (hstored'.keeps hkeeps)
  have hok' : r' = .ok () := (hr () hok).trans hok
  obtain ⟨held, hfound, hhash⟩ := hheld'
  generalize s₂.tables = d at *
  cases heffect with
  | refused e => cases hok'
  | missing hnone =>
    rw [hfound] at hnone
    cases hnone
  | completed row' hrow' r₁ hr₁ =>
    exact ⟨_, Tables.idempotencyOf_updated (fun _ => rfl) hfound, hhash, rfl, rfl⟩

/-! ## The loop -/

theorem gives_attempt {β : Type} {P : Action → Prop} {R : β → Prop} {o : Action} {f : Except GatewayError o.Result → Program β}
    (ho : P o) (hf : ∀ r, (f r).Gives P R) : (attempt o >>= f).Gives P R := ⟨ho, fun r => hf r⟩

/-- What tells an event: its ids, who pays whom, and how much. -/
structure EventIdentity where
  eventId : String
  correlationId : String
  merchantId : String
  idempotencyKey : String
  customerId : String
  amountMinor : Int
  currency : String
  deriving DecidableEq

def CanonicalEvent.identity (e : CanonicalEvent) : EventIdentity :=
  ⟨e.eventId, e.correlationId, e.merchantId, e.idempotencyKey, e.customerId, e.amountMinor, e.currency⟩

/-- Two states of one event. -/
def CanonicalEvent.Same (a b : CanonicalEvent) : Prop := b.identity = a.identity

theorem CanonicalEvent.Same.trans {a b c : CanonicalEvent} (h : a.Same b) (h' : b.Same c) : a.Same c := Eq.trans h' h

theorem CanonicalEvent.Same.eventId {a b : CanonicalEvent} (h : a.Same b) : b.eventId = a.eventId :=
  congrArg EventIdentity.eventId h

theorem CanonicalEvent.Same.correlationId {a b : CanonicalEvent} (h : a.Same b) : b.correlationId = a.correlationId :=
  congrArg EventIdentity.correlationId h

theorem CanonicalEvent.Same.amountMinor {a b : CanonicalEvent} (h : a.Same b) : b.amountMinor = a.amountMinor :=
  congrArg EventIdentity.amountMinor h

/-- The calls made for an event: they write no table, and what they queue, dequeue and record is that event; in the ledger's queue
it has no ledger transaction. -/
def Serves (event : CanonicalEvent) : Action → Prop
  | .pushRecoveryItem file e => event.Same e ∧ (file = .ledger → (truthy e.ledgerTransactionId).isNone)
  | .removeRecoveryItem _ correlationId => correlationId = event.correlationId
  | .recordTransaction req => req.eventId = event.eventId
  | o => Quiet o

theorem Serves.quiet {event : CanonicalEvent} {o : Action} (h : Serves event o) : Quiet o := by
  cases o with
  | claimIdempotency m k hash => exact h
  | saveReceipt m k hash p => exact h
  | completeIdempotency m k e => exact h
  | failIdempotency m k reason => exact h
  | _ => trivial

theorem Serves.of_same {a b : CanonicalEvent} (h : a.Same b) {o : Action} (ho : Serves b o) : Serves a o := by
  cases o with
  | pushRecoveryItem file e => exact ⟨h.trans ho.1, ho.2⟩
  | removeRecoveryItem file correlationId => exact Eq.trans ho h.correlationId
  | recordTransaction req => exact Eq.trans ho h.eventId
  | _ => exact ho

/-- The calls of the steps before analytics. -/
def Unrecorded : Action → Prop
  | .recordTransaction _ => False
  | _ => True

/-- A step of the loop serves its event. -/
def Follows (stage : Stage) (event : CanonicalEvent) : Prop := stage.Gives (Serves event) (fun a => event.Same a.1)

/-- A step of the loop serves its event and leaves its record in analytics. -/
def Prepares (stage : Stage) (event : CanonicalEvent) : Prop :=
  stage.Gives (fun o => Serves event o ∧ Unrecorded o)
    (fun a => event.Same a.1 ∧ a.1.analyticsRecorded = event.analyticsRecorded)

theorem Prepares.follows {stage : Stage} {event : CanonicalEvent} (h : Prepares stage event) : Follows stage event :=
  Prog.Gives.mono h (fun _ ho => ho.1) (fun _ ha => ha.1)

theorem follows_andThen {stage : Stage} {next : CanonicalEvent → Stage} {event : CanonicalEvent} (hs : Follows stage event)
    (hn : ∀ e, event.Same e → Follows (next e) e) : Follows (andThen stage next) event := by
  refine Prog.gives_bind hs ?_
  rintro ⟨e, raised⟩ he
  cases raised with
  | none => exact (hn e he).mono (fun _ => .of_same he) (fun _ => he.trans)
  | some err => exact he

theorem prepares_checkFraud (event : CanonicalEvent) (apiKey : Option String) :
    Prepares (checkFraud env event apiKey) event := by
  refine gives_attempt ⟨trivial, trivial⟩ (fun r => ?_)
  split
  · split
    · split <;> exact ⟨rfl, rfl⟩
    · exact ⟨rfl, rfl⟩
  · exact ⟨rfl, rfl⟩
  · exact ⟨rfl, rfl⟩

theorem prepares_processTransaction (event : CanonicalEvent) (req : PaymentCreateRequest) :
    Prepares (processTransaction env event req) event := by
  refine gives_attempt ⟨trivial, trivial⟩ (fun r => ?_)
  split
  · split
    · split <;> exact ⟨rfl, rfl⟩
    · exact ⟨rfl, rfl⟩
  · exact ⟨rfl, rfl⟩
  · exact ⟨rfl, rfl⟩

theorem follows_recover {o : Action} {event event' : CanonicalEvent} (ho : Serves event o) (h : event.Same event') :
    (recover o event').Gives (Serves event) (fun a => event.Same a.1) := by
  refine gives_attempt ho (fun r => ?_)
  cases r <;> exact h

theorem prepares_recover {o : Action} {event event' : CanonicalEvent} (ho : Serves event o) (hu : Unrecorded o)
    (h : event.Same event') (hrecorded : event'.analyticsRecorded = event.analyticsRecorded) :
    (recover o event').Gives (fun o => Serves event o ∧ Unrecorded o)
      (fun a => event.Same a.1 ∧ a.1.analyticsRecorded = event.analyticsRecorded) := by
  refine gives_attempt ⟨ho, hu⟩ (fun r => ?_)
  cases r <;> exact ⟨h, hrecorded⟩

theorem prepares_queueLedgerRecovery {event : CanonicalEvent} (h : (truthy event.ledgerTransactionId).isNone) (error : String) :
    Prepares (queueLedgerRecovery event error) event := prepares_recover ⟨rfl, fun _ => h⟩ trivial rfl rfl

theorem follows_queueAnalyticsRecovery (event : CanonicalEvent) (error : String) :
    Follows (queueAnalyticsRecovery event error) event := follows_recover ⟨rfl, fun h => nomatch h⟩ rfl

theorem prepares_reconcileMissingLedger {event : CanonicalEvent} (h : (truthy event.ledgerTransactionId).isNone) :
    Prepares (reconcileMissingLedger event) event := by
  refine gives_attempt ⟨trivial, trivial⟩ (fun r => ?_)
  split
  · split
    · split
      · split
        · exact prepares_recover (o := .removeRecoveryItem .ledger event.correlationId) rfl trivial rfl rfl
        · exact prepares_queueLedgerRecovery h _
      · exact ⟨rfl, rfl⟩
    · exact prepares_queueLedgerRecovery h _
  · exact prepares_queueLedgerRecovery h _
  · exact ⟨rfl, rfl⟩

theorem follows_recordAnalytics (event : CanonicalEvent) (apiKey : Option String) :
    Follows (recordAnalytics env event apiKey) event := by
  refine gives_attempt rfl (fun r => ?_)
  split
  · split
    · split
      · exact follows_recover (o := .removeRecoveryItem .analytics event.correlationId) rfl rfl
      · rfl
    · exact follows_queueAnalyticsRecovery event _
  · exact follows_queueAnalyticsRecovery event _
  · rfl

theorem follows_finishWithAnalytics (event : CanonicalEvent) (apiKey : Option String) :
    Follows (finishWithAnalytics env event apiKey) event := by
  refine follows_andThen (follows_recordAnalytics event apiKey) (fun e _ => ?_)
  split
  · rfl
  · rfl

theorem follows_afterTransaction (event : CanonicalEvent) (apiKey : Option String) :
    Follows (afterTransaction env event apiKey) event := by
  unfold afterTransaction
  split
  · split
    · exact follows_finishWithAnalytics event apiKey
    · rename_i hmissing
      have hnone : (truthy event.ledgerTransactionId).isNone := Option.isNone_iff_eq_none.2 (Option.not_isSome_iff_eq_none.1 hmissing)
      refine follows_andThen (prepares_reconcileMissingLedger hnone).follows (fun e _ => ?_)
      split
      · exact follows_finishWithAnalytics e apiKey
      · rfl
  · rfl

theorem follows_afterFraud (event : CanonicalEvent) (req : PaymentCreateRequest) (credentials : ServiceCredentials) :
    Follows (afterFraud env event req credentials) event := by
  unfold afterFraud
  split
  · exact follows_andThen (prepares_processTransaction event req).follows (fun e _ => follows_afterTransaction e _)
  · split
    · rfl
    · rfl

/-- An amount of no cents is refused before the loop. -/
theorem processPayment_throws (draws : Draws) (m k : String) {req : PaymentCreateRequest} (credentials : ServiceCredentials)
    (h : env.dollarsToMinor req.amount ≤ 0) :
    processPayment env draws m k req credentials =
      Prog.throw (GatewayError.raised "ValidationError" "amount_minor must be positive") :=
  if_pos h

/-- The loop serves the event of its request, and returns a receipt of it whatever the services answer. -/
theorem processPayment_follows (draws : Draws) (m k : String) {req : PaymentCreateRequest} (credentials : ServiceCredentials)
    (h : 0 < env.dollarsToMinor req.amount) :
    (processPayment env draws m k req credentials).Gives (Serves (.ofRequest env draws m k req))
      (fun receipt => receipt.eventId = draws.eventId) := by
  have hpos : ¬ (CanonicalEvent.ofRequest env draws m k req).amountMinor ≤ 0 := not_le.2 h
  unfold processPayment
  simp only
  rw [if_neg hpos]
  refine Prog.gives_bind (follows_andThen (prepares_checkFraud _ _).follows (fun e _ => follows_afterFraud e req credentials)) ?_
  rintro ⟨event, raised⟩ hevent
  cases raised with
  | none => exact hevent.eventId
  | some err => exact hevent.eventId

/-- The loop makes quiet calls and returns, whatever the services answer, a receipt of the event that was drawn. -/
theorem processPayment_gives (draws : Draws) (m k : String) {req : PaymentCreateRequest} (credentials : ServiceCredentials)
    (h : 0 < env.dollarsToMinor req.amount) :
    (processPayment env draws m k req credentials).Gives Quiet (fun receipt => receipt.eventId = draws.eventId) :=
  (processPayment_follows draws m k credentials h).mono (fun _ => Serves.quiet) (fun _ hr => hr)

/-! ## Requests -/

/-- The work of a request that holds the claim. -/
theorem work_wp (hfresh : s.tables.Fresh c.draws.eventId) (hheld : Held env c s.tables) :
    (work env c).wp (Does config env w) (contract config env w c)
      (fun r s' => ∀ receipt, r = .ok receipt → Answered env c receipt s'.tables) s := by
  unfold work
  rw [Prog.wp_bind]
  refine Prog.wp_mono ?_ _ (quiet_wp (o := .getServiceCredentials c.merchantId) trivial
    (F := fun d => d.Fresh c.draws.eventId ∧ Held env c d)
    (fun s₁ hrely => ⟨Fresh.rely hfresh hrely, hheld.keeps hrely.keeps⟩))
  rintro (err | credentials) s₁ ⟨hfresh, hheld⟩
  · intro receipt hreceipt
    cases hreceipt
  simp only
  rw [Prog.wp_bind]
  by_cases hpos : env.dollarsToMinor c.request.amount ≤ 0
  · rw [processPayment_throws _ _ _ _ hpos]
    intro receipt hreceipt
    cases hreceipt
  -- the loop leaves the tables, so that only the others have moved them when it ends
  have hloop := (processPayment_gives c.draws c.merchantId c.idempotencyKey credentials (not_le.1 hpos)).wp
    (E := Does config env w) (C := contract config env w c) (M := Rely c) (fun _ _ _ => Rely.trans)
    (fun o s r s' ho hinv hdoes => by
      obtain ⟨-, ch, he⟩ := hdoes
      have htables : s'.tables = s.tables := exec_quiet ho he
      have hinv' : s'.tables.Sound := by
        rw [htables]
        exact hinv
      refine ⟨hinv', Guar.of_eq c htables, fun a ha => ⟨?_, fun r hr => ha.others r ?_⟩⟩
      · rw [htables]
        exact ha.keeps
      · rwa [htables] at hr) (Rely.refl c s₁)
  refine Prog.wp_mono ?_ _ hloop
  rintro _ s₂ ⟨hrely, receipt, rfl, hgives⟩
  simp only
  rw [Prog.wp_bind]
  refine Prog.wp_mono ?_ _ (save_wp hgives (Fresh.rely hfresh hrely) (hheld.keeps hrely.keeps))
  rintro (err | ⟨⟩) s₃ hsaved
  · intro receipt hreceipt
    cases hreceipt
  obtain ⟨hheld, hstored⟩ := hsaved rfl
  simp only
  rw [Prog.wp_bind]
  refine Prog.wp_mono ?_ _ (complete_wp hheld hstored)
  rintro (err | ⟨⟩) s₄ hanswered receipt' hreceipt
  · cases hreceipt
  · cases hreceipt
    exact hanswered rfl

/-- A request keeps its contract. -/
theorem processPaymentRoute_wp (hfresh : s.tables.Fresh c.draws.eventId) :
    (processPaymentRoute env c).wp (Does config env w) (contract config env w c) (Post env c) s := by
  unfold processPaymentRoute
  rw [Prog.wp_bind, Prog.wp_tryCatch]
  refine Prog.wp_mono ?_ _ (claim_wp hfresh)
  rintro (err | claim) s₁ ⟨hfresh, hclaim⟩
  · intro receipt hreceipt
    cases hreceipt
  obtain ⟨hreplay, hheld⟩ := hclaim claim rfl
  simp only
  split
  · rename_i hstate
    obtain ⟨e, hevent, hdone⟩ := hreplay hstate
    rw [hevent]
    exact replayReceipt_wp hdone
  · rename_i hstate
    rw [Prog.wp_tryCatch]
    refine Prog.wp_mono ?_ _ (work_wp hfresh (hheld hstate))
    rintro (err | receipt) s₂ hwork
    · exact workFailed_wp err
    · exact fun receipt' h => hwork receipt' h

end

/-- The outline is sound. -/
theorem outline_sound (config : StoreConfig) (env : Env) : (outline config env).Sound (openFailures config env) where
  refl _ c s := Rely.refl c s
  trans _ _ _ _ _ h h' := h.trans h'
  symm _ _ _ _ h := h.symm
  guar _ _ _ _ _ _ _ hcompat _ hguar := by
    refine ⟨hguar.keeps, fun r hr => ?_⟩
    rcases hguar.own r hr with hr | hr
    · exact Or.inl hr
    · exact Or.inr (hr ▸ hcompat)
  start cfg c _ hc := ⟨hc.2, processPaymentRoute_wp hc.1⟩
  crash _ s hinv := ⟨hinv, fun _ c _ => Rely.refl c s⟩

end Gateway

end Archisynapse
