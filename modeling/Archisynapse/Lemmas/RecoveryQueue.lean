import Archisynapse.Lemmas.Recovery

/-!
# Whose items leave a recovery queue

A recovery queue is changed for an event under the event's correlation id, the hash of five of its fields joined with colons
(`route_made`, `replay_made`). A change keeps the items of other ids (`QueueChange.apply_keeps`); where no two requests with different
fields have the same joined text, other fields mean another id (`event_apart`). Texts without a colon before the last one are joined
without loss (`PaymentFields.content_inj`).
-/

namespace Archisynapse

/-- A list is split at the first occurrence of an item in one way. -/
theorem split_first {α : Type} {a : α} {l l' r r' : List α} (hl : a ∉ l) (hl' : a ∉ l') (h : l ++ a :: r = l' ++ a :: r') :
    l = l' ∧ r = r' := by
  induction l generalizing l' with
  | nil =>
    cases l' with
    | nil => exact ⟨rfl, (List.cons.inj h).2⟩
    | cons x l' => exact absurd (List.mem_cons.2 (Or.inl (List.cons.inj h).1)) hl'
  | cons x l ih =>
    cases l' with
    | nil => exact absurd (List.mem_cons.2 (Or.inl (List.cons.inj h).1.symm)) hl
    | cons x' l' =>
      obtain ⟨rfl, htail⟩ := List.cons.inj h
      obtain ⟨rfl, hr⟩ := ih (fun hmem => hl (List.mem_cons_of_mem x hmem)) (fun hmem => hl' (List.mem_cons_of_mem x hmem)) htail
      exact ⟨rfl, hr⟩

/-- The characters of an integer's text are digits, or a sign before them. -/
theorem mem_intText {n : Int} {c : Char} (h : c ∈ (toString n).toList) : c.isDigit = true ∨ c = '-' := by
  rw [Int.toString_eq_repr, Int.repr_eq_if] at h
  split at h
  · rw [Nat.toList_repr] at h
    exact Or.inl (Nat.isDigit_of_mem_toDigits (by decide) (by decide) h)
  · rw [String.toList_append, Nat.toList_repr] at h
    rcases List.mem_append.1 h with h | h
    · exact Or.inr (List.mem_singleton.1 h)
    · exact Or.inl (Nat.isDigit_of_mem_toDigits (by decide) (by decide) h)

/-- Two numbers with the same digits are the same. -/
theorem natText_inj {n m : Nat} (h : n.repr = m.repr) : n = m := by
  have hdigits : Nat.toDigits 10 n = Nat.toDigits 10 m := by
    rw [← Nat.toList_repr, ← Nat.toList_repr, h]
  rw [← Nat.ofDigitChars_ten_toDigits (n := n), hdigits, Nat.ofDigitChars_ten_toDigits]

/-- A natural number's text does not begin with a sign. -/
theorem natText_ne_signed (n : Nat) (text : String) : n.repr ≠ "-" ++ text := by
  intro h
  have hsign : '-' ∈ n.repr.toList := by
    rw [h, String.toList_append]
    exact List.mem_append_left _ (List.mem_singleton_self _)
  rw [Nat.toList_repr] at hsign
  exact absurd (Nat.isDigit_of_mem_toDigits (by decide) (by decide) hsign) (by decide)

/-- Two integers with the same text are the same. -/
theorem intText_inj {n m : Int} (h : toString n = toString m) : n = m := by
  rw [Int.toString_eq_repr, Int.toString_eq_repr, Int.repr_eq_if, Int.repr_eq_if] at h
  split at h
  · split at h
    · have := natText_inj h
      omega
    · exact absurd h (natText_ne_signed _ _)
  · split at h
    · exact absurd h.symm (natText_ne_signed _ _)
    · have := natText_inj (String.append_right_inj "-" |>.1 h)
      omega

namespace Gateway

variable {env : Env}

/-! ## Changes of a queue -/

/-- A change of a recovery queue. -/
inductive QueueChange where
  | push (event : CanonicalEvent)
  | remove (correlationId : String)

/-- `push_recovery_item` and `remove_recovery_item` -/
def QueueChange.apply (queue : List CanonicalEvent) : QueueChange → List CanonicalEvent
  | .push event => withoutEvent event.correlationId queue ++ [event]
  | .remove correlationId => withoutEvent correlationId queue

/-- The call that makes a change. -/
def QueueChange.action (file : RecoveryFile) : QueueChange → Action
  | .push event => .pushRecoveryItem file event
  | .remove correlationId => .removeRecoveryItem file correlationId

/-- The call makes the change. -/
theorem perform_change (config : StoreConfig) (s : State) (ch : Choice) (file : RecoveryFile) (x : QueueChange) :
    (s.perform config ch (x.action file)).2 = s.rewrite file (fun q => x.apply q) := by
  cases x <;> rfl

/-- The id under which a change is made. -/
def QueueChange.id : QueueChange → String
  | .push event => event.correlationId
  | .remove correlationId => correlationId

/-- A change keeps the items of other ids. -/
theorem QueueChange.apply_keeps {queue : List CanonicalEvent} {e : CanonicalEvent} (h : e ∈ queue) {x : QueueChange}
    (hx : e.correlationId ≠ x.id) : e ∈ x.apply queue := by
  cases x with
  | push event => exact List.mem_append_left _ (mem_withoutEvent.2 ⟨h, hx⟩)
  | remove correlationId => exact mem_withoutEvent.2 ⟨h, hx⟩

/-- Changes under other ids keep an item. -/
theorem changes_keep {queue : List CanonicalEvent} {e : CanonicalEvent} (h : e ∈ queue) {xs : List QueueChange}
    (hxs : ∀ x ∈ xs, e.correlationId ≠ x.id) : e ∈ xs.foldl QueueChange.apply queue := by
  induction xs generalizing queue with
  | nil => exact h
  | cons x xs ih =>
    exact ih (QueueChange.apply_keeps h (hxs x List.mem_cons_self)) (fun y hy => hxs y (List.mem_cons_of_mem x hy))

/-! ## Changes made for a request -/

/-- The event of a request, as the orchestrator starts it. -/
def PaymentCall.event (env : Env) (c : PaymentCall) : CanonicalEvent :=
  .ofRequest env c.draws c.merchantId c.idempotencyKey c.request

/-- A change is made for a request: it pushes the request's event or removes the event's item. -/
def QueueChange.MadeFor (env : Env) (c : PaymentCall) : QueueChange → Prop
  | .push event => (c.event env).Same event
  | .remove correlationId => correlationId = (c.event env).correlationId

theorem QueueChange.MadeFor.id {c : PaymentCall} {x : QueueChange} (h : x.MadeFor env c) : x.id = (c.event env).correlationId := by
  cases x with
  | push event => exact CanonicalEvent.Same.correlationId h
  | remove correlationId => exact h

theorem madeFor_of_serves {c : PaymentCall} {file : RecoveryFile} {x : QueueChange} (h : Serves (c.event env) (x.action file)) :
    x.MadeFor env c := by
  cases x with
  | push event => exact h.1
  | remove correlationId => exact h

/-- Every change that a request makes is made for it. -/
theorem route_made (c : PaymentCall) :
    (processPaymentRoute env c).Calls (fun o => ∀ file (x : QueueChange), o = x.action file → x.MadeFor env c) := by
  refine route_calls c (fun o ho file x hx => ?_) (fun file x hx => ?_) (fun _ file x hx => ?_) (fun _ file x hx => ?_)
    (fun _ file x hx => ?_)
  · rw [hx] at ho
    exact madeFor_of_serves ho
  all_goals cases x <;> cases hx

/-- Every change that a replay of the ledger's queue makes is made for a request whose event is in it. -/
theorem replayLedger_made (keys : AnalyticsKeys) {R : PaymentCall → Prop} {q : List CanonicalEvent}
    (hq : ∀ e ∈ q, (truthy e.ledgerTransactionId).isNone ∧ ∃ c, R c ∧ (c.event env).Same e) :
    (replayLedger env keys q).Calls (fun o => ∀ file (x : QueueChange), o = x.action file → ∃ c, R c ∧ x.MadeFor env c) := by
  induction q with
  | nil => exact Prog.calls_pure _
  | cons event q ih =>
    obtain ⟨hnone, c, hc, hsame⟩ := hq event List.mem_cons_self
    have hserves : ∀ e, event.Same e → ∀ o, Serves e o → ∀ file (x : QueueChange), o = x.action file →
        ∃ c, R c ∧ x.MadeFor env c := by
      rintro e he _ ho file x rfl
      exact ⟨c, hc, madeFor_of_serves (Serves.of_same (hsame.trans he) ho)⟩
    have hrest := ih (fun e he => hq e (List.mem_cons_of_mem event he))
    unfold replayLedger
    refine Prog.Gives.calls_bind ((prepares_reconcileMissingLedger hnone).follows.mono (hserves event rfl) (fun _ ha => ha)) ?_
    rintro ⟨e, _ | err⟩ he
    · dsimp only
      refine Prog.calls_ite ?_ hrest
      refine Prog.Gives.calls_bind ((follows_recordAnalytics e _).mono (hserves e he) (fun _ ha => ha)) ?_
      rintro ⟨e', _ | err⟩ he'
      · refine Prog.calls_bind (Prog.calls_perform (hserves e he (.removeRecoveryItem .ledger e.correlationId) rfl)) (fun _ => ?_)
        exact Prog.calls_bind hrest (fun _ => Prog.calls_pure _)
      · exact Prog.calls_throw _
    · exact Prog.calls_throw _

/-- Every change that a replay of the queue of analytics makes is made for a request whose event is in it. -/
theorem replayAnalytics_made (keys : AnalyticsKeys) {R : PaymentCall → Prop} {q : List CanonicalEvent}
    (hq : ∀ e ∈ q, ∃ c, R c ∧ (c.event env).Same e) :
    (replayAnalytics env keys q).Calls (fun o => ∀ file (x : QueueChange), o = x.action file → ∃ c, R c ∧ x.MadeFor env c) := by
  induction q with
  | nil => exact Prog.calls_pure _
  | cons event q ih =>
    obtain ⟨c, hc, hsame⟩ := hq event List.mem_cons_self
    have hserves : ∀ e, event.Same e → ∀ o, Serves e o → ∀ file (x : QueueChange), o = x.action file →
        ∃ c, R c ∧ x.MadeFor env c := by
      rintro e he _ ho file x rfl
      exact ⟨c, hc, madeFor_of_serves (Serves.of_same (hsame.trans he) ho)⟩
    have hrest := ih (fun e he => hq e (List.mem_cons_of_mem event he))
    unfold replayAnalytics
    refine Prog.Gives.calls_bind ((follows_recordAnalytics event _).mono (hserves event rfl) (fun _ ha => ha)) ?_
    rintro ⟨e, _ | err⟩ he
    · dsimp only
      refine Prog.calls_ite ?_ hrest
      refine Prog.calls_bind (Prog.calls_perform (hserves e he (.removeRecoveryItem .analytics e.correlationId) rfl)) (fun _ => ?_)
      exact Prog.calls_bind hrest (fun _ => Prog.calls_pure _)
    · exact Prog.calls_throw _

/-! ## The fields of an event -/

/-- The five fields that tell the items of a queue apart. -/
structure PaymentFields where
  merchantId : String
  customerId : String
  amountMinor : Int
  currency : String
  idempotencyKey : String
  deriving DecidableEq

/-- The fields of a request's event. -/
def PaymentCall.fields (env : Env) (c : PaymentCall) : PaymentFields :=
  ⟨c.merchantId, c.request.customerId, env.dollarsToMinor c.request.amount, c.request.currency, c.idempotencyKey⟩

/-- The text that is hashed. -/
def PaymentFields.content (f : PaymentFields) : String :=
  correlationContent f.merchantId f.customerId f.amountMinor f.currency f.idempotencyKey

theorem event_correlationId (env : Env) (c : PaymentCall) :
    (c.event env).correlationId = "corr_" ++ env.correlationHash (c.fields env).content := rfl

/-- Requests whose texts differ have events of different ids. -/
theorem event_apart (hinj : Function.Injective env.correlationHash) {c d : PaymentCall}
    (h : (c.fields env).content ≠ (d.fields env).content) : (c.event env).correlationId ≠ (d.event env).correlationId := by
  rw [event_correlationId, event_correlationId]
  exact fun he => h (hinj ((String.append_right_inj "corr_").1 he))

/-- No colon stands before the last colon that joins the fields. -/
def PaymentFields.ColonFree (f : PaymentFields) : Prop :=
  ':' ∉ f.merchantId.toList ∧ ':' ∉ f.customerId.toList ∧ ':' ∉ f.currency.toList

/-- The text of fields, as characters. -/
theorem PaymentFields.content_chars (f : PaymentFields) :
    f.content.toList = f.merchantId.toList ++ ':' :: (f.customerId.toList ++ ':' :: ((toString f.amountMinor).toList ++ ':' ::
      (f.currency.toList ++ ':' :: f.idempotencyKey.toList))) := by
  simp only [content, correlationContent, String.toList_append, List.append_assoc]
  rfl

/-- Where no field but the key holds a colon, the text says the fields. -/
theorem PaymentFields.content_inj {f g : PaymentFields} (hf : f.ColonFree) (hg : g.ColonFree) (h : f.content = g.content) :
    f = g := by
  have hamount : ∀ n : Int, ':' ∉ (toString n).toList := by
    intro n hn
    rcases mem_intText hn with hdigit | hsign
    · exact absurd hdigit (by decide)
    · exact absurd hsign (by decide)
  have hchars : f.content.toList = g.content.toList := by rw [h]
  rw [f.content_chars, g.content_chars] at hchars
  obtain ⟨hmerchant, hrest⟩ := split_first hf.1 hg.1 hchars
  obtain ⟨hcustomer, hrest⟩ := split_first hf.2.1 hg.2.1 hrest
  obtain ⟨hminor, hrest⟩ := split_first (hamount _) (hamount _) hrest
  obtain ⟨hcurrency, hkey⟩ := split_first hf.2.2 hg.2.2 hrest
  cases f
  cases g
  simp only [mk.injEq]
  exact ⟨String.toList_inj.1 hmerchant, String.toList_inj.1 hcustomer, intText_inj (String.toList_inj.1 hminor),
    String.toList_inj.1 hcurrency, String.toList_inj.1 hkey⟩

end Gateway

end Archisynapse
