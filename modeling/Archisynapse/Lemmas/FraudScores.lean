import Archisynapse.Base.Sums
import Archisynapse.Fraud.Risk
import Mathlib.Data.List.Perm.Subperm

/-!
# Scores over a history

A score reads the history by counts of the merchant's own rows, and each count can only add a signal with points of its own
(`calculate_rises`). Rows of the merchant that are added never take a signal away, and rows of others are not read.
-/

namespace Archisynapse

namespace Fraud

/-! ## Scores of an event at a time -/

/-- What is scored. -/
inductive RiskIn where
  | checkout (event : CheckoutRiskIn)
  | royalty (event : RoyaltyRiskIn)

def RiskIn.calculate (env : Env) (merchantId : String) : RiskIn → Program RiskDecisionOut
  | .checkout event => calculateCheckoutRisk env event merchantId
  | .royalty event => calculateRoyaltyRisk env event merchantId

/-- The decision of a score. -/
def RiskIn.decision : RiskIn → Int → String
  | .checkout _ => checkoutDecision
  | .royalty _ => royaltyDecision

/-- The decisions of an event, the mildest first. -/
def RiskIn.decisions : RiskIn → List String
  | .checkout _ => ["approve", "step_up_verification", "manual_review", "block"]
  | .royalty _ => ["release_payout", "delay_payout_72h", "hold_payout_review", "block_payout"]

/-- How severe a decision is. -/
def RiskIn.severity (event : RiskIn) (decision : String) : Nat := event.decisions.idxOf decision

/-- A program run alone at a time, with no step failing. -/
def runAt {α : Type} (now : Int) (p : Program α) (s : World) : Option (Except String α × World) :=
  Prog.run (exec 0) (fun _ => ⟨none, now⟩) 0 p s

/-- What an event is answered at a time over a stored history. -/
def scoreAt (env : Env) (merchantId : String) (now : Int) (event : RiskIn) (s : World) : Option RiskDecisionOut :=
  match runAt now (event.calculate env merchantId) s with
  | some (.ok out, _) => some out
  | _ => none

/-- The events of a merchant. -/
def merchantEvents (merchantId : String) (s : World) : List FraudEvent :=
  s.events.filter (fun e => decide (e.merchantId = merchantId))

/-! ## Runs over two histories -/

/-- Two programs that are both answered, over two histories, with answers in a relation. -/
def Related {α : Type} (R : α → α → Prop) (now : Int) (s s' : World) (p p' : Program α) : Prop :=
  ∃ a a', runAt now p s = some (.ok a, s) ∧ runAt now p' s' = some (.ok a', s') ∧ R a a'

section

variable {α : Type} {R : α → α → Prop} {now : Int} {s s' : World} {merchantId : String}

theorem related_pure {a a' : α} (h : R a a') : Related R now s s' (pure a) (pure a') := ⟨a, a', rfl, rfl, h⟩

/-- The rest of a program after a step that was answered and left the tables. -/
theorem runAt_bind {o : Action} {a : o.Result} {k : o.Result → Program α}
    (h : exec 0 o ⟨none, now⟩ s = some (.ok a, s)) : runAt now (step o >>= k) s = runAt now (k a) s := by
  refine (Prog.run_bind_ok h).trans ?_
  exact Prog.run_const (exec 0) ⟨none, now⟩ (k a) 1 0 s

theorem related_utcnow {k k' : Int → Program α} (h : Related R now s s' (k now) (k' now)) :
    Related R now s s' (step .utcnow >>= k) (step .utcnow >>= k') := by
  obtain ⟨a, a', ha, ha', hR⟩ := h
  exact ⟨a, a', (runAt_bind rfl).trans ha, (runAt_bind rfl).trans ha', hR⟩

/-- A count over a merchant's rows is no smaller where the merchant has more. -/
theorem count_le {filter : FraudEvent → Bool} (hfilter : ∀ e, filter e = true → e.merchantId = merchantId)
    (h : (merchantEvents merchantId s).Subperm (merchantEvents merchantId s')) :
    (s.events.filter filter).length ≤ (s'.events.filter filter).length := by
  have hown : ∀ t : World, t.events.filter filter = (merchantEvents merchantId t).filter filter := by
    intro t
    unfold merchantEvents
    rw [List.filter_filter]
    refine List.filter_congr fun e _ => ?_
    cases hf : filter e with
    | false => rfl
    | true => rw [decide_eq_true (hfilter e hf), Bool.and_self]
  rw [hown s, hown s']
  exact (h.filter filter).length_le

/-- A count of a merchant's rows, over two histories. -/
theorem related_countIf {value : Option String} {filter : String → FraudEvent → Bool}
    (hfilter : ∀ v e, filter v e = true → e.merchantId = merchantId)
    (h : (merchantEvents merchantId s).Subperm (merchantEvents merchantId s')) {k k' : Nat → Program α}
    (hk : ∀ n n', n ≤ n' → Related R now s s' (k n) (k' n')) :
    Related R now s s' (countIf value filter >>= k) (countIf value filter >>= k') := by
  cases value with
  | none => exact hk 0 0 (le_refl 0)
  | some v =>
    obtain ⟨a, a', ha, ha', hR⟩ := hk _ _ (count_le (hfilter v) h)
    exact ⟨a, a', (runAt_bind rfl).trans ha, (runAt_bind rfl).trans ha', hR⟩

end

/-! ## Signals -/

/-- A decision that rests on no less than another: the score, the reasons, and both graded by the same bands. -/
structure Below (decision : Int → String) (out out' : RiskDecisionOut) : Prop where
  score : out.riskScore ≤ out'.riskScore
  reasons : out.reasons.Sublist out'.reasons
  graded : out.decision = decision out.riskScore
  graded' : out'.decision = decision out'.riskScore

/-- Signals that hold whenever the others do, none with negative points. -/
def Adds (signals signals' : List (Int × String)) : Prop := signals.Sublist signals' ∧ ∀ x ∈ signals', 0 ≤ x.1

theorem adds_append {a a' b b' : List (Int × String)} (ha : Adds a a') (hb : Adds b b') : Adds (a ++ b) (a' ++ b') :=
  ⟨ha.1.append hb.1, fun x hx => (List.mem_append.1 hx).elim (ha.2 x) (hb.2 x)⟩

theorem adds_signal {holds holds' : Bool} {points : Int} {reason : String} (h : holds = true → holds' = true)
    (hpoints : 0 ≤ points) : Adds (signal holds points reason) (signal holds' points reason) := by
  have hpos : ∀ b, ∀ x ∈ signal b points reason, 0 ≤ x.1 := by
    intro b x hx
    cases b with
    | false => exact absurd hx List.not_mem_nil
    | true => exact (List.mem_singleton.1 hx).symm ▸ hpoints
  cases holds with
  | false => exact ⟨List.nil_sublist _, hpos holds'⟩
  | true => exact ⟨h rfl ▸ List.Sublist.refl _, hpos holds'⟩

/-- A signal that the history has no part in. -/
theorem adds_same (holds : Bool) {points : Int} {reason : String} (hpoints : 0 ≤ points) :
    Adds (signal holds points reason) (signal holds points reason) := adds_signal (fun h => h) hpoints

/-- A signal of a count. -/
theorem adds_count {n n' : Nat} (h : n ≤ n') (least : Nat) {points : Int} {reason : String} (hpoints : 0 ≤ points) :
    Adds (signal (decide (n ≥ least)) points reason) (signal (decide (n' ≥ least)) points reason) := by
  refine adds_signal (fun hn => ?_) hpoints
  rw [decide_eq_true_eq] at hn ⊢
  exact le_trans hn h

/-- Signals that are added raise the score. -/
theorem scoreOf_le {signals signals' : List (Int × String)} (h : Adds signals signals') : scoreOf signals ≤ scoreOf signals' := by
  have hsum : (signals.map (·.1)).sum ≤ (signals'.map (·.1)).sum := by
    refine (h.1.map _).sum_le_sum fun points hpoints => ?_
    obtain ⟨x, hx, rfl⟩ := List.mem_map.1 hpoints
    exact h.2 x hx
  exact min_le_min hsum (le_refl 100)

theorem below_of_adds (decision : Int → String) {signals signals' : List (Int × String)} (h : Adds signals signals') :
    Below decision (responseOf decision signals) (responseOf decision signals') :=
  ⟨scoreOf_le h, h.1.map _, rfl, rfl⟩

/-- Decisions below each other are the same. -/
theorem Below.antisymm {decision : Int → String} {out out' : RiskDecisionOut} (h : Below decision out out')
    (h' : Below decision out' out) : out = out' := by
  have hscore : out.riskScore = out'.riskScore := le_antisymm h.score h'.score
  have hreasons : out.reasons = out'.reasons := h.reasons.antisymm h'.reasons
  have hdecision : out.decision = out'.decision := by rw [h.graded, h.graded', hscore]
  cases out
  cases out'
  simp only [RiskDecisionOut.mk.injEq]
  exact ⟨hscore, hdecision, hreasons⟩

/-- A higher score is decided no milder. -/
theorem severity_le (event : RiskIn) {score score' : Int} (h : score ≤ score') :
    event.severity (event.decision score) ≤ event.severity (event.decision score') := by
  cases event with
  | checkout event =>
    simp only [RiskIn.severity, RiskIn.decisions, RiskIn.decision, checkoutDecision, band]
    split_ifs <;> first | omega | decide +kernel
  | royalty event =>
    simp only [RiskIn.severity, RiskIn.decisions, RiskIn.decision, royaltyDecision, band]
    split_ifs <;> first | omega | decide +kernel

/-! ## Both engines -/

/-- More rows of the merchant: the answer rests on no less. -/
theorem calculate_rises (env : Env) (merchantId : String) (now : Int) (event : RiskIn) {s s' : World}
    (h : (merchantEvents merchantId s).Subperm (merchantEvents merchantId s')) :
    Related (Below event.decision) now s s' (event.calculate env merchantId) (event.calculate env merchantId) := by
  cases event with
  | checkout event =>
    refine related_utcnow ?_
    refine related_countIf (fun v e he => (of_decide_eq_true he).1) h fun deviceFailures deviceFailures' hdevice => ?_
    refine related_countIf (fun v e he => (of_decide_eq_true he).1) h fun ipAttempts ipAttempts' hip => ?_
    refine related_countIf (fun v e he => (of_decide_eq_true he).1) h fun emailFailures emailFailures' hemail => ?_
    refine related_countIf (fun v e he => (of_decide_eq_true he).1) h fun binFailures binFailures' hbin => ?_
    refine related_countIf (fun v e he => (of_decide_eq_true he).1) h fun sessionAttempts sessionAttempts' hsession => ?_
    refine related_pure (below_of_adds checkoutDecision ?_)
    refine adds_append ?_ (adds_same _ (by decide))
    refine adds_append ?_ (adds_same _ (by decide))
    refine adds_append ?_ (adds_same _ (by decide))
    refine adds_append ?_ (adds_same _ (by decide))
    refine adds_append ?_ (adds_count hsession 6 (by decide))
    refine adds_append ?_ (adds_count hbin 5 (by decide))
    refine adds_append ?_ (adds_count hemail 3 (by decide))
    exact adds_append (adds_count hdevice 3 (by decide)) (adds_count hip 10 (by decide))
  | royalty event =>
    refine related_utcnow ?_
    refine related_countIf (fun v e he => (of_decide_eq_true he).1) h fun payoutRequests payoutRequests' hrequests => ?_
    refine related_countIf (fun v e he => (of_decide_eq_true he).1) h fun destinationEvents destinationEvents' hdestination => ?_
    refine related_countIf (fun v e he => (of_decide_eq_true he).1) h fun deviceEvents deviceEvents' hdevice => ?_
    refine related_countIf (fun v e he => (of_decide_eq_true he).1) h fun emailEvents emailEvents' hemail => ?_
    refine related_pure (below_of_adds royaltyDecision ?_)
    refine adds_append ?_ (adds_count hemail 3 (by decide))
    refine adds_append ?_ (adds_count hdevice 3 (by decide))
    refine adds_append ?_ (adds_count hdestination 5 (by decide))
    refine adds_append ?_ (adds_count hrequests 5 (by decide))
    -- the other signals are read from the event alone
    refine adds_append ?_ (adds_same _ (by decide))
    refine adds_append ?_ (adds_same _ (by decide))
    refine adds_append ?_ (adds_same _ (by decide))
    refine adds_append ?_ (adds_same _ (by decide))
    refine adds_append ?_ (adds_same _ (by decide))
    refine adds_append ?_ (adds_same _ (by decide))
    refine adds_append ?_ (adds_same _ (by decide))
    exact adds_append (adds_same _ (by decide)) (adds_same _ (by decide))

/-- What an event is answered over two histories, the second with more rows of the merchant. -/
theorem scoreAt_rises (env : Env) (merchantId : String) (now : Int) (event : RiskIn) {s s' : World}
    (h : (merchantEvents merchantId s).Subperm (merchantEvents merchantId s')) :
    ∃ out out', scoreAt env merchantId now event s = some out ∧ scoreAt env merchantId now event s' = some out' ∧
      Below event.decision out out' := by
  obtain ⟨out, out', hout, hout', hbelow⟩ := calculate_rises env merchantId now event h
  refine ⟨out, out', ?_, ?_, hbelow⟩
  · unfold scoreAt
    rw [hout]
  · unfold scoreAt
    rw [hout']

/-- The answer is the same over histories with the same rows of the merchant. -/
theorem scoreAt_local (env : Env) (merchantId : String) (now : Int) (event : RiskIn) {s s' : World}
    (h : (merchantEvents merchantId s).Perm (merchantEvents merchantId s')) :
    scoreAt env merchantId now event s = scoreAt env merchantId now event s' := by
  obtain ⟨out, out', hout, hout', hbelow⟩ := scoreAt_rises env merchantId now event h.subperm
  obtain ⟨back', back, hback', hback, habove⟩ := scoreAt_rises env merchantId now event h.symm.subperm
  obtain rfl := Option.some.inj (hout.symm.trans hback)
  obtain rfl := Option.some.inj (hout'.symm.trans hback')
  rw [hout, hout', hbelow.antisymm habove]

end Fraud

end Archisynapse
