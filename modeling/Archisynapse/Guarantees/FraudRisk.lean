import Archisynapse.Lemmas.FraudRisk
import Archisynapse.Lemmas.FraudScores

/-!
# Risk decisions of a key

While no request checks a key that another request found free and has not come to an end with, a key has one decision and at most
one event. Two requests that overlap, or a crash between the two commits of a request, make two events.
-/

namespace Archisynapse

namespace Fraud

/-- The events of a key. -/
def World.eventsOf (s : World) (scope : Scope) : List FraudEvent := s.events.filter (fun e => decide (e.source = some scope))

/-- A key occurs among the keys of the events as often as it has events. -/
theorem length_eventsOf (s : World) (scope : Scope) :
    (s.eventsOf scope).length = (s.events.filterMap (·.source)).count scope := by
  unfold World.eventsOf
  induction s.events with
  | nil => rfl
  | cons e events ih =>
    rw [List.filter_cons]
    cases hsource : e.source with
    | none => simpa [hsource] using ih
    | some sc =>
      by_cases heq : sc = scope
      · simpa [hsource, heq] using ih
      · simpa [hsource, heq] using ih

/-- In every run in which no request checks a key that another request found free, unless that one stored its response or ended
before its event was committed: a key has at most one event, and all its responses are the same. -/
theorem risk_once (env : Env) (cfg : (machine env).Config)
    (hrun : (machine env).Run (apart env) (.init (machine env) .empty) cfg) :
    (∀ scope, (cfg.state.eventsOf scope).length ≤ 1) ∧
    ∀ w a s, cfg.Ends (apart env) w (.ok a) s →
      ∀ cfg' w' a' s', (machine env).Run (apart env) (cfg.move w.id (.pure a) s) cfg' →
        cfg'.Ends (apart env) w' (.ok a') s' →
        ∀ scope, w.call.scope = some scope → w'.call.scope = some scope → a' = a := by
  have honce : Once cfg.state := Machine.Outline.run_inv (outline_sound env) once_empty hrun
  refine ⟨fun scope => ?_, ?_⟩
  · rw [length_eventsOf]
    exact List.nodup_iff_count_le_one.1 honce.events scope
  · intro w a s hends cfg' w' a' s' hrun' hends' scope hscope hscope'
    have hstored := (Machine.Outline.ends (outline_sound env) once_empty hrun hends).2 a scope rfl hscope
    obtain ⟨hw, o, k, ch, r, hk, hc, he, hend⟩ := hends
    have hmoved : (machine env).Run (apart env) (.init (machine env) .empty) (cfg.move w.id (.pure a) s) := by
      rw [← show k r = .pure a from hend]
      exact hrun.tail (.call cfg w o k ch r s hw hk hc he)
    have hlater := hmoved.trans hrun'
    obtain ⟨honce', hpost'⟩ := Machine.Outline.ends (outline_sound env) once_empty hlater hends'
    have hstored' := hpost' a' scope rfl hscope'
    -- the last step of the second request keeps the responses too
    obtain ⟨hw', o', k', ch', r', hk', hc', he', -⟩ := hends'
    have hprefix := run_records hmoved (hrun'.tail (.call cfg' w' o' k' ch' r' s' hw' hk' hc' he'))
    have hkept : (scope, a) ∈ s'.records := hprefix.subset hstored
    exact congrArg Prod.snd (List.inj_on_of_nodup_map honce'.records hstored' hkept rfl)

/-! ## Runs -/

/-- An environment for runs. -/
def demoEnv : Env := ⟨fun text => text, fun text => text⟩

/-- A checkout of a merchant with a key. -/
def demoCheckout : Request :=
  .checkout "merchant" ⟨"checkout_attempt", none, none, none, none, none, none, none, none, 3, "failed"⟩ (some "key")

/-- What it is stored under. -/
def demoScope : Scope := ⟨"merchant", "key", "/risk/checkout"⟩

/-- A step that comes about. -/
def demoStep (w : Nat) : (machine demoEnv).Event := .call w ⟨none, 0⟩

/-- `apart`, computed. -/
def apartCheck (cfg : (machine demoEnv).Config) : (machine demoEnv).Event → Bool
  | .call w _ => cfg.live.all (fun x => !decide (x.id = w) || match x.rest with
    | .call (.checkIdempotency scope) _ => cfg.state.pending.all (fun p => !decide (p.scope = scope))
    | _ => true)
  | _ => true

theorem apartCheck_allows (cfg : (machine demoEnv).Config) (e : (machine demoEnv).Event) (h : apartCheck cfg e = true) :
    (apart demoEnv).Allows cfg e := by
  cases e with
  | start c => exact trivial
  | crash w => exact trivial
  | call w ch =>
    intro x hx hid o k hk
    have hlive := List.all_eq_true.1 h x hx
    rw [hk, decide_eq_true hid] at hlive
    cases o with
    | checkIdempotency scope => exact fun p hp heq => by simpa [heq] using List.all_eq_true.1 hlive p hp
    | utcnow => exact trivial
    | count filter => exact trivial
    | saveEvent event => exact trivial
    | refresh => exact trivial
    | storeIdempotency scope response => exact trivial

/-- The theorem at a run: a request is decided, and its repetition is answered with the stored response. -/
theorem risk_once_play : ∃ cfg,
    (machine demoEnv).Run (apart demoEnv) (.init (machine demoEnv) .empty) cfg ∧
    cfg.state.records = [(demoScope, ⟨20, "approve", ["small_amount_testing_pattern", "payment_failed"]⟩)] ∧
    (cfg.state.eventsOf demoScope).length ≤ 1 := by
  obtain ⟨cfg, hrun, htest⟩ := Machine.Config.replay_any apartCheck_allows
    ([.start demoCheckout, .start demoCheckout] ++ List.replicate 5 (demoStep 0) ++ [demoStep 1])
    (.init (machine demoEnv) .empty) (fun cfg => decide (cfg.state.records =
      [(demoScope, ⟨20, "approve", ["small_amount_testing_pattern", "payment_failed"]⟩)] ∧ cfg.live.length = 0))
    (show ((Machine.Config.init (machine demoEnv) .empty).replay apartCheck _).any _ = true by decide +kernel)
  exact ⟨cfg, hrun, (of_decide_eq_true htest).1, (risk_once demoEnv cfg hrun).1 demoScope⟩

/-- A crash between the two commits of a request: its repetition makes a second event of the key. -/
theorem risk_counted_twice : ¬ ∀ env cfg, (machine env).Run (.any (machine env)) (.init (machine env) .empty) cfg →
    ∀ scope, (cfg.state.eventsOf scope).length ≤ 1 := by
  intro h
  obtain ⟨cfg, hrun, htest⟩ := Machine.Config.replay_any (fun cfg e _ => Machine.Cond.allows_any cfg e)
    ([.start demoCheckout] ++ List.replicate 3 (demoStep 0) ++ [.crash 0, .start demoCheckout] ++ List.replicate 5 (demoStep 1))
    (.init (machine demoEnv) .empty) (fun cfg => decide ((cfg.state.eventsOf demoScope).length = 2))
    (show ((Machine.Config.init (machine demoEnv) .empty).replay (fun _ _ => true) _).any _ = true by decide +kernel)
  have hlen := h demoEnv cfg hrun demoScope
  rw [of_decide_eq_true htest] at hlen
  exact absurd hlen (by decide)

/-! ## Risk scores over more history

An event of a merchant is scored no lower, for no fewer reasons and with no milder decision when the merchant's history grows, and
the events of other merchants have no part in its score. -/

/-- For every event, merchant and time: over a history with all of the merchant's events of another and possibly more, the score is
at least as high, the reasons include the other's and the decision is at least as severe; and the answer is the one over the
merchant's own events alone. -/
theorem risk_monotone (env : Env) (merchantId : String) (now : Int) (event : RiskIn) (s s' : World)
    (h : (merchantEvents merchantId s).Subperm (merchantEvents merchantId s')) :
    (∃ out out', scoreAt env merchantId now event s = some out ∧ scoreAt env merchantId now event s' = some out' ∧
      out.riskScore ≤ out'.riskScore ∧ out.reasons ⊆ out'.reasons ∧
      event.severity out.decision ≤ event.severity out'.decision) ∧
    ∀ t : World, scoreAt env merchantId now event t =
      scoreAt env merchantId now event { t with events := merchantEvents merchantId t } := by
  refine ⟨?_, fun t => ?_⟩
  · obtain ⟨out, out', hout, hout', hbelow⟩ := scoreAt_rises env merchantId now event h
    refine ⟨out, out', hout, hout', hbelow.score, hbelow.reasons.subset, ?_⟩
    rw [hbelow.graded, hbelow.graded']
    exact severity_le event hbelow.score
  · refine scoreAt_local env merchantId now event ?_
    have hown : merchantEvents merchantId { t with events := merchantEvents merchantId t } = merchantEvents merchantId t := by
      unfold merchantEvents
      rw [List.filter_filter]
      exact List.filter_congr fun e _ => Bool.and_self _
    rw [hown]

/-! ## At a history -/

/-- An environment for scores. -/
def playEnv : Env := ⟨fun text => text, fun text => text⟩

/-- A failed payment of a device. -/
def playFailure : FraudEvent := ⟨"merchant", "checkout_attempt", none, some "device", none, none, none, none, none, some "failed", 0, 0, none⟩

/-- A checkout from the device. -/
def playCheckout : RiskIn := .checkout ⟨"checkout_attempt", some "device", none, none, none, none, none, none, none, 40, "pending"⟩

/-- The theorem at a history: three failed payments of the device, and another merchant's, raise the decision on a checkout. -/
theorem risk_monotone_play :
    (scoreAt playEnv "merchant" 0 playCheckout .empty).map (·.decision) = some "approve" ∧
    (scoreAt playEnv "merchant" 0 playCheckout
      ⟨[playFailure, playFailure, { playFailure with merchantId := "other" }, playFailure], [], []⟩).map (·.decision) =
        some "step_up_verification" ∧
    ∃ out out', scoreAt playEnv "merchant" 0 playCheckout .empty = some out ∧
      scoreAt playEnv "merchant" 0 playCheckout
        ⟨[playFailure, playFailure, { playFailure with merchantId := "other" }, playFailure], [], []⟩ = some out' ∧
      out.riskScore ≤ out'.riskScore ∧ out.reasons ⊆ out'.reasons ∧
      playCheckout.severity out.decision ≤ playCheckout.severity out'.decision :=
  ⟨by decide +kernel, by decide +kernel,
    (risk_monotone playEnv "merchant" 0 playCheckout .empty
      ⟨[playFailure, playFailure, { playFailure with merchantId := "other" }, playFailure], [], []⟩ List.nil_subperm).1⟩

end Fraud

end Archisynapse
