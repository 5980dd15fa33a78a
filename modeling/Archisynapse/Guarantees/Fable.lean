import Archisynapse.Lemmas.Fable

/-!
# FABLE receipts are unique

While no issue reads a key that another issue found free and has not come to an end with, there is one stored receipt a key,
and every issue that returns returns it. Two issues that overlap store two.
-/

namespace Archisynapse

namespace Fable

/-- In every run in which no issue reads a key that another issue found free and has not come to an end with: one receipt a
key is stored, and an issue that returns returns the one of its key. -/
theorem fable_receipts_unique (sign : Signer) (cfg : (machine sign).Config)
    (hrun : (machine sign).Run (apart sign) (.init (machine sign) .empty) cfg) :
    (cfg.state.rows.map (·.key)).Nodup ∧ ∀ w a s, cfg.Ends (apart sign) w (.ok a) s →
      a ∈ s.rows ∧ a.key = w.call.key ∧ (s.rows.map (·.key)).Nodup := by
  refine ⟨(Machine.Outline.run_inv (outline_sound sign) apart_empty hrun).keys, ?_⟩
  intro w a s hends
  obtain ⟨hinv, hpost⟩ := Machine.Outline.ends (outline_sound sign) apart_empty hrun hends
  obtain ⟨hmem, hkey⟩ := hpost a rfl
  exact ⟨hmem, hkey, hinv.keys⟩

/-! ## Runs -/

/-- A signer for runs. -/
def demoSign : Signer := fun payload => (payload.id, "signature")

/-- The delivery verdict of an execution. -/
def demoArgs : IssueArgs :=
  { key := ⟨"delivery_verdict", some "contract", "execution"⟩
    authorizationId := some "auth"
    paymentReceiptId := some "receipt"
    body := .str "verified" }

/-- What the environment chooses at a step. -/
def demoChoice (uuid : String) : Choice := ⟨none, uuid, "2026-01-01T00:00:00+00:00"⟩

/-- `apart`, computed. -/
def apartCheck (cfg : (machine demoSign).Config) : (machine demoSign).Event → Bool
  | .call w _ => cfg.live.all (fun x => !decide (x.id = w) || match x.rest with
    | .call (.find key) _ => cfg.state.issuing.all (fun p => !decide (p.2 = key))
    | _ => true)
  | _ => true

theorem apartCheck_allows (cfg : (machine demoSign).Config) (e : (machine demoSign).Event) (h : apartCheck cfg e = true) :
    (apart demoSign).Allows cfg e := by
  cases e with
  | start c => exact trivial
  | crash w => exact trivial
  | call w ch =>
    intro x hx hid o k hk
    have hlive := List.all_eq_true.1 h x hx
    rw [hk, decide_eq_true hid] at hlive
    cases o with
    | find key => exact fun p hp heq => by simpa [heq] using List.all_eq_true.1 hlive p hp
    | insert args => exact trivial
    | findDeliveryVerdict contractId paymentReceiptId => exact trivial

/-- The theorem at a run: an issue stores a receipt, and another one finds it. -/
theorem fable_receipts_unique_play : ∃ cfg,
    (machine demoSign).Run (apart demoSign) (.init (machine demoSign) .empty) cfg ∧ cfg.state.rows.length = 1 ∧
    (cfg.state.rows.map (·.key)).Nodup := by
  obtain ⟨cfg, hrun, htest⟩ := Machine.Config.replay_any apartCheck_allows
    [.start demoArgs, .start demoArgs, .call 0 (demoChoice "one"), .call 0 (demoChoice "one"), .call 1 (demoChoice "two")]
    (.init (machine demoSign) .empty) (fun cfg => decide (cfg.state.rows.length = 1 ∧ cfg.live.length = 0))
    (show ((Machine.Config.init (machine demoSign) .empty).replay apartCheck _).any _ = true by decide +kernel)
  exact ⟨cfg, hrun, (of_decide_eq_true htest).1, (fable_receipts_unique demoSign cfg hrun).1⟩

/-- Two issues that both read before either inserts store two receipts under one key. -/
theorem fable_receipts_twice : ¬ ∀ sign cfg, (machine sign).Run (.any (machine sign)) (.init (machine sign) .empty) cfg →
    (cfg.state.rows.map (·.key)).Nodup := by
  intro h
  obtain ⟨cfg, hrun, htest⟩ := Machine.Config.replay_any (fun cfg e _ => Machine.Cond.allows_any cfg e)
    [.start demoArgs, .start demoArgs, .call 0 (demoChoice "one"), .call 1 (demoChoice "two"), .call 0 (demoChoice "one"),
      .call 1 (demoChoice "two")] (.init (machine demoSign) .empty)
    (fun cfg => decide (cfg.state.rows.map (·.key) = [demoArgs.key, demoArgs.key]))
    (show ((Machine.Config.init (machine demoSign) .empty).replay (fun _ _ => true) _).any _ = true by decide +kernel)
  have hkeys := h demoSign cfg hrun
  rw [of_decide_eq_true htest] at hkeys
  exact (List.nodup_cons.1 hkeys).1 (List.mem_singleton_self _)

end Fable

end Archisynapse
