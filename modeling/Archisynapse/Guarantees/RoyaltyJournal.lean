import Archisynapse.Lemmas.RoyaltyJournal
import Archisynapse.Guarantees.Royalty

/-!
# The journals of royalty obligations

Whatever fails and is tried again, a stored obligation has the journal its status calls for as long as the decision behind a key
stays what it was when the ledger was first asked (`status_matches_journal`); a retry with another decision is stored with the
journal of the first (`held_journal_posted`).
-/

namespace Archisynapse

namespace Royalty

open Payments (column)

/-- An obligation's status matches its journal. -/
structure MatchesJournal (s : World) (o : ObligationRow) : Prop where
  posted : o.status = .posted → ∃ t, o.ledgerTransactionId = some t ∧ (∃ p ∈ s.ledger.posts, p.id = t) ∧
    List.Forall₂ (fun payout e => e.amount = payout.amount ∧ HasCode s.ledger o.organizationId payout.ownerId e.accountId)
      (s.db.payoutsOf o.id) (creditsOf s.ledger t)
  held : o.status = .held → ∃ t, o.ledgerTransactionId = some t ∧ (∃ p ∈ s.ledger.posts, p.id = t) ∧ creditsOf s.ledger t ≠ [] ∧
    ∀ e ∈ creditsOf s.ledger t, HasCode s.ledger o.organizationId "royalty_held_liab" e.accountId
  blocked : o.status = .blocked → o.ledgerTransactionId = none ∧ ∀ p ∈ s.ledger.posts, p.idempotencyKey ≠ some o.idempotencyKey

/-- Payouts and credits of the same shares go together. -/
theorem forall_paid_credited {d : Ledger.Tables} (hcodes : ∀ a ∈ d.chart, a.code.length ≤ 20) {organizationId : String}
    {shares : List Payout} {payouts : List PayoutRow} {credits : List EntryRow} (hpaid : List.Forall₂ PaidAs shares payouts)
    (hcredited : List.Forall₂ (Credited d organizationId) shares credits) :
    List.Forall₂ (fun payout e => e.amount = payout.amount ∧ HasCode d organizationId payout.ownerId e.accountId) payouts credits := by
  induction hpaid generalizing credits with
  | nil =>
    cases hcredited
    exact .nil
  | cons hp _ ih =>
    cases hcredited with
    | cons hc hrest =>
      refine .cons ⟨?_, ?_⟩ (ih hrest)
      · have hamount := hc.2.trans hp.amount.symm
        exact_mod_cast hamount
      · -- the code of an account is short, so the owner of the payout is stored as it is
        obtain ⟨a, ha, hid, horg, hcode⟩ := hc.1
        have hshort := hcodes a ha
        rw [hcode] at hshort
        have howner := Payments.column_ok_eq hp.ownerId (by omega)
        exact ⟨a, ha, hid, horg, hcode.trans howner.symm⟩

/-- In every run of `createObligation` requests, each a retry of its key's request with the decision taken anew, in which the decision
behind a key stays what it was when the ledger was first asked, whatever fails, crashes or is interleaved: every stored obligation's
status matches its journal. -/
theorem status_matches_journal (events : String → CreateRoyaltyObligationRequest) (cfg : machine.traced.Config)
    (hrun : machine.traced.Run (steadfast events) (.init _ (World.empty, [])) cfg) :
    ∀ o ∈ cfg.state.1.db.obligations, MatchesJournal cfg.state.1 o := by
  have hinit : (outline False).inv (World.empty, []) := sound_empty
  have hinit' : (journalOutline events).inv (World.empty, []) := journals_empty
  have hsound : Sound cfg.state.1 := Machine.Outline.run_inv (outline_sound (fun h => h.elim)) hinit hrun
  have hjournals : Journals events cfg.state.1 := Machine.Outline.run_inv (journalOutline_sound events) hinit' hrun
  intro o ho
  obtain ⟨-, hpays, -⟩ := hsound.row ho
  have hof := hjournals.obligations o ho
  have hjournal := hof.journal
  refine ⟨fun hst => ?_, fun hst => ?_, fun hst => ?_⟩
  · rw [hst] at hjournal
    obtain ⟨t, ht, hposted, shares, hshares, hcredited⟩ := hjournal
    obtain ⟨shares', hshares', -, hpaid⟩ := hpays.bySplits hst
    rw [hof.amount, hof.splits, Int.cast_natCast, hshares] at hshares'
    cases hshares'
    rw [← hof.organizationId] at hcredited
    exact ⟨t, ht, hposted, forall_paid_credited hjournals.codes hpaid hcredited⟩
  · rw [hst] at hjournal
    obtain ⟨t, ht, hposted, hne, hheld⟩ := hjournal
    rw [← hof.organizationId] at hheld
    exact ⟨t, ht, hposted, hne, hheld⟩
  · rw [hst] at hjournal
    exact hjournal

/-- Runs of `createObligation` requests for one event: retries of one request, with the decision taken anew each time. -/
def retriesOf (req : CreateRoyaltyObligationRequest) : machine.traced.Cond where
  start _ c :=
    match c with
    | .createObligation _ req' => Retry req req'
    | _ => False
  step _ _ _ := True

/-- A run starts only `createObligation` calls for `playRequest`, computed. -/
def playCheck (eventId key : String) (_ : machine.traced.Config) : machine.traced.Event → Bool
  | .start (.createObligation _ req) => decide (req = playRequest eventId key req.decision)
  | .start _ => false
  | _ => true

theorem playCheck_allows (eventId key : String) (cfg : machine.traced.Config) (e : machine.traced.Event)
    (h : playCheck eventId key cfg e = true) : (retriesOf (playRequest eventId key .hold)).Allows cfg e := by
  cases e with
  | start c =>
    cases c with
    | createObligation uuid req =>
      have hreq : req = playRequest eventId key req.decision := of_decide_eq_true h
      change Retry _ req
      unfold Retry
      conv_lhs => rw [hreq]
      rw [hreq]
      rfl
    | _ => cases h
  | call w ch => exact fun _ _ _ _ _ _ => trivial
  | crash w => exact trivial

/-- A royalty is held in the ledger, the call crashes before its insert, and the retry is allowed. -/
def rethoughtEvents : List machine.traced.Event :=
  tracedEvents ([create 0 "event-1" "key-1" .hold] ++ goWell 0 7 ++ [.crash 0] ++ [create 1 "event-1" "key-1" .allow] ++ goWell 1 9)

/-- A retry with another decision: the obligation is POSTED, its two payouts are stored, and its journal is that of the hold. -/
theorem held_journal_posted : ¬ ∀ cfg, machine.traced.Run (retriesOf (playRequest "event-1" "key-1" .hold))
    (.init _ (World.empty, [])) cfg → ∀ o ∈ cfg.state.1.db.obligations, MatchesJournal cfg.state.1 o := by
  intro h
  obtain ⟨cfg, hrun, htest⟩ := Machine.Config.replay_any (playCheck_allows "event-1" "key-1") rethoughtEvents
    (.init machine.traced (World.empty, []))
    (fun cfg => cfg.state.1.db.obligations.any (fun o => decide (o.status = .posted ∧
      (cfg.state.1.db.payoutsOf o.id).length = 2 ∧
      (o.ledgerTransactionId.map (fun t => (creditsOf cfg.state.1.ledger t).length)) = some 1))) (by decide +kernel)
  obtain ⟨o, ho, hcheck⟩ := List.any_eq_true.1 htest
  obtain ⟨hst, hpayouts, hcredits⟩ := of_decide_eq_true hcheck
  obtain ⟨t, ht, -, hall⟩ := (h cfg hrun o ho).posted hst
  rw [ht, Option.map_some, Option.some.injEq] at hcredits
  have hlength := hall.length_eq
  omega

/-- `steadfast`, computed, for `playRequest`. -/
def steadfastCheck (eventId key : String) (cfg : machine.traced.Config) (e : machine.traced.Event) : Bool :=
  playCheck eventId key cfg e && cfg.live.all (fun x => match x.rest with
    | .call (.ledger _ (.postTransaction q)) _ => (q.idempotencyKey.bind (varchar 255)).all (fun key =>
        cfg.state.1.ledger.responses.all (fun r => !decide (r.idempotencyKey = key) || decide (r.response.type = q.type)) &&
        cfg.state.1.db.obligations.all (fun o => !decide (o.status = .blocked) || !decide (o.idempotencyKey = key)))
    | .call (.sql (.commit (.insertObligation _ req .blocked _ :: _))) _ => (varchar 255 req.idempotencyKey).all (fun key =>
        cfg.state.1.ledger.posts.all (fun p => !decide (p.idempotencyKey = some key)))
    | _ => true)

theorem steadfastCheck_allows (eventId key : String) (cfg : machine.traced.Config) (e : machine.traced.Event)
    (h : steadfastCheck eventId key cfg e = true) : (steadfast (fun _ => playRequest eventId key .hold)).Allows cfg e := by
  unfold steadfastCheck at h
  rw [Bool.and_eq_true] at h
  have hplay := playCheck_allows eventId key cfg e h.1
  cases e with
  | start c =>
    cases c with
    | createObligation uuid req => exact fun _ _ => hplay
    | _ => exact hplay
  | call w ch =>
    intro x hx _ o k hk
    have hcheck := List.all_eq_true.1 h.2 x hx
    unfold steadfast
    dsimp only
    split
    · rw [hk] at hcheck
      intro stored hstored
      simp only [hstored, Option.all_some, Bool.and_eq_true, List.all_eq_true, Bool.or_eq_true, Bool.not_eq_true',
        decide_eq_false_iff_not, decide_eq_true_eq] at hcheck
      refine ⟨fun r hr hrkey => ?_, fun o ho hst => ?_⟩
      · exact (hcheck.1 r hr).resolve_left (fun hne => hne hrkey)
      · exact (hcheck.2 o ho).resolve_left (fun hne => hne hst)
    · rw [hk] at hcheck
      intro stored hstored
      simpa [hstored] using hcheck
    · exact trivial
  | crash w => exact trivial

/-- A royalty is held in the ledger, the call crashes before its insert, and the retry is held again. -/
def heldAgainEvents : List machine.traced.Event :=
  tracedEvents ([create 0 "event-1" "key-1" .hold] ++ goWell 0 7 ++ [.crash 0] ++ [create 1 "event-1" "key-1" .hold] ++ goWell 1 6)

/-- The theorem at a run with a retry after a crash: one obligation, HELD, and one transaction of the ledger. -/
theorem status_matches_journal_again : ∃ cfg, machine.traced.Run (steadfast (fun _ => playRequest "event-1" "key-1" .hold))
    (.init _ (World.empty, [])) cfg ∧ cfg.state.1.db.obligations.map (·.status) = [.held] ∧ cfg.state.1.ledger.posts.length = 1 ∧
    ∀ o ∈ cfg.state.1.db.obligations, MatchesJournal cfg.state.1 o := by
  obtain ⟨cfg, hrun, htest⟩ := Machine.Config.replay_any (steadfastCheck_allows "event-1" "key-1") heldAgainEvents
    (.init machine.traced (World.empty, []))
    (fun cfg => decide (cfg.state.1.db.obligations.map (·.status) = [.held] ∧ cfg.state.1.ledger.posts.length = 1)) (by decide +kernel)
  obtain ⟨h₁, h₂⟩ := of_decide_eq_true htest
  exact ⟨cfg, hrun, h₁, h₂, status_matches_journal _ cfg hrun⟩

end Royalty

end Archisynapse
