import Archisynapse.Lemmas.RoyaltyHistory
import Mathlib.Algebra.BigOperators.Group.Finset.Basic
import Archisynapse.Lemmas.RoyaltyTwins

/-!
# Royalty obligations

An event has one obligation in every run whose inserts find it under no other key (`one_obligation_per_event`); without the
condition it may have two (`two_obligations`).
-/

namespace Archisynapse

namespace Royalty

open Payments (column)

/-! ## Runs on fixed requests -/

/-- A request for a royalty of 1.25, split 60 to 40. -/
def playRequest (eventId key : String) (decision : RoyaltyDecision) : CreateRoyaltyObligationRequest :=
  ⟨"lyrica", eventId, "corr-1", key, "lyrica", "track-1", "creator-1", 12500, "USD", [⟨"owner-a", 6000⟩, ⟨"owner-b", 4000⟩],
    decision, "policy-1", 0, [], "hash-1"⟩

/-- How a call goes: `n` starts the ledger's ids. -/
def goes (n : Nat) (fault : Fault) : Choice := ⟨fault, 0, ⟨true, 0, fun i => 1000 * n + i⟩, fun _ => false⟩

/-- The first `n` calls of worker `w`, which go well. -/
def goWell (w n : Nat) : List machine.Event := (List.range n).map (fun i => .call w (goes (100 * (w + 1) + i) .none))

/-- A request is made with the uuids from `100 * w` on. -/
def create (w : Nat) (eventId key : String) (decision : RoyaltyDecision) : machine.Event :=
  .start (.createObligation (fun i => 100 * w + i) (playRequest eventId key decision))

/-- A release of an event. -/
def release (w : Nat) (eventId key : String) : machine.Event := .start (.releaseObligation (fun i => 100 * w + i) eventId key)

/-- A reversal of an event. -/
def reverse (w : Nat) (eventId key : String) : machine.Event :=
  .start (.reverseObligation (fun i => 100 * w + i) eventId ("reversal of " ++ eventId) key "requested")

/-- An event of a run in which the calls are kept. -/
def tracedEvent : machine.Event → machine.traced.Event
  | .start c => .start c
  | .call w ch => .call w ch
  | .crash w => .crash w

/-- The events of such a run. -/
def tracedEvents (es : List machine.Event) : List machine.traced.Event := es.map tracedEvent

/-! ## One obligation for an event -/

/-- An organization has at most one obligation for an event. -/
def OnePerEvent (d : Tables) : Prop := ∀ organizationId eventId,
  (d.obligations.filter (fun o => decide (o.organizationId = organizationId ∧ o.eventId = eventId))).length ≤ 1

/-- No obligation of the request's organization and event is stored under another key. -/
def KeyOfEvent (req : CreateRoyaltyObligationRequest) (s : World) : Prop :=
  ∀ o ∈ s.db.obligations, o.organizationId = req.organizationId → column 255 req.eventId = .ok o.eventId →
    column 255 req.idempotencyKey = .ok o.idempotencyKey

/-- An obligation is inserted only while its event has none under another key. -/
def oneKey : machine.Cond where
  start _ _ := True
  step _ o s :=
    match o with
    | .sql (.commit (.insertObligation _ req _ _ :: _)) => KeyOfEvent req s
    | _ => True

/-- An update of rows that keeps their organization and event keeps how many an event has. -/
theorem OnePerEvent.update {d : Tables} (h : OnePerEvent d) {id : Uuid} {u : ObligationRow → ObligationRow}
    (horg : ∀ o, (u o).organizationId = o.organizationId) (hevent : ∀ o, (u o).eventId = o.eventId) :
    OnePerEvent { d with obligations := updateKey (·.id) id u d.obligations } := by
  intro organizationId eventId
  have hle := h organizationId eventId
  rw [← List.countP_eq_length_filter] at hle ⊢
  have hsame : (updateKey (·.id) id u d.obligations).countP
      (fun o => decide (o.organizationId = organizationId ∧ o.eventId = eventId)) =
      d.obligations.countP (fun o => decide (o.organizationId = organizationId ∧ o.eventId = eventId)) := by
    unfold updateKey
    rw [List.countP_map]
    refine List.countP_congr (fun o _ => ?_)
    by_cases hid : o.id = id <;> simp [hid, horg, hevent]
  dsimp only
  rw [hsame]
  exact hle

/-- Another obligation of an event is a second one unless the event has none. -/
theorem onePerEvent_insert {s : World} {uuid : Nat → Uuid} {id : Uuid} {req : CreateRoyaltyObligationRequest}
    {status : RoyaltyStatus} {t : Option Uuid} {payouts : List Payout} {tables : Tables} (h : OnePerEvent s.db)
    (hws : s.db.writes (.insertObligation id req status t :: insertPayouts uuid id 1 payouts) = .ok tables) :
    OnePerEvent tables ↔ KeyOfEvent req s := by
  obtain ⟨row, rows, rfl, hmade, -⟩ := writes_create hws
  have heq : ∀ o : ObligationRow, column 255 req.eventId = .ok o.eventId ↔ o.eventId = row.eventId := by
    intro o
    rw [hmade.eventId, Except.ok.injEq, eq_comm]
  constructor
  · intro hone o ho horg hevent
    -- the event would have two: the stored one and the new one
    have hle := hone row.organizationId row.eventId
    have hmem : o ∈ s.db.obligations.filter
        (fun o => decide (o.organizationId = row.organizationId ∧ o.eventId = row.eventId)) := by
      refine List.mem_filter.2 ⟨ho, decide_eq_true ⟨?_, (heq o).1 hevent⟩⟩
      rw [horg, hmade.organizationId]
    have hpos := List.length_pos_of_mem hmem
    rw [List.filter_append, List.length_append, List.filter_cons_of_pos (by simp)] at hle
    simp only [List.length_cons] at hle
    omega
  · intro hkey organizationId eventId
    have hle := h organizationId eventId
    rw [List.filter_append, List.length_append]
    by_cases hrow : row.organizationId = organizationId ∧ row.eventId = eventId
    · obtain ⟨rfl, rfl⟩ := hrow
      have hnone : s.db.obligations.filter
          (fun o => decide (o.organizationId = row.organizationId ∧ o.eventId = row.eventId)) = [] := by
        rw [List.filter_eq_nil_iff]
        intro o ho hdec
        obtain ⟨horg, hevent⟩ := of_decide_eq_true hdec
        have hstored := hkey o ho (horg.trans hmade.organizationId) ((heq o).2 hevent)
        rw [hmade.idempotencyKey] at hstored
        exact hmade.unused o ho (Except.ok.inj hstored).symm
      rw [hnone, List.length_nil, List.filter_cons_of_pos (by simp)]
      simp
    · rw [List.filter_cons_of_neg (by simpa using hrow)]
      simpa using hle

/-- Every transaction keeps one obligation for an event, when an insert finds none under another key. -/
theorem onePerEvent_step {w : Nat} {o : Action} {ch : Choice} {s s' : World} {r : Except RoyaltyError o.Result}
    (ho : o.Proper) (hC : oneKey.step w o s) (h : OnePerEvent s.db) (he : exec w o ch s = some (r, s')) :
    OnePerEvent s'.db := by
  cases o with
  | ledger asked q =>
    rcases exec_ledger he with ⟨rfl, -⟩ | ⟨hstore, -⟩
    · exact h
    · rw [show s'.db = s.db from congrArg Store.tables hstore]
      exact h
  | sql o =>
    obtain ⟨-, hdb | ⟨ws, rfl, hws⟩⟩ := exec_sql_tables he
    · rw [hdb]
      exact h
    · cases ho with
      | nothing =>
        rw [← Except.ok.inj hws]
        exact h
      | create uuid id req status t payouts => exact (onePerEvent_insert h hws).2 hC
      | release uuid id t payouts =>
        obtain ⟨rows, hd, -⟩ := writes_release hws
        rw [hd]
        exact h.update (fun _ => rfl) (fun _ => rfl)
      | reverse id reversalId eventId key t =>
        obtain ⟨row, hd, -⟩ := writes_reverse hws
        rw [hd]
        exact h.update (fun _ => rfl) (fun _ => rfl)

/-- In every run, of any calls in any order, whose inserts find no obligation of their event under another key, an organization
has at most one obligation for an event; and an insert that goes through keeps it so exactly when it finds none. -/
theorem one_obligation_per_event (cfg : machine.Config) (hrun : machine.Run oneKey (.init machine .empty) cfg) :
    OnePerEvent cfg.state.db ∧
    ∀ (w : Nat) (ch : Choice) (r : Except RoyaltyError Unit) (s' : World) (uuid : Nat → Uuid) (id : Uuid)
      (req : CreateRoyaltyObligationRequest) (status : RoyaltyStatus) (t : Option Uuid) (payouts : List Payout),
      exec w (.sql (.commit (.insertObligation id req status t :: insertPayouts uuid id 1 payouts))) ch cfg.state = some (r, s') →
      s'.db ≠ cfg.state.db → (OnePerEvent s'.db ↔ KeyOfEvent req cfg.state) := by
  have hone : OnePerEvent cfg.state.db := by
    refine hrun.keeps_calls (A := Action.Proper) (J := fun s : World => OnePerEvent s.db) program_proper ?_ ?_ ?_
    · exact fun w o ch s r s' ho hC h he => onePerEvent_step ho hC h he
    · exact fun w s h => h
    · exact fun _ _ => Nat.zero_le 1
  refine ⟨hone, fun w ch r s' uuid id req status t payouts he hne => ?_⟩
  obtain ⟨-, hdb | ⟨ws, hws, hwrites⟩⟩ := exec_sql_tables he
  · exact absurd hdb hne
  · cases hws
    exact onePerEvent_insert hone hwrites

/-- `oneKey`, computed, for a worker's next call. -/
def oneKeyCheck (s : World) : Program Reply → Bool
  | .call (.sql (.commit (.insertObligation _ req _ _ :: _))) _ => s.db.obligations.all (fun o =>
    !decide (o.organizationId = req.organizationId ∧ varchar 255 req.eventId = some o.eventId) ||
      decide (varchar 255 req.idempotencyKey = some o.idempotencyKey))
  | _ => true

/-- A column stores a text as its type does. -/
theorem column_ok_iff {n : Nat} {text stored : String} : column n text = .ok stored ↔ varchar n text = some stored := by
  unfold Payments.column
  cases varchar n text with
  | none => simp
  | some x => simp

theorem oneKeyCheck_allows (cfg : machine.Config) (e : machine.Event)
    (h : cfg.live.all (fun x => oneKeyCheck cfg.state x.rest) = true) : oneKey.Allows cfg e := by
  cases e with
  | start c => exact trivial
  | crash w => exact trivial
  | call w ch =>
    intro x hx _ o k hk
    have hcheck := List.all_eq_true.1 h x hx
    rw [hk] at hcheck
    unfold oneKey
    dsimp only
    split
    · intro o ho horg hevent
      simp only [oneKeyCheck, List.all_eq_true, Bool.or_eq_true, Bool.not_eq_true', decide_eq_false_iff_not, decide_eq_true_eq]
        at hcheck
      rcases hcheck o ho with hno | hkey
      · exact absurd ⟨horg, column_ok_iff.1 hevent⟩ hno
      · exact column_ok_iff.2 hkey
    · exact trivial

/-- Two events, each under its own key. -/
def twoEvents : List machine.Event := [create 0 "event-1" "key-1" .block] ++ goWell 0 5 ++ [create 1 "event-2" "key-2" .block] ++ goWell 1 5

/-- The theorem at a run with two events. -/
theorem one_obligation_per_event_two : ∃ cfg, machine.Run oneKey (.init machine .empty) cfg ∧
    cfg.state.db.obligations.map (·.eventId) = ["event-1", "event-2"] ∧ OnePerEvent cfg.state.db := by
  obtain ⟨cfg, hrun, htest⟩ := Machine.Config.replay_any oneKeyCheck_allows twoEvents (.init machine .empty)
    (fun cfg => decide (cfg.state.db.obligations.map (·.eventId) = ["event-1", "event-2"])) (by decide +kernel)
  exact ⟨cfg, hrun, of_decide_eq_true htest, (one_obligation_per_event cfg hrun).1⟩

/-- One event under two keys. -/
def twoKeys : List machine.Event := [create 0 "event-1" "key-1" .block] ++ goWell 0 5 ++ [create 1 "event-1" "key-2" .block] ++ goWell 1 5

/-- An event that is sent under two keys has two obligations. -/
theorem two_obligations : ¬ ∀ cfg, machine.Run (.any machine) (.init machine .empty) cfg → OnePerEvent cfg.state.db := by
  intro h
  obtain ⟨cfg, hrun, htest⟩ := Machine.Config.replay_any (fun cfg e _ => Machine.Cond.allows_any cfg e) twoKeys (.init machine .empty)
    (fun cfg => decide ((cfg.state.db.obligations.filter
      (fun o => decide (o.organizationId = "lyrica" ∧ o.eventId = "event-1"))).length = 2))
    (show ((Machine.Config.init machine .empty).replay (fun _ _ => true) twoKeys).any _ = true by decide +kernel)
  have hle := h cfg hrun "lyrica" "event-1"
  rw [of_decide_eq_true htest] at hle
  omega

/-! ## Release -/

/-- A stored payout has the owner and the amount of its share. -/
structure PaidAs (share : Payout) (row : PayoutRow) : Prop where
  ownerId : column 255 share.ownerId = .ok row.ownerId
  amount : (row.amount : ℚ) = share.amount * 10000

theorem Paid.as {id : Uuid} {share : Payout} {row : PayoutRow} (h : Paid id share row) (hcents : Cents share.amount) :
    PaidAs share row := by
  refine ⟨h.ownerId, ?_⟩
  obtain ⟨n, hn⟩ := hcents
  have hamount := h.amount
  have hnum : Decimal.fin share.amount = .ofNumeric (n * 100) := by
    unfold Decimal.ofNumeric
    rw [hn]
    congr 1
    push_cast
    ring
  rw [hnum] at hamount
  rw [positive_ofNumeric hamount, hn]
  push_cast
  ring

/-- The payouts an obligation's status calls for: one for each split, with the amount the money math gives it. -/
def PaidBySplits (o : ObligationRow) (payouts : List PayoutRow) : Prop :=
  ∃ shares, computeRoyalty (o.amount / 10000) o.splits = .ok shares ∧ shares.map (·.ownerId) = o.splits.map (·.ownerId) ∧
    List.Forall₂ PaidAs shares payouts

theorem PaysOut.bySplits {o : ObligationRow} {payouts : List PayoutRow} (h : PaysOut o payouts) (hst : o.status = .posted) :
    PaidBySplits o payouts := by
  unfold PaysOut at h
  rw [hst] at h
  obtain ⟨shares, hshares, hpaid⟩ := h
  refine ⟨shares, hshares, computeRoyalty_owners hshares, ?_⟩
  have hcents := computeRoyalty_cents hshares
  clear hshares
  induction hpaid with
  | nil => exact .nil
  | cons hp _ ih => exact .cons (hp.as (hcents _ (List.mem_cons_self ..))) (ih (fun p hp => hcents p (List.mem_cons_of_mem _ hp)))

theorem PaysOut.none {o : ObligationRow} {payouts : List PayoutRow} (h : PaysOut o payouts)
    (hst : o.status = .held ∨ o.status = .blocked) : payouts = [] := by
  unfold PaysOut at h
  rcases hst with hst | hst
  · rw [hst] at h
    exact h
  · rw [hst] at h
    exact h.1

/-- Every obligation of a state is in a later one, the same or moved on. -/
def MovesOn (s s' : World) : Prop := ∀ o ∈ s.db.obligations, ∃ o' ∈ s'.db.obligations, Later o o'

/-- Obligations of records are rows of the table. -/
theorem mem_of_record {d : Tables} {id : Uuid} {o : ObligationRow} (h : (d.record id).rows = [o]) : o ∈ d.obligations ∧ o.id = id :=
  mem_record_rows.1 (h ▸ List.mem_singleton_self o)

/-- In every run of the service, whatever the calls and however their steps, faults and crashes are interleaved: a POSTED
obligation has one payout for each split, with the amount of the money math, and a HELD or BLOCKED one has none; obligations only
move on, from HELD to POSTED and from either to REVERSED; and a release returns only when it found its obligation HELD or POSTED,
and leaves it POSTED unless it was reversed since. -/
theorem release_discipline (cfg : machine.traced.Config)
    (hrun : machine.traced.Run (.any _) (.init _ (World.empty, [])) cfg) :
    (∀ o ∈ cfg.state.1.db.obligations, (o.status = .posted → PaidBySplits o (cfg.state.1.db.payoutsOf o.id)) ∧
      (o.status = .held ∨ o.status = .blocked → cfg.state.1.db.payoutsOf o.id = [])) ∧
    (Trace.states cfg.state).Pairwise MovesOn ∧
    ∀ w a s uuid eventId key, cfg.Ends (.any _) w (.ok a) s → w.call = .releaseObligation uuid eventId key →
      ∃ row, Found s w.id eventId row ∧ (row.status = .held ∨ row.status = .posted) ∧ a.obligation.id = row.id ∧
        ∃ o ∈ s.1.db.obligations, o.id = row.id ∧ (o.status = .posted ∨ o.status = .reversed) := by
  have hsound : (outline False).Sound (.any machine.traced) := outline_sound (fun h => h.elim)
  have hinit : (outline False).inv (World.empty, []) := sound_empty
  have hinv : Sound cfg.state.1 := Machine.Outline.run_inv hsound hinit hrun
  refine ⟨fun o ho => ?_, ?_, ?_⟩
  · obtain ⟨-, hpays, -⟩ := hinv.row ho
    exact ⟨hpays.bySplits, hpays.none⟩
  · -- a state's records are those of a run's state, where every stored obligation has its one row
    have hstates : ∀ x ∈ Trace.states cfg.state, Sound x := history_sound hsound hrun
    have hlater := history_later hsound hrun
    refine hlater.imp_of_mem (fun {x y} hx _ hxy o ho => ?_)
    obtain ⟨o', ho', hl⟩ := (hxy o.id).rows o ((hstates x hx).row ho).1
    exact ⟨o', (mem_of_record ho').1, hl⟩
  · intro w a s uuid eventId key hends hcall
    obtain ⟨-, hpost⟩ := Machine.Outline.ends hsound hinit hrun hends
    unfold outline at hpost
    dsimp only at hpost
    rw [hcall] at hpost
    obtain ⟨row, hfound, hstatus, hid, o, ho, hst⟩ := hpost a rfl
    obtain ⟨hmem, hoid⟩ := mem_of_record ho
    exact ⟨row, hfound, hstatus, hid, o, hmem, hoid, hst⟩

/-- A royalty is held, and released. -/
def heldEvents : List machine.traced.Event :=
  tracedEvents ([create 0 "event-1" "key-1" .hold] ++ goWell 0 10 ++ [release 1 "event-1" "release-1"] ++ goWell 1 11)

/-- The theorem at a run that releases a HELD obligation. -/
theorem release_discipline_held : ∃ cfg, machine.traced.Run (.any _) (.init _ (World.empty, [])) cfg ∧
    cfg.state.1.db.obligations.map (·.status) = [.posted] ∧ cfg.state.1.db.payouts.map (·.amount) = [7500, 5000] ∧
    ∀ o ∈ cfg.state.1.db.obligations, o.status = .posted → PaidBySplits o (cfg.state.1.db.payoutsOf o.id) := by
  obtain ⟨cfg, hrun, htest⟩ := Machine.Config.replay_any (fun cfg e _ => Machine.Cond.allows_any cfg e) heldEvents
    (.init machine.traced (World.empty, []))
    (fun cfg => decide (cfg.state.1.db.obligations.map (·.status) = [.posted] ∧
      cfg.state.1.db.payouts.map (·.amount) = [7500, 5000]))
    (show ((Machine.Config.init machine.traced (World.empty, [])).replay (fun _ _ => true) heldEvents).any _ = true by decide +kernel)
  obtain ⟨hstatus, hamounts⟩ := of_decide_eq_true htest
  exact ⟨cfg, hrun, hstatus, hamounts, fun o ho => ((release_discipline cfg hrun).1 o ho).1⟩

/-- A royalty is allowed, and then released. -/
def allowedEvents : List machine.traced.Event :=
  tracedEvents ([create 0 "event-1" "key-1" .allow] ++ goWell 0 12 ++ [release 1 "event-1" "release-1"] ++ goWell 1 4)

/-- A release of an obligation that was never HELD returns. -/
theorem released_never_held : ¬ ∀ cfg, machine.traced.Run (.any _) (.init _ (World.empty, [])) cfg →
    ∀ w a s uuid eventId key, cfg.Ends (.any _) w (.ok a) s → w.call = .releaseObligation uuid eventId key →
      ∃ x ∈ Trace.states s, ∃ o ∈ x.db.obligations, o.id = a.obligation.id ∧ o.status = .held := by
  intro h
  obtain ⟨cfg, hrun, htest⟩ := Machine.Config.replay_any (fun cfg e _ => Machine.Cond.allows_any cfg e) allowedEvents
    (.init machine.traced (World.empty, []))
    (fun cfg => (cfg.returned 1 (goes 300 .none)).any (fun r =>
      (match r.1.call with
        | .releaseObligation _ _ _ => true
        | _ => false) &&
      (Trace.states r.2.2).all (fun x => x.db.obligations.all (fun o => !decide (o.status = .held)))))
    (show ((Machine.Config.init machine.traced (World.empty, [])).replay (fun _ _ => true) allowedEvents).any _ = true by
      decide +kernel)
  obtain ⟨⟨x, a, s⟩, hret, hcheck⟩ := (Option.any_eq_true _ _).1 htest
  rw [Bool.and_eq_true] at hcheck
  obtain ⟨hcall, hnever⟩ := hcheck
  split at hcall
  · rename_i uuid eventId key hx
    obtain ⟨y, hy, o, ho, -, hheld⟩ := h cfg hrun x a s uuid eventId key (Machine.Config.returns_of_returned hret).ends hx
    have hnot := List.all_eq_true.1 (List.all_eq_true.1 hnever y hy) o ho
    simp [hheld] at hnot
  · cases hcall

/-! ## Reversal -/

/-- How many transactions of the ledger reverse one. -/
def reversalsOf (posts : List Ledger.Post) (t : Uuid) : Nat := (posts.filter (fun p => decide (p.reverses = some t))).length

/-- A reversal starts only with a key that fits its column, that no open call has and that is stored for no other event; and the
ledger is asked to reverse a transaction only while it has no reversal of it, left by a call that did not come to its commit. -/
def onceAndApart : machine.traced.Cond where
  start cfg c := Startable cfg.state.1 c ∧ ∀ x ∈ cfg.live, Apart c x.call
  step _ o s :=
    match o with
    | .ledger _ (.reverse _ t _) => ∀ u, t.value = some u → reversalsOf s.1.ledger.posts u = 0
    | _ => True

/-- A reversal is asked for once. -/
theorem reversalsOf_step {w : Nat} {o : Action} {ch : Choice} {s s' : World} {r : Except RoyaltyError o.Result} {log : List machine.Entry}
    (hs : Sound s) (hC : onceAndApart.step w o (s, log)) (h : ∀ t, reversalsOf s.ledger.posts t ≤ 1)
    (he : exec w o ch s = some (r, s')) : ∀ t, reversalsOf s'.ledger.posts t ≤ 1 := by
  intro t
  have ht := h t
  rcases exec_posts hs he with hposts | ⟨p, hposts, hp⟩ | ⟨p, asked, organizationId, t', reason, u, hposts, hp, rfl, hu⟩
  · rw [hposts]
    exact ht
  · unfold reversalsOf at ht ⊢
    rw [hposts, List.filter_append, List.filter_cons_of_neg (by simp [hp])]
    simpa using ht
  · have hnone : reversalsOf s.ledger.posts u = 0 := hC u hu
    unfold reversalsOf at ht hnone ⊢
    rw [hposts, List.filter_append, List.length_append]
    by_cases htu : t = u
    · subst htu
      rw [hnone, List.filter_cons_of_pos (by simp [hp])]
      simp
    · have hne : ¬ u = t := fun h => htu h.symm
      rw [List.filter_cons_of_neg (by simp [hp, hne])]
      simpa using ht

/-- A reversal that ended: when its key is stored, it returned the obligation the key is stored for, or a statement failed; and
when it returned, the obligation is one of the event it was asked to reverse. -/
structure AnsweredByKey (eventId key : String) (out : Except RoyaltyError Reply) (s : World) : Prop where
  replayed : ∀ r ∈ s.db.reversals, r.reversalIdempotencyKey = key →
    (∃ a, out = .ok a ∧ a.obligation.id = r.reversedObligationId) ∨ ∃ e, out = .error (.database e)
  event : ∀ a, out = .ok a → ∃ o ∈ s.db.obligations, o.id = a.obligation.id ∧ o.eventId = eventId

/-- A royalty is paid, and reversed twice: the first reversal crashes between the ledger's reversal and its commit. -/
def crashedReversal : List machine.traced.Event :=
  tracedEvents ([create 0 "event-1" "key-1" .allow] ++ goWell 0 12 ++ [reverse 1 "event-1" "reversal-1"] ++ goWell 1 4 ++ [.crash 1] ++
    [reverse 2 "event-1" "reversal-1"] ++ goWell 2 6)

/-- A royalty is paid, and two calls with one key reverse it: the second looks its key up before the first commits. -/
def racedReversal : List machine.traced.Event :=
  tracedEvents ([create 0 "event-1" "key-1" .allow] ++ goWell 0 12 ++ [reverse 1 "event-1" "reversal-1", reverse 2 "event-1" "reversal-1"] ++
    goWell 2 2 ++ goWell 1 7 ++ [.call 2 (goes 400 .none), .call 2 (goes 401 .none)])

/-- Two royalties are paid, and the key that reversed the first is used for the second. -/
def borrowedKey : List machine.traced.Event :=
  tracedEvents ([create 0 "event-1" "key-1" .allow] ++ goWell 0 12 ++ [create 1 "event-2" "key-2" .allow] ++ goWell 1 9 ++
    [reverse 2 "event-1" "reversal-1"] ++ goWell 2 7 ++ [reverse 3 "event-2" "reversal-1"] ++ goWell 3 5)

/-- The call reverses an event under a key, computed. -/
def isReversal (c : Call) (eventId key : String) : Bool :=
  match c with
  | .reverseObligation _ e _ k _ => decide (e = eventId ∧ k = key)
  | _ => false

theorem reversal_of_isReversal {c : Call} {eventId key : String} (h : isReversal c eventId key = true) :
    ∃ uuid reversalEventId reason, c = .reverseObligation uuid eventId reversalEventId key reason := by
  cases c with
  | reverseObligation uuid e re k reason =>
    obtain ⟨rfl, rfl⟩ := of_decide_eq_true h
    exact ⟨uuid, re, reason, rfl⟩
  | _ => cases h

/-- The call was refused for the state of the obligation, computed. -/
def isRefused : Except RoyaltyError Reply → Bool
  | .error (.named .royaltyInvalidStateError _) => true
  | _ => false

/-- A run whose calls go any way, replayed. -/
theorem replay_traced (es : List machine.traced.Event) (test : machine.traced.Config → Bool)
    (h : ((Machine.Config.init machine.traced (World.empty, [])).replay (fun _ _ => true) es).any test = true) :
    ∃ cfg, machine.traced.Run (.any _) (.init _ (World.empty, [])) cfg ∧ test cfg = true :=
  Machine.Config.replay_any (fun cfg e _ => Machine.Cond.allows_any cfg e) es (.init machine.traced (World.empty, [])) test h

/-- `onceAndApart`, computed, for calls one after another. -/
def onceCheck (cfg : machine.traced.Config) : machine.traced.Event → Bool
  | .start (.reverseObligation _ eventId _ key _) => cfg.live.isEmpty && decide (key.length ≤ 255) &&
    cfg.state.1.db.reversals.all (fun r => !decide (r.reversalIdempotencyKey = key) ||
      decide ((cfg.state.1.db.record r.reversedObligationId).rows.map (·.eventId) = [eventId]))
  | .call _ _ => cfg.live.all (fun x => match x.rest with
    | .call (.ledger _ (.reverse _ t _)) _ => t.value.all (fun u => decide (reversalsOf cfg.state.1.ledger.posts u = 0))
    | _ => true)
  | _ => true

theorem onceCheck_allows (cfg : machine.traced.Config) (e : machine.traced.Event) (h : onceCheck cfg e = true) :
    onceAndApart.Allows cfg e := by
  cases e with
  | start c =>
    cases c with
    | reverseObligation uuid eventId reversalEventId key reason =>
      simp only [onceCheck, Bool.and_eq_true, decide_eq_true_eq, List.all_eq_true, Bool.or_eq_true, Bool.not_eq_true',
        decide_eq_false_iff_not] at h
      obtain ⟨⟨hempty, hfits⟩, hevents⟩ := h
      refine ⟨⟨hfits, fun r hr hkey => ?_⟩, fun x hx => ?_⟩
      · rcases hevents r hr with hno | hrows
        · exact absurd hkey hno
        · obtain ⟨o, ho, hevent⟩ := List.map_eq_singleton_iff.1 hrows
          exact ⟨o, ho, hevent⟩
      · rw [List.isEmpty_iff.1 hempty] at hx
        cases hx
    | _ => exact ⟨trivial, fun x _ key key' hkey _ => by cases hkey⟩
  | call w ch =>
    intro x hx _ o k hk
    have hcheck := List.all_eq_true.1 h x hx
    unfold onceAndApart
    dsimp only
    split
    · intro u hu
      rw [hk] at hcheck
      simpa [hu] using hcheck
    · exact trivial
  | crash w => exact trivial

/-- A royalty is paid, reversed, and its reversal repeated. -/
def repeatedReversal : List machine.traced.Event :=
  tracedEvents ([create 0 "event-1" "key-1" .allow] ++ goWell 0 12 ++ [reverse 1 "event-1" "reversal-1"] ++ goWell 1 7 ++
    [reverse 2 "event-1" "reversal-1"] ++ goWell 2 5)

/-- The ledger transactions posted for an obligation along a run: those its row named in any state, and those of its reversals. -/
def postingsOf (s : Trace) (id : Uuid) : Finset Uuid :=
  ((Trace.states s).flatMap (fun x => (x.db.record id).rows.filterMap (·.ledgerTransactionId)) ++
    (s.1.db.record id).reversals.map (·.reversalLedgerTransactionId)).toFinset

/-- The signed sum, on one account, of the entries posted for an obligation. -/
def netEffect (s : Trace) (id account : Uuid) : Int := ∑ t ∈ postingsOf s id, Ledger.effect s.1.ledger.entries t account

/-- A release is committed only with the ledger transaction that the obligation has: none takes a HELD obligation to POSTED with a
transaction of its own. -/
def unreleased : machine.traced.Cond where
  start _ _ := True
  step _ o s :=
    match o with
    | .sql (.commit (.post id t :: _)) => ∀ o ∈ s.1.db.obligations, o.id = id → o.ledgerTransactionId = some t
    | _ => True

/-- Every obligation of a state keeps its ledger transaction. -/
def KeepsLedger (s s' : World) : Prop :=
  ∀ id o, (s.db.record id).rows = [o] → ∃ o', (s'.db.record id).rows = [o'] ∧ o'.ledgerTransactionId = o.ledgerTransactionId

theorem KeepsLedger.trans {s s' s'' : World} (h : KeepsLedger s s') (h' : KeepsLedger s' s'') : KeepsLedger s s'' := by
  intro id o ho
  obtain ⟨o', ho', ht⟩ := h id o ho
  obtain ⟨o'', ho'', ht'⟩ := h' id o' ho'
  exact ⟨o'', ho'', ht'.trans ht⟩

theorem keepsLedger_of_eq {s s' : World} (h : s'.db = s.db) : KeepsLedger s s' := by
  intro id o ho
  rw [h]
  exact ⟨o, ho, rfl⟩

/-- Every call keeps the obligations' ledger transactions, when no release changes one. -/
theorem keepsLedger_step {w : Nat} {o : Action} {ch : Choice} {s s' : World} {r : Except RoyaltyError o.Result} {log : List machine.Entry}
    (ho : o.Proper) (hC : unreleased.step w o (s, log)) (he : exec w o ch s = some (r, s')) : KeepsLedger s s' := by
  cases o with
  | ledger asked q =>
    rcases exec_ledger he with ⟨rfl, -⟩ | ⟨hstore, -⟩
    · exact keepsLedger_of_eq rfl
    · exact keepsLedger_of_eq (congrArg Store.tables hstore)
  | sql o =>
    obtain ⟨-, hdb | ⟨ws, rfl, hws⟩⟩ := exec_sql_tables he
    · exact keepsLedger_of_eq hdb
    · intro id' o' ho'
      cases ho with
      | nothing =>
        rw [← Except.ok.inj hws]
        exact ⟨o', ho', rfl⟩
      | create uuid id req status t payouts =>
        obtain ⟨row, rows, hd, hmade, hpaid⟩ := writes_create hws
        have hne : id' ≠ id := by
          rintro rfl
          obtain ⟨hmem, hid⟩ := mem_of_record ho'
          exact hmade.fresh o' hmem hid
        rw [hd, record_create hmade hpaid, if_neg hne]
        exact ⟨o', ho', rfl⟩
      | release uuid id t payouts =>
        obtain ⟨rows, hd, hpaid⟩ := writes_release hws
        rw [hd, record_release hpaid]
        by_cases hid : id' = id
        · subst hid
          rw [if_pos rfl, ho']
          obtain ⟨hmem, hid⟩ := mem_of_record ho'
          exact ⟨_, rfl, (hC o' hmem hid).symm⟩
        · rw [if_neg hid]
          exact ⟨o', ho', rfl⟩
      | reverse id reversalId eventId key t =>
        obtain ⟨row, hd, hrow⟩ := writes_reverse hws
        rw [hd, record_reverse hrow]
        by_cases hid : id' = id
        · subst hid
          rw [if_pos rfl, ho']
          exact ⟨_, rfl, rfl⟩
        · rw [if_neg hid]
          exact ⟨o', ho', rfl⟩

/-- Along every run under the condition obligations keep their ledger transactions. -/
theorem history_keepsLedger {cfg : machine.traced.Config}
    (hrun : machine.traced.Run unreleased (.init _ (World.empty, [])) cfg) :
    (Trace.states cfg.state).Pairwise KeepsLedger := by
  have hsound : (outline False).Sound unreleased := outline_sound (fun h => h.elim)
  have hinit : (outline False).inv (World.empty, []) := sound_empty
  refine hsound.keeps_calls (A := Action.Proper) (J := fun s => (Trace.states s).Pairwise KeepsLedger) program_proper ?_ ?_ hinit ?_ hrun
  · intro w c o ch s r s' ho hC _ _ hs he
    refine states_pairwise (fun _ _ _ h h' => h.trans h') hs (states_after he) ?_
    exact keepsLedger_step ho hC (traced_exec he).1
  · intro w s _ hs
    refine states_crash (fun a b b' hb h id o ho => ?_) hs
    rw [show b'.db = b.db from hb]
    exact h id o ho
  · exact List.pairwise_singleton _ _

/-- A royalty is held, released and reversed. -/
def releasedReversal : List machine.traced.Event :=
  tracedEvents ([create 0 "event-1" "key-1" .hold] ++ goWell 0 10 ++ [release 1 "event-1" "release-1"] ++ goWell 1 11 ++
    [reverse 2 "event-1" "reversal-1"] ++ goWell 2 7)

/-- `unreleased`, computed. -/
def unreleasedCheck (cfg : machine.traced.Config) (_ : machine.traced.Event) : Bool :=
  cfg.live.all (fun x => match x.rest with
    | .call (.sql (.commit (.post id t :: _))) _ =>
      cfg.state.1.db.obligations.all (fun o => !decide (o.id = id) || decide (o.ledgerTransactionId = some t))
    | _ => true)

theorem unreleasedCheck_allows (cfg : machine.traced.Config) (e : machine.traced.Event) (h : unreleasedCheck cfg e = true) :
    unreleased.Allows cfg e := by
  cases e with
  | start c => exact trivial
  | crash w => exact trivial
  | call w ch =>
    intro x hx _ o k hk
    have hcheck := List.all_eq_true.1 h x hx
    unfold unreleased
    dsimp only
    split
    · intro o ho hid
      rw [hk] at hcheck
      have hrow := List.all_eq_true.1 hcheck o ho
      simpa [hid] using hrow
    · exact trivial

/-- Requests of an organization, made one after another on two databases that hold the same rows of it, are answered alike and
leave the rows of the others, when they name no event and no key of another organization's rows. -/
theorem organization_isolated (organizationId : String) {d d' : Tables} (hd : d.Constrained) (hd' : d'.Constrained)
    (hown : d.ofOrg organizationId = d'.ofOrg organizationId) (locks : List (Nat × Uuid)) (ledger : Ledger.Tables)
    (cs : List (Call × (Nat → Choice))) (hfor : ∀ c ∈ cs, c.1.MadeFor organizationId)
    (hspare : ∀ c ∈ cs, c.1.Spares (d.ofOthers organizationId)) (hspare' : ∀ c ∈ cs, c.1.Spares (d'.ofOthers organizationId)) :
    Prog.Alike (fun _ s s' => s.db.ofOthers organizationId = d.ofOthers organizationId ∧
        s'.db.ofOthers organizationId = d'.ofOthers organizationId)
      (responses cs ⟨⟨d, locks⟩, ledger⟩) (responses cs ⟨⟨d', locks⟩, ledger⟩) := by
  have hbeside : Beside organizationId (d.ofOthers organizationId) ⟨⟨d, locks⟩, ledger⟩ ⟨⟨d.ofOrg organizationId, locks⟩, ledger⟩ :=
    ⟨⟨rfl, rfl, hd⟩, rfl, rfl⟩
  have hbeside' : Beside organizationId (d'.ofOthers organizationId) ⟨⟨d', locks⟩, ledger⟩ ⟨⟨d.ofOrg organizationId, locks⟩, ledger⟩ :=
    ⟨⟨hown.symm, rfl, hd'⟩, rfl, rfl⟩
  rcases responses_alike hbeside hfor hspare with ⟨hs, ht⟩ | ⟨rs, s, t, hs, ht, h⟩
  · rcases responses_alike hbeside' hfor hspare' with ⟨hs', -⟩ | ⟨rs', s', t', -, ht', -⟩
    · exact Or.inl ⟨hs, hs'⟩
    · rw [ht] at ht'
      cases ht'
  · rcases responses_alike hbeside' hfor hspare' with ⟨-, ht'⟩ | ⟨rs', s', t', hs', ht', h'⟩
    · rw [ht] at ht'
      cases ht'
    · rw [ht] at ht'
      cases ht'
      exact Or.inr ⟨rs, s, s', hs, hs', h.tables.rest, h'.tables.rest⟩

/-- A held obligation of another organization. -/
def rivalTables : Tables :=
  ⟨[⟨900, "rival", "event-2", "corr-2", "key-2", "rival", "track-2", "creator-2", 12500, "USD", [⟨"owner-c", 10000⟩], .held, "policy-1", 0,
    [], some 901, "hash-2"⟩], [], []⟩

theorem rivalTables_constrained : rivalTables.Constrained :=
  ⟨by decide, fun _ hp => absurd hp List.not_mem_nil, fun _ hr => absurd hr List.not_mem_nil⟩

/-- A royalty is held, released, reversed and looked up. -/
def ownRequests : List (Call × (Nat → Choice)) :=
  [(.createObligation (fun i => i) (playRequest "event-1" "key-1" .hold), fun i => goes (100 + i) .none),
    (.releaseObligation (fun i => 100 + i) "event-1" "release-1", fun i => goes (200 + i) .none),
    (.reverseObligation (fun i => 200 + i) "event-1" "reversal of event-1" "reversal-1" "requested", fun i => goes (300 + i) .none),
    (.getObligationByEventId "event-1", fun i => goes (400 + i) .none)]

/-- Whether requests were answered without an error. -/
def answered (x : Option (List (Except RoyaltyError Reply) × World)) : Option (List Bool) := x.map (fun r => r.1.map (·.isOk))

/-- The theorem at an organization's requests on an empty database, and beside another organization's obligation. -/
theorem organization_isolated_play :
    answered (responses ownRequests ⟨⟨.empty, []⟩, .empty⟩) = some [true, true, true, true] ∧
    Prog.Alike (fun _ _ s' => s'.db.ofOthers "lyrica" = rivalTables.ofOthers "lyrica")
      (responses ownRequests ⟨⟨.empty, []⟩, .empty⟩) (responses ownRequests ⟨⟨rivalTables, []⟩, .empty⟩) := by
  refine ⟨by decide +kernel, (organization_isolated "lyrica" ⟨by decide, ?_, ?_⟩ rivalTables_constrained (by decide) [] .empty
    ownRequests ?_ ?_ ?_).mono (fun _ _ _ h => h.2)⟩
  · exact fun _ hp => absurd hp List.not_mem_nil
  · exact fun _ hr => absurd hr List.not_mem_nil
  · simp [ownRequests, Call.MadeFor, playRequest]
  · simp [ownRequests, Call.Spares, Tables.ofOthers, Tables.part, Tables.empty]
  · simp [ownRequests, Call.Spares, Tables.ofOthers, Tables.part, rivalTables, playRequest]
    decide

/-- A request of an organization is answered with the obligation of another, and a release changes it. -/
theorem organization_not_isolated :
    (¬ ∀ (organizationId : String) (d d' : Tables), d.Constrained → d'.Constrained → d.ofOrg organizationId = d'.ofOrg organizationId →
      ∀ (ledger : Ledger.Tables) (cs : List (Call × (Nat → Choice))), (∀ c ∈ cs, c.1.MadeFor organizationId) →
        Prog.Alike (fun _ _ _ => True) (responses cs ⟨⟨d, []⟩, ledger⟩) (responses cs ⟨⟨d', []⟩, ledger⟩)) ∧
    ¬ ∀ (organizationId : String) (d : Tables), d.Constrained → ∀ (ledger : Ledger.Tables) (cs : List (Call × (Nat → Choice))),
      (∀ c ∈ cs, c.1.MadeFor organizationId) → ∀ rs s, responses cs ⟨⟨d, []⟩, ledger⟩ = some (rs, s) →
        s.db.ofOthers organizationId = d.ofOthers organizationId := by
  refine ⟨fun h => ?_, fun h => ?_⟩
  · have halike := h "lyrica" .empty rivalTables ⟨by decide, fun _ hp => absurd hp List.not_mem_nil, fun _ hr => absurd hr List.not_mem_nil⟩
      rivalTables_constrained (by decide) .empty [(.getObligationByEventId "event-2", fun i => goes i .none)]
      (by simp [Call.MadeFor])
    have hnot : answered (responses [(.getObligationByEventId "event-2", fun i => goes i .none)] ⟨⟨.empty, []⟩, .empty⟩) =
      some [false] := by decide +kernel
    have hfound : answered (responses [(.getObligationByEventId "event-2", fun i => goes i .none)] ⟨⟨rivalTables, []⟩, .empty⟩) =
      some [true] := by decide +kernel
    rcases halike with ⟨hs, -⟩ | ⟨rs, s, t, hs, ht, -⟩
    · rw [hs] at hnot
      cases hnot
    · rw [hs] at hnot
      rw [ht] at hfound
      rw [show answered (some (rs, s)) = answered (some (rs, t)) from rfl, hfound] at hnot
      cases hnot
  · have htest : (responses [(.releaseObligation (fun i => 100 + i) "event-2" "release-1", fun i => goes (200 + i) .none)]
        ⟨⟨rivalTables, []⟩, .empty⟩).any (fun r => !decide (r.2.db.ofOthers "lyrica" = rivalTables.ofOthers "lyrica")) = true := by
      decide +kernel
    obtain ⟨⟨rs, s⟩, hs, hchanged⟩ := (Option.any_eq_true _ _).1 htest
    have hsame := h "lyrica" rivalTables rivalTables_constrained .empty _ (by simp [Call.MadeFor]) rs s hs
    simp [hsame] at hchanged

end Royalty

end Archisynapse
