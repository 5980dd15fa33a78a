import Archisynapse.Lemmas.RoyaltyState

/-!
# Runs of the royalty service

Every call of the service keeps the state in order (`Sound`) and leaves alone what the others hold (`outline_sound`). A release
returns only when the row it found was HELD or POSTED. While no two reversals with one key are open at once (`keyed`), a reversal
whose key is stored is answered with the obligation it was stored for.
-/

namespace Archisynapse

namespace Royalty

open Payments (column)

/-! ## The outline -/

/-- The state of a run: the world and the calls that were made. -/
abbrev Trace : Type := World × List machine.Entry

/-- The key of a reversal. -/
def Call.reversalKey : Call → Option String
  | .reverseObligation _ _ _ key _ => some key
  | _ => none

/-- What a call adds to the reversals it adds under its own key. -/
def Claims (c : Call) (s s' : World) : Prop :=
  ∀ r ∈ s'.db.reversals, r ∉ s.db.reversals → ∃ key, c.reversalKey = some key ∧ column 255 key = .ok r.reversalIdempotencyKey

/-- No one else adds a reversal under a call's key. -/
def Unclaimed (c : Call) (s s' : World) : Prop :=
  ∀ key, c.reversalKey = some key → ∀ r ∈ s'.db.reversals, r.reversalIdempotencyKey = key → r ∈ s.db.reversals

variable {keyed : Prop}

/-- What a call counts on. -/
structure Rely (keyed : Prop) (w : Nat) (c : Call) (s s' : Trace) : Prop where
  steady : Steady w s.1 s'.1
  log : s.2 <+: s'.2
  unclaimed : keyed → Unclaimed c s.1 s'.1

/-- What a call leaves to the others. -/
structure Guar (w : Nat) (c : Call) (s s' : Trace) : Prop where
  steady : ∀ w', w' ≠ w → Steady w' s.1 s'.1
  log : s.2 <+: s'.2
  claims : Claims c s.1 s'.1

theorem Unclaimed.refl (c : Call) (s : World) : Unclaimed c s s := fun _ _ _ h _ => h

theorem Unclaimed.trans {c : Call} {s s' s'' : World} (h : Unclaimed c s s') (h' : Unclaimed c s' s'') : Unclaimed c s s'' :=
  fun key hc r hr hk => h key hc r (h' key hc r hr hk) hk

theorem Rely.refl (w : Nat) (c : Call) (s : Trace) : Rely keyed w c s s :=
  ⟨.refl w s.1, List.prefix_rfl, fun _ => .refl c s.1⟩

theorem Rely.trans {w : Nat} {c : Call} {s s' s'' : Trace} (h : Rely keyed w c s s') (h' : Rely keyed w c s' s'') :
    Rely keyed w c s s'' :=
  ⟨h.steady.trans h'.steady, h.log.trans h'.log, fun hk => (h.unclaimed hk).trans (h'.unclaimed hk)⟩

/-- What a call found when it looked an event's rows up. -/
def Found (s : Trace) (w : Nat) (eventId : String) (row : ObligationRow) : Prop :=
  ∃ before, (⟨w, .sql (.lockByEvent eventId), .ok (some row), before⟩ : machine.Entry) ∈ s.2

/-- A reversal is one of an obligation of an event. -/
def OfEvent (s : World) (r : ReversalRow) (eventId : String) : Prop :=
  ∃ o, (s.db.record r.reversedObligationId).rows = [o] ∧ o.eventId = eventId

/-- What holds when a call has ended. -/
def Post (keyed : Prop) (w : Nat) (c : Call) (out : Except RoyaltyError Reply) (s : Trace) : Prop :=
  match c with
  | .releaseObligation _ eventId _ => ∀ a, out = .ok a → ∃ row, Found s w eventId row ∧
      (row.status = .held ∨ row.status = .posted) ∧ a.obligation.id = row.id ∧
      ∃ o, (s.1.db.record row.id).rows = [o] ∧ (o.status = .posted ∨ o.status = .reversed)
  | .reverseObligation _ reversedEventId _ key _ => keyed →
      (∀ r ∈ s.1.db.reversals, r.reversalIdempotencyKey = key →
        (∃ a, out = .ok a ∧ a.obligation.id = r.reversedObligationId) ∨ ∃ e, out = .error (.database e)) ∧
      ∀ a, out = .ok a → ∃ r ∈ s.1.db.reversals, r.reversalIdempotencyKey = key ∧ a.obligation.id = r.reversedObligationId ∧
        OfEvent s.1 r reversedEventId
  | _ => True

/-- Calls that are live together have different reversal keys, which fit their column. -/
def Apart (c c' : Call) : Prop :=
  ∀ key key', c.reversalKey = some key → c'.reversalKey = some key' → key ≠ key' ∧ key.length ≤ 255 ∧ key'.length ≤ 255

/-- The outline of runs of the service. -/
def outline (keyed : Prop) : Machine.Outline machine.traced where
  inv s := Sound s.1
  rely := Rely keyed
  guar := Guar
  compat _ c _ c' := keyed → Apart c c'
  post := Post keyed

section

variable {C : machine.traced.Cond} {w : Nat} {c : Call} {s : Trace} {α β : Type}

/-- The calls of a worker. -/
abbrev Does (C : machine.traced.Cond) (w : Nat) := machine.traced.Does C w

/-- The contract of a call. -/
abbrev contract (keyed : Prop) (w : Nat) (c : Call) := (outline keyed).contract w c

/-- What a call keeps of the world. -/
structure Good (w : Nat) (c : Call) (s s' : World) : Prop where
  sound : Sound s'
  steady : ∀ w', w' ≠ w → Steady w' s s'
  claims : Claims c s s'

/-- The state after a call. -/
abbrev after (w : Nat) (o : Action) (r : Except RoyaltyError o.Result) (s : Trace) (s' : World) : Trace :=
  (s', s.2 ++ [⟨w, o, r, s.1⟩])

theorem after_log (w : Nat) (o : Action) (r : Except RoyaltyError o.Result) (s : Trace) (s' : World) :
    s.2 <+: (after w o r s s').2 := List.prefix_append _ _

/-- One call. -/
theorem call_wp {o : Action} {Q : Except RoyaltyError o.Result → Trace → Prop}
    (h : ∀ s₁, Rely keyed w c s s₁ → Sound s₁.1 → ∀ ch r s₂, exec w o ch s₁.1 = some (r, s₂) →
      Good w c s₁.1 s₂ ∧ Q r (after w o r s₁ s₂)) : (step o).wp (Does C w) (contract keyed w c) Q s := by
  unfold step
  rw [Prog.wp_perform]
  rintro s₁ hrely hinv r s₂ ⟨-, ch, he⟩
  obtain ⟨⟨r', s'⟩, he', heq⟩ := Option.map_eq_some_iff.1 he
  cases heq
  obtain ⟨hgood, hQ⟩ := h s₁ hrely hinv ch r' s' he'
  exact ⟨hgood.sound, ⟨hgood.steady, after_log w o r' s₁ s', hgood.claims⟩, hQ⟩

/-! ## Calls that write nothing -/

/-- A statement that writes nothing leaves the tables. -/
theorem reads_db {o : Statement} {r : Except RoyaltyError o.Result} {ch : Choice} {x x' : World} (ho : o.Reads)
    (h : exec w (.sql o) ch x = some (r, x')) : x'.db = x.db := by
  obtain ⟨-, hdb | ⟨ws, rfl, hws⟩⟩ := exec_sql_tables h
  · exact hdb
  · cases ho
    exact (Except.ok.inj hws).symm

theorem claims_of_eq {x x' : World} (h : x'.db = x.db) : Claims c x x' := by
  intro r hr hnew
  rw [h] at hr
  exact absurd hr hnew

theorem unclaimed_of_eq {x x' : World} (h : x'.db = x.db) : Unclaimed c x x' := by
  intro key _ r hr _
  rw [h] at hr
  exact hr

/-- What a call that writes nothing keeps. -/
theorem Good.reads {o : Statement} {r : Except RoyaltyError o.Result} {ch : Choice} {x x' : World} (hs : Sound x) (ho : o.Reads)
    (h : exec w (.sql o) ch x = some (r, x')) : Good w c x x' := by
  obtain ⟨h₁, h₂⟩ := hs.reads ho h
  exact ⟨h₁, h₂, claims_of_eq (reads_db ho h)⟩

theorem Good.ledger {asked : String} {q : Ledger.Request} {r : Except RoyaltyError q.Result} {ch : Choice} {x x' : World}
    (hs : Sound x) (h : exec w (.ledger asked q) ch x = some (r, x')) : Good w c x x' ∧ x'.store = x.store := by
  obtain ⟨h₁, h₂⟩ := hs.ledger h
  have hstore : x'.store = x.store := by
    rcases exec_ledger h with ⟨rfl, -⟩ | ⟨hstore, -⟩
    · rfl
    · exact hstore
  exact ⟨⟨h₁, fun w' _ => h₂ w', claims_of_eq (congrArg Store.tables hstore)⟩, hstore⟩

/-- What stays true while a call goes on, whether or not it holds locks. -/
structure Onward (keyed : Prop) (c : Call) (s s' : Trace) : Prop where
  later : ∀ id, (s.1.db.record id).Later (s'.1.db.record id)
  log : s.2 <+: s'.2
  unclaimed : keyed → Unclaimed c s.1 s'.1

theorem Onward.refl (c : Call) (s : Trace) : Onward keyed c s s := ⟨fun _ => .refl _, List.prefix_rfl, fun _ => .refl c s.1⟩

theorem Onward.trans {s s' s'' : Trace} (h : Onward keyed c s s') (h' : Onward keyed c s' s'') : Onward keyed c s s'' :=
  ⟨fun id => (h.later id).trans (h'.later id), h.log.trans h'.log, fun hk => (h.unclaimed hk).trans (h'.unclaimed hk)⟩

theorem Rely.onward {s s' : Trace} (h : Rely keyed w c s s') : Onward keyed c s s' := ⟨h.steady.later, h.log, h.unclaimed⟩

/-- A call that left the tables. -/
theorem onward_of_eq {s₁ : Trace} {o : Action} {r : Except RoyaltyError o.Result} {x : World} (h : x.db = s₁.1.db) :
    Onward keyed c s₁ (after w o r s₁ x) := by
  refine ⟨fun id => ?_, after_log w o r s₁ x, fun _ => unclaimed_of_eq h⟩
  change (s₁.1.db.record id).Later (x.db.record id)
  rw [h]
  exact .refl _

/-- A statement that writes nothing. -/
theorem reads_wp {o : Statement} (ho : o.Reads) {Q : Except RoyaltyError o.Result → Trace → Prop}
    (hQ : ∀ s₁, Rely keyed w c s s₁ → Sound s₁.1 → ∀ ch r s₂, exec w (.sql o) ch s₁.1 = some (r, s₂) →
      Onward keyed c s (after w (.sql o) r s₁ s₂) → Q r (after w (.sql o) r s₁ s₂)) :
    (query o).wp (Does C w) (contract keyed w c) Q s := by
  refine call_wp (fun s₁ hrely hs ch r s₂ he => ⟨.reads hs ho he, hQ s₁ hrely hs ch r s₂ he ?_⟩)
  exact hrely.onward.trans (onward_of_eq (reads_db ho he))

/-- A statement that writes nothing and whose answer does not matter. -/
theorem reads_onward {o : Statement} (ho : o.Reads) {Q : Except RoyaltyError o.Result → Trace → Prop}
    (hQ : ∀ r s', Onward keyed c s s' → Q r s') : (query o).wp (Does C w) (contract keyed w c) Q s :=
  reads_wp ho (fun _ _ _ _ r _ _ h => hQ r _ h)

/-- The calls of the ledger client. -/
def Action.IsLedger : Action → Prop
  | .ledger _ _ => True
  | _ => False

/-- A program that only asks the ledger: what its worker holds stays as it is. -/
theorem ledger_wp {p : Program α} (hp : p.Calls Action.IsLedger) {Q : Except RoyaltyError α → Trace → Prop}
    (hQ : ∀ r s', Rely keyed w c s s' → Q r s') : p.wp (Does C w) (contract keyed w c) Q s := by
  refine Prog.wp_mono (fun r s' => hQ r s') p (Prog.Calls.wp_moves (R := Rely keyed w c) ?_ ?_ hp (Rely.refl w c s))
  · exact fun _ _ _ h h' => h.trans h'
  · rintro o s₁ r s₂ ho hinv ⟨-, ch, he⟩
    obtain ⟨⟨r', x⟩, he', heq⟩ := Option.map_eq_some_iff.1 he
    cases heq
    cases o with
    | sql o => exact ho.elim
    | ledger asked q =>
      obtain ⟨hgood, hstore⟩ := Good.ledger (c := c) hinv he'
      have hdb : x.db = s₁.1.db := congrArg Store.tables hstore
      have hlog := after_log w (.ledger asked q) r' s₁ x
      refine ⟨hgood.sound, ⟨hgood.steady, hlog, hgood.claims⟩, fun a ha => ha.trans ⟨?_, hlog, fun _ => unclaimed_of_eq hdb⟩⟩
      exact (hinv.ledger he').2 w

/-- What `orRollback` does to an error. -/
theorem orRollback_wp {body : Program α} {Q F : Except RoyaltyError α → Trace → Prop}
    (hbody : body.wp (Does C w) (contract keyed w c) F s) (hok : ∀ a s', F (.ok a) s' → Q (.ok a) s')
    (herror : ∀ e s₁ s₂, F (.error e) s₁ → Onward keyed c s₁ s₂ → Q (.error e) s₂) :
    (orRollback body).wp (Does C w) (contract keyed w c) Q s := by
  unfold orRollback
  refine (Prog.wp_tryCatch _ _ _).2 (Prog.wp_mono (fun r s' h => ?_) body hbody)
  cases r with
  | ok a => exact hok a s' h
  | error e =>
    refine (Prog.wp_bind _ _ _).2 ((Prog.wp_tryCatch _ _ _).2 (reads_onward (o := .rollback) trivial (fun r s'' hs => ?_)))
    cases r with
    | ok u => exact herror e s' s'' h hs
    | error e' => exact herror e s' s'' h hs

/-- The calls that write nothing. -/
def Action.Calm : Action → Prop
  | .ledger _ _ => True
  | .sql o => o.Reads

/-- A program that writes nothing. -/
theorem calm_wp {p : Program α} (hp : p.Calls Action.Calm) {Q : Except RoyaltyError α → Trace → Prop}
    (hQ : ∀ r s', Onward keyed c s s' → Q r s') : p.wp (Does C w) (contract keyed w c) Q s := by
  refine Prog.wp_mono (fun r s' => hQ r s') p (Prog.Calls.wp_moves (R := Onward keyed c) ?_ ?_ hp (Onward.refl c s))
  · exact fun _ _ _ h h' => h.trans h'.onward
  · rintro o s₁ r s₂ ho hinv ⟨-, ch, he⟩
    obtain ⟨⟨r', x⟩, he', heq⟩ := Option.map_eq_some_iff.1 he
    cases heq
    have hlog := after_log w o r' s₁ x
    cases o with
    | sql o =>
      have hgood := Good.reads (c := c) hinv ho he'
      exact ⟨hgood.sound, ⟨hgood.steady, hlog, hgood.claims⟩, fun a ha => ha.trans (onward_of_eq (reads_db ho he'))⟩
    | ledger asked q =>
      obtain ⟨hgood, hstore⟩ := Good.ledger (c := c) hinv he'
      have hdb : x.db = s₁.1.db := congrArg Store.tables hstore
      exact ⟨hgood.sound, ⟨hgood.steady, hlog, hgood.claims⟩, fun a ha => ha.trans (onward_of_eq hdb)⟩

/-! ## Transactions -/

/-- What `carryOut` leaves to be written. -/
def Carried (req : CreateRoyaltyObligationRequest) (status : RoyaltyStatus) (t : Option Uuid) (payouts : List Payout) : Prop :=
  match status with
  | .posted => computeRoyalty (req.amount / 10000) req.splits = .ok payouts
  | .held => payouts = []
  | .blocked => payouts = [] ∧ t = none
  | _ => False

variable {x x' : World} {ch : Choice} {id t : Uuid} {uuid : Nat → Uuid}

/-- A new obligation. -/
theorem Good.create {req : CreateRoyaltyObligationRequest} {status : RoyaltyStatus} {t : Option Uuid} {payouts : List Payout}
    {r : Except RoyaltyError Unit} (hs : Sound x) (hcarried : Carried req status t payouts)
    (h : exec w (.sql (.commit (.insertObligation id req status t :: insertPayouts uuid id 1 payouts))) ch x = some (r, x')) :
    Good w c x x' := by
  rcases exec_commit h with ⟨tables, hws, rfl, -⟩ | ⟨-, rfl⟩
  · obtain ⟨row, rows, rfl, hmade, hpaid⟩ := writes_create hws
    have hnone : (x.db.record id).rows = [] := by
      rw [List.eq_nil_iff_forall_not_mem]
      intro o ho
      obtain ⟨ho, hid⟩ := mem_record_rows.1 ho
      exact hmade.fresh o ho hid
    obtain ⟨hpayouts, hreversals⟩ : (x.db.record id).payouts = [] ∧ (x.db.record id).reversals = [] := by
      rcases hs.filed id with ⟨-, h₁, h₂⟩ | ⟨o, h₁, -⟩
      · exact ⟨h₁, h₂⟩
      · rw [hnone] at h₁
        cases h₁
    have hrecord := record_create hmade hpaid
    rw [hpayouts, hreversals, List.nil_append] at hrecord
    have hpays : PaysOut row rows := by
      unfold PaysOut
      rw [hmade.status, hmade.amount, hmade.splits, hmade.id, hmade.ledgerTransactionId]
      unfold Carried at hcarried
      cases status with
      | posted => exact ⟨payouts, by simpa using hcarried, hpaid⟩
      | held =>
        cases hcarried
        cases hpaid
        rfl
      | blocked =>
        obtain ⟨rfl, rfl⟩ := hcarried
        cases hpaid
        exact ⟨rfl, rfl⟩
      | pending => exact hcarried.elim
      | reversed => exact hcarried.elim
    have hundone : Undone x.ledger.posts row [] := by
      refine (if_neg (fun hst => ?_)).mpr rfl
      rw [hmade.status] at hst
      rw [hst] at hcarried
      exact hcarried.elim
    have hlater : (x.db.record id).Later ⟨[row], rows, []⟩ := by
      refine ⟨fun o ho => ?_, fun r hr => ?_⟩
      · rw [hnone] at ho
        cases ho
      · rw [hreversals] at hr
        cases hr
    obtain ⟨h₁, h₂⟩ := hs.commit (w := w) hrecord hlater (Or.inr ⟨row, rfl, hpays, hundone⟩) (by simp) hs.keys
      (fun w' _ hmem => hs.locks _ hmem hnone)
    exact ⟨h₁, h₂, fun r hr hnew => absurd hr hnew⟩
  · exact ⟨hs, fun w' _ => .refl w' _, claims_of_eq rfl⟩

/-- A release of a HELD obligation. -/
theorem Good.release {o : ObligationRow} {shares : List Payout} {r : Except RoyaltyError Unit} (hs : Sound x)
    (hrow : (x.db.record id).rows = [o]) (hheld : o.status = .held)
    (hshares : computeRoyalty (o.amount / 10000) o.splits = .ok shares)
    (h : exec w (.sql (.commit (.post id t :: insertPayouts uuid id 0 shares))) ch x = some (r, x')) :
    Good w c x x' ∧ (r = .ok () → (x'.db.record id).rows = [o.released t]) := by
  rcases exec_commit h with ⟨tables, hws, rfl, hfree⟩ | ⟨⟨e, rfl⟩, rfl⟩
  · obtain ⟨rows, rfl, hpaid⟩ := writes_release hws
    obtain ⟨ho, hid⟩ := mem_record_rows.1 (hrow ▸ List.mem_singleton_self o)
    subst hid
    obtain ⟨-, hpays, hundone⟩ := hs.row ho
    have hpayouts : (x.db.record o.id).payouts = [] := by
      unfold PaysOut at hpays
      rw [hheld] at hpays
      exact hpays
    have hreversals : (x.db.record o.id).reversals = [] := by
      unfold Undone at hundone
      rw [if_neg (by rw [hheld]; nofun)] at hundone
      exact hundone
    have hrecord := record_release (d := x.db) (t := t) hpaid
    rw [hrow, hpayouts, hreversals, List.nil_append] at hrecord
    have hlater : (x.db.record o.id).Later ⟨[o.released t], rows, []⟩ := by
      refine ⟨fun o' ho' => ?_, fun r hr => ?_⟩
      · rw [hrow] at ho'
        cases ho'
        exact ⟨_, rfl, later_released hheld t⟩
      · rw [hreversals] at hr
        cases hr
    have hfiled : Filed x.ledger.posts ⟨[o.released t], rows, []⟩ :=
      Or.inr ⟨o.released t, rfl, ⟨shares, hshares, hpaid⟩, (if_neg (by nofun)).mpr rfl⟩
    obtain ⟨h₁, h₂⟩ := hs.commit (w := w) hrecord hlater hfiled (by simp) hs.keys (hfree o.id (by simp [Write.updates]))
    refine ⟨⟨h₁, h₂, fun r hr hnew => absurd hr hnew⟩, fun _ => ?_⟩
    exact congrArg Record.rows ((hrecord o.id).trans (if_pos rfl))
  · exact ⟨⟨hs, fun w' _ => .refl w' _, claims_of_eq rfl⟩, nofun⟩

/-- A reversal of an obligation whose ledger transaction the ledger has reversed. -/
theorem Good.reverse {o : ObligationRow} {reversalId t' : Uuid} {eventId key : String} {r : Except RoyaltyError Unit}
    (hs : Sound x) (hc : c.reversalKey = some key) (hrow : (x.db.record id).rows = [o]) (hst : o.status ≠ .reversed)
    (ht : o.ledgerTransactionId = some t) (hp : ∃ p ∈ x.ledger.posts, p.id = t' ∧ p.reverses = some t)
    (h : exec w (.sql (.commit [.reverse id, .insertReversal reversalId id eventId key t'])) ch x = some (r, x')) :
    Good w c x x' ∧ ((∃ row, x'.db.reversals = x.db.reversals ++ [row] ∧ row.reversedObligationId = id ∧
      column 255 key = .ok row.reversalIdempotencyKey ∧ (x'.db.record id).rows = [o.reversed]) ∨
      ((∃ e, r = .error e) ∧ x' = x)) := by
  rcases exec_commit h with ⟨tables, hws, rfl, hfree⟩ | ⟨⟨e, rfl⟩, rfl⟩
  · obtain ⟨row, rfl, hrev⟩ := writes_reverse hws
    obtain ⟨ho, hid⟩ := mem_record_rows.1 (hrow ▸ List.mem_singleton_self o)
    subst hid
    obtain ⟨-, hpays, hundone⟩ := hs.row ho
    have hreversals : (x.db.record o.id).reversals = [] := by
      unfold Undone at hundone
      rw [if_neg hst] at hundone
      exact hundone
    have hrecord := record_reverse (d := x.db) hrev
    rw [hrow, hreversals, List.nil_append] at hrecord
    have hlater : (x.db.record o.id).Later ⟨[o.reversed], (x.db.record o.id).payouts, [row]⟩ := by
      refine ⟨fun o' ho' => ?_, fun r hr => ?_⟩
      · rw [hrow] at ho'
        cases ho'
        exact ⟨_, rfl, later_reversed (hpays.reversible hst ht)⟩
      · rw [hreversals] at hr
        cases hr
    have hundone' : Undone x.ledger.posts o.reversed [row] := by
      obtain ⟨p, hp, hpid, hprev⟩ := hp
      refine (if_pos rfl).mpr ⟨row, t, rfl, ht, p, hp, ?_, hprev⟩
      rw [hpid, hrev.reversalLedgerTransactionId]
    have hfiled : Filed x.ledger.posts ⟨[o.reversed], (x.db.record o.id).payouts, [row]⟩ :=
      Or.inr ⟨o.reversed, rfl, trivial, hundone'⟩
    obtain ⟨h₁, h₂⟩ := hs.commit (w := w) hrecord hlater hfiled (by simp) (nodup_map_concat hs.keys hrev.unused)
      (hfree o.id (by simp [Write.updates]))
    refine ⟨⟨h₁, h₂, fun r hr hnew => ?_⟩, Or.inl ⟨row, rfl, hrev.reversedObligationId, hrev.reversalIdempotencyKey, ?_⟩⟩
    · rcases List.mem_append.1 hr with hr | hr
      · exact absurd hr hnew
      · obtain rfl := List.mem_singleton.1 hr
        exact ⟨key, hc, hrev.reversalIdempotencyKey⟩
    · exact congrArg Record.rows ((hrecord o.id).trans (if_pos rfl))
  · exact ⟨⟨hs, fun w' _ => .refl w' _, claims_of_eq rfl⟩, Or.inr ⟨⟨e, rfl⟩, rfl⟩⟩

end

end Royalty

end Archisynapse
