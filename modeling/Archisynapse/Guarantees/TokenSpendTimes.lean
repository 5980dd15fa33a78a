import Archisynapse.Lemmas.TokenSpendTimes
import Archisynapse.Guarantees.TokenSpendControls

/-!
# Times as the tables compare them

The tables compare times as texts. Lookups find the card in effect for all tables of given spellings exactly where those spellings
are sorted, and the count of recent calls is right exactly where no call clashes with the time a minute ago
(`times_chronological_iff`). Texts of the service that have a fraction are sorted, and so are those that have none
(`sorted_isoNow`); a text with an offset and a whole second beside its fractions are not (`times_confused`).
-/

namespace Archisynapse

namespace TokenSpend

open IsoTime

/-- In all tables whose effective times are spelled in one set of texts, and at current times of another, `get_rate_card` finds the
card in effect and a preflight reserves with it. -/
def SelectsInEffect (E N : String → Prop) : Prop :=
  ∀ (env : Env) (s : Store), env.parseTime = parseTime → (∀ c ∈ s.rateCards, E c.effectiveAt) →
    (∀ provider model at_, N at_ →
      InEffect (s.cardsOf env provider model) at_ (getRateCard env provider model at_ s).1.toOption) ∧
    ∀ args r s', N env.now → preflight env args s = (.ok r, s') → s'.reservations = s.reservations ++ [r] →
      ∃ card, card.id = r.rateCardId ∧ InEffect (s.cardsOf env r.selected.provider r.selected.model) env.now (some card)

/-- `get_rate_card` returns what the lookup finds. -/
theorem getRateCard_toOption (env : Env) (provider model at_ : String) (s : Store) :
    (getRateCard env provider model at_ s).1.toOption = latest (s.ratesAt env provider model at_) := by
  unfold getRateCard
  rw [Exec.gets_bind]
  cases latest (s.ratesAt env provider model at_) <;> rfl

/-- An environment at a time. -/
def envAt (now minuteAgo : String) : Env := { playEnv with now, minuteAgo, parseTime }

/-- A card from a time on. -/
def cardFrom (id effectiveAt : String) : RateCard := ⟨id, "", "", 0, 0, 0, 0, "contract", effectiveAt, true⟩

/-- What the lookup finds in a table of cards for one route. -/
def lookup (cards : List RateCard) (now : String) : Option RateCard :=
  latest (cards.filter (fun c => decide (c.effectiveAt ≤ now)))

theorem strip_empty : strip "" = "" := by decide +kernel

theorem cardsOf_cardsFrom {cards : List RateCard} (h : ∀ c ∈ cards, c.provider = "" ∧ c.model = "" ∧ c.active = true) (now : String) :
    Store.cardsOf { Store.empty with rateCards := cards } (envAt now "") "" "" = cards ∧
      latest (Store.ratesAt { Store.empty with rateCards := cards } (envAt now "") "" "" now) = lookup cards now := by
  have hlower : (envAt now "").lower (strip "") = "" := strip_empty
  constructor
  · refine List.filter_eq_self.2 (fun c hc => ?_)
    obtain ⟨hprovider, hmodel, hactive⟩ := h c hc
    rw [hlower, strip_empty, hprovider, hmodel, hactive]
    rfl
  · refine congrArg latest (List.filter_congr (fun c hc => ?_))
    obtain ⟨hprovider, hmodel, hactive⟩ := h c hc
    rw [hlower, strip_empty, hprovider, hmodel, hactive]
    simp

/-- Tables of cards for one route, where lookups find the card in effect. -/
theorem SelectsInEffect.found {E N : String → Prop} (h : SelectsInEffect E N) {cards : List RateCard}
    (hcards : ∀ c ∈ cards, c.provider = "" ∧ c.model = "" ∧ c.active = true) (hE : ∀ c ∈ cards, E c.effectiveAt) {now : String}
    (hN : N now) {found : Option RateCard} (hfound : lookup cards now = found) : InEffect cards now found := by
  have hselects := (h (envAt now "") { Store.empty with rateCards := cards } rfl hE).1 "" "" now hN
  obtain ⟨hof, hlatest⟩ := cardsOf_cardsFrom hcards now
  rw [getRateCard_toOption, hlatest, hof, hfound] at hselects
  exact hselects

theorem lookup_singleton (c : RateCard) (now : String) :
    lookup [c] now = if c.effectiveAt ≤ now then some c else none := by
  unfold lookup
  by_cases hle : c.effectiveAt ≤ now
  · rw [List.filter_cons, decide_eq_true hle, if_pos hle]
    rfl
  · rw [List.filter_cons, decide_eq_false hle, if_neg hle]
    rfl

/-- Of two cards that are not after a time the lookup finds the one with the greater text. -/
theorem lookup_pair {c d : RateCard} {now : String} (hc : c.effectiveAt ≤ now) (hd : d.effectiveAt ≤ now)
    (hlt : c.effectiveAt < d.effectiveAt) : lookup [c, d] now = some d := by
  unfold lookup
  rw [List.filter_cons, List.filter_cons, decide_eq_true hc, decide_eq_true hd]
  exact if_pos hlt

/-- Where lookups find the card in effect in every table, the texts are sorted. -/
theorem SelectsInEffect.sorted {E N : String → Prop} (h : SelectsInEffect E N) : Sorted E N := by
  have hnow : ∀ a n, E a → N n → (a ≤ n ↔ notAfter a n) := by
    intro a n ha hn
    have hselects := h.found (List.forall_mem_singleton.2 ⟨rfl, rfl, rfl⟩) (List.forall_mem_singleton.2 ha) hn
      (lookup_singleton (cardFrom "a" a) n)
    by_cases hle : (cardFrom "a" a).effectiveAt ≤ n
    · rw [if_pos hle] at hselects
      exact ⟨fun _ => hselects.2.1, fun _ => hle⟩
    · rw [if_neg hle] at hselects
      exact ⟨fun h => absurd h hle, fun h => absurd h (hselects (cardFrom "a" a) (List.mem_singleton_self _))⟩
  refine ⟨hnow, fun a b n ha hb hn han hbn hab => ?_⟩
  rcases hab.lt_or_eq with hlt | rfl
  · have hlookup : lookup [cardFrom "a" a, cardFrom "b" b] n = some (cardFrom "b" b) := lookup_pair han hbn hlt
    have hselects := h.found (List.forall_mem_cons.2 ⟨⟨rfl, rfl, rfl⟩, List.forall_mem_singleton.2 ⟨rfl, rfl, rfl⟩⟩)
      (List.forall_mem_cons.2 ⟨ha, List.forall_mem_singleton.2 hb⟩) hn hlookup
    exact hselects.2.2 (cardFrom "a" a) List.mem_cons_self ((hnow a n ha hn).1 han)
  · have hself := (hnow a n ha hn).1 han
    unfold notAfter at hself ⊢
    cases hparse : parseTime a with
    | none => simp [hparse] at hself
    | some i => simp

/-- Where the texts are sorted a preflight reserves with the card in effect. -/
theorem Sorted.selects {E N : String → Prop} (h : Sorted E N) : SelectsInEffect E N := by
  intro env s _ hE
  constructor
  · intro provider model at_ hN
    rw [getRateCard_toOption]
    exact h.inEffect hE provider model hN
  · intro args r s' hN hrun hnew
    obtain ⟨-, ⟨-, rfl⟩ | ⟨p, card, -, -, -, hrate, hid, -⟩⟩ := preflight_selected hrun
    · exact absurd (congrArg List.length hnew) (by simp)
    · have heffect := @Sorted.inEffect E N h s env hE r.selected.provider r.selected.model _ hN
      have hlatest : latest (s.ratesAt env r.selected.provider r.selected.model env.now) = some card := hrate
      rw [hlatest] at heffect
      exact ⟨card, hid.symm, heffect⟩

/-- For all texts of effective times and of current times: in all tables of them lookups find the card in effect if and only if the
texts are sorted. And the count of a policy's recent calls is that of its calls in the last minute if and only if none of them clashes
with the time a minute ago. -/
theorem times_chronological_iff (E N : String → Prop) {env : Env} {s : Store} {policyId : String} {m : DateTime}
    (hminute : env.minuteAgo = isoNow m)
    (hcreated : ∀ r ∈ s.reservations, r.policyId = policyId → ∃ t, r.createdAt = isoNow t) :
    (SelectsInEffect E N ↔ Sorted E N) ∧
    (s.recentCalls env policyId = s.callsWithin env policyId ↔
      ∀ r ∈ s.reservations, r.policyId = policyId → ∀ t, r.createdAt = isoNow t → ¬ Clash m t) :=
  ⟨⟨SelectsInEffect.sorted, Sorted.selects⟩, recentCalls_iff hminute hcreated⟩

/-- Noon, and half a second later. -/
def noon : DateTime := ⟨2026, 6, 1, 12, 0, 0, 0, by decide, by decide⟩

def noonAndHalf : DateTime := ⟨2026, 6, 1, 12, 0, 0, 500000, by decide, by decide⟩

/-- A reservation made at a time. -/
def madeAt (t : DateTime) : Reservation :=
  PreflightArgs.row ⟨"policy", "key", "provider", "model", ⟨0, 0, 0, 0⟩⟩ (envAt (isoNow t) "") ⟨"provider", "model"⟩
    (cardFrom "card" (isoNow noon)) 0

/-- The theorem for the service's times with a fraction, and at a call half a second after noon. -/
theorem times_chronological_iff_play :
    SelectsInEffect (fun text => ∃ t, t.microsecond ≠ 0 ∧ text = isoNow t) (fun text => ∃ t, t.microsecond ≠ 0 ∧ text = isoNow t) ∧
    Store.recentCalls { Store.empty with reservations := [madeAt noonAndHalf] } (envAt "" (isoNow noonAndHalf)) "policy" =
      Store.callsWithin { Store.empty with reservations := [madeAt noonAndHalf] } (envAt "" (isoNow noonAndHalf)) "policy" := by
  obtain ⟨hselects, hcount⟩ := @times_chronological_iff (fun text => ∃ t, t.microsecond ≠ 0 ∧ text = isoNow t)
    (fun text => ∃ t, t.microsecond ≠ 0 ∧ text = isoNow t) (envAt "" (isoNow noonAndHalf))
    { Store.empty with reservations := [madeAt noonAndHalf] } "policy" noonAndHalf rfl
    (fun r hr _ => ⟨noonAndHalf, by rw [List.mem_singleton.1 hr]; rfl⟩)
  refine ⟨hselects.2 (sorted_isoNow (fun t u ht hu hclash => hclash.2 ⟨fun h => absurd h ht, fun h => absurd h hu⟩)), hcount.2 ?_⟩
  intro r hr _ t ht
  rw [List.mem_singleton.1 hr] at ht
  have hfields := isoNow_inj (show isoNow noonAndHalf = isoNow t from ht)
  exact fun hclash => hclash.2 (by rw [hfields.2])

/-- Half past midnight an hour east, which is before midnight, and midnight. -/
def east : RateCard := cardFrom "east" "2026-01-01T00:30:00+01:00"

def midnight : RateCard := cardFrom "midnight" "2026-01-01T00:00:00Z"

theorem east_route : ∀ c ∈ [east, midnight], c.provider = "" ∧ c.model = "" ∧ c.active = true := by decide +kernel

theorem east_found : lookup [east, midnight] (isoNow noon) = some east := by decide +kernel

theorem east_notInEffect : ¬ InEffect [east, midnight] (isoNow noon) (some east) := by
  have hnot : ¬ notAfter midnight.effectiveAt east.effectiveAt := by decide +kernel
  have hbefore : notAfter midnight.effectiveAt (isoNow noon) := by decide +kernel
  unfold InEffect
  rintro ⟨-, -, hlatest⟩
  exact hnot (hlatest midnight (List.mem_cons_of_mem _ (List.mem_singleton_self _)) hbefore)

/-- The card of the earlier instant is found, because its text is the later one; and a call half a second after noon is not counted a
minute after noon. -/
theorem times_confused :
    (lookup [east, midnight] (isoNow noon) = some east ∧
      ∀ (E N : String → Prop), E east.effectiveAt → E midnight.effectiveAt → N (isoNow noon) → ¬ SelectsInEffect E N) ∧
    (parseTime east.effectiveAt).isSome ∧ (parseTime midnight.effectiveAt).isSome ∧
    Store.recentCalls { Store.empty with reservations := [madeAt noonAndHalf] } (envAt "" (isoNow noon)) "policy" = 0 ∧
    Store.callsWithin { Store.empty with reservations := [madeAt noonAndHalf] } (envAt "" (isoNow noon)) "policy" = 1 := by
  refine ⟨⟨east_found, fun E N heast hmidnight hnoon hselects => ?_⟩, by decide +kernel, by decide +kernel, by decide +kernel,
    by decide +kernel⟩
  have hE : ∀ c ∈ [east, midnight], E c.effectiveAt := by
    intro c hc
    rcases List.mem_cons.1 hc with rfl | hc
    · exact heast
    · rw [List.mem_singleton.1 hc]
      exact hmidnight
  exact east_notInEffect (hselects.found east_route hE hnoon east_found)

end TokenSpend

end Archisynapse
