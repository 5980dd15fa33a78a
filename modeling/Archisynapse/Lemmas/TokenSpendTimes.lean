import Archisynapse.Lemmas.IsoTime
import Archisynapse.Lemmas.TokenSpendAllowlist
import Archisynapse.TokenSpend.Store

/-!
# Texts and instants

How the service's own times compare as texts, and what the lookup of a rate card and the count of recent calls do where texts are
compared in place of instants.
-/

namespace Archisynapse

namespace TokenSpend

open IsoTime

variable {t u : DateTime}

/-! ## The service's own times -/

theorem zuluReplaced_append (x y : List Char) : zuluReplaced (x ++ y) = zuluReplaced x ++ zuluReplaced y := List.flatMap_append

theorem zuluReplaced_eq {cs : List Char} (h : 'Z' ∉ cs) : zuluReplaced cs = cs := by
  induction cs with
  | nil => rfl
  | cons c cs ih =>
    obtain ⟨hc, hcs⟩ := not_or.1 (fun h' => h (List.mem_cons.2 h'))
    unfold zuluReplaced at ih ⊢
    rw [List.flatMap_cons, if_neg (Ne.symm hc), ih hcs]
    rfl

/-- The text of a time has no `Z` of its own. -/
theorem zulu_notMem (t : DateTime) : 'Z' ∉ t.isoformat := by
  have hzone : isZone 'Z' ≠ false := by decide
  rw [← List.append_nil t.isoformat, isoformat_eq]
  simp only [List.mem_append, List.mem_cons, List.append_nil, not_or]
  refine ⟨fun h => hzone (isZone_digits h), by decide, fun h => hzone (isZone_digits h), by decide,
    fun h => hzone (isZone_digits h), by decide, fun h => hzone (isZone_clockText h)⟩

/-- The service reads its own times. -/
theorem parseTime_isoNow (t : DateTime) : parseTime (isoNow t) = some (t.instant : Int) := by
  have hreplaced : zuluReplaced (isoNow t).toList = t.isoformat ++ ['+', '0', '0', ':', '0', '0'] := by
    unfold isoNow
    rw [String.toList_ofList, zuluReplaced_append, zuluReplaced_eq (zulu_notMem t)]
    rfl
  unfold parseTime
  rw [hreplaced, fromisoformat_isoformat, Option.bind_some, utc_instant]

theorem notAfter_isoNow (t u : DateTime) : notAfter (isoNow t) (isoNow u) = decide (t.instant ≤ u.instant) := by
  unfold notAfter
  rw [parseTime_isoNow, parseTime_isoNow]
  exact decide_eq_decide.2 Int.ofNat_le

/-- Two times in one second of which one is the whole second. -/
def Clash (t u : DateTime) : Prop := t.seconds = u.seconds ∧ ¬ (t.microsecond = 0 ↔ u.microsecond = 0)

/-- The service's times as texts: the whole second comes after its fractions. -/
theorem isoNow_le_iff : isoNow t ≤ isoNow u ↔ t.seconds < u.seconds ∨
    t.seconds = u.seconds ∧ (u.microsecond = 0 ∨ t.microsecond ≠ 0 ∧ t.microsecond ≤ u.microsecond) := by
  obtain ⟨-, -, -, ht⟩ := t.clocked
  obtain ⟨-, -, -, hu⟩ := u.clocked
  rw [← not_lt, String.lt_iff_toList_lt]
  unfold isoNow DateTime.isoformat
  rw [String.toList_ofList, String.toList_ofList, List.append_assoc, List.append_assoc, whole_append_lt_iff, fraction_lt_iff hu ht]
  omega

/-- Two of the service's times compare as texts the way their instants do, unless they clash. -/
theorem isoNow_le_iff_instant (h : ¬ Clash t u) : isoNow t ≤ isoNow u ↔ t.instant ≤ u.instant := by
  obtain ⟨-, -, -, ht⟩ := t.clocked
  obtain ⟨-, -, -, hu⟩ := u.clocked
  unfold Clash at h
  rw [isoNow_le_iff]
  unfold DateTime.instant
  omega

/-- Where two times clash, the whole second comes last as a text and first as an instant. -/
theorem Clash.le_iff (h : Clash t u) : (isoNow t ≤ isoNow u ↔ u.microsecond = 0) ∧ (t.instant ≤ u.instant ↔ t.microsecond = 0) := by
  obtain ⟨-, -, -, ht⟩ := t.clocked
  obtain ⟨-, -, -, hu⟩ := u.clocked
  obtain ⟨hseconds, hone⟩ := h
  rw [isoNow_le_iff]
  unfold DateTime.instant
  omega

/-! ## The lookup of a card -/

/-- The active cards of a route. -/
def Store.cardsOf (s : Store) (env : Env) (provider model : String) : List RateCard :=
  s.rateCards.filter (fun c => decide (c.provider = env.lower (strip provider)) && decide (c.model = strip model) && c.active)

theorem mem_ratesAt {s : Store} {env : Env} {provider model at_ : String} {c : RateCard} :
    c ∈ s.ratesAt env provider model at_ ↔ c ∈ s.cardsOf env provider model ∧ c.effectiveAt ≤ at_ := by
  simp [Store.ratesAt, Store.cardsOf, and_assoc]

/-- There is a latest card of a list that is not empty. -/
theorem latest_eq_none {cards : List RateCard} : latest cards = none ↔ cards = [] := by
  cases cards with
  | nil => exact ⟨fun _ => rfl, fun _ => rfl⟩
  | cons c cs =>
    refine ⟨fun h => ?_, fun h => nomatch h⟩
    unfold latest at h
    split at h
    · split at h <;> cases h
    · cases h

/-- No card of the list is later than the chosen one, as texts compare. -/
theorem latest_greatest {cards : List RateCard} {card : RateCard} (h : latest cards = some card) :
    ∀ d ∈ cards, d.effectiveAt ≤ card.effectiveAt := by
  induction cards generalizing card with
  | nil => cases h
  | cons c cs ih =>
    unfold latest at h
    cases hlatest : latest cs with
    | none =>
      rw [hlatest] at h
      obtain rfl := Option.some.inj h
      rw [latest_eq_none.1 hlatest]
      exact fun d hd => le_of_eq (congrArg _ (List.mem_singleton.1 hd))
    | some d =>
      rw [hlatest] at h
      intro e he
      by_cases hlater : c.effectiveAt < d.effectiveAt
      · obtain rfl := Option.some.inj ((if_pos hlater).symm.trans h)
        rcases List.mem_cons.1 he with rfl | he
        · exact hlater.le
        · exact ih hlatest e he
      · obtain rfl := Option.some.inj ((if_neg hlater).symm.trans h)
        rcases List.mem_cons.1 he with rfl | he
        · exact le_rfl
        · exact (ih hlatest e he).trans (not_lt.1 hlater)

/-- The card in effect at a time: of the cards whose time is not after it, the one with the latest; none where there are none. -/
def InEffect (cards : List RateCard) (at_ : String) : Option RateCard → Prop
  | some card => card ∈ cards ∧ notAfter card.effectiveAt at_ ∧
      ∀ d ∈ cards, notAfter d.effectiveAt at_ → notAfter d.effectiveAt card.effectiveAt
  | none => ∀ d ∈ cards, ¬ notAfter d.effectiveAt at_

/-- Texts of effective times and of current times that compare as their instants: an effective time with every current time, and two
effective times where neither is after a current time. -/
structure Sorted (E N : String → Prop) : Prop where
  now : ∀ a n, E a → N n → (a ≤ n ↔ notAfter a n)
  cards : ∀ a b n, E a → E b → N n → a ≤ n → b ≤ n → a ≤ b → notAfter a b

/-- Where the texts are sorted the lookup finds the card in effect. -/
theorem Sorted.inEffect {E N : String → Prop} (h : Sorted E N) {s : Store} {env : Env} (hE : ∀ c ∈ s.rateCards, E c.effectiveAt)
    (provider model : String) {at_ : String} (hN : N at_) :
    InEffect (s.cardsOf env provider model) at_ (latest (s.ratesAt env provider model at_)) := by
  have hcards : ∀ c ∈ s.cardsOf env provider model, E c.effectiveAt := fun c hc => hE c (List.mem_filter.1 hc).1
  cases hlatest : latest (s.ratesAt env provider model at_) with
  | none =>
    intro d hd hbefore
    have hmem := mem_ratesAt.2 ⟨hd, (h.now _ _ (hcards d hd) hN).2 hbefore⟩
    rw [latest_eq_none.1 hlatest] at hmem
    cases hmem
  | some card =>
    obtain ⟨hcard, hle⟩ := mem_ratesAt.1 (latest_mem hlatest)
    refine ⟨hcard, (h.now _ _ (hcards card hcard) hN).1 hle, fun d hd hbefore => ?_⟩
    have hdle := (h.now _ _ (hcards d hd) hN).2 hbefore
    exact h.cards _ _ _ (hcards d hd) (hcards card hcard) hN hdle hle (latest_greatest hlatest d (mem_ratesAt.2 ⟨hd, hdle⟩))

/-- Times of which no two clash are sorted as the service writes them. -/
theorem sorted_isoNow {P : DateTime → Prop} (h : ∀ t u, P t → P u → ¬ Clash t u) :
    Sorted (fun text => ∃ t, P t ∧ text = isoNow t) (fun text => ∃ t, P t ∧ text = isoNow t) where
  now := by
    rintro a n ⟨t, ht, rfl⟩ ⟨u, hu, rfl⟩
    rw [notAfter_isoNow, decide_eq_true_eq]
    exact isoNow_le_iff_instant (h t u ht hu)
  cards := by
    rintro a b n ⟨t, ht, rfl⟩ ⟨u, hu, rfl⟩ - - - hle
    rw [notAfter_isoNow, decide_eq_true_eq]
    exact (isoNow_le_iff_instant (h t u ht hu)).1 hle

/-! ## The count of recent calls -/

/-- Of two filters of which one keeps less, the lengths agree where they keep the same. -/
theorem length_filter_eq_iff {α : Type} {p q : α → Bool} {l : List α} (h : ∀ x ∈ l, p x → q x) :
    (l.filter p).length = (l.filter q).length ↔ ∀ x ∈ l, q x → p x := by
  have hfilter : l.filter p = (l.filter q).filter p := by
    rw [List.filter_filter]
    refine List.filter_congr (fun x hx => ?_)
    cases hp : p x
    · rfl
    · rw [h x hx hp]
      rfl
  constructor
  · intro hlength x hx hq
    have hall := List.filter_eq_self.1 (List.filter_sublist.eq_of_length (hfilter ▸ hlength))
    exact hall x (List.mem_filter.2 ⟨hx, hq⟩)
  · intro hall
    exact congrArg List.length (List.filter_congr (fun x hx => Bool.eq_iff_iff.2 ⟨h x hx, hall x hx⟩))

/-- The reservations of a policy that were made in the last minute. -/
def Store.callsWithin (s : Store) (env : Env) (policyId : String) : Int :=
  ((s.reservations.filter (fun r => decide (r.policyId = policyId) && notAfter env.minuteAgo r.createdAt)).length : Int)

/-- A text of the service shows its second and its microsecond. -/
theorem isoNow_inj (h : isoNow t = isoNow u) : t.seconds = u.seconds ∧ t.microsecond = u.microsecond := by
  obtain ⟨-, -, -, ht⟩ := t.clocked
  obtain ⟨-, -, -, hu⟩ := u.clocked
  have hinstant := Int.natCast_inj.1 (Option.some.inj ((parseTime_isoNow t).symm.trans ((congrArg parseTime h).trans (parseTime_isoNow u))))
  unfold DateTime.instant at hinstant
  omega

/-- A reservation of the service's own time clashes with a time if that time does. -/
theorem clashes_iff {r : Reservation} {m : DateTime} (h : r.createdAt = isoNow t) :
    (∀ u, r.createdAt = isoNow u → ¬ Clash m u) ↔ ¬ Clash m t := by
  refine ⟨fun hall => hall t h, fun ht u hu hclash => ht ?_⟩
  obtain ⟨hseconds, hmicrosecond⟩ := isoNow_inj (h.symm.trans hu)
  unfold Clash at hclash ⊢
  omega

/-- The count is right exactly where no reservation of the policy clashes with the time a minute ago. -/
theorem recentCalls_iff {s : Store} {env : Env} {policyId : String} {m : DateTime} (hminute : env.minuteAgo = isoNow m)
    (hcreated : ∀ r ∈ s.reservations, r.policyId = policyId → ∃ t, r.createdAt = isoNow t) :
    s.recentCalls env policyId = s.callsWithin env policyId ↔
      ∀ r ∈ s.reservations, r.policyId = policyId → ∀ t, r.createdAt = isoNow t → ¬ Clash m t := by
  -- what the two tests say of a reservation of the policy
  have hrow : ∀ r ∈ s.reservations, r.policyId = policyId → ∃ t, r.createdAt = isoNow t ∧
      (notAfter (isoNow m) r.createdAt = true ↔ m.instant ≤ t.instant) ∧ (isoNow m ≤ r.createdAt ↔ isoNow m ≤ isoNow t) := by
    intro r hr hpolicy
    obtain ⟨t, ht⟩ := hcreated r hr hpolicy
    rw [ht, notAfter_isoNow, decide_eq_true_eq]
    exact ⟨t, rfl, Iff.rfl, Iff.rfl⟩
  unfold Store.recentCalls Store.callsWithin
  rw [Int.natCast_inj, hminute]
  by_cases hwhole : m.microsecond = 0
  · -- a minute ago was a whole second: a call in that second is missed
    rw [length_filter_eq_iff]
    · refine forall₂_congr (fun r hr => ?_)
      simp only [Bool.and_eq_true, decide_eq_true_eq]
      constructor
      · intro hall hpolicy
        obtain ⟨t, ht, hinstant, htext⟩ := hrow r hr hpolicy
        rw [clashes_iff ht]
        intro hclash
        obtain ⟨hle, hle'⟩ := hclash.le_iff
        exact hclash.2 ⟨fun _ => hle.1 (htext.1 (hall ⟨hpolicy, hinstant.2 (hle'.2 hwhole)⟩).2), fun _ => hwhole⟩
      · rintro hall ⟨hpolicy, hafter⟩
        obtain ⟨t, ht, hinstant, htext⟩ := hrow r hr hpolicy
        exact ⟨hpolicy, htext.2 ((isoNow_le_iff_instant (hall hpolicy t ht)).2 (hinstant.1 hafter))⟩
    · intro r hr
      simp only [Bool.and_eq_true, decide_eq_true_eq]
      rintro ⟨hpolicy, hle⟩
      obtain ⟨t, ht, hinstant, htext⟩ := hrow r hr hpolicy
      refine ⟨hpolicy, hinstant.2 ?_⟩
      by_cases hclash : Clash m t
      · exact hclash.le_iff.2.2 hwhole
      · exact (isoNow_le_iff_instant hclash).1 (htext.1 hle)
  · -- it was not: a call at the whole second before it is counted
    rw [eq_comm, length_filter_eq_iff]
    · refine forall₂_congr (fun r hr => ?_)
      simp only [Bool.and_eq_true, decide_eq_true_eq]
      constructor
      · intro hall hpolicy
        obtain ⟨t, ht, hinstant, htext⟩ := hrow r hr hpolicy
        rw [clashes_iff ht]
        intro hclash
        obtain ⟨hle, hle'⟩ := hclash.le_iff
        have hzero : t.microsecond = 0 := by
          by_contra hne
          exact hclash.2 ⟨fun h => absurd h hwhole, fun h => absurd h hne⟩
        exact hwhole (hle'.1 (hinstant.1 (hall ⟨hpolicy, htext.2 (hle.2 hzero)⟩).2))
      · rintro hall ⟨hpolicy, hle⟩
        obtain ⟨t, ht, hinstant, htext⟩ := hrow r hr hpolicy
        exact ⟨hpolicy, hinstant.2 ((isoNow_le_iff_instant (hall hpolicy t ht)).1 (htext.1 hle))⟩
    · intro r hr
      simp only [Bool.and_eq_true, decide_eq_true_eq]
      rintro ⟨hpolicy, hafter⟩
      obtain ⟨t, ht, hinstant, htext⟩ := hrow r hr hpolicy
      refine ⟨hpolicy, htext.2 ?_⟩
      by_cases hclash : Clash m t
      · exact absurd (hclash.le_iff.2.1 (hinstant.1 hafter)) hwhole
      · exact (isoNow_le_iff_instant hclash).2 (hinstant.1 hafter)

end TokenSpend

end Archisynapse
