import Archisynapse.Base.IsoTime

/-!
# The order and the reading of times

Texts of the same layout compare as the times they show: numerals of a fixed width compare as their numbers, and what stands first
decides. What `isoformat` writes is read back.
-/

namespace Archisynapse

namespace IsoTime

/-! ## Lists in order -/

/-- Of two lists whose heads are of one length, the heads are compared first. -/
theorem append_lt_append_iff {α : Type} [LT α] {a b c d : List α} (h : a.length = b.length) :
    a ++ c < b ++ d ↔ a < b ∨ a = b ∧ c < d := by
  induction a generalizing b with
  | nil =>
    obtain rfl := List.length_eq_zero_iff.1 h.symm
    simp
  | cons x xs ih =>
    cases b with
    | nil => cases h
    | cons y ys =>
      rw [List.cons_append, List.cons_append, List.cons_lt_cons_iff, List.cons_lt_cons_iff, ih (Nat.succ.inj h)]
      constructor
      · rintro (hlt | ⟨rfl, hlt | ⟨rfl, hlt⟩⟩)
        · exact Or.inl (Or.inl hlt)
        · exact Or.inl (Or.inr ⟨rfl, hlt⟩)
        · exact Or.inr ⟨rfl, hlt⟩
      · rintro ((hlt | ⟨rfl, hlt⟩) | ⟨heq, hlt⟩)
        · exact Or.inl hlt
        · exact Or.inr ⟨rfl, Or.inl hlt⟩
        · obtain ⟨rfl, rfl⟩ := List.cons.inj heq
          exact Or.inr ⟨rfl, Or.inr ⟨rfl, hlt⟩⟩

/-! ## Numerals -/

theorem length_digits (n k : Nat) : (digits n k).length = n := by
  induction n generalizing k with
  | zero => rfl
  | succ n ih => simp [digits, ih]

theorem digitChar_lt_iff : ∀ a < 10, ∀ b < 10, (Nat.digitChar a < Nat.digitChar b ↔ a < b) := by decide

theorem digitChar_inj : ∀ a < 10, ∀ b < 10, Nat.digitChar a = Nat.digitChar b → a = b := by decide

theorem digits_inj {n a b : Nat} (ha : a < 10 ^ n) (hb : b < 10 ^ n) (h : digits n a = digits n b) : a = b := by
  induction n generalizing a b with
  | zero => omega
  | succ n ih =>
    rw [pow_succ] at ha hb
    obtain ⟨hdiv, hmod⟩ := List.append_inj h (by rw [length_digits, length_digits])
    have hdiv := ih (by omega) (by omega) hdiv
    have hmod := digitChar_inj _ (Nat.mod_lt a (by decide)) _ (Nat.mod_lt b (by decide)) (List.cons.inj hmod).1
    omega

/-- Numerals of one width compare as their numbers. -/
theorem digits_lt_iff {n a b : Nat} (ha : a < 10 ^ n) (hb : b < 10 ^ n) : digits n a < digits n b ↔ a < b := by
  induction n generalizing a b with
  | zero =>
    have hzero : a = 0 ∧ b = 0 := by omega
    simp [digits, hzero]
  | succ n ih =>
    rw [pow_succ] at ha hb
    have hlast := digitChar_lt_iff _ (Nat.mod_lt a (by decide)) _ (Nat.mod_lt b (by decide))
    unfold digits
    rw [append_lt_append_iff (by rw [length_digits, length_digits]), ih (by omega) (by omega), List.cons_lt_cons_iff, hlast]
    constructor
    · rintro (hlt | ⟨heq, hlt | ⟨-, hlt⟩⟩)
      · omega
      · have := digits_inj (by omega) (by omega) heq
        omega
      · exact absurd hlt (List.not_lt_nil _)
    · intro hlt
      by_cases hdiv : a / 10 < b / 10
      · exact Or.inl hdiv
      · have heq : a / 10 = b / 10 := by omega
        exact Or.inr ⟨by rw [heq], Or.inl (by omega)⟩

/-- Texts that begin with numerals of one width and the same separator: the numbers are compared first. -/
theorem digits_cons_lt_iff {n a b : Nat} (ha : a < 10 ^ n) (hb : b < 10 ^ n) (separator : Char) (x y : List Char) :
    digits n a ++ separator :: x < digits n b ++ separator :: y ↔ a < b ∨ a = b ∧ x < y := by
  rw [append_lt_append_iff (by rw [length_digits, length_digits]), digits_lt_iff ha hb, List.cons_lt_cons_iff]
  constructor
  · rintro (hlt | ⟨heq, hlt | ⟨-, hlt⟩⟩)
    · exact Or.inl hlt
    · exact absurd hlt (lt_irrefl separator)
    · exact Or.inr ⟨digits_inj ha hb heq, hlt⟩
  · rintro (hlt | ⟨rfl, hlt⟩)
    · exact Or.inl hlt
    · exact Or.inr ⟨rfl, Or.inr ⟨rfl, hlt⟩⟩

/-! ## Dates in order -/

theorem daysInMonth_lt (year month : Nat) : daysInMonth year month < 10 ^ 2 := by
  unfold daysInMonth
  split <;> first | (split <;> decide) | decide

/-- The days of a year. -/
def daysInYear (year : Nat) : Nat := if isLeap year then 366 else 365

theorem daysBeforeYear_succ {year : Nat} (h : 1 ≤ year) : daysBeforeYear (year + 1) = daysBeforeYear year + daysInYear year := by
  obtain ⟨n, rfl⟩ : ∃ n, year = n + 1 := ⟨year - 1, by omega⟩
  have hle : n / 100 ≤ n / 4 := Nat.div_le_div_left (by decide) (by decide)
  unfold daysBeforeYear daysInYear isLeap
  simp only [Bool.and_eq_true, Bool.or_eq_true, decide_eq_true_eq, Nat.add_sub_cancel, Nat.succ_div, ← Nat.dvd_iff_mod_eq_zero, ne_eq]
  by_cases h4 : 4 ∣ n + 1 <;> by_cases h100 : 100 ∣ n + 1 <;> by_cases h400 : 400 ∣ n + 1 <;>
    simp only [h4, h100, h400, if_true, if_false, true_and, false_and, not_true, not_false_eq_true, or_true, or_false, or_self] <;>
    omega

theorem daysBeforeYear_lt {y y' : Nat} (h : 1 ≤ y) (hlt : y < y') : daysBeforeYear y + daysInYear y ≤ daysBeforeYear y' := by
  induction y', hlt using Nat.le_induction with
  | base => rw [daysBeforeYear_succ h]
  | succ z hz ih =>
    rw [daysBeforeYear_succ (by omega)]
    omega

theorem daysBeforeMonth_lt (year : Nat) {m m' : Nat} (h : 1 ≤ m) (hlt : m < m') :
    daysBeforeMonth year m + daysInMonth year m ≤ daysBeforeMonth year m' := by
  induction m', hlt using Nat.le_induction with
  | base =>
    obtain ⟨k, rfl⟩ : ∃ k, m = k + 1 := ⟨m - 1, by omega⟩
    rfl
  | succ z hz ih =>
    obtain ⟨k, rfl⟩ : ∃ k, z = k + 1 := ⟨z - 1, by omega⟩
    show _ ≤ daysBeforeMonth year (k + 1) + daysInMonth year (k + 1)
    omega

/-- A day of a year is one of its days. -/
theorem daysBeforeMonth_le (year : Nat) {month : Nat} (h : 1 ≤ month ∧ month ≤ 12) :
    daysBeforeMonth year month + daysInMonth year month ≤ daysInYear year := by
  have hyear : daysBeforeMonth year 12 + daysInMonth year 12 = daysInYear year := by
    simp only [daysBeforeMonth, daysInMonth, daysInYear]
    split <;> rfl
  by_cases hlast : month = 12
  · rw [hlast, hyear]
  · have := daysBeforeMonth_lt year h.1 (show month < 12 by omega)
    omega

/-- Dates are numbered in order. -/
theorem ymdToOrd_lt_iff {y m d y' m' d' : Nat} (h : ValidDate y m d) (h' : ValidDate y' m' d') :
    ymdToOrd y m d < ymdToOrd y' m' d' ↔ y < y' ∨ y = y' ∧ (m < m' ∨ m = m' ∧ d < d') := by
  obtain ⟨hy, hm, hd⟩ := h
  obtain ⟨hy', hm', hd'⟩ := h'
  have hin := daysBeforeMonth_le y hm
  have hin' := daysBeforeMonth_le y' hm'
  unfold ymdToOrd
  rcases Nat.lt_trichotomy y y' with hlt | rfl | hlt
  · have := daysBeforeYear_lt hy.1 hlt
    omega
  · rcases Nat.lt_trichotomy m m' with hmlt | rfl | hmlt
    · have := daysBeforeMonth_lt y hm.1 hmlt
      omega
    · omega
    · have := daysBeforeMonth_lt y hm'.1 hmlt
      omega
  · have := daysBeforeYear_lt hy'.1 hlt
    omega

/-! ## Times in order -/

variable {t u : DateTime}

/-- Whole seconds are numbered in order. -/
theorem seconds_lt_iff : t.seconds < u.seconds ↔ t.year < u.year ∨ t.year = u.year ∧ (t.month < u.month ∨ t.month = u.month ∧
    (t.day < u.day ∨ t.day = u.day ∧ (t.hour < u.hour ∨ t.hour = u.hour ∧ (t.minute < u.minute ∨ t.minute = u.minute ∧
      t.second < u.second)))) := by
  have hdate := ymdToOrd_lt_iff t.dated u.dated
  have hdate' := ymdToOrd_lt_iff u.dated t.dated
  obtain ⟨hh, hm, hs, -⟩ := t.clocked
  obtain ⟨hh', hm', hs', -⟩ := u.clocked
  unfold DateTime.seconds
  omega

/-- Texts up to the whole second compare as the seconds they show. -/
theorem whole_lt_iff : t.whole < u.whole ↔ t.seconds < u.seconds := by
  obtain ⟨hy, hm, hd⟩ := t.dated
  obtain ⟨hy', hm', hd'⟩ := u.dated
  obtain ⟨hh, hmin, hs, -⟩ := t.clocked
  obtain ⟨hh', hmin', hs', -⟩ := u.clocked
  have hday := daysInMonth_lt t.year t.month
  have hday' := daysInMonth_lt u.year u.month
  unfold DateTime.whole
  rw [seconds_lt_iff, digits_cons_lt_iff (by omega) (by omega), digits_cons_lt_iff (by omega) (by omega),
    digits_cons_lt_iff (by omega) (by omega), digits_cons_lt_iff (by omega) (by omega), digits_cons_lt_iff (by omega) (by omega),
    digits_lt_iff (by omega) (by omega)]

theorem length_whole (t : DateTime) : t.whole.length = 19 := by
  simp [DateTime.whole, length_digits]

/-- The text up to the whole second shows the second. -/
theorem whole_eq_iff : t.whole = u.whole ↔ t.seconds = u.seconds := by
  have hlt := whole_lt_iff (t := t) (u := u)
  have hgt := whole_lt_iff (t := u) (u := t)
  constructor
  · intro heq
    rw [heq] at hlt hgt
    have hirrefl := List.lt_irrefl u.whole
    have hle := mt hlt.2 hirrefl
    have hge := mt hgt.2 hirrefl
    omega
  · intro heq
    exact le_antisymm (not_lt.1 (fun h => absurd (hgt.1 h) (by omega))) (not_lt.1 (fun h => absurd (hlt.1 h) (by omega)))

/-- Texts that go on after the second: the seconds are compared first. -/
theorem whole_append_lt_iff (x y : List Char) : t.whole ++ x < u.whole ++ y ↔ t.seconds < u.seconds ∨ t.seconds = u.seconds ∧ x < y := by
  rw [append_lt_append_iff (by rw [length_whole, length_whole]), whole_lt_iff, whole_eq_iff]

/-- What follows the second of a time in UTC. A fraction comes before none. -/
theorem fraction_lt_iff {a b : Nat} (ha : a < 1000000) (hb : b < 1000000) :
    fraction a ++ ['Z'] < fraction b ++ ['Z'] ↔ a ≠ 0 ∧ (b = 0 ∨ a < b) := by
  have hdot : ('.' : Char) < 'Z' := by decide
  unfold fraction
  by_cases hzero : a = 0 <;> by_cases hzero' : b = 0
  · rw [if_pos hzero, if_pos hzero']
    simp [hzero]
  · rw [if_pos hzero, if_neg hzero', List.nil_append, List.cons_append, List.cons_lt_cons_iff]
    simp [hzero, hdot.not_gt]
  · rw [if_neg hzero, if_pos hzero', List.nil_append, List.cons_append, List.cons_lt_cons_iff]
    simp [hzero, hzero']
  · rw [if_neg hzero, if_neg hzero', List.cons_append, List.cons_append, List.cons_lt_cons_iff,
      digits_cons_lt_iff (by omega) (by omega)]
    simp [hzero, hzero']

/-! ## Reading what is written -/

theorem isDigit_digitChar : ∀ a < 10, (Nat.digitChar a).isDigit = true := by decide

theorem toNat_digitChar : ∀ a < 10, (Nat.digitChar a).toNat - 48 = a := by decide

/-- One digit more is read. -/
theorem parseDigits_snoc {l : List Char} {value value' : Nat} {c : Char} (hc : c.isDigit = true)
    (h : ∀ rest, parseDigits l.length value (l ++ rest) = some (value', rest)) (rest : List Char) :
    parseDigits (l.length + 1) value (l ++ c :: rest) = some (10 * value' + (c.toNat - 48), rest) := by
  induction l generalizing value with
  | nil =>
    obtain rfl := (Prod.mk.inj (Option.some.inj (h []))).1
    simp [parseDigits, hc]
  | cons x xs ih =>
    simp only [List.length_cons, List.cons_append, parseDigits] at h ⊢
    by_cases hx : x.isDigit = true
    · simp only [hx, if_true] at h ⊢
      exact ih h
    · simp [hx] at h

/-- A numeral is read as its number. -/
theorem parseDigits_digits {n k : Nat} (h : k < 10 ^ n) (value : Nat) (rest : List Char) :
    parseDigits n value (digits n k ++ rest) = some (value * 10 ^ n + k, rest) := by
  induction n generalizing k rest with
  | zero =>
    obtain rfl : k = 0 := by omega
    simp [digits, parseDigits]
  | succ n ih =>
    rw [pow_succ] at h
    have hdigit := Nat.mod_lt k (show 0 < 10 by decide)
    have hread := parseDigits_snoc (l := digits n (k / 10)) (isDigit_digitChar _ hdigit)
      (fun rest => by rw [length_digits]; exact ih (by omega) rest) rest
    rw [length_digits, toNat_digitChar _ hdigit] at hread
    unfold digits
    rw [List.append_assoc, List.singleton_append, hread, pow_succ, ← Nat.mul_assoc]
    congr 2
    omega

/-- No character of a numeral marks an offset. -/
theorem isZone_digits {n k : Nat} {c : Char} (h : c ∈ digits n k) : isZone c = false := by
  induction n generalizing k with
  | zero => cases h
  | succ n ih =>
    rcases List.mem_append.1 h with hc | hc
    · exact ih hc
    · rw [List.mem_singleton.1 hc]
      exact (show ∀ a < 10, isZone (Nat.digitChar a) = false by decide) _ (Nat.mod_lt k (by decide))

/-- The text of a time of day. -/
def DateTime.clockText (t : DateTime) : List Char :=
  digits 2 t.hour ++ ':' :: (digits 2 t.minute ++ ':' :: (digits 2 t.second ++ fraction t.microsecond))

def DateTime.clock (t : DateTime) : Clock := ⟨t.hour, t.minute, t.second, t.microsecond⟩

theorem isZone_clockText {c : Char} (h : c ∈ t.clockText) : isZone c = false := by
  have hfraction : c ∈ fraction t.microsecond → isZone c = false := by
    intro hc
    unfold fraction at hc
    split at hc
    · cases hc
    · rcases List.mem_cons.1 hc with rfl | hc
      · rfl
      · exact isZone_digits hc
  unfold DateTime.clockText at h
  simp only [List.mem_append, List.mem_cons] at h
  rcases h with h | rfl | h | rfl | h | h
  · exact isZone_digits h
  · rfl
  · exact isZone_digits h
  · rfl
  · exact isZone_digits h
  · exact hfraction h

/-- A field that a colon follows is read, and reading goes on after the colon. -/
theorem parseFields_colon (ended : Bool) (n : Nat) {fields : List Nat} {separated : Bool} (hcolons : fields = [] ∨ separated = true)
    {value : Nat} (hvalue : value < 10 ^ 2) {rest : List Char} (hrest : rest ≠ []) :
    parseFields ended (n + 1) fields separated (digits 2 value ++ ':' :: rest) =
      parseFields ended n (fields ++ [value]) true rest := by
  have hcolon : (if fields = [] then decide True else separated) = true := by
    rcases hcolons with rfl | rfl
    · rfl
    · split <;> rfl
  conv_lhs => unfold parseFields
  rw [parseDigits_digits hvalue]
  simp only [Option.bind_eq_bind, Option.bind_some, Nat.zero_mul, Nat.zero_add, if_neg hrest]
  rw [hcolon, if_neg (by decide), if_pos ⟨rfl, trivial⟩]

/-- The last field is read with its fraction. -/
theorem parseFields_fraction (ended : Bool) (fields : List Nat) {value microsecond : Nat} (hvalue : value < 10 ^ 2)
    (hmicrosecond : microsecond < 10 ^ 6) (hcolons : fields ≠ []) :
    parseFields ended 1 fields true (digits 2 value ++ fraction microsecond) =
      some (.ofFields (fields ++ [value]) microsecond, !ended) := by
  unfold parseFields
  rw [parseDigits_digits hvalue]
  simp only [Option.bind_eq_bind, Option.bind_some, Nat.zero_mul, Nat.zero_add]
  unfold fraction
  by_cases hzero : microsecond = 0
  · rw [if_pos hzero, hzero]
  · rw [if_neg hzero]
    have hread := parseDigits_digits hmicrosecond 0 []
    rw [List.append_nil, Nat.zero_mul, Nat.zero_add] at hread
    have hne : digits 6 microsecond ≠ [] := List.ne_nil_of_length_pos (by rw [length_digits]; decide)
    simp only [if_neg hcolons, hne, if_false, show ¬ (127 < ('.' : Char).toNat) by decide, show ¬ (('.' : Char) = ':') by decide, and_false,
      true_or, if_true]
    unfold parseFraction
    rw [length_digits, Nat.min_self, hread]
    simp

/-- A time of day is read as its fields. -/
theorem parseHhMmSsFf_clockText (ended : Bool) (t : DateTime) : parseHhMmSsFf ended t.clockText = some (t.clock, !ended) := by
  obtain ⟨hh, hm, hs, hu⟩ := t.clocked
  have hne : ∀ n k rest, digits (n + 1) k ++ rest ≠ [] := fun n k rest h =>
    absurd (congrArg List.length h) (by rw [List.length_append, length_digits, List.length_nil]; omega)
  unfold parseHhMmSsFf DateTime.clockText
  rw [parseFields_colon ended 2 (Or.inl rfl) (by omega) (hne 1 _ _), parseFields_colon ended 1 (Or.inr rfl) (by omega) (hne 1 _ _),
    parseFields_fraction ended _ (by omega) (by omega) (List.concat_ne_nil _ _)]
  rfl

/-- A time of day before an offset of zero is read as its fields and that offset. -/
theorem parseIsoformatTime_clockText (t : DateTime) :
    parseIsoformatTime (t.clockText ++ ['+', '0', '0', ':', '0', '0']) = some (t.clock, some 0) := by
  have hzone : ∀ c ∈ t.clockText, (!isZone c) = true := by
    intro c hc
    rw [isZone_clockText hc]
    rfl
  have htake : (t.clockText ++ ['+', '0', '0', ':', '0', '0']).takeWhile (fun c => !isZone c) = t.clockText := by
    rw [List.takeWhile_append_of_pos hzone]
    exact List.append_nil _
  have hdrop : (t.clockText ++ ['+', '0', '0', ':', '0', '0']).dropWhile (fun c => !isZone c) = ['+', '0', '0', ':', '0', '0'] :=
    List.dropWhile_append_of_pos hzone
  have hoffset : parseHhMmSsFf true ['0', '0', ':', '0', '0'] = some (⟨0, 0, 0, 0⟩, false) := by decide
  have hutc : offset (decide (('+' : Char) = '-')) ⟨0, 0, 0, 0⟩ = some 0 := by decide
  unfold parseIsoformatTime
  simp only [htake, hdrop, parseHhMmSsFf_clockText, Option.bind_eq_bind, Option.bind_some]
  change (parseHhMmSsFf true ['0', '0', ':', '0', '0']).bind (fun a => if a.2 = true then none
    else (offset (decide (('+' : Char) = '-')) a.1).bind (fun difference => some (t.clock, some difference))) = some (t.clock, some 0)
  rw [hoffset, Option.bind_some, if_neg Bool.false_ne_true, hutc, Option.bind_some]

/-- The date of a text that `isoformat` writes. -/
theorem parseIsoformatDate_isoformat (t : DateTime) (rest : List Char) :
    parseIsoformatDate (digits 4 t.year ++ '-' :: (digits 2 t.month ++ '-' :: (digits 2 t.day ++ rest))) 10 =
      some (ymdToOrd t.year t.month t.day) := by
  obtain ⟨hy, hm, hd⟩ := t.dated
  have hday := lt_of_le_of_lt hd.2 (daysInMonth_lt t.year t.month)
  have hdigit : (digits 2 t.month ++ '-' :: (digits 2 t.day ++ rest)).head? ≠ some 'W' := by
    intro hhead
    exact (show ∀ a < 10, Nat.digitChar a ≠ 'W' by decide) _ (Nat.mod_lt _ (by decide)) (Option.some.inj hhead)
  unfold parseIsoformatDate
  rw [parseDigits_digits (by omega)]
  simp only [Option.bind_eq_bind, Option.bind_some, Nat.zero_mul, Nat.zero_add, List.head?_cons, decide_true, if_true, List.tail_cons,
    if_neg hdigit, parseDigits_digits (show t.month < 10 ^ 2 by omega), skipHyphen, parseDigits_digits hday, if_pos t.dated]

/-- The text of a time, date first. -/
theorem isoformat_eq (t : DateTime) (rest : List Char) : t.isoformat ++ rest =
    digits 4 t.year ++ '-' :: (digits 2 t.month ++ '-' :: (digits 2 t.day ++ 'T' :: (t.clockText ++ rest))) := by
  simp [DateTime.isoformat, DateTime.whole, DateTime.clockText]

theorem clock_microseconds (t : DateTime) :
    t.clock.microseconds = some ((t.hour * 3600 + t.minute * 60 + t.second) * 1000000 + t.microsecond) := by
  obtain ⟨hh, hm, hs, -⟩ := t.clocked
  exact if_pos ⟨hh, hm, hs⟩

/-- The date of a text that `isoformat` writes ends at the tenth character. -/
theorem separatorLocation_isoformat (t : DateTime) (rest : List Char) :
    separatorLocation (digits 4 t.year ++ '-' :: (digits 2 t.month ++ '-' :: (digits 2 t.day ++ rest))) = some 10 := by
  have hmonth : Nat.digitChar (t.month / 10 % 10) ≠ 'W' :=
    (show ∀ a < 10, Nat.digitChar a ≠ 'W' by decide) _ (Nat.mod_lt _ (by decide))
  have hlength : (digits 4 t.year ++ '-' :: (digits 2 t.month ++ '-' :: (digits 2 t.day ++ rest))).length ≠ 7 := by
    simp only [List.length_append, List.length_cons, length_digits]
    omega
  have hfifth : (digits 4 t.year ++ '-' :: (digits 2 t.month ++ '-' :: (digits 2 t.day ++ rest)))[5]? =
      some (Nat.digitChar (t.month / 10 % 10)) := rfl
  unfold separatorLocation
  rw [if_neg hlength, if_pos (by rfl), hfifth, if_neg (fun h => hmonth (Option.some.inj h))]

/-- What `isoformat` writes is read back with its offset. -/
theorem fromisoformat_isoformat (t : DateTime) :
    fromisoformat (t.isoformat ++ ['+', '0', '0', ':', '0', '0']) = some ((t.instant : Int), some 0) := by
  have hlength : 25 ≤ (t.isoformat ++ ['+', '0', '0', ':', '0', '0']).length := by
    simp only [DateTime.isoformat, List.length_append, length_whole, List.length_cons, List.length_nil]
    omega
  have hdrop : (digits 4 t.year ++ '-' :: (digits 2 t.month ++ '-' :: (digits 2 t.day ++ 'T' ::
      (t.clockText ++ ['+', '0', '0', ':', '0', '0'])))).drop (10 + 1) = t.clockText ++ ['+', '0', '0', ':', '0', '0'] := rfl
  rw [isoformat_eq] at hlength ⊢
  unfold fromisoformat
  rw [if_neg (by omega), separatorLocation_isoformat]
  simp only [Option.bind_eq_bind, Option.bind_some, parseIsoformatDate_isoformat]
  rw [if_pos (by omega), hdrop, parseIsoformatTime_clockText]
  simp only [Option.bind_some, clock_microseconds]
  have hinstant : ((ymdToOrd t.year t.month t.day * 86400000000 : Nat) : Int) +
      (((t.hour * 3600 + t.minute * 60 + t.second) * 1000000 + t.microsecond : Nat) : Int) = (t.instant : Int) := by
    unfold DateTime.instant DateTime.seconds
    omega
  rw [hinstant]

/-- The number of a date is between those of the first and the last. -/
theorem ymdToOrd_range {y m d : Nat} (h : ValidDate y m d) : 1 ≤ ymdToOrd y m d ∧ ymdToOrd y m d ≤ maxOrdinal := by
  have hlast : ValidDate 9999 12 31 := by decide
  have hnotafter := mt (ymdToOrd_lt_iff hlast h).1
  obtain ⟨hy, hm, hd⟩ := h
  have hmax : ymdToOrd 9999 12 31 = maxOrdinal := by decide
  have hday : d ≤ 31 := by
    have := daysInMonth_lt y m
    refine hd.2.trans ?_
    unfold daysInMonth
    split <;> first | (split <;> decide) | decide
  unfold ymdToOrd at hnotafter hmax ⊢
  omega

/-- Every time is within the range of dates. -/
theorem utc_instant (t : DateTime) : utc ((t.instant : Int), some 0) = some (t.instant : Int) := by
  obtain ⟨hfirst, hlast⟩ := ymdToOrd_range t.dated
  obtain ⟨hh, hm, hs, hu⟩ := t.clocked
  have hinstant : t.instant = (ymdToOrd t.year t.month t.day * 86400 + (t.hour * 3600 + t.minute * 60 + t.second)) * 1000000 +
    t.microsecond := rfl
  unfold utc
  simp only [Option.getD_some, sub_zero]
  rw [if_pos]
  unfold maxOrdinal at hlast ⊢
  omega

end IsoTime

end Archisynapse
