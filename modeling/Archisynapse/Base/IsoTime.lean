import Mathlib.Data.String.Basic
import Mathlib.Tactic

/-!
# Times as texts

`datetime.isoformat` and `datetime.fromisoformat` of Python's standard library (3.12). A `DateTime` is a valid date and time of
day; an instant is a number of microseconds, counted from the day before 0001-01-01. `fromisoformat` reads characters the way the
interpreter's C code does, with what it lets through beside ISO 8601: any separator between date and time, a fraction after any
time field, more than six digits of a fraction, and one character or text after the time when an offset follows it.
-/

namespace Archisynapse

namespace IsoTime

/-! ## The calendar -/

def isLeap (year : Nat) : Bool := year % 4 = 0 && (year % 100 ≠ 0 || year % 400 = 0)

/-- The days before January 1st of a year. -/
def daysBeforeYear (year : Nat) : Nat := (year - 1) * 365 + (year - 1) / 4 - (year - 1) / 100 + (year - 1) / 400

def daysInMonth (year : Nat) : Nat → Nat
  | 2 => if isLeap year then 29 else 28
  | 4 | 6 | 9 | 11 => 30
  | _ => 31

/-- The days of a year before the first of a month. -/
def daysBeforeMonth (year : Nat) : Nat → Nat
  | 0 => 0
  | 1 => 0
  | month + 1 => daysBeforeMonth year month + daysInMonth year month

/-- The number of a date: January 1st of the year 1 is day 1. -/
def ymdToOrd (year month day : Nat) : Nat := daysBeforeYear year + daysBeforeMonth year month + day

/-- The greatest day number: 9999-12-31. -/
def maxOrdinal : Nat := 3652059

/-- The fields of a date in the range of Python's dates. -/
def ValidDate (year month day : Nat) : Prop :=
  (1 ≤ year ∧ year ≤ 9999) ∧ (1 ≤ month ∧ month ≤ 12) ∧ 1 ≤ day ∧ day ≤ daysInMonth year month

instance (year month day : Nat) : Decidable (ValidDate year month day) := by
  unfold ValidDate
  infer_instance

/-- The day number of the Monday of the first ISO week of a year. -/
def isoWeek1Monday (year : Nat) : Nat :=
  let first := ymdToOrd year 1 1
  let weekday := (first + 6) % 7
  if 3 < weekday then first - weekday + 7 else first - weekday

/-- A year has 53 ISO weeks if it starts on a Thursday, or on a Wednesday and is a leap year. -/
def hasWeek53 (year : Nat) : Bool :=
  let weekday := (ymdToOrd year 1 1 + 6) % 7
  weekday = 3 || (weekday = 2 && isLeap year)

/-- The day number of an ISO week date. -/
def isoToOrd (year week day : Nat) : Option Nat :=
  if (1 ≤ year ∧ year ≤ 9999) ∧ (1 ≤ week ∧ (week ≤ 52 ∨ (week = 53 ∧ hasWeek53 year))) ∧ 1 ≤ day ∧ day ≤ 7 then
    let ordinal := isoWeek1Monday year + (week - 1) * 7 + (day - 1)
    if ordinal ≤ maxOrdinal then some ordinal else none
  else none

/-! ## Dates and times -/

/-- A valid date and time of day. -/
structure DateTime where
  year : Nat
  month : Nat
  day : Nat
  hour : Nat
  minute : Nat
  second : Nat
  microsecond : Nat
  dated : ValidDate year month day
  clocked : hour < 24 ∧ minute < 60 ∧ second < 60 ∧ microsecond < 1000000
  deriving DecidableEq

/-- The whole seconds up to a time. -/
def DateTime.seconds (t : DateTime) : Nat :=
  ymdToOrd t.year t.month t.day * 86400 + (t.hour * 3600 + t.minute * 60 + t.second)

/-- The instant of a time in UTC. -/
def DateTime.instant (t : DateTime) : Nat := t.seconds * 1000000 + t.microsecond

/-- The last digits of a number, as many as asked. -/
def digits : Nat → Nat → List Char
  | 0, _ => []
  | n + 1, k => digits n (k / 10) ++ [Nat.digitChar (k % 10)]

/-- The fraction of a second, left out when it is zero. -/
def fraction (microsecond : Nat) : List Char := if microsecond = 0 then [] else '.' :: digits 6 microsecond

/-- The text up to the whole second. -/
def DateTime.whole (t : DateTime) : List Char :=
  digits 4 t.year ++ '-' :: (digits 2 t.month ++ '-' :: (digits 2 t.day ++ 'T' ::
    (digits 2 t.hour ++ ':' :: (digits 2 t.minute ++ ':' :: digits 2 t.second))))

/-- `isoformat` without an offset. -/
def DateTime.isoformat (t : DateTime) : List Char := t.whole ++ fraction t.microsecond

/-! ## Reading -/

/-- Read so many digits. -/
def parseDigits : Nat → Nat → List Char → Option (Nat × List Char)
  | 0, value, cs => some (value, cs)
  | n + 1, value, c :: cs => if c.isDigit then parseDigits n (10 * value + (c.toNat - 48)) cs else none
  | _ + 1, _, [] => none

/-- Where the date ends. -/
def separatorLocation (cs : List Char) : Option Nat :=
  if cs.length = 7 then some 7
  else if cs[4]? = some '-' then
    if cs[5]? = some 'W' then
      if 8 < cs.length ∧ cs[8]? = some '-' then
        if cs.length = 9 then none
        else if 10 < cs.length ∧ (cs[10]?).any Char.isDigit then some 8
        else some 10
      else some 8
    else some 10
  else if cs[4]? = some 'W' then
    let location := 7 + ((cs.drop 7).takeWhile Char.isDigit).length
    if location < 9 then some location
    else if location % 2 = 0 then some 7
    else some 8
  else some 8

/-- Read a hyphen where the date has them. -/
def skipHyphen (separated : Bool) (cs : List Char) : Option (List Char) :=
  if separated then
    match cs with
    | '-' :: rest => some rest
    | _ => none
  else some cs

/-- The day number of a date that ends at a location. -/
def parseIsoformatDate (cs : List Char) (location : Nat) : Option Nat := do
  let (year, cs₁) ← parseDigits 4 0 cs
  let separated := decide (cs₁.head? = some '-')
  let cs₂ := if separated then cs₁.tail else cs₁
  if cs₂.head? = some 'W' then
    let (week, cs₃) ← parseDigits 2 0 cs₂.tail
    if cs.length - cs₃.length < location then
      let (day, _) ← parseDigits 1 0 (← skipHyphen separated cs₃)
      isoToOrd year week day
    else isoToOrd year week 1
  else
    let (month, cs₃) ← parseDigits 2 0 cs₂
    let (day, _) ← parseDigits 2 0 (← skipHyphen separated cs₃)
    if ValidDate year month day then some (ymdToOrd year month day) else none

/-- The fields of a time of day or of an offset. -/
structure Clock where
  hour : Nat
  minute : Nat
  second : Nat
  microsecond : Nat
  deriving DecidableEq

/-- The clock of the fields read, the rest zero. -/
def Clock.ofFields (fields : List Nat) (microsecond : Nat) : Clock :=
  ⟨fields.getD 0 0, fields.getD 1 0, fields.getD 2 0, microsecond⟩

/-- Read the fraction: six digits count, and more are passed over. The flag tells whether something other than the end of the text
follows. -/
def parseFraction (ended : Bool) (fields : List Nat) (cs : List Char) : Option (Clock × Bool) := do
  let (value, rest) ← parseDigits (min cs.length 6) 0 cs
  let clock := Clock.ofFields fields (value * 10 ^ (6 - min cs.length 6))
  match rest.dropWhile Char.isDigit with
  | [] => some (clock, !ended)
  | c :: _ => some (clock, c ≠ '\x00')

/-- Read up to so many two-digit fields, with colons between them if the first is followed by one. -/
def parseFields (ended : Bool) : Nat → List Nat → Bool → List Char → Option (Clock × Bool)
  | 0, fields, _, cs => parseFraction ended fields cs
  | n + 1, fields, separated, cs => do
    let (value, rest) ← parseDigits 2 0 cs
    let read := fields ++ [value]
    match rest with
    | [] => some (.ofFields read 0, !ended)
    | c :: rest =>
      let colons := if fields = [] then decide (c = ':') else separated
      -- the end is counted in bytes
      if 127 < c.toNat then none
      else if rest = [] then some (.ofFields read 0, c ≠ '\x00')
      else if colons ∧ c = ':' then parseFields ended n read colons rest
      else if c = '.' ∨ c = ',' then parseFraction ended read rest
      else if !colons then parseFields ended n read colons (c :: rest)
      else none

/-- `HH[:MM[:SS]]` with a fraction; `ended` tells that the text ends after these characters. -/
def parseHhMmSsFf (ended : Bool) (cs : List Char) : Option (Clock × Bool) := parseFields ended 3 [] true cs

def isZone (c : Char) : Bool := c = '+' || c = '-' || c = 'Z'

/-- The microseconds of an offset; one without whole seconds is UTC. An offset is less than a day. -/
def offset (negative : Bool) (c : Clock) : Option Int :=
  let seconds := c.hour * 3600 + c.minute * 60 + c.second
  let amount := seconds * 1000000 + c.microsecond
  if seconds = 0 then some 0
  else if amount < 86400000000 then some (if negative then -amount else amount)
  else none

/-- The time of day and the offset, if there is one. -/
def parseIsoformatTime (cs : List Char) : Option (Clock × Option Int) := do
  let zone := cs.dropWhile (fun c => !isZone c)
  let (clock, trailing) ← parseHhMmSsFf (zone = []) (cs.takeWhile (fun c => !isZone c))
  match zone with
  | [] => if trailing then none else some (clock, none)
  | 'Z' :: rest => if rest = [] ∨ rest.head? = some '\x00' then some (clock, some 0) else none
  | sign :: rest =>
    let (difference, trailing) ← parseHhMmSsFf true rest
    if trailing then none else some (clock, some (← offset (sign = '-') difference))

/-- The microseconds of a time of day. -/
def Clock.microseconds (c : Clock) : Option Nat :=
  if c.hour < 24 ∧ c.minute < 60 ∧ c.second < 60 then some ((c.hour * 3600 + c.minute * 60 + c.second) * 1000000 + c.microsecond)
  else none

/-- `fromisoformat`: the local time in microseconds, and the offset. -/
def fromisoformat (cs : List Char) : Option (Int × Option Int) :=
  if cs.length < 7 then none
  else do
    let location ← separatorLocation cs
    let ordinal ← parseIsoformatDate cs location
    let midnight : Nat := ordinal * 86400000000
    if location < cs.length then
      let (clock, zone) ← parseIsoformatTime (cs.drop (location + 1))
      some (midnight + (← clock.microseconds), zone)
    else some (midnight, none)

/-- `astimezone(timezone.utc)` of what was read: the instant, if it is within the range of dates. -/
def utc (read : Int × Option Int) : Option Int :=
  let instant := read.1 - read.2.getD 0
  if 86400000000 ≤ instant ∧ instant < (maxOrdinal + 1) * 86400000000 then some instant else none

end IsoTime

end Archisynapse
