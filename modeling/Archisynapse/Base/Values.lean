import Mathlib.Data.Int.Log
import Mathlib.Data.List.DropRight
import Mathlib.Data.Rat.Floor
import Mathlib.Tactic.Linarith

/-!
# Values: decimals, numeric columns and bounded text

Rounding, decimal arithmetic as decimal.js computes it with its defaults (20 significant digits, halves away from zero), and the two
column types of PostgreSQL that change or refuse what is written to them: `NUMERIC(19, 4)`, which rounds to four decimals and
refuses what has more than fifteen digits before the point, and `VARCHAR(n)`, which refuses a text that is too long unless
only blanks are too much.
-/

namespace Archisynapse

/-- Round to the nearest integer, halves away from zero. -/
def roundHalfUp (q : ℚ) : Int := if 0 ≤ q then ⌊q + 1 / 2⌋ else -⌊-q + 1 / 2⌋

/-- Round to the nearest integer, halves to the even one. -/
def roundHalfEven (q : ℚ) : Int :=
  let rest := q - ⌊q⌋
  if rest < 1 / 2 ∨ (rest = 1 / 2 ∧ ⌊q⌋ % 2 = 0) then ⌊q⌋ else ⌊q⌋ + 1

/-- Round to a number of decimals, halves to the even digit. -/
def roundTo (digits : Nat) (q : ℚ) : ℚ := roundHalfEven (q * 10 ^ digits) / 10 ^ digits

/-- Rounding leaves an integer as it is. -/
@[simp] theorem roundHalfUp_intCast (n : Int) : roundHalfUp n = n := by
  have hfloor : ∀ m : Int, ⌊(m : ℚ) + 1 / 2⌋ = m := by
    intro m
    rw [Int.floor_eq_iff]
    constructor <;> linarith
  unfold roundHalfUp
  split
  · exact hfloor n
  · have h := hfloor (-n)
    rw [Int.cast_neg] at h
    rw [h, neg_neg]

/-- A decimal.js value. The finite ones are kept exact; an operation rounds its result. -/
inductive Decimal where
  | nan
  | inf (negative : Bool)
  | fin (value : ℚ)
  deriving DecidableEq

namespace Decimal

/-- The number of significant digits an operation keeps. -/
def precision : Nat := 20

/-- Round to the number of significant digits an operation keeps. -/
def significant (q : ℚ) : ℚ :=
  if q = 0 then 0
  else
    let scale : ℚ := 10 ^ ((precision : Int) - 1 - Int.log 10 |q|)
    roundHalfUp (q * scale) / scale

/-- The sum. -/
def plus : Decimal → Decimal → Decimal
  | .nan, _ => .nan
  | _, .nan => .nan
  | .inf a, .inf b => if a = b then .inf a else .nan
  | .inf a, .fin _ => .inf a
  | .fin _, .inf b => .inf b
  | .fin a, .fin b => .fin (significant (a + b))

/-- The difference. -/
def minus (a b : Decimal) : Decimal :=
  a.plus (match b with
    | .nan => .nan
    | .inf negative => .inf !negative
    | .fin q => .fin (-q))

/-- Equality of values: not-a-number equals nothing. -/
def equals : Decimal → Decimal → Bool
  | .inf a, .inf b => a == b
  | .fin a, .fin b => a == b
  | _, _ => false

/-- The order of values: not-a-number compares with nothing. -/
def greaterThan : Decimal → Decimal → Bool
  | .inf a, .inf b => !a && b
  | .inf a, .fin _ => !a
  | .fin _, .inf b => b
  | .fin a, .fin b => decide (b < a)
  | _, _ => false

/-- A sum with a not-a-number is not a number. -/
theorem plus_nan_right (a : Decimal) : a.plus .nan = .nan := by
  cases a <;> rfl

/-- A not-a-number equals nothing. -/
theorem not_equals_nan {a b : Decimal} (h : a = .nan ∨ b = .nan) : a.equals b = false := by
  rcases h with rfl | rfl
  · rfl
  · cases a <;> rfl

/-- What a NUMERIC(19, 4) column makes of a value: the number of ten-thousandths (none for not-a-number), or refused. -/
def toNumeric : Decimal → Option (Option Int)
  | .nan => some none
  | .inf _ => none
  | .fin q => if (roundHalfUp (q * 10000)).natAbs < 10 ^ 19 then some (some (roundHalfUp (q * 10000))) else none

/-- The value read back from a NUMERIC(19, 4) column. -/
def ofNumeric (n : Int) : Decimal := .fin (n / 10000)

/-- What was read from a NUMERIC(19, 4) column is stored as it was. -/
theorem toNumeric_ofNumeric {n m : Int} (h : (ofNumeric n).toNumeric = some (some m)) : m = n := by
  have hq : (n / 10000 * 10000 : ℚ) = n := by
    rw [div_mul_cancel₀]
    norm_num
  simp only [ofNumeric, toNumeric, hq, roundHalfUp_intCast] at h
  split at h
  · exact (Option.some.inj (Option.some.inj h)).symm
  · cases h

/-- A value a column stores as a number is a finite one. -/
theorem toNumeric_num {d : Decimal} {n : Int} (h : d.toNumeric = some (some n)) :
    ∃ q, d = .fin q ∧ n = roundHalfUp (q * 10000) := by
  cases d with
  | nan => cases h
  | inf b => cases h
  | fin q =>
    simp only [toNumeric] at h
    split at h
    · exact ⟨q, rfl, (Option.some.inj (Option.some.inj h)).symm⟩
    · cases h

end Decimal

/-! ## Numbers -/

/-- The natural number nearest to one that a 64-bit float has (ties to the even one): every JavaScript number is of 53 bits. -/
def double (n : Nat) : Nat :=
  if n < 2 ^ 53 then n
  else
    let unit := 2 ^ (n.log2 - 52)
    let down := n / unit
    if 2 * (n % unit) < unit ∨ (2 * (n % unit) = unit ∧ down % 2 = 0) then down * unit else (down + 1) * unit

/-- `Number.isSafeInteger` on a natural number. -/
def isSafeInteger (n : Nat) : Bool := decide (n < 2 ^ 53)

/-! ## Texts -/

/-- The length of a text in JavaScript: its UTF-16 code units. -/
def utf16Length (text : String) : Nat := (text.toList.map (fun c => if c.toNat < 0x10000 then 1 else 2)).sum

/-- The characters `String.prototype.trim` takes off. -/
def isBlank (c : Char) : Bool :=
  let n := c.toNat
  (9 ≤ n && n ≤ 13) || n == 32 || n == 0xa0 || n == 0x1680 || (0x2000 ≤ n && n ≤ 0x200a) || n == 0x2028 || n == 0x2029 ||
    n == 0x202f || n == 0x205f || n == 0x3000 || n == 0xfeff

/-- `text.trim()` -/
def trim (text : String) : String :=
  String.ofList ((text.toList.dropWhile isBlank).reverse.dropWhile isBlank).reverse

/-- The characters Python's `str.isspace` accepts. -/
def isSpace (c : Char) : Bool :=
  let n := c.toNat
  (9 ≤ n && n ≤ 13) || (28 ≤ n && n ≤ 32) || n == 0x85 || n == 0xa0 || n == 0x1680 || (0x2000 ≤ n && n ≤ 0x200a) ||
    n == 0x2028 || n == 0x2029 || n == 0x202f || n == 0x205f || n == 0x3000

/-- Python's `text.strip()` -/
def strip (text : String) : String :=
  String.ofList ((text.toList.dropWhile isSpace).reverse.dropWhile isSpace).reverse

/-- What stands at the front once blanks are gone is not blank, also when the end is cut. -/
theorem dropWhile_rdropWhile {α : Type} (p : α → Bool) (l : List α) :
    ((l.dropWhile p).rdropWhile p).dropWhile p = (l.dropWhile p).rdropWhile p := by
  obtain ⟨rest, hrest⟩ := List.rdropWhile_prefix p (l := l.dropWhile p)
  cases hkept : (l.dropWhile p).rdropWhile p with
  | nil => rfl
  | cons a kept =>
    rw [hkept, List.cons_append] at hrest
    have hdrop := List.dropWhile_idempotent p l
    rw [← hrest] at hdrop
    by_cases ha : p a = true
    · rw [List.dropWhile_cons_of_pos ha] at hdrop
      have hlen := (List.dropWhile_suffix p (l := kept ++ rest)).length_le
      rw [hdrop, List.length_cons] at hlen
      omega
    · exact List.dropWhile_cons_of_neg ha

/-- A text without blanks around it is left as it is. -/
theorem strip_strip (text : String) : strip (strip text) = strip text := by
  unfold strip
  rw [String.toList_ofList]
  congr 1
  have hright : ∀ chars : List Char, (chars.reverse.dropWhile isSpace).reverse = chars.rdropWhile isSpace := fun _ => rfl
  rw [hright, hright, dropWhile_rdropWhile, List.rdropWhile_idempotent]

/-- `text.startsWith(start)` -/
def startsWith (text start : String) : Bool := decide (start.toList <+: text.toList)

/-- A text argument that JavaScript takes for true: there and not empty. -/
def truthy : Option String → Option String
  | some "" => none
  | text => text

/-- What a VARCHAR(n) column makes of a text: blanks too many at its end are cut, anything else too long is refused. -/
def varchar (n : Nat) (text : String) : Option String :=
  if text.length ≤ n then some text
  else if (text.toList.drop n).all (· == ' ') then some (String.ofList (text.toList.take n)) else none

/-- A text has no more characters than UTF-16 code units. -/
theorem length_le_utf16Length (text : String) : text.length ≤ utf16Length text := by
  unfold utf16Length
  rw [← String.length_toList]
  generalize text.toList = chars
  induction chars with
  | nil => exact le_rfl
  | cons a chars ih =>
    rw [List.map_cons, List.sum_cons, List.length_cons]
    have : 1 ≤ (if a.toNat < 0x10000 then 1 else 2) := by split <;> omega
    omega

/-- A text that fits is stored as it is. -/
theorem varchar_fits {n : Nat} {text : String} (h : text.length ≤ n) : varchar n text = some text := if_pos h

/-- A text that a column made fits the column. -/
theorem varchar_idem {n : Nat} {text stored : String} (h : varchar n text = some stored) : varchar n stored = some stored := by
  unfold varchar at h
  split at h
  · rename_i hlen
    cases h
    exact if_pos hlen
  · split at h
    · cases h
      refine if_pos ?_
      rw [String.length_ofList]
      exact List.length_take_le _ _
    · cases h

end Archisynapse
