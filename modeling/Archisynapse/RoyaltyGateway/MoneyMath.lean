import Archisynapse.Royalty.MoneyMath
import Archisynapse.RoyaltyGateway.Types
import Mathlib.Data.List.Lex

/-!
# The preflight of the money math

royalty_money_math.py, which the gateway runs on an event before it asks for its obligation. Amounts are finite decimals; every
operation rounds its result to the 28 digits of Python's default context, halves to the even digit. Dictionaries are those of
the service's money math.
-/

namespace Archisynapse

namespace RoyaltyGateway

open Royalty (setKey getKey truncate)

/-- What the money math raises. -/
inductive MoneyError where
  | valueError (message : String)
  | assertionError (message : String)
  | invalidOperation
  deriving DecidableEq

/-- `str(exc)` -/
def MoneyError.message : MoneyError → String
  | .valueError message => message
  | .assertionError message => message
  | .invalidOperation => "[<class 'decimal.InvalidOperation'>]"

/-! ## Arithmetic -/

/-- Round to the digits of the context. -/
def context (q : ℚ) : ℚ :=
  if q = 0 then 0
  else
    let scale : ℚ := 10 ^ ((28 : Int) - 1 - Int.log 10 |q|)
    roundHalfEven (q * scale) / scale

/-- The coefficient of a `quantize`, unless it has more digits than the context. -/
def coefficient (n : Int) : Except MoneyError Int := if n.natAbs < 10 ^ 28 then .ok n else .error .invalidOperation

/-- `amount.quantize(CENT)` -/
def quantizeCent (q : ℚ) : Except MoneyError ℚ := do
  let n ← coefficient (roundHalfEven (q * 100))
  .ok (n / 100)

/-- `amount.quantize(CENT, rounding=ROUND_DOWN)` -/
def quantizeCentDown (q : ℚ) : Except MoneyError ℚ := do
  let n ← coefficient (truncate (q * 100))
  .ok (n / 100)

/-- `format_ledger_amount` of a number of ten-thousandths. -/
def formatLedgerAmount (n : Int) : Except MoneyError Int := coefficient n

/-! ## Splits -/

/-- `pool * Decimal(s["bps"]) / BPS_DENOMINATOR` -/
def rawShare (pool : ℚ) (s : Split) : ℚ := context (context (pool * s.bps) / 10000)

/-- The dictionary from each owner to what `f` makes of its split; of two splits of one owner the last one counts. -/
def byOwner {β : Type} (f : Split → Except MoneyError β) : List Split → List (String × β) → Except MoneyError (List (String × β))
  | [], m => .ok m
  | s :: splits, m => do
    let value ← f s
    byOwner f splits (setKey m s.ownerId value)

/-- The shares rounded down to the cent. -/
def floors (pool : ℚ) (splits : List Split) : Except MoneyError (List (String × ℚ)) :=
  byOwner (fun s => quantizeCentDown (rawShare pool s)) splits []

/-- `a <= b` on texts, by code points -/
def textAtMost (a b : String) : Bool := decide (a.toList.map Char.toNat ≤ b.toList.map Char.toNat)

/-- The comparison of the sort: `a` does not come after `b`. -/
def notAfter (remainders : List (String × ℚ)) (bps : List (String × Int)) (a b : String) : Bool :=
  let remainderOf (owner : String) := (getKey remainders owner).getD 0
  let bpsOf (owner : String) := (getKey bps owner).getD 0
  decide (remainderOf b < remainderOf a) ||
    (decide (remainderOf b = remainderOf a) && (decide (bpsOf b < bpsOf a) || (decide (bpsOf b = bpsOf a) && textAtMost a b)))

/-- `items[:n]`, where a negative `n` counts from the end. -/
def slice {α : Type} (n : Int) (items : List α) : List α :=
  if 0 ≤ n then items.take n.toNat else items.take (items.length - n.natAbs)

/-- `floored[owner_id] += CENT` for the owners of a slice. -/
def giveCents (owners : List String) (floored : List (String × ℚ)) : List (String × ℚ) :=
  owners.foldl (fun m owner => setKey m owner (context ((getKey m owner).getD 0 + 1 / 100))) floored

/-- The text of an amount of cents. -/
def centsText (q : ℚ) : String :=
  let n := truncate (q * 100)
  let cents := toString (n.natAbs % 100)
  (if n < 0 then "-" else "") ++ toString (n.natAbs / 100) ++ "." ++ (if cents.length = 1 then "0" ++ cents else cents)

/-- `distribute_splits`: the payouts, owner and amount. -/
def distributeSplits (pool : ℚ) (splits : List Split) : Except MoneyError (List (String × ℚ)) := do
  let totalBps := (splits.map (·.bps)).sum
  if totalBps ≠ 10000 then .error (.valueError s!"splits[].bps must sum to exactly 10000, got {totalBps}")
  else do
    let floored ← floors pool splits
    let remainders ← byOwner (fun s => .ok (context (rawShare pool s - (getKey floored s.ownerId).getD 0))) splits []
    let bpsByOwner ← byOwner (fun s => .ok s.bps) splits []
    let poolCents := truncate (context (pool / (1 / 100)))
    let floorCents := truncate (context (floored.foldl (fun sum e => context (sum + e.2)) 0 / (1 / 100)))
    let ordering := (splits.map (·.ownerId)).insertionSort (fun a b => notAfter remainders bpsByOwner a b = true)
    let paid := giveCents (slice (poolCents - floorCents) ordering) floored
    .ok (splits.map (fun s => (s.ownerId, (getKey paid s.ownerId).getD 0)))

/-- The payouts of `compute_royalty`. -/
def computeRoyalty (gross : ℚ) (splits : List Split) : Except MoneyError (List (String × ℚ)) := do
  let pool ← quantizeCent gross
  let payouts ← distributeSplits pool splits
  let totalPayout := payouts.foldl (fun sum p => context (sum + p.2)) 0
  if totalPayout ≠ pool then
    .error (.assertionError s!"balanced-journal invariant violated: payouts({centsText totalPayout}) != pool({centsText pool})")
  else .ok payouts

/-- Of two cents left over, one goes to the largest remainder and one to the first of two owners alike. -/
example : computeRoyalty (5 / 100) [⟨"a", 3333⟩, ⟨"b", 3333⟩, ⟨"c", 3334⟩] =
    .ok [("a", 2 / 100), ("b", 1 / 100), ("c", 2 / 100)] := by
  decide +kernel

/-! ## The preflight of the money math, exactly

`distribute_splits` on exact numbers: what `MoneyMath` computes where no operation has to round to the digits of the context and no
`quantize` runs out of them. -/

open Royalty (setKey getKey truncate)

namespace Exact

/-- `pool * Decimal(s["bps"]) / BPS_DENOMINATOR` -/
def rawShare (pool : ℚ) (s : Split) : ℚ := pool * s.bps / 10000

/-- `amount.quantize(CENT, rounding=ROUND_DOWN)` -/
def quantizeCentDown (q : ℚ) : ℚ := truncate (q * 100) / 100

/-- The dictionary from each owner to what `f` makes of its split; of two splits of one owner the last one counts. -/
def byOwner {β : Type} (f : Split → β) (splits : List Split) : List (String × β) :=
  splits.foldl (fun m s => setKey m s.ownerId (f s)) []

/-- `floored[owner_id] += CENT` for the owners of a slice. -/
def giveCents (owners : List String) (floored : List (String × ℚ)) : List (String × ℚ) :=
  owners.foldl (fun m owner => setKey m owner ((getKey m owner).getD 0 + 1 / 100)) floored

/-- `distribute_splits` -/
def distributeSplits (pool : ℚ) (splits : List Split) : Except MoneyError (List (String × ℚ)) :=
  let totalBps := (splits.map (·.bps)).sum
  if totalBps ≠ 10000 then .error (.valueError s!"splits[].bps must sum to exactly 10000, got {totalBps}")
  else
    let floored := byOwner (fun s => quantizeCentDown (rawShare pool s)) splits
    let remainders := byOwner (fun s => rawShare pool s - (getKey floored s.ownerId).getD 0) splits
    let bpsByOwner := byOwner (·.bps) splits
    let poolCents := truncate (pool / (1 / 100))
    let floorCents := truncate ((floored.map (·.2)).sum / (1 / 100))
    let ordering := (splits.map (·.ownerId)).insertionSort (fun a b => notAfter remainders bpsByOwner a b = true)
    let paid := giveCents (slice (poolCents - floorCents) ordering) floored
    .ok (splits.map (fun s => (s.ownerId, (getKey paid s.ownerId).getD 0)))

/-- The fractional remainder of a share. -/
def remainder (pool : ℚ) (s : Split) : ℚ := rawShare pool s - quantizeCentDown (rawShare pool s)

/-- `s` comes before `t`: its remainder is larger, or the same and its share is larger, or that is the same too and its owner is
smaller. -/
def Before (pool : ℚ) (s t : Split) : Prop :=
  remainder pool t < remainder pool s ∨ (remainder pool t = remainder pool s ∧ (t.bps < s.bps ∨
    (t.bps = s.bps ∧ s.ownerId.toList.map Char.toNat < t.ownerId.toList.map Char.toNat)))

end Exact

end RoyaltyGateway

end Archisynapse
