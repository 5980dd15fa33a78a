import Archisynapse.Royalty.Types
import Mathlib.Data.List.Sort

/-!
# Money math of royalties

royalty-money-math.ts: the pool is split by basis points, every share is rounded down to the cent, and the cents left over go to
the largest remainders. Amounts are finite decimals; every operation rounds its result to 20 significant digits, as decimal.js
does.
-/

namespace Archisynapse

namespace Royalty

/-! ## Arithmetic -/

/-- `a.plus(b)` -/
def plus (a b : ℚ) : ℚ := Decimal.significant (a + b)

/-- `a.minus(b)` -/
def minus (a b : ℚ) : ℚ := Decimal.significant (a - b)

/-- `a.mul(b)` -/
def mul (a b : ℚ) : ℚ := Decimal.significant (a * b)

/-- `a.div(b)`, for a divisor that is not zero -/
def div (a b : ℚ) : ℚ := Decimal.significant (a / b)

/-- Round towards zero. -/
def truncate (q : ℚ) : Int := if 0 ≤ q then ⌊q⌋ else -⌊-q⌋

/-- `a.toDecimalPlaces(2)` -/
def toCents (a : ℚ) : ℚ := roundHalfUp (a * 100) / 100

/-- `a.toDecimalPlaces(2, Decimal.ROUND_DOWN)` -/
def toCentsDown (a : ℚ) : ℚ := truncate (a * 100) / 100

/-! ## Maps -/

/-- `map.set(key, value)`: a new key comes last, a key that is there keeps its place. -/
def setKey {β : Type} (m : List (String × β)) (key : String) (value : β) : List (String × β) :=
  if m.any (fun e => decide (e.1 = key)) then m.map (fun e => if e.1 = key then (key, value) else e) else m ++ [(key, value)]

/-- `map.get(key)` -/
def getKey {β : Type} (m : List (String × β)) (key : String) : Option β :=
  (m.find? (fun e => decide (e.1 = key))).map (·.2)

/-! ## Texts -/

/-- The UTF-16 code units of a text. -/
def utf16 (text : String) : List Nat :=
  text.toList.flatMap (fun c =>
    if c.toNat < 0x10000 then [c.toNat]
    else [0xd800 + (c.toNat - 0x10000) / 0x400, 0xdc00 + (c.toNat - 0x10000) % 0x400])

/-- `a < b` on texts -/
def textLess (a b : String) : Bool := decide (utf16 a < utf16 b)

/-! ## Splits -/

/-- The exact share of a split, before it is rounded to the cent. -/
def rawShare (pool : ℚ) (s : RoyaltySplit) : ℚ := div (mul pool s.bps) 10000

/-- The map from each owner to what `f` makes of its split; of two splits of one owner the last one counts. -/
def byOwner {β : Type} (f : RoyaltySplit → β) (splits : List RoyaltySplit) : List (String × β) :=
  splits.foldl (fun m s => setKey m s.ownerId (f s)) []

/-- The comparison of the sort: `a` does not come after `b`. Larger remainders come first, then larger shares, then the owners
in order. -/
def notAfter (remainder : List (String × ℚ)) (bps : List (String × Nat)) (a b : String) : Bool :=
  let remainderOf (owner : String) := (getKey remainder owner).getD 0
  let bpsOf (owner : String) := (getKey bps owner).getD 0
  decide (remainderOf b < remainderOf a) ||
    (decide (remainderOf b = remainderOf a) && (decide (bpsOf b < bpsOf a) || (decide (bpsOf b = bpsOf a) && !textLess b a)))

/-- The loop over the cents left over: the first owners of the ordering get one cent each. An ordering that is too short throws,
as `floored.get(undefined)` has no `plus`. -/
def giveCents : Nat → List String → List (String × ℚ) → Except RoyaltyError (List (String × ℚ))
  | 0, _, floored => .ok floored
  | n + 1, ownerId :: ordering, floored =>
    match getKey floored ownerId with
    | some amount => giveCents n ordering (setKey floored ownerId (plus amount (1 / 100)))
    | none => .error (.named .typeError "Cannot read properties of undefined (reading 'plus')")
  | _ + 1, [], _ => .error (.named .typeError "Cannot read properties of undefined (reading 'plus')")

/-- `distributeSplits` -/
def distributeSplits (pool : ℚ) (splits : List RoyaltySplit) : Except RoyaltyError (List Payout) := do
  let totalBps := (splits.map (·.bps)).sum
  if totalBps ≠ 10000 then
    .error (.named .error s!"splits[].bps must sum to exactly 10000, got {totalBps}")
  else do
    let floored := byOwner (fun s => toCentsDown (rawShare pool s)) splits
    let remainder := byOwner (fun s => minus (rawShare pool s) (toCentsDown (rawShare pool s))) splits
    let bpsByOwner := byOwner (·.bps) splits
    let poolCents : ℚ := truncate (div pool (1 / 100))
    let floorCentsTotal := floored.foldl (fun sum e => plus sum (div e.2 (1 / 100))) 0
    let leftoverCents := minus poolCents floorCentsTotal
    let ordering := (splits.map (·.ownerId)).insertionSort (fun a b => notAfter remainder bpsByOwner a b = true)
    let paid ← giveCents ⌈leftoverCents⌉.toNat ordering floored
    .ok (splits.map (fun s => ⟨s.ownerId, (getKey paid s.ownerId).getD 0⟩))

/-- The payouts of `computeRoyalty`; its `gross` and `net` are the argument and its `platformFee` is zero. -/
def computeRoyalty (gross : ℚ) (splits : List RoyaltySplit) : Except RoyaltyError (List Payout) := do
  let pool := toCents gross
  let payouts ← distributeSplits pool splits
  let totalPayout := payouts.foldl (fun sum p => plus sum p.amount) 0
  if totalPayout ≠ pool then .error (.unbalanced totalPayout pool) else .ok payouts

end Royalty

end Archisynapse
