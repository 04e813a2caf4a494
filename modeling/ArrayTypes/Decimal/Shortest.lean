import ArrayTypes.Decimal.Binary

/-! The decimal with the fewest digits that reads back as a given binary number.
Powers of ten are tried from the coarsest down: the first one that has a
multiple among the numbers rounding to the given one decides how many digits
are written, and of two such multiples the nearer is taken. -/

namespace ArrayTypes.Decimal

/-- The number `digits * 10 ^ exponent`. -/
structure Scaled where
  digits : Nat
  exponent : Int
  deriving DecidableEq, Repr

namespace Dyadic

/-- The number as a fraction of `den` over the power of ten `10 ^ k`, in quarters of a
unit in the last place: `4 * mantissa * num / den` is the number over `10 ^ k`. -/
def gridRatio (x : Dyadic) (k : Int) : Nat × Nat :=
  (Nat.pow 2 (x.exponent - 2).toNat * Nat.pow 10 (-k).toNat,
    Nat.pow 2 (2 - x.exponent).toNat * Nat.pow 10 k.toNat)

/-- Whether `c * 10 ^ k` rounds to `x`. The interval of such numbers reaches half way to
both neighbours, and contains its ends when the mantissa is even. -/
def readsBack (x : Dyadic) (k : Int) (c : Nat) : Bool :=
  let (num, den) := x.gridRatio k
  let lower := (4 * x.mantissa - if x.narrowBelow then 1 else 2) * num
  let upper := (4 * x.mantissa + 2) * num
  if x.mantissa % 2 = 0 then lower ≤ c * den && c * den ≤ upper
  else lower < c * den && c * den < upper

/-- The multiple of `10 ^ k` nearest to `x` among those that round to it; a tie goes up. -/
def onGrid? (x : Dyadic) (k : Int) : Option Nat :=
  let (num, den) := x.gridRatio k
  let value := 4 * x.mantissa * num
  let below := value / den
  match x.readsBack k below, x.readsBack k (below + 1) with
  | true, true =>
    some (if value - below * den < (below + 1) * den - value then below else below + 1)
  | true, false => some below
  | false, true => some (below + 1)
  | false, false => none

/-- The number itself, written out in full. -/
def exact (x : Dyadic) : Scaled :=
  if 0 ≤ x.exponent then ⟨x.mantissa * Nat.pow 2 x.exponent.toNat, 0⟩
  else ⟨x.mantissa * Nat.pow 5 (-x.exponent).toNat, x.exponent⟩

/-- The search down `steps` powers of ten from `10 ^ k`. -/
def search (x : Dyadic) : Nat → Int → Scaled
  | 0, _ => x.exact
  | steps + 1, k =>
    match x.onGrid? k with
    | some c => ⟨c, k⟩
    | none => x.search steps (k - 1)

/-- A power of ten above the number: `2 ^ b < 10 ^ k` holds if `100 * k` is at least `31 * b`
for positive `b`, or at least `30 * b` for negative `b`. -/
def ceiling (x : Dyadic) : Int :=
  let bits := x.exponent + x.mantissa.log2 + 1
  if 0 ≤ bits then 31 * bits / 100 + 1 else 30 * bits / 100 + 1

/-- The digits end at the last power of ten that the number is a multiple of. -/
def shortest (x : Dyadic) : Scaled :=
  let top := x.ceiling
  x.search (top - min x.exponent 0 + 1).toNat top

end Dyadic

end ArrayTypes.Decimal
