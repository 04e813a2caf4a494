/-! Words of the binary interchange formats, decoded into exact numbers. -/

namespace ArrayTypes.Decimal

/-- A format gives a word one sign bit, then the exponent, then the fraction. -/
structure Format where
  exponentBits : Nat
  fractionBits : Nat
  deriving DecidableEq, Repr

/-- The 32-bit format. -/
def single : Format := ⟨8, 23⟩

/-- The 64-bit format. -/
def double : Format := ⟨11, 52⟩

/-- The number `mantissa * 2 ^ exponent` as a member of its format. The gap to the next
smaller member is half the gap to the next larger one when `narrowBelow` holds. -/
structure Dyadic where
  mantissa : Nat
  exponent : Int
  narrowBelow : Bool
  deriving DecidableEq, Repr

inductive Datum where
  | nan
  | infinite (negative : Bool)
  | finite (negative : Bool) (magnitude : Dyadic)
  deriving DecidableEq, Repr

namespace Format

def bias (f : Format) : Nat :=
  Nat.pow 2 (f.exponentBits - 1) - 1

/-- Exponent zero marks zero and the subnormal numbers, which lack the hidden leading bit;
the largest exponent marks what is not a finite number. -/
def decode (f : Format) (bits : Nat) : Datum :=
  let fraction := bits % Nat.pow 2 f.fractionBits
  let biased := bits / Nat.pow 2 f.fractionBits % Nat.pow 2 f.exponentBits
  let negative := bits / Nat.pow 2 (f.fractionBits + f.exponentBits) % 2 = 1
  if biased = Nat.pow 2 f.exponentBits - 1 then
    if fraction = 0 then .infinite negative else .nan
  else if biased = 0 then
    .finite negative ⟨fraction, 1 - f.bias - f.fractionBits, false⟩
  else
    .finite negative
      ⟨Nat.pow 2 f.fractionBits + fraction, biased - f.bias - f.fractionBits,
        fraction = 0 && 1 < biased⟩

end Format

/-- Equality of numbers: no NaN equals anything, and the two zeros are equal. -/
def Datum.equal : Datum → Datum → Bool
  | .nan, _ | _, .nan => false
  | .finite s m, .finite t n => m = n && (s = t || m.mantissa = 0)
  | d, e => d = e

end ArrayTypes.Decimal
