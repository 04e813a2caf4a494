import ArrayTypes.Decimal.Shortest

/-! How a decimal is written: with its point in place, or with an exponent. -/

namespace ArrayTypes.Decimal

/-- A number whose leading digit counts `10 ^ e` is written with its point in place when
`lowest ≤ e < highest`, and otherwise with an exponent. -/
structure Layout where
  lowest : Int
  highest : Int
  exponentMark : String
  nan : String
  infinity : String
  minus : String
  deriving DecidableEq, Repr

/-- A number without the zeros at its end, and how many there were. -/
def stripZeros (n : Nat) : Nat × Nat :=
  if 0 < n ∧ n % 10 = 0 then
    let (m, zeros) := stripZeros (n / 10)
    (m, zeros + 1)
  else (n, 0)

namespace Scaled

/-- The digits, and the power of ten that the first of them counts. -/
def leading (d : Scaled) : String × Int :=
  let (digits, zeros) := stripZeros d.digits
  (toString digits, d.exponent + zeros + (toString digits).length - 1)

def zeros (n : Nat) : String :=
  String.ofList (List.replicate n '0')

/-- At least one digit stands on either side of the point. -/
def positional (d : Scaled) : String :=
  let (digits, e) := d.leading
  if e < 0 then "0." ++ zeros (-e - 1).toNat ++ digits
  else
    let whole := digits.toList.take (e.toNat + 1)
    let rest := digits.toList.drop (e.toNat + 1)
    String.ofList whole ++ zeros (e.toNat + 1 - whole.length) ++ "."
      ++ (if rest = [] then "0" else String.ofList rest)

/-- One digit before the point, and no point after a lone digit. -/
def exponential (mark : String) (d : Scaled) : String :=
  let (digits, e) := d.leading
  let rest := digits.toList.drop 1
  String.ofList (digits.toList.take 1) ++ (if rest = [] then "" else "." ++ String.ofList rest)
    ++ mark ++ toString e

end Scaled

namespace Layout

def magnitude (l : Layout) (x : Dyadic) : String :=
  let d := if x.mantissa = 0 then ⟨0, 0⟩ else x.shortest
  if l.lowest ≤ d.leading.2 ∧ d.leading.2 < l.highest then d.positional
  else d.exponential l.exponentMark

/-- The sign of zero is written; a NaN has none. -/
def write (l : Layout) : Datum → String
  | .nan => l.nan
  | .infinite negative => (if negative then l.minus else "") ++ l.infinity
  | .finite negative x => (if negative then l.minus else "") ++ l.magnitude x

end Layout

end ArrayTypes.Decimal
