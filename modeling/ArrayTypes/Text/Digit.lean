/-! Digits in a base up to sixteen, and the numbers that they spell. -/

namespace ArrayTypes.Text

def digitValue (c : Char) : Nat :=
  if c.isDigit then c.toNat - '0'.toNat else 10 + (c.toLower.toNat - 'a'.toNat)

/-- Whether a character is taken for a digit of a base: any decimal digit is, also where its
value is too large. -/
def isDigitIn (base : Nat) (c : Char) : Bool :=
  c.isDigit || (base = 16 && c.isAlpha && digitValue c < 16)

/-- The number that digits spell, the most significant first. -/
def numeral (base : Nat) (digits : List Char) : Nat :=
  digits.foldl (fun n c => base * n + digitValue c) 0

end ArrayTypes.Text
