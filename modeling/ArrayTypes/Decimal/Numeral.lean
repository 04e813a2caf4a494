/-! The texts that spell a number with a fraction and an exponent, or a value that is
no number. -/

namespace ArrayTypes.Decimal

/-- The values that are spelled by a word, in capitals or not. -/
def words : List String := ["inf", "infinity", "nan"]

def dropSign : List Char → List Char
  | '+' :: cs | '-' :: cs => cs
  | cs => cs

def startsWithDigit (text : List Char) : Bool :=
  text.head?.any Char.isDigit

/-- Nothing, or an exponent. -/
def isExponent : List Char → Bool
  | [] => true
  | c :: cs => (c = 'e' || c = 'E') && startsWithDigit (dropSign cs)
      && (dropSign cs).all Char.isDigit

/-- A number has a digit before its point or after it, and both parts may be missing otherwise. -/
def isNumeral (text : List Char) : Bool :=
  let body := dropSign text
  words.contains (String.ofList body).toLower ||
    match body.dropWhile Char.isDigit with
    | '.' :: cs =>
      (startsWithDigit body || startsWithDigit cs) && isExponent (cs.dropWhile Char.isDigit)
    | rest => startsWithDigit body && isExponent rest

end ArrayTypes.Decimal
