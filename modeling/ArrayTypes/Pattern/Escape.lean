import ArrayTypes.Pattern.Mode
import ArrayTypes.Text.Digit

/-! What a backslash and the characters after it stand for in a pattern. Where a
pattern is over bytes it may only match what is ASCII by escapes, and where it is
over characters no word boundary is known. -/

namespace ArrayTypes.Pattern

/-- What one part of a pattern stands for. -/
inductive Part where
  | character (c : Char)
  /-- One of several characters. -/
  | set
  /-- A place between two characters. -/
  | position
  deriving DecidableEq, Repr

/-- The character with the code point that the next hexadecimal digits give, and the text after
them. -/
def readCode (m : Mode) : Nat → List Char → List Char → Option (Char × List Char)
  | 0, digits, text =>
    let c := Char.ofNat (Text.numeral 16 digits)
    if c.toNat = Text.numeral 16 digits then some (c, text) else none
  | count + 1, digits, text =>
    match m.skip text with
    | c :: cs => if Text.isDigitIn 16 c then readCode m count (digits ++ [c]) cs else none
    | [] => none

/-- The letters of the general categories of characters. -/
def categories : List Char := "CLMNPSZclmnpsz".toList

def readCategory (m : Mode) (text : List Char) : Option (List Char) :=
  match m.skip text with
  | c :: cs => if m.unicode && categories.contains c then some cs else none
  | [] => none

/-- The control character that a letter stands for. -/
def control? : Char → Option Char
  | 'a' => some '\x07'
  | 't' => some '\t'
  | 'n' => some '\n'
  | 'v' => some '\x0b'
  | 'f' => some '\x0c'
  | 'r' => some '\r'
  | _ => none

/-- What a single character stands for after a backslash. -/
def simpleEscape? (m : Mode) (c : Char) : Option Part :=
  match control? c with
  | some control => some (.character control)
  | none =>
    if ['d', 's', 'w'].contains c || (m.unicode && ['D', 'S', 'W'].contains c) then some .set
    else if ['A', 'z'].contains c || (!m.unicode && ['b', 'B', '<', '>'].contains c) then
      some .position
    else if c.toNat < 128 && !c.isAlphanum && c ≠ '<' && c ≠ '>' then some (.character c)
    else none

/-- What an escape stands for, read from behind the backslash, and the text after it. -/
def readEscape (m : Mode) : List Char → Option (Part × List Char)
  | [] => none
  | 'x' :: cs => do
    let (c, rest) ← readCode m 2 [] cs
    if m.unicode || c.toNat < 128 then return (.character c, rest) else none
  | 'u' :: cs => (readCode m 4 [] cs).map fun (c, rest) => (.character c, rest)
  | 'U' :: cs => (readCode m 8 [] cs).map fun (c, rest) => (.character c, rest)
  | 'p' :: cs | 'P' :: cs => (readCategory m cs).map (.set, ·)
  | c :: cs => (simpleEscape? m c).map (·, cs)

end ArrayTypes.Pattern
