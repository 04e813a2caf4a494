import ArrayTypes.Kind
import ArrayTypes.Decimal.Layout

/-! The values that slots hold before the first store. The two floating-point
values are kept as the bits of their words. -/

namespace ArrayTypes

inductive Value where
  | boolean (value : Bool)
  /-- A UTF-16 code unit. -/
  | char (unit : UInt16)
  | byte (value : Int8)
  | short (value : Int16)
  | int (value : Int32)
  | long (value : Int64)
  | float (bits : UInt32)
  | double (bits : UInt64)
  | null
  deriving DecidableEq, Repr

namespace Value

def zero : Kind → Value
  | .boolean => .boolean false
  | .char => .char 0
  | .byte => .byte 0
  | .short => .short 0
  | .int => .int 0
  | .long => .long 0
  | .float => .float 0
  | .double => .double 0

/-- Values of one kind are equal when their numbers are: floating-point values
compare as numbers, so no NaN is equal to itself and the two zeros are equal. -/
def equal : Value → Value → Bool
  | .float a, .float b =>
    (Decimal.single.decode a.toNat).equal (Decimal.single.decode b.toNat)
  | .double a, .double b =>
    (Decimal.double.decode a.toNat).equal (Decimal.double.decode b.toNat)
  | a, b => a = b

/-- Numbers from `1e-4` up to `1e16` are written with their point in place. -/
def layout : Decimal.Layout where
  lowest := -4
  highest := 16
  exponentMark := "e"
  nan := "NaN"
  infinity := "inf"
  minus := "-"

def floatText (bits : UInt32) : String :=
  layout.write (Decimal.single.decode bits.toNat)

def doubleText (bits : UInt64) : String :=
  layout.write (Decimal.double.decode bits.toNat)

/-- At least four hexadecimal digits. -/
def hexText (unit : UInt16) : String :=
  let digits := Nat.toDigits 16 unit.toNat
  String.ofList (List.replicate (4 - digits.length) '0' ++ digits)

/-- The value as a literal of its kind. -/
def display : Value → String
  | .boolean b => toString b
  | .char u => "'\\u" ++ hexText u ++ "'"
  | .byte n => toString n.toInt
  | .short n => toString n.toInt
  | .int n => toString n.toInt
  | .long n => toString n.toInt ++ "L"
  | .float bits => floatText bits ++ "f"
  | .double bits => doubleText bits
  | .null => "null"

/-- The value as its constructor applied to a plain number. -/
def debug : Value → String
  | .boolean b => "Boolean(" ++ toString b ++ ")"
  | .char u => "Char(" ++ toString u.toNat ++ ")"
  | .byte n => "Byte(" ++ toString n.toInt ++ ")"
  | .short n => "Short(" ++ toString n.toInt ++ ")"
  | .int n => "Int(" ++ toString n.toInt ++ ")"
  | .long n => "Long(" ++ toString n.toInt ++ ")"
  | .float bits => "Float(" ++ floatText bits ++ ")"
  | .double bits => "Double(" ++ doubleText bits ++ ")"
  | .null => "Null"

end Value

end ArrayTypes
