/-! Making texts of a bounded length. A text has at most as many bytes as addresses may differ
by, and room for all of it is asked for before any of it is written. -/

namespace ArrayTypes.Text

/-- The most bytes that a text can have. -/
def maxBytes : Nat := 9223372036854775807

/-- A text was to have so many bytes, which are too many. -/
structure CapacityOverflow where
  bytes : Nat
  deriving DecidableEq, Repr

def CapacityOverflow.message (_ : CapacityOverflow) : String := "capacity overflow"

def reserve (bytes : Nat) : Except CapacityOverflow Unit :=
  if bytes ≤ maxBytes then .ok () else .error ⟨bytes⟩

/-- The text `n` times. -/
def repeated (n : Nat) (text : String) : Except CapacityOverflow String := do
  reserve (n * text.utf8ByteSize)
  return String.join (List.replicate n text)

def joined (first second : String) : Except CapacityOverflow String := do
  reserve (first.utf8ByteSize + second.utf8ByteSize)
  return first ++ second

end ArrayTypes.Text
