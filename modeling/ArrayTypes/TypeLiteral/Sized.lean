import ArrayTypes.Text.Capacity
import ArrayTypes.TypeLiteral.Reader

/-! Type literals with a word for the number of their levels. A literal may have more levels
than there is room for in any text, and then it cannot be written. -/

namespace ArrayTypes

structure SizedLiteral where
  element : Element
  dimensions : UInt64
  deriving DecidableEq, Repr

namespace SizedLiteral

def type (t : SizedLiteral) : TypeLiteral :=
  ⟨t.element, t.dimensions.toNat⟩

/-- The brackets are a text of their own before they follow the element. -/
def write (t : SizedLiteral) : Except Text.CapacityOverflow String := do
  let brackets ← Text.repeated t.dimensions.toNat "[]"
  Text.joined t.element.display brackets

def ofType (t : TypeLiteral) : SizedLiteral :=
  ⟨t.element, UInt64.ofNat t.dimensions⟩

def read (text : String) : Except TypeLiteral.SyntaxError SizedLiteral :=
  ofType <$> TypeLiteral.parse text

end SizedLiteral

end ArrayTypes
