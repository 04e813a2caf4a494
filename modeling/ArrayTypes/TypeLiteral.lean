import ArrayTypes.Kind

/-! Types as they are spelled in a source text, such as `int[][]` or
`java.lang.String[]`: an element and a number of array levels around it. -/

namespace ArrayTypes

inductive Element where
  | primitive (kind : Kind)
  | reference (name : String)
  deriving DecidableEq, Repr

structure TypeLiteral where
  element : Element
  dimensions : Nat
  deriving DecidableEq, Repr

namespace Element

/-- A primitive name stands for its kind, and every other name for a class. -/
def ofName (name : String) : Element :=
  match Kind.ofName? name with
  | some kind => .primitive kind
  | none => .reference name

def display : Element → String
  | .primitive kind => kind.name
  | .reference name => name

def debug : Element → String
  | .primitive kind => "Primitive(" ++ kind.label ++ ")"
  | .reference name => "Reference(TypeName(" ++ name ++ "))"

end Element

namespace TypeLiteral

/-- One pair of brackets for each array level. -/
def brackets : Nat → String
  | 0 => ""
  | n + 1 => brackets n ++ "[]"

def display (t : TypeLiteral) : String :=
  t.element.display ++ brackets t.dimensions

def debug (t : TypeLiteral) : String :=
  "TypeLiteral \x7b element: " ++ t.element.debug ++ ", dimensions: " ++ toString t.dimensions
    ++ " \x7d"

end TypeLiteral

end ArrayTypes
