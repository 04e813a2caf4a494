/-! The eight primitive kinds. Their order fixes the slot that each kind's
descriptor takes in every registry. -/

namespace ArrayTypes

inductive Kind where
  | boolean | char | byte | short | int | long | float | double
  deriving DecidableEq, Repr

namespace Kind

def all : List Kind :=
  [boolean, char, byte, short, int, long, float, double]

def name : Kind → String
  | boolean => "boolean"
  | char => "char"
  | byte => "byte"
  | short => "short"
  | int => "int"
  | long => "long"
  | float => "float"
  | double => "double"

/-- The letter that stands for the kind in the binary name of an array. -/
def code : Kind → Char
  | boolean => 'Z'
  | char => 'C'
  | byte => 'B'
  | short => 'S'
  | int => 'I'
  | long => 'J'
  | float => 'F'
  | double => 'D'

/-- Storage width in bytes. -/
def width : Kind → Nat
  | boolean | byte => 1
  | char | short => 2
  | int | float => 4
  | long | double => 8

def index : Kind → Nat
  | boolean => 0
  | char => 1
  | byte => 2
  | short => 3
  | int => 4
  | long => 5
  | float => 6
  | double => 7

/-- The capitalized name, used where a type or a value is shown by its constructor. -/
def label : Kind → String
  | boolean => "Boolean"
  | char => "Char"
  | byte => "Byte"
  | short => "Short"
  | int => "Int"
  | long => "Long"
  | float => "Float"
  | double => "Double"

def ofName? (name : String) : Option Kind :=
  all.find? (·.name = name)

theorem mem_all (k : Kind) : k ∈ all := by
  cases k <;> decide

theorem all_getElem?_index (k : Kind) : all[k.index]? = some k := by
  cases k <;> rfl

theorem ofName?_name (k : Kind) : ofName? k.name = some k := by
  cases k <;> decide

theorem ofName?_eq_some_iff {s : String} {k : Kind} : ofName? s = some k ↔ k.name = s := by
  constructor
  · intro h
    simpa using List.find?_some h
  · rintro rfl
    exact ofName?_name k

end Kind

end ArrayTypes
