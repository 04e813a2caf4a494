import ArrayTypes.Kind

/-! Class descriptors and the handles that name them. -/

namespace ArrayTypes

/-- The identity of a descriptor: the registry that owns it and its slot there. -/
structure Handle where
  owner : Nat
  slot : Nat
  deriving DecidableEq, Repr

def Handle.display (h : Handle) : String :=
  "descriptor(" ++ toString h.owner ++ ":" ++ toString h.slot ++ ")"

/-- An array keeps its component's handle and its own two names. Of a class outside the
arrays only the name is known. -/
inductive Descriptor where
  | primitive (kind : Kind)
  | array (component : Handle) (name binaryName : String)
  | reference (name : String)
  deriving DecidableEq, Repr

namespace Descriptor

/-- The display name, as in `int`, `int[][]` or `java.lang.String[]`. -/
def name : Descriptor → String
  | primitive kind => kind.name
  | array _ name _ => name
  | reference name => name

/-- Arrays have a bracketed binary name, as in `[I`; the others keep their display name. -/
def binaryName : Descriptor → String
  | primitive kind => kind.name
  | array _ _ binaryName => binaryName
  | reference name => name

/-- The spelling after the `[` of an enclosing array's binary name. -/
def elementCode : Descriptor → String
  | primitive kind => kind.code.toString
  | array _ _ binaryName => binaryName
  | reference name => "L" ++ name ++ ";"

def component? : Descriptor → Option Handle
  | array component _ _ => some component
  | _ => none

def isArray : Descriptor → Bool
  | array _ _ _ => true
  | _ => false

def isPrimitive : Descriptor → Bool
  | primitive _ => true
  | _ => false

/-- Arrays and classes share one slot representation, which lets arrays of them vary
with their components. -/
def isReferenceTyped : Descriptor → Bool
  | primitive _ => false
  | _ => true

/-- The array class of the descriptor `d` behind the handle `component`. -/
def arrayOf (component : Handle) (d : Descriptor) : Descriptor :=
  array component (d.name ++ "[]") ("[" ++ d.elementCode)

end Descriptor

end ArrayTypes
