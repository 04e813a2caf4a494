/-! A pool of names in which equal names have one symbol. -/

namespace ArrayTypes

/-- A symbol is the position of its name. -/
structure NamePool where
  names : Array String
  deriving DecidableEq, Repr

/-- A name in a pool. -/
structure Symbol where
  index : Nat
  deriving DecidableEq, Repr

namespace NamePool

def empty : NamePool := ⟨#[]⟩

def find? (p : NamePool) (name : String) : Option Symbol :=
  (p.names.idxOf? name).map Symbol.mk

/-- The symbol of a name, which is added if it is missing. -/
def intern (p : NamePool) (name : String) : Symbol × NamePool :=
  match p.find? name with
  | some s => (s, p)
  | none => (⟨p.names.size⟩, ⟨p.names.push name⟩)

def text? (p : NamePool) (s : Symbol) : Option String :=
  p.names[s.index]?

/-- Comparison of a symbol with a text, which is not added. -/
def spells (p : NamePool) (s : Symbol) (text : String) : Bool :=
  p.find? text = some s

end NamePool

end ArrayTypes
