import ArrayTypes.KindTable.Entry

/-! The declarations from which a table of kinds is derived: an enumeration whose
variants carry a name, a code and a width as entries of an attribute, as in
`#[primitive(name = "int", code = 'I', width = 4)]`. -/

namespace ArrayTypes.KindTable

inductive Attribute where
  /-- A table attribute with a list of entries. -/
  | entries (list : EntryList)
  /-- A table attribute that stands alone. -/
  | bare
  /-- A table attribute that is set equal to something. -/
  | assigned
  /-- Any other attribute. -/
  | unrelated
  deriving DecidableEq, Repr

/-- What a variant holds: only a unit variant holds no fields and no list of them. -/
inductive Shape where
  | unit | emptyTuple | tuple | record
  deriving DecidableEq, Repr

structure Variant where
  ident : String
  shape : Shape
  attributes : List Attribute
  deriving DecidableEq, Repr

inductive Item where
  | enumeration (variants : List Variant)
  | structured
  | union
  deriving DecidableEq, Repr

def Attribute.isRelated : Attribute → Bool
  | unrelated => false
  | _ => true

end ArrayTypes.KindTable
