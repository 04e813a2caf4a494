import ArrayTypes.Hierarchy
import ArrayTypes.Text.Blank
import ArrayTypes.Text.Split

/-! Class declarations on the command line, as in `Sub:Super1,Super2`. -/

namespace ArrayTypes.Command

/-- The class stands before the first colon. The supertypes after it are separated by
commas; blanks around names and empty names are dropped. -/
def readDeclaration (text : String) : Option ClassDeclaration :=
  (Text.cutAt ':' text.toList).map fun (name, supertypes) =>
    let names := (Text.pieces ',' supertypes).map Text.trim
    { name := String.ofList (Text.trim name)
      supertypes := (names.filter (· ≠ [])).map String.ofList }

/-- The hierarchy of all the declarations, or the first that cannot be read. -/
def readHierarchy : List String → ClassHierarchy → Except String ClassHierarchy
  | [], c => .ok c
  | text :: texts, c =>
    match readDeclaration text with
    | some d => readHierarchy texts (c.declare d.name d.supertypes)
    | none => .error text

end ArrayTypes.Command
