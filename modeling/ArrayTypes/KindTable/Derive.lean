import ArrayTypes.KindTable.Item

/-! The table of kinds derived from a declaration, and why a declaration has none.
Variants are read in order and so are their entries, and the first fault ends the
reading. -/

namespace ArrayTypes.KindTable

structure Row where
  variant : String
  name : String
  code : Char
  width : UInt8
  deriving DecidableEq, Repr

/-- The kinds of literal that entries are given. -/
inductive LiteralKind where
  | string | character | integer
  deriving DecidableEq, Repr

def LiteralKind.label : LiteralKind → String
  | string => "string"
  | character => "character"
  | integer => "integer"

/-- What is wrong with a table attribute. -/
inductive AttributeError where
  | expectedArguments
  | expectedParentheses
  | unknownKey
  | expectedEquals
  /-- Another token stands in place of the literal, or the list ends before it. -/
  | expectedLiteral (kind : LiteralKind) (atEnd : Bool)
  | widthTooLarge
  | widthNegative
  | unreadable (fault : Fault)
  | incomplete
  deriving DecidableEq, Repr

inductive TableError where
  | notAnEnumeration
  | hasFields (variant : String)
  | missingAttribute (variant : String)
  | invalidAttribute (variant : String) (cause : AttributeError)
  deriving DecidableEq, Repr

def AttributeError.message : AttributeError → String
  | expectedArguments => "expected attribute arguments in parentheses: #[primitive(...)]"
  | expectedParentheses => "expected parentheses: #[primitive(...)]"
  | unknownKey => "expected `name`, `code` or `width`"
  | expectedEquals => "expected `=`"
  | expectedLiteral kind atEnd => endNotice atEnd ++ "expected " ++ kind.label ++ " literal"
  | widthTooLarge => "number too large to fit in target type"
  | widthNegative => "invalid digit found in string"
  | unreadable fault => fault.message
  | incomplete => "`name`, `code` and `width` are all required"

def TableError.message : TableError → String
  | notAnEnumeration => "This macro can only be applied to enums."
  | hasFields variant => "Variant " ++ variant ++ " must not have fields"
  | missingAttribute variant => "Variant " ++ variant ++ " is missing #[primitive(...)]"
  | invalidAttribute variant cause =>
    "Invalid #[primitive] on " ++ variant ++ ": " ++ cause.message

/-! ### Entries -/

/-- The entries read so far; a later entry replaces an earlier one of the same key. -/
structure Draft where
  name : Option String := none
  code : Option Char := none
  width : Option UInt8 := none
  deriving DecidableEq, Repr

/-- What is wrong with an entry whose value is not a literal of its kind. -/
def Assignment.error (kind : LiteralKind) : Assignment → AttributeError
  | missing => .expectedEquals
  | unfinished => .expectedLiteral kind true
  | literal _ => .expectedLiteral kind false

def readName : Assignment → Except AttributeError String
  | .literal (.string s) => .ok s
  | value => .error (value.error .string)

def readCode : Assignment → Except AttributeError Char
  | .literal (.character c) => .ok c
  | value => .error (value.error .character)

/-- A width fits in a byte and has no sign, not even on zero. -/
def readWidth : Assignment → Except AttributeError UInt8
  | .literal (.integer true _) => .error .widthNegative
  | .literal (.integer false n) => if n < 256 then .ok n.toUInt8 else .error .widthTooLarge
  | value => .error (value.error .integer)

/-- The draft with the value of one more entry. -/
def Draft.set (d : Draft) (entry : Entry) : Except AttributeError Draft :=
  match entry.key.name? with
  | some "name" => return { d with name := some (← readName entry.value) }
  | some "code" => return { d with code := some (← readCode entry.value) }
  | some "width" => return { d with width := some (← readWidth entry.value) }
  | _ => .error .unknownKey

def Draft.complete (d : Draft) (variant : String) : Except AttributeError Row :=
  match d with
  | ⟨some name, some code, some width⟩ => .ok ⟨variant, name, code, width⟩
  | _ => .error .incomplete

/-! ### Variants -/

/-- The row of a list of entries. What is wrong with an entry comes before a fault after it. -/
def readEntries (variant : String) (list : EntryList) : Except AttributeError Row := do
  let draft ← list.entries.foldlM Draft.set {}
  match list.fault? with
  | some fault => throw (.unreadable fault)
  | none => draft.complete variant

def readAttribute (variant : String) : Attribute → Except AttributeError Row
  | .entries list => readEntries variant list
  | .bare => .error .expectedArguments
  | .assigned => .error .expectedParentheses
  | .unrelated => .error .incomplete

/-- Only the first table attribute of a variant counts. -/
def readVariant (v : Variant) : Except TableError Row :=
  if v.shape ≠ .unit then .error (.hasFields v.ident)
  else
    match v.attributes.find? Attribute.isRelated with
    | none => .error (.missingAttribute v.ident)
    | some found =>
      match readAttribute v.ident found with
      | .ok row => .ok row
      | .error cause => .error (.invalidAttribute v.ident cause)

def derive : Item → Except TableError (List Row)
  | .enumeration variants => variants.mapM readVariant
  | _ => .error .notAnEnumeration

/-- The first row with a name. -/
def ofName? (table : List Row) (name : String) : Option Nat :=
  table.findIdx? (·.name = name)

end ArrayTypes.KindTable
