import ArrayTypes.KindTable.Derive

/-! What is written out for a table: a list of the variants, three functions on them and one that
finds a variant by its name. The values are collected in columns while the variants are read, and
the columns are paired up again, entry by entry, in the cases of the functions. -/

namespace ArrayTypes.KindTable

structure Columns where
  variants : List String
  names : List String
  codes : List Char
  widths : List UInt8
  deriving DecidableEq, Repr

/-- The length of the list of variants is written beside it. A case pairs what it matches with
what it answers. -/
structure Expansion where
  count : Nat
  all : List String
  nameCases : List (String × String)
  codeCases : List (String × Char)
  widthCases : List (String × UInt8)
  variantCases : List (String × String)
  deriving DecidableEq, Repr

namespace Columns

def empty : Columns := ⟨[], [], [], []⟩

def push (c : Columns) (row : Row) : Columns where
  variants := c.variants ++ [row.variant]
  names := c.names ++ [row.name]
  codes := c.codes ++ [row.code]
  widths := c.widths ++ [row.width]

/-- The columns with an entry more for each variant. The first fault ends the collecting. -/
def collect (c : Columns) : List Variant → Except TableError Columns
  | [] => .ok c
  | v :: variants =>
    match readVariant v with
    | .ok row => (c.push row).collect variants
    | .error e => .error e

def expand (c : Columns) : Expansion where
  count := c.variants.length
  all := c.variants
  nameCases := c.variants.zip c.names
  codeCases := c.variants.zip c.codes
  widthCases := c.variants.zip c.widths
  variantCases := c.names.zip c.variants

end Columns

/-- What is written out for a declaration; nothing if it has no table. -/
def expand : Item → Except TableError Expansion
  | .enumeration variants => Columns.expand <$> Columns.empty.collect variants
  | _ => .error .notAnEnumeration

/-! The first case that matches is taken. Any text may be looked up for a variant, so that look-up
has a last case for all other texts. -/

namespace Expansion

def name? (x : Expansion) (variant : String) : Option String :=
  x.nameCases.lookup variant

def code? (x : Expansion) (variant : String) : Option Char :=
  x.codeCases.lookup variant

def width? (x : Expansion) (variant : String) : Option UInt8 :=
  x.widthCases.lookup variant

def ofName? (x : Expansion) (name : String) : Option String :=
  x.variantCases.lookup name

end Expansion

end ArrayTypes.KindTable
