import ArrayTypes.Pattern.Escape

/-! Sets of characters in brackets, as in `[^a-z&&[:alpha:]]`. Brackets nest, and
between their items may stand operators on sets. What is kept of a set is how high
it is: how many nodes are on the longest path down its tree. -/

namespace ArrayTypes.Pattern

/-- The height of a row of trees; a row of one tree is that tree. -/
def rowHeight : List Nat → Nat
  | [] => 0
  | [height] => height
  | heights => heights.foldl max 0 + 1

/-- An open bracket. -/
structure Bracket where
  /-- The height of what stands before the last operator, if there is one. -/
  left : Option Nat := none
  /-- The heights of the items after it, the last first. -/
  items : List Nat := []
  /-- Nothing but dashes has been read. -/
  isFresh : Bool := true
  deriving DecidableEq, Repr

namespace Bracket

def height (b : Bracket) : Nat :=
  match b.left with
  | some left => max left (rowHeight b.items) + 2
  | none => rowHeight b.items + 1

def push (b : Bracket) (item : Nat) : Bracket :=
  { b with items := item :: b.items, isFresh := false }

/-- The bracket after an operator, which joins all that was read before. -/
def operate (b : Bracket) : Bracket where
  left :=
    match b.left with
    | some left => some (max left (rowHeight b.items) + 1)
    | none => some (rowHeight b.items)
  isFresh := false

/-- The names that a set may have between colons. -/
def setNames : List (List Char) :=
  ["alnum", "alpha", "ascii", "blank", "cntrl", "digit", "graph", "lower", "print", "punct",
    "space", "upper", "word", "xdigit"].map String.toList

/-- The text after a named set, as in `[:alpha:]` or `[:^alpha:]`, and whether it is negated. -/
def readNamed? (text : List Char) : Option (Bool × List Char) :=
  let (negated, rest) :=
    match text with
    | '[' :: ':' :: '^' :: cs => (true, cs)
    | '[' :: ':' :: cs => (false, cs)
    | _ => (false, [])
  let name := rest.takeWhile (· ≠ ':')
  match rest.drop name.length with
  | ':' :: ']' :: after => if setNames.contains name then some (negated, after) else none
  | _ => none

/-- A bracket with nothing read yet, from behind its opening, and the text after it. A pattern
over bytes has no negated set, because that holds what is not ASCII. -/
def start (m : Mode) (text : List Char) : Option (Bracket × List Char) :=
  match m.skip text with
  | '^' :: cs => if m.unicode then some ({}, cs) else none
  | cs => some ({}, cs)

/-- An item that is one part. -/
def readPart (m : Mode) : List Char → Option (Part × List Char)
  | [] => none
  | '\\' :: cs => do
    match ← readEscape m cs with
    | (.character c, rest) =>
      if m.unicode || c.toNat < 128 then return (.character c, rest) else none
    | (.set, rest) => return (.set, rest)
    | (.position, _) => none
  | c :: cs => if m.unicode || c.toNat < 128 then some (.character c, cs) else none

/-- The text after a part or a range of characters. A dash makes no range before a closing
bracket or another dash. -/
def readItem (m : Mode) (text : List Char) : Option (List Char) := do
  let (first, rest) ← readPart m text
  match m.skip rest with
  | '-' :: cs =>
    if m.ahead cs = some ']' || m.ahead cs = some '-' then return '-' :: cs
    match first, ← readPart m (m.skip cs) with
    | .character low, (.character high, rest) => if low ≤ high then return rest else none
    | _, _ => none
  | rest => return rest

/-- The height of the set whose open brackets are given, the innermost first, and the text after
it. Each step reads a character at least. -/
def readRest (m : Mode) : Nat → Bracket → List Bracket → List Char → Option (Nat × List Char)
  | 0, _, _, _ => none
  | steps + 1, b, outer, text =>
    match m.skip text with
    | [] => none
    | c :: cs =>
      if b.isFresh && c = '-' then readRest m steps { b with items := 0 :: b.items } outer cs
      else if b.isFresh && b.items = [] && c = ']' then readRest m steps (b.push 0) outer cs
      else if c = ']' then
        match outer with
        | [] => some (b.height, cs)
        | next :: outer => readRest m steps (next.push b.height) outer cs
      else if ['&', '-', '~'].contains c && cs.head? = some c then
        readRest m steps b.operate outer (cs.drop 1)
      else if c = '[' then
        match readNamed? (c :: cs) with
        | some (negated, rest) =>
          if negated && !m.unicode then none else readRest m steps (b.push 0) outer rest
        | none => do
          let (inner, rest) ← start m cs
          readRest m steps inner (b :: outer) rest
      else do
        let rest ← readItem m (c :: cs)
        readRest m steps (b.push 0) outer rest

/-- The height of a set, read from behind its opening bracket, and the text after it. -/
def read (m : Mode) (text : List Char) : Option (Nat × List Char) := do
  let (b, rest) ← start m text
  readRest m (text.length + 1) b [] rest

end Bracket

end ArrayTypes.Pattern
