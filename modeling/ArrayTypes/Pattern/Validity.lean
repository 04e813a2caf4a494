import ArrayTypes.Pattern.Bracket
import ArrayTypes.Text.Alphanumeric

/-! Which texts are patterns that can be matched: regular expressions with groups,
alternatives, repetitions, sets and flags. No count in braces is known, since no
pattern here holds a closing brace. What is kept of a pattern is how high its tree
is, because a tree may not be too high. -/

namespace ArrayTypes.Pattern

/-- What a parenthesis opens. -/
inductive Opening where
  /-- Flags for the rest of the group around it. -/
  | flags (m : Mode)
  /-- A group, perhaps with a name. -/
  | group (m : Mode) (name : Option (List Char))
  deriving DecidableEq, Repr

/-- Flags up to a colon, after which a group begins, or up to the closing parenthesis. No flag
may stand twice, and some flag must follow the mark that puts flags out. -/
def readFlags (m : Mode) (text : List Char) : Option (Opening × List Char) :=
  let flags := text.takeWhile fun c => c ≠ ':' && c ≠ ')'
  if !flags.all flagLetters.contains || !decide flags.Nodup || flags.getLast? = some '-' then none
  else
    match text.drop flags.length with
    | ':' :: rest => some (.group (m.set flags) none, rest)
    | ')' :: rest => if flags = [] then none else some (.flags (m.set flags), rest)
    | _ => none

def isGroupName : List Char → Bool
  | [] => false
  | c :: cs =>
    (c = '_' || Text.isAlphabetic c)
      && cs.all fun c => ['_', '.', '[', ']'].contains c || Text.isAlphanumeric c

/-- The name of a group, up to an angle bracket. -/
def readName (m : Mode) (text : List Char) : Option (Opening × List Char) :=
  let name := text.takeWhile (· ≠ '>')
  match text.drop name.length with
  | _ :: rest => if isGroupName name then some (.group m (some name), rest) else none
  | [] => none

/-- What is opened, read from behind the parenthesis, and the text after it. -/
def readOpening (m : Mode) (text : List Char) : Option (Opening × List Char) :=
  match m.skip text with
  | '?' :: 'P' :: '<' :: cs | '?' :: '<' :: cs => readName m cs
  | '?' :: cs => readFlags m cs
  | cs => some (.group m none, cs)

/-- An open group, or the whole pattern. -/
structure Group where
  /-- The mode outside the group. -/
  outside : Mode
  /-- The heights of the alternatives that are complete. -/
  alternatives : List Nat := []
  /-- The heights of the parts of the last alternative, the last first; flags have none. -/
  parts : List (Option Nat) := []
  deriving DecidableEq, Repr

namespace Group

def lastHeight (g : Group) : Nat :=
  rowHeight (g.parts.map (·.getD 0))

def height (g : Group) : Nat :=
  rowHeight (g.lastHeight :: g.alternatives)

def push (g : Group) (part : Option Nat) : Group :=
  { g with parts := part :: g.parts }

/-- The group with a new alternative. -/
def alternate (g : Group) : Group :=
  { g with alternatives := g.lastHeight :: g.alternatives, parts := [] }

/-- The group with its last part repeated. Flags cannot be repeated. -/
def repeatLast? (g : Group) : Option Group :=
  match g.parts with
  | some height :: parts => some { g with parts := some (height + 1) :: parts }
  | _ => none

end Group

/-- The text after the mark that a repetition takes as little as it can. -/
def dropReluctance : List Char → List Char
  | '?' :: cs => cs
  | cs => cs

/-- The height of a pattern of which `g` and then the groups around it are open. Each step reads
a character at least. -/
def readHeight : Nat → Mode → List (List Char) → Group → List Group → List Char → Option Nat
  | 0, _, _, _, _, _ => none
  | steps + 1, m, names, g, outer, text =>
    match m.skip text with
    | [] => if outer = [] then some g.height else none
    | '(' :: cs =>
      match readOpening m cs with
      | none => none
      | some (.flags m', rest) => readHeight steps m' names (g.push none) outer rest
      | some (.group m' none, rest) =>
        readHeight steps m' names { outside := m } (g :: outer) rest
      | some (.group m' (some name), rest) =>
        if names.contains name then none
        else readHeight steps m' (name :: names) { outside := m } (g :: outer) rest
    | ')' :: cs =>
      match outer with
      | [] => none
      | next :: outer =>
        readHeight steps g.outside names (next.push (some (g.height + 1))) outer cs
    | '|' :: cs => readHeight steps m names g.alternate outer cs
    | '[' :: cs => do
      let (height, rest) ← Bracket.read m cs
      readHeight steps m names (g.push (some height)) outer rest
    | '?' :: cs | '*' :: cs | '+' :: cs => do
      readHeight steps m names (← g.repeatLast?) outer (dropReluctance cs)
    | '\x7b' :: _ => none
    | '\\' :: cs => do
      let (_, rest) ← readEscape m cs
      readHeight steps m names (g.push (some 0)) outer rest
    | '.' :: cs =>
      if m.unicode then readHeight steps m names (g.push (some 0)) outer cs else none
    | _ :: cs => readHeight steps m names (g.push (some 0)) outer cs

/-- The greatest height of a pattern. -/
def greatestHeight : Nat := 250

def isValid (text : List Char) : Bool :=
  (readHeight (text.length + 1) {} [] { outside := {} } [] text).any (· ≤ greatestHeight)

end ArrayTypes.Pattern
