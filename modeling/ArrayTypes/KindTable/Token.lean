import ArrayTypes.KindTable.Literal

/-! The tokens of an attribute's list. Blanks and comments stand between tokens, and
each token is as long as it can be. A token that no list may hold ends the list. -/

namespace ArrayTypes.KindTable

inductive Token where
  /-- A name; a raw one keeps its two marks. -/
  | name (text : String)
  /-- Two colons with nothing between them. -/
  | colons
  | equals
  | comma
  /-- A literal with its suffix. -/
  | literal (value : Literal)
  /-- Any other token, with all that follows it. -/
  | other
  deriving DecidableEq, Repr

namespace Token

/-- What announces a literal of bytes or one that ends in a zero byte, and what stands for a
literal that cannot be read. -/
def otherOpenings : List (List Char) :=
  ["b\"", "b'", "br\"", "br#", "c\"", "cr\"", "cr#", "(/*ERROR*/)"].map String.toList

def opensNumber : List Char → Bool
  | '-' :: cs => (dropSpacing cs).head?.any Char.isDigit
  | cs => cs.head?.any Char.isDigit

/-- Whether a text starts with a literal that is neither a string nor a character nor an
integer. -/
def opensOther (text : List Char) : Bool :=
  opensNumber text || otherOpenings.any (·.isPrefixOf text)

/-- The name that a text starts with, and the text after it. -/
def readName? : List Char → Option (String × List Char)
  | 'r' :: '#' :: c :: cs =>
    if isNameStart c then
      some (String.ofList ('r' :: '#' :: c :: cs.takeWhile isNamePart), cs.dropWhile isNamePart)
    else none
  | c :: cs =>
    if isNameStart c then
      some (String.ofList (c :: cs.takeWhile isNamePart), cs.dropWhile isNamePart)
    else none
  | [] => none

theorem length_lt_of_readName? {text rest : List Char} {name : String}
    (h : readName? text = some (name, rest)) : rest.length < text.length := by
  unfold readName? at h
  split at h
  next c cs =>
    split at h
    · cases h
      exact Nat.lt_succ_of_lt <| Nat.lt_succ_of_lt <|
        Nat.lt_succ_of_le (List.dropWhile_suffix _).length_le
    · cases h
  next c cs _ =>
    split at h
    · cases h
      exact Nat.lt_succ_of_le (List.dropWhile_suffix _).length_le
    · cases h
  next => cases h

/-- The token that a text starts with, and the text after it. Nothing may stand before it. -/
def first? : List Char → Option (Token × List Char)
  | [] => none
  | ',' :: cs => some (comma, cs)
  | '=' :: cs => some (equals, cs)
  | ':' :: ':' :: cs => some (colons, cs)
  | text =>
    match Literal.read? text with
    | some (value, rest) => some (literal value, dropName rest)
    | none =>
      if opensOther text then some (literal .other, [])
      else
        match readName? text with
        | some (text, rest) => some (name text, rest)
        | none => some (other, [])

theorem length_lt_of_first? {text rest : List Char} {token : Token}
    (h : first? text = some (token, rest)) : rest.length < text.length := by
  unfold first? at h
  split at h
  next => cases h
  next =>
    cases h
    exact Nat.lt_succ_self _
  next =>
    cases h
    exact Nat.lt_succ_self _
  next =>
    cases h
    exact Nat.lt_succ_of_lt (Nat.lt_succ_self _)
  next hne _ _ _ =>
    have hpos := List.length_pos_iff.2 hne
    split at h
    next hr =>
      cases h
      exact Nat.lt_of_le_of_lt (length_dropName_le _) (Literal.length_lt_of_read? hr)
    next =>
      split at h
      · cases h
        exact hpos
      · split at h
        next hr =>
          cases h
          exact length_lt_of_readName? hr
        next =>
          cases h
          exact hpos

/-- The tokens of a text. -/
def all (text : List Char) : List Token :=
  match _ : first? (dropSpacing text) with
  | some (token, rest) => token :: all rest
  | none => []
termination_by text.length
decreasing_by exact Nat.lt_of_lt_of_le (length_lt_of_first? ‹_›) (length_dropSpacing_le text)

end Token

end ArrayTypes.KindTable
