import ArrayTypes.Text.Blank
import ArrayTypes.Text.Split

/-! The tokens of a type literal and where they stand in the text. Identifiers
are as long as they can be, and blanks between tokens are passed over. -/

namespace ArrayTypes.TypeLiteral

inductive Token where
  | identifier (name : List Char)
  | dot
  | opening
  | closing
  deriving DecidableEq, Repr

def isIdentifierStart (c : Char) : Bool :=
  c.isAlpha || c = '_' || c = '$'

/-- Identifiers are made of ASCII characters alone. -/
def isIdentifierPart (c : Char) : Bool :=
  c.isAlphanum || c = '_' || c = '$'

namespace Token

def text : Token → List Char
  | identifier name => name
  | dot => ['.']
  | opening => ['[']
  | closing => [']']

/-- The longest token that a text starts with, and the text after it. -/
def first? : List Char → Option (Token × List Char)
  | [] => none
  | c :: cs =>
    if isIdentifierStart c then
      some (identifier (c :: cs.takeWhile isIdentifierPart), cs.dropWhile isIdentifierPart)
    else if c = '.' then some (dot, cs)
    else if c = '[' then some (opening, cs)
    else if c = ']' then some (closing, cs)
    else none

theorem text_append_of_first? {cs rest : List Char} {t : Token} (h : first? cs = some (t, rest)) :
    t.text ++ rest = cs := by
  cases cs with
  | nil => cases h
  | cons c cs =>
    simp only [first?] at h
    repeat' split at h
    all_goals cases h
    · simp [text, List.takeWhile_append_dropWhile]
    all_goals simp_all [text]

theorem length_lt_of_first? {cs rest : List Char} {t : Token} (h : first? cs = some (t, rest)) :
    rest.length < cs.length := by
  cases cs with
  | nil => cases h
  | cons c cs =>
    simp only [first?] at h
    repeat' split at h
    all_goals cases h
    · exact Nat.lt_succ_of_le (List.dropWhile_suffix _).length_le
    all_goals simp

end Token

/-- A token with the byte offsets of its two ends. -/
structure Lexeme where
  token : Token
  start : Nat
  stop : Nat
  deriving DecidableEq, Repr

/-- The lexemes of a text that begins at byte `offset`, up to the first character, if any,
that starts no token; its offset is the second component. -/
def lexemes (offset : Nat) (cs : List Char) : List Lexeme × Option Nat :=
  match cs with
  | [] => ([], none)
  | c :: rest =>
    if Text.isBlank c then lexemes (offset + c.utf8Size) rest
    else
      match _ : Token.first? (c :: rest) with
      | none => ([], some offset)
      | some (token, after) =>
        let stop := offset + Text.byteLength token.text
        let (following, bad) := lexemes stop after
        (⟨token, offset, stop⟩ :: following, bad)
termination_by cs.length
decreasing_by
  · simp
  · exact Token.length_lt_of_first? ‹_›

end ArrayTypes.TypeLiteral
