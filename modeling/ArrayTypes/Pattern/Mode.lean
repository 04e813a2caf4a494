import ArrayTypes.Text.Blank

/-! The flags under which a pattern is read, and what may then stand between its
parts. -/

namespace ArrayTypes.Pattern

structure Mode where
  /-- The pattern is over characters and not over bytes. -/
  unicode : Bool := true
  /-- Blanks and comments between the parts are passed over. -/
  spaced : Bool := false
  deriving DecidableEq, Repr

/-- The letters of the flags, and the mark before those that are put out. -/
def flagLetters : List Char := "imsRUux-".toList

namespace Mode

/-- The mode with a list of flags set; a list without a letter leaves its flag as it is. -/
def set (m : Mode) (flags : List Char) : Mode :=
  let on := flags.takeWhile (· ≠ '-')
  { unicode := on.contains 'u' || (m.unicode && !flags.contains 'u')
    spaced := on.contains 'x' || (m.spaced && !flags.contains 'x') }

/-- The text after blanks and comments. A comment goes from a hash mark to the end of its
line. -/
def dropSpacing : List Char → List Char
  | [] => []
  | '#' :: cs => dropSpacing (cs.dropWhile (· ≠ '\n'))
  | c :: cs => if Text.isBlank c then dropSpacing cs else c :: cs
termination_by cs => cs.length
decreasing_by
  · exact Nat.lt_succ_of_le (List.dropWhile_suffix _).length_le
  · simp

/-- The text after what the mode passes over. -/
def skip (m : Mode) (text : List Char) : List Char :=
  if m.spaced then dropSpacing text else text

/-- The character that decides whether a dash before the text makes a range. Of a comment
only the hash mark is passed over. -/
def ahead (m : Mode) (text : List Char) : Option Char :=
  if m.spaced then
    match text.dropWhile Text.isBlank with
    | '#' :: comment => (comment.dropWhile Text.isBlank).head?
    | rest => rest.head?
  else text.head?

end Mode

end ArrayTypes.Pattern
