import ArrayTypes.Text.Blank
import ArrayTypes.Text.Continuation

/-! Names in a declaration, and what may stand between its tokens: blanks and
comments. A comment that documents an item is a token, and is not passed over. -/

namespace ArrayTypes.KindTable

/-- The two marks of writing direction are blanks too. -/
def isSpace (c : Char) : Bool :=
  Text.isBlank c || c = '\u200e' || c = '\u200f'

/-- Whether a character continues a name but cannot start one. -/
def isNameExtension (c : Char) : Bool :=
  c.isDigit || Text.isContinuation c

/-- Outside ASCII a token holds characters of names alone, so every character there that is
no blank and no extension counts as a letter. -/
def isNameStart (c : Char) : Bool :=
  c.isAlpha || c = '_' || (127 < c.toNat && !isSpace c && !Text.isContinuation c)

def isNamePart (c : Char) : Bool :=
  isNameStart c || isNameExtension c

/-- The text after the name, if any, that it starts with. -/
def dropName : List Char → List Char
  | [] => []
  | c :: cs => if isNameStart c then cs.dropWhile isNamePart else c :: cs

theorem length_dropName_le (cs : List Char) : (dropName cs).length ≤ cs.length := by
  cases cs with
  | nil => exact Nat.le_refl _
  | cons c cs =>
    rw [dropName]
    split
    · exact Nat.le_succ_of_le (List.dropWhile_suffix _).length_le
    · exact Nat.le_refl _

/-- The text after a block comment of which `depth` openings are not closed yet. -/
def dropComment : Nat → List Char → List Char
  | 0, cs => cs
  | _ + 1, [] => []
  | depth + 1, '/' :: '*' :: cs => dropComment (depth + 2) cs
  | depth + 1, '*' :: '/' :: cs => dropComment depth cs
  | depth + 1, _ :: cs => dropComment (depth + 1) cs

/-- Whether a comment documents an item, by the text after its opening, whose second
character is `mark`: an exclamation mark follows, or the mark again but only once. An empty
block comment documents nothing. -/
def documents (mark : Char) : List Char → Bool
  | '!' :: _ => true
  | [c] => c = mark
  | c :: d :: _ => c = mark && d ≠ mark && d ≠ '/'
  | [] => false

theorem length_dropComment_le (depth : Nat) (cs : List Char) :
    (dropComment depth cs).length ≤ cs.length := by
  fun_induction dropComment depth cs with
  | case1 cs => exact Nat.le_refl _
  | case2 => exact Nat.le_refl _
  | case3 depth cs ih => exact Nat.le_succ_of_le (Nat.le_succ_of_le ih)
  | case4 depth cs ih => exact Nat.le_succ_of_le (Nat.le_succ_of_le ih)
  | case5 depth c cs _ _ ih => exact Nat.le_succ_of_le ih

/-- The text after the blanks and comments that it starts with. -/
def dropSpacing : List Char → List Char
  | [] => []
  | '/' :: '/' :: cs =>
    if documents '/' cs then '/' :: '/' :: cs else dropSpacing (cs.dropWhile (· ≠ '\n'))
  | '/' :: '*' :: cs =>
    if documents '*' cs then '/' :: '*' :: cs else dropSpacing (dropComment 1 cs)
  | c :: cs => if isSpace c then dropSpacing cs else c :: cs
termination_by cs => cs.length
decreasing_by
  · exact Nat.lt_succ_of_lt (Nat.lt_succ_of_le (List.dropWhile_suffix _).length_le)
  · exact Nat.lt_succ_of_lt (Nat.lt_succ_of_le (length_dropComment_le 1 cs))
  · simp

theorem length_dropSpacing_le (cs : List Char) : (dropSpacing cs).length ≤ cs.length := by
  fun_induction dropSpacing cs with
  | case1 => exact Nat.le_refl _
  | case2 => exact Nat.le_refl _
  | case3 cs _ ih =>
    exact Nat.le_succ_of_le <| Nat.le_succ_of_le <|
      Nat.le_trans ih (List.dropWhile_suffix _).length_le
  | case4 => exact Nat.le_refl _
  | case5 cs _ ih =>
    exact Nat.le_succ_of_le (Nat.le_succ_of_le (Nat.le_trans ih (length_dropComment_le 1 cs)))
  | case6 c cs _ _ _ ih => exact Nat.le_succ_of_le ih
  | case7 => exact Nat.le_refl _

end ArrayTypes.KindTable
