import ArrayTypes.KindTable.Quoted

/-! The literals that the entries of an attribute are given, read from the text of
their tokens. Integers may be written in four bases, with underscores between
digits; any literal may have a name for a suffix, which means nothing here. -/

namespace ArrayTypes.KindTable

open Text (digitValue isDigitIn numeral)

inductive Literal where
  | string (value : String)
  | character (value : Char)
  | integer (negative : Bool) (magnitude : Nat)
  /-- Any other token. -/
  | other
  deriving DecidableEq, Repr

/-! ### Integers -/

/-- The base that a number's first characters announce, and the characters after them. -/
def splitBase : List Char → Nat × List Char
  | '0' :: 'x' :: rest => (16, rest)
  | '0' :: 'o' :: rest => (8, rest)
  | '0' :: 'b' :: rest => (2, rest)
  | text => (10, text)

theorem length_splitBase_le (text : List Char) : (splitBase text).2.length ≤ text.length := by
  unfold splitBase
  split
  · exact Nat.le_succ_of_le (Nat.le_succ _)
  · exact Nat.le_succ_of_le (Nat.le_succ _)
  · exact Nat.le_succ_of_le (Nat.le_succ _)
  · exact Nat.le_refl _

def isDigitOrUnderscore (c : Char) : Bool :=
  c.isDigit || c = '_'

/-- The text after the sign and the digits of an exponent, if it has any digits. Underscores
may stand anywhere. -/
def dropExponent? (text : List Char) : Option (List Char) :=
  let unsigned :=
    match text.dropWhile (· = '_') with
    | '+' :: cs | '-' :: cs => cs.dropWhile (· = '_')
    | cs => cs
  if unsigned.head?.any Char.isDigit then some (unsigned.dropWhile isDigitOrUnderscore) else none

/-- The text after the fraction and the exponent that follow the first digits of a decimal
number, if one of them does. A point before a name or another point begins no fraction. -/
def dropFraction? : List Char → Option (List Char)
  | [] => none
  | '.' :: cs =>
    if cs.head?.any fun c => c = '.' || isNameStart c then none
    else
      match cs.dropWhile isDigitOrUnderscore with
      | [] => some []
      | c :: rest =>
        some ((if c = 'e' || c = 'E' then dropExponent? rest else none).getD (c :: rest))
  | c :: cs => if c = 'e' || c = 'E' then dropExponent? cs else none

/-- A number with a fraction or an exponent may have a name for a suffix, but what can only
continue a name may not follow it: then the first digits are a number of their own. -/
def isFractional (text : List Char) : Bool :=
  (dropFraction? text).any fun rest => !rest.head?.any isNameExtension

def readInteger (text : List Char) : Option (Nat × List Char) :=
  let (base, body) := splitBase text
  let digits := (body.takeWhile fun c => isDigitIn base c || c = '_').filter (· ≠ '_')
  let after := body.dropWhile fun c => isDigitIn base c || c = '_'
  if digits = [] || digits.any (base ≤ digitValue ·) || (base = 10 && isFractional after) then
    none
  else some (numeral base digits, after)

theorem length_lt_of_readInteger {text rest : List Char} {n : Nat}
    (h : readInteger text = some (n, rest)) : rest.length < text.length := by
  have hle := length_splitBase_le text
  unfold readInteger at h
  generalize splitBase text = split at h hle
  obtain ⟨base, body⟩ := split
  dsimp only at h hle
  generalize hp : (fun c => isDigitIn base c || decide (c = '_')) = p at h
  have hlen := congrArg List.length (List.takeWhile_append_dropWhile (p := p) (l := body))
  rw [List.length_append] at hlen
  split at h
  · cases h
  next hd =>
    cases h
    have hne : body.takeWhile p ≠ [] := fun he => hd (by simp [he])
    have := List.length_pos_iff.2 hne
    omega

/-! ### Literals -/

namespace Literal

/-- The literal that a text starts with, and the text after it, its suffix included. A minus
sign may stand before a number. -/
def read? : List Char → Option (Literal × List Char)
  | '"' :: cs =>
    (readString cs).map fun (value, rest) => (string (String.ofList value), rest)
  | '\'' :: cs => (readCharacter cs).map fun (c, rest) => (character c, rest)
  | 'r' :: cs =>
    match cs.dropWhile (· = '#') with
    | '"' :: rest =>
      (readRaw ('"' :: cs.takeWhile (· = '#')) rest).map fun (value, rest) =>
        (string (String.ofList value), rest)
    | _ => none
  | '-' :: cs =>
    match dropSpacing cs with
    | c :: rest =>
      if c.isDigit then (readInteger (c :: rest)).map fun (n, rest) => (integer true n, rest)
      else none
    | [] => none
  | c :: cs =>
    if c.isDigit then (readInteger (c :: cs)).map fun (n, rest) => (integer false n, rest)
    else none
  | [] => none

theorem length_lt_of_read? {text rest : List Char} {value : Literal}
    (h : read? text = some (value, rest)) : rest.length < text.length := by
  unfold read? at h
  split at h
  next cs =>
    obtain ⟨⟨_, _⟩, hr, hp⟩ := Option.map_eq_some_iff.1 h
    cases hp
    exact Nat.lt_succ_of_lt (length_lt_of_readString hr)
  next cs =>
    obtain ⟨⟨_, _⟩, hr, hp⟩ := Option.map_eq_some_iff.1 h
    cases hp
    exact Nat.lt_succ_of_lt (length_lt_of_readCharacter hr)
  next cs =>
    split at h
    next after hs =>
      obtain ⟨⟨_, _⟩, hr, hp⟩ := Option.map_eq_some_iff.1 h
      cases hp
      have hle := (List.dropWhile_suffix (fun c : Char => decide (c = '#')) (l := cs)).length_le
      have := length_le_of_readRaw hr
      rw [hs] at hle
      simp only [List.length_cons] at hle ⊢
      omega
    next => cases h
  next cs =>
    split at h
    next c after hs =>
      split at h
      · obtain ⟨⟨_, _⟩, hr, hp⟩ := Option.map_eq_some_iff.1 h
        cases hp
        have := length_lt_of_readInteger hr
        have hle := length_dropSpacing_le cs
        rw [hs] at hle
        exact Nat.lt_succ_of_lt (Nat.lt_of_lt_of_le this hle)
      · cases h
    next => cases h
  next c cs _ _ _ _ =>
    split at h
    · obtain ⟨⟨_, _⟩, hr, hp⟩ := Option.map_eq_some_iff.1 h
      cases hp
      exact length_lt_of_readInteger hr
    · cases h
  next => cases h

end Literal

end ArrayTypes.KindTable
