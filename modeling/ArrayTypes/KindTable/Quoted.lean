import ArrayTypes.KindTable.Spacing
import ArrayTypes.Text.Digit

/-! Strings and characters in quotes. Escapes begin with a backslash; a string may
also be written raw, between hash marks and without escapes. -/

namespace ArrayTypes.KindTable

open Text (isDigitIn numeral)

/-- The character with the code point that hexadecimal digits give. -/
def ofHex (digits : List Char) : Option Char :=
  let c := Char.ofNat (numeral 16 digits)
  if digits ≠ [] ∧ digits.all (isDigitIn 16) ∧ c.toNat = numeral 16 digits then some c
  else none

/-- The character that a letter stands for after a backslash. -/
def simpleEscape : Char → Option Char
  | 'n' => some '\n'
  | 'r' => some '\r'
  | 't' => some '\t'
  | '0' => some '\x00'
  | '\\' => some '\\'
  | '\'' => some '\''
  | '"' => some '"'
  | _ => none

/-- The character that an escape stands for and the text after it, read from behind the
backslash. A code point is two hexadecimal digits, or any number in braces, with
underscores. -/
def readEscape : List Char → Option (Char × List Char)
  | 'x' :: c :: d :: cs => (ofHex [c, d]).map (·, cs)
  | 'u' :: '\x7b' :: cs =>
    let digits := (cs.takeWhile (· ≠ '\x7d')).filter (· ≠ '_')
    (ofHex digits).map (·, (cs.dropWhile (· ≠ '\x7d')).drop 1)
  | c :: cs => (simpleEscape c).map (·, cs)
  | [] => none

theorem length_lt_of_readEscape {cs rest : List Char} {c : Char}
    (h : readEscape cs = some (c, rest)) : rest.length < cs.length := by
  unfold readEscape at h
  split at h
  next c d cs =>
    obtain ⟨_, _, he⟩ := Option.map_eq_some_iff.1 h
    cases he
    exact Nat.lt_succ_of_lt (Nat.lt_succ_of_lt (Nat.lt_succ_self _))
  next cs =>
    obtain ⟨_, _, he⟩ := Option.map_eq_some_iff.1 h
    cases he
    have hle := (List.dropWhile_suffix (fun c : Char => decide (c ≠ '\x7d')) (l := cs)).length_le
    simp only [List.length_drop, List.length_cons]
    omega
  next c cs _ _ =>
    obtain ⟨_, _, he⟩ := Option.map_eq_some_iff.1 h
    cases he
    exact Nat.lt_succ_self _
  next => cases h

/-- The characters up to the closing quote, and the text after it. An escaped line break
joins two lines, and the blanks at the start of the second are dropped with it. A line
break may be written as two characters, and counts as one. -/
def readString : List Char → Option (List Char × List Char)
  | [] => none
  | '"' :: cs => some ([], cs)
  | '\\' :: '\n' :: cs | '\\' :: '\r' :: '\n' :: cs => readString (cs.dropWhile Char.isWhitespace)
  | '\\' :: cs =>
    match _ : readEscape cs with
    | none => none
    | some (c, rest) => (readString rest).map fun (value, after) => (c :: value, after)
  | '\r' :: '\n' :: cs => (readString cs).map fun (value, after) => ('\n' :: value, after)
  | c :: cs => (readString cs).map fun (value, after) => (c :: value, after)
termination_by cs => cs.length
decreasing_by
  · exact Nat.lt_succ_of_lt (Nat.lt_succ_of_le (List.dropWhile_suffix _).length_le)
  · exact Nat.lt_succ_of_lt <| Nat.lt_succ_of_lt <|
      Nat.lt_succ_of_le (List.dropWhile_suffix _).length_le
  · exact Nat.lt_succ_of_lt (length_lt_of_readEscape ‹_›)
  · exact Nat.lt_succ_of_lt (Nat.lt_succ_self _)
  · exact Nat.lt_succ_self _

theorem length_lt_of_readString {cs value rest : List Char}
    (h : readString cs = some (value, rest)) : rest.length < cs.length := by
  fun_induction readString cs generalizing value with
  | case1 => cases h
  | case2 cs =>
    cases h
    exact Nat.lt_succ_self _
  | case3 cs ih =>
    have hle := (List.dropWhile_suffix Char.isWhitespace (l := cs)).length_le
    exact Nat.lt_succ_of_lt (Nat.lt_succ_of_lt (Nat.lt_of_lt_of_le (ih h) hle))
  | case4 cs ih =>
    have hle := (List.dropWhile_suffix Char.isWhitespace (l := cs)).length_le
    have := Nat.lt_of_lt_of_le (ih h) hle
    simp only [List.length_cons]
    omega
  | case5 => cases h
  | case6 cs _ _ c after he ih =>
    obtain ⟨⟨_, _⟩, hr, hp⟩ := Option.map_eq_some_iff.1 h
    cases hp
    exact Nat.lt_succ_of_lt (Nat.lt_trans (ih hr) (length_lt_of_readEscape he))
  | case7 cs ih =>
    obtain ⟨⟨_, _⟩, hr, hp⟩ := Option.map_eq_some_iff.1 h
    cases hp
    exact Nat.lt_succ_of_lt (Nat.lt_succ_of_lt (ih hr))
  | case8 c cs _ _ _ _ _ ih =>
    obtain ⟨⟨_, _⟩, hr, hp⟩ := Option.map_eq_some_iff.1 h
    cases hp
    exact Nat.lt_succ_of_lt (ih hr)

/-- The characters before the first `closing`, and the text after it. -/
def readRaw (closing : List Char) : List Char → Option (List Char × List Char)
  | [] => none
  | c :: cs =>
    if closing.isPrefixOf (c :: cs) then some ([], (c :: cs).drop closing.length)
    else (readRaw closing cs).map fun (value, rest) => (c :: value, rest)

theorem length_le_of_readRaw {closing cs value rest : List Char}
    (h : readRaw closing cs = some (value, rest)) : rest.length ≤ cs.length := by
  fun_induction readRaw closing cs generalizing value with
  | case1 => cases h
  | case2 c cs =>
    cases h
    exact (List.drop_suffix _ _).length_le
  | case3 c cs _ ih =>
    obtain ⟨⟨_, _⟩, hr, hp⟩ := Option.map_eq_some_iff.1 h
    cases hp
    exact Nat.le_succ_of_le (ih hr)

/-- The first character of a text, escaped or not, and the text after it. -/
def readFirst : List Char → Option (Char × List Char)
  | '\\' :: cs => readEscape cs
  | c :: cs => some (c, cs)
  | [] => none

theorem length_lt_of_readFirst {text rest : List Char} {c : Char}
    (h : readFirst text = some (c, rest)) : rest.length < text.length := by
  unfold readFirst at h
  split at h
  next => exact Nat.lt_succ_of_lt (length_lt_of_readEscape h)
  next =>
    cases h
    exact Nat.lt_succ_self _
  next => cases h

/-- One character and the text after its closing quote. The character may be a quote. -/
def readCharacter (text : List Char) : Option (Char × List Char) :=
  match readFirst text with
  | some (c, '\'' :: rest) => some (c, rest)
  | _ => none

theorem length_lt_of_readCharacter {text rest : List Char} {c : Char}
    (h : readCharacter text = some (c, rest)) : rest.length < text.length := by
  unfold readCharacter at h
  split at h
  next hf =>
    cases h
    exact Nat.lt_of_succ_lt (length_lt_of_readFirst hf)
  next => cases h

end ArrayTypes.KindTable
