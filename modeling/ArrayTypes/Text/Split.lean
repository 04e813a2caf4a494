/-! Cutting a text at separators, and its length in UTF-8 bytes. -/

namespace ArrayTypes.Text

/-- The text before the first `separator` and the text after it. -/
def cutAt (separator : Char) : List Char → Option (List Char × List Char)
  | [] => none
  | c :: cs =>
    if c = separator then some ([], cs)
    else (cutAt separator cs).map fun (before, after) => (c :: before, after)

/-- The pieces between the separators: one more than there are separators. -/
def pieces (separator : Char) : List Char → List (List Char)
  | [] => [[]]
  | c :: cs =>
    if c = separator then [] :: pieces separator cs
    else (pieces separator cs).modifyHead (c :: ·)

theorem cutAt_eq_none_iff {separator : Char} {cs : List Char} :
    cutAt separator cs = none ↔ separator ∉ cs := by
  induction cs with
  | nil => simp [cutAt]
  | cons c cs ih =>
    by_cases h : c = separator
    · simp [cutAt, h]
    · simp [cutAt, h, ih, Ne.symm h]

theorem cutAt_append_cons {separator : Char} {before : List Char} (h : separator ∉ before)
    (after : List Char) :
    cutAt separator (before ++ separator :: after) = some (before, after) := by
  induction before with
  | nil => simp [cutAt]
  | cons c before ih =>
    simp only [List.mem_cons, not_or] at h
    simp [cutAt, Ne.symm h.1, ih h.2]

def byteLength (cs : List Char) : Nat :=
  cs.foldr (fun c n => c.utf8Size + n) 0

@[simp] theorem byteLength_nil : byteLength [] = 0 := rfl

@[simp] theorem byteLength_cons (c : Char) (cs : List Char) :
    byteLength (c :: cs) = c.utf8Size + byteLength cs := rfl

@[simp] theorem byteLength_append (cs ds : List Char) :
    byteLength (cs ++ ds) = byteLength cs + byteLength ds := by
  induction cs with
  | nil => simp
  | cons c cs ih => rw [List.cons_append, byteLength_cons, byteLength_cons, ih, Nat.add_assoc]

theorem byteLength_eq_utf8ByteSize (cs : List Char) :
    byteLength cs = (String.ofList cs).utf8ByteSize := by
  induction cs with
  | nil => rfl
  | cons c cs ih =>
    rw [byteLength_cons, String.ofList_cons, String.utf8ByteSize_append,
      String.utf8ByteSize_singleton, ih]

/-- Every line of a text moved right by four columns. -/
def indent (text : String) : String :=
  String.intercalate "\n"
    ((pieces '\n' text.toList).map fun line => "    " ++ String.ofList line)

end ArrayTypes.Text
