import ArrayTypes.Text.Blank
import ArrayTypes.Text.Split
import Mathlib.Data.List.DropRight

/-! Texts taken apart. A text is its trimmed part with blanks around it, and its pieces are the
texts without a separator that give it back when they are joined. Each of the two is told by
this alone, so that what is written with separators or blanks reads back. -/

namespace ArrayTypes.Text

variable {cs word : List Char} {separator : Char}

/-- Neither the first nor the last character is a blank. -/
def Unpadded (cs : List Char) : Prop :=
  (∀ c ∈ cs.head?, isBlank c = false) ∧ ∀ c ∈ cs.getLast?, isBlank c = false

instance (cs : List Char) : Decidable (Unpadded cs) :=
  decidable_of_iff (cs.head?.all (!isBlank ·) ∧ cs.getLast?.all (!isBlank ·))
    (by simp only [Unpadded, Option.all_eq_true, Bool.not_eq_true', Option.mem_def])

/-- The word is the text without the blanks at its two ends. -/
def Trims (cs word : List Char) : Prop :=
  ∃ front back, cs = front ++ word ++ back ∧ (∀ c ∈ front ++ back, isBlank c = true) ∧ Unpadded word

/-- The pieces hold no separator, and joined by separators they are the text. -/
def Cuts (separator : Char) (cs : List Char) (parts : List (List Char)) : Prop :=
  parts ≠ [] ∧ (∀ part ∈ parts, separator ∉ part) ∧ [separator].intercalate parts = cs

/-! ### Trimming -/

theorem trim_eq_rdropWhile (cs : List Char) :
    trim cs = (cs.dropWhile isBlank).rdropWhile isBlank := rfl

theorem trim_append_of_all_isBlank {front : List Char} (h : ∀ c ∈ front, isBlank c = true) :
    trim (front ++ cs) = trim cs := by
  rw [trim, List.dropWhile_append_of_pos h, ← trim]

theorem trim_append_of_all_isBlank_right {back : List Char} (h : ∀ c ∈ back, isBlank c = true) :
    trim (cs ++ back) = trim cs := by
  rw [trim, trim, List.dropWhile_append]
  split
  next hempty => rw [List.isEmpty_iff.1 hempty, List.dropWhile_eq_nil_iff.2 h]
  next => rw [List.reverse_append, List.dropWhile_append_of_pos (by simpa using h)]

theorem head?_dropWhile_isBlank {c : Char} (h : (cs.dropWhile isBlank).head? = some c) :
    isBlank c = false := by
  have := List.head?_dropWhile_not isBlank cs
  rwa [h] at this

/-- No blank is left at either end. -/
theorem unpadded_trim (cs : List Char) : Unpadded (trim cs) := by
  rw [trim_eq_rdropWhile]
  constructor
  · intro c hc
    obtain ⟨back, hback⟩ := List.rdropWhile_prefix isBlank (l := cs.dropWhile isBlank)
    have hhead : (cs.dropWhile isBlank).head? = some c := by
      rw [← hback, List.head?_append, Option.mem_def.1 hc, Option.some_or]
    exact head?_dropWhile_isBlank hhead
  · intro c hc
    have hne : (cs.dropWhile isBlank).rdropWhile isBlank ≠ [] := by
      rintro he
      rw [he] at hc
      cases hc
    have hlast := List.rdropWhile_last_not isBlank _ hne
    rw [List.getLast?_eq_some_getLast hne, Option.mem_some_iff] at hc
    rwa [hc, Bool.not_eq_true] at hlast

theorem trims_trim (cs : List Char) : Trims cs (trim cs) := by
  refine ⟨cs.takeWhile isBlank, (cs.dropWhile isBlank).rtakeWhile isBlank, ?_, ?_, unpadded_trim cs⟩
  · rw [trim_eq_rdropWhile, List.append_assoc, List.rdropWhile_append_rtakeWhile,
      List.takeWhile_append_dropWhile]
  · intro c hc
    rcases List.mem_append.1 hc with hc | hc
    · exact List.mem_takeWhile_imp hc
    · exact List.mem_rtakeWhile_imp hc

theorem trim_of_unpadded (h : Unpadded cs) : trim cs = cs := by
  cases cs with
  | nil => rfl
  | cons c cs =>
    rw [trim_eq_rdropWhile, List.dropWhile_cons_of_neg (by simp [h.1 c rfl]),
      List.rdropWhile_eq_self_iff]
    intro hne
    simp [h.2 _ (List.getLast?_eq_some_getLast hne)]

theorem trim_eq_iff : trim cs = word ↔ Trims cs word := by
  constructor
  · rintro rfl
    exact trims_trim cs
  · rintro ⟨front, back, rfl, hblank, hword⟩
    rw [List.append_assoc, trim_append_of_all_isBlank fun c hc => hblank c (by simp [hc]),
      trim_append_of_all_isBlank_right fun c hc => hblank c (by simp [hc]), trim_of_unpadded hword]

/-! ### Pieces -/

theorem pieces_eq_splitOn (separator : Char) (cs : List Char) :
    pieces separator cs = cs.splitOn separator := by
  induction cs with
  | nil => rfl
  | cons c cs ih =>
    rw [pieces, ih, List.splitOn_eq_splitOnP, List.splitOn_eq_splitOnP,
      List.splitOnP_cons_eq_if_modifyHead]
    simp only [beq_iff_eq]

theorem notMem_of_mem_pieces {piece : List Char} (h : piece ∈ pieces separator cs) :
    separator ∉ piece := by
  induction cs generalizing piece with
  | nil =>
    cases List.mem_singleton.1 h
    exact List.not_mem_nil
  | cons c cs ih =>
    rw [pieces] at h
    split at h
    · rcases List.mem_cons.1 h with rfl | h
      · exact List.not_mem_nil
      · exact ih h
    next hc =>
      obtain ⟨first, rest, hp⟩ : ∃ first rest, pieces separator cs = first :: rest :=
        List.exists_cons_of_ne_nil (pieces_eq_splitOn separator cs ▸ List.splitOn_ne_nil _ _)
      rw [hp, List.modifyHead_cons] at h
      rw [hp] at ih
      rcases List.mem_cons.1 h with rfl | h
      · simp [Ne.symm hc, ih List.mem_cons_self]
      · exact ih (List.mem_cons_of_mem _ h)

theorem pieces_eq_iff {parts : List (List Char)} :
    pieces separator cs = parts ↔ Cuts separator cs parts := by
  constructor
  · rintro rfl
    refine ⟨?_, fun part => notMem_of_mem_pieces, ?_⟩
    · rw [pieces_eq_splitOn]
      exact List.splitOn_ne_nil _ _
    · rw [pieces_eq_splitOn]
      exact List.intercalate_splitOn _
  · rintro ⟨hne, hfree, rfl⟩
    rw [pieces_eq_splitOn]
    exact List.splitOn_intercalate separator hfree hne

/-- Words that are written with separators between them are the trimmed pieces of the text. Of
no words one piece is left, which is empty. -/
theorem filter_trim_pieces_intercalate {words : List (List Char)}
    (h : ∀ word ∈ words, word ≠ [] ∧ separator ∉ word ∧ Unpadded word) :
    ((pieces separator ([separator].intercalate words)).map trim).filter (· ≠ []) = words := by
  by_cases hwords : words = []
  · subst hwords
    rfl
  · have hpieces : pieces separator ([separator].intercalate words) = words :=
      pieces_eq_iff.2 ⟨hwords, fun word hword => (h word hword).2.1, rfl⟩
    have htrim : words.map trim = words := by
      rw [List.map_congr_left (f := trim) (g := id) fun word hword =>
        trim_of_unpadded (h word hword).2.2, List.map_id]
    rw [hpieces, htrim, List.filter_eq_self]
    intro word hword
    simpa using (h word hword).1

end ArrayTypes.Text
