import ArrayTypes.TypeLiteral.Sized
import ArrayTypes.Proofs.FirstError
import ArrayTypes.Proofs.TypeLiteral.Unspaced

/-! Literals that are written and read back. A literal is written if its text fits, and what is
written is its display name; of a text that is read the display name is no longer than the text,
and so can be written again. -/

namespace ArrayTypes

namespace Text

theorem length_le_byteLength (cs : List Char) : cs.length ≤ byteLength cs := by
  induction cs with
  | nil => exact Nat.le_refl 0
  | cons c cs ih =>
    have := c.utf8Size_pos
    rw [List.length_cons, byteLength_cons]
    omega

theorem byteLength_unspaced_le (cs : List Char) : byteLength (unspaced cs) ≤ byteLength cs := by
  induction cs with
  | nil => exact Nat.le_refl 0
  | cons c cs ih =>
    rw [unspaced] at ih ⊢
    by_cases hc : isBlank c
    · rw [List.filter_cons_of_neg (by simp [hc]), byteLength_cons]
      omega
    · rw [List.filter_cons_of_pos (by simp [hc]), byteLength_cons, byteLength_cons]
      omega

theorem utf8ByteSize_unspaced_le (text : String) :
    (String.ofList (unspaced text.toList)).utf8ByteSize ≤ text.utf8ByteSize := by
  have h := byteLength_unspaced_le text.toList
  rwa [byteLength_eq_utf8ByteSize, byteLength_eq_utf8ByteSize, String.ofList_toList] at h

theorem reserve_of_le {n : Nat} (h : n ≤ maxBytes) : reserve n = .ok () :=
  if_pos h

theorem reserve_of_lt {n : Nat} (h : maxBytes < n) : reserve n = .error ⟨n⟩ :=
  if_neg (Nat.not_le.2 h)

end Text

theorem TypeLiteral.utf8ByteSize_brackets (n : Nat) : (brackets n).utf8ByteSize = n * 2 := by
  induction n with
  | zero => rfl
  | succ n ih =>
    have hpair : "[]".utf8ByteSize = 2 := rfl
    rw [brackets, String.utf8ByteSize_append, ih, hpair]
    omega

namespace SizedLiteral

variable {t : SizedLiteral} {text : String}

/-- There is room for the name of the element and for two bytes at each level. -/
def Fits (t : SizedLiteral) : Prop :=
  t.element.display.utf8ByteSize + t.dimensions.toNat * 2 ≤ Text.maxBytes

instance : DecidablePred Fits :=
  fun t => inferInstanceAs (Decidable
    (t.element.display.utf8ByteSize + t.dimensions.toNat * 2 ≤ Text.maxBytes))

theorem utf8ByteSize_display (t : SizedLiteral) : t.type.display.utf8ByteSize =
    t.element.display.utf8ByteSize + t.dimensions.toNat * 2 := by
  rw [TypeLiteral.display, String.utf8ByteSize_append, TypeLiteral.utf8ByteSize_brackets, type]

theorem not_fits_of_le (h : 2 ^ 62 ≤ t.dimensions.toNat) : ¬t.Fits := by
  unfold Fits Text.maxBytes
  omega

/-! ### Writing -/

theorem write_of_fits (h : t.Fits) : t.write = .ok t.type.display := by
  have hbrackets : t.dimensions.toNat * 2 ≤ Text.maxBytes := (Nat.le_add_left _ _).trans h
  have hpair : "[]".utf8ByteSize = 2 := rfl
  rw [write, Text.repeated, hpair, Text.reserve_of_le hbrackets, ← TypeLiteral.brackets_eq_join]
  simp only [bind, Except.bind, pure, Except.pure, Text.joined]
  rw [TypeLiteral.utf8ByteSize_brackets, Text.reserve_of_le h]
  rfl

/-- Either the brackets are too long or what they are a part of. -/
theorem exists_write_eq_error (h : ¬t.Fits) : ∃ f, t.write = .error f := by
  have hpair : "[]".utf8ByteSize = 2 := rfl
  rw [write, Text.repeated, hpair]
  by_cases hbrackets : t.dimensions.toNat * 2 ≤ Text.maxBytes
  · rw [Text.reserve_of_le hbrackets, ← TypeLiteral.brackets_eq_join]
    simp only [bind, Except.bind, pure, Except.pure, Text.joined]
    rw [TypeLiteral.utf8ByteSize_brackets, Text.reserve_of_lt (Nat.not_le.1 h)]
    exact ⟨_, rfl⟩
  · rw [Text.reserve_of_lt (Nat.not_le.1 hbrackets)]
    exact ⟨_, rfl⟩

/-! ### Reading -/

theorem ofType_type (t : SizedLiteral) : ofType t.type = t := by
  rw [ofType, type, UInt64.ofNat_toNat]

theorem type_ofType {u : TypeLiteral} (h : u.dimensions < 2 ^ 64) : (ofType u).type = u := by
  rw [type, ofType, UInt64.toNat_ofNat_of_lt' h]

/-- A word counts the levels of every text that can be held. -/
theorem parse_eq_of_read (hlength : text.utf8ByteSize ≤ Text.maxBytes) (h : read text = .ok t) :
    TypeLiteral.parse text = .ok t.type := by
  obtain ⟨u, hu, rfl⟩ := map_eq_ok_iff.1 h
  have hcount : u.dimensions ≤ (Text.unspaced text.toList).length := by
    rw [← TypeLiteral.count_unspaced_of_parse hu]
    exact List.count_le_length
  have hword : u.dimensions < 2 ^ 64 := by
    have := Text.length_le_byteLength (Text.unspaced text.toList)
    have := Text.utf8ByteSize_unspaced_le text
    have : Text.maxBytes < 2 ^ 64 := by decide
    rw [← Text.byteLength_eq_utf8ByteSize] at *
    omega
  rw [hu, type_ofType hword]

theorem read_of_parse (h : TypeLiteral.parse text = .ok t.type) : read text = .ok t :=
  map_eq_ok_iff.2 ⟨_, h, t.ofType_type⟩

theorem read_display_iff (h : t.Fits) : read t.type.display = .ok t ↔ t.element.Spellable := by
  have hlength : t.type.display.utf8ByteSize ≤ Text.maxBytes := by
    rw [utf8ByteSize_display]
    exact h
  have hread : read t.type.display = .ok t ↔ TypeLiteral.parse t.type.display = .ok t.type :=
    ⟨parse_eq_of_read hlength, read_of_parse⟩
  exact hread.trans TypeLiteral.parse_display_iff

/-- The display name of what is read takes no more room than the text did. -/
theorem fits_of_read (hlength : text.utf8ByteSize ≤ Text.maxBytes) (h : read text = .ok t) :
    t.Fits := by
  have hbytes := Text.utf8ByteSize_unspaced_le text
  rw [← TypeLiteral.display_eq_of_parse (parse_eq_of_read hlength h), utf8ByteSize_display]
    at hbytes
  exact hbytes.trans hlength

/-- A literal for whose text there is room is written, and what is written is read as the literal
just if its element can be told by its name; for a literal of `2 ^ 62` levels there is no room,
and without room nothing is written. Of any text that is read the literal is written as the text
without its blanks, which is read as the same literal. -/
theorem reads_back_iff_spellable :
    (∀ t : SizedLiteral, t.Fits →
      ∃ written, t.write = .ok written ∧ (read written = .ok t ↔ t.element.Spellable)) ∧
    (∀ t : SizedLiteral, ¬t.Fits → ∃ overflow, t.write = .error overflow) ∧
    (∀ t : SizedLiteral, 2 ^ 62 ≤ t.dimensions.toNat → ¬t.Fits) ∧
    ∀ (text : String) (t : SizedLiteral), text.utf8ByteSize ≤ Text.maxBytes → read text = .ok t →
      t.write = .ok (String.ofList (Text.unspaced text.toList)) ∧
      read (String.ofList (Text.unspaced text.toList)) = .ok t := by
  refine ⟨fun t h => ⟨_, write_of_fits h, read_display_iff h⟩, fun _ h => exists_write_eq_error h,
    fun _ h => not_fits_of_le h, fun text t hlength h => ?_⟩
  have hparse := parse_eq_of_read hlength h
  rw [← TypeLiteral.display_eq_of_parse hparse]
  exact ⟨write_of_fits (fits_of_read hlength h),
    read_of_parse (TypeLiteral.parse_display (TypeLiteral.spellable_of_parse hparse))⟩

/-- A text with blanks and the literal that it is read as, beside one of too many levels. -/
theorem spaced_matrix_loses_blanks :
    let t : SizedLiteral := ⟨.primitive .int, 2⟩
    let wide : SizedLiteral := ⟨.primitive .int, 4611686018427387904⟩
    t.Fits ∧ (∃ written, t.write = .ok written ∧ read written = .ok t) ∧
    2 ^ 62 ≤ wide.dimensions.toNat ∧ ¬wide.Fits ∧ (∃ overflow, wide.write = .error overflow) ∧
    "int [ ]\t[]".utf8ByteSize ≤ Text.maxBytes ∧ read "int [ ]\t[]" = .ok t ∧
    t.write = .ok "int[][]" ∧ read "int[][]" = .ok t := by
  intro t wide
  have hfits : t.Fits := by decide
  have hwide : 2 ^ 62 ≤ wide.dimensions.toNat := by decide
  have hlength : "int [ ]\t[]".utf8ByteSize ≤ Text.maxBytes := by decide
  have hread : read "int [ ]\t[]" = .ok t := by cbv
  obtain ⟨hback, hrefused, hfar, hblanks⟩ := reads_back_iff_spellable
  obtain ⟨written, hwritten, hiff⟩ := hback t hfits
  obtain ⟨hwrite, hagain⟩ := hblanks _ t hlength hread
  exact ⟨hfits, ⟨written, hwritten, hiff.2 (.primitive .int)⟩, hwide, hfar wide hwide,
    hrefused wide (hfar wide hwide), hlength, hread, hwrite, hagain⟩

/-- A primitive can be told by its name, yet with so many levels it is not written. -/
theorem widest_array_is_not_written :
    let t : SizedLiteral := ⟨.primitive .int, 4611686018427387904⟩
    t.write = .error ⟨9223372036854775808⟩ ∧
    ¬((∃ written, t.write = .ok written ∧ read written = .ok t) ↔ t.element.Spellable) := by
  intro t
  have hwrite : t.write = .error ⟨9223372036854775808⟩ := by cbv
  refine ⟨hwrite, fun h => ?_⟩
  obtain ⟨written, hok, -⟩ := h.2 (.primitive .int)
  cases hwrite.symm.trans hok

end SizedLiteral

end ArrayTypes
