import ArrayTypes.Proofs.TypeLiteral.Names

/-! Texts without their blanks. Whatever text is read as a type, its characters other than
blanks are the display name of that type, so that of two texts that differ in blanks alone, if
both can be read, the types are the same. The name of the element ends at the first bracket, and
there is one opening bracket for each level. -/

namespace ArrayTypes

/-- The characters of a text that are no blanks. -/
def Text.unspaced (cs : List Char) : List Char :=
  cs.filter fun c => !isBlank c

namespace TypeLiteral

/-! ### Blanks -/

theorem unspaced_append (cs ds : List Char) :
    Text.unspaced (cs ++ ds) = Text.unspaced cs ++ Text.unspaced ds :=
  List.filter_append cs ds

theorem unspaced_of_all_isBlank {blanks : List Char} (hb : blanks.all Text.isBlank) :
    Text.unspaced blanks = [] := by
  simpa [Text.unspaced] using hb

theorem isIdentifierPart_of_mem {name : List Char} (h : IsIdentifier name) {d : Char}
    (hd : d ∈ name) : isIdentifierPart d := by
  obtain ⟨c, cs, rfl, hc, hcs⟩ := h
  rcases List.mem_cons.1 hd with rfl | hd
  · exact isIdentifierPart_iff.2 (.inl hc)
  · exact hcs d hd

/-- A token holds no blank. -/
theorem Token.unspaced_text {t : Token} (ht : t.Valid) : Text.unspaced t.text = t.text := by
  refine List.filter_eq_self.2 fun d hd => ?_
  have hblank : Text.isBlank d = false := by
    cases t with
    | identifier name => exact isBlank_of_isIdentifierPart (isIdentifierPart_of_mem ht hd)
    | dot | opening | closing =>
      rw [List.mem_singleton.1 hd]
      decide
  rw [hblank]
  rfl

/-- Of a row of tokens only the blanks are lost. -/
theorem Spaced.unspaced_eq {ts : List Token} {text : List Char} (h : Spaced ts text)
    (hv : ∀ t ∈ ts, t.Valid) : Text.unspaced text = ts.flatMap Token.text := by
  induction h with
  | nil hb => exact unspaced_of_all_isBlank hb
  | @cons blanks rest t ts hb _ ih =>
    obtain ⟨ht, hts⟩ := List.forall_mem_cons.1 hv
    rw [unspaced_append, unspaced_append, unspaced_of_all_isBlank hb, Token.unspaced_text ht,
      ih hts, List.nil_append, List.flatMap_cons]

/-! ### Brackets -/

theorem Token.count_text {t : Token} (ht : t.Valid) :
    t.text.count '[' = [t].count .opening := by
  cases t with
  | identifier name =>
    have hnone : '[' ∉ name := fun h => absurd (isIdentifierPart_of_mem ht h) (by decide)
    exact List.count_eq_zero.2 hnone
  | dot | opening | closing => rfl

/-- An opening bracket is a token of its own. -/
theorem count_flatMap_text {ts : List Token} (hv : ∀ t ∈ ts, t.Valid) :
    (ts.flatMap Token.text).count '[' = ts.count .opening := by
  induction ts with
  | nil => rfl
  | cons t ts ih =>
    obtain ⟨ht, hts⟩ := List.forall_mem_cons.1 hv
    rw [List.flatMap_cons, List.count_append, Token.count_text ht, ih hts, ← List.count_append,
      List.singleton_append]

/-- A name that can be read holds no bracket. -/
theorem IsDottedName.opening_notMem {name : String} (h : IsDottedName name) :
    '[' ∉ name.toList := by
  obtain ⟨first, rest, hparts, rfl⟩ := h
  have hcount := count_flatMap_text ((valid_nameTokens_iff first rest 0).2 hparts)
  rw [count_opening_nameTokens, List.flatMap_append, flatMap_text_nameTokens,
    List.count_append] at hcount
  rw [String.toList_ofList]
  exact List.count_eq_zero.1 (by omega)

theorem toList_brackets_succ (n : Nat) :
    (brackets (n + 1)).toList = '[' :: ']' :: (brackets n).toList := by
  rw [← flatMap_text_bracketTokens, bracketTokens_succ, List.flatMap_cons, List.flatMap_cons,
    flatMap_text_bracketTokens]
  rfl

theorem count_brackets (n : Nat) : (brackets n).toList.count '[' = n := by
  induction n with
  | zero => rfl
  | succ n ih => simp [toList_brackets_succ, ih]

theorem takeWhile_brackets (n : Nat) : (brackets n).toList.takeWhile (· ≠ '[') = [] := by
  cases n with
  | zero => rfl
  | succ n => simp [toList_brackets_succ]

end TypeLiteral

/-! ### Elements -/

namespace Element

variable {name : String} {e : Element}

theorem NamedBy.display_eq (h : e.NamedBy name) : e.display = name := by
  cases h with
  | primitive kind hk => exact hk
  | reference _ => rfl

theorem NamedBy.spellable (h : e.NamedBy name) (hname : TypeLiteral.IsDottedName name) :
    e.Spellable := by
  cases h with
  | primitive kind _ => exact .primitive kind
  | reference hkind => exact .reference hname hkind

end Element

namespace TypeLiteral

variable {text : String} {t : TypeLiteral}

/-! ### Texts that are read -/

theorem exists_namedBy_of_parse (h : parse text = .ok t) :
    ∃ name, t.element.NamedBy name ∧ IsDottedName name ∧
      Text.unspaced text.toList = name.toList ++ (brackets t.dimensions).toList := by
  obtain ⟨first, rest, hparts, hs, he⟩ := parse_eq_ok_iff.1 h
  refine ⟨_, Element.namedBy_iff.2 he, ⟨first, rest, hparts, rfl⟩, ?_⟩
  rw [hs.unspaced_eq ((valid_nameTokens_iff first rest t.dimensions).2 hparts),
    List.flatMap_append, flatMap_text_nameTokens, flatMap_text_bracketTokens, String.toList_ofList]

theorem spellable_of_parse (h : parse text = .ok t) : t.element.Spellable := by
  obtain ⟨name, he, hname, -⟩ := exists_namedBy_of_parse h
  exact he.spellable hname

/-- A text that is read is the display name of its type, blanks apart. -/
theorem unspaced_eq_of_parse (h : parse text = .ok t) :
    Text.unspaced text.toList = t.display.toList := by
  obtain ⟨name, he, -, htext⟩ := exists_namedBy_of_parse h
  rw [htext, display, String.toList_append, he.display_eq]

/-- Blanks make no difference between texts that are read. -/
theorem eq_of_unspaced_eq {text' : String} {t' : TypeLiteral} (h : parse text = .ok t)
    (h' : parse text' = .ok t')
    (heq : Text.unspaced text.toList = Text.unspaced text'.toList) : t = t' := by
  rw [unspaced_eq_of_parse h, unspaced_eq_of_parse h'] at heq
  exact display_injective (spellable_of_parse h) (spellable_of_parse h') (String.toList_inj.1 heq)

/-- The levels are told by the opening brackets. -/
theorem count_unspaced_of_parse (h : parse text = .ok t) :
    (Text.unspaced text.toList).count '[' = t.dimensions := by
  obtain ⟨name, -, hname, htext⟩ := exists_namedBy_of_parse h
  rw [htext, List.count_append, List.count_eq_zero.2 hname.opening_notMem, count_brackets,
    Nat.zero_add]

/-- The element is told by what comes before the first bracket. -/
theorem ofName_takeWhile_of_parse (h : parse text = .ok t) :
    .ofName (String.ofList ((Text.unspaced text.toList).takeWhile (· ≠ '['))) = t.element := by
  obtain ⟨name, he, hname, htext⟩ := exists_namedBy_of_parse h
  have hall : ∀ c ∈ name.toList, decide (c ≠ '[') = true := by
    intro c hc
    exact decide_eq_true fun h => hname.opening_notMem (h ▸ hc)
  rw [htext, List.takeWhile_append_of_pos hall, takeWhile_brackets, List.append_nil,
    String.ofList_toList, Element.namedBy_iff.1 he]

theorem display_eq_of_parse (h : parse text = .ok t) :
    t.display = String.ofList (Text.unspaced text.toList) := by
  rw [unspaced_eq_of_parse h, String.ofList_toList]

/-- The display name of a type is read as that type just if its element can be told by its
name. -/
theorem parse_display_iff : parse t.display = .ok t ↔ t.element.Spellable :=
  ⟨spellable_of_parse, parse_display⟩

end TypeLiteral

end ArrayTypes
