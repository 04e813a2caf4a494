import ArrayTypes.TypeLiteral.Grammar
import ArrayTypes.TypeLiteral.Reader
import Mathlib

/-! The lexer against rows of tokens. A token is found where it stands just if no identifier
runs across its end, which settles where every lexeme of a text begins and ends. -/

namespace ArrayTypes.TypeLiteral

/-! ### Characters -/

theorem isIdentifierStart_iff {c : Char} :
    isIdentifierStart c ↔ 'A' ≤ c ∧ c ≤ 'Z' ∨ 'a' ≤ c ∧ c ≤ 'z' ∨ c = '_' ∨ c = '$' := by
  simp only [isIdentifierStart, Char.isAlpha, Char.isUpper, Char.isLower, Bool.or_eq_true,
    Bool.and_eq_true, decide_eq_true_eq, or_assoc, ge_iff_le, Char.le_def]

theorem isIdentifierPart_iff {c : Char} :
    isIdentifierPart c ↔ isIdentifierStart c ∨ '0' ≤ c ∧ c ≤ '9' := by
  simp only [isIdentifierPart, isIdentifierStart, Char.isAlphanum, Char.isDigit, Bool.or_eq_true,
    Bool.and_eq_true, decide_eq_true_eq, ge_iff_le, Char.le_def, or_assoc, or_comm, or_left_comm]

/-- Identifiers are of ASCII characters, from the dollar sign on. -/
theorem toNat_of_isIdentifierPart {c : Char} (h : isIdentifierPart c) :
    36 ≤ c.toNat ∧ c.toNat < 128 := by
  simp only [isIdentifierPart_iff, isIdentifierStart_iff, Char.le_def,
    UInt32.le_iff_toNat_le] at h
  rcases h with (h | h | rfl | rfl) | h
  · change 65 ≤ c.toNat ∧ c.toNat ≤ 90 at h
    omega
  · change 97 ≤ c.toNat ∧ c.toNat ≤ 122 at h
    omega
  · decide
  · decide
  · change 48 ≤ c.toNat ∧ c.toNat ≤ 57 at h
    omega

theorem isBlank_of_isIdentifierPart {c : Char} (h : isIdentifierPart c) :
    Text.isBlank c = false := by
  have := toNat_of_isIdentifierPart h
  simp only [Text.isBlank, Text.blankRanges, List.any_cons, List.any_nil, Bool.or_eq_false_iff,
    Bool.and_eq_false_iff, decide_eq_false_iff_not, and_true]
  omega

theorem isIdentifierPart_of_isBlank {c : Char} (h : Text.isBlank c) :
    isIdentifierPart c = false := by
  cases hp : isIdentifierPart c with
  | false => rfl
  | true => exact absurd h (by simp [isBlank_of_isIdentifierPart hp])

/-! ### Tokens -/

/-- Identifiers are named by an identifier. -/
def Token.Valid : Token → Prop
  | .identifier name => IsIdentifier name
  | _ => True

/-- No identifier runs across the border of the two texts. -/
def Apart (before after : List Char) : Prop :=
  ∀ c ∈ before.getLast?, isIdentifierPart c → ∀ d ∈ after.head?, isIdentifierPart d = false

theorem apart_nil_left (after : List Char) : Apart [] after := by
  rintro c ⟨⟩

theorem apart_nil_right (before : List Char) : Apart before [] := by
  rintro c - - d ⟨⟩

/-- Only the two characters at the border matter. -/
theorem apart_append_left_iff {before middle after : List Char} (hm : middle ≠ []) :
    Apart (before ++ middle) after ↔ Apart middle after := by
  obtain ⟨l, hl⟩ := Option.ne_none_iff_exists'.1 (mt List.getLast?_eq_none_iff.1 hm)
  simp [Apart, List.getLast?_append, hl]

theorem apart_append_right_iff {before middle after : List Char} (hm : middle ≠ []) :
    Apart before (middle ++ after) ↔ Apart before middle := by
  obtain ⟨d, middle, rfl⟩ := List.exists_cons_of_ne_nil hm
  rfl

theorem apart_cons_of_isBlank {c : Char} (hc : Text.isBlank c) (before after : List Char) :
    Apart before (c :: after) := by
  intro _ _ _ d hd
  cases hd
  exact isIdentifierPart_of_isBlank hc

theorem apart_concat_of_isBlank {c : Char} (hc : Text.isBlank c) (before after : List Char) :
    Apart (before ++ [c]) after := by
  intro d hd hp
  cases List.getLast?_concat.symm.trans hd
  rw [isIdentifierPart_of_isBlank hc] at hp
  cases hp

/-- An identifier ends where no identifier character follows. -/
theorem apart_identifier_iff {name after : List Char} (h : IsIdentifier name) :
    Apart name after ↔ ∀ d ∈ after.head?, isIdentifierPart d = false := by
  obtain ⟨c, cs, rfl, hc, hcs⟩ := h
  obtain ⟨l, hl⟩ : ∃ l, (c :: cs).getLast? = some l := ⟨_, List.getLast?_cons⟩
  have hpart : isIdentifierPart l := by
    rcases List.mem_cons.1 (List.mem_of_getLast? hl) with rfl | hm
    · exact isIdentifierPart_iff.2 (.inl hc)
    · exact hcs l hm
  simp [Apart, hl, hpart]

namespace Token

theorem apart_of_terminal_ne {t : Token} (h : t.terminal ≠ .identifier) (after : List Char) :
    Apart t.text after := by
  cases t with
  | identifier name => exact absurd rfl h
  | dot | opening | closing =>
    intro c hc hp
    cases hc
    exact absurd hp (by decide)

theorem text_ne_nil {t : Token} (ht : t.Valid) : t.text ≠ [] := by
  cases t with
  | identifier name =>
    obtain ⟨c, cs, rfl, -, -⟩ := ht
    exact List.cons_ne_nil c cs
  | dot | opening | closing => exact List.cons_ne_nil _ _

theorem first?_text_append {t : Token} (ht : t.Valid) {rest : List Char}
    (h : Apart t.text rest) : first? (t.text ++ rest) = some (t, rest) := by
  cases t with
  | identifier name =>
    rw [text, apart_identifier_iff ht] at h
    obtain ⟨c, cs, rfl, hc, hcs⟩ := ht
    have htake : rest.takeWhile isIdentifierPart = [] := by
      cases rest with
      | nil => rfl
      | cons d rest => simp [h d rfl]
    have hdrop : rest.dropWhile isIdentifierPart = rest := by
      cases rest with
      | nil => rfl
      | cons d rest => simp [h d rfl]
    rw [text, List.cons_append, first?, if_pos hc, List.takeWhile_append_of_pos hcs,
      List.dropWhile_append_of_pos hcs, htake, hdrop, List.append_nil]
  | dot | opening | closing => rfl

theorem valid_of_first? {cs rest : List Char} {t : Token} (h : first? cs = some (t, rest)) :
    t.Valid ∧ Apart t.text rest := by
  cases cs with
  | nil => cases h
  | cons c cs =>
    simp only [first?] at h
    split at h
    next hc =>
      cases h
      have hname : IsIdentifier (c :: cs.takeWhile isIdentifierPart) :=
        ⟨c, _, rfl, hc, fun d hd => by simpa using List.mem_takeWhile_imp hd⟩
      refine ⟨hname, (apart_identifier_iff hname).2 ?_⟩
      intro d hd
      have := List.head?_dropWhile_not isIdentifierPart cs
      simp_all
    · repeat' split at h
      all_goals cases h
      all_goals exact ⟨trivial, apart_of_terminal_ne (by decide) _⟩

theorem isBlank_of_first? {c : Char} {cs rest : List Char} {t : Token}
    (h : first? (c :: cs) = some (t, rest)) : Text.isBlank c = false := by
  rw [first?] at h
  split at h
  next hc => exact isBlank_of_isIdentifierPart (isIdentifierPart_iff.2 (.inl hc))
  · repeat' split at h
    all_goals first | (subst_vars; decide) | cases h

end Token

/-! ### Lexemes -/

theorem lexemes_nil (offset : Nat) : lexemes offset [] = ([], none) := by
  rw [lexemes]

theorem lexemes_cons_of_isBlank {c : Char} (hc : Text.isBlank c) (offset : Nat)
    (cs : List Char) : lexemes offset (c :: cs) = lexemes (offset + c.utf8Size) cs := by
  rw [lexemes, if_pos hc]

theorem lexemes_of_first? {cs rest : List Char} {t : Token}
    (h : Token.first? cs = some (t, rest)) (offset : Nat) :
    lexemes offset cs =
      (⟨t, offset, offset + Text.byteLength t.text⟩ ::
        (lexemes (offset + Text.byteLength t.text) rest).1,
        (lexemes (offset + Text.byteLength t.text) rest).2) := by
  cases cs with
  | nil => cases h
  | cons c cs =>
    rw [lexemes, if_neg (by simp [Token.isBlank_of_first? h])]
    split
    next hn => cases hn.symm.trans h
    next t' rest' hs =>
      cases hs.symm.trans h
      rfl

theorem lexemes_of_first?_eq_none {c : Char} {cs : List Char} (hb : Text.isBlank c = false)
    (h : Token.first? (c :: cs) = none) (offset : Nat) :
    lexemes offset (c :: cs) = ([], some offset) := by
  rw [lexemes, if_neg (by simp [hb])]
  split
  · rfl
  next hs => cases hs.symm.trans h

theorem lexemes_append_of_all_isBlank {blanks : List Char} (hb : blanks.all Text.isBlank)
    (offset : Nat) (rest : List Char) :
    lexemes offset (blanks ++ rest) = lexemes (offset + Text.byteLength blanks) rest := by
  induction blanks generalizing offset with
  | nil => rfl
  | cons c blanks ih =>
    rw [List.all_cons, Bool.and_eq_true] at hb
    rw [List.cons_append, lexemes_cons_of_isBlank hb.1, ih hb.2, Text.byteLength_cons,
      Nat.add_assoc]

theorem Spaced.cons_of_isBlank {c : Char} (hc : Text.isBlank c) {ts : List Token}
    {text : List Char} (h : Spaced ts text) : Spaced ts (c :: text) := by
  cases h with
  | nil hb => exact .nil (by simp [hc, hb])
  | @cons blanks rest t ts hb h =>
    exact @Spaced.cons (c :: blanks) rest t ts (by simp [hc, hb]) h

theorem Spaced.text_append {t : Token} {ts : List Token} {text : List Char} (h : Spaced ts text) :
    Spaced (t :: ts) (t.text ++ text) :=
  @Spaced.cons [] text t ts rfl h

theorem Spaced.append_of_all_isBlank {blanks : List Char} (hb : blanks.all Text.isBlank)
    {ts : List Token} {text : List Char} (h : Spaced ts text) : Spaced ts (blanks ++ text) := by
  induction blanks with
  | nil => exact h
  | cons c blanks ih =>
    rw [List.all_cons, Bool.and_eq_true] at hb
    exact (ih hb.2).cons_of_isBlank hb.1

theorem Spaced.append {ts us : List Token} {text more : List Char} (h : Spaced ts text)
    (h' : Spaced us more) : Spaced (ts ++ us) (text ++ more) := by
  induction h with
  | nil hb => exact h'.append_of_all_isBlank hb
  | @cons blanks rest t ts hb _ ih =>
    rw [List.append_assoc, List.append_assoc, ← List.append_assoc blanks]
    exact .cons hb ih

theorem valid_of_mem_lexemes {offset : Nat} {text : List Char} :
    ∀ l ∈ (lexemes offset text).1, l.token.Valid := by
  fun_induction lexemes offset text with
  | case1 => simp
  | case2 offset c rest hc ih => exact ih
  | case3 => simp
  | case4 offset c rest _ t after ht stop following bad hl ih =>
    rw [hl] at ih
    intro l hm
    rcases List.mem_cons.1 hm with rfl | hm
    · exact (Token.valid_of_first? ht).1
    · exact ih l hm

/-- The lexemes of a text that the lexer gets through are its tokens with blanks between. -/
theorem spaced_lexemes {offset : Nat} {text : List Char} (h : (lexemes offset text).2 = none) :
    Spaced ((lexemes offset text).1.map Lexeme.token) text := by
  fun_induction lexemes offset text with
  | case1 => exact .nil rfl
  | case2 offset c rest hc ih => exact (ih h).cons_of_isBlank hc
  | case3 => cases h
  | case4 offset c rest _ t after ht stop following bad hl ih =>
    rw [hl] at ih
    rw [← Token.text_append_of_first? ht]
    exact (ih h).text_append

end ArrayTypes.TypeLiteral
