import ArrayTypes.Proofs.TypeLiteral.Acceptance

/-! The two names of a type. The display name is the spelling without blanks, and is read as
the type again if the element's own name is one that can be read. The binary name has a
bracket for each level and the code of the element, which tells primitives and classes apart;
only without a level is it the display name again. -/

namespace ArrayTypes

namespace TypeLiteral

/-- The name is made of identifiers joined by dots. -/
def IsDottedName (name : String) : Prop :=
  ∃ first rest, (∀ part ∈ first :: rest, IsIdentifier part) ∧
    name = String.ofList (['.'].intercalate (first :: rest))

theorem isIdentifier_cons {c : Char} {cs : List Char} (hc : isIdentifierStart c)
    (hcs : cs.all isIdentifierPart) : IsIdentifier (c :: cs) :=
  ⟨c, cs, rfl, hc, List.all_eq_true.1 hcs⟩

end TypeLiteral

open TypeLiteral

/-- The element can be told by its name, as a primitive or as a class that is called like
no primitive. -/
inductive Element.Spellable : Element → Prop
  | primitive (kind : Kind) : Spellable (.primitive kind)
  | reference {name : String} : IsDottedName name → (∀ kind : Kind, kind.name ≠ name) →
    Spellable (.reference name)

theorem Kind.isDottedName_name (k : Kind) : IsDottedName k.name := by
  refine ⟨k.name.toList, [], ?_, ?_⟩
  · rw [List.forall_mem_singleton]
    cases k <;> exact isIdentifier_cons rfl rfl
  · rw [List.intercalate_singleton, String.ofList_toList]

theorem Kind.code_injective {k l : Kind} (h : k.code = l.code) : k = l := by
  cases k <;> cases l <;> first | rfl | exact absurd h (by decide)

namespace Element

theorem Spellable.isDottedName {e : Element} (he : e.Spellable) : IsDottedName e.display := by
  cases he with
  | primitive kind => exact kind.isDottedName_name
  | reference hname _ => exact hname

theorem Spellable.eq_ofName {e : Element} (he : e.Spellable) : e = .ofName e.display := by
  cases he with
  | primitive kind => exact namedBy_iff.1 (.primitive kind rfl)
  | reference _ hkind => exact namedBy_iff.1 (.reference hkind)

/-- What stands for the element in the binary name of an array. -/
def code : Element → String
  | primitive .boolean => "Z"
  | primitive .char => "C"
  | primitive .byte => "B"
  | primitive .short => "S"
  | primitive .int => "I"
  | primitive .long => "J"
  | primitive .float => "F"
  | primitive .double => "D"
  | reference name => "L" ++ name ++ ";"

theorem code_primitive (kind : Kind) : code (.primitive kind) = kind.code.toString := by
  cases kind <;> rfl

theorem code_reference (name : String) : code (.reference name) = "L" ++ name ++ ";" := rfl

theorem code_injective {e f : Element} (h : e.code = f.code) : e = f := by
  have hlist := congrArg String.toList h
  cases e <;> cases f <;> simp [code_primitive, code_reference, Char.toString] at hlist
  · rw [Kind.code_injective hlist]
  · rw [String.toList_inj.1 hlist]

/-- The code of an array of so many levels. -/
def bracketedCode (e : Element) : Nat → String
  | 0 => e.code
  | n + 1 => "[" ++ e.bracketedCode n

theorem head?_code_ne (e : Element) : e.code.toList.head? ≠ some '[' := by
  cases e with
  | primitive kind => cases kind <;> decide
  | reference name => simp [code]

theorem head?_bracketedCode_succ (e : Element) (n : Nat) :
    (e.bracketedCode (n + 1)).toList.head? = some '[' := by
  rw [bracketedCode, String.toList_append]
  rfl

/-- The brackets are told from the code, and the code from others. -/
theorem bracketedCode_injective {e f : Element} {n m : Nat}
    (h : e.bracketedCode n = f.bracketedCode m) : e = f ∧ n = m := by
  induction n generalizing m with
  | zero =>
    cases m with
    | zero => exact ⟨code_injective h, rfl⟩
    | succ m =>
      have hhead := f.head?_bracketedCode_succ m
      rw [← h] at hhead
      exact absurd hhead e.head?_code_ne
  | succ n ih =>
    cases m with
    | zero =>
      have hhead := e.head?_bracketedCode_succ n
      rw [h] at hhead
      exact absurd hhead f.head?_code_ne
    | succ m =>
      obtain ⟨he, hn⟩ := ih ((String.append_right_inj _).1 h)
      exact ⟨he, congrArg (· + 1) hn⟩

/-- The brackets stand before the code. -/
theorem bracketedCode_eq (e : Element) (n : Nat) :
    e.bracketedCode n = String.ofList (List.replicate n '[') ++ e.code := by
  induction n with
  | zero => exact String.empty_append.symm
  | succ n ih =>
    rw [bracketedCode, ih, List.replicate_succ, ← List.singleton_append, String.ofList_append,
      String.append_assoc]

/-- A name that can be read starts with an identifier. -/
theorem Spellable.head?_display_ne {e : Element} (he : e.Spellable) :
    e.display.toList.head? ≠ some '[' := by
  obtain ⟨first, rest, hparts, hname⟩ := he.isDottedName
  obtain ⟨c, cs, rfl, hc, -⟩ := hparts first List.mem_cons_self
  have hhead : e.display.toList.head? = some c := by
    rw [hname, String.toList_ofList]
    cases rest <;> rfl
  rw [hhead]
  rintro ⟨⟩
  exact absurd hc (by decide)

end Element

namespace TypeLiteral

/-! ### Display names -/

theorem flatMap_text_nameTokens (first : List Char) (rest : List (List Char)) :
    (nameTokens first rest).flatMap Token.text = ['.'].intercalate (first :: rest) := by
  induction rest generalizing first with
  | nil => simp [nameTokens, Token.text]
  | cons second rest ih =>
    rw [nameTokens, List.flatMap_cons, List.flatMap_cons, ih, List.intercalate_cons_cons,
      List.append_assoc]
    rfl

theorem bracketTokens_concat (n : Nat) :
    bracketTokens (n + 1) = bracketTokens n ++ [.opening, .closing] := by
  rw [bracketTokens, List.replicate_succ', List.flatten_concat]
  rfl

theorem flatMap_text_bracketTokens (n : Nat) :
    (bracketTokens n).flatMap Token.text = (brackets n).toList := by
  induction n with
  | zero => rfl
  | succ n ih =>
    rw [bracketTokens_concat, List.flatMap_append, ih, brackets, String.toList_append]
    rfl

theorem brackets_eq_join (n : Nat) : brackets n = String.join (List.replicate n "[]") := by
  induction n with
  | zero => rfl
  | succ n ih =>
    rw [brackets, ih, List.replicate_succ', String.join_append]
    rfl

/-- Tokens without blanks are spaced well enough. -/
theorem spaced_flatMap_text (ts : List Token) : Spaced ts (ts.flatMap Token.text) := by
  induction ts with
  | nil => exact .nil rfl
  | cons t ts ih => exact ih.text_append

theorem spells_display {t : TypeLiteral} (ht : t.element.Spellable) :
    Spells t.display.toList t := by
  obtain ⟨first, rest, hparts, hname⟩ := ht.isDottedName
  refine ⟨first, rest, hparts, ?_, hname ▸ ht.eq_ofName⟩
  have htext : t.display.toList =
      (nameTokens first rest ++ bracketTokens t.dimensions).flatMap Token.text := by
    rw [List.flatMap_append, flatMap_text_nameTokens, flatMap_text_bracketTokens, display,
      String.toList_append, hname, String.toList_ofList]
  rw [htext]
  exact spaced_flatMap_text _

theorem parse_display {t : TypeLiteral} (ht : t.element.Spellable) : parse t.display = .ok t :=
  parse_eq_ok_iff.2 (spells_display ht)

theorem display_injective {t u : TypeLiteral} (ht : t.element.Spellable)
    (hu : u.element.Spellable) (h : t.display = u.display) : t = u := by
  have hread : parse t.display = .ok u := h ▸ parse_display hu
  exact Except.ok.inj ((parse_display ht).symm.trans hread)

/-! ### Binary names -/

def binaryName : TypeLiteral → String
  | ⟨e, 0⟩ => e.display
  | ⟨e, n + 1⟩ => e.bracketedCode (n + 1)

theorem binaryName_eq (t : TypeLiteral) :
    t.binaryName = if t.dimensions = 0 then t.display
      else String.ofList (List.replicate t.dimensions '[') ++ t.element.code := by
  obtain ⟨e, n⟩ := t
  cases n with
  | zero => exact String.append_empty.symm
  | succ n => exact e.bracketedCode_eq (n + 1)

/-- An array is told by the bracket. -/
theorem head?_binaryName_iff {t : TypeLiteral} (ht : t.element.Spellable) :
    t.binaryName.toList.head? = some '[' ↔ t.dimensions ≠ 0 := by
  obtain ⟨e, n⟩ := t
  cases n with
  | zero => exact iff_of_false ht.head?_display_ne (by simp)
  | succ n => exact iff_of_true (e.head?_bracketedCode_succ n) (by simp)

theorem binaryName_injective {t u : TypeLiteral} (ht : t.element.Spellable)
    (hu : u.element.Spellable) (h : t.binaryName = u.binaryName) : t = u := by
  have hlevels : t.dimensions ≠ 0 ↔ u.dimensions ≠ 0 := by
    rw [← head?_binaryName_iff ht, h, head?_binaryName_iff hu]
  obtain ⟨e, n⟩ := t
  obtain ⟨f, m⟩ := u
  cases n with
  | zero =>
    obtain rfl : m = 0 := by simpa using hlevels
    exact display_injective ht hu (congrArg (· ++ brackets 0) h)
  | succ n =>
    obtain ⟨m, rfl⟩ := Nat.exists_eq_succ_of_ne_zero (hlevels.1 (Nat.succ_ne_zero n))
    obtain ⟨rfl, hn⟩ := Element.bracketedCode_injective h
    rw [hn]

end TypeLiteral

end ArrayTypes
