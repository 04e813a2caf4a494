import ArrayTypes.Proofs.TypeLiteral.Lexing
import ArrayTypes.Registry.Resolve

/-! What is read as a type literal: the texts of the grammar and no others, each as the type
that it spells. The places that the reader passes are the states of an automaton on tokens,
and from the start it gets through just the rows of a name and pairs of brackets. -/

namespace ArrayTypes

namespace TypeLiteral

/-! ### Rows of tokens -/

/-- The tokens lead from the place to one where the text may end. -/
def Place.Accepts (p : Place) : List Token → Prop
  | [] => p.complete
  | t :: ts => ∃ q, p.after? t.terminal = some q ∧ q.Accepts ts

theorem follow_eq_ok_iff {p : Place} {stop : Nat} {found : List Lexeme} {bad : Option Nat} :
    follow p stop found bad = .ok () ↔ bad = none ∧ p.Accepts (found.map Lexeme.token) := by
  induction found generalizing p stop with
  | nil => cases bad <;> simp [follow, Place.Accepts]
  | cons l found ih =>
    rw [follow, List.map_cons, Place.Accepts]
    cases hq : p.after? l.token.terminal with
    | none => simp
    | some q => simp [ih]

theorem accepts_bracketTokens (n : Nat) : Place.afterClosing.Accepts (bracketTokens n) := by
  induction n with
  | zero => rfl
  | succ n ih => exact ⟨_, rfl, _, rfl, ih⟩

theorem accepts_afterName {ts : List Token} (h : Place.afterClosing.Accepts ts) :
    Place.afterName.Accepts ts := by
  cases ts with
  | nil => rfl
  | cons t ts =>
    obtain ⟨q, hq, hts⟩ := h
    cases t <;> cases hq
    exact ⟨_, rfl, hts⟩

theorem accepts_nameTokens (first : List Char) (rest : List (List Char)) {ts : List Token}
    (h : Place.afterName.Accepts ts) : Place.name.Accepts (nameTokens first rest ++ ts) := by
  induction rest generalizing first with
  | nil => exact ⟨_, rfl, h⟩
  | cons second rest ih => exact ⟨_, rfl, _, rfl, ih second⟩

theorem exists_bracketTokens_of_accepts :
    ∀ {ts : List Token}, Place.afterClosing.Accepts ts → ∃ n, ts = bracketTokens n
  | [], _ => ⟨0, rfl⟩
  | t :: [], ⟨q, hq, hts⟩ => by
    cases t <;> cases hq
    cases hts
  | t :: u :: ts, ⟨q, hq, q', hq', hts⟩ => by
    cases t <;> cases hq
    cases u <;> cases hq'
    obtain ⟨n, rfl⟩ := exists_bracketTokens_of_accepts hts
    exact ⟨n + 1, rfl⟩

theorem exists_nameTokens_of_accepts :
    ∀ {ts : List Token}, Place.name.Accepts ts →
      ∃ first rest n, ts = nameTokens first rest ++ bracketTokens n
  | t :: [], ⟨q, hq, _⟩ => by
    cases t <;> cases hq
    exact ⟨_, [], 0, rfl⟩
  | t :: u :: ts, ⟨q, hq, q', hq', hts⟩ => by
    cases t with
    | dot | opening | closing => cases hq
    | identifier first =>
      cases hq
      cases u with
      | identifier name | closing => cases hq'
      | dot =>
        cases hq'
        obtain ⟨second, rest, n, rfl⟩ := exists_nameTokens_of_accepts hts
        exact ⟨first, second :: rest, n, rfl⟩
      | opening =>
        -- brackets follow a name as they follow brackets
        cases hq'
        have hb : Place.afterClosing.Accepts (.opening :: ts) := ⟨_, rfl, hts⟩
        obtain ⟨n, hn⟩ := exists_bracketTokens_of_accepts hb
        exact ⟨first, [], n, by rw [hn]; rfl⟩

theorem accepts_name_iff {ts : List Token} :
    Place.name.Accepts ts ↔ ∃ first rest n, ts = nameTokens first rest ++ bracketTokens n := by
  constructor
  · exact exists_nameTokens_of_accepts
  · rintro ⟨first, rest, n, rfl⟩
    exact accepts_nameTokens first rest (accepts_afterName (accepts_bracketTokens n))

/-! ### The literal of a row -/

theorem bracketTokens_succ (n : Nat) :
    bracketTokens (n + 1) = .opening :: .closing :: bracketTokens n :=
  rfl

theorem valid_bracketTokens (n : Nat) : ∀ t ∈ bracketTokens n, t.Valid := by
  induction n with
  | zero => simp [bracketTokens]
  | succ n ih => simpa [bracketTokens_succ, Token.Valid] using ih

theorem valid_nameTokens_iff (first : List Char) (rest : List (List Char)) (n : Nat) :
    (∀ t ∈ nameTokens first rest ++ bracketTokens n, t.Valid) ↔
      ∀ name ∈ first :: rest, IsIdentifier name := by
  induction rest generalizing first with
  | nil =>
    rw [nameTokens, List.singleton_append, List.forall_mem_cons, List.forall_mem_singleton,
      and_iff_left (valid_bracketTokens n)]
    rfl
  | cons second rest ih =>
    have hdot : Token.dot.Valid := trivial
    rw [nameTokens, List.cons_append, List.cons_append, List.forall_mem_cons,
      List.forall_mem_cons, ih second, and_iff_right hdot]
    exact (List.forall_mem_cons (p := IsIdentifier)).symm

theorem identifierNames_bracketTokens (n : Nat) : identifierNames (bracketTokens n) = [] := by
  induction n with
  | zero => rfl
  | succ n ih => exact ih

theorem identifierNames_nameTokens (first : List Char) (rest : List (List Char)) (n : Nat) :
    identifierNames (nameTokens first rest ++ bracketTokens n) = first :: rest := by
  induction rest generalizing first with
  | nil => exact congrArg (first :: ·) (identifierNames_bracketTokens n)
  | cons second rest ih => exact congrArg (first :: ·) (ih second)

theorem count_opening_nameTokens (first : List Char) (rest : List (List Char)) (n : Nat) :
    (nameTokens first rest ++ bracketTokens n).count .opening = n := by
  induction rest generalizing first with
  | nil =>
    have hb : (bracketTokens n).count .opening = n := by
      induction n with
      | zero => rfl
      | succ n ih => simp [bracketTokens_succ, ih]
    simp [nameTokens, hb]
  | cons second rest ih => simpa [nameTokens] using ih second

theorem ofTokens_nameTokens (first : List Char) (rest : List (List Char)) (n : Nat) :
    ofTokens (nameTokens first rest ++ bracketTokens n) =
      ⟨.ofName (String.ofList (['.'].intercalate (first :: rest))), n⟩ := by
  rw [ofTokens, identifierNames_nameTokens, count_opening_nameTokens]

theorem spells_iff {text : List Char} {t : TypeLiteral} :
    Spells text t ↔ ∃ ts : List Token, (∀ u ∈ ts, u.Valid) ∧ Spaced ts text ∧
      Place.name.Accepts ts ∧ t = ofTokens ts := by
  constructor
  · rintro ⟨first, rest, hnames, hs, he⟩
    refine ⟨_, (valid_nameTokens_iff first rest t.dimensions).2 hnames, hs,
      accepts_name_iff.2 ⟨first, rest, _, rfl⟩, ?_⟩
    rw [ofTokens_nameTokens, ← he]
  · rintro ⟨ts, hv, hs, ha, rfl⟩
    obtain ⟨first, rest, n, rfl⟩ := accepts_name_iff.1 ha
    rw [ofTokens_nameTokens]
    exact ⟨first, rest, (valid_nameTokens_iff first rest n).1 hv, hs, rfl⟩

/-! ### Texts -/

/-- The text is a row of tokens that leads from the place to an end. -/
def Place.Reads (p : Place) (text : List Char) : Prop :=
  ∃ ts : List Token, (∀ t ∈ ts, t.Valid) ∧ Spaced ts text ∧ p.Accepts ts

/-- Neither a blank nor a token that may follow carries an identifier on. -/
theorem apart_of_accepts {t : Token} (ht : t.Valid) {p q : Place} (hq : p.after? t.terminal = some q)
    {ts : List Token} (ha : q.Accepts ts) {text : List Char} (hs : Spaced ts text) :
    Apart t.text text := by
  cases t with
  | dot | opening | closing => exact Token.apart_of_terminal_ne (by decide) text
  | identifier name =>
    rw [Token.text, apart_identifier_iff ht]
    obtain rfl : q = .afterName := by cases p <;> cases hq; rfl
    intro d hd
    cases hs with
    | nil hb =>
      exact isIdentifierPart_of_isBlank (List.all_eq_true.1 hb d (List.mem_of_mem_head? hd))
    | @cons blanks rest u us hb _ =>
      cases blanks with
      | cons c blanks =>
        cases hd
        exact isIdentifierPart_of_isBlank (List.all_eq_true.1 hb d List.mem_cons_self)
      | nil =>
        obtain ⟨q', hq', -⟩ := ha
        cases u with
        | identifier name' | closing => cases hq'
        | dot | opening => cases hd; decide

/-- The lexer finds the tokens of an acceptable row again. -/
theorem lexemes_of_accepts {p : Place} {ts : List Token} (hv : ∀ t ∈ ts, t.Valid)
    {text : List Char} (hs : Spaced ts text) (ha : p.Accepts ts) (offset : Nat) :
    (lexemes offset text).1.map Lexeme.token = ts ∧ (lexemes offset text).2 = none := by
  induction hs generalizing p offset with
  | @nil blanks hb =>
    have := lexemes_append_of_all_isBlank hb offset []
    rw [List.append_nil, lexemes_nil] at this
    simp [this]
  | @cons blanks rest t ts hb hs ih =>
    obtain ⟨q, hq, ha⟩ := ha
    obtain ⟨ht, hts⟩ := List.forall_mem_cons.1 hv
    have hfirst := Token.first?_text_append ht (apart_of_accepts ht hq ha hs)
    rw [List.append_assoc, lexemes_append_of_all_isBlank hb, lexemes_of_first? hfirst]
    obtain ⟨htokens, hnone⟩ :=
      ih hts ha (offset + Text.byteLength blanks + Text.byteLength t.text)
    exact ⟨congrArg (t :: ·) htokens, hnone⟩

/-- Where the text stands does not matter for whether it is read to its end. -/
theorem follow_lexemes_eq_ok_iff (p : Place) (stop offset : Nat) (text : List Char) :
    follow p stop (lexemes offset text).1 (lexemes offset text).2 = .ok () ↔ p.Reads text := by
  rw [follow_eq_ok_iff]
  constructor
  · rintro ⟨hnone, ha⟩
    refine ⟨_, ?_, spaced_lexemes hnone, ha⟩
    intro t ht
    obtain ⟨l, hl, rfl⟩ := List.mem_map.1 ht
    exact valid_of_mem_lexemes l hl
  · rintro ⟨ts, hv, hs, ha⟩
    obtain ⟨rfl, hnone⟩ := lexemes_of_accepts hv hs ha offset
    exact ⟨hnone, ha⟩

theorem read_eq_map (text : List Char) :
    read text = (follow .name 0 (lexemes 0 text).1 (lexemes 0 text).2).map
      fun _ => ofTokens ((lexemes 0 text).1.map Lexeme.token) := by
  unfold read
  generalize lexemes 0 text = p
  obtain ⟨found, bad⟩ := p
  dsimp only
  cases follow .name 0 found bad <;> rfl

/-- Reading succeeds on the spellings of types, with the type that is spelled. -/
theorem read_eq_ok_iff {text : List Char} {t : TypeLiteral} :
    read text = .ok t ↔ Spells text t := by
  rw [spells_iff, read_eq_map]
  constructor
  · intro h
    cases hf : follow .name 0 (lexemes 0 text).1 (lexemes 0 text).2 with
    | error e =>
      rw [hf] at h
      cases h
    | ok u =>
      rw [hf] at h
      obtain ⟨ts, hv, hs, ha⟩ := (follow_lexemes_eq_ok_iff ..).1 hf
      refine ⟨ts, hv, hs, ha, ?_⟩
      rw [← (lexemes_of_accepts hv hs ha 0).1]
      exact (Except.ok.inj h).symm
  · rintro ⟨ts, hv, hs, ha, rfl⟩
    rw [(follow_lexemes_eq_ok_iff ..).2 ⟨ts, hv, hs, ha⟩, (lexemes_of_accepts hv hs ha 0).1]
    rfl

theorem parse_eq_ok_iff {text : String} {t : TypeLiteral} :
    parse text = .ok t ↔ Spells text.toList t :=
  read_eq_ok_iff

/-! ### Names -/

end TypeLiteral

/-- The primitive of the name if there is one, and the class of that name otherwise. -/
inductive Element.NamedBy (name : String) : Element → Prop
  | primitive (kind : Kind) : kind.name = name → NamedBy name (.primitive kind)
  | reference : (∀ kind : Kind, kind.name ≠ name) → NamedBy name (.reference name)

theorem Element.namedBy_iff {name : String} {e : Element} :
    e.NamedBy name ↔ e = .ofName name := by
  rw [Element.ofName]
  constructor
  · rintro (⟨kind, hk⟩ | hnone)
    · rw [Kind.ofName?_eq_some_iff.2 hk]
    · cases h : Kind.ofName? name with
      | none => rfl
      | some kind => exact absurd (Kind.ofName?_eq_some_iff.1 h) (hnone kind)
  · rintro rfl
    cases h : Kind.ofName? name with
    | none => exact .reference fun kind hk => nomatch h.symm.trans (Kind.ofName?_eq_some_iff.2 hk)
    | some kind => exact .primitive kind (Kind.ofName?_eq_some_iff.1 h)

namespace TypeLiteral

/-- A text is read as a type just if it is made of the tokens of a dotted name and as many
pairs of brackets as the type has levels, blanks between them or not, and the name stands
for the element. Any other text is refused, and handed back with the refusal. -/
theorem reads_spellings (text : String) :
    (∀ (e : Element) (n : Nat), parse text = .ok ⟨e, n⟩ ↔
      ∃ first rest, (∀ name ∈ first :: rest, IsIdentifier name) ∧
        Spaced (nameTokens first rest ++ bracketTokens n) text.toList ∧
        e.NamedBy (String.ofList (['.'].intercalate (first :: rest)))) ∧
    ((¬∃ first rest n, (∀ name ∈ first :: rest, IsIdentifier name) ∧
        Spaced (nameTokens first rest ++ bracketTokens n) text.toList) →
      ∃ cause, parse text = .error cause ∧
        ∀ r : Registry, r.forName text = .error (.invalidTypeLiteral text cause)) := by
  constructor
  · intro e n
    simp only [parse_eq_ok_iff, Spells, Element.namedBy_iff]
  · intro hnone
    cases hp : parse text with
    | ok t =>
      obtain ⟨first, rest, hnames, hs, -⟩ := parse_eq_ok_iff.1 hp
      exact absurd ⟨first, rest, _, hnames, hs⟩ hnone
    | error cause => exact ⟨cause, rfl, fun r => by rw [Registry.forName, hp]⟩

/-- Blanks of several bytes are passed over, and a number between brackets is not. -/
theorem reads_spaced_matrix :
    (∃ first rest, (∀ name ∈ first :: rest, IsIdentifier name) ∧
      Spaced (nameTokens first rest ++ bracketTokens 2) "\u3000a .\u2003$b9[ ]\t[\u00a0] ".toList ∧
      (Element.reference "a.$b9").NamedBy (String.ofList (['.'].intercalate (first :: rest)))) ∧
    (¬∃ first rest n, (∀ name ∈ first :: rest, IsIdentifier name) ∧
      Spaced (nameTokens first rest ++ bracketTokens n) "int[3]".toList) ∧
    ∃ cause, parse "int[3]" = .error cause ∧
      ∀ r : Registry, r.forName "int[3]" = .error (.invalidTypeLiteral "int[3]" cause) := by
  have hspaced : parse "\u3000a .\u2003$b9[ ]\t[\u00a0] " = .ok ⟨.reference "a.$b9", 2⟩ := by cbv
  have hrefused : parse "int[3]" = .error (.invalidToken 4) := by cbv
  have hnone : ¬∃ first rest n, (∀ name ∈ first :: rest, IsIdentifier name) ∧
      Spaced (nameTokens first rest ++ bracketTokens n) "int[3]".toList := by
    rintro ⟨first, rest, n, hnames, hs⟩
    have hok := ((reads_spellings "int[3]").1 _ n).2
      ⟨first, rest, hnames, hs, Element.namedBy_iff.2 rfl⟩
    cases hrefused.symm.trans hok
  exact ⟨((reads_spellings _).1 _ 2).1 hspaced, hnone, (reads_spellings "int[3]").2 hnone⟩

end TypeLiteral

end ArrayTypes
