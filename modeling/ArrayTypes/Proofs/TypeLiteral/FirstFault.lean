import ArrayTypes.Proofs.TypeLiteral.Acceptance

/-! Faults stand where a text can no longer be completed. What the reader has passed can
always be completed, since every place leads to an end, and whether more can be added to it
depends on the place alone. So a fault is found as soon as there is one, and what would
have been right instead is known. -/

namespace ArrayTypes.TypeLiteral

/-! ### Texts that can be completed -/

/-- The text can be completed to one that is read from the place. -/
def Place.Continues (p : Place) (text : List Char) : Prop :=
  ∃ more, p.Reads (text ++ more)

theorem viable_iff {text : List Char} : Viable text ↔ Place.name.Continues text := by
  simp only [Viable, Place.Continues, Place.Reads, spells_iff]
  constructor
  · rintro ⟨more, t, ts, hv, hs, ha, -⟩
    exact ⟨more, ts, hv, hs, ha⟩
  · rintro ⟨more, ts, hv, hs, ha⟩
    exact ⟨more, _, ts, hv, hs, ha, rfl⟩

namespace Place

variable {p q : Place}

theorem reads_cons_of_isBlank {c : Char} (hc : Text.isBlank c) {text : List Char} :
    p.Reads (c :: text) ↔ p.Reads text := by
  rw [← follow_lexemes_eq_ok_iff p 0 0, lexemes_cons_of_isBlank hc, follow_lexemes_eq_ok_iff]

theorem reads_of_first? {t : Token} {text rest : List Char}
    (h : Token.first? text = some (t, rest)) :
    p.Reads text ↔ ∃ q, p.after? t.terminal = some q ∧ q.Reads rest := by
  rw [← follow_lexemes_eq_ok_iff p 0 0, lexemes_of_first? h, follow]
  cases p.after? t.terminal with
  | none => simp
  | some q => simp [follow_lexemes_eq_ok_iff]

theorem not_reads_of_first?_eq_none {c : Char} {text : List Char} (hb : Text.isBlank c = false)
    (h : Token.first? (c :: text) = none) : ¬p.Reads (c :: text) := by
  rw [← follow_lexemes_eq_ok_iff p 0 0, lexemes_of_first?_eq_none hb h]
  rintro ⟨⟩

/-- From every place an end can be reached. -/
theorem continues_nil (p : Place) : p.Continues [] := by
  have hword : Token.Valid (.identifier ['a']) := ⟨'a', [], rfl, by decide, by simp⟩
  cases p with
  | name => exact ⟨['a'], _, List.forall_mem_singleton.2 hword, (Spaced.nil rfl).text_append,
      _, rfl, rfl⟩
  | afterName | afterClosing => exact ⟨[], [], by simp, .nil rfl, rfl⟩
  | afterOpening =>
    exact ⟨[']'], [.closing], by simp [Token.Valid], (Spaced.nil rfl).text_append, _, rfl, rfl⟩

theorem continues_cons_of_isBlank {c : Char} (hc : Text.isBlank c) {text : List Char} :
    p.Continues (c :: text) ↔ p.Continues text := by
  simp only [Continues, List.cons_append, reads_cons_of_isBlank hc]

/-- A token of the text's own, or longer than it if the text is an identifier. -/
theorem exists_first?_text_append {t : Token} (ht : t.Valid) (more : List Char) :
    ∃ u rest, Token.first? (t.text ++ more) = some (u, rest) ∧ u.terminal = t.terminal := by
  cases t with
  | identifier name =>
    obtain ⟨c, cs, rfl, hc, -⟩ := ht
    rw [Token.text, List.cons_append, Token.first?, if_pos hc]
    exact ⟨_, _, rfl, rfl⟩
  | dot | opening | closing => exact ⟨_, _, rfl, rfl⟩

theorem continues_text_append {t : Token} (ht : t.Valid) {text : List Char}
    (ha : Apart t.text text) :
    p.Continues (t.text ++ text) ↔ ∃ q, p.after? t.terminal = some q ∧ q.Continues text := by
  constructor
  · rintro ⟨more, hmore⟩
    rw [List.append_assoc] at hmore
    by_cases hnil : text = []
    · -- the token may grow, but stays of its kind
      obtain ⟨u, rest, hfirst, hu⟩ := exists_first?_text_append ht (text ++ more)
      obtain ⟨q, hq, -⟩ := (reads_of_first? hfirst).1 hmore
      exact ⟨q, hu ▸ hq, hnil ▸ continues_nil q⟩
    · have hapart : Apart t.text (text ++ more) := (apart_append_right_iff hnil).2 ha
      obtain ⟨q, hq, hrest⟩ := (reads_of_first? (Token.first?_text_append ht hapart)).1 hmore
      exact ⟨q, hq, more, hrest⟩
  · rintro ⟨q, hq, more, hmore⟩
    by_cases hnil : text = []
    · subst hnil
      have hfirst := Token.first?_text_append ht
        (apart_cons_of_isBlank (c := ' ') (by decide) t.text more)
      refine ⟨' ' :: more, ?_⟩
      rw [List.append_nil, reads_of_first? hfirst]
      exact ⟨q, hq, (reads_cons_of_isBlank (by decide)).2 hmore⟩
    · refine ⟨more, ?_⟩
      rw [List.append_assoc, reads_of_first?
        (Token.first?_text_append ht ((apart_append_right_iff hnil).2 ha))]
      exact ⟨q, hq, hmore⟩

theorem continues_text_iff {t : Token} (ht : t.Valid) :
    p.Continues t.text ↔ t.terminal ∈ p.expected := by
  have h := continues_text_append (p := p) ht (apart_nil_right t.text)
  rw [List.append_nil] at h
  simp only [h, continues_nil, and_true, mem_expected_iff, Option.isSome_iff_exists]

theorem not_continues_of_first?_eq_none {c : Char} {text : List Char}
    (hb : Text.isBlank c = false) (h : Token.first? (c :: text) = none) (more : List Char) :
    ¬p.Continues (c :: more) := by
  rintro ⟨rest, hrest⟩
  have hnone : Token.first? (c :: (more ++ rest)) = none := by
    simp only [Token.first?] at h ⊢
    repeat' split at h
    all_goals simp_all
  exact not_reads_of_first?_eq_none hb hnone hrest

end Place

/-! ### What has been read -/

/-- The last token of the text ends at byte `k`. -/
inductive LastTokenEnds : List Char → Nat → Prop
  | intro {ts : List Token} {before blanks : List Char} {t : Token} : Spaced ts before →
    t.Valid → blanks.all Text.isBlank →
    LastTokenEnds (before ++ t.text ++ blanks) (String.ofList (before ++ t.text)).utf8ByteSize

/-- The reader has passed the text, stands at the place, and has the end of the last token
in mind. -/
inductive Passed : List Char → Place → Nat → Prop
  | start : Passed [] .name 0
  | blank {before : List Char} {p : Place} {stop : Nat} {c : Char} : Passed before p stop →
    Text.isBlank c → Passed (before ++ [c]) p stop
  | token {before : List Char} {p q : Place} {stop : Nat} {t : Token} : Passed before p stop →
    t.Valid → Apart before t.text → p.after? t.terminal = some q →
    Passed (before ++ t.text) q (Text.byteLength (before ++ t.text))

namespace Passed

variable {before : List Char} {q : Place} {stop : Nat}

theorem exists_spaced (h : Passed before q stop) : ∃ ts, Spaced ts before := by
  induction h with
  | start => exact ⟨[], .nil rfl⟩
  | blank _ hc ih =>
    obtain ⟨ts, hs⟩ := ih
    exact ⟨_, hs.append (.nil (by simp [hc]))⟩
  | @token before p q stop t _ _ _ _ ih =>
    obtain ⟨ts, hs⟩ := ih
    have ht : Spaced [t] (t.text ++ []) := (Spaced.nil rfl).text_append
    rw [List.append_nil] at ht
    exact ⟨_, hs.append ht⟩

theorem lastTokenEnds (h : Passed before q stop) :
    before.all Text.isBlank ∧ stop = 0 ∨ LastTokenEnds before stop := by
  induction h with
  | start => exact .inl ⟨rfl, rfl⟩
  | blank _ hc ih =>
    rcases ih with ⟨hb, hstop⟩ | @⟨ts, before, blanks, t, hs, ht, hb⟩
    · exact .inl ⟨by simp [hb, hc], hstop⟩
    · rw [List.append_assoc]
      exact .inr (.intro hs ht (by simp [hb, hc]))
  | @token before p q stop t hp ht _ _ _ =>
    obtain ⟨ts, hs⟩ := hp.exists_spaced
    have hend := @LastTokenEnds.intro ts before [] t hs ht rfl
    rw [List.append_nil, ← Text.byteLength_eq_utf8ByteSize] at hend
    exact .inr hend

/-- What may be added to the text depends on the place that it leads to. -/
theorem viable_append_iff (h : Passed before q stop) {after : List Char}
    (ha : Apart before after) : Viable (before ++ after) ↔ q.Continues after := by
  induction h generalizing after with
  | start => exact viable_iff
  | @blank before p stop c _ hc ih =>
    rw [List.append_assoc, List.singleton_append, ih (apart_cons_of_isBlank hc _ _),
      Place.continues_cons_of_isBlank hc]
  | @token before p q stop t _ ht hbt hq ih =>
    have hne := Token.text_ne_nil ht
    rw [List.append_assoc, ih ((apart_append_right_iff hne).2 hbt),
      Place.continues_text_append ht ((apart_append_left_iff hne).1 ha)]
    simp [hq]

theorem viable (h : Passed before q stop) : Viable before := by
  have := (h.viable_append_iff (apart_nil_right before)).2 (Place.continues_nil q)
  rwa [List.append_nil] at this

/-- The expected terminals are those of the tokens that may come next. -/
theorem mem_expected_iff (h : Passed before q stop) {t : Token} (ht : t.Valid) :
    t.terminal ∈ q.expected ↔ Viable (before ++ ' ' :: t.text) := by
  rw [h.viable_append_iff (apart_cons_of_isBlank (by decide) _ _),
    Place.continues_cons_of_isBlank (by decide), Place.continues_text_iff ht]

end Passed

/-! ### Where the reader stops -/

/-- Having passed a text, the reader cannot go on with what is ahead. -/
inductive Place.Stops (q : Place) (stop : Nat) (before : List Char) :
    List Char → SyntaxError → Prop
  | invalidToken {c : Char} {cs : List Char} : Text.isBlank c = false →
    Token.first? (c :: cs) = none →
    Stops q stop before (c :: cs) (.invalidToken (Text.byteLength before))
  | unexpectedToken {t : Token} {rest : List Char} : t.Valid → q.after? t.terminal = none →
    Stops q stop before (t.text ++ rest)
      (.unexpectedToken
        ⟨t, Text.byteLength before, Text.byteLength (before ++ t.text)⟩ q)
  | unexpectedEnd : Stops q stop before [] (.unexpectedEnd stop q)

theorem exists_passed_of_follow {done : List Char} {p : Place} {stop : Nat}
    (hp : Passed done p stop) {text : List Char} (ha : Apart done text) {e : SyntaxError}
    (h : follow p stop (lexemes (Text.byteLength done) text).1
      (lexemes (Text.byteLength done) text).2 = .error e) :
    ∃ before rest q k, done ++ text = before ++ rest ∧ Passed before q k ∧ Apart before rest ∧
      q.Stops k before rest e := by
  generalize hoff : Text.byteLength done = offset at h
  fun_induction lexemes offset text generalizing done p stop with
  | case1 offset =>
    rw [follow] at h
    split at h
    · cases h
    · cases h
      exact ⟨done, [], p, stop, rfl, hp, ha, .unexpectedEnd⟩
  | case2 offset c rest hc ih =>
    have hoff' : Text.byteLength (done ++ [c]) = offset + c.utf8Size := by simp [hoff]
    obtain ⟨before, rest', q, k, heq, hstop⟩ :=
      ih (hp.blank hc) (apart_concat_of_isBlank hc done rest) hoff' h
    exact ⟨before, rest', q, k, by simpa using heq, hstop⟩
  | case3 offset c rest hc hn =>
    cases h
    subst hoff
    exact ⟨done, c :: rest, p, stop, rfl, hp, ha, .invalidToken (by simpa using hc) hn⟩
  | case4 offset c rest hc t after ht stop' following bad' hl =>
    rename_i ih
    rw [hl] at ih
    have htext := Token.text_append_of_first? ht
    obtain ⟨hv, -⟩ := Token.valid_of_first? ht
    have hstop : Text.byteLength (done ++ t.text) = stop' := by
      rw [Text.byteLength_append, hoff]
    rw [← htext] at ha ⊢
    rw [follow] at h
    cases hq : p.after? t.terminal with
    | none =>
      rw [hq] at h
      cases h
      rw [← hoff, ← hstop]
      exact ⟨done, t.text ++ after, p, stop, rfl, hp, ha, .unexpectedToken hv hq⟩
    | some q =>
      rw [hq] at h
      have hne := Token.text_ne_nil hv
      obtain ⟨before, rest', q', k, heq, hstops⟩ :=
        ih (hp.token hv ((apart_append_right_iff hne).1 ha) hq)
          ((apart_append_left_iff hne).2 (Token.valid_of_first? ht).2) hstop (hstop ▸ h)
      exact ⟨before, rest', q', k, by simpa using heq, hstops⟩

/-! ### What the messages say -/

/-- The list, as it is printed, names the token. Identifiers are named by their regular
expression. -/
def Listed (list : String) : Token → Prop
  | .identifier _ => list = "r#\"[A-Za-z_$][A-Za-z0-9_$]*\"#"
  | .dot => list = "\".\" or \"[\""
  | .opening => list = "\".\" or \"[\"" ∨ list = "\"[\""
  | .closing => list = "\"]\""

/-- The list names just the tokens that can follow those of the text. -/
def ListsNext (before : List Char) (list : String) : Prop :=
  ∀ t : Token, t.Valid → (Listed list t ↔ Viable (before ++ ' ' :: t.text))

/-- The text is right as far as it goes. -/
def EndsEarly (text : List Char) (message : String) : Prop :=
  ∃ k list,
    message = "Unrecognized EOF found at " ++ toString k ++ "\nExpected one of " ++ list ∧
    Viable text ∧ (text.all Text.isBlank ∧ k = 0 ∨ LastTokenEnds text k) ∧ ListsNext text list

/-- One character of the text is wrong, whatever comes after it. -/
def HasInvalidToken (text : List Char) (message : String) : Prop :=
  ∃ before c after, text = before ++ c :: after ∧
    message = "Invalid token at " ++ toString (String.ofList before).utf8ByteSize ∧
    Viable before ∧ ∀ more, ¬Viable (before ++ c :: more)

/-- One token of the text is wrong where it stands. -/
def HasUnexpectedToken (text : List Char) (message : String) : Prop :=
  ∃ (before : List Char) (t : Token) (after : List Char) (list : String),
    text = before ++ t.text ++ after ∧ t.Valid ∧
    message = "Unrecognized token `" ++ String.ofList t.text ++ "` found at " ++
      toString (String.ofList before).utf8ByteSize ++ ":" ++
      toString (String.ofList (before ++ t.text)).utf8ByteSize ++ "\nExpected one of " ++ list ∧
    Viable before ∧ ¬Viable (before ++ t.text) ∧ ListsNext before list

section Heads

variable {text : List Char} {message : String}

/-! The messages differ within their first fourteen characters. -/

theorem EndsEarly.take_message (h : EndsEarly text message) :
    message.toList.take 14 = "Unrecognized E".toList := by
  obtain ⟨k, list, rfl, -⟩ := h
  simp only [String.toList_append, List.append_assoc]
  rfl

theorem HasInvalidToken.take_message (h : HasInvalidToken text message) :
    message.toList.take 14 = "Invalid token ".toList := by
  obtain ⟨before, c, after, -, rfl, -⟩ := h
  simp only [String.toList_append]
  rfl

theorem HasUnexpectedToken.take_message (h : HasUnexpectedToken text message) :
    message.toList.take 14 = "Unrecognized t".toList := by
  obtain ⟨before, t, after, list, -, -, rfl, -⟩ := h
  simp only [String.toList_append, List.append_assoc]
  rfl

theorem EndsEarly.not_hasInvalidToken (h : EndsEarly text message) :
    ¬HasInvalidToken text message :=
  fun h' => absurd (h.take_message.symm.trans h'.take_message) (by decide)

theorem EndsEarly.not_hasUnexpectedToken (h : EndsEarly text message) :
    ¬HasUnexpectedToken text message :=
  fun h' => absurd (h.take_message.symm.trans h'.take_message) (by decide)

theorem HasInvalidToken.not_hasUnexpectedToken (h : HasInvalidToken text message) :
    ¬HasUnexpectedToken text message :=
  fun h' => absurd (h.take_message.symm.trans h'.take_message) (by decide)

end Heads

/-! ### The first fault -/

/-- What a place prints after the words that begin the list. -/
def Place.list (p : Place) : String :=
  alternatives (p.expected.map Terminal.label)

theorem Place.listed_iff (p : Place) (t : Token) : Listed p.list t ↔ t.terminal ∈ p.expected := by
  cases p <;> cases t <;> simp only [Listed, Token.terminal] <;> decide

theorem Place.append_expectation (head : String) (p : Place) :
    head ++ "\n" ++ p.expectation = head ++ "\nExpected one of " ++ p.list := by
  rw [String.append_assoc, String.append_assoc]
  rfl

theorem Passed.listsNext {before : List Char} {q : Place} {stop : Nat}
    (h : Passed before q stop) : ListsNext before q.list :=
  fun t ht => (q.listed_iff t).trans (h.mem_expected_iff ht)

theorem follow_of_read_eq_error {text : List Char} {e : SyntaxError} (h : read text = .error e) :
    follow .name 0 (lexemes 0 text).1 (lexemes 0 text).2 = .error e := by
  rw [read_eq_map] at h
  cases hf : follow .name 0 (lexemes 0 text).1 (lexemes 0 text).2 with
  | ok u =>
    rw [hf] at h
    cases h
  | error e' =>
    rw [hf] at h
    exact congrArg Except.error (Except.error.inj h)

/-- Where the reader stops, the text has its first fault. -/
theorem Place.Stops.fault {q : Place} {stop : Nat} {before rest : List Char} {e : SyntaxError}
    (hs : q.Stops stop before rest e) (hp : Passed before q stop) (ha : Apart before rest) :
    EndsEarly (before ++ rest) e.message ∨ HasInvalidToken (before ++ rest) e.message ∨
      HasUnexpectedToken (before ++ rest) e.message := by
  cases hs with
  | unexpectedEnd =>
    rw [List.append_nil]
    exact .inl ⟨stop, q.list, q.append_expectation _, hp.viable, hp.lastTokenEnds, hp.listsNext⟩
  | @invalidToken c cs hb hn =>
    refine .inr (.inl ⟨before, c, cs, rfl, ?_, hp.viable, ?_⟩)
    · rw [← Text.byteLength_eq_utf8ByteSize]
      rfl
    · -- only the character itself matters for the border
      intro more
      have hmore : Apart before (c :: more) := ha
      rw [hp.viable_append_iff hmore]
      exact Place.not_continues_of_first?_eq_none hb hn more
  | @unexpectedToken t rest ht hq =>
    have hat : Apart before t.text := (apart_append_right_iff (Token.text_ne_nil ht)).1 ha
    refine .inr (.inr ⟨before, t, rest, q.list, (List.append_assoc ..).symm, ht, ?_, hp.viable,
      ?_, hp.listsNext⟩)
    · simp only [← Text.byteLength_eq_utf8ByteSize]
      exact q.append_expectation _
    · rw [hp.viable_append_iff hat, Place.continues_text_iff ht, Place.mem_expected_iff, hq]
      exact Bool.false_ne_true

/-- A text that is refused is refused for its first fault: it ends early, or has a character
that nothing can follow up, or a token that cannot stand where it does, and just one of the
three. What is before the fault can be completed, and the message says what could have come
next. -/
theorem error_is_first_fault :
    (∀ before : List Char, Viable before ↔
      ∃ more t, parse (String.ofList (before ++ more)) = .ok t) ∧
    ∀ (text : String) (e : SyntaxError), parse text = .error e →
      (EndsEarly text.toList e.message ∧ ¬HasInvalidToken text.toList e.message ∧
        ¬HasUnexpectedToken text.toList e.message) ∨
      (¬EndsEarly text.toList e.message ∧ HasInvalidToken text.toList e.message ∧
        ¬HasUnexpectedToken text.toList e.message) ∨
      (¬EndsEarly text.toList e.message ∧ ¬HasInvalidToken text.toList e.message ∧
        HasUnexpectedToken text.toList e.message) := by
  constructor
  · intro before
    simp only [parse_eq_ok_iff, String.toList_ofList, Viable]
  · intro text e h
    obtain ⟨before, rest, q, k, htext, hp, ha, hs⟩ :=
      exists_passed_of_follow .start (apart_nil_left _) (follow_of_read_eq_error h)
    rw [List.nil_append] at htext
    rw [htext]
    rcases hs.fault hp ha with hend | hbad | htoken
    · exact .inl ⟨hend, hend.not_hasInvalidToken, hend.not_hasUnexpectedToken⟩
    · exact .inr (.inl ⟨fun hend => hend.not_hasInvalidToken hbad, hbad,
        hbad.not_hasUnexpectedToken⟩)
    · exact .inr (.inr ⟨fun hend => hend.not_hasUnexpectedToken htoken,
        fun hbad => hbad.not_hasUnexpectedToken htoken, htoken⟩)

/-- Offsets count bytes, those of skipped blanks too: a wide blank of three, a name and a
blank stand before the second name. -/
theorem second_word_is_first_fault :
    parse "\u3000a b" = .error (.unexpectedToken ⟨.identifier ['b'], 5, 6⟩ .afterName) ∧
    HasUnexpectedToken "\u3000a b".toList
      "Unrecognized token `b` found at 5:6\nExpected one of \".\" or \"[\"" := by
  have hp : parse "\u3000a b" =
      .error (.unexpectedToken ⟨.identifier ['b'], 5, 6⟩ .afterName) := by cbv
  have hmessage : (SyntaxError.unexpectedToken ⟨.identifier ['b'], 5, 6⟩ .afterName).message =
      "Unrecognized token `b` found at 5:6\nExpected one of \".\" or \"[\"" := by decide
  refine ⟨hp, ?_⟩
  rw [← hmessage]
  rcases error_is_first_fault.2 _ _ hp with ⟨h, -⟩ | ⟨-, h, -⟩ | ⟨-, -, h⟩
  · exact absurd h.take_message (by decide)
  · exact absurd h.take_message (by decide)
  · exact h

end ArrayTypes.TypeLiteral
