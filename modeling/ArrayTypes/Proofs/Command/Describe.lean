import ArrayTypes.Proofs.Command.Outcome
import ArrayTypes.Proofs.Registry.Queries
import ArrayTypes.Proofs.TypeLiteral.Unspaced

/-! The description of types on the command line. What is printed for a text can be read off its
characters: the page of a text is the same in every registry, whatever was resolved before it
and whether arrays were preloaded. The pages stand one after the other up to the first text that
is no type literal, and that text alone decides how the command ends. -/

namespace ArrayTypes

/-- The type of the elements of an array; nothing for other types. -/
def TypeLiteral.component? : TypeLiteral → Option TypeLiteral
  | ⟨_, 0⟩ => none
  | ⟨e, n + 1⟩ => some ⟨e, n⟩

/-- How the value is written that a slot of the element's type holds at first. -/
def Element.initialText : Element → String
  | .primitive .boolean => "false"
  | .primitive .char => "'\\u0000'"
  | .primitive .byte | .primitive .short | .primitive .int => "0"
  | .primitive .long => "0L"
  | .primitive .float => "0.0f"
  | .primitive .double => "0.0"
  | .reference _ => "null"

theorem Element.display_initial (e : Element) : e.initial.display = e.initialText := by
  cases e with
  | primitive kind => cases kind <;> decide +kernel
  | reference name => rfl

namespace Command

/-! ### Pages -/

/-- What is shown of a type. -/
structure Page where
  name : String
  binaryName : String
  levels : Nat
  component? : Option String
  initial : String

namespace Page

def text (p : Page) : String :=
  p.name ++ "\n"
    ++ "  binary name: " ++ p.binaryName ++ "\n"
    ++ "  array:       " ++ toString (decide (0 < p.levels)) ++ "\n"
    ++ "  dimensions:  " ++ toString p.levels ++ "\n"
    ++ "  component:   " ++ p.component?.getD "-" ++ "\n"
    ++ "  default:     " ++ p.initial ++ "\n"

def ofType (t : TypeLiteral) : Page where
  name := t.display
  binaryName := t.binaryName
  levels := t.dimensions
  component? := t.component?.map TypeLiteral.display
  initial := t.element.initialText

/-- The page of a text, by its characters without the blanks: there is one level for each opening
bracket, the element is named before the first of them, and the component is the name without
its last two brackets. -/
def ofText (text : String) : Page :=
  let name := Text.unspaced text.toList
  let levels := name.count '['
  let element := Element.ofName (String.ofList (name.takeWhile (· ≠ '[')))
  { name := String.ofList name
    binaryName :=
      if levels = 0 then String.ofList name
      else String.ofList (List.replicate levels '[') ++ element.code
    levels
    component? := if levels = 0 then none else some (String.ofList (name.take (name.length - 2)))
    initial := element.initialText }

end Page

end Command

/-! ### Names by characters -/

theorem TypeLiteral.map_display_component? (t : TypeLiteral) :
    t.component?.map display = if t.dimensions = 0 then none
      else some (String.ofList (t.display.toList.take (t.display.toList.length - 2))) := by
  obtain ⟨e, n⟩ := t
  cases n with
  | zero => rfl
  | succ n =>
    have hname : (display ⟨e, n + 1⟩).toList = (display ⟨e, n⟩).toList ++ ['[', ']'] := by
      simp [display, brackets]
    have htake : ((display ⟨e, n⟩).toList ++ ['[', ']']).take
        (((display ⟨e, n⟩).toList ++ ['[', ']']).length - 2) = (display ⟨e, n⟩).toList := by
      simp
    rw [if_neg (Nat.succ_ne_zero n), hname, htake, String.ofList_toList]
    rfl

namespace Command

theorem Page.ofText_eq_ofType {text : String} {t : TypeLiteral}
    (h : TypeLiteral.parse text = .ok t) : ofText text = ofType t := by
  have hlevels := TypeLiteral.count_unspaced_of_parse h
  have helement := TypeLiteral.ofName_takeWhile_of_parse h
  have hname := TypeLiteral.unspaced_eq_of_parse h
  rw [ofText, ofType, hlevels, helement, hname, String.ofList_toList, t.binaryName_eq,
    t.map_display_component?]

/-! ### One literal -/

variable {r : Registry} {literal : String}

/-- What is printed for a handle is the page of the type that it stands for. -/
theorem block_eq (hr : r.Consistent) {h : Handle} {t : TypeLiteral} (ht : r.Denotes h t) :
    block r h = .ok (Page.ofType t).text := by
  obtain ⟨d, hd⟩ := ht.exists_get
  have harray := ht.isArray_eq hd
  obtain ⟨e, n⟩ := t
  cases n with
  | zero =>
    rw [block, ht.componentType_zero, ht.name_eq hr, ht.binaryName_eq hr, hd, ht.dimensions_eq,
      ht.defaultValue_eq]
    simp only [bind, Except.bind, pure, Except.pure, harray, Element.display_initial]
    rfl
  | succ n =>
    obtain ⟨c, hc, hct⟩ := ht.exists_componentType
    rw [block, hc, ht.name_eq hr, ht.binaryName_eq hr, hd, ht.dimensions_eq, ht.defaultValue_eq]
    simp only [bind, Except.bind, pure, Except.pure, harray, hct.name_eq hr,
      Element.display_initial]
    rfl

/-- A text that is read is resolved, and its page is printed. -/
theorem exists_describe_cons (hr : r.Consistent) {t : TypeLiteral}
    (h : TypeLiteral.parse literal = .ok t) :
    ∃ r' events, r'.Consistent ∧ ∀ rest, describe r (literal :: rest) =
      (success (Page.ofText literal).text events).followedBy (describe r' rest) := by
  obtain ⟨g, r', hres, hg⟩ := Registry.exists_resolve hr t
  have hr' : r'.Consistent := hr.of_grows (Registry.grows_of_resolve hres)
  have hname : r.forName literal = .ok (g, r') := by
    simp only [Registry.forName, h, hres]
  refine ⟨r', Log.ofRequest r.count r' g, hr', fun rest => ?_⟩
  rw [describe, hname, Page.ofText_eq_ofType h]
  simp only [bind, Except.bind, pure, Except.pure, block_eq hr' hg]

/-- A text that is not read ends the description. -/
theorem describe_cons_of_parse_eq_error {cause : TypeLiteral.SyntaxError}
    (h : TypeLiteral.parse literal = .error cause) (r : Registry) (rest : List String) :
    describe r (literal :: rest) =
      failed ("while describing `" ++ literal ++ "`\n\nCaused by:\n" ++
        Text.indent (Failure.invalidTypeLiteral literal cause).message) [] := by
  have hname : r.forName literal = .error (.invalidTypeLiteral literal cause) := by
    simp only [Registry.forName, h]
  rw [describe, hname]
  rfl

/-! ### Several literals -/

/-- One page after the other. -/
def pages (literals : List String) : String :=
  String.join (literals.map fun literal => (Page.ofText literal).text)

/-- Literals that are read leave their pages and a registry for the rest. -/
theorem exists_describe_append (hr : r.Consistent) {before : List String}
    (h : ∀ literal ∈ before, IsLiteral literal) :
    ∃ r' events, r'.Consistent ∧ ∀ rest, describe r (before ++ rest) =
      (success (pages before) events).followedBy (describe r' rest) := by
  induction before generalizing r with
  | nil =>
    refine ⟨r, [], hr, fun rest => ?_⟩
    simp [Report.followedBy, success, pages]
  | cons literal before ih =>
    obtain ⟨⟨t, ht⟩, hbefore⟩ := List.forall_mem_cons.1 h
    obtain ⟨r₁, events₁, hr₁, hfirst⟩ := exists_describe_cons hr ht
    obtain ⟨r₂, events₂, hr₂, hrest⟩ := ih hr₁ hbefore
    refine ⟨r₂, events₁ ++ events₂, hr₂, fun rest => ?_⟩
    rw [List.cons_append, hfirst, hrest, success_followedBy, pages, pages, List.map_cons,
      String.join_cons]

/-! ### The whole command -/

theorem describe_of_forall_isLiteral (hr : r.Consistent) {literals : List String}
    (h : ∀ literal ∈ literals, IsLiteral literal) :
    ∃ events, describe r literals = success (pages literals) events := by
  obtain ⟨r', events, -, hall⟩ := exists_describe_append hr h
  have hnil := hall []
  rw [List.append_nil] at hnil
  refine ⟨events, ?_⟩
  rw [hnil]
  simp [describe, Report.followedBy, success]

/-- Described are the literals up to the first that is none, each by its own characters alone.
The command fails there and tells of that literal; if there is none, it succeeds. With a
declaration that has no colon nothing is described. -/
theorem describe_prints_pages (declarations : List String) (preload : Bool)
    (literals : List String) :
    let report := run ⟨declarations, preload, .describe literals⟩
    ((∀ d ∈ declarations, ':' ∈ d.toList) →
      ((∀ literal ∈ literals, IsLiteral literal) →
        report.output = pages literals ∧ report.exitCode = 0 ∧ report.errors = "") ∧
      ∀ before literal after cause, literals = before ++ literal :: after →
        (∀ earlier ∈ before, IsLiteral earlier) → TypeLiteral.parse literal = .error cause →
        report.output = pages before ∧ report.exitCode = 1 ∧
          report.errors = "Error: while describing `" ++ literal ++ "`\n\nCaused by:\n" ++
            Text.indent (Failure.invalidTypeLiteral literal cause).message ++ "\n") ∧
    ((∃ d ∈ declarations, ':' ∉ d.toList) → report.output = "" ∧ report.exitCode = 1) := by
  intro report
  refine ⟨fun hcolon => ?_, ?_⟩
  · obtain ⟨r, events, hr, hrun⟩ := exists_run_eq hcolon preload (.describe literals)
    constructor
    · intro hall
      obtain ⟨events', hdescribe⟩ := describe_of_forall_isLiteral hr hall
      simp [report, hrun, hdescribe, Report.followedBy, success]
    · rintro before literal after cause rfl hbefore hparse
      obtain ⟨r', events', -, hdescribe⟩ := exists_describe_append hr hbefore
      have hfailed := describe_cons_of_parse_eq_error hparse r' after
      refine ⟨?_, ?_, ?_⟩
      · simp [report, hrun, hdescribe, hfailed, Report.followedBy, success, failed]
      · simp [report, hrun, hdescribe, hfailed, Report.followedBy, success, failed]
      · simp only [report, hrun, hdescribe, hfailed, Report.followedBy, success, failed,
          String.empty_append, ← String.append_assoc]
        rfl
  · rintro ⟨d, hd, hcolon⟩
    obtain ⟨error, hrun⟩ := exists_run_eq_failed hd hcolon preload (.describe literals)
    simp [report, hrun, failed]

/-- The array with a number between its brackets ends the description. -/
theorem describes_up_to_sized_array :
    let literals := ["int [ ]\t[]", "a . B", "int[3]", "Dog"]
    let report := run ⟨["Dog:Animal"], false, .describe literals⟩
    (∀ d ∈ ["Dog:Animal"], ':' ∈ d.toList) ∧
    (∀ literal ∈ ["int [ ]\t[]", "a . B"], IsLiteral literal) ∧
    TypeLiteral.parse "int[3]" = .error (.invalidToken 4) ∧
    report.output =
      "int[][]\n  binary name: [[I\n  array:       true\n  dimensions:  2\n" ++
      "  component:   int[]\n  default:     0\n" ++
      "a.B\n  binary name: a.B\n  array:       false\n  dimensions:  0\n" ++
      "  component:   -\n  default:     null\n" ∧
    report.exitCode = 1 := by
  intro literals report
  have hcolon : ∀ d ∈ ["Dog:Animal"], ':' ∈ d.toList := by decide
  have hint : TypeLiteral.parse "int [ ]\t[]" = .ok ⟨.primitive .int, 2⟩ := by cbv
  have hclass : TypeLiteral.parse "a . B" = .ok ⟨.reference "a.B", 0⟩ := by cbv
  have hread : ∀ literal ∈ ["int [ ]\t[]", "a . B"], IsLiteral literal := by
    rw [List.forall_mem_cons, List.forall_mem_singleton]
    exact ⟨⟨_, hint⟩, _, hclass⟩
  have hrefused : TypeLiteral.parse "int[3]" = .error (.invalidToken 4) := by cbv
  obtain ⟨houtput, hexit, -⟩ := ((describe_prints_pages ["Dog:Animal"] false literals).1 hcolon).2
    ["int [ ]\t[]", "a . B"] "int[3]" ["Dog"] (.invalidToken 4) rfl hread hrefused
  refine ⟨hcolon, hread, hrefused, ?_, hexit⟩
  rw [houtput, pages, List.map_cons, List.map_singleton, Page.ofText_eq_ofType hint,
    Page.ofText_eq_ofType hclass]
  decide +kernel

end Command

end ArrayTypes
