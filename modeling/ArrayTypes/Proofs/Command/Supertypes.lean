import ArrayTypes.Proofs.Command.Outcome
import ArrayTypes.Proofs.Text.Pieces

/-! Direct supertypes as they are declared. What a declaration states is told by its characters
alone: it is a class name, a colon and a list of names, with blanks around names and empty names
passed over. A class has the names that its declarations list, in the order of the declarations,
and a list of names that is written out for a class is read back for that class alone. -/

namespace ArrayTypes.Command

/-- The text states that the class has the supertypes, in this order. -/
def States (text : String) (d : ClassDeclaration) : Prop :=
  ∃ before after parts words, text.toList = before ++ ':' :: after ∧ ':' ∉ before ∧
    Text.Trims before d.name.toList ∧ Text.Cuts ',' after parts ∧
    List.Forall₂ Text.Trims parts words ∧ d.supertypes.map String.toList = words.filter (· ≠ [])

/-- No colon stands in the text, but one does in each text before it. -/
def FirstWithoutColon (texts : List String) (bad : String) : Prop :=
  ∃ before after, texts = before ++ bad :: after ∧ (∀ text ∈ before, ':' ∈ text.toList) ∧
    ':' ∉ bad.toList

/-- The class name and the names of its supertypes as one text. -/
def declarationText (name : String) (supertypes : List String) : String :=
  name ++ ":" ++ ",".intercalate supertypes

variable {text bad : String} {texts : List String} {d : ClassDeclaration}

/-! ### One declaration -/

theorem forall₂_trims_iff {parts words : List (List Char)} :
    List.Forall₂ Text.Trims parts words ↔ parts.map Text.trim = words := by
  have h : List.Forall₂ Text.Trims parts words ↔
      List.Forall₂ (fun part word => Text.trim part = word) parts words := by
    simp only [Text.trim_eq_iff]
  rw [h, ← List.forall₂_map_left_iff (R := Eq), List.forall₂_eq_eq_eq]

theorem readDeclaration_eq_some_iff : readDeclaration text = some d ↔ States text d := by
  simp only [readDeclaration, Option.map_eq_some_iff, Prod.exists, Text.cutAt_eq_some_iff]
  constructor
  · rintro ⟨before, after, ⟨htext, hcolon⟩, rfl⟩
    refine ⟨before, after, _, _, htext, hcolon, ?_, Text.pieces_eq_iff.1 rfl,
      forall₂_trims_iff.2 rfl, ?_⟩
    · rw [String.toList_ofList]
      exact Text.trims_trim before
    · simp [List.map_map, Function.comp_def]
  · rintro ⟨before, after, parts, words, htext, hcolon, hname, hparts, hwords, hsupertypes⟩
    refine ⟨before, after, ⟨htext, hcolon⟩, ?_⟩
    rw [Text.pieces_eq_iff.2 hparts, forall₂_trims_iff.1 hwords, Text.trim_eq_iff.2 hname,
      ← hsupertypes]
    simp [List.map_map, Function.comp_def]

/-- A list of names that need no trimming reads back. -/
theorem readDeclaration_declarationText {name : String} {supertypes : List String}
    (hcolon : ':' ∉ name.toList) (hname : Text.Unpadded name.toList)
    (hs : ∀ s ∈ supertypes, s ≠ "" ∧ ',' ∉ s.toList ∧ Text.Unpadded s.toList) :
    readDeclaration (declarationText name supertypes) = some ⟨name, supertypes⟩ := by
  have htext : (declarationText name supertypes).toList =
      name.toList ++ ':' :: [','].intercalate (supertypes.map String.toList) := by
    simp [declarationText, String.toList_intercalate]
  have hwords : ∀ word ∈ supertypes.map String.toList, word ≠ [] ∧ ',' ∉ word ∧
      Text.Unpadded word := by
    simpa using hs
  rw [readDeclaration, htext, Text.cutAt_append_cons hcolon, Option.map_some]
  simp only [Text.trim_of_unpadded hname, Text.filter_trim_pieces_intercalate hwords]
  simp [List.map_map, Function.comp_def]

/-! ### All declarations -/

theorem readHierarchy_eq_error_iff :
    readHierarchy texts .empty = .error bad ↔ FirstWithoutColon texts bad := by
  have hfind : FirstWithoutColon texts bad ↔
      texts.find? (fun text => ':' ∉ text.toList) = some bad := by
    simp [FirstWithoutColon, List.find?_eq_some_iff_append, and_comm, and_left_comm]
  rw [readHierarchy_eq, hfind]
  cases texts.find? fun text => ':' ∉ text.toList <;> simp

/-- What is read is what the texts state, one declaration for each of them. -/
theorem exists_forall₂_states {c₀ c : ClassHierarchy} (h : readHierarchy texts c₀ = .ok c) :
    ∃ ds, List.Forall₂ States texts ds ∧ c.declarations = c₀.declarations ++ ds := by
  induction texts generalizing c₀ with
  | nil =>
    cases h
    exact ⟨[], .nil, (List.append_nil _).symm⟩
  | cons text texts ih =>
    rw [readHierarchy] at h
    split at h
    next d hd =>
      obtain ⟨ds, hds, hc⟩ := ih h
      refine ⟨d :: ds, .cons (readDeclaration_eq_some_iff.1 hd) hds, ?_⟩
      rw [hc, ClassHierarchy.declare, List.append_assoc, List.singleton_append]
    next => cases h

/-- Declarations are read unless one of them has no colon, and then the first of those is
quoted. The direct supertypes of a class are the names that the declarations of just this class
list, one declaration after the other. A list that is written out for a class adds its names to
that class, in their order, and to no other. -/
theorem declarations_read_exactly (texts : List String) :
    ((∃ bad, readHierarchy texts .empty = .error bad) ↔ ∃ text ∈ texts, ':' ∉ text.toList) ∧
    (∀ bad, readHierarchy texts .empty = .error bad → FirstWithoutColon texts bad ∧
      ∀ preload action, (run ⟨texts, preload, action⟩).shown =
        (1, "", "Error: " ++ ("class declaration `" ++ bad ++
          "` is not of the form `Sub:Super1,Super2`") ++ "\n")) ∧
    (∀ c, readHierarchy texts .empty = .ok c → ∃ ds, List.Forall₂ States texts ds ∧
      ∀ name, c.directSupertypes name =
        (ds.filter (·.name = name)).flatMap (·.supertypes)) ∧
    ∀ name supertypes, ':' ∉ name.toList → Text.Unpadded name.toList →
      (∀ s ∈ supertypes, s ≠ "" ∧ ',' ∉ s.toList ∧ Text.Unpadded s.toList) →
      ∀ c, ∃ c', readHierarchy [declarationText name supertypes] c = .ok c' ∧
        ∀ other, c'.directSupertypes other =
          c.directSupertypes other ++ if name = other then supertypes else [] := by
  refine ⟨⟨?_, ?_⟩, fun bad hbad => ⟨readHierarchy_eq_error_iff.1 hbad, ?_⟩, fun c hc => ?_, ?_⟩
  · rintro ⟨bad, hbad⟩
    obtain ⟨before, after, rfl, -, hcolon⟩ := readHierarchy_eq_error_iff.1 hbad
    exact ⟨bad, by simp, hcolon⟩
  · rintro ⟨text, htext, hcolon⟩
    exact exists_readHierarchy_eq_error htext hcolon
  · intro preload action
    rw [run, hbad]
    rfl
  · obtain ⟨ds, hds, hdecl⟩ := exists_forall₂_states hc
    rw [ClassHierarchy.empty, List.nil_append] at hdecl
    exact ⟨ds, hds, fun name => by rw [← hdecl]; rfl⟩
  · intro name supertypes hcolon hname hs c
    have hread := readDeclaration_declarationText hcolon hname hs
    refine ⟨c.declare name supertypes, ?_, c.directSupertypes_declare name supertypes⟩
    simp only [readHierarchy, hread]

/-- Names may hold blanks, and those of supertypes colons. -/
theorem names_with_blanks_read_back :
    let supertypes := ["a:b", "java.lang.Object\u3000[]"]
    ':' ∉ "Dog house".toList ∧ Text.Unpadded "Dog house".toList ∧
    (∀ s ∈ supertypes, s ≠ "" ∧ ',' ∉ s.toList ∧ Text.Unpadded s.toList) ∧
    ∃ c, readHierarchy [declarationText "Dog house" supertypes] .empty = .ok c ∧
      c.directSupertypes "Dog house" = supertypes ∧ c.directSupertypes "a" = [] := by
  intro supertypes
  have hcolon : ':' ∉ "Dog house".toList := by decide
  have hname : Text.Unpadded "Dog house".toList := by decide
  have hs : ∀ s ∈ supertypes, s ≠ "" ∧ ',' ∉ s.toList ∧ Text.Unpadded s.toList := by decide
  obtain ⟨-, -, -, reads⟩ := declarations_read_exactly []
  obtain ⟨c, hc, hdirect⟩ := reads "Dog house" supertypes hcolon hname hs .empty
  exact ⟨hcolon, hname, hs, c, hc, hdirect "Dog house", hdirect "a"⟩

end ArrayTypes.Command
