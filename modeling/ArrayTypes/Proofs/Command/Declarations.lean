import ArrayTypes.Command.Declaration
import Mathlib.Data.Set.Basic

/-! Class declarations as texts. A declaration is cut at its first colon and then at commas; what
it comes to is a set of steps from a class to a supertype. Declarations are read to their end
just if each has a colon, and the direct supertypes of the hierarchy that they make are the
steps that they state. -/

namespace ArrayTypes

theorem Text.cutAt_eq_some_iff {separator : Char} {cs before after : List Char} :
    cutAt separator cs = some (before, after) ↔
      cs = before ++ separator :: after ∧ separator ∉ before := by
  constructor
  · intro h
    induction cs generalizing before with
    | nil => cases h
    | cons c cs ih =>
      rw [cutAt] at h
      split at h
      next hc =>
        cases h
        exact ⟨by rw [hc, List.nil_append], List.not_mem_nil⟩
      next hc =>
        obtain ⟨⟨front, back⟩, hcut, hpair⟩ := Option.map_eq_some_iff.1 h
        cases hpair
        obtain ⟨rfl, hfront⟩ := ih hcut
        exact ⟨rfl, by simp [Ne.symm hc, hfront]⟩
  · rintro ⟨rfl, hbefore⟩
    exact cutAt_append_cons hbefore after

namespace Command

/-- The declaration states that `super` is a direct supertype of `name`. -/
def Declares (text name super : String) : Prop :=
  ∃ before after piece, text.toList = before ++ ':' :: after ∧ ':' ∉ before ∧
    piece ∈ Text.pieces ',' after ∧ Text.trim piece ≠ [] ∧
    name = String.ofList (Text.trim before) ∧ super = String.ofList (Text.trim piece)

/-- The steps that the declarations state, from classes to their direct supertypes. -/
def declaredSteps (texts : List String) : Set (String × String) :=
  {step | ∃ text ∈ texts, Declares text step.1 step.2}

variable {text : String} {texts : List String}

/-! ### One declaration -/

theorem readDeclaration_eq_none_iff : readDeclaration text = none ↔ ':' ∉ text.toList := by
  rw [readDeclaration, Option.map_eq_none_iff, Text.cutAt_eq_none_iff]

theorem exists_readDeclaration (h : ':' ∈ text.toList) : ∃ d, readDeclaration text = some d :=
  Option.ne_none_iff_exists'.1 (mt readDeclaration_eq_none_iff.1 (not_not_intro h))

/-- The steps of a declaration are those that are read from it. -/
theorem declares_iff {name super : String} :
    Declares text name super ↔
      ∃ d, readDeclaration text = some d ∧ d.name = name ∧ super ∈ d.supertypes := by
  constructor
  · rintro ⟨before, after, piece, htext, hcolon, hpiece, hne, rfl, rfl⟩
    have hcut : Text.cutAt ':' text.toList = some (before, after) :=
      Text.cutAt_eq_some_iff.2 ⟨htext, hcolon⟩
    refine ⟨_, by rw [readDeclaration, hcut]; rfl, rfl, ?_⟩
    exact List.mem_map_of_mem (List.mem_filter.2 ⟨List.mem_map_of_mem hpiece, by simpa using hne⟩)
  · rintro ⟨d, hd, rfl, hsuper⟩
    obtain ⟨⟨before, after⟩, hcut, rfl⟩ := Option.map_eq_some_iff.1 hd
    obtain ⟨htext, hcolon⟩ := Text.cutAt_eq_some_iff.1 hcut
    simp only [List.mem_map, List.mem_filter, decide_eq_true_eq] at hsuper
    obtain ⟨_, ⟨⟨piece, hpiece, rfl⟩, hne⟩, rfl⟩ := hsuper
    exact ⟨before, after, piece, htext, hcolon, hpiece, hne, rfl, rfl⟩

/-! ### All declarations -/

/-- The hierarchy that the declarations make. -/
def hierarchyOf (texts : List String) : ClassHierarchy :=
  ⟨texts.filterMap readDeclaration⟩

/-- A declaration with no colon ends the reading, the first of them if there are several. -/
theorem readHierarchy_eq (texts : List String) (c : ClassHierarchy) :
    readHierarchy texts c =
      match texts.find? fun text => ':' ∉ text.toList with
      | some text => .error text
      | none => .ok ⟨c.declarations ++ texts.filterMap readDeclaration⟩ := by
  induction texts generalizing c with
  | nil => simp [readHierarchy]
  | cons text texts ih =>
    by_cases htext : ':' ∈ text.toList
    · obtain ⟨d, hd⟩ := exists_readDeclaration htext
      rw [readHierarchy, hd, List.find?_cons_of_neg (by simpa using htext),
        List.filterMap_cons_some hd]
      simp only [ih, ClassHierarchy.declare, List.append_assoc, List.singleton_append]
    · rw [readHierarchy, readDeclaration_eq_none_iff.2 htext,
        List.find?_cons_of_pos (by simpa using htext)]

theorem readHierarchy_eq_hierarchyOf (h : ∀ text ∈ texts, ':' ∈ text.toList) :
    readHierarchy texts .empty = .ok (hierarchyOf texts) := by
  have hnone : texts.find? (fun text => ':' ∉ text.toList) = none := by
    simpa [List.find?_eq_none] using h
  rw [readHierarchy_eq, hnone]
  rfl

theorem exists_readHierarchy_eq_error (htext : text ∈ texts) (h : ':' ∉ text.toList) :
    ∃ bad, readHierarchy texts .empty = .error bad := by
  have hsome : (texts.find? fun text => ':' ∉ text.toList).isSome := by
    simpa [List.find?_isSome] using ⟨text, htext, h⟩
  obtain ⟨bad, hbad⟩ := Option.isSome_iff_exists.1 hsome
  exact ⟨bad, by rw [readHierarchy_eq, hbad]⟩

theorem mem_directSupertypes_hierarchyOf {name super : String} :
    super ∈ (hierarchyOf texts).directSupertypes name ↔ (name, super) ∈ declaredSteps texts := by
  simp only [hierarchyOf, ClassHierarchy.directSupertypes, ClassDeclaration.supertypesOf,
    List.mem_flatMap, List.mem_filter, List.mem_filterMap, decide_eq_true_eq, declaredSteps,
    Set.mem_ofPred_eq, declares_iff]
  constructor
  · rintro ⟨d, ⟨⟨text, htext, hd⟩, hname⟩, hsuper⟩
    exact ⟨text, htext, d, hd, hname, hsuper⟩
  · rintro ⟨text, htext, d, hd, hname, hsuper⟩
    exact ⟨d, ⟨⟨text, htext, hd⟩, hname⟩, hsuper⟩

end Command

end ArrayTypes
