import ArrayTypes.Hierarchy

/-! The search of a declared hierarchy against the paths of declared steps. A class that
the search leaves behind takes its declarations with it. Nothing is lost: a path that comes
back to the class can be entered after its last visit. -/

namespace ArrayTypes

open ClassDeclaration

variable {c : ClassHierarchy} {sub super : String}

/-! ### The declarations of the other classes -/

theorem ClassDeclaration.supertypesOf_without (declarations : List ClassDeclaration)
    (name other : String) :
    supertypesOf (without declarations name) other =
      if other = name then [] else supertypesOf declarations other := by
  induction declarations with
  | nil => split <;> rfl
  | cons d declarations ih =>
    simp only [supertypesOf, without] at ih ⊢
    by_cases hd : d.name = other <;> by_cases ho : other = name <;> simp_all

theorem ClassDeclaration.supertypesOf_eq_nil {declarations : List ClassDeclaration} {name : String}
    (h : ¬declarations.any (·.name = name)) : supertypesOf declarations name = [] := by
  have hf : declarations.filter (·.name = name) = [] := by
    simpa [List.filter_eq_nil_iff] using h
  rw [supertypesOf, hf, List.flatMap_nil]

namespace ClassHierarchy

/-- The hierarchy without the declarations of one class. -/
def without (c : ClassHierarchy) (name : String) : ClassHierarchy :=
  ⟨ClassDeclaration.without c.declarations name⟩

theorem mem_directSupertypes_without {name : String} :
    super ∈ (c.without name).directSupertypes sub ↔
      sub ≠ name ∧ super ∈ c.directSupertypes sub := by
  rw [directSupertypes, without, supertypesOf_without]
  by_cases h : sub = name <;> simp [h, directSupertypes]

namespace Path

theorem trans {middle : String} (h : c.Path sub middle) (h' : c.Path middle super) :
    c.Path sub super := by
  induction h with
  | single hs => exact .cons hs h'
  | cons hs _ ih => exact .cons hs (ih h')

/-- Classes whose supertypes are all among them are not left by a path. -/
theorem mem_of_closed {S : List String} (hS : ∀ name ∈ S, ∀ s ∈ c.directSupertypes name, s ∈ S)
    (h : c.Path sub super) (hsub : sub ∈ S) : super ∈ S := by
  induction h with
  | single hs => exact hS _ hsub _ hs
  | cons hs _ ih => exact ih (hS _ hsub _ hs)

theorem of_without {name : String} (h : (c.without name).Path sub super) : c.Path sub super := by
  induction h with
  | single hs => exact .single (mem_directSupertypes_without.1 hs).2
  | cons hs _ ih => exact .cons (mem_directSupertypes_without.1 hs).2 ih

/-- A path either keeps clear of a class or has a last step out of it. -/
theorem without_or (h : c.Path sub super) (name : String) :
    (c.without name).Path sub super ∨ super ∈ c.directSupertypes name ∨
      ∃ next ∈ c.directSupertypes name, (c.without name).Path next super := by
  induction h with
  | @single sub super hs =>
    by_cases hn : sub = name
    · exact .inr (.inl (hn ▸ hs))
    · exact .inl (.single (mem_directSupertypes_without.2 ⟨hn, hs⟩))
  | @cons sub middle super hs _ ih =>
    rcases ih with ih | ih
    · by_cases hn : sub = name
      · exact .inr (.inr ⟨middle, hn ▸ hs, ih⟩)
      · exact .inl (.cons (mem_directSupertypes_without.2 ⟨hn, hs⟩) ih)
    · exact .inr ih

theorem exists_mem_directSupertypes (h : c.Path sub super) : ∃ s, s ∈ c.directSupertypes sub := by
  cases h with
  | single hs | cons hs => exact ⟨_, hs⟩

/-- A class that declares no supertype but itself is left by no path. -/
theorem eq_of_declares_self (h : c.Path sub super)
    (hsub : ∀ s ∈ c.directSupertypes sub, s = sub) : super = sub := by
  have hclosed : ∀ name ∈ [sub], ∀ s ∈ c.directSupertypes name, s ∈ [sub] := by
    simpa using hsub
  simpa using h.mem_of_closed hclosed (List.mem_singleton_self sub)

end Path

theorem not_path_of_directSupertypes (hsub : c.directSupertypes sub = []) : ¬c.Path sub super := by
  intro h
  obtain ⟨s, hs⟩ := h.exists_mem_directSupertypes
  rw [hsub] at hs
  cases hs

/-- One class of the pending ones is looked at, in terms of paths. -/
theorem exists_path_cons_iff {name : String} {pending : List String} :
    (∃ n ∈ name :: pending, c.Path n super) ↔
      super ∈ c.directSupertypes name ∨
        ∃ n ∈ c.directSupertypes name ++ pending, (c.without name).Path n super := by
  constructor
  · rintro ⟨n, hn, hp⟩
    rcases hp.without_or name with h | h | ⟨next, hs, h⟩
    · rcases List.mem_cons.1 hn with rfl | hn
      · -- no declaration of the class is left to start with
        obtain ⟨s, hs⟩ := h.exists_mem_directSupertypes
        exact absurd rfl (mem_directSupertypes_without.1 hs).1
      · exact .inr ⟨n, List.mem_append_right _ hn, h⟩
    · exact .inl h
    · exact .inr ⟨next, List.mem_append_left _ hs, h⟩
  · rintro (h | ⟨n, hn, hp⟩)
    · exact ⟨name, List.mem_cons_self, .single h⟩
    · rcases List.mem_append.1 hn with hn | hn
      · exact ⟨name, List.mem_cons_self, .cons hn hp.of_without⟩
      · exact ⟨n, List.mem_cons_of_mem _ hn, hp.of_without⟩

/-- The search finds the class just if a path leads to it from one of the pending ones. -/
theorem leadsTo_eq_true_iff {declarations : List ClassDeclaration} {pending : List String} :
    leadsTo super declarations pending = true ↔ ∃ n ∈ pending, Path ⟨declarations⟩ n super := by
  fun_induction leadsTo super declarations pending with
  | case1 => simp
  | case2 declarations name pending _ ih =>
    rw [Bool.or_eq_true, List.contains_iff_mem, ih]
    exact exists_path_cons_iff.symm
  | case3 declarations name pending hd ih =>
    have hnone : ¬Path ⟨declarations⟩ name super :=
      not_path_of_directSupertypes (supertypesOf_eq_nil hd)
    simp only [ih, List.mem_cons, exists_eq_or_imp, hnone, false_or]

theorem isSubclass_eq_true_iff :
    c.isSubclass sub super = true ↔ sub = super ∨ super = objectName ∨ c.Path sub super := by
  simp only [isSubclass, Bool.or_eq_true, decide_eq_true_eq, leadsTo_eq_true_iff, or_assoc,
    List.mem_singleton, exists_eq_left]

end ClassHierarchy

end ArrayTypes
