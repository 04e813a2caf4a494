import ArrayTypes.Proofs.Hierarchy.Reachability
import Mathlib.Data.Fintype.EquivFin

/-! The order laws of declared hierarchies. Subclassing is reflexive, every class is a
subclass of the top class, and two steps chain unless they meet in the top class. What is
declared above the top class is reached from there alone and not from the classes below, so
the relation is transitive just if nothing else is declared above it. -/

namespace ArrayTypes.ClassHierarchy

variable {c : ClassHierarchy} {a b d : String}

theorem isSubclass_refl (c : ClassHierarchy) (a : String) : c.isSubclass a a = true :=
  isSubclass_eq_true_iff.2 (.inl rfl)

theorem isSubclass_object (c : ClassHierarchy) (a : String) : c.isSubclass a objectName = true :=
  isSubclass_eq_true_iff.2 (.inr (.inl rfl))

/-- A class below the top class is left by declared steps alone. -/
theorem isSubclass_trans_of_ne (hb : b ≠ objectName) (hab : c.isSubclass a b = true)
    (hbd : c.isSubclass b d = true) : c.isSubclass a d = true := by
  rw [isSubclass_eq_true_iff] at hab hbd ⊢
  rcases hab with rfl | rfl | hab
  · exact hbd
  · exact absurd rfl hb
  · rcases hbd with rfl | rfl | hbd
    · exact .inr (.inr hab)
    · exact .inr (.inl rfl)
    · exact .inr (.inr (hab.trans hbd))

/-- Some class is declared nowhere and differs from `name`. -/
theorem exists_undeclared (c : ClassHierarchy) (name : String) :
    ∃ a, a ≠ name ∧ c.directSupertypes a = [] := by
  obtain ⟨a, ha⟩ :=
    Infinite.exists_notMem_finset (name :: c.declarations.map (·.name)).toFinset
  simp only [List.mem_toFinset, List.mem_cons, List.mem_map, not_or, not_exists, not_and] at ha
  obtain ⟨hne, hnone⟩ := ha
  refine ⟨a, hne, ClassDeclaration.supertypesOf_eq_nil ?_⟩
  simpa using hnone

/-- Any class shows that what is declared above the top class is out of reach below it. -/
theorem eq_object_of_trans
    (h : ∀ a b d, c.isSubclass a b = true → c.isSubclass b d = true → c.isSubclass a d = true)
    {s : String} (hs : s ∈ c.directSupertypes objectName) : s = objectName := by
  obtain ⟨a, hne, ha⟩ := c.exists_undeclared s
  have hobject : c.isSubclass objectName s = true :=
    isSubclass_eq_true_iff.2 (.inr (.inr (.single hs)))
  have has : c.isSubclass a s = true := h a objectName s (c.isSubclass_object a) hobject
  rcases isSubclass_eq_true_iff.1 has with rfl | hs | hpath
  · exact absurd rfl hne
  · exact hs
  · exact absurd hpath (not_path_of_directSupertypes ha)

/-- A top class with nothing else above it is left by no step. -/
theorem isSubclass_trans_of_object (hc : ∀ s ∈ c.directSupertypes objectName, s = objectName)
    (hab : c.isSubclass a b = true) (hbd : c.isSubclass b d = true) :
    c.isSubclass a d = true := by
  by_cases hb : b = objectName
  · subst hb
    have hd : d = objectName := by
      rcases isSubclass_eq_true_iff.1 hbd with h | h | hpath
      · exact h.symm
      · exact h
      · exact hpath.eq_of_declares_self hc
    exact hd ▸ c.isSubclass_object a
  · exact isSubclass_trans_of_ne hb hab hbd

/-- The laws of any declarations: of the three that an order with a top class asks for, two
hold as they stand, and the third but for chains that meet in the top class. It holds in
full just if nothing is declared above that class. -/
theorem order_laws (c : ClassHierarchy) :
    (∀ a, c.isSubclass a a = true) ∧
    (∀ a, c.isSubclass a objectName = true) ∧
    (∀ a b d, b ≠ objectName → c.isSubclass a b = true → c.isSubclass b d = true →
      c.isSubclass a d = true) ∧
    ((∀ a b d, c.isSubclass a b = true → c.isSubclass b d = true → c.isSubclass a d = true) ↔
      ∀ s ∈ c.directSupertypes objectName, s = objectName) := by
  refine ⟨c.isSubclass_refl, c.isSubclass_object, fun _ _ _ => isSubclass_trans_of_ne, ?_, ?_⟩
  · exact fun h _ => eq_object_of_trans h
  · exact fun hc _ _ _ => isSubclass_trans_of_object hc

/-- A class declared above the top class is a supertype of the top class and not of a class
below. -/
theorem not_transitive_above_object :
    let c := empty.declare objectName ["Top"]
    c.isSubclass "Dog" objectName = true ∧ c.isSubclass objectName "Top" = true ∧
      c.isSubclass "Dog" "Top" = false := by
  intro c
  have htop : "Top" ∈ c.directSupertypes objectName := by
    rw [directSupertypes_declare, if_pos rfl]
    exact List.mem_append_right _ (List.mem_singleton_self _)
  have hdog : c.directSupertypes "Dog" = [] := by
    rw [directSupertypes_declare, directSupertypes_empty, if_neg (by decide), List.append_nil]
  refine ⟨c.isSubclass_object _, isSubclass_eq_true_iff.2 (.inr (.inr (.single htop))), ?_⟩
  rw [← Bool.not_eq_true, isSubclass_eq_true_iff]
  rintro (h | h | hpath)
  · exact absurd h (by decide)
  · exact absurd h (by decide)
  · exact not_path_of_directSupertypes hdog hpath

end ArrayTypes.ClassHierarchy
