import ArrayTypes.Proofs.Assignability.ClosedForm
import ArrayTypes.Proofs.Hierarchy.Reachability

/-! When assignability is transitive. Equal types aside, an assignable pair is one of
classes under equally many levels, or an array against an array supertype with fewer
levels. Two such steps make a third just if the subclass relation chains and does not lead
from an array supertype to a class that is none. -/

namespace ArrayTypes

variable {H : Hierarchy}

/-! ### Assignability as a relation on types -/

/-- The pairs of types that the hierarchy makes assignable. -/
inductive Hierarchy.Admits (H : Hierarchy) : TypeLiteral → TypeLiteral → Prop
  | same (t : TypeLiteral) : Admits H t t
  | subclass {sub super : String} (n : Nat) : sub ≠ super → H.isSubclass sub super →
    Admits H ⟨.reference sub, n⟩ ⟨.reference super, n⟩
  | array {super : String} {m n : Nat} (e : Element) : n < m → H.isArraySupertype super →
    Admits H ⟨e, m⟩ ⟨.reference super, n⟩

theorem Hierarchy.Admits.answer_judge {s t : TypeLiteral} (h : H.Admits s t) :
    (s.judge t).answer H = true := by
  cases h with
  | same => rw [TypeLiteral.judge_self]; rfl
  | subclass n hne hsub => rw [TypeLiteral.judge_references hne]; exact hsub
  | array e hlt hsuper => rw [TypeLiteral.judge_of_gt hlt]; exact hsuper

theorem Hierarchy.admits_of_answer_judge {s t : TypeLiteral} (h : (s.judge t).answer H = true) :
    H.Admits s t := by
  by_cases hst : s = t
  · exact hst ▸ .same s
  obtain ⟨e, m⟩ := s
  obtain ⟨f, n⟩ := t
  cases f with
  | primitive kind =>
    rw [TypeLiteral.judge_to_primitive hst] at h
    cases h
  | reference super =>
    rcases Nat.lt_trichotomy m n with hlt | rfl | hgt
    · rw [TypeLiteral.judge_of_lt hlt] at h
      cases h
    · cases e with
      | primitive kind =>
        rw [TypeLiteral.judge_primitive hst (Nat.le_refl m)] at h
        cases h
      | reference sub =>
        have hne : sub ≠ super := by
          rintro rfl
          exact hst rfl
        rw [TypeLiteral.judge_references hne] at h
        exact .subclass m hne h
    · rw [TypeLiteral.judge_of_gt hgt] at h
      exact .array e hgt h

theorem Registry.isAssignable_eq_true_iff {r : Registry} (hr : r.Consistent) {a b : Handle}
    {s t : TypeLiteral} (ha : r.Denotes a s) (hb : r.Denotes b t) :
    r.isAssignable H a b = .ok true ↔ H.Admits s t := by
  rw [isAssignable_eq hr ha hb, Except.ok.injEq]
  exact ⟨Hierarchy.admits_of_answer_judge, Hierarchy.Admits.answer_judge⟩

/-! ### Two steps in a row -/

/-- Subclassing can be followed from class to class, and from an array supertype leads to
array supertypes alone. Nothing is said of a class and itself. -/
structure Hierarchy.Chains (H : Hierarchy) : Prop where
  subclass : ∀ a b c : String, a ≠ b → b ≠ c → a ≠ c →
    H.isSubclass a b → H.isSubclass b c → H.isSubclass a c
  arraySupertype : ∀ a b : String, a ≠ b →
    H.isArraySupertype a → H.isSubclass a b → H.isArraySupertype b

theorem Hierarchy.Chains.admits_trans (hH : H.Chains) {s t u : TypeLiteral} (hst : H.Admits s t)
    (htu : H.Admits t u) : H.Admits s u := by
  cases hst with
  | same => exact htu
  | @subclass sub middle n hne hsub =>
    cases htu with
    | same => exact .subclass n hne hsub
    | @subclass _ super _ hne' hsuper =>
      by_cases h : sub = super
      · exact h ▸ .same _
      · exact .subclass n h (hH.subclass sub middle super hne hne' h hsub hsuper)
    | array _ hlt hsuper => exact .array _ hlt hsuper
  | @array middle m n e hlt hmiddle =>
    cases htu with
    | same => exact .array e hlt hmiddle
    | @subclass _ super _ hne hsuper =>
      exact .array e hlt (hH.arraySupertype middle super hne hmiddle hsuper)
    | array _ hlt' hsuper => exact .array e (hlt'.trans hlt) hsuper

/-- Chains of three classes and of an array and two classes already show all that is needed. -/
theorem Hierarchy.chains_of_admits_trans
    (h : ∀ s t u : TypeLiteral, H.Admits s t → H.Admits t u → H.Admits s u) : H.Chains where
  subclass a b c hab hbc hac hsub hsuper := by
    have hadm : H.Admits ⟨.reference a, 0⟩ ⟨.reference c, 0⟩ :=
      h _ _ _ (.subclass 0 hab hsub) (.subclass 0 hbc hsuper)
    cases hadm with
    | same => exact absurd rfl hac
    | subclass _ _ hs => exact hs
    | array _ hlt _ => exact absurd hlt (Nat.lt_irrefl 0)
  arraySupertype a b hab ha hsub := by
    have hadm : H.Admits ⟨.primitive .int, 1⟩ ⟨.reference b, 0⟩ :=
      h _ _ _ (.array _ Nat.zero_lt_one ha) (.subclass 0 hab hsub)
    cases hadm with
    | array _ _ hb => exact hb

/-! ### All registries -/

/-- The handles of a registry are those it has a descriptor for. -/
def Registry.Owns (r : Registry) (h : Handle) : Prop :=
  ∃ d, r.get h = .ok d

/-- Assignability can be followed from handle to handle, whatever calls the registry has
answered. -/
def Hierarchy.AssignsTransitively (H : Hierarchy) : Prop :=
  ∀ r : Registry, r.Reachable → ∀ a b c : Handle, r.Owns a → r.Owns b → r.Owns c →
    r.isAssignable H a b = .ok true → r.isAssignable H b c = .ok true →
      r.isAssignable H a c = .ok true

/-- Any finite number of types have handles in one registry. -/
theorem Registry.exists_reachable_denotes (ts : List TypeLiteral) :
    ∃ r : Registry, r.Reachable ∧ ∀ t ∈ ts, ∃ h, r.Denotes h t := by
  induction ts with
  | nil => exact ⟨fresh 0 {}, .fresh 0 {}, by simp⟩
  | cons t ts ih =>
    obtain ⟨r, hr, hts⟩ := ih
    obtain ⟨h, r', hres, hh⟩ := exists_resolve hr.consistent t
    have hafter : r.after (r.perform (.resolve t)) = r' := by
      rw [perform, hres]
      rfl
    refine ⟨r', hafter ▸ hr.call (.resolve t), ?_⟩
    intro u hu
    rcases List.mem_cons.1 hu with rfl | hu
    · exact ⟨h, hh⟩
    · obtain ⟨g, hg⟩ := hts u hu
      exact ⟨g, hg.grows (grows_of_resolve hres)⟩

theorem Hierarchy.assignsTransitively_iff :
    H.AssignsTransitively ↔
      ∀ s t u : TypeLiteral, H.Admits s t → H.Admits t u → H.Admits s u := by
  constructor
  · intro h s t u hst htu
    obtain ⟨r, hr, hts⟩ := Registry.exists_reachable_denotes [s, t, u]
    obtain ⟨a, ha⟩ := hts s (by simp)
    obtain ⟨b, hb⟩ := hts t (by simp)
    obtain ⟨c, hc⟩ := hts u (by simp)
    rw [← Registry.isAssignable_eq_true_iff hr.consistent ha hc]
    exact h r hr a b c ha.exists_get hb.exists_get hc.exists_get
      ((Registry.isAssignable_eq_true_iff hr.consistent ha hb).2 hst)
      ((Registry.isAssignable_eq_true_iff hr.consistent hb hc).2 htu)
  · rintro h r hr a b c ⟨_, ha⟩ ⟨_, hb⟩ ⟨_, hc⟩ hab hbc
    obtain ⟨s, hs⟩ := hr.consistent.exists_denotes ha
    obtain ⟨t, ht⟩ := hr.consistent.exists_denotes hb
    obtain ⟨u, hu⟩ := hr.consistent.exists_denotes hc
    rw [Registry.isAssignable_eq_true_iff hr.consistent hs ht] at hab
    rw [Registry.isAssignable_eq_true_iff hr.consistent ht hu] at hbc
    exact (Registry.isAssignable_eq_true_iff hr.consistent hs hu).2 (h s t u hab hbc)

/-! ### Declared hierarchies -/

/-- The top class declares no supertype but itself, and the other array supertypes declare
none but array supertypes. -/
structure ClassHierarchy.KeepsArraySupertypes (classes : ClassHierarchy) : Prop where
  object : ∀ s ∈ classes.directSupertypes objectName, s = objectName
  cloneable : ∀ s ∈ classes.directSupertypes "java.lang.Cloneable", s ∈ arraySupertypes
  serializable : ∀ s ∈ classes.directSupertypes "java.io.Serializable", s ∈ arraySupertypes

namespace ClassHierarchy.KeepsArraySupertypes

variable {classes : ClassHierarchy} {sub super : String}

theorem mem_arraySupertypes_of_path (hc : classes.KeepsArraySupertypes)
    (h : classes.Path sub super) (hsub : sub ∈ arraySupertypes) : super ∈ arraySupertypes := by
  refine h.mem_of_closed ?_ hsub
  intro name hname s hs
  simp only [arraySupertypes, List.mem_cons, List.not_mem_nil, or_false] at hname
  rcases hname with rfl | rfl | rfl
  · rw [hc.object s hs]
    exact List.mem_cons_self
  · exact hc.cloneable s hs
  · exact hc.serializable s hs

theorem chains (hc : classes.KeepsArraySupertypes) : classes.hierarchy.Chains where
  subclass a b c hab hbc hac hsub hsuper := by
    simp only [hierarchy, isSubclass_eq_true_iff, hab, hbc, hac, false_or] at hsub hsuper ⊢
    rcases hsuper with rfl | hbc
    · exact .inl rfl
    · rcases hsub with rfl | hab
      · exact .inl (hbc.eq_of_declares_self hc.object)
      · exact .inr (hab.trans hbc)
  arraySupertype a b hab ha hsub := by
    simp only [hierarchy, isSubclass_eq_true_iff, hab, false_or, List.contains_iff_mem]
      at ha hsub ⊢
    rcases hsub with rfl | hsub
    · exact List.mem_cons_self
    · exact hc.mem_arraySupertypes_of_path hsub ha

end ClassHierarchy.KeepsArraySupertypes

/-- Assignability is transitive just if the hierarchy chains, which declared hierarchies do
unless something is declared above the array supertypes. -/
theorem Hierarchy.transitive_iff_chains (H : Hierarchy) :
    (H.AssignsTransitively ↔ H.Chains) ∧
      ∀ classes : ClassHierarchy, classes.KeepsArraySupertypes → classes.hierarchy.Chains := by
  refine ⟨?_, fun classes hc => hc.chains⟩
  rw [assignsTransitively_iff]
  exact ⟨chains_of_admits_trans, fun hH _ _ _ => hH.admits_trans⟩

/-- Declared cycles do no harm, nor does a top class declared above itself. -/
theorem Hierarchy.cyclic_classes_assign_transitively :
    let classes : ClassHierarchy := ⟨[⟨"Dog", ["Animal", "Dog"]⟩, ⟨"Animal", ["Dog"]⟩,
      ⟨objectName, [objectName]⟩,
      ⟨"java.lang.Cloneable", ["java.io.Serializable", objectName]⟩,
      ⟨"java.io.Serializable", ["java.lang.Cloneable"]⟩, ⟨"Animal", ["java.lang.Cloneable"]⟩]⟩
    classes.KeepsArraySupertypes ∧ classes.hierarchy.AssignsTransitively := by
  intro classes
  have hc : classes.KeepsArraySupertypes := ⟨by decide, by decide, by decide⟩
  obtain ⟨hiff, hdeclared⟩ := transitive_iff_chains classes.hierarchy
  exact ⟨hc, hiff.2 (hdeclared classes hc)⟩

end ArrayTypes
