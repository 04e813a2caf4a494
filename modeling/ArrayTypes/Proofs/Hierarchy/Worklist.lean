import ArrayTypes.Proofs.Hierarchy.Reachability
import Mathlib.Logic.Function.Iterate

/-! The search of a declared hierarchy as a loop over a worklist. The loop marks the classes
that it has looked at and skips them when they come up again, but it may put a class on the list
any number of times. One turn does not change what can still be found from the list past the
marked classes, and uses up an entry of the list or all the steps out of one more class. So the
loop ends on every hierarchy, after no more turns than there are declared steps, and what it
finds is what a path leads to. Both depend on the declared steps alone. -/

namespace ArrayTypes

/-- The number of declared steps, repetitions included. -/
def ClassHierarchy.stepCount (c : ClassHierarchy) : Nat :=
  (c.declarations.flatMap (·.supertypes)).length

/-- The hierarchy without the declarations of the marked classes. -/
def ClassHierarchy.past (c : ClassHierarchy) (seen : List String) : ClassHierarchy :=
  ⟨c.declarations.filter (·.name ∉ seen)⟩

namespace Search

/-- Whether the class is found, or can still be found from the list past the marked classes. -/
def Finds (c : ClassHierarchy) (super : String) : Search → Prop
  | running pending seen => ∃ name ∈ pending, (c.past seen).Path name super
  | answered found => found = true

/-- A bound on the turns that are left. -/
def left (c : ClassHierarchy) : Search → Nat
  | running pending seen => (c.past seen).stepCount + pending.length + 1
  | answered _ => 0

end Search

variable {c : ClassHierarchy} {super : String}

/-! ### Marked classes -/

namespace ClassHierarchy

theorem past_nil (c : ClassHierarchy) : c.past [] = c := by
  have hall : c.declarations.filter (·.name ∉ ([] : List String)) = c.declarations :=
    List.filter_eq_self.2 (by simp)
  rw [past, hall]

theorem without_past (c : ClassHierarchy) (seen : List String) (name : String) :
    (c.past seen).without name = c.past (name :: seen) := by
  simp [past, without, ClassDeclaration.without, List.filter_filter]

theorem directSupertypes_past {seen : List String} {name : String} (h : name ∉ seen) :
    (c.past seen).directSupertypes name = c.directSupertypes name := by
  simp only [directSupertypes, past, ClassDeclaration.supertypesOf, List.filter_filter]
  congr 1
  refine List.filter_congr fun d _ => ?_
  by_cases hd : d.name = name <;> simp [hd, h]

/-- No step leads out of a marked class. -/
theorem not_path_past {seen : List String} {name : String} (h : name ∈ seen) :
    ¬(c.past seen).Path name super := by
  refine not_path_of_directSupertypes (ClassDeclaration.supertypesOf_eq_nil ?_)
  simpa [past] using fun d _ hd hname => hd (hname ▸ h)

/-- The steps of a hierarchy are those out of one class and those out of the others. -/
theorem stepCount_eq (c : ClassHierarchy) (name : String) :
    c.stepCount = (c.without name).stepCount + (c.directSupertypes name).length := by
  obtain ⟨declarations⟩ := c
  induction declarations with
  | nil => rfl
  | cons d declarations ih =>
    simp only [stepCount, without, ClassDeclaration.without, directSupertypes,
      ClassDeclaration.supertypesOf] at ih ⊢
    by_cases hd : d.name = name <;> simp [hd, ih] <;> omega

end ClassHierarchy

open ClassHierarchy

namespace Search

/-! ### One turn -/

theorem turn_of_mem {name : String} {pending seen : List String} (h : name ∈ seen) :
    turn c super (running (name :: pending) seen) = running pending seen := by
  simp [turn, h]

theorem turn_of_found {name : String} {pending seen : List String} (h : name ∉ seen)
    (hs : super ∈ c.directSupertypes name) :
    turn c super (running (name :: pending) seen) = answered true := by
  simp [turn, h, hs]

theorem turn_of_notMem {name : String} {pending seen : List String} (h : name ∉ seen)
    (hs : super ∉ c.directSupertypes name) :
    turn c super (running (name :: pending) seen) =
      running ((c.directSupertypes name).reverse ++ pending) (name :: seen) := by
  simp [turn, h, hs]

/-- A turn neither finds what no path leads to nor loses what one leads to. -/
theorem finds_turn (s : Search) : (s.turn c super).Finds c super ↔ s.Finds c super := by
  rcases s with ⟨_ | ⟨name, pending⟩, seen⟩ | found
  · simp [turn, Finds]
  · by_cases hseen : name ∈ seen
    · rw [turn_of_mem hseen]
      simp only [Finds, List.mem_cons, exists_eq_or_imp, not_path_past hseen, false_or]
    · have hone : (∃ n ∈ name :: pending, (c.past seen).Path n super) ↔
          super ∈ c.directSupertypes name ∨
            ∃ n ∈ c.directSupertypes name ++ pending, (c.past (name :: seen)).Path n super := by
        rw [← directSupertypes_past hseen, ← without_past]
        exact exists_path_cons_iff
      by_cases hs : super ∈ c.directSupertypes name
      · rw [turn_of_found hseen hs]
        simp only [Finds, hone, hs, true_or]
      · rw [turn_of_notMem hseen hs]
        simp only [Finds, hone, hs, false_or, List.mem_append, List.mem_reverse]
  · rfl

/-- A class that was skipped leaves the list, and one that was not takes its steps with it. -/
theorem left_turn_lt (pending seen : List String) :
    (turn c super (running pending seen)).left c < (running pending seen).left c := by
  cases pending with
  | nil => simp [turn, left]
  | cons name pending =>
    by_cases hseen : name ∈ seen
    · rw [turn_of_mem hseen]
      simp [left]
    · by_cases hs : super ∈ c.directSupertypes name
      · rw [turn_of_found hseen hs]
        simp [left]
      · have hsteps := stepCount_eq (c.past seen) name
        rw [without_past, directSupertypes_past hseen] at hsteps
        rw [turn_of_notMem hseen hs]
        simp only [left, List.length_append, List.length_reverse, List.length_cons, hsteps]
        omega

/-! ### All turns -/

theorem finds_iterate (n : Nat) (s : Search) :
    ((turn c super)^[n] s).Finds c super ↔ s.Finds c super := by
  induction n generalizing s with
  | zero => rfl
  | succ n ih => rw [Function.iterate_succ_apply, ih, finds_turn]

theorem iterate_answered (n : Nat) (found : Bool) :
    (turn c super)^[n] (answered found) = answered found :=
  Function.iterate_fixed rfl n

theorem exists_answered {n : Nat} {s : Search} (h : s.left c ≤ n) :
    ∃ found, (turn c super)^[n] s = answered found := by
  induction n generalizing s with
  | zero =>
    cases s with
    | running pending seen => simp [left] at h
    | answered found => exact ⟨found, rfl⟩
  | succ n ih =>
    cases s with
    | running pending seen =>
      have hlt : (turn c super (running pending seen)).left c < (running pending seen).left c :=
        left_turn_lt pending seen
      exact ih (by omega)
    | answered found => exact ⟨found, iterate_answered (n + 1) found⟩

theorem left_start (c : ClassHierarchy) (sub : String) :
    (start sub).left c = c.stepCount + 2 := by
  simp [start, left, past_nil]

theorem finds_start {sub : String} : (start sub).Finds c super ↔ c.Path sub super := by
  simp [start, Finds, past_nil]

/-- After as many turns as there are declared steps, and two, the loop has its answer. -/
theorem iterate_start {sub : String} {n : Nat} (h : c.stepCount + 2 ≤ n) :
    (turn c super)^[n] (start sub) =
      answered (ClassDeclaration.leadsTo super c.declarations [sub]) := by
  obtain ⟨found, hfound⟩ : ∃ found, (turn c super)^[n] (start sub) = answered found :=
    exists_answered (by rwa [left_start])
  have hpath : found = true ↔ c.Path sub super := by
    rw [← finds_start, ← finds_iterate n, hfound]
    rfl
  have hleads : ClassDeclaration.leadsTo super c.declarations [sub] = true ↔ c.Path sub super := by
    simp [leadsTo_eq_true_iff]
  rw [hfound, Bool.eq_iff_iff.2 (hpath.trans hleads.symm)]

end Search

namespace ClassHierarchy

/-! ### The declared steps alone -/

theorem Path.mono {c' : ClassHierarchy} {sub : String}
    (hc : ∀ name s, s ∈ c.directSupertypes name → s ∈ c'.directSupertypes name)
    (h : c.Path sub super) : c'.Path sub super := by
  induction h with
  | single hs => exact .single (hc _ _ hs)
  | cons hs _ ih => exact .cons (hc _ _ hs) ih

/-- The order of declarations, their grouping and repetitions make no difference. -/
theorem isSubclass_congr {c' : ClassHierarchy}
    (hc : ∀ name s, s ∈ c.directSupertypes name ↔ s ∈ c'.directSupertypes name) (sub super : String) :
    c.isSubclass sub super = c'.isSubclass sub super := by
  have hpath : c.Path sub super ↔ c'.Path sub super :=
    ⟨.mono fun name s => (hc name s).1, .mono fun name s => (hc name s).2⟩
  rw [Bool.eq_iff_iff, isSubclass_eq_true_iff, isSubclass_eq_true_iff, hpath]

/-- Hierarchies with the same declared steps answer alike. -/
theorem hierarchy_congr {c' : ClassHierarchy}
    (hc : ∀ name s, s ∈ c.directSupertypes name ↔ s ∈ c'.directSupertypes name) :
    c.hierarchy = c'.hierarchy := by
  have hsub : c.isSubclass = c'.isSubclass := by
    funext sub super
    exact isSubclass_congr hc sub super
  rw [hierarchy, hierarchy, hsub]

/-- Whatever has been declared, the loop comes to an answer, and with the two cases that need no
search it is the one that a path of declared steps gives. Hierarchies with the same declared
steps answer alike. -/
theorem subclassing_is_reachability (c : ClassHierarchy) (sub super : String) :
    (∃ found, (∀ n ≥ c.stepCount + 2, (Search.turn c super)^[n] (.start sub) = .answered found) ∧
      c.isSubclass sub super = (sub = super || super = objectName || found)) ∧
    (c.isSubclass sub super = true ↔ sub = super ∨ super = objectName ∨ c.Path sub super) ∧
    ∀ c' : ClassHierarchy,
      (∀ name s, s ∈ c.directSupertypes name ↔ s ∈ c'.directSupertypes name) →
        c.isSubclass sub super = c'.isSubclass sub super :=
  ⟨⟨_, fun _ => Search.iterate_start, rfl⟩, isSubclass_eq_true_iff,
    fun _ hc => isSubclass_congr hc sub super⟩

/-- A cycle with repeated steps, and the same steps in two declarations. -/
theorem regrouped_cycle_answers_alike :
    let c : ClassHierarchy := ((empty.declare "Cat" ["Pet", "Cat", "Pet"]).declare "Pet" []).declare
      "Pet" ["Cat"]
    let c' : ClassHierarchy := (empty.declare "Pet" ["Cat"]).declare "Cat" ["Cat", "Pet"]
    (∀ name s, s ∈ c.directSupertypes name ↔ s ∈ c'.directSupertypes name) ∧
      c.Path "Pet" "Pet" ∧ c.isSubclass "Pet" "Cat" = true ∧
      (Search.turn c "Dog")^[6] (.start "Pet") = .answered false ∧
      c.isSubclass "Pet" "Dog" = false ∧ c'.isSubclass "Pet" "Dog" = false := by
  intro c c'
  have hc : ∀ name s, s ∈ c.directSupertypes name ↔ s ∈ c'.directSupertypes name := by
    intro name s
    simp only [c, c', directSupertypes_declare, directSupertypes_empty]
    grind
  obtain ⟨⟨found, hturns, hanswer⟩, -, hsame⟩ := subclassing_is_reachability c "Pet" "Dog"
  have hrun : (Search.turn c "Dog")^[6] (.start "Pet") = .answered false := by decide
  have hfound : found = false := by
    have hanswered : Search.answered found = .answered false :=
      (hturns 6 (Nat.le_refl 6)).symm.trans hrun
    injection hanswered
  have hdog : c.isSubclass "Pet" "Dog" = false := by
    rw [hanswer, hfound]
    rfl
  have hcat : c.Path "Pet" "Cat" := .single (by decide)
  have hpet : c.Path "Cat" "Pet" := .single (by decide)
  have hfar : c.isSubclass "Pet" "Cat" = true :=
    (subclassing_is_reachability c "Pet" "Cat").2.1.2 (.inr (.inr hcat))
  exact ⟨hc, hcat.trans hpet, hfar, hrun, hdog, (hsame c' hc).symm.trans hdog⟩

end ClassHierarchy

end ArrayTypes
