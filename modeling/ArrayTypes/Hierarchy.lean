/-! The subtyping of reference classes, which lies outside the registry. A
hierarchy answers two questions; it may be declared class by class, in which
case it is read as a graph, or listed pair by pair. -/

namespace ArrayTypes

/-- What may be asked of a hierarchy. -/
inductive Question where
  | subclass (sub super : String)
  /-- Whether every array is assignable to the class. -/
  | arraySupertype (name : String)
  deriving DecidableEq, Repr

structure Hierarchy where
  isSubclass : String → String → Bool
  isArraySupertype : String → Bool

def Hierarchy.answer (H : Hierarchy) : Question → Bool
  | .subclass sub super => H.isSubclass sub super
  | .arraySupertype name => H.isArraySupertype name

/-- The class that every class is a subclass of. -/
def objectName : String := "java.lang.Object"

def arraySupertypes : List String :=
  [objectName, "java.lang.Cloneable", "java.io.Serializable"]

structure ClassDeclaration where
  name : String
  supertypes : List String
  deriving DecidableEq, Repr

/-- Declarations in the order they were made. A class may be declared again, which adds to
its supertypes, and nothing keeps a class from being its own supertype. -/
structure ClassHierarchy where
  declarations : List ClassDeclaration
  deriving DecidableEq, Repr

namespace ClassDeclaration

/-- The supertypes that the declarations state for a class. -/
def supertypesOf (declarations : List ClassDeclaration) (name : String) : List String :=
  (declarations.filter (·.name = name)).flatMap (·.supertypes)

/-- The declarations of the other classes. -/
def without (declarations : List ClassDeclaration) (name : String) : List ClassDeclaration :=
  declarations.filter (·.name ≠ name)

theorem length_without_lt {declarations : List ClassDeclaration} {name : String}
    (h : declarations.any (·.name = name)) :
    (without declarations name).length < declarations.length := by
  obtain ⟨d, hd, hn⟩ := List.any_eq_true.1 h
  exact List.length_filter_lt_length_iff_exists.2 ⟨d, hd, by simpa using hn⟩

/-- Whether a declared path leads from one of the pending classes to `super`. A class that
is reached takes its declarations with it, so no class is left twice. -/
def leadsTo (super : String) (declarations : List ClassDeclaration) : List String → Bool
  | [] => false
  | name :: pending =>
    if declarations.any (·.name = name) then
      (supertypesOf declarations name).contains super ||
        leadsTo super (without declarations name) (supertypesOf declarations name ++ pending)
    else leadsTo super declarations pending
termination_by pending => (declarations.length, pending.length)
decreasing_by
  · exact Prod.Lex.left _ _ (length_without_lt ‹_›)
  · exact Prod.Lex.right _ (by simp)

end ClassDeclaration

open ClassDeclaration

namespace ClassHierarchy

def empty : ClassHierarchy := ⟨[]⟩

def declare (c : ClassHierarchy) (name : String) (supertypes : List String) : ClassHierarchy :=
  ⟨c.declarations ++ [⟨name, supertypes⟩]⟩

def directSupertypes (c : ClassHierarchy) (name : String) : List String :=
  supertypesOf c.declarations name

def isSubclass (c : ClassHierarchy) (sub super : String) : Bool :=
  sub = super || super = objectName || leadsTo super c.declarations [sub]

def hierarchy (c : ClassHierarchy) : Hierarchy where
  isSubclass := c.isSubclass
  isArraySupertype := arraySupertypes.contains

/-- A path of one declared step or more. -/
inductive Path (c : ClassHierarchy) : String → String → Prop where
  | single {sub super : String} : super ∈ c.directSupertypes sub → Path c sub super
  | cons {sub middle super : String} :
    middle ∈ c.directSupertypes sub → Path c middle super → Path c sub super

@[simp] theorem directSupertypes_empty (name : String) : empty.directSupertypes name = [] := rfl

theorem directSupertypes_declare (c : ClassHierarchy) (name : String) (supertypes : List String)
    (other : String) :
    (c.declare name supertypes).directSupertypes other =
      c.directSupertypes other ++ if name = other then supertypes else [] := by
  by_cases h : name = other <;> simp [declare, directSupertypes, supertypesOf, h]

end ClassHierarchy

/-- The same search as a loop: the classes to be looked at, the one that was put there last
first, and the classes that are marked. -/
inductive Search where
  | running (pending seen : List String)
  | answered (found : Bool)
  deriving DecidableEq, Repr

namespace Search

def start (sub : String) : Search :=
  running [sub] []

/-- One turn of the loop, which leaves an answer as it is. -/
def turn (c : ClassHierarchy) (super : String) : Search → Search
  | running [] _ => answered false
  | running (name :: pending) seen =>
    if name ∈ seen then running pending seen
    else if super ∈ c.directSupertypes name then answered true
    else running ((c.directSupertypes name).reverse ++ pending) (name :: seen)
  | answered found => answered found

end Search

/-- Subclassing is membership in the list: it need be neither reflexive nor transitive. -/
def Hierarchy.ofPairs (pairs : List (String × String)) (arraySupertypes : List String) :
    Hierarchy where
  isSubclass sub super := pairs.contains (sub, super)
  isArraySupertype := arraySupertypes.contains

end ArrayTypes
