import ArrayTypes.Call

/-! Sessions: several registries and hierarchies, and variables that hold handles.
Registries are numbered in the order they are made, and a handle may be passed to
a registry that does not own it. -/

namespace ArrayTypes

/-- A hierarchy that a session uses, of which it may change what is declared. -/
inductive SessionHierarchy where
  | declared (classes : ClassHierarchy)
  /-- Pairs of a class and a supertype; the array supertypes are the usual ones if none are
  listed. -/
  | listed (pairs : List (String × String)) (arraySupertypes : Option (List String))
  /-- A hierarchy of any other kind, which answers as it likes. -/
  | given (H : Hierarchy)

namespace SessionHierarchy

def hierarchy : SessionHierarchy → Hierarchy
  | declared classes => classes.hierarchy
  | listed pairs supertypes => .ofPairs pairs (supertypes.getD arraySupertypes)
  | given H => H

/-- Whether a question put to the hierarchy is reported: declared hierarchies report none,
given ones all, and array supertypes are reported where they are listed. -/
def reports : SessionHierarchy → Question → Bool
  | declared _, _ => false
  | listed _ _, .subclass _ _ => true
  | listed _ supertypes, .arraySupertype _ => supertypes.isSome
  | given _, _ => true

end SessionHierarchy

inductive Step where
  | newRegistry (config : Config)
  | newHierarchy (h : SessionHierarchy)
  | copyHierarchy (hierarchy : Nat)
  | declare (hierarchy : Nat) (name : String) (supertypes : List String)
  | supertypes (hierarchy : Nat) (name : String)
  | ask (hierarchy : Nat) (question : Question)
  | sameHandle (a b : String)
  /-- A call on a registry; the handle it returns may be kept in a variable. -/
  | call (registry : Nat) (call : Call String Nat) (keep : Option String)

/-- What a step is answered with. -/
inductive Reply where
  | answer (a : Answer)
  | newRegistry (index : Nat)
  | newHierarchy (index : Nat)
  | failure (f : Failure)
  /-- The step names something that the session does not have. -/
  | undefined
  deriving DecidableEq, Repr

structure Session where
  registries : List Registry
  hierarchies : List SessionHierarchy
  bindings : List (String × Handle)

namespace Session

def start (configs : List Config) (hierarchies : List SessionHierarchy) : Session where
  registries := configs.mapIdx Registry.fresh
  hierarchies
  bindings := []

/-- The descriptor counts of the registries. -/
def counts (s : Session) : List Nat :=
  s.registries.map Registry.count

/-- A call on the `i`-th registry, with its handles and hierarchies at hand. -/
def perform (s : Session) (i : Nat) (call : Call Handle Hierarchy) : Reply × Session :=
  match s.registries[i]? with
  | none => (.undefined, s)
  | some r =>
    match r.perform call with
    | .ok (a, r') => (.answer a, { s with registries := s.registries.set i r' })
    | .error f => (.failure f, s)

def handleOf? (s : Session) (name : String) : Option Handle :=
  s.bindings.lookup name

/-- The handle that an answer puts into a variable. -/
def kept : Answer → Option Handle
  | .handle h => some h
  | .component h => h
  | _ => none

/-- A later value hides an earlier one of the same variable. -/
def keep (s : Session) (name : Option String) : Reply → Session
  | .answer a =>
    match name, kept a with
    | some name, some h => { s with bindings := (name, h) :: s.bindings }
    | _, _ => s
  | _ => s

/-- A reply with the questions that the hierarchy in use reports. -/
def report (hierarchy : Option SessionHierarchy) : Reply → Reply
  | .answer (.assignable b questions) =>
    .answer (.assignable b (questions.filter fun q => hierarchy.any (·.reports q)))
  | reply => reply

def step (s : Session) : Step → Reply × Session
  | .newRegistry config =>
    let index := s.registries.length
    (.newRegistry index, { s with registries := s.registries ++ [.fresh index config] })
  | .newHierarchy h =>
    (.newHierarchy s.hierarchies.length, { s with hierarchies := s.hierarchies ++ [h] })
  | .copyHierarchy i =>
    match s.hierarchies[i]? with
    | some h => (.newHierarchy s.hierarchies.length, { s with hierarchies := s.hierarchies ++ [h] })
    | none => (.undefined, s)
  | .declare i name supertypes =>
    match s.hierarchies[i]? with
    | some (.declared classes) =>
      (.answer .nothing,
        { s with hierarchies := s.hierarchies.set i (.declared (classes.declare name supertypes)) })
    | _ => (.undefined, s)
  | .supertypes i name =>
    match s.hierarchies[i]? with
    | some (.declared classes) => (.answer (.texts (classes.directSupertypes name)), s)
    | _ => (.undefined, s)
  | .ask i question =>
    match s.hierarchies[i]? with
    | some h => (.answer (.flag (h.hierarchy.answer question)), s)
    | none => (.undefined, s)
  | .sameHandle a b =>
    match s.handleOf? a, s.handleOf? b with
    | some a, some b => (.answer (.flag (a = b)), s)
    | _, _ => (.undefined, s)
  | .call i call name =>
    match call.traverse s.handleOf? (s.hierarchies[·]?) with
    | none => (.undefined, s)
    | some known =>
      let (reply, s') := s.perform i (known.map SessionHierarchy.hierarchy)
      (report known.hierarchy? reply, s'.keep name reply)

/-- The replies to the steps, each with the descriptor counts after it. -/
def transcript (s : Session) : List Step → List (Reply × List Nat)
  | [] => []
  | first :: rest =>
    let (reply, s') := s.step first
    (reply, s'.counts) :: s'.transcript rest

end Session

end ArrayTypes
