import ArrayTypes.Registry.Chain

/-! Log events and the levels at which they are written. What a request logs is read
off the registries before and after it: the entries it added were created, and a
level of the resulting type that was there already was found in the memo. -/

namespace ArrayTypes.Log

inductive Level where
  | error | warn | info | debug | trace
  deriving DecidableEq, Repr

namespace Level

def all : List Level := [error, warn, info, debug, trace]

def name : Level → String
  | error => "ERROR"
  | warn => "WARN"
  | info => "INFO"
  | debug => "DEBUG"
  | trace => "TRACE"

/-- A greater rank is more detailed. -/
def rank : Level → Nat
  | error => 1
  | warn => 2
  | info => 3
  | debug => 4
  | trace => 5

end Level

inductive Event where
  | created (h : Handle) (name binaryName : String)
  | registered (h : Handle) (name : String)
  | recalled (component h : Handle)
  | ready (registry : Nat) (preloaded : Bool)
  | configured (declarations : List String) (preload : Bool)
  deriving DecidableEq, Repr

namespace Event

def level : Event → Level
  | created _ _ _ | registered _ _ | ready _ _ => .debug
  | recalled _ _ => .trace
  | configured _ _ => .info

def target : Event → String
  | created _ _ _ | registered _ _ => "typedesc::descriptors::store"
  | recalled _ _ | ready _ _ => "typedesc::registry"
  | configured _ _ => "typedesc"

def message : Event → String
  | created _ _ _ => "created array class descriptor"
  | registered _ _ => "registered reference descriptor"
  | recalled _ _ => "array class cache hit"
  | ready _ _ => "array class registry ready"
  | configured _ _ => "registry configured"

/-- The names and values that are written after the message. -/
def fields : Event → List (String × String)
  | created h name binaryName =>
    [("name", name), ("binary_name", binaryName), ("id", h.display)]
  | registered h name => [("name", name), ("id", h.display)]
  | recalled component h => [("component", component.display), ("id", h.display)]
  | ready registry preloaded =>
    [("store", toString registry), ("preloaded", toString preloaded)]
  | configured declarations preload =>
    [("classes", String.intercalate " " declarations), ("preload", toString preload)]

/-- The message counts as a field too. -/
def hasField (e : Event) (name : String) : Bool :=
  name = "message" || e.fields.any (·.1 = name)

def line (e : Event) : String :=
  e.level.name ++ " " ++ e.target ++ ": " ++ e.message
    ++ String.join (e.fields.map fun (name, value) => " " ++ name ++ "=" ++ value)

/-- The creation of a descriptor. Primitives are not created. -/
def ofCreation (h : Handle) : Descriptor → Option Event
  | .primitive _ => none
  | .array _ name binaryName => some (.created h name binaryName)
  | .reference name => some (.registered h name)

end Event

/-- What the request that returned `h` logged, when the registry had `known` descriptors
before it and is `r` after it. The innermost type comes first. -/
def ofRequest (known : Nat) (r : Registry) (h : Handle) : List Event :=
  match _ : r.get h with
  | .error _ => []
  | .ok d =>
    match _ : d.component? with
    | none => if h.slot < known then [] else (Event.ofCreation h d).toList
    | some component =>
      ofRequest known r component ++
        if h.slot < known then [.recalled component h] else (Event.ofCreation h d).toList
termination_by h.slot
decreasing_by exact Registry.slot_lt_of_get ‹_› ‹_›

/-- What the making of a registry logs. -/
def ofFresh (r : Registry) (config : Config) : List Event :=
  r.entries.toList.zipIdx.filterMap (fun (d, slot) => Event.ofCreation ⟨r.id, slot⟩ d)
    ++ [.ready r.id config.preload]

end ArrayTypes.Log
