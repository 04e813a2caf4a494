import ArrayTypes.Registry.Resolve
import ArrayTypes.Value

/-! What a handle stands for: the chain of components below it, the type at its
bottom, and the values of its slots. -/

namespace ArrayTypes.Registry

/-- The end of the component chain and the number of array levels above it. -/
def unwrap (r : Registry) (h : Handle) : Except Failure (Handle × Nat) :=
  match _ : r.get h with
  | .error e => .error e
  | .ok d =>
    match _ : d.component? with
    | none => .ok (h, 0)
    | some component =>
      match r.unwrap component with
      | .ok (bottom, levels) => .ok (bottom, levels + 1)
      | .error e => .error e
termination_by h.slot
decreasing_by exact slot_lt_of_get ‹_› ‹_›

def elementType (r : Registry) (h : Handle) : Except Failure Handle := do
  let (bottom, _) ← r.unwrap h
  return bottom

def dimensions (r : Registry) (h : Handle) : Except Failure Nat := do
  let (_, levels) ← r.unwrap h
  return levels

/-- The type that a handle denotes. -/
def denotation (r : Registry) (h : Handle) : Except Failure TypeLiteral := do
  let (bottom, levels) ← r.unwrap h
  match ← r.get bottom with
  | .primitive kind => return ⟨.primitive kind, levels⟩
  | d => return ⟨.reference d.name, levels⟩

def componentType (r : Registry) (h : Handle) : Except Failure (Option Handle) := do
  return (← r.get h).component?

def name (r : Registry) (h : Handle) : Except Failure String := do
  return (← r.get h).name

def binaryName (r : Registry) (h : Handle) : Except Failure String := do
  return (← r.get h).binaryName

/-- The zero of a primitive, and null for anything else. -/
def scalarDefault : Descriptor → Value
  | .primitive kind => .zero kind
  | _ => .null

/-- The default of the scalar at the bottom of the chain. -/
def defaultValue (r : Registry) (h : Handle) : Except Failure Value := do
  return scalarDefault (← r.get (← r.elementType h))

/-- What a slot of a new array holds; nothing if the handle is not an array's. -/
def slotDefault (r : Registry) (h : Handle) : Except Failure (Option Value) := do
  match ← r.componentType h with
  | none => return none
  | some component => return some (scalarDefault (← r.get component))

end ArrayTypes.Registry
