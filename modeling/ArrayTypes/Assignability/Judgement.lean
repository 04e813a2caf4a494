import ArrayTypes.Registry.Chain
import ArrayTypes.Hierarchy

/-! Whether a value of one type may be used where another is expected. Arrays of
primitives stand for themselves alone; arrays of classes or of arrays follow
their components. -/

namespace ArrayTypes

/-- What assignability comes down to: a known answer, or one question to the hierarchy. -/
inductive Judgement where
  | known (answer : Bool)
  | asks (question : Question)
  deriving DecidableEq, Repr

namespace Judgement

def answer (H : Hierarchy) : Judgement → Bool
  | known b => b
  | asks q => H.answer q

/-- The questions put to the hierarchy. -/
def questions : Judgement → List Question
  | known _ => []
  | asks q => [q]

end Judgement

namespace Registry

/-- Equal handles are never looked up. Otherwise the source is, then the target, and of two
arrays their components. -/
def judge (r : Registry) (source target : Handle) : Except Failure Judgement :=
  if source = target then .ok (.known true)
  else
    match _ : r.get source, r.get target with
    | .error e, _ => .error e
    | .ok _, .error e => .error e
    | .ok (.array c _ _), .ok (.array d _ _) =>
      match r.get c, r.get d with
      | .error e, _ => .error e
      | .ok _, .error e => .error e
      | .ok below, .ok belowTarget =>
        if below.isReferenceTyped && belowTarget.isReferenceTyped then r.judge c d
        else .ok (.known (c = d))
    | .ok (.reference sub), .ok (.reference super) => .ok (.asks (.subclass sub super))
    | .ok (.array _ _ _), .ok (.reference name) => .ok (.asks (.arraySupertype name))
    | .ok _, .ok _ => .ok (.known false)
termination_by source.slot
decreasing_by exact slot_lt_of_get ‹_› rfl

def isAssignable (r : Registry) (H : Hierarchy) (source target : Handle) : Except Failure Bool := do
  return (← r.judge source target).answer H

end Registry

end ArrayTypes
