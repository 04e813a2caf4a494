import ArrayTypes.Assignability.Judgement

/-! The checks made while a program runs: casts, stores into arrays, and the
lengths of new arrays. -/

namespace ArrayTypes

namespace Registry

/-- A cast of a value whose class is `source`. -/
def checkedCast (r : Registry) (H : Hierarchy) (source target : Handle) :
    Except Failure Handle := do
  if ← r.isAssignable H source target then return target
  else throw (.classCast (← r.binaryName source) (← r.binaryName target))

/-- The check for a store into an array, whose class may be narrower than the type through
which it is seen. -/
def checkStore (r : Registry) (H : Hierarchy) (array value : Handle) : Except Failure Unit := do
  match ← r.componentType array with
  | none => throw (.notAnArray (← r.name array))
  | some component =>
    if ← r.isAssignable H value component then return ()
    else throw (.arrayStore (← r.name value) (← r.name component))

end Registry

def checkLength (length : Int32) : Except Failure Nat :=
  if 0 ≤ length then .ok length.toNatClampNeg else .error (.negativeArraySize length)

end ArrayTypes
