import ArrayTypes.Proofs.Assignability.ClosedForm
import ArrayTypes.Proofs.Registry.Queries

/-! Casts and stores on types. Both checks put one question of assignability; what they
answer, and the names that they fail with, can be told from the types. -/

namespace ArrayTypes.Registry

variable {r : Registry} {H : Hierarchy}

theorem checkedCast_self (r : Registry) (H : Hierarchy) (h : Handle) :
    r.checkedCast H h h = .ok h := by
  have ha : r.isAssignable H h h = .ok true := bind_eq_ok_iff.2 ⟨_, r.judge_self h, rfl⟩
  rw [checkedCast, ha]
  rfl

/-- A cast that fails names both types in their binary forms. -/
theorem checkedCast_eq (hr : r.Consistent) {source target : Handle} {s t : TypeLiteral}
    (hs : r.Denotes source s) (ht : r.Denotes target t) :
    r.checkedCast H source target =
      if (s.judge t).answer H then .ok target
      else .error (.classCast s.binaryName t.binaryName) := by
  rw [checkedCast, isAssignable_eq hr hs ht, hs.binaryName_eq hr, ht.binaryName_eq hr]
  cases (s.judge t).answer H <;> rfl

/-- What is no array has no place for a value, whatever the value is. -/
theorem checkStore_scalar (hr : r.Consistent) {array : Handle} {e : Element}
    (ha : r.Denotes array ⟨e, 0⟩) (value : Handle) :
    r.checkStore H array value = .error (.notAnArray (TypeLiteral.display ⟨e, 0⟩)) := by
  rw [checkStore, ha.componentType_zero, ha.name_eq hr]
  rfl

/-- A store that fails names the type of the value and the one that it is seen through. -/
theorem checkStore_array (hr : r.Consistent) {array value : Handle} {e : Element} {n : Nat}
    {v : TypeLiteral} (ha : r.Denotes array ⟨e, n + 1⟩) (hv : r.Denotes value v) :
    r.checkStore H array value =
      if (v.judge ⟨e, n⟩).answer H then .ok ()
      else .error (.arrayStore v.display (TypeLiteral.display ⟨e, n⟩)) := by
  obtain ⟨c, hc, hct⟩ := ha.exists_componentType
  rw [checkStore, hc]
  change (r.isAssignable H value c >>= _) = _
  rw [isAssignable_eq hr hv hct, hv.name_eq hr, hct.name_eq hr]
  cases (v.judge ⟨e, n⟩).answer H <;> rfl

end ArrayTypes.Registry
