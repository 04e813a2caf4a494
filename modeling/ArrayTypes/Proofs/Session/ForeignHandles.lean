import ArrayTypes.Proofs.Registry.Foreign
import ArrayTypes.Proofs.Session.Run

/-! Handles that are passed from registry to registry. In any session, a call fails for want
of a handle just if it looks up one of another registry, and then nothing in the session has
changed, as after any other failure. -/

namespace ArrayTypes.Session

variable {s : Session} {q : Nat} {r : Registry} {call : Call Handle Hierarchy}

/-- The session passes on what its registry says. -/
theorem perform_eq_failure_iff (hq : s.registries[q]? = some r) {f : Failure} :
    (s.perform q call).1 = .failure f ↔ r.perform call = .error f := by
  cases hp : r.perform call with
  | error f' => simp [perform_of_eq_error hq hp]
  | ok p => simp [perform_of_eq_ok hq hp]

theorem perform_of_unchanged (hq : s.registries[q]? = some r) {a : Answer}
    (ha : r.perform call = .ok (a, r)) : s.perform q call = (.answer a, s) := by
  obtain ⟨hlt, hget⟩ := List.getElem?_eq_some_iff.1 hq
  rw [perform_of_eq_ok hq ha, ← hget, List.set_getElem_self]

theorem meets_of_holds (hs : s.Sound) (hq : s.registries[q]? = some r)
    (hh : ∀ h ∈ call.handles, s.Holds h) : r.Meets call := by
  intro h hm ho
  obtain ⟨r', d, hr', hd⟩ := hh h hm
  rw [ho, (hs.registry hq).1] at hr'
  cases hq.symm.trans hr'
  exact ⟨d, hd⟩

/-- The session with what a call leaves in its registry when every request that it is made of
takes effect at once, whatever becomes of the later ones. -/
def left (s : Session) (q : Nat) (call : Call Handle Hierarchy) : Session :=
  match s.registries[q]? with
  | none => s
  | some r => { s with registries := s.registries.set q (r.left call) }

/-- A call leaves what its requests leave that take effect at once. -/
theorem perform_eq_left (hq : s.registries[q]? = some r) (hr : r.Consistent) :
    (s.perform q call).2 = s.left q call := by
  obtain ⟨hlt, hget⟩ := List.getElem?_eq_some_iff.1 hq
  simp only [left, hq]
  rw [Registry.left_eq_after hr]
  cases hp : r.perform call with
  | error f =>
    rw [perform_of_eq_error hq hp, Registry.after, ← hget, List.set_getElem_self]
  | ok p => rw [perform_of_eq_ok hq hp, Registry.after]

/-- A call on a registry of any session, with handles of any of its registries, fails for
want of a handle just if some handle that it looks up is another registry's; the failure
names the first of these and the registry of the call. Nothing of what a call did is ever taken
back, and yet, whatever it fails with, no request that it was made of has left a trace in the
session. What is no array is told so whatever the value to be stored is, and no level at all
returns any handle as it is. -/
theorem fails_at_first_foreign_handle (configs : List Config)
    (hierarchies : List SessionHierarchy) (steps : List Step) {q : Nat} {r : Registry}
    {call : Call Handle Hierarchy}
    (hq : ((start configs hierarchies).run steps).registries[q]? = some r)
    (hh : ∀ h ∈ call.handles, ((start configs hierarchies).run steps).Holds h) :
    let s := (start configs hierarchies).run steps
    (∀ h registry, (s.perform q call).1 = .failure (.foreignHandle h registry) ↔
      r.firstForeign? call = some h ∧ registry = q) ∧
    (s.perform q call).2 = s.left q call ∧
    (∀ f, (s.perform q call).1 = .failure f → s.left q call = s) ∧
    (∀ array value H e, call = .checkStore array value H → r.denotation array = .ok ⟨e, 0⟩ →
      s.perform q call = (.failure (.notAnArray (TypeLiteral.display ⟨e, 0⟩)), s)) ∧
    (∀ h, call = .withDimensions h 0 → s.perform q call = (.answer (.handle h), s)) := by
  intro s
  have hs : s.Sound := sound_run (sound_start configs hierarchies) steps
  have hr : r.Consistent := hs.consistent hq
  have hm : r.Meets call := meets_of_holds hs hq hh
  have hleft : (s.perform q call).2 = s.left q call := perform_eq_left hq hr
  refine ⟨?_, hleft, ?_, ?_, ?_⟩
  · intro h registry
    rw [perform_eq_failure_iff hq, Registry.perform_eq_foreignHandle_iff hr hm,
      (hs.registry hq).1]
  · intro f hf
    rw [← hleft, perform_of_eq_error hq ((perform_eq_failure_iff hq).1 hf)]
  · rintro array value H e rfl ha
    refine perform_of_eq_error hq ?_
    rw [Registry.perform, Registry.checkStore_scalar hr (Registry.denotation_eq_ok_iff.1 ha)]
    rfl
  · rintro h rfl
    exact perform_of_unchanged hq rfl

/-- In the second of two registries, a store of a foreign value into an array fails at the
value, a cast of it at the source, and a store into a class at the class. -/
theorem foreign_cat_is_not_stored :
    let steps : List Step := [.call 0 (.reference "Cat") none,
      .call 1 (.reference "Dog") (some "dog"), .call 1 (.arrayOf "dog") none]
    let s := (start [{}, { preload := false }] []).run steps
    let H := ClassHierarchy.empty.hierarchy
    s.Holds ⟨0, 16⟩ ∧ s.Holds ⟨1, 8⟩ ∧ s.Holds ⟨1, 9⟩ ∧
    (s.perform 1 (.checkStore ⟨1, 9⟩ ⟨0, 16⟩ H)).1 = .failure (.foreignHandle ⟨0, 16⟩ 1) ∧
    (s.perform 1 (.checkedCast ⟨0, 16⟩ ⟨1, 8⟩ H)).1 = .failure (.foreignHandle ⟨0, 16⟩ 1) ∧
    s.left 1 (.checkStore ⟨1, 9⟩ ⟨0, 16⟩ H) = s ∧ s.left 1 (.checkedCast ⟨0, 16⟩ ⟨1, 8⟩ H) = s ∧
    s.perform 1 (.checkStore ⟨1, 8⟩ ⟨0, 16⟩ H) = (.failure (.notAnArray "Dog"), s) := by
  intro steps s H
  have hcat : s.Holds ⟨0, 16⟩ := ⟨_, _, rfl, rfl⟩
  have hdog : s.Holds ⟨1, 8⟩ := ⟨_, _, rfl, rfl⟩
  have harray : s.Holds ⟨1, 9⟩ := ⟨_, _, rfl, rfl⟩
  have hq : s.registries[1]? = some _ := rfl
  have fails (call : Call Handle Hierarchy) (hh : ∀ h ∈ call.handles, s.Holds h) :=
    fails_at_first_foreign_handle [{}, { preload := false }] [] steps hq hh
  have both {g h : Handle} (hg : s.Holds g) (hh : s.Holds h) : ∀ x ∈ [g, h], s.Holds x := by
    simp [hg, hh]
  obtain ⟨hstore, -, hstored, -⟩ :=
    fails (.checkStore ⟨1, 9⟩ ⟨0, 16⟩ H) (both harray hcat)
  obtain ⟨hcast, -, hcasted, -⟩ :=
    fails (.checkedCast ⟨0, 16⟩ ⟨1, 8⟩ H) (both hcat hdog)
  obtain ⟨-, -, -, hclass, -⟩ :=
    fails (.checkStore ⟨1, 8⟩ ⟨0, 16⟩ H) (both hdog hcat)
  have hs := (hstore ⟨0, 16⟩ 1).2 ⟨rfl, rfl⟩
  have hc := (hcast ⟨0, 16⟩ 1).2 ⟨rfl, rfl⟩
  have hd := hclass _ _ _ (.reference "Dog") rfl
    (Registry.denotation_eq_ok_iff.2 (.reference rfl))
  exact ⟨hcat, hdog, harray, hs, hc, hstored _ hs, hcasted _ hc, hd⟩

end ArrayTypes.Session
