import ArrayTypes.Proofs.Assignability.Checks

/-! Calls that are given handles of other registries. Such a call fails at the first foreign
handle that it looks up, before it has created anything, and a call that looks up none finds
all that it looks for. A foreign handle that is not looked up does no harm. -/

namespace ArrayTypes.Registry

variable {r r' : Registry} {h g : Handle} {call : Call Handle Hierarchy}

/-! ### The handles that a call looks up -/

/-- The handle, if it is one of another registry. -/
def foreign? (r : Registry) (h : Handle) : Option Handle :=
  if h.owner = r.id then none else some h

/-- The first handle of another registry that a call looks up. Equal handles are compared
as they are, no level at all asks for no look-up, and a store into what is no array does not
come to the value. -/
def firstForeign? (r : Registry) : Call Handle Hierarchy → Option Handle
  | .arrayOf h | .withDimensions h (_ + 1) | .inspect _ h | .isNamed h _ => r.foreign? h
  | .assignable source target _ | .checkedCast source target _ =>
    if source = target then none else (r.foreign? source).or (r.foreign? target)
  | .checkStore array value _ =>
    (r.foreign? array).or (if (r.find? array).any (·.isArray) then r.foreign? value else none)
  | _ => none

/-- The handles of the call come from earlier calls: those of the registry itself have
descriptors. -/
def Meets (r : Registry) (call : Call Handle Hierarchy) : Prop :=
  ∀ h ∈ call.handles, h.owner = r.id → ∃ d, r.get h = .ok d

theorem foreign?_eq_some_iff : r.foreign? h = some g ↔ h.owner ≠ r.id ∧ h = g := by
  unfold foreign?
  split <;> simp_all

theorem foreign?_eq_none_iff : r.foreign? h = none ↔ h.owner = r.id := by
  unfold foreign?
  split <;> simp_all

theorem get_of_foreign (hf : h.owner ≠ r.id) : r.get h = .error (.foreignHandle h r.id) := by
  rw [get, find?, if_neg hf]

/-! ### Calls that fail -/

section Missing

variable {f : Failure}

theorem withDimensions_of_get_eq_error (hr : r.Consistent) (hf : r.get h = .error f) (n : Nat) :
    r.withDimensions h (n + 1) = .error f := by
  rw [withDimensions, arrayOf_eq_error_of_get hr hf]

theorem unwrap_of_get_eq_error (hf : r.get h = .error f) : r.unwrap h = .error f := by
  rw [unwrap]
  split
  next e he => cases hf.symm.trans he; rfl
  next d hd => cases hf.symm.trans hd

theorem inspect_of_get_eq_error (hf : r.get h = .error f) (query : Query) :
    r.inspect h query = .error f := by
  have hu : r.unwrap h = .error f := unwrap_of_get_eq_error hf
  cases query <;>
    simp only [inspect, name, binaryName, componentType, elementType, dimensions, defaultValue,
      slotDefault, hf, hu, Functor.map, Except.map, bind, Except.bind]

theorem judge_of_get_source_eq_error (hne : h ≠ g) (hf : r.get h = .error f) :
    r.judge h g = .error f := by
  rw [judge, if_neg hne]
  split <;> grind

theorem judge_of_get_target_eq_error (hne : h ≠ g) {d : Descriptor} (hd : r.get h = .ok d)
    (hf : r.get g = .error f) : r.judge h g = .error f := by
  rw [judge, if_neg hne]
  split <;> grind

/-- Different handles are judged only if both are found. -/
theorem exists_get_of_judge (hne : h ≠ g) {j : Judgement} (hj : r.judge h g = .ok j) :
    ∃ d e, r.get h = .ok d ∧ r.get g = .ok e := by
  cases hd : r.get h with
  | error f => cases (judge_of_get_source_eq_error hne hd).symm.trans hj
  | ok d =>
    cases he : r.get g with
    | error f => cases (judge_of_get_target_eq_error hne hd he).symm.trans hj
    | ok e => exact ⟨d, e, rfl, rfl⟩

theorem checkStore_of_get_eq_error (hf : r.get h = .error f) (H : Hierarchy) (value : Handle) :
    r.checkStore H h value = .error f := by
  rw [checkStore, componentType, hf]
  rfl

end Missing

/-- Of two different handles the source is looked up first. -/
theorem judge_of_foreign (hne : h ≠ g) (hm : h.owner = r.id → ∃ d, r.get h = .ok d) {x : Handle}
    (hf : (r.foreign? h).or (r.foreign? g) = some x) :
    r.judge h g = .error (.foreignHandle x r.id) := by
  rcases Option.or_eq_some_iff.1 hf with hf | ⟨ho, hf⟩
  · obtain ⟨ho, rfl⟩ := foreign?_eq_some_iff.1 hf
    exact judge_of_get_source_eq_error hne (get_of_foreign ho)
  · obtain ⟨ho', rfl⟩ := foreign?_eq_some_iff.1 hf
    obtain ⟨d, hd⟩ := hm (foreign?_eq_none_iff.1 ho)
    exact judge_of_get_target_eq_error hne hd (get_of_foreign ho')

/-- The value of a store is looked up once the array has been found to be one. -/
theorem checkStore_of_foreign (hr : r.Consistent) {array value x : Handle} {H : Hierarchy}
    (hf : r.firstForeign? (.checkStore array value H) = some x) :
    r.checkStore H array value = .error (.foreignHandle x r.id) := by
  rcases Option.or_eq_some_iff.1 hf with hf | ⟨-, hf⟩
  · obtain ⟨ho, rfl⟩ := foreign?_eq_some_iff.1 hf
    exact checkStore_of_get_eq_error (get_of_foreign ho) H value
  · obtain ⟨harray, hf⟩ := Option.ite_none_right_eq_some.1 hf
    obtain ⟨ho, rfl⟩ := foreign?_eq_some_iff.1 hf
    obtain ⟨d, hd, hda⟩ := (Option.any_eq_true _ _).1 harray
    obtain ⟨c, name, bin, rfl⟩ : ∃ c name bin, d = .array c name bin := by
      cases d with
      | array c name bin => exact ⟨c, name, bin, rfl⟩
      | primitive | reference => cases hda
    have hget : r.get array = .ok (.array c name bin) := find?_eq_some_iff.1 hd
    obtain ⟨e, he, -⟩ := hr.eq_arrayOf hget rfl
    have hne : value ≠ c := by
      rintro rfl
      exact ho (get_eq_ok_iff.1 he).1
    rw [checkStore, componentType, hget]
    change (r.isAssignable H value c >>= _) = _
    rw [isAssignable, judge_of_get_source_eq_error hne (get_of_foreign ho)]
    rfl

theorem perform_of_firstForeign? (hr : r.Consistent) (hm : r.Meets call) {x : Handle}
    (hf : r.firstForeign? call = some x) : r.perform call = .error (.foreignHandle x r.id) := by
  cases call with
  | arrayOf c =>
    obtain ⟨ho, rfl⟩ := foreign?_eq_some_iff.1 hf
    rw [perform, arrayOf_eq_error_of_get hr (get_of_foreign ho)]
    rfl
  | withDimensions e n =>
    cases n with
    | zero => cases hf
    | succ n =>
      obtain ⟨ho, rfl⟩ := foreign?_eq_some_iff.1 hf
      rw [perform, withDimensions_of_get_eq_error hr (get_of_foreign ho)]
      rfl
  | inspect query h =>
    obtain ⟨ho, rfl⟩ := foreign?_eq_some_iff.1 hf
    rw [perform, inspect_of_get_eq_error (get_of_foreign ho)]
    rfl
  | isNamed h text =>
    obtain ⟨ho, rfl⟩ := foreign?_eq_some_iff.1 hf
    rw [perform, name, get_of_foreign ho]
    rfl
  | assignable source target H =>
    obtain ⟨hne, hf⟩ := Option.ite_none_left_eq_some.1 hf
    rw [perform, judge_of_foreign hne (hm source (by simp [Call.handles])) hf]
    rfl
  | checkedCast source target H =>
    obtain ⟨hne, hf⟩ := Option.ite_none_left_eq_some.1 hf
    rw [perform, checkedCast, isAssignable,
      judge_of_foreign hne (hm source (by simp [Call.handles])) hf]
    rfl
  | checkStore array value H =>
    rw [perform, checkStore_of_foreign hr hf]
    rfl
  | primitive | primitiveArray | reference | resolve | forName | count | resolveTogether
  | raceTogether => cases hf

/-! ### Calls that find what they look for -/

/-- No handle was looked up in vain. -/
def Found {α : Type} (x : Except Failure α) : Prop :=
  ∀ h registry, x ≠ .error (.foreignHandle h registry)

theorem found_ok {α : Type} (a : α) : Found (.ok a) := by
  rintro h registry ⟨⟩

theorem Found.map {α β : Type} {x : Except Failure α} (hx : Found x) (f : α → β) :
    Found (f <$> x) := by
  intro h registry he
  cases x with
  | ok a => cases he
  | error e =>
    cases he
    exact hx h registry rfl

theorem Meets.exists_denotes (hr : r.Consistent) (hm : r.Meets call) (hh : h ∈ call.handles)
    (ho : h.owner = r.id) : ∃ t, r.Denotes h t := by
  obtain ⟨d, hd⟩ := hm h hh ho
  exact hr.exists_denotes hd

theorem Meets.exists_denotes_pair (hr : r.Consistent) (hm : r.Meets call)
    (hc : call.handles = [h, g]) (hf : (r.foreign? h).or (r.foreign? g) = none) :
    ∃ t u, r.Denotes h t ∧ r.Denotes g u := by
  obtain ⟨hh, hg⟩ := Option.or_eq_none_iff.1 hf
  obtain ⟨t, ht⟩ := hm.exists_denotes hr (by simp [hc]) (foreign?_eq_none_iff.1 hh)
  obtain ⟨u, hu⟩ := hm.exists_denotes hr (by simp [hc]) (foreign?_eq_none_iff.1 hg)
  exact ⟨t, u, ht, hu⟩

theorem found_perform (hr : r.Consistent) (hm : r.Meets call) (hf : r.firstForeign? call = none) :
    Found (r.perform call) := by
  cases call with
  | primitive | reference | count | resolveTogether | raceTogether => exact found_ok _
  | primitiveArray kind =>
    obtain ⟨h, r', ha⟩ := arrayOf_eq_ok_of_get (hr.get_primitive kind)
    rw [perform, primitiveArray, ha]
    exact found_ok _
  | arrayOf c =>
    obtain ⟨d, hd⟩ := hm c (by simp [Call.handles]) (foreign?_eq_none_iff.1 hf)
    obtain ⟨h, r', ha⟩ := arrayOf_eq_ok_of_get hd
    rw [perform, ha]
    exact found_ok _
  | withDimensions e n =>
    cases n with
    | zero => exact found_ok _
    | succ n =>
      obtain ⟨t, ht⟩ := hm.exists_denotes hr (by simp [Call.handles]) (foreign?_eq_none_iff.1 hf)
      obtain ⟨h, r', hw, -⟩ := exists_withDimensions hr ht (n + 1)
      rw [perform, hw]
      exact found_ok _
  | resolve t =>
    obtain ⟨h, r', ht, -⟩ := exists_resolve hr t
    rw [perform, ht]
    exact found_ok _
  | forName text =>
    rw [perform, forName]
    cases TypeLiteral.parse text with
    | error cause => rintro h registry ⟨⟩
    | ok t =>
      obtain ⟨h, r', ht, -⟩ := exists_resolve hr t
      simp only [ht]
      exact found_ok _
  | inspect query h =>
    obtain ⟨t, ht⟩ := hm.exists_denotes hr (by simp [Call.handles]) (foreign?_eq_none_iff.1 hf)
    obtain ⟨a, ha⟩ := ht.exists_inspect hr query
    rw [perform, ha]
    exact found_ok _
  | isNamed h text =>
    obtain ⟨t, ht⟩ := hm.exists_denotes hr (by simp [Call.handles]) (foreign?_eq_none_iff.1 hf)
    rw [perform, ht.name_eq hr]
    exact found_ok _
  | assignable source target H =>
    rw [perform]
    by_cases hst : source = target
    · rw [hst, judge_self]
      exact found_ok _
    · rw [firstForeign?, if_neg hst] at hf
      obtain ⟨s, t, hs, ht⟩ := hm.exists_denotes_pair hr rfl hf
      rw [judge_eq hr hs ht]
      exact found_ok _
  | checkedCast source target H =>
    refine Found.map ?_ _
    by_cases hst : source = target
    · rw [hst, checkedCast_self]
      exact found_ok _
    · rw [firstForeign?, if_neg hst] at hf
      obtain ⟨s, t, hs, ht⟩ := hm.exists_denotes_pair hr rfl hf
      rw [checkedCast_eq hr hs ht]
      split
      · exact found_ok _
      · rintro h registry ⟨⟩
  | checkStore array value H =>
    refine Found.map ?_ _
    obtain ⟨ho, hf⟩ := Option.or_eq_none_iff.1 hf
    obtain ⟨⟨e, n⟩, ha⟩ := hm.exists_denotes hr (by simp [Call.handles]) (foreign?_eq_none_iff.1 ho)
    cases n with
    | zero =>
      rw [checkStore_scalar hr ha]
      rintro h registry ⟨⟩
    | succ n =>
      obtain ⟨d, hd⟩ := ha.exists_get
      have harray : d.isArray = true := by simp [ha.isArray_eq hd]
      rw [find?_eq_some_iff.2 hd, Option.any_some, if_pos harray] at hf
      obtain ⟨v, hv⟩ := hm.exists_denotes hr (by simp [Call.handles]) (foreign?_eq_none_iff.1 hf)
      rw [checkStore_array hr ha hv]
      split
      · exact found_ok _
      · rintro h registry ⟨⟩

/-- A call fails for want of a handle just if it looks up a foreign one, and names the
first of these and itself. -/
theorem perform_eq_foreignHandle_iff (hr : r.Consistent) (hm : r.Meets call) {registry : Nat} :
    r.perform call = .error (.foreignHandle h registry) ↔
      r.firstForeign? call = some h ∧ registry = r.id := by
  constructor
  · intro he
    cases hf : r.firstForeign? call with
    | none => exact absurd he (found_perform hr hm hf h registry)
    | some x =>
      rw [perform_of_firstForeign? hr hm hf] at he
      cases he
      exact ⟨rfl, rfl⟩
  · rintro ⟨hf, rfl⟩
    exact perform_of_firstForeign? hr hm hf

/-! ### What a failing call leaves behind -/

/-- What is there after taking the array class `n` times, when the levels made before a
failing one stay. -/
def levelsLeft (r : Registry) (e : Handle) : Nat → Registry
  | 0 => r
  | n + 1 =>
    match r.arrayOf e with
    | .ok (h, r') => r'.levelsLeft h n
    | .error _ => r

def typeLeft (r : Registry) (t : TypeLiteral) : Registry :=
  let (bottom, r') := r.element t.element
  r'.levelsLeft bottom t.dimensions

/-- What a call leaves behind when every request that it is made of takes effect at once,
whatever becomes of the later ones. -/
def left (r : Registry) : Call Handle Hierarchy → Registry
  | .reference name => (r.reference name).2
  | .primitiveArray kind => r.levelsLeft (r.primitive kind) 1
  | .arrayOf c => r.levelsLeft c 1
  | .withDimensions e n => r.levelsLeft e n
  | .resolve t => r.typeLeft t
  | .forName text =>
    match TypeLiteral.parse text with
    | .ok t => r.typeLeft t
    | .error _ => r
  | .resolveTogether threads texts => (r.resolveTogether threads texts).2
  | .raceTogether threads rounds name => (r.raceTogether threads rounds name).2
  | _ => r

theorem levelsLeft_of_eq_ok {e : Handle} {n : Nat} (hw : r.withDimensions e n = .ok (h, r')) :
    r.levelsLeft e n = r' := by
  induction n generalizing r e with
  | zero => cases hw; rfl
  | succ n ih =>
    simp only [withDimensions] at hw
    split at hw
    next c r₁ ha =>
      rw [levelsLeft, ha]
      exact ih hw
    · cases hw

/-- If a level fails it is the first one, since the handle that a level makes is there for
the next. -/
theorem levelsLeft_eq_after (hr : r.Consistent) (e : Handle) (n : Nat) :
    r.levelsLeft e n = r.after (r.withDimensions e n) := by
  cases n with
  | zero => rfl
  | succ n =>
    cases hd : r.get e with
    | error f =>
      rw [levelsLeft, withDimensions_of_get_eq_error hr hd, arrayOf_eq_error_of_get hr hd]
      rfl
    | ok d =>
      obtain ⟨t, ht⟩ := hr.exists_denotes hd
      obtain ⟨h, r', hw, -⟩ := exists_withDimensions hr ht (n + 1)
      rw [levelsLeft_of_eq_ok hw, hw]
      rfl

theorem levelsLeft_one (r : Registry) (e : Handle) :
    r.levelsLeft e 1 = r.after (r.arrayOf e) := by
  rw [levelsLeft]
  cases r.arrayOf e <;> rfl

theorem typeLeft_eq_after (hr : r.Consistent) (t : TypeLiteral) :
    r.typeLeft t = r.after (r.resolve t) := by
  obtain ⟨h, r', ht, -⟩ := exists_resolve hr t
  rw [ht]
  exact levelsLeft_of_eq_ok ht

theorem after_map_made (r : Registry) (x : Except Failure (Handle × Registry)) :
    r.after (made <$> x) = r.after x := by
  cases x <;> rfl

theorem after_map_pair {α : Type} (r : Registry) (x : Except Failure α) (f : α → Answer) :
    r.after ((fun a => (f a, r)) <$> x) = r := by
  cases x <;> rfl

/-- No call leaves a part of its work behind. -/
theorem left_eq_after (hr : r.Consistent) (call : Call Handle Hierarchy) :
    r.left call = r.after (r.perform call) := by
  cases call with
  | primitive | reference | count | resolveTogether | raceTogether => rfl
  | primitiveArray kind => rw [left, perform, after_map_made, levelsLeft_one]; rfl
  | arrayOf c => rw [left, perform, after_map_made, levelsLeft_one]
  | withDimensions e n => rw [left, perform, after_map_made, levelsLeft_eq_after hr]
  | resolve t => rw [left, perform, after_map_made, typeLeft_eq_after hr]
  | forName text =>
    rw [left, perform, after_map_made, forName]
    cases TypeLiteral.parse text with
    | ok t => exact typeLeft_eq_after hr t
    | error cause => rfl
  | inspect | isNamed | assignable | checkedCast | checkStore =>
    exact (after_map_pair r _ _).symm

/-! ### Calls that go on with a foreign handle -/

/-- An array class is made of a handle of the registry itself. -/
theorem owner_of_arrayOf (hr : r.Consistent) {c : Handle} (ha : r.arrayOf c = .ok (h, r')) :
    c.owner = r.id := by
  by_contra ho
  rw [arrayOf_eq_error_of_get hr (get_of_foreign ho)] at ha
  cases ha

theorem owner_of_withDimensions (hr : r.Consistent) {e : Handle} {n : Nat}
    (hw : r.withDimensions e (n + 1) = .ok (h, r')) : e.owner = r.id := by
  by_contra ho
  rw [withDimensions_of_get_eq_error hr (get_of_foreign ho)] at hw
  cases hw

/-- A call that is given a foreign handle creates nothing, even if it has an answer. -/
theorem eq_of_perform_of_foreign (hr : r.Consistent) {a : Answer}
    (ha : r.perform call = .ok (a, r')) (hh : h ∈ call.handles) (ho : h.owner ≠ r.id) :
    r' = r := by
  cases call with
  | arrayOf c =>
    obtain ⟨g, hg, -⟩ := map_made_eq_ok_iff.1 ha
    rw [List.mem_singleton.1 hh] at ho
    exact absurd (owner_of_arrayOf hr hg) ho
  | withDimensions e n =>
    obtain ⟨g, hg, -⟩ := map_made_eq_ok_iff.1 ha
    cases n with
    | zero => cases hg; rfl
    | succ n =>
      rw [List.mem_singleton.1 hh] at ho
      exact absurd (owner_of_withDimensions hr hg) ho
  | inspect | isNamed | assignable | checkedCast | checkStore =>
    obtain ⟨x, -, hx⟩ := map_eq_ok_iff.1 ha
    cases hx
    rfl
  | primitive | primitiveArray | reference | resolve | forName | count | resolveTogether
  | raceTogether => cases hh

end ArrayTypes.Registry
